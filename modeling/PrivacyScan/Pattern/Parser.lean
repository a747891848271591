import PrivacyScan.Fault
import PrivacyScan.Pattern.Match

/-!
Reading patterns from their written form, the common dialect with named captures, look-around,
lazy and possessive repetition, inline flags and conditionals. A text that is no pattern is refused.
-/

namespace PrivacyScan.Pattern

open Text

structure Flags where
  ignoreCase : Bool := false
  multiline : Bool := false
  dotAll : Bool := false
  verbose : Bool := false
  ascii : Bool := false
  unicode : Bool := false
deriving Repr, DecidableEq

def Flags.folding (flags : Flags) : Folding :=
  if !flags.ignoreCase then .exact else if flags.ascii then .asciiCase else .fullCase

/-- What reading a pattern carries along: the rest of it, the captures opened so far with the widths
of those already closed, and the captures that conditionals ask for. -/
structure Reading where
  rest : List Char
  global : Flags
  captureCount : Nat := 0
  names : List (String × Nat) := []
  widths : List (Nat × (Nat × Option Nat)) := []
  /-- Inside a look-behind, the number of captures opened before it. -/
  behindFrom : Option Nat := none
  wanted : List Nat := []

/-- A part of a pattern, with what a repetition sign behind it has to know. -/
inductive Piece where
  | plain (regex : Regex)
  | place (regex : Regex)
  | repeated (regex : Regex)

def Piece.regex : Piece → Regex
  | .plain regex | .place regex | .repeated regex => regex

def sequenceOf : List Regex → Regex
  | [] => .empty
  | [regex] => regex
  | regex :: rest => .sequence regex (sequenceOf rest)

/-- Reading is refused, for the most part without a fault of its own. -/
abbrev Reader := StateT Reading (Except (Option Fault))

namespace Reader

def refuse {α : Type} (fault : Option Fault := none) : Reader α := fun _ => .error fault

def require (condition : Bool) : Reader Unit := if condition then pure () else refuse

def peek? : Reader (Option Char) := do return (← get).rest.head?

def next? : Reader (Option Char) := do
  match (← get).rest with
  | [] => return none
  | c :: rest =>
    modify ({ · with rest })
    return some c

def next : Reader Char := do
  match ← next? with
  | some c => return c
  | none => refuse

def accept (c : Char) : Reader Bool := do
  match (← get).rest with
  | [] => return false
  | d :: rest =>
    if c == d then
      modify ({ · with rest })
      return true
    else return false

def expect (c : Char) : Reader Unit := do require (← accept c)

def takeClass (belongs : Char → Bool) (count : Nat) : Reader (List Char) := do
  let rest := (← get).rest
  let taken := (rest.take count).takeWhile belongs
  modify ({ · with rest := rest.drop taken.length })
  return taken

/-- The characters up to `close`, which is passed over. None is refused. -/
def takeUntil (close : Char) : Reader String := do
  let rest := (← get).rest
  let taken := rest.takeWhile (· != close)
  require (!taken.isEmpty && taken.length < rest.length)
  modify ({ · with rest := rest.drop (taken.length + 1) })
  return String.ofList taken

end Reader

open Reader

def isHexDigit (c : Char) : Bool := (hexDigit? c).isSome

def isOctalDigit (c : Char) : Bool := decide ('0' ≤ c) && decide (c ≤ '7')

def octalNumber (digits : List Char) : Nat :=
  digits.foldl (fun number c => number * 8 + (c.toNat - '0'.toNat)) 0

def controlEscape? : Char → Option Nat
  | 'a' => some 7
  | 'b' => some 8
  | 'f' => some 12
  | 'n' => some 10
  | 'r' => some 13
  | 't' => some 9
  | 'v' => some 11
  | '\\' => some 92
  | _ => none

def classEscape? (ascii : Bool) : Char → Option SetItem
  | 'd' => some (.ofClass (.decimal ascii) false)
  | 'D' => some (.ofClass (.decimal ascii) true)
  | 's' => some (.ofClass (.space ascii) false)
  | 'S' => some (.ofClass (.space ascii) true)
  | 'w' => some (.ofClass (.word ascii) false)
  | 'W' => some (.ofClass (.word ascii) true)
  | _ => none

def fixedHex (count : Nat) : Reader Nat := do
  let digits ← takeClass isHexDigit count
  require (digits.length == count)
  let code := hexNumber digits
  require (code < 0x110000)
  return code

/-- The code point that an escape stands for by itself: that of a control character or of a
backslash, or a number in hexadecimal digits. The name of a character is no escape here. -/
def codeEscape? (c : Char) : Reader (Option Nat) := do
  match controlEscape? c with
  | some code => return some code
  | none =>
    match c with
    | 'x' => return some (← fixedHex 2)
    | 'u' => return some (← fixedHex 4)
    | 'U' => return some (← fixedHex 8)
    | _ => return none

def octalCode (digits : List Char) : Reader Nat := do
  let code := octalNumber digits
  require (code ≤ 0o377)
  return code

def setEscape (ascii : Bool) (c : Char) : Reader SetItem := do
  let single (code : Nat) := SetItem.range code code
  match classEscape? ascii c, ← codeEscape? c with
  | some item, _ => return item
  | none, some code => return single code
  | none, none =>
    if isOctalDigit c then return single (← octalCode (c :: (← takeClass isOctalDigit 2)))
    else if c.isAlphanum then refuse
    else return single c.toNat

def setItem (ascii : Bool) (c : Char) : Reader SetItem := do
  if c == '\\' then setEscape ascii (← next)
  else return .range c.toNat c.toNat

/-- The items of a set up to its closing bracket; a bracket that comes first is an item. -/
def setItems (ascii : Bool) : (fuel : Nat) → (items : List SetItem) → Reader (List SetItem)
  | 0, _ => refuse
  | fuel + 1, items => do
    let c ← next
    if c == ']' && !items.isEmpty then return items.reverse
    let item ← setItem ascii c
    if ← accept '-' then
      let d ← next
      if d == ']' then return (SetItem.range 45 45 :: item :: items).reverse
      match item, ← setItem ascii d with
      | .range first first', .range last last' =>
        require (first == first' && last == last' && first ≤ last)
        setItems ascii fuel (.range first last :: items)
      | _, _ => refuse
    else setItems ascii fuel (item :: items)

/-- A capture that is closed and may be referred to. -/
def checkReference (index : Nat) : Reader Unit := do
  let reading ← get
  require (reading.widths.any (·.1 == index))
  match reading.behindFrom with
  | some opened => require (index ≤ opened)
  | none => pure ()

def escapePiece (flags : Flags) (c : Char) : Reader Piece := do
  let literal (code : Nat) : Piece :=
    .plain (.one (CharSet.ofCode code flags.folding))
  match c with
  | 'A' => return .place (.anchor .textStart)
  | 'Z' => return .place (.anchor .textEnd)
  | 'b' => return .place (.anchor (.wordBoundary flags.ascii))
  | 'B' => return .place (.anchor (.notWordBoundary flags.ascii))
  | _ =>
    match classEscape? flags.ascii c, ← codeEscape? c with
    | some item, _ => return .plain (.one { items := [item], folding := flags.folding })
    | none, some code => return literal code
    | none, none =>
      if c == '0' then return literal (octalNumber (← takeClass isOctalDigit 2))
      else if c.isDigit then
        let second ← takeClass Char.isDigit 1
        let third ←
          if isOctalDigit c && !second.isEmpty && second.all isOctalDigit then
            takeClass isOctalDigit 1
          else pure []
        if !third.isEmpty then return literal (← octalCode (c :: second ++ third))
        let index := decimalNumber (c :: second)
        require (index ≤ (← get).captureCount)
        checkReference index
        return .plain (.reference index flags.folding)
      else if c.isAlpha then refuse
      else return literal c.toNat

def repetitionCount? (digits : List Char) : Reader (Option Nat) := do
  if digits.isEmpty then return none
  if 4300 < digits.length then refuse (some (.overlongDigits digits.length))
  let count := decimalNumber digits
  if 4294967295 ≤ count then refuse (some .excessiveRepetition)
  return some count

/-- The bounds that a repetition sign stands for, or `none` when a brace is only a brace. -/
def repetitionBounds? (sign : Char) : Reader (Option (Nat × Option Nat)) := do
  match sign with
  | '?' => return some (0, some 1)
  | '*' => return some (0, none)
  | '+' => return some (1, none)
  | _ =>
    let saved := (← get).rest
    if saved.head? == some '}' then return none
    let low ← takeClass Char.isDigit saved.length
    let ranged ← accept ','
    let high ← if ranged then takeClass Char.isDigit saved.length else pure low
    if ← accept '}' then
      let least := (← repetitionCount? low).getD 0
      let most ← repetitionCount? high
      require (most.all (least ≤ ·))
      return some (least, most)
    else
      modify ({ · with rest := saved })
      return none

def repeatPiece (piece : Piece) (least : Nat) (most : Option Nat) : Reader Piece := do
  match piece with
  | .plain regex =>
    let isLazy ← accept '?'
    let isPossessive ← if isLazy then pure false else accept '+'
    let mode :=
      if isLazy then Repetition.lazy
      else if isPossessive then Repetition.possessive
      else Repetition.greedy
    match regex with
    | .one set => return .repeated (.span set least most mode)
    | _ => return .repeated (.iterate regex least most mode)
  | .place _ | .repeated _ => refuse

def flagOf? : Char → Option (Flags → Flags)
  | 'i' => some ({ · with ignoreCase := true })
  | 'm' => some ({ · with multiline := true })
  | 's' => some ({ · with dotAll := true })
  | 'x' => some ({ · with verbose := true })
  | 'a' => some ({ · with ascii := true })
  | 'u' => some ({ · with unicode := true })
  | _ => none

/-- The flag letters from `c` on, up to one of `)`, `-` and `:`, which is returned. -/
def flagLetters (stops : List Char) : (fuel : Nat) → Char → List Char → Reader (List Char × Char)
  | 0, _, _ => refuse
  | fuel + 1, c, letters => do
    require ((flagOf? c).isSome || c == 't')
    require (!((c == 'a' && letters.contains 'u') || (c == 'u' && letters.contains 'a')))
    let d ← next
    if stops.contains d then return (c :: letters, d)
    flagLetters stops fuel d (c :: letters)

def Flags.add (flags : Flags) (letters : List Char) : Flags :=
  letters.foldl (fun flags letter =>
    match letter with
    | 'a' => { flags with ascii := true, unicode := false }
    | 'u' => { flags with ascii := false, unicode := true }
    | _ => ((flagOf? letter).map (· flags)).getD flags) flags

def Flags.remove (flags : Flags) (letters : List Char) : Flags :=
  { flags with
    ignoreCase := flags.ignoreCase && !letters.contains 'i'
    multiline := flags.multiline && !letters.contains 'm'
    dotAll := flags.dotAll && !letters.contains 's'
    verbose := flags.verbose && !letters.contains 'x' }

def isIdentifier (name : String) : Bool :=
  match name.toList with
  | [] => false
  | c :: rest => isIdentifierStart c && rest.all isIdentifierContinue

/-- Passes over everything up to `close` and it; whether there was one. -/
def skipThrough (close : Char) : Reader Bool := do
  let rest := (← get).rest
  let skipped := rest.takeWhile (· != close)
  modify ({ · with rest := rest.drop (skipped.length + 1) })
  return decide (skipped.length < rest.length)

inductive Opening where
  | capture (name : Option String)
  | noncapture (flags : Flags)
  | atomic
  | look (behind negated : Bool)
  | conditional (index : Nat)
  | reference (index : Nat)
  | comment
  | globalFlags (letters : List Char)

def groupName : Reader String := do
  let name ← takeUntil '>'
  require (isIdentifier name)
  return name

def conditionIndex : Reader Nat := do
  let name ← takeUntil ')'
  let reading ← get
  let index ←
    if isIdentifier name then
      match reading.names.lookup name with
      | some index => pure index
      | none => refuse
    else
      let digits := (trim name).toList
      let digits := match digits with
        | '+' :: rest => rest
        | _ => digits
      require (!digits.isEmpty && digits.all isDecimal)
      let index := digits.foldl (fun number c => number * 10 + (decimalValue? c).getD 0) 0
      require (index != 0 && index < 1073741823)
      modify fun reading => { reading with wanted := index :: reading.wanted }
      pure index
  match reading.behindFrom with
  | some _ => checkReference index
  | none => pure ()
  return index

def opening (flags : Flags) : Reader Opening := do
  if !(← accept '?') then return .capture none
  let c ← next
  match c with
  | 'P' =>
    if ← accept '<' then
      let name ← groupName
      require (((← get).names.lookup name).isNone)
      return .capture (some name)
    else if ← accept '=' then
      let name ← takeUntil ')'
      match (← get).names.lookup name with
      | some index =>
        checkReference index
        return .reference index
      | none => refuse
    else refuse
  | ':' => return .noncapture flags
  | '#' =>
    require (← skipThrough ')')
    return .comment
  | '=' => return .look false false
  | '!' => return .look false true
  | '<' =>
    match ← next with
    | '=' => return .look true false
    | '!' => return .look true true
    | _ => refuse
  | '(' => return .conditional (← conditionIndex)
  | '>' => return .atomic
  | _ =>
    let length := (← get).rest.length + 1
    let (added, stop) ← if c == '-' then pure ([], '-') else flagLetters [')', '-', ':'] length c []
    if stop == ')' then return .globalFlags added
    require (!added.contains 't')
    if stop == ':' then return .noncapture (flags.add added)
    let (removed, _) ← flagLetters [':'] length (← next) []
    require (!removed.any ['a', 'u', 't'].contains)
    require (!added.any removed.contains)
    return .noncapture ((flags.add added).remove removed)

def captureWidth (reading : Reading) (index : Nat) : Nat × Option Nat :=
  (reading.widths.lookup index).getD (0, some 0)

/-- Runs `body` with captures inside a look-behind marked. -/
def insideBehind {α : Type} (behind : Bool) (body : Reader α) : Reader α := do
  let outer := (← get).behindFrom
  if behind && outer.isNone then
    modify fun reading => { reading with behindFrom := some reading.captureCount }
  let result ← body
  if behind && outer.isNone then modify ({ · with behindFrom := none })
  return result

def lookRegex (behind negated : Bool) (body : Regex) : Reader Regex := do
  if behind then
    match body.width (captureWidth (← get)) with
    | (least, some most) =>
      require (least == most)
      return .behind least body negated
    | _ => refuse
  else return .ahead body negated

def isPatternBlank (c : Char) : Bool := [' ', '\t', '\n', '\r', '\x0b', '\x0c'].contains c

/-- The piece that a character begins which neither repeats nor groups. -/
def simplePiece (flags : Flags) (c : Char) : Reader Piece := do
  match c with
  | '\\' => escapePiece flags (← next)
  | '[' =>
    let negated ← accept '^'
    let items ← setItems flags.ascii ((← get).rest.length + 1) []
    return .plain (.one { items, negated, folding := flags.folding })
  | '.' => return .plain (.one (if flags.dotAll then CharSet.all else CharSet.notNewline))
  | '^' => return .place (.anchor (if flags.multiline then .lineStart else .textStart))
  | '$' => return .place (.anchor (if flags.multiline then .lineEnd else .finalLineEnd))
  | _ => return .plain (.one (CharSet.ofCode c.toNat flags.folding))

mutual

def alternatives : (fuel : Nat) → (flags : Flags) → (nested first : Bool) → Reader Regex
  | 0, _, _, _ => refuse
  | fuel + 1, flags, nested, first => do
    let branch ← pieces fuel flags nested first []
    if ← accept '|' then
      let global := (← get).global
      let others ← alternatives fuel (if nested then flags else global) nested false
      return .choice branch others
    return branch

/-- Pieces up to a bar, a closing parenthesis or the end, most recent first in `done`. -/
def pieces : (fuel : Nat) → (flags : Flags) → (nested first : Bool) → (done : List Piece) →
    Reader Regex
  | 0, _, _, _, _ => refuse
  | fuel + 1, flags, nested, first, done => do
    match ← peek? with
    | none | some '|' | some ')' => return sequenceOf (done.reverse.map Piece.regex)
    | some c =>
      let _ ← next
      if flags.verbose && isPatternBlank c then pieces fuel flags nested first done
      else if flags.verbose && c == '#' then
        let _ ← skipThrough '\n'
        pieces fuel flags nested first done
      else if ['*', '+', '?', '{'].contains c then
        match ← repetitionBounds? c, done with
        | some (least, most), piece :: before =>
          let piece ← repeatPiece piece least most
          pieces fuel flags nested first (piece :: before)
        | some _, [] => refuse
        | none, _ =>
          let piece ← simplePiece flags c
          pieces fuel flags nested first (piece :: done)
      else if c == '(' then
        let (flags, piece) ← group fuel flags (first && done.isEmpty)
        pieces fuel flags nested first (piece.toList ++ done)
      else
        let piece ← simplePiece flags c
        pieces fuel flags nested first (piece :: done)

/-- The flags behind what a parenthesis opens, and the piece that it makes, if any. -/
def group : (fuel : Nat) → (flags : Flags) → (atStart : Bool) → Reader (Flags × Option Piece)
  | 0, _, _ => refuse
  | fuel + 1, flags, atStart => do
    let closed (flags : Flags) : Reader Regex := do
      let body ← alternatives fuel flags true false
      expect ')'
      return body
    match ← opening flags with
    | .comment => return (flags, none)
    | .reference index => return (flags, some (.plain (.reference index flags.folding)))
    | .globalFlags letters =>
      require atStart
      let flags := { flags.add letters with
        ascii := flags.ascii || letters.contains 'a'
        unicode := flags.unicode || letters.contains 'u' }
      modify ({ · with global := flags })
      return (flags, none)
    | .capture name =>
      let index := (← get).captureCount + 1
      modify fun reading =>
        { reading with
          captureCount := index
          names := reading.names ++ (name.map (·, index)).toList }
      let body ← closed flags
      modify fun reading =>
        { reading with widths := (index, body.width (captureWidth reading)) :: reading.widths }
      return (flags, some (.plain (.capture index body)))
    | .noncapture inner => return (flags, some (.plain (← closed inner)))
    | .atomic => return (flags, some (.plain (.atomic (← closed flags))))
    | .look behind negated =>
      let body ← insideBehind behind (closed flags)
      return (flags, some (.plain (← lookRegex behind negated body)))
    | .conditional index =>
      let present ← pieces fuel flags true false []
      let absent ← if ← accept '|' then pieces fuel flags true false [] else pure .empty
      expect ')'
      return (flags, some (.plain (.conditional index present absent)))

end

def read (text : String) (flags : Flags) : Except (Option Fault) Pattern := do
  let fuel := 3 * text.toList.length + 8
  let (body, reading) ← alternatives fuel flags false true { rest := text.toList, global := flags }
  if reading.global.ascii && reading.global.unicode then .error (some .clashingFlags)
  else if reading.rest.isEmpty && reading.wanted.all (· ≤ reading.captureCount) then
    return { body, captureCount := reading.captureCount }
  else .error none

def parse? (text : String) (flags : Flags := {}) : Option Pattern := (read text flags).toOption

/-- The fault in which reading a text ends; a text that is merely no pattern has none. -/
def fault? (text : String) (flags : Flags := {}) : Option Fault :=
  match read text flags with
  | .error fault => fault
  | .ok _ => none

def never : Pattern := { body := .never }

def ofText (text : String) : Pattern := (parse? text).getD never

def ofTextIgnoringCase (text : String) : Pattern :=
  (parse? text { ignoreCase := true }).getD never

end PrivacyScan.Pattern
