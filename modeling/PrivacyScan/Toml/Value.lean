import PrivacyScan.Document.Reader
import PrivacyScan.Table

/-!
Keys and values of TOML. A key is a list of names. Dates and times are kept as they are written.
What follows a `=` is complete: a table or a list that is written inline cannot be extended later.
-/

namespace PrivacyScan.Toml

open Text (hexDigit? hexNumber decimalNumber)

/-- How a table came about. One that dotted keys have made may be extended by more of them, as long
as their section lasts. -/
inductive Origin where
  | implied
  | header
  | dotted (place : Nat)
deriving Repr, DecidableEq

inductive Entry where
  | value (document : Document)
  | table (origin : Origin) (entries : List (String × Entry))
  | tables (earlier : List (List (String × Entry))) (last : List (String × Entry))

abbrev Entries := List (String × Entry)

mutual

def Entry.toDocument : Entry → Document
  | .value document => document
  | .table _ entries => .object (fieldsOf entries)
  | .tables earlier last => .list (objectsOf earlier ++ [.object (fieldsOf last)])

def fieldsOf : List (String × Entry) → List (String × Document)
  | [] => []
  | (name, entry) :: rest => (name, entry.toDocument) :: fieldsOf rest

def objectsOf : List (List (String × Entry)) → List Document
  | [] => []
  | entries :: rest => .object (fieldsOf entries) :: objectsOf rest

end

/-- Enters a value under a dotted key. No value is replaced, and no table is touched that a header
or an earlier section has made. -/
def Entries.put? (place : Nat) (value : Document) : (key : List String) → Entries → Option Entries
  | [], _ => none
  | [name], entries =>
    if Table.hasKey entries name then none else some (entries ++ [(name, .value value)])
  | name :: rest, entries =>
    let enter (inner : Entries) : Option Entries :=
      (put? place value rest inner).map fun inner =>
        Table.set name (.table (.dotted place) inner) entries
    match Table.get? entries name with
    | none => enter []
    | some (.table .implied inner) => enter inner
    | some (.table (.dotted other) inner) => if other == place then enter inner else none
    | some _ => none

abbrev Reader (α : Type) := List Char → Option (α × List Char)

def isBlank (c : Char) : Bool := c == ' ' || c == '\t'

def skipBlanks (input : List Char) : List Char := input.dropWhile isBlank

/-- Control characters have no place in texts and comments. -/
def isControl (c : Char) : Bool := (c.toNat < 32 && c != '\t') || c.toNat == 127

def takeThrough? (ends : List Char) (allowed : Char → Bool) :
    List Char → Option (List Char × List Char)
  | [] => none
  | c :: rest =>
    if ends.isPrefixOf (c :: rest) then some ([], (c :: rest).drop ends.length)
    else if !allowed c then none
    else (takeThrough? ends allowed rest).map fun (text, rest) => (c :: text, rest)

def escape? : Char → Option Char
  | 'b' => some '\x08'
  | 't' => some '\t'
  | 'n' => some '\n'
  | 'f' => some '\x0c'
  | 'r' => some '\x0d'
  | '"' => some '"'
  | '\\' => some '\\'
  | _ => none

def hexChar? (count : Nat) (input : List Char) : Option (Char × List Char) :=
  let digits := input.take count
  let code := hexNumber digits
  if digits.length == count && digits.all (fun c => (hexDigit? c).isSome) && code.isValidChar then
    some (Char.ofNat code, input.drop count)
  else none

/-- The rest of a line that ends in a backslash, with the blanks and line ends behind it. -/
def skipLineEnd? (input : List Char) : Option (List Char) :=
  match skipBlanks input with
  | '\n' :: rest => some (rest.dropWhile fun c => isBlank c || c == '\n')
  | [] => some []
  | _ => none

/-- The rest of a text with escapes, `done` reversed. -/
def readBasic (isLong : Bool) (done : List Char) : (fuel : Nat) → Reader (List Char)
  | 0, _ => none
  | fuel + 1, input =>
    match input with
    | [] => none
    | '"' :: rest =>
      if !isLong then some (done.reverse, rest)
      else if ['"', '"'].isPrefixOf rest then some (done.reverse, rest.drop 2)
      else readBasic isLong ('"' :: done) fuel rest
    | '\\' :: c :: rest =>
      if isLong && (isBlank c || c == '\n') then
        (skipLineEnd? (c :: rest)).bind (readBasic isLong done fuel)
      else if c == 'u' || c == 'U' then
        match hexChar? (if c == 'u' then 4 else 8) rest with
        | some (c, rest) => readBasic isLong (c :: done) fuel rest
        | none => none
      else
        match escape? c with
        | some c => readBasic isLong (c :: done) fuel rest
        | none => none
    | '\\' :: [] => none
    | c :: rest =>
      if isControl c && !(isLong && c == '\n') then none else readBasic isLong (c :: done) fuel rest

/-- Up to two more quotes at the end of a long text belong to it. -/
def withLastQuotes (quote : Char) (text rest : List Char) : List Char × List Char :=
  let more := (rest.take 2).takeWhile (· == quote)
  (text ++ more, rest.drop more.length)

def withoutFirstLineEnd : List Char → List Char
  | '\n' :: rest => rest
  | input => input

def readShort (input : List Char) : Option (List Char × List Char) :=
  match input with
  | '"' :: rest => readBasic false [] (rest.length + 1) rest
  | '\'' :: rest => takeThrough? ['\''] (!isControl ·) rest
  | _ => none

def readText (input : List Char) : Option (List Char × List Char) :=
  match input with
  | '"' :: '"' :: '"' :: rest =>
    (readBasic true [] (rest.length + 1) (withoutFirstLineEnd rest)).map fun (text, rest) =>
      withLastQuotes '"' text rest
  | '\'' :: '\'' :: '\'' :: rest =>
    (takeThrough? ['\'', '\'', '\''] (fun c => !isControl c || c == '\n')
      (withoutFirstLineEnd rest)).map fun (text, rest) => withLastQuotes '\'' text rest
  | _ => readShort input

def isKeyChar (c : Char) : Bool := c.isAlphanum || c == '-' || c == '_'

def readKeyPart (input : List Char) : Option (String × List Char) :=
  match input.takeWhile isKeyChar with
  | [] => (readShort input).map fun (text, rest) => (String.ofList text, rest)
  | name => some (String.ofList name, input.drop name.length)

def readKey : (fuel : Nat) → Reader (List String)
  | 0, _ => none
  | fuel + 1, input =>
    (readKeyPart input).bind fun (name, rest) =>
      match skipBlanks rest with
      | '.' :: rest =>
        (readKey fuel (skipBlanks rest)).map fun (names, rest) => (name :: names, rest)
      | rest => some ([name], rest)

/-- Digits of a kind, with single underscores between them. -/
def takeDigits (isDigit : Char → Bool) : List Char → List Char
  | [] => []
  | c :: rest =>
    if isDigit c then c :: takeDigits isDigit rest
    else if c == '_' && (rest.head?.any isDigit) then c :: takeDigits isDigit rest
    else []

/-- At least one digit, and the digits without the underscores. -/
def digits? (isDigit : Char → Bool) (input : List Char) : Option (List Char × List Char) :=
  if input.head?.any isDigit then
    let taken := takeDigits isDigit input
    some (taken.filter (· != '_'), input.drop taken.length)
  else none

def isBetween (low high c : Char) : Bool := decide (low ≤ c) && decide (c ≤ high)

def readBased (input : List Char) : Option (Document × List Char) :=
  let read (base : Nat) (isDigit : Char → Bool) (rest : List Char) :
      Option (Document × List Char) :=
    (digits? isDigit rest).map fun (digits, rest) =>
      (.int (digits.foldl (fun number c => number * base + (hexDigit? c).getD 0) 0 : Nat), rest)
  match input with
  | '0' :: 'x' :: rest => read 16 (fun c => (hexDigit? c).isSome) rest
  | '0' :: 'o' :: rest => read 8 (isBetween '0' '7') rest
  | '0' :: 'b' :: rest => read 2 (isBetween '0' '1') rest
  | _ => none

def splitSign : List Char → Option Bool × List Char
  | '-' :: rest => (some true, rest)
  | '+' :: rest => (some false, rest)
  | input => (none, input)

/-- A decimal number; a fraction or an exponent makes it a float. -/
def readDecimal (input : List Char) : Option (Document × List Char) :=
  let (sign, unsigned) := splitSign input
  let whole? := match unsigned with
    | '0' :: rest => some (['0'], rest)
    | _ => digits? Char.isDigit unsigned
  whole?.map fun (whole, rest) =>
    let (fraction, rest) := match rest with
      | '.' :: inner => match digits? Char.isDigit inner with
        | some (digits, rest) => (some digits, rest)
        | none => (none, rest)
      | _ => (none, rest)
    let (exponent, rest) := match rest with
      | c :: inner =>
        let (down, inner) := splitSign inner
        match (if c == 'e' || c == 'E' then digits? Char.isDigit inner else none) with
        | some (digits, rest) => (some (down.getD false, digits), rest)
        | none => (none, rest)
      | [] => (none, rest)
    (Document.numberOf (sign.getD false) whole fraction exponent, rest)

def readSpecial (input : List Char) : Option (Document × List Char) :=
  let (sign, unsigned) := splitSign input
  let magnitude? : Option Float := match unsigned.take 3 with
    | ['i', 'n', 'f'] => some (1.0 / 0.0)
    | ['n', 'a', 'n'] => some (0.0 / 0.0)
    | _ => none
  magnitude?.map fun magnitude =>
    (.float (if sign == some true then -magnitude else magnitude), unsigned.drop 3)

/-- A number of so many digits within bounds. -/
def twoDigits? (low high : Nat) (input : List Char) : Option (List Char) :=
  let digits := input.take 2
  let number := decimalNumber digits
  if digits.length == 2 && digits.all Char.isDigit && low ≤ number && number ≤ high then
    some (input.drop 2)
  else none

def expect? (c : Char) : List Char → Option (List Char)
  | other :: rest => if other == c then some rest else none
  | [] => none

def afterTime? (input : List Char) : Option (List Char) := do
  let minutes ← expect? ':' (← twoDigits? 0 23 input)
  let seconds ← expect? ':' (← twoDigits? 0 59 minutes)
  let rest ← twoDigits? 0 59 seconds
  match rest with
  | '.' :: inner =>
    let digits := inner.takeWhile Char.isDigit
    return if digits.isEmpty then rest else inner.drop digits.length
  | _ => return rest

def afterOffset (input : List Char) : List Char :=
  match input with
  | c :: rest =>
    if c == 'Z' || c == 'z' then rest
    else if c == '+' || c == '-' then
      (((twoDigits? 0 23 rest).bind (expect? ':')).bind (twoDigits? 0 59)).getD input
    else input
  | [] => []

def daysIn (year month : Nat) : Nat :=
  if month == 2 then
    if year % 4 == 0 && (year % 100 != 0 || year % 400 == 0) then 29 else 28
  else if [4, 6, 9, 11].contains month then 30
  else 31

/-- What follows a date, which may have a time of day; the date itself may not exist. -/
def afterDate? (input : List Char) : Option (Bool × List Char) := do
  let year := input.take 4
  if year.length != 4 || !year.all Char.isDigit then none
  let month ← expect? '-' (input.drop 4)
  let day ← expect? '-' (← twoDigits? 1 12 month)
  let rest ← twoDigits? 1 31 day
  let isReal := decimalNumber year != 0 &&
    decimalNumber (day.take 2) ≤ daysIn (decimalNumber year) (decimalNumber (month.take 2))
  match rest with
  | c :: inner =>
    if c == 'T' || c == 't' || c == ' ' then
      match afterTime? inner with
      | some timed => return (isReal, afterOffset timed)
      | none => return (isReal, rest)
    else return (isReal, rest)
  | [] => return (isReal, rest)

def datedUpTo (input rest : List Char) (kind : Dating) : Document :=
  .dated kind (String.ofList (input.take (input.length - rest.length)))

def readPlain (input : List Char) : Option (Document × List Char) :=
  match afterDate? input with
  | some (true, rest) =>
    let kind := if input.length - rest.length == 10 then Dating.date else .dateTime
    some (datedUpTo input rest kind, rest)
  | some (false, _) => none
  | none =>
    match afterTime? input with
    | some rest => some (datedUpTo input rest .time, rest)
    | none => (readBased input).or ((readDecimal input).or (readSpecial input))

def skipComment? (input : List Char) : Option (List Char) :=
  match input with
  | '#' :: rest =>
    let text := rest.takeWhile (· != '\n')
    if text.any isControl then none else some (rest.drop text.length)
  | _ => some input

def skipFiller? : (fuel : Nat) → List Char → Option (List Char)
  | 0, input => some input
  | fuel + 1, input =>
    let trimmed := input.dropWhile fun c => isBlank c || c == '\n'
    (skipComment? trimmed).bind fun rest =>
      if rest.length == input.length then some rest else skipFiller? fuel rest

mutual

def readValue : (fuel : Nat) → Reader Document
  | 0, _ => none
  | fuel + 1, input =>
    match input with
    | '"' :: _ | '\'' :: _ =>
      (readText input).map fun (text, rest) => (.text (String.ofList text), rest)
    | 't' :: rest => (Document.dropWord? "rue" rest).map fun rest => (.bool true, rest)
    | 'f' :: rest => (Document.dropWord? "alse" rest).map fun rest => (.bool false, rest)
    | '[' :: rest => readItems fuel [] rest
    | '\x7b' :: rest =>
      match skipBlanks rest with
      | '\x7d' :: rest => some (.object [], rest)
      | rest => readFields fuel [] rest
    | _ => readPlain input

/-- The items of a list up to its end, where a comma may stand before it. -/
def readItems : (fuel : Nat) → List Document → Reader Document
  | 0, _, _ => none
  | fuel + 1, done, input =>
    match skipFiller? input.length input with
    | none => none
    | some (']' :: rest) => some (.list done.reverse, rest)
    | some start =>
      match readValue fuel start with
      | none => none
      | some (item, rest) =>
        match skipFiller? rest.length rest with
        | some (',' :: rest) => readItems fuel (item :: done) rest
        | some (']' :: rest) => some (.list (item :: done).reverse, rest)
        | _ => none

def readFields : (fuel : Nat) → Entries → Reader Document
  | 0, _, _ => none
  | fuel + 1, done, input =>
    match readPair fuel input with
    | none => none
    | some ((key, value), rest) =>
      match Entries.put? 0 value key done, skipBlanks rest with
      | some entries, ',' :: rest => readFields fuel entries (skipBlanks rest)
      | some entries, '\x7d' :: rest => some (.object (fieldsOf entries), rest)
      | _, _ => none

def readPair : (fuel : Nat) → Reader (List String × Document)
  | 0, _ => none
  | fuel + 1, input =>
    match readKey input.length input with
    | some (key, '=' :: rest) =>
      (readValue fuel (skipBlanks rest)).map fun (value, rest) => ((key, value), rest)
    | _ => none

end

end PrivacyScan.Toml
