import PrivacyScan.Script.Token
import PrivacyScan.Script.Tree

/-!
What reading a program carries along: the next token, and the circumstances that decide which tokens
are allowed. Whether an expression may yet turn out to be a pattern is one of them: `isolated` reads
a part that stands for itself, `inherited` one whose nature decides that of the whole.
-/

namespace PrivacyScan.Script

structure Circumstances where
  isStrict : Bool := false
  /-- The operator `in` may be used. -/
  allowIn : Bool := true
  /-- `yield` is a name. -/
  allowYield : Bool := true
  allowStrictDirective : Bool := true
  inAsync : Bool := false
  inFunction : Bool := false
  inIteration : Bool := false
  inSwitch : Bool := false
  labels : List String := []
  /-- What has been read can be assigned to. -/
  isTarget : Bool := false
  /-- What has been read can be a parameter. -/
  isBinding : Bool := false
  /-- A default stands where only a pattern may have one. -/
  hasStrayDefault : Bool := false
deriving Repr

structure Reading where
  next : Token
  before : Scanner
  after : Scanner
  /-- The next token ends on another line than the token before it. -/
  afterLineEnd : Bool := false
  circumstances : Circumstances := {}
  bound : Nat

abbrev Parser := StateT Reading Option

namespace Parser

variable {α : Type}

def refuse : Parser α := fun _ => none

def require (condition : Bool) : Parser Unit := if condition then pure () else refuse

def circumstances : Parser Circumstances := do return (← get).circumstances

def change (update : Circumstances → Circumstances) : Parser Unit :=
  modify fun reading => { reading with circumstances := update reading.circumstances }

def peek : Parser Token := do return (← get).next

/-- The token behind the next one, with the line on which the next one ends. -/
def peekSecond : Parser (Token × Nat) := do
  let reading ← get
  match lex reading.bound reading.after with
  | some (token, _) => return (token, reading.after.line)
  | none => refuse

/-- Names that strict code reserves are keywords in it. -/
def underRegime (isStrict : Bool) (token : Token) : Token :=
  if isStrict && token.kind == .identifier && strictWords.contains token.value then
    { token with kind := .keyword }
  else token

/-- Reads a token; `passed` is the token before it. -/
def readNext (passed : Token) : Parser Unit := do
  let reading ← get
  let scanner := reading.after
  match skipBlanks .code scanner.atStart scanner.line scanner.rest with
  | none => refuse
  | some (rest, line) =>
    let before := { scanner with rest, line }
    match lex reading.bound before with
    | none => refuse
    | some (next, after) =>
      let next := underRegime reading.circumstances.isStrict next
      set { reading with next, before, after, afterLineEnd := passed.line != next.line }

def skip : Parser Unit := do readNext (← peek)

def advance : Parser Token := do
  let token ← peek
  skip
  return token

/-- Reads the next token again, as a pattern between slashes, and passes it. -/
def patternToken : Parser Token := do
  let reading ← get
  match lexPattern reading.before with
  | none => refuse
  | some (token, after) =>
    set { reading with after }
    readNext token
    return token

def nextHas (kind : TokenKind) (value : String) : Parser Bool := do return (← peek).is kind value

def nextIs (value : String) : Parser Bool := nextHas .punctuator value

def nextIsKeyword (word : String) : Parser Bool := nextHas .keyword word

/-- A name that is a keyword in its place only. -/
def nextIsName (word : String) : Parser Bool := nextHas .identifier word

def expect (value : String) : Parser Unit := do
  require (← nextIs value)
  skip

def expectKeyword (word : String) : Parser Unit := do
  require (← nextIsKeyword word)
  skip

/-- Passes the next token if it is the one that `test` looks for. -/
def passIf (test : Parser Bool) : Parser Bool := do
  let found ← test
  if found then skip
  return found

def accept (value : String) : Parser Bool := passIf (nextIs value)

def acceptKeyword (word : String) : Parser Bool := passIf (nextIsKeyword word)

def atEnd : Parser Bool := do return (← peek).kind == .endOfInput

/-- A semicolon, or a place where one may be left out. -/
def semicolon : Parser Unit := do
  if !(← accept ";") && !(← get).afterLineEnd then
    require ((← atEnd) || (← nextIs "\x7d"))

/-- Runs `parser` after `enter`, and then `leave`, which sees the circumstances from before. -/
def within (enter : Circumstances → Circumstances)
    (leave : (outer : Circumstances) → Circumstances → Circumstances) (parser : Parser α) :
    Parser α := do
  let outer ← circumstances
  change enter
  let result ← parser
  change (leave outer)
  return result

def unread (c : Circumstances) : Circumstances :=
  { c with isBinding := true, isTarget := true, hasStrayDefault := false }

def isolated (parser : Parser α) : Parser α :=
  within unread (fun outer c => { c with
    isBinding := outer.isBinding
    isTarget := outer.isTarget
    hasStrayDefault := outer.hasStrayDefault }) do
      let result ← parser
      require !(← circumstances).hasStrayDefault
      return result

def inherited (parser : Parser α) : Parser α :=
  within unread (fun outer c => { c with
    isBinding := c.isBinding && outer.isBinding
    isTarget := c.isTarget && outer.isTarget
    hasStrayDefault := outer.hasStrayDefault || c.hasStrayDefault }) parser

/-- What has been read is neither a target nor a parameter. -/
def fixed : Parser Unit := change fun c => { c with isTarget := false, isBinding := false }

def allowingIn (allowIn : Bool) (parser : Parser α) : Parser α :=
  within ({ · with allowIn }) (fun outer c => { c with allowIn := outer.allowIn }) parser

def inLoop (parser : Parser α) : Parser α :=
  within ({ · with inIteration := true })
    (fun outer c => { c with inIteration := outer.inIteration })
    parser

def allowingYield (allowYield : Bool) (parser : Parser α) : Parser α :=
  within ({ · with allowYield }) (fun outer c => { c with allowYield := outer.allowYield }) parser

def untilM (done : Parser Bool) (item : Parser α) : (fuel : Nat) → Parser (List α)
  | 0 => refuse
  | fuel + 1 => do
    if ← done then return []
    let first ← item
    let rest ← untilM done item fuel
    return first :: rest

/-- Items until `done` says that none follows. -/
def manyUntil (done : Parser Bool) (item : Parser α) : Parser (List α) := do
  untilM done item (← get).bound

/-- An item with the comma behind it, which may be left out before `closing`. -/
def separated (closing : String) (item : Parser α) : Parser α := do
  let result ← item
  if !(← nextIs closing) then expect ","
  return result

def commaList (item : Parser α) : Parser (List α) := do
  let first ← item
  let rest ← manyUntil (do return !(← nextIs ",")) (do expect ","; item)
  return first :: rest

def between (opening closing : String) (inner : Parser α) : Parser α := do
  expect opening
  let result ← inner
  expect closing
  return result

/-- The items between two marks. -/
def itemsBetween (opening closing : String) (item : Parser α) : Parser (List α) :=
  between opening closing (manyUntil (nextIs closing) item)

/-- An item that stands only where `test` announces it. -/
def optionally (test : Parser Bool) (item : Parser α) : Parser (List α) := do
  if ← test then return [← item]
  return []

/-- A node that starts at the next token. -/
def placed (form : Form) (parts : Parser (List (List Node))) : Parser Node := do
  let start ← peek
  return .mk form start.startLine (← parts)

/-- A node that starts with a word, which is passed. -/
def headed (form : Form) (parts : Parser (List (List Node))) : Parser Node :=
  placed form do
    skip
    parts

end Parser

end PrivacyScan.Script
