import PrivacyScan.Source.Expression

/-!
Reading the patterns of `case` blocks.
-/

namespace PrivacyScan.Source

open Source.Parser

/-- A dotted name, with its number of dots. -/
def nameOrMember : Parser (Node × Nat) := do
  let start ← peek
  let first ← identifier
  let base := Node.name (← placeFrom start) first
  let members ← many (acceptOperator ".") (do
    let id ← identifier
    return (id, ← placeFrom start))
  return (members.foldl (fun node (id, place) => .member place id node) base, members.length)

/-- A whole or fractional number, or an imaginary one, as `isImaginary` asks. -/
def plainNumber (isImaginary : Bool) : Parser Node := placed do
  let token ← advance
  require (token.kind == .number)
  match numberValue? token.text with
  | some value =>
    require ((match value with | .imaginary _ => true | _ => false) == isImaginary)
    return (.constant · value false)
  | none => refuse

def anyNumber : Parser Node := orElse (plainNumber false) (plainNumber true)

def signed (number : Parser Node) : Parser Node := do
  let start ← peek
  if ← acceptOperator "-" then
    let operand ← number
    return .unaryOp (← placeFrom start) .minus operand
  number

def followsNone (texts : List String) : Parser Bool := do
  return !texts.any ((← peek).is .operator)

def numberPattern : Parser Node := do
  let alone : Parser Node := do
    let number ← signed anyNumber
    require (← followsNone ["+", "-"])
    return number
  let complex : Parser Node := placed do
    let real ← signed (plainNumber false)
    let operator? ← acceptOneOf [("+", BinaryOperator.add), ("-", .sub)]
    require operator?.isSome
    let imaginary ← plainNumber true
    return (.binOp · (operator?.getD .add) real imaginary)
  orElse alone complex

def singleton? (token : Token) : Option Constant :=
  if token.kind == .keyword then
    match token.text with
    | "None" => some .none
    | "True" => some (.bool true)
    | "False" => some (.bool false)
    | _ => none
  else none

def nextIsNumber : Parser Bool := do return (← nextIs .number) || (← nextIsOperator "-")

/-- A name that no sign of another kind of pattern follows. -/
def capturedName : Parser String := do
  let id ← identifier
  require (← followsNone [".", "(", "="])
  return id

def starPattern : Parser Node := placed do
  operator "*"
  let isWild := (← peek).text == "_"
  let id ← if isWild then identifier else capturedName
  return (.matchStar · (if isWild then none else some id))

variable (rules : Rules) (pattern : Parser Node)

def listedPattern : Parser Node := do
  if ← nextIsOperator "*" then starPattern else pattern

def mappingKey : Parser Node := do
  let start ← peek
  if let some value := singleton? start then
    skip
    return .constant (← placeFrom start) value false
  else if start.kind == .text then textLiteral rules
  else if ← nextIsNumber then numberPattern
  else
    let (node, dots) ← nameOrMember
    require (0 < dots)
    return node

/-- The entries of a mapping pattern up to its closing brace; a rest comes last. -/
def mappingEntries : (fuel : Nat) → Parser (List (Node × Node) × Option String)
  | 0 => refuse
  | fuel + 1 => do
    if ← nextIsOperator "\x7d" then return ([], none)
    if ← acceptOperator "**" then
      let id ← identifier
      require (id != "_")
      let _ ← acceptOperator ","
      require (← nextIsOperator "\x7d")
      return ([], some id)
    let key ← mappingKey rules
    operator ":"
    let value ← pattern
    if ← acceptOperator "," then
      let (entries, rest) ← mappingEntries fuel
      return ((key, value) :: entries, rest)
    require (← nextIsOperator "\x7d")
    return ([(key, value)], none)

/-- The parts of a class pattern up to the closing parenthesis; named ones come last. -/
def classParts : (fuel : Nat) → (named : List (String × Node)) → (plain : List Node) →
      Parser (List Node × List (String × Node))
  | 0, _, _ => refuse
  | fuel + 1, named, plain => do
    if ← nextIsOperator ")" then return (plain, named)
    let isNamed := (← nextIs .name) && (← secondIs .operator "=")
    let (named, plain) ← do
      if isNamed then
        let id ← identifier
        operator "="
        let value ← pattern
        pure (named ++ [(id, value)], plain)
      else
        require named.isEmpty
        let value ← pattern
        pure (named, plain ++ [value])
    if ← acceptOperator "," then classParts fuel named plain
    else
      require (← nextIsOperator ")")
      return (plain, named)

def namePattern : Parser Node := placed do
  let start ← peek
  if start.text == "_" then
    skip
    return (.matchAs · none [])
  let (node, dots) ← nameOrMember
  if ← acceptOperator "(" then
    let (plain, named) ← classParts pattern (← get).bound [] []
    operator ")"
    return (.matchClass · (named.map (·.1)) node plain (named.map (·.2)))
  require !(← nextIsOperator "=")
  if dots == 0 then return (.matchAs · (some start.text) [])
  return (.matchValue · node)

/-- One pattern, or the sequence of those that commas separate. -/
def casePatterns : Parser Node := do
  let start ← peek
  match ← commaItems (listedPattern pattern) with
  | ([node], false) =>
    require !(start.is .operator "*")
    return node
  | (nodes, _) => return .matchSequence (← placeFrom start) nodes

def closedPattern : Parser Node := do
  let start ← peek
  if let some value := singleton? start then
    skip
    return .matchSingleton (← placeFrom start) value
  else if start.kind == .text then
    let value ← textLiteral rules
    return .matchValue (← placeFrom start) value
  else if ← nextIsNumber then
    let value ← numberPattern
    return .matchValue (← placeFrom start) value
  else if start.kind == .name then namePattern pattern
  else if ← acceptOperator "[" then
    if ← acceptOperator "]" then return .matchSequence (← placeFrom start) []
    let (nodes, _) ← commaItems (listedPattern pattern)
    operator "]"
    return .matchSequence (← placeFrom start) nodes
  else if ← acceptOperator "(" then
    if ← acceptOperator ")" then return .matchSequence (← placeFrom start) []
    let isStar ← nextIsOperator "*"
    let (nodes, several) ← commaItems (listedPattern pattern)
    operator ")"
    match nodes, several with
    | [node], false =>
      require !isStar
      return node
    | nodes, _ => return .matchSequence (← placeFrom start) nodes
  else
    operator "\x7b"
    let (entries, rest) ← mappingEntries rules pattern (← get).bound
    operator "\x7d"
    return .matchMapping (← placeFrom start) rest (entries.map (·.1)) (entries.map (·.2))

/-- Alternatives, and a name for what they match. -/
def casePattern (inner : Parser Node) : Parser Node := do
  let start ← peek
  let alternatives ← do
    match ← chain "|" (closedPattern rules inner) with
    | [node] => pure node
    | nodes => pure (.matchOr (← placeFrom start) nodes)
  if ← acceptKeyword "as" then
    let id ← capturedName
    require (id != "_")
    return .matchAs (← placeFrom start) (some id) [alternatives]
  return alternatives

def casePatternAt : (depth : Nat) → Parser Node
  | 0 => refuse
  | depth + 1 => fun reading => casePattern rules (casePatternAt depth) reading

end PrivacyScan.Source
