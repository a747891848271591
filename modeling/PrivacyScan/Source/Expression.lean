import PrivacyScan.Source.Literal

/-!
Reading expressions. Each rule is a function of the rules one level further in (`Rules`), which it
uses only after a token has been passed, so the recursion is on the depth of nesting alone.
-/

namespace PrivacyScan.Source

open Text

/-- The tokens still to be read, the line on which the last one read ends, and a bound on the length
of every list of parts. -/
structure Reading where
  tokens : List Token
  endLine : Nat := 0
  bound : Nat

abbrev Parser := StateT Reading Option

namespace Parser

variable {α : Type}

def refuse : Parser α := fun _ => none

def require (condition : Bool) : Parser Unit := if condition then pure () else refuse

/-- The result of `parser`, or `none` with nothing read. -/
def attempt (parser : Parser α) : Parser (Option α) := fun reading =>
  match parser reading with
  | some (value, rest) => some (some value, rest)
  | none => some (none, reading)

def orElse (first second : Parser α) : Parser α := fun reading =>
  match first reading with
  | some result => some result
  | none => second reading

def peek : Parser Token := fun reading =>
  match reading.tokens with
  | token :: _ => some (token, reading)
  | [] => none

def peekSecond : Parser (Option Token) := do return ((← get).tokens.drop 1).head?

/-- Passes a token. Line ends and changes of indentation do not belong to the node before them. -/
def advance : Parser Token := fun reading =>
  match reading.tokens with
  | token :: rest =>
    let endLine :=
      match token.kind with
      | .newline | .indent | .dedent | .endOfInput => reading.endLine
      | _ => token.endLine
    some (token, { reading with tokens := rest, endLine })
  | [] => none

def skip : Parser Unit := do let _ ← advance

def nextIs (expected : TokenKind) : Parser Bool := do return (← peek).kind == expected

def nextIsOperator (text : String) : Parser Bool := do return (← peek).is .operator text

def nextIsKeyword (text : String) : Parser Bool := do return (← peek).is .keyword text

def secondIs (expected : TokenKind) (text : String) : Parser Bool := do
  return (← peekSecond).any (·.is expected text)

/-- Passes the next token if it is the one that `test` looks for. -/
def passIf (test : Parser Bool) : Parser Bool := do
  let found ← test
  if found then skip
  return found

def acceptOperator (text : String) : Parser Bool := passIf (nextIsOperator text)

def acceptKeyword (text : String) : Parser Bool := passIf (nextIsKeyword text)

/-- The meaning of the next token, an operator, which is passed if it has one. -/
def acceptOneOf {β : Type} (meanings : List (String × β)) : Parser (Option β) := do
  let token ← peek
  let meaning := if token.kind == .operator then meanings.lookup token.text else none
  if meaning.isSome then skip
  return meaning

def operator (text : String) : Parser Unit := do require (← acceptOperator text)

def keyword (text : String) : Parser Unit := do require (← acceptKeyword text)

def kind (expected : TokenKind) : Parser Unit := do require (← passIf (nextIs expected))

def identifier : Parser String := do
  let token ← advance
  require (token.kind == .name)
  return token.text

def placeFrom (start : Token) : Parser Place := do
  return { line := start.line, endLine := (← get).endLine }

/-- A node over the lines on which its parts stand. -/
def placed (node : Parser (Place → Node)) : Parser Node := do
  let start ← peek
  let node ← node
  return node (← placeFrom start)

/-- An item that stands only where `test` announces it. -/
def optionally (test : Parser Bool) (item : Parser α) : Parser (List α) := do
  if ← test then return [← item]
  return []

/-- Items for as long as `more` says that one follows. -/
def whileM (more : Parser Bool) (item : Parser α) : (fuel : Nat) → Parser (List α)
  | 0 => refuse
  | fuel + 1 => do
    if ← more then
      let first ← item
      let rest ← whileM more item fuel
      return first :: rest
    return []

def many (more : Parser Bool) (item : Parser α) : Parser (List α) := do
  whileM more item (← get).bound

/-- Further items after commas; a comma that no item follows ends the list. Whether the last comma
stands at the end is returned too. -/
def moreItems (item : Parser α) : (fuel : Nat) → Parser (List α × Bool)
  | 0 => refuse
  | fuel + 1 => do
    if ← acceptOperator "," then
      match ← attempt item with
      | some first =>
        let (rest, trailing) ← moreItems item fuel
        return (first :: rest, trailing)
      | none => return ([], true)
    return ([], false)

/-- Items with commas between them, and whether there is any comma. -/
def commaItems (item : Parser α) : Parser (List α × Bool) := do
  let first ← item
  let (rest, trailing) ← moreItems item (← get).bound
  return (first :: rest, !rest.isEmpty || trailing)

/-- One item, or the tuple of those that commas separate. -/
def oneOrTuple (item : Parser Node) : Parser Node := do
  let start ← peek
  match ← commaItems item with
  | ([node], false) => return node
  | (nodes, _) => return .tuple (← placeFrom start) nodes

/-- Items with `separator` between each two. -/
def chain (separator : String) (item : Parser α) : Parser (List α) := do
  let first ← item
  return first :: (← many (acceptOperator separator) item)

end Parser

open Source.Parser

/-- The rules that may occur again inside themselves. -/
structure Rules where
  expression : Parser Node
  disjunction : Parser Node
  inversion : Parser Node
  bitOr : Parser Node
  factor : Parser Node
  targetElement : Parser Node

/-- A target that can be assigned to; a starred one only where parts are listed. -/
def isTargetWith (starAllowed : Bool) (node : Node) : Bool :=
  match node with
  | .name .. | .member .. | .subscript .. => true
  | .starred _ value => starAllowed && isTargetWith false value
  | .list _ elements | .tuple _ elements =>
    elements.attach.all fun ⟨element, _⟩ => isTargetWith true element
  | _ => false
termination_by sizeOf node
decreasing_by
  all_goals simp_wf
  all_goals (try have := List.sizeOf_lt_of_mem ‹_ ∈ _›); omega

def isTarget (node : Node) : Bool := isTargetWith false node

def namedExpression (expression : Parser Node) : Parser Node := do
  let isNamed ← secondIs .operator ":="
  if isNamed && (← nextIs .name) then
    placed do
      let target ← placed (do return (.name · (← identifier)))
      skip
      return (.named · target (← expression))
  else
    let value ← expression
    require !(← nextIsOperator ":=")
    return value

def starredExpression (operand : Parser Node) : Parser Node := placed do
  operator "*"
  return (.starred · (← operand))

variable (rules : Rules)

def starNamedExpression : Parser Node := do
  if ← nextIsOperator "*" then starredExpression rules.bitOr else namedExpression rules.expression

def starExpression : Parser Node := do
  if ← nextIsOperator "*" then starredExpression rules.bitOr else rules.expression

def starExpressions : Parser Node := oneOrTuple (starExpression rules)

def yieldExpression : Parser Node := placed do
  keyword "yield"
  if ← acceptKeyword "from" then return (.yieldingFrom · (← rules.expression))
  let value ← attempt (starExpressions rules)
  return (.yielding · value.toList)

def starTargets : Parser Node := oneOrTuple rules.targetElement

def startsComprehension : Parser Bool := do
  if ← nextIsKeyword "for" then return true
  return (← nextIsKeyword "async") && (← secondIs .keyword "for")

def comprehensionClause : Parser Node := do
  let isAsync ← acceptKeyword "async"
  keyword "for"
  let target ← starTargets rules
  keyword "in"
  let iterable ← rules.disjunction
  let conditions ← many (nextIsKeyword "if") (do keyword "if"; rules.disjunction)
  return .comprehension isAsync target iterable conditions

def comprehensionClauses : Parser (List Node) :=
  many startsComprehension (comprehensionClause rules)

def isStarred : Node → Bool
  | .starred .. => true
  | _ => false

/-- What follows the first element of a display: the clauses of a comprehension, or more elements.
The mark at the end is passed. -/
def displayRest (closing : String) (first : Node) : Parser (List Node ⊕ List Node × Bool) := do
  if ← startsComprehension then
    require !(isStarred first)
    let generators ← comprehensionClauses rules
    operator closing
    return .inl generators
  let (rest, trailing) ← moreItems (starNamedExpression rules) (← get).bound
  operator closing
  return .inr (first :: rest, !rest.isEmpty || trailing)

/-- What parentheses hold: nothing, a yield, a generator, a tuple, or an expression in brackets. -/
def parenthesized : Parser Node := do
  let start ← peek
  operator "("
  if ← acceptOperator ")" then return .tuple (← placeFrom start) []
  if ← nextIsKeyword "yield" then
    let value ← yieldExpression rules
    operator ")"
    return value
  let first ← starNamedExpression rules
  match ← displayRest rules ")" first with
  | .inl generators => return .generator (← placeFrom start) first generators
  | .inr (_, false) =>
    require !(isStarred first)
    return first
  | .inr (elements, true) => return .tuple (← placeFrom start) elements

def listDisplay : Parser Node := placed do
  operator "["
  if ← acceptOperator "]" then return (.list · [])
  let first ← starNamedExpression rules
  match ← displayRest rules "]" first with
  | .inl generators => return (.listComp · first generators)
  | .inr (elements, _) => return (.list · elements)

def dictEntry : Parser (Node × Node) := do
  if ← acceptOperator "**" then return (.absent, ← rules.bitOr)
  let key ← rules.expression
  operator ":"
  return (key, ← rules.expression)

def dictOf (entries : List (Node × Node)) (place : Place) : Node :=
  .dict place (entries.map (·.1)) (entries.map (·.2))

def setRest (first : Node) : Parser (Place → Node) := do
  match ← displayRest rules "\x7d" first with
  | .inl generators => return (.setComp · first generators)
  | .inr (elements, _) => return (.set · elements)

def dictRest (first value : Node) : Parser (Place → Node) := do
  if ← startsComprehension then
    let generators ← comprehensionClauses rules
    operator "\x7d"
    return (.dictComp · first value generators)
  let (rest, _) ← moreItems (dictEntry rules) (← get).bound
  operator "\x7d"
  return dictOf ((first, value) :: rest)

def braces : Parser Node := placed do
  operator "\x7b"
  if ← acceptOperator "\x7d" then return dictOf []
  if ← nextIsOperator "**" then
    let (entries, _) ← commaItems (dictEntry rules)
    operator "\x7d"
    return dictOf entries
  if (← secondIs .operator ":=") || (← nextIsOperator "*") then
    setRest rules (← starNamedExpression rules)
  else
    let first ← rules.expression
    if ← acceptOperator ":" then dictRest rules first (← rules.expression)
    else setRest rules first

def sliceElement : Parser Node := do
  let start ← peek
  let part : Parser (List Node) := do
    if (← nextIsOperator ":") || (← nextIsOperator ",") || (← nextIsOperator "]") then return []
    return [← rules.expression]
  let sliceFrom (lower : List Node) : Parser Node := do
    let upper ← part
    let step ← if ← acceptOperator ":" then part else pure []
    return .slice (← placeFrom start) lower upper step
  if ← acceptOperator ":" then sliceFrom []
  else if ← nextIsOperator "*" then starredExpression rules.expression
  else if ← secondIs .operator ":=" then namedExpression rules.expression
  else
    let first ← rules.expression
    if ← acceptOperator ":" then sliceFrom [first]
    else
      require !(← nextIsOperator ":=")
      return first

def subscriptIndex : Parser Node := placed do
  let (elements, several) ← commaItems (sliceElement rules)
  match elements with
  | [element] =>
    if several || isStarred element then return (.tuple · elements) else return fun _ => element
  | _ => return (.tuple · elements)

/-- What the arguments of a call have come to: plain ones may come before the first keyword, starred
ones before the first unpacked mapping. -/
structure Arguments where
  plain : List Node := []
  keywords : List Node := []
  sawKeyword : Bool := false
  sawMapping : Bool := false

def Arguments.addPlain (before : Arguments) (node : Node) : Arguments :=
  { before with plain := before.plain ++ [node] }

def Arguments.addKeyword (before : Arguments) (node : Node) : Arguments :=
  { before with keywords := before.keywords ++ [node], sawKeyword := true }

def argument (before : Arguments) : Parser Arguments := do
  let isNamed := (← peek).kind == .name && (← secondIs .operator "=")
  if ← nextIsOperator "*" then
    require !before.sawMapping
    return before.addPlain (← starredExpression rules.expression)
  else if ← nextIsOperator "**" then
    let mapping ← placed do
      skip
      return (.keyword · none (← rules.expression))
    return { before.addKeyword mapping with sawMapping := true }
  else if isNamed then
    let keyword ← placed do
      let name ← identifier
      skip
      return (.keyword · (some name) (← rules.expression))
    return before.addKeyword keyword
  else
    require !before.sawKeyword
    return before.addPlain (← namedExpression rules.expression)

def argumentsFrom : (fuel : Nat) → Arguments → Parser Arguments
  | 0, _ => refuse
  | fuel + 1, before => do
    if ← nextIsOperator ")" then return before
    let after ← argument rules before
    if ← acceptOperator "," then argumentsFrom fuel after
    else
      require (← nextIsOperator ")")
      return after

/-- The arguments of a call or class, from the opening parenthesis through the closing one. A
generator needs no parentheses of its own when it is the only argument. -/
def callArguments : Parser Arguments := do
  let start ← peek
  let sole : Parser Arguments := do
    operator "("
    let element ← namedExpression rules.expression
    require (← startsComprehension)
    let generators ← comprehensionClauses rules
    operator ")"
    return { plain := [.generator (← placeFrom start) element generators] }
  let listed : Parser Arguments := do
    operator "("
    let arguments ← argumentsFrom rules (← get).bound {}
    operator ")"
    return arguments
  orElse listed sole

def trailers (start : Token) : (fuel : Nat) → Node → Parser Node
  | 0, _ => refuse
  | fuel + 1, base => do
    if ← acceptOperator "." then
      let name ← identifier
      trailers start fuel (.member (← placeFrom start) name base)
    else if ← nextIsOperator "(" then
      let arguments ← callArguments rules
      trailers start fuel (.call (← placeFrom start) base arguments.plain arguments.keywords)
    else if ← acceptOperator "[" then
      let index ← subscriptIndex rules
      operator "]"
      trailers start fuel (.subscript (← placeFrom start) base index)
    else return base

/-- Where the source of a replacement field has got to: the quotes it stands in, the brackets it
stands in, and how many of the next characters belong to what has been seen already. -/
structure FieldScan where
  quote : Option (Char × Bool) := none
  brackets : List Char := []
  skip : Nat := 0

/-- What one character does to a field, given the two characters behind it: it ends the field, is
refused, or belongs to it. A backslash and a comment are refused. -/
def FieldScan.step (scan : FieldScan) (c : Char) (following : List Char) :
    Option (Option FieldScan) :=
  let stays (scan : FieldScan) : Option (Option FieldScan) := some (some scan)
  let tripled (q : Char) := following.take 2 == [q, q]
  if c == '\\' then none
  else if 0 < scan.skip then stays { scan with skip := scan.skip - 1 }
  else
    match scan.quote with
    | some (q, triple) =>
      if c != q then stays scan
      else if !triple then stays { scan with quote := none }
      else if tripled q then stays { scan with quote := none, skip := 2 }
      else stays scan
    | none =>
      if c == '\'' || c == '"' then
        if tripled c then stays { scan with quote := some (c, true), skip := 2 }
        else stays { scan with quote := some (c, false) }
      else if c == '(' || c == '[' || c == '\x7b' then
        stays { scan with brackets := c :: scan.brackets }
      else if c == '#' then none
      else if scan.brackets.isEmpty && ['!', ':', '\x7d', '=', '<', '>'].contains c then
        if following.head? == some '=' && ['!', '=', '<', '>'].contains c then
          stays { scan with skip := 1 }
        else if c == '<' || c == '>' then stays scan
        else some none
      else if c == ')' || c == ']' || c == '\x7d' then
        match scan.brackets with
        | opening :: outer =>
          if Scan.closes opening c then stays { scan with brackets := outer } else none
        | [] => none
      else stays scan

/-- The source of a replacement field up to the character that ends it, which stays. -/
def takeFieldSource (scan : FieldScan) : List Char → Option (List Char × List Char)
  | [] => none
  | c :: rest =>
    match scan.step c rest with
    | none => none
    | some none => some ([], c :: rest)
    | some (some scan) => (takeFieldSource scan rest).map fun (taken, rest) => (c :: taken, rest)

/-- Literal text up to a brace: `true` when the brace was doubled and the text goes on. In a format
specification braces are not doubled. -/
def takeLiteral (isRaw nested : Bool) : List Char → Option (List Char × Bool × List Char)
  | [] => some ([], false, [])
  | c :: rest =>
    if c == '\\' && !isRaw then
      match rest with
      | 'N' :: '\x7b' :: after =>
        let name := after.takeWhile (· != '\x7d')
        let closing := (after.drop name.length).take 1
        some (c :: 'N' :: '\x7b' :: (name ++ closing), true, after.drop (name.length + 1))
      | d :: after =>
        if d == '\x7b' || d == '\x7d' then
          if !nested && after.head? == some d then some ([c, d], true, after.drop 1)
          else if !nested && d == '\x7d' then none
          else some ([c], false, rest)
        else
          (takeLiteral isRaw nested after).map fun (more, doubled, rest) =>
            (c :: d :: more, doubled, rest)
      | [] => some ([c], false, [])
    else if c == '\x7b' || c == '\x7d' then
      if !nested && rest.head? == some c then some ([c], true, rest.drop 1)
      else if !nested && c == '\x7d' then none
      else some ([], false, c :: rest)
    else (takeLiteral isRaw nested rest).map fun (more, doubled, rest) => (c :: more, doubled, rest)

def isFieldBlank (c : Char) : Bool := c == ' ' || c == '\t' || c == '\n' || c.toNat == 12

def countLineEnds (text : List Char) : Nat := text.count '\n'

inductive TextPart where
  | plain (text : List Char)
  | field (node : Node)

def conversionOf? : List Char → Option Conversion
  | ['s'] => some .ofStr
  | ['r'] => some .ofRepr
  | ['a'] => some .ofAscii
  | _ => none

/-- Joins neighbouring plain parts and makes nodes of them by `constant`, the last one by
`lastConstant`; empty ones vanish. -/
def joinParts (constant lastConstant : String → Node) (pending : List Char) :
    List TextPart → List Node
  | [] => if pending.isEmpty then [] else [lastConstant (String.ofList pending)]
  | .plain text :: rest => joinParts constant lastConstant (pending ++ text) rest
  | .field node :: rest =>
    (if pending.isEmpty then [] else [constant (String.ofList pending)])
      ++ node :: joinParts constant lastConstant [] rest

/-- Where the nodes of a formatted text stand: in the place of all neighbouring literals together,
but a format specification in that of its own literal. -/
structure TextPlaces where
  whole : Place
  own : Place
  isMarked : Bool

def TextPlaces.constant (places : TextPlaces) (text : String) : Node :=
  .constant places.whole (.text text) places.isMarked

def TextPlaces.specification (places : TextPlaces) (parts : List TextPart) : Node :=
  .joinedText places.own
    (joinParts places.constant (fun text => .constant places.own (.text text) false) [] parts)

/-- The parts of a formatted text, with the line on which each field starts; `level` is the depth of
format specifications, of which one may stand in another's field only once. Reading stops at the
end, or at a closing brace inside a specification. -/
def textParts (compile : List Char → Nat → Option Node) (places : TextPlaces) (isRaw : Bool) :
    (fuel level line : Nat) → List Char → Option (List TextPart × List Char)
  | 0, _, _, _ => none
  | fuel + 1, level, line, text => do
    let (taken, doubled, rest) ← takeLiteral isRaw (level != 0) text
    let literal ← literalText? isRaw false taken
    let line := line + countLineEnds taken
    if doubled then
      let (parts, rest) ← textParts compile places isRaw fuel level line rest
      return (.plain literal :: parts, rest)
    match rest with
    | '\x7b' :: inner =>
      if 2 ≤ level then none
      else
        let (source, after) ← takeFieldSource {} inner
        if source.all isFieldBlank then none
        else
          let value ← compile source line
          let (shown, after) :=
            match after with
            | '=' :: rest =>
              let blanks := rest.takeWhile fun c => isSpace c && isAscii c && c.toNat < 0x21
              (source ++ '=' :: blanks, rest.drop blanks.length)
            | _ => ([], after)
          let (conversion, after) ←
            match after with
            | '!' :: rest =>
              let letters := rest.takeWhile fun c => c != '\x7d' && c != ':'
              (conversionOf? letters).map fun conversion =>
                (some conversion, rest.drop letters.length)
            | _ => some (none, after)
          let passed := text.length - after.length
          let lineAfter := line + countLineEnds ((text.take passed).drop taken.length)
          let (spec, after) ←
            match after with
            | ':' :: rest =>
              if rest.isEmpty then none
              else
                match textParts compile places isRaw fuel (level + 1) lineAfter rest with
                | some (parts, rest) => some ([places.specification parts], rest)
                | none => none
            | _ => some ([], after)
          match after with
          | '\x7d' :: rest =>
            let conversion :=
              match conversion with
              | some conversion => conversion
              | none => if !shown.isEmpty && spec.isEmpty then Conversion.ofRepr else .plain
            let field := Node.formattedValue places.whole conversion value spec
            let passed := text.length - rest.length
            let line := line + countLineEnds ((text.take passed).drop taken.length)
            let (parts, rest) ← textParts compile places isRaw fuel level line rest
            return (.plain literal :: .plain shown :: .field field :: parts, rest)
          | _ => none
    | _ => return ([.plain literal], rest)

/-- An expression inside a formatted text, read as if in parentheses. -/
def compileField (source : List Char) (line : Nat) : Option Node := do
  let tokens ← tokens? ('(' :: source ++ [')']) line 0
  let (node, _) ← starExpressions rules { tokens, bound := tokens.length + 1 }
  return node

/-- Neighbouring text literals are one. Bytes do not mix with texts. -/
def textLiteral : Parser Node := do
  let start ← peek
  let literals ← many (do return (← peek).kind == .text) advance
  let place ← placeFrom start
  let quoted := literals.map fun token => (token, QuotedText.ofToken token.text)
  if quoted.all (·.2.isBytes) then
    match quoted.mapM fun (_, text) => literalBytes? text with
    | some parts => return .constant place (.bytes parts.flatten) false
    | none => refuse
  else
    require !(quoted.any (·.2.isBytes))
    let isMarked := quoted.head?.any (·.2.isMarked)
    let parts := quoted.mapM fun (token, text) =>
      if text.isFormatted then
        let own := { line := token.line, endLine := token.endLine }
        match textParts (compileField rules) { whole := place, own, isMarked } text.isRaw
            (2 * text.content.length + 2) 0 token.line text.content with
        | some (parts, []) => some parts
        | _ => none
      else (literalText? text.isRaw false text.content).map fun plain => [TextPart.plain plain]
    match parts with
    | none => refuse
    | some parts =>
      let constant (text : String) := Node.constant place (.text text) isMarked
      let nodes := joinParts constant constant [] parts.flatten
      if quoted.any (·.2.isFormatted) then return .joinedText place nodes
      match nodes with
      | [node] => return node
      | _ => return .constant place (.text "") isMarked

def atom : Parser Node := do
  let start ← peek
  let constant (value : Constant) : Parser Node := placed do
    skip
    return (.constant · value false)
  match start.kind with
  | .name => placed (do return (.name · (← identifier)))
  | .keyword =>
    match start.text with
    | "True" => constant (.bool true)
    | "False" => constant (.bool false)
    | "None" => constant .none
    | _ => refuse
  | .number =>
    match numberValue? start.text with
    | some value => constant value
    | none => refuse
  | .text => textLiteral rules
  | .operator =>
    match start.text with
    | "(" => parenthesized rules
    | "[" => listDisplay rules
    | "\x7b" => braces rules
    | "..." => constant .ellipsis
    | _ => refuse
  | _ => refuse

def primary : Parser Node := do
  let start ← peek
  let base ← atom rules
  trailers rules start (← get).bound base

def awaitPrimary : Parser Node := do
  let start ← peek
  if ← acceptKeyword "await" then
    let value ← primary rules
    return .awaiting (← placeFrom start) value
  primary rules

def power : Parser Node := do
  let start ← peek
  let base ← awaitPrimary rules
  if ← acceptOperator "**" then
    let exponent ← rules.factor
    return .binOp (← placeFrom start) .pow base exponent
  return base

def unaryOperators : List (String × UnaryOperator) := [("+", .plus), ("-", .minus), ("~", .invert)]

def factor : Parser Node := do
  let start ← peek
  match ← acceptOneOf unaryOperators with
  | some operator =>
    let operand ← rules.factor
    return .unaryOp (← placeFrom start) operator operand
  | none => power rules

def joinLeft (operators : List (String × BinaryOperator)) (operand : Parser Node) (start : Token) :
    (fuel : Nat) → Node → Parser Node
  | 0, _ => refuse
  | fuel + 1, left => do
    match ← acceptOneOf operators with
    | some operator =>
      let right ← operand
      joinLeft operators operand start fuel (.binOp (← placeFrom start) operator left right)
    | none => return left

def leftAssociative (operators : List (String × BinaryOperator)) (operand : Parser Node) :
    Parser Node := do
  let start ← peek
  let first ← operand
  joinLeft operators operand start (← get).bound first

def bitOr : Parser Node :=
  leftAssociative [("|", .bitOr)] <|
  leftAssociative [("^", .bitXor)] <|
  leftAssociative [("&", .bitAnd)] <|
  leftAssociative [("<<", .leftShift), (">>", .rightShift)] <|
  leftAssociative [("+", .add), ("-", .sub)] <|
  leftAssociative
    [("*", .mult), ("/", .div), ("//", .floorDiv), ("%", .mod), ("@", .matMult)] <|
  factor rules

def compareOperators : List (String × CompareOperator) :=
  [("==", .eq), ("!=", .notEq), ("<=", .ltE), ("<", .lt), (">=", .gtE), (">", .gt)]

def compareOperator? : Parser (Option CompareOperator) := do
  if let some operator ← acceptOneOf compareOperators then return some operator
  else if ← acceptKeyword "in" then return some .isIn
  else if (← nextIsKeyword "not") && (← secondIs .keyword "in") then
    skip
    skip
    return some .notIn
  else if ← acceptKeyword "is" then
    return some (if ← acceptKeyword "not" then .isNot else .is)
  else return none

def comparisonsFrom (operand : Parser Node) : (fuel : Nat) → Parser (List (CompareOperator × Node))
  | 0 => refuse
  | fuel + 1 => do
    match ← compareOperator? with
    | some operator =>
      let right ← operand
      let rest ← comparisonsFrom operand fuel
      return (operator, right) :: rest
    | none => return []

def comparison : Parser Node := do
  let start ← peek
  let left ← bitOr rules
  let rest ← comparisonsFrom (bitOr rules) (← get).bound
  if rest.isEmpty then return left
  return .compare (← placeFrom start) (rest.map (·.1)) left (rest.map (·.2))

def inversion : Parser Node := do
  let start ← peek
  if ← acceptKeyword "not" then
    let operand ← rules.inversion
    return .unaryOp (← placeFrom start) .not operand
  comparison rules

def junction (word : String) (operator : BoolOperator) (operand : Parser Node) : Parser Node := do
  let start ← peek
  let first ← operand
  let rest ← many (acceptKeyword word) operand
  if rest.isEmpty then return first
  return .boolOp (← placeFrom start) operator (first :: rest)

def disjunction : Parser Node :=
  junction "or" .or (junction "and" .and (inversion rules))

structure ParameterList where
  positionalOnly : List Node := []
  plain : List Node := []
  rest : List Node := []
  keywordOnly : List Node := []
  keywordDefaults : List Node := []
  keywordRest : List Node := []
  defaults : List Node := []
  /-- A star has been passed, so later parameters are given by name only. -/
  sawStar : Bool := false
  /-- A bare star has been passed and nothing after it yet. -/
  bareStar : Bool := false
  sawSlash : Bool := false

def ParameterList.node (list : ParameterList) : Node :=
  .parameters list.positionalOnly list.plain list.rest list.keywordOnly list.keywordDefaults
    list.keywordRest list.defaults

/-- One parameter. With `annotated` it may have a hint, with `starAnnotated` also a starred
one. -/
def parameterName (annotated starAnnotated : Bool) : Parser Node := placed do
  let name ← identifier
  let hint ← optionally (if annotated then acceptOperator ":" else pure false) do
    if starAnnotated && (← nextIsOperator "*") then starExpression rules else rules.expression
  return (.parameter · name hint)

/-- The parameters up to `close`, which stays. -/
def parameterList (annotated : Bool) (close : String) :
    (fuel : Nat) → ParameterList → Parser ParameterList
  | 0, _ => refuse
  | fuel + 1, list => do
    let continueWith (list : ParameterList) : Parser ParameterList := do
      if ← acceptOperator "," then parameterList annotated close fuel list
      else
        require (← nextIsOperator close)
        require !list.bareStar
        return list
    if ← nextIsOperator close then
      require !list.bareStar
      return list
    require list.keywordRest.isEmpty
    if ← acceptOperator "/" then
      require (!list.sawStar && !list.sawSlash && !list.plain.isEmpty)
      continueWith { list with positionalOnly := list.plain, plain := [], sawSlash := true }
    else if ← acceptOperator "**" then
      require !list.bareStar
      let parameter ← parameterName rules annotated false
      continueWith { list with keywordRest := [parameter] }
    else if ← acceptOperator "*" then
      require !list.sawStar
      if ← nextIsOperator "," then continueWith { list with sawStar := true, bareStar := true }
      else
        let parameter ← parameterName rules annotated true
        continueWith { list with rest := [parameter], sawStar := true }
    else
      let parameter ← parameterName rules annotated false
      let default ← optionally (acceptOperator "=") rules.expression
      if list.sawStar then
        let default := default.head?.getD .absent
        continueWith { list with
          keywordOnly := list.keywordOnly ++ [parameter]
          keywordDefaults := list.keywordDefaults ++ [default]
          bareStar := false }
      else
        require (list.defaults.isEmpty || !default.isEmpty)
        continueWith { list with
          plain := list.plain ++ [parameter], defaults := list.defaults ++ default }

def parameters (annotated : Bool) (close : String) : Parser Node := do
  let list ← parameterList rules annotated close (← get).bound {}
  return list.node

def lambdaExpression : Parser Node := placed do
  keyword "lambda"
  let inputs ← parameters rules false ":"
  operator ":"
  return (.lambda · inputs (← rules.expression))

def expression : Parser Node := do
  let start ← peek
  if ← nextIsKeyword "lambda" then lambdaExpression rules
  else
    let body ← disjunction rules
    if ← acceptKeyword "if" then
      let test ← rules.disjunction
      keyword "else"
      let orElse ← rules.expression
      return .conditional (← placeFrom start) test body orElse
    return body

def targetElement : Parser Node := do
  let start ← peek
  if ← acceptOperator "*" then
    let value ← rules.targetElement
    require !(isStarred value)
    return .starred (← placeFrom start) value
  let target ← primary rules
  require (isTarget target)
  return target

/-- The rules for expressions nested at most `depth` deep. -/
def rulesAt : (depth : Nat) → Rules
  | 0 =>
    { expression := refuse, disjunction := refuse, inversion := refuse, bitOr := refuse,
      factor := refuse, targetElement := refuse }
  | depth + 1 =>
    { expression := fun reading => expression (rulesAt depth) reading
      disjunction := fun reading => disjunction (rulesAt depth) reading
      inversion := fun reading => inversion (rulesAt depth) reading
      bitOr := fun reading => bitOr (rulesAt depth) reading
      factor := fun reading => factor (rulesAt depth) reading
      targetElement := fun reading => targetElement (rulesAt depth) reading }

end PrivacyScan.Source
