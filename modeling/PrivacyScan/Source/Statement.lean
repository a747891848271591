import PrivacyScan.Source.CasePattern

/-!
Reading statements and whole modules. `parseModule?` and `parseExpression?` are the entry points.
-/

namespace PrivacyScan.Source

open Text
open Source.Parser

def augmentedOperators : List (String × BinaryOperator) :=
  [("+=", .add), ("-=", .sub), ("*=", .mult), ("@=", .matMult), ("/=", .div), ("%=", .mod),
    ("&=", .bitAnd), ("|=", .bitOr), ("^=", .bitXor), ("<<=", .leftShift), (">>=", .rightShift),
    ("**=", .pow), ("//=", .floorDiv)]

def isSingleTarget : Node → Bool
  | .name .. | .member .. | .subscript .. => true
  | _ => false

def placeOfDefinition (start : Token) : Parser Place := do
  return { (← placeFrom start) with column := start.column }

variable (rules : Rules)

def yieldOrExpressions : Parser Node := do
  if ← nextIsKeyword "yield" then yieldExpression rules else starExpressions rules

/-- An expression, or an assignment of one of the three kinds. -/
def expressionStatement : Parser Node := do
  let start ← peek
  let first ← yieldOrExpressions rules
  if ← acceptOperator ":" then
    require (isSingleTarget first)
    let isName := match first with | .name .. => true | _ => false
    let hint ← rules.expression
    let value ← optionally (acceptOperator "=") (yieldOrExpressions rules)
    return .annAssign (← placeFrom start) (isName && start.kind == .name) first hint value
  match ← acceptOneOf augmentedOperators with
  | some operator =>
    require (isSingleTarget first)
    let value ← yieldOrExpressions rules
    return .augAssign (← placeFrom start) operator first value
  | none =>
    let values ← many (acceptOperator "=") (yieldOrExpressions rules)
    -- All but the last of the values are targets as well.
    match (first :: values).reverse with
    | value :: lastTarget :: targets =>
      let targets := (lastTarget :: targets).reverse
      require (targets.all (isTargetWith true))
      return .assign (← placeOfDefinition start) targets value
    | _ => return .expression (← placeFrom start) first

def dottedName : Parser String := do return join "." (← chain "." identifier)

/-- The name behind `as`, if that word stands here. -/
def binding? : Parser (Option String) := do
  return (← optionally (acceptKeyword "as") identifier).head?

def aliasOf (name : Parser String) : Parser Node := placed do
  let id ← name
  let binding ← binding?
  return (.importAs · id binding)

def importStatement : Parser Node := placed do
  keyword "import"
  let names ← chain "," (aliasOf dottedName)
  return (.importing · names)

def importFromStatement : Parser Node := placed do
  keyword "from"
  let isDots : Parser Bool := do return (← nextIsOperator ".") || (← nextIsOperator "...")
  let dots ← many isDots (do return (← advance).text.length)
  let level := dots.foldl (· + ·) 0
  let source := (← optionally (nextIs .name) dottedName).head?
  require (source.isSome || 0 < level)
  keyword "import"
  let names ← do
    let first ← peek
    if ← acceptOperator "*" then pure [Node.importAs (← placeFrom first) "*" none]
    else if ← acceptOperator "(" then
      let (names, _) ← commaItems (aliasOf identifier)
      operator ")"
      pure names
    else chain "," (aliasOf identifier)
  return (.importingFrom · source level names)

def isDeletable (node : Node) : Bool :=
  match node with
  | .name .. | .member .. | .subscript .. => true
  | .list _ elements | .tuple _ elements =>
    elements.attach.all fun ⟨element, _⟩ => isDeletable element
  | _ => false
termination_by sizeOf node
decreasing_by
  all_goals simp_wf
  all_goals (have smaller := List.sizeOf_lt_of_mem ‹_ ∈ _›); omega

def deleteStatement : Parser Node := placed do
  keyword "del"
  let (targets, _) ← commaItems do
    let node ← rules.targetElement
    require (isDeletable node)
    return node
  return (.deleting · targets)

def raiseStatement : Parser Node := placed do
  keyword "raise"
  match ← attempt rules.expression with
  | some exception =>
    let cause ← optionally (acceptKeyword "from") rules.expression
    return (.raising · [exception] cause)
  | none => return (.raising · [] [])

def assertStatement : Parser Node := placed do
  keyword "assert"
  let test ← rules.expression
  let message ← optionally (acceptOperator ",") rules.expression
  return (.assertion · test message)

/-- A statement that starts with a word and has nothing but `rest` behind it. -/
def wordStatement {α : Type} (node : Place → α → Node) (rest : Parser α) : Parser Node := placed do
  skip
  let rest ← rest
  return (node · rest)

def simpleStatement : Parser Node := do
  let start ← peek
  match if start.kind == .keyword then start.text else "" with
  | "return" =>
    wordStatement .returning (do return (← attempt (starExpressions rules)).toList)
  | "import" => importStatement
  | "from" => importFromStatement
  | "raise" => raiseStatement rules
  | "pass" => wordStatement (fun place _ => .pass place) (pure ())
  | "del" => deleteStatement rules
  | "assert" => assertStatement rules
  | "break" => wordStatement (fun place _ => .breaking place) (pure ())
  | "continue" => wordStatement (fun place _ => .continuing place) (pure ())
  | "global" => wordStatement .globals (chain "," identifier)
  | "nonlocal" => wordStatement .nonlocals (chain "," identifier)
  | _ => expressionStatement rules

def statementsOfLine : (fuel : Nat) → Parser (List Node)
  | 0 => refuse
  | fuel + 1 => do
    let first ← simpleStatement rules
    if (← acceptOperator ";") && !(← nextIs .newline) then
      return first :: (← statementsOfLine fuel)
    kind .newline
    return [first]

def simpleStatements : Parser (List Node) := do
  statementsOfLine rules (← get).bound

/-- The items of an indented block, one at least. -/
def indented {α : Type} (item : Parser α) : Parser (List α) := do
  kind .newline
  kind .indent
  let first ← item
  let rest ← many (do return !(← nextIs .dedent)) item
  kind .dedent
  return first :: rest

section Compound

variable (statement : Parser (List Node))

/-- What follows a colon: an indented block, or statements on the same line. -/
def block : Parser (List Node) := do
  operator ":"
  if ← nextIs .newline then return (← indented statement).flatten
  simpleStatements rules

def elseBlock : Parser (List Node) := do
  if ← acceptKeyword "else" then block rules statement else return []

/-- An `if` or `elif` with what follows it. Each `elif` is a branch of its own inside the one
before. -/
def branchStatement (word : String) : (fuel : Nat) → Parser Node
  | 0 => refuse
  | fuel + 1 => placed do
    keyword word
    let test ← namedExpression rules.expression
    let body ← block rules statement
    let orElse ← do
      if ← nextIsKeyword "elif" then pure [← branchStatement "elif" fuel]
      else elseBlock rules statement
    return (.branch · test body orElse)

def whileStatement : Parser Node := placed do
  keyword "while"
  let test ← namedExpression rules.expression
  let body ← block rules statement
  let orElse ← elseBlock rules statement
  return (.whileLoop · test body orElse)

def forStatement (start : Token) (isAsync : Bool) : Parser Node := do
  keyword "for"
  let target ← starTargets rules
  keyword "in"
  let iterable ← starExpressions rules
  let body ← block rules statement
  let orElse ← elseBlock rules statement
  return .forLoop (← placeFrom start) isAsync target iterable body orElse

def withItemRule : Parser Node := do
  let context ← rules.expression
  let bound ← attempt (do
    keyword "as"
    let target ← rules.targetElement
    require ((← nextIsOperator ",") || (← nextIsOperator ")") || (← nextIsOperator ":"))
    return target)
  return .withItem context bound.toList

def withStatement (start : Token) (isAsync : Bool) : Parser Node := do
  keyword "with"
  let parenthesizedItems : Parser (List Node) := do
    operator "("
    let (items, _) ← commaItems (withItemRule rules)
    operator ")"
    require (← nextIsOperator ":")
    return items
  let items ← orElse parenthesizedItems (chain "," (withItemRule rules))
  let body ← block rules statement
  return .withBlock (← placeFrom start) isAsync items body

def exceptHandler (isStar : Bool) : Parser Node := placed do
  keyword "except"
  if isStar then operator "*"
  let isBare := !isStar && (← nextIsOperator ":")
  let kind ← optionally (pure !isBare) rules.expression
  let id ← if isBare then pure none else binding?
  let body ← block rules statement
  return (.handler · id kind body)

def tryStatement : Parser Node := placed do
  keyword "try"
  let body ← block rules statement
  let isStar := (← nextIsKeyword "except") && (← secondIs .operator "*")
  let handlers ← many (nextIsKeyword "except") (exceptHandler rules statement isStar)
  let orElse ← if handlers.isEmpty then pure [] else elseBlock rules statement
  let finalBody ← if ← acceptKeyword "finally" then block rules statement else pure []
  require (!handlers.isEmpty || !finalBody.isEmpty)
  return (.trying · isStar body handlers orElse finalBody)

def functionStatement (decorators : List Node) (start : Token) (isAsync : Bool) : Parser Node := do
  keyword "def"
  let id ← identifier
  operator "("
  let inputs ← parameters rules true ")"
  operator ")"
  let returns ← optionally (acceptOperator "->") rules.expression
  let body ← block rules statement
  return .functionDef (← placeOfDefinition start) isAsync id inputs body decorators returns

def classStatement (decorators : List Node) : Parser Node := do
  let start ← peek
  keyword "class"
  let id ← identifier
  let arguments ← if ← nextIsOperator "(" then callArguments rules else pure {}
  let body ← block rules statement
  return .classDef (← placeOfDefinition start) id arguments.plain arguments.keywords body decorators

def decorated : Parser Node := do
  let decorators ← many (nextIsOperator "@") (do
    operator "@"
    let decorator ← namedExpression rules.expression
    kind .newline
    return decorator)
  let start ← peek
  if ← nextIsKeyword "class" then classStatement rules statement decorators
  else
    let isAsync ← acceptKeyword "async"
    functionStatement rules statement decorators start isAsync

def caseBlock : Parser Node := do
  require ((← advance).is .name "case")
  let pattern ← casePatterns (casePatternAt rules (← get).bound)
  let guard ← optionally (acceptKeyword "if") (namedExpression rules.expression)
  let body ← block rules statement
  return .matchCase pattern guard body

def matchStatement : Parser Node := placed do
  require ((← advance).is .name "match")
  let subject ← oneOrTuple (starNamedExpression rules)
  require !(isStarred subject)
  operator ":"
  let cases ← indented (caseBlock rules statement)
  return (.matching · subject cases)

end Compound

def statement (inner : Parser (List Node)) : Parser (List Node) := do
  let start ← peek
  match if start.kind == .keyword then start.text else "" with
  | "if" => return [← branchStatement rules inner "if" (← get).bound]
  | "while" => return [← whileStatement rules inner]
  | "for" => return [← forStatement rules inner start false]
  | "with" => return [← withStatement rules inner start false]
  | "try" => return [← tryStatement rules inner]
  | "def" => return [← functionStatement rules inner [] start false]
  | "class" => return [← classStatement rules inner []]
  | "async" =>
    keyword "async"
    if ← nextIsKeyword "def" then return [← functionStatement rules inner [] start true]
    else if ← nextIsKeyword "for" then return [← forStatement rules inner start true]
    else return [← withStatement rules inner start true]
  | _ =>
    if ← nextIsOperator "@" then return [← decorated rules inner]
    else if start.is .name "match" then
      match ← attempt (matchStatement rules inner) with
      | some node => return [node]
      | none => simpleStatements rules
    else simpleStatements rules

def statementAt : (depth : Nat) → Parser (List Node)
  | 0 => refuse
  | depth + 1 => fun reading => statement rules (statementAt depth) reading

def parseModule? (text : String) : Option Node := do
  let tokens ← tokens? text.toList 1 0
  let bound := tokens.length + 10
  let whole : Parser (List Node) := do
    let groups ← many (do return !(← nextIs .endOfInput)) (statementAt (rulesAt bound) bound)
    return groups.flatten
  let (body, _) ← whole { tokens, bound }
  return .module body

/-- Whether a text ends in a line of its own that holds only the blanks of an indentation. -/
def endsInIndentation (text : String) : Bool :=
  match (splitAll (fun c => c == '\n' || c == '\r') text.toList).reverse with
  | last :: before :: _ =>
    let indentation := (splitAll (· == '\x0c') last).getLast?.getD []
    !indentation.isEmpty && indentation.all (fun c => c == ' ' || c == '\t') &&
      before.getLast? != some '\\'
  | _ => false

/-- The tree of a single expression, which may be a tuple without parentheses. No statement could
follow it, so an indentation behind it is refused. -/
def parseExpression? (text : String) : Option Node := do
  guard (!endsInIndentation text)
  let tokens ← tokens? text.toList 1 0
  let bound := tokens.length + 10
  let rules := rulesAt bound
  let plain : Parser Node := do
    let node ← oneOrTuple rules.expression
    let _ ← many (nextIs .newline) advance
    kind .endOfInput
    return node
  let (node, _) ← plain { tokens, bound }
  return node

end PrivacyScan.Source
