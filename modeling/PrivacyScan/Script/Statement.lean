import PrivacyScan.Script.Expression

/-!
Reading statements and whole programs. `parse?` is the entry point.
-/

namespace PrivacyScan.Script

open Script.Parser

variable (rules : Rules)

def innerExpression : Parser Node := expressionOf rules.assignment

def condition : Parser Node := between "(" ")" (innerExpression rules)

def blockStatement : Parser Node := placed .block do
  return [← itemsBetween "\x7b" "\x7d" rules.listItem]

def strictNameCheck (node : Node) : Parser Unit := do
  require !((← circumstances).isStrict && isRestrictedName node)

/-- One name or pattern of `let` or `const`, with its value. A constant has one, except where the
values come from a loop. -/
def lexicalBinding (kind : BindingKind) (inFor : Bool) : Parser Node := placed .declarator do
  let (target, _) ← bindingPattern rules kind
  strictNameCheck target
  let isIn ← nextIsKeyword "in"
  let isOf ← nextIsName "of"
  let hasValue ← nextIs "="
  let needsValue :=
    if kind == .constant then !isIn && !isOf else (!inFor && !isIdentifierForm target) || hasValue
  if needsValue then expect "="
  return [[target], ← optionally (pure needsValue) (isolated rules.assignment)]

def bindingList (kind : BindingKind) (inFor : Bool) : Parser (List Node) :=
  commaList (lexicalBinding rules kind inFor)

def lexicalKind (token : Token) : BindingKind :=
  if token.value == "const" then .constant else .letting

def lexicalDeclaration : Parser Node := do
  let start ← advance
  let declarators ← bindingList rules (lexicalKind start) false
  semicolon
  return .declaration start.startLine declarators

/-- Whether `let` begins a declaration here. -/
def isLexicalDeclaration : Parser Bool := do
  let (second, _) ← peekSecond
  return second.kind == .identifier || ["[", "\x7b"].any (second.is .punctuator) ||
    ["let", "yield"].any (second.is .keyword)

def variableBinding (inFor : Bool) : Parser Node := placed .declarator do
  let (target, _) ← bindingPattern rules .var
  strictNameCheck target
  let value ← optionally (accept "=") (isolated rules.assignment)
  require (!value.isEmpty || isIdentifierForm target || inFor)
  return [[target], value]

def variableStatement : Parser Node := headed .declaration do
  let declarators ← commaList (variableBinding rules false)
  semicolon
  return [declarators]

def branchBody : Parser Node := do
  let isFunction ← nextIsKeyword "function"
  require !((← circumstances).isStrict && isFunction)
  rules.statement

def branchStatement : Parser Node := headed .branch do
  let test ← condition rules
  let consequent ← branchBody rules
  let alternate ← optionally (acceptKeyword "else") (branchBody rules)
  return [alternate, [consequent], [test]]

def doWhileStatement : Parser Node := headed .doWhileLoop do
  let body ← inLoop rules.statement
  expectKeyword "while"
  let test ← condition rules
  let _ ← accept ";"
  return [[body], [test]]

def whileStatement : Parser Node := headed .whileLoop do
  let test ← condition rules
  return [[← inLoop rules.statement], [test]]

/-- What the head of a loop says: where values come from, or how to start, test and step. -/
inductive LoopHead where
  | inObject (left right : Node)
  | ofIterable (left right : Node)
  | steps (start : List Node)

def declaresValue : Node → Bool
  | .declarator _ _ value => !value.isEmpty
  | _ => false

def declaresPattern : Node → Bool
  | .declarator _ target _ => !isIdentifierForm target
  | _ => false

/-- A loop over the values that `in` or `of` names, where the one or the other may stand, or else
another head. -/
def loopOver (left : Node) (takesIn takesOf : Bool) (otherwise : Parser LoopHead) :
    Parser LoopHead := do
  let isIn ← nextIsKeyword "in"
  let isOf ← nextIsName "of"
  if takesIn && isIn then
    skip
    return .inObject left (← innerExpression rules)
  else if takesOf && isOf then
    skip
    return .ofIterable left (← rules.assignment)
  else otherwise

def variableLoopHead : Parser LoopHead := do
  let start ← advance
  let declarators ← allowingIn false (commaList (variableBinding rules true))
  let isSingle := declarators.length == 1
  let hasValue := declarators.any declaresValue
  let isStrict := (← circumstances).isStrict
  let takesIn := !(hasValue && (declarators.any declaresPattern || isStrict))
  let declaration := Node.declaration start.startLine declarators
  loopOver rules declaration (isSingle && takesIn) (isSingle && !hasValue) do
    expect ";"
    return .steps [declaration]

def lexicalLoopHead : Parser LoopHead := do
  let start ← advance
  let next ← peek
  if !(← circumstances).isStrict && next.value == "in" then
    skip
    return .inObject start.name (← innerExpression rules)
  let declarators ← allowingIn false (bindingList rules (lexicalKind start) true)
  let declaration := Node.declaration start.startLine declarators
  let isPlain := declarators.length == 1 && !declarators.any declaresValue
  loopOver rules declaration isPlain isPlain do
    semicolon
    return .steps [declaration]

def expressionLoopHead : Parser LoopHead := do
  let start ← peek
  let first ← allowingIn false (inherited rules.assignment)
  let isTarget := (← circumstances).isTarget && first.form != .assignment
  loopOver rules first.toPattern isTarget isTarget do
    let rest ← manyUntil (nextIs ";") (do expect ","; isolated rules.assignment)
    expect ";"
    if rest.isEmpty then return .steps [first]
    return .steps [.mk .sequence start.line [first :: rest]]

def loopHead : Parser LoopHead := do
  if ← accept ";" then return .steps []
  else if ← nextIsKeyword "var" then variableLoopHead rules
  else if (← nextIsKeyword "const") || (← nextIsKeyword "let") then lexicalLoopHead rules
  else expressionLoopHead rules

def forStatement : Parser Node := do
  let start ← advance
  expect "("
  let body : Parser Node := do
    expect ")"
    inLoop (isolated rules.statement)
  let upTo (closing : String) : Parser (List Node) :=
    optionally (do return !(← nextIs closing)) (innerExpression rules)
  match ← loopHead rules with
  | .inObject left right =>
    return .mk .forInLoop start.startLine [[← body], [left], [right]]
  | .ofIterable left right =>
    return .mk .forOfLoop start.startLine [[← body], [left], [right]]
  | .steps initial =>
    let test ← upTo ";"
    expect ";"
    let update ← upTo ")"
    return .mk .forLoop start.startLine [[← body], initial, test, update]

/-- The label behind `break` or `continue`, if one stands on the same line; it must be known. -/
def jumpLabel : Parser (List Node) := do
  let next ← peek
  if next.kind == .identifier && !(← get).afterLineEnd then
    let label ← variableName .parameter
    require ((← circumstances).labels.contains next.value)
    return [label]
  return []

/-- `break` or `continue`; without a label it has to stand in something that it leaves. -/
def jumpStatement (form : Form) (isInside : Circumstances → Bool) : Parser Node := headed form do
  let label ← jumpLabel
  semicolon
  require (!label.isEmpty || isInside (← circumstances))
  return [label]

def returnStatement : Parser Node := headed .returning do
  require (← circumstances).inFunction
  let next ← peek
  let stops := [";", "\x7d"].any (next.is .punctuator) || next.kind == .endOfInput
  let hasValue :=
    (!stops && !(← get).afterLineEnd) || next.kind == .text || next.kind == .template
  let value ← optionally (pure hasValue) (innerExpression rules)
  semicolon
  return [value]

def withStatement : Parser Node := headed .withStatement do
  require !(← circumstances).isStrict
  let object ← condition rules
  return [[← rules.statement], [object]]

def switchCase : Parser (Node × Bool) := do
  let start ← peek
  let isDefault ← acceptKeyword "default"
  if !isDefault then expectKeyword "case"
  let test ← optionally (pure !isDefault) (innerExpression rules)
  expect ":"
  let ends : Parser Bool := do
    return (← nextIs "\x7d") || (← nextIsKeyword "default") || (← nextIsKeyword "case")
  let statements ← manyUntil ends rules.listItem
  return (.mk .switchCase start.startLine [statements, test], isDefault)

def switchStatement : Parser Node := headed .switch do
  let subject ← condition rules
  let cases ← within ({ · with inSwitch := true })
    (fun outer c => { c with inSwitch := outer.inSwitch })
    (itemsBetween "\x7b" "\x7d" (switchCase rules))
  require (cases.countP (·.2) ≤ 1)
  return [cases.map (·.1), [subject]]

def throwStatement : Parser Node := headed .throwing do
  require !(← get).afterLineEnd
  let value ← innerExpression rules
  semicolon
  return [[value]]

def catchClause : Parser Node := headed .catchClause do
  let parameter ← between "(" ")" do
    let (parameter, names) ← bindingPattern rules .parameter
    require names.Nodup
    strictNameCheck parameter
    return parameter
  return [[← blockStatement rules], [parameter]]

def tryStatement : Parser Node := headed .trying do
  let block ← blockStatement rules
  let handler ← optionally (nextIsKeyword "catch") (catchClause rules)
  let finalizer ← optionally (acceptKeyword "finally") (blockStatement rules)
  require !(handler.isEmpty && finalizer.isEmpty)
  return [[block], finalizer, handler]

def expressionStatement : Parser Node := placed .expressionStatement do
  let expression ← expressionOf (assignmentExpression rules)
  semicolon
  return [[expression]]

def labeledStatement : Parser Node := do
  let start ← peek
  let expression ← expressionOf (assignmentExpression rules)
  let isLabel ← nextIs ":"
  match if isLabel then nodeName? expression else none with
  | some name =>
    skip
    require !((← circumstances).labels.contains name)
    change fun c => { c with labels := name :: c.labels }
    let isClass ← nextIsKeyword "class"
    let isFunction ← nextIsKeyword "function"
    require !isClass
    let body ← do
      if isFunction then
        let (declaration, isGenerator) ← functionDeclaration rules
        require (!(← circumstances).isStrict && !isGenerator)
        pure declaration
      else rules.statement
    change fun c => { c with labels := c.labels.erase name }
    return .mk .labeled start.startLine [[body], [expression]]
  | none =>
    semicolon
    return .mk .expressionStatement start.startLine [[expression]]

def keywordStatement (word : String) : Parser Node := do
  match word with
  | "break" => jumpStatement .breaking fun c => c.inIteration || c.inSwitch
  | "continue" => jumpStatement .continuing (·.inIteration)
  | "debugger" =>
    headed .debugger do
      semicolon
      return []
  | "do" => doWhileStatement rules
  | "for" => forStatement rules
  | "function" => return (← functionDeclaration rules).1
  | "if" => branchStatement rules
  | "return" => returnStatement rules
  | "switch" => switchStatement rules
  | "throw" => throwStatement rules
  | "try" => tryStatement rules
  | "var" => variableStatement rules
  | "while" => whileStatement rules
  | "with" => withStatement rules
  | _ => expressionStatement rules

def statement : Parser Node := do
  let next ← peek
  match next.kind with
  | .boolean | .null | .number | .text | .template | .pattern => expressionStatement rules
  | .punctuator =>
    if next.value == "\x7b" then blockStatement rules
    else if next.value == ";" then headed .empty (pure [])
    else expressionStatement rules
  | .identifier =>
    if ← isAsyncFunction then return (← functionDeclaration rules).1 else labeledStatement rules
  | .keyword => keywordStatement rules next.value
  | .endOfInput => refuse

def listItem : Parser Node := do
  change ({ · with isTarget := true, isBinding := true })
  let next ← peek
  match if next.kind == .keyword then next.value else "" with
  | "export" => refuse
  | "import" =>
    require (← isImportCall)
    expressionStatement rules
  | "const" => lexicalDeclaration rules
  | "function" => return (← functionDeclaration rules).1
  | "class" => classWith rules .classDeclaration false
  | "let" => if ← isLexicalDeclaration then lexicalDeclaration rules else statement rules
  | _ => statement rules

/-- The rules for programs nested at most `depth` deep. -/
def rulesAt : (depth : Nat) → Rules
  | 0 =>
    { assignment := refuse, unary := refuse, exponentiation := refuse, call := refuse,
      constructed := refuse, pattern := fun _ => refuse, statement := refuse, listItem := refuse }
  | depth + 1 =>
    { assignment := fun reading => assignmentExpression (rulesAt depth) reading
      unary := fun reading => unaryExpression (rulesAt depth) reading
      exponentiation := fun reading => exponentiation (rulesAt depth) reading
      call := fun reading => callExpression (rulesAt depth) reading
      constructed := fun reading => constructedExpression (rulesAt depth) reading
      pattern := fun kind reading => bindingPattern (rulesAt depth) kind reading
      statement := fun reading => statement (rulesAt depth) reading
      listItem := fun reading => listItem (rulesAt depth) reading }

def program : Parser Node := do
  let opening ← directives (assignmentExpression rules) (← get).bound false
  let statements ← manyUntil atEnd (listItem rules)
  return .mk .program 1 [opening ++ statements]

def parse? (text : String) : Option Node := do
  let source := text.toList
  let bound := source.length + 10
  let scanner : Scanner := { rest := source }
  let blank : Token := { kind := .endOfInput, value := "", startLine := 1, line := 1 }
  let whole : Parser Node := do
    readNext blank
    program (rulesAt bound)
  let (node, _) ← whole { next := blank, before := scanner, after := scanner, bound }
  return node

end PrivacyScan.Script
