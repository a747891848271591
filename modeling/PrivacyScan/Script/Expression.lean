import PrivacyScan.Script.Reading

/-!
Reading expressions, patterns, functions and classes. Each rule is a function of the rules further
in (`Rules`), which it uses only after a token has been passed.
-/

namespace PrivacyScan.Script

open Script.Parser

inductive BindingKind where
  | var
  | letting
  | constant
  | parameter
deriving Repr, DecidableEq

/-- The rules that may occur again inside themselves. -/
structure Rules where
  assignment : Parser Node
  unary : Parser Node
  exponentiation : Parser Node
  /-- A primary expression with members and calls. -/
  call : Parser Node
  /-- What `new` is applied to: no calls. -/
  constructed : Parser Node
  /-- A pattern with the names it binds. -/
  pattern : BindingKind → Parser (Node × List String)
  statement : Parser Node
  listItem : Parser Node

def isIdentifierForm : Node → Bool
  | .identifier .. => true
  | _ => false

def nodeName? : Node → Option String
  | .identifier _ name => some name
  | _ => none

def expressionOf (assignment : Parser Node) : Parser Node := do
  let start ← peek
  match ← commaList (isolated assignment) with
  | [node] => return node
  | nodes => return .mk .sequence start.line [nodes]

def Token.name (token : Token) : Node := .identifier token.startLine token.value

/-- The literal that a token is; of a text the value is kept. -/
def Token.literal (token : Token) : Node :=
  .mk (.literal (if token.kind == .text then some token.value else none)) token.startLine []

def anyName : Parser Node := do
  let token ← advance
  require ([.identifier, .keyword, .boolean, .null].contains token.kind)
  return token.name

def variableName (kind : BindingKind) : Parser Node := do
  let token ← advance
  let c ← circumstances
  if token.is .keyword "yield" then require (!c.isStrict && c.allowYield)
  else if token.kind != .identifier then
    require (!c.isStrict && token.value == "let" && kind == .var)
  else if c.inAsync then require (token.value != "await")
  return token.name

variable (rules : Rules)

def spreadElement : Parser Node := headed .spread do return [[← inherited rules.assignment]]

/-! ### Patterns -/

def patternWithDefault (kind : BindingKind) : Parser (Node × List String) := do
  let start ← peek
  let (pattern, names) ← rules.pattern kind
  if ← accept "=" then
    let value ← allowingYield true (isolated rules.assignment)
    return (.mk .defaultPattern start.line [[pattern], [value]], names)
  return (pattern, names)

/-- A pattern that gathers the rest, which comes last, or another item. -/
def restOr (kind : BindingKind) (closing : String) (item : Parser (Node × List String)) :
    Parser (Node × List String) := do
  let start ← peek
  if ← accept "..." then
    let (pattern, names) ← rules.pattern kind
    require (← nextIs closing)
    return (.mk .rest start.startLine [[pattern]], names)
  item

def patternsBetween (form : Form) (opening closing : String) (item : Parser (Node × List String)) :
    Parser (Node × List String) := do
  let start ← peek
  let items ← itemsBetween opening closing item
  return (.mk form start.startLine [items.map (·.1)], items.flatMap (·.2))

def arrayPattern (kind : BindingKind) : Parser (Node × List String) :=
  patternsBetween .arrayPattern "[" "]" do
    if ← accept "," then return (.absent, [])
    separated "]" (restOr rules kind "]" (patternWithDefault rules kind))

def propertyKey : Parser Node := do
  let token ← advance
  match token.kind with
  | .text | .number =>
    require !((← circumstances).isStrict && token.isOctal)
    return token.literal
  | .identifier | .boolean | .null | .keyword => return token.name
  | .punctuator =>
    require (token.value == "[")
    let key ← isolated rules.assignment
    expect "]"
    return key
  | _ => refuse

/-- A key, and whether it is computed. -/
def computedKey : Parser (Node × Bool) := do
  let isComputed ← nextIs "["
  return (← propertyKey rules, isComputed)

def propertyPattern (kind : BindingKind) : Parser (Node × List String) := do
  let token ← peek
  let isName := token.kind == .identifier
  let property (key value : Node) : Node := .mk .property token.startLine [[key], [value]]
  let key ← if isName then variableName .parameter else propertyKey rules
  let hasColon ← nextIs ":"
  if isName && !hasColon then
    if ← accept "=" then
      let value ← rules.assignment
      return (property key (.mk .defaultPattern token.line [[key], [value]]), [token.value])
    return (property key key, [token.value])
  expect ":"
  let (value, names) ← patternWithDefault rules kind
  return (property key value, names)

def objectPattern (kind : BindingKind) : Parser (Node × List String) :=
  patternsBetween .objectPattern "\x7b" "\x7d" <| separated "\x7d" <|
    restOr rules .parameter "\x7d" (propertyPattern rules kind)

def bindingPattern (kind : BindingKind) : Parser (Node × List String) := do
  if ← nextIs "[" then arrayPattern rules kind
  else if ← nextIs "\x7b" then objectPattern rules kind
  else
    let token ← peek
    if kind == .constant || kind == .letting then require !(← nextIsKeyword "let")
    return (← variableName kind, [token.value])

/-! ### Parameters and bodies of functions -/

inductive ParameterFault where
  | restricted
  | reserved
  | duplicate
deriving Repr, DecidableEq

/-- What the parameters of a function have come to. A fault for all strict code is kept apart from
one that matters only if the body turns out to be strict. -/
structure ParameterList where
  isSimple : Bool := true
  nodes : List Node := []
  names : List String := []
  strictFault : Bool := false
  lateFault : Bool := false
  lastFault : Option ParameterFault := none

def ParameterList.checkName (list : ParameterList) (isStrict : Bool) (name : String) :
    ParameterList :=
  let isRestricted := restrictedWords.contains name
  let isDuplicate := list.names.contains name
  let list :=
    if isStrict then
      let list :=
        if isRestricted then { list with strictFault := true, lastFault := some .restricted }
        else list
      if isDuplicate then { list with strictFault := true, lastFault := some .duplicate } else list
    else if list.lateFault then list
    else if isRestricted then { list with lateFault := true, lastFault := some .restricted }
    else if strictWords.contains name then
      { list with lateFault := true, lastFault := some .reserved }
    else if isDuplicate then { list with strictFault := true, lastFault := some .duplicate }
    else list
  { list with names := name :: list.names }

def parameter : Parser (Node × List String) :=
  restOr rules .parameter ")" (patternWithDefault rules .parameter)

/-- Parameters in parentheses; `lateFault` tells that the name of the function is at fault. -/
def parameterList (lateFault : Bool) : Parser ParameterList := do
  let items ← itemsBetween "(" ")" (separated ")" (parameter rules))
  let isStrict := (← circumstances).isStrict
  let start : ParameterList := { lateFault }
  let list := (items.flatMap (·.2)).foldl (fun list name => list.checkName isStrict name) start
  return { list with isSimple := items.all (isIdentifierForm ·.1), nodes := items.map (·.1) }

/-- The texts that stand alone at the start of a body; `use strict` makes the body strict. -/
def directives (assignment : Parser Node) : (fuel : Nat) → (sawOctal : Bool) → Parser (List Node)
  | 0, _ => refuse
  | fuel + 1, sawOctal => do
    let token ← peek
    if token.kind != .text then return []
    let expression ← expressionOf assignment
    let isLiteral := match expression.form with | .literal _ => true | _ => false
    semicolon
    let statement := Node.mk .expressionStatement token.startLine [[expression]]
    if !isLiteral || token.raw.isEmpty then return [statement]
    if token.raw == "use strict" then
      change ({ · with isStrict := true })
      require (!sawOctal && (← circumstances).allowStrictDirective)
      let rest ← directives assignment fuel sawOctal
      return statement :: rest
    else
      let rest ← directives assignment fuel (sawOctal || token.isOctal)
      return statement :: rest

def functionBody : Parser Node := placed .block <| between "\x7b" "\x7d" do
  let opening ← directives rules.assignment (← get).bound false
  within ({ · with labels := [], inIteration := false, inSwitch := false, inFunction := true })
    (fun outer c => { c with
      labels := outer.labels
      inIteration := outer.inIteration
      inSwitch := outer.inSwitch
      inFunction := outer.inFunction }) do
      let statements ← manyUntil (nextIs "\x7d") rules.listItem
      return [opening ++ statements]

/-- A body under its parameters: their faults count if the body is strict. -/
def bodyUnder (list : ParameterList) (body : Parser Node) : Parser Node :=
  within ({ · with allowStrictDirective := list.isSimple })
    (fun outer c => { c with
      isStrict := outer.isStrict
      allowStrictDirective := outer.allowStrictDirective }) do
      let body ← body
      require !((← circumstances).isStrict && (list.lateFault || list.strictFault))
      return body

def methodBody (list : ParameterList) : Parser Node := do
  fixed
  bodyUnder list (isolated (functionBody rules))

def ofFunction (isAsync isGenerator : Bool) (parser : Parser Node) : Parser Node :=
  within ({ · with inAsync := isAsync, allowYield := !isGenerator })
    (fun outer c => { c with inAsync := outer.inAsync, allowYield := outer.allowYield }) parser

/-- A method that is not `async`, whose parameters pass a test. -/
def methodWith (isGenerator : Bool) (test : List Node → Parser Unit) : Parser Node :=
  placed (.functionExpression isGenerator) <| allowingYield true do
    let list ← parameterList rules false
    test list.nodes
    if isGenerator then change ({ · with allowYield := false })
    return [[← methodBody rules list], [], list.nodes]

/-- Behind a getter `yield` stays a keyword. -/
def getterMethod : Parser Node := do
  change ({ · with allowYield := false })
  methodWith rules false fun nodes => require nodes.isEmpty

def setterMethod : Parser Node := methodWith rules false fun
  | [node] => require (node.form != .rest)
  | _ => refuse

def method (isAsync : Bool) : Parser Node :=
  if isAsync then
    ofFunction true true <| placed (.functionExpression false) do
      let list ← parameterList rules false
      return [[← methodBody rules list], [], list.nodes]
  else methodWith rules false fun _ => pure ()

/-- The words that a function starts with: whether it is asynchronous, and whether it is a
generator. -/
def functionHead : Parser (Bool × Bool) := do
  let isAsync ← passIf (nextIsName "async")
  expectKeyword "function"
  return (isAsync, ← if isAsync then pure false else accept "*")

/-- The name of a function, and whether it is one that strict code does not allow; in strict code it
is refused at once. -/
def functionName (name : Parser Node) : Parser (List Node × Bool) := do
  let token ← peek
  let id ← name
  let isRestricted := restrictedWords.contains token.value
  if (← circumstances).isStrict then
    require !isRestricted
    return ([id], false)
  return ([id], isRestricted || strictWords.contains token.value)

/-- The parameters and the body of a function, and the node that they make. -/
def functionRest (form : Form) (line : Nat) (id : List Node) (nameFault : Bool) : Parser Node := do
  let list ← parameterList rules nameFault
  let body ← bodyUnder list (functionBody rules)
  return .mk form line [[body], id, list.nodes]

def functionDeclaration : Parser (Node × Bool) := do
  let line := (← peek).startLine
  let (isAsync, isGenerator) ← functionHead
  let (id, nameFault) ← functionName (variableName .parameter)
  let node ← ofFunction isAsync isGenerator
    (functionRest rules .functionDeclaration line id nameFault)
  return (node, isGenerator)

def functionExpression : Parser Node := do
  let line := (← peek).startLine
  let (isAsync, isGenerator) ← functionHead
  let isStrict := (← circumstances).isStrict
  ofFunction isAsync isGenerator do
    let (id, nameFault) ← do
      if ← nextIs "(" then pure ([], false)
      else
        let takesYield ← nextIsKeyword "yield"
        functionName
          (if !isStrict && !isGenerator && takesYield then anyName else variableName .parameter)
    functionRest rules (.functionExpression isGenerator) line id nameFault

/-! ### Objects and classes -/

/-- A token that can begin the key of a property. -/
def beginsKey (token : Token) : Bool :=
  match token.kind with
  | .identifier | .text | .boolean | .null | .number | .keyword => true
  | .punctuator => token.value == "["
  | _ => false

def isKeyNamed (key : Node) (name : String) : Bool :=
  match key.form with
  | .identifier id => id == name
  | .literal (some text) => text == name
  | _ => false

/-- An accessor or a generator, if `token` announces one: its key, whether that is computed, and the
function. -/
def announcedMethod? (token : Token) : Parser (Option (Node × Bool × Node)) := do
  if !beginsKey (← peek) then return none
  let method? :=
    if token.is .identifier "get" then some (getterMethod rules)
    else if token.is .identifier "set" then some (setterMethod rules)
    else if token.is .punctuator "*" then some (methodWith rules true fun _ => pure ())
    else none
  match method? with
  | none => return none
  | some method =>
    let (key, isComputed) ← computedKey rules
    return some (key, isComputed, ← method)

/-- The key with which a property starts, if one does, whether it is computed, and whether the
property is an asynchronous method. -/
def propertyStart (token : Token) : Parser (Option Node × Bool × Bool) := do
  if token.kind == .identifier then
    skip
    let isComputed ← nextIs "["
    let ends := [":", "(", "*", ","].any ((← peek).is .punctuator)
    let isAsync := !(← get).afterLineEnd && token.value == "async" && !ends
    let key ← if isAsync then propertyKey rules else pure token.name
    return (key, isComputed, isAsync)
  else if ← accept "*" then return (none, false, false)
  else
    let (key, isComputed) ← computedKey rules
    return (key, isComputed, false)

/-- A property of an object, and whether it sets the prototype. -/
def objectProperty : Parser (Node × Bool) := do
  let token ← peek
  let property (key value : Node) : Node := .mk .property token.startLine [[key], [value]]
  let (key?, isComputed, isAsync) ← propertyStart rules token
  let announced? ← if isAsync then pure none else announcedMethod? rules token
  match announced?, key? with
  | some (key, _, value), _ => return (property key value, false)
  | none, none => refuse
  | none, some key =>
    let hasColon ← nextIs ":"
    if hasColon && !isAsync then
      skip
      let value ← inherited rules.assignment
      return (property key value, !isComputed && isKeyNamed key "__proto__")
    else if ← nextIs "(" then return (property key (← method rules isAsync), false)
    else
      require (token.kind == .identifier)
      if ← accept "=" then
        change ({ · with hasStrayDefault := true })
        let value ← isolated rules.assignment
        let filled := Node.mk .defaultPattern token.startLine [[token.name], [value]]
        return (property key filled, false)
      else return (property key token.name, false)

/-- An object sets its prototype at most once. -/
def objectExpression : Parser Node := placed .object do
  let items ← itemsBetween "\x7b" "\x7d" <| separated "\x7d" do
    if ← nextIs "..." then return (← spreadElement rules, false)
    objectProperty rules
  require (items.countP (·.2) ≤ 1)
  return [items.map (·.1)]

def arrayExpression : Parser Node := placed .array do
  let elements ← itemsBetween "[" "]" do
    if ← accept "," then return .absent
    separated "]" do
      if ← nextIs "..." then
        let element ← spreadElement rules
        if !(← nextIs "]") then fixed
        return element
      inherited rules.assignment
  return [elements]

/-- How a method of a class begins: the token that decides what it is, its key if one has been read,
and whether it is static or asynchronous. -/
structure MethodStart where
  token : Token
  key : Option Node
  isComputed : Bool
  isStatic : Bool
  isAsync : Bool

def methodStart : Parser MethodStart := do
  let token ← peek
  if ← accept "*" then
    return { token, key := none, isComputed := false, isStatic := false, isAsync := false }
  let (key, isComputed) ← computedKey rules
  let next ← peek
  let isStatic := nodeName? key == some "static" && (beginsKey next || next.is .punctuator "*")
  let (token, key, isComputed) ← do
    if isStatic then
      if ← accept "*" then pure (next, key, false) else pure (next, ← computedKey rules)
    else pure (token, key, isComputed)
  let punctuator := (← peek).value
  let maybeAsync := token.kind == .identifier && !(← get).afterLineEnd && token.value == "async"
  if maybeAsync && !List.contains [":", "(", "*"] punctuator then
    let token ← peek
    let key ← propertyKey rules
    require !(token.is .identifier "constructor")
    return { token, key, isComputed, isStatic, isAsync := true }
  return { token, key, isComputed, isStatic, isAsync := false }

/-- A method of a class, and whether it is the constructor. -/
def classElement : Parser (Node × Bool) := do
  let line := (← peek).startLine
  let start ← methodStart rules
  let announced? ← announcedMethod? rules start.token
  let (key, isComputed, value) ←
    match announced?, start.key with
    | some announced, _ => pure announced
    | none, some key => do
      require (← nextIs "(")
      pure (key, start.isComputed, ← method rules start.isAsync)
    | none, none => refuse
  let isAccessor := announced?.isSome && start.token.kind == .identifier
  let isConstructor := !isComputed && !start.isStatic && isKeyNamed key "constructor"
  require !(!isComputed && start.isStatic && isKeyNamed key "prototype")
  require !(isConstructor && (isAccessor || value.form == .functionExpression true))
  return (.mk .method line [[key], [value]], isConstructor)

/-- A class has one constructor at most. -/
def classBody : Parser Node := placed .classBody do
  let elements ← itemsBetween "\x7b" "\x7d" do
    if ← accept ";" then return none
    return some (← classElement rules)
  require (elements.countP (·.any (·.2)) ≤ 1)
  return [elements.filterMap (·.map (·.1))]

/-- A class; all of it is strict. -/
def classWith (form : Form) (nameOptional : Bool) : Parser Node := placed form <|
  within ({ · with isStrict := true }) (fun outer c => { c with isStrict := outer.isStrict }) do
    expectKeyword "class"
    let isNamed := !nameOptional || (← peek).kind == .identifier
    let id ← optionally (pure isNamed) (variableName .parameter)
    let superClass ← optionally (acceptKeyword "extends") (isolated rules.call)
    return [[← classBody rules], id, superClass]

/-! ### Expressions -/

def templateParts : (fuel : Nat) → Parser (List Node)
  | 0 => refuse
  | fuel + 1 => do
    let expression ← expressionOf rules.assignment
    let token ← advance
    require (token.kind == .template)
    if token.isTail then return [expression]
    let rest ← templateParts fuel
    return expression :: rest

def templateLiteral : Parser Node := do
  let token ← advance
  require token.isHead
  let expressions ← if token.isTail then pure [] else templateParts rules (← get).bound
  return .mk .template token.startLine [expressions]

/-- The rest of the parameters or expressions in parentheses, after the first and a comma. `true`
tells that they are parameters for sure. -/
def groupItems : (fuel : Nat) → Parser (List Node × Bool)
  | 0 => refuse
  | fuel + 1 => do
    if !(← accept ",") then return ([], false)
    if ← accept ")" then return ([], true)
    if ← nextIs "..." then
      require (← circumstances).isBinding
      let (rest, _) ← parameter rules
      expect ")"
      require (← nextIs "=>")
      change ({ · with isBinding := false })
      return ([rest], true)
    let first ← inherited rules.assignment
    let (rest, isArrow) ← groupItems fuel
    return (first :: rest, isArrow)

def arrowParameters (isAsync : Bool) (line : Nat) (parameters : List Node) : Node :=
  .mk (.arrowParameters isAsync) line [parameters]

/-- What parentheses hold: an expression, or the parameters of an arrow function. -/
def groupExpression : Parser Node := do
  let start ← peek
  let parameters := arrowParameters false start.startLine
  expect "("
  if ← accept ")" then
    require (← nextIs "=>")
    return parameters []
  if ← nextIs "..." then
    let (rest, _) ← parameter rules
    expect ")"
    require (← nextIs "=>")
    return parameters [rest]
  let inner ← peek
  change ({ · with isBinding := true })
  let first ← inherited rules.assignment
  let isSequence ← nextIs ","
  if isSequence then change ({ · with isTarget := false })
  let (others, isArrow) ← groupItems rules (← get).bound
  let items := first :: others
  if isArrow then return parameters (items.map Node.toPattern)
  let expression := if isSequence then Node.mk .sequence inner.line [items] else first
  expect ")"
  let result ← do
    if ← nextIs "=>" then
      if nodeName? expression == some "yield" then pure (parameters [expression])
      else
        require (← circumstances).isBinding
        match expression with
        | .mk .sequence _ [items] => pure (parameters (items.map Node.toPattern))
        | expression => pure (parameters [expression.toPattern])
    else pure expression
  change ({ · with isBinding := false })
  return result

def isAsyncFunction : Parser Bool := do
  if ← nextIsName "async" then
    let (second, line) ← peekSecond
    return second.line == line && second.is .keyword "function"
  return false

def isImportCall : Parser Bool := do
  if ← nextIsKeyword "import" then
    let (second, _) ← peekSecond
    return second.is .punctuator "("
  return false

def primary : Parser Node := do
  let token ← peek
  let c ← circumstances
  match token.kind with
  | .identifier =>
    require !(c.inAsync && token.value == "await")
    if ← isAsyncFunction then functionExpression rules else anyName
  | .number | .text | .boolean | .null =>
    require !(c.isStrict && token.isOctal)
    fixed
    skip
    return token.literal
  | .template => templateLiteral rules
  | .punctuator =>
    match token.value with
    | "(" =>
      change ({ · with isBinding := false })
      inherited (groupExpression rules)
    | "[" => inherited (arrayExpression rules)
    | "\x7b" => inherited (objectExpression rules)
    | "/" | "/=" =>
      fixed
      let _ ← patternToken
      return token.literal
    | _ => refuse
  | .keyword =>
    if !c.isStrict &&
      ((c.allowYield && token.value == "yield") || token.value == "let") then anyName
    else
      fixed
      match token.value with
      | "function" => functionExpression rules
      | "this" => headed .this (pure [])
      | "class" => classWith rules .classExpression true
      | _ =>
        require (← isImportCall)
        headed .importing (pure [])
  | _ => refuse

/-- The arguments of a call. They may turn out to be the parameters of an asynchronous arrow
function, which may have defaults. -/
def callArguments (maybeParameters : Bool) : Parser (List Node) :=
  itemsBetween "(" ")" <| separated ")" do
    if ← nextIs "..." then spreadElement rules
    else
      isolated do
        let node ← rules.assignment
        if maybeParameters then change ({ · with hasStrayDefault := false })
        return node

def newExpression : Parser Node := do
  let start ← peek
  let keyword ← anyName
  if ← accept "." then
    require ((← nextIsName "target") && (← circumstances).inFunction)
    return .mk .metaProperty start.startLine [[keyword], [← anyName]]
  require !(← nextIsKeyword "import")
  let callee ← isolated rules.constructed
  let arguments ← if ← nextIs "(" then callArguments rules false else pure []
  fixed
  return .mk .construction start.startLine [arguments, [callee]]

/-- One member, subscript or template behind `base`, or a call where they are allowed. -/
def trailer? (start : Token) (allowCalls maybeAsync : Bool) (base : Node) :
    Parser (Option Node) := do
  let next ← peek
  let isMember (property : Parser Node) : Parser Node := do
    change ({ · with isBinding := false, isTarget := true })
    skip
    property
  if ← nextIs "." then return some (.member start.line false base (← isMember anyName))
  else if ← nextIs "[" then
    let property ← isMember (isolated (expressionOf rules.assignment))
    expect "]"
    return some (.member start.line true base property)
  else if next.kind == .template && next.isHead then
    return some (.mk .taggedTemplate start.line [[← templateLiteral rules], [base]])
  else if allowCalls && next.is .punctuator "(" then
    let maybeParameters := maybeAsync && start.line == next.line
    fixed
    let arguments ← callArguments rules maybeParameters
    if base.form == .importing then require (arguments.length == 1)
    let isArrow ← nextIs "=>"
    if maybeParameters && isArrow then
      return arrowParameters true start.line (arguments.map Node.toPattern)
    return some (.call start.line arguments base)
  else return none

def trailers (start : Token) (allowCalls maybeAsync : Bool) : (fuel : Nat) → Node → Parser Node
  | 0, _ => refuse
  | fuel + 1, base => do
    match ← trailer? rules start allowCalls maybeAsync base with
    | some node => trailers start allowCalls maybeAsync fuel node
    | none => return base

/-- `super` with what must follow it: a member, and in calls also arguments. -/
def superExpression (allowCalls : Bool) : Parser Node := headed .super do
  let next ← peek
  let follows := ["[", "."].any (next.is .punctuator)
  require (follows || (allowCalls && next.is .punctuator "("))
  return []

def memberExpression (allowCalls : Bool) : Parser Node := do
  let start ← peek
  let maybeAsync ← nextIsName "async"
  let isSuper ← nextIsKeyword "super"
  let isNew ← nextIsKeyword "new"
  let base ← do
    if isSuper && (← circumstances).inFunction then superExpression allowCalls
    else inherited (if isNew then newExpression rules else primary rules)
  trailers rules start allowCalls maybeAsync (← get).bound base

def constructedExpression : Parser Node := memberExpression rules false

def callExpression : Parser Node := allowingIn true (memberExpression rules true)

def isRestrictedName (node : Node) : Bool := (nodeName? node).any restrictedWords.contains

/-- `operand` is one that may be counted up or down. -/
def requireUpdatable (operand : Node) : Parser Unit := do
  let c ← circumstances
  require (!(c.isStrict && isRestrictedName operand) && c.isTarget)
  fixed

def updateExpression : Parser Node := do
  let start ← peek
  let isUpdate : Parser Bool := do return (← nextIs "++") || (← nextIs "--")
  if ← passIf isUpdate then
    let operand ← inherited rules.unary
    requireUpdatable operand
    return .mk .update start.line [[operand]]
  let operand ← inherited (callExpression rules)
  let follows ← isUpdate
  if !(← get).afterLineEnd && follows then
    requireUpdatable operand
    skip
    return .mk .update start.line [[operand]]
  return operand

def unaryOperators : List String := ["+", "-", "~", "!"]

def unaryWords : List String := ["delete", "void", "typeof"]

def unaryExpression : Parser Node := do
  let start ← peek
  let isOperator := start.kind == .punctuator && unaryOperators.contains start.value
  let isWord := start.kind == .keyword && unaryWords.contains start.value
  let isAwait ← nextIsName "await"
  let c ← circumstances
  if isOperator || isWord then
    skip
    let operand ← inherited rules.unary
    let isStrict := (← circumstances).isStrict
    require !(isStrict && start.value == "delete" && isIdentifierForm operand)
    fixed
    return .mk .unary start.line [[operand]]
  else if c.inAsync && isAwait then headed .awaiting do return [[← rules.unary]]
  else updateExpression rules

def exponentiation : Parser Node := do
  let start ← peek
  let base ← inherited (unaryExpression rules)
  let isPower ← nextIs "**"
  if isPower && base.form != .unary then
    skip
    fixed
    let exponent ← isolated rules.exponentiation
    return .mk .binary start.line [[base], [exponent]]
  return base

def binaryRanks : List (String × Nat) :=
  [("||", 1), ("&&", 2), ("|", 3), ("^", 4), ("&", 5), ("==", 6), ("!=", 6), ("===", 6), ("!==", 6),
    ("<", 7), (">", 7), ("<=", 7), (">=", 7), ("<<", 8), (">>", 8), (">>>", 8), ("+", 9), ("-", 9),
    ("*", 11), ("/", 11), ("%", 11)]

def binaryRank? : Parser (Option Nat) := do
  let token ← peek
  match token.kind with
  | .punctuator => return binaryRanks.lookup token.value
  | .keyword =>
    let allowIn := (← circumstances).allowIn
    if token.value == "instanceof" || (allowIn && token.value == "in") then return some 7
    return none
  | _ => return none

/-- The operands behind the first one, each with the rank of the operator before it. -/
def operandsFrom (operand : Parser Node) : Parser (List (Nat × Node)) :=
  manyUntil (do return (← binaryRank?).isNone) do
    let rank := (← binaryRank?).getD 0
    skip
    fixed
    return (rank, ← isolated operand)

/-- A stack of operands with the ranks of the operators before them, joined down to a rank. -/
def joinOperands (line : Nat) (rank : Nat) : List (Nat × Node) → List (Nat × Node)
  | (upper, right) :: (lower, left) :: rest =>
    if rank ≤ upper then
      joinOperands line rank ((lower, .mk .binary line [[left], [right]]) :: rest)
    else (upper, right) :: (lower, left) :: rest
  | stack => stack
termination_by stack => stack.length

def binaryExpression : Parser Node := do
  let start ← peek
  let first ← inherited (exponentiation rules)
  let others ← operandsFrom (exponentiation rules)
  let stack := others.foldl
    (fun stack (rank, node) => (rank, node) :: joinOperands start.line rank stack) [(0, first)]
  match joinOperands start.line 0 stack with
  | (_, node) :: _ => return node
  | [] => return first

def conditionalExpression : Parser Node := do
  let start ← peek
  let test ← inherited (binaryExpression rules)
  if ← accept "?" then
    let consequent ← allowingIn true (isolated rules.assignment)
    expect ":"
    let alternate ← isolated rules.assignment
    fixed
    return .mk .conditional start.line [[alternate], [consequent], [test]]
  return test

/-- Whether an expression can follow `yield` here. -/
def startsExpression (token : Token) : Bool :=
  match token.kind with
  | .punctuator =>
    ["[", "(", "\x7b", "+", "-", "!", "~", "++", "--", "/", "/="].contains token.value
  | .keyword =>
    ["class", "delete", "function", "let", "new", "super", "this", "typeof", "void",
      "yield"].contains token.value
  | _ => true

def yieldExpression : Parser Node := headed .yielding do
  if (← get).afterLineEnd then return [[]]
  let startsValue : Parser Bool := do return (← accept "*") || startsExpression (← peek)
  return [← allowingYield false (optionally startsValue rules.assignment)]

/-- A parameter whose default is a bare `yield` takes the name of that word as default. -/
def settleYield (parameter : Node) : Parser Node :=
  match parameter with
  | .mk .defaultPattern line [left, [.mk .yielding yieldLine [argument]]] => do
    require argument.isEmpty
    return .mk .defaultPattern line [left, [.identifier yieldLine "yield"]]
  | parameter => return parameter

def arrowParameterList (node : Node) : Parser (Option (ParameterList × Bool)) := do
  let (nodes, isAsync, isList) :=
    match node with
    | .mk (.arrowParameters isAsync) _ [nodes] => (nodes, isAsync, true)
    | .mk (.identifier _) _ _ => ([node], false, true)
    | _ => ([], false, false)
  if !isList then return none
  let nodes ← nodes.mapM settleYield
  require !(isAsync && nodes.any fun node => nodeName? node == some "await")
  let c ← circumstances
  let names := nodes.flatMap Node.boundNames
  let list := names.foldl (fun list name => ParameterList.checkName list c.isStrict name) {}
  require !((c.isStrict || !c.allowYield) && nodes.any fun node => node.form == .yielding)
  require (list.lastFault != some .duplicate)
  return some ({ list with nodes, isSimple := nodes.all isIdentifierForm }, isAsync)

def arrowFunction (start : Token) (list : ParameterList) (isAsync : Bool) : Parser Node := do
  require !(← get).afterLineEnd
  change ({ · with hasStrayDefault := false })
  let body ← ofFunction isAsync false <| bodyUnder list do
    expect "=>"
    if ← nextIs "\x7b" then allowingIn true (functionBody rules) else isolated rules.assignment
  return .mk .arrowFunction start.line [[body], list.nodes]

def assignmentOperators : List String :=
  ["=", "*=", "**=", "/=", "%=", "+=", "-=", "<<=", ">>=", ">>>=", "&=", "^=", "|="]

def assignmentExpression : Parser Node := do
  let start ← peek
  let isYield ← nextIsKeyword "yield"
  if !(← circumstances).allowYield && isYield then yieldExpression rules
  else
    let left ← conditionalExpression rules
    let next ← peek
    let isAsyncStart :=
      start.kind == .identifier && start.line == next.line && start.value == "async"
    let namesYield ← nextIsKeyword "yield"
    let left ← do
      if isAsyncStart && (next.kind == .identifier || namesYield) then
        let parameter ← primary rules
        pure (arrowParameters true start.line [parameter.toPattern])
      else pure left
    let isArrow ← nextIs "=>"
    let hasParameters := match left.form with | .arrowParameters _ => true | _ => false
    if hasParameters || isArrow then
      fixed
      match ← arrowParameterList left with
      | some (list, isAsync) => arrowFunction rules start list isAsync
      | none => return left
    else
      let next ← peek
      if next.kind == .punctuator && assignmentOperators.contains next.value then
        let c ← circumstances
        require c.isTarget
        let isForbidden := (nodeName? left).any fun name =>
          restrictedWords.contains name || strictWords.contains name
        require !(c.isStrict && isForbidden)
        if next.value != "=" then fixed
        let target := if next.value == "=" then left.toPattern else left
        skip
        let right ← isolated rules.assignment
        change ({ · with hasStrayDefault := false })
        return .assignment start.line target right
      else return left

end PrivacyScan.Script
