/-!
The tree of a Python module. A node has a form, a place and parts; the form holds what is not a
tree, and the parts of every form come in a fixed number of groups, in the order in which they are
visited. So all walks through a tree are alike, and each kind of node has a view (`Node.call`,
`Node.assign`) that builds and matches it. A group named in the plural holds any number of parts,
one marked optional holds at most one.
-/

namespace PrivacyScan.Source

/-- Where a node stands: the lines of its start and of its end. Of functions, classes and
assignments the offset of the start in bytes is known as well. -/
structure Place where
  line : Nat
  column : Nat := 0
  endLine : Nat
deriving Repr, DecidableEq, Inhabited

inductive Constant where
  | none
  | bool (value : Bool)
  | int (value : Nat)
  | float (value : Float)
  | imaginary (value : Float)
  | text (value : String)
  | bytes (value : List UInt8)
  | ellipsis
deriving Repr, Inhabited, BEq

inductive BoolOperator where
  | and
  | or
deriving Repr, DecidableEq

inductive BinaryOperator where
  | add | sub | mult | matMult | div | mod | pow | leftShift | rightShift | bitOr | bitXor | bitAnd
  | floorDiv
deriving Repr, DecidableEq

inductive UnaryOperator where
  | invert | not | plus | minus
deriving Repr, DecidableEq

inductive CompareOperator where
  | eq | notEq | lt | ltE | gt | gtE | is | isNot | isIn | notIn
deriving Repr, DecidableEq

inductive Conversion where
  | plain
  | ofStr
  | ofRepr
  | ofAscii
deriving Repr, DecidableEq, Inhabited

/-- What kind of node it is, with its names, operators and constants. `absent` stands where a part
is left out, as the key of an unpacked mapping. `isMarked` tells a text written with the letter
`u`. -/
inductive Form where
  | absent
  | module
  | functionDef (isAsync : Bool) (id : String)
  | classDef (id : String)
  | returning
  | deleting
  | assign
  | augAssign (operator : BinaryOperator)
  | annAssign (isSimple : Bool)
  | forLoop (isAsync : Bool)
  | whileLoop
  | branch
  | withBlock (isAsync : Bool)
  | matching
  | raising
  | trying (isStar : Bool)
  | assertion
  | importing
  | importingFrom (source : Option String) (level : Nat)
  | globals (ids : List String)
  | nonlocals (ids : List String)
  | expression
  | pass
  | breaking
  | continuing
  | boolOp (operator : BoolOperator)
  | named
  | binOp (operator : BinaryOperator)
  | unaryOp (operator : UnaryOperator)
  | lambda
  | conditional
  | dict
  | set
  | listComp
  | setComp
  | dictComp
  | generator
  | awaiting
  | yielding
  | yieldingFrom
  | compare (operators : List CompareOperator)
  | call
  | formattedValue (conversion : Conversion)
  | joinedText
  | constant (content : Constant) (isMarked : Bool)
  | member (id : String)
  | subscript
  | starred
  | name (id : String)
  | list
  | tuple
  | slice
  | comprehension (isAsync : Bool)
  | handler (id : Option String)
  | parameters
  | parameter (id : String)
  | keyword (id : Option String)
  | importAs (id : String) (binding : Option String)
  | withItem
  | matchCase
  | matchValue
  | matchSingleton (content : Constant)
  | matchSequence
  | matchMapping (rest : Option String)
  | matchClass (keywordNames : List String)
  | matchStar (id : Option String)
  | matchAs (id : Option String)
  | matchOr
deriving Repr, Inhabited

inductive Node where
  | mk (form : Form) (place : Place) (parts : List (List Node))
deriving Repr, Inhabited

namespace Node

def form : Node → Form
  | .mk form _ _ => form

def place : Node → Place
  | .mk _ place _ => place

def parts : Node → List (List Node)
  | .mk _ _ parts => parts

def isAbsent : Node → Bool
  | .mk .absent _ _ => true
  | _ => false

/-- The parts of a node, in the order in which they are visited. -/
def children (node : Node) : List Node := node.parts.flatten.filter (!·.isAbsent)

/-- The place of nodes that have none of their own. -/
def nowhere : Place := { line := 0, column := 0, endLine := 0 }

/-- The node that stands for a part left out. -/
@[match_pattern]
def absent : Node := .mk .absent ⟨0, 0, 0⟩ []

@[match_pattern]
def module (body : List Node) : Node := .mk .module ⟨0, 0, 0⟩ [body]

variable (place : Place)

/-- Optional: `returns`. -/
@[match_pattern]
def functionDef (isAsync : Bool) (id : String) (inputs : Node) (body decorators
    returns : List Node) : Node :=
  .mk (.functionDef isAsync id) place [[inputs], body, decorators, returns]

@[match_pattern]
def classDef (id : String) (bases keywords body decorators : List Node) : Node :=
  .mk (.classDef id) place [bases, keywords, body, decorators]

/-- Optional: `value`. -/
@[match_pattern]
def returning (value : List Node) : Node := .mk .returning place [value]

@[match_pattern]
def deleting (targets : List Node) : Node := .mk .deleting place [targets]

@[match_pattern]
def assign (targets : List Node) (value : Node) : Node :=
  .mk .assign place [targets, [value]]

@[match_pattern]
def augAssign (operator : BinaryOperator) (target value : Node) : Node :=
  .mk (.augAssign operator) place [[target], [value]]

/-- Optional: `value`. -/
@[match_pattern]
def annAssign (isSimple : Bool) (target hint : Node) (value : List Node) : Node :=
  .mk (.annAssign isSimple) place [[target], [hint], value]

@[match_pattern]
def forLoop (isAsync : Bool) (target iterable : Node) (body orElse : List Node) : Node :=
  .mk (.forLoop isAsync) place [[target], [iterable], body, orElse]

@[match_pattern]
def whileLoop (test : Node) (body orElse : List Node) : Node :=
  .mk .whileLoop place [[test], body, orElse]

@[match_pattern]
def branch (test : Node) (body orElse : List Node) : Node :=
  .mk .branch place [[test], body, orElse]

@[match_pattern]
def withBlock (isAsync : Bool) (items body : List Node) : Node :=
  .mk (.withBlock isAsync) place [items, body]

@[match_pattern]
def matching (subject : Node) (cases : List Node) : Node :=
  .mk .matching place [[subject], cases]

/-- Optional: `exception`, `cause`. -/
@[match_pattern]
def raising (exception cause : List Node) : Node :=
  .mk .raising place [exception, cause]

@[match_pattern]
def trying (isStar : Bool) (body handlers orElse finalBody : List Node) : Node :=
  .mk (.trying isStar) place [body, handlers, orElse, finalBody]

/-- Optional: `message`. -/
@[match_pattern]
def assertion (test : Node) (message : List Node) : Node :=
  .mk .assertion place [[test], message]

@[match_pattern]
def importing (names : List Node) : Node := .mk .importing place [names]

@[match_pattern]
def importingFrom (source : Option String) (level : Nat) (names : List Node) : Node :=
  .mk (.importingFrom source level) place [names]

@[match_pattern]
def globals (ids : List String) : Node := .mk (.globals ids) place []

@[match_pattern]
def nonlocals (ids : List String) : Node := .mk (.nonlocals ids) place []

@[match_pattern]
def expression (value : Node) : Node := .mk .expression place [[value]]

@[match_pattern]
def pass : Node := .mk .pass place []

@[match_pattern]
def breaking : Node := .mk .breaking place []

@[match_pattern]
def continuing : Node := .mk .continuing place []

@[match_pattern]
def boolOp (operator : BoolOperator) (values : List Node) : Node :=
  .mk (.boolOp operator) place [values]

@[match_pattern]
def named (target value : Node) : Node := .mk .named place [[target], [value]]

@[match_pattern]
def binOp (operator : BinaryOperator) (left right : Node) : Node :=
  .mk (.binOp operator) place [[left], [right]]

@[match_pattern]
def unaryOp (operator : UnaryOperator) (operand : Node) : Node :=
  .mk (.unaryOp operator) place [[operand]]

@[match_pattern]
def lambda (inputs body : Node) : Node := .mk .lambda place [[inputs], [body]]

@[match_pattern]
def conditional (test body orElse : Node) : Node :=
  .mk .conditional place [[test], [body], [orElse]]

@[match_pattern]
def dict (keys values : List Node) : Node := .mk .dict place [keys, values]

@[match_pattern]
def set (elements : List Node) : Node := .mk .set place [elements]

@[match_pattern]
def listComp (element : Node) (generators : List Node) : Node :=
  .mk .listComp place [[element], generators]

@[match_pattern]
def setComp (element : Node) (generators : List Node) : Node :=
  .mk .setComp place [[element], generators]

@[match_pattern]
def dictComp (key value : Node) (generators : List Node) : Node :=
  .mk .dictComp place [[key], [value], generators]

@[match_pattern]
def generator (element : Node) (generators : List Node) : Node :=
  .mk .generator place [[element], generators]

@[match_pattern]
def awaiting (value : Node) : Node := .mk .awaiting place [[value]]

/-- Optional: `value`. -/
@[match_pattern]
def yielding (value : List Node) : Node := .mk .yielding place [value]

@[match_pattern]
def yieldingFrom (value : Node) : Node := .mk .yieldingFrom place [[value]]

@[match_pattern]
def compare (operators : List CompareOperator) (left : Node) (comparators : List Node) : Node :=
  .mk (.compare operators) place [[left], comparators]

@[match_pattern]
def call (function : Node) (inputs keywords : List Node) : Node :=
  .mk .call place [[function], inputs, keywords]

/-- Optional: `formatSpec`. -/
@[match_pattern]
def formattedValue (conversion : Conversion) (value : Node) (formatSpec : List Node) : Node :=
  .mk (.formattedValue conversion) place [[value], formatSpec]

@[match_pattern]
def joinedText (values : List Node) : Node := .mk .joinedText place [values]

@[match_pattern]
def constant (content : Constant) (isMarked : Bool) : Node :=
  .mk (.constant content isMarked) place []

@[match_pattern]
def member (id : String) (value : Node) : Node := .mk (.member id) place [[value]]

@[match_pattern]
def subscript (value index : Node) : Node := .mk .subscript place [[value], [index]]

@[match_pattern]
def starred (value : Node) : Node := .mk .starred place [[value]]

@[match_pattern]
def name (id : String) : Node := .mk (.name id) place []

@[match_pattern]
def list (elements : List Node) : Node := .mk .list place [elements]

@[match_pattern]
def tuple (elements : List Node) : Node := .mk .tuple place [elements]

/-- Optional: `lower`, `upper`, `step`. -/
@[match_pattern]
def slice (lower upper step : List Node) : Node :=
  .mk .slice place [lower, upper, step]

@[match_pattern]
def comprehension (isAsync : Bool) (target iterable : Node) (conditions : List Node) : Node :=
  .mk (.comprehension isAsync) ⟨0, 0, 0⟩ [[target], [iterable], conditions]

/-- Optional: `kind`. -/
@[match_pattern]
def handler (id : Option String) (kind body : List Node) : Node :=
  .mk (.handler id) place [kind, body]

/-- Optional: `rest`, `keywordRest`. -/
@[match_pattern]
def parameters (positionalOnly plain rest keywordOnly keywordDefaults keywordRest defaults : List
    Node) : Node :=
  .mk .parameters ⟨0, 0, 0⟩
    [positionalOnly, plain, rest, keywordOnly, keywordDefaults, keywordRest, defaults]

/-- Optional: `hint`. -/
@[match_pattern]
def parameter (id : String) (hint : List Node) : Node :=
  .mk (.parameter id) place [hint]

@[match_pattern]
def keyword (id : Option String) (value : Node) : Node :=
  .mk (.keyword id) place [[value]]

@[match_pattern]
def importAs (id : String) (binding : Option String) : Node :=
  .mk (.importAs id binding) place []

/-- Optional: `target`. -/
@[match_pattern]
def withItem (context : Node) (target : List Node) : Node :=
  .mk .withItem ⟨0, 0, 0⟩ [[context], target]

/-- Optional: `guard`. -/
@[match_pattern]
def matchCase (pattern : Node) (guard body : List Node) : Node :=
  .mk .matchCase ⟨0, 0, 0⟩ [[pattern], guard, body]

@[match_pattern]
def matchValue (value : Node) : Node := .mk .matchValue place [[value]]

@[match_pattern]
def matchSingleton (content : Constant) : Node :=
  .mk (.matchSingleton content) place []

@[match_pattern]
def matchSequence (patterns : List Node) : Node :=
  .mk .matchSequence place [patterns]

@[match_pattern]
def matchMapping (rest : Option String) (keys patterns : List Node) : Node :=
  .mk (.matchMapping rest) place [keys, patterns]

@[match_pattern]
def matchClass (keywordNames : List String) (cls : Node) (patterns keywordPatterns
    : List Node) : Node :=
  .mk (.matchClass keywordNames) place [[cls], patterns, keywordPatterns]

@[match_pattern]
def matchStar (id : Option String) : Node := .mk (.matchStar id) place []

/-- Optional: `pattern`. -/
@[match_pattern]
def matchAs (id : Option String) (pattern : List Node) : Node :=
  .mk (.matchAs id) place [pattern]

@[match_pattern]
def matchOr (patterns : List Node) : Node := .mk .matchOr place [patterns]

end Node

end PrivacyScan.Source
