/-!
The tree of an ECMAScript program. A node has a form, the line on which it starts, and parts in
groups, in the order in which walks visit them. `absent` stands where an element of an array is left
out.
-/

namespace PrivacyScan.Script

inductive Form where
  | absent
  | program
  | expressionStatement
  | block
  | empty
  | debugger
  | withStatement
  | returning
  | labeled
  | breaking
  | continuing
  | branch
  | switch
  | switchCase
  | throwing
  | trying
  | catchClause
  | whileLoop
  | doWhileLoop
  | forLoop
  | forInLoop
  | forOfLoop
  | functionDeclaration
  | functionExpression (isGenerator : Bool)
  | arrowFunction
  | classDeclaration
  | classExpression
  | classBody
  | method
  | declaration
  | declarator
  | this
  | super
  | importing
  | literal (text : Option String)
  | identifier (name : String)
  | array
  | object
  | property
  | unary
  | update
  | binary
  | assignment
  | conditional
  | call
  | construction
  | member (isComputed : Bool)
  | sequence
  | yielding
  | awaiting
  | template
  | taggedTemplate
  | spread
  | rest
  | arrayPattern
  | objectPattern
  | defaultPattern
  | metaProperty
  /-- Parameters in parentheses, before their arrow has been read. -/
  | arrowParameters (isAsync : Bool)
deriving Repr, DecidableEq

inductive Node where
  | mk (form : Form) (line : Nat) (parts : List (List Node))
deriving Repr

namespace Node

def form : Node → Form
  | .mk form _ _ => form

def absent : Node := .mk .absent 0 []

@[match_pattern]
def identifier (line : Nat) (name : String) : Node := .mk (.identifier name) line []

@[match_pattern]
def member (line : Nat) (isComputed : Bool) (object property : Node) : Node :=
  .mk (.member isComputed) line [[object], [property]]

@[match_pattern]
def call (line : Nat) (arguments : List Node) (callee : Node) : Node :=
  .mk .call line [arguments, [callee]]

@[match_pattern]
def assignment (line : Nat) (left right : Node) : Node := .mk .assignment line [[left], [right]]

@[match_pattern]
def declaration (line : Nat) (declarators : List Node) : Node := .mk .declaration line [declarators]

/-- The value is left out or stands alone. -/
@[match_pattern]
def declarator (line : Nat) (target : Node) (value : List Node) : Node :=
  .mk .declarator line [[target], value]

mutual

def toPattern : Node → Node
  | .mk form line parts =>
    match form with
    | .spread => .mk .rest line (toPatternGroups parts)
    | .array => .mk .arrayPattern line (toPatternGroups parts)
    | .object => .mk .objectPattern line (toPatternGroups parts)
    | .property => .mk .property line (toPatternLast parts)
    | .assignment => .mk .defaultPattern line (toPatternFirst parts)
    | form => .mk form line parts

def toPatternGroups : List (List Node) → List (List Node)
  | [] => []
  | group :: rest => toPatterns group :: toPatternGroups rest

def toPatternFirst : List (List Node) → List (List Node)
  | [] => []
  | group :: rest => toPatterns group :: rest

def toPatternLast : List (List Node) → List (List Node)
  | [] => []
  | [group] => [toPatterns group]
  | group :: rest => group :: toPatternLast rest

def toPatterns : List Node → List Node
  | [] => []
  | node :: rest => node.toPattern :: toPatterns rest

end

mutual

def boundNames : Node → List String
  | .mk form _ parts =>
    match form with
    | .identifier name => [name]
    | .rest | .arrayPattern | .objectPattern => boundInGroups parts
    | .defaultPattern => boundInFirst parts
    | .property => boundInLast parts
    | _ => []

def boundInGroups : List (List Node) → List String
  | [] => []
  | group :: rest => boundInList group ++ boundInGroups rest

def boundInFirst : List (List Node) → List String
  | [] => []
  | group :: _ => boundInList group

def boundInLast : List (List Node) → List String
  | [] => []
  | [group] => boundInList group
  | _ :: rest => boundInLast rest

def boundInList : List Node → List String
  | [] => []
  | node :: rest => node.boundNames ++ boundInList rest

end

end Node

end PrivacyScan.Script
