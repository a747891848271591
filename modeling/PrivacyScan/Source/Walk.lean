import PrivacyScan.Source.Printer

/-!
Walks through a tree: level by level, and each node before its parts.
-/

namespace PrivacyScan.Source

/-- The nodes, then their parts, then the parts of these, for as many levels as `depth`. -/
def levels : (depth : Nat) → List Node → List Node
  | 0, _ => []
  | depth + 1, nodes => nodes ++ levels depth (nodes.flatMap (·.children))

/-- All nodes of a tree: those nearer to the root come first, and within a level all are in
order. -/
def Node.walk (node : Node) : List Node := levels node.depth [node]

mutual

/-- All nodes of a tree, each before its parts. -/
def Node.preorder : Node → List Node
  | .mk form place parts => .mk form place parts :: preorderOfGroups parts

def preorderOfGroups : List (List Node) → List Node
  | [] => []
  | group :: rest => preorderOfNodes group ++ preorderOfGroups rest

def preorderOfNodes : List Node → List Node
  | [] => []
  | node :: rest => node.preorder ++ preorderOfNodes rest

end

/-- The dotted name of a function, as far as it consists of names. -/
def Node.dottedName? : Node → Option String
  | .mk (.name id) _ _ => some id
  | .mk (.member id) _ [[object]] =>
    match dottedName? object with
    | some path => some (path ++ "." ++ id)
    | none => some id
  | _ => none

/-- The name that a function is called by, without what stands before the last dot. -/
def Node.lastName? : Node → Option String
  | .mk (.name id) _ _ => some id
  | .mk (.member id) _ _ => some id
  | _ => none

end PrivacyScan.Source
