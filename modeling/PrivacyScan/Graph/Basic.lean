import PrivacyScan.Document.Basic
import PrivacyScan.Table
import PrivacyScan.Text.Search

/-!
The flow of data through a project as a graph. Nodes are kept under their names in the order in
which they came; an edge brings the nodes that it needs.
-/

namespace PrivacyScan

structure GraphNode where
  id : String
  type : String
  label : String
  file : Option String := none
  line : Option Int := none
  metadata : List (String × Document) := []
deriving Repr

structure GraphEdge where
  source : String
  target : String
  type : String
  label : Option String := none
  metadata : List (String × Document) := []
deriving Repr

/-- `ids` are the names of the nodes, for asking whether there is one. -/
structure Graph where
  nodes : Table GraphNode := []
  edges : List GraphEdge := []
  ids : List String := []
deriving Repr

namespace Graph

/-- Adds a node, unless there is one of this name. -/
def addNode (graph : Graph) (node : GraphNode) : Graph :=
  if graph.ids.contains node.id then graph
  else { graph with nodes := graph.nodes.set node.id node, ids := node.id :: graph.ids }

def placeholder (id : String) : GraphNode := { id, type := "unknown", label := id }

/-- Adds an edge, with placeholders for ends that are no nodes yet. -/
def addEdge (graph : Graph) (edge : GraphEdge) : Graph :=
  let withEnds := (graph.addNode (placeholder edge.source)).addNode (placeholder edge.target)
  { withEnds with edges := withEnds.edges ++ [edge] }

end Graph

def GraphNode.toDocument (node : GraphNode) : Document :=
  .object [("id", .text node.id), ("type", .text node.type), ("label", .text node.label),
    ("file_path", .ofOption .text node.file), ("line_number", .ofOption .int node.line),
    ("metadata", .object node.metadata)]

def GraphEdge.toDocument (edge : GraphEdge) : Document :=
  .object [("source", .text edge.source), ("target", .text edge.target), ("type", .text edge.type),
    ("label", .ofOption .text edge.label), ("metadata", .object edge.metadata)]

namespace Graph

def toDocument (graph : Graph) : Document :=
  .object [("nodes", .list (graph.nodes.values.map (·.toDocument))),
    ("edges", .list (graph.edges.map (·.toDocument)))]

def colorOf (type : String) : String :=
  match type with
  | "source" => "red"
  | "sink" => "blue"
  | "variable" => "gray"
  | _ => "black"

def dotNode (node : GraphNode) : String :=
  "  \"" ++ node.id ++ "\" [label=\"" ++ node.label ++ "\\n(" ++ node.type ++ ")\", color=\"" ++
    colorOf node.type ++ "\"];"

def dotEdge (edge : GraphEdge) : String :=
  "  \"" ++ edge.source ++ "\" -> \"" ++ edge.target ++ "\" [style=\"" ++
    (if edge.type == "call" then "dashed" else "solid") ++ "\"];"

def toDot (graph : Graph) : String :=
  Text.join "\n"
    (["digraph DataFlow \x7b", "  rankdir=LR;", "  node [shape=box, style=rounded];"] ++
    graph.nodes.values.map dotNode ++ graph.edges.map dotEdge ++ ["\x7d"])

end Graph

end PrivacyScan
