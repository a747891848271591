import PrivacyScan.Document.Access
import PrivacyScan.Graph.Basic
import PrivacyScan.Project.Symbols
import PrivacyScan.Taint.Basic

/-!
The graph of a project: the flows that the analysis of each file has found, and the functions and
classes that its modules define.
-/

namespace PrivacyScan.Project

open Taint (FlowEdge)

/-- The name of a file in the graph: its path below the root, or else its own name. -/
def fileName (root file : Path) : String :=
  ((file.relativeTo? root).map (·.text)).getD file.name

def isPrinter (name : String) : Bool := name == "logging" || name == "print"

def sourceKind (name : String) : String × String :=
  if Text.startsWith name "SOURCE:" then ("source", Text.replace name "SOURCE:" "")
  else (if isPrinter name then "sink" else "variable", name)

def targetKind (name : String) : String :=
  if isPrinter name || Text.containsAny name ["AI_SINK", "axios", "fetch"] then "sink"
    else "variable"

/-- What the context of a flow says of an address or a route. -/
def detailsOf (context : Option String) : List (String × Document) :=
  let parts := (Text.split (context.getD "") ",").map Text.trim
  let value (part label : String) : Document := .text (Text.trim (Text.replace part label ""))
  parts.foldl (fun details part =>
    if Text.startsWith part "URL: " then Document.setField "url" (value part "URL: ") details
    else if Text.startsWith part "Route: " then
      Document.setField "route" (value part "Route: ") details
    else details) [("context", .ofOption .text context)]

/-- Adds a flow with its two ends; a flow from a value without a name cannot be shown. -/
def addFlow (root file : Path) (graph : Graph) (flow : FlowEdge) : Outcome Graph :=
  match flow.source with
  | none => .error (.noMember .none "startswith")
  | some source =>
    let (sourceType, sourceLabel) := sourceKind source
    let idAt (line : Int) (name : String) : String :=
      fileName root file ++ ":" ++ toString line ++ ":" ++ name
    let metadata := detailsOf flow.context
    let origin : GraphNode :=
      { id := idAt flow.sourceLine source, type := sourceType, label := sourceLabel
        file := some file.text, line := some flow.sourceLine, metadata }
    let destination : GraphNode :=
      { id := idAt flow.targetLine flow.target, type := targetKind flow.target, label := flow.target
        file := some file.text, line := some flow.targetLine, metadata }
    .ok (((graph.addNode origin).addNode destination).addEdge {
      source := origin.id, target := destination.id, type := "data_flow",
        label := some flow.flowType
      metadata := [("transformation", .ofOption .text flow.transformation),
        ("context", .ofOption .text flow.context)] })

/-- Adds flows in order, up to one that cannot be shown. -/
def addFlows (root file : Path) : List FlowEdge → Graph → Graph × Outcome Unit
  | [], graph => (graph, .ok ())
  | flow :: rest, graph =>
    match addFlow root file graph flow with
    | .ok larger => addFlows root file rest larger
    | .error fault => (graph, .error fault)

def addSymbol (root : Path) (graph : Graph) (symbol : Symbol) : Graph :=
  let fileId := fileName root symbol.file
  let id := fileId ++ ":" ++ toString symbol.line ++ ":" ++ symbol.name
  let withSymbol := graph.addNode {
    id
    type := if symbol.kind == .classType then "class" else "function"
    label := symbol.name
    file := some symbol.file.text
    line := some symbol.line
    metadata := [("module", .text symbol.module),
      ("pii_related", .bool (symbol.signature.any (·.returnsPersonal)))] }
  let withFile := if withSymbol.nodes.hasKey fileId then withSymbol
    else withSymbol.addNode {
      id := fileId, type := "file", label := symbol.file.name, file := some symbol.file.text }
  withFile.addEdge { source := fileId, target := id, type := "contains", label := some "defines" }

def addSymbols (root : Path) (symbols : Symbols) (graph : Graph) : Graph :=
  symbols.definitions.values.flatten.foldl (addSymbol root) graph

end PrivacyScan.Project
