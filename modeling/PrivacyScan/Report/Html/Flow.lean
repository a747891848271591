import PrivacyScan.Report.Entry
import PrivacyScan.Report.Html.Basic

/-!
The part of the page that tells how data flows: a card with a diagram for each of the gravest flows.
-/

namespace PrivacyScan.Report.Html

inductive Shape where
  | source
  | step
  | sink
deriving Repr, DecidableEq

structure FlowNode where
  name : String
  label : String
  shape : Shape
deriving Repr, DecidableEq

/-- The steps of a flow as nodes, with an arrow from each to the next. -/
structure FlowDiagram where
  nodes : List FlowNode
  arrows : List (String × String)
deriving Repr, DecidableEq

def cleanStep (step : Document) : String :=
  Text.replace (Text.replace (Text.replace step.shown "\"" "'") "\n" " ") "\r" ""

/-- The steps as they are shown, without unknown sources at the start. -/
def cleanSteps (steps : List Document) : List String :=
  match (steps.map cleanStep).dropWhile (· == "Unknown Source") with
  | [] => ["Implicit Input", "Sink"]
  | shown => shown

/-- The label of every last node, whatever the last step is. -/
def sinkLabel : String := "\x7blabel\x7d"

def nodeName (index position : Nat) : String := "f" ++ toString index ++ "_s" ++ toString position

namespace FlowDiagram

def nodeAt (index count : Nat) (label : String) (position : Nat) : FlowNode :=
  let name := nodeName index position
  if position == 0 then { name, label, shape := .source }
  else if position + 1 == count then { name, label := sinkLabel, shape := .sink }
  else { name, label, shape := .step }

def ofSteps (index : Nat) (steps : List String) : FlowDiagram where
  nodes := steps.zipIdx.map fun (label, position) => nodeAt index steps.length label position
  arrows := (List.range (steps.length - 1)).map fun position =>
    (nodeName index position, nodeName index (position + 1))

def nodeText (node : FlowNode) : String :=
  match node.shape with
  | .source => "  " ++ node.name ++ "((\"" ++ node.label ++ "\")):::source\n"
  | .step => "  " ++ node.name ++ "[\"" ++ node.label ++ "\"]:::step\n"
  | .sink => "  " ++ node.name ++ "\x7b" ++ node.label ++ "\x7d:::sink\n"

def header : String :=
  "graph LR\n" ++
  "  classDef source fill:#e0f2fe,stroke:#0ea5e9,stroke-width:2px;\n" ++
  "  classDef step fill:#f8fafc,stroke:#94a3b8,stroke-width:1px;\n" ++
  "  classDef sink fill:#fee2e2,stroke:#ef4444,stroke-width:2px;\n"

def text (diagram : FlowDiagram) : String :=
  header ++ String.join (diagram.nodes.map nodeText) ++
    String.join
      (diagram.arrows.map fun (source, target) => "  " ++ source ++ " --> " ++ target ++ "\n")

end FlowDiagram

def flowCard (finding : Document) (index : Nat) : Outcome String := do
  let field (name : String) (default : Document) : Document := (finding.field? name).getD default
  let severity := field "severity" (.text "info")
  let steps ← (field "flow_path" (.list [])).elements
  let diagram := FlowDiagram.ofSteps index (cleanSteps steps)
  let label ← severity.asText "upper"
  return r#"
        <div class="finding-card" style="border-left: 5px solid "# ++ colorOf severity ++ r#"">
            <div class="finding-header">
                <div class="finding-title">
                    <span class="severity-badge severity-"# ++ label ++ "\">" ++ Text.upper label ++ r#"</span>
                    "# ++ (field "rule" (.text "Unknown")).shown ++ r#"
                </div>
                <div class="finding-location">"# ++ (field "file" (.text "")).shown ++ ":" ++ (field "line" (.int 0)).shown ++ r#"</div>
            </div>
            <div class="flow-visualization">
                <div class="mermaid">
                    "# ++ diagram.text ++ r#"
                </div>
            </div>
            <div class="finding-details">
                <p><strong>Data Flow:</strong> "# ++ toString steps.length ++ r#" steps detected from source to sink.</p>
            </div>
        </div>
        "#

/-- A flow that is told has at least two steps. -/
def hasFlow (finding : Document) : Outcome Bool := do
  let path ← finding.get "flow_path"
  if !path.isTruthy then return false
  match path.elements with
  | .ok steps => return steps.length > 1
  | .error _ => .error (.noLength path.kind)

def flowPart (findings : List Document) : Outcome String := do
  let told ← findings.filterM hasFlow
  let sorted ← gravestFirst (fun finding => (finding.field? "severity").getD (.text "info")) told
  if sorted.isEmpty then return ""
  let cards ← (sorted.take 5).zipIdx.mapM fun (finding, position) => flowCard finding (position + 1)
  return r#"
        <div class="section-header">
            <h2>🌊 Top Data Flow Stories</h2>
            <p>Visualizing how sensitive data moves through your application.</p>
        </div>
        <div class="flows-grid">
        "# ++ String.join cards ++ "</div>"

end PrivacyScan.Report.Html
