import PrivacyScan.Report.Entry

/-!
Findings as plain text for a terminal: the way of the data from its source to the place of the
finding.
-/

namespace PrivacyScan.Report.FlowText

/-- The source of a flow: the first of the known sources, or the node that the finding names. -/
def sourceOf (finding : Document) : Outcome Document := do
  let sources := (finding.field? "taint_sources").getD (.list [])
  if sources.isTruthy then
    match sources with
    | .list (first :: _) => return first
    | .text value => return .text (Text.take 1 value)
    | .object _ => .error (.missingKey "0")
    | other => .error (.noItems other.kind)
  else
    let node := finding.fieldOrNull "source_node"
    return if node.isTruthy then node else .text "Unknown Source"

def arrow : String := "    ⬇️"

def stepLines (path source sink : Document) : Outcome (List String) := do
  if !path.isTruthy then return []
  let steps := (← path.elements).filter fun step => step != source && step != sink
  return steps.flatMap fun step => [arrow, "    🔄 " ++ step.shown]

def text (finding : Document) : Outcome String := do
  let severity ← ((finding.field? "severity").getD (.text "UNKNOWN")).asText "upper"
  let rule := (finding.field? "rule").getD (.text "UNKNOWN")
  let source ← sourceOf finding
  let sink := finding.fieldOrNull "sink_node"
  let steps ← stepLines ((finding.field? "flow_path").getD (.list [])) source sink
  let place := "(" ++ (finding.fieldOrNull "file").shown ++ ":" ++
    (finding.fieldOrNull "line").shown ++ ")"
  let sinkName := if sink.isTruthy then sink.shown else "Sink"
  return Text.join "\n" (["[" ++ Text.upper severity ++ "] " ++ rule.shown,
    "└── 🟢 " ++ source.shown] ++ steps ++
    [arrow, "    🔴 " ++ sinkName ++ " " ++ place])

def isLevel (severity : Document) : Bool :=
  Severity.all.any fun level => severity == .text level.label

/-- The three gravest findings, and how many more there are. -/
def summary (findings : List Document) : Outcome String := do
  if findings.isEmpty then return ""
  let sorted ← gravestFirst
    (fun finding => (finding.field? "severity").getD (.text "info")) findings
  let top := (sorted.filter fun finding => isLevel (finding.fieldOrNull "severity")).take 3
  let texts ← top.mapM text
  let shown := Text.join "" (texts.map (· ++ "\n\n"))
  let others := findings.length - top.length
  let last :=
    if top.isEmpty then "No critical data flows detected. Good job! 🛡️\n"
    else if others > 0 then "... and " ++ toString others ++ " more findings in the report.\n"
    else ""
  return "\n🔍 Top Data Flow Risks:\n\n" ++ shown ++ last

end PrivacyScan.Report.FlowText
