import PrivacyScan.Compliance.Score
import PrivacyScan.Document.Access
import PrivacyScan.Document.Shown

/-!
What a terminal with colours and boxes shows. Lines may hold marks for styles; how all this is drawn
is left to the terminal.
-/

namespace PrivacyScan.Report.Console

inductive Branch where
  | node (label style : String) (children : List Branch)
deriving Repr

inductive Block where
  | blank
  | line (text : String)
  | panel (text : String) (title : Option String) (border : String)
  | table (title : String) (columns : List String) (rows : List (List String))
  | tree (root : Branch)
deriving Repr

inductive ProgressColumn where
  | spinner
  | description
  | bar
  | percentage
deriving Repr, DecidableEq

def progressColumns : List ProgressColumn := [.spinner, .description, .bar, .percentage]

def banner : List Block :=
  [.panel "🔒 Privalyse Scanner\nData Flow Visibility & Detection Engine" none "cyan", .blank]

def info (message : String) : Block := .line ("[blue]ℹ️[/blue]  " ++ message)

def success (message : String) : Block := .line ("[green]✅[/green] " ++ message)

def warning (message : String) : Block := .line ("[yellow]⚠️[/yellow] " ++ message)

def error (message : String) : Block := .line ("[red]❌[/red] " ++ message)

def scorePanel (compliance : Document) : Outcome Block := do
  let score ← compliance.get "score" (.int 0)
  let status ← compliance.get "status" (.text "unknown")
  let value ← score.compared "<"
  let color := if value < 60 then "red" else if value < 80 then "yellow" else "green"
  let monitoring := if value ≥ 80 then "✅ Secure" else "❌ At Risk"
  return .panel ("Compliance Score: " ++ score.shown ++ "/100 (" ++ status.shown ++
    ")\nMonitoring Status: " ++ monitoring ++ "\nData Flow Visibility: Active")
    (some "Scan Results") color

/-- The findings of a severity, where a rating counts by the text that it shows as. -/
def countShown (findings : List Finding) (label : String) : Nat :=
  findings.countP fun finding => Text.lower finding.severity.shown == label

def countTable (findings : List Finding) : Block :=
  let count (label : String) : String := toString (countShown findings label)
  .table "Findings Summary" ["Severity", "Count", "Description"] [
    ["[red]CRITICAL[/red]", count "critical", "Immediate action required"],
    ["[orange1]HIGH[/orange1]", count "high", "Significant privacy risk"],
    ["[yellow]MEDIUM[/yellow]", count "medium", "Compliance warning"],
    ["[blue]LOW[/blue]", count "low", "Best practice suggestion"]]

def summary (findings : List Finding) (compliance : Document) : Outcome (List Block) := do
  return [← scorePanel compliance, countTable findings]

/-- The steps of a flow, each below the one before; the first and the last have marks of their
own. -/
def branches (isFirst : Bool) : List Document → List Branch
  | [] => []
  | step :: rest =>
    let (icon, style) :=
      if isFirst then ("🟢", "green") else if rest.isEmpty then ("🔴", "red") else ("🔄", "yellow")
    [.node (icon ++ " " ++ step.shown) style (branches false rest)]

/-- The flow of a finding as a tree; a finding without a flow shows nothing. -/
def flowTree (finding : Finding) : List Block :=
  if finding.flowPath.isEmpty then []
  else
    let label := finding.severity.label
    let color := if label == "critical" || label == "high" then "red" else "yellow"
    [.tree (.node ("[" ++ Text.upper label ++ "] " ++ finding.rule) ("bold " ++ color)
      (branches true finding.flowPath)), .blank]

end PrivacyScan.Report.Console
