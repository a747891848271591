import PrivacyScan.Document.Access
import PrivacyScan.Document.Shown
import PrivacyScan.Severity

/-!
What the parts of a page share: escaped text, the looks of severities, and the findings by severity.
-/

namespace PrivacyScan.Report.Html

def escapeChar (c : Char) : String :=
  match c with
  | '&' => "&amp;"
  | '<' => "&lt;"
  | '>' => "&gt;"
  | '"' => "&quot;"
  | '\'' => "&#39;"
  | other => String.singleton other

def escape (text : String) : String := String.join (text.toList.map escapeChar)

def color : Severity → String
  | .critical => "#dc2626"
  | .high => "#ea580c"
  | .medium => "#ca8a04"
  | .low => "#16a34a"
  | .info => "#0284c7"

def colorOf (severity : Document) : String :=
  match severity with
  | .text label => ((Severity.ofLabel? label).map color).getD "#ccc"
  | _ => "#ccc"

def heading : Severity → String
  | .critical => "🔴 Critical"
  | .high => "🟠 High"
  | .medium => "🟡 Medium"
  | .low => "🟢 Low"
  | .info => "ℹ️ Info"

abbrev Grouped := Severity → List Document

def severityLabel (finding : Document) : Outcome String := do
  let severity ← finding.get "severity" (.text "info")
  return Text.lower (← severity.asText "lower")

def grouped (findings : List Document) : Outcome Grouped := do
  let labelled ← findings.mapM fun finding => return (← severityLabel finding, finding)
  return fun level => (labelled.filter (·.1 == level.label)).map (·.2)

def Grouped.count (groups : Grouped) (level : Severity) : String := toString (groups level).length

end PrivacyScan.Report.Html
