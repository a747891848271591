import PrivacyScan.Report.Html.Basic
import PrivacyScan.Report.RuleTitle

/-!
The part of the page that lists the findings: by severity, and findings of one rule on one line of a
file together on one card.
-/

namespace PrivacyScan.Report.Html

/-- Findings that agree in file, line and rule; the first stands for all. -/
structure Bundle where
  file : Document
  line : Document
  rule : Document
  first : Document
  types : List Document := []
  count : Nat := 0

namespace Bundle

def isSamePlace (left right : Bundle) : Bool :=
  left.file == right.file && left.line == right.line && left.rule == right.rule

def ofFinding (finding : Document) : Outcome Bundle := do
  let file ← (finding.fieldOrNull "file").hashable
  let line ← (finding.fieldOrNull "line").hashable
  let rule ← (finding.fieldOrNull "rule").hashable
  let classification := (finding.field? "classification").getD (.object [])
  let types ← if classification.isTruthy then classification.get "pii_types" else pure .null
  let types ← if types.isTruthy then types.elements else pure []
  return { file, line, rule, first := finding, types := ← types.mapM (·.hashable), count := 1 }

def merge (bundle other : Bundle) : Bundle where
  file := bundle.file
  line := bundle.line
  rule := bundle.rule
  first := bundle.first
  types := bundle.types ++ other.types
  count := bundle.count + other.count

def insert (other : Bundle) : List Bundle → List Bundle
  | [] => [other]
  | bundle :: rest =>
    if bundle.isSamePlace other then bundle.merge other :: rest else bundle :: insert other rest

def ofFindings (findings : List Document) : Outcome (List Bundle) :=
  findings.foldlM (fun bundles finding => return insert (← ofFinding finding) bundles) []

def allTypes (bundle : Bundle) : List Document :=
  let sorted := bundle.types.mergeSort fun left right => left.shown ≤ right.shown
  sorted.foldr (fun type rest => if rest.head? == some type then rest else type :: rest) []

def shownFinding (bundle : Bundle) : Document :=
  match bundle.first with
  | .object fields =>
    if bundle.count > 1 then
      .object (Document.setField "aggregated_pii" (.list bundle.allTypes)
        (Document.setField "aggregated_count" (.int bundle.count) fields))
    else bundle.first
  | other => other

end Bundle

def extended (reasoning : Document) (more : String) : Outcome Document :=
  match reasoning with
  | .text value => .ok (.text (value ++ more))
  | .list items => .ok (.list (items ++ more.toList.map fun c => .text (String.singleton c)))
  | other => .error (.cannotCombine "+=" other.kind .text)

def codePart (snippet : Document) : Outcome String := do
  if !snippet.isTruthy then return ""
  return "<div class=\"finding-code\">" ++ escape (← snippet.asText "replace") ++ "</div>"

def articlePart (article : Document) : String :=
  if article == .text "N/A" then ""
  else "<div class=\"finding-gdpr\"><strong>GDPR:</strong> " ++ article.shown ++ "</div>"

def reasoningPart (reasoning : Document) : String :=
  if reasoning.isTruthy then
    "<p style=\"margin-top: 12px; color: #4b5563;\">" ++ reasoning.shown ++ "</p>"
  else ""

def occurrences (finding reasoning : Document) : Outcome (String × Document) := do
  let count := (finding.field? "aggregated_count").getD (.int 1)
  let types := (finding.field? "aggregated_pii").getD (.list [])
  let number ← count.compared ">"
  if number ≤ 1 then return ("", reasoning)
  let suffix := " (x" ++ count.shown ++ " occurrences)"
  if !types.isTruthy then return (suffix, reasoning)
  let shown ← types.joined ", "
  return (suffix, ← extended reasoning
    ("<br><strong>Aggregated PII Types:</strong> " ++ shown))

def findingCard (finding : Document) (index : Nat) (level : Severity) : Outcome String := do
  let field (name : String) (default : Document) : Document := (finding.field? name).getD default
  let classification := field "classification" (.object [])
  let article ← classification.get "article" (.text "N/A")
  let reasoning ← classification.get "reasoning" (.text "")
  let (suffix, reasoning) ← occurrences finding reasoning
  let title ← ruleTitle (field "rule" (.text "UNKNOWN"))
  let code ← codePart (field "snippet" (.text ""))
  return r#"
        <div class="finding-card "# ++ level.label ++ r#"">
            <div class="finding-title">
                "# ++ toString index ++ ". " ++ title ++ suffix ++ r#"
            </div>
            <div class="finding-meta">
                <span>📍 <strong>File:</strong> "# ++ (field "file" (.text "N/A")).shown ++ r#"</span>
                <span>📏 <strong>Line:</strong> "# ++ (field "line" (.text "N/A")).shown ++ r#"</span>
            </div>
            "# ++ code ++ r#"
            "# ++ articlePart article ++ r#"
            "# ++ reasoningPart reasoning ++ r#"
        </div>
        "#

def levelPart (groups : Grouped) (level : Severity) : Outcome String := do
  if (groups level).isEmpty then return ""
  let bundles ← Bundle.ofFindings (groups level)
  let cards ← bundles.zipIdx.mapM fun (bundle, position) =>
    findingCard bundle.shownFinding (position + 1) level
  return "    <div class=\"severity-group\">\n        <div class=\"severity-header\">" ++
    heading level ++ " (" ++ toString bundles.length ++ ")</div>\n" ++ String.join cards ++
    "    </div>\n"

def findingPart (groups : Grouped) : Outcome String := do
  let parts ← Severity.all.mapM (levelPart groups)
  return "<div class=\"findings-section\">\n    <h2 class=\"section-title\">🔍 Detailed Findings</h2>\n" ++
    String.join parts ++ "</div>\n"

end PrivacyScan.Report.Html
