import PrivacyScan.Document.Access
import PrivacyScan.Document.Shown
import PrivacyScan.Finding.Basic

/-!
Findings read back from their records. A field that is missing has a value of its own, and of the
fields that only some findings have the flow alone is read.
-/

namespace PrivacyScan

namespace Document

/-- The text of a field; another value counts as the text that it shows as. -/
def textField (document : Document) (name default : String) : Outcome String := do
  return (← document.get name (.text default)).shown

/-- The items of a field; a value that is no list has none. -/
def itemsField (document : Document) (name : String) : Outcome (List Document) := do
  match ← document.get name (.list []) with
  | .list items => return items
  | _ => return []

end Document

def Classification.ofRecord (record : Document) : Outcome Classification := do
  return {
    piiTypes := (← record.itemsField "pii_types").map (·.shown)
    sectors := (← record.itemsField "sectors").map (·.shown)
    severity := ← record.textField "severity" "info"
    article := (← record.get "article").text?
    legalBasisRequired := (← record.get "legal_basis_required" (.bool false)).isTruthy
    category := ← record.textField "category" "unknown"
    confidence := match ← record.get "confidence" (.float 0.0) with
      | .float value => value
      | _ => 0.0
    reasoning := ← record.textField "reasoning" ""
    gdprArticles := (← record.itemsField "gdpr_articles").map (·.shown) }

/-- The finding of a record. Its severity is a text, whatever it was before. -/
def Finding.ofRecord (record : Document) : Outcome Finding := do
  let classification ← Classification.ofRecord (← record.get "classification" (.object []))
  return {
    rule := ← record.textField "rule" "UNKNOWN"
    severity := .named (← record.textField "severity" "info")
    file := ← record.textField "file" ""
    line := match ← record.get "line" (.int 0) with
      | .int line => line
      | _ => 0
    snippet := ← record.textField "snippet" ""
    assessment := .classified classification
    flowPath := ← record.itemsField "flow_path" }

end PrivacyScan
