import PrivacyScan.Document.Access
import PrivacyScan.Text.Casing

/-!
The titles under which readers see rules.
-/

namespace PrivacyScan.Report

/-- What the names of rules may start with, and titles leave out. Each is left out once, in this
order. -/
def ruleFamilies : List String := ["JS_", "PY_", "DB_", "FORM_FIELD_", "INFRA_"]

def withoutFamily (name family : String) : String :=
  if Text.startsWith name family then Text.drop family.length name else name

def titleOfName (name : String) : String :=
  Text.title (Text.replace (ruleFamilies.foldl withoutFamily name) "_" " ")

def ruleTitle (rule : Document) : Outcome String := do
  if !rule.isTruthy then return ""
  return titleOfName (← rule.asText "startswith")

end PrivacyScan.Report
