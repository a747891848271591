import PrivacyScan.Document.Access
import PrivacyScan.Document.Shown
import PrivacyScan.Finding.Basic

/-!
What reports are made of: findings, or records of findings from outside, which may lack any field.
-/

namespace PrivacyScan.Report

inductive Entry where
  | found (finding : Finding)
  | record (document : Document)

namespace Entry

def toDocument : Entry → Document
  | .found finding => finding.toDocument
  | .record document => document

def severity : Entry → Document
  | .found finding => .text finding.severity.label
  | .record document => document.fieldOrNull "severity"

def file : Entry → Document
  | .found finding => .text finding.file
  | .record document => document.fieldOrNull "file"

def classification : Entry → Document
  | .found finding => finding.assessment.toDocument
  | .record document => document.fieldOrNull "classification"

end Entry

/-- The place of a severity, the gravest first; anything but a level comes last. -/
def severityOrder (severity : Document) : Outcome Nat := do
  match ← severity.hashable with
  | .text label => return Severity.orderOfLabel label
  | _ => return Severity.all.length

def gravestFirst {α : Type} (severity : α → Document) (items : List α) : Outcome (List α) := do
  let keyed ← items.mapM fun item => return (← severityOrder (severity item), item)
  return (keyed.mergeSort fun left right => left.1 ≤ right.1).map (·.2)

end PrivacyScan.Report
