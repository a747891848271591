import PrivacyScan.Document.Access
import PrivacyScan.Document.Shown
import PrivacyScan.Finding.Basic
import PrivacyScan.Path

/-!
Values of this project as documents: what has no form of its own there is given one, as far as there
is a natural one.
-/

namespace PrivacyScan.Report

inductive Item where
  | found (finding : Finding)
  | set (values : List Document)
  | place (path : Path)
  | bytes
  | plain (document : Document)

namespace Item

/-- The values of a set, each once and in order. -/
def sortedValues (values : List Document) : List Document :=
  (values.mergeSort fun left right => left.shown ≤ right.shown).foldr
    (fun value rest => if rest.head? == some value then rest else value :: rest) []

def toDocument : Item → Outcome Document
  | .found finding => .ok finding.toDocument
  | .set values => .ok (.list (sortedValues values))
  | .place path => .ok (.text path.text)
  | .bytes => .error (.notSerializable .bytes)
  | .plain document => .ok document

def listText (items : List Item) : Outcome String := do
  return (Document.list (← items.mapM toDocument)).compact

end Item

end PrivacyScan.Report
