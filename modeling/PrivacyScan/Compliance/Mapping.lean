import PrivacyScan.Compliance.Article
import PrivacyScan.Compliance.Measure

/-!
What a finding means for compliance: its articles, its data types in normal form and the measures
that it calls for.
-/

namespace PrivacyScan.Compliance

def mapping (finding : Document) (rule : String) : Outcome Document := do
  let classification ← finding.get "classification" (.object [])
  let articles ← articlesOf classification (← finding.get "snippet" (.text ""))
  let types ← normalTypesOf (← classification.get "pii_types" (.list []))
  let measures ← measuresOf classification rule
  return .object [
    ("gdpr_articles", .texts articles),
    ("pii_types", .texts types),
    ("tom_recommendations", .list (measures.map (·.toDocument))),
    ("confidence", ← classification.get "confidence" (.float 0.5)),
    ("severity", ← classification.get "severity" (.text "medium"))]

end PrivacyScan.Compliance
