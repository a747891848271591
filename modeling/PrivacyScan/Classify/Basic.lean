import PrivacyScan.Document.Basic

/-!
Classifications: what kind of personal data was seen and which articles it touches.
-/

namespace PrivacyScan

structure Classification where
  piiTypes : List String
  sectors : List String
  severity : String
  article : Option String
  legalBasisRequired : Bool
  category : String
  confidence : Float
  reasoning : String := ""
  gdprArticles : List String := []
deriving Repr, Inhabited

namespace Classification

def toDocument (classification : Classification) : Document :=
  .object [
    ("pii_types", .texts classification.piiTypes),
    ("sectors", .texts classification.sectors),
    ("severity", .text classification.severity),
    ("article", .ofOption .text classification.article),
    ("gdpr_articles", .texts classification.gdprArticles),
    ("legal_basis_required", .bool classification.legalBasisRequired),
    ("category", .text classification.category),
    ("confidence", .float classification.confidence),
    ("reasoning", .text classification.reasoning)]

end Classification

end PrivacyScan
