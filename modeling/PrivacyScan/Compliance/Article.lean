import PrivacyScan.Compliance.DataType
import PrivacyScan.Document.Shown

/-!
The articles of the regulation that a classification touches: the one it names, those of its data
types and of its category, and those that its words point to.
-/

namespace PrivacyScan.Compliance

def articleWords : List (String × List String) := [
  ("Art. 6(1)(a)", ["consent", "einwilligung"]),
  ("Art. 6(1)(b)", ["contract", "vertrag", "contractual"]),
  ("Art. 6(1)(c)", ["legal obligation", "rechtliche verpflichtung", "compliance"]),
  ("Art. 6(1)(d)", ["vital interests", "lebenswichtige interessen", "emergency"]),
  ("Art. 6(1)(e)", ["public task", "öffentliche aufgabe", "public interest"]),
  ("Art. 6(1)(f)", ["legitimate interests", "berechtigte interessen", "legitimate"]),
  ("Art. 9(1)", ["special category", "besondere kategorie", "sensitive", "sensibel"]),
  ("Art. 9(2)(a)", ["explicit consent", "ausdrückliche einwilligung"]),
  ("Art. 9(2)(h)", ["health", "healthcare", "gesundheit", "medical", "medizin"]),
  ("Art. 13", ["information provided", "direct collection", "informationspflicht"]),
  ("Art. 14", ["indirect collection", "indirekte erhebung"]),
  ("Art. 15", ["right of access", "auskunftsrecht", "access request"]),
  ("Art. 16", ["rectification", "berichtigung", "correction"]),
  ("Art. 17", ["erasure", "deletion", "löschung", "right to be forgotten"]),
  ("Art. 18", ["restriction", "einschränkung"]),
  ("Art. 20", ["portability", "übertragbarkeit", "data export"]),
  ("Art. 21", ["object", "widerspruch", "opt-out"]),
  ("Art. 32", ["security", "sicherheit", "encryption", "verschlüsselung", "protection"]),
  ("Art. 33", ["breach notification", "meldung", "data breach"]),
  ("Art. 34", ["breach communication", "benachrichtigung"]),
  ("Art. 5(2)", ["accountability", "rechenschaftspflicht"]),
  ("Art. 24", ["controller responsibility", "verantwortung"]),
  ("Art. 25", ["privacy by design", "data protection by design", "privacy by default"]),
  ("Art. 30", ["records of processing", "verzeichnis", "processing records"]),
  ("Art. 35", ["DPIA", "impact assessment", "folgenabschätzung"]),
  ("Art. 10", ["criminal", "vorstrafen", "conviction"])]

def specialWords : List String :=
  ["health", "medical", "biometric", "genetic", "racial", "ethnic", "political", "religious",
    "sexual", "trade_union"]

def articlesOfType (name : String) : List String :=
  let lowered := Text.lower name
  (if Text.containsAny lowered specialWords then
    "Art. 9(1)" ::
      (if Text.containsAny lowered ["health", "medical"] then ["Art. 9(2)(h)"] else [])
    else []) ++
  (if Text.containsAny lowered ["criminal", "conviction"] then ["Art. 10"] else []) ++
  (if Text.containsAny lowered ["password", "token", "api_key", "secret", "credential"] then
    ["Art. 32"] else [])

def articlesOfCategory (category : String) : List String :=
  let lowered := Text.lower category
  (if Text.contains lowered "special" then ["Art. 9(1)"] else []) ++
  (if Text.containsAny lowered ["security", "credential"] then ["Art. 32"] else [])

def articlesOfText (text : String) : List String :=
  articleWords.filterMap fun (article, words) =>
    if Text.containsAny (Text.lower text) words then some article else none

def namedArticle (article : String) : String :=
  if Text.startsWith article "Art." then article else "Art. " ++ article

/-- All articles, sorted; personal data of which nothing else is known needs a lawful basis. -/
def articles (named : Option String) (types : List String) (category text : String) : List String :=
  let found := (named.map namedArticle).toList ++ types.flatMap articlesOfType ++
    articlesOfCategory category ++ articlesOfText text
  if found.isEmpty && !types.isEmpty then ["Art. 6(1)"] else Text.sortedDistinct found

def articlesOf (classification : Document) (description : Document) : Outcome (List String) := do
  let article ← classification.get "article"
  let named ← if article.isTruthy then some <$> article.asText "startswith" else pure none
  let types ← textsOf (← classification.get "pii_types" (.list []))
  let category ← (← classification.get "category" (.text "")).asText "lower"
  let reasoning ← classification.get "reasoning" (.text "")
  return articles named types category (description.shown ++ " " ++ reasoning.shown)

end PrivacyScan.Compliance
