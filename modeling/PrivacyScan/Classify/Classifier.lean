import PrivacyScan.Classify.Basic
import PrivacyScan.Classify.Rules

/-!
Which personal data a piece of code handles. `Verdict.ofCode` applies the rules for data and special
categories; `Verdict.ofKeywords` only looks for keywords.
-/

namespace PrivacyScan.Classify

/-- The articles are in code point order, and the first of them is the primary one. -/
structure Verdict where
  piiTypes : List String
  severity : Severity
  articles : List String := []
  isPersonal : Bool
  category : String
  confidence : Float
  reasoning : String
deriving Repr

def Verdict.classification (verdict : Verdict) : Classification :=
  { piiTypes := verdict.piiTypes, sectors := [], severity := verdict.severity.label,
    article := verdict.articles.head?, legalBasisRequired := verdict.isPersonal,
    category := verdict.category, confidence := verdict.confidence, reasoning := verdict.reasoning,
    gdprArticles := verdict.articles }

/-- A piece of code with what is known around it. The text and the context are in lower case. -/
structure Sample where
  code : String
  context : String
  variableNames : List String
deriving Repr

namespace Sample

def ofCode (code context : String) (variableNames : List String) : Sample :=
  { code := Text.lower code, context := Text.lower context,
    variableNames := variableNames.map Text.lower }

def mentionsAny (sample : Sample) (words : List String) : Bool :=
  words.any fun word => Text.contains sample.code word || Text.contains sample.context word

end Sample

def DataRule.applies (rule : DataRule) (sample : Sample) : Bool :=
  !sample.mentionsAny rule.exclusions &&
    (rule.patterns.any (·.occursIn sample.code) ||
      sample.variableNames.any fun name => (rule.variableNames.map Text.lower).contains name)

def SpecialCategory.applies (category : SpecialCategory) (sample : Sample) : Bool :=
  category.patterns.any (·.occursIn sample.code) && !sample.mentionsAny category.exclusions &&
    (category.contexts.isEmpty || sample.mentionsAny category.contexts)

namespace Verdict

/-- Which rules apply decides everything: the types are the codes of all that apply, the severity is
the greatest among them, and a special category is always critical. -/
def ofSample (sample : Sample) : Verdict :=
  let rules := dataRules.filter (·.applies sample)
  let special := Text.sortedDistinct ((specialCategories.filter (·.applies sample)).map (·.code))
  let piiTypes := Text.sortedDistinct (rules.map (·.code) ++ special)
  let named := rules.filterMap (·.article) ++ (if special.isEmpty then [] else ["Art. 9"])
  let articles := if !piiTypes.isEmpty && named.isEmpty then ["Art. 6(1)"]
    else Text.sortedDistinct named
  let reasons := rules.map (fun rule => "Found " ++ rule.code) ++
    (if special.isEmpty then [] else ["Special category: " ++ Text.join ", " special])
  { piiTypes, articles
    severity := if special.isEmpty then
        rules.foldl (fun severity rule => severity.max rule.severity) .info
      else .critical
    isPersonal := !piiTypes.isEmpty
    category := if piiTypes.isEmpty then "technical" else "pii"
    confidence := if piiTypes.isEmpty then 0.0 else 1.0
    reasoning := if reasons.isEmpty then "No PII detected" else Text.join "; " reasons }

def ofCode (code context : String) (variableNames : List String) : Verdict :=
  ofSample (Sample.ofCode code context variableNames)

end Verdict

def keywordPatterns : List (String × List Pattern) := [
  ("email", patternsOf [r"\b[A-Za-z0-9._%+-]+@[A-Za-z0-9.-]+\.[A-Z|a-z]{2,}\b", r"\bemail\b",
    r"\bmail\b", r"\be_mail\b"]),
  ("password", patternsOf [r"\bpassword\b", r"\bpasswd\b", r"\bpwd\b", r"\bsecret\b"]),
  ("token", patternsOf [r"\btoken\b", r"\baccess_token\b", r"\brefresh_token\b", r"\bapi_key\b",
    r"\beyJ[A-Za-z0-9._-]{20,}\b"]),
  ("id", patternsOf [r"\buser_id\b", r"\bcustomer_id\b", r"\b(user|customer)_?id\b"]),
  ("phone", patternsOf [r"\bphone\b", r"\bmobile\b", r"\btel\b", r"\btelephone\b",
    r"\b(?:\+?1[-.\s]?)?\(?[0-9]{3}\)?[-.\s]?[0-9]{3}[-.\s]?[0-9]{4}\b"]),
  ("ssn", patternsOf [r"\bssn\b", r"\bsocial_security\b", r"\b\d{3}-\d{2}-\d{4}\b"]),
  ("address", patternsOf [r"\baddress\b", r"\bstreet\b", r"\bcity\b", r"\bzip\b", r"\bpostal\b"]),
  ("name", patternsOf [r"\b(first|last|full)_?name\b", r"\bgivenname\b", r"\bsurname\b"])]

/-- The verdict from keywords alone, which is never certain. -/
def Verdict.ofKeywords (code : String) : Verdict :=
  let lowered := Text.lower code
  let found := keywordPatterns.filter fun (_, patterns) => patterns.any (·.occursIn lowered)
  let piiTypes := Text.sortedDistinct (found.map (·.1))
  let severity : Severity :=
    if ["password", "ssn", "token"].any piiTypes.contains then .high
    else if ["email", "phone", "address"].any piiTypes.contains then .medium
    else .info
  { piiTypes, severity, isPersonal := !piiTypes.isEmpty
    category := if piiTypes.isEmpty then "unknown" else "pii"
    confidence := if found.isEmpty then 0.5 else 0.7
    reasoning := "Legacy classification: found " ++ toString piiTypes.length ++ " PII types" }

inductive Method where
  | byRules
  | byKeywords
deriving Repr, DecidableEq

def Method.classify (method : Method) (code context : String) (variableNames : List String) :
    Verdict :=
  match method with
  | .byRules => Verdict.ofCode code context variableNames
  | .byKeywords => Verdict.ofKeywords code

end PrivacyScan.Classify
