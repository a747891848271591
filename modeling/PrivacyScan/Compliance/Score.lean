import PrivacyScan.Compliance.Advice
import PrivacyScan.Finding.Basic
import PrivacyScan.Table

/-!
The score of a project. Every finding costs a penalty; the score falls exponentially with their sum.
Penalties are counted in any type of numbers: the score itself uses floats.
-/

namespace PrivacyScan.Compliance

def baseWeight (label : String) : Nat :=
  match label with
  | "critical" => 15
  | "high" => 8
  | "medium" => 3
  | "low" => 1
  | _ => 0

/-- Adjustments by the start of the article, in tenths; the first that fits is taken. -/
def articleTenths : List (String × Nat) :=
  [("Art. 9", 20), ("Art. 8", 15), ("Art. 32", 13), ("Art. 6", 10)]

def ruleTenths : List (String × Nat) :=
  [("HARDCODED_SECRET", 15), ("HARDCODED_CREDENTIAL_IN_CALL", 15),
    ("PLAINTEXT_PASSWORD_STORAGE", 14), ("HTTP_NOT_HTTPS", 12), ("LOG_PII", 9),
    ("THIRD_PARTY_SHARING", 13)]

def articleOf (finding : Finding) : Option String :=
  match finding.assessment with
  | .classified result => result.article.filter (!·.isEmpty)
  | .recorded _ => none

def articleFactor (article : Option String) : Nat :=
  match article with
  | some name =>
    ((articleTenths.find? fun (start, _) => Text.startsWith name start).map (·.2)).getD 10
  | none => 10

def ruleFactor (rule : String) : Nat := (ruleTenths.lookup rule).getD 10

structure Weight where
  base : Nat
  article : Nat
  rule : Nat
deriving Repr, DecidableEq

def weightOf (finding : Finding) : Weight where
  base := baseWeight finding.severity.label
  article := articleFactor (articleOf finding)
  rule := ruleFactor finding.rule

/-- What a weight costs, in numbers that read a count by `whole` and a count of tenths by
`tenths`. -/
def Weight.costIn {α : Type} [Mul α] (whole tenths : Nat → α) (weight : Weight) : α :=
  whole weight.base * tenths weight.article * tenths weight.rule

def tenths (count : Nat) : Float := Float.ofNat count / 10

def Weight.penalty (weight : Weight) : Float := weight.costIn Float.ofNat tenths

structure Share (α : Type) where
  count : Nat
  penalty : α
deriving Repr

variable {α : Type} [Add α]

def Share.add (share : Share α) (penalty : α) : Share α :=
  { count := share.count + 1, penalty := share.penalty + penalty }

def categoryOf (finding : Finding) : String := (articleOf finding).getD "General"

/-- The findings that cost something. -/
def counted (findings : List Finding) : List Finding :=
  findings.filter fun finding => (weightOf finding).base != 0

/-- The shares of the categories, in the order in which these first occur. -/
def shares (zero : α) (penalty : Weight → α) (findings : List Finding) : Table (Share α) :=
  (counted findings).foldl (fun table finding =>
    table.update (categoryOf finding) ⟨0, zero⟩ (·.add (penalty (weightOf finding)))) []

def totalPenalty (zero : α) (penalty : Weight → α) (findings : List Finding) : α :=
  (counted findings).foldl (fun total finding => total + penalty (weightOf finding)) zero

/-- The score for a sum of penalties: it never falls below 5, and has one place. -/
def scoreOf (total : Float) : Float :=
  let score := 100 * Float.pow 2.71828 (-total / 50)
  Number.roundTo (if score < 5 then 5.0 else score) 1

inductive Standing where
  | compliant
  | good
  | needsAttention
  | critical
  | severe
deriving Repr, DecidableEq

namespace Standing

def ofScore (score : Float) : Standing :=
  if score ≥ 90 then compliant
  else if score ≥ 75 then good
  else if score ≥ 60 then needsAttention
  else if score ≥ 40 then critical
  else severe

def label : Standing → String
  | compliant => "compliant"
  | good => "good"
  | needsAttention => "needs_attention"
  | critical => "critical"
  | severe => "severe"

def risk : Standing → String
  | compliant => "low"
  | good => "low"
  | needsAttention => "medium"
  | critical => "high"
  | severe => "critical"

end Standing

/-- The gravest of three levels that a rating speaks of. -/
def countedLevel? (rating : Rating) : Option Severity :=
  [Severity.critical, .high, .medium].find? fun level =>
    Text.contains (Text.lower rating.shown) level.label

def countOf (level : Severity) (findings : List Finding) : Nat :=
  findings.countP fun finding => countedLevel? finding.severity == some level

def shareDocument (share : Share Float) : Document :=
  .object [("count", .int share.count), ("penalty", .float share.penalty)]

def summary (findings : List Finding) : List (String × Document) :=
  if findings.isEmpty then
    [("score", .float 100.0), ("status", .text "compliant"), ("critical_findings", .int 0),
      ("high_findings", .int 0)]
  else
    let total := totalPenalty 0.0 Weight.penalty findings
    let score := scoreOf total
    let standing := Standing.ofScore score
    let critical := countOf .critical findings
    let high := countOf .high findings
    [("score", .float score), ("status", .text standing.label), ("risk_level", .text standing.risk),
      ("critical_findings", .int critical), ("high_findings", .int high),
      ("medium_findings", .int (countOf .medium findings)),
      ("total_penalty", .float (Number.roundTo total 2)),
      ("findings_by_category", .object ((shares 0.0 Weight.penalty findings).map
        fun (category, share) => (category, shareDocument share))),
      ("recommendation", .text (advice score critical high))]

end PrivacyScan.Compliance
