import PrivacyScan.Report.Entry
import PrivacyScan.Table

/-!
The overview that most reports start from: how many findings there are of each severity, which
articles they touch, and which files they are in, the riskiest first.
-/

namespace PrivacyScan.Report

/-- The findings that touch an article; one that names it twice is listed twice. -/
structure ArticleGroup where
  description : String := ""
  findings : List Document := []

structure FileGroup where
  score : Nat := 0
  findings : List Document := []
  criticalCount : Nat := 0

structure Overview where
  summary : Table Nat
  articles : Table ArticleGroup
  files : Table FileGroup
  findings : List Document
  metadata : Document

namespace Overview

def summaryOf (entries : List Entry) : Outcome (Table Nat) :=
  entries.foldlM (fun summary entry => do
    match ← entry.severity.hashable with
    | .text label =>
      return if summary.hasKey label then summary.update label 0 (· + 1) else summary
    | _ => return summary)
    (("total", entries.length) :: Severity.all.map fun level => (level.label, 0))

/-- The articles that a classification names, or its main article when it names none. -/
def articlesOf (classification : Document) : Outcome (List Document) := do
  match classification with
  | .object _ =>
    let articles := classification.fieldOrNull "gdpr_articles"
    let named ← if articles.isTruthy then articles.elements
      else pure [classification.fieldOrNull "article"]
    return named.filter (·.isTruthy)
  | _ => return []

def articleKey (article : Document) : Outcome String := do
  let name := Text.upper (← article.asText "upper")
  return if Text.contains name "ART" && !Text.contains name "GDPR" then
      Text.replace name "ART" "GDPR"
    else name

def articleDescription (key : String) : String :=
  match key with
  | "GDPR-5" => "Principles relating to processing of personal data"
  | "GDPR-6" => "Lawfulness of processing"
  | "GDPR-9" => "Processing of special categories of personal data"
  | "GDPR-32" => "Security of processing"
  | _ => "Violation of " ++ key

def groupByArticle (entries : List Entry) : Outcome (Table ArticleGroup) :=
  entries.foldlM (fun groups entry => do
    let articles ← articlesOf entry.classification
    articles.foldlM (fun groups article => do
      let key ← articleKey article
      return groups.update key {} fun group =>
        { description := articleDescription key
          findings := group.findings ++ [entry.toDocument] }) groups) []

def riskOf (severity : Document) : Nat :=
  match severity with
  | .text "critical" => 10
  | .text "high" => 5
  | .text "medium" => 2
  | .text "low" => 1
  | _ => 0

def isCritical (severity : Document) : Bool := severity == .text "critical"

def FileGroup.add (group : FileGroup) (entry : Entry) : FileGroup where
  score := group.score + riskOf entry.severity
  findings := group.findings ++ [entry.toDocument]
  criticalCount := group.criticalCount + (if isCritical entry.severity then 1 else 0)

def groupByFile (entries : List Entry) : Table FileGroup :=
  entries.foldl (fun groups entry =>
    groups.update entry.file.shown {} (FileGroup.add · entry)) []

def riskiestFirst (groups : Table FileGroup) : Table FileGroup :=
  groups.mergeSort fun left right => right.2.score ≤ left.2.score

def ofEntries (entries : List Entry) (metadata : Document) : Outcome Overview := do
  return {
    summary := ← summaryOf entries
    articles := ← groupByArticle entries
    files := riskiestFirst (groupByFile entries)
    findings := entries.map (·.toDocument)
    metadata := if metadata.isTruthy then metadata else .object [] }

end Overview

def ArticleGroup.toDocument (group : ArticleGroup) : Document :=
  .object [("description", .text group.description), ("findings", .list group.findings),
    ("count", .int group.findings.length)]

def FileGroup.toDocument (group : FileGroup) : Document :=
  .object [("score", .int group.score), ("findings_count", .int group.findings.length),
    ("findings", .list group.findings), ("critical_count", .int group.criticalCount)]

namespace Overview

def summaryDocument (overview : Overview) : Document :=
  .object (overview.summary.map fun (name, count) => (name, .int count))

def toDocument (overview : Overview) : Document :=
  .object [("summary", overview.summaryDocument),
    ("compliance", .object (overview.articles.map fun (key, group) => (key, group.toDocument))),
    ("files", .object (overview.files.map fun (file, group) => (file, group.toDocument))),
    ("findings", .list overview.findings),
    ("metadata", overview.metadata)]

end Overview

def json (entries : List Entry) (metadata : Document) : Outcome String := do
  return (← Overview.ofEntries entries metadata).toDocument.pretty

end PrivacyScan.Report
