import PrivacyScan.Path
import PrivacyScan.Report.Moment
import PrivacyScan.Report.Overview

/-!
Reports in Markdown: a summary, the articles that are touched, the riskiest files, the gravest
findings in detail, and the flow of data as a diagram.
-/

namespace PrivacyScan.Report.Markdown

def emoji (severity : Document) : String :=
  match severity with
  | .text "critical" => "🔴"
  | .text "high" => "🟠"
  | .text "medium" => "🟡"
  | .text "low" => "🔵"
  | .text "info" => "⚪"
  | _ => ""

def header (metadata : Document) (now : Moment) : Outcome String := do
  let timestamp ← metadata.get "scan_timestamp" (.text now.iso)
  let root ← metadata.get "root_path" (.text "Unknown")
  return "# 🛡️ Privalyse Scan Report\n\n**Generated:** " ++ timestamp.shown ++
    "  \n**Target:** `" ++ root.shown ++ "`  \n**Focus:** GDPR Compliance & Data Privacy"

def status (critical high : Nat) : String :=
  if critical > 0 then "🚨 **CRITICAL RISKS DETECTED**"
  else if high > 0 then "⚠️ **HIGH RISKS DETECTED**"
  else "✅ **NO CRITICAL ISSUES**"

def summarySection (summary : Table Nat) : String :=
  let count (name : String) : Nat := (summary.get? name).getD 0
  let row (name label : String) : String :=
    "| " ++ emoji (.text name) ++ " " ++ label ++ " | " ++ toString (count name) ++ " |\n"
  "## 📊 Executive Summary\n\n" ++ status (count "critical") (count "high") ++
    "\n\n| Severity | Count |\n|----------|-------|\n| **Total Findings** | **" ++
    toString (count "total") ++ "** |\n" ++ row "critical" "Critical" ++ row "high" "High" ++
    row "medium" "Medium" ++ row "low" "Low"

def articleSection (articles : Table ArticleGroup) : String :=
  if articles.isEmpty then
    "## ⚖️ GDPR Compliance\n\nNo specific GDPR violations detected."
  else
    Text.join "\n" (["## ⚖️ GDPR Compliance Report\n", "| Article | Description | Violations |",
      "|---------|-------------|------------|"] ++
      (articles.map fun (key, group) =>
        "| **" ++ key ++ "** | " ++ group.description ++ " | " ++ toString group.findings.length ++
          " |") ++
      ["\n> **Note:** This mapping is automated and does not constitute legal advice."])

def fileSection (files : Table FileGroup) : String :=
  if files.isEmpty then ""
  else
    Text.join "\n" (["## 📂 Top Riskiest Files\n",
      "Files with the highest concentration of privacy issues:\n",
      "| File | Risk Score | Findings | Critical |",
      "|------|------------|----------|----------|"] ++
      ((files.take 5).map fun (file, group) =>
        "| `" ++ file ++ "` | " ++ toString group.score ++ " | " ++
        toString group.findings.length ++
          " | " ++ toString group.criticalCount ++ " |"))

def languageOf (file : Document) : Outcome String :=
  match file with
  | .text path =>
    .ok (match Text.lower (Path.ofText path).suffix with
      | ".py" => "python"
      | ".js" => "javascript"
      | ".ts" => "typescript"
      | ".jsx" => "jsx"
      | ".tsx" => "tsx"
      | ".java" => "java"
      | ".go" => "go"
      | ".rb" => "ruby"
      | ".php" => "php"
      | ".cs" => "csharp"
      | _ => "text")
  | other => .error (.notAPath other.kind)

def remedy (rule : String) : String :=
  let has (word : String) : Bool := Text.contains (Text.upper rule) word
  if has "LOG" then "- Remove PII from log messages\n- Use user IDs instead of emails/names"
  else if has "HTTP" && has "PLAIN" then
    "- Use HTTPS instead of HTTP\n- Update all API endpoints to use HTTPS"
  else if has "API_KEY" || has "SECRET" then
    "- Move secrets to environment variables\n- Use `.env` file"
  else if has "PASSWORD" then
    "- Hash passwords before storage\n- Never store plaintext passwords"
  else "- Review this finding and implement appropriate security controls"

def cleanStep (step : Document) : String :=
  Text.replace (Text.replace (Text.replace step.shown "\"" "'") "(" "") ")" ""

/-- The node of a step, the first and the last one in a form of their own, and the arrow that leads
to it. -/
def stepLines (count index : Nat) (step : Document) : String :=
  let name := "step" ++ toString index
  let label := cleanStep step
  let node :=
    if index == 0 then "    " ++ name ++ "([\"🟢 " ++ label ++ "\"])\n"
    else if index + 1 == count then "    " ++ name ++ "([\"🔴 " ++ label ++ "\"])\n"
    else "    " ++ name ++ "[\"🔄 " ++ label ++ "\"]\n"
  if index == 0 then node
  else node ++ "    step" ++ toString (index - 1) ++ " --> " ++ name ++ "\n"

def flowPart (path : Document) : Outcome (List String) := do
  if !path.isTruthy then return []
  let steps ← path.elements
  let lines := steps.zipIdx.map fun (step, index) => stepLines steps.length index step
  return ["**🌊 Data Flow Story:**\n```mermaid\nflowchart TD\n" ++ Text.join "" lines ++ "```"]

def typesPart (classification : Document) : Outcome (List String) := do
  let types ← classification.get "pii_types" (.list [])
  if !types.isTruthy then return []
  return ["**🔍 PII Detected:** " ++ (← types.joined ", ")]

def codePart (snippet file : Document) : Outcome (List String) := do
  if !snippet.isTruthy then return []
  return ["**💻 Code:**\n```" ++ (← languageOf file) ++ "\n" ++ snippet.shown ++ "\n```"]

def detail (finding : Document) (number : Nat) : Outcome String := do
  let field (name : String) (default : Document) : Document := (finding.field? name).getD default
  let file := field "file" (.text "Unknown file")
  let severity := field "severity" (.text "info")
  let title := "### " ++ toString number ++ ". " ++ (field "rule" (.text "Unknown Rule")).shown ++
    " (" ++ emoji severity ++ " " ++ Text.title (← severity.asText "title") ++ ")"
  let location := "**📍 Location:** `" ++ file.shown ++ ":" ++ (field "line" (.int 0)).shown ++ "`"
  let types ← typesPart (field "classification" (.object []))
  let code ← codePart (field "snippet" (.text "")) file
  let rule ← (field "rule" (.text "")).asText "upper"
  let flow ← flowPart (field "flow_path" (.list []))
  return Text.join "\n\n" ([title, location] ++ types ++ flow ++ code ++
    ["**✅ How to Fix:**\n" ++ remedy rule]) ++ "\n\n---\n"

def isGrave (severity : Document) : Bool := severity == .text "critical" || severity == .text "high"

/-- The severity by which an entry is chosen; a record without one has the least. -/
def chosenSeverity : Entry → Document
  | .found finding => .text finding.severity.label
  | .record document => (document.field? "severity").getD (.text "info")

/-- Ten entries of critical or high severity, the gravest first. -/
def topEntries (entries : List Entry) : Outcome (List Entry) := do
  let sorted ← gravestFirst chosenSeverity entries
  return (sorted.filter fun entry => isGrave (chosenSeverity entry)).take 10

/-- Ten findings of critical or high severity in detail. -/
def detailSection (entries : List Entry) : Outcome String := do
  let top ← topEntries entries
  if top.isEmpty then
    return "## 🔍 Detailed Findings\n\nNo critical or high severity findings to detail."
  let details ← top.zipIdx.mapM fun (entry, index) => detail entry.toDocument (index + 1)
  let others := entries.length - top.length
  let more := if others == 0 then []
    else ["\n*... and " ++ toString others ++ " more findings. See JSON report for full details.*"]
  return Text.join "\n" (["## 🔍 Top Critical & High Findings\n"] ++ details ++ more)

def edgeLine (edge : Document) : Outcome String := do
  let clean (name : String) : String :=
    Text.replace (Text.replace (Text.replace name "-" "_") "." "_") "/" "_"
  let source ← (← edge.item "source").asText "replace"
  let target ← (← edge.item "target").asText "replace"
  return "  " ++ clean source ++ " --> " ++ clean target

/-- The graph of a project as a diagram, unless it has more than fifty edges. -/
def graphSection (graph : Document) : Outcome String := do
  let nodes ← graph.get "nodes" (.list [])
  let edges ← graph.get "edges" (.list [])
  if !nodes.isTruthy || !edges.isTruthy then return ""
  let start := ["## 🗺️ Data Flow Architecture", "",
    "> **Note:** This diagram uses [Mermaid](https://mermaid.js.org/).", "", "```mermaid",
    "flowchart LR", "  classDef sinkCritical fill:#fecaca,stroke:#dc2626,stroke-width:4px",
    "  classDef default fill:#f9f9f9,stroke:#333,stroke-width:1px"]
  let items ← match edges.elements with
    | .ok items => pure items
    | .error _ => .error (.noLength edges.kind)
  let body ← if items.length > 50 then pure ["  %% Graph too large to render inline"]
    else items.mapM edgeLine
  return Text.join "\n" (start ++ body ++ ["```"])

def footer : String := "---\n**Generated by [Privalyse](https://privalyse.com)**"

def text (entries : List Entry) (metadata : Document) (now : Moment) : Outcome String := do
  let overview ← Overview.ofEntries entries metadata
  let top ← header metadata now
  let details ← detailSection entries
  let graph := metadata.fieldOrNull "semantic_graph"
  let diagram ← if graph.isTruthy then pure [← graphSection graph] else pure []
  return Text.join "\n\n" ([top, summarySection overview.summary, articleSection overview.articles,
    fileSection overview.files, details] ++ diagram ++ [footer])

end PrivacyScan.Report.Markdown
