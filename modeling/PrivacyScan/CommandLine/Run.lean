import PrivacyScan.CommandLine.Options
import PrivacyScan.Finding.Record
import PrivacyScan.Project.Scan
import PrivacyScan.Report.Console
import PrivacyScan.Report.FlowText
import PrivacyScan.Report.Html.Page
import PrivacyScan.Report.Markdown
import PrivacyScan.Report.Sarif

/-!
What a command line does: it scans a project, writes a report and tells the outcome on the terminal,
or it starts an ignore file.
-/

namespace PrivacyScan.CommandLine

open Report (Moment)
open Report.Console (Block)

inductive Display where
  | plain
  | drawn
deriving Repr, DecidableEq

/-- What comes of a command line. The exit status is zero when all is well, one when the score is
too low and two when the arguments make no sense. -/
structure Outturn where
  exit : Nat := 0
  text : String := ""
  blocks : List Block := []
  written : List (Path × String) := []

def ignoreFileName : String := ".privalyseignore"

def ignoreFileText : String :=
  "# Privalyse Ignore File\n" ++
  "# Add patterns to ignore files or specific rules\n" ++
  "# Format: rule_id:file_pattern or just file_pattern\n\n" ++
  "# Ignore test files\n" ++
  "tests/*\n" ++
  "*_test.py\n" ++
  "*.test.js\n\n" ++
  "# Ignore specific rules in specific files\n" ++
  "# HARDCODED_SECRET:config/dev_settings.py\n"

/-- Starts an ignore file in the working directory, unless there is one. -/
def startIgnoreFile (workspace : Workspace) (display : Display) : Outturn :=
  let file := workspace.working.child ignoreFileName
  match (workspace.at? file).isSome, display with
  | true, .plain => { text := "⚠️  " ++ file.text ++ " already exists.\n" }
  | true, .drawn => { blocks := [Report.Console.warning (file.text ++ " already exists.")] }
  | false, .plain =>
    { text := "✅ Created " ++ file.text ++ "\n", written := [(file, ignoreFileText)] }
  | false, .drawn =>
    { blocks := [Report.Console.success ("Created " ++ file.text)]
      written := [(file, ignoreFileText)] }

def extendPatterns (patterns : Document) (more : List String) : Outcome Document :=
  match more, patterns with
  | [], patterns => .ok patterns
  | more, .list items => .ok (.list (items ++ more.map .text))
  | _, other => .error (.noMember other.kind "extend")

/-- The patterns for files in the ignore file of a directory; a pattern with a colon is for
rules. -/
def ignoredFiles (workspace : Workspace) (root : Path) : List String :=
  (Project.ignorePatternsIn workspace root).filter fun pattern => !Text.contains pattern ":"

/-- Adds the patterns of the ignore file, where there is a list to add them to. -/
def withIgnoredFiles (patterns : Document) (more : List String) : Document :=
  match patterns with
  | .list items => .list (items ++ more.map .text)
  | other => other

/-- The configuration of the root, changed as the options ask. Their patterns count before and after
those of the ignore file. -/
def configuration (workspace : Workspace) (root : Path) (options : Options) : Outcome Config := do
  let config ← Config.load workspace root
  let patterns ← extendPatterns config.excludePatterns options.exclude
  let patterns := withIgnoredFiles patterns (ignoredFiles workspace root)
  let patterns ← extendPatterns patterns options.exclude
  return { config with
    root
    excludePatterns := patterns
    maxWorkers := if options.maxWorkers == 8 then config.maxWorkers else .int options.maxWorkers
    maxFiles := (options.maxFiles.filter (· != 0)).or config.maxFiles
    debug := if options.debug then .bool true else config.debug
    verbose := if options.verbose then .bool true else config.verbose }

def formatOf (options : Options) : Format :=
  let name := Path.normalText options.out
  match options.format with
  | .standard =>
    if Text.endsWith name ".html" then .html
    else if Text.endsWith name ".json" then .json
    else if Text.endsWith name ".sarif" then .sarif
    else .markdown
  | other => other

/-- The path with an ending, which replaces any other one. -/
def ensureSuffix (path : Path) (suffix : String) : Outcome Path :=
  if Text.endsWith path.text suffix then .ok path
  else
    match path.withSuffix? suffix with
    | some path => .ok path
    | none => .error (.namelessPath path.text)

structure Scanned where
  results : Document
  findings : List Document
  metadata : Document
  compliance : Document

def Scanned.ofResult (result : ScanResult) : Outcome Scanned := do
  let results ← result.toDocument
  let compliance := results.fieldOrNull "compliance"
  let metadata := match result.coverage with
    | .object fields =>
      .object (fields ++ [("semantic_graph", results.fieldOrNull "semantic_graph"),
        ("compliance_score", compliance)])
    | other => other
  return { results, findings := ← (results.fieldOrNull "findings").elements, metadata, compliance }

def report (scanned : Scanned) (options : Options) (now : Moment) : Outcome (Path × String) := do
  let path := Path.ofText options.out
  let entries := scanned.findings.map Report.Entry.record
  match formatOf options with
  | .json => return (path, ← Report.json entries scanned.metadata)
  | .html => return (← ensureSuffix path ".html", ← Report.Html.page scanned.results now)
  | .sarif =>
    let text ← Report.Sarif.text entries
    return (← ensureSuffix path ".sarif", text)
  | .markdown | .standard =>
    let text ← Report.Markdown.text entries scanned.metadata now
    return (← ensureSuffix path ".md", text)

def scoreEmoji (score : Float) : String :=
  if score ≥ 90 then "🟢" else if score ≥ 70 then "🟡" else "🔴"

def countLine (label : String) (count : Document) : String :=
  if count.isTruthy then label ++ count.shown ++ "\n" else ""

def plainSummary (scanned : Scanned) (total : Nat) (path : Path) : Outcome String := do
  let compliance := scanned.compliance
  let score := compliance.fieldOrNull "score"
  let flows ← Report.FlowText.summary scanned.findings
  return "\n" ++ scoreEmoji (← score.compared ">=") ++ " Compliance Score: " ++ score.shown ++
    "/100 (" ++ (compliance.fieldOrNull "status").shown ++ ")\n📊 Findings: " ++ toString total ++
    " total\n" ++ countLine "🔴 Critical: " (compliance.fieldOrNull "critical_findings") ++
    countLine "🟠 High: " (compliance.fieldOrNull "high_findings") ++
    "📄 Report: " ++ path.text ++ "\n" ++ flows

def drawnSummary (scanned : Scanned) (findings : List Finding) (path : Path) :
    Outcome (List Block) := do
  let summary ← Report.Console.summary findings scanned.compliance
  let risky := findings.filter fun finding =>
    ["critical", "high"].contains finding.severity.label && !finding.flowPath.isEmpty
  let more := if risky.length > 3 then
      [Block.line ("[italic]... and " ++ toString (risky.length - 3) ++
        " more flow risks in the report.[/italic]")]
    else []
  return summary ++ [Report.Console.success ("Report generated: " ++ path.text),
    .line "\n[bold]🔍 Top Data Flow Risks:[/bold]"] ++
    (risky.take 3).flatMap Report.Console.flowTree ++ more

def scanAndReport (workspace : Workspace) (now : Moment) (display : Display) (options : Options) :
    Outcome Outturn := do
  let root := options.root.getD workspace.working
  let config ← configuration workspace root options
  let result ← ((Scanner.ofConfig config workspace).scan workspace).2
  let scanned ← Scanned.ofResult result
  let (path, text) ← report scanned options now
  workspace.checkWritable path
  let score ← (scanned.compliance.fieldOrNull "score").compared ">="
  let exit := if score ≥ 70 then 0 else 1
  let findings ← scanned.findings.mapM Finding.ofRecord
  match display with
  | .plain =>
    return { exit, written := [(path, text)]
             text := ← plainSummary scanned result.findings.length path }
  | .drawn =>
    let summary ← drawnSummary scanned findings path
    return { exit, written := [(path, text)], blocks := Report.Console.banner ++ summary }

def run (workspace : Workspace) (now : Moment) (display : Display) (arguments : List String) :
    Outcome Outturn :=
  match Options.parse arguments with
  | .error .helpWanted => .ok {}
  | .error .misused => .ok { exit := 2 }
  | .ok options =>
    if options.init then .ok (startIgnoreFile workspace display)
    else scanAndReport workspace now display options

end PrivacyScan.CommandLine
