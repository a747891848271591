import PrivacyScan.Check.Crypto
import PrivacyScan.Check.Injection
import PrivacyScan.Check.Security
import PrivacyScan.Compliance.Mapping
import PrivacyScan.Compliance.Score
import PrivacyScan.Graph.Route
import PrivacyScan.Project.CrossFile
import PrivacyScan.Project.FlowGraph
import PrivacyScan.Project.Ignore
import PrivacyScan.Project.Selection
import PrivacyScan.ScriptFlow.Analysis
import PrivacyScan.SourceFlow.Visit

/-!
Scanning a project. All modules and symbols are read first; then every file is analysed by itself,
its flows enter the graph, and findings are related to the sensitive functions of the whole project.
The findings are reported module by module, apart from those that the project ignores.
-/

namespace PrivacyScan

open Taint (FlowEdge Tracker)

inductive ExtraCheck where
  | injection
  | crypto
  | security
deriving Repr, DecidableEq

def ExtraCheck.findings (check : ExtraCheck) (file code : String) : Outcome (List Finding) :=
  match check with
  | .injection => Check.Injection.findings file code
  | .crypto => Check.Crypto.findings file code
  | .security => Check.Security.findings file code

/-- A scanner keeps what it has learnt of modules, symbols and flows from one scan to the next. The
ignore patterns and the root of module names are those of its first configuration. -/
structure Scanner where
  config : Config
  ignorePatterns : List String
  cross : CrossFile
  graph : Graph := {}
  checks : List ExtraCheck := []

/-- What the analysis of a file has found. The findings of a file whose module is refused by the
other modules are reported, but not counted as findings of the first pass. -/
structure FileReport where
  file : Path
  module : String
  findings : List Finding
  flows : List FlowEdge
  isAccepted : Bool := true

structure ScanResult where
  findings : List Finding
  flows : List FlowEdge
  root : Path
  fileCount : Nat
  dependencies : Table (List String)
  symbolCount : Nat
  sensitiveCount : Nat
  taintedAtFirst : Nat
  taintedAtLast : Nat
  graph : Graph

namespace Project

/-- The rating for the severity of a rule; one without a known name is of medium severity. -/
def ruleSeverity (label : String) : Severity :=
  (Severity.ofLabel? (Text.lower label)).getD .medium

/-- The line of a match with its two neighbours. -/
def matchSnippet (code : String) (line : Nat) : String :=
  let lines := Text.split code "\n"
  let first := line - 2
  Text.join "\n" ((lines.drop first).take (line + 1 - first))

def ruleAssessment (rule : Rule) : Assessment :=
  let classification (category reasoning : String) : Classification :=
    { piiTypes := [], sectors := [], severity := rule.severity, article := none
      legalBasisRequired := false, category, confidence := 1.0, reasoning, gdprArticles := [] }
  match rule.category, rule.message with
  | .text category, .text message => .classified (classification category message)
  | category, message =>
    match (classification "" "").toDocument with
    | .object fields =>
      .recorded (.object (Document.setField "category" category
        (Document.setField "reasoning" message fields)))
    | other => .recorded other

def ruleFinding (file code : String) (found : RuleMatch) : Finding where
  rule := "CUSTOM_" ++ found.rule.id.shown
  severity := .level (ruleSeverity found.rule.severity)
  file := file
  line := found.line
  snippet := matchSnippet code found.line
  assessment := ruleAssessment found.rule

/-- The findings of the rules of the user in these files; a file that cannot be read has none. -/
def ruleFindings (config : Config) (workspace : Workspace) (files : List Path) : List Finding :=
  files.flatMap fun path =>
    match workspace.read? path, path.relativeTo? config.root with
    | some code, some inside =>
      match Rule.scan (config.rules.getD []) code inside.text with
      | .ok found => found.map (ruleFinding inside.text code)
      | .error _ => []
    | _, _ => []

def languageOf? (config : Config) (file : Path) : Option Language :=
  if config.pythonEndings.contains file.suffix then some .python
  else if [".js", ".jsx", ".ts", ".tsx"].contains file.suffix then some .script
  else none

def readModules (config : Config) (workspace : Workspace) (cross : CrossFile) (files : List Path) :
    CrossFile :=
  files.foldl (fun cross file =>
    match languageOf? config file with
    | none => cross
    | some language =>
      let (resolver, module) := cross.resolver.analyze workspace file language
      let (symbols, _) := cross.symbols.register workspace file module.package language
      { cross with resolver, symbols }) cross

def sensitiveNames (symbols : Symbols) : List String :=
  let ownName (qualified : String) : String := ((Text.split qualified ".").getLast?).getD ""
  Text.sortedDistinct
    ((symbols.functionsWith (!·.personalParameters.isEmpty) ++ symbols.sensitive).map ownName)

/-- Relates a finding without tainted variables to the first sensitive function in its snippet.
Short names are not looked for. -/
def relate (names : List String) (finding : Finding) : Finding :=
  if !finding.taintedVariables.isEmpty then finding
  else
    match names.find? fun name => Text.contains finding.snippet name && Text.length name > 3 with
    | none => finding
    | some name =>
      { finding with
        taintedVariables := [name]
        metadata := Document.setField "taint_source" (.text "symbol_table_analysis")
          (Document.setField "sensitive_function" (.text name)
            (Document.setField "cross_file_taint" (.bool true) finding.metadata)) }

def taintedCount (findings : List Finding) : Nat :=
  findings.countP fun finding => !finding.taintedVariables.isEmpty

end Project

namespace Scanner

open Project

def ofConfig (config : Config) (workspace : Workspace) (checks : List ExtraCheck := []) :
    Scanner where
  config := config
  ignorePatterns := ignorePatternsIn workspace config.root
  cross := { resolver := { root := config.root } }
  checks := checks

/-- What the analysis of a file gives by itself. -/
structure Analysis where
  findings : List Finding
  tracker : Tracker

def moduleOf (scanner : Scanner) (file : Path) : String :=
  Resolver.packageName scanner.cross.resolver.root file

/-- The analysis of a file. A script may call functions of the modules that have been read. A Python
file that does not parse has no findings and no variables, and never those of the file before it. -/
def analysisOf (scanner : Scanner) (file : Path) (code : String) : Language → Outcome Analysis
  | .python =>
    (fun analysed => ⟨(analysed.getD {}).findings, (analysed.getD {}).tracker⟩) <$>
      SourceFlow.analyze? file.text code
  | .script =>
    (fun own => ⟨own.findings, own.tracker⟩) <$>
      ScriptFlow.analyze file.text code (some fun function arguments =>
        (scanner.cross.callResult? (scanner.moduleOf file) function arguments).map (·.piiTypes))

/-- The findings of the further checks, which only a Python file goes through. -/
def extraFindings (scanner : Scanner) (file : Path) (code : String) :
    Language → Outcome (List Finding)
  | .python => List.flatten <$> scanner.checks.mapM (·.findings file.text code)
  | .script => .ok []

def reportOn (scanner : Scanner) (file : Path) (language : Language) (own : Analysis)
    (extra : List Finding) : FileReport where
  file := file
  module := scanner.moduleOf file
  findings := own.findings ++ extra
  flows := own.tracker.edges
  isAccepted := (scanner.cross.register (scanner.moduleOf file) language own.tracker).2.isOk

/-- Analyses a file, enters its flows into the graph, and registers its module. Nothing is reported
of a file whose flows cannot be shown or whose checks fail, nor of a Python file whose module is
refused. -/
def readCode (scanner : Scanner) (file : Path) (code : String) (language : Language) :
    Scanner × Option FileReport :=
  match scanner.analysisOf file code language with
  | .error _ => (scanner, none)
  | .ok own =>
    let (graph, shown) := addFlows scanner.config.root file own.tracker.edges scanner.graph
    match shown, scanner.extraFindings file code language with
    | .ok (), .ok extra =>
      let (cross, _) := scanner.cross.register (scanner.moduleOf file) language own.tracker
      let report := scanner.reportOn file language own extra
      ({ scanner with graph, cross },
        if language = .script ∨ report.isAccepted then some report else none)
    | _, _ => ({ scanner with graph }, none)

def readFile (scanner : Scanner) (workspace : Workspace) (file : Path) :
    Scanner × Option FileReport :=
  match workspace.read? file, languageOf? scanner.config file with
  | some code, some language => scanner.readCode file code language
  | _, _ => (scanner, none)

def readFiles (scanner : Scanner) (workspace : Workspace) :
    List Path → Scanner × List FileReport
  | [] => (scanner, [])
  | file :: rest =>
    let (scanner, report) := scanner.readFile workspace file
    let (scanner, reports) := scanner.readFiles workspace rest
    (scanner, report.toList ++ reports)

/-- The last report of each module, in the order in which the modules first come. -/
def byModule (reports : List FileReport) : Table FileReport :=
  reports.foldl (fun table report => table.set report.module report) []

def configFor (scanner : Scanner) (root : Option Path) : Config :=
  { scanner.config with root := root.getD scanner.config.root }

/-- A scanner that has read the modules and symbols of the files, and nothing else yet. -/
def informed (scanner : Scanner) (workspace : Workspace) (root : Option Path)
    (files : List Path) : Scanner :=
  { scanner with
    config := scanner.configFor root
    cross := readModules (scanner.configFor root) workspace { scanner.cross with contexts := [] }
      files }

/-- Reads the files, once the modules and symbols of all of them are known. -/
def reading (scanner : Scanner) (workspace : Workspace) (root : Option Path) (files : List Path) :
    Scanner × List FileReport :=
  (scanner.informed workspace root files).readFiles workspace files

/-- The result of a scan that has come to these reports. -/
def conclude (scanner : Scanner) (workspace : Workspace) (files : List Path)
    (reports : List FileReport) : Outcome ScanResult := do
  let related := relate (sensitiveNames scanner.cross.symbols)
  let last := byModule reports
  let isLast (report : FileReport) : Bool :=
    (last.get? report.module).any (·.file == report.file)
  let atFirst := (reports.filter (·.isAccepted)).flatMap fun report =>
    if isLast report then report.findings.map related else report.findings
  let custom :=
    if scanner.config.rules.isSome then ruleFindings scanner.config workspace files else []
  let enhanced ← last.mapM fun (module, report) =>
    scanner.cross.enhanceAll module (report.findings.map fun finding => (related finding, none))
  let atLast := enhanced.flatten
  return {
    findings := atLast.filter (!isIgnored scanner.ignorePatterns ·)
    flows := (reports.filter (·.isAccepted)).flatMap (·.flows)
    root := scanner.config.root
    fileCount := files.length
    dependencies := scanner.cross.resolver.dependencies
    symbolCount := scanner.cross.symbols.definitions.length
    sensitiveCount := (Text.sortedDistinct scanner.cross.symbols.sensitive).length
    taintedAtFirst := taintedCount (atFirst ++ custom)
    taintedAtLast := taintedCount atLast
    graph := scanner.graph }

def scan (scanner : Scanner) (workspace : Workspace) (root : Option Path := none) :
    Scanner × Outcome ScanResult :=
  let config := scanner.configFor root
  match selectedFiles config workspace with
  | .error fault => ({ scanner with config }, .error fault)
  | .ok files =>
    let (scanner, reports) := scanner.reading workspace root files
    let (linked, _) := Route.resolve scanner.graph
    let graph := addSymbols config.root scanner.cross.symbols linked
    let (cross, propagated) := scanner.cross.propagate
    let scanner := { scanner with graph, cross }
    (scanner, do
      propagated
      scanner.conclude workspace files reports)

end Scanner

namespace ScanResult

/-- How much the second pass has added to the first, in percent. -/
def improvement (result : ScanResult) : String :=
  let first := Float.ofNat result.taintedAtFirst
  let last := Float.ofNat result.taintedAtLast
  let base := if result.taintedAtFirst == 0 then 1.0 else first
  Number.fixedText ((last - first) / base * 100) 1 ++ "%"

def reported (finding : Finding) : Outcome Document := do
  let mapped ← Compliance.mapping finding.toDocument finding.rule
  return .object (Document.setField "compliance_mapping" mapped finding.toFields)

def coverage (result : ScanResult) : Document :=
  .object [("files_scanned", .int result.fileCount),
    ("total_findings", .int result.findings.length),
    ("root_path", .text result.root.text),
    ("modules_analyzed", .int result.dependencies.length),
    ("import_relationships", .int ((result.dependencies.map (·.2.length)).foldl (· + ·) 0 : Nat)),
    ("symbols_registered", .int result.symbolCount),
    ("sensitive_functions", .int result.sensitiveCount),
    ("taint_coverage_initial", .int result.taintedAtFirst),
    ("taint_coverage_enhanced", .int result.taintedAtLast),
    ("taint_coverage_improvement", .text result.improvement)]

def toDocument (result : ScanResult) : Outcome Document := do
  let findings ← result.findings.mapM reported
  return .object [("findings", .list findings),
    ("flows", .list (result.flows.map (·.toDocument))),
    ("meta", result.coverage),
    ("compliance", .object (Compliance.summary result.findings)),
    ("dependency_graph", .object (result.dependencies.map fun (module, names) =>
      (module, .texts names))),
    ("semantic_graph", result.graph.toDocument)]

end ScanResult

end PrivacyScan
