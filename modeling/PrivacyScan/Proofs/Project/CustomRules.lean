import PrivacyScan.Project.Scan
import PrivacyScan.Proofs.Check.Reports
import PrivacyScan.Proofs.Project.CrossFile
import PrivacyScan.Proofs.ScriptFlow.Reports
import PrivacyScan.Proofs.SourceFlow.Walk

/-!
# What becomes of the rules of the user

A scan applies the rules of the user to all files, and counts what they find among the findings of
the first pass. What it reports are the findings of the modules, and these come from the analysis
alone:

* **`readFile_eq_some_iff`** — when there is a report of a file, and what it says;
* **`scan_eq`** — the result of a scan, without the steps that change nothing: propagation, and the
  explanation of findings by imported names;
* **`scan_withRules`** — no rule of the user changes anything of it;
* **`readFiles_rules`** — every finding of a module has a rule of the analysis, and none of these
  begins like a rule of the user.
-/

namespace PrivacyScan.Project

open Taint (FlowEdge)

/-- Flows are shown exactly when each of them comes from a value with a name. -/
theorem addFlows_eq_ok_iff {root file : Path} {flows : List FlowEdge} {graph : Graph} :
    (addFlows root file flows graph).2 = .ok () ↔ ∀ flow ∈ flows, flow.source ≠ none := by
  induction flows generalizing graph with
  | nil => simp [addFlows]
  | cons flow rest ih =>
    unfold addFlows addFlow
    rw [List.forall_mem_cons]
    cases hsource : flow.source with
    | none =>
      -- the run ends here, whatever the other flows are
      simp
    | some source =>
      dsimp only
      rw [ih]
      simp

end PrivacyScan.Project

namespace PrivacyScan.Scanner

open Project
open Taint (Tracker)
open Outcome (Completes)

variable {scanner : Scanner} {workspace : Workspace} {file : Path} {code : String}
  {language : Language} {report : FileReport}

/-! ## Reading files

A scanner goes through the files and learns of modules and flows. It keeps its configuration and its
ignore patterns, and no module imports from another one on the way. -/

/-- Two scanners that differ only in the flows and contexts that they have come across. -/
structure Agrees (first second : Scanner) : Prop where
  config : second.config = first.config
  checks : second.checks = first.checks
  resolver : second.cross.resolver = first.cross.resolver
  symbols : second.cross.symbols = first.cross.symbols

namespace Agrees

variable {first second third : Scanner}

theorem refl (scanner : Scanner) : Agrees scanner scanner := ⟨rfl, rfl, rfl, rfl⟩

theorem trans (h : Agrees first second) (h' : Agrees second third) : Agrees first third :=
  ⟨h'.config.trans h.config, h'.checks.trans h.checks, h'.resolver.trans h.resolver,
    h'.symbols.trans h.symbols⟩

theorem symm (h : Agrees first second) : Agrees second first :=
  ⟨h.config.symm, h.checks.symm, h.resolver.symm, h.symbols.symm⟩

end Agrees

structure Continues (before after : Scanner) : Prop where
  agrees : Agrees before after
  patterns : after.ignorePatterns = before.ignorePatterns
  isInert : before.cross.IsInert → after.cross.IsInert

namespace Continues

theorem refl (scanner : Scanner) : Continues scanner scanner := ⟨.refl scanner, rfl, id⟩

theorem trans {first second third : Scanner} (h : Continues first second)
    (h' : Continues second third) : Continues first third :=
  ⟨h.agrees.trans h'.agrees, h'.patterns.trans h.patterns,
    fun hinert => h'.isInert (h.isInert hinert)⟩

end Continues

theorem readFile_continues (scanner : Scanner) (workspace : Workspace) (file : Path) :
    Continues scanner (scanner.readFile workspace file).1 := by
  unfold readFile
  split
  · unfold readCode
    split
    · exact .refl scanner
    · dsimp only
      split
      · obtain ⟨hresolver, hsymbols⟩ := CrossFile.register_keeps
        exact ⟨⟨rfl, rfl, hresolver, hsymbols⟩, rfl, CrossFile.register_isInert⟩
      · exact ⟨⟨rfl, rfl, rfl, rfl⟩, rfl, id⟩
  · exact .refl scanner

theorem readFiles_continues (scanner : Scanner) (workspace : Workspace) (files : List Path) :
    Continues scanner (scanner.readFiles workspace files).1 := by
  induction files generalizing scanner with
  | nil => exact .refl scanner
  | cons file rest ih => exact (readFile_continues scanner workspace file).trans (ih _)

/-- Modules and symbols are read before any context is registered. -/
theorem readModules_contexts (config : Config) (workspace : Workspace) (cross : CrossFile)
    (files : List Path) : (readModules config workspace cross files).contexts = cross.contexts := by
  unfold readModules
  refine foldl_relates (fun first last : CrossFile => last.contexts = first.contexts)
    (fun _ => rfl) (fun h h' => h'.trans h) (fun file _ cross => ?_) cross
  dsimp only
  split
  · rfl
  · rfl

/-! ## The report of one file -/

/-- None of the names that the module of a file exports is tainted. -/
def ExportsNothingTainted (scanner : Scanner) (file : Path) (tracker : Tracker) : Prop :=
  ∀ name ∈ scanner.cross.symbols.exportsOf (scanner.moduleOf file), tracker.record? name = none

/-- All goes well behind the analysis of a file that has to: its flows can be shown, the further
checks complete, and a Python module is accepted by the other modules. -/
structure Keeps (scanner : Scanner) (file : Path) (code : String) (language : Language)
    (tracker : Tracker) : Prop where
  flows : ∀ flow ∈ tracker.edges, flow.source ≠ none
  checks : Completes (scanner.extraFindings file code language)
  exports : language = .python → scanner.ExportsNothingTainted file tracker

theorem isAccepted_reportOn_iff {own : Analysis} {extra : List Finding} :
    (scanner.reportOn file language own extra).isAccepted = true ↔
      scanner.ExportsNothingTainted file own.tracker := by
  unfold ExportsNothingTainted
  rw [← CrossFile.register_eq_ok_iff, reportOn]
  cases (scanner.cross.register (scanner.moduleOf file) language own.tracker).2 with
  | ok accepted => exact iff_of_true rfl rfl
  | error fault => exact iff_of_false nofun nofun

/-- **There is a report of a file exactly when its analysis completes and all goes well behind it**,
and it holds what the analysis and the further checks have found. -/
theorem readFile_eq_some_iff :
    (scanner.readFile workspace file).2 = some report ↔
      ∃ code language own extra, workspace.read? file = some code ∧
        languageOf? scanner.config file = some language ∧
        scanner.analysisOf file code language = .ok own ∧
        scanner.extraFindings file code language = .ok extra ∧
        scanner.Keeps file code language own.tracker ∧
        report = scanner.reportOn file language own extra := by
  constructor
  · intro h
    -- all branches but one end without a report
    unfold readFile at h
    split at h
    · next code language hcode hlanguage =>
      unfold readCode at h
      split at h
      · cases h
      · next own hown =>
        dsimp only at h
        split at h
        · next extra hshown hextra =>
          dsimp only at h
          split at h
          · next haccepted =>
            refine ⟨code, language, own, extra, hcode, hlanguage, hown, hextra,
              ⟨addFlows_eq_ok_iff.mp hshown, ⟨extra, hextra⟩, fun hpython => ?_⟩,
              (Option.some.inj h).symm⟩
            exact isAccepted_reportOn_iff.mp (haccepted.resolve_left (by rw [hpython]; nofun))
          · cases h
        · cases h
    · cases h
  · rintro ⟨code, language, own, extra, hcode, hlanguage, hown, hextra, hkeeps, rfl⟩
    have hshown : (addFlows scanner.config.root file own.tracker.edges scanner.graph).2 = .ok () :=
      addFlows_eq_ok_iff.mpr hkeeps.flows
    have haccepted : language = .script ∨
        (scanner.reportOn file language own extra).isAccepted = true := by
      cases language with
      | python => exact .inr (isAccepted_reportOn_iff.mpr (hkeeps.exports rfl))
      | script => exact .inl rfl
    unfold readFile
    rw [hcode, hlanguage]
    dsimp only
    unfold readCode
    rw [hown]
    dsimp only
    rw [hshown, hextra]
    exact if_pos haccepted

/-! ## The rules of the analysis -/

def analysisRules : List String :=
  SourceFlow.moduleRules ++ ScriptFlow.scriptRules ++ Check.Crypto.cryptoRules ++
    Check.Injection.injectionRules ++ Check.Security.securityRules

theorem mem_analysisRules_iff {rule : String} :
    rule ∈ analysisRules ↔ rule ∈ SourceFlow.moduleRules ∨ rule ∈ ScriptFlow.scriptRules ∨
      rule ∈ Check.Crypto.cryptoRules ∨ rule ∈ Check.Injection.injectionRules ∨
        rule ∈ Check.Security.securityRules := by
  simp only [analysisRules, List.mem_append, or_assoc]

theorem extraCheck_rules {check : ExtraCheck} {file code : String} {found : List Finding}
    (h : check.findings file code = .ok found) :
    ∀ finding ∈ found, finding.HasRule analysisRules := by
  intro finding hmem
  have hrule := extraCheck_reports check file code found h finding hmem
  refine mem_analysisRules_iff.mpr (.inr (.inr ?_))
  cases check with
  | injection => exact .inr (.inl hrule)
  | crypto => exact .inl hrule
  | security => exact .inr (.inr hrule)

theorem analysisOf_rules {own : Analysis} (h : scanner.analysisOf file code language = .ok own) :
    ∀ finding ∈ own.findings, finding.HasRule analysisRules := by
  intro finding hmem
  refine mem_analysisRules_iff.mpr ?_
  cases language with
  | python =>
    obtain ⟨analysed, hanalysed, rfl⟩ := Outcome.map_eq_ok.mp h
    cases analysed with
    | none => cases hmem
    | some own => exact .inl (SourceFlow.analyze_rules hanalysed finding hmem)
  | script =>
    obtain ⟨own, hown, rfl⟩ := Outcome.map_eq_ok.mp h
    exact .inr (.inl (ScriptFlow.analyze_reports hown finding hmem).rule)

theorem extraFindings_rules {extra : List Finding}
    (h : scanner.extraFindings file code language = .ok extra) :
    ∀ finding ∈ extra, finding.HasRule analysisRules := by
  intro finding hmem
  cases language with
  | python =>
    obtain ⟨groups, hgroups, rfl⟩ := Outcome.map_eq_ok.mp h
    obtain ⟨found, hfound, hmem⟩ := List.mem_flatten.mp hmem
    obtain ⟨check, _, hcheck⟩ := Outcome.exists_of_mem_mapM hgroups hfound
    exact extraCheck_rules hcheck finding hmem
  | script =>
    cases h
    cases hmem

theorem readFiles_rules (scanner : Scanner) (workspace : Workspace) (files : List Path) :
    ∀ report ∈ (scanner.readFiles workspace files).2,
      ∀ finding ∈ report.findings, finding.HasRule analysisRules := by
  induction files generalizing scanner with
  | nil =>
    intro report hmem
    cases hmem
  | cons file rest ih =>
    intro report hmem
    rcases List.mem_append.mp hmem with hfirst | hrest
    · obtain ⟨_, _, own, extra, _, _, hown, hextra, _, rfl⟩ :=
        readFile_eq_some_iff.mp (Option.mem_toList.mp hfirst)
      exact List.forall_mem_append.mpr ⟨analysisOf_rules hown, extraFindings_rules hextra⟩
    · exact ih _ report hrest

/-! ## The result of a scan -/

/-- The findings of all modules, each module with those of its last file. -/
def moduleFindings (read : Scanner × List FileReport) : List Finding :=
  (byModule read.2).flatMap fun (_, report) =>
    report.findings.map (relate (sensitiveNames read.1.cross.symbols))

/-- The findings that count at first, apart from those of the rules of the user. -/
def firstFindings (read : Scanner × List FileReport) : List Finding :=
  (read.2.filter (·.isAccepted)).flatMap fun report =>
    if ((byModule read.2).get? report.module).any (·.file == report.file) then
      report.findings.map (relate (sensitiveNames read.1.cross.symbols))
    else report.findings

theorem taintedCount_append (first second : List Finding) :
    taintedCount (first ++ second) = taintedCount first + taintedCount second :=
  List.countP_append

theorem exists_of_mem_ruleFindings {config : Config} {files : List Path} {finding : Finding}
    (h : finding ∈ ruleFindings config workspace files) :
    ∃ name code found, ruleFinding name code found = finding := by
  obtain ⟨path, _, hmem⟩ := List.mem_flatMap.mp h
  split at hmem
  · split at hmem
    · obtain ⟨found, _, hfound⟩ := List.mem_map.mp hmem
      exact ⟨_, _, found, hfound⟩
    · cases hmem
  · cases hmem

theorem taintedCount_ruleFindings (config : Config) (workspace : Workspace) (files : List Path) :
    taintedCount (ruleFindings config workspace files) = 0 := by
  unfold taintedCount
  rw [List.countP_eq_zero]
  intro finding hmem
  obtain ⟨name, code, found, rfl⟩ := exists_of_mem_ruleFindings hmem
  simp [ruleFinding]

theorem reading_isInert (scanner : Scanner) (workspace : Workspace) (root : Option Path)
    (files : List Path) : (scanner.reading workspace root files).1.cross.IsInert := by
  have hcontexts : (scanner.informed workspace root files).cross.contexts = [] :=
    readModules_contexts ..
  refine (readFiles_continues _ workspace files).isInert ?_
  intro entry hentry
  rw [hcontexts] at hentry
  cases hentry

def resultOf (config : Config) (files : List Path) (patterns : List String)
    (dependencies : Table (List String)) (read : Scanner × List FileReport) : ScanResult where
  findings := (moduleFindings read).filter (!isIgnored patterns ·)
  flows := (read.2.filter (·.isAccepted)).flatMap (·.flows)
  root := config.root
  fileCount := files.length
  dependencies := dependencies
  symbolCount := read.1.cross.symbols.definitions.length
  sensitiveCount := (Text.sortedDistinct read.1.cross.symbols.sensitive).length
  taintedAtFirst := taintedCount (firstFindings read)
  taintedAtLast := taintedCount (moduleFindings read)
  graph := addSymbols config.root read.1.cross.symbols (Route.resolve read.1.graph).1

/-- Once no module imports from another, the explanation of findings changes none of them, and what
the rules of the user find is counted as nothing. -/
theorem conclude_eq (hinert : scanner.cross.IsInert) (workspace : Workspace) (files : List Path)
    (reports : List FileReport) :
    scanner.conclude workspace files reports =
      .ok { resultOf scanner.config files scanner.ignorePatterns
              scanner.cross.resolver.dependencies (scanner, reports) with
            graph := scanner.graph } := by
  have hlast : (byModule reports).mapM (fun entry => scanner.cross.enhanceAll entry.1
      (entry.2.findings.map fun finding =>
        (relate (sensitiveNames scanner.cross.symbols) finding, none))) =
      .ok ((byModule reports).map fun entry =>
        entry.2.findings.map (relate (sensitiveNames scanner.cross.symbols))) := by
    simp only [CrossFile.enhanceAll_eq hinert, List.map_map]
    exact List.mapM_pure
  have hcustom : taintedCount (firstFindings (scanner, reports) ++
      if scanner.config.rules.isSome then ruleFindings scanner.config workspace files else []) =
        taintedCount (firstFindings (scanner, reports)) := by
    rw [taintedCount_append]
    split
    · rw [taintedCount_ruleFindings, Nat.add_zero]
    · rfl
  refine Outcome.bind_eq_ok.mpr ⟨_, hlast, ?_⟩
  unfold resultOf
  rw [← hcustom]
  rfl

/-- **The result of a scan**, in which nothing has been propagated. -/
theorem scan_eq {root : Option Path} {files : List Path}
    (hfiles : selectedFiles (scanner.configFor root) workspace = .ok files) :
    (scanner.scan workspace root).2 = .ok (resultOf (scanner.configFor root) files
      scanner.ignorePatterns
      (readModules (scanner.configFor root) workspace { scanner.cross with contexts := [] }
        files).resolver.dependencies
      (scanner.reading workspace root files)) := by
  have hinert := scanner.reading_isInert workspace root files
  -- the scanner that concludes has the configuration, the modules and the patterns of the start
  have hread : Continues (scanner.informed workspace root files)
      (scanner.reading workspace root files).1 :=
    readFiles_continues _ workspace files
  have hconfig : (scanner.reading workspace root files).1.config = scanner.configFor root :=
    hread.agrees.config
  have hresolver : (scanner.reading workspace root files).1.cross.resolver =
      (readModules (scanner.configFor root) workspace { scanner.cross with contexts := [] }
        files).resolver :=
    hread.agrees.resolver
  have hpatterns : (scanner.reading workspace root files).1.ignorePatterns =
      scanner.ignorePatterns :=
    hread.patterns
  rw [← hresolver, ← hpatterns]
  unfold scan
  dsimp only
  rw [hfiles]
  dsimp only
  rw [CrossFile.propagate_eq_self hinert]
  refine Eq.trans (conclude_eq ?_ workspace files _) ?_
  · exact hinert
  · rw [← hconfig]
    rfl

/-! ## Other rules of the user -/

def withRules (scanner : Scanner) (rules : Option (List Rule)) : Scanner :=
  { scanner with config := { scanner.config with rules } }

variable {rules : Option (List Rule)}

theorem selectFrom_withRules (config : Config) (more : Option Nat)
    (found : List (Path × String)) :
    selectFrom { config with rules } more found = selectFrom config more found := by
  induction found generalizing more with
  | nil => rfl
  | cons entry rest ih =>
    unfold selectFrom
    refine bind_congr fun isSelected => ?_
    split
    · split
      · rfl
      · rw [ih]
      · rw [ih]
    · exact ih more

theorem selectedFiles_withRules (scanner : Scanner) (rules : Option (List Rule))
    (workspace : Workspace) (root : Option Path) :
    selectedFiles ((scanner.withRules rules).configFor root) workspace =
      selectedFiles (scanner.configFor root) workspace := by
  unfold selectedFiles
  refine bind_congr fun found => ?_
  exact selectFrom_withRules (scanner.configFor root) _ found

/-- The analysis of a file does not look at the rules of the user. -/
theorem readCode_withRules (scanner : Scanner) (file : Path) (code : String)
    (language : Language) :
    (scanner.withRules rules).readCode file code language =
      ((scanner.readCode file code language).1.withRules rules,
        (scanner.readCode file code language).2) := by
  -- no part of it looks at the rules
  have hanalysis : (scanner.withRules rules).analysisOf file code language =
      scanner.analysisOf file code language := rfl
  have hextra : (scanner.withRules rules).extraFindings file code language =
      scanner.extraFindings file code language := rfl
  unfold readCode
  rw [hanalysis]
  split
  · rfl
  · rw [hextra, show (scanner.withRules rules).config.root = scanner.config.root from rfl,
      show (scanner.withRules rules).graph = scanner.graph from rfl]
    dsimp only
    split
    · rfl
    · rfl

theorem readFile_withRules (scanner : Scanner) (workspace : Workspace) (file : Path) :
    (scanner.withRules rules).readFile workspace file =
      ((scanner.readFile workspace file).1.withRules rules,
        (scanner.readFile workspace file).2) := by
  unfold readFile
  rw [show languageOf? (scanner.withRules rules).config file = languageOf? scanner.config file
    from rfl]
  split
  · exact readCode_withRules ..
  · rfl

theorem readFiles_withRules (scanner : Scanner) (workspace : Workspace) (files : List Path) :
    (scanner.withRules rules).readFiles workspace files =
      ((scanner.readFiles workspace files).1.withRules rules,
        (scanner.readFiles workspace files).2) := by
  induction files generalizing scanner with
  | nil => rfl
  | cons file rest ih =>
    unfold readFiles
    rw [readFile_withRules]
    dsimp only
    rw [ih]

theorem reading_withRules (scanner : Scanner) (workspace : Workspace) (root : Option Path)
    (files : List Path) :
    (scanner.withRules rules).reading workspace root files =
      ((scanner.reading workspace root files).1.withRules rules,
        (scanner.reading workspace root files).2) := by
  unfold reading
  rw [← readFiles_withRules]
  rfl

theorem scan_eq_error {root : Option Path} {fault : Fault}
    (hfault : selectedFiles (scanner.configFor root) workspace = .error fault) :
    (scanner.scan workspace root).2 = .error fault := by
  unfold scan
  dsimp only
  rw [hfault]

theorem scan_withRules (scanner : Scanner) (rules : Option (List Rule)) (workspace : Workspace)
    (root : Option Path) :
    ((scanner.withRules rules).scan workspace root).2 = (scanner.scan workspace root).2 := by
  have hselected := scanner.selectedFiles_withRules rules workspace root
  cases hfiles : selectedFiles (scanner.configFor root) workspace with
  | error fault =>
    rw [hfiles] at hselected
    rw [scan_eq_error hselected, scan_eq_error hfiles]
  | ok files =>
    rw [hfiles] at hselected
    rw [scan_eq hselected, scan_eq hfiles, reading_withRules]
    rfl

/-! ## Findings of the rules of the user -/

def IsCustom (rule : String) : Prop := Text.startsWith rule "CUSTOM_"

/-- What the rules of the analysis have to be looked through for: none has the mark of the rules of
the user, and none has a slash. -/
theorem analysisRules_checked : (analysisRules.all fun rule =>
    !Text.startsWith rule "CUSTOM_" && !rule.toList.contains '/') = true := by
  decide

theorem analysisRules_not_custom : ∀ rule ∈ analysisRules, ¬ IsCustom rule := by
  intro rule hrule
  have hchecked := List.all_eq_true.mp analysisRules_checked rule hrule
  simpa [IsCustom] using (Bool.and_eq_true_iff.mp hchecked).1

theorem analysisRules_no_slash : ∀ rule ∈ analysisRules, '/' ∉ rule.toList := by
  intro rule hrule
  have hchecked := List.all_eq_true.mp analysisRules_checked rule hrule
  simpa using (Bool.and_eq_true_iff.mp hchecked).2

theorem ruleFindings_custom (config : Config) (workspace : Workspace) (files : List Path) :
    ∀ finding ∈ ruleFindings config workspace files, IsCustom finding.rule := by
  intro finding hmem
  obtain ⟨name, code, found, rfl⟩ := exists_of_mem_ruleFindings hmem
  unfold IsCustom ruleFinding Text.startsWith
  rw [String.toList_append]
  exact List.isPrefixOf_iff_prefix.mpr (List.prefix_append _ _)

/-- Under the name of a module stands a report that has been made for it. -/
theorem of_mem_byModule {reports : List FileReport} :
    ∀ entry ∈ byModule reports, entry.2 ∈ reports ∧ entry.2.module = entry.1 := by
  unfold byModule
  refine List.foldlRecOn (motive := fun table : Table FileReport =>
    ∀ entry ∈ table, entry.2 ∈ reports ∧ entry.2.module = entry.1) reports _ (by simp) ?_
  intro table htable report hreport entry hentry
  rcases Table.mem_or_eq_of_mem_set hentry with hold | rfl
  · exact htable entry hold
  · exact ⟨hreport, rfl⟩

/-- Relating a finding changes the two fields that tell of other files, and no other. -/
theorem relate_eq (names : List String) (finding : Finding) : ∃ related metadata,
    relate names finding = { finding with taintedVariables := related, metadata } := by
  unfold relate
  split
  · exact ⟨_, _, rfl⟩
  · split
    · exact ⟨_, _, rfl⟩
    · exact ⟨_, _, rfl⟩

theorem relate_rule (names : List String) (finding : Finding) :
    (relate names finding).rule = finding.rule := by
  obtain ⟨_, _, h⟩ := relate_eq names finding
  rw [h]

theorem moduleFindings_not_custom (scanner : Scanner) (workspace : Workspace) (root : Option Path)
    (files : List Path) :
    ∀ finding ∈ moduleFindings (scanner.reading workspace root files),
      ¬ IsCustom finding.rule := by
  intro finding hmem
  obtain ⟨entry, hentry, hmem⟩ := List.mem_flatMap.mp hmem
  obtain ⟨found, hfound, rfl⟩ := List.mem_map.mp hmem
  rw [relate_rule]
  obtain ⟨hreport, _⟩ := of_mem_byModule entry hentry
  exact analysisRules_not_custom _ (readFiles_rules _ workspace files entry.2 hreport found hfound)

/-- **A scan reports the findings of the user's rules exactly when all of them are ignored.**
Whatever files are selected, there is a result. What the rules of the user find is not in it, so
that it reports all that it should only where nothing is left to report. And the result, with all
that is counted from it, is the same for any other rules. -/
theorem custom_findings_reported_iff_ignored (scanner : Scanner) (workspace : Workspace)
    (root : Option Path) (files : List Path)
    (hfiles : selectedFiles (scanner.configFor root) workspace = .ok files) :
    ∃ result, (scanner.scan workspace root).2 = .ok result ∧
      ((∀ finding ∈ ruleFindings (scanner.configFor root) workspace files,
          isIgnored scanner.ignorePatterns finding = false → finding ∈ result.findings) ↔
        ∀ finding ∈ ruleFindings (scanner.configFor root) workspace files,
          isIgnored scanner.ignorePatterns finding = true) ∧
      ∀ rules, ((scanner.withRules rules).scan workspace root).2 = .ok result := by
  refine ⟨_, scan_eq hfiles,
    ⟨fun hreported finding hmem => ?_, fun hignored finding hmem hkept => ?_⟩, fun rules => ?_⟩
  · -- a finding that is not ignored would be one of a module
    cases hkept : isIgnored scanner.ignorePatterns finding with
    | true => rfl
    | false =>
      have hfinding := (List.mem_filter.mp (hreported finding hmem hkept)).1
      exact absurd (ruleFindings_custom _ _ _ finding hmem)
        (moduleFindings_not_custom scanner workspace root files finding hfinding)
  · rw [hignored finding hmem] at hkept
    cases hkept
  · rw [scan_withRules, scan_eq hfiles]

/-! ## A rule that finds something

The project has one file, with a ticket number in it, and a rule of the user that looks for such
numbers. -/

def ticketWorkspace : Workspace :=
  { root := { anchor := "/", parts := ["project"] }
    tree := .directory [("notes.json", .file "ACME-1")] }

def ticketScanner : Scanner :=
  .ofConfig
    { root := ticketWorkspace.root
      rules := some [Rule.compile { id := .text "TICKET", pattern := "ACME" }] } ticketWorkspace

def ticketFile : Path := { anchor := "/", parts := ["project", "notes.json"] }

theorem ticketFile_selected :
    selectedFiles (ticketScanner.configFor none) ticketWorkspace = .ok [ticketFile] := by
  decide

theorem ticket_scan_has_result :
    selectedFiles (ticketScanner.configFor none) ticketWorkspace = .ok [ticketFile] ∧
      ∃ result, (ticketScanner.scan ticketWorkspace).2 = .ok result ∧
        ∀ rules, ((ticketScanner.withRules rules).scan ticketWorkspace).2 = .ok result := by
  obtain ⟨result, hresult, _, hrules⟩ := custom_findings_reported_iff_ignored ticketScanner
    ticketWorkspace none [ticketFile] ticketFile_selected
  exact ⟨ticketFile_selected, result, hresult, hrules⟩

/-- The rule finds the number and nothing asks to ignore it, yet it is not reported. -/
theorem ticket_found_but_not_reported :
    ∃ finding ∈ ruleFindings (ticketScanner.configFor none) ticketWorkspace [ticketFile],
      isIgnored ticketScanner.ignorePatterns finding = false ∧
        ∃ result, (ticketScanner.scan ticketWorkspace).2 = .ok result ∧
          finding ∉ result.findings := by
  have hfound : (ruleFindings (ticketScanner.configFor none) ticketWorkspace [ticketFile]).length =
      1 := by
    decide
  obtain ⟨finding, hfinding⟩ := List.length_eq_one_iff.mp hfound
  refine ⟨finding, by rw [hfinding]; exact List.mem_singleton.mpr rfl, ?_, _,
    scan_eq ticketFile_selected, ?_⟩
  · rw [show ticketScanner.ignorePatterns = [] by decide]
    rfl
  · intro hreported
    have hmem : finding ∈ ruleFindings (ticketScanner.configFor none) ticketWorkspace
        [ticketFile] := by
      rw [hfinding]
      exact List.mem_singleton.mpr rfl
    exact moduleFindings_not_custom _ _ _ _ finding (List.mem_filter.mp hreported).1
      (ruleFindings_custom _ _ _ finding hmem)

end PrivacyScan.Scanner
