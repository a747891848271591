import PrivacyScan.Proofs.Project.CustomRules

/-!
# What becomes of the findings of a file

Behind the analysis of a file, its flows enter the graph, a Python file goes through further checks,
and its module is registered. Only then is there a report of the file, so a fault on the way loses
all that the analysis has found. A script has its report before its module is registered.

* **`readFiles_reports`** — the files do not disturb each other: each has the report that it would
  have as the only one;
* **`get?_byModule_of_unique`** — a report whose module no other file has is the one that counts.
-/

namespace PrivacyScan.CrossFile

open Taint (Tracker)

/-- Whether a module is accepted does not hang on the contexts that are there. -/
theorem register_outcome_eq {first second : CrossFile} (h : second.symbols = first.symbols)
    (module : String) (language : Language) (tracker : Tracker) :
    (second.register module language tracker).2 = (first.register module language tracker).2 := by
  simp only [register, apply_ite Prod.snd, h]

end PrivacyScan.CrossFile

namespace PrivacyScan.Scanner

open Project
open Taint (Tracker)

variable {scanner : Scanner} {workspace : Workspace} {file : Path} {code : String}
  {files : List Path} {root : Option Path} {language : Language} {report : FileReport}

/-! ## The report of one file -/

theorem readFile_file (h : (scanner.readFile workspace file).2 = some report) :
    report.file = file := by
  obtain ⟨_, _, _, _, _, _, _, _, _, rfl⟩ := readFile_eq_some_iff.mp h
  rfl

theorem readFile_module (h : (scanner.readFile workspace file).2 = some report) :
    report.module = scanner.moduleOf file := by
  obtain ⟨_, _, _, _, _, _, _, _, _, rfl⟩ := readFile_eq_some_iff.mp h
  rfl

theorem keeps_of_readFile {own : Analysis}
    (hreport : (scanner.readFile workspace file).2 = some report)
    (hcode : workspace.read? file = some code)
    (hlanguage : languageOf? scanner.config file = some language)
    (hown : scanner.analysisOf file code language = .ok own) :
    scanner.Keeps file code language own.tracker := by
  obtain ⟨code', language', own', extra, hcode', hlanguage', hown', _, hkeeps, _⟩ :=
    readFile_eq_some_iff.mp hreport
  obtain rfl := Option.some.inj (hcode.symm.trans hcode')
  obtain rfl := Option.some.inj (hlanguage.symm.trans hlanguage')
  obtain rfl := Except.ok.inj (hown.symm.trans hown')
  exact hkeeps

/-! ## The reports of all files -/

namespace Agrees

variable {first second : Scanner} (h : Agrees first second)

include h

theorem moduleOf_eq (file : Path) :
    second.moduleOf file = first.moduleOf file := by
  unfold moduleOf
  rw [h.resolver]

theorem callResult?_eq (caller function : String) (arguments : List (String × Taint.Record)) :
    second.cross.callResult? caller function arguments =
      first.cross.callResult? caller function arguments := by
  unfold CrossFile.callResult? CrossFile.targetOf
  rw [h.resolver, h.symbols]

theorem analysisOf_eq (file : Path) (code : String) (language : Language) :
    second.analysisOf file code language = first.analysisOf file code language := by
  cases language with
  | python => rfl
  | script =>
    simp only [analysisOf, h.callResult?_eq, h.moduleOf_eq]

theorem extraFindings_eq (file : Path) (code : String) (language : Language) :
    second.extraFindings file code language = first.extraFindings file code language := by
  cases language with
  | python =>
    unfold extraFindings
    rw [h.checks]
  | script => rfl

theorem keeps {tracker : Tracker} (hkeeps : first.Keeps file code language tracker) :
    second.Keeps file code language tracker where
  flows := hkeeps.flows
  checks := by
    rw [h.extraFindings_eq]
    exact hkeeps.checks
  exports hpython := by
    unfold ExportsNothingTainted
    rw [h.symbols, h.moduleOf_eq]
    exact hkeeps.exports hpython

theorem reportOn_eq (file : Path) (language : Language) (own : Analysis) (extra : List Finding) :
    second.reportOn file language own extra = first.reportOn file language own extra := by
  unfold reportOn
  rw [h.moduleOf_eq, CrossFile.register_outcome_eq h.symbols]

theorem readFile_eq_some (hreport : (first.readFile workspace file).2 = some report) :
    (second.readFile workspace file).2 = some report := by
  obtain ⟨code, language, own, extra, hcode, hlanguage, hown, hextra, hkeeps, rfl⟩ :=
    readFile_eq_some_iff.mp hreport
  refine readFile_eq_some_iff.mpr
    ⟨code, language, own, extra, hcode, ?_, ?_, ?_, h.keeps hkeeps, ?_⟩
  · rw [h.config, hlanguage]
  · rw [h.analysisOf_eq, hown]
  · rw [h.extraFindings_eq, hextra]
  · rw [h.reportOn_eq]

theorem readFile_eq (workspace : Workspace) (file : Path) :
    (second.readFile workspace file).2 = (first.readFile workspace file).2 :=
  Option.ext fun _ => ⟨h.symm.readFile_eq_some, h.readFile_eq_some⟩

end Agrees

/-- **The files do not disturb each other.** -/
theorem readFiles_reports (scanner : Scanner) (workspace : Workspace) (files : List Path) :
    (scanner.readFiles workspace files).2 =
      files.filterMap fun file => (scanner.readFile workspace file).2 := by
  suffices hrun : ∀ current, Agrees scanner current →
      (current.readFiles workspace files).2 =
        files.filterMap fun file => (scanner.readFile workspace file).2 from
    hrun scanner (.refl scanner)
  -- induction with the scanner left open: it goes on with the flows and contexts of the files
  -- before
  induction files with
  | nil => exact fun _ _ => rfl
  | cons file rest ih =>
    intro current hcurrent
    have hfirst := hcurrent.readFile_eq workspace file
    have hrest := ih _ (hcurrent.trans (readFile_continues current workspace file).agrees)
    unfold readFiles
    dsimp only
    rw [hrest, hfirst]
    cases hreport : (scanner.readFile workspace file).2 with
    | none =>
      simp only [List.filterMap_cons, hreport]
      rfl
    | some report =>
      simp only [List.filterMap_cons, hreport]
      rfl

theorem mem_readFiles_iff :
    report ∈ (scanner.readFiles workspace files).2 ↔
      ∃ file ∈ files, (scanner.readFile workspace file).2 = some report := by
  rw [readFiles_reports, List.mem_filterMap]

theorem get?_byModule_of_unique (hfile : file ∈ files)
    (hreport : (scanner.readFile workspace file).2 = some report)
    (hunique : ∀ other ∈ files, scanner.moduleOf other = scanner.moduleOf file → other = file) :
    (byModule (scanner.readFiles workspace files).2).get? report.module = some report := by
  unfold byModule
  refine Table.get?_enterAll_of_unique (mem_readFiles_iff.mpr ⟨file, hfile, hreport⟩) ?_ []
  intro other hother hmodule
  obtain ⟨place, hplace, hread⟩ := mem_readFiles_iff.mp hother
  have hsame : scanner.moduleOf place = scanner.moduleOf file := by
    rw [← readFile_module hread, ← readFile_module hreport, hmodule]
  obtain rfl := hunique place hplace hsame
  exact Option.some.inj (hread.symm.trans hreport)

/-! ## The findings of a scan -/

/-- A finding as the scan reports it, with the sensitive function that it is related to. -/
def reported (scanner : Scanner) (workspace : Workspace) (root : Option Path) (files : List Path)
    (finding : Finding) : Finding :=
  relate (sensitiveNames (scanner.informed workspace root files).cross.symbols) finding

theorem relate_file (names : List String) (finding : Finding) :
    (relate names finding).file = finding.file := by
  obtain ⟨_, _, h⟩ := relate_eq names finding
  rw [h]

/-- Whether a finding is ignored does not hang on what it is related to. -/
theorem isIgnored_relate (patterns names : List String) (finding : Finding) :
    isIgnored patterns (relate names finding) = isIgnored patterns finding := by
  unfold isIgnored isIgnoredBy
  rw [relate_rule, relate_file]

/-- The findings of all modules, each told by the report that it comes from. -/
theorem mem_moduleFindings_iff {finding : Finding} :
    finding ∈ moduleFindings (scanner.reading workspace root files) ↔
      ∃ entry ∈ byModule ((scanner.informed workspace root files).readFiles workspace files).2,
        ∃ found ∈ entry.2.findings, scanner.reported workspace root files found = finding := by
  have hsymbols :=
    (readFiles_continues (scanner.informed workspace root files) workspace files).agrees.symbols
  unfold moduleFindings reported reading
  rw [← hsymbols]
  simp only [List.mem_flatMap, List.mem_map]

theorem exists_report_of_mem_moduleFindings
    {finding : Finding} (h : finding ∈ moduleFindings (scanner.reading workspace root files)) :
    ∃ file ∈ files, ∃ report,
      ((scanner.informed workspace root files).readFile workspace file).2 = some report ∧
        ∃ found ∈ report.findings, scanner.reported workspace root files found = finding := by
  obtain ⟨entry, hentry, hfound⟩ := mem_moduleFindings_iff.mp h
  obtain ⟨file, hfile, hread⟩ := mem_readFiles_iff.mp (of_mem_byModule entry hentry).1
  exact ⟨file, hfile, entry.2, hread, hfound⟩

/-- What the report of a file says is reported, if no other file has the name of its module. -/
theorem mem_findings_of_report {finding : Finding} (hfile : file ∈ files)
    (hunique : ∀ other ∈ files, (scanner.informed workspace root files).moduleOf other =
      (scanner.informed workspace root files).moduleOf file → other = file)
    (hreport : ((scanner.informed workspace root files).readFile workspace file).2 = some report)
    (hfinding : finding ∈ report.findings)
    (hkept : isIgnored scanner.ignorePatterns finding = false) :
    scanner.reported workspace root files finding ∈
      (moduleFindings (scanner.reading workspace root files)).filter
        (!isIgnored scanner.ignorePatterns ·) := by
  have hlast := Table.mem_of_get? (get?_byModule_of_unique hfile hreport hunique)
  refine List.mem_filter.mpr ⟨mem_moduleFindings_iff.mpr ⟨_, hlast, finding, hfinding, rfl⟩, ?_⟩
  rw [reported, isIgnored_relate, hkept]
  rfl

/-- **The findings of a file are reported when it is kept, and else all of them are lost.** Its
analysis completes and its module is that of no other file. When all goes well behind the analysis,
the result of the scan has all of its findings that are not ignored. Otherwise all findings of the
result come from the reports of other files. -/
theorem findings_reported_if_kept_and_lost_if_not (scanner : Scanner) (workspace : Workspace)
    (root : Option Path) (files : List Path) (file : Path) (code : String) (language : Language)
    (own : Analysis) (hfiles : selectedFiles (scanner.configFor root) workspace = .ok files)
    (hfile : file ∈ files) (hcode : workspace.read? file = some code)
    (hlanguage : languageOf? (scanner.configFor root) file = some language)
    (hown : (scanner.informed workspace root files).analysisOf file code language = .ok own)
    (hunique : ∀ other ∈ files, (scanner.informed workspace root files).moduleOf other =
      (scanner.informed workspace root files).moduleOf file → other = file) :
    ∃ result, (scanner.scan workspace root).2 = .ok result ∧
      ((scanner.informed workspace root files).Keeps file code language own.tracker →
        ∀ finding ∈ own.findings, isIgnored scanner.ignorePatterns finding = false →
          scanner.reported workspace root files finding ∈ result.findings) ∧
      (¬ (scanner.informed workspace root files).Keeps file code language own.tracker →
        ∀ finding ∈ result.findings, ∃ other ∈ files, other ≠ file ∧
          ∃ report, ((scanner.informed workspace root files).readFile workspace other).2 =
              some report ∧
            ∃ found ∈ report.findings, scanner.reported workspace root files found = finding) := by
  refine ⟨_, scan_eq hfiles, fun hkeeps finding hfinding hkept => ?_,
    fun hlost finding hfinding => ?_⟩
  · obtain ⟨extra, hextra⟩ := hkeeps.checks
    have hreport : ((scanner.informed workspace root files).readFile workspace file).2 =
        some ((scanner.informed workspace root files).reportOn file language own extra) :=
      readFile_eq_some_iff.mpr
        ⟨code, language, own, extra, hcode, hlanguage, hown, hextra, hkeeps, rfl⟩
    exact mem_findings_of_report hfile hunique hreport (List.mem_append_left _ hfinding) hkept
  · obtain ⟨other, hother, report, hread, hfound⟩ :=
      exists_report_of_mem_moduleFindings (List.mem_filter.mp hfinding).1
    refine ⟨other, hother, ?_, report, hread, hfound⟩
    rintro rfl
    exact hlost (keeps_of_readFile hread hcode hlanguage hown)

/-! ## A leak that is found and lost

The project has one file, which hands the body of a request to a language model. In the second form
of the project a function has the name of the variable with the body. -/

def leakFile : Path := { anchor := "/", parts := ["project", "app.py"] }

def leakWorkspace (code : String) : Workspace :=
  { root := leakFile.parent, tree := .directory [("app.py", .file code)] }

def leakScanner (code : String) : Scanner :=
  .ofConfig { root := leakFile.parent } (leakWorkspace code)

def leakCode : String := "data = request.json\nllm.predict(data)\n"

def shadowedLeakCode : String :=
  "def data():\n    data = request.json\n    llm.predict(data)\n"

/-- What the scanner of a project knows of it before it analyses the file. -/
def leakInformed (code : String) : Scanner :=
  (leakScanner code).informed (leakWorkspace code) none [leakFile]

theorem leakCode_selected :
    selectedFiles ((leakScanner leakCode).configFor none) (leakWorkspace leakCode) =
      .ok [leakFile] := by
  decide

/-- The analysis finds the leak, and all of its flows have a source. -/
theorem leakCode_analysis :
    ∃ own, (leakInformed leakCode).analysisOf leakFile leakCode .python = .ok own ∧
      own.findings.length = 1 ∧ ∀ flow ∈ own.tracker.edges, flow.source ≠ none := by
  have hseen : ((leakInformed leakCode).analysisOf leakFile leakCode .python).toOption.map
      (fun own => (own.findings.length, own.tracker.edges.all (·.source.isSome))) =
        some (1, true) := by
    decide +kernel
  obtain ⟨own, hown, hboth⟩ := Outcome.exists_of_seen hseen
  obtain ⟨hlength, hflows⟩ := Prod.mk.inj hboth
  refine ⟨own, hown, hlength, fun flow hflow => ?_⟩
  exact Option.isSome_iff_ne_none.mp (List.all_eq_true.mp hflows flow hflow)

/-- The leak of a file whose module is accepted. -/
theorem leak_of_kept_file_is_reported :
    ∃ own finding result,
      (leakInformed leakCode).analysisOf leakFile leakCode .python = .ok own ∧
      (leakInformed leakCode).Keeps leakFile leakCode .python own.tracker ∧
      finding ∈ own.findings ∧
      ((leakScanner leakCode).scan (leakWorkspace leakCode)).2 = .ok result ∧
      (leakScanner leakCode).reported (leakWorkspace leakCode) none [leakFile] finding ∈
        result.findings := by
  obtain ⟨own, hown, hlength, hflows⟩ := leakCode_analysis
  obtain ⟨finding, hfinding⟩ := List.length_eq_one_iff.mp hlength
  have hmem : finding ∈ own.findings := by
    rw [hfinding]
    exact List.mem_singleton.mpr rfl
  have hnone : (leakInformed leakCode).cross.symbols.exportsOf
      ((leakInformed leakCode).moduleOf leakFile) = [] := by
    decide +kernel
  have hkeeps : (leakInformed leakCode).Keeps leakFile leakCode .python own.tracker :=
    { flows := hflows
      checks := Outcome.completes_ok []
      exports := fun _ name hname => by
        rw [hnone] at hname
        cases hname }
  have hcode : (leakWorkspace leakCode).read? leakFile = some leakCode := by decide
  have hlanguage : languageOf? ((leakScanner leakCode).configFor none) leakFile = some .python := by
    decide
  have hpatterns : (leakScanner leakCode).ignorePatterns = [] := by decide
  obtain ⟨result, hresult, hreported, _⟩ :=
    findings_reported_if_kept_and_lost_if_not (leakScanner leakCode) (leakWorkspace leakCode) none
      [leakFile] leakFile leakCode .python own leakCode_selected (List.mem_singleton.mpr rfl)
      hcode hlanguage hown (fun other hother _ => List.mem_singleton.mp hother)
  exact ⟨own, finding, result, hown, hkeeps, hmem, hresult,
    hreported hkeeps finding hmem (by rw [hpatterns]; rfl)⟩

/-- The analysis finds the leak, nothing asks to ignore it, and no other file has the module. Yet
the scan completes without any finding, because the module exports the name of the variable. -/
theorem leak_of_refused_module_is_lost :
    ∃ own, (leakInformed shadowedLeakCode).analysisOf leakFile shadowedLeakCode .python = .ok own ∧
      own.findings.length = 1 ∧ (leakScanner shadowedLeakCode).ignorePatterns = [] ∧
      ∃ result, ((leakScanner shadowedLeakCode).scan (leakWorkspace shadowedLeakCode)).2 =
        .ok result ∧ result.findings = [] := by
  have hfound : ((leakInformed shadowedLeakCode).analysisOf leakFile shadowedLeakCode
      .python).toOption.map (·.findings.length) = some 1 := by
    decide +kernel
  have hlost : ((leakScanner shadowedLeakCode).scan
      (leakWorkspace shadowedLeakCode)).2.toOption.map (·.findings.length) = some 0 := by
    decide +kernel
  obtain ⟨own, hown, hlength⟩ := Outcome.exists_of_seen hfound
  obtain ⟨result, hresult, hnone⟩ := Outcome.exists_of_seen hlost
  exact ⟨own, hown, hlength, by decide, result, hresult, List.length_eq_zero_iff.mp hnone⟩

end PrivacyScan.Scanner
