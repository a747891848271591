import PrivacyScan.Proofs.Project.Reporting
import PrivacyScan.Proofs.ScriptFlow.Completion

/-!
# Scripts that a scan does not analyse

The configuration says which endings scripts have, and files with these endings are selected. Which
files are analysed as scripts is decided by a list of its own, and a file between the two lists is
counted and nothing else:

* **`languageOf?_eq_script_iff`** — the files that are analysed as scripts;
* **`readModules_filter`**, **`readFiles_filter`** — files without a language change nothing.
-/

namespace PrivacyScan

namespace Project

variable {config : Config} {workspace : Workspace} {file : Path} {files : List Path}
  {keep : Path → Bool}

def analysedEndings : List String := [".js", ".jsx", ".ts", ".tsx"]

theorem languageOf?_eq_script_iff :
    languageOf? config file = some .script ↔
      file.suffix ∉ config.pythonEndings ∧ file.suffix ∈ analysedEndings := by
  unfold languageOf? analysedEndings
  split_ifs <;> simp_all

theorem languageOf?_eq_none_iff :
    languageOf? config file = none ↔
      file.suffix ∉ config.pythonEndings ∧ file.suffix ∉ analysedEndings := by
  unfold languageOf? analysedEndings
  split_ifs <;> simp_all

/-- A file without a language enters no module and no symbols. -/
theorem readModules_filter
    (hkeep : ∀ file ∈ files, keep file = false → languageOf? config file = none)
    (workspace : Workspace) (cross : CrossFile) :
    readModules config workspace cross (files.filter keep) =
      readModules config workspace cross files := by
  unfold readModules
  induction files generalizing cross with
  | nil => rfl
  | cons file rest ih =>
    obtain ⟨hfile, hrest⟩ := List.forall_mem_cons.mp hkeep
    cases hkept : keep file with
    | true =>
      rw [List.filter_cons_of_pos hkept, List.foldl_cons, List.foldl_cons, ih hrest]
    | false =>
      rw [List.filter_cons_of_neg (by simp [hkept]), List.foldl_cons, hfile hkept]
      exact ih hrest cross

end Project

namespace Scanner

open Project

variable {scanner : Scanner} {workspace : Workspace} {root : Option Path} {file : Path}
  {files : List Path} {keep : Path → Bool}

theorem readFile_of_no_language (h : languageOf? scanner.config file = none)
    (workspace : Workspace) : scanner.readFile workspace file = (scanner, none) := by
  unfold readFile
  rw [h]
  cases workspace.read? file with
  | none => rfl
  | some code => rfl

/-- Files without a language leave no trace in the scanner. -/
theorem readFiles_filter
    (hkeep : ∀ file ∈ files, keep file = false → languageOf? scanner.config file = none)
    (workspace : Workspace) :
    scanner.readFiles workspace (files.filter keep) = scanner.readFiles workspace files := by
  induction files generalizing scanner with
  | nil => rfl
  | cons file rest ih =>
    obtain ⟨hfile, hrest⟩ := List.forall_mem_cons.mp hkeep
    cases hkept : keep file with
    | true =>
      -- the scanner goes on with the same configuration
      have hconfig := (readFile_continues scanner workspace file).agrees.config
      rw [List.filter_cons_of_pos hkept, readFiles, readFiles]
      dsimp only
      rw [ih fun other hother => hconfig ▸ hrest other hother]
    | false =>
      rw [List.filter_cons_of_neg (by simp [hkept]), ih hrest, readFiles,
        readFile_of_no_language (hfile hkept) workspace]
      rfl

def resultFor (scanner : Scanner) (workspace : Workspace) (root : Option Path) (files : List Path) :
    ScanResult :=
  resultOf (scanner.configFor root) files scanner.ignorePatterns
    (readModules (scanner.configFor root) workspace { scanner.cross with contexts := [] }
      files).resolver.dependencies
    (scanner.reading workspace root files)

/-- **Files without a language are counted and nothing else.** -/
theorem resultFor_filter (scanner : Scanner) (workspace : Workspace)
    (hkeep : ∀ file ∈ files, keep file = false → languageOf? (scanner.configFor root) file = none) :
    scanner.resultFor workspace root files =
      { scanner.resultFor workspace root (files.filter keep) with fileCount := files.length } := by
  have hinformed : scanner.informed workspace root (files.filter keep) =
      scanner.informed workspace root files := by
    unfold informed
    rw [readModules_filter hkeep]
  have hreading : scanner.reading workspace root (files.filter keep) =
      scanner.reading workspace root files := by
    unfold reading
    rw [hinformed]
    refine readFiles_filter ?_ workspace
    exact hkeep
  unfold resultFor
  rw [hreading, readModules_filter hkeep]
  rfl

/-- Every finding of the result comes from the report of another file. -/
def ComesFromOthers (scanner : Scanner) (workspace : Workspace) (root : Option Path)
    (files : List Path) (file : Path) (result : ScanResult) : Prop :=
  ∀ finding ∈ result.findings, ∃ other ∈ files, other ≠ file ∧ ∃ report,
    ((scanner.informed workspace root files).readFile workspace other).2 = some report ∧
      ∃ found ∈ report.findings, scanner.reported workspace root files found = finding

theorem comesFromOthers_of_no_report
    (h : ((scanner.informed workspace root files).readFile workspace file).2 = none) :
    scanner.ComesFromOthers workspace root files file (scanner.resultFor workspace root files) := by
  intro finding hfinding
  obtain ⟨other, hother, report, hread, hfound⟩ :=
    exists_report_of_mem_moduleFindings (List.mem_filter.mp hfinding).1
  refine ⟨other, hother, ?_, report, hread, hfound⟩
  rintro rfl
  rw [h] at hread
  cases hread

/-- There is no report of a script whose flows cannot be shown. -/
theorem readFile_script_eq_none {code : String} {own : Analysis}
    (hcode : workspace.read? file = some code)
    (hlanguage : languageOf? scanner.config file = some .script)
    (hown : scanner.analysisOf file code .script = .ok own)
    (hflows : ¬ ∀ flow ∈ own.tracker.edges, flow.source ≠ none) :
    (scanner.readFile workspace file).2 = none := by
  refine Option.eq_none_iff_forall_not_mem.mpr fun report hreport => hflows ?_
  exact (keeps_of_readFile hreport hcode hlanguage hown).flows

theorem analysisOf_script_named_iff {code : String} {own : Analysis}
    (hown : scanner.analysisOf file code .script = .ok own) :
    (∀ flow ∈ own.tracker.edges, flow.source ≠ none) ↔
      ∀ flow ∈ (ScriptFlow.trace code {}).2.edges, flow.source ≠ none := by
  obtain ⟨state, hstate, rfl⟩ := Outcome.map_eq_ok.mp hown
  exact ScriptFlow.analyze_flows_named_iff hstate

/-- **The findings in a script are reported when its ending is in the list of the analysis.** A scan
of the selected files completes. Of those whose ending is that of a script by the configuration, it
analyses as scripts the ones whose ending is in the list too and is none of Python. Where the walk
through the tree of such a script gives no flow without a name, and no other file has the name of
its module, its findings are reported unless they are ignored; else none of them is. A file with
another ending is counted, and the result is otherwise what it would be without the file. -/
theorem script_reported_iff_ending_analysed (scanner : Scanner) (workspace : Workspace)
    (root : Option Path) (files : List Path)
    (hfiles : selectedFiles (scanner.configFor root) workspace = .ok files) :
    ∃ result, (scanner.scan workspace root).2 = .ok result ∧
      ∀ file ∈ files, file.suffix ∈ (scanner.configFor root).scriptEndings →
        (languageOf? (scanner.configFor root) file = some .script ↔
          file.suffix ∉ (scanner.configFor root).pythonEndings ∧ file.suffix ∈ analysedEndings) ∧
        (file.suffix ∉ (scanner.configFor root).pythonEndings → file.suffix ∈ analysedEndings →
          ∀ code own, workspace.read? file = some code →
            (scanner.informed workspace root files).analysisOf file code .script = .ok own →
            (∀ other ∈ files, (scanner.informed workspace root files).moduleOf other =
              (scanner.informed workspace root files).moduleOf file → other = file) →
            ((∀ flow ∈ (ScriptFlow.trace code {}).2.edges, flow.source ≠ none) →
              ∀ finding ∈ own.findings, isIgnored scanner.ignorePatterns finding = false →
                scanner.reported workspace root files finding ∈ result.findings) ∧
            ((∃ flow ∈ (ScriptFlow.trace code {}).2.edges, flow.source = none) →
              scanner.ComesFromOthers workspace root files file result)) ∧
        (file.suffix ∉ (scanner.configFor root).pythonEndings → file.suffix ∉ analysedEndings →
          result = { scanner.resultFor workspace root (files.filter (· != file)) with
            fileCount := files.length } ∧
          scanner.ComesFromOthers workspace root files file result) := by
  refine ⟨scanner.resultFor workspace root files, scan_eq hfiles, fun file hfile _ =>
    ⟨languageOf?_eq_script_iff, ?analysed, ?passedOver⟩⟩
  case analysed =>
    intro hpython hending code own hcode hown hunique
    have hlanguage : languageOf? (scanner.informed workspace root files).config file =
        some .script :=
      languageOf?_eq_script_iff.mpr ⟨hpython, hending⟩
    have hnamed := analysisOf_script_named_iff hown
    refine ⟨fun hflows finding hfinding hkept => ?_, ?_⟩
    · -- a script goes through no checks and is not refused, so its flows alone decide
      have hkeeps : (scanner.informed workspace root files).Keeps file code .script own.tracker :=
        { flows := hnamed.mpr hflows
          checks := Outcome.completes_ok []
          exports := nofun }
      have hreport := readFile_eq_some_iff.mpr
        ⟨code, .script, own, [], hcode, hlanguage, hown, rfl, hkeeps, rfl⟩
      exact mem_findings_of_report hfile hunique hreport (List.mem_append_left _ hfinding) hkept
    · rintro ⟨flow, hflow, hnone⟩
      refine comesFromOthers_of_no_report (readFile_script_eq_none hcode hlanguage hown ?_)
      exact fun hall => hnamed.mp hall flow hflow hnone
  case passedOver =>
    intro hpython hending
    have hnone : languageOf? (scanner.informed workspace root files).config file = none :=
      languageOf?_eq_none_iff.mpr ⟨hpython, hending⟩
    refine ⟨resultFor_filter scanner workspace fun other _ hdropped => ?_,
      comesFromOthers_of_no_report ?_⟩
    · rw [bne_eq_false_iff_eq.mp hdropped]
      exact hnone
    · rw [readFile_of_no_language hnone workspace]

/-- By the standard configuration two endings of scripts are not analysed. -/
example :
    ({ root := {} } : Config).scriptEndings.filter (· ∉ analysedEndings) = [".cjs", ".mjs"] := by
  decide

/-! ## A script with two endings

The project has one file. Its only line, a comment, names a field of a database model. -/

def modelCode : String := "// email: String"

def modelFile (name : String) : Path := { anchor := "/", parts := ["project", name] }

def modelWorkspace (name : String) : Workspace :=
  { root := { anchor := "/", parts := ["project"] }, tree := .directory [(name, .file modelCode)] }

def modelScanner (name : String) : Scanner :=
  .ofConfig { root := (modelWorkspace name).root } (modelWorkspace name)

theorem modelFile_selected :
    ∀ name ∈ ["user.js", "user.mjs"],
      selectedFiles ((modelScanner name).configFor none) (modelWorkspace name) =
        .ok [modelFile name] := by
  decide

/-- The analysis of the script completes under both names, and finds the field. -/
theorem modelCode_analysis (known : Scanner) :
    ∀ name ∈ ["user.js", "user.mjs"], ∃ own finding,
      known.analysisOf (modelFile name) modelCode .script = .ok own ∧ finding ∈ own.findings ∧
        finding.rule = "DB_MODEL_PII" := by
  have hmodels : ∀ name ∈ ["user.js", "user.mjs"],
      (ScriptFlow.findModels (ScriptFlow.Script.ofCode (modelFile name).text modelCode)).map
        Finding.rule = ["DB_MODEL_PII"] := by
    decide +kernel
  have hlines : Text.lines modelCode = ["// email: String"] := by decide
  -- a route stands above the line that reads a field, and here is one line only
  have hplain : ¬ ScriptFlow.RoutedAccess (Text.lines modelCode) := by
    rw [hlines]
    rintro ⟨above, below, _, _, _, hbelow, hbefore, _⟩
    obtain ⟨hlast, _⟩ := List.getElem?_eq_some_iff.mp hbelow
    simp only [List.length_singleton] at hlast
    omega
  intro name hname
  obtain ⟨finding, hfinding, hrule⟩ := List.map_eq_singleton_iff.mp (hmodels name hname)
  obtain ⟨stored, heq⟩ := ScriptFlow.exists_analyze_eq (modelFile name).text modelCode
    (some fun function arguments =>
      (known.cross.callResult? (known.moduleOf (modelFile name)) function arguments).map
        (·.piiTypes))
  have hcompletes : Outcome.Completes (ScriptFlow.findInputs
      (ScriptFlow.Script.ofCode (modelFile name).text modelCode) stored) :=
    ScriptFlow.findInputs_completes_iff.mpr hplain
  obtain ⟨served, hserved⟩ := hcompletes
  rw [hserved] at heq
  refine ⟨_, finding, Outcome.map_eq_ok.mpr ⟨_, heq, rfl⟩, ?_, hrule⟩
  refine List.mem_append_left _ (List.mem_append_right _ ?_)
  rw [hfinding]
  exact List.mem_singleton.mpr rfl

/-- The same model is reported from a file whose ending is known. -/
theorem script_with_known_ending_is_reported :
    ∃ result finding, ((modelScanner "user.js").scan (modelWorkspace "user.js")).2 = .ok result ∧
      finding ∈ result.findings ∧ finding.rule = "DB_MODEL_PII" := by
  have hknown : "user.js" ∈ ["user.js", "user.mjs"] := List.mem_cons_self
  obtain ⟨own, finding, hown, hfinding, hrule⟩ := modelCode_analysis
    ((modelScanner "user.js").informed (modelWorkspace "user.js") none
      [modelFile "user.js"]) _ hknown
  obtain ⟨result, hresult, hscripts⟩ := script_reported_iff_ending_analysed (modelScanner "user.js")
    (modelWorkspace "user.js") none [modelFile "user.js"] (modelFile_selected _ hknown)
  obtain ⟨_, hanalysed, _⟩ :=
    hscripts (modelFile "user.js") (List.mem_singleton.mpr rfl) (by decide)
  obtain ⟨hreported, _⟩ := hanalysed (by decide) (by decide) modelCode own
    (by decide) hown fun other hother _ => List.mem_singleton.mp hother
  have hflows : (ScriptFlow.trace modelCode {}).2.edges.all (·.source.isSome) = true := by
    decide
  have hpatterns : (modelScanner "user.js").ignorePatterns = [] := by decide
  refine ⟨result, _, hresult, hreported (fun flow hflow => ?_) finding hfinding ?_, ?_⟩
  · exact Option.isSome_iff_ne_none.mp (List.all_eq_true.mp hflows flow hflow)
  · rw [hpatterns]
    rfl
  · rw [reported, relate_rule, hrule]

/-- The ending is one of scripts by the configuration, the analysis finds the field and nothing asks
to ignore it. Yet the scan counts the file and reports nothing. -/
theorem script_with_other_ending_passed_over :
    (modelFile "user.mjs").suffix ∈ ((modelScanner "user.mjs").configFor none).scriptEndings ∧
      (modelScanner "user.mjs").ignorePatterns = [] ∧
      (∀ known : Scanner, ∃ own finding,
        known.analysisOf (modelFile "user.mjs") modelCode .script = .ok own ∧
          finding ∈ own.findings) ∧
      ∃ result, ((modelScanner "user.mjs").scan (modelWorkspace "user.mjs")).2 = .ok result ∧
        result.fileCount = 1 ∧ result.findings = [] := by
  have hseen : ((modelScanner "user.mjs").scan (modelWorkspace "user.mjs")).2.toOption.map
      (fun result => (result.fileCount, result.findings.length)) = some (1, 0) := by
    decide
  obtain ⟨result, hresult, hboth⟩ := Outcome.exists_of_seen hseen
  obtain ⟨hcount, hnone⟩ := Prod.mk.inj hboth
  refine ⟨by decide, by decide, fun known => ?_, result, hresult, hcount,
    List.length_eq_zero_iff.mp hnone⟩
  obtain ⟨own, finding, hown, hfinding, _⟩ := modelCode_analysis known "user.mjs" (by simp)
  exact ⟨own, finding, hown, hfinding⟩

end Scanner

end PrivacyScan
