import PrivacyScan.Proofs.Project.ModuleEntries
import PrivacyScan.Proofs.Project.Selection
import PrivacyScan.Proofs.SourceFlow.SinkEdges

/-!
# Findings that do not depend on other files

All files of a project share one table of symbols, and the findings of all of them go through the
same passes. What another file can do to the findings of a Python file is little:

* **`mem_exportsOf_readModules_iff`** — a module exports what its file defines, when no other file
  enters its symbols under the same name;
* **`findings_file_of_readFile`** — the findings of a report are in the file of the report;
* **`findingsIn_eq`** — so what a scan reports for a file is what the report of this file says,
  apart from the function that a finding is related to.

Symbols are entered under the name of the full path. That is the name of the module when the root is
a full path itself. Else a file can enter its symbols under the name of another module, and the leak
in that module is lost.
-/

namespace PrivacyScan

open Project
open Resolver (packageName IsBelow stepsTo)

/-! ## What a module exports -/

namespace Symbols

variable {symbols : Symbols} {workspace : Workspace} {file : Path} {module name code : String}
  {language : Language}

theorem exists_of_mem_enterAll {found : List (Symbol × List String)} :
    ∀ entry ∈ (symbols.enterAll found).2, ∃ item ∈ found, item.1.name = entry.1 := by
  unfold enterAll
  refine List.foldlRecOn
    (motive := fun state : Symbols × Table Nat =>
      ∀ entry ∈ state.2, ∃ item ∈ found, item.1.name = entry.1)
    found _ (by simp) ?_
  rintro ⟨state, table⟩ htable item hitem entry hentry
  rcases Table.mem_or_eq_of_mem_set hentry with hold | rfl
  · exact htable entry hold
  · exact ⟨item, hitem, rfl⟩

/-- A file that is registered under a name exports its definitions under that name. -/
theorem mem_exportsOf_register_iff (hcode : workspace.read? file = some code) :
    name ∈ (symbols.register workspace file module (some language)).1.exportsOf module ↔
      ∃ definition ∈ language.definitions code, definition.name = name := by
  rw [register_eq hcode, exportsOf, Text.mem_sortedDistinct, enterModule]
  dsimp only
  rw [Table.get?_set_self, Option.getD_some]
  constructor
  · intro hname
    obtain ⟨entry, hentry, rfl⟩ := List.mem_map.mp hname
    obtain ⟨item, hitem, hentered⟩ := exists_of_mem_enterAll entry hentry
    obtain ⟨definition, hdefinition, rfl⟩ := List.mem_map.mp hitem
    rw [ofDefinition_name] at hentered
    exact ⟨definition, hdefinition, hentered⟩
  · rintro ⟨definition, hdefinition, rfl⟩
    have hkey := enterAll_hasKey
      (List.mem_map_of_mem (f := ofDefinition module file) hdefinition) symbols
    rw [ofDefinition_name] at hkey
    obtain ⟨position, hposition⟩ := Option.isSome_iff_exists.mp hkey
    exact List.mem_map_of_mem (Table.mem_of_get? hposition)

theorem exportsOf_register_of_ne (hne : name ≠ module) :
    (symbols.register workspace file module (some language)).1.exportsOf name =
      symbols.exportsOf name := by
  unfold exportsOf
  rw [register_get?_of_ne hne]

end Symbols

namespace Scanner

variable {config : Config} {workspace : Workspace} {cross : CrossFile} {root file other : Path}
  {files : List Path} {module name code : String} {language : Language}

/-- The name under which a file enters its symbols: that of its full path. -/
def enteredAs (root : Path) (workspace : Workspace) (file : Path) : String :=
  packageName root (workspace.resolve file)

theorem exportsOf_readModules_singleton_of_ne (h : IsSound root cross)
    (hne : enteredAs root workspace other ≠ module) :
    (readModules config workspace cross [other]).symbols.exportsOf module =
      cross.symbols.exportsOf module := by
  cases hlanguage : languageOf? config other with
  | none =>
    unfold readModules
    rw [List.foldl_cons, List.foldl_nil, hlanguage]
  | some language =>
    rw [readModules_singleton hlanguage, Resolver.analyze_package h.keyed, h.root]
    exact Symbols.exportsOf_register_of_ne (Ne.symm hne)

theorem mem_exportsOf_readModules_singleton_iff (h : IsSound root cross)
    (hlanguage : languageOf? config file = some language) (hcode : workspace.read? file = some code)
    (hname : enteredAs root workspace file = module) :
    name ∈ (readModules config workspace cross [file]).symbols.exportsOf module ↔
      ∃ definition ∈ language.definitions code, definition.name = name := by
  rw [readModules_singleton hlanguage, Resolver.analyze_package h.keyed, h.root]
  rw [← hname]
  exact Symbols.mem_exportsOf_register_iff hcode

/-- The exports of a module are those of its file, when no other file is entered as it. -/
theorem mem_exportsOf_readModules_iff (h : IsSound root cross)
    (hnone : cross.symbols.exportsOf module = [])
    (hlanguage : languageOf? config file = some language) (hcode : workspace.read? file = some code)
    (halone : ∀ other ∈ files, enteredAs root workspace other = module → other = file) :
    name ∈ (readModules config workspace cross files).symbols.exportsOf module ↔
      (file ∈ files ∧ enteredAs root workspace file = module) ∧
        ∃ definition ∈ language.definitions code, definition.name = name := by
  rw [readModules_eq_foldl]
  by_cases hown : file ∈ files ∧ enteredAs root workspace file = module
  · rw [and_iff_right hown]
    -- the file sets the exports when its turn comes, and no other file touches them
    refine Table.foldl_holds_of_mem (IsSound root)
      (fun cross => name ∈ cross.symbols.exportsOf module ↔
        ∃ definition ∈ language.definitions code, definition.name = name) hown.1
      (fun _ _ cross hcross => readModules_isSound hcross) (fun cross hcross => ?item)
      (fun other hother hne cross hcross hexports => ?other) h
    case item => exact mem_exportsOf_readModules_singleton_iff hcross hlanguage hcode hown.2
    case other =>
      have hname : enteredAs root workspace other ≠ module := fun heq =>
        hne (halone other hother heq)
      rw [exportsOf_readModules_singleton_of_ne hcross hname]
      exact hexports
  · -- nobody enters anything under this name
    have hname (other : Path) (hother : other ∈ files) : enteredAs root workspace other ≠
        module := by
      intro heq
      obtain rfl := halone other hother heq
      exact hown ⟨hother, heq⟩
    have hempty := (List.foldlRecOn
      (motive := fun cross => IsSound root cross ∧ cross.symbols.exportsOf module = []) files
      (fun cross file => readModules config workspace cross [file]) ⟨h, hnone⟩
      fun cross hcross other hother => ⟨readModules_isSound hcross.1, by
        rw [exportsOf_readModules_singleton_of_ne hcross.1 (hname other hother)]
        exact hcross.2⟩).2
    rw [hempty]
    simp [hown]

/-! ## The report of a file -/

variable {scanner first second : Scanner} {report : FileReport}

/-- All findings in the report of a file name this file. -/
theorem findings_file_of_readFile (hchecks : scanner.checks = [])
    (hreport : (scanner.readFile workspace file).2 = some report) :
    ∀ finding ∈ report.findings, finding.file = file.text := by
  obtain ⟨code, language, own, extra, _, _, hown, hextra, _, rfl⟩ := readFile_eq_some_iff.mp hreport
  cases language with
  | python =>
    obtain ⟨analysed, hanalysed, rfl⟩ := Outcome.map_eq_ok.mp hown
    obtain ⟨findings, _, hfindings, _, _, hfile⟩ := SourceFlow.analyze_tells hanalysed
    rw [extraFindings, hchecks] at hextra
    obtain rfl : [] = extra := Except.ok.inj hextra
    show ∀ finding ∈ (analysed.getD {}).findings ++ [], _
    rw [List.append_nil, hfindings]
    exact hfile
  | script =>
    obtain ⟨state, hstate, rfl⟩ := Outcome.map_eq_ok.mp hown
    cases hextra
    show ∀ finding ∈ state.findings ++ [], _
    rw [List.append_nil]
    exact fun finding hmem => (ScriptFlow.analyze_reports hstate finding hmem).file

/-- The findings of a Python file hang on its code and on what its module exports. -/
theorem exists_report_of_exports_subset {twin : Workspace} (hchecks : second.checks = first.checks)
    (hcode : workspace.read? file = some code) (hcode' : twin.read? file = some code)
    (hlanguage : languageOf? first.config file = some .python)
    (hlanguage' : languageOf? second.config file = some .python)
    (hexports : ∀ name ∈ second.cross.symbols.exportsOf (second.moduleOf file),
      name ∈ first.cross.symbols.exportsOf (first.moduleOf file))
    (hreport : (first.readFile workspace file).2 = some report) :
    ∃ other, (second.readFile twin file).2 = some other ∧ other.findings = report.findings := by
  obtain ⟨code', language, own, extra, hread, hlanguage'', hown, hextra, hkeeps, rfl⟩ :=
    readFile_eq_some_iff.mp hreport
  obtain rfl := Option.some.inj (hcode.symm.trans hread)
  obtain rfl := Option.some.inj (hlanguage.symm.trans hlanguage'')
  have hextra' : second.extraFindings file code .python = .ok extra := by
    rw [extraFindings, hchecks]
    exact hextra
  have hkeeps' : second.Keeps file code .python own.tracker :=
    { flows := hkeeps.flows
      checks := ⟨extra, hextra'⟩
      exports := fun _ name hname => hkeeps.exports rfl name (hexports name hname) }
  exact ⟨second.reportOn file .python own extra,
    readFile_eq_some_iff.mpr
      ⟨code, .python, own, extra, hcode', hlanguage', hown, hextra', hkeeps', rfl⟩, rfl⟩

/-! ## What a scan reports for a file -/

theorem byModule_keys_nodup (reports : List FileReport) : (byModule reports).keys.Nodup := by
  unfold byModule
  exact List.foldlRecOn (motive := fun table : Table FileReport => table.keys.Nodup) reports _
    List.nodup_nil fun table htable report _ => Table.keys_set_nodup htable ..

/-- The report under the name of a module is that of the only file with this name, if there is
one. -/
theorem get?_byModule_eq
    (halone : ∀ other ∈ files, scanner.moduleOf other = scanner.moduleOf file → other = file) :
    (byModule (scanner.readFiles workspace files).2).get? (scanner.moduleOf file) =
      if file ∈ files then (scanner.readFile workspace file).2 else none := by
  have hown {report : FileReport}
      (hget : (byModule (scanner.readFiles workspace files).2).get? (scanner.moduleOf file) =
        some report) : file ∈ files ∧ (scanner.readFile workspace file).2 = some report := by
    have hentry := Table.mem_of_get? hget
    obtain ⟨other, hother, hread⟩ := mem_readFiles_iff.mp (of_mem_byModule _ hentry).1
    have hmodule : scanner.moduleOf other = scanner.moduleOf file := by
      rw [← readFile_module hread]
      exact (of_mem_byModule _ hentry).2
    obtain rfl := halone other hother hmodule
    exact ⟨hother, hread⟩
  refine Option.ext fun report => ⟨fun hget => ?_, fun hreport => ?_⟩
  · obtain ⟨hfile, hread⟩ := hown hget
    rw [if_pos hfile, hread]
  · split at hreport
    · next hfile =>
      rw [← readFile_module hreport]
      exact get?_byModule_of_unique hfile hreport halone
    · cases hreport

/-- Of the findings of all modules, those in a file are those of its own report. -/
theorem moduleFindings_in_file (hchecks : scanner.checks = [])
    (htexts : ∀ other ∈ files, other.text = file.text → other = file)
    (halone : ∀ other ∈ files, scanner.moduleOf other = scanner.moduleOf file → other = file) :
    (moduleFindings (scanner.readFiles workspace files)).filter (·.file == file.text) =
      (((if file ∈ files then (scanner.readFile workspace file).2 else none).map (·.findings)).getD
        []).map (relate (sensitiveNames (scanner.readFiles workspace files).1.cross.symbols)) := by
  have hother : ∀ entry ∈ byModule (scanner.readFiles workspace files).2,
      entry.1 ≠ scanner.moduleOf file →
      (entry.2.findings.map (relate (sensitiveNames
        (scanner.readFiles workspace files).1.cross.symbols))).filter (·.file == file.text) =
          [] := by
    intro entry hentry hne
    obtain ⟨other, hmem, hread⟩ := mem_readFiles_iff.mp (of_mem_byModule entry hentry).1
    rw [List.filter_eq_nil_iff]
    intro finding hfinding
    obtain ⟨found, hfound, rfl⟩ := List.mem_map.mp hfinding
    rw [relate_file, findings_file_of_readFile hchecks hread found hfound, beq_iff_eq]
    -- a finding in the file would make this the report of the file
    intro htext
    obtain rfl := htexts other hmem htext
    exact hne ((of_mem_byModule entry hentry).2.symm.trans (readFile_module hread))
  unfold moduleFindings
  rw [List.filter_flatMap]
  refine (Table.flatMap_eq_of_key (byModule_keys_nodup _) hother).trans ?_
  rw [get?_byModule_eq halone]
  cases hreport : if file ∈ files then (scanner.readFile workspace file).2 else none with
  | none => rfl
  | some report =>
    have hread : (scanner.readFile workspace file).2 = some report := by
      split at hreport
      · exact hreport
      · cases hreport
    show (report.findings.map _).filter _ = report.findings.map _
    rw [List.filter_eq_self]
    intro finding hfinding
    obtain ⟨found, hfound, rfl⟩ := List.mem_map.mp hfinding
    rw [relate_file, findings_file_of_readFile hchecks hread found hfound]
    exact beq_self_eq_true _

end Scanner

/-! ## Findings apart from what they are related to -/

/-- A finding without the two fields that tell of other files. -/
def Finding.apart (finding : Finding) : Finding :=
  { finding with taintedVariables := [], metadata := [] }

theorem Project.relate_apart (names : List String) (finding : Finding) :
    (relate names finding).apart = finding.apart := by
  obtain ⟨_, _, h⟩ := Scanner.relate_eq names finding
  rw [h]
  rfl

namespace ScanResult

def findingsIn (result : ScanResult) (file : Path) : List Finding :=
  result.findings.filter (·.file == file.text)

/-- The names of the two fields in a reported finding. -/
def relatedFields : List String := ["tainted_variables", "metadata"]

def withoutFields (names : List String) : Document → Document
  | .object fields => .object (fields.filter fun field => !names.contains field.1)
  | other => other

def reportedApart (finding : Finding) : Outcome Document :=
  withoutFields relatedFields <$> reported finding

/-- The articles and measures of a finding follow from what the finding is by itself. -/
theorem mapping_apart (finding : Finding) :
    Compliance.mapping finding.apart.toDocument finding.apart.rule =
      Compliance.mapping finding.toDocument finding.rule := by
  have hclassification (finding : Finding) :
      finding.toDocument.get "classification" (.object []) = .ok finding.assessment.toDocument := by
    simp [Finding.toDocument, Finding.toFields, Document.get, List.lookup_cons]
  have hsnippet (finding : Finding) :
      finding.toDocument.get "snippet" (.text "") = .ok (.text finding.snippet) := by
    simp [Finding.toDocument, Finding.toFields, Document.get, List.lookup_cons]
  unfold Compliance.mapping
  rw [hclassification, hclassification, hsnippet, hsnippet]
  dsimp only [Finding.apart]

/-- A field that is kept is set in what is kept of the others. -/
theorem filter_setField {name : String} {keep : String → Bool} (hname : keep name = true)
    (value : Document) (fields : List (String × Document)) :
    (Document.setField name value fields).filter (fun field => keep field.1) =
      Document.setField name value (fields.filter fun field => keep field.1) := by
  induction fields with
  | nil => simp [Document.setField, hname]
  | cons field rest ih =>
    obtain ⟨other, old⟩ := field
    rw [Document.setField]
    by_cases hother : other = name
    · subst hother
      simp [Document.setField, hname]
    · rw [if_neg (by simpa using hother)]
      cases hkeep : keep other with
      | true => simp [hkeep, ih, Document.setField, hother]
      | false => simp [hkeep, ih]

theorem filter_optionalField_related {name : String} (hname : name ∈ relatedFields)
    (value : Document) :
    (Finding.optionalField name value).filter (fun field => !relatedFields.contains field.1) =
      [] := by
  unfold Finding.optionalField
  split
  · simp [hname]
  · rfl

theorem filter_toFields_apart (finding : Finding) :
    finding.apart.toFields.filter (fun field => !relatedFields.contains field.1) =
      finding.toFields.filter (fun field => !relatedFields.contains field.1) := by
  have hvariables :=
    filter_optionalField_related (show "tainted_variables" ∈ relatedFields by decide)
  have hmetadata := filter_optionalField_related (show "metadata" ∈ relatedFields by decide)
  have hfile : finding.apart.reportedFile = finding.reportedFile := rfl
  unfold Finding.toFields
  simp only [List.filter_append, hvariables, hmetadata, hfile]
  simp only [Finding.apart]

theorem reportedApart_eq (finding : Finding) :
    reportedApart finding =
      (fun mapped => .object (Document.setField "compliance_mapping" mapped
        (finding.toFields.filter fun field => !relatedFields.contains field.1))) <$>
        Compliance.mapping finding.toDocument finding.rule := by
  unfold reportedApart reported
  cases Compliance.mapping finding.toDocument finding.rule with
  | error fault => rfl
  | ok mapped =>
    have hkept : (!relatedFields.contains "compliance_mapping") = true := by decide
    have hfields := @filter_setField _ (fun name => !relatedFields.contains name) hkept mapped
      finding.toFields
    exact congrArg (fun fields => Except.ok (Document.object fields)) hfields

/-- **What is reported of a finding, apart from the two fields, follows from the finding without
them.** -/
theorem reportedApart_apart (finding : Finding) :
    reportedApart finding.apart = reportedApart finding := by
  rw [reportedApart_eq, reportedApart_eq, mapping_apart, filter_toFields_apart]

end ScanResult

namespace Scanner

variable {config : Config} {workspace first second : Workspace} {files others : List Path}
  {file : Path} {content code : String}

def ownFindings (config : Config) (workspace : Workspace) (files : List Path) (file : Path) :
    List Finding :=
  ((if file ∈ files then ((knowing config workspace [] files).readFile workspace file).2
    else none).map (·.findings)).getD []

/-- Where the module exports nothing, the findings of a file are those of its analysis. -/
theorem findingsIn_eq (hselected : selectedFiles config workspace = .ok files)
    (htexts : ∀ other ∈ files, other.text = file.text → other = file)
    (halone : ∀ other ∈ files,
      packageName config.root other = packageName config.root file → other = file) :
    ∃ result, ((ofConfig config workspace).scan workspace).2 = .ok result ∧
      (result.findingsIn file).map Finding.apart =
        ((ownFindings config workspace files file).filter
          (!isIgnored (ignorePatternsIn workspace config.root) ·)).map Finding.apart := by
  have halone' : ∀ other ∈ files, (knowing config workspace [] files).moduleOf other =
      (knowing config workspace [] files).moduleOf file → other = file := by
    intro other hother
    rw [knowing_moduleOf, knowing_moduleOf]
    exact halone other hother
  refine ⟨_, scan_eq hselected, ?_⟩
  show (List.filter _ (List.filter _ (moduleFindings
    ((knowing config workspace [] files).readFiles workspace files)))).map Finding.apart = _
  rw [List.filter_comm, moduleFindings_in_file rfl htexts halone', List.filter_map, List.map_map]
  have hignored (names : List String) :
      (fun finding => !isIgnored (ofConfig config workspace).ignorePatterns finding) ∘
        relate names =
        fun finding => !isIgnored (ignorePatternsIn workspace config.root) finding := by
    funext finding
    exact congrArg not (isIgnored_relate ..)
  have happart (names : List String) : Finding.apart ∘ relate names = Finding.apart :=
    funext fun finding => relate_apart names finding
  rw [hignored, happart, ownFindings]

/-- The project has this file with this content, and no other file that is scanned has the name of
its module. -/
structure Hosts (config : Config) (workspace : Workspace) (files : List Path) (file : Path)
    (content : String) : Prop where
  proper : workspace.tree.IsProper
  selected : selectedFiles config workspace = .ok files
  content : workspace.at? file = some (.file content)
  named : ∀ other ∈ files, packageName config.root other = packageName config.root file →
    other = file

/-- The root is a full path, or else no other file enters its symbols under the name of the
module. -/
def EntersAlone (config : Config) (workspace : Workspace) (files : List Path) (file : Path) :
    Prop :=
  workspace.resolve config.root = config.root ∨ ∀ other ∈ files,
    enteredAs config.root workspace other = packageName config.root file → other = file

namespace Hosts

section Alone

variable (h : Hosts config workspace files file content) (hlimit : config.maxFiles = none)

include h

theorem read?_eq :
    workspace.read? file = some (String.ofList (Text.unifyLineEnds content.toList)) := by
  unfold Workspace.read?
  rw [h.content]

include hlimit

theorem mem_files_iff {other : Path} :
    other ∈ files ↔ IsScanned config workspace other :=
  mem_selectedFiles_iff hlimit h.proper h.selected

/-- With a full root, a file enters its symbols under the name of its module. -/
theorem enteredAs_alone (hentered : EntersAlone config workspace files file) :
    ∀ other ∈ files, enteredAs config.root workspace other = packageName config.root file →
      other = file := by
  rcases hentered with hroot | halone
  · intro other hother hname
    have hscanned := (h.mem_files_iff hlimit).mp hother
    rw [enteredAs, Workspace.resolve_eq_self hroot hscanned.below hscanned.plain] at hname
    exact h.named other hother hname
  · exact halone

theorem text_alone (hbelow : IsBelow config.root file) :
    ∀ other ∈ files, other.text = file.text → other = file := by
  intro other hother htext
  exact ((h.mem_files_iff hlimit).mp hother).below.eq_of_text_eq hbelow htext

/-- What the module of the file exports is told by the file and by whether it is scanned. -/
theorem mem_exportsOf_iff (hentered : EntersAlone config workspace files file)
    (hpython : languageOf? config file = some .python) (name : String) :
    name ∈ (knowing config workspace [] files).cross.symbols.exportsOf
        ((knowing config workspace [] files).moduleOf file) ↔
      (file ∈ files ∧ enteredAs config.root workspace file = packageName config.root file) ∧
        ∃ definition ∈ Language.python.definitions
          (String.ofList (Text.unifyLineEnds content.toList)), definition.name = name := by
  have hsound : IsSound config.root { resolver := { root := config.root } } := ⟨rfl, nofun⟩
  rw [knowing_moduleOf]
  exact mem_exportsOf_readModules_iff hsound rfl hpython h.read?_eq
    (h.enteredAs_alone hlimit hentered)

end Alone

/-- A file of two projects is scanned in both or in neither. -/
theorem mem_files_of_mem (h : Hosts config first files file content)
    (h' : Hosts config second others file content) (hlimit : config.maxFiles = none)
    (hmem : file ∈ files) : file ∈ others := by
  obtain ⟨hbelow, hplain, hvisible, own, hown, hselected⟩ := (h.mem_files_iff hlimit).mp hmem
  rw [h.content] at hown
  obtain rfl := FileTree.file.inj (Option.some.inj hown)
  exact (h'.mem_files_iff hlimit).mpr ⟨hbelow, hplain, hvisible, content, h'.content, hselected⟩

/-- Where the file has a report in one project, it has one with the same findings in the other. -/
theorem exists_report (h : Hosts config first files file content)
    (h' : Hosts config second others file content) (hlimit : config.maxFiles = none)
    (hentered : EntersAlone config first files file)
    (hentered' : EntersAlone config second others file)
    (hpython : languageOf? config file = some .python) (hworking : second.working = first.working)
    {report : FileReport} (hmem : file ∈ files)
    (hreport : ((knowing config first [] files).readFile first file).2 = some report) :
    ∃ other, ((knowing config second [] others).readFile second file).2 = some other ∧
      other.findings = report.findings := by
  have hresolve : enteredAs config.root second file = enteredAs config.root first file := by
    unfold enteredAs Workspace.resolve
    rw [hworking]
  have hchecks : (knowing config second [] others).checks =
      (knowing config first [] files).checks :=
    rfl
  refine exists_report_of_exports_subset hchecks h.read?_eq h'.read?_eq hpython hpython ?_ hreport
  intro name hname
  rw [h'.mem_exportsOf_iff hlimit hentered' hpython, hresolve] at hname
  rw [h.mem_exportsOf_iff hlimit hentered hpython]
  exact ⟨⟨hmem, hname.1.2⟩, hname.2⟩

/-- What a file reports by itself does not hang on the files beside it. -/
theorem ownFindings_eq (h : Hosts config first files file content)
    (h' : Hosts config second others file content) (hlimit : config.maxFiles = none)
    (hentered : EntersAlone config first files file)
    (hentered' : EntersAlone config second others file)
    (hpython : languageOf? config file = some .python) (hworking : second.working = first.working) :
    ownFindings config second others file = ownFindings config first files file := by
  unfold ownFindings
  by_cases hmem : file ∈ files
  · have hmem' := h.mem_files_of_mem h' hlimit hmem
    rw [if_pos hmem, if_pos hmem']
    cases hreport : ((knowing config first [] files).readFile first file).2 with
    | none =>
      cases hreport' : ((knowing config second [] others).readFile second file).2 with
      | none => rfl
      | some other =>
        obtain ⟨report, hsome, _⟩ :=
          h'.exists_report h hlimit hentered' hentered hpython hworking.symm hmem' hreport'
        rw [hreport] at hsome
        cases hsome
    | some report =>
      obtain ⟨other, hother, hfindings⟩ :=
        h.exists_report h' hlimit hentered hentered' hpython hworking hmem hreport
      rw [hother]
      exact hfindings
  · have hmem' : file ∉ others := fun hfile => hmem (h'.mem_files_of_mem h hlimit hfile)
    rw [if_neg hmem, if_neg hmem']

end Hosts

/-- **The findings of a Python file do not depend on other files.** Two projects are scanned with
the same configuration, which sets no limit to the number of files, and with the same patterns for
findings to ignore. Both have the same Python file at the same path. Its module has its name for
itself, in the table of symbols as well. Then both scans complete and report for this file what its
own report says and no pattern ignores; and what the two report for it agrees in number, in order
and in all fields but the two that tell of other files. -/
theorem findings_independent_of_other_files (config : Config) (first second : Workspace)
    (files others : List Path) (file : Path) (content : String)
    (hlimit : config.maxFiles = none) (hworking : second.working = first.working)
    (hpatterns : ignorePatternsIn second config.root = ignorePatternsIn first config.root)
    (hpython : languageOf? config file = some .python) (hbelow : IsBelow config.root file)
    (hfirst : Hosts config first files file content)
    (hsecond : Hosts config second others file content)
    (hentered : EntersAlone config first files file)
    (hentered' : EntersAlone config second others file) :
    ∃ result twin, ((ofConfig config first).scan first).2 = .ok result ∧
      ((ofConfig config second).scan second).2 = .ok twin ∧
      (result.findingsIn file).map Finding.apart =
        ((ownFindings config first files file).filter
          (!isIgnored (ignorePatternsIn first config.root) ·)).map Finding.apart ∧
      (twin.findingsIn file).map Finding.apart = (result.findingsIn file).map Finding.apart ∧
      (twin.findingsIn file).map ScanResult.reportedApart =
        (result.findingsIn file).map ScanResult.reportedApart := by
  obtain ⟨result, hresult, hfindings⟩ :=
    findingsIn_eq hfirst.selected (hfirst.text_alone hlimit hbelow) hfirst.named
  obtain ⟨twin, htwin, hfindings'⟩ :=
    findingsIn_eq hsecond.selected (hsecond.text_alone hlimit hbelow) hsecond.named
  have hsame : (twin.findingsIn file).map Finding.apart =
      (result.findingsIn file).map Finding.apart := by
    rw [hfindings, hfindings', hpatterns,
      hfirst.ownFindings_eq hsecond hlimit hentered hentered' hpython hworking]
  refine ⟨result, twin, hresult, htwin, hfindings, hsame, ?_⟩
  have hreported : ScanResult.reportedApart = ScanResult.reportedApart ∘ Finding.apart :=
    funext fun finding => (ScanResult.reportedApart_apart finding).symm
  rw [hreported, ← List.map_map, ← List.map_map, hsame]

/-! ## A leak beside another module

Below the root, `app/py.py` is the module `app.py` and leaks the body of a request in the variable
`data`. Beside it `app.py`, which is the module `app`, defines a function `data`. Seen from a root
that is no full path, the full path of a file lies elsewhere, and the symbols of `app.py` are
entered under its bare name: that of the other module. -/

def siteRoot : Path := { anchor := "/", parts := ["work", "site"] }

/-- The same directory, as seen from the one that holds it. -/
def nearSiteRoot : Path := { parts := ["site"] }

def siteSibling : Table FileTree := [("app.py", .file "def data():\n    return 1\n")]

def siteWorkspace (beside : Table FileTree) : Workspace :=
  { root := siteRoot.parent
    tree := .directory
      [("site", .directory (("app", .directory [("py.py", .file leakCode)]) :: beside))] }

def siteLeak (root : Path) : Path := root.below ["app", "py.py"]

def siteModule (root : Path) : Path := root.below ["app.py"]

theorem siteWorkspace_isProper {beside : Table FileTree} (hdistinct : ("app" :: beside.keys).Nodup)
    (hnamed : ∀ entry ∈ beside, FileTree.IsName entry.1)
    (hproper : ∀ entry ∈ beside, entry.2.IsProper) : (siteWorkspace beside).tree.IsProper := by
  have happ : FileTree.IsProper (.directory [("py.py", .file leakCode)]) :=
    .directory (by decide) (by decide) (List.forall_mem_singleton.mpr (.file leakCode))
  have hsite : FileTree.IsProper
      (.directory (("app", .directory [("py.py", .file leakCode)]) :: beside)) :=
    .directory hdistinct (List.forall_mem_cons.mpr ⟨by decide, hnamed⟩)
      (List.forall_mem_cons.mpr ⟨happ, hproper⟩)
  have hname : FileTree.IsName "site" := by decide
  exact .directory (by simp [Table.keys]) (List.forall_mem_singleton.mpr hname)
    (List.forall_mem_singleton.mpr hsite)

/-- Both projects have the leak, in a module whose name no other file has. -/
theorem site_hosts_leak :
    ∀ root ∈ [siteRoot, nearSiteRoot],
      Hosts { root } (siteWorkspace []) [siteLeak root] (siteLeak root) leakCode ∧
      Hosts { root } (siteWorkspace siteSibling) [siteLeak root, siteModule root] (siteLeak root)
        leakCode := by
  have halone : (siteWorkspace []).tree.IsProper :=
    siteWorkspace_isProper (by decide) (by decide) (by simp)
  have hbeside : (siteWorkspace siteSibling).tree.IsProper :=
    siteWorkspace_isProper (by decide) (by decide)
      (List.forall_mem_singleton.mpr (.file _))
  have hselected : ∀ root ∈ [siteRoot, nearSiteRoot],
      selectedFiles { root } (siteWorkspace []) = .ok [siteLeak root] ∧
      selectedFiles { root } (siteWorkspace siteSibling) =
        .ok [siteLeak root, siteModule root] := by
    decide
  have hnamed : ∀ root ∈ [siteRoot, nearSiteRoot], ∀ other ∈ [siteLeak root, siteModule root],
      packageName root other = packageName root (siteLeak root) → other = siteLeak root := by
    decide
  have hcontent : ∀ root ∈ [siteRoot, nearSiteRoot], ∀ beside,
      (siteWorkspace beside).at? (siteLeak root) = some (.file leakCode) := by
    refine List.forall_mem_cons.mpr ⟨fun _ => rfl, List.forall_mem_singleton.mpr fun _ => rfl⟩
  intro root hroot
  exact ⟨⟨halone, (hselected root hroot).1, hcontent root hroot [],
      fun other hother _ => List.mem_singleton.mp hother⟩,
    ⟨hbeside, (hselected root hroot).2, hcontent root hroot siteSibling, hnamed root hroot⟩⟩

/-- Without the other module, the leak is reported under either root. -/
theorem site_leak_reported :
    ∀ root ∈ [siteRoot, nearSiteRoot], ∃ result,
      ((ofConfig { root } (siteWorkspace [])).scan (siteWorkspace [])).2 = .ok result ∧
        (result.findingsIn (siteLeak root)).length = 1 := by
  have hseen : ∀ root ∈ [siteRoot, nearSiteRoot],
      ((ofConfig { root } (siteWorkspace [])).scan (siteWorkspace [])).2.toOption.map
        (fun result => (result.findingsIn (siteLeak root)).length) = some 1 := by
    decide +kernel
  exact fun root hroot => Outcome.exists_of_seen (hseen root hroot)

/-- The leak of one file is reported alike with and without a file beside it. -/
theorem site_leak_reported_beside_module :
    ∃ result twin,
      ((ofConfig { root := siteRoot } (siteWorkspace [])).scan (siteWorkspace [])).2 = .ok result ∧
      ((ofConfig { root := siteRoot } (siteWorkspace siteSibling)).scan
        (siteWorkspace siteSibling)).2 = .ok twin ∧
      (result.findingsIn (siteLeak siteRoot)).length = 1 ∧
      (twin.findingsIn (siteLeak siteRoot)).map Finding.apart =
        (result.findingsIn (siteLeak siteRoot)).map Finding.apart := by
  obtain ⟨halone, hbeside⟩ := site_hosts_leak siteRoot List.mem_cons_self
  have hroot : ∀ beside, (siteWorkspace beside).resolve siteRoot = siteRoot := fun _ => rfl
  obtain ⟨result, twin, hresult, htwin, _, hsame, _⟩ := findings_independent_of_other_files
    { root := siteRoot } (siteWorkspace []) (siteWorkspace siteSibling) [siteLeak siteRoot]
    [siteLeak siteRoot, siteModule siteRoot] (siteLeak siteRoot) leakCode rfl rfl
    (by decide +kernel) (by decide +kernel) (by decide +kernel) halone hbeside (.inl (hroot []))
    (.inl (hroot siteSibling))
  obtain ⟨result', hresult', hlength⟩ := site_leak_reported siteRoot List.mem_cons_self
  obtain rfl := Except.ok.inj (hresult'.symm.trans hresult)
  exact ⟨result', twin, hresult, htwin, hlength, hsame⟩

/-- Both projects have the same leak at the same path, and in both no other file has the name of its
module, neither for its findings nor for its symbols. Yet only one of them reports the leak: the
symbols of the other file are entered under the name that the findings of the leak go by. -/
theorem leak_lost_beside_entered_name :
    Hosts { root := nearSiteRoot } (siteWorkspace []) [siteLeak nearSiteRoot]
      (siteLeak nearSiteRoot)
        leakCode ∧
      Hosts { root := nearSiteRoot } (siteWorkspace siteSibling)
        [siteLeak nearSiteRoot, siteModule nearSiteRoot] (siteLeak nearSiteRoot) leakCode ∧
      enteredAs nearSiteRoot (siteWorkspace siteSibling) (siteModule nearSiteRoot) ≠
        enteredAs nearSiteRoot (siteWorkspace siteSibling) (siteLeak nearSiteRoot) ∧
      ∃ result twin,
        ((ofConfig { root := nearSiteRoot } (siteWorkspace [])).scan (siteWorkspace [])).2 =
            .ok result ∧
          ((ofConfig { root := nearSiteRoot } (siteWorkspace siteSibling)).scan
            (siteWorkspace siteSibling)).2 = .ok twin ∧
          (result.findingsIn (siteLeak nearSiteRoot)).length = 1 ∧
          twin.findingsIn (siteLeak nearSiteRoot) = [] := by
  have hnear : nearSiteRoot ∈ [siteRoot, nearSiteRoot] := by simp
  obtain ⟨halone, hbeside⟩ := site_hosts_leak nearSiteRoot hnear
  obtain ⟨result, hresult, hlength⟩ := site_leak_reported nearSiteRoot hnear
  have hlost : ((ofConfig { root := nearSiteRoot } (siteWorkspace siteSibling)).scan
      (siteWorkspace siteSibling)).2.toOption.map
        (fun result => (result.findingsIn (siteLeak nearSiteRoot)).length) = some 0 := by
    decide +kernel
  obtain ⟨twin, htwin, hnone⟩ := Outcome.exists_of_seen hlost
  exact ⟨halone, hbeside, by decide +kernel, result, twin, hresult, htwin, hlength,
    List.length_eq_zero_iff.mp hnone⟩

end Scanner

end PrivacyScan
