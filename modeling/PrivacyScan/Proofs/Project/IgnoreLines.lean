import PrivacyScan.Proofs.Project.Independence
import PrivacyScan.Proofs.Project.Placement

/-!
# Ignore lines that name a file

A line of the ignore file may be the path of a file, alone or behind a rule and a colon. It is
compared with the full paths that findings have:

* **`isIgnoredBy_plain_iff`**, **`isIgnoredBy_pair`** — what a line without signs says of a finding;
* **`scan_without`** — a line takes away from the findings of a scan exactly those that it says.
-/

namespace PrivacyScan

namespace Project

open FileTree (IsName)

variable {config : Config} {workspace : Workspace} {file : Path} {files : List Path}
  {finding : Finding} {line rule : String}

/-! ## What a line says -/

theorem isIgnoredBy_plain_iff (hplain : Glob.IsPlain line) (hcolon : ':' ∉ line.toList) :
    isIgnoredBy finding line = true ↔ finding.rule = line ∨ finding.file = line := by
  have hnone : Text.cut? line ":" = none :=
    Text.cut?_eq_none fun hfound => hcolon (hfound.subset (by decide))
  unfold isIgnoredBy
  rw [hnone, Bool.or_eq_true, Glob.accepts_iff_eq hplain, Glob.accepts_iff_eq hplain]

theorem isIgnoredBy_pair (hrule : ':' ∉ rule.toList) (path : String) :
    isIgnoredBy finding (rule ++ ":" ++ path) =
      (Glob.accepts rule finding.rule && Glob.accepts path finding.file) := by
  have hmark : ":".toList = [':'] := by decide
  have hcut : Text.cut? (rule ++ ":" ++ path) ":" = some (rule, path) :=
    Text.cut?_append hmark hrule path
  unfold isIgnoredBy
  rw [hcut]

theorem isIgnored_eq_without {patterns : List String} (hline : line ∈ patterns)
    (finding : Finding) :
    isIgnored patterns finding =
      (isIgnored (patterns.filter (· != line)) finding || isIgnoredBy finding line) := by
  unfold isIgnored
  rw [Bool.eq_iff_iff, Bool.or_eq_true, List.any_eq_true, List.any_eq_true]
  constructor
  · rintro ⟨pattern, hmem, hignored⟩
    by_cases hsame : pattern = line
    · exact .inr (hsame ▸ hignored)
    · exact .inl ⟨pattern, List.mem_filter.mpr ⟨hmem, bne_iff_ne.mpr hsame⟩, hignored⟩
  · rintro (⟨pattern, hmem, hignored⟩ | hignored)
    · exact ⟨pattern, (List.mem_filter.mp hmem).1, hignored⟩
    · exact ⟨line, hline, hignored⟩

/-! ## The paths of selected files -/

/-- Only files that are listed are selected. -/
theorem exists_of_mem_selectFrom {more : Option Nat} {listed : List (Path × String)}
    (h : selectFrom config more listed = .ok files) (hfile : file ∈ files) :
    ∃ content, (file, content) ∈ listed := by
  induction listed generalizing more files with
  | nil =>
    cases h
    cases hfile
  | cons first rest ih =>
    obtain ⟨place, own⟩ := first
    obtain ⟨selected, _, h⟩ := Outcome.bind_eq_ok.mp h
    have hrest {more : Option Nat} {others : List Path}
        (hothers : selectFrom config more rest = .ok others) (hmem : file ∈ others) :
        ∃ content, (file, content) ∈ (place, own) :: rest := by
      obtain ⟨content, hcontent⟩ := ih hothers hmem
      exact ⟨content, List.mem_cons_of_mem _ hcontent⟩
    have hplace (hsame : file = place) : ∃ content, (file, content) ∈ (place, own) :: rest :=
      ⟨own, hsame ▸ List.mem_cons_self⟩
    have hboth {more : Option Nat}
        (h : (do return place :: (← selectFrom config more rest)) = .ok files) :
        ∃ content, (file, content) ∈ (place, own) :: rest := by
      obtain ⟨others, hothers, h⟩ := Outcome.bind_eq_ok.mp h
      cases h
      exact (List.mem_cons.mp hfile).elim hplace (hrest hothers)
    cases selected with
    | false => exact hrest h hfile
    | true =>
      -- without a limit and below it the search goes on; at the limit this file is the last
      match more with
      | none => exact hboth h
      | some 0 =>
        cases h
        exact hplace (List.mem_singleton.mp hfile)
      | some (more + 1) => exact hboth h

theorem exists_below_of_mem_selectedFiles {entries : Table FileTree}
    (hfind : workspace.find config.root = .ok (.directory entries))
    (hproper : (FileTree.directory entries).IsProper)
    (hfiles : selectedFiles config workspace = .ok files) (hfile : file ∈ files) :
    ∃ steps content, file = config.root.below steps ∧
      (FileTree.directory entries).below? steps = some (.file content) := by
  unfold selectedFiles filesBelow at hfiles
  rw [hfind] at hfiles
  obtain ⟨content, hmem⟩ := exists_of_mem_selectFrom hfiles hfile
  obtain ⟨steps, hpath, hlisted⟩ := (mem_filesIn_iff hproper).mp hmem
  exact ⟨steps, content, hpath, hlisted.found⟩

end Project

def Path.ofSteps (steps : List String) : Path := { parts := steps }

namespace Path.IsRooted

variable {path : Path} {steps : List String}

theorem head?_text (h : path.IsRooted) (hpath : path.parts ≠ []) :
    path.text.toList.head? = some '/' := by
  obtain ⟨lead, _, _, htext⟩ := h.toList_text hpath
  rw [htext]
  cases lead with
  | nil =>
    cases hparts : path.parts with
    | nil => exact absurd hparts hpath
    | cons part rest => rfl
  | cons part rest => rfl

/-- An absolute path never reads like a relative one. -/
theorem text_ne_relative (h : path.IsRooted) (hpath : path.parts ≠ []) (hsteps : steps ≠ [])
    (hnames : ∀ step ∈ steps, FileTree.IsName step) :
    path.text ≠ (ofSteps steps).text := by
  obtain ⟨step, rest, rfl⟩ := List.exists_cons_of_ne_nil hsteps
  obtain ⟨hfull, _, hslashless⟩ := hnames step List.mem_cons_self
  obtain ⟨c, chars, hchars⟩ :=
    List.exists_cons_of_ne_nil fun hnil => hfull (String.toList_eq_nil_iff.mp hnil)
  have hhead : (Text.join "/" (step :: rest)).toList.head? = some c := by
    rw [Text.toList_join Text.slash_toList, List.map_cons, hchars]
    cases rest with
    | nil => simp
    | cons next rest =>
      rw [List.map_cons, List.intercalate_cons_cons]
      rfl
  have hrelative : (ofSteps (step :: rest)).text = Text.join "/" (step :: rest) :=
    String.empty_append
  intro heq
  have hslash := h.head?_text hpath
  rw [heq, hrelative, hhead] at hslash
  rw [hchars, Option.some.inj hslash] at hslashless
  exact hslashless List.mem_cons_self

end Path.IsRooted

/-! ## What a line takes away -/

namespace Scanner

open Project

variable {scanner first second : Scanner} {config : Config} {workspace : Workspace}
  {files : List Path} {line : String}

def without (scanner : Scanner) (line : String) : Scanner :=
  { scanner with ignorePatterns := scanner.ignorePatterns.filter (· != line) }

theorem moduleFindings_eq_of_agrees (h : Agrees first second) (workspace : Workspace)
    (files : List Path) :
    moduleFindings (second.readFiles workspace files) =
      moduleFindings (first.readFiles workspace files) := by
  have hsymbols : (second.readFiles workspace files).1.cross.symbols =
      (first.readFiles workspace files).1.cross.symbols :=
    ((readFiles_continues second workspace files).agrees.symbols.trans h.symbols).trans
      (readFiles_continues first workspace files).agrees.symbols.symm
  unfold moduleFindings
  rw [hsymbols, readFiles_reports, readFiles_reports]
  simp only [h.readFile_eq]

/-- **An ignore line takes away the findings that it ignores, and no others.** -/
theorem scan_without (scanner : Scanner) (root : Option Path)
    (hline : line ∈ scanner.ignorePatterns)
    (hfiles : selectedFiles (scanner.configFor root) workspace = .ok files) :
    ∃ result others, (scanner.scan workspace root).2 = .ok result ∧
      ((scanner.without line).scan workspace root).2 = .ok others ∧
      result.findings = others.findings.filter (!isIgnoredBy · line) ∧
      ∀ finding ∈ others.findings,
        finding ∈ moduleFindings (scanner.reading workspace root files) := by
  have hagrees : Agrees (scanner.informed workspace root files)
      ((scanner.without line).informed workspace root files) :=
    ⟨rfl, rfl, rfl, rfl⟩
  have hsame : moduleFindings ((scanner.without line).reading workspace root files) =
      moduleFindings (scanner.reading workspace root files) :=
    moduleFindings_eq_of_agrees hagrees workspace files
  have hothers : selectedFiles ((scanner.without line).configFor root) workspace = .ok files :=
    hfiles
  refine ⟨_, _, scan_eq hfiles, scan_eq hothers, ?_, fun finding hfinding => ?_⟩
  · show List.filter _ (moduleFindings _) = List.filter _ (List.filter _ (moduleFindings _))
    rw [hsame, List.filter_filter]
    refine List.filter_congr fun finding _ => ?_
    rw [isIgnored_eq_without hline, Bool.not_or, Bool.and_comm]
    rfl
  · rw [← hsame]
    exact (List.mem_filter.mp hfinding).1

/-! ## Findings below a full root -/

/-- A finding as a scan below a full root gives it: its rule is one of the analysis, and its file
has a full path. -/
structure IsPlaced (finding : Finding) : Prop where
  rule : finding.rule ∈ analysisRules
  file : ∃ path : Path, path.IsRooted ∧ path.parts ≠ [] ∧ finding.file = path.text

/-- Below a full root, every finding of a module is placed. -/
theorem isPlaced_of_mem_moduleFindings {entries : Table FileTree}
    (hroot : StandsAt entries workspace config.root)
    (hproper : (FileTree.directory entries).IsProper)
    (hfiles : selectedFiles config workspace = .ok files) {finding : Finding}
    (h : finding ∈ moduleFindings ((ofConfig config workspace).reading workspace none files)) :
    IsPlaced finding := by
  obtain ⟨file, hfile, report, hread, found, hfound, rfl⟩ := exists_report_of_mem_moduleFindings h
  have hreport := mem_readFiles_iff.mpr ⟨file, hfile, hread⟩
  have hin := findings_file_of_readFile rfl hread found hfound
  obtain ⟨steps, _, rfl, hsteps⟩ :=
    exists_below_of_mem_selectedFiles hroot.found hproper hfiles hfile
  refine ⟨?_, config.root.below steps, ?_, ?_, ?_⟩
  · rw [reported, relate_rule]
    exact readFiles_rules _ workspace files report hreport found hfound
  · exact hroot.rooted.below fun step hstep =>
      (hproper.isName_of_below? hsteps step hstep).slashless
  · exact List.append_ne_nil_of_right_ne_nil _ (ne_nil_of_below? hsteps)
  · rw [reported, relate_file, hin]

namespace IsPlaced

variable {finding : Finding} {steps : List String} {path : Path}

theorem file_ne_relative (h : IsPlaced finding) (hsome : steps ≠ [])
    (hnames : ∀ step ∈ steps, FileTree.IsName step) : finding.file ≠ (Path.ofSteps steps).text := by
  obtain ⟨path, hrooted, hparts, hfile⟩ := h.file
  rw [hfile]
  exact hrooted.text_ne_relative hparts hsome hnames

theorem rule_ne_full (h : IsPlaced finding) (hpath : path.IsRooted) (hparts : path.parts ≠ []) :
    finding.rule ≠ path.text := by
  intro heq
  have hslash := List.mem_of_mem_head? (hpath.head?_text hparts)
  rw [← heq] at hslash
  exact analysisRules_no_slash _ h.rule hslash

theorem isIgnoredBy_relative (h : IsPlaced finding) (hsome : steps ≠ [])
    (hnames : ∀ step ∈ steps, FileTree.IsName step)
    (hplain : Glob.IsPlain (Path.ofSteps steps).text)
    (hcolon : ':' ∉ (Path.ofSteps steps).text.toList) :
    isIgnoredBy finding (Path.ofSteps steps).text =
      (finding.rule == (Path.ofSteps steps).text) := by
  rw [Bool.eq_iff_iff, isIgnoredBy_plain_iff hplain hcolon, beq_iff_eq]
  exact or_iff_left (h.file_ne_relative hsome hnames)

theorem isIgnoredBy_rule_relative (h : IsPlaced finding) (hsome : steps ≠ [])
    (hnames : ∀ step ∈ steps, FileTree.IsName step)
    (hplain : Glob.IsPlain (Path.ofSteps steps).text) {rule : String} (hcolon : ':' ∉ rule.toList) :
    isIgnoredBy finding (rule ++ ":" ++ (Path.ofSteps steps).text) = false := by
  rw [isIgnoredBy_pair hcolon, Bool.and_eq_false_iff,
    ← Bool.not_eq_true (Glob.accepts _ finding.file), Glob.accepts_iff_eq hplain]
  exact .inr (h.file_ne_relative hsome hnames)

theorem isIgnoredBy_full (h : IsPlaced finding) (hpath : path.IsRooted) (hparts : path.parts ≠ [])
    (hplain : Glob.IsPlain path.text) (hcolon : ':' ∉ path.text.toList) :
    isIgnoredBy finding path.text = (finding.file == path.text) := by
  rw [Bool.eq_iff_iff, isIgnoredBy_plain_iff hplain hcolon, beq_iff_eq]
  exact or_iff_right (h.rule_ne_full hpath hparts)

end IsPlaced

/-- **Of the paths of a file, only the full one takes away its findings.** The root is a full path,
and the path of the file from there has no signs of patterns. As a line of the ignore file it takes
away the findings of a rule of this name, if there is one; behind a rule it takes away nothing. In
its place, the full path takes away the findings in the file, and behind a rule those of the
rule. -/
theorem path_lines_hide_by_full_path_only (config : Config) (workspace : Workspace)
    (files : List Path) (entries : Table FileTree) (steps : List String) (content : String)
    (hroot : StandsAt entries workspace config.root)
    (hproper : (FileTree.directory entries).IsProper)
    (hfiles : selectedFiles config workspace = .ok files)
    (hfile : (FileTree.directory entries).below? steps = some (.file content))
    (hplain : Glob.IsPlain (Path.ofSteps steps).text)
    (hcolon : ':' ∉ (Path.ofSteps steps).text.toList)
    (line : String) (hline : line ∈ ignorePatternsIn workspace config.root) :
    ∃ result others, ((ofConfig config workspace).scan workspace).2 = .ok result ∧
      (((ofConfig config workspace).without line).scan workspace).2 = .ok others ∧
      (line = (Path.ofSteps steps).text →
        result.findings = others.findings.filter (·.rule != line) ∧
          (line ∉ analysisRules → result.findings = others.findings)) ∧
      (∀ rule, ':' ∉ rule.toList → line = rule ++ ":" ++ (Path.ofSteps steps).text →
        result.findings = others.findings) ∧
      (line = (config.root.below steps).text → Glob.IsPlain line → ':' ∉ line.toList →
        result.findings = others.findings.filter (·.file != (config.root.below steps).text)) ∧
      ∀ rule, ':' ∉ rule.toList → line = rule ++ ":" ++ (config.root.below steps).text →
        Glob.IsPlain rule → Glob.IsPlain (config.root.below steps).text →
        result.findings = others.findings.filter fun finding =>
          !(finding.rule == rule && finding.file == (config.root.below steps).text) := by
  obtain ⟨result, others, hresult, hothers, hfindings, hmodules⟩ :=
    scan_without (ofConfig config workspace) none hline hfiles
  have hplaced : ∀ finding ∈ others.findings, IsPlaced finding := fun finding hfinding =>
    isPlaced_of_mem_moduleFindings hroot hproper hfiles (hmodules finding hfinding)
  -- it is enough to tell of placed findings which of them the line ignores
  have htakes (hidden : Finding → Bool)
      (hhidden : ∀ finding ∈ others.findings, isIgnoredBy finding line = hidden finding) :
      result.findings = others.findings.filter (!hidden ·) := by
    rw [hfindings]
    exact List.filter_congr fun finding hfinding => congrArg not (hhidden finding hfinding)
  have hnames := hproper.isName_of_below? hfile
  have hsome := ne_nil_of_below? hfile
  refine ⟨result, others, hresult, hothers, ?relative, ?ruleRelative, ?full, ?ruleFull⟩
  case relative =>
    rintro rfl
    have hown := htakes (·.rule == (Path.ofSteps steps).text) fun finding hfinding =>
      (hplaced finding hfinding).isIgnoredBy_relative hsome hnames hplain hcolon
    refine ⟨hown, fun hnone => ?_⟩
    rw [hown, List.filter_eq_self]
    exact fun finding hfinding =>
      bne_iff_ne.mpr fun heq => hnone (heq ▸ (hplaced finding hfinding).rule)
  case ruleRelative =>
    rintro rule hcolon rfl
    rw [htakes (fun _ => false) fun finding hfinding =>
      (hplaced finding hfinding).isIgnoredBy_rule_relative hsome hnames hplain hcolon]
    exact List.filter_eq_self.mpr fun _ _ => rfl
  case full =>
    rintro rfl hplain hcolon
    have hfull := hroot.rooted.below fun step hstep => (hnames step hstep).slashless
    exact htakes _ fun finding hfinding => (hplaced finding hfinding).isIgnoredBy_full hfull
      (List.append_ne_nil_of_right_ne_nil _ hsome) hplain hcolon
  case ruleFull =>
    rintro rule hcolon rfl hplain hpath
    refine htakes _ fun finding _ => ?_
    rw [Bool.eq_iff_iff, isIgnoredBy_pair hcolon, Bool.and_eq_true, Bool.and_eq_true,
      Glob.accepts_iff_eq hplain, Glob.accepts_iff_eq hpath, beq_iff_eq, beq_iff_eq]

/-! ## A leak that is asked to be ignored

The project leaks the body of a request in its only file, and the ignore file has one line. -/

def ignoringEntries (line : String) : Table FileTree :=
  [(".privalyseignore", .file (line ++ "\n")), ("app.py", .file leakCode)]

def ignoringWorkspace (line : String) : Workspace :=
  { root := leakFile.parent, tree := .directory (ignoringEntries line) }

theorem ignoringEntries_isProper (line : String) :
    (FileTree.directory (ignoringEntries line)).IsProper := by
  refine .directory (by simp [ignoringEntries, Table.keys]) ?_ ?_
  · have hnames : FileTree.IsName ".privalyseignore" ∧ FileTree.IsName "app.py" := by decide
    simp [ignoringEntries, hnames]
  · simp [ignoringEntries, FileTree.IsProper.file]

theorem ignoringWorkspace_selected :
    ∀ line ∈ ["app.py", "AI_PII_LEAK:app.py"],
      selectedFiles { root := leakFile.parent } (ignoringWorkspace line) = .ok [leakFile] := by
  decide

/-- The path from the root is plain, and the leak is reported as without the line. -/
theorem leak_of_named_file_unchanged :
    StandsAt (ignoringEntries "app.py") (ignoringWorkspace "app.py") leakFile.parent ∧
      ∃ result others,
        ((ofConfig { root := leakFile.parent } (ignoringWorkspace "app.py")).scan
          (ignoringWorkspace "app.py")).2 = .ok result ∧
        (((ofConfig { root := leakFile.parent } (ignoringWorkspace "app.py")).without "app.py").scan
          (ignoringWorkspace "app.py")).2 = .ok others ∧
        result.findings = others.findings := by
  have hroot : StandsAt (ignoringEntries "app.py") (ignoringWorkspace "app.py") leakFile.parent :=
    ⟨by decide, rfl⟩
  obtain ⟨result, others, hresult, hothers, hrelative, _⟩ :=
    path_lines_hide_by_full_path_only { root := leakFile.parent } (ignoringWorkspace "app.py")
      [leakFile] (ignoringEntries "app.py") ["app.py"] leakCode hroot (ignoringEntries_isProper _)
      (ignoringWorkspace_selected _ List.mem_cons_self) rfl (by decide) (by decide) "app.py"
      (by decide)
  exact ⟨hroot, result, others, hresult, hothers,
    (hrelative (by decide)).2 (by decide)⟩

/-- The ignore file has the line and no other, and the scan reports the leak. -/
def LeakReportedWith (line : String) : Prop :=
  ignorePatternsIn (ignoringWorkspace line) leakFile.parent = [line] ∧
    ∃ result, ((ofConfig { root := leakFile.parent } (ignoringWorkspace line)).scan
        (ignoringWorkspace line)).2 = .ok result ∧
      (result.findingsIn leakFile).map (·.rule) = ["AI_PII_LEAK"]

/-- The ignore file names the file of the leak, alone or behind the rule of the leak. The leak is
reported all the same. -/
theorem leak_of_named_file_is_reported :
    LeakReportedWith "app.py" ∧ LeakReportedWith "AI_PII_LEAK:app.py" := by
  have hseen : ∀ line ∈ ["app.py", "AI_PII_LEAK:app.py"],
      ((ofConfig { root := leakFile.parent } (ignoringWorkspace line)).scan
        (ignoringWorkspace line)).2.toOption.map
          (fun result => (result.findingsIn leakFile).map (·.rule)) = some ["AI_PII_LEAK"] := by
    decide +kernel
  exact ⟨⟨by decide, Outcome.exists_of_seen (hseen _ (by simp))⟩,
    ⟨by decide, Outcome.exists_of_seen (hseen _ (by simp))⟩⟩

end Scanner

end PrivacyScan
