import PrivacyScan.Proofs.Glob
import PrivacyScan.Proofs.Project.Selection

/-!
# Where a project lies

The files of a project are listed from its root down, but the patterns that exclude some of them are
matched with full paths, which begin with the directories above the root. So the choice of files may
change with the place of the project:

* **`selectedFiles_eq`**, **`relativeFiles_eq`** — the files that are scanned, and their steps from
  the root.
-/

namespace PrivacyScan

/-! ## Names between slashes -/

namespace Path

def slashed (parts : List (List Char)) : List Char := parts.flatMap ('/' :: ·)

theorem slashed_cons (part : List Char) (parts : List (List Char)) :
    slashed (part :: parts) = '/' :: (part ++ slashed parts) := rfl

section Slashes

variable {part text rest name : List Char} {parts : List (List Char)}

theorem infix_append_iff (hpart : '/' ∉ part) :
    '/' :: text <:+: part ++ rest ↔ '/' :: text <:+: rest := by
  induction part with
  | nil => exact Iff.rfl
  | cons c part ih =>
    obtain ⟨hc, hpart⟩ := List.ne_and_not_mem_of_not_mem_cons hpart
    rw [List.cons_append, List.infix_cons_iff, ih hpart]
    exact or_iff_right fun hhere => hc (List.cons_prefix_cons.mp hhere).1

theorem suffix_append_iff (hpart : '/' ∉ part) :
    '/' :: text <:+ part ++ rest ↔ '/' :: text <:+ rest := by
  induction part with
  | nil => exact Iff.rfl
  | cons c part ih =>
    obtain ⟨hc, hpart⟩ := List.ne_and_not_mem_of_not_mem_cons hpart
    rw [List.cons_append, List.suffix_cons_iff, ih hpart]
    exact or_iff_right fun hhere => hc (List.cons.inj hhere).1

/-- A step and its slash begin a path only as its whole first step. -/
theorem prefix_slash_iff (hname : '/' ∉ name) (hpart : '/' ∉ part) :
    name ++ ['/'] <+: part ++ '/' :: rest ↔ name = part := by
  induction name generalizing part with
  | nil =>
    cases part with
    | nil => simp
    | cons d part =>
      have hd := (List.ne_and_not_mem_of_not_mem_cons hpart).1
      simp [hd]
  | cons c name ih =>
    obtain ⟨hc, hname⟩ := List.ne_and_not_mem_of_not_mem_cons hname
    cases part with
    | nil => simp [hc.symm]
    | cons d part =>
      have hpart := (List.ne_and_not_mem_of_not_mem_cons hpart).2
      rw [List.cons_append, List.cons_append, List.cons_prefix_cons, ih hname hpart,
        List.cons.injEq]

/-- A name between two slashes is a part that another one follows. -/
theorem infix_slashed_iff (hparts : ∀ part ∈ parts, '/' ∉ part) (hname : '/' ∉ name) :
    '/' :: (name ++ ['/']) <:+: slashed parts ↔ name ∈ parts.dropLast := by
  induction parts with
  | nil => simp [slashed]
  | cons part parts ih =>
    obtain ⟨hpart, hrest⟩ := List.forall_mem_cons.mp hparts
    rw [slashed_cons, List.infix_cons_iff, infix_append_iff hpart, ih hrest, List.cons_prefix_cons]
    cases parts with
    | nil =>
      -- one part has only one slash
      have hlast : ¬ name ++ ['/'] <+: part ++ slashed [] := by
        intro hhere
        have hmem : '/' ∈ part ++ slashed [] := hhere.subset (by simp)
        simp [slashed, hpart] at hmem
      simp [hlast]
    | cons next parts =>
      rw [slashed_cons, prefix_slash_iff hname hpart,
        List.dropLast_cons_of_ne_nil (List.cons_ne_nil _ _), List.mem_cons]
      simp

theorem suffix_slashed_iff (hparts : ∀ part ∈ parts, '/' ∉ part) (hname : '/' ∉ name) :
    '/' :: name <:+ slashed parts ↔ parts.getLast? = some name := by
  induction parts with
  | nil => simp [slashed]
  | cons part parts ih =>
    obtain ⟨hpart, hrest⟩ := List.forall_mem_cons.mp hparts
    rw [slashed_cons, List.suffix_cons_iff, suffix_append_iff hpart, ih hrest, List.cons.injEq]
    cases parts with
    | nil =>
      simp [slashed, eq_comm]
    | cons next parts =>
      have hlonger : name ≠ part ++ slashed (next :: parts) := by
        rintro rfl
        exact hname (by simp [slashed])
      simp [hlonger, List.getLast?_cons_cons]

end Slashes

/-- A path from the root of the file system, in normal form. -/
structure IsRooted (path : Path) : Prop where
  anchor : path.anchor = "/" ∨ path.anchor = "//"
  slashless : ∀ part ∈ path.parts, '/' ∉ part.toList

instance (path : Path) : Decidable path.IsRooted :=
  decidable_of_iff
    ((path.anchor = "/" ∨ path.anchor = "//") ∧ ∀ part ∈ path.parts, '/' ∉ part.toList)
    ⟨fun ⟨anchor, slashless⟩ => ⟨anchor, slashless⟩, fun h => ⟨h.anchor, h.slashless⟩⟩

namespace IsRooted

variable {path : Path} {name : String}

theorem below {steps : List String} (h : path.IsRooted)
    (hsteps : ∀ step ∈ steps, '/' ∉ step.toList) : (path.below steps).IsRooted :=
  ⟨h.anchor, fun part hpart => (List.mem_append.mp hpart).elim (h.slashless part) (hsteps part)⟩

/-- The text of a path has a slash before each part; two slashes at its start have an empty part
between them. -/
theorem toList_text (h : path.IsRooted) (hsome : path.parts ≠ []) :
    ∃ lead : List String, (lead = [] ∨ lead = [""]) ∧
      (∀ part ∈ (lead ++ path.parts).map String.toList, '/' ∉ part) ∧
      path.text.toList = slashed ((lead ++ path.parts).map String.toList) := by
  have hjoin : ∀ parts : List String, parts ≠ [] →
      '/' :: (Text.join "/" parts).toList = slashed (parts.map String.toList) := by
    intro parts
    rw [Text.toList_join Text.slash_toList]
    induction parts with
    | nil => exact fun hnone => absurd rfl hnone
    | cons part rest ih =>
      intro _
      cases rest with
      | nil => simp [slashed]
      | cons next rest =>
        have hrest := ih (List.cons_ne_nil _ _)
        rw [List.map_cons, List.map_cons, List.intercalate_cons_cons, ← List.map_cons,
          List.append_assoc, List.singleton_append, hrest]
        simp [slashed]
  have htext : path.text.toList = path.anchor.toList ++ (Text.join "/" path.parts).toList := by
    have hfull : path.parts.isEmpty = false := List.isEmpty_eq_false_iff.mpr hsome
    unfold Path.text
    rw [hfull, Bool.and_false, ← String.toList_append]
    rfl
  have hparts : ∀ part ∈ path.parts.map String.toList, '/' ∉ part :=
    List.forall_mem_map.mpr h.slashless
  -- two slashes at the start are an empty step before the others
  rcases h.anchor with hanchor | hanchor
  · refine ⟨[], .inl rfl, hparts, ?_⟩
    rw [htext, hanchor, List.nil_append, ← hjoin _ hsome]
    rfl
  · refine ⟨[""], .inr rfl, List.forall_mem_cons.mpr ⟨by decide, hparts⟩, ?_⟩
    rw [htext, hanchor, List.singleton_append, List.map_cons]
    show '/' :: '/' :: (Text.join "/" path.parts).toList = _
    rw [hjoin _ hsome]
    rfl

/-- The full path has the name between two slashes exactly when a directory on it has the name. -/
theorem infix_text_iff (h : path.IsRooted) (hsome : path.parts ≠ []) (hfull : name ≠ "")
    (hname : '/' ∉ name.toList) :
    '/' :: (name.toList ++ ['/']) <:+: path.text.toList ↔ name ∈ path.parts.dropLast := by
  obtain ⟨lead, hlead, hparts, htext⟩ := h.toList_text hsome
  have hmem (parts : List String) : name.toList ∈ parts.map String.toList ↔ name ∈ parts := by
    simp [List.mem_map, String.toList_inj]
  rw [htext, infix_slashed_iff hparts hname, ← List.map_dropLast, hmem,
    List.dropLast_append_of_ne_nil hsome, List.mem_append]
  rcases hlead with rfl | rfl
  · simp
  · simp [hfull]

/-- The full path ends in a slash and the name exactly when its last part is the name. -/
theorem suffix_text_iff (h : path.IsRooted) (hsome : path.parts ≠ []) (hname : '/' ∉ name.toList) :
    '/' :: name.toList <:+ path.text.toList ↔ path.parts.getLast? = some name := by
  obtain ⟨lead, _, hparts, htext⟩ := h.toList_text hsome
  have hlast : (lead ++ path.parts).getLast? = path.parts.getLast? := by
    rw [List.getLast?_append, List.getLast?_eq_some_getLast hsome]
    rfl
  rw [htext, suffix_slashed_iff hparts hname, List.getLast?_map, hlast]
  simp [String.toList_inj]

end IsRooted

end Path

/-! ## Patterns for names -/

namespace Project

open Outcome (Completes)
open Resolver (stepsTo)

/-- What a pattern of the usual kind excludes: all that is below the directories of a name, or the
files of a name. -/
inductive Exclusion where
  | directory (name : String)
  | file (name : String)
deriving Repr, DecidableEq

namespace Exclusion

def name : Exclusion → String
  | .directory name | .file name => name

def pattern : Exclusion → String
  | .directory name => "*" ++ ("/" ++ name ++ "/") ++ "*"
  | .file name => "*" ++ ("/" ++ name)

/-- The name is one that a file or directory can have, without the signs of patterns. -/
structure IsProper (exclusion : Exclusion) : Prop where
  full : exclusion.name ≠ ""
  slashless : '/' ∉ exclusion.name.toList
  plain : Glob.IsPlain exclusion.name

instance (exclusion : Exclusion) : Decidable exclusion.IsProper :=
  decidable_of_iff (exclusion.name ≠ "" ∧ '/' ∉ exclusion.name.toList ∧ Glob.IsPlain exclusion.name)
    ⟨fun ⟨full, slashless, plain⟩ => ⟨full, slashless, plain⟩,
      fun h => ⟨h.full, h.slashless, h.plain⟩⟩

/-- The steps lead through a directory of the name, or to a file of the name. -/
def Covers : Exclusion → List String → Prop
  | .directory name, steps => name ∈ steps.dropLast
  | .file name, steps => steps.getLast? = some name

/-- **A pattern for a name matches the full paths that have the name in its place.** -/
theorem accepts_pattern_iff {exclusion : Exclusion} (h : exclusion.IsProper) {path : Path}
    (hpath : path.IsRooted) (hsome : path.parts ≠ []) :
    Glob.accepts exclusion.pattern path.text = true ↔ exclusion.Covers path.parts := by
  have hslash : Glob.IsPlain "/" := by decide
  cases exclusion with
  | directory name =>
    have hplain : Glob.IsPlain ("/" ++ name ++ "/") := by
      simp only [Glob.isPlain_append_iff]
      exact ⟨⟨hslash, h.plain⟩, hslash⟩
    show Glob.accepts ("*" ++ ("/" ++ name ++ "/") ++ "*") path.text = true ↔
      name ∈ path.parts.dropLast
    have hfull : name ≠ "" := h.full
    have hslashless : '/' ∉ name.toList := h.slashless
    rw [Glob.accepts_runs_iff hplain, ← hpath.infix_text_iff hsome hfull hslashless]
    simp [String.toList_append]
  | file name =>
    have hplain : Glob.IsPlain ("/" ++ name) := Glob.isPlain_append_iff.mpr ⟨hslash, h.plain⟩
    show Glob.accepts ("*" ++ ("/" ++ name)) path.text = true ↔ path.parts.getLast? = some name
    have hslashless : '/' ∉ name.toList := h.slashless
    rw [Glob.accepts_run_iff hplain, ← hpath.suffix_text_iff hsome hslashless]
    simp [String.toList_append]

/-- Below a root, a file is covered by the directories above the root or by its own steps. -/
theorem covers_append_iff {exclusion : Exclusion} {parts steps : List String}
    (hsteps : steps ≠ []) :
    exclusion.Covers (parts ++ steps) ↔
      (∃ name ∈ parts, exclusion = .directory name) ∨ exclusion.Covers steps := by
  cases exclusion with
  | directory name =>
    show name ∈ (parts ++ steps).dropLast ↔ _ ∨ name ∈ steps.dropLast
    rw [List.dropLast_append_of_ne_nil hsteps, List.mem_append]
    simp
  | file name =>
    show (parts ++ steps).getLast? = some name ↔ _ ∨ steps.getLast? = some name
    rw [List.getLast?_append, List.getLast?_eq_some_getLast hsteps]
    simp

end Exclusion

/-! ## The walk through a project, wherever it lies -/

mutual

theorem filesAt_eq (place : Path) (name : String) (tree : FileTree) :
    filesAt place name tree =
      (filesAt {} name tree).map fun entry => (place.below entry.1.parts, entry.2) := by
  cases tree with
  | file content => rfl
  | directory entries =>
    rw [filesAt, filesAt]
    split
    · rfl
    · rw [filesIn_eq _ entries, filesIn_eq { parts := [] ++ [name] } entries, List.map_map]
      refine List.map_congr_left fun entry _ => ?_
      show ((place.below [name]).below entry.1.parts, entry.2) = _
      rw [Path.below_cons]
      rfl

theorem filesIn_eq (place : Path) (entries : List (String × FileTree)) :
    filesIn place entries =
      (filesIn {} entries).map fun entry => (place.below entry.1.parts, entry.2) := by
  cases entries with
  | nil => rfl
  | cons entry rest =>
    rw [filesIn, filesIn, List.map_append, filesAt_eq place, filesIn_eq place rest]

end

/-! ## The files that are scanned -/

variable {config : Config} {workspace : Workspace} {patterns : List String}
  {entries : Table FileTree} {root : Path} {steps : List String} {content : String}

def isExcluded (patterns : List String) (path : Path) : Bool :=
  patterns.any (Glob.accepts · path.text)

/-- A file that is scanned unless it is excluded: its kind and its size are right. -/
def isCandidate (config : Config) (steps : List String) (content : String) : Bool :=
  isSupported config { parts := steps } &&
    decide ((content.utf8ByteSize : Int) ≤ config.maxFileSize)

theorem matchesAnyGlob_texts (file : String) (patterns : List String) :
    matchesAnyGlob file (patterns.map .text) = .ok (patterns.any (Glob.accepts · file)) := by
  induction patterns with
  | nil => rfl
  | cons pattern rest ih =>
    rw [List.map_cons, matchesAnyGlob, ih, List.any_cons]
    cases Glob.accepts pattern file with
    | true => rfl
    | false => rfl

theorem isSupported_below (config : Config) (root : Path) (hsteps : steps ≠ []) :
    isSupported config (root.below steps) = isSupported config { parts := steps } := by
  have hname : (root.below steps).name = ({ parts := steps } : Path).name := by
    unfold Path.name Path.below
    dsimp only
    rw [List.getLast?_append, List.getLast?_eq_some_getLast hsteps]
    rfl
  unfold isSupported Path.suffix
  rw [hname]

theorem isSelected_below (hpatterns : config.excludePatterns = .texts patterns)
    (hsteps : steps ≠ []) (root : Path) (content : String) :
    isSelected config (root.below steps) content =
      .ok (!isExcluded patterns (root.below steps) && isCandidate config steps content) := by
  have hexcluded : (config.excludePatterns.elements).bind
      (matchesAnyGlob (root.below steps).text) = .ok (isExcluded patterns (root.below steps)) := by
    rw [hpatterns]
    exact matchesAnyGlob_texts _ patterns
  unfold isSelected isCandidate
  rw [hexcluded, isSupported_below config root hsteps]
  cases isExcluded patterns (root.below steps) with
  | true => rfl
  | false => rfl

def firstOf {α : Type} (more : Option Nat) (items : List α) : List α :=
  match more with
  | none => items
  | some more => items.take (more + 1)

theorem firstOf_map {α β : Type} (change : α → β) (more : Option Nat) (items : List α) :
    (firstOf more items).map change = firstOf more (items.map change) := by
  cases more with
  | none => rfl
  | some more => exact List.map_take

/-- A selection that never fails keeps the first of the files that it accepts. -/
theorem selectFrom_eq {listed : List (Path × String)} {keeps : Path × String → Bool}
    (hkeeps : ∀ entry ∈ listed, isSelected config entry.1 entry.2 = .ok (keeps entry))
    (more : Option Nat) :
    selectFrom config more listed = .ok (firstOf more ((listed.filter keeps).map (·.1))) := by
  induction listed generalizing more with
  | nil =>
    cases more with
    | none => rfl
    | some more => rfl
  | cons entry rest ih =>
    obtain ⟨file, content⟩ := entry
    obtain ⟨hfile, hrest⟩ := List.forall_mem_cons.mp hkeeps
    unfold selectFrom
    rw [hfile, Outcome.ok_bind]
    cases hkept : keeps (file, content) with
    | false =>
      rw [List.filter_cons_of_neg (by simp [hkept])]
      exact ih hrest more
    | true =>
      rw [List.filter_cons_of_pos hkept, List.map_cons]
      match more with
      | none =>
        rw [ih hrest none]
        rfl
      | some 0 => rfl
      | some (more + 1) =>
        show Bind.bind (selectFrom config (some more) rest) _ = _
        rw [ih hrest (some more)]
        rfl

/-- The files of a directory that are scanned below a root without a limit, by their steps from
it. -/
def chosen (config : Config) (patterns : List String) (root : Path) (entries : Table FileTree) :
    List (List String) :=
  ((filesIn {} entries).filter fun entry => !isExcluded patterns (root.below entry.1.parts) &&
    isCandidate config entry.1.parts entry.2).map (·.1.parts)

def relativeFiles (config : Config) (workspace : Workspace) : Outcome (List (List String)) :=
  List.map (stepsTo config.root) <$> selectedFiles config workspace

section Chosen

variable (hpatterns : config.excludePatterns = .texts patterns)
  (hproper : (FileTree.directory entries).IsProper)

include hpatterns hproper

/-- **The files that are scanned**: of all files that the walk comes to, those that are candidates
and not excluded, up to the limit. -/
theorem selectedFiles_eq (hfind : workspace.find config.root = .ok (.directory entries)) :
    selectedFiles config workspace =
      .ok ((firstOf ((config.maxFiles.filter (· != 0)).map fun limit => (limit - 1).toNat)
        (chosen config patterns config.root entries)).map config.root.below) := by
  have hsome : ∀ entry ∈ filesIn {} entries, entry.1.parts ≠ [] := by
    intro entry hentry
    obtain ⟨steps, hpath, hlisted⟩ := (mem_filesIn_iff hproper).mp hentry
    rw [hpath]
    exact ne_nil_of_below? hlisted.found
  have hkeeps : ∀ entry ∈ filesIn config.root entries, isSelected config entry.1 entry.2 =
      .ok (!isExcluded patterns entry.1 &&
        isCandidate config (stepsTo config.root entry.1) entry.2) := by
    intro entry hentry
    rw [filesIn_eq] at hentry
    obtain ⟨own, hown, rfl⟩ := List.mem_map.mp hentry
    rw [stepsTo_below]
    exact isSelected_below hpatterns (hsome own hown) config.root own.2
  have hbelow : filesBelow workspace config.root = .ok (filesIn config.root entries) := by
    unfold filesBelow
    rw [hfind]
    rfl
  unfold selectedFiles
  rw [hbelow, Outcome.ok_bind, selectFrom_eq hkeeps, filesIn_eq, List.filter_map, List.map_map,
    firstOf_map, chosen, List.map_map]
  simp only [Function.comp_def, stepsTo_below]

theorem relativeFiles_eq (hfind : workspace.find config.root = .ok (.directory entries)) :
    relativeFiles config workspace =
      .ok (firstOf ((config.maxFiles.filter (· != 0)).map fun limit => (limit - 1).toNat)
        (chosen config patterns config.root entries)) := by
  unfold relativeFiles
  rw [selectedFiles_eq hpatterns hproper hfind]
  show Except.ok (List.map _ (List.map _ _)) = _
  rw [List.map_map]
  simp only [Function.comp_def, stepsTo_below, List.map_id']

theorem relativeFiles_at (hfind : workspace.find root = .ok (.directory entries))
    (limit : Option Int) :
    relativeFiles { config with root, maxFiles := limit } workspace =
      .ok (firstOf ((limit.filter (· != 0)).map fun limit => (limit - 1).toNat)
        (chosen config patterns root entries)) :=
  relativeFiles_eq hpatterns hproper hfind

end Chosen

theorem mem_chosen_iff (hproper : (FileTree.directory entries).IsProper) :
    steps ∈ chosen config patterns root entries ↔
      ∃ content, IsListed (.directory entries) steps content ∧
        isExcluded patterns (root.below steps) = false ∧
          isCandidate config steps content = true := by
  unfold chosen
  simp only [List.mem_map, List.mem_filter, Bool.and_eq_true, Bool.not_eq_true']
  constructor
  · rintro ⟨⟨path, content⟩, ⟨hmem, hkept⟩, rfl⟩
    obtain ⟨own, rfl, hlisted⟩ := (mem_filesIn_iff hproper).mp hmem
    exact ⟨content, hlisted, hkept⟩
  · rintro ⟨content, hlisted, hkept⟩
    exact ⟨({ parts := steps }, content),
      ⟨(mem_filesIn_iff hproper).mpr ⟨steps, rfl, hlisted⟩, hkept⟩, rfl⟩

def SameExclusions (config : Config) (patterns : List String) (entries : Table FileTree)
    (root other : Path) : Prop :=
  ∀ steps content, IsListed (.directory entries) steps content →
    isCandidate config steps content = true →
    isExcluded patterns (root.below steps) = isExcluded patterns (other.below steps)

/-- **Two places choose alike exactly when the same files are excluded at both.** -/
theorem chosen_eq_iff (hproper : (FileTree.directory entries).IsProper) {other : Path} :
    chosen config patterns root entries = chosen config patterns other entries ↔
      SameExclusions config patterns entries root other := by
  constructor
  · intro heq steps content hlisted hcandidate
    have hchosen (place : Path) :
        steps ∈ chosen config patterns place entries ↔
          isExcluded patterns (place.below steps) = false := by
      rw [mem_chosen_iff hproper]
      constructor
      · rintro ⟨_, _, hkept, _⟩
        exact hkept
      · exact fun hkept => ⟨content, hlisted, hkept, hcandidate⟩
    have hsame := hchosen root
    rw [heq, hchosen other] at hsame
    rw [Bool.eq_iff_iff, ← Decidable.not_iff_not, Bool.not_eq_true, Bool.not_eq_true]
    exact hsame.symm
  · intro hsame
    refine congrArg (List.map _) (List.filter_congr fun entry hentry => ?_)
    obtain ⟨steps, hpath, hlisted⟩ := (mem_filesIn_iff hproper).mp hentry
    have hsteps : entry.1.parts = steps := by
      rw [hpath]
      rfl
    rw [hsteps]
    cases hcandidate : isCandidate config steps entry.2 with
    | false => rw [Bool.and_false, Bool.and_false]
    | true => rw [hsame steps entry.2 hlisted hcandidate]

/-- Below a root, patterns for names exclude all files when the root lies in a directory of a name,
and otherwise each file by its own steps. -/
theorem isExcluded_below_iff {exclusions : List Exclusion}
    (hexclusions : ∀ exclusion ∈ exclusions, exclusion.IsProper) (hroot : root.IsRooted)
    (hsome : steps ≠ []) (hsteps : ∀ step ∈ steps, '/' ∉ step.toList) :
    isExcluded (exclusions.map (·.pattern)) (root.below steps) = true ↔
      (∃ name ∈ root.parts, .directory name ∈ exclusions) ∨
        ∃ exclusion ∈ exclusions, exclusion.Covers steps := by
  have hparts : (root.below steps).parts ≠ [] := List.append_ne_nil_of_right_ne_nil _ hsome
  have hcovers : isExcluded (exclusions.map (·.pattern)) (root.below steps) = true ↔
      ∃ exclusion ∈ exclusions, exclusion.Covers (root.parts ++ steps) := by
    unfold isExcluded
    rw [List.any_map, List.any_eq_true]
    refine exists_congr fun exclusion => and_congr_right fun hmem => ?_
    exact Exclusion.accepts_pattern_iff (hexclusions exclusion hmem) (hroot.below hsteps) hparts
  rw [hcovers]
  constructor
  · rintro ⟨exclusion, hmem, hcovers⟩
    rcases (Exclusion.covers_append_iff hsome).mp hcovers with ⟨name, hname, rfl⟩ | hown
    · exact .inl ⟨name, hname, hmem⟩
    · exact .inr ⟨exclusion, hmem, hown⟩
  · rintro (⟨name, hname, hmem⟩ | ⟨exclusion, hmem, hown⟩)
    · exact ⟨_, hmem, (Exclusion.covers_append_iff hsome).mpr (.inl ⟨name, hname, rfl⟩)⟩
    · exact ⟨exclusion, hmem, (Exclusion.covers_append_iff hsome).mpr (.inr hown)⟩

section Names

variable {exclusions : List Exclusion} (hproper : (FileTree.directory entries).IsProper)
  (hexclusions : ∀ exclusion ∈ exclusions, exclusion.IsProper)

include hproper hexclusions

theorem isExcluded_listed_iff (hroot : root.IsRooted)
    (hlisted : IsListed (.directory entries) steps content) :
    isExcluded (exclusions.map (·.pattern)) (root.below steps) = true ↔
      (∃ name ∈ root.parts, .directory name ∈ exclusions) ∨
        ∃ exclusion ∈ exclusions, exclusion.Covers steps :=
  isExcluded_below_iff hexclusions hroot (ne_nil_of_below? hlisted.found)
    fun step hstep => (hproper.isName_of_below? hlisted.found step hstep).slashless

/-- Two roots are alike to the patterns when no directory above them has one of the names. -/
theorem sameExclusions_of_neutral {other : Path} (hroot : root.IsRooted) (hother : other.IsRooted)
    (hneutral : ∀ name, .directory name ∈ exclusions → name ∉ root.parts ∧ name ∉ other.parts) :
    SameExclusions config (exclusions.map (·.pattern)) entries root other := by
  intro steps content hlisted _
  rw [Bool.eq_iff_iff, isExcluded_listed_iff hproper hexclusions hroot hlisted,
    isExcluded_listed_iff hproper hexclusions hother hlisted]
  refine or_congr_left (iff_of_false ?_ ?_)
  · rintro ⟨name, hname, hmem⟩
    exact (hneutral name hmem).1 hname
  · rintro ⟨name, hname, hmem⟩
    exact (hneutral name hmem).2 hname

theorem chosen_eq_nil {name : String} (hroot : root.IsRooted) (hname : name ∈ root.parts)
    (hmem : .directory name ∈ exclusions) :
    chosen config (exclusions.map (·.pattern)) root entries = [] := by
  refine List.eq_nil_iff_forall_not_mem.mpr fun steps hsteps => ?_
  obtain ⟨content, hlisted, hkept, _⟩ := (mem_chosen_iff hproper).mp hsteps
  rw [(isExcluded_listed_iff hproper hexclusions hroot hlisted).mpr
    (.inl ⟨name, hname, hmem⟩)] at hkept
  cases hkept

end Names

/-- The directory stands at this full path. -/
structure StandsAt (entries : Table FileTree) (workspace : Workspace) (root : Path) : Prop where
  rooted : root.IsRooted
  found : workspace.find root = .ok (.directory entries)

/-- **The place of a project changes the choice of its files only through the patterns.** The same
directory stands at two places. Both selections complete, and without a limit they agree exactly
when every candidate is excluded at both places or at none; then they agree under every limit. With
patterns for names that is so where no directory above the project has one of the names; where one
has, nothing is selected. -/
theorem same_selection_iff_same_exclusions (config : Config) (patterns : List String)
    (hpatterns : config.excludePatterns = .texts patterns) (entries : Table FileTree)
    (hproper : (FileTree.directory entries).IsProper) (first second : Workspace) (root other : Path)
    (hroot : StandsAt entries first root) (hother : StandsAt entries second other) :
    (∀ limit, Completes (relativeFiles { config with root, maxFiles := limit } first) ∧
      Completes (relativeFiles { config with root := other, maxFiles := limit } second)) ∧
    (relativeFiles { config with root, maxFiles := none } first =
        relativeFiles { config with root := other, maxFiles := none } second ↔
      SameExclusions config patterns entries root other) ∧
    (SameExclusions config patterns entries root other →
      ∀ limit, relativeFiles { config with root, maxFiles := limit } first =
        relativeFiles { config with root := other, maxFiles := limit } second) ∧
    ∀ exclusions : List Exclusion, (∀ exclusion ∈ exclusions, exclusion.IsProper) →
      patterns = exclusions.map (·.pattern) →
      ((∀ name, .directory name ∈ exclusions → name ∉ root.parts ∧ name ∉ other.parts) →
        SameExclusions config patterns entries root other) ∧
      ∀ name ∈ root.parts, .directory name ∈ exclusions →
        ∀ limit, relativeFiles { config with root, maxFiles := limit } first = .ok [] := by
  have hfirst := relativeFiles_at hpatterns hproper hroot.found
  have hsecond := relativeFiles_at hpatterns hproper hother.found
  refine ⟨fun limit => ⟨⟨_, hfirst limit⟩, ⟨_, hsecond limit⟩⟩, ?unlimited, ?limited, ?names⟩
  case unlimited =>
    rw [hfirst, hsecond, ← chosen_eq_iff hproper]
    exact ⟨Except.ok.inj, congrArg Except.ok⟩
  case limited =>
    intro hsame limit
    rw [hfirst, hsecond, (chosen_eq_iff hproper).mpr hsame]
  case names =>
    rintro exclusions hexclusions rfl
    refine ⟨sameExclusions_of_neutral hproper hexclusions hroot.rooted hother.rooted,
      fun name hname hmem limit => ?_⟩
    rw [hfirst, chosen_eq_nil hproper hexclusions hroot.rooted hname hmem]
    cases limit.filter (· != 0) with
    | none => rfl
    | some limit => rfl

/-! ## One project at three places -/

def standardExclusions : List Exclusion :=
  ["node_modules", "venv", "env", ".venv", "dist", "build", "__pycache__", ".git", "site-packages",
    "demo_stage"].map .directory ++ [.file "scan_results.json"]

def siteEntries : Table FileTree :=
  [("app.py", .file "x = 1\n"), ("dist", .directory [("app.js", .file "")]),
    ("scan_results.json", .file "\x7b\x7d")]

/-- The project as the only directory of a file system. -/
def siteAt (root : Path) : Workspace := { root, tree := .directory siteEntries }

def sitePlace : Path := { anchor := "/", parts := ["srv", "site"] }

def homePlace : Path := { anchor := "/", parts := ["home", "me", "site"] }

def buildPlace : Path := { anchor := "/", parts := ["srv", "build", "site"] }

theorem siteEntries_isProper : (FileTree.directory siteEntries).IsProper := by
  refine .directory (by decide) (by decide) ?_
  simp only [siteEntries, List.forall_mem_cons]
  exact ⟨.file _, .directory (by decide) (by decide) (by simp [FileTree.IsProper.file]),
    .file _, nofun⟩

/-- Two neutral places, at which the same files are selected. -/
theorem site_selected_alike_at_neutral_places :
    StandsAt siteEntries (siteAt sitePlace) sitePlace ∧
      StandsAt siteEntries (siteAt homePlace) homePlace ∧
      ∀ limit, relativeFiles { root := sitePlace, maxFiles := limit } (siteAt sitePlace) =
        relativeFiles { root := homePlace, maxFiles := limit } (siteAt homePlace) := by
  have hsite : StandsAt siteEntries (siteAt sitePlace) sitePlace := ⟨by decide, rfl⟩
  have hhome : StandsAt siteEntries (siteAt homePlace) homePlace := ⟨by decide, rfl⟩
  have hpatterns : ({ root := sitePlace } : Config).excludePatterns =
      .texts (standardExclusions.map (·.pattern)) :=
    congrArg Document.texts (by decide)
  obtain ⟨_, _, hlimits, hnames⟩ :=
    same_selection_iff_same_exclusions { root := sitePlace } _ hpatterns
    siteEntries siteEntries_isProper (siteAt sitePlace)
      (siteAt homePlace) sitePlace homePlace hsite hhome
  have hneutral : ∀ exclusion ∈ standardExclusions,
      exclusion.name ∉ sitePlace.parts ∧ exclusion.name ∉ homePlace.parts := by
    decide
  exact ⟨hsite, hhome, hlimits ((hnames standardExclusions (by decide) rfl).1
    fun name hmem => hneutral _ hmem)⟩

/-- Below a directory of the name `build` the same project has no file to scan. -/
theorem site_not_selected_below_build :
    relativeFiles { root := sitePlace } (siteAt sitePlace) = .ok [["app.py"]] ∧
      StandsAt siteEntries (siteAt buildPlace) buildPlace ∧
      relativeFiles { root := buildPlace } (siteAt buildPlace) = .ok [] :=
  ⟨by decide, ⟨by decide, rfl⟩, by decide⟩

end Project

end PrivacyScan
