import PrivacyScan.Proofs.Project.Placement

/-!
# The files that are scanned, one by one and in order

The selection of files, against a specification that does not speak of the walk: by
**`filesIn_pairwise`** the walk lists the files of a tree in the order of `FileTree.Precedes`.
-/

namespace PrivacyScan

/-! ## Depth-first order -/

namespace FileTree

variable {tree inner : FileTree} {first second : List String}

/-- Depth first, one place comes before another: the steps to them part in a directory that lists
the step to the first one before the step to the second one. -/
inductive Precedes : FileTree → List String → List String → Prop where
  | parted {entries : Table FileTree} {name other : String} (first second : List String)
      (listed : entries.keys.idxOf name < entries.keys.idxOf other) :
      Precedes (.directory entries) (name :: first) (other :: second)
  | shared {entries : Table FileTree} {name : String} {inner : FileTree}
    {first second : List String}
      (entered : entries.get? name = some inner) (later : Precedes inner first second) :
      Precedes (.directory entries) (name :: first) (name :: second)

theorem Precedes.asymm (h : Precedes tree first second) : ¬ Precedes tree second first := by
  induction h with
  | parted first second listed =>
    rintro (⟨_, _, back⟩ | ⟨_, _⟩)
    · exact Nat.lt_asymm listed back
    · exact Nat.lt_irrefl _ listed
  | shared entered _ ih =>
    rintro (⟨_, _, back⟩ | ⟨again, later⟩)
    · exact Nat.lt_irrefl _ back
    · rw [entered] at again
      rw [← Option.some.inj again] at later
      exact ih later

end FileTree

namespace Project

open FileTree (IsProper Precedes)
open Resolver (stepsTo)

variable {config : Config} {workspace : Workspace} {patterns : List String} {place root : Path}
  {name : String} {tree : FileTree} {entries : Table FileTree} {steps : List String}

/-- The two paths lie below the place, and the first comes before the second. -/
def ListsBefore (place : Path) (tree : FileTree) (entry other : Path × String) : Prop :=
  ∃ first second, entry.1 = place.below first ∧ other.1 = place.below second ∧
    tree.Precedes first second

/-- Each entry lists its files in order, and all of them before those of a later entry. -/
theorem filesIn_pairwise_of_entries (hproper : IsProper (.directory entries))
    (hentries : ∀ entry ∈ entries,
      (filesAt place entry.1 entry.2).Pairwise (ListsBefore place (.directory entries))) :
    (filesIn place entries).Pairwise (ListsBefore place (.directory entries)) := by
  cases hproper with
  | directory hdistinct _ hinner =>
    rw [filesIn_eq_flatMap, List.pairwise_flatMap]
    refine ⟨hentries, (Table.pairwise_idxOf_keys hdistinct).imp_of_mem ?_⟩
    intro entry other hentry hother hlisted file hfile further hfurther
    obtain ⟨first, hfirst, _⟩ := (mem_filesAt_iff (hinner entry hentry)).mp hfile
    obtain ⟨second, hsecond, _⟩ := (mem_filesAt_iff (hinner other hother)).mp hfurther
    exact ⟨_, _, hfirst, hsecond, .parted first second hlisted⟩

/-- The files of one entry are listed in the order of the walk. -/
theorem filesAt_pairwise (h : tree.IsProper) (hname : entries.get? name = some tree) :
    (filesAt place name tree).Pairwise (ListsBefore place (.directory entries)) := by
  -- induction on the tree, for every directory that it may be an entry of
  induction h generalizing place name entries with
  | file content => exact List.pairwise_singleton ..
  | @directory inner hdistinct hnamed hproper ih =>
    rw [filesAt]
    split
    · exact .nil
    · have hinner : (filesIn (place.below [name]) inner).Pairwise
          (ListsBefore (place.below [name]) (.directory inner)) := by
        refine filesIn_pairwise_of_entries (.directory hdistinct hnamed hproper) fun entry hentry =>
          ?_
        exact ih entry hentry ((Table.get?_eq_some_iff hdistinct).mpr hentry)
      refine hinner.imp ?_
      rintro entry other ⟨first, second, hfirst, hsecond, hlater⟩
      rw [Path.below_cons] at hfirst hsecond
      exact ⟨_, _, hfirst, hsecond, .shared hname hlater⟩

theorem filesIn_pairwise (h : IsProper (.directory entries)) :
    (filesIn place entries).Pairwise (ListsBefore place (.directory entries)) := by
  refine filesIn_pairwise_of_entries h fun entry hentry => ?_
  cases h with
  | directory hdistinct _ hinner =>
    exact filesAt_pairwise (hinner entry hentry) ((Table.get?_eq_some_iff hdistinct).mpr hentry)

theorem chosen_pairwise (h : IsProper (.directory entries)) :
    (chosen config patterns root entries).Pairwise (Precedes (.directory entries)) := by
  unfold chosen
  rw [List.pairwise_map]
  refine ((filesIn_pairwise h).filter _).imp ?_
  rintro entry other ⟨first, second, hfirst, hsecond, hbefore⟩
  rw [hfirst, hsecond]
  exact hbefore

/-! ## The specification -/

/-- A file that is to be scanned, by the steps to it from the root. -/
structure IsWanted (config : Config) (patterns : List String) (tree : FileTree)
    (steps : List String) : Prop where
  /-- There is a file, and it is not too large. -/
  found : ∃ content, tree.below? steps = some (.file content) ∧
    (content.utf8ByteSize : Int) ≤ config.maxFileSize
  /-- No directory between the root and the file is hidden or one of those that are ignored. -/
  visible : ∀ directory ∈ steps.dropLast,
    directory.toList.head? ≠ some '.' ∧ directory ∉ ignoredDirectories
  /-- No pattern matches the full path. -/
  included : ∀ pattern ∈ patterns, Glob.accepts pattern (config.root.below steps).text = false
  /-- The name or the ending is one of those that are known. -/
  supported : (config.root.below steps).name ∈ config.containerFiles ∨
    (config.root.below steps).suffix ∈ config.pythonEndings ∨
    (config.root.below steps).suffix ∈ config.scriptEndings ∨
    (config.root.below steps).suffix ∈ config.settingEndings

/-- The files that are to be scanned, each once and depth first. -/
structure IsSelection (config : Config) (patterns : List String) (tree : FileTree)
    (files : List (List String)) : Prop where
  ordered : files.Pairwise tree.Precedes
  once : files.Nodup
  wanted (steps : List String) : steps ∈ files ↔ IsWanted config patterns tree steps

theorem IsSelection.unique {files others : List (List String)}
    (h : IsSelection config patterns tree files) (h' : IsSelection config patterns tree others) :
    others = files := by
  have hperm : others.Perm files := by
    rw [List.perm_ext_iff_of_nodup h'.once h.once]
    exact fun steps => (h'.wanted steps).trans (h.wanted steps).symm
  refine hperm.eq_of_pairwise (fun _ _ _ _ hbefore hafter => ?_) h'.ordered h.ordered
  exact absurd hafter hbefore.asymm

theorem isIgnoredDirectory_eq_false_iff :
    isIgnoredDirectory name = false ↔
      name.toList.head? ≠ some '.' ∧ name ∉ ignoredDirectories := by
  have hhidden : Text.startsWith name "." = true ↔ name.toList.head? = some '.' := by
    unfold Text.startsWith
    rw [List.isPrefixOf_iff_prefix]
    show ['.'] <+: name.toList ↔ _
    cases name.toList with
    | nil => simp
    | cons c rest => simp [eq_comm]
  unfold isIgnoredDirectory
  rw [Bool.or_eq_false_iff, ← Bool.not_eq_true, hhidden, List.contains_eq_mem,
    decide_eq_false_iff_not]

theorem isSupported_iff {file : Path} :
    isSupported config file = true ↔ file.name ∈ config.containerFiles ∨
      file.suffix ∈ config.pythonEndings ∨ file.suffix ∈ config.scriptEndings ∨
      file.suffix ∈ config.settingEndings := by
  simp [isSupported]

theorem isExcluded_eq_false_iff {path : Path} :
    isExcluded patterns path = false ↔ ∀ pattern ∈ patterns,
      Glob.accepts pattern path.text = false := by
  simp [isExcluded]

/-- What is left of the walk are the files that are to be scanned. -/
theorem mem_chosen_iff_isWanted (hproper : IsProper (.directory entries)) :
    steps ∈ chosen config patterns config.root entries ↔
      IsWanted config patterns (.directory entries) steps := by
  rw [mem_chosen_iff hproper]
  constructor
  · rintro ⟨content, ⟨hfound, hvisible⟩, hincluded, hcandidate⟩
    obtain ⟨hsupported, hsize⟩ := Bool.and_eq_true_iff.mp hcandidate
    rw [← isSupported_below config config.root (ne_nil_of_below? hfound)] at hsupported
    exact ⟨⟨content, hfound, of_decide_eq_true hsize⟩,
      fun directory hdirectory =>
        isIgnoredDirectory_eq_false_iff.mp (hvisible directory hdirectory),
      isExcluded_eq_false_iff.mp hincluded, isSupported_iff.mp hsupported⟩
  · rintro ⟨⟨content, hfound, hsize⟩, hvisible, hincluded, hsupported⟩
    refine ⟨content, ⟨hfound, fun directory hdirectory => ?_⟩,
      isExcluded_eq_false_iff.mpr hincluded, Bool.and_eq_true_iff.mpr ⟨?_, decide_eq_true hsize⟩⟩
    · exact isIgnoredDirectory_eq_false_iff.mpr (hvisible directory hdirectory)
    · rw [← isSupported_below config config.root (ne_nil_of_below? hfound)]
      exact isSupported_iff.mpr hsupported

theorem chosen_isSelection (hproper : IsProper (.directory entries)) :
    IsSelection config patterns (.directory entries)
      (chosen config patterns config.root entries) where
  ordered := chosen_pairwise hproper
  once := (chosen_pairwise hproper).imp fun hbefore heq => by
    subst heq
    exact hbefore.asymm hbefore
  wanted steps := mem_chosen_iff_isWanted hproper

/-- **A scan selects exactly the files that are to be scanned, each once and depth first.** There is
one list of them, and without a limit this list is selected; with a limit of at least one, its first
part of this length. -/
theorem selection_exact_and_ordered (config : Config) (patterns : List String)
    (hpatterns : config.excludePatterns = .texts patterns) (entries : Table FileTree)
    (hproper : (FileTree.directory entries).IsProper) (workspace : Workspace)
    (hfind : workspace.find config.root = .ok (.directory entries)) :
    ∃ files, IsSelection config patterns (.directory entries) files ∧
      (∀ others, IsSelection config patterns (.directory entries) others → others = files) ∧
      selectedFiles { config with maxFiles := none } workspace =
        .ok (files.map config.root.below) ∧
      ∀ limit : Int, 1 ≤ limit → selectedFiles { config with maxFiles := some limit } workspace =
        .ok ((files.map config.root.below).take limit.toNat) := by
  have hselection : IsSelection config patterns (.directory entries)
      (chosen config patterns config.root entries) := chosen_isSelection hproper
  have hselected (bound : Option Int) : selectedFiles { config with maxFiles := bound } workspace =
      .ok ((firstOf ((bound.filter (· != 0)).map fun limit => (limit - 1).toNat)
        (chosen config patterns config.root entries)).map config.root.below) :=
    selectedFiles_eq hpatterns hproper hfind
  refine ⟨_, hselection, fun others => hselection.unique, hselected none, fun limit hlimit => ?_⟩
  have hfilter : (some limit).filter (· != 0) = some limit := by
    rw [Option.filter_some_pos]
    rw [bne_iff_ne]
    omega
  have hcount : (limit - 1).toNat + 1 = limit.toNat := by omega
  rw [hselected, hfilter, ← List.map_take]
  show Except.ok (List.map _ (List.take ((limit - 1).toNat + 1) _)) = _
  rw [hcount]

/-! ## A directory before a file

The files below `app` come before `app.py`, though their paths are greater as texts. -/

def nestedEntries : Table FileTree :=
  [(".github", .directory [("ci.yml", .file "")]), ("Dockerfile", .file "FROM scratch\n"),
    ("app",
      .directory [("build", .directory [("out.py", .file "")]), ("main.py", .file "x = 1\n")]),
    ("app.py", .file ""), ("notes.txt", .file "")]

def nestedWorkspace : Workspace := { root := sitePlace, tree := .directory nestedEntries }

def nestedFiles : List (List String) := [["Dockerfile"], ["app", "main.py"], ["app.py"]]

theorem nestedEntries_isProper : (FileTree.directory nestedEntries).IsProper := by
  have hempty (name : String) (h : FileTree.IsName name) :
      (FileTree.directory [(name, .file "")]).IsProper :=
    .directory (List.pairwise_singleton _ _) (by simpa using h) (by simp [IsProper.file])
  have happ : (FileTree.directory
      [("build", .directory [("out.py", .file "")]), ("main.py", .file "x = 1\n")]).IsProper :=
    .directory (by decide) (by decide)
      (List.forall_mem_cons.mpr ⟨hempty _ (by decide), by simp [IsProper.file]⟩)
  refine .directory (by decide) (by decide) ?_
  simp only [nestedEntries, List.forall_mem_cons]
  exact ⟨hempty _ (by decide), .file _, happ, .file _, .file _, nofun⟩

/-- The limit keeps the files that the walk comes to first. -/
theorem nestedFiles_selected :
    (FileTree.directory nestedEntries).IsProper ∧
      nestedWorkspace.find sitePlace = .ok (.directory nestedEntries) ∧
      IsSelection { root := sitePlace } (standardExclusions.map (·.pattern))
        (.directory nestedEntries) nestedFiles ∧
      selectedFiles { root := sitePlace, maxFiles := some 2 } nestedWorkspace =
        .ok [sitePlace.below ["Dockerfile"], sitePlace.below ["app", "main.py"]] := by
  have hpatterns : ({ root := sitePlace } : Config).excludePatterns =
      .texts (standardExclusions.map (·.pattern)) :=
    congrArg Document.texts (by decide)
  obtain ⟨files, hselection, _, hall, hlimited⟩ :=
    selection_exact_and_ordered { root := sitePlace } _
    hpatterns nestedEntries nestedEntries_isProper nestedWorkspace rfl
  have hselected : selectedFiles { root := sitePlace } nestedWorkspace =
      .ok (nestedFiles.map sitePlace.below) := by
    decide
  have hfiles : files = nestedFiles := by
    have hmap := congrArg (List.map (stepsTo sitePlace)) (Except.ok.inj (hall.symm.trans hselected))
    simpa [Function.comp_def, stepsTo_below] using hmap
  rw [hfiles] at hselection hlimited
  exact ⟨nestedEntries_isProper, rfl, hselection, hlimited 2 (by decide)⟩

end Project

end PrivacyScan
