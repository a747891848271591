import PrivacyScan.Project.Selection
import PrivacyScan.Proofs.Outcome
import PrivacyScan.Proofs.Project.ModuleNames
import PrivacyScan.Proofs.Table

/-!
# Which files are scanned

A scan lists the files below its root and leaves out some of them. Without a limit to their number,
whether a file is scanned is a question about this file alone:

* **`Workspace.at?_below`** — what stands below a directory is found step by step from there;
* **`mem_filesIn_iff`** — the walk lists a file exactly when the steps to it lead through no ignored
  directory.

The paths of these files are told apart by their texts (**`IsBelow.eq_of_text_eq`**), and they are
full paths when the root is one (**`Workspace.resolve_eq_self`**).
-/

namespace PrivacyScan

/-! ## Paths below a path -/

namespace Path

variable {path base inside : Path} {steps : List String}

def below (path : Path) (steps : List String) : Path := { path with parts := path.parts ++ steps }

theorem below_cons (path : Path) (name : String) (steps : List String) :
    (path.below [name]).below steps = path.below (name :: steps) := by
  unfold below
  dsimp only
  rw [List.append_assoc]
  rfl

theorem join_below (working path : Path) (steps : List String) :
    working.join (path.below steps) = (working.join path).below steps := by
  unfold join
  show (if path.isAbsolute then _ else _) = _
  split
  · rfl
  · show ({ working with parts := working.parts ++ (path.parts ++ steps) } : Path) = _
    rw [← List.append_assoc]
    rfl

theorem relativeTo?_below (h : path.relativeTo? base = some inside) (steps : List String) :
    (path.below steps).relativeTo? base = some { parts := inside.parts ++ steps } := by
  unfold relativeTo? at *
  split at h
  · next hinside =>
    obtain ⟨hanchor, hprefix⟩ := Bool.and_eq_true_iff.mp hinside
    have hstart := List.isPrefixOf_iff_prefix.mp hprefix
    have hlonger : base.parts.isPrefixOf (path.parts ++ steps) = true :=
      List.isPrefixOf_iff_prefix.mpr (hstart.trans (List.prefix_append _ _))
    rw [← Option.some.inj h]
    show (if path.anchor == base.anchor && base.parts.isPrefixOf (path.parts ++ steps) then
      some ({ parts := (path.parts ++ steps).drop base.parts.length } : Path) else none) = _
    rw [hanchor, hlonger, List.drop_append_of_le_length hstart.length_le]
    rfl
  · cases h

theorem resolveParts_of_plain (hplain : ".." ∉ steps) (done : List String) :
    resolveParts done steps = done.reverse ++ steps := by
  induction steps generalizing done with
  | nil => rw [resolveParts, List.append_nil]
  | cons step rest ih =>
    obtain ⟨hstep, hrest⟩ := List.ne_and_not_mem_of_not_mem_cons hplain
    rw [resolveParts, ih hrest, List.reverse_cons, List.append_assoc]
    · rfl
    · exact fun heq => hstep heq.symm

theorem resolveParts_append (hplain : ".." ∉ steps) (done first : List String) :
    resolveParts done (first ++ steps) = resolveParts done first ++ steps := by
  fun_induction resolveParts done first with
  | case1 done => exact resolveParts_of_plain hplain done
  | case2 done rest ih => exact ih
  | case3 done part rest hpart ih =>
    rw [List.cons_append, resolveParts, ih]
    exact hpart

theorem resolved_below (hplain : ".." ∉ steps) (path : Path) :
    (path.below steps).resolved = path.resolved.below steps := by
  unfold resolved below
  dsimp only
  rw [resolveParts_append hplain]

end Path

/-! ## Trees of files -/

namespace FileTree

variable {tree inner : FileTree} {outer : List FileTree} {steps first : List String}

/-- A name that an entry of a directory can have: a path with this step leads to the entry. -/
structure IsName (name : String) : Prop where
  full : name ≠ ""
  plain : name ≠ ".."
  slashless : '/' ∉ name.toList

instance (name : String) : Decidable (IsName name) :=
  decidable_of_iff (name ≠ "" ∧ name ≠ ".." ∧ '/' ∉ name.toList)
    ⟨fun ⟨full, plain, slashless⟩ => ⟨full, plain, slashless⟩,
      fun h => ⟨h.full, h.plain, h.slashless⟩⟩

/-- A tree as a file system has it: the entries of a directory have different names. -/
inductive IsProper : FileTree → Prop where
  | file (content : String) : IsProper (.file content)
  | directory {entries : Table FileTree} (distinct : entries.keys.Nodup)
      (named : ∀ entry ∈ entries, IsName entry.1) (inner : ∀ entry ∈ entries, IsProper entry.2) :
      IsProper (.directory entries)

/-- What these steps down lead to. -/
def below? : FileTree → List String → Option FileTree
  | tree, [] => some tree
  | tree, name :: rest => (Table.get? tree.entries name).bind (below? · rest)

theorem walk_up (shown : String) (outer : List FileTree) (entries : List (String × FileTree))
    (rest : List String) :
    walk shown outer (.directory entries) (".." :: rest) =
      walk shown outer.tail (outer.head?.getD (.directory entries)) rest := by
  cases outer <;> rfl

theorem walk_down {name : String} (hname : name ≠ "..") (shown : String) (outer : List FileTree)
    (entries : List (String × FileTree)) (rest : List String) :
    walk shown outer (.directory entries) (name :: rest) =
      match Table.get? entries name with
      | some inner => walk shown (.directory entries :: outer) inner rest
      | none => .error (.missingFile shown) := by
  have hdown : ¬ (name == "..") = true := by
    rw [beq_iff_eq]
    exact hname
  rw [walk.eq_def]
  dsimp only
  rw [if_neg hdown]
  rfl

/-- A path is walked in two parts. -/
theorem walk_append {shown : String} (h : tree.walk shown outer first = .ok inner) (told : String)
    (rest : List String) :
    ∃ further, tree.walk told outer (first ++ rest) = inner.walk told further rest := by
  induction first generalizing tree outer with
  | nil =>
    rw [walk] at h
    rw [← Except.ok.inj h]
    exact ⟨outer, rfl⟩
  | cons name first ih =>
    cases tree with
    | file content =>
      rw [walk] at h
      cases h
    | directory entries =>
      rw [List.cons_append]
      by_cases hname : name = ".."
      · rw [hname, walk_up] at h
        rw [hname, walk_up]
        exact ih h
      · rw [walk_down hname] at h
        rw [walk_down hname]
        split at h
        · exact ih h
        · cases h

theorem toOption_walk (hplain : ".." ∉ steps) (shown : String) (outer : List FileTree) :
    (tree.walk shown outer steps).toOption = tree.below? steps := by
  induction steps generalizing tree outer with
  | nil => rfl
  | cons name rest ih =>
    obtain ⟨hname, hrest⟩ := List.ne_and_not_mem_of_not_mem_cons hplain
    cases tree with
    | file content => rfl
    | directory entries =>
      rw [walk_down hname.symm, below?]
      show _ = (Table.get? entries name).bind _
      cases Table.get? entries name with
      | none => rfl
      | some found => exact ih hrest _

theorem IsProper.of_get? {entries : Table FileTree} {name : String}
    (h : IsProper (.directory entries)) (hget : entries.get? name = some inner) :
    IsName name ∧ inner.IsProper := by
  cases h with
  | directory _ named inner =>
    exact ⟨named _ (Table.mem_of_get? hget), inner _ (Table.mem_of_get? hget)⟩

/-- What a walk in a proper tree comes to is proper. -/
theorem IsProper.of_walk {shown : String} (h : tree.IsProper)
    (houter : ∀ tree ∈ outer, tree.IsProper) (hwalk : tree.walk shown outer steps = .ok inner) :
    inner.IsProper := by
  induction steps generalizing tree outer with
  | nil =>
    rw [walk] at hwalk
    rw [← Except.ok.inj hwalk]
    exact h
  | cons name rest ih =>
    cases tree with
    | file content =>
      rw [walk] at hwalk
      cases hwalk
    | directory entries =>
      by_cases hname : name = ".."
      · -- up is one of the trees that the walk came through, or the root again
        rw [hname, walk_up] at hwalk
        cases outer with
        | nil => exact ih h houter hwalk
        | cons parent further =>
          obtain ⟨hparent, hfurther⟩ := List.forall_mem_cons.mp houter
          exact ih hparent hfurther hwalk
      · rw [walk_down hname] at hwalk
        split at hwalk
        · next found hfound =>
          exact ih (h.of_get? hfound).2 (List.forall_mem_cons.mpr ⟨h, houter⟩) hwalk
        · cases hwalk

theorem IsProper.isName_of_below? (h : tree.IsProper) (hbelow : tree.below? steps = some inner) :
    ∀ step ∈ steps, IsName step := by
  induction steps generalizing tree with
  | nil => nofun
  | cons name rest ih =>
    obtain ⟨found, hfound, hrest⟩ := Option.bind_eq_some_iff.mp hbelow
    cases tree with
    | file content => cases hfound
    | directory entries =>
      obtain ⟨hname, hproper⟩ := h.of_get? hfound
      exact List.forall_mem_cons.mpr ⟨hname, ih hproper hrest⟩

end FileTree

theorem Resolver.IsBelow.eq_below {root file : Path} (h : IsBelow root file) :
    file = root.below (stepsTo root file) := by
  cases file
  exact Path.mk.injEq .. ▸ ⟨h.anchor, h.parts⟩

namespace Workspace

open Resolver (IsBelow stepsTo)

variable {workspace : Workspace} {root file : Path} {tree : FileTree} {steps : List String}

theorem at?_below (h : workspace.find root = .ok tree) (hplain : ".." ∉ steps) :
    workspace.at? (root.below steps) = tree.below? steps := by
  unfold find at h
  split at h
  · next inside hinside =>
    obtain ⟨further, hwalk⟩ := FileTree.walk_append h (root.below steps).text steps
    unfold at? find
    rw [Path.join_below, Path.relativeTo?_below hinside]
    show (workspace.tree.walk _ [] (inside.parts ++ steps)).toOption = _
    rw [hwalk, FileTree.toOption_walk hplain]
  · cases h

theorem isProper_of_find (h : workspace.tree.IsProper) (hfind : workspace.find root = .ok tree) :
    tree.IsProper := by
  unfold find at hfind
  split at hfind
  · exact h.of_walk (by simp) hfind
  · cases hfind

theorem resolve_eq_self (hroot : workspace.resolve root = root) (hbelow : IsBelow root file)
    (hplain : ".." ∉ stepsTo root file) : workspace.resolve file = file := by
  rw [hbelow.eq_below]
  unfold resolve at *
  rw [Path.join_below, Path.resolved_below hplain, hroot]

end Workspace

/-- Files below the root are told apart by their texts. -/
theorem Resolver.IsBelow.eq_of_text_eq {root file other : Path} (h : IsBelow root file)
    (h' : IsBelow root other) (htext : file.text = other.text) : file = other := by
  have hparts {path : Path} (hbelow : IsBelow root path) :
      path.parts ≠ [] ∧
        path.parts.flatMap (Text.split · "/") =
          root.parts.flatMap (Text.split · "/") ++ stepsTo root path := by
    constructor
    · rw [hbelow.parts]
      exact fun hnil => hbelow.strict (List.append_eq_nil_iff.mp hnil).2
    · rw [hbelow.parts, List.flatMap_append,
        Text.flatMap_split_eq_self Text.slash_toList fun step hstep => (hbelow.normal step hstep).2]
  have htextOf {path : Path} (hbelow : IsBelow root path) :
      path.text = root.anchor ++ Text.join "/" path.parts := by
    have hsome : path.parts.isEmpty = false := by
      rw [List.isEmpty_eq_false_iff]
      exact (hparts hbelow).1
    unfold Path.text
    rw [hsome, Bool.and_false, hbelow.anchor]
    rfl
  rw [htextOf h, htextOf h', String.append_right_inj,
    Text.join_eq_join_iff Text.slash_toList (hparts h).1 (hparts h').1, (hparts h).2,
      (hparts h').2] at htext
  exact h.eq_of_stepsTo_eq h' (List.append_cancel_left htext)

/-! ## The walk through a project -/

namespace Project

open FileTree (IsProper)
open Resolver (IsBelow stepsTo)

variable {config : Config} {workspace : Workspace} {file place path : Path} {name content : String}
  {tree : FileTree} {entries : Table FileTree} {files : List Path}

/-- The steps lead through no directory that is left out. -/
def IsVisible (steps : List String) : Prop :=
  ∀ directory ∈ steps.dropLast, isIgnoredDirectory directory = false

/-- The file is at the end of these steps, which the walk takes. -/
structure IsListed (tree : FileTree) (steps : List String) (content : String) : Prop where
  found : tree.below? steps = some (.file content)
  visible : IsVisible steps

theorem filesIn_eq_flatMap (place : Path) (entries : List (String × FileTree)) :
    filesIn place entries = entries.flatMap fun entry => filesAt place entry.1 entry.2 := by
  induction entries with
  | nil => rw [filesIn, List.flatMap_nil]
  | cons entry rest ih => rw [filesIn, ih, List.flatMap_cons]

/-- The first step leads to an entry, and the others on from there. -/
theorem isListed_cons_iff {steps : List String} :
    IsListed (.directory entries) (name :: steps) content ↔
      ∃ inner, entries.get? name = some inner ∧ inner.below? steps = some (.file content) ∧
        IsVisible (name :: steps) := by
  constructor
  · rintro ⟨hfound, hvisible⟩
    obtain ⟨inner, hinner, hbelow⟩ := Option.bind_eq_some_iff.mp hfound
    exact ⟨inner, hinner, hbelow, hvisible⟩
  · rintro ⟨inner, hinner, hbelow, hvisible⟩
    exact ⟨Option.bind_eq_some_iff.mpr ⟨inner, hinner, hbelow⟩, hvisible⟩

theorem isVisible_cons_iff {steps : List String} (hsteps : steps ≠ []) :
    IsVisible (name :: steps) ↔ isIgnoredDirectory name = false ∧ IsVisible steps := by
  unfold IsVisible
  rw [List.dropLast_cons_of_ne_nil hsteps, List.forall_mem_cons]

theorem ne_nil_of_below? {steps : List String}
    (h : (FileTree.directory entries).below? steps = some (.file content)) : steps ≠ [] := by
  rintro rfl
  cases h

/-- The files of the entries are those of the directory, one step further. -/
theorem mem_filesIn_iff_of_entries (hdistinct : entries.keys.Nodup)
    (hentries : ∀ entry ∈ entries, (path, content) ∈ filesAt place entry.1 entry.2 ↔
      ∃ steps, path = place.below (entry.1 :: steps) ∧
        entry.2.below? steps = some (.file content) ∧ IsVisible (entry.1 :: steps)) :
    (path, content) ∈ filesIn place entries ↔
      ∃ steps, path = place.below steps ∧ IsListed (.directory entries) steps content := by
  rw [filesIn_eq_flatMap, List.mem_flatMap]
  constructor
  · rintro ⟨entry, hentry, hmem⟩
    obtain ⟨steps, hpath, hbelow, hvisible⟩ := (hentries entry hentry).mp hmem
    refine ⟨entry.1 :: steps, hpath, isListed_cons_iff.mpr ⟨entry.2, ?_, hbelow, hvisible⟩⟩
    exact (Table.get?_eq_some_iff hdistinct).mpr hentry
  · rintro ⟨steps, hpath, hlisted⟩
    cases steps with
    | nil =>
      -- no step at all leads to the directory itself
      cases hlisted.found
    | cons name steps =>
      obtain ⟨inner, hinner, hbelow, hvisible⟩ := isListed_cons_iff.mp hlisted
      have hentry := Table.mem_of_get? hinner
      exact ⟨_, hentry, (hentries _ hentry).mpr ⟨steps, hpath, hbelow, hvisible⟩⟩

/-- The files at an entry are those below it that no directory on the way leaves out. -/
theorem mem_filesAt_iff (h : tree.IsProper) :
    (path, content) ∈ filesAt place name tree ↔
      ∃ steps, path = place.below (name :: steps) ∧ tree.below? steps = some (.file content) ∧
        IsVisible (name :: steps) := by
  -- induction on the tree, for every place and name that it may have
  induction h generalizing place name with
  | file own =>
    rw [filesAt, List.mem_singleton, Prod.mk.injEq]
    constructor
    · rintro ⟨rfl, rfl⟩
      exact ⟨[], rfl, rfl, nofun⟩
    · rintro ⟨steps, hpath, hbelow, _⟩
      cases steps with
      | nil => exact ⟨hpath, (FileTree.file.inj (Option.some.inj hbelow)).symm⟩
      | cons step steps => cases hbelow
  | directory hdistinct hnamed hproper ih =>
    rw [filesAt]
    split
    · next hignored =>
      constructor
      · nofun
      · rintro ⟨steps, _, hbelow, hvisible⟩
        rw [((isVisible_cons_iff (ne_nil_of_below? hbelow)).mp hvisible).1] at hignored
        cases hignored
    · next hignored =>
      rw [mem_filesIn_iff_of_entries hdistinct fun entry hentry => ih entry hentry]
      have hopen : isIgnoredDirectory name = false := Bool.eq_false_iff.mpr hignored
      constructor
      · rintro ⟨steps, hpath, hfound, hvisible⟩
        exact ⟨steps, hpath.trans (place.below_cons name steps), hfound,
          (isVisible_cons_iff (ne_nil_of_below? hfound)).mpr ⟨hopen, hvisible⟩⟩
      · rintro ⟨steps, hpath, hfound, hvisible⟩
        exact ⟨steps, hpath.trans (place.below_cons name steps).symm, hfound,
          ((isVisible_cons_iff (ne_nil_of_below? hfound)).mp hvisible).2⟩

theorem mem_filesIn_iff (h : IsProper (.directory entries)) :
    (path, content) ∈ filesIn place entries ↔
      ∃ steps, path = place.below steps ∧ IsListed (.directory entries) steps content := by
  cases h with
  | directory hdistinct hnamed hproper =>
    exact mem_filesIn_iff_of_entries hdistinct fun entry hentry =>
      mem_filesAt_iff (hproper entry hentry)

/-! ## The files that are scanned -/

/-- Without a limit, exactly the files that are accepted are selected. -/
theorem mem_selectFrom_iff {listed : List (Path × String)}
    (h : selectFrom config none listed = .ok files) :
    file ∈ files ↔
      ∃ content, (file, content) ∈ listed ∧ isSelected config file content = .ok true := by
  induction listed generalizing files with
  | nil =>
    cases h
    simp
  | cons first rest ih =>
    obtain ⟨place, own⟩ := first
    obtain ⟨selected, hselected, h⟩ := Outcome.bind_eq_ok.mp h
    simp only [List.mem_cons, or_and_right, exists_or]
    cases selected with
    | false =>
      rw [ih h, or_iff_right]
      rintro ⟨content, heq, hfile⟩
      cases heq
      rw [hselected] at hfile
      cases hfile
    | true =>
      obtain ⟨others, hothers, h⟩ := Outcome.bind_eq_ok.mp h
      cases h
      rw [List.mem_cons, ih hothers]
      refine or_congr_left ⟨?_, ?_⟩
      · rintro rfl
        exact ⟨own, rfl, hselected⟩
      · rintro ⟨content, heq, _⟩
        exact (Prod.mk.inj heq).1

/-- A file that a scan looks at: it lies below the root and in no directory that is left out, and it
is selected by its place, its kind and its size. -/
structure IsScanned (config : Config) (workspace : Workspace) (file : Path) : Prop where
  below : IsBelow config.root file
  plain : ".." ∉ stepsTo config.root file
  visible : IsVisible (stepsTo config.root file)
  selected : ∃ content, workspace.at? file = some (.file content) ∧
    isSelected config file content = .ok true

theorem stepsTo_below (root : Path) (steps : List String) :
    stepsTo root (root.below steps) = steps :=
  List.drop_left

theorem isBelow_below {root : Path} {steps : List String} (hsome : steps ≠ [])
    (hnames : ∀ step ∈ steps, FileTree.IsName step) : IsBelow root (root.below steps) where
  anchor := rfl
  parts := by
    rw [stepsTo_below]
    rfl
  strict := by
    rw [stepsTo_below]
    exact hsome
  normal := by
    rw [stepsTo_below]
    exact fun step hstep => ⟨(hnames step hstep).full, (hnames step hstep).slashless⟩

/-- **Without a limit to their number, a file is scanned by its own place, kind and size.** -/
theorem mem_selectedFiles_iff (hlimit : config.maxFiles = none) (hproper : workspace.tree.IsProper)
    (hfiles : selectedFiles config workspace = .ok files) :
    file ∈ files ↔ IsScanned config workspace file := by
  unfold selectedFiles filesBelow at hfiles
  obtain ⟨listed, hlisted, hfiles⟩ := Outcome.bind_eq_ok.mp hfiles
  obtain ⟨tree, htree, hlisted⟩ := Outcome.bind_eq_ok.mp hlisted
  rw [hlimit] at hfiles
  have hroot := Workspace.isProper_of_find hproper htree
  cases tree with
  | file own => cases hlisted
  | directory entries =>
    cases hlisted
    rw [mem_selectFrom_iff hfiles]
    constructor
    · rintro ⟨content, hmem, hselected⟩
      obtain ⟨steps, rfl, hfound, hvisible⟩ := (mem_filesIn_iff hroot).mp hmem
      have hnames := hroot.isName_of_below? hfound
      have hplain : ".." ∉ steps := fun hup => (hnames _ hup).plain rfl
      refine ⟨isBelow_below (ne_nil_of_below? hfound) hnames, ?_, ?_, content, ?_, hselected⟩
      · rw [stepsTo_below]
        exact hplain
      · rw [stepsTo_below]
        exact hvisible
      · rw [Workspace.at?_below htree hplain, hfound]
    · rintro ⟨hbelow, hplain, hvisible, content, hcontent, hselected⟩
      rw [hbelow.eq_below, Workspace.at?_below htree hplain] at hcontent
      exact ⟨content,
        (mem_filesIn_iff hroot).mpr ⟨_, hbelow.eq_below, hcontent, hvisible⟩, hselected⟩

end Project

end PrivacyScan
