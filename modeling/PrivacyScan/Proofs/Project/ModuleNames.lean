import PrivacyScan.Project.Imports
import PrivacyScan.Proofs.Text

/-!
# Which files have the same module name

Below the root, a Python file is named by its path with dots and any other file by its path with
slashes. A dot may also stand in the name of a file or directory, and the file of a package has the
name of its directory. So names are not unique.
-/

namespace PrivacyScan.Resolver

variable {root file other : Path}

/-! ## Files below a root -/

def stepsTo (root file : Path) : List String := file.parts.drop root.parts.length

/-- The file lies strictly below the root. The steps to it are in normal form: none is empty and
none holds a slash. -/
structure IsBelow (root file : Path) : Prop where
  anchor : file.anchor = root.anchor
  parts : file.parts = root.parts ++ stepsTo root file
  strict : stepsTo root file ≠ []
  normal : ∀ step ∈ stepsTo root file, step ≠ "" ∧ '/' ∉ step.toList

instance (root file : Path) : Decidable (IsBelow root file) :=
  decidable_of_iff
    (file.anchor = root.anchor ∧ file.parts = root.parts ++ stepsTo root file ∧
      stepsTo root file ≠ [] ∧ ∀ step ∈ stepsTo root file, step ≠ "" ∧ '/' ∉ step.toList)
    ⟨fun ⟨anchor, parts, strict, normal⟩ => ⟨anchor, parts, strict, normal⟩,
      fun h => ⟨h.anchor, h.parts, h.strict, h.normal⟩⟩

namespace IsBelow

theorem relativeTo?_eq (h : IsBelow root file) :
    file.relativeTo? root = some { parts := stepsTo root file } := by
  have hprefix : root.parts.isPrefixOf file.parts = true := by
    rw [List.isPrefixOf_iff_prefix, h.parts]
    exact List.prefix_append _ _
  unfold Path.relativeTo?
  rw [h.anchor, hprefix]
  simp [stepsTo]

theorem eq_of_stepsTo_eq (h : IsBelow root file) (h' : IsBelow root other)
    (hsteps : stepsTo root file = stepsTo root other) : file = other := by
  have hanchor : file.anchor = other.anchor := h.anchor.trans h'.anchor.symm
  have hparts : file.parts = other.parts := by rw [h.parts, h'.parts, hsteps]
  cases file
  cases other
  exact Path.mk.injEq .. ▸ ⟨hanchor, hparts⟩

theorem stepsTo_eq (h : IsBelow root file) :
    stepsTo root file = (stepsTo root file).dropLast ++ [file.name] := by
  have hname : file.name = (stepsTo root file).getLast h.strict := by
    unfold Path.name
    rw [h.parts, List.getLast?_append, List.getLast?_eq_some_getLast h.strict]
    rfl
  rw [hname, List.dropLast_concat_getLast]

theorem name_normal (h : IsBelow root file) : file.name ≠ "" ∧ '/' ∉ file.name.toList := by
  refine h.normal file.name ?_
  rw [h.stepsTo_eq]
  simp

/-- A file lies directly below the root when there is only one step to it. -/
theorem parent_eq_root_iff (h : IsBelow root file) :
    file.parent = root ↔ stepsTo root file = [file.name] := by
  have hparts : file.parts.dropLast = root.parts ++ (stepsTo root file).dropLast := by
    rw [h.parts, List.dropLast_append_of_ne_nil h.strict]
  constructor
  · intro hparent
    have hnone : (stepsTo root file).dropLast = [] := by
      have hsame : file.parts.dropLast = root.parts := congrArg Path.parts hparent
      rw [hparts] at hsame
      simpa using hsame
    rw [h.stepsTo_eq, hnone]
    rfl
  · intro hsteps
    unfold Path.parent
    rw [hparts, hsteps, h.anchor]
    simp

end IsBelow

/-! ## The names between the dots -/

def moduleStem (file : Path) : String := Text.take (Text.length file.name - 3) file.name

/-- The steps to a Python module; that of a package is its directory. -/
def importSteps (root file : Path) : List String :=
  (stepsTo root file).dropLast ++ if moduleStem file == "__init__" then [] else [moduleStem file]

/-- The names between the dots of a module name. A file of another kind looks like a module only
directly below the root. -/
def importNames? (root file : Path) : Option (List String) :=
  if file.suffix == ".py" then some ((importSteps root file).flatMap (Text.split · "."))
  else if file.parent == root then some (Text.split file.name ".")
  else none

/-- Two files have the same names between the dots. -/
def SharesName (root file other : Path) : Prop :=
  (importNames? root file).isSome ∧ importNames? root other = importNames? root file

instance (root file other : Path) : Decidable (SharesName root file other) :=
  inferInstanceAs (Decidable (_ ∧ _))

theorem dot_toList : ".".toList = ['.'] := rfl

/-- A Python file is named by its stem and its ending. -/
theorem name_eq_of_suffix (h : file.suffix = ".py") :
    moduleStem file ≠ "" ∧ file.name = moduleStem file ++ ".py" := by
  unfold Path.suffix Path.suffixOf at h
  split at h
  · next stem ending hcut =>
    split at h
    · exact absurd h (by decide)
    · next hfull =>
      have hname : file.name = stem ++ ".py" := by
        rw [Text.eq_of_cutLast? dot_toList hcut, String.append_assoc, h]
      have hstem : moduleStem file = stem := by
        unfold moduleStem Text.take Text.length
        rw [hname]
        simp
      rw [hstem]
      refine ⟨fun hempty => hfull ?_, hname⟩
      rw [hempty]
      rfl
  · exact absurd h (by decide)

theorem importSteps_normal (h : IsBelow root file) (hsuffix : file.suffix = ".py") :
    ∀ step ∈ importSteps root file, step ≠ "" ∧ '/' ∉ step.toList := by
  obtain ⟨hstem, hname⟩ := name_eq_of_suffix hsuffix
  intro step hstep
  rcases List.mem_append.mp hstep with hdirectory | hfile
  · exact h.normal step ((List.dropLast_sublist _).subset hdirectory)
  · split at hfile
    · cases hfile
    · rw [List.mem_singleton.mp hfile]
      refine ⟨hstem, fun hslash => h.name_normal.2 ?_⟩
      rw [hname, String.toList_append]
      exact List.mem_append_left _ hslash

theorem packageName_of_python (h : IsBelow root file) (hsuffix : file.suffix = ".py") :
    packageName root file = Text.join "." (importSteps root file) := by
  unfold packageName
  rw [h.relativeTo?_eq, hsuffix]
  rfl

theorem packageName_of_other (h : IsBelow root file) (hsuffix : file.suffix ≠ ".py") :
    packageName root file = Text.join "/" (stepsTo root file) := by
  have hsome : (stepsTo root file).isEmpty = false := by
    rw [List.isEmpty_eq_false_iff]
    exact h.strict
  unfold packageName
  rw [h.relativeTo?_eq]
  simp [hsuffix, Path.text, hsome]

def dottedNames (name : String) : List String := if name = "" then [] else Text.split name "."

theorem join_dottedNames (name : String) : Text.join "." (dottedNames name) = name := by
  unfold dottedNames
  split
  · next hempty => rw [hempty]; rfl
  · exact Text.join_split dot_toList name

theorem dottedNames_join {steps : List String} (hfull : ∀ step ∈ steps, step ≠ "") :
    dottedNames (Text.join "." steps) = steps.flatMap (Text.split · ".") := by
  unfold dottedNames
  split
  · next hempty =>
    rw [(Text.join_eq_empty_iff dot_toList hfull).mp hempty]
    rfl
  · next hname =>
    refine Text.split_join dot_toList fun hnone => hname ?_
    rw [hnone]
    rfl

theorem slash_not_mem_of_python (h : IsBelow root file) (hsuffix : file.suffix = ".py") :
    '/' ∉ (packageName root file).toList := by
  rw [packageName_of_python h hsuffix]
  intro hslash
  rcases Text.of_mem_join dot_toList hslash with hdot | ⟨step, hstep, hmem⟩
  · exact absurd hdot (by decide)
  · exact (importSteps_normal h hsuffix step hstep).2 hmem

/-- The names between the dots can be read off a package name, unless this has a slash. -/
theorem importNames?_eq (h : IsBelow root file) :
    importNames? root file =
      if '/' ∈ (packageName root file).toList then none
      else some (dottedNames (packageName root file)) := by
  unfold importNames?
  by_cases hsuffix : file.suffix = ".py"
  · have hfull (step : String) (hstep : step ∈ importSteps root file) : step ≠ "" :=
      (importSteps_normal h hsuffix step hstep).1
    rw [if_pos (beq_iff_eq.mpr hsuffix), if_neg (slash_not_mem_of_python h hsuffix),
      packageName_of_python h hsuffix, dottedNames_join hfull]
  · rw [if_neg (by simpa using hsuffix), packageName_of_other h hsuffix]
    by_cases hparent : file.parent = root
    · obtain ⟨hfull, hfree⟩ := h.name_normal
      have hname : Text.join "/" (stepsTo root file) = file.name := by
        rw [h.parent_eq_root_iff.mp hparent]
        exact String.intercalate_singleton
      rw [if_pos (beq_iff_eq.mpr hparent), hname, if_neg hfree, dottedNames, if_neg hfull]
    · -- there is a directory between the root and the file
      have hslash : '/' ∈ (Text.join "/" (stepsTo root file)).toList := by
        match hsteps : stepsTo root file with
        | [] => exact absurd hsteps h.strict
        | [step] =>
          have hlast := h.stepsTo_eq
          rw [hsteps] at hlast
          exact absurd (h.parent_eq_root_iff.mpr (hsteps.trans hlast)) hparent
        | first :: second :: rest => exact Text.mark_mem_join Text.slash_toList first second rest
      rw [if_neg (by simpa using hparent), if_pos hslash]

theorem eq_of_slash_mem (h : IsBelow root file) (h' : IsBelow root other)
    (hslash : '/' ∈ (packageName root file).toList)
    (hname : packageName root file = packageName root other) : file = other := by
  have hsuffix : file.suffix ≠ ".py" := fun hpython => slash_not_mem_of_python h hpython hslash
  have hsuffix' : other.suffix ≠ ".py" := fun hpython =>
    slash_not_mem_of_python h' hpython (hname ▸ hslash)
  rw [packageName_of_other h hsuffix, packageName_of_other h' hsuffix',
    Text.join_eq_join_iff Text.slash_toList h.strict h'.strict,
    Text.flatMap_split_eq_self Text.slash_toList fun step hstep => (h.normal step hstep).2,
    Text.flatMap_split_eq_self Text.slash_toList fun step hstep =>
      (h'.normal step hstep).2] at hname
  exact h.eq_of_stepsTo_eq h' hname

/-- **Two files have one package name exactly when they have the same names between the dots.** -/
theorem packageName_eq_iff (h : IsBelow root file) (h' : IsBelow root other) (hne : file ≠ other) :
    packageName root file = packageName root other ↔ SharesName root file other := by
  unfold SharesName
  rw [importNames?_eq h, importNames?_eq h']
  constructor
  · intro hname
    -- with a slash in it the name would belong to one file only
    have hfree : '/' ∉ (packageName root file).toList := fun hslash =>
      hne (eq_of_slash_mem h h' hslash hname)
    rw [← hname, if_neg hfree]
    exact ⟨rfl, rfl⟩
  · rintro ⟨hsome, hnames⟩
    by_cases hslash : '/' ∈ (packageName root file).toList
    · rw [if_pos hslash] at hsome
      cases hsome
    · rw [if_neg hslash] at hnames
      split at hnames
      · cases hnames
      · rw [← join_dottedNames (packageName root file), ← Option.some.inj hnames, join_dottedNames]

end PrivacyScan.Resolver
