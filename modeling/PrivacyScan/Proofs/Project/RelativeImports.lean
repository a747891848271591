import PrivacyScan.Proofs.Project.Resolution

/-!
# Imports by a relative path

A script names the module it imports by a path without the ending of the file. The endings are tried
one after the other, but each of them in place of the ending that the path has itself: where the
last step of the path has dots in it, what follows the last one is lost.
-/

namespace PrivacyScan

/-! ## Names with an ending -/

namespace Path

/-- The name has an ending: a dot with something before it, and behind it something without dots. -/
def HasEnding (name : String) : Prop :=
  ∃ stem ending, name = stem ++ "." ++ ending ∧ stem ≠ "" ∧ ending ≠ "" ∧ '.' ∉ ending.toList

theorem suffixOf_append {stem ending : String} (hstem : stem ≠ "") (hending : ending ≠ "")
    (hfree : '.' ∉ ending.toList) : suffixOf (stem ++ "." ++ ending) = "." ++ ending := by
  unfold suffixOf
  rw [Text.cutLast?_append Resolver.dot_toList hfree]
  simp [hstem, hending]

/-- Where no dot parts the name in two, the suffix is empty. -/
theorem suffixOf_eq_empty {name : String} (h : ¬ HasEnding name) : suffixOf name = "" := by
  unfold suffixOf
  cases hcut : Text.cutLast? name "." with
  | none => rfl
  | some parts =>
    obtain ⟨stem, ending⟩ := parts
    dsimp only
    split
    · rfl
    · next hfull =>
      -- otherwise the two parts would show that there is an ending
      rw [Bool.or_eq_true, String.isEmpty_iff, String.isEmpty_iff, not_or] at hfull
      refine absurd ⟨stem, ending, ?_, hfull.1, hfull.2, ?_⟩ h
      · exact Text.eq_of_cutLast? Resolver.dot_toList hcut
      · exact Text.not_mem_of_cutLast? Resolver.dot_toList hcut

theorem hasEnding_iff {name : String} : HasEnding name ↔ suffixOf name ≠ "" := by
  refine ⟨?_, fun hsuffix => Classical.byContradiction fun h => hsuffix (suffixOf_eq_empty h)⟩
  rintro ⟨stem, ending, rfl, hstem, hending, hfree⟩
  rw [suffixOf_append hstem hending hfree]
  simp

instance (name : String) : Decidable (HasEnding name) := decidable_of_iff _ hasEnding_iff.symm

section Below

variable (base : Path) (last : String)

theorem name_below : (base.below [last]).name = last := by
  simp [name, below]

theorem parent_below : (base.below [last]).parent = base := by
  simp [parent, below]

theorem stem_below_of_not_hasEnding {last : String} (h : ¬ HasEnding last) :
    (base.below [last]).stem = last := by
  unfold stem suffix
  rw [name_below, suffixOf_eq_empty h]
  simp [Text.take, Text.length]

theorem stem_below_append {stem ending : String} (hstem : stem ≠ "") (hending : ending ≠ "")
    (hfree : '.' ∉ ending.toList) : (base.below [stem ++ "." ++ ending]).stem = stem := by
  unfold Path.stem suffix
  rw [name_below, suffixOf_append hstem hending hfree]
  simp [Text.take, Text.length]

end Below

/-! ## The last step of a path -/

/-- What stands behind the last slash of a path that is given as text. -/
def lastStep (text : String) : String := (Text.split text "/").getLast?.getD ""

/-- The last step is one that leads down: there is one, and it is not a dot or two. -/
structure LeadsDown (text : String) : Prop where
  full : lastStep text ≠ ""
  here : lastStep text ≠ "."
  up : lastStep text ≠ ".."

instance (text : String) : Decidable (LeadsDown text) :=
  decidable_of_iff (lastStep text ≠ "" ∧ lastStep text ≠ "." ∧ lastStep text ≠ "..")
    ⟨fun ⟨full, here, up⟩ => ⟨full, here, up⟩, fun h => ⟨h.full, h.here, h.up⟩⟩

theorem exists_split_eq (text : String) :
    ∃ front, Text.split text "/" = front ++ [lastStep text] := by
  have hsome : Text.split text "/" ≠ [] := Text.split_ne_nil Text.slash_toList text
  refine ⟨(Text.split text "/").dropLast, ?_⟩
  rw [lastStep, List.getLast?_eq_some_getLast hsome, Option.getD_some, List.dropLast_concat_getLast]

/-- What comes from the first dot on plays no part in the anchor. -/
theorem anchorOf_append (chars rest : List Char) :
    anchorOf (chars ++ '.' :: rest) = anchorOf chars := by
  -- three characters settle what the text starts with
  match chars with
  | [] => rfl
  | [first] => by_cases h : first = '/' <;> simp [anchorOf, h]
  | [first, second] =>
    by_cases h : first = '/' <;> by_cases h' : second = '/' <;> simp [anchorOf, h, h']
  | first :: second :: third :: more =>
    by_cases h : first = '/' <;> by_cases h' : second = '/' <;> by_cases h'' : third = '/' <;>
      simp [anchorOf, h, h', h'']

/-- The last step of a text is the last step of its path. -/
theorem ofText_eq {text last : String} {front : List String}
    (hsplit : Text.split text "/" = front ++ [last]) (hfull : last ≠ "") (hhere : last ≠ ".") :
    ofText text =
      below { anchor := anchorOf text.toList
              parts := front.filter fun part => part != "" && part != "." } [last] := by
  unfold ofText below
  rw [hsplit, List.filter_append]
  simp [hfull, hhere]

end Path

namespace Resolver

open PrivacyScan.Path (HasEnding LeadsDown lastStep)

theorem exists_of_mem_moduleEndings {ending : String} (h : ending ∈ moduleEndings) :
    ∃ first second rest, ending.toList = '.' :: first :: second :: rest ∧
      '/' ∉ ending.toList := by
  unfold moduleEndings at h
  simp only [List.mem_cons, List.not_mem_nil, or_false] at h
  rcases h with rfl | rfl | rfl | rfl | rfl <;> exact ⟨_, _, _, rfl, by decide⟩

theorem append_ne {last ending short : String} (hending : ending ∈ moduleEndings)
    (hshort : short.toList.length ≤ 2) : last ++ ending ≠ short := by
  rintro rfl
  obtain ⟨first, second, rest, hchars, -⟩ := exists_of_mem_moduleEndings hending
  rw [String.toList_append, hchars] at hshort
  simp only [List.length_append, List.length_cons] at hshort
  omega

/-- An ending that is added to an import is added to the last step of its path. -/
theorem importPath_append (module : Module) {text : String} (h : LeadsDown text) :
    ∃ base : Path, importPath module text = base.below [lastStep text] ∧
      ∀ ending ∈ moduleEndings,
        importPath module (text ++ ending) = base.below [lastStep text ++ ending] := by
  obtain ⟨front, hsplit⟩ := Path.exists_split_eq text
  let start : Path :=
    { anchor := Path.anchorOf text.toList
      parts := front.filter fun part => part != "" && part != "." }
  refine ⟨(module.path.parent.join start).resolved, ?_, fun ending hending => ?_⟩
  · unfold importPath Path.child
    rw [Path.ofText_eq hsplit h.full h.here, Path.join_below, Path.resolved_below]
    simpa using h.up.symm
  · obtain ⟨first, second, rest, hchars, hslash⟩ := exists_of_mem_moduleEndings hending
    -- an ending has no slash, so it only makes the last step longer
    have hlonger := Text.split_append Text.slash_toList hsplit hslash
    unfold importPath Path.child
    rw [Path.ofText_eq hlonger (append_ne hending (by decide)) (append_ne hending (by decide)),
      Path.join_below, Path.resolved_below, String.toList_append, hchars, Path.anchorOf_append]
    simpa using (append_ne hending (by decide)).symm

/-! ## Which file is found -/

/-- A file at this path has entered its module. -/
def IsAnalysed (resolver : Resolver) (path : Path) : Prop := path ∈ resolver.packages.map Prod.fst

instance (resolver : Resolver) (path : Path) : Decidable (resolver.IsAnalysed path) :=
  inferInstanceAs (Decidable (_ ∈ _))

variable {resolver : Resolver} {module : Module} {text ending name last : String}
  {before after : List String}

theorem IsConsistent.isAnalysed_of_isNamed (h : resolver.IsConsistent) {path : Path}
    (hnamed : resolver.IsNamed path name) : resolver.IsAnalysed path :=
  List.mem_map_of_mem (f := Prod.fst) (h.mem_packages_iff.mpr hnamed.2)

theorem child_index (path : Path) (h : ending ∈ moduleEndings) :
    path.child ("index" ++ ending) = path.below ["index" ++ ending] := by
  have hindex : ∀ ending ∈ moduleEndings,
      Path.ofText ("index" ++ ending) = { parts := ["index" ++ ending] } := by decide
  unfold Path.child
  rw [hindex ending h]
  rfl

/-- Tried are the path, the path with another ending, and the index of a directory. -/
theorem triedPaths_below (base : Path) (hfull : last ≠ "") :
    triedPaths (base.below [last]) =
      base.below [last] ::
        (moduleEndings.map (fun ending => base.below [(base.below [last]).stem ++ ending]) ++
          moduleEndings.map fun ending => base.below [last, "index" ++ ending]) := by
  unfold triedPaths
  rw [Path.name_below, if_neg hfull, Path.parent_below]
  congr 2
  refine List.map_congr_left fun ending hending => ?_
  rw [child_index _ hending, Path.below_cons]

/-- Where the last step has no ending, the endings are put behind it. -/
theorem leadsTo_of_no_ending (h : resolver.IsConsistent) (hdown : LeadsDown text)
    (hself : ¬ resolver.IsAnalysed (importPath module text))
    (hendings : moduleEndings = before ++ ending :: after)
    (hbefore : ∀ other ∈ before, ¬ resolver.IsAnalysed (importPath module (text ++ other)))
    (hfile : (importPath module (text ++ ending), name) ∈ resolver.packages)
    (hplain : ¬ HasEnding (lastStep text)) (hname : name ≠ "") :
    resolver.LeadsTo module text name := by
  obtain ⟨base, htarget, hbehind⟩ := importPath_append module hdown
  have hmem : ending ∈ moduleEndings := by simp [hendings]
  have hsooner (other : String) (hother : other ∈ before) : other ∈ moduleEndings := by
    simp [hendings, hother]
  -- the file itself and the endings before this one have been tried in vain
  have htried : moduleEndings.map (fun other => base.below [lastStep text ++ other]) =
      before.map (fun other => base.below [lastStep text ++ other]) ++
        base.below [lastStep text ++ ending] ::
          after.map fun other => base.below [lastStep text ++ other] := by
    rw [hendings, List.map_append, List.map_cons]
  refine ⟨base.below [lastStep text] ::
      before.map (fun other => base.below [lastStep text ++ other]),
    base.below [lastStep text ++ ending],
    after.map (fun other => base.below [lastStep text ++ other]) ++
      moduleEndings.map fun other => base.below [lastStep text, "index" ++ other], ?_, ?_, ?_⟩
  · rw [htarget, triedPaths_below base hdown.full, Path.stem_below_of_not_hasEnding base hplain,
      htried, List.append_assoc]
    rfl
  · rw [← hbehind ending hmem]
    exact ⟨hname, h.mem_packages_iff.mp hfile⟩
  · intro path hpath other hnamed
    have hanalysed := h.isAnalysed_of_isNamed hnamed
    rcases List.mem_cons.mp hpath with rfl | hpath
    · exact hself (htarget ▸ hanalysed)
    · obtain ⟨sooner, hsoon, rfl⟩ := List.mem_map.mp hpath
      rw [← hbehind sooner (hsooner sooner hsoon)] at hanalysed
      exact hbefore sooner hsoon hanalysed

theorem ne_of_mem_moduleEndings {other : String} (hother : other ∈ moduleEndings)
    (hending : ending ∈ moduleEndings) (lost : String) : other ≠ "." ++ lost ++ ending := by
  have hdots : ∀ ending ∈ moduleEndings, ending.toList.count '.' = 1 := by decide
  rintro rfl
  have hcount := hdots _ hother
  rw [String.toList_append, String.toList_append, List.count_append, List.count_append,
    hdots ending hending, dot_toList, List.count_singleton_self] at hcount
  omega

/-- Where the last step has an ending, this is lost, and nothing that is tried is the file. -/
theorem not_leadsTo_of_hasEnding (h : resolver.IsConsistent) (hdown : LeadsDown text)
    (hself : ¬ resolver.IsAnalysed (importPath module text)) (hending : ending ∈ moduleEndings)
    (hfile : (importPath module (text ++ ending), name) ∈ resolver.packages)
    (hhas : HasEnding (lastStep text)) : ¬ resolver.LeadsTo module text name := by
  rintro ⟨before, path, after, htried, hnamed, -⟩
  obtain ⟨base, htarget, hbehind⟩ := importPath_append module hdown
  obtain ⟨stem, lost, hlast, hstem, hlost, hfree⟩ := hhas
  -- the module of this name is that of the file, so the path that is found is the file's
  have hpath : path = base.below [lastStep text ++ ending] := by
    rw [← hbehind ending hending]
    exact h.injective _ _ name (h.mem_packages_iff.mpr hnamed.2) hfile
  have hmem : path ∈ triedPaths (base.below [lastStep text]) := by
    rw [← htarget, htried]
    simp
  rw [triedPaths_below base hdown.full, List.mem_cons, List.mem_append] at hmem
  rcases hmem with hsame | hreplaced | hindex
  · refine hself ?_
    rw [htarget, ← hsame]
    exact h.isAnalysed_of_isNamed hnamed
  · obtain ⟨other, hother, hsame⟩ := List.mem_map.mp hreplaced
    have hnames := congrArg Path.name (hsame.trans hpath)
    rw [Path.name_below, Path.name_below, hlast, Path.stem_below_append base hstem hlost hfree,
      String.append_assoc, String.append_assoc, String.append_right_inj, ← String.append_assoc]
      at hnames
    exact ne_of_mem_moduleEndings hother hending lost hnames
  · obtain ⟨other, hother, hsame⟩ := List.mem_map.mp hindex
    -- an index file lies one step further down
    have hlengths := congrArg (·.parts.length) (hsame.trans hpath)
    simp [Path.below] at hlengths

/-- **A relative import finds the file it names exactly when its last step has no ending of its
own**, and the module in the file has a name. The path leads down, and it names the file with an
ending behind it, the first one with which there is a file that was read; the path as it stands
names none. -/
theorem relative_import_found_iff_no_ending (root : Path) (readings : List Reading)
    {current : String} (hmodule : (readAll root readings).modules.get? current = some module)
    (hdown : LeadsDown text) (hself : ¬ (readAll root readings).IsAnalysed (importPath module text))
    (hendings : moduleEndings = before ++ ending :: after) (hbefore : ∀ other ∈ before,
      ¬ (readAll root readings).IsAnalysed (importPath module (text ++ other)))
    (hfile : (importPath module (text ++ ending), name) ∈ (readAll root readings).packages) :
    (readAll root readings).resolveRelative? text current = some name ↔
      ¬ HasEnding (lastStep text) ∧ name ≠ "" := by
  have h : (readAll root readings).IsConsistent := (readAll_isKnown root readings).isConsistent
  rw [resolveRelative?_eq_some_iff h hmodule]
  constructor
  · intro hleads
    have hending : ending ∈ moduleEndings := by simp [hendings]
    refine ⟨fun hhas => not_leadsTo_of_hasEnding h hdown hself hending hfile hhas hleads, ?_⟩
    obtain ⟨_, _, _, _, hnamed, _⟩ := hleads
    exact hnamed.1
  · rintro ⟨hplain, hname⟩
    exact leadsTo_of_no_ending h hdown hself hendings hbefore hfile hplain hname

/-! ## A service of users

`user.service.ts` stands beside `user.ts`, and `app.js` imports the one as well as the other. -/

def mailRoot : Path := { anchor := "/", parts := ["mail"] }

def mailReading (file : String) : Reading where
  workspace :=
    { root := mailRoot
      tree := .directory
        [("app.js", .file ""), ("user.service.ts", .file ""), ("user.ts", .file "")] }
  file := mailRoot.child file
  language := some .script

def mailReadings : List Reading :=
  [mailReading "app.js", mailReading "user.ts", mailReading "user.service.ts"]

def mailApp : Module where
  path := mailRoot.child "app.js"
  package := "app.js"

theorem mailApp_known :
    (readAll mailRoot mailReadings).modules.get? "app.js" = some mailApp := by decide

/-- The module is found under its ending, though the import has none. -/
theorem user_found :
    LeadsDown "./user" ∧
      (importPath mailApp ("./user" ++ ".ts"), "user.ts") ∈
        (readAll mailRoot mailReadings).packages ∧
      (readAll mailRoot mailReadings).resolveRelative? "./user" "app.js" = some "user.ts" := by
  have hfile : (importPath mailApp ("./user" ++ ".ts"), "user.ts") ∈
      (readAll mailRoot mailReadings).packages := by decide
  have hfound := relative_import_found_iff_no_ending mailRoot mailReadings mailApp_known
    (by decide) (by decide) rfl (List.forall_mem_nil _) hfile
  exact ⟨by decide, hfile, hfound.mpr (by decide)⟩

/-- The file `user.service.ts` was read, and no file `user.service`. But `.service` is taken for the
ending of the path, and another module is found. -/
theorem user_service_not_found :
    (readAll mailRoot mailReadings).modules.get? "app.js" = some mailApp ∧
      LeadsDown "./user.service" ∧
      ¬ (readAll mailRoot mailReadings).IsAnalysed (importPath mailApp "./user.service") ∧
      (importPath mailApp ("./user.service" ++ ".ts"), "user.service.ts") ∈
        (readAll mailRoot mailReadings).packages ∧
      (readAll mailRoot mailReadings).resolveRelative? "./user.service" "app.js" =
        some "user.ts" := by
  refine ⟨mailApp_known, ?_⟩
  decide

end Resolver

end PrivacyScan
