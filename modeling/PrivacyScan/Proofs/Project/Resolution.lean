import Mathlib.Data.List.Induction
import PrivacyScan.Proofs.Project.ModuleEntries
import PrivacyScan.Proofs.Project.Selection

/-!
# What a resolver knows of the modules it has read

A resolver reads one file after the other and keeps two tables: the modules under their names, and
the name of the module at each path. The first file of a name enters its module in both tables, and
any further file of the name in none:

* **`readOne_eq`**, **`readAll_isKnown`** — what one file adds, and what is known after all files;
* **`IsKnown.isConsistent`** — so the two tables tell the same, in both directions;
* **`resolveRelative?_eq_some_iff`** — a relative path stands for the first of some paths that is
  the place of a module with a name.
-/

namespace PrivacyScan

namespace Resolver

/-! ## Reading files -/

/-- A file that is to be read in some language, or in none, from the files as they stand then. -/
structure Reading where
  workspace : Workspace
  file : Path
  language : Option Language

namespace Reading

variable (root : Path) (reading : Reading)

def path : Path := reading.workspace.resolve reading.file

/-- The name of the module in the file. -/
def name : String := packageName root reading.path

/-- The module that is read from the file where no module is known. -/
def module : Module :=
  (analyze { root } reading.workspace reading.file reading.language).2

end Reading

def readOne (resolver : Resolver) (reading : Reading) : Resolver :=
  (resolver.analyze reading.workspace reading.file reading.language).1

def readAll (root : Path) (readings : List Reading) : Resolver :=
  readings.foldl readOne { root }

variable {resolver : Resolver} {root path : Path} {readings : List Reading} {reading : Reading}
  {module : Module} {name current symbol : String}

theorem readAll_concat (root : Path) (readings : List Reading) (reading : Reading) :
    readAll root (readings ++ [reading]) = (readAll root readings).readOne reading := by
  unfold readAll
  rw [List.foldl_append]
  rfl

theorem readOne_eq_self {known : Module}
    (h : resolver.modules.get? (reading.name resolver.root) = some known) :
    resolver.readOne reading = resolver := by
  unfold Reading.name Reading.path at h
  unfold readOne analyze
  dsimp only
  rw [h]

/-- The first file of a name enters its module in both tables. -/
theorem readOne_eq (h : resolver.modules.get? (reading.name resolver.root) = none) :
    resolver.readOne reading =
      { resolver with
        modules := resolver.modules.set (reading.name resolver.root)
          (reading.module resolver.root)
        packages := resolver.packages ++ [(reading.path, reading.name resolver.root)] } := by
  unfold Reading.name Reading.path at *
  unfold readOne analyze
  dsimp only
  rw [h]
  rfl

/-- What is read from a file is empty, or it is what its code says. -/
theorem module_cases (root : Path) (reading : Reading) :
    reading.module root = { path := reading.path, package := reading.name root } ∨
      ∃ language code, reading.module root =
        readModule { path := reading.path, package := reading.name root } language code := by
  unfold Reading.module analyze
  dsimp only
  rw [show Table.get? ([] : Table Module) _ = none from rfl]
  dsimp only
  split
  · next language code _ _ => exact .inr ⟨language, code, rfl⟩
  · exact .inl rfl

theorem module_path (root : Path) (reading : Reading) :
    (reading.module root).path = reading.path := by
  rcases module_cases root reading with h | ⟨language, code, h⟩
  · rw [h]
  · rw [h, readModule_path]

theorem module_package (root : Path) (reading : Reading) :
    (reading.module root).package = reading.name root := by
  rcases module_cases root reading with h | ⟨language, code, h⟩
  · rw [h]
  · rw [h, readModule_package]

/-- Every import gives at least one symbol, so its source is that of a symbol. -/
theorem exists_mem_symbolsOf_iff {imported : Import} {source : String} :
    (∃ symbol ∈ symbolsOf imported, symbol.source = source) ↔ imported.source = source := by
  unfold symbolsOf
  split
  · simp
  · next hnames =>
    obtain ⟨name, hname⟩ := List.exists_mem_of_ne_nil _ (by simpa using hnames)
    constructor
    · rintro ⟨symbol, hsymbol, rfl⟩
      obtain ⟨_, _, rfl⟩ := List.mem_map.mp hsymbol
      rfl
    · rintro rfl
      exact ⟨_, List.mem_map_of_mem hname, rfl⟩

def DependsOnSources (module : Module) : Prop :=
  ∀ source, source ∈ module.dependencies ↔ ∃ imported ∈ module.imports, imported.source = source

/-- The dependencies of a module are the sources of its imports. -/
theorem module_dependsOnSources (root : Path) (reading : Reading) :
    DependsOnSources (reading.module root) := by
  intro source
  rcases module_cases root reading with h | ⟨language, code, h⟩
  · rw [h]
    simp
  · rw [h, readModule]
    split
    · simp
    · next imports _ =>
      dsimp only
      rw [Text.mem_sortedDistinct, List.mem_map]
      simp only [List.mem_flatMap, ← @exists_mem_symbolsOf_iff _ source]
      constructor
      · rintro ⟨imported, himported, symbol, hsymbol, hsource⟩
        exact ⟨symbol, ⟨imported, himported, hsymbol⟩, hsource⟩
      · rintro ⟨symbol, ⟨imported, himported, hsymbol⟩, hsource⟩
        exact ⟨imported, himported, symbol, hsymbol, hsource⟩

/-! ## The two tables -/

/-- What a resolver knows after these files: under each name the module of the first file that has
it, and each of these modules also at its path. -/
structure IsKnown (root : Path) (readings : List Reading) (resolver : Resolver) : Prop where
  rooted : resolver.root = root
  modules : ∀ name, resolver.modules.get? name =
    (readings.find? (·.name root == name)).map (·.module root)
  distinct : resolver.modules.keys.Nodup
  inStep : resolver.packages = resolver.modules.map fun entry => (entry.2.path, entry.1)

namespace IsKnown

/-- **What is known stays known, and one more file becomes known.** -/
theorem readOne (h : IsKnown root readings resolver) (reading : Reading) :
    IsKnown root (readings ++ [reading]) (resolver.readOne reading) := by
  obtain ⟨rfl, hmodules, hdistinct, hinStep⟩ := h
  have hfind (name : String) : (readings ++ [reading]).find? (·.name resolver.root == name) =
      (readings.find? (·.name resolver.root == name)).or
        (if reading.name resolver.root == name then some reading else none) := by
    rw [List.find?_append, List.find?_singleton]
  cases hknown : resolver.modules.get? (reading.name resolver.root) with
  | some known =>
    rw [readOne_eq_self hknown]
    refine ⟨rfl, fun name => ?_, hdistinct, hinStep⟩
    rw [hmodules name, hfind]
    split
    · next hname =>
      -- an earlier file has the name
      rw [← eq_of_beq hname]
      rw [hmodules, Option.map_eq_some_iff] at hknown
      obtain ⟨earlier, hearlier, -⟩ := hknown
      rw [hearlier]
      rfl
    · rw [Option.or_none]
  | none =>
    -- a new name goes to the end of both tables, so they stay in step
    have hnew : reading.name resolver.root ∉ resolver.modules.keys := by
      intro hkey
      obtain ⟨entry, hentry, heq⟩ := List.mem_map.mp hkey
      have hvalue := (Table.get?_eq_some_iff hdistinct).mpr hentry
      rw [heq, hknown] at hvalue
      cases hvalue
    rw [readOne_eq hknown]
    refine ⟨rfl, fun name => ?_, Table.keys_set_nodup hdistinct _ _, ?_⟩
    · dsimp only
      rw [hfind]
      by_cases hname : name = reading.name resolver.root
      · rw [hname, Table.get?_set_self]
        rw [hmodules, Option.map_eq_none_iff] at hknown
        rw [hknown, if_pos (beq_self_eq_true _)]
        rfl
      · rw [Table.get?_set_of_ne _ _ hname, hmodules, if_neg (by simpa using Ne.symm hname),
          Option.or_none]
    · dsimp only
      rw [Table.set_eq_append hnew, List.map_append, ← hinStep, List.map_singleton, module_path]

end IsKnown

theorem readAll_isKnown (root : Path) (readings : List Reading) :
    IsKnown root readings (readAll root readings) := by
  induction readings using List.reverseRecOn with
  | nil => exact ⟨rfl, fun _ => rfl, .nil, rfl⟩
  | append_singleton readings reading ih =>
    rw [readAll_concat]
    exact ih.readOne reading

/-- The two tables tell the same: a path has the name of the module there, and a module stands at
its path. No two paths have one name, no path has two, and every module depends on the sources of
its imports. -/
structure IsConsistent (resolver : Resolver) : Prop where
  placed : ∀ path name, (path, name) ∈ resolver.packages → ∃ module,
    resolver.modules.get? name = some module ∧ module.path = path ∧ module.package = name
  entered : ∀ name module, resolver.modules.get? name = some module →
    (module.path, name) ∈ resolver.packages
  injective : ∀ path other name, (path, name) ∈ resolver.packages →
    (other, name) ∈ resolver.packages → path = other
  single : ∀ path name other, (path, name) ∈ resolver.packages →
    (path, other) ∈ resolver.packages → name = other
  dependencies : ∀ name module, resolver.modules.get? name = some module → DependsOnSources module

namespace IsKnown

theorem exists_reading (h : IsKnown root readings resolver)
    (hmodule : resolver.modules.get? name = some module) :
    ∃ reading ∈ readings, reading.name root = name ∧ reading.module root = module := by
  rw [h.modules, Option.map_eq_some_iff] at hmodule
  obtain ⟨reading, hreading, hsame⟩ := hmodule
  refine ⟨reading, List.mem_of_find?_eq_some hreading, ?_, hsame⟩
  simpa using List.find?_some hreading

theorem mem_packages_iff (h : IsKnown root readings resolver) :
    (path, name) ∈ resolver.packages ↔
      ∃ module, resolver.modules.get? name = some module ∧ module.path = path := by
  rw [h.inStep, List.mem_map]
  constructor
  · rintro ⟨entry, hentry, heq⟩
    obtain ⟨rfl, rfl⟩ := Prod.mk.inj heq
    exact ⟨entry.2, (Table.get?_eq_some_iff h.distinct).mpr hentry, rfl⟩
  · rintro ⟨module, hmodule, rfl⟩
    exact ⟨(name, module), Table.mem_of_get? hmodule, rfl⟩

theorem name_eq (h : IsKnown root readings resolver)
    (hplaced : (path, name) ∈ resolver.packages) : name = packageName root path := by
  obtain ⟨module, hmodule, rfl⟩ := h.mem_packages_iff.mp hplaced
  obtain ⟨reading, -, rfl, rfl⟩ := h.exists_reading hmodule
  rw [module_path]
  rfl

/-- What is known of the files is consistent. -/
theorem isConsistent (h : IsKnown root readings resolver) : resolver.IsConsistent where
  placed path name hplaced := by
    obtain ⟨module, hmodule, hpath⟩ := h.mem_packages_iff.mp hplaced
    obtain ⟨reading, -, hname, hsame⟩ := h.exists_reading hmodule
    refine ⟨module, hmodule, hpath, ?_⟩
    rw [← hsame, module_package, hname]
  entered name module hmodule := h.mem_packages_iff.mpr ⟨module, hmodule, rfl⟩
  injective path other name hplaced hother := by
    obtain ⟨module, hmodule, rfl⟩ := h.mem_packages_iff.mp hplaced
    obtain ⟨module', hmodule', rfl⟩ := h.mem_packages_iff.mp hother
    rw [Option.some.inj (hmodule.symm.trans hmodule')]
  single path name other hplaced hother := by
    rw [h.name_eq hplaced, h.name_eq hother]
  dependencies name module hmodule := by
    obtain ⟨reading, -, -, rfl⟩ := h.exists_reading hmodule
    exact module_dependsOnSources root reading

end IsKnown

/-- What is known under a name stays, whatever is read later. -/
theorem readAll_keeps
    (h : (readAll root readings).modules.get? name = some module) (later : List Reading) :
    (readAll root (readings ++ later)).modules.get? name = some module := by
  rw [(readAll_isKnown root readings).modules, Option.map_eq_some_iff] at h
  obtain ⟨reading, hreading, hmodule⟩ := h
  rw [(readAll_isKnown root _).modules, List.find?_append, hreading, ← hmodule]
  rfl

/-! ## Relative paths -/

/-- The paths that a relative path may stand for, in the order in which they are tried: as it
stands, with an ending in place of its own, and as a directory with an index file. -/
def triedPaths (target : Path) : List Path :=
  if target.name = "" then [target]
  else target :: (moduleEndings.map (fun ending => target.parent.below [target.stem ++ ending]) ++
    moduleEndings.map fun ending => target.child ("index" ++ ending))

/-- The path of an import, as seen from the directory of the module. -/
def importPath (module : Module) (text : String) : Path := (module.path.parent.child text).resolved

/-- The module of this name was read from this path, and the name is not empty. -/
def IsNamed (resolver : Resolver) (path : Path) (name : String) : Prop :=
  name ≠ "" ∧ ∃ module, resolver.modules.get? name = some module ∧ module.path = path

/-- The import of a relative path leads to the module of this name: it stands at the first of the
paths tried at which there is a module with a name. -/
def LeadsTo (resolver : Resolver) (module : Module) (text name : String) : Prop :=
  ∃ before path after, triedPaths (importPath module text) = before ++ path :: after ∧
    resolver.IsNamed path name ∧ ∀ other ∈ before, ∀ name, ¬ resolver.IsNamed other name

namespace IsConsistent

/-- A path has one name, so the last entry for it is the only one. -/
theorem lookup_eq_some_iff (h : resolver.IsConsistent) :
    resolver.packages.reverse.lookup path = some name ↔ (path, name) ∈ resolver.packages := by
  have hmem {other : String} (hother : resolver.packages.reverse.lookup path = some other) :
      (path, other) ∈ resolver.packages := by
    obtain ⟨before, after, hsplit, -⟩ := List.lookup_eq_some_iff.mp hother
    rw [← List.mem_reverse, hsplit]
    simp
  refine ⟨hmem, fun hplaced => ?_⟩
  cases hlookup : resolver.packages.reverse.lookup path with
  | none =>
    have hnone := List.lookup_eq_none_iff.mp hlookup (path, name) (List.mem_reverse.mpr hplaced)
    simp at hnone
  | some other => rw [h.single path name other hplaced (hmem hlookup)]

theorem mem_packages_iff (h : resolver.IsConsistent) :
    (path, name) ∈ resolver.packages ↔
      ∃ module, resolver.modules.get? name = some module ∧ module.path = path := by
  constructor
  · intro hplaced
    obtain ⟨module, hmodule, hpath, -⟩ := h.placed path name hplaced
    exact ⟨module, hmodule, hpath⟩
  · rintro ⟨module, hmodule, rfl⟩
    exact h.entered name module hmodule

theorem packageAt?_eq_some_iff (h : resolver.IsConsistent) :
    resolver.packageAt? path = some name ↔ resolver.IsNamed path name := by
  unfold packageAt? IsNamed
  rw [Option.filter_eq_some_iff, h.lookup_eq_some_iff, h.mem_packages_iff, and_comm]
  simp

end IsConsistent

theorem mapM_withSuffix? (target : Path) :
    moduleEndings.mapM target.withSuffix? =
      if target.name = "" then none
      else some (moduleEndings.map fun ending => target.parent.below [target.stem ++ ending]) := by
  have hsuffix : target.withSuffix? = fun ending =>
      if target.name = "" then none else some (target.parent.below [target.stem ++ ending]) := by
    funext ending
    unfold Path.withSuffix?
    simp only [String.isEmpty_iff]
    rfl
  rw [hsuffix]
  by_cases hname : target.name = ""
  · simp [hname, moduleEndings]
  · simp only [if_neg hname]
    exact List.mapM_pure

theorem resolveRelative?_eq {text : String}
    (hmodule : resolver.modules.get? current = some module) :
    resolver.resolveRelative? text current =
      (triedPaths (importPath module text)).findSome? resolver.packageAt? := by
  unfold resolveRelative? triedPaths importPath
  simp only [hmodule, Option.bind_eq_bind, Option.bind_some, mapM_withSuffix?]
  generalize (module.path.parent.child text).resolved = target
  -- without a name the search ends before any ending is tried
  by_cases hname : target.name = ""
  · simp only [if_pos hname, Option.bind_none, List.findSome?_cons, List.findSome?_nil]
    cases resolver.packageAt? target <;> rfl
  · simp only [if_neg hname, Option.bind_some, List.findSome?_cons]
    cases resolver.packageAt? target <;> rfl

theorem resolveRelative?_eq_some_iff (h : resolver.IsConsistent) {text : String}
    (hmodule : resolver.modules.get? current = some module) :
    resolver.resolveRelative? text current = some name ↔ resolver.LeadsTo module text name := by
  rw [resolveRelative?_eq hmodule, List.findSome?_eq_some_iff]
  unfold LeadsTo
  simp only [h.packageAt?_eq_some_iff, Option.eq_none_iff_forall_not_mem, Option.mem_def]

/-! ## Symbols -/

/-- The import of a module that binds a symbol: the first one under its name. -/
structure Binds (module : Module) (symbol : String) (imported : ImportedSymbol) : Prop where
  named : imported.name = symbol
  earliest : ∃ before after, module.imports = before ++ imported :: after ∧
    ∀ other ∈ before, other.name ≠ symbol

/-- Which module a symbol comes from that is used in a module: the module itself if it exports the
symbol, and else the source of the import that binds it. The source is a path where it starts with a
dot; such a path is given up for the name of the module that it leads to. -/
inductive Resolves (resolver : Resolver) (symbol current : String) : Option String → Prop where
  | unknown (hmodule : resolver.modules.get? current = none) : Resolves resolver symbol current none
  | exported {module : Module} (hmodule : resolver.modules.get? current = some module)
      (hexports : symbol ∈ module.exports) : Resolves resolver symbol current (some current)
  | imported {module : Module} {imported : ImportedSymbol}
      (hmodule : resolver.modules.get? current = some module) (hexports : symbol ∉ module.exports)
      (hbinds : Binds module symbol imported) (hsource : ¬ Text.startsWith imported.source ".") :
      Resolves resolver symbol current (some imported.source)
  | relative {module : Module} {imported : ImportedSymbol} {name : String}
      (hmodule : resolver.modules.get? current = some module) (hexports : symbol ∉ module.exports)
      (hbinds : Binds module symbol imported) (hsource : Text.startsWith imported.source ".")
      (hleads : resolver.LeadsTo module imported.source name) :
      Resolves resolver symbol current (some name)
  | astray {module : Module} {imported : ImportedSymbol}
      (hmodule : resolver.modules.get? current = some module) (hexports : symbol ∉ module.exports)
      (hbinds : Binds module symbol imported) (hsource : Text.startsWith imported.source ".")
      (hleads : ∀ name, ¬ resolver.LeadsTo module imported.source name) :
      Resolves resolver symbol current (some imported.source)
  | unbound {module : Module} (hmodule : resolver.modules.get? current = some module)
      (hexports : symbol ∉ module.exports)
      (hbinds : ∀ imported ∈ module.imports, imported.name ≠ symbol) :
      Resolves resolver symbol current none

theorem binds_iff {imported : ImportedSymbol} :
    Binds module symbol imported ↔ module.imports.find? (·.name == symbol) = some imported := by
  rw [Table.find?_key_eq_some_iff]
  exact ⟨fun h => ⟨h.named, h.earliest⟩, fun ⟨hnamed, hearliest⟩ => ⟨hnamed, hearliest⟩⟩

theorem resolveSymbol?_eq_none (hmodule : resolver.modules.get? current = none) :
    resolver.resolveSymbol? symbol current = none := by
  unfold resolveSymbol?
  rw [hmodule]
  rfl

/-- A symbol is looked for among the exports first, and then among the imports. -/
theorem resolveSymbol?_eq (hmodule : resolver.modules.get? current = some module) :
    resolver.resolveSymbol? symbol current =
      if symbol ∈ module.exports then some current
      else (module.imports.find? (·.name == symbol)).map fun imported =>
        if Text.startsWith imported.source "." then
          (resolver.resolveRelative? imported.source current).getD imported.source
        else imported.source := by
  unfold resolveSymbol?
  simp only [hmodule, Option.bind_eq_bind, Option.bind_some, List.contains_iff_mem]
  split
  · rfl
  · cases module.imports.find? (·.name == symbol) with
    | none => rfl
    | some imported =>
      simp only [Option.bind_some, Option.map_some]
      split <;> rfl

namespace IsConsistent

/-- **Every symbol is resolved in one of these ways.** -/
theorem resolves (h : resolver.IsConsistent) (symbol current : String) :
    Resolves resolver symbol current (resolver.resolveSymbol? symbol current) := by
  cases hmodule : resolver.modules.get? current with
  | none =>
    rw [resolveSymbol?_eq_none hmodule]
    exact .unknown hmodule
  | some module =>
    rw [resolveSymbol?_eq hmodule]
    by_cases hexports : symbol ∈ module.exports
    · rw [if_pos hexports]
      exact .exported hmodule hexports
    · rw [if_neg hexports]
      cases hfind : module.imports.find? (·.name == symbol) with
      | none =>
        refine .unbound hmodule hexports fun imported himported => ?_
        simpa using List.find?_eq_none.mp hfind imported himported
      | some imported =>
        have hbinds : Binds module symbol imported := binds_iff.mpr hfind
        rw [Option.map_some]
        split
        · next hsource =>
          cases hrelative : resolver.resolveRelative? imported.source current with
          | some name =>
            exact .relative hmodule hexports hbinds hsource
              ((resolveRelative?_eq_some_iff h hmodule).mp hrelative)
          | none =>
            refine .astray hmodule hexports hbinds hsource fun name hleads => ?_
            rw [(resolveRelative?_eq_some_iff h hmodule).mpr hleads] at hrelative
            cases hrelative
        · next hsource => exact .imported hmodule hexports hbinds hsource

/-- **Which module a symbol comes from** is settled by its module and the modules that are known. -/
theorem resolves_iff (h : resolver.IsConsistent) {result : Option String} :
    Resolves resolver symbol current result ↔ resolver.resolveSymbol? symbol current = result := by
  refine ⟨fun hresolves => ?_, fun heq => heq ▸ h.resolves symbol current⟩
  cases hresolves with
  | unknown hmodule => exact resolveSymbol?_eq_none hmodule
  | exported hmodule hexports => rw [resolveSymbol?_eq hmodule, if_pos hexports]
  | imported hmodule hexports hbinds hsource =>
    rw [resolveSymbol?_eq hmodule, if_neg hexports, binds_iff.mp hbinds, Option.map_some,
      if_neg hsource]
  | relative hmodule hexports hbinds hsource hleads =>
    rw [resolveSymbol?_eq hmodule, if_neg hexports, binds_iff.mp hbinds, Option.map_some,
      if_pos hsource, (resolveRelative?_eq_some_iff h hmodule).mpr hleads, Option.getD_some]
  | astray hmodule hexports hbinds hsource hleads =>
    have hnone : resolver.resolveRelative? _ current = none :=
      Option.eq_none_iff_forall_ne_some.mpr fun name hname =>
        hleads name ((resolveRelative?_eq_some_iff h hmodule).mp hname)
    rw [resolveSymbol?_eq hmodule, if_neg hexports, binds_iff.mp hbinds, Option.map_some,
      if_pos hsource, hnone, Option.getD_none]
  | @unbound module hmodule hexports hbinds =>
    have hnone : module.imports.find? (·.name == symbol) = none :=
      List.find?_eq_none.mpr fun imported himported => by simpa using hbinds imported himported
    rw [resolveSymbol?_eq hmodule, if_neg hexports, hnone, Option.map_none]

end IsConsistent

/-- **The tables of a resolver stay in step, and symbols are resolved by them.** After any files
have been read, whatever they hold and however often they come: the names of paths and the modules
tell the same; under each name stands the module of the first file that has it; whatever is read
later, this module stays; and a symbol that is used in a module comes from where its exports, its
imports and the known modules say. -/
theorem modules_consistent_and_symbols_resolved (root : Path) (readings : List Reading) :
    (readAll root readings).IsConsistent ∧
      (∀ name, (readAll root readings).modules.get? name =
        (readings.find? (·.name root == name)).map (·.module root)) ∧
      (∀ later name module, (readAll root readings).modules.get? name = some module →
        (readAll root (readings ++ later)).modules.get? name = some module) ∧
      ∀ symbol current result, Resolves (readAll root readings) symbol current result ↔
        (readAll root readings).resolveSymbol? symbol current = result := by
  have hknown := readAll_isKnown root readings
  exact ⟨hknown.isConsistent, hknown.modules, fun later _ _ h => readAll_keeps h later,
    fun _ _ _ => hknown.isConsistent.resolves_iff⟩

end Resolver

end PrivacyScan
