import PrivacyScan.Proofs.Project.ModuleNames
import PrivacyScan.Proofs.Project.Reporting

/-!
# What is kept under the name of a module

Three tables have an entry for each module: the resolver keeps the first file of a name, the symbols
and the reports keep the last one. So an entry belongs to a file for sure only when the name does:

* **`analyze_path`** — a file enters its module when no other file has done so before;
* **`register_places`** — a file enters all its definitions, and every later look finds them there;
* **`readModules_owns`** — a file whose name no other file has owns its entries.
-/

namespace PrivacyScan

/-! ## The definitions of a module -/

namespace Symbols

variable {symbols : Symbols} {file : Path}

/-- Symbols are only added: each stays at its place. -/
structure Extends (before after : Symbols) : Prop where
  kept : ∀ {name position symbol}, before.definition? name position = some symbol →
    after.definition? name position = some symbol

namespace Extends

theorem refl (symbols : Symbols) : Extends symbols symbols := ⟨id⟩

theorem trans {first second third : Symbols} (h : Extends first second)
    (h' : Extends second third) : Extends first third :=
  ⟨fun hfound => h'.kept (h.kept hfound)⟩

end Extends

def Places (symbols : Symbols) (table : Table Nat) (file : Path) : Prop :=
  ∀ entry ∈ table, ∃ symbol, symbols.definition? entry.1 entry.2 = some symbol ∧ symbol.file = file

theorem Places.extend {after : Symbols} {table : Table Nat} (h : symbols.Places table file)
    (hextends : Extends symbols after) : after.Places table file := by
  intro entry hentry
  obtain ⟨symbol, hsymbol, hfile⟩ := h entry hentry
  exact ⟨symbol, hextends.kept hsymbol, hfile⟩

theorem definition?_enter (symbols : Symbols) (symbol : Symbol) (sensitive : List String) :
    (symbols.enter symbol sensitive).definition? symbol.name (symbols.nextPosition symbol.name) =
      some symbol := by
  unfold definition? enter nextPosition Table.update
  rw [Table.get?_set_self]
  simp

theorem enter_extends (symbols : Symbols) (symbol : Symbol) (sensitive : List String) :
    Extends symbols (symbols.enter symbol sensitive) := by
  refine ⟨fun {name position found} hfound => ?_⟩
  unfold definition? enter Table.update at *
  by_cases hname : name = symbol.name
  · -- the new symbol goes behind those of its name, so their places stay
    rw [hname] at hfound
    rw [hname, Table.get?_set_self]
    exact List.getElem?_append_left (List.getElem?_eq_some_iff.mp hfound).1 ▸ hfound
  · rw [Table.get?_set_of_ne _ _ hname]
    exact hfound

/-- Symbols of one file are entered one after another. They extend those that are there, and the
table places each of them. -/
theorem enterAll_places {found : List (Symbol × List String)}
    (hfile : ∀ item ∈ found, item.1.file = file) (symbols : Symbols) :
    Extends symbols (symbols.enterAll found).1 ∧
      (symbols.enterAll found).1.Places (symbols.enterAll found).2 file ∧
      (symbols.enterAll found).1.modules = symbols.modules := by
  unfold enterAll
  refine List.foldlRecOn
    (motive := fun state : Symbols × Table Nat =>
      Extends symbols state.1 ∧ state.1.Places state.2 file ∧ state.1.modules = symbols.modules)
    found _ ⟨.refl symbols, nofun, rfl⟩ ?_
  rintro ⟨state, table⟩ ⟨hextends, hplaces, hmodules⟩ ⟨symbol, sensitive⟩ hitem
  have henter := state.enter_extends symbol sensitive
  refine ⟨hextends.trans henter, fun entry hentry => ?_, hmodules⟩
  rcases Table.mem_or_eq_of_mem_set hentry with hold | rfl
  · exact hplaces.extend henter entry hold
  · exact ⟨symbol, state.definition?_enter symbol sensitive, hfile _ hitem⟩

theorem enterAll_hasKey {found : List (Symbol × List String)} {item : Symbol × List String}
    (hitem : item ∈ found) (symbols : Symbols) :
    (symbols.enterAll found).2.hasKey item.1.name = true := by
  unfold enterAll
  refine Table.foldl_holds_of_mem (fun _ => True)
    (fun state : Symbols × Table Nat => state.2.hasKey item.1.name = true) hitem
    (fun _ _ _ _ => trivial) (fun state _ => ?item) (fun other _ _ state _ hstate => ?other) trivial
  case item => exact Table.hasKey_set_self ..
  case other => exact Table.hasKey_set hstate ..

theorem ofDefinition_file (module : String) (file : Path) (definition : Definition) :
    (ofDefinition module file definition).1.file = file := by
  unfold ofDefinition
  dsimp only
  split <;> rfl

theorem ofDefinition_name (module : String) (file : Path) (definition : Definition) :
    (ofDefinition module file definition).1.name = definition.name := by
  unfold ofDefinition
  dsimp only
  split <;> rfl

variable {workspace : Workspace} {module other : String} {language : Language} {code : String}

theorem register_eq (hcode : workspace.read? file = some code) (symbols : Symbols) :
    (symbols.register workspace file module (some language)).1 =
      symbols.enterModule module ((language.definitions code).map (ofDefinition module file)) := by
  unfold register
  rw [hcode]

theorem register_eq_self (hcode : workspace.read? file = none) (symbols : Symbols) :
    (symbols.register workspace file module (some language)).1 = symbols := by
  unfold register
  rw [hcode]

theorem mem_ofDefinitions_file {definitions : List Definition} :
    ∀ item ∈ definitions.map (ofDefinition module file), item.1.file = file := by
  intro item hitem
  obtain ⟨definition, _, rfl⟩ := List.mem_map.mp hitem
  exact ofDefinition_file ..

theorem register_extends (symbols : Symbols) (workspace : Workspace) (file : Path)
    (module : String) (language : Language) :
    Extends symbols (symbols.register workspace file module (some language)).1 := by
  cases hcode : workspace.read? file with
  | none =>
    rw [register_eq_self hcode]
    exact .refl symbols
  | some code =>
    rw [register_eq hcode]
    exact ⟨(enterAll_places mem_ofDefinitions_file symbols).1.kept⟩

theorem register_get?_of_ne (hne : other ≠ module) (symbols : Symbols) :
    (symbols.register workspace file module (some language)).1.modules.get? other =
      symbols.modules.get? other := by
  cases hcode : workspace.read? file with
  | none => rw [register_eq_self hcode]
  | some code =>
    rw [register_eq hcode]
    show ((symbols.enterAll _).1.modules.set module _).get? other = _
    rw [Table.get?_set_of_ne _ _ hne, (enterAll_places mem_ofDefinitions_file symbols).2.2]

theorem register_places (hcode : workspace.read? file = some code) (symbols : Symbols) :
    ∃ table,
      (symbols.register workspace file module (some language)).1.modules.get? module = some table ∧
        (∀ definition ∈ language.definitions code, table.hasKey definition.name = true) ∧
        (symbols.register workspace file module (some language)).1.Places table file := by
  rw [register_eq hcode]
  refine ⟨_, Table.get?_set_self .., fun definition hdefinition => ?_, ?_⟩
  · rw [← ofDefinition_name module file definition]
    exact enterAll_hasKey (List.mem_map_of_mem hdefinition) symbols
  · exact (enterAll_places mem_ofDefinitions_file symbols).2.1

end Symbols

/-! ## The module of a file -/

namespace Resolver

variable {resolver : Resolver} {workspace : Workspace} {file : Path} {language : Option Language}

def IsKeyed (resolver : Resolver) : Prop :=
  ∀ name module, resolver.modules.get? name = some module → module.package = name

theorem readModule_path (module : Module) (language : Language) (code : String) :
    (readModule module language code).path = module.path := by
  unfold readModule
  split <;> rfl

theorem readModule_package (module : Module) (language : Language) (code : String) :
    (readModule module language code).package = module.package := by
  unfold readModule
  split <;> rfl

/-- A module that is known stays, and else the file enters one with its own path. -/
theorem analyze_cases (resolver : Resolver) (workspace : Workspace) (file : Path)
    (language : Option Language) :
    (∃ known,
      resolver.modules.get? (packageName resolver.root (workspace.resolve file)) = some known ∧
        resolver.analyze workspace file language = (resolver, known)) ∨
    ∃ module : Module,
      resolver.modules.get? (packageName resolver.root (workspace.resolve file)) = none ∧
        module.path = workspace.resolve file ∧
        module.package = packageName resolver.root (workspace.resolve file) ∧
        (resolver.analyze workspace file language).2 = module ∧
        (resolver.analyze workspace file language).1.root = resolver.root ∧
        (resolver.analyze workspace file language).1.modules =
          resolver.modules.set (packageName resolver.root (workspace.resolve file)) module := by
  unfold analyze
  dsimp only
  split
  · next known hknown => exact .inl ⟨known, hknown, rfl⟩
  · next hnone =>
    refine .inr ⟨_, hnone, ?_, ?_, rfl, rfl, rfl⟩
    · split
      · exact readModule_path ..
      · rfl
    · split
      · exact readModule_package ..
      · rfl

theorem analyze_root : (resolver.analyze workspace file language).1.root = resolver.root := by
  rcases resolver.analyze_cases workspace file language with
    ⟨known, _, heq⟩ | ⟨module, _, _, _, _, hroot, _⟩
  · rw [heq]
  · exact hroot

theorem analyze_package (h : resolver.IsKeyed) :
    (resolver.analyze workspace file language).2.package =
      packageName resolver.root (workspace.resolve file) := by
  rcases resolver.analyze_cases workspace file language with
    ⟨known, hknown, heq⟩ | ⟨module, _, _, hpackage, heq, _, _⟩
  · rw [heq]
    exact h _ _ hknown
  · rw [heq, hpackage]

theorem analyze_get?_of_ne {name : String}
    (hne : name ≠ packageName resolver.root (workspace.resolve file)) :
    (resolver.analyze workspace file language).1.modules.get? name =
      resolver.modules.get? name := by
  rcases resolver.analyze_cases workspace file language with
    ⟨known, _, heq⟩ | ⟨module, _, _, _, _, _, hmodules⟩
  · rw [heq]
  · rw [hmodules, Table.get?_set_of_ne _ _ hne]

theorem analyze_isKeyed (h : resolver.IsKeyed) :
    (resolver.analyze workspace file language).1.IsKeyed := by
  intro name found hfound
  by_cases hname : name = packageName resolver.root (workspace.resolve file)
  · rcases resolver.analyze_cases workspace file language with
      ⟨known, hknown, heq⟩ | ⟨module, _, _, hpackage, _, _, hmodules⟩
    · rw [heq] at hfound
      exact h name found hfound
    · rw [hmodules, hname, Table.get?_set_self] at hfound
      rw [← Option.some.inj hfound, hpackage, hname]
  · rw [analyze_get?_of_ne hname] at hfound
    exact h name found hfound

theorem analyze_path {name : String} {path : Path} (hpath : workspace.resolve file = path)
    (hname : packageName resolver.root path = name)
    (hown : ∀ known, resolver.modules.get? name = some known → known.path = path) :
    ∃ module, (resolver.analyze workspace file language).1.modules.get? name = some module ∧
      module.path = path := by
  subst hpath hname
  rcases resolver.analyze_cases workspace file language with
    ⟨known, hknown, heq⟩ | ⟨module, _, hpath, _, _, _, hmodules⟩
  · rw [heq]
    exact ⟨known, hknown, hown known hknown⟩
  · rw [hmodules, Table.get?_set_self]
    exact ⟨module, rfl, hpath⟩

end Resolver

/-! ## The entries of a file -/

namespace Scanner

open Project
open Resolver (packageName IsBelow SharesName)

variable {known : Scanner} {config : Config} {workspace : Workspace} {cross : CrossFile}
  {root file other : Path} {files : List Path} {language : Language}

def OwnsModule (cross : CrossFile) (file : Path) : Prop :=
  ∃ module, cross.resolver.modules.get? (packageName cross.resolver.root file) = some module ∧
    module.path = file

/-- The symbols under the name of the module are the definitions of this file. -/
def OwnsSymbols (cross : CrossFile) (workspace : Workspace) (language : Language)
    (file : Path) : Prop :=
  ∀ code, workspace.read? file = some code →
    ∃ table, cross.symbols.modules.get? (packageName cross.resolver.root file) = some table ∧
      (∀ definition ∈ language.definitions code, table.hasKey definition.name = true) ∧
      cross.symbols.Places table file

def OwnsFindings (known : Scanner) (workspace : Workspace) (files : List Path)
    (file : Path) : Prop :=
  ∀ report, (known.readFile workspace file).2 = some report →
    (byModule (known.readFiles workspace files).2).get? (known.moduleOf file) = some report

/-- The entries under the name of the module belong to this file, in all three tables. -/
structure OwnsEntries (known : Scanner) (workspace : Workspace) (files : List Path)
    (file : Path) : Prop where
  module : OwnsModule known.cross file
  symbols : ∀ language, languageOf? known.config file = some language →
    OwnsSymbols known.cross workspace language file
  findings : OwnsFindings known workspace files file

def Defines (workspace : Workspace) (language : Language) (file : Path) : Prop :=
  ∃ code, workspace.read? file = some code ∧ language.definitions code ≠ []

/-- Each table has an entry for one of two files at most. -/
structure Contends (known : Scanner) (workspace : Workspace) (files : List Path)
    (file other : Path) : Prop where
  module : ¬ (OwnsModule known.cross file ∧ OwnsModule known.cross other)
  symbols : ∀ first second, Defines workspace first file → Defines workspace second other →
    ¬ (OwnsSymbols known.cross workspace first file ∧
      OwnsSymbols known.cross workspace second other)
  findings : (known.readFile workspace file).2.isSome → (known.readFile workspace other).2.isSome →
    ¬ (OwnsFindings known workspace files file ∧ OwnsFindings known workspace files other)

/-- Where two files have the same name, they contend for the entries. -/
theorem contends_of_moduleOf_eq (hne : other ≠ file)
    (hname : known.moduleOf other = known.moduleOf file) :
    Contends known workspace files file other where
  module := by
    rintro ⟨⟨module, hmodule, hpath⟩, ⟨module', hmodule', hpath'⟩⟩
    have hsame : some module' = some module := by
      rw [← hmodule', ← hmodule]
      exact congrArg _ hname
    rw [Option.some.inj hsame, hpath] at hpath'
    exact hne hpath'.symm
  symbols first second hfirst hsecond := by
    rintro ⟨hown, hown'⟩
    obtain ⟨code, hcode, hsome⟩ := hfirst
    obtain ⟨code', hcode', _⟩ := hsecond
    obtain ⟨table, htable, hkeys, hplaces⟩ := hown code hcode
    obtain ⟨table', htable', _, hplaces'⟩ := hown' code' hcode'
    have hsame : some table' = some table := by
      rw [← htable', ← htable]
      exact congrArg _ hname
    rw [Option.some.inj hsame] at hplaces'
    -- a definition of the first file has its place in the table
    obtain ⟨definition, hdefinition⟩ := List.exists_mem_of_ne_nil _ hsome
    obtain ⟨position, hposition⟩ := Option.isSome_iff_exists.mp (hkeys definition hdefinition)
    have hentry := Table.mem_of_get? hposition
    obtain ⟨symbol, hsymbol, hfile⟩ := hplaces _ hentry
    obtain ⟨symbol', hsymbol', hfile'⟩ := hplaces' _ hentry
    obtain rfl := Option.some.inj (hsymbol.symm.trans hsymbol')
    exact hne (hfile'.symm.trans hfile)
  findings hfirst hsecond := by
    rintro ⟨hown, hown'⟩
    obtain ⟨report, hreport⟩ := Option.isSome_iff_exists.mp hfirst
    obtain ⟨report', hreport'⟩ := Option.isSome_iff_exists.mp hsecond
    have hcounts := hown report hreport
    have hcounts' := hown' report' hreport'
    rw [hname, hcounts] at hcounts'
    cases hcounts'
    exact hne ((readFile_file hreport').symm.trans (readFile_file hreport))

/-! ## Reading modules one after another -/

/-- What is known of modules has this root, and every module stands under its own name. -/
structure IsSound (root : Path) (cross : CrossFile) : Prop where
  root : cross.resolver.root = root
  keyed : cross.resolver.IsKeyed

theorem readModules_eq_foldl (config : Config) (workspace : Workspace) (cross : CrossFile)
    (files : List Path) :
    readModules config workspace cross files =
      files.foldl (fun cross file => readModules config workspace cross [file]) cross :=
  rfl

theorem readModules_singleton (hlanguage : languageOf? config file = some language)
    (cross : CrossFile) :
    readModules config workspace cross [file] =
      { cross with
        resolver := (cross.resolver.analyze workspace file (some language)).1
        symbols := (cross.symbols.register workspace file
          (cross.resolver.analyze workspace file (some language)).2.package
            (some language)).1 } := by
  unfold readModules
  rw [List.foldl_cons, List.foldl_nil, hlanguage]

theorem readModules_isSound (h : IsSound root cross) :
    IsSound root (readModules config workspace cross [file]) := by
  cases hlanguage : languageOf? config file with
  | none =>
    unfold readModules
    rw [List.foldl_cons, List.foldl_nil, hlanguage]
    exact h
  | some language =>
    rw [readModules_singleton hlanguage]
    exact ⟨Resolver.analyze_root.trans h.root, Resolver.analyze_isKeyed h.keyed⟩

theorem readModules_root (h : IsSound root cross) :
    (readModules config workspace cross files).resolver.root = root := by
  rw [readModules_eq_foldl]
  exact (List.foldlRecOn (motive := IsSound root) files _ h fun _ hcross _ _ =>
    readModules_isSound hcross).root

/-- Reading a module of another name leaves the entries of this one as they are. -/
theorem readModules_singleton_of_ne (h : IsSound root cross)
    (hresolved : workspace.resolve other = other)
    (hlanguage : languageOf? config other = some language)
    (hne : packageName root other ≠ packageName root file) :
    (readModules config workspace cross [other]).resolver.modules.get? (packageName root file) =
        cross.resolver.modules.get? (packageName root file) ∧
      (readModules config workspace cross [other]).symbols.modules.get? (packageName root file) =
        cross.symbols.modules.get? (packageName root file) ∧
      cross.symbols.Extends (readModules config workspace cross [other]).symbols := by
  have hname :
      packageName cross.resolver.root (workspace.resolve other) = packageName root other := by
    rw [h.root, hresolved]
  rw [readModules_singleton hlanguage, Resolver.analyze_package h.keyed, hname]
  refine ⟨Resolver.analyze_get?_of_ne ?_, Symbols.register_get?_of_ne hne.symm _,
    Symbols.register_extends ..⟩
  rw [hname]
  exact hne.symm

def IsFree (root : Path) (cross : CrossFile) (file : Path) : Prop :=
  ∀ module, cross.resolver.modules.get? (packageName root file) = some module → module.path = file

/-- A file enters its module and its definitions where nothing stands in the way. -/
theorem readModules_singleton_owns (h : IsSound root cross) (hfree : IsFree root cross file)
    (hresolved : workspace.resolve file = file)
    (hlanguage : languageOf? config file = some language) :
    OwnsModule (readModules config workspace cross [file]) file ∧
      OwnsSymbols (readModules config workspace cross [file]) workspace language file := by
  have hname : packageName cross.resolver.root (workspace.resolve file) =
      packageName root file := by
    rw [h.root, hresolved]
  unfold OwnsModule OwnsSymbols
  rw [(readModules_isSound h).root, readModules_singleton hlanguage,
    Resolver.analyze_package h.keyed, hname]
  refine ⟨Resolver.analyze_path hresolved (by rw [h.root]) hfree, fun code hcode => ?_⟩
  exact Symbols.register_places hcode cross.symbols

/-- The entries of a file stay when a file of another name is read. -/
theorem readModules_singleton_keeps (h : IsSound root cross)
    (hresolved : workspace.resolve other = other) (hother : (languageOf? config other).isSome)
    (hne : packageName root other ≠ packageName root file)
    (hown : OwnsModule cross file ∧ OwnsSymbols cross workspace language file) :
    OwnsModule (readModules config workspace cross [other]) file ∧
      OwnsSymbols (readModules config workspace cross [other]) workspace language file := by
  obtain ⟨otherLanguage, hlanguage⟩ := Option.isSome_iff_exists.mp hother
  obtain ⟨hmodules, hsymbols, hextends⟩ := readModules_singleton_of_ne h hresolved hlanguage hne
  obtain ⟨hmodule, hplaces⟩ := hown
  unfold OwnsModule OwnsSymbols at *
  rw [h.root] at hmodule hplaces
  rw [(readModules_isSound h).root, hmodules, hsymbols]
  refine ⟨hmodule, fun code hcode => ?_⟩
  obtain ⟨table, htable, hkeys, hplaced⟩ := hplaces code hcode
  exact ⟨table, htable, hkeys, hplaced.extend hextends⟩

/-- A file of another module leaves the name of this one free. -/
theorem readModules_singleton_isFree (h : IsSound root cross)
    (hresolved : workspace.resolve other = other) (hother : (languageOf? config other).isSome)
    (hunique : packageName root other = packageName root file → other = file)
    (hfree : IsFree root cross file) :
    IsFree root (readModules config workspace cross [other]) file := by
  obtain ⟨otherLanguage, hlanguage⟩ := Option.isSome_iff_exists.mp hother
  intro module hmodule
  by_cases hname : packageName root other = packageName root file
  · -- then it is the file itself, which enters its own path
    obtain rfl := hunique hname
    obtain ⟨⟨entered, hentered, hpath⟩, _⟩ :=
      readModules_singleton_owns h hfree hresolved hlanguage
    rw [(readModules_isSound h).root, hmodule] at hentered
    rw [Option.some.inj hentered, hpath]
  · rw [(readModules_singleton_of_ne h hresolved hlanguage hname).1] at hmodule
    exact hfree module hmodule

/-- **A file whose module has no other file owns the entries of its module.** -/
theorem readModules_owns (h : IsSound root cross) (hfree : IsFree root cross file)
    (hresolved : ∀ other ∈ files, workspace.resolve other = other)
    (hread : ∀ other ∈ files, (languageOf? config other).isSome)
    (hfile : file ∈ files) (hlanguage : languageOf? config file = some language)
    (hunique : ∀ other ∈ files, packageName root other = packageName root file → other = file) :
    OwnsModule (readModules config workspace cross files) file ∧
      OwnsSymbols (readModules config workspace cross files) workspace language file := by
  rw [readModules_eq_foldl]
  refine Table.foldl_holds_of_mem (fun cross => IsSound root cross ∧ IsFree root cross file)
    (fun cross => OwnsModule cross file ∧ OwnsSymbols cross workspace language file) hfile
    (fun other hother cross hcross => ?keeps) (fun cross hcross => ?item)
    (fun other hother hne cross hcross hown => ?other) ⟨h, hfree⟩
  case keeps =>
    exact ⟨readModules_isSound hcross.1, readModules_singleton_isFree hcross.1
      (hresolved other hother) (hread other hother) (hunique other hother) hcross.2⟩
  case item =>
    exact readModules_singleton_owns hcross.1 hcross.2 (hresolved file hfile) hlanguage
  case other =>
    exact readModules_singleton_keeps hcross.1 (hresolved other hother) (hread other hother)
      (fun hname => hne (hunique other hother hname)) hown

/-! ## Names and entries -/

/-- What a new scanner knows once it has read the modules of the files. -/
def knowing (config : Config) (workspace : Workspace) (checks : List ExtraCheck)
    (files : List Path) : Scanner :=
  (ofConfig config workspace checks).informed workspace none files

theorem knowing_moduleOf (config : Config) (workspace : Workspace) (checks : List ExtraCheck)
    (files : List Path) (file : Path) :
    (knowing config workspace checks files).moduleOf file = packageName config.root file := by
  have hsound : IsSound config.root { resolver := { root := config.root } } := ⟨rfl, nofun⟩
  have hroot : (knowing config workspace checks files).cross.resolver.root = config.root :=
    readModules_root hsound
  unfold moduleOf
  rw [hroot]

/-- The same of a scanner at its start. -/
theorem knowing_ownsEntries (config : Config) (workspace : Workspace) (checks : List ExtraCheck)
    (hresolved : ∀ other ∈ files, workspace.resolve other = other)
    (hread : ∀ other ∈ files, (languageOf? config other).isSome) (hfile : file ∈ files)
    (hunique : ∀ other ∈ files,
      packageName config.root other = packageName config.root file → other = file) :
    OwnsEntries (knowing config workspace checks files) workspace files file := by
  have hsound : IsSound config.root { resolver := { root := config.root } } := ⟨rfl, nofun⟩
  have hfree : IsFree config.root { resolver := { root := config.root } } file := nofun
  obtain ⟨language, hlanguage⟩ := Option.isSome_iff_exists.mp (hread file hfile)
  obtain ⟨hmodule, hsymbols⟩ :=
    readModules_owns hsound hfree hresolved hread hfile hlanguage hunique
  refine ⟨hmodule, fun other hother => ?_, fun report hreport => ?_⟩
  · obtain rfl := Option.some.inj (hlanguage.symm.trans hother)
    exact hsymbols
  · rw [← readFile_module hreport]
    refine get?_byModule_of_unique hfile hreport fun other hother hname => ?_
    rw [knowing_moduleOf, knowing_moduleOf] at hname
    exact hunique other hother hname

/-- **Names are shared by the files with the same names between the dots, and only these contend for
their entries.** Of any two different files below a root it is said when they have the same name.
When a new scanner reads files below its root, one that shares its name with none of the others owns
its entries in all three tables; for two that share their name, each table has an entry of one at
most. -/
theorem names_shared_iff_entries_contended (config : Config) (workspace : Workspace)
    (checks : List ExtraCheck) (files : List Path)
    (hbelow : ∀ file ∈ files, IsBelow config.root file)
    (hresolved : ∀ file ∈ files, workspace.resolve file = file)
    (hread : ∀ file ∈ files, (languageOf? config file).isSome) :
    (∀ file other, IsBelow config.root file → IsBelow config.root other → file ≠ other →
      (packageName config.root file = packageName config.root other ↔
        SharesName config.root file other)) ∧
    ∀ file ∈ files,
      ((∀ other ∈ files, file ≠ other → ¬ SharesName config.root file other) →
        OwnsEntries (knowing config workspace checks files) workspace files file) ∧
      ∀ other ∈ files, file ≠ other → SharesName config.root file other →
        Contends (knowing config workspace checks files) workspace files file other := by
  refine ⟨fun file other h h' hne => Resolver.packageName_eq_iff h h' hne, fun file hfile =>
    ⟨fun halone => ?_, fun other hother hne hshares => ?_⟩⟩
  · refine knowing_ownsEntries config workspace checks hresolved hread hfile ?_
    intro other hother hname
    by_cases hne : file = other
    · exact hne.symm
    · have hnames := Resolver.packageName_eq_iff (hbelow file hfile) (hbelow other hother) hne
      exact absurd (hnames.mp hname.symm) (halone other hother hne)
  · refine contends_of_moduleOf_eq hne.symm ?_
    rw [knowing_moduleOf, knowing_moduleOf]
    exact ((Resolver.packageName_eq_iff (hbelow file hfile) (hbelow other hother) hne).mpr
      hshares).symm

/-! ## A module and a package of one name

`shop.py` and `shop/__init__.py` are both the module `shop`; `cart.py` has its name for itself. -/

def shopRoot : Path := { anchor := "/", parts := ["project"] }

def shopModule : Path := shopRoot.child "shop.py"

def shopPackage : Path := shopRoot.child "shop/__init__.py"

def cartModule : Path := shopRoot.child "cart.py"

def shopFiles : List Path := [cartModule, shopModule, shopPackage]

def shopWorkspace : Workspace :=
  { root := shopRoot
    tree := .directory [
      ("cart.py", .file "def add():\n    pass\n"),
      ("shop", .directory [("__init__.py", .file "def total():\n    pass\n")]),
      ("shop.py", .file "def price():\n    pass\n")] }

def shopKnowing : Scanner := knowing { root := shopRoot } shopWorkspace [] shopFiles

theorem shopFiles_below : ∀ file ∈ shopFiles, IsBelow shopRoot file := by
  decide

/-- One module has its entries to itself; another one shares its name with a package. -/
theorem cart_owns_and_shop_is_contended :
    (∀ file ∈ shopFiles, IsBelow shopRoot file) ∧
      OwnsEntries shopKnowing shopWorkspace shopFiles cartModule ∧
      Contends shopKnowing shopWorkspace shopFiles shopModule shopPackage := by
  have hresolved : ∀ file ∈ shopFiles, shopWorkspace.resolve file = file := by decide
  have hread : ∀ file ∈ shopFiles, (languageOf? { root := shopRoot } file).isSome := by
    decide
  have halone : ∀ other ∈ shopFiles, cartModule ≠ other →
      ¬ SharesName shopRoot cartModule other := by
    decide
  have hshares : SharesName shopRoot shopModule shopPackage := by decide
  obtain ⟨_, hentries⟩ := names_shared_iff_entries_contended { root := shopRoot } shopWorkspace []
    shopFiles shopFiles_below hresolved hread
  refine ⟨shopFiles_below, (hentries cartModule (by decide)).1 halone, ?_⟩
  exact (hentries shopModule (by decide)).2 shopPackage (by decide)
    (by decide) hshares

/-- The module and the package are different files below the root and have the same name. Both are
read, but there is no module for the package, and the definitions of the module are gone. -/
theorem module_and_package_have_one_entry :
    shopModule ≠ shopPackage ∧ IsBelow shopRoot shopModule ∧ IsBelow shopRoot shopPackage ∧
      packageName shopRoot shopModule = packageName shopRoot shopPackage ∧
      (shopKnowing.cross.resolver.modules.get? (packageName shopRoot shopPackage)).map (·.path) =
        some shopModule ∧
      (shopKnowing.cross.symbols.modules.get? (packageName shopRoot shopModule)).map (·.keys) =
        some ["total"] := by
  decide +kernel

end Scanner

end PrivacyScan
