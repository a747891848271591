import Mathlib.Data.List.Induction
import PrivacyScan.Proofs.Grouping
import PrivacyScan.Proofs.Project.ModuleEntries

/-!
# The two indexes of the symbols

Symbols are kept under their names, one behind the other, and the table of a module has the places
of its own. A file that is registered adds its symbols to the first index; the table of its module
is replaced, but only when all of the file could be read. What one file does is said by
`registerOne_eq`, and what has become of the indexes after any number of files follows from it:

* **`IsIndexed.registerOne`**, **`registerAll_isIndexed`** — what one file does, and so all of them:
  the first index holds all symbols that were ever registered, in order, and the table of a module
  tells the last ones of the last file that was read as this module.
-/

namespace PrivacyScan.Symbols

/-! ## Registering files -/

/-- A file that is to be registered as a module, from the files as they stand then. Where no
language is given, the statements of a Python module are read in detail. -/
structure Registration where
  workspace : Workspace
  file : Path
  module : String
  language : Option Language

def statements? (code : String) : Option (List Source.Node) :=
  match Source.parseModule? code with
  | some (.module body) => some body
  | _ => none

namespace Registration

variable (registration : Registration)

/-- The symbols that are read from the file, with the functions that they make sensitive. -/
def found : List (Symbol × List String) :=
  match registration.workspace.read? registration.file, registration.language with
  | none, _ => []
  | some code, some language =>
    (language.definitions code).map (ofDefinition registration.module registration.file)
  | some code, none =>
    match statements? code with
    | some body => (readStatements registration.module registration.file body).2
    | none => []

def isWhole : Bool :=
  match registration.workspace.read? registration.file, registration.language with
  | none, _ => false
  | some _, some _ => true
  | some code, none =>
    match statements? code with
    | some body => (readStatements registration.module registration.file body).1.isOk
    | none => false

/-- The symbols that the file adds, in the order in which they are entered. -/
def symbols : List Symbol := registration.found.map (·.1)

end Registration

def registerOne (symbols : Symbols) (registration : Registration) : Symbols :=
  (symbols.register registration.workspace registration.file registration.module
    registration.language).1

/-- What becomes of no symbols when these files are registered, one after the other. -/
def registerAll (registrations : List Registration) : Symbols :=
  registrations.foldl registerOne {}

variable {symbols : Symbols} {registration : Registration} {registrations : List Registration}
  {found : List (Symbol × List String)} {file : Path} {module name : String}

theorem registerAll_concat (registrations : List Registration) (registration : Registration) :
    registerAll (registrations ++ [registration]) =
      (registerAll registrations).registerOne registration := by
  unfold registerAll
  rw [List.foldl_append]
  rfl

/-- **What a file does:** its symbols are entered, and its module too if it was read to the end. -/
theorem registerOne_eq (symbols : Symbols) (registration : Registration) :
    symbols.registerOne registration =
      bif registration.isWhole then symbols.enterModule registration.module registration.found
      else (symbols.enterAll registration.found).1 := by
  unfold registerOne register Registration.isWhole Registration.found
  cases registration.workspace.read? registration.file with
  | none => rfl
  | some code =>
    cases registration.language with
    | some language => rfl
    | none =>
      dsimp only
      split
      · next body hparse =>
        have hbody : statements? code = some body := by
          unfold statements?
          rw [hparse]
          rfl
        rw [hbody]
        dsimp only
        rcases readStatements registration.module registration.file body with ⟨outcome, found⟩
        cases outcome <;> rfl
      · next hother =>
        have hnone : statements? code = none := by
          unfold statements?
          split
          · next body hparse => exact (hother body hparse).elim
          · rfl
        rw [hnone]
        rfl

/-! ### Whose symbols they are -/

theorem ofDefinition_module (module : String) (file : Path) (definition : Definition) :
    (ofDefinition module file definition).1.module = module := by
  unfold ofDefinition
  dsimp only
  split <;> rfl

/-- A statement gives symbols of its own module only. -/
theorem ofStatement_module {node : Source.Node} (h : ofStatement module file node = .ok found)
    {item : Symbol × List String} (hitem : item ∈ found) : item.1.module = module := by
  unfold ofStatement at h
  dsimp only at h
  split at h
  · obtain ⟨signature, -, h⟩ := Outcome.bind_eq_ok.mp h
    cases signature with
    | none =>
      cases h
      cases hitem
    | some signature =>
      cases h
      rw [List.mem_singleton.mp hitem]
  · obtain ⟨info, -, h⟩ := Outcome.bind_eq_ok.mp h
    cases info with
    | none =>
      cases h
      cases hitem
    | some info =>
      cases h
      rw [List.mem_singleton.mp hitem]
  · cases h
    obtain ⟨id, -, rfl⟩ := List.mem_map.mp hitem
    rfl
  · cases h
    cases hitem

theorem readStatements_module {body : List Source.Node} {item : Symbol × List String}
    (hitem : item ∈ (readStatements module file body).2) : item.1.module = module := by
  induction body with
  | nil => cases hitem
  | cons node rest ih =>
    unfold readStatements at hitem
    split at hitem
    · cases hitem
    · next found hfound =>
      rcases List.mem_append.mp hitem with hhere | hlater
      · exact ofStatement_module hfound hhere
      · exact ih hlater

theorem module_of_mem_symbols {symbol : Symbol} (h : symbol ∈ registration.symbols) :
    symbol.module = registration.module := by
  obtain ⟨item, hitem, rfl⟩ := List.mem_map.mp h
  unfold Registration.found at hitem
  split at hitem
  · cases hitem
  · obtain ⟨definition, -, rfl⟩ := List.mem_map.mp hitem
    exact ofDefinition_module ..
  · split at hitem
    · exact readStatements_module hitem
    · cases hitem

/-! ## Entering symbols -/

def named (name : String) (symbols : List Symbol) : List Symbol :=
  symbols.filter (·.name == name)

theorem named_append (name : String) (symbols others : List Symbol) :
    named name (symbols ++ others) = named name symbols ++ named name others :=
  List.filter_append ..

theorem mem_named_iff {all : List Symbol} {symbol : Symbol} :
    symbol ∈ named name all ↔ symbol ∈ all ∧ symbol.name = name := by
  unfold named
  rw [List.mem_filter, beq_iff_eq]

theorem enterAll_concat (symbols : Symbols) (found : List (Symbol × List String))
    (item : Symbol × List String) :
    symbols.enterAll (found ++ [item]) =
      ((symbols.enterAll found).1.enter item.1 item.2,
        (symbols.enterAll found).2.set item.1.name
          ((symbols.enterAll found).1.nextPosition item.1.name)) := by
  unfold enterAll
  rw [List.foldl_append]
  rfl

theorem enterAll_modules (symbols : Symbols) (found : List (Symbol × List String)) :
    (symbols.enterAll found).1.modules = symbols.modules := by
  induction found using List.reverseRecOn with
  | nil => rfl
  | append_singleton found item ih =>
    rw [enterAll_concat]
    exact ih

theorem enterAll_extends (symbols : Symbols) (found : List (Symbol × List String)) :
    Extends symbols (symbols.enterAll found).1 := by
  induction found using List.reverseRecOn with
  | nil => exact .refl symbols
  | append_singleton found item ih =>
    rw [enterAll_concat]
    exact ih.trans (enter_extends ..)

/-- All symbols under their names, in the order in which they come. -/
def indexOf (symbols : List Symbol) : Table (List Symbol) :=
  Table.grouped Symbol.name [] (fun found symbol => found ++ [symbol]) symbols

/-- **Symbols that are entered go behind those that were entered before.** -/
theorem enterAll_definitions {before : List Symbol} (h : symbols.definitions = indexOf before)
    (found : List (Symbol × List String)) :
    (symbols.enterAll found).1.definitions = indexOf (before ++ found.map (·.1)) := by
  induction found using List.reverseRecOn with
  | nil =>
    rw [List.map_nil, List.append_nil]
    exact h
  | append_singleton found item ih =>
    rw [enterAll_concat, List.map_append, ← List.append_assoc, indexOf, List.map_singleton,
      Table.grouped_concat, ← indexOf, ← ih]
    rfl

/-- A place stays the place of the same symbol when others are added. -/
theorem Extends.placed {before after : Symbols} (h : Extends before after) {position : Option Nat}
    {symbol : Option Symbol} (hplaced : position.map (before.definition? name) = symbol.map some) :
    position.map (after.definition? name) = symbol.map some := by
  cases position with
  | none => exact hplaced
  | some position =>
    cases symbol with
    | none => cases hplaced
    | some symbol => exact congrArg some (h.kept (Option.some.inj hplaced))

/-- **The table of some symbols has the places of the last ones of their names**, and no other
names. -/
theorem enterAll_placed (symbols : Symbols) (found : List (Symbol × List String)) (name : String) :
    ((symbols.enterAll found).2.get? name).map ((symbols.enterAll found).1.definition? name) =
      (named name (found.map (·.1))).getLast?.map some := by
  induction found using List.reverseRecOn with
  | nil => rfl
  | append_singleton found item ih =>
    rw [enterAll_concat, List.map_append, named_append, List.map_singleton]
    by_cases hname : name = item.1.name
    · -- the symbol goes to the next free place of its name, and it is the last one
      have hnamed : named name [item.1] = [item.1] := by simp [named, hname]
      rw [hnamed, List.getLast?_concat, hname, Table.get?_set_self, Option.map_some,
        definition?_enter]
      rfl
    · have hnamed : named name [item.1] = [] := by simp [named, Ne.symm hname]
      rw [hnamed, List.append_nil, Table.get?_set_of_ne _ _ hname]
      exact (enter_extends ..).placed ih

/-! ## What the indexes hold -/

/-- All symbols that these files add, the first ones first. -/
def registered (registrations : List Registration) : List Symbol :=
  registrations.flatMap (·.symbols)

/-- The last file that was read to its end as this module. -/
def lastWhole? (module : String) (registrations : List Registration) : Option Registration :=
  (registrations.filter fun registration =>
    registration.isWhole && registration.module == module).getLast?

/-- The symbol that a module has under a name: the last one of this name in the last file that was
read to its end as this module. -/
def current? (registrations : List Registration) (module name : String) : Option Symbol :=
  (lastWhole? module registrations).bind fun registration =>
    (named name registration.symbols).getLast?

def place? (symbols : Symbols) (module name : String) : Option Nat :=
  (symbols.modules.get? module).bind (·.get? name)

/-- The indexes after these files. -/
structure IsIndexed (registrations : List Registration) (symbols : Symbols) : Prop where
  definitions : symbols.definitions = indexOf (registered registrations)
  places : ∀ module name, (symbols.place? module name).map (symbols.definition? name) =
    (current? registrations module name).map some

theorem registered_concat (registrations : List Registration) (registration : Registration) :
    registered (registrations ++ [registration]) =
      registered registrations ++ registration.symbols := by
  unfold registered
  rw [List.flatMap_append, List.flatMap_singleton]

/-- A whole registration replaces the symbols of its module, and leaves all others. -/
theorem current?_concat (registrations : List Registration) (registration : Registration)
    (module name : String) :
    current? (registrations ++ [registration]) module name =
      if registration.isWhole ∧ registration.module = module then
        (named name registration.symbols).getLast?
      else current? registrations module name := by
  unfold current? lastWhole?
  rw [List.filter_append, List.filter_singleton]
  split
  · next hlast =>
    have hcounts : (registration.isWhole && registration.module == module) = true := by
      simpa using hlast
    rw [hcounts, Bool.cond_true, List.getLast?_concat]
    rfl
  · next hlast =>
    have hcounts : (registration.isWhole && registration.module == module) = false := by
      simpa using hlast
    rw [hcounts, Bool.cond_false, List.append_nil]

/-- **One more registration keeps the tables in step with the registrations.** -/
theorem IsIndexed.registerOne (h : IsIndexed registrations symbols) (registration : Registration) :
    IsIndexed (registrations ++ [registration]) (symbols.registerOne registration) := by
  have hextends := symbols.enterAll_extends registration.found
  have hold (module name : String) := hextends.placed (h.places module name)
  have hmodules := symbols.enterAll_modules registration.found
  have hdefinitions : (symbols.enterAll registration.found).1.definitions =
      indexOf (registered (registrations ++ [registration])) := by
    rw [registered_concat]
    exact enterAll_definitions h.definitions registration.found
  rw [registerOne_eq]
  cases hwhole : registration.isWhole with
  | true =>
    refine ⟨hdefinitions, fun module name => ?_⟩
    rw [current?_concat]
    show ((((symbols.enterAll registration.found).1.modules.set registration.module
      (symbols.enterAll registration.found).2).get? module).bind (·.get? name)).map
        ((symbols.enterAll registration.found).1.definition? name) = _
    by_cases hmodule : registration.module = module
    · rw [if_pos ⟨hwhole, hmodule⟩, ← hmodule, Table.get?_set_self, Option.bind_some]
      exact enterAll_placed symbols registration.found name
    · rw [if_neg fun hlast => hmodule hlast.2, Table.get?_set_of_ne _ _ (Ne.symm hmodule), hmodules]
      exact hold module name
  | false =>
    -- definitions are entered, but no module is
    refine ⟨hdefinitions, fun module name => ?_⟩
    rw [current?_concat, if_neg fun hlast => by simp [hwhole] at hlast]
    show ((((symbols.enterAll registration.found).1.modules).get? module).bind (·.get? name)).map
      ((symbols.enterAll registration.found).1.definition? name) = _
    rw [hmodules]
    exact hold module name

/-- **What all files do to the indexes.** -/
theorem registerAll_isIndexed (registrations : List Registration) :
    IsIndexed registrations (registerAll registrations) := by
  induction registrations using List.reverseRecOn with
  | nil => exact ⟨rfl, fun _ _ => rfl⟩
  | append_singleton registrations registration ih =>
    rw [registerAll_concat]
    exact ih.registerOne registration

/-! ## Coherence -/

theorem foldl_concat_eq (symbols : List Symbol) :
    symbols.foldl (fun found symbol => found ++ [symbol]) [] = symbols := by
  induction symbols using List.reverseRecOn with
  | nil => rfl
  | append_singleton symbols symbol ih =>
    rw [List.foldl_append, ih, List.foldl_cons, List.foldl_nil]

/-- Under a name stand all symbols of this name, and there is no entry where there is none. -/
theorem get?_indexOf (all : List Symbol) (name : String) :
    (indexOf all).get? name = if named name all = [] then none else some (named name all) := by
  split
  · next hnone =>
    refine Table.get?_eq_none fun hkey => ?_
    obtain ⟨symbol, hsymbol, hname⟩ := List.mem_map.mp (Table.mem_keys_grouped_iff.mp hkey)
    have hmem := mem_named_iff.mpr ⟨hsymbol, hname⟩
    rw [hnone] at hmem
    cases hmem
  · next hsome =>
    obtain ⟨symbol, hsymbol⟩ := List.exists_mem_of_ne_nil _ hsome
    obtain ⟨hmem, hname⟩ := mem_named_iff.mp hsymbol
    unfold indexOf
    rw [Table.get?_grouped (List.mem_map.mpr ⟨symbol, hmem, hname⟩)]
    exact congrArg some (foldl_concat_eq _)

def entry? (symbols : Symbols) (module name : String) : Option Symbol :=
  (symbols.place? module name).bind (symbols.definition? name)

namespace IsIndexed

variable (h : IsIndexed registrations symbols)

include h

theorem entry?_eq (module name : String) :
    symbols.entry? module name = current? registrations module name := by
  have hplaces := h.places module name
  unfold entry?
  cases hplace : symbols.place? module name with
  | none =>
    rw [hplace, Option.map_none, eq_comm, Option.map_eq_none_iff] at hplaces
    exact hplaces.symm
  | some position =>
    rw [hplace, Option.map_some] at hplaces
    obtain ⟨symbol, hsymbol, heq⟩ := Option.map_eq_some_iff.mp hplaces.symm
    rw [hsymbol, Option.bind_some, heq]

theorem get?_definitions (name : String) :
    symbols.definitions.get? name =
      if named name (registered registrations) = [] then none
      else some (named name (registered registrations)) := by
  rw [h.definitions, get?_indexOf]

/-- A name is looked for in its module first, and then among all symbols in their order. -/
theorem lookup?_eq (hmodule : module ≠ "") (name : String) :
    symbols.lookup? name (some module) =
      (symbols.entry? module name).or ((registered registrations).find? (·.name == name)) := by
  have hkept : (some module).filter (!·.isEmpty) = some module := by
    simp [Option.filter, hmodule]
  have hplaces := h.places module name
  unfold lookup? positionOf? entry?
  rw [hkept, Option.bind_some, ← place?]
  cases hplace : symbols.place? module name with
  | some position =>
    -- a place is the place of some symbol, so the fallback is not asked
    rw [hplace, Option.map_some] at hplaces
    obtain ⟨symbol, -, heq⟩ := Option.map_eq_some_iff.mp hplaces.symm
    rw [Option.bind_some, ← heq]
    rfl
  | none =>
    rw [Option.bind_none, Option.none_or, ← List.head?_filter, ← named]
    dsimp only
    unfold Table.hasKey definition?
    rw [h.get?_definitions]
    by_cases hnone : named name (registered registrations) = []
    · simp [hnone]
    · simp [hnone, List.head?_eq_getElem?]

end IsIndexed

/-- Two indexes that agree with each other and with what was registered. -/
structure IsCoherent (registrations : List Registration) (symbols : Symbols) : Prop where
  /-- No place of a table is empty. -/
  filled : ∀ module name position, symbols.place? module name = some position →
    ∃ symbol, symbols.definition? name position = some symbol ∧
      symbols.entry? module name = some symbol
  /-- The symbol of a module has the name that it stands under and the name of the module, and it is
  one of those that are kept under its name. -/
  own : ∀ module name symbol, symbols.entry? module name = some symbol →
    symbol.name = name ∧ symbol.module = module ∧
      ∃ found, symbols.definitions.get? name = some found ∧ symbol ∈ found
  /-- The latest file that could be read tells what a module has. -/
  latest : ∀ module name, symbols.entry? module name = current? registrations module name
  definitions : ∀ name found, (name, found) ∈ symbols.definitions →
    found ≠ [] ∧ ∀ symbol ∈ found, symbol.name = name
  /-- A lookup gives the symbol of the module, and else the first that was registered under the
  name. -/
  lookup : ∀ module name, module ≠ "" →
    symbols.lookup? name (some module) =
      (symbols.entry? module name).or ((registered registrations).find? (·.name == name))
  /-- It fails exactly when no symbol of the name was registered. -/
  missing : ∀ module name, module ≠ "" →
    (symbols.lookup? name (some module) = none ↔
      ∀ symbol ∈ registered registrations, symbol.name ≠ name)

namespace IsIndexed

theorem mem_of_current? {symbol : Symbol} (h : current? registrations module name = some symbol) :
    symbol ∈ named name (registered registrations) ∧ symbol.module = module := by
  unfold current? lastWhole? at h
  obtain ⟨registration, hlast, hsymbol⟩ := Option.bind_eq_some_iff.mp h
  obtain ⟨hregistration, hwhole⟩ := List.mem_filter.mp (List.mem_of_getLast? hlast)
  obtain ⟨hmem, hname⟩ := mem_named_iff.mp (List.mem_of_getLast? hsymbol)
  refine ⟨mem_named_iff.mpr ⟨List.mem_flatMap.mpr ⟨registration, hregistration, hmem⟩, hname⟩, ?_⟩
  rw [module_of_mem_symbols hmem]
  simpa using (Bool.and_eq_true_iff.mp hwhole).2

/-- Tables in step with the registrations agree with each other. -/
theorem isCoherent (h : IsIndexed registrations symbols) : IsCoherent registrations symbols where
  filled module name position hplace := by
    have hplaces := h.places module name
    rw [hplace, Option.map_some] at hplaces
    obtain ⟨symbol, -, heq⟩ := Option.map_eq_some_iff.mp hplaces.symm
    refine ⟨symbol, heq.symm, ?_⟩
    unfold entry?
    rw [hplace, Option.bind_some, heq]
  own module name symbol hentry := by
    rw [h.entry?_eq] at hentry
    obtain ⟨hmem, hmodule⟩ := mem_of_current? hentry
    refine ⟨(mem_named_iff.mp hmem).2, hmodule, _, ?_, hmem⟩
    rw [h.get?_definitions, if_neg (List.ne_nil_of_mem hmem)]
  latest := h.entry?_eq
  definitions name found hfound := by
    have hdistinct : symbols.definitions.keys.Nodup := by
      rw [h.definitions]
      exact Table.keys_grouped_nodup _
    rw [← Table.get?_eq_some_iff hdistinct, h.get?_definitions] at hfound
    split at hfound
    · cases hfound
    · next hsome =>
      cases hfound
      exact ⟨hsome, fun symbol hsymbol => (mem_named_iff.mp hsymbol).2⟩
  lookup _ name hmodule := h.lookup?_eq hmodule name
  missing module name hmodule := by
    rw [h.lookup?_eq hmodule, Option.or_eq_none_iff, h.entry?_eq, List.find?_eq_none]
    constructor
    · rintro ⟨-, hnone⟩ symbol hsymbol
      simpa using hnone symbol hsymbol
    · intro hnone
      -- what a module itself defines is also among the definitions of all modules
      refine ⟨Option.eq_none_iff_forall_ne_some.mpr fun symbol hcurrent => ?_,
        fun symbol hsymbol => by simpa using hnone symbol hsymbol⟩
      obtain ⟨hmem, hname⟩ := mem_named_iff.mp (mem_of_current? hcurrent).1
      exact hnone symbol hmem hname

end IsIndexed

/-- **The two indexes of the symbols are coherent**, whatever files have been registered: in any
order, as whatever modules and however often, in either way, and also where files are missing or
cannot be read. -/
theorem symbol_indexes_coherent (registrations : List Registration) :
    IsCoherent registrations (registerAll registrations) :=
  (registerAll_isIndexed registrations).isCoherent

end PrivacyScan.Symbols
