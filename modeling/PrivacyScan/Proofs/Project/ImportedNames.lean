import PrivacyScan.Proofs.Project.ImportLines
import PrivacyScan.Proofs.Project.Resolution

/-!
# Names that are imported under another name

Code can import a name and call it by another one. Of the two names only one is kept: Python code
keeps the name that the other module has for it, a script the name that it chose itself. The name
that is kept is then taken for both.

* **`exists_import_of_isIn`** — each import under another name is read, with the name that is kept;
* **`module_name_eq_originalName`** — the symbols that a module imports have this name only.
-/

namespace PrivacyScan

open Source (Node)

/-- A name that code imports and calls by a name of its own choice: the module that it comes from,
its name there, and its name in the code. A module that is imported as a whole has its own name
there. -/
structure RenamedImport where
  source : String
  original : String
  binding : String
deriving Repr, DecidableEq

namespace RenamedImport

/-! ## Imports under another name in Python -/

def ofNode : Node → List RenamedImport
  | .importing _ names => names.filterMap fun
    | .importAs _ id (some binding) => some { source := id, original := id, binding }
    | _ => none
  | .importingFrom _ (some source) _ names => names.filterMap fun
    | .importAs _ id (some binding) => some { source, original := id, binding }
    | _ => none
  | _ => []

def ofPython (code : String) : List RenamedImport :=
  match Source.parseModule? code with
  | some tree => tree.walk.flatMap ofNode
  | none => []

/-! ## Imports under another name in scripts -/

/-- The line imports the name, among others that may stand in the braces with it. -/
structure IsWritten (named : RenamedImport) (line : String) : Prop where
  original : Import.IsName named.original
  binding : Import.IsName named.binding
  line : ∃ names, Import.IsBraced line names named.source ∧
    named.original ++ " as " ++ named.binding ∈ (Text.split names ",").map Text.trim

def IsIn (named : RenamedImport) (code : String) : Language → Prop
  | .python => named ∈ ofPython code
  | .script => ∃ line ∈ Text.lines code, named.IsWritten line

def kept (named : RenamedImport) : Language → String
  | .python => named.original
  | .script => named.binding

def IsKept (named : RenamedImport) (language : Language) (module : Module) : Prop :=
  ∃ symbol ∈ module.imports, symbol.source = named.source ∧ symbol.name = named.kept language

theorem kept_eq_original {named : RenamedImport} (hsame : named.binding = named.original)
    (language : Language) : named.kept language = named.original := by
  cases language with
  | python => rfl
  | script => exact hsame

end RenamedImport

namespace Import

variable {named : RenamedImport} {code line : String}

/-! ## Which of the two names is read -/

/-- A renamed import of a script is kept under its new name. -/
theorem exists_import_of_isWritten (h : named.IsWritten line) {number : Nat}
    {result : Option Import}
    (hread : ofScriptLine? line number = .ok result) :
    ∃ imported, result = some imported ∧ imported.source = named.source ∧
      named.binding ∈ imported.names := by
  obtain ⟨horiginal, hbinding, names, hbraced, hpart⟩ := h
  have hnamed : names ≠ "" := by
    rintro rfl
    have hparts : (Text.split "" ",").map Text.trim = [""] := by decide
    rw [hparts, List.mem_singleton] at hpart
    simpa using congrArg String.toList hpart
  obtain ⟨found, hfound, hnames, hsource⟩ := search?_importPattern hbraced hnamed
  unfold ofScriptLine? at hread
  rw [hfound] at hread
  dsimp only at hread
  rw [hnames] at hread
  dsimp only at hread
  rw [bracedNames_eq hbraced.listed hnamed] at hread
  obtain ⟨bound, hbound, hread⟩ := Outcome.bind_eq_ok.mp hread
  obtain ⟨name, hname, hkept⟩ := Outcome.exists_result_of_mapM hbound hpart
  rw [boundName_eq horiginal hbinding] at hkept
  cases hkept
  exact ⟨_, (Except.ok.inj hread).symm, hsource, hname⟩

/-- A renamed import of Python is kept under its old name. -/
theorem exists_import_of_mem_ofNode {node : Node} (h : named ∈ RenamedImport.ofNode node) :
    ∃ imported ∈ Import.ofNode node, imported.source = named.source ∧
      (named.original ∈ imported.names ∨ imported.names = [] ∧ named.original = named.source) := by
  unfold RenamedImport.ofNode at h
  unfold Import.ofNode
  dsimp only
  split at h
  · next place names =>
    obtain ⟨part, hpart, hnamed⟩ := List.mem_filterMap.mp h
    split at hnamed
    · next id binding =>
      cases hnamed
      exact ⟨_, List.mem_map_of_mem (List.mem_filterMap.mpr ⟨_, hpart, rfl⟩), rfl, .inr ⟨rfl, rfl⟩⟩
    · cases hnamed
  · next place source level names =>
    obtain ⟨part, hpart, hnamed⟩ := List.mem_filterMap.mp h
    split at hnamed
    · next id binding =>
      cases hnamed
      exact ⟨_, List.mem_singleton_self _, rfl, .inl (List.mem_filterMap.mpr ⟨_, hpart, rfl⟩)⟩
    · cases hnamed
  · cases h

/-- The two languages keep different names of a renamed import. -/
theorem exists_import_of_isIn {language : Language} {imports : List Import}
    (h : named.IsIn code language) (hread : language.imports code = .ok imports) :
    ∃ imported ∈ imports, imported.source = named.source ∧
      (named.kept language ∈ imported.names ∨
        imported.names = [] ∧ named.kept language = named.source) := by
  cases language with
  | python =>
    cases hread
    unfold RenamedImport.IsIn RenamedImport.ofPython at h
    unfold Import.ofPython
    cases htree : Source.parseModule? code with
    | none =>
      rw [htree] at h
      cases h
    | some tree =>
      rw [htree] at h
      obtain ⟨node, hnode, hnamed⟩ := List.mem_flatMap.mp h
      obtain ⟨imported, himported, hkept⟩ := exists_import_of_mem_ofNode hnamed
      exact ⟨imported, List.mem_flatMap.mpr ⟨node, hnode, himported⟩, hkept⟩
  | script =>
    obtain ⟨line, hline, hwritten⟩ := h
    obtain ⟨number, result, hresult, hamong⟩ := exists_result_of_mem_lines hread hline
    obtain ⟨imported, rfl, hsource, hbinding⟩ := exists_import_of_isWritten hwritten hresult
    exact ⟨imported, hamong imported rfl, hsource, .inl hbinding⟩

end Import

namespace Resolver

variable {reading : Reading} {language : Language} {code : String} {named : RenamedImport}

/-! ## What is entered for an import -/

theorem name_eq_originalName {imported : Import} {symbol : ImportedSymbol}
    (h : symbol ∈ symbolsOf imported) : symbol.name = symbol.originalName := by
  unfold symbolsOf at h
  split at h
  · rw [List.mem_singleton.mp h]
  · obtain ⟨name, _, rfl⟩ := List.mem_map.mp h
    rfl

theorem module_name_eq_originalName (root : Path) (reading : Reading) :
    ∀ symbol ∈ (reading.module root).imports, symbol.name = symbol.originalName := by
  intro symbol hsymbol
  rcases module_cases root reading with h | ⟨language, code, h⟩
  · rw [h] at hsymbol
    cases hsymbol
  · rw [h, readModule] at hsymbol
    split at hsymbol
    · cases hsymbol
    · obtain ⟨imported, _, hsymbol⟩ := List.mem_flatMap.mp hsymbol
      exact name_eq_originalName hsymbol

theorem exists_symbol {imported : Import} {name : String}
    (h : name ∈ imported.names ∨ imported.names = [] ∧ name = imported.source) :
    ∃ symbol ∈ symbolsOf imported, symbol.source = imported.source ∧ symbol.name = name := by
  unfold symbolsOf
  rcases h with hname | ⟨hnames, rfl⟩
  · have hsome : ¬ imported.names.isEmpty = true := by
      rw [List.isEmpty_iff]
      exact List.ne_nil_of_mem hname
    rw [if_neg hsome]
    exact ⟨_, List.mem_map_of_mem hname, rfl, rfl⟩
  · rw [hnames]
    exact ⟨_, List.mem_singleton_self _, rfl, rfl⟩

theorem module_eq_readModule (root : Path) (hlanguage : reading.language = some language)
    (hcode : reading.workspace.read? reading.path = some code) :
    reading.module root =
      readModule { path := reading.path, package := reading.name root } language code := by
  unfold Reading.path at hcode
  unfold Reading.module analyze
  dsimp only
  rw [show Table.get? ([] : Table Module) _ = none from rfl, hlanguage, hcode]
  rfl

/-- The symbol of an import under another name has the name that is kept. -/
theorem isKept_of_isIn (root : Path) (hlanguage : reading.language = some language)
    (hcode : reading.workspace.read? reading.path = some code)
    (hreadable : Import.IsReadable code language) (hnamed : named.IsIn code language) :
    named.IsKept language (reading.module root) := by
  obtain ⟨imports, himports⟩ := Import.completes_imports_iff.mpr hreadable
  obtain ⟨imported, himported, hsource, hkept⟩ := Import.exists_import_of_isIn hnamed himports
  -- a module that is imported as a whole is entered under its own name
  rw [← hsource] at hkept
  obtain ⟨symbol, hsymbol, hfrom, hname⟩ := exists_symbol hkept
  rw [module_eq_readModule root hlanguage hcode, readModule, himports]
  exact ⟨symbol, List.mem_flatMap.mpr ⟨imported, himported, hsymbol⟩, hfrom.trans hsource, hname⟩

/-- Nothing is known of the imports of code that cannot be read. -/
theorem imports_eq_nil (root : Path) (hlanguage : reading.language = some language)
    (hcode : reading.workspace.read? reading.path = some code)
    (hreadable : ¬ Import.IsReadable code language) : (reading.module root).imports = [] := by
  rw [← Import.completes_imports_iff, Outcome.not_completes_iff] at hreadable
  obtain ⟨fault, hfault⟩ := hreadable
  rw [module_eq_readModule root hlanguage hcode, readModule, hfault]

end Resolver

namespace RenamedImport

variable (named : RenamedImport)

/-- The import is entered as it is written: under its name in the code, with the name that it stands
for. -/
def IsEntered (module : Module) : Prop :=
  ∃ symbol ∈ module.imports, symbol.source = named.source ∧ symbol.name = named.binding ∧
    symbol.originalName = named.original

/-- The name in the code stands for this import and for nothing else. -/
structure IsAlone (language : Language) (module : Module) : Prop where
  unexported : named.binding ∉ module.exports
  unshared : ∀ symbol ∈ module.imports, symbol.name = named.binding →
    symbol.source = named.source ∧ named.kept language = named.binding

/-- The module that the import names, by a path from the module that it is in or by its name. -/
def target (resolver : Resolver) (current : String) : String :=
  if Text.startsWith named.source "." then
    (resolver.resolveRelative? named.source current).getD named.source
  else named.source

variable {named} {resolver : Resolver} {language : Language} {current : String} {module : Module}

theorem isEntered_iff (honly : ∀ symbol ∈ module.imports, symbol.name = symbol.originalName)
    (hkept : named.IsKept language module) :
    named.IsEntered module ↔ named.binding = named.original := by
  constructor
  · rintro ⟨symbol, hsymbol, _, hname, horiginal⟩
    rw [← hname, ← horiginal]
    exact honly symbol hsymbol
  · intro hsame
    obtain ⟨symbol, hsymbol, hsource, hname⟩ := hkept
    rw [kept_eq_original hsame] at hname
    exact ⟨symbol, hsymbol, hsource, by rw [hname, hsame], by rw [← honly symbol hsymbol, hname]⟩

/-- The name in the code leads to the other module exactly when it is the name that is kept. -/
theorem resolveSymbol?_binding (hmodule : resolver.modules.get? current = some module)
    (halone : named.IsAlone language module) (hkept : named.IsKept language module) :
    resolver.resolveSymbol? named.binding current =
      if named.kept language = named.binding then some (named.target resolver current)
        else none := by
  rw [Resolver.resolveSymbol?_eq hmodule, if_neg halone.unexported]
  cases hfind : module.imports.find? (·.name == named.binding) with
  | none =>
    have hbound : named.kept language ≠ named.binding := by
      intro hbinding
      obtain ⟨symbol, hsymbol, _, hname⟩ := hkept
      simpa [hname, hbinding] using List.find?_eq_none.mp hfind symbol hsymbol
    rw [if_neg hbound]
    rfl
  | some symbol =>
    have hname : symbol.name = named.binding := by simpa using List.find?_some hfind
    obtain ⟨hsource, hbinding⟩ := halone.unshared symbol (List.mem_of_find?_eq_some hfind) hname
    rw [if_pos hbinding, Option.map_some, hsource]
    rfl

end RenamedImport

namespace CrossFile

variable {cross : CrossFile} {named : RenamedImport} {module : Module} {current : String}
  {context dependency : ModuleContext} {records : List Taint.Record}

/-! ## Taint that is handed on to an import -/

def HandsOnOnly (dependency : ModuleContext) (original : String) (records : List Taint.Record) :
    Prop :=
  ∀ name, dependency.exported.get? name = if name = original then some records else none

/-- **The taint of a name arrives under this name where it is imported**, and else nothing does. -/
theorem importNames_fst {original : String} (hexported : HandsOnOnly dependency original records)
    {imports : List ImportedSymbol} (honly : ∀ symbol ∈ imports, symbol.name = symbol.originalName)
    (context : ModuleContext) :
    (importNames dependency imports context).1 =
      if original ∈ imports.map (·.name) then
        { context with imported := context.imported.set original records }
      else context := by
  induction imports generalizing context with
  | nil => rfl
  | cons symbol rest ih =>
    obtain ⟨hsymbol, hrest⟩ := List.forall_mem_cons.mp honly
    have ih := ih hrest
    unfold importNames
    rw [hexported, ← hsymbol]
    by_cases hname : symbol.name = original
    · rw [if_pos hname, if_pos (by simp [hname])]
      dsimp only
      rw [hname]
      split
      · -- a later import of the name finds its records in place
        rw [ih]
        split
        · dsimp only
          rw [Table.set_eq_self (Table.get?_set_self _ _ _)]
        · rfl
      · rfl
    · rw [if_neg hname]
      dsimp only
      rw [ih]
      simp [Ne.symm hname]

/-- The taint of the other module's name arrives under the name in the code exactly when the two are
the same. -/
theorem importFrom_binding_iff {language : Language}
    (hmodule : cross.resolver.modules.get? current = some module)
    (honly : ∀ symbol ∈ module.imports, symbol.name = symbol.originalName)
    (hkept : named.IsKept language module)
    (hcontext : cross.contexts.get? current = some context)
    (hdependency : cross.contexts.get? named.source = some dependency)
    (hexported : HandsOnOnly dependency named.original records)
    (hnew : context.imported.get? named.binding = none) :
    ((cross.importFrom current named.source).1.contexts.get? current).bind
        (·.imported.get? named.binding) = some records ↔ named.binding = named.original := by
  have hfrom : (cross.importFrom current named.source).1.contexts.get? current =
      some (importNames dependency
        (module.imports.filter (·.source == named.source)) context).1 := by
    unfold importFrom
    rw [hcontext, hdependency, hmodule]
    exact Table.get?_set_self _ _ _
  have honly : ∀ symbol ∈ module.imports.filter (·.source == named.source),
      symbol.name = symbol.originalName :=
    fun symbol hsymbol => honly symbol (List.mem_filter.mp hsymbol).1
  rw [hfrom, Option.bind_some, importNames_fst hexported honly]
  constructor
  · intro harrived
    by_contra hdiffer
    -- what is set is set under another name
    have hkeeps : (context.imported.set named.original records).get? named.binding = none := by
      rw [Table.get?_set_of_ne _ _ hdiffer, hnew]
    split at harrived
    · rw [hkeeps] at harrived
      cases harrived
    · rw [hnew] at harrived
      cases harrived
  · intro hsame
    obtain ⟨symbol, hsymbol, hsource, hname⟩ := hkept
    have himported : named.original ∈
        (module.imports.filter (·.source == named.source)).map (·.name) := by
      rw [← RenamedImport.kept_eq_original hsame language, ← hname]
      exact List.mem_map_of_mem (List.mem_filter.mpr ⟨hsymbol, by simp [hsource]⟩)
    rw [if_pos himported, hsame]
    exact Table.get?_set_self _ _ _

end CrossFile

namespace RenamedImport

open Resolver (Reading readAll)

/-- What becomes of an import under another name in a module that has been read. -/
structure KeepsOneName (named : RenamedImport) (language : Language) (resolver : Resolver)
    (current : String) (module : Module) : Prop where
  /-- One name is kept and stands for both. -/
  kept : ∃ symbol ∈ module.imports, symbol.source = named.source ∧
    symbol.name = named.kept language ∧ symbol.originalName = named.kept language
  entered : named.IsEntered module ↔ named.binding = named.original
  resolved : named.IsAlone language module →
    resolver.resolveSymbol? named.binding current =
      if named.kept language = named.binding then some (named.target resolver current) else none
  handedOn : ∀ (cross : CrossFile) context dependency records, cross.resolver = resolver →
    cross.contexts.get? current = some context →
    cross.contexts.get? named.source = some dependency →
    CrossFile.HandsOnOnly dependency named.original records →
    context.imported.get? named.binding = none →
    (((cross.importFrom current named.source).1.contexts.get? current).bind
      (·.imported.get? named.binding) = some records ↔ named.binding = named.original)

/-- **An import under another name keeps one name only.** Where the imports of the code can be read,
each import under another name is entered under the one that the language keeps; so it is entered as
it is written, and the taint of the name that it stands for arrives, exactly when the two names are
the same. Where they cannot be read, nothing is entered. -/
theorem renamed_import_keeps_one_name {root : Path} {readings : List Reading} {reading : Reading}
    {language : Language} {code : String} {named : RenamedImport}
    (hfirst : readings.find? (·.name root == reading.name root) = some reading)
    (hlanguage : reading.language = some language)
    (hcode : reading.workspace.read? reading.path = some code)
    (hnamed : named.IsIn code language) :
    ∃ module, (readAll root readings).modules.get? (reading.name root) = some module ∧
      (Import.IsReadable code language →
        named.KeepsOneName language (readAll root readings) (reading.name root) module) ∧
      (¬ Import.IsReadable code language → module.imports = []) := by
  have hmodule : (readAll root readings).modules.get? (reading.name root) =
      some (reading.module root) := by
    rw [(Resolver.readAll_isKnown root readings).modules, hfirst]
    rfl
  refine ⟨_, hmodule, fun hreadable => ?_, Resolver.imports_eq_nil root hlanguage hcode⟩
  have honly := Resolver.module_name_eq_originalName root reading
  have hkept := Resolver.isKept_of_isIn root hlanguage hcode hreadable hnamed
  refine ⟨?_, isEntered_iff honly hkept, fun halone => ?_, ?_⟩
  · obtain ⟨symbol, hsymbol, hsource, hname⟩ := hkept
    exact ⟨symbol, hsymbol, hsource, hname, by rw [← honly symbol hsymbol, hname]⟩
  · exact resolveSymbol?_binding hmodule halone hkept
  · intro cross context dependency records hresolver hcontext hdependency hexported hnew
    rw [← hresolver] at hmodule
    exact CrossFile.importFrom_binding_iff hmodule honly hkept hcontext hdependency hexported hnew

/-! ## An address under another name -/

def onlyFile (name code : String) (language : Language) : Reading where
  workspace := { root := { anchor := "/" }, tree := .directory [(name, .file code)] }
  file := { parts := [name] }
  language := some language

def mailScript : String := "import \x7b id, email as mail \x7d from './users'"

theorem mailScript_isBraced : Import.IsBraced mailScript " id, email as mail " "./users" where
  written := ⟨"'", "", .inl rfl, rfl⟩
  listed := @of_decide_eq_true _ (List.decidableBAll _ _) (by decide)
  full := by decide
  plain := @of_decide_eq_true _ (List.decidableBAll _ _) (by decide)

theorem mailScript_isReadable : Import.IsReadable mailScript .script := by
  have hlines : Text.lines mailScript = [mailScript] := by decide
  intro line hline
  rw [hlines, List.mem_singleton] at hline
  rw [hline]
  exact Import.hasPlainAs_of_isBraced mailScript_isBraced (by decide)

/-- A script keeps its own name for the address: the name leads to the module that has it, but the
taint of the address is looked for under a name that this module does not have. -/
theorem script_keeps_own_name :
    IsIn ⟨"./users", "email", "mail"⟩ mailScript .script ∧
      ∃ module, (readAll { anchor := "/" } [onlyFile "app.js" mailScript .script]).modules.get?
          "app.js" = some module ∧
        KeepsOneName ⟨"./users", "email", "mail"⟩ .script
          (readAll { anchor := "/" } [onlyFile "app.js" mailScript .script]) "app.js" module := by
  have hwritten : IsIn ⟨"./users", "email", "mail"⟩ mailScript .script :=
    ⟨mailScript, by decide, by decide, by decide, _, mailScript_isBraced, by decide⟩
  have hname : (onlyFile "app.js" mailScript .script).name { anchor := "/" } = "app.js" := by decide
  have hfirst : [onlyFile "app.js" mailScript .script].find? (fun other =>
      other.name { anchor := "/" } == (onlyFile "app.js" mailScript .script).name
        { anchor := "/" }) =
      some (onlyFile "app.js" mailScript .script) := by simp
  have hcode : (onlyFile "app.js" mailScript .script).workspace.read?
      (onlyFile "app.js" mailScript .script).path = some mailScript := by decide
  obtain ⟨module, hmodule, hkeeps, _⟩ := renamed_import_keeps_one_name hfirst rfl hcode hwritten
  rw [hname] at hmodule hkeeps
  exact ⟨hwritten, module, hmodule, hkeeps mailScript_isReadable⟩

def mailModule : String := "from users import email as mail\n"

/-- A Python module keeps the other module's name for the address, so its own name for it leads
nowhere. -/
theorem python_loses_own_name :
    IsIn ⟨"users", "email", "mail"⟩ mailModule .python ∧
      ((onlyFile "app.py" mailModule .python).module { anchor := "/" }).imports =
        [{ name := "email", source := "users", originalName := "email", isWhole := false,
           line := 1 }] ∧
      (readAll { anchor := "/" } [onlyFile "app.py" mailModule .python]).resolveSymbol?
        "mail" "app" = none := by
  refine ⟨?_, ?_, ?_⟩
  · show _ ∈ ofPython mailModule
    decide +kernel
  · decide +kernel
  · decide +kernel

end RenamedImport

end PrivacyScan
