import PrivacyScan.Project.Definition
import PrivacyScan.Project.FileTree
import PrivacyScan.Project.Signature

/-!
The symbols of all modules. A definition is kept once, under its name; the table of a module refers
to it by its position, so the two views cannot disagree.
-/

namespace PrivacyScan

open Source (Node)

inductive SymbolKind where
  | function
  | classType
  | constant
deriving Repr, DecidableEq

def SymbolKind.label : SymbolKind → String
  | .function => "function"
  | .classType => "class"
  | .constant => "constant"

structure Symbol where
  name : String
  kind : SymbolKind
  module : String
  file : Path
  line : Nat
  column : Nat := 0
  signature : Option Signature := none
  classInfo : Option ClassInfo := none
deriving Repr, DecidableEq

namespace Symbol

def qualifiedName (symbol : Symbol) : String := symbol.module ++ "." ++ symbol.name

def toDocument (symbol : Symbol) : Document :=
  .object [("name", .text symbol.name), ("symbol_type", .text symbol.kind.label),
    ("module", .text symbol.module), ("file_path", .text symbol.file.text),
    ("location", .list [.int symbol.line, .int symbol.column]),
    ("function_signature", .ofOption (·.toDocument) symbol.signature),
    ("class_info", .ofOption (·.toDocument) symbol.classInfo), ("value", .null)]

end Symbol

/-- All definitions by name, the position of each name of a module among them, and the qualified
names of functions that handle sensitive data. -/
structure Symbols where
  definitions : Table (List Symbol) := []
  modules : Table (Table Nat) := []
  sensitive : List String := []
deriving Repr

namespace Symbols

variable (symbols : Symbols)

/-- Enters a symbol behind the others of its name, together with the functions that it makes
sensitive. -/
def enter (symbol : Symbol) (sensitive : List String) : Symbols :=
  { symbols with
    definitions := symbols.definitions.update symbol.name [] (· ++ [symbol])
    sensitive := symbols.sensitive ++ sensitive }

def nextPosition (name : String) : Nat :=
  ((symbols.definitions.get? name).getD []).length

/-- The symbol of a definition; a function whose result is personal is sensitive. -/
def ofDefinition (module : String) (file : Path) (definition : Definition) : Symbol × List String :=
  let returnsPersonal := definition.returnsPersonal.getD false
  match definition.kind with
  | .function =>
    ({ name := definition.name, kind := .function, module, file, line := definition.line
       signature := some { name := definition.name, returnsPersonal } },
      if returnsPersonal then [module ++ "." ++ definition.name] else [])
  | .classType =>
    ({ name := definition.name, kind := .classType, module, file, line := definition.line }, [])

/-- The symbols of a statement of a Python module; a function with sensitive operations is
sensitive, in a class as well. -/
def ofStatement (module : String) (file : Path) (node : Node) :
    Outcome (List (Symbol × List String)) := do
  let place := node.place
  let sensitiveOf (signature : Signature) : List String :=
    if signature.operations.isEmpty then [] else [module ++ "." ++ signature.name]
  match node with
  | .functionDef .. =>
    match ← Signature.ofNode? node with
    | some signature =>
      return [({ name := signature.name, kind := .function, module, file, line := place.line
                 column := place.column, signature := some signature }, sensitiveOf signature)]
    | none => return []
  | .classDef .. =>
    match ← ClassInfo.ofNode? node with
    | some (info, methods) =>
      return [({ name := info.name, kind := .classType, module, file, line := place.line
                 column := place.column, classInfo := some info }, methods.flatMap sensitiveOf)]
    | none => return []
  | .assign _ targets _ =>
    return ((targets.filterMap (·.name?)).filter Text.isAllUppercase).map fun id =>
      ({ name := id, kind := .constant, module, file, line := place.line, column := place.column },
        [])
  | _ => return []

/-- Enters symbols one after another; the table of their module gets the last of each name. -/
def enterAll (found : List (Symbol × List String)) : Symbols × Table Nat :=
  found.foldl (fun (state, table) (symbol, sensitive) =>
    (state.enter symbol sensitive, table.set symbol.name (state.nextPosition symbol.name)))
    (symbols, [])

def enterModule (module : String) (found : List (Symbol × List String)) : Symbols :=
  let (entered, table) := symbols.enterAll found
  { entered with modules := entered.modules.set module table }

/-- Enters the statements up to one that cannot be read. -/
def readStatements (module : String) (file : Path) :
    List Node → Outcome Unit × List (Symbol × List String)
  | [] => (.ok (), [])
  | node :: rest =>
    match ofStatement module file node with
    | .error fault => (.error fault, [])
    | .ok found =>
      let (outcome, others) := readStatements module file rest
      (outcome, found ++ others)

/-- Enters the symbols of a file: its definitions when the language is given, and else the
statements of a Python module in detail. A file that is missing or does not parse is passed over. -/
def register (workspace : Workspace) (file : Path) (module : String)
    (language : Option Language) : Symbols × Outcome Unit :=
  match workspace.read? file, language with
  | none, _ => (symbols, .ok ())
  | some code, some language =>
    (symbols.enterModule module ((language.definitions code).map (ofDefinition module file)),
      .ok ())
  | some code, none =>
    match Source.parseModule? code with
    | some (.module body) =>
      match readStatements module file body with
      | (.ok (), found) => (symbols.enterModule module found, .ok ())
      | (.error fault, found) => ((symbols.enterAll found).1, .error fault)
    | _ => (symbols, .ok ())

def exportsOf (module : String) : List String :=
  Text.sortedDistinct ((symbols.modules.get? module).getD []).keys

def definition? (name : String) (position : Nat) : Option Symbol :=
  ((symbols.definitions.get? name).getD [])[position]?

/-- The place of a symbol: in the module that is asked for, or else the first of its name. -/
def positionOf? (name : String) (module : Option String) : Option Nat :=
  let inModule := (module.filter (!·.isEmpty)).bind fun module =>
    (symbols.modules.get? module).bind (·.get? name)
  match inModule with
  | some position => some position
  | none => if symbols.definitions.hasKey name then some 0 else none

def lookup? (name : String) (module : Option String := none) : Option Symbol :=
  (symbols.positionOf? name module).bind (symbols.definition? name)

def signature? (name : String) (module : Option String) : Option Signature :=
  (symbols.lookup? name module).bind (·.signature)

def class? (name : String) (module : Option String) : Option ClassInfo :=
  (symbols.lookup? name module).bind (·.classInfo)

def isSensitive (name module : String) : Bool :=
  symbols.sensitive.contains (module ++ "." ++ name)

def functionsWith (property : Signature → Bool) : List String :=
  (symbols.definitions.values.flatten.filter fun symbol => symbol.signature.any property).map
    (·.qualifiedName)

def annotate (name : String) (module : Option String) (change : Signature → Signature) : Symbols :=
  match symbols.positionOf? name module with
  | none => symbols
  | some position =>
    { symbols with
      definitions := symbols.definitions.update name [] fun found =>
        found.modify position fun symbol =>
          { symbol with signature := symbol.signature.map change } }

end Symbols

end PrivacyScan
