import PrivacyScan.Project.Definition
import PrivacyScan.Project.FileTree
import PrivacyScan.Table

/-!
Modules and what they take from each other. A module has a name of its own: dotted for Python, the
path for any other file.
-/

namespace PrivacyScan

/-- A name that a module takes from another one; `isWhole` tells an import of the module itself. -/
structure ImportedSymbol where
  name : String
  source : String
  originalName : String
  isWhole : Bool
  line : Nat
deriving Repr, DecidableEq, Inhabited

/-- The exports and the dependencies are sorted. -/
structure Module where
  path : Path
  package : String
  imports : List ImportedSymbol := []
  exports : List String := []
  dependencies : List String := []
deriving Repr, DecidableEq

def ImportedSymbol.toDocument (imported : ImportedSymbol) : Document :=
  .object [("name", .text imported.name), ("source_module", .text imported.source),
    ("original_name", .text imported.originalName),
    ("import_type", .text (if imported.isWhole then "import" else "from_import")),
    ("location", .list [.int imported.line, .int 0])]

def Module.toDocument (module : Module) : Document :=
  .object [("path", .text module.path.text), ("package", .text module.package),
    ("imports", .list (module.imports.map (·.toDocument))), ("exports", .texts module.exports),
    ("dependencies", .texts module.dependencies)]

structure Resolver where
  root : Path
  modules : Table Module := []
  packages : List (Path × String) := []
deriving Repr

namespace Resolver

/-- The name of the module in a file: below the root, a Python file has its path with dots and any
other file its path; a file elsewhere has its own name. -/
def packageName (root file : Path) : String :=
  match file.relativeTo? root with
  | none => file.name
  | some inside =>
    if file.suffix == ".py" then
      let stem := Text.take (Text.length file.name - 3) file.name
      Text.join "." (inside.parts.dropLast ++ if stem == "__init__" then [] else [stem])
    else inside.text

def symbolsOf (imported : Import) : List ImportedSymbol :=
  if imported.names.isEmpty then
    [{ name := imported.source, source := imported.source, originalName := imported.source
       isWhole := true, line := imported.line }]
  else imported.names.map fun name =>
    { name, source := imported.source, originalName := name, isWhole := false
      line := imported.line }

/-- A module with the contents of its code; nothing is known of code whose imports cannot be
read. -/
def readModule (module : Module) (language : Language) (code : String) : Module :=
  match language.imports code with
  | .error _ => module
  | .ok imports =>
    { module with
      imports := imports.flatMap symbolsOf
      dependencies := Text.sortedDistinct (imports.map (·.source))
      exports := Text.sortedDistinct
        (((language.definitions code).filter (·.isExported)).map (·.name)) }

/-- Reads the module in a file, unless one of its name has been read. -/
def analyze (resolver : Resolver) (workspace : Workspace) (file : Path)
    (language : Option Language) : Resolver × Module :=
  let path := workspace.resolve file
  let package := packageName resolver.root path
  match resolver.modules.get? package with
  | some known => (resolver, known)
  | none =>
    let empty : Module := { path, package }
    let module := match language, workspace.read? path with
      | some language, some code => readModule empty language code
      | _, _ => empty
    ({ resolver with
        modules := resolver.modules.set package module
        packages := resolver.packages ++ [(path, package)] }, module)

def dependencies (resolver : Resolver) : Table (List String) :=
  resolver.modules.map fun (package, module) => (package, module.dependencies)

def packageAt? (resolver : Resolver) (path : Path) : Option String :=
  (resolver.packages.reverse.lookup path).filter (!·.isEmpty)

def moduleEndings : List String := [".ts", ".tsx", ".js", ".jsx", ".py"]

/-- The module that a relative path names: as it stands, with an ending in place of its own, or as a
directory with an index file. -/
def resolveRelative? (resolver : Resolver) (text current : String) : Option String := do
  let module ← resolver.modules.get? current
  let target := (module.path.parent.child text).resolved
  match resolver.packageAt? target with
  | some package => some package
  | none =>
    let variants ← moduleEndings.mapM target.withSuffix?
    (variants ++ moduleEndings.map fun ending => target.child ("index" ++ ending)).findSome?
      resolver.packageAt?

def resolveSymbol? (resolver : Resolver) (name current : String) : Option String := do
  let module ← resolver.modules.get? current
  if module.exports.contains name then some current
  else
    let imported ← module.imports.find? (·.name == name)
    if Text.startsWith imported.source "." then
      some ((resolver.resolveRelative? imported.source current).getD imported.source)
    else some imported.source

end Resolver

end PrivacyScan
