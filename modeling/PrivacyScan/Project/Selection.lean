import PrivacyScan.Config

/-!
Which files of a project are scanned. The tree is walked depth first; hidden directories and those
of tools are left out as a whole, and files by their place, name and size.
-/

namespace PrivacyScan.Project

def ignoredDirectories : List String := ["node_modules", "venv", "env", ".venv", ".git",
  "__pycache__", "dist", "build", "site-packages", "eggs", ".eggs", ".tox", ".mypy_cache",
  ".pytest_cache"]

def isIgnoredDirectory (name : String) : Bool :=
  Text.startsWith name "." || ignoredDirectories.contains name

mutual

def filesAt (place : Path) (name : String) : FileTree → List (Path × String)
  | .file content => [({ place with parts := place.parts ++ [name] }, content)]
  | .directory entries =>
    if isIgnoredDirectory name then []
    else filesIn { place with parts := place.parts ++ [name] } entries

def filesIn (place : Path) : List (String × FileTree) → List (Path × String)
  | [] => []
  | (name, tree) :: rest => filesAt place name tree ++ filesIn place rest

end

def filesBelow (workspace : Workspace) (root : Path) : Outcome (List (Path × String)) := do
  match ← workspace.find root with
  | .directory entries => return filesIn root entries
  | .file _ => .error (.notADirectory root.text)

def isSupported (config : Config) (file : Path) : Bool :=
  config.containerFiles.contains file.name ||
    (config.pythonEndings ++ config.scriptEndings ++ config.settingEndings).contains file.suffix

def isSelected (config : Config) (file : Path) (content : String) : Outcome Bool := do
  if ← (config.excludePatterns.elements).bind (matchesAnyGlob file.text) then return false
  return isSupported config file && decide ((content.utf8ByteSize : Int) ≤ config.maxFileSize)

/-- The selected files, at most `more` of them behind the first. -/
def selectFrom (config : Config) (more : Option Nat) : List (Path × String) → Outcome (List Path)
  | [] => .ok []
  | (file, content) :: rest => do
    if ← isSelected config file content then
      match more with
      | some 0 => return [file]
      | some (more + 1) => return file :: (← selectFrom config (some more) rest)
      | none => return file :: (← selectFrom config none rest)
    else selectFrom config more rest

/-- The files that are scanned, in the order of the walk. A limit of zero is none; any other limit
leaves at least one file. -/
def selectedFiles (config : Config) (workspace : Workspace) : Outcome (List Path) := do
  let more := (config.maxFiles.filter (· != 0)).map fun limit => (limit - 1).toNat
  selectFrom config more (← filesBelow workspace config.root)

end PrivacyScan.Project
