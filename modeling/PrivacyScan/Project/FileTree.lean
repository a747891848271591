import PrivacyScan.Fault
import PrivacyScan.Path

/-!
The files of a project. A directory lists its entries by name in the order of code points.
-/

namespace PrivacyScan

inductive FileTree where
  | file (content : String)
  | directory (entries : List (String × FileTree))
deriving Repr

namespace FileTree

def empty : FileTree := .directory []

/-- The entries of a directory; a file has none. -/
def entries : FileTree → List (String × FileTree)
  | .directory entries => entries
  | .file _ => []

/-- Puts an entry in its place among the others, where it replaces one of the same name. -/
def enter (name : String) (tree : FileTree) : List (String × FileTree) → List (String × FileTree)
  | [] => [(name, tree)]
  | (other, old) :: rest =>
    if name == other then (name, tree) :: rest
    else if name < other then (name, tree) :: (other, old) :: rest
    else (other, old) :: enter name tree rest

def insert (tree : FileTree) (parts : List String) (new : FileTree) : FileTree :=
  match parts with
  | [] => new
  | name :: rest =>
    .directory (enter name (insert ((tree.entries.lookup name).getD empty) rest new) tree.entries)

/-- What stands at a place, from a tree inside others. A step up from the outermost directory stays
there. Messages name the place as it is shown. -/
def walk (shown : String) (outer : List FileTree) (tree : FileTree) : List String → Outcome FileTree
  | [] => .ok tree
  | name :: rest =>
    match tree with
    | .file _ => .error (.notADirectory shown)
    | .directory entries =>
      if name == ".." then
        match outer with
        | parent :: further => walk shown further parent rest
        | [] => walk shown [] tree rest
      else
        match entries.lookup name with
        | some inner => walk shown (tree :: outer) inner rest
        | none => .error (.missingFile shown)

/-- A tree from texts under their paths; a path that ends in a slash is an empty directory. -/
def ofTexts (files : List (String × String)) : FileTree :=
  files.foldl (fun tree (path, content) =>
    tree.insert (Path.ofText path).parts (if Text.endsWith path "/" then empty else .file content))
    empty

end FileTree

/-- A directory at a place of the file system, and the directory that relative paths start at. -/
structure Workspace where
  root : Path
  tree : FileTree
  working : Path := root
deriving Repr

namespace Workspace

variable (workspace : Workspace) (path : Path)

/-- The absolute path to the same place. -/
def resolve : Path := (workspace.working.join path).resolved

def find : Outcome FileTree :=
  match (workspace.working.join path).relativeTo? workspace.root with
  | some inside => workspace.tree.walk path.text [] inside.parts
  | none => .error (.missingFile path.text)

def at? : Option FileTree := (workspace.find path).toOption

/-- A file can be written where there is a directory for it and no directory in its place. -/
def checkWritable : Outcome Unit :=
  match workspace.find path with
  | .ok (.directory _) => .error (.isADirectory path.text)
  | .ok (.file _) => .ok ()
  | .error (.missingFile shown) =>
    match workspace.find path.parent with
    | .ok _ => .ok ()
    | .error _ => .error (.missingFile shown)
  | .error fault => .error fault

/-- The text of a file with line feeds for all line ends. -/
def read? : Option String :=
  match workspace.at? path with
  | some (.file content) => some (String.ofList (Text.unifyLineEnds content.toList))
  | _ => none

end Workspace

end PrivacyScan
