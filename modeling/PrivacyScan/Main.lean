import PrivacyScan.CommandLine.Run
import PrivacyScan.Text.Utf8

/-!
The program: it reads the files that a command line is about, and writes what comes of it.
-/

namespace PrivacyScan.Program

open CommandLine

/-- The text of a file, without bytes that are no text. -/
def readText (path : String) : IO String := do
  let bytes ← IO.FS.readBinFile path
  return (String.fromUTF8? bytes).getD (Text.ofBytes bytes.toList)

/-- What stands at a path. Directories in which nothing is scanned count as empty. -/
partial def readTree (path : String) (isRoot : Bool) : IO FileTree := do
  let place := (← IO.currentDir) / path
  if !(← place.isDir) then return .file (← readText path)
  if !isRoot && Project.isIgnoredDirectory (Path.ofText path).name then return .empty
  let mut tree := FileTree.empty
  for entry in ← place.readDir do
    tree := tree.insert [entry.fileName] (← readTree entry.path.toString false)
  return tree

def note (workspace : Workspace) (path : Path) : IO Workspace := do
  let absolute := workspace.resolve path
  let place := (← IO.currentDir) / absolute.text
  if (workspace.at? absolute).isSome || !(← place.pathExists) then return workspace
  let found := if ← place.isDir then FileTree.empty else .file ""
  return { workspace with tree := workspace.tree.insert absolute.parts found }

def readWorkspace (options : Options) : IO Workspace := do
  let working := Path.ofText (← IO.currentDir).toString
  let empty : Workspace := { root := Path.ofText "/", tree := .empty, working }
  let root := empty.resolve (options.root.getD working)
  let exists? ← ((← IO.currentDir) / root.text).pathExists
  let tree ← if exists? then
      pure (FileTree.empty.insert root.parts (← readTree root.text true))
    else pure FileTree.empty
  let out := Path.ofText options.out
  let workspace ← note { empty with tree } (working.child ignoreFileName)
  let workspace ← note workspace out.parent
  note workspace out

def currentMoment : IO Report.Moment := do
  let (_, file) ← IO.FS.createTempFile
  let metadata ← file.metadata
  IO.FS.removeFile file
  return Report.Moment.ofSeconds metadata.modified.sec.toNat

end PrivacyScan.Program

open PrivacyScan PrivacyScan.CommandLine in
def main (arguments : List String) : IO UInt32 := do
  match Options.parse arguments with
  | .error .helpWanted =>
    IO.print helpText
    return 0
  | .error .misused =>
    IO.eprint helpText
    return 2
  | .ok options =>
    let workspace ← Program.readWorkspace options
    match run workspace (← Program.currentMoment) .plain arguments with
    | .error fault =>
      IO.eprintln fault.message
      return 1
    | .ok outturn =>
      for (path, text) in outturn.written do
        IO.FS.writeFile path.text text
      IO.print outturn.text
      return outturn.exit.toUInt32
