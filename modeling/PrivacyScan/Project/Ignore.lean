import PrivacyScan.Finding.Basic
import PrivacyScan.Glob
import PrivacyScan.Project.FileTree

/-!
Findings that a project asks to leave out. Each line of its ignore file is a pattern for rules or
files, or one for each of the two with a colon between them.
-/

namespace PrivacyScan.Project

/-- The patterns of an ignore file; blank lines and comments are none. -/
def ignorePatterns (text : String) : List String :=
  ((Text.split text "\n").map Text.trim).filter fun line =>
    !line.isEmpty && !Text.startsWith line "#"

def ignorePatternsIn (workspace : Workspace) (root : Path) : List String :=
  ((workspace.read? (root.child ".privalyseignore")).map ignorePatterns).getD []

def isIgnoredBy (finding : Finding) (pattern : String) : Bool :=
  match Text.cut? pattern ":" with
  | some (rule, file) => Glob.accepts rule finding.rule && Glob.accepts file finding.file
  | none => Glob.accepts pattern finding.rule || Glob.accepts pattern finding.file

def isIgnored (patterns : List String) (finding : Finding) : Bool :=
  patterns.any (isIgnoredBy finding)

end PrivacyScan.Project
