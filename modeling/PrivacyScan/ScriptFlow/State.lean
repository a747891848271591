import PrivacyScan.Finding.Basic
import PrivacyScan.Pattern.Parser
import PrivacyScan.Taint.Script

/-!
The analysis of a script, line by line. A pass reads the lines with what is known of the variables
and adds findings.
-/

namespace PrivacyScan.ScriptFlow

open Taint (Tracker)

structure Script where
  file : String
  lines : List String

def Script.ofCode (file code : String) : Script := { file, lines := Text.lines code }

structure Line where
  number : Nat
  text : String
deriving Repr

def Script.numbered (script : Script) : List Line :=
  script.lines.mapIdx fun index text => { number := index + 1, text }

def Script.before (script : Script) (line : Line) (count : Nat) : List String :=
  (script.lines.take (line.number - 1)).drop (line.number - 1 - count)

structure State where
  tracker : Tracker := {}
  findings : List Finding := []

def State.report (state : State) (finding : Finding) : State :=
  { state with findings := state.findings ++ [finding] }

/-- A finding on a line of a script. Its severity is that of its classification. -/
def Script.finding (script : Script) (line : Line) (rule : String) (classification : Classification)
    (flowPath : List Document := []) : Finding :=
  { rule, severity := .named classification.severity, file := script.file, line := line.number
    snippet := Text.take 200 (Text.trim line.text), assessment := .classified classification
    flowPath }

/-- The route of the first handler in the lines before a line. -/
def routePattern : Pattern :=
  Pattern.ofText r#"app\.(post|get|put|delete)\s*\(\s*['\"]([^'\"]+)['\"]"#

def Script.routeBefore? (script : Script) (line : Line) : Option String :=
  (script.before line 20).findSome? fun text => (routePattern.search? text).map (·.capture 2)

end PrivacyScan.ScriptFlow
