import PrivacyScan.Classify.Classifier
import PrivacyScan.Finding.Basic
import PrivacyScan.Path
import PrivacyScan.Snippet
import PrivacyScan.Source.Walk
import PrivacyScan.Taint.Propagation

/-!
The state of the analysis of one Python module: what is known of its variables, what has been found,
and the function in which the walk stands.
-/

namespace PrivacyScan.SourceFlow

open Source (Node Place Constant)
open Taint (Tracker Record FlowEdge Mark)

structure Setting where
  file : String
  lines : List String
  method : Classify.Method := .byRules

namespace Setting

def ofCode (file code : String) (method : Classify.Method) : Setting :=
  { file, lines := Text.lines code, method }

def snippet (setting : Setting) (place : Place) : String :=
  Snippet.oneLine setting.lines place.line place.endLine

def excerpt (setting : Setting) (place : Place) : Snippet.Excerpt :=
  Snippet.surrounded setting.lines place.line place.endLine

end Setting

structure State where
  tracker : Tracker := {}
  findings : List Finding := []
  function : Option String := none
  route : Option Constant := none

namespace State

/-- The function, with its route when it serves one that can be written down. -/
def scope (state : State) : Outcome (Option String) :=
  match state.route with
  | some route =>
    if route.isTruthy then do
      return some (state.function.getD "None" ++ " (Route: " ++ (← route.written) ++ ")")
    else .ok state.function
  | none => .ok state.function

def report (state : State) (finding : Finding) : State :=
  { state with findings := state.findings ++ [finding] }

def addEdge (state : State) (edge : FlowEdge) : State :=
  { state with tracker := state.tracker.addEdge edge }

def sourcesOf (state : State) (names : List String) : List (Option String) :=
  (names.filterMap state.tracker.record?).map (·.source)

end State

/-- The types of personal data that the value of a constant points to, when it is a name. -/
def typesOfConstant (constant : Constant) : Outcome (List String) := do
  return Taint.typesOfLowered (← constant.lowered) ""

end PrivacyScan.SourceFlow
