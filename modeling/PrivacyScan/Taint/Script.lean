import PrivacyScan.Taint.Basic
import PrivacyScan.Taint.Inference

/-!
Tracking in scripts, where variables are told apart by their names alone.
-/

namespace PrivacyScan.Taint.Tracker

/-- Enters what is known of a variable of a script. Later observations add types and can only undo
the effect of a sanitizer. -/
def markScript (tracker : Tracker) (name : String) (piiTypes : List String) (source : Option String)
    (context : Option String := none) (isSanitized : Bool := false) : Tracker :=
  if name.isEmpty || piiTypes.isEmpty then tracker
  else
    let record := match tracker.record? name with
      | some record =>
        { record with
          piiTypes := Text.sortedDistinct (record.piiTypes ++ piiTypes)
          isSanitized := record.isSanitized && isSanitized }
      | none =>
        Record.withSources
          { name, piiTypes, sourceLine := 0, sourceNode := "regex_match", source, context,
            isSanitized }
    { tracker with records := tracker.records.set name record }

def addScriptEdge (tracker : Tracker) (source : Option String) (target : String) (line : Int)
    (flowType : String)
    (transformation : Option String := none) (context : Option String := none) : Tracker :=
  tracker.addEdge
    { source, target, sourceLine := line, targetLine := line, flowType, transformation, context }

/-- The route through which a variable was received is its context. -/
def setRoute (tracker : Tracker) (name : String) (route : String) : Tracker :=
  match tracker.record? name with
  | some record =>
    { tracker with records := tracker.records.set name { record with context := some route } }
  | none => tracker

end PrivacyScan.Taint.Tracker
