import PrivacyScan.ScriptFlow.Backend
import PrivacyScan.ScriptFlow.Credential
import PrivacyScan.ScriptFlow.Form
import PrivacyScan.ScriptFlow.Leak
import PrivacyScan.ScriptFlow.Network
import PrivacyScan.ScriptFlow.Storage
import PrivacyScan.ScriptFlow.Trace
import PrivacyScan.ScriptFlow.Tracking

/-!
All passes over a script, in order.
-/

namespace PrivacyScan.ScriptFlow

def State.reportAll (state : State) (findings : List Finding) : State :=
  { state with findings := state.findings ++ findings }

/-- The findings and flows of a script. The walk through its tree may fail, the passes over its
lines go on with what it has found. -/
def analyze (file code : String) (callResult : Option CallResult := none) : Outcome State := do
  let script := Script.ofCode file code
  let leaked := findLeaks script callResult { tracker := (trace code {}).2 }
  let (requested, _) := findRequests script (leaked.reportAll (findFormFields script))
  let stored := (findStorage script requested).reportAll (findTracking script)
  let served ← findInputs script stored
  return (served.reportAll (findModels script)).reportAll (findSecrets script)

end PrivacyScan.ScriptFlow
