import PrivacyScan.ScriptFlow.State

/-!
Servers in scripts: personal data that handlers receive, and models that store it.
-/

namespace PrivacyScan.ScriptFlow

open Taint (inferScriptTypes)

def accessPattern : Pattern := Pattern.ofText r"req\.(body|query|params)\.([a-zA-Z0-9_$]+)"

def addressPattern : Pattern := Pattern.ofText r"req\.(ip|ips)\b"

def decoratorPattern (name : String) : Pattern :=
  Pattern.ofText ("@" ++ name ++ r#"\s*\(\s*(?:['\"]([^'\"]+)['\"])?\s*\)\s*([a-zA-Z0-9_$]+)"#)

def decorators : List (String × Pattern) :=
  ["Body", "Query"].map fun name => (name, decoratorPattern name)

variable (script : Script) (line : Line)

def inputFinding (piiTypes : List String) (confidence : Float) (reasoning : String) : Finding :=
  script.finding line "BACKEND_PII_INPUT"
    { piiTypes, category := "input_data", severity := "medium", confidence, reasoning,
      sectors := [], article := some "Art. 6", legalBasisRequired := true }

/-- A field of a request. The record of a variable has no place for a route, so a field of personal
data below the route of its handler cannot be entered. -/
def readAccess (state : State) : Outcome State :=
  match accessPattern.search? (Text.trim line.text) with
  | none => .ok state
  | some found =>
    let part := found.capture 1
    let field := found.capture 2
    match inferScriptTypes field with
    | [] => .ok state
    | piiTypes =>
      if (script.routeBefore? line).isSome then .error (.noItemAssignment .taint)
      else
        let tracker := state.tracker.markScript ("req." ++ part ++ "." ++ field) piiTypes
          (some ("Express request " ++ part))
        .ok ({ state with tracker }.report (inputFinding script line piiTypes 0.9
          ("PII field '" ++ field ++ "' accessed from request " ++ part)))

def readAddress (state : State) : State :=
  if addressPattern.occursIn (Text.trim line.text) then
    state.report (inputFinding script line ["online_identifier"] 0.95
      "IP address accessed from request (Online Identifier)")
  else state

def readDecorator (state : State) (decorator : String × Pattern) : State :=
  match decorator.2.search? (Text.trim line.text) with
  | none => state
  | some found =>
    let name := found.capture 2
    let target := (found.capture? 1).getD name
    match inferScriptTypes target with
    | [] => state
    | piiTypes =>
      let tracker := state.tracker.markScript name piiTypes (some ("NestJS @" ++ decorator.1))
      { state with tracker }.report (inputFinding script line piiTypes 0.9
        ("PII field '" ++ target ++ "' received via @" ++ decorator.1))

def readHandler (script : Script) (state : State) (line : Line) : Outcome State := do
  let accessed ← readAccess script line state
  return decorators.foldl (readDecorator script line) (readAddress script line accessed)

def findInputs (script : Script) (state : State) : Outcome State :=
  script.numbered.foldlM (readHandler script) state

def schemaPattern : Pattern :=
  Pattern.ofText r"([a-zA-Z0-9_$]+)\s*:\s*(?:\{.*?type:\s*String|String)"

def columnPattern : Pattern := Pattern.ofText r"@Column\s*\(.*?\)\s*([a-zA-Z0-9_$]+)"

def modelField? (pattern : Pattern) (definition source : String) : Option Finding := do
  let found ← pattern.search? (Text.trim line.text)
  let field := found.capture 1
  match inferScriptTypes field with
  | [] => none
  | piiTypes =>
    some (script.finding line "DB_MODEL_PII"
      { piiTypes, category := "stored_data", severity := "medium", confidence := 0.95,
        reasoning := definition ++ " defines PII field '" ++ field ++ "'", sectors := [],
        article := some "Art. 6", legalBasisRequired := true }
      [.text source, .text field, .text "Database"])

def findModels (script : Script) : List Finding :=
  script.numbered.flatMap fun line =>
    (modelField? script line schemaPattern "Database model" "Data Model (Schema)").toList ++
      (modelField? script line columnPattern "ORM Entity" "Data Model (Entity)").toList

end PrivacyScan.ScriptFlow
