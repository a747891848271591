import PrivacyScan.ScriptFlow.State

/-!
Personal data kept in the browser: in its storage or in cookies.
-/

namespace PrivacyScan.ScriptFlow

def storagePattern : Pattern :=
  Pattern.ofText r"\b(localStorage|sessionStorage)\.setItem\s*\(([^,]+),([^)]+)\)"

def cookiePattern : Pattern := Pattern.ofText r"document\.cookie\s*="

def sensitivePattern : Pattern :=
  Pattern.ofTextIgnoringCase
    (r"(token|jwt|session|auth|password|secret|email|phone|ssn|credit|card" ++
    r"|address|location|user|profile|data)")

def wrapperPattern : Pattern := Pattern.ofText r"^JSON\.stringify\(|\)$"

/-- An item put into the storage of the browser, when its key or its value is sensitive. -/
def readStorage (script : Script) (line : Line) (state : State) : State :=
  match storagePattern.search? (Text.trim line.text) with
  | none => state
  | some found =>
    let key := Text.trimBy (fun c => c == '\'' || c == '"') (Text.trim (found.capture 2))
    let value := Text.trim (wrapperPattern.replaceAll (fun _ => "") (Text.trim (found.capture 3)))
    let keyIsSensitive := sensitivePattern.occursIn key
    let record := state.tracker.record? value
    if keyIsSensitive || record.isSome || sensitivePattern.occursIn value then
      let piiTypes := match record with
        | some record => record.piiTypes
        | none => if keyIsSensitive then [key] else ["potential_pii"]
      let tracker := state.tracker.addScriptEdge (some value) (found.capture 1 ++ ".setItem")
        line.number "sink" none (some "browser_storage")
      { state with tracker }.report (script.finding line "INSECURE_BROWSER_STORAGE"
        { piiTypes, category := "data_security", severity := "high",
          confidence := if record.isSome then 0.9 else 0.6, article := some "Art. 32",
          legalBasisRequired := true, sectors := [],
          reasoning := "Sensitive data stored in browser storage (Tainted: " ++
            (if record.isSome then "True" else "False") ++ ")" })
    else state

def readCookie (script : Script) (line : Line) (state : State) : State :=
  let text := Text.trim line.text
  if cookiePattern.occursIn text && sensitivePattern.occursIn text then
    state.report (script.finding line "INSECURE_COOKIE_STORAGE"
      { piiTypes := ["cookie_data"], category := "data_security", severity := "medium",
        confidence := 0.6, article := some "Art. 5", legalBasisRequired := true, sectors := [],
        reasoning := "Sensitive data stored in cookies. Ensure HttpOnly/Secure flags are used." })
  else state

def findStorage (script : Script) (state : State) : State :=
  script.numbered.foldl (fun state line => readCookie script line (readStorage script line state))
    state

end PrivacyScan.ScriptFlow
