import PrivacyScan.ScriptFlow.State

/-!
Requests that a script sends: to language models, or without encryption.
-/

namespace PrivacyScan.ScriptFlow

open Taint (Record)

def modelHosts : List String :=
  ["api.openai.com", "api.anthropic.com", "api.cohere.ai", "api.mistral.ai",
    "generativelanguage.googleapis.com", "bedrock-runtime", "api.replicate.com", "api.groq.com",
    "huggingface.co"]

def fetchPattern : Pattern := Pattern.ofText r#"\bfetch\s*\(\s*['\"]([^'\"]+)['\"]"#

def axiosPattern : Pattern :=
  Pattern.ofText (r#"\baxios\.(get|post|put|patch|delete)\s*\(\s*['\"]([^'\"]+)['\"]"# ++
    r"(?:\s*,\s*([a-zA-Z0-9_$]+))?")

structure Request where
  library : String
  method : Option String := none
  address : String
  data : Option String := none

namespace Request

variable (request : Request)

def isSecure : Bool := Text.startsWith request.address "https://"

def goesToModel : Bool := Text.containsAny request.address modelHosts

def target : String :=
  match request.method with
  | some method => request.library ++ "." ++ method
  | none => request.library

def toFlow (script : Script) (line : Line) : Document :=
  .object ([("type", .text "network"), ("library", .text request.library)] ++
    (request.method.toList.map fun method => ("method", .text (Text.upper method))) ++
    [("url", .text request.address), ("secure", .bool request.isSecure),
      ("is_ai", .bool request.goesToModel), ("file", .text script.file),
      ("line", .int line.number)])

/-- The tainted variable that is sent. -/
def sentRecord? (state : State) : Option Record :=
  request.data.bind state.tracker.record?

def sendsCleaned (state : State) : Bool :=
  (request.sentRecord? state).isSome &&
    request.data.any fun name => Text.containsAny (Text.lower name) ["clean", "safe", "anon"]

def modelNote (state : State) : String :=
  let start := "Data transmission to AI Provider detected: " ++ request.address ++ "."
  if request.method.isNone then start ++ " Ensure data is sanitized/anonymized."
  else if request.sendsCleaned state then start ++ " Data appears to be sanitized."
  else
    match request.sentRecord? state with
    | some record =>
      start ++ " Sending TAINTED data: " ++ request.data.getD "" ++ " ([" ++
        Text.join ", " (record.piiTypes.map Text.quotedText) ++ "])."
    | none => start ++ " Ensure data is sanitized."

def findings (script : Script) (line : Line) (state : State) : List Finding :=
  if request.goesToModel then
    let severity := if request.sendsCleaned state then "low" else "critical"
    [script.finding line "AI_PII_LEAK"
      { piiTypes := "ai_prompt_data" :: ((request.sentRecord? state).map (·.piiTypes)).getD [],
        category := "ai_leakage", severity, confidence := 0.95, sectors := ["ai_ml"],
        article := some "Art. 35 (DPIA)", legalBasisRequired := true,
        reasoning := request.modelNote state }]
  else if Text.startsWithAny request.address ["http://", "/"] then
    [script.finding line "HTTP_INSECURE_API"
      { piiTypes := ["network"], category := "security", severity := "high", confidence := 0.95,
        sectors := [], article := none, legalBasisRequired := false,
        reasoning := "Insecure HTTP API call" }]
  else []

end Request

def requestsOn (line : Line) : List Request :=
  ((fetchPattern.search? line.text).map fun found =>
    { library := "fetch", address := found.capture 1 : Request }).toList ++
  ((axiosPattern.search? line.text).map fun found =>
    { library := "axios", method := some (found.capture 1), address := found.capture 2,
      data := found.capture? 3 : Request }).toList

def readRequest (script : Script) (line : Line) (progress : State × List Document)
    (request : Request) : State × List Document :=
  let (state, flows) := progress
  let context := "URL: " ++ request.address ++ (if request.goesToModel then ", AI_SINK" else "")
  ({ tracker := state.tracker.addScriptEdge (some "API_CALL") request.target line.number "sink" none
        (some context)
     findings := state.findings ++ request.findings script line state },
    flows ++ [request.toFlow script line])

/-- The requests of a script: their findings and edges, and a description of each. -/
def findRequests (script : Script) (state : State) : State × List Document :=
  script.numbered.foldl (fun progress line =>
    (requestsOn line).foldl (readRequest script line) progress) (state, [])

end PrivacyScan.ScriptFlow
