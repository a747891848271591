import PrivacyScan.ScriptFlow.State

/-!
Personal data that leaves a script. Variables are taken for tainted by their names, by what they are
assigned from, and by what functions return; a call of a sink that mentions one of them is a leak.
-/

namespace PrivacyScan.ScriptFlow

open Taint (Tracker Record inferScriptTypes)

/-- The types of data that a call of this function with these tainted arguments returns. -/
abbrev CallResult := String → List (String × Record) → Option (List String)

def assignmentPattern : Pattern :=
  Pattern.ofText r"^\s*(?:export\s+)?(?:const|let|var)\s+([a-zA-Z0-9_$]+)\s*=\s*(.+?)(?:;)?$"

def destructuringPattern : Pattern :=
  Pattern.ofText r"^\s*(?:export\s+)?(?:const|let|var)\s+\{([^}]+)\}\s*=\s*(.+?)(?:;)?$"

def parametersPattern : Pattern :=
  Pattern.ofText r"(?:function\s+\w*|\(?)\s*\(([^)]+)\)\s*(?:=>|\{)"

def statePattern : Pattern :=
  Pattern.ofText r"const\s+\[([a-zA-Z0-9_$]+),\s*[a-zA-Z0-9_$]+\]\s*=\s*useState"

def sinkPattern : Pattern :=
  Pattern.ofText
    (r"(console\.(?:log|info|warn|error)|logger\.\w+|fetch|axios\.\w+|res\.(?:json|send)" ++
    r"|[A-Z]\w*\.(?:create|insert|save|update|updateOne|updateMany))\s*\(")

def databasePattern : Pattern :=
  Pattern.ofText (r"(?:const|let|var)\s+([a-zA-Z0-9_$]+)\s*=\s*(?:await\s+)?[A-Z]\w*" ++
    r"\.(?:create|insert|save|findOne|findById)")

def sanitizerPattern : Pattern :=
  Pattern.ofTextIgnoringCase
    r"(hash|encrypt|mask|sanitize|anonymize|privalyse|masker\.mask|redact|scrub|obfuscate)"

def callPattern : Pattern := Pattern.ofText r"\b([a-zA-Z0-9_$]+)\s*\(([^)]*)\)"

def quotedPattern : Pattern := Pattern.ofText r#"['\"]([^'\"]+)['\"]"#

def templatePattern : Pattern := Pattern.ofText r"`([^`]*)`"

def interpolationPattern : Pattern := Pattern.ofText r"\$\{([^}]+)\}"

def stringPattern : Pattern := Pattern.ofText r#"([\'"])(?:(?=(\\?))\2.)*?\1"#

def wordPattern : Pattern := Pattern.ofText r"[a-zA-Z0-9_$]+"

def dropSemicolons (text : String) : String := Text.trimRightBy (· == ';') text

/-- The names in a list such as `a: x, b`, without what follows their colons. -/
def listedNames (text : String) : List String :=
  (Text.split text ",").map fun part => Text.trim (Text.before (Text.trim part) ":")

def readAssignment (text : String) (tracker : Tracker) : Tracker :=
  match assignmentPattern.search? text with
  | none => tracker
  | some found =>
    let target := found.capture 1
    let value := found.capture 2
    if sanitizerPattern.occursIn value then tracker
    else
      let named := tracker.markScript target (inferScriptTypes target)
        (some ("Variable name '" ++ target ++ "'"))
      let source := dropSemicolons (Text.trim value)
      match named.record? source with
      | some record =>
        named.markScript target record.piiTypes (some ("Assigned from '" ++ source ++ "'"))
      | none => named

def readDestructuring (script : Script) (line : Line) (text : String) (tracker : Tracker) :
    Tracker :=
  match destructuringPattern.search? text with
  | none => tracker
  | some found =>
    let value := dropSemicolons (Text.trim (found.capture 2))
    let isRequest := Text.containsAny value ["req.body", "req.query"]
    (listedNames (found.capture 1)).foldl (fun tracker name =>
      match inferScriptTypes name with
      | [] => tracker
      | piiTypes =>
        let source := "Destructured variable '" ++ name ++ "'" ++
          (if isRequest then " from '" ++ value ++ "'" else "")
        let marked := tracker.markScript name piiTypes (some source)
        match script.routeBefore? line with
        | some route => if isRequest then marked.setRoute name route else marked
        | none => marked) tracker

def readParameters (text : String) (tracker : Tracker) : Tracker :=
  match parametersPattern.search? text with
  | none => tracker
  | some found =>
    (listedNames (found.capture 1)).foldl (fun tracker name =>
      tracker.markScript name (inferScriptTypes name) (some ("Function argument '" ++ name ++ "'")))
      tracker

def readState (text : String) (tracker : Tracker) : Tracker :=
  match statePattern.search? text with
  | none => tracker
  | some found =>
    let name := found.capture 1
    tracker.markScript name (inferScriptTypes name) (some ("React state '" ++ name ++ "'"))

def readDatabase (text : String) (tracker : Tracker) : Tracker :=
  match databasePattern.search? text with
  | none => tracker
  | some found =>
    tracker.markScript (found.capture 1) ["database_record"]
      (some ("Database record from '" ++ found.text ++ "'"))

/-- Words that look like functions but are not. -/
def notFunctions : List String :=
  ["function", "if", "for", "while", "switch", "catch", "return", "await", "require", "import",
    "console"]

/-- Follows the result of a call into the variable that the line assigns. -/
def readCall (callResult : CallResult) (text : String) (tracker : Tracker)
    (found : Pattern.Match) : Tracker :=
  let function := found.capture 1
  if notFunctions.contains function then tracker
  else
    let arguments := ((Text.split (found.capture 2) ",").map Text.trim).filter (!·.isEmpty)
    let tainted := arguments.filterMap fun argument =>
      (tracker.record? argument).map (argument, ·)
    match callResult function tainted, assignmentPattern.search? text with
    | some piiTypes, some assignment =>
      if Text.contains (assignment.capture 2) function then
        tracker.markScript (assignment.capture 1) piiTypes (some ("Result of " ++ function))
      else tracker
    | _, _ => tracker

def readCalls (callResult : CallResult) (text : String) (tracker : Tracker) : Tracker :=
  (callPattern.all text).foldl (readCall callResult text) tracker

/-- The sink whose call is open, and the address of the last request. -/
structure Sink where
  name : Option String := none
  address : Option String := none

def Sink.open (sink : Sink) (text : String) : Sink :=
  match sinkPattern.search? text with
  | none => sink
  | some found =>
    let name := found.capture 1
    { name := some name
      address := if Text.containsAny name ["axios", "fetch"] then
          (quotedPattern.search? text).map (·.capture 1)
        else none }

def Sink.close (sink : Sink) (text : String) : Sink :=
  if Text.contains text ");" || (Text.endsWith text ")" && !Text.contains text "\x7b") then
    { sink with name := none }
  else sink

/-- The words of a line outside its string literals; of a template only what it inserts. -/
def wordsOf (text : String) : List String :=
  let inserted (found : Pattern.Match) : String :=
    " " ++ Text.join " " ((interpolationPattern.all (found.capture 1)).map (·.capture 1)) ++ " "
  let bare := stringPattern.replaceAll (fun _ => "") (templatePattern.replaceAll inserted text)
  (wordPattern.all bare).map (·.text)

def leakRule (sink : String) : String :=
  if Text.contains sink "res." then "API_RESPONSE_LEAK"
  else if Text.containsAny sink ["create", "insert", "save", "update"] then "DB_WRITE_PII"
  else "JS_DATA_LEAK"

/-- A tainted word in the call of a sink: an edge and a finding. -/
def leak (script : Script) (line : Line) (sink : String) (address : Option String) (state : State)
    (word : String) : State :=
  match state.tracker.record? word with
  | none => state
  | some record =>
    if word == sink || ["const", "let", "var", "await", "async", "return"].contains word then state
    else
      let route := "Route: " ++ record.context.getD "None"
      let context := match address with
        | some address => if address.isEmpty then route else "URL: " ++ address ++ ", " ++ route
        | none => route
      let tracker := state.tracker.addScriptEdge word sink line.number "sink" none (some context)
      { state with tracker }.report
        { script.finding line (leakRule sink)
            { piiTypes := record.piiTypes, category := "data_leak", severity := "high",
              confidence := 0.85,
              reasoning := "Tainted variable '" ++ word ++ "' passed to sink '" ++ sink ++ "'",
              sectors := [], article := some "Art. 6", legalBasisRequired := true }
            [.ofOption .text record.source, .text word, .text sink] with
          taintedVariables := [word], taintSources := [record.source] }

def readLine (script : Script) (callResult : Option CallResult) (progress : State × Sink)
    (line : Line) : State × Sink :=
  let (state, sink) := progress
  let text := Text.trim line.text
  let tracker := readDatabase text (readState text (readParameters text
    (readDestructuring script line text (readAssignment text state.tracker))))
  let followed := match callResult with
    | some callResult => readCalls callResult text tracker
    | none => tracker
  let opened := sink.open text
  match opened.name with
  | none => ({ state with tracker := followed }, opened)
  | some name =>
    ((wordsOf text).foldl (leak script line name opened.address) { state with tracker := followed },
      opened.close text)

/-- The search for leaks; with `callResult` it follows calls into other files. -/
def findLeaks (script : Script) (callResult : Option CallResult) (state : State) : State :=
  (script.numbered.foldl (readLine script callResult) (state, {})).1

end PrivacyScan.ScriptFlow
