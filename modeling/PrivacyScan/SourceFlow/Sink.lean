import PrivacyScan.Framework
import PrivacyScan.Routine
import PrivacyScan.SourceFlow.Exposure
import PrivacyScan.SourceFlow.Provider
import PrivacyScan.Url

/-!
Calls through which personal data leaves: models of other providers, the console, the log, the
network and databases. Each part adds its findings and edges to the state.
-/

namespace PrivacyScan.SourceFlow

open Source (Node Place Constant)
open Taint (Tracker Record FlowEdge inferTypes)

structure Call where
  node : Node
  place : Place
  function : Node
  inputs : List Node
  keywords : List Node

def Call.values (call : Call) : List Node := call.inputs ++ keywordValues call.keywords

variable (setting : Setting) (call : Call)

/-- A tainted value that no sanitizer has seen goes to a provider. -/
def leakTo (provider : String) (state : State) (argument : Node) : State :=
  match firstTainted? state.tracker argument with
  | none => state
  | some record =>
    if record.isSanitized then state
    else
      (state.report
        { rule := "AI_PII_LEAK", severity := .level .critical, file := setting.file,
          line := call.place.line, snippet := setting.snippet call.place
          assessment := .classified {
            piiTypes := record.piiTypes, category := "ai_leak", severity := "critical",
            confidence := 0.95, article := some "Art. 9", legalBasisRequired := true,
            sectors := ["ai"],
            reasoning := "Unsanitized PII (" ++ Text.join ", " record.piiTypes ++
              ") sent to AI Sink (" ++ provider ++ ")" }
          suggestedFix := some ("Sanitize data before sending to AI model. Use `anonymize(" ++
            record.name ++ ")` or similar.")
          codeContext := (setting.excerpt call.place).lines }).addEdge
        { source := record.name, target := "AI_SINK:" ++ provider, sourceLine := call.place.line,
          targetLine := call.place.line, flowType := "sink",
          context := some ("AI Provider: " ++ provider) }

def checkProviders (state : State) : State :=
  match providerOf? call.function call.inputs with
  | some provider => call.values.foldl (leakTo setting call provider) state
  | none => state

def highRiskTypes : List String :=
  ["ssn", "credit_card", "password", "token", "secret", "auth", "financial"]

/-- Data of high risk goes to the console. -/
def printArgument (state : State) (argument : Node) : State :=
  match firstPrinted? state.tracker argument with
  | none => state
  | some record =>
    match Text.sortedDistinct (record.piiTypes.filter highRiskTypes.contains) with
    | [] => state
    | piiTypes =>
      (state.report
        { rule := "PRINT_SENSITIVE_DATA", severity := .level .high, file := setting.file,
          line := call.place.line, snippet := setting.snippet call.place
          assessment := .classified {
            piiTypes, category := "data_leak", severity := "high", confidence := 0.9,
            article := some "Art. 32", legalBasisRequired := true, sectors := [],
            reasoning := "High-risk PII (" ++ Text.join ", " piiTypes ++ ") printed to stdout" }
          }).addEdge
        { source := record.name, target := "print", sourceLine := call.place.line,
          targetLine := call.place.line, flowType := "sink", context := some "stdout" }

def isPrint (call : Call) : Bool := call.function.name? == some "print"

def checkPrint (state : State) : State :=
  if isPrint call then call.inputs.foldl (printArgument setting call) state else state

/-- An argument whose name asks for a credential gets one that stands in the code. -/
def checkCredential (state : State) (keyword : Node) : State :=
  match keyword with
  | .keyword _ (some parameter) value =>
    let piiTypes := inferTypes parameter
    let finding (rule : String) (piiTypes : List String) (confidence : Float) (reasoning : String)
        (metadata : List (String × Document)) : Finding :=
      { rule, severity := .level .critical, file := setting.file, line := call.place.line
        snippet := setting.snippet call.place
        assessment := .classified {
          piiTypes, sectors := ["security", "authentication"], severity := "critical",
          article := some "Art. 32", legalBasisRequired := true, category := "credentials",
          confidence, reasoning }
        metadata }
    if parameter.isEmpty || !piiTypes.contains "password" then state
    else
      match value.text?, value.name? with
      | some text, _ =>
        if 3 < Text.length text then
          state.report (finding "HARDCODED_CREDENTIAL_IN_CALL" piiTypes 0.98
            ("Hardcoded " ++ piiTypes.headD "" ++ " passed to function call")
            [("description", .text "Hardcoded credential in function call"),
              ("param", .text parameter)])
        else state
      | none, some holder =>
        let source := ((state.tracker.record? holder).bind (·.source)).getD ""
        if Text.contains source "hardcoded_secret" then
          state.report (finding "HARDCODED_SECRET_PROPAGATION" (piiTypes ++ ["credentials"]) 0.95
            ("Hardcoded secret variable '" ++ holder ++ "' used in '" ++ parameter ++
              "' parameter")
            [("description", .text "Hardcoded secret propagated through variable"),
              ("var", .text holder), ("param", .text parameter)])
        else state
      | none, none => state
  | _ => state

/-- The verdict on a call whose arguments expose data: surer, with the types of the data, and with a
note on what is exposed. -/
def withExposure (verdict : Classify.Verdict) (exposure : Exposure) (confidence : Float)
    (note : String) : Classify.Verdict :=
  { verdict with
    confidence := if verdict.confidence < confidence then confidence else verdict.confidence
    piiTypes := Text.sortedDistinct (verdict.piiTypes ++ exposure.piiTypes)
    reasoning := verdict.reasoning ++ " [TAINT: " ++ note ++ "]" }

variable (exposure : Exposure)

def Exposure.nameList : String := Text.join "," exposure.names

def Exposure.typeList : String :=
  Text.join "," (Text.sortedDistinct exposure.piiTypes)

def raised (severity : Severity) : Severity := if severity == .medium then .high else severity

/-- The finding for a call through which data leaves, before the details of the sink. -/
def sinkFinding (state : State) (rule : String)
    (severity : Severity) (verdict : Classify.Verdict) (flowType : String) (exposure : Exposure) :
    Finding :=
  { rule, severity := .level severity, file := setting.file, line := call.place.line
    snippet := setting.snippet call.place, assessment := .classified verdict.classification
    dataFlowType := some flowType, taintedVariables := exposure.names
    taintSources := state.sourcesOf exposure.names }

/-- A finding is worth reporting when it names data and is not a mere guess. -/
def isReportable (verdict : Classify.Verdict) : Bool :=
  !verdict.piiTypes.isEmpty && 0.2 < verdict.confidence

def checkPrinted (state : State) : State :=
  let snippet := setting.snippet call.place
  if !isPrint call || exposure.names.isEmpty || Routine.isLogMessage snippet then state
  else
    let verdict := withExposure
      (setting.method.classify snippet ("print call in " ++ setting.file) (namesWithin call.node))
      exposure 0.85
      ("Variables " ++ exposure.nameList ++ " contain PII: " ++ exposure.typeList)
    let (rule, severity) := if verdict.articles.contains "Art. 9" then
        ("PRINT_PII_ARTICLE9", .critical)
      else ("PRINT_PII", raised verdict.severity)
    if isReportable verdict then
      state.report (sinkFinding setting call state rule severity verdict "logging" exposure)
    else state

def logRule (verdict : Classify.Verdict) : String × Severity :=
  if verdict.articles.contains "Art. 9" then ("LOG_PII_ARTICLE9", .critical)
  else
    match verdict.piiTypes with
    | first :: _ =>
      if ["email", "token"].contains first then ("LOG_PII_" ++ Text.upper first, verdict.severity)
      else ("LOG_PII", raised verdict.severity)
    | [] => ("LOG_PII", raised verdict.severity)

def checkLog (state : State) : State :=
  let snippet := setting.snippet call.place
  if exposure.names.isEmpty || Routine.isLogMessage snippet then state
  else
    let verdict := withExposure
      (setting.method.classify snippet ("logging call in " ++ setting.file) (namesWithin call.node))
      exposure 0.8
      ("Variables " ++ exposure.nameList ++ " contain " ++ exposure.typeList)
    if !isReportable verdict then state
    else
      let (rule, severity) := logRule verdict
      let excerpt := setting.excerpt call.place
      let edge (name : String) : FlowEdge :=
        { source := name, target := "logging"
          sourceLine := ((state.tracker.record? name).map (·.sourceLine)).getD call.place.line
          targetLine := call.place.line, flowType := "sink", transformation := some "logging"
          context := state.function }
      (exposure.names.foldl (fun state name => state.addEdge (edge name)) state).report
        { sinkFinding setting call state rule severity verdict "logging" exposure with
          sinkNode := some "logging", flowPath := exposure.names.map .text
          suggestedFix := some "Remove PII from logs or use a sanitizer/masking function."
          confidenceScore := verdict.confidence
          contextStartLine := some excerpt.first, contextEndLine := some excerpt.last
          codeContext := excerpt.lines }

/-- The address that a request is sent to, when its first argument is a constant that can be one. -/
def addressOf (call : Call) : Outcome String :=
  match call.inputs.head?.bind (·.constant?) with
  | none => .ok ""
  | some constant =>
    if !constant.isTruthy then .ok ""
    else
      match constant with
      | .text address => .ok address
      | .bytes _ => .error .bytesStart
      | other => .error (.noMember other.kind "startswith")

def checkNetwork (state : State) : Outcome State := do
  let address ← addressOf call
  let host ← Url.host address
  let verdict := setting.method.classify (setting.snippet call.place)
    ("network call to " ++ Text.lower host) (namesWithin call.node)
  let exposed := if exposure.names.isEmpty then verdict
    else withExposure verdict exposure 0.9
      ("Sending " ++ exposure.typeList ++ " via " ++ exposure.nameList)
  if Text.startsWith address "http://" then
    let severity := if verdict.severity == .low then .high else .critical
    return state.report
      { sinkFinding setting call state "HTTP_PLAIN" severity exposed "transmission" exposure with
        url := some address }
  else return state

/-- What a value written to a column tells: the variable or member that it is, when that is
tainted. -/
def writtenName? (tracker : Tracker) (value : Node) : Option String :=
  match value with
  | .name _ id => if tracker.holds id then some id else none
  | .member _ id (.name place base) =>
    if tracker.isTaintedMember id (.name place base) then some (base ++ "." ++ id) else none
  | _ => none

/-- Notes the columns of an object that is created in order to be written. -/
def writeKeyword (table : String) (known : List String) (found : State × Exposure)
    (keyword : Node) : Outcome (State × Exposure) :=
  let (state, exposure) := found
  match keyword with
  | .keyword _ column value =>
    match writtenName? state.tracker value with
    | none => .ok (state, exposure)
    | some name => do
      let record := state.tracker.recordOf? value
      let piiTypes ← match record, column with
        | some record, _ => pure record.piiTypes
        | none, some column => pure (inferTypes column)
        | none, none => throw (.noMember .none "lower")
      let columns :=
        state.tracker.columns.set (column.getD "null") { source := name, piiTypes, table }
      return ({ state with tracker := { state.tracker with columns } },
        { names := if known.contains name then exposure.names else exposure.names ++ [name]
          piiTypes := exposure.piiTypes ++ ((record.map (·.piiTypes)).getD []) })
  | _ => .ok (state, exposure)

def writeArgument (known : List String) (found : State × Exposure) (argument : Node) :
    Outcome (State × Exposure) :=
  match argument with
  | .call _ function _ keywords =>
    keywords.foldlM (writeKeyword (function.name?.getD "unknown") known) found
  | .name _ id =>
    let (state, exposure) := found
    match state.tracker.record? id with
    | some record =>
      .ok (state,
        { names := if known.contains id then exposure.names else exposure.names ++ [id]
          piiTypes := exposure.piiTypes ++ record.piiTypes })
    | none => .ok found
  | _ => .ok found

def checkWrite (state : State) : Outcome State := do
  let snippet := setting.snippet call.place
  if Routine.isStatement snippet then return state
  let (written, added) ← call.inputs.foldlM (writeArgument exposure.names) (state, {})
  let whole : Exposure :=
    { names := exposure.names ++ added.names, piiTypes := exposure.piiTypes ++ added.piiTypes }
  if whole.names.isEmpty then return written
  let verdict := withExposure
    (setting.method.classify snippet ("database operation in " ++ setting.file)
      (namesWithin call.node))
    whole 0.85 ("Storing " ++ whole.typeList ++ " from " ++ whole.nameList)
  let (rule, severity) :=
    if verdict.articles.contains "Art. 9" then ("DB_WRITE_ARTICLE9", .critical)
    else ("DB_WRITE", if verdict.severity == .info then .high else raised verdict.severity)
  return written.report (sinkFinding setting call written rule severity verdict "storage" whole)

def logMethods : List String := ["info", "warning", "error", "debug", "exception", "critical"]

def requestMethods : List String := ["get", "post", "put", "patch", "delete", "request"]

/-- Tells the sink of a method call by the object and the method. -/
def checkMethod (state : State) : Outcome State :=
  match call.function with
  | .member _ method object =>
    let base := (Tracker.calledName? object).getD ""
    if ["logging", "logger"].contains base && logMethods.contains method then
      .ok (checkLog setting call exposure state)
    else if ["requests", "httpx"].contains base && requestMethods.contains method then
      checkNetwork setting call exposure state
    else if Framework.writeMethods.contains method then checkWrite setting call exposure state
    else .ok state
  | _ => .ok state

def checkCall (state : State) : Outcome State :=
  let leaked := checkPrint setting call (checkProviders setting call state)
  let credited := call.keywords.foldl (checkCredential setting call) leaked
  let exposure := Exposure.ofNodes credited.tracker call.values
  checkMethod setting call exposure (checkPrinted setting call exposure credited)

end PrivacyScan.SourceFlow
