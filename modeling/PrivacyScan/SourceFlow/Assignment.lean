import PrivacyScan.Framework
import PrivacyScan.Secret
import PrivacyScan.SourceFlow.State

/-!
What an assignment to a variable tells about it: data of a request, a field of tainted data, a
secret in the code, the result of a database query, or a copy of other variables. Each of these has
a part of its own, which changes what is known of the variables and nothing else. The parts come one
after the other, and the finding for a secret is added at the end.
-/

namespace PrivacyScan.SourceFlow

open Source (Node Place Constant)
open Taint (Tracker Record FlowEdge Mark inferTypes)

section Parts

variable (line : Int) (target : String)

/-- `x = request.json`: the body or the parameters of a request. -/
def assignRequest (value : Node) (scope : Outcome (Option String)) (tracker : Tracker) :
    Outcome Tracker :=
  match value with
  | .member _ part (.name _ "request") =>
    if ["json", "form", "args", "values"].contains part then do
      let context ← scope
      return (tracker.mark target
        { piiTypes := ["user_input"], line, node := "request." ++ part,
          source := some "request body", context }).addEdge
        { source := "SOURCE:request." ++ part, target, sourceLine := line, targetLine := line,
          flowType := "source", transformation := some "extraction", context }
    else .ok tracker
  | _ => .ok tracker

/-- The constant that a call of `get` asks for. -/
def fieldAsked? : Node → Option (Node × Constant)
  | .call _ (.member _ "get" object) (input :: _) _ => input.constant?.map (object, ·)
  | _ => none

/-- `x = data.get("email")` where the data is tainted. -/
def assignField (value : Node) (scope : Outcome (Option String)) (tracker : Tracker) :
    Outcome Tracker :=
  match fieldAsked? value with
  | some (.name _ object, field) =>
    if tracker.holds object then do
      let piiTypes ← typesOfConstant field
      let context ← scope
      return (tracker.mark target
        { piiTypes, line, node := "dict.get", source := some ("field '" ++ field.shown ++ "'"),
          context }).addEdge
        { source := object, target, sourceLine := line, targetLine := line,
          flowType := "extraction",
          transformation := some ("get('" ++ field.shown ++ "')"), context }
    else .ok tracker
  | _ => .ok tracker

/-- `x = request.args.get("email")`: one parameter of a request. -/
def assignParameter (value : Node) (scope : Outcome (Option String)) (tracker : Tracker) :
    Outcome Tracker :=
  match fieldAsked? value with
  | some (.member _ part _, field) =>
    if ["args", "form", "json"].contains part then do
      let piiTypes ← typesOfConstant field
      let context ← scope
      return (tracker.mark target
        { piiTypes, line, node := "request.args.get",
          source := some ("request parameter '" ++ field.shown ++ "'"), context }).addEdge
        { source := "SOURCE:request." ++ part ++ "['" ++ field.shown ++ "']", target,
          sourceLine := line, targetLine := line, flowType := "source",
          transformation := some "extraction", context }
    else .ok tracker
  | _ => .ok tracker

/-- Passes on what is known of a tainted variable to the result taken from it. -/
def markExtraction (object : Node) (source : String) (context : Option String) (tracker : Tracker) :
    Tracker :=
  match tracker.recordOf? object with
  | some record =>
    tracker.mark target
      { piiTypes := record.piiTypes, line, node := "db_result_extraction", source := some source,
        context }
  | none => tracker

def assignMember (id : String) (object : Node) (context : Option String) (tracker : Tracker) :
    Tracker :=
  match object.name? with
  | none => tracker
  | some base =>
    let extracted := if Framework.resultMethods.contains id then
        markExtraction line target object (base ++ "." ++ id ++ "()") context tracker
      else tracker
    match extracted.recordOf? object with
    | some record =>
      extracted.mark target
        { piiTypes := Text.sortedDistinct (record.piiTypes ++ inferTypes id), line,
          node := "attribute_propagation", source := some (base ++ "." ++ id), context }
    | none => extracted

/-- An item of tainted data, or one whose key names personal data. The key has to be one that can be
written down. -/
def assignItem (container index : Node) (tracker : Tracker) : Outcome Tracker :=
  match index.constant? with
  | none => .ok tracker
  | some constant => do
    let key ← constant.written
    let piiTypes := inferTypes key
    if (tracker.recordOf? container).isSome || piiTypes != ["unknown"] then
      return tracker.mark target
        { piiTypes, line, node := "subscript", source := some ("dict['" ++ key ++ "']") }
    else return tracker

/-- The names among the arguments of a call. -/
def namesOf (inputs : List Node) : List String := inputs.filterMap (·.name?)

/-- The models that a call queries: those of a `select` that is executed, or of a `query`. -/
def queriedModels (function : String) (inputs : List Node) : List String :=
  match function, inputs with
  | "execute", .call _ (.name _ "select") models _ :: _ => namesOf models
  | "query", models => namesOf models
  | _, _ => []

def personalModels : List String :=
  ["user", "account", "profile", "member", "organization", "customer", "person"]

def markQuery (models : List String) (node : String) (tracker : Tracker) : Tracker :=
  tracker.mark target
    { piiTypes := ["email", "name"], line, node,
      source := some ("SELECT " ++ Text.join "," models) }

/-- `x = rows.fetchall()`: what a method takes from the result of a query. -/
def assignResult (function : Node) (tracker : Tracker) : Tracker :=
  match function with
  | .member _ id (.name place base) =>
    if Framework.resultMethods.contains id then
      markExtraction line target (.name place base) (base ++ "." ++ id ++ "()") none tracker
    else tracker
  | _ => tracker

def assignCall (function : Node) (inputs : List Node) (context : Option String)
    (tracker : Tracker) : Tracker :=
  let name := (Tracker.calledName? function).getD ""
  let extracted := assignResult line target function tracker
  let models := queriedModels name inputs
  let queried := if models.any (personalModels.contains <| Text.lower ·) then
      markQuery line target models "db_query" extracted
    else extracted
  let piiTypes := inferTypes name target
  let inferred := if piiTypes != ["unknown"] then
      queried.mark target { piiTypes, line, node := "function_call", source := some name }
    else queried
  inferred.propagateCall target function inputs line context

/-- The models of a `select`, also where further calls refine it. -/
def selectedModels : Node → List String
  | .call _ (.name _ "select") models _ => namesOf models
  | .call _ (.member _ _ (.call place function inputs keywords)) _ _ =>
    selectedModels (.call place function inputs keywords)
  | _ => []

def assignAwaited (call : Node) (tracker : Tracker) : Tracker :=
  match call with
  | .call _ function (query :: _) _ =>
    let models := selectedModels query
    if Tracker.calledName? function == some "execute" && models.any Framework.isPersonalModel then
      markQuery line target models "db_query_await" tracker
    else tracker
  | _ => tracker

def assignValue (value : Node) (context : Option String) (tracker : Tracker) : Outcome Tracker :=
  match value with
  | .member _ id object => .ok (assignMember line target id object context tracker)
  | .name _ id => .ok (tracker.propagateName target id line context)
  | .subscript _ container index => assignItem line target container index tracker
  | .call _ function inputs _ => .ok (assignCall line target function inputs context tracker)
  | .awaiting _ call => .ok (assignAwaited line target call tracker)
  | _ => .ok tracker

/-- The secret that the variable gets, when the value is one. -/
def secretOf? (value : Node) : Option Secret.Verdict := value.text?.bind (Secret.verdict? target)

def assignSecret (value : Node) (context : Option String) (tracker : Tracker) : Tracker :=
  match secretOf? target value with
  | some secret =>
    tracker.mark target
      { piiTypes := [secret.kind, "credentials"], line, node := "hardcoded_secret",
        source := some (target ++ "=***"), context }
  | none => tracker

/-- All parts in order. The first three name the function with its route, the others without. -/
def track (value : Node) (state : State) : Outcome Tracker := do
  let requested ← assignRequest line target value state.scope state.tracker
  let asked ← assignField line target value state.scope requested
  let received ← assignParameter line target value state.scope asked
  assignValue line target value state.function
    (assignSecret line target value state.function received)

end Parts

/-- The finding for a secret in the code. Its snippet masks the value. -/
def secretFinding (setting : Setting) (place : Place) (target : String) (secret : Secret.Verdict) :
    Finding :=
  let excerpt := setting.excerpt place
  let severity : Severity := if secret.isCertain then .critical else .high
  { rule := "HARDCODED_SECRET", severity := .level severity, file := setting.file,
    line := place.line, snippet := target ++ " = \"***\""
    assessment := .classified {
      piiTypes := [secret.kind, "credentials"], sectors := ["security", "authentication"],
      severity := severity.label, article := some "Art. 32", legalBasisRequired := true,
      category := "credentials", confidence := secret.confidence,
      reasoning := "Hardcoded " ++ secret.kind ++ " violates Art. 32 security requirements" }
    suggestedFix := some "Move secret to environment variable (os.environ.get) or secrets manager."
    confidenceScore := secret.confidence
    contextStartLine := some excerpt.first, contextEndLine := some excerpt.last
    codeContext := excerpt.lines
    metadata := [
      ("description", .text ("Hardcoded " ++ secret.kind ++ " detected in source code")),
      ("variable", .text target), ("secret_type", .text secret.kind)] }

/-- The finding for the secret that the variable gets, if it gets one. -/
def secretFound (setting : Setting) (place : Place) (value : Node) (target : String) :
    List Finding :=
  ((secretOf? target value).map (secretFinding setting place target)).toList

def assignName (setting : Setting) (place : Place) (value : Node) (state : State)
    (target : String) : Outcome State :=
  (fun tracker => { state with
    tracker, findings := state.findings ++ secretFound setting place value target }) <$>
      track place.line target value state

/-- An assignment concerns each of its targets that is a variable. -/
def assign (setting : Setting) (place : Place) (targets : List Node) (value : Node)
    (state : State) : Outcome State :=
  (namesOf targets).foldlM (assignName setting place value) state

end PrivacyScan.SourceFlow
