import PrivacyScan.Finding.Basic
import PrivacyScan.Project.Imports
import PrivacyScan.Project.Order
import PrivacyScan.Project.Symbols
import PrivacyScan.Taint.Propagation

/-!
Personal data that crosses from one module into another: through calls of functions, and through
names that one module exports and another one imports.
-/

namespace PrivacyScan

open Source (Node)
open Taint (Record Tracker)

structure ModuleContext where
  language : Language
  tracker : Tracker
  imported : Table (List Record) := []
  exported : Table (List Record) := []

structure CrossFile where
  resolver : Resolver
  symbols : Symbols := {}
  contexts : Table ModuleContext := []

namespace CrossFile

def isKnownSensitive (function : String) : Bool :=
  ["getUser", "getProfile", "login", "register", "fetchData", "query"].contains function ||
    Text.contains (Text.lower function) "user"

def unknownResult (name origin : String) (confidence : Float) : Record :=
  { name, piiTypes := ["unknown"], sourceLine := 0, sourceNode := "function_call"
    source := some origin, confidence, sources := [origin] }

/-- The result of a call with tainted arguments holds what they hold. -/
def mergedResult (function origin : String) (signature : Signature)
    (arguments : List (String × Record)) : Record :=
  let confidence := arguments.foldl (fun highest (_, record) =>
    if highest < record.confidence then record.confidence else highest) 0.0
  let raised := confidence + 0.15
  Record.withSources
    { name := function ++ "_result"
      piiTypes := Text.sortedDistinct (arguments.flatMap fun (_, record) => record.piiTypes)
      sourceLine := 0
      sourceNode := "cross_file_call"
      confidence := if signature.personalParameters.isEmpty then confidence
        else if raised < 0.95 then raised else 0.95
      sources := Text.sortedDistinct
        (origin :: arguments.flatMap fun (_, record) => record.sources) }

/-- The module whose function is called: the one that the object or the function comes from. -/
def targetOf (cross : CrossFile) (caller function : String) (object : Option String) : String :=
  let called := (object.filter (!·.isEmpty)).getD function
  ((cross.resolver.resolveSymbol? called caller).filter (!·.isEmpty)).getD caller

def callResult? (cross : CrossFile) (caller function : String) (arguments : List (String × Record))
    (object : Option String := none) : Option Record :=
  let target := cross.targetOf caller function object
  let origin := target ++ "." ++ function
  match cross.symbols.signature? function (some target) with
  | none =>
    if isKnownSensitive function then some (unknownResult (function ++ "_result") origin 0.6)
    else none
  | some signature =>
    if !arguments.isEmpty then some (mergedResult function origin signature arguments)
    else if signature.returnsPersonal then some (unknownResult function origin 0.7)
    else none

/-- What a call in a Python module returns. Only arguments that are plain variables count. -/
def pythonResult? (cross : CrossFile) (caller : String) (call : Node) (tracker : Tracker) :
    Outcome (Option Record) :=
  match call with
  | .call _ function inputs _ =>
    let arguments := inputs.filterMap fun input => do
      let id ← input.name?
      let record ← tracker.record? id
      return (id, record)
    match function with
    | .name _ id => .ok (cross.callResult? caller id arguments)
    | .member _ method (.name _ object) =>
      .ok (cross.callResult? caller method arguments (some object))
    | _ => .ok none
  | other => .error (.noMember (.tree other.formWord) "func")

/-- Enters the context of a module. A module that exports a tainted name is refused after that: the
records of taints cannot be collected. -/
def register (cross : CrossFile) (module : String) (language : Language) (tracker : Tracker) :
    CrossFile × Outcome Unit :=
  let entered := { cross with contexts := cross.contexts.set module { language, tracker } }
  if (cross.symbols.exportsOf module).any tracker.holds then
    (entered, .error (.notHashable (match language with
      | .python => .taint
      | .script => .object)))
  else (entered, .ok ())

def handOver (language : Language) : Fault :=
  match language with
  | .python => .unexpectedArgument "TaintTracker.mark_tainted" "confidence"
  | .script => .unexpectedArgument "JSTaintTracker.mark_tainted" "var_name"

/-- Imports tainted names one after another, up to one that has records to hand over. -/
def importNames (dependency : ModuleContext) :
    List ImportedSymbol → ModuleContext → ModuleContext × Outcome Unit
  | [], context => (context, .ok ())
  | imported :: rest, context =>
    match dependency.exported.get? imported.originalName with
    | none => importNames dependency rest context
    | some records =>
      let entered := { context with imported := context.imported.set imported.name records }
      if records.isEmpty then importNames dependency rest entered
      else (entered, .error (handOver context.language))

def importFrom (cross : CrossFile) (module dependency : String) : CrossFile × Outcome Unit :=
  match cross.contexts.get? module, cross.contexts.get? dependency,
      cross.resolver.modules.get? module with
  | some context, some source, some info =>
    let (after, outcome) :=
      importNames source (info.imports.filter (·.source == dependency)) context
    ({ cross with contexts := cross.contexts.set module after }, outcome)
  | _, _, _ => (cross, .ok ())

def importPairs : List (String × String) → CrossFile → CrossFile × Outcome Unit
  | [], cross => (cross, .ok ())
  | (module, dependency) :: rest, cross =>
    match cross.importFrom module dependency with
    | (after, .ok ()) => importPairs rest after
    | failed => failed

/-- Lets all modules import from their dependencies, in the order of these. -/
def propagate (cross : CrossFile) : CrossFile × Outcome Unit :=
  let graph := cross.resolver.dependencies
  let pairs := (Order.sorted graph).flatMap fun module =>
    ((graph.get? module).getD []).map (module, ·)
  importPairs pairs cross

def withImport (finding : Finding) (name : String) (records : List Record) : Finding :=
  let named := { finding with taintedVariables := [name] }
  match records with
  | [] => named
  | record :: _ =>
    { named with
      metadata := Document.setField "pii_types" (.texts record.piiTypes)
        (Document.setField "taint_sources" (.texts record.sources)
          (Document.setField "cross_file_taint" (.bool true) named.metadata)) }

/-- Explains a finding that has no tainted variables by the imported names in its excerpt; the last
of them counts. -/
def enhance (imported : Table (List Record)) (finding : Finding) (excerpt : Option String) :
    Outcome Finding :=
  if !finding.taintedVariables.isEmpty || imported.isEmpty then .ok finding
  else
    match excerpt with
    | none => .error (.noMember .finding "code_snippet")
    | some text =>
      .ok (imported.foldl (fun current (name, records) =>
        if Text.contains text name then withImport current name records else current) finding)

def enhanceAll (cross : CrossFile) (module : String) (findings : List (Finding × Option String)) :
    Outcome (List Finding) :=
  let imported := ((cross.contexts.get? module).map (·.imported)).getD []
  findings.mapM fun (finding, excerpt) => enhance imported finding excerpt

end CrossFile

end PrivacyScan
