import PrivacyScan.Source.Constant
import PrivacyScan.Taint.Basic
import PrivacyScan.Taint.Inference

/-!
How personal data gets into variables: `Tracker.mark` enters what is known of one variable, and
`Tracker.propagate` follows an assignment from the expression to its target.
-/

namespace PrivacyScan.Taint

open Source (Node)

structure Mark where
  piiTypes : List String
  line : Int
  node : String := "unknown"
  source : Option String := none
  context : Option String := none
  isSanitized : Bool := false
deriving Repr

namespace Mark

def record (mark : Mark) (name : String) : Record :=
  { name, piiTypes := mark.piiTypes, sourceLine := mark.line, sourceNode := mark.node,
    source := mark.source, context := mark.context, isSanitized := mark.isSanitized,
    sources := mark.source.toList.filter (!·.isEmpty) }

/-- A later observation adds its types, gives a context where there was none, and decides whether
the variable counts as sanitized. -/
def revise (mark : Mark) (record : Record) : Record :=
  { record with
    piiTypes := Text.sortedDistinct (record.piiTypes ++ mark.piiTypes)
    context := if record.context.isNone && mark.context.any (!·.isEmpty) then mark.context
      else record.context
    isSanitized := mark.isSanitized }

end Mark

namespace Tracker

variable (tracker : Tracker)

def mark (name : String) (mark : Mark) : Tracker :=
  let record := match tracker.record? name with
    | some record => mark.revise record
    | none => mark.record name
  { tracker with records := tracker.records.set name record }

/-- Whether a member holds personal data, because its object does or its own name says so. -/
def isTaintedMember (id : String) (value : Node) : Bool :=
  value.name?.any tracker.holds || Text.containsAny (Text.lower id) memberWords

def isTainted : Node → Bool
  | .name _ id => tracker.holds id
  | .member _ id value => tracker.isTaintedMember id value
  | .subscript _ value _ => isTainted value
  | _ => false

/-- The record of a variable; other expressions have none. -/
def recordOf? (node : Node) : Option Record := node.name?.bind tracker.record?

def sourceLineOf (name : String) : Int :=
  ((tracker.record? name).map (·.sourceLine)).getD 0

/-- The last name in the function of a call. -/
def calledName? : Node → Option String
  | .name _ id => some id
  | .member _ id _ => some id
  | _ => none

/-- What the tainted arguments of a call say about its result. -/
def callMark (arguments : List Node) (sanitizes : Bool) (line : Int)
    (context : Option String) : Mark :=
  let records := arguments.filterMap tracker.recordOf?
  { piiTypes := Text.sortedDistinct (records.flatMap (·.piiTypes)), line, node := "function_call",
    source := some "function_result", context,
    isSanitized := sanitizes || records.all (·.isSanitized) }

def propagateName (target id : String) (line : Int) (context : Option String) : Tracker :=
  match tracker.record? id with
  | none => tracker
  | some record =>
    (tracker.mark target
      { piiTypes := record.piiTypes, line, node := "assignment", source := some id, context,
        isSanitized := record.isSanitized }).addEdge
      { source := id, target, sourceLine := record.sourceLine, targetLine := line,
        flowType := "assignment", context }

def propagateMember (target id : String) (value : Node) (line : Int)
    (context : Option String) : Tracker :=
  if !tracker.isTaintedMember id value then tracker
  else
    let source := match value.name? with
      | some base => base ++ "." ++ id
      | none => id
    let marked := tracker.mark target
      { piiTypes := inferTypes id, line, node := "attribute_access",
        source := some source, context }
    match value.name? with
    | some base =>
      if marked.holds base then
        marked.addEdge
          { source := base, target, sourceLine := marked.sourceLineOf base, targetLine := line,
            flowType := "attribute", transformation := some ("extract ." ++ id), context }
      else marked
    | none => marked

/-- The types of the item under a key: those that the key names, or else those of all the data. A
key that names something has to be one that can be written down. -/
def itemTypes (index : Node) (inherited : List String) : Outcome (List String) :=
  match index.constant? with
  | some key => if key.isTruthy then inferTypes <$> key.written else .ok inherited
  | none => .ok inherited

def propagateSubscript (target : String) (value index : Node) (line : Int)
    (context : Option String) : Outcome Tracker :=
  if !tracker.isTainted value then .ok tracker
  else do
    let piiTypes ← itemTypes index
      (((tracker.recordOf? value).map (·.piiTypes)).getD ["unknown"])
    let marked := tracker.mark target { piiTypes, line, node := "subscript", context }
    match value.name? with
    | some base =>
      if marked.holds base then
        return marked.addEdge
          { source := base, target, sourceLine := marked.sourceLineOf base, targetLine := line,
            flowType := "subscript", context }
      else return marked
    | none => return marked

def propagateCall (target : String) (function : Node) (inputs : List Node)
    (line : Int) (context : Option String) : Tracker :=
  match inputs.filter tracker.isTainted with
  | [] => tracker
  | arguments =>
    let name := (calledName? function).getD ""
    let sanitizes := isSanitizerName name
    let marked := tracker.mark target (tracker.callMark arguments sanitizes line context)
    let transformation := if sanitizes then "sanitizer:" ++ name else "function_call"
    (arguments.filterMap (·.name?)).foldl (fun (tracker : Tracker) (argument : String) =>
      tracker.addEdge
        { source := argument, target, sourceLine := marked.sourceLineOf argument,
          targetLine := line,
          flowType := "call", transformation := some transformation, context }) marked

def propagate (target : String) (source : Node) (line : Int)
    (context : Option String := none) : Outcome Tracker :=
  match source with
  | .name _ id => .ok (tracker.propagateName target id line context)
  | .member _ id value => .ok (tracker.propagateMember target id value line context)
  | .subscript _ value index => tracker.propagateSubscript target value index line context
  | .call _ function inputs _ => .ok (tracker.propagateCall target function inputs line context)
  | _ => .ok tracker

def taintedArguments : Node → Outcome (List String)
  | .call _ _ inputs _ => .ok ((inputs.filter tracker.isTainted).filterMap (·.name?))
  | .lambda .. => .error (.notIterable (.tree "arguments"))
  | node => .error (.noMember (.tree node.formWord) "args")

end Tracker

end PrivacyScan.Taint
