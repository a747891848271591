import PrivacyScan.Fault
import PrivacyScan.Script.Statement
import PrivacyScan.Taint.Script

/-!
The flow of data through the tree of a script. What is known of the variables is kept when the walk
fails, up to the point where it failed.
-/

namespace PrivacyScan.ScriptFlow

open Script (Node)
open Taint (Tracker inferScriptTypes)

/-- A step of the walk: it changes what is known, and it may fail. -/
abbrev Walk := ExceptT Fault (StateM Tracker)

/-- The dotted name of a variable or member; a computed member has none. -/
def nodeName? : Node → Option String
  | .mk (.identifier name) _ _ => some name
  | .mk (.member false) _ [[object], [property]] =>
    match nodeName? object, nodeName? property with
    | some object, some property => some (object ++ "." ++ property)
    | _, _ => none
  | _ => none

def isSourceName (name : String) : Bool :=
  Text.startsWithAny name
    ["req.body", "req.query", "req.params", "document.cookie", "localStorage", "sessionStorage"]

def isSinkName (name : String) : Bool :=
  ["console.log", "console.info", "console.error", "fetch", "axios.post", "axios.put",
    "document.write", "innerHTML"].any fun sink => name == sink || Text.endsWith name ("." ++ sink)

def traceCopy (target source : String) (line : Int) (tracker : Tracker) : Tracker :=
  match tracker.record? source with
  | none => tracker
  | some record =>
    (tracker.markScript target record.piiTypes record.source record.context
      record.isSanitized).addScriptEdge source target line "assignment"

def traceSource (target source : String) (line : Int) (tracker : Tracker) : Tracker :=
  if isSourceName source then
    (tracker.markScript target ["user_input"] (some source)
      (some "source_extraction")).addScriptEdge source target line "source"
  else if Text.contains source "." && isSourceName (Text.before source ".") then
    let piiTypes := inferScriptTypes ((Text.split source ".").getLastD "")
    tracker.markScript target (if piiTypes.isEmpty then ["user_input"] else piiTypes) (some source)
      (some "property_access")
  else tracker

/-- What a named expression tells about the variable that gets it. -/
def traceNamed (target source : String) (line : Int) : Walk Unit :=
  modify fun tracker => traceSource target source line (traceCopy target source line tracker)

/-- Tainted variables among the arguments of a sink. -/
def traceSink (sink : String) (arguments : List String) (line : Int) (tracker : Tracker) :
    Tracker :=
  if isSinkName sink then
    (arguments.filter tracker.holds).foldl (fun (tracker : Tracker) (argument : String) =>
      tracker.addScriptEdge argument sink line "sink") tracker
  else tracker

/-- A member of a tainted variable. Its own name tells the types of its data; a member without a
name cannot be judged. -/
def traceMember (target : String) (source object property : Node) (line : Int) : Walk Unit := do
  let tracker ← get
  match (nodeName? object).bind tracker.record? with
  | none => return ()
  | some record =>
    match nodeName? property with
    | none => throw (.noMember .none "lower")
    | some name =>
      let piiTypes := inferScriptTypes name
      set ((tracker.markScript target (if piiTypes.isEmpty then record.piiTypes else piiTypes)
        record.source (some "property_access_tainted")).addScriptEdge (nodeName? source) target line
        "assignment")

/-- An assignment, as far as its target has a name. -/
def traceAssignment (target source : Node) (line : Int) : Walk Unit := do
  match nodeName? target with
  | none => return ()
  | some target =>
    if target.isEmpty then return ()
    if let some name := nodeName? source then traceNamed target name line
    match source with
    | .member _ _ object property => traceMember target source object property line
    | _ => return ()

def traceCall (callee : Node) (arguments : List Node) (line : Int) (tracker : Tracker) : Tracker :=
  match nodeName? callee with
  | none => tracker
  | some sink => traceSink sink (arguments.filterMap nodeName?) line tracker

/-- What a node tells before its parts are walked. -/
def enterNode (node : Node) : Walk Unit :=
  match node with
  | .declaration line declarators =>
    declarators.forM fun
      | .declarator _ target [value] => traceAssignment target value line
      | _ => pure ()
  | .assignment line left right => traceAssignment left right line
  | .call line arguments callee => modify (traceCall callee arguments line)
  | _ => pure ()

mutual

def visitNode : Node → Walk Unit
  | .mk form line parts => do
    enterNode (.mk form line parts)
    visitNodeGroups parts

def visitNodeGroups : List (List Node) → Walk Unit
  | [] => pure ()
  | group :: rest => do
    visitNodeList group
    visitNodeGroups rest

def visitNodeList : List Node → Walk Unit
  | [] => pure ()
  | node :: rest => do
    visitNode node
    visitNodeList rest

end

/-- Follows the data through a script; false when it cannot be read or the walk failed. -/
def trace (code : String) (tracker : Tracker) : Bool × Tracker :=
  match Script.parse? code with
  | none => (false, tracker)
  | some tree =>
    match (visitNode tree).run.run tracker with
    | (.ok _, traced) => (true, traced)
    | (.error _, traced) => (false, traced)

end PrivacyScan.ScriptFlow
