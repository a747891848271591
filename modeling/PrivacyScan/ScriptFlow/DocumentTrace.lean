import PrivacyScan.Document.Access
import PrivacyScan.ScriptFlow.Trace

/-!
The flow of data through the tree of a script that is given as a document: nodes are objects with a
field `type`, and their parts are walked in the order of the fields.
-/

namespace PrivacyScan.ScriptFlow

open Taint (Tracker)

/-- The dotted name of a variable or member in a document. -/
def recordedName? : Document → Option String
  | .object fields =>
    match fields.lookup "type" with
    | some (.text "Identifier") => (fields.lookup "name").bind (·.text?)
    | some (.text "MemberExpression") =>
      if ((fields.lookup "computed").getD .null).isTruthy then none
      else
        match recordedIn? "object" fields, recordedIn? "property" fields with
        | some object, some property =>
          if object.isEmpty || property.isEmpty then none else some (object ++ "." ++ property)
        | _, _ => none
    | _ => none
  | _ => none
where
  recordedIn? (key : String) : List (String × Document) → Option String
    | [] => none
    | (name, value) :: rest => if name == key then recordedName? value else recordedIn? key rest

def recordedLine (location : Document) : Outcome Int :=
  match location with
  | .object _ => do
    match ← (← location.item "start").item "line" with
    | .int line => return line
    | _ => return 0
  | other => .error (.noMember other.kind "start")

/-- An assignment between nodes of a document. The walk does not look into the source any further: a
document is no node. -/
def traceRecordedAssignment (target source : Document) (line : Int) : Walk Unit := do
  match recordedName? target with
  | none => return ()
  | some target =>
    if target.isEmpty then return ()
    if let some name := recordedName? source then
      unless name.isEmpty do traceNamed target name line
    if source.isTruthy then throw (.noMember source.kind "type")

def lift {α : Type} (outcome : Outcome α) : Walk α := ExceptT.mk (pure outcome)

/-- What a node tells before its parts are walked. -/
def enterRecorded (node : Document) : Walk Unit := do
  let line := lift (recordedLine (node.fieldOrNull "loc"))
  match node.fieldOrNull "type" with
  | .text "VariableDeclaration" =>
    for declarator in ← lift (node.fieldOrNull "declarations").elements do
      match declarator with
      | .object _ =>
        if (declarator.fieldOrNull "init").isTruthy then
          traceRecordedAssignment (declarator.fieldOrNull "id")
            (declarator.fieldOrNull "init") (← line)
      | other => throw (.noMember other.kind "init")
  | .text "AssignmentExpression" =>
    traceRecordedAssignment (node.fieldOrNull "left") (node.fieldOrNull "right") (← line)
  | .text "CallExpression" =>
    let line ← line
    if let some sink := recordedName? (node.fieldOrNull "callee") then
      if isSinkName sink then
        let arguments ← lift (node.fieldOrNull "arguments").elements
        modify (traceSink sink (arguments.filterMap recordedName?) line)
  | _ => return ()

/-- Fields that hold no parts. -/
def plainFields : List String := ["loc", "range", "type", "tokens"]

mutual

/-- Walks an object that has a type; anything else is no node. -/
def visitRecorded : Document → Walk Unit
  | .object fields =>
    if ((fields.lookup "type").getD .null).isTruthy then do
      enterRecorded (.object fields)
      visitFields fields
    else pure ()
  | _ => pure ()

def visitFields : List (String × Document) → Walk Unit
  | [] => pure ()
  | (name, value) :: rest => do
    unless plainFields.contains name do
      match value with
      | .list items => visitItems items
      | value => visitRecorded value
    visitFields rest

def visitItems : List Document → Walk Unit
  | [] => pure ()
  | item :: rest => do
    visitRecorded item
    visitItems rest

end

/-- Follows the data through a tree, with the fault that ended the walk. -/
def traceDocument (tree : Document) (tracker : Tracker) : Outcome Unit × Tracker :=
  (visitRecorded tree).run.run tracker

end PrivacyScan.ScriptFlow
