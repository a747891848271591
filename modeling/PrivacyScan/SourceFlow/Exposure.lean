import PrivacyScan.SourceFlow.State

/-!
Which tainted variables an expression exposes. `firstTainted?` and `firstPrinted?` look for one
variable; `Exposure.ofNodes` collects all that a call hands on.
-/

namespace PrivacyScan.SourceFlow

open Source (Node)
open Taint (Tracker Record inferTypes)

/-- The record of a variable, or of the variable whose member is taken. -/
def baseRecord? (tracker : Tracker) : Node → Option Record
  | .name _ id => tracker.record? id
  | .member _ _ (.name _ id) => tracker.record? id
  | _ => none

mutual

/-- The first tainted variable in an expression, looking into dictionaries, lists, tuples and
formatted texts. -/
def firstTainted? (tracker : Tracker) : Node → Option Record
  | .mk .dict _ [_, values] => firstTaintedOf? tracker values
  | .mk .list _ [elements] => firstTaintedOf? tracker elements
  | .mk .tuple _ [elements] => firstTaintedOf? tracker elements
  | .mk .joinedText _ [values] => firstFormatted? tracker values
  | node => baseRecord? tracker node

def firstTaintedOf? (tracker : Tracker) : List Node → Option Record
  | [] => none
  | node :: rest =>
    match firstTainted? tracker node with
    | some record => some record
    | none => firstTaintedOf? tracker rest

def firstFormatted? (tracker : Tracker) : List Node → Option Record
  | [] => none
  | .mk (.formattedValue _) _ [[value], _] :: rest =>
    match firstTainted? tracker value with
    | some record => some record
    | none => firstFormatted? tracker rest
  | _ :: rest => firstFormatted? tracker rest

end

mutual

/-- The first tainted variable that is printed, looking into formatted texts. -/
def firstPrinted? (tracker : Tracker) : Node → Option Record
  | .mk .joinedText _ [values] => firstPrintedOf? tracker values
  | node => baseRecord? tracker node

def firstPrintedOf? (tracker : Tracker) : List Node → Option Record
  | [] => none
  | .mk (.formattedValue _) _ [[value], _] :: rest =>
    match firstPrinted? tracker value with
    | some record => some record
    | none => firstPrintedOf? tracker rest
  | _ :: rest => firstPrintedOf? tracker rest

end

/-- The tainted variables and members that a call hands on, with the types of their data. -/
structure Exposure where
  names : List String := []
  piiTypes : List String := []
deriving Repr

namespace Exposure

def addName (exposure : Exposure) (tracker : Tracker) (id : String) : Exposure :=
  match tracker.record? id with
  | some record =>
    { names := exposure.names ++ [id], piiTypes := exposure.piiTypes ++ record.piiTypes }
  | none => exposure

/-- A member is listed once, with its object when that is a variable. -/
def addMember (exposure : Exposure) (tracker : Tracker) (id : String) (object : Node) : Exposure :=
  if tracker.isTaintedMember id object then
    let shown := match object.name? with
      | some base => base ++ "." ++ id
      | none => id
    { names := if exposure.names.contains shown then exposure.names else exposure.names ++ [shown]
      piiTypes := exposure.piiTypes ++ inferTypes id }
  else exposure

mutual

/-- Adds what an expression exposes. Of a dictionary only the values count, and of a formatted text
only its fields; a member is taken as a whole. -/
def addNode (tracker : Tracker) : Node → Exposure → Exposure
  | .mk form _ parts, exposure =>
    match form, parts with
    | .name id, _ => exposure.addName tracker id
    | .member id, [[object]] => exposure.addMember tracker id object
    | .joinedText, [values] => addFormatted tracker values exposure
    | .dict, [_, values] => addNodes tracker values exposure
    | _, groups => addGroups tracker groups exposure

def addFormatted (tracker : Tracker) : List Node → Exposure → Exposure
  | [], exposure => exposure
  | .mk (.formattedValue _) _ [[value], _] :: rest, exposure =>
    addFormatted tracker rest (addNode tracker value exposure)
  | _ :: rest, exposure => addFormatted tracker rest exposure

def addNodes (tracker : Tracker) : List Node → Exposure → Exposure
  | [], exposure => exposure
  | node :: rest, exposure => addNodes tracker rest (addNode tracker node exposure)

def addGroups (tracker : Tracker) : List (List Node) → Exposure → Exposure
  | [], exposure => exposure
  | group :: rest, exposure => addGroups tracker rest (addNodes tracker group exposure)

end

def ofNodes (tracker : Tracker) (nodes : List Node) : Exposure := addNodes tracker nodes {}

end Exposure

def keywordValues (keywords : List Node) : List Node :=
  keywords.filterMap fun
    | .keyword _ _ value => some value
    | _ => none

/-- All names of variables and members in a tree, level by level. -/
def namesWithin (node : Node) : List String :=
  node.walk.filterMap fun node =>
    match node.form with
    | .name id => some id
    | .member id => some id
    | _ => none

end PrivacyScan.SourceFlow
