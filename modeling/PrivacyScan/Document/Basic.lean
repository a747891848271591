/-!
Documents: the values that configuration files, reports and exchanged records are made of. The
fields of an object keep their order.
-/

namespace PrivacyScan

/-- What a point in time gives. -/
inductive Dating where
  | date
  | time
  | dateTime
deriving Repr, DecidableEq

inductive Document where
  | null
  | bool (value : Bool)
  | int (value : Int)
  | float (value : Float)
  | text (value : String)
  | dated (kind : Dating) (written : String)
  | list (items : List Document)
  | object (fields : List (String × Document))
deriving Repr

namespace Document

mutual

/-- Whether two documents are of one kind and have the same value, items or fields, in one order. -/
def same : Document → Document → Bool
  | .null, .null => true
  | .bool first, .bool second => first == second
  | .int first, .int second => first == second
  | .float first, .float second => first == second
  | .text first, .text second => first == second
  | .dated kind first, .dated kind' second => kind == kind' && first == second
  | .list first, .list second => sameItems first second
  | .object first, .object second => sameFields first second
  | _, _ => false

def sameItems : List Document → List Document → Bool
  | [], [] => true
  | first :: others, second :: rest => same first second && sameItems others rest
  | _, _ => false

def sameFields : List (String × Document) → List (String × Document) → Bool
  | [], [] => true
  | (name, first) :: others, (name', second) :: rest =>
    name == name' && same first second && sameFields others rest
  | _, _ => false

end

instance : BEq Document := ⟨same⟩

/-- The value of a field of an object, `none` when there is no such field or no object. -/
def field? (document : Document) (name : String) : Option Document :=
  match document with
  | .object fields => fields.lookup name
  | _ => none

def ofOption {α : Type} (encode : α → Document) : Option α → Document
  | some value => encode value
  | none => .null

def texts (values : List String) : Document := .list (values.map .text)

def setField (name : String) (value : Document) :
    List (String × Document) → List (String × Document)
  | [] => [(name, value)]
  | (other, old) :: rest =>
    if other == name then (other, value) :: rest else (other, old) :: setField name value rest

/-- An empty, zero or absent value counts as false. -/
def isTruthy : Document → Bool
  | .null => false
  | .bool value => value
  | .int value => value != 0
  | .float value => value != 0
  | .text value => !value.isEmpty
  | .dated .. => true
  | .list items => !items.isEmpty
  | .object fields => !fields.isEmpty

end Document

end PrivacyScan
