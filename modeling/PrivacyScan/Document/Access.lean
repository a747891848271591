import PrivacyScan.Fault

/-!
Reading documents whose shape is not known: each access says what is wrong when the document has
another shape.
-/

namespace PrivacyScan.Document

def kind : Document → ValueKind
  | null => .none
  | bool _ => .bool
  | int _ => .int
  | float _ => .float
  | text _ => .text
  | dated kind _ => .dated kind
  | list _ => .list
  | object _ => .object

def text? : Document → Option String
  | text value => some value
  | _ => none

/-- The value of a field, null when an object has no such field. -/
def fieldOrNull (document : Document) (name : String) : Document :=
  (document.field? name).getD .null

def item (document : Document) (key : String) : Outcome Document :=
  match document with
  | object fields =>
    match fields.lookup key with
    | some value => .ok value
    | none => .error (.missingKey key)
  | list _ => .error (.indexedByText .list)
  | text _ => .error (.indexedByText .text)
  | other => .error (.noItems other.kind)

/-- What a loop over a document runs through: items, keys or characters. -/
def elements : Document → Outcome (List Document)
  | list items => .ok items
  | object fields => .ok (fields.map fun (name, _) => .text name)
  | text value => .ok (value.toList.map fun c => .text (String.singleton c))
  | other => .error (.notIterable other.kind)

/-- The value of a field of an object, or a value in place of a missing one. -/
def get (document : Document) (name : String) (default : Document := .null) : Outcome Document :=
  match document with
  | object fields => .ok ((fields.lookup name).getD default)
  | other => .error (.noMember other.kind "get")

/-- The text that a document is, where the operation `member` of texts is wanted. -/
def asText (document : Document) (member : String) : Outcome String :=
  match document with
  | text value => .ok value
  | other => .error (.noMember other.kind member)

/-- A list of texts may also be given as one text. -/
def listed : Document → Document
  | text value => .list [.text value]
  | other => other

def joinTexts (position : Nat) : List Document → Outcome (List String)
  | [] => .ok []
  | text value :: rest => do return value :: (← joinTexts (position + 1) rest)
  | other :: _ => .error (.joinedNonText position other.kind)

def joined (separator : String) (document : Document) : Outcome String :=
  match document.elements with
  | .ok items => return String.intercalate separator (← joinTexts 0 items)
  | .error _ => .error .notJoinable

/-- Whether a word is a part of a text, or among the items of a list or the names of an object. -/
def mentions (document : Document) (word : String) : Outcome Bool :=
  match document with
  | text value => .ok (Text.contains value word)
  | list items => .ok (items.contains (.text word))
  | object fields => .ok (fields.any (·.1 == word))
  | other => .error (.noContents other.kind)

/-- The number that a document is, where it is compared with a whole number. -/
def compared (symbol : String) : Document → Outcome Float
  | int value => .ok (Float.ofInt value)
  | float value => .ok value
  | bool value => .ok (if value then 1.0 else 0.0)
  | other => .error (.cannotCompare symbol other.kind .int)

/-- The number that a document is, where it is written with a fixed number of places. -/
def formatted : Document → Outcome Float
  | int value => .ok (Float.ofInt value)
  | float value => .ok value
  | bool value => .ok (if value then 1.0 else 0.0)
  | text _ => .error (.unknownFormat 'f' .text)
  | other => .error (.notFormattable other.kind)

def hashable (document : Document) : Outcome Document :=
  match document with
  | list _ => .error (.notHashable .list)
  | object _ => .error (.notHashable .object)
  | other => .ok other

end PrivacyScan.Document
