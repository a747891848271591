import PrivacyScan.Text.Casing
import PrivacyScan.Fault
import PrivacyScan.Source.Tree

/-!
Constants of Python source as values: their kind, their text, and whether they count as true.
-/

namespace PrivacyScan.Source

namespace Constant

def kind : Constant → ValueKind
  | none => .none
  | bool _ => .bool
  | int _ => .int
  | float _ => .float
  | imaginary _ => .complex
  | text _ => .text
  | bytes _ => .bytes
  | ellipsis => .ellipsis

def isTruthy : Constant → Bool
  | none => false
  | bool value => value
  | int value => value != 0
  | float value => value != 0
  | imaginary value => value != 0
  | text value => !value.isEmpty
  | bytes value => !value.isEmpty
  | ellipsis => true

/-- A number with `j` behind it has no fraction unless it needs one. -/
def imaginaryText (value : Float) : String :=
  let digits := Number.floatText value
  (if Text.endsWith digits ".0" then Text.take (Text.length digits - 2) digits else digits) ++ "j"

/-- The constant as it is shown: a text is itself, anything else is its literal. -/
def shown : Constant → String
  | none => "None"
  | bool value => if value then "True" else "False"
  | int value => toString value
  | float value => Number.floatText value
  | imaginary value => imaginaryText value
  | text value => value
  | bytes value => Text.quotedBytes value
  | ellipsis => "Ellipsis"

/-- Whether a constant can be written down: a whole number has at most 4300 decimal digits. -/
def isWritable : Constant → Bool
  | int value => value < Nat.pow 10 4300
  | _ => true

/-- The constant as it is shown, unless it is too long for that. -/
def written (constant : Constant) : Outcome String :=
  if constant.isWritable then .ok constant.shown else .error .overlongNumber

def text? : Constant → Option String
  | text value => some value
  | _ => Option.none

def lowerByte (byte : UInt8) : UInt8 := if 65 ≤ byte && byte ≤ 90 then byte + 32 else byte

/-- The lower case of a constant, where it has one; bytes show as their literal. -/
def lowered : Constant → Outcome String
  | text value => .ok (Text.lower value)
  | bytes value => .ok (Text.quotedBytes (value.map lowerByte))
  | other => .error (.noMember other.kind "lower")

end Constant

namespace Node

def constant? : Node → Option Constant
  | .mk (.constant content _) _ _ => some content
  | _ => none

def text? (node : Node) : Option String := node.constant?.bind (·.text?)

def formWord (node : Node) : String :=
  match node.form with
  | .boolOp _ => "BoolOp"
  | .named => "NamedExpr"
  | .binOp _ => "BinOp"
  | .unaryOp _ => "UnaryOp"
  | .lambda => "Lambda"
  | .conditional => "IfExp"
  | .dict => "Dict"
  | .set => "Set"
  | .listComp => "ListComp"
  | .setComp => "SetComp"
  | .dictComp => "DictComp"
  | .generator => "GeneratorExp"
  | .awaiting => "Await"
  | .yielding => "Yield"
  | .yieldingFrom => "YieldFrom"
  | .compare _ => "Compare"
  | .call => "Call"
  | .formattedValue _ => "FormattedValue"
  | .joinedText => "JoinedStr"
  | .constant .. => "Constant"
  | .member _ => "Attribute"
  | .subscript => "Subscript"
  | .starred => "Starred"
  | .name _ => "Name"
  | .list => "List"
  | .tuple => "Tuple"
  | .slice => "Slice"
  | _ => "Expr"

def name? : Node → Option String
  | .mk (.name id) _ _ => some id
  | _ => none

end Node

end PrivacyScan.Source
