import PrivacyScan.Document.Basic
import PrivacyScan.Number.Decimal

/-!
Documents as text in the JSON format, with all characters outside ASCII escaped, on one line or
indented.
-/

namespace PrivacyScan.Document

def hexDigit (value : Nat) : Char :=
  if value < 10 then Char.ofNat ('0'.toNat + value) else Char.ofNat ('a'.toNat + (value - 10))

def hexDigits (value : Nat) : (count : Nat) → List Char
  | 0 => []
  | count + 1 => hexDigits (value / 16) count ++ [hexDigit (value % 16)]

def escapedUnit (unit : Nat) : List Char := '\\' :: 'u' :: hexDigits unit 4

/-- A character inside quotes; above U+FFFF it is written as two surrogates. -/
def quotedChar (c : Char) : List Char :=
  match c with
  | '"' => ['\\', '"']
  | '\\' => ['\\', '\\']
  | '\n' => ['\\', 'n']
  | '\r' => ['\\', 'r']
  | '\t' => ['\\', 't']
  | _ =>
    let code := c.toNat
    if code == 8 then ['\\', 'b']
    else if code == 12 then ['\\', 'f']
    else if 0x20 ≤ code ∧ code < 0x7F then [c]
    else if code < 0x10000 then escapedUnit code
    else
      let offset := code - 0x10000
      escapedUnit (0xD800 + offset / 0x400) ++ escapedUnit (0xDC00 + offset % 0x400)

def quoted (text : String) : String :=
  "\"" ++ String.ofList (text.toList.flatMap quotedChar) ++ "\""

def floatLiteral (x : Float) : String :=
  if x.isNaN then "NaN"
  else if x.isInf then (if x < 0 then "-Infinity" else "Infinity")
  else Number.floatText x

mutual

/-- On one line, with a blank after commas and colons. -/
def compact : Document → String
  | .null => "null"
  | .bool value => if value then "true" else "false"
  | .int value => toString value
  | .float value => floatLiteral value
  | .text value | .dated _ value => quoted value
  | .list items => "[" ++ String.intercalate ", " (compactItems items) ++ "]"
  | .object fields => "\x7b" ++ String.intercalate ", " (compactFields fields) ++ "\x7d"

def compactItems : List Document → List String
  | [] => []
  | item :: rest => compact item :: compactItems rest

def compactFields : List (String × Document) → List String
  | [] => []
  | (name, value) :: rest => (quoted name ++ ": " ++ compact value) :: compactFields rest

end

def newline (depth : Nat) : String := String.ofList ('\n' :: List.replicate (2 * depth) ' ')

mutual

/-- One item or field a line, two blanks for each level; empty lists and objects stay closed. -/
def indented (depth : Nat) : Document → String
  | .list items =>
    match indentedItems (depth + 1) items with
    | [] => "[]"
    | texts =>
      "[" ++ newline (depth + 1) ++ String.intercalate ("," ++ newline (depth + 1)) texts
        ++ newline depth ++ "]"
  | .object fields =>
    match indentedFields (depth + 1) fields with
    | [] => "\x7b\x7d"
    | texts =>
      "\x7b" ++ newline (depth + 1) ++ String.intercalate ("," ++ newline (depth + 1)) texts
        ++ newline depth ++ "\x7d"
  | .null => "null"
  | .bool value => if value then "true" else "false"
  | .int value => toString value
  | .float value => floatLiteral value
  | .text value | .dated _ value => quoted value

def indentedItems (depth : Nat) : List Document → List String
  | [] => []
  | item :: rest => indented depth item :: indentedItems depth rest

def indentedFields (depth : Nat) : List (String × Document) → List String
  | [] => []
  | (name, value) :: rest =>
    (quoted name ++ ": " ++ indented depth value) :: indentedFields depth rest

end

def pretty (document : Document) : String := indented 0 document

end PrivacyScan.Document
