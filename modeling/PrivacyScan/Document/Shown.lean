import PrivacyScan.Text.Quoted

/-!
Documents inside a sentence: a text shows as itself, and texts inside a list or an object show with
quotes.
-/

namespace PrivacyScan.Document

mutual

def literal : Document → String
  | .null => "None"
  | .bool value => if value then "True" else "False"
  | .int value => toString value
  | .float value => Number.floatText value
  | .text value => Text.quotedText value
  | .dated _ written => written
  | .list items => "[" ++ String.intercalate ", " (literalItems items) ++ "]"
  | .object fields => "\x7b" ++ String.intercalate ", " (literalFields fields) ++ "\x7d"

def literalItems : List Document → List String
  | [] => []
  | item :: rest => literal item :: literalItems rest

def literalFields : List (String × Document) → List String
  | [] => []
  | (name, value) :: rest =>
    (Text.quotedText name ++ ": " ++ literal value) :: literalFields rest

end

def shown : Document → String
  | .text value => value
  | other => other.literal

end PrivacyScan.Document
