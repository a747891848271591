import PrivacyScan.Source.Constant

/-!
The text that describes a function or class: a literal that stands first in its body, without its
indentation.
-/

namespace PrivacyScan.Source

/-- Replaces each tab by blanks up to the next multiple of eight columns. -/
def expandTabs (column : Nat) : List Char → List Char
  | [] => []
  | '\t' :: rest =>
    let width := 8 - column % 8
    List.replicate width ' ' ++ expandTabs (column + width) rest
  | c :: rest => c :: expandTabs (if c == '\n' || c == '\r' then 0 else column + 1) rest

def indentation (line : String) : Nat := Text.length line - Text.length (Text.trimLeft line)

def commonIndentation (lines : List String) : Option Nat :=
  ((lines.filter fun line => !(Text.trimLeft line).isEmpty).map indentation).min?

/-- Takes the indentation from all lines but the first, which loses its blanks, and drops empty
lines at both ends. -/
def withoutIndentation (text : String) : String :=
  let lines := Text.split (String.ofList (expandTabs 0 text.toList)) "\n"
  let shifted := match lines with
    | [] => []
    | first :: rest =>
      Text.trimLeft first :: match commonIndentation rest with
        | some margin => rest.map (Text.drop margin)
        | none => rest
  let started := shifted.dropWhile (·.isEmpty)
  Text.join "\n" (started.reverse.dropWhile (·.isEmpty)).reverse

def docstring? : List Node → Option String
  | .expression _ value :: _ => value.text?.map withoutIndentation
  | _ => none

end PrivacyScan.Source
