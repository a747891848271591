import PrivacyScan.Text.Category

/-!
Finding, cutting and joining texts. Positions and lengths count characters. The functions on lists
carry the definitions; those on `String` only convert.
-/

namespace PrivacyScan.Text

/-- Whether `needle` occurs in a text as consecutive characters. -/
def hasInfix (needle : List Char) : List Char → Bool
  | [] => needle.isEmpty
  | c :: rest => needle.isPrefixOf (c :: rest) || hasInfix needle rest

def contains (text needle : String) : Bool := hasInfix needle.toList text.toList

def containsAny (text : String) (needles : List String) : Bool := needles.any (contains text)

def startsWith (text start : String) : Bool := start.toList.isPrefixOf text.toList

def startsWithAny (text : String) (starts : List String) : Bool := starts.any (startsWith text)

def endsWith (text ending : String) : Bool := ending.toList.isSuffixOf text.toList

def length (text : String) : Nat := text.toList.length

def take (count : Nat) (text : String) : String := String.ofList (text.toList.take count)

def drop (count : Nat) (text : String) : String := String.ofList (text.toList.drop count)

def slice (text : String) (start stop : Nat) : String :=
  String.ofList ((text.toList.take stop).drop start)

def countChar (c : Char) (text : String) : Nat := text.toList.count c

def findFrom? (needle : List Char) (position : Nat) : List Char → Option Nat
  | [] => if needle.isEmpty then some position else none
  | c :: rest =>
    if needle.isPrefixOf (c :: rest) then some position else findFrom? needle (position + 1) rest

def find? (text needle : String) : Option Nat := findFrom? needle.toList 0 text.toList

/-- Cuts at every occurrence of `separator`, scanning left to right; `skip` characters of an
occurrence are still to be passed over. -/
def splitList (separator : List Char) (skip : Nat) (part : List Char) : List Char → List (List Char)
  | [] => [part.reverse]
  | c :: rest =>
    match skip with
    | skip + 1 => splitList separator skip part rest
    | 0 =>
      if !separator.isEmpty && separator.isPrefixOf (c :: rest) then
        part.reverse :: splitList separator (separator.length - 1) [] rest
      else splitList separator 0 (c :: part) rest

def split (text separator : String) : List String :=
  (splitList separator.toList 0 [] text.toList).map String.ofList

def join (separator : String) (parts : List String) : String := String.intercalate separator parts

def replace (text old new : String) : String := join new (split text old)

def cut? (text separator : String) : Option (String × String) :=
  (find? text separator).map fun position =>
    (take position text, drop (position + length separator) text)

/-- The text before the first occurrence of `separator`, or all of it. -/
def before (text separator : String) : String := ((cut? text separator).map (·.1)).getD text

def cutLast? (text separator : String) : Option (String × String) :=
  match (split text separator).reverse with
  | last :: first :: rest => some (join separator (first :: rest).reverse, last)
  | _ => none

def trimLeftBy (drops : Char → Bool) (text : String) : String :=
  String.ofList (text.toList.dropWhile drops)

def trimRightBy (drops : Char → Bool) (text : String) : String :=
  String.ofList (text.toList.reverse.dropWhile drops).reverse

def trimBy (drops : Char → Bool) (text : String) : String :=
  trimRightBy drops (trimLeftBy drops text)

def trimLeft (text : String) : String := trimLeftBy isSpace text

def trim (text : String) : String := trimBy isSpace text

def isLineEnd (c : Char) : Bool :=
  [0x0A, 0x0B, 0x0C, 0x0D, 0x1C, 0x1D, 0x1E, 0x85, 0x2028, 0x2029].contains c.toNat

/-- The lines of a plain text, where `line` is the reversed start of the current one. A carriage
return with a line feed is one end, and nothing follows the last end. -/
def lineList (line : List Char) : List Char → List (List Char)
  | [] => if line.isEmpty then [] else [line.reverse]
  | '\r' :: '\n' :: rest => line.reverse :: lineList [] rest
  | c :: rest => if isLineEnd c then line.reverse :: lineList [] rest else lineList (c :: line) rest

def lines (text : String) : List String := (lineList [] text.toList).map String.ofList

def insertSorted (text : String) : List String → List String
  | [] => [text]
  | first :: rest =>
    if text < first then text :: first :: rest
    else if text = first then first :: rest
    else first :: insertSorted text rest

def sortedDistinct (texts : List String) : List String := texts.foldr insertSorted []

/-- Universal line ends: a carriage return, with or without a line feed, reads as a line feed. -/
def unifyLineEnds : List Char → List Char
  | [] => []
  | '\r' :: '\n' :: rest => '\n' :: unifyLineEnds rest
  | c :: rest => (if c == '\r' then '\n' else c) :: unifyLineEnds rest

end PrivacyScan.Text
