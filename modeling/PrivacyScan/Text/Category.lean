import PrivacyScan.Text.Ranges
import PrivacyScan.Text.CategoryTable

/-!
Character classes: the general category and the classes that patterns, identifiers and text
operations ask for. Inside ASCII each class is given directly, so no table is consulted there.
-/

namespace PrivacyScan.Text

/-- The categories of characters, as far as they are told apart: those that no class asks for count
as symbols, or as characters without a printed form. -/
inductive Category where
  | capital | small | titled | modifier | letter | mark | enclosing | spacing | digit | letterNumber
  | number | connector | modifierSymbol | format | symbol | unprinted
deriving Repr, DecidableEq

namespace Category

def ofLetter : Char → Category
  | 'u' => .capital
  | 'l' => .small
  | 't' => .titled
  | 'm' => .modifier
  | 'o' => .letter
  | 'n' => .mark
  | 'e' => .enclosing
  | 'c' => .spacing
  | 'd' => .digit
  | 'r' => .letterNumber
  | 'f' => .number
  | 'p' => .connector
  | 's' => .modifierSymbol
  | 'g' => .format
  | 'x' => .symbol
  | _ => .unprinted

def isLetter : Category → Bool
  | .capital | .small | .titled | .modifier | .letter => true
  | _ => false

def isNumber : Category → Bool
  | .digit | .letterNumber | .number => true
  | _ => false

/-- Control, format, unassigned and separator characters have no printed form. -/
def isPrintable : Category → Bool
  | .format | .unprinted => false
  | _ => true

end Category

/-- The runs of an item that starts at `next`, and where the item after it starts. -/
def categoryRunsFrom (next : Nat) (item : List Char) : List (Nat × Category) × Nat :=
  let digits := item.dropWhile Char.isAlpha
  let count := if digits.isEmpty then 1 else decimalNumber digits
  match (item.takeWhile Char.isAlpha).map Category.ofLetter with
  | [category] => ([(next, category)], next + count)
  | categories =>
    let runs := (List.replicate count categories).flatten
    (runs.zipIdx next |>.map Prod.swap, next + runs.length)

/-- The runs of `categoryRuns` with the code point at which each starts. -/
def categoryTable : Array (Nat × Category) :=
  ((tableItems categoryRuns).foldl (fun (runs, next) item =>
    let (added, after) := categoryRunsFrom next item
    (runs ++ added, after)) (#[], 0)).1

def category (c : Char) : Category :=
  let start index := ((categoryTable[index]?).map (·.1)).getD 0
  ((categoryTable[bisect start c.toNat 32 0 categoryTable.size]?).map (·.2)).getD .unprinted

def isAscii (c : Char) : Bool := decide (c.toNat < 128)

def isAlphanumeric (c : Char) : Bool :=
  if isAscii c then c.isAlphanum else (category c).isLetter || (category c).isNumber

/-- What a pattern's word class holds: letters, numbers and the underscore. -/
def isWord (c : Char) : Bool := isAlphanumeric c || c == '_'

def isDecimal (c : Char) : Bool :=
  if isAscii c then c.isDigit else category c == .digit

/-- Blanks: the separators of Unicode and the control characters that act as such. -/
def isSpace (c : Char) : Bool :=
  let code := c.toNat
  (decide (0x09 ≤ code) && decide (code ≤ 0x0D)) || (decide (0x1C ≤ code) && decide (code ≤ 0x20))
    || code == 0x85 || code == 0xA0 || code == 0x1680
    || (decide (0x2000 ≤ code) && decide (code ≤ 0x200A))
    || code == 0x2028 || code == 0x2029 || code == 0x202F || code == 0x205F || code == 0x3000

def isPrintable (c : Char) : Bool :=
  if isAscii c then decide (0x20 ≤ c.toNat) && decide (c.toNat < 0x7F)
  else (category c).isPrintable

def otherUppercase : SpanTable Unit := SpanTable.ofSet otherUppercaseSet

def otherLowercase : SpanTable Unit := SpanTable.ofSet otherLowercaseSet

def isUppercase (c : Char) : Bool :=
  if isAscii c then c.isUpper else category c == .capital || otherUppercase.contains c.toNat

def isLowercase (c : Char) : Bool :=
  if isAscii c then c.isLower else category c == .small || otherLowercase.contains c.toNat

def isTitlecase (c : Char) : Bool := !isAscii c && category c == .titled

def isCased (c : Char) : Bool := isUppercase c || isLowercase c || isTitlecase c

/-- A character that does not end a word for the purpose of casing, such as a mark or an
apostrophe. -/
def isCaseIgnorable (c : Char) : Bool :=
  if isAscii c then ['\'', '.', ':', '^', '`'].contains c
  else
    match category c with
    | .mark | .enclosing | .format | .modifier | .modifierSymbol => true
    | _ =>
      [0xB7, 0x387, 0x55F, 0x5F4, 0x2018, 0x2019, 0x2024, 0x2027, 0xFE13, 0xFE52, 0xFE55, 0xFF07,
        0xFF0E, 0xFF1A].contains c.toNat

/-- Letters whose compatibility form does not start an identifier, though their category would. -/
def notIdentifierStart : SpanTable Unit :=
  SpanTable.ofSet "37A E33 EB3 2E2F FC5E-FC63 FDFA-FDFB FE70 FE72 FE74 FE76 FE78 FE7A FE7C FE7E
FF9E-FF9F"

def notIdentifierContinue : SpanTable Unit :=
  SpanTable.ofSet "37A 2E2F FC5E-FC63 FDFA-FDFB FE70 FE72 FE74 FE76 FE78 FE7A FE7C FE7E"

def isIdentifierStart (c : Char) : Bool :=
  if isAscii c then c.isAlpha || c == '_'
  else
    ((category c).isLetter || category c == .letterNumber ||
      [0x1885, 0x1886, 0x2118, 0x212E].contains c.toNat)
      && !notIdentifierStart.contains c.toNat

def isIdentifierContinue (c : Char) : Bool :=
  if isAscii c then c.isAlphanum || c == '_'
  else
    ((category c).isLetter
      || [.letterNumber, .mark, .spacing, .digit, .connector].contains (category c)
      || [0xB7, 0x387, 0x19DA, 0x1885, 0x1886, 0x2118, 0x212E].contains c.toNat
      || (decide (0x1369 ≤ c.toNat) && decide (c.toNat ≤ 0x1371)))
      && !notIdentifierContinue.contains c.toNat

def decimalZeros : Array Nat :=
  ((tableItems
    "30 660 6F0 7C0 966 9E6 A66 AE6 B66 BE6 C66 CE6 D66 DE6 E50 ED0 F20 1040 1090 17E0 1810
1946 19D0 1A80 1A90 1B50 1BB0 1C40 1C50 A620 A8D0 A900 A9D0 A9F0 AA50 ABF0 FF10 104A0 10D30 11066
110F0 11136 111D0 112F0 11450 114D0 11650 116C0 11730 118E0 11950 11C50 11D50 11DA0 16A60 16AC0
16B50 1D7CE 1D7D8 1D7E2 1D7EC 1D7F6 1E140 1E2F0 1E950 1FBF0").map hexNumber).toArray

def decimalValue? (c : Char) : Option Nat :=
  if isAscii c then (if c.isDigit then some (c.toNat - '0'.toNat) else none)
  else if isDecimal c then
    (decimalZeros.toList.find? fun start => start ≤ c.toNat && c.toNat < start + 10).map
      (c.toNat - ·)
  else none

end PrivacyScan.Text
