import PrivacyScan.Text.Casing

/-!
Patterns that describe texts: sets of characters, places, sequence, ordered choice, captures,
repetition, references and looking around.
-/

namespace PrivacyScan.Pattern

open Text

/-- A named class of characters. With `ascii` it holds characters of ASCII only. -/
inductive CharClass where
  | decimal (ascii : Bool)
  | space (ascii : Bool)
  | word (ascii : Bool)
deriving Repr, DecidableEq

def CharClass.contains : CharClass → Char → Bool
  | .decimal ascii, c => isDecimal c && (!ascii || isAscii c)
  | .space ascii, c =>
    isSpace c && (!ascii || c == ' ' || decide (c.toNat ≤ 0x0D))
  | .word ascii, c => isWord c && (!ascii || isAscii c)

inductive SetItem where
  | range (first last : Nat)
  | ofClass (kind : CharClass) (negated : Bool)
deriving Repr, DecidableEq

def SetItem.contains : SetItem → Char → Bool
  | .range first last, c => decide (first ≤ c.toNat) && decide (c.toNat ≤ last)
  | .ofClass kind negated, c => kind.contains c != negated

/-- Small letters that share their capital, for instance the long and the round s. -/
def caseSiblings : List (List Nat) :=
  [[0x69, 0x131], [0x73, 0x17F], [0xB5, 0x3BC], [0x345, 0x3B9, 0x1FBE], [0x390, 0x1FD3],
    [0x3B0, 0x1FE3], [0x3B2, 0x3D0], [0x3B5, 0x3F5], [0x3B8, 0x3D1], [0x3BA, 0x3F0], [0x3C0, 0x3D6],
    [0x3C1, 0x3F1], [0x3C2, 0x3C3], [0x3C6, 0x3D5], [0x432, 0x1C80], [0x434, 0x1C81],
    [0x43E, 0x1C82], [0x441, 0x1C83], [0x442, 0x1C84, 0x1C85], [0x44A, 0x1C86], [0x463, 0x1C87],
    [0xA64B, 0x1C88], [0x1E61, 0x1E9B], [0xFB05, 0xFB06]]

/-- The code points that some span of the lower case table sends to `code`. -/
def capitalsOf (code : Nat) : List Nat :=
  lowerTable.entries.toList.filterMap fun (span, targets) =>
    match targets with
    | [target] =>
      let source := code + span.first - target
      if target ≤ code ∧ span.contains source then some source else none
    | _ => none

/-- The characters that count as `c` when case is ignored. -/
def caseVariants (c : Char) : List Nat :=
  if isAscii c && !c.isAlpha then [c.toNat]
  else
    let small := (lowerChar c).toNat
    let siblings := (caseSiblings.find? (·.contains small)).getD [small]
    siblings ++ siblings.flatMap fun code =>
      (if code < 128 then [(Char.ofNat code).toUpper.toNat] else []) ++ capitalsOf code

inductive Folding where
  | exact
  | asciiCase
  | fullCase
deriving Repr, DecidableEq

namespace Folding

def lowerChar : Folding → Char → Char
  | .exact, c => c
  | .asciiCase, c => if isAscii c then c.toLower else c
  | .fullCase, c => Text.lowerChar c

def variants : Folding → Char → List Nat
  | .exact, c => [c.toNat]
  | .asciiCase, c => if isAscii c then [c.toLower.toNat, c.toUpper.toNat] else [c.toNat]
  | .fullCase, c => caseVariants c

end Folding

/-- A set of characters; a character belongs to it when a variant of it does. -/
structure CharSet where
  items : List SetItem
  negated : Bool := false
  folding : Folding := .exact
deriving Repr, DecidableEq

namespace CharSet

def holds (set : CharSet) (c : Char) : Bool :=
  if set.folding == .exact || (isAscii c && !c.isAlpha) then set.items.any (·.contains c)
  else
    let variants := set.folding.variants c
    set.items.any fun item =>
      match item with
      | .range first last => variants.any fun code => decide (first ≤ code) && decide (code ≤ last)
      | .ofClass kind negated => kind.contains (set.folding.lowerChar c) != negated

def contains (set : CharSet) (c : Char) : Bool := set.holds c != set.negated

def ofCode (code : Nat) (folding : Folding) : CharSet :=
  { items := [.range code code], folding }

def all : CharSet := { items := [], negated := true }

def notNewline : CharSet := { items := [.range 10 10], negated := true }

end CharSet

inductive Anchor where
  | textStart
  | textEnd
  /-- The end, or before a line feed that ends the text. -/
  | finalLineEnd
  | lineStart
  | lineEnd
  | wordBoundary (ascii : Bool)
  | notWordBoundary (ascii : Bool)
deriving Repr, DecidableEq

inductive Repetition where
  | greedy
  | lazy
  | possessive
deriving Repr, DecidableEq

inductive Regex where
  | empty
  | never
  | one (set : CharSet)
  | anchor (place : Anchor)
  | sequence (first second : Regex)
  | choice (first second : Regex)
  | capture (index : Nat) (body : Regex)
  /-- Repetition of a single character. -/
  | span (set : CharSet) (least : Nat) (most : Option Nat) (mode : Repetition)
  | iterate (body : Regex) (least : Nat) (most : Option Nat) (mode : Repetition)
  | reference (index : Nat) (folding : Folding)
  | ahead (body : Regex) (negated : Bool)
  | behind (width : Nat) (body : Regex) (negated : Bool)
  | atomic (body : Regex)
  /-- Goes on with `present` when the capture is set, with `absent` otherwise. -/
  | conditional (index : Nat) (present absent : Regex)
deriving Repr

namespace Regex

/-- The least and the greatest number of characters a match can have; `none` is unbounded. The
widths of closed captures are given. -/
def width (captures : Nat → Nat × Option Nat) : Regex → Nat × Option Nat
  | .empty | .never | .anchor _ | .ahead .. | .behind .. => (0, some 0)
  | .one _ => (1, some 1)
  | .sequence first second =>
    let (least, most) := first.width captures
    let (least', most') := second.width captures
    (least + least', most.bind fun n => most'.map (n + ·))
  | .choice first second =>
    let (least, most) := first.width captures
    let (least', most') := second.width captures
    (min least least', most.bind fun n => most'.map (max n ·))
  | .capture _ body | .atomic body => body.width captures
  | .span _ least most _ => (least, most)
  | .iterate body least most _ =>
    let (bodyLeast, bodyMost) := body.width captures
    (bodyLeast * least, if bodyMost == some 0 then some 0
      else bodyMost.bind fun n => most.map (n * ·))
  | .reference index _ => captures index
  | .conditional _ present absent =>
    let (least, most) := present.width captures
    let (least', most') := absent.width captures
    (min least least', most.bind fun n => most'.map (max n ·))

end Regex

end PrivacyScan.Pattern

namespace PrivacyScan

/-- A pattern with the number of its captures. -/
structure Pattern where
  body : Pattern.Regex
  captureCount : Nat := 0
deriving Repr

end PrivacyScan
