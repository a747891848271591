import PrivacyScan.Text.Category
import PrivacyScan.Text.NormalTable

/-!
Compatibility normalisation of identifiers: decompose, sort marks by combining class, compose.
-/

namespace PrivacyScan.Text

def decompositionTable : SpanTable (List Nat) := SpanTable.ofMap decompositionMap

/-- What a mark makes of letters, each of which stands before its result. -/
def resultsOf (mark : Nat) : List Char → List ((Nat × Nat) × Nat)
  | letter :: result :: rest => ((letter.toNat, mark), result.toNat) :: resultsOf mark rest
  | _ => []

def compositions : List ((Nat × Nat) × Nat) :=
  ((tableItems markedLetters).flatMap fun item =>
    let (mark, letters) := SpanTable.headed item
    resultsOf mark letters) ++
  (SpanTable.ofMap compositionMap).entries.toList.filterMap fun (span, parts) =>
    match parts with
    | [first, second] => some ((first, second), span.first)
    | _ => none

/-- The pair of which a character is composed. -/
def pairTable : SpanTable (List Nat) where
  entries := ((compositions.mergeSort fun a b => decide (a.2 ≤ b.2)).map
    fun ((first, second), code) => ({ first := code, last := code }, [first, second])).toArray

def combiningTable : SpanTable Nat := SpanTable.ofWeights combiningClasses 230

/-- The composing pairs in ascending order, with what they compose to. -/
def compositionTable : Array ((Nat × Nat) × Nat) :=
  (compositions.mergeSort fun a b =>
    decide (a.1.1 < b.1.1) || a.1.1 == b.1.1 && decide (a.1.2 ≤ b.1.2)).toArray

def combiningClass (code : Nat) : Nat :=
  ((combiningTable.lookup? code).map (·.2)).getD 0

def hangulBase : Nat := 0xAC00

def hangulLeadBase : Nat := 0x1100

def hangulVowelBase : Nat := 0x1161

def hangulTailBase : Nat := 0x11A7

/-- What a character decomposes to, `depth` times at most where a part is itself composed. -/
def decomposeParts : (depth code : Nat) → List Nat
  | 0, code => [code]
  | depth + 1, code =>
    match pairTable.image? code with
    | some parts => parts.flatMap (decomposeParts depth)
    | none => (decompositionTable.image? code).getD [code]

def decomposeCode (code : Nat) : List Nat :=
  if hangulBase ≤ code ∧ code ≤ 0xD7A3 then
    let index := code - hangulBase
    let syllable := [hangulLeadBase + index / 588, hangulVowelBase + index % 588 / 28]
    if index % 28 == 0 then syllable else syllable ++ [hangulTailBase + index % 28]
  else decomposeParts 4 code

/-- Puts a mark before the marks of a higher combining class that precede it. The text is
reversed. -/
def insertMark (mark : Nat) : List Nat → List Nat
  | [] => [mark]
  | previous :: before =>
    if combiningClass previous > combiningClass mark then previous :: insertMark mark before
    else mark :: previous :: before

/-- Stable ordering of every run of marks by combining class. -/
def orderMarks (codes : List Nat) : List Nat :=
  (codes.foldl (fun reversed code =>
    if combiningClass code == 0 then code :: reversed else insertMark code reversed) []).reverse

def composePair? (first second : Nat) : Option Nat :=
  if hangulLeadBase ≤ first ∧ first < hangulLeadBase + 19
      ∧ hangulVowelBase ≤ second ∧ second < hangulVowelBase + 21 then
    some (hangulBase + ((first - hangulLeadBase) * 21 + (second - hangulVowelBase)) * 28)
  else if hangulBase ≤ first ∧ first ≤ 0xD7A3 ∧ (first - hangulBase) % 28 = 0
      ∧ hangulTailBase < second ∧ second < hangulTailBase + 28 then
    some (first + (second - hangulTailBase))
  else
    let key := first * 0x110000 + second
    let start index :=
      ((compositionTable[index]?).map fun entry => entry.1.1 * 0x110000 + entry.1.2).getD 0
    match compositionTable[bisect start key 32 0 compositionTable.size]? with
    | some ((a, b), composed) => if a == first && b == second then some composed else none
    | none => none

/-- The state of composition: finished characters (reversed), the last starter with the marks kept
after it (reversed), and the class of the last kept mark. -/
structure Composing where
  finished : List Nat := []
  starter : Option Nat := none
  marks : List Nat := []

def Composing.flush (state : Composing) : List Nat :=
  match state.starter with
  | some code => state.marks ++ code :: state.finished
  | none => state.marks ++ state.finished

def Composing.add (state : Composing) (code : Nat) : Composing :=
  let blocked :=
    match state.marks with
    | [] => false
    | mark :: _ => combiningClass mark ≥ combiningClass code
  match state.starter.bind (composePair? · code), blocked with
  | some composed, false => { state with starter := some composed }
  | _, _ =>
    if combiningClass code == 0 then { finished := state.flush, starter := some code }
    else { state with marks := code :: state.marks }

def composeCodes (codes : List Nat) : List Nat :=
  (codes.foldl Composing.add {}).flush.reverse

/-- The composed compatibility form, under which spellings of one identifier are equal. -/
def normalize (text : String) : String :=
  if text.toList.all isAscii then text
  else
    String.ofList <|
      (composeCodes (orderMarks (text.toList.flatMap fun c => decomposeCode c.toNat))).map
        Char.ofNat

end PrivacyScan.Text
