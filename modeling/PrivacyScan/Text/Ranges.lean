/-!
Sets and maps of characters written as text: `41-5A` is a range of code points in hexadecimal,
`41-5A>61` sends the range onto the one that starts at `61`, `100=12E>101` does so for every second
code point, and items stand between blanks. `C0>41+300,41+301` gives the code points from `C0` on
their own targets, `1F80>1F88-1F8F` as many of them as the range of targets has, `FF66:ヲァィ` one
character each and `FB00::fffi` two. Tables of character properties are given in this form, sorted,
and looked up by bisection.
-/

namespace PrivacyScan.Text

def hexDigit? (c : Char) : Option Nat :=
  if '0' ≤ c ∧ c ≤ '9' then some (c.toNat - '0'.toNat)
  else if 'A' ≤ c ∧ c ≤ 'F' then some (c.toNat - 'A'.toNat + 10)
  else if 'a' ≤ c ∧ c ≤ 'f' then some (c.toNat - 'a'.toNat + 10)
  else none

def hexNumber (digits : List Char) : Nat :=
  (digits.filterMap hexDigit?).foldl (fun number digit => number * 16 + digit) 0

def decimalNumber (digits : List Char) : Nat :=
  (digits.filter Char.isDigit).foldl (fun number c => number * 10 + (c.toNat - '0'.toNat)) 0

/-- The parts of `text` between the characters for which `isSeparator` holds, empty parts
included. -/
def splitAll (isSeparator : Char → Bool) : List Char → List (List Char)
  | [] => [[]]
  | c :: rest =>
    match splitAll isSeparator rest with
    | [] => [[c]]
    | part :: parts => if isSeparator c then [] :: part :: parts else (c :: part) :: parts

def tableItems (table : String) : List (List Char) :=
  (splitAll (fun c => c == ' ' || c == '\n') table.toList).filter (!·.isEmpty)

/-- Consecutive code points, both ends included, that share one entry. -/
structure Span where
  first : Nat
  last : Nat
  step : Nat := 1
deriving Repr, DecidableEq

def Span.parse (item : List Char) : Span :=
  match splitAll (fun c => c == '-' || c == '=') item with
  | [first, last] =>
    { first := hexNumber first, last := hexNumber last, step := if item.contains '=' then 2 else 1 }
  | _ => { first := hexNumber item, last := hexNumber item }

def Span.contains (span : Span) (code : Nat) : Bool :=
  decide (span.first ≤ code) && decide (code ≤ span.last) && (code - span.first) % span.step == 0

/-- The index below `high` of the last entry that starts at or before `code`, by bisection: `low` is
known to start there, and `fuel` bounds the number of halvings. -/
def bisect (start : Nat → Nat) (code : Nat) : (fuel low high : Nat) → Nat
  | 0, low, _ => low
  | fuel + 1, low, high =>
    if low + 1 < high then
      let middle := (low + high) / 2
      if start middle ≤ code then bisect start code fuel middle high
      else bisect start code fuel low middle
    else low

/-- A table of spans in ascending order, each with a value. -/
structure SpanTable (α : Type) where
  entries : Array (Span × α)

namespace SpanTable

def lookup? {α : Type} (table : SpanTable α) (code : Nat) : Option (Span × α) :=
  let start index := ((table.entries[index]?).map (·.1.first)).getD 0
  match table.entries[bisect start code 32 0 table.entries.size]? with
  | some (span, value) => if span.contains code then some (span, value) else none
  | none => none

def contains {α : Type} (table : SpanTable α) (code : Nat) : Bool := (table.lookup? code).isSome

def ofSet (table : String) : SpanTable Unit where
  entries := ((tableItems table).map fun item => (Span.parse item, ())).toArray

/-- The entry that sends the code points from `first` to `last` onto those from `target` on. -/
def block (first last target : Nat) : Span × List Nat := ({ first, last }, [target])

/-- The entry that does so for every second code point. -/
def alternate (first last target : Nat) : Span × List Nat := ({ first, last, step := 2 }, [target])

def single (code target : Nat) : Span × List Nat := block code code target

/-- The entries of the code points from `source` on, each with its own target; a range of targets
belongs to as many code points. -/
def successive (source : Nat) : (targets : List (List Char)) → List (Span × List Nat)
  | [] => []
  | target :: targets =>
    match splitAll (· == '-') target with
    | [first, last] =>
      let final := source + (hexNumber last - hexNumber first)
      block source final (hexNumber first) :: successive (final + 1) targets
    | _ =>
      ({ first := source, last := source }, (splitAll (· == '+') target).map hexNumber)
        :: successive (source + 1) targets

def headed (item : List Char) : Nat × List Char :=
  (hexNumber (item.takeWhile (· != ':')), (item.dropWhile (· != ':')).drop 1)

/-- The entries of the code points from the one before the colons on, as in `FF66:ヲァィ` or
`FB00::fffi`: each has as many characters as there are colons. -/
def targetsFrom (item : List Char) : List (Span × List Nat) :=
  let (source, behind) := headed item
  let size := item.count ':'
  let targets := (behind.drop (size - 1)).map Char.toNat
  (List.range (targets.length / size)).map fun index =>
    ({ first := source + index, last := source + index }, (targets.drop (index * size)).take size)

/-- A map from spans to lists of code points, as in `DF>53+53`. -/
def ofMap (table : String) : SpanTable (List Nat) where
  entries := ((tableItems table).flatMap fun item =>
    match splitAll (· == '>') item with
    | [source, targets] =>
      let span := Span.parse source
      if span.first < span.last then [(span, [hexNumber targets])]
      else successive span.first (splitAll (· == ',') targets)
    | _ => targetsFrom item).toArray

/-- The numbers of the code points from `source` on; `220*4` is that of four, and the usual one is
not written. -/
def weightsFrom (usual source : Nat) : List (List Char) → List (Span × Nat)
  | [] => []
  | run :: runs =>
    let weight := run.takeWhile (· != '*')
    let count := if run.contains '*' then decimalNumber (run.drop weight.length) else 1
    ({ first := source, last := source + count - 1 },
        if weight.isEmpty then usual else decimalNumber weight)
      :: weightsFrom usual (source + count) runs

/-- A map to numbers, as in `315:232,220*4`. -/
def ofWeights (table : String) (usual : Nat) : SpanTable Nat where
  entries := ((tableItems table).flatMap fun item =>
    let (source, weights) := headed item
    weightsFrom usual source (splitAll (· == ',') weights)).toArray

end SpanTable

/-- Where a table of `ofMap` sends a code point; a span with one target moves as a block. -/
def SpanTable.image? (table : SpanTable (List Nat)) (code : Nat) : Option (List Nat) :=
  match table.lookup? code with
  | some (span, [target]) => some [target + (code - span.first)]
  | some (_, targets) => some targets
  | none => none

end PrivacyScan.Text
