import PrivacyScan.Text.Search

/-!
Patterns for file names: `*` stands for any run of characters, slashes included, `?` for one
character and `[…]` for one of a set. A pattern matches a whole name.
-/

namespace PrivacyScan.Glob

/-- A set is given by its ranges, a single character by a range of its own. -/
inductive Piece where
  | run
  | one
  | set (negated : Bool) (ranges : List (Char × Char))
  | char (c : Char)
deriving Repr, DecidableEq

/-- The body of a set and its length, when it is closed. A `!` or a `]` at the start belongs to
it. -/
def setBody? (input : List Char) : Option (List Char) :=
  let head := match input with
    | '!' :: ']' :: _ => 2
    | '!' :: _ => 1
    | ']' :: _ => 1
    | _ => 0
  let tail := (input.drop head).takeWhile (· != ']')
  if head + tail.length < input.length then some (input.take head ++ tail) else none

/-- Cuts the body of a set at the hyphens that make ranges. A hyphen that would leave less than
`least` characters before it, or none behind it, is a plain character. The chunk at hand is
reversed. -/
def chunksFrom (least : Nat) (chunk : List Char) : List Char → List (List Char)
  | [] => [chunk.reverse]
  | c :: rest =>
    if c != '-' || chunk.length < least then chunksFrom least (c :: chunk) rest
    else if rest.isEmpty then [(c :: chunk).reverse]
    else chunk.reverse :: chunksFrom 2 [] rest

/-- Takes out the ranges that end before they start, with their ends. -/
def withoutEmptyRanges : List (List Char) → List (List Char)
  | [] => []
  | chunk :: rest =>
    match withoutEmptyRanges rest with
    | [] => [chunk]
    | next :: others =>
      match chunk.getLast?, next.head? with
      | some first, some last =>
        if last < first then (chunk.dropLast ++ next.tail) :: others else chunk :: next :: others
      | _, _ => chunk :: next :: others

def single (c : Char) : Char × Char := (c, c)

/-- A range goes from the end of each chunk to the start of the next one. -/
def rangesFrom (chunk : List Char) : List (List Char) → List (Char × Char)
  | [] => chunk.map single
  | next :: rest =>
    match chunk.getLast?, next.head? with
    | some first, some last =>
      chunk.dropLast.map single ++ (first, last) :: rangesFrom next.tail rest
    | _, _ => chunk.map single ++ single '-' :: rangesFrom next rest

def setOf (body : List Char) : Piece :=
  let least := if body.head? == some '!' then 2 else 1
  match withoutEmptyRanges (chunksFrom least [] body) with
  | ('!' :: first) :: rest => .set true (rangesFrom first rest)
  | first :: rest => .set false (rangesFrom first rest)
  | [] => .set false []

/-- The pieces of a pattern; `skip` characters belong to the piece before. A bracket that is not
closed is a plain character. -/
def pieces (skip : Nat) : List Char → List Piece
  | [] => []
  | c :: rest =>
    match skip with
    | skip + 1 => pieces skip rest
    | 0 =>
      match c with
      | '*' => .run :: pieces 0 rest
      | '?' => .one :: pieces 0 rest
      | '[' =>
        match setBody? rest with
        | some body => setOf body :: pieces (body.length + 1) rest
        | none => .char '[' :: pieces 0 rest
      | c => .char c :: pieces 0 rest

def Piece.accepts (piece : Piece) (c : Char) : Bool :=
  match piece with
  | .run => false
  | .one => true
  | .set negated ranges =>
    (ranges.any fun (first, last) => decide (first ≤ c) && decide (c ≤ last)) != negated
  | .char other => c == other

def suffixes : List Char → List (List Char)
  | [] => [[]]
  | c :: rest => (c :: rest) :: suffixes rest

def matchesAll : List Piece → List Char → Bool
  | [], name => name.isEmpty
  | .run :: rest, name => (suffixes name).any (matchesAll rest)
  | piece :: rest, name =>
    match name with
    | [] => false
    | c :: tail => piece.accepts c && matchesAll rest tail

def accepts (pattern name : String) : Bool := matchesAll (pieces 0 pattern.toList) name.toList

end PrivacyScan.Glob
