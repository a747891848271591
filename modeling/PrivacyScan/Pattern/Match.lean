import PrivacyScan.Pattern.Basic
import PrivacyScan.Text.Search

/-!
Matching by backtracking with ordered choice: the first way to match, in the order in which the
alternatives and numbers of repetitions are written, is the match. A matcher takes what is to be
matched next as a continuation, so the recursion is on the pattern alone.
-/

namespace PrivacyScan.Pattern

open Text

/-- Where a match attempt stands: the next position and the spans captured so far. -/
structure Cursor where
  position : Nat
  captures : Array (Option (Nat × Nat))
deriving Repr

def Cursor.captured? (cursor : Cursor) (index : Nat) : Option (Nat × Nat) :=
  (cursor.captures[index]?).join

abbrev Continuation := Cursor → Option Cursor

def isWordAt (text : Array Char) (ascii : Bool) (position : Nat) : Bool :=
  match text[position]? with
  | some c => (CharClass.word ascii).contains c
  | none => false

def atWordBoundary (text : Array Char) (ascii : Bool) (position : Nat) : Bool :=
  isWordAt text ascii position != (position != 0 && isWordAt text ascii (position - 1))

/-- No place in the empty text is, or fails to be, a word boundary. -/
def Anchor.holds (text : Array Char) (position : Nat) : Anchor → Bool
  | .textStart => position == 0
  | .textEnd => position == text.size
  | .finalLineEnd =>
    position == text.size || (position + 1 == text.size && text[position]? == some '\n')
  | .lineStart => position == 0 || text[position - 1]? == some '\n'
  | .lineEnd => position == text.size || text[position]? == some '\n'
  | .wordBoundary ascii => text.size != 0 && atWordBoundary text ascii position
  | .notWordBoundary ascii => text.size != 0 && !atWordBoundary text ascii position

/-- How many of the next `limit` characters belong to `set`, up to the first that does not. -/
def runLength (text : Array Char) (set : CharSet) (position : Nat) : (limit : Nat) → Nat
  | 0 => 0
  | limit + 1 =>
    match text[position]? with
    | some c => if set.contains c then runLength text set (position + 1) limit + 1 else 0
    | none => 0

/-- Tries `count`, `count - 1`, ... down to `least` characters. -/
def tryDown (resume : Continuation) (cursor : Cursor) (least : Nat) : (count : Nat) → Option Cursor
  | 0 => if least == 0 then resume cursor else none
  | count + 1 =>
    if count + 1 < least then none
    else
      match resume { cursor with position := cursor.position + (count + 1) } with
      | some result => some result
      | none => tryDown resume cursor least count

/-- Tries the fewest characters first, up to `extra` more than those already passed. -/
def tryUp (resume : Continuation) (cursor : Cursor) : (extra : Nat) → Option Cursor
  | 0 => resume cursor
  | extra + 1 =>
    match resume cursor with
    | some result => some result
    | none => tryUp resume { cursor with position := cursor.position + 1 } extra

/-- Repeats `step`. Beyond `least` repetitions one that would start where the previous one started
is not tried, so every further repetition moves on and `fuel` is never used up. -/
def iterateFrom (step : Continuation → Continuation) (least : Nat) (most : Option Nat)
    (eager : Bool)
    (resume : Continuation) : (fuel count : Nat) → (previous : Option Nat) → Continuation
  | 0, _, _, cursor => resume cursor
  | fuel + 1, count, previous, cursor =>
    if count < least then
      step (iterateFrom step least most eager resume fuel (count + 1) previous) cursor
    else
      let mayRepeat :=
        (match most with
          | some limit => decide (count < limit)
          | none => true)
        && previous != some cursor.position
      let next := iterateFrom step least most eager resume fuel (count + 1) (some cursor.position)
      if !mayRepeat then resume cursor
      else if eager then
        match step next cursor with
        | some result => some result
        | none => resume cursor
      else
        match resume cursor with
        | some result => some result
        | none => step next cursor

/-- Whether the characters at `position` repeat the `count` characters at `start`. -/
def repeatsSpan (text : Array Char) (folding : Folding) (start position : Nat) :
    (count : Nat) → Bool
  | 0 => true
  | count + 1 =>
    match text[start]?, text[position]? with
    | some a, some b =>
      folding.lowerChar a == folding.lowerChar b
        && repeatsSpan text folding (start + 1) (position + 1) count
    | _, _ => false

/-- Matches the pattern at the cursor and then what `resume` stands for. -/
def Regex.run (text : Array Char) : Regex → Continuation → Continuation
  | .empty, resume, cursor => resume cursor
  | .never, _, _ => none
  | .one set, resume, cursor =>
    match text[cursor.position]? with
    | some c =>
      if set.contains c then resume { cursor with position := cursor.position + 1 } else none
    | none => none
  | .anchor place, resume, cursor =>
    if place.holds text cursor.position then resume cursor else none
  | .sequence first second, resume, cursor => first.run text (second.run text resume) cursor
  | .choice first second, resume, cursor =>
    match first.run text resume cursor with
    | some result => some result
    | none => second.run text resume cursor
  | .capture index body, resume, cursor =>
    body.run text (fun inner =>
      resume { inner with
        captures := inner.captures.setIfInBounds index (some (cursor.position, inner.position)) })
      cursor
  | .span set least most mode, resume, cursor =>
    let limit := (most.getD text.size)
    let count := runLength text set cursor.position limit
    if count < least then none
    else
      match mode with
      | .greedy => tryDown resume cursor least count
      | .lazy => tryUp resume { cursor with position := cursor.position + least } (count - least)
      | .possessive => resume { cursor with position := cursor.position + count }
  | .iterate body least most mode, resume, cursor =>
    let fuel := least + text.size + 2
    match mode with
    | .greedy =>
      iterateFrom (fun next => body.run text next) least most true resume fuel 0 none cursor
    | .lazy =>
      iterateFrom (fun next => body.run text next) least most false resume fuel 0 none cursor
    | .possessive =>
      match iterateFrom
        (fun next => body.run text next) least most true some fuel 0 none cursor with
      | some inner => resume inner
      | none => none
  | .reference index folding, resume, cursor =>
    match cursor.captured? index with
    | some (start, stop) =>
      if repeatsSpan text folding start cursor.position (stop - start) then
        resume { cursor with position := cursor.position + (stop - start) }
      else none
    | none => none
  | .ahead body negated, resume, cursor =>
    match body.run text some cursor, negated with
    | some inner, false => resume { inner with position := cursor.position }
    | none, true => resume cursor
    | _, _ => none
  | .behind width body negated, resume, cursor =>
    let found :=
      if width ≤ cursor.position then
        body.run text some { cursor with position := cursor.position - width }
      else none
    match found, negated with
    | some inner, false => resume { inner with position := cursor.position }
    | none, true => resume cursor
    | _, _ => none
  | .atomic body, resume, cursor =>
    match body.run text some cursor with
    | some inner => resume inner
    | none => none
  | .conditional index present absent, resume, cursor =>
    if (cursor.captured? index).isSome then present.run text resume cursor
    else absent.run text resume cursor

structure Match where
  start : Nat
  stop : Nat
  captures : Array (Option (Nat × Nat))
  source : Array Char
deriving Repr

namespace Match

def spanText (found : Match) (start stop : Nat) : String :=
  String.ofList (found.source.extract start stop).toList

def text (found : Match) : String := found.spanText found.start found.stop

def capture? (found : Match) (index : Nat) : Option String :=
  if index == 0 then some found.text
  else ((found.captures[index]?).join).map fun (start, stop) => found.spanText start stop

/-- The text of a capture, empty when the match did not pass through it. -/
def capture (found : Match) (index : Nat) : String := (found.capture? index).getD ""

end Match

/-- Matches at `start`. With `mustAdvance` a match has to take up at least one character. -/
def matchFrom? (pattern : Pattern) (text : Array Char) (mustAdvance : Bool) (start : Nat) :
    Option Match :=
  let finish (cursor : Cursor) :=
    if mustAdvance && cursor.position == start then none else some cursor
  (pattern.body.run text finish
      { position := start, captures := Array.replicate (pattern.captureCount + 1) none }).map
    fun cursor => { start, stop := cursor.position, captures := cursor.captures, source := text }

/-- The first match at `start` or at one of the `count` positions after it. -/
def searchFrom? (pattern : Pattern) (text : Array Char) (mustAdvance : Bool) (start : Nat) :
    (count : Nat) → Option Match
  | 0 => pattern.matchFrom? text mustAdvance start
  | count + 1 =>
    match pattern.matchFrom? text mustAdvance start with
    | some found => some found
    | none => pattern.searchFrom? text false (start + 1) count

def search? (pattern : Pattern) (text : String) : Option Match :=
  let characters := text.toList.toArray
  pattern.searchFrom? characters false 0 characters.size

def occursIn (pattern : Pattern) (text : String) : Bool := (pattern.search? text).isSome

def matchStart? (pattern : Pattern) (text : String) : Option Match :=
  pattern.matchFrom? text.toList.toArray false 0

/-- The matches from `start` on, left to right and not overlapping. After an empty match the next
one at the same position has to be longer. -/
def allFrom (pattern : Pattern) (text : Array Char) : (fuel : Nat) → (mustAdvance : Bool) →
    (start : Nat) → List Match
  | 0, _, _ => []
  | fuel + 1, mustAdvance, start =>
    if text.size < start then []
    else
      match pattern.searchFrom? text mustAdvance start (text.size - start) with
      | some found => found :: pattern.allFrom text fuel (found.stop == found.start) found.stop
      | none => []

def all (pattern : Pattern) (text : String) : List Match :=
  let characters := text.toList.toArray
  pattern.allFrom characters (2 * characters.size + 2) false 0

/-- What remains from `start` on when each of `found` is replaced. -/
def substitute (text : Array Char) (replacement : Match → String) (start : Nat) :
    List Match → String
  | [] => String.ofList (text.extract start text.size).toList
  | found :: rest =>
    String.ofList (text.extract start found.start).toList ++ replacement found
      ++ substitute text replacement found.stop rest

def replaceAll (pattern : Pattern) (replacement : Match → String) (text : String) : String :=
  substitute text.toList.toArray replacement 0 (pattern.all text)

end PrivacyScan.Pattern
