import PrivacyScan.Text.Search

/-!
Excerpts of code: a place joined into one line, and a place with the lines around it. Lines count
from one.
-/

namespace PrivacyScan.Snippet

/-- The items from `start` up to `stop`, where negative positions count from the end. -/
def window {α : Type} (items : List α) (start stop : Int) : List α :=
  let position (index : Int) : Nat :=
    (if index < 0 then index + items.length else index).toNat
  (items.take (position stop)).drop (position start)

/-- At most `limit` characters, with dots where some are left out. -/
def shorten (text : String) (limit : Int) : String :=
  if limit < Text.length text then String.ofList (window text.toList 0 limit) ++ "..." else text

/-- The lines `first` to `last` without their indentation, joined by blanks. -/
def oneLine (lines : List String) (first last : Int) (limit : Int := 200) : String :=
  let chosen := window lines (max 0 (first - 1)) (min lines.length last)
  shorten (Text.join " " (chosen.map Text.trim)) limit

structure Excerpt where
  lines : List String := []
  first : Int := 0
  last : Int := 0
deriving Repr

/-- The lines `first` to `last` with as many as `around` before and after. Line 0 is nowhere. -/
def surrounded (lines : List String) (first last : Int) (around : Int := 2) : Excerpt :=
  if first == 0 then {}
  else
    let start := max 0 (first - 1 - around)
    let stop := min (lines.length : Int) (last + around)
    { lines := window lines start stop, first := start + 1, last := stop }

end PrivacyScan.Snippet
