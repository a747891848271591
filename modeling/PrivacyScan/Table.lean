/-!
Tables: values under text keys, in the order in which the keys were first entered.
-/

namespace PrivacyScan

abbrev Table (α : Type) := List (String × α)

namespace Table

variable {α : Type}

def get? (table : Table α) (key : String) : Option α := table.lookup key

def hasKey (table : Table α) (key : String) : Bool := (table.get? key).isSome

def keys (table : Table α) : List String := table.map (·.1)

def values (table : Table α) : List α := table.map (·.2)

/-- Enters a value: in place when the key is there, at the end otherwise. -/
def set (key : String) (value : α) : Table α → Table α
  | [] => [(key, value)]
  | (other, old) :: rest =>
    if other == key then (other, value) :: rest else (other, old) :: set key value rest

/-- Enters a value only under a key that is not there yet. -/
def setNew (table : Table α) (key : String) (value : α) : Table α :=
  if table.hasKey key then table else table.set key value

/-- Changes the value under a key, starting from `first` when there is none. -/
def update (table : Table α) (key : String) (first : α) (change : α → α) : Table α :=
  table.set key (change ((table.get? key).getD first))

end Table

end PrivacyScan
