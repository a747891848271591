import PrivacyScan.Text.Search
import PrivacyScan.Toml.Value

/-!
Documents in TOML: sections of keys, each below the table that its header names. A table is opened
by one header only; a header in double brackets adds a table to a list of tables.
-/

namespace PrivacyScan.Toml

namespace Entries

/-- The table under a name, or the last of the tables there, changed; a missing one is implied. -/
def within? (entries : Entries) (name : String) (change : Entries → Option Entries) :
    Option Entries :=
  match Table.get? entries name with
  | none => (change []).map fun inner => Table.set name (.table .implied inner) entries
  | some (.table origin inner) =>
    (change inner).map fun inner => Table.set name (.table origin inner) entries
  | some (.tables earlier last) =>
    (change last).map fun last => Table.set name (.tables earlier last) entries
  | some (.value _) => none

def openTable? : (key : List String) → Entries → Option Entries
  | [], _ => none
  | [name], entries =>
    match Table.get? entries name with
    | none => some (Table.set name (.table .header []) entries)
    | some (.table .implied inner) => some (Table.set name (.table .header inner) entries)
    | some _ => none
  | name :: rest, entries => within? entries name (openTable? rest)

def addTable? : (key : List String) → Entries → Option Entries
  | [], _ => none
  | [name], entries =>
    match Table.get? entries name with
    | none => some (Table.set name (.tables [] []) entries)
    | some (.tables earlier last) =>
      some (Table.set name (.tables (earlier ++ [last]) []) entries)
    | some _ => none
  | name :: rest, entries => within? entries name (addTable? rest)

def putBelow? (place : Nat) (key : List String) (value : Document) :
    (header : List String) → Entries → Option Entries
  | [], entries => put? place value key entries
  | name :: rest, entries => within? entries name (putBelow? place key value rest)

end Entries

/-- What has been read: the entries, the header at hand and the number of sections. -/
structure Progress where
  entries : Entries := []
  header : List String := []
  sections : Nat := 0

def readHeader (isList : Bool) (progress : Progress) (input : List Char) :
    Option (Progress × List Char) := do
  let (key, rest) ← readKey input.length (skipBlanks input)
  let rest ← expect? ']' rest
  let rest ← if isList then expect? ']' rest else some rest
  let change := if isList then Entries.addTable? else Entries.openTable?
  let entries ← change key progress.entries
  return ({ entries, header := key, sections := progress.sections + 1 }, rest)

def readSetting (progress : Progress) (input : List Char) : Option (Progress × List Char) := do
  let ((key, value), rest) ← readPair (2 * input.length + 2) input
  let entries ←
    Entries.putBelow? progress.sections key value progress.header progress.entries
  return ({ progress with entries }, rest)

def readStatement (progress : Progress) (input : List Char) : Option (Progress × List Char) :=
  match input with
  | '[' :: '[' :: rest => readHeader true progress rest
  | '[' :: rest => readHeader false progress rest
  | '#' :: _ => some (progress, input)
  | _ => readSetting progress input

def readLines (progress : Progress) : (fuel : Nat) → List Char → Option Entries
  | 0, _ => none
  | fuel + 1, input =>
    match skipBlanks input with
    | [] => some progress.entries
    | '\n' :: rest => readLines progress fuel rest
    | start =>
      (readStatement progress start).bind fun (progress, rest) =>
        match skipComment? (skipBlanks rest) with
        | some [] => some progress.entries
        | some ('\n' :: rest) => readLines progress fuel rest
        | _ => none

def parse? (text : String) : Option Document :=
  let input := (Text.replace text "\x0d\n" "\n").toList
  (readLines {} (input.length + 1) input).map fun entries => .object (fieldsOf entries)

end PrivacyScan.Toml
