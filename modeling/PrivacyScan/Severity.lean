import PrivacyScan.Text.Casing
import PrivacyScan.Fault

/-!
How grave a finding is. Levels are ordered by `Severity.rank`; a `Rating` also admits texts from
outside that name no level.
-/

namespace PrivacyScan

inductive Severity where
  | critical
  | high
  | medium
  | low
  | info
deriving Repr, DecidableEq, Inhabited

namespace Severity

def all : List Severity := [critical, high, medium, low, info]

def label : Severity → String
  | critical => "critical"
  | high => "high"
  | medium => "medium"
  | low => "low"
  | info => "info"

def ofLabel? (text : String) : Option Severity := all.find? (·.label == text)

def ofLabel (text : String) : Outcome Severity :=
  match ofLabel? text with
  | some severity => .ok severity
  | none => .error (.unknownSeverity text)

def rank : Severity → Nat
  | critical => 4
  | high => 3
  | medium => 2
  | low => 1
  | info => 0

def max (current new : Severity) : Severity := if current.rank < new.rank then new else current

/-- The rank of a text; one that names no level is no graver than `info`. -/
def rankOfLabel (text : String) : Nat := ((ofLabel? text).map rank).getD 0

/-- The text that names the graver level, the current one when neither does. -/
def maxLabel (current new : String) : String :=
  if rankOfLabel current < rankOfLabel new then new else current

/-- The position of a text among the levels, the gravest first; other texts come after all
levels. -/
def orderOfLabel (text : String) : Nat := ((ofLabel? text).map (all.idxOf ·)).getD all.length

end Severity

/-- How a finding states its severity: as a level, or as a text from outside. -/
inductive Rating where
  | level (severity : Severity)
  | named (text : String)
deriving Repr, DecidableEq, Inhabited

namespace Rating

def label : Rating → String
  | level severity => severity.label
  | named text => text

/-- The text of a rating where a level shows as a member of its type. -/
def shown : Rating → String
  | level severity => "Severity." ++ Text.upper severity.label
  | named text => text

end Rating

end PrivacyScan
