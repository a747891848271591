import PrivacyScan.Finding.Basic
import PrivacyScan.Source.Statement
import PrivacyScan.Source.Walk

/-!
What the checks of single files share: a weakness that a check knows of, the file that is checked,
and the calls in it.
-/

namespace PrivacyScan.Check

open Source (Node Place Constant)

/-- All that a check says about a place, apart from the place. The rule is one of those that the check
has, so what a check can report shows in its type. -/
structure Weakness (rules : List String) where
  rule : String
  known : rule ∈ rules := by decide
  severity : Severity
  piiTypes : List String := []
  sectors : List String := []
  article : String := "Art. 32"
  category : String
  confidence : Float := 1.0
  reasoning : String
  gdprArticles : List String := []
  metadata : List (String × Document) := []

/-- A weakness with the line where it was found, and what is shown of the code there. -/
structure Spot (rules : List String) where
  weakness : Weakness rules
  line : Nat
  snippet : String

variable {rules : List String}

def Spot.finding (file : String) (spot : Spot rules) : Finding where
  rule := spot.weakness.rule
  severity := .level spot.weakness.severity
  file := file
  line := spot.line
  snippet := spot.snippet
  assessment := .classified {
    piiTypes := spot.weakness.piiTypes
    sectors := spot.weakness.sectors
    severity := spot.weakness.severity.label
    article := some spot.weakness.article
    legalBasisRequired := true
    category := spot.weakness.category
    confidence := spot.weakness.confidence
    reasoning := spot.weakness.reasoning
    gdprArticles := spot.weakness.gdprArticles }
  metadata := spot.weakness.metadata

/-- The code under check. Its lines end at line feeds only. -/
structure Target where
  lines : List String

namespace Target

def ofCode (code : String) : Target := { lines := Text.split code "\n" }

def line? (target : Target) (number : Nat) : Option String :=
  if number == 0 then none else (target.lines[number - 1]?).map Text.trim

/-- A weakness at a line; a line that the code does not have shows as nothing. -/
def atLine (target : Target) (line : Nat) (weakness : Weakness rules) : Spot rules :=
  { weakness, line, snippet := (target.line? line).getD "" }

/-- A weakness at a node; where its line is missing, the node itself shows, cut to 100 characters. -/
def atNode (target : Target) (node : Node) (weakness : Weakness rules) : Outcome (Spot rules) := do
  let snippet ← match target.line? node.place.line with
    | some line => pure line
    | none => Text.take 100 <$> node.source
  return { weakness, line := node.place.line, snippet }

end Target

structure Call where
  node : Node
  name : String
  inputs : List Node
  keywords : List Node

namespace Call

def ofNode? (node : Node) : Option Call :=
  match node with
  | .call _ function inputs keywords => do
    let name ← function.dottedName?
    return { node, name, inputs, keywords }
  | _ => none

/-- The values given by keyword; those of unpacked mappings have no name. -/
def named (call : Call) : List (Option String × Node) :=
  call.keywords.filterMap fun
    | .keyword _ id value => some (id, value)
    | _ => none

def namedBy (call : Call) (keyword : String) : List Node :=
  call.named.filterMap fun (id, value) => if id == some keyword then some value else none

end Call

def isTrue (node : Node) : Bool :=
  match node.constant? with
  | some (.bool value) => value
  | _ => false

def isFalse (node : Node) : Bool :=
  match node.constant? with
  | some (.bool value) => !value
  | _ => false

end PrivacyScan.Check
