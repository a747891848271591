import PrivacyScan.Compliance.DataType

/-!
Technical and organisational measures that a finding calls for.
-/

namespace PrivacyScan.Compliance

def catalog : List (String × String) := [
  ("ENC-001", "Encryption of data at rest"), ("ENC-002", "Encryption of data in transit (TLS/SSL)"),
  ("ACC-001", "Role-Based Access Control (RBAC)"), ("ACC-002", "Multi-Factor Authentication (MFA)"),
  ("ACC-003", "Access Logging & Monitoring"), ("ACC-004", "Principle of Least Privilege"),
  ("PSC-001", "Pseudonymization of personal data"), ("BAK-001", "Regular data backups"),
  ("BAK-002", "Encryption of backups"), ("LOG-001", "Comprehensive audit logging"),
  ("LOG-002", "Defined log retention policy"),
  ("PRI-001", "Privacy by Design & Default implementation"),
  ("PRI-002", "Data Protection Impact Assessment (DPIA)"),
  ("PRI-003", "Data Minimization strategies"), ("POL-001", "Comprehensive Data Protection Policy"),
  ("POL-003", "Incident Response Plan"), ("TRN-001", "Regular Staff Data Protection Training")]

inductive Priority where
  | required
  | recommended
deriving Repr, DecidableEq

def Priority.label : Priority → String
  | required => "required"
  | recommended => "recommended"

structure Measure where
  code : String
  priority : Priority
deriving Repr, DecidableEq

namespace Measure

def description (measure : Measure) : String :=
  (catalog.lookup measure.code).getD "Technical measure"

def toDocument (measure : Measure) : Document :=
  .object [("code", .text measure.code), ("priority", .text measure.priority.label),
    ("description", .text measure.description)]

end Measure

def required (codes : List String) : List Measure := codes.map (⟨·, .required⟩)

def recommended (codes : List String) : List Measure := codes.map (⟨·, .recommended⟩)

def distinctMeasures (measures : List Measure) : List Measure :=
  measures.foldl (fun kept measure =>
    if kept.any (·.code == measure.code) then kept else kept ++ [measure]) []

def credentialTypes : List String := ["password", "api_key", "token", "secret", "credential"]

def specialTypes : List String := ["health_data", "biometric", "genetic", "racial_ethnic"]

def demands (types : List String) (category rule : String) (isGrave : Bool) : List Measure :=
  let normal := normalTypes types
  (if normal.any (credentialTypes.contains ·) then
    required ["ENC-001", "ENC-002", "ACC-002"] ++ recommended ["ACC-003"] else []) ++
  (if Text.contains (Text.lower category) "special" || normal.any (specialTypes.contains ·) then
    required ["ENC-001", "PSC-001", "ACC-001", "PRI-002"] else []) ++
  (if Text.contains rule "LOG" then required ["LOG-001"] ++ recommended ["LOG-002", "PRI-003"]
    else []) ++
  (if Text.contains rule "HTTP" then required ["ENC-002"] ++ recommended ["ACC-003"] else []) ++
  (if Text.contains rule "DB" then
    required ["ENC-001", "BAK-001", "BAK-002"] ++ recommended ["ACC-001"] else []) ++
  (if isGrave then recommended ["TRN-001", "POL-003", "PRI-001"] else [])

/-- The measures for data of these types, found by a rule; each is named once. -/
def measures (types : List String) (category rule : String) (isGrave : Bool) : List Measure :=
  let demanded := demands types category rule isGrave
  if demanded.isEmpty && !types.isEmpty then recommended ["ACC-001", "ACC-004", "POL-001"]
  else distinctMeasures demanded

def measuresOf (classification : Document) (rule : String) : Outcome (List Measure) := do
  let types ← textsOf (← classification.get "pii_types" (.list []))
  let severity ← classification.get "severity" (.text "medium")
  let category ← (← classification.get "category" (.text "")).asText "lower"
  return measures types category rule (severity.text?.any (["critical", "high"].contains ·))

end PrivacyScan.Compliance
