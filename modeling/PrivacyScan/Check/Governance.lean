import PrivacyScan.Check.Basic

/-!
Duties of data protection that show in code: consent before collection, limits on storage, few
fields and a recorded legal basis.
-/

namespace PrivacyScan.Check.Governance

open Source (Node)

def governanceRules : List String :=
  ["GDPR_CONSENT_MISSING", "GDPR_RETENTION_UNDEFINED", "GDPR_DATA_EXCESSIVE",
    "GDPR_LEGAL_BASIS_MISSING"]

abbrev Spots := List (Spot governanceRules)

def duty (rule : String) (severity : Severity) (article : String) (confidence : Float)
    (reasoning : String) (gdprArticles : List String)
    (known : rule ∈ governanceRules := by decide) : Weakness governanceRules where
  rule := rule
  known := known
  severity := severity
  sectors := ["compliance"]
  article := article
  category := "compliance"
  confidence := confidence
  reasoning := reasoning
  gdprArticles := gdprArticles

def containsLowered (words : List String) (name : String) : Bool :=
  Text.containsAny (Text.lower name) words

/-! ### Consent -/

def collectsData : Node → Bool
  | .call _ function _ _ =>
    function.lastName?.any
      (containsLowered ["collect", "gather", "fetch_user", "get_user", "create_user", "save_user"])
  | _ => false

def speaksOfConsent (nodes : List Node) : Bool :=
  nodes.any fun node => node.name?.any (containsLowered ["consent", "agree"])

def checkConsent (target : Target) (nodes : List Node) : Spots :=
  if speaksOfConsent nodes then []
  else (nodes.filter collectsData).map fun node =>
    target.atLine node.place.line
      (duty "GDPR_CONSENT_MISSING" .high "Art. 6" 0.8
        "Data collection without visible consent check"
        ["Art. 6", "Art. 7"])

/-! ### Retention -/

def assignedNames : Node → List String
  | .assign _ targets _ => targets.filterMap (·.name?)
  | _ => []

def isDataModel (bases body : List Node) : Bool :=
  bases.any (fun base => base.lastName?.any (["Model", "Base", "Document"].contains ·)) ||
    body.any fun item => (assignedNames item).any (["__tablename__", "__collection__"].contains ·)

def declaredNames : Node → List String
  | .annAssign _ _ target _ _ => target.name?.toList
  | item => assignedNames item

def limitsRetention (body : List Node) : Bool :=
  body.any fun item => (declaredNames item).any
    (containsLowered ["expires_at", "deleted_at", "retention_date", "expiry", "ttl", "created_at"])

def deletesRecords (body : List Node) : Bool :=
  body.any fun
    | .functionDef _ false id _ _ _ _ => containsLowered ["delete", "cleanup"] id
    | _ => false

def checkRetention (target : Target) (node : Node) : Spots :=
  match node with
  | .classDef place _ bases _ body _ =>
    if isDataModel bases body && !limitsRetention body && !deletesRecords body then
      [target.atLine place.line
        (duty "GDPR_RETENTION_UNDEFINED" .medium "Art. 5" 0.7 "Data model without retention policy"
          ["Art. 5(1)(e)"])]
    else []
  | _ => []

/-! ### Minimisation -/

def collectedFields (node : Node) : Nat :=
  (node.walk.map fun
    | .dict _ keys _ => keys.countP (·.constant?.isSome)
    | _ => 0).foldl (· + ·) 0

def checkMinimisation (target : Target) (node : Node) : Spots :=
  match node with
  | .functionDef place false id _ _ _ _ =>
    if containsLowered ["collect", "gather", "create_user", "register", "signup"] id &&
        decide (10 < collectedFields node) then
      [target.atLine place.line
        (duty "GDPR_DATA_EXCESSIVE" .medium "Art. 5" 0.6
          "Collecting excessive amount of data fields"
          ["Art. 5(1)(c)"])]
    else []
  | _ => []

/-! ### Legal basis -/

def parameterNames : Node → List String
  | .parameters _ plain _ _ _ _ _ =>
    plain.filterMap fun
      | .parameter _ id _ => some id
      | _ => none
  | _ => []

def checkLegalBasis (target : Target) (node : Node) : Spots :=
  match node with
  | .functionDef place false id inputs _ _ _ =>
    let parameters := parameterNames inputs
    let isSensitive := (id :: parameters).any
      (containsLowered ["password", "ssn", "health", "medical", "biometric", "genetic"])
    let recordsBasis := (parameters ++ node.walk.filterMap (·.name?)).any
      (containsLowered ["legal_basis"])
    if isSensitive && !recordsBasis then
      [target.atLine place.line
        (duty "GDPR_LEGAL_BASIS_MISSING" .high "Art. 6" 0.7
          "Sensitive data processing without legal basis tracking" ["Art. 6", "Art. 9"])]
    else []
  | _ => []

/-- The neglected duties of a Python file; code that does not parse has none. -/
def findings (file code : String) : List Finding :=
  match Source.parseModule? code with
  | none => []
  | some tree =>
    let target := Target.ofCode code
    let nodes := tree.walk
    let spots := checkConsent target nodes ++ nodes.flatMap (checkRetention target) ++
      nodes.flatMap (checkMinimisation target) ++ nodes.flatMap (checkLegalBasis target)
    spots.map (·.finding file)

end PrivacyScan.Check.Governance
