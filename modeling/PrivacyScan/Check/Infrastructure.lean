import PrivacyScan.Check.Basic
import PrivacyScan.Path
import PrivacyScan.Pattern.Parser

/-!
Files that describe how a program is built and deployed: image recipes, service descriptions and
settings. They are read line by line.
-/

namespace PrivacyScan.Check.Infrastructure

def secretName : Pattern :=
  .ofTextIgnoringCase "(password|secret|key|token|auth|credential|pwd)"

def defaultPasswords : List String := ["root", "admin", "password", "123456", "postgres", "mysql"]

def databasePorts : List String := ["5432", "3306", "6379", "27017", "9200"]

def settingRules : List String :=
  ["DOCKER_SENSITIVE_COPY", "DOCKER_ENV_SECRET", "DOCKER_WEAK_PASSWORD", "DOCKER_COMPOSE_SECRET",
    "DOCKER_EXPOSED_DB_PORT", "CONFIG_HARDCODED_SECRET"]

def misconfiguration (rule : String) (severity : Severity) (confidence : Float) (reasoning : String)
    (piiTypes : List String := []) (known : rule ∈ settingRules := by decide) :
    Weakness settingRules where
  rule := rule
  known := known
  severity := severity
  piiTypes := piiTypes
  category := "security_misconfiguration"
  confidence := confidence
  reasoning := reasoning

/-- A key and its value, cut at the first equals sign, or else at the first colon. -/
def keyAndValue? (text : String) : Option (String × String) :=
  match Text.cut? text "=" with
  | some pair => some pair
  | none => Text.cut? text ":"

/-! ### Image recipes -/

def afterFirstWord (line : String) : String :=
  Text.trimLeft (String.ofList (line.toList.dropWhile (!Text.isSpace ·)))

def recipeLine (line : String) : List (Weakness settingRules) :=
  let upper := Text.upper line
  let copied :=
    if Text.startsWithAny upper ["ADD", "COPY"] &&
        Text.containsAny line [".env", "id_rsa", "id_dsa", ".pem", ".key", "credentials"] then
      [misconfiguration "DOCKER_SENSITIVE_COPY" .high 0.95
        "Sensitive file copied into Docker image"]
    else []
  let secrets :=
    if Text.startsWith upper "ENV" then
      match Text.cut? (afterFirstWord line) "=" with
      | some (key, value) =>
        let name := Text.trim key
        let content := Text.trim value
        if secretName.occursIn name && !Text.startsWith content "$" && !content.isEmpty then
          [misconfiguration "DOCKER_ENV_SECRET" .critical 0.9
            ("Hardcoded secret '" ++ name ++ "' in Dockerfile ENV") ["credentials"]]
        else []
      | none => []
    else []
  copied ++ secrets

/-! ### Service descriptions -/

inductive Block where
  | environment
  | ports
  | other
deriving Repr, DecidableEq

def isDashOrBlank (c : Char) : Bool := c == '-' || c == ' '

def isQuote (c : Char) : Bool := c == '"' || c == '\''

def environmentLine (line : String) : List (Weakness settingRules) :=
  match keyAndValue? (Text.trimLeftBy isDashOrBlank line) with
  | some (key, value) =>
    let name := Text.trim key
    let content := Text.trim value
    if !secretName.occursIn name then []
    else if defaultPasswords.contains content then
      [misconfiguration "DOCKER_WEAK_PASSWORD" .high 0.95
        ("Weak default password '" ++ content ++ "' used for '" ++ name ++ "'") ["credentials"]]
    else if !Text.startsWithAny content ["$", "\x7b"] && !content.isEmpty then
      [misconfiguration "DOCKER_COMPOSE_SECRET" .high 0.8
        ("Hardcoded secret '" ++ name ++ "' in docker-compose") ["credentials"]]
    else []
  | none => []

def portLine (line : String) : List (Weakness settingRules) :=
  if !Text.contains line "-" then []
  else
    match Text.cut? (Text.trimBy isQuote (Text.trimLeftBy isDashOrBlank line)) ":" with
    | some (host, _) =>
      if Text.containsAny host ["127.0.0.1", "localhost"] then []
      else (databasePorts.filter (Text.contains host)).map fun port =>
        misconfiguration "DOCKER_EXPOSED_DB_PORT" .high 0.9
          ("Database port " ++ port ++ " exposed to all interfaces (0.0.0.0)")
    | none => []

/-- What a line says, and the block that the next one stands in. -/
def serviceLine (block : Block) (line : String) : Block × List (Weakness settingRules) :=
  if Text.startsWith line "environment:" then (.environment, [])
  else if Text.startsWith line "ports:" then (.ports, [])
  else if Text.endsWith line ":" && !Text.startsWith line "-" then (.other, [])
  else
    match block with
    | .environment => (.environment, environmentLine line)
    | .ports => (.ports, portLine line)
    | .other => (.other, [])

/-! ### Settings -/

def settingLine (line : String) : List (Weakness settingRules) :=
  if Text.startsWithAny line ["#", "//", ";"] then []
  else
    match keyAndValue? line with
    | some (key, value) =>
      let name := Text.trimBy isQuote (Text.trim key)
      let content := Text.trimBy isQuote (Text.trim value)
      if secretName.occursIn name && !Text.startsWithAny content ["$", "\x7b", "%"] &&
          !content.isEmpty &&
          !(["changeme", "password", "secret", "todo", "example"].contains
            (Text.lower content)) then
        [misconfiguration "CONFIG_HARDCODED_SECRET" .high 0.8
          ("Potential hardcoded secret '" ++ name ++ "' in config file") ["credentials"]]
      else []
    | none => []

def numberedLines (code : String) : List (String × Nat) :=
  ((Text.lines code).map Text.trim).zipIdx 1

def eachLine (file code : String) (check : String → List (Weakness settingRules)) : List Finding :=
  (numberedLines code).flatMap fun (line, number) =>
    (check line).map fun weakness => Spot.finding file ⟨weakness, number, line⟩

def serviceFindings (file : String) : Block → List (String × Nat) → List Finding
  | _, [] => []
  | block, (line, number) :: rest =>
    let (next, weaknesses) := serviceLine block line
    weaknesses.map (fun weakness => Spot.finding file ⟨weakness, number, line⟩) ++
      serviceFindings file next rest

/-- The weak settings of a file, read by its name. -/
def findings (file code : String) : List Finding :=
  let path := Path.ofText file
  if path.name == "Dockerfile" || Text.endsWith path.name ".dockerfile" then
    eachLine file code recipeLine
  else if ["docker-compose.yml", "docker-compose.yaml"].contains path.name then
    serviceFindings file .other (numberedLines code)
  else if [".env", ".ini", ".toml", ".json", ".yaml", ".yml"].contains path.suffix then
    eachLine file code settingLine
  else []

end PrivacyScan.Check.Infrastructure
