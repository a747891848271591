import PrivacyScan.Check.Basic

/-!
Cryptography: calls that hash, encrypt, draw random numbers or secure a connection in a way that is
known to be weak.
-/

namespace PrivacyScan.Check.Crypto

open Source (Node Constant)

/-- Weak hashes; a call is reported for the first whose name it contains. -/
def weakHashes : List String := ["md2", "md4", "md5", "sha", "sha1"]

def insecureRandom : List String :=
  ["random.random", "random.randint", "random.choice", "random.randrange", "random.uniform"]

def passwordWords : List String := ["password", "passwd", "pwd", "auth", "credential"]

def securityWords : List String :=
  ["token", "secret", "key", "session", "csrf", "nonce", "salt", "iv", "password", "auth", "otp",
    "code"]

def cryptoRules : List String :=
  ["CRYPTO_WEAK_HASH", "CRYPTO_ECB_MODE", "CRYPTO_WEAK_CIPHER", "CRYPTO_INSECURE_RANDOM",
    "CRYPTO_WEAK_TLS", "CRYPTO_SSL_VERIFY_DISABLED", "CRYPTO_WEAK_KEY_SIZE"]

abbrev Spots := List (Spot cryptoRules)

def weakness (rule : String) (severity : Severity) (reasoning kind : String)
    (details : List (String × Document)) (recommendation weaknessNumber : String)
    (known : rule ∈ cryptoRules := by decide) : Weakness cryptoRules where
  rule := rule
  known := known
  severity := severity
  sectors := ["security", "crypto"]
  category := "crypto"
  reasoning := reasoning
  gdprArticles := ["Art. 32(1)(a)"]
  metadata := ("vulnerability_type", .text kind) :: details ++
    [("recommendation", .text recommendation), ("cwe", .text weaknessNumber)]

def weakHash (algorithm : String) (hashesPassword : Bool) : Weakness cryptoRules :=
  { weakness "CRYPTO_WEAK_HASH" (if hashesPassword then .critical else .high)
      ("Weak hash algorithm " ++ Text.upper algorithm ++ " detected - vulnerable to collisions")
      "Weak Cryptography" [("algorithm", .text (Text.upper algorithm))]
      "Use SHA-256, SHA-512, or bcrypt/argon2 for passwords" "CWE-327" with
    piiTypes := if hashesPassword then ["password"] else [] }

def codebookMode : Weakness cryptoRules :=
  weakness "CRYPTO_ECB_MODE" .critical
    "ECB cipher mode detected - does not provide semantic security" "Weak Cipher Mode"
    [("mode", .text "ECB")]
    "Use GCM, CBC with HMAC, or authenticated encryption (AES-GCM)" "CWE-327"

def weakCipher : Weakness cryptoRules :=
  weakness "CRYPTO_WEAK_CIPHER" .critical "DES cipher detected - key size too small, deprecated"
    "Weak Cipher" [("algorithm", .text "DES")] "Use AES-256 with GCM mode" "CWE-326"

def weakRandom : Weakness cryptoRules :=
  { weakness "CRYPTO_INSECURE_RANDOM" .high
      "Insecure random number generator used in security context" "Weak Randomness" []
      "Use secrets module: secrets.token_bytes(), secrets.token_hex()" "CWE-338" with
    piiTypes := ["token", "session_token"]
    confidence := 0.85 }

def weakProtocol (version : String) : Weakness cryptoRules :=
  weakness "CRYPTO_WEAK_TLS" .critical ("Weak TLS/SSL version detected: " ++ version)
    "Weak TLS/SSL" [("version", .text version)]
    "Use TLS 1.2+ only (ssl.PROTOCOL_TLS_SERVER or TLSv1_2)" "CWE-327"

def unverified : Weakness cryptoRules :=
  weakness "CRYPTO_SSL_VERIFY_DISABLED" .critical
    "SSL certificate verification disabled - vulnerable to MITM attacks"
    "SSL Verification Disabled" [] "Remove verify=False or provide path to CA bundle" "CWE-295"

def smallKey (size : Document) (sizeText : String) : Weakness cryptoRules :=
  weakness "CRYPTO_WEAK_KEY_SIZE" .high
    ("RSA key size " ++ sizeText ++ " bits is too small - recommend 2048+ bits") "Weak Key Size"
    [("key_size", size)] "Use 2048-bit RSA minimum (4096-bit for long-term security)" "CWE-326"

variable (target : Target) (call : Call)

def checkHash : Outcome Spots := do
  match weakHashes.find? (Text.contains (Text.lower call.name)) with
  | none => return []
  | some algorithm =>
    let source ← call.node.source
    let hashesPassword := Text.containsAny (Text.lower source) passwordWords
    return [← target.atNode call.node (weakHash algorithm hashesPassword)]

/-- The modes given to a cipher: by keyword, or else as the second input. -/
def cipherModes (call : Call) : List Node :=
  let named := call.named.filterMap fun (id, value) =>
    if id.any fun keyword => Text.contains (Text.lower keyword) "mode" then some value else none
  if named.isEmpty then (call.inputs.drop 1).take 1 else named

def checkCipher : Outcome Spots := do
  let name := Text.lower call.name
  let isDes := Text.contains name "des"
  if !(Text.contains name "new" && (Text.contains name "aes" || isDes)) then return []
  let inMode ← (cipherModes call).mapM fun mode => do
    if Text.contains (Text.upper (← mode.source)) "ECB" then
      return [← target.atNode call.node codebookMode]
    else return []
  if isDes && !Text.contains name "tripledes" then
    return inMode.flatten ++ [← target.atNode call.node weakCipher]
  else return inMode.flatten

/-- Random numbers matter where the call or the function around it speaks of security. -/
def checkRandom (target : Target) (function : Option String) (call : Call) :
    Outcome Spots := do
  if !Text.containsAny call.name insecureRandom then return []
  let source ← call.node.source
  let speaksOfSecurity (text : String) : Bool := Text.containsAny (Text.lower text) securityWords
  if speaksOfSecurity source || function.any speaksOfSecurity then
    return [← target.atNode call.node weakRandom]
  else return []

def isMember (node : Node) : Bool :=
  match node.form with
  | .member _ => true
  | _ => false

def checkProtocol : Outcome Spots := do
  let name := Text.lower call.name
  if !(Text.contains name "ssl" && Text.contains name "context") then return []
  let found ← (call.inputs.filter isMember).mapM fun input => do
    let version := Text.upper (← input.source)
    if Text.containsAny version ["SSLV2", "SSLV3", "TLSV1", "TLS_V1"] then
      return [← target.atNode call.node (weakProtocol version)]
    else return []
  return found.flatten

def checkVerification : Outcome Spots := do
  if !Text.containsAny call.name ["requests.", "httpx."] then return []
  ((call.namedBy "verify").filter isFalse).mapM fun _ => target.atNode call.node unverified

/-- A size as a number, with its value and text for the report; truth values count as 0 and 1. -/
def keySize? (node : Node) : Option (Nat × Document × String) :=
  match node.constant? with
  | some (.int value) => some (value, .int value, toString value)
  | some (.bool value) => some (value.toNat, .bool value, (Constant.bool value).shown)
  | _ => none

def checkKey : Outcome Spots := do
  let name := Text.lower call.name
  if !(Text.contains name "rsa" && Text.contains name "generate") then return []
  let small := (call.inputs.filterMap keySize?).filter fun (value, _, _) => decide (value < 2048)
  small.mapM fun (_, size, text) => target.atNode call.node (smallKey size text)

def checkCall (target : Target) (function : Option String) (call : Call) :
    Outcome Spots := do
  return (← checkHash target call) ++ (← checkCipher target call) ++
    (← checkRandom target function call) ++ (← checkProtocol target call) ++
    (← checkVerification target call) ++ (← checkKey target call)

mutual

/-- The named calls below a node, each with the plain function that it stands in. -/
def callsOf (function : Option String) : Node → List (Option String × Call)
  | .mk form place parts =>
    let inner := match form with
      | .functionDef false id => some id
      | _ => function
    ((Call.ofNode? (.mk form place parts)).map (function, ·)).toList ++ callsOfGroups inner parts

def callsOfGroups (function : Option String) : List (List Node) → List (Option String × Call)
  | [] => []
  | group :: rest => callsOfNodes function group ++ callsOfGroups function rest

def callsOfNodes (function : Option String) : List Node → List (Option String × Call)
  | [] => []
  | node :: rest => callsOf function node ++ callsOfNodes function rest

end

/-- The weak cryptography of a Python file; code that does not parse has none. -/
def findings (file code : String) : Outcome (List Finding) :=
  match Source.parseModule? code with
  | none => .ok []
  | some tree => do
    let found ← (callsOf none tree).mapM fun (function, call) =>
      checkCall (Target.ofCode code) function call
    return found.flatten.map (·.finding file)

end PrivacyScan.Check.Crypto
