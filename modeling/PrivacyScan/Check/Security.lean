import PrivacyScan.Check.Basic
import PrivacyScan.Pattern.Parser

/-!
Settings of web services: addresses, headers, cookies, origins, passwords, sessions, requests and
secrets. Each group of checks walks the whole tree, level by level.
-/

namespace PrivacyScan.Check.Security

open Source (Node Constant)

def securityRules : List String :=
  ["HTTP_PLAIN", "HEADER_XFRAME_MISSING", "HEADER_XCONTENT_MISSING", "HEADER_CSP_MISSING",
    "HEADER_HSTS_MISSING", "COOKIE_TRACKING_CONSENT", "COOKIE_INSECURE", "COOKIE_NO_HTTPONLY",
    "CORS_WILDCARD", "PASSWORD_HASH_WEAK", "PASSWORD_HARDCODED", "SESSION_INSECURE",
    "API_EXTERNAL_DATA", "API_SSL_DISABLED", "API_KEY_HARDCODED", "SECRET_KEY_HARDCODED",
    "TOKEN_HARDCODED", "AWS_KEY_HARDCODED", "CFG_DEBUG_ENABLED"]

abbrev Spots := List (Spot securityRules)

def weakness (rule : String) (severity : Severity) (sector reasoning : String)
    (piiTypes : List String := []) (known : rule ∈ securityRules := by decide) :
    Weakness securityRules where
  rule := rule
  known := known
  severity := severity
  piiTypes := piiTypes
  sectors := [sector]
  category := sector
  reasoning := reasoning
  gdprArticles := ["Art. 32"]

/-! ### Web -/

/-- Headers that protect a page, with the rule that reports a missing one. -/
def securityHeaders : List (String × { rule // rule ∈ securityRules }) :=
  [("X-Frame-Options", ⟨"HEADER_XFRAME_MISSING", by decide⟩),
    ("X-Content-Type-Options", ⟨"HEADER_XCONTENT_MISSING", by decide⟩),
    ("Content-Security-Policy", ⟨"HEADER_CSP_MISSING", by decide⟩),
    ("Strict-Transport-Security", ⟨"HEADER_HSTS_MISSING", by decide⟩)]

def trackingNames : List String := ["_ga", "_gid", "_fbp", "pixel", "tracker", "analytics", "uuid"]

variable (target : Target) (node : Node)

def checkAddress : Spots :=
  match node.text? with
  | some value =>
    if Text.startsWith value "http://" && !Text.contains value "localhost" &&
      value != "http://" then
      [target.atLine node.place.line
        (weakness "HTTP_PLAIN" .medium "web" "HTTP URL without encryption detected")]
    else []
  | none => []

/-- Whether a header is among the given ones, where every value before it has a lower case. -/
def isGiven (header : String) : List Constant → Outcome Bool
  | [] => .ok false
  | given :: rest => do
    if (← given.lowered) == Text.lower header then return true else isGiven header rest

def missingHeaders (target : Target) (line : Nat) (given : List Constant) :
    Outcome Spots := do
  let found ← securityHeaders.mapM fun (header, ⟨rule, known⟩) => do
    if ← isGiven header given then return []
    else return [target.atLine line
      (weakness rule .medium "web" ("Missing security header: " ++ header) [] known)]
  return found.flatten

def keywordConstant (keyword : Option String) : Constant :=
  match keyword with
  | some id => .text id
  | none => .none

def keywordsOf (keywords : List Node) : List (Option String × Node) :=
  keywords.filterMap fun
    | .keyword _ id value => some (id, value)
    | _ => none

def checkHeaders : Outcome Spots :=
  match node with
  | .call place (.member _ method _) inputs keywords =>
    if ["add_header", "set_header", "header"].contains method then
      missingHeaders target place.line
        (inputs.filterMap (·.constant?) ++ (keywordsOf keywords).map (keywordConstant ·.1))
    else .ok []
  | .assign place targets _ => do
    let found ← targets.mapM fun
      | .subscript _ (.member _ "headers" _) index =>
        missingHeaders target place.line [index.constant?.getD (.text "")]
      | _ => .ok []
    return found.flatten
  | _ => .ok []

def isSwitchedOn (keywords : List Node) (keyword : String) : Bool :=
  let constants := (keywordsOf keywords).filterMap fun (id, value) =>
    if id == some keyword then value.constant? else none
  constants.getLast?.any (·.isTruthy)

def trackingCookie (name : String) : Weakness securityRules :=
  { weakness "COOKIE_TRACKING_CONSENT" .medium "web"
      ("Tracking cookie '" ++ name ++ "' detected. Ensure consent is obtained before setting.")
      ["tracking_data"] with
    article := "Art. 6"
    category := "tracking"
    confidence := 0.8
    gdprArticles := ["Art. 6", "ePrivacy"] }

def checkCookie : Spots :=
  match node with
  | .call place (.member _ "set_cookie" _) inputs keywords =>
    let name := ((inputs.head?.bind (·.constant?)).map (·.shown)).getD ""
    let weaknesses :=
      (if isSwitchedOn keywords "secure" then []
        else [weakness "COOKIE_INSECURE" .high "web" "Cookie without Secure flag"
          ["session_token"]]) ++
      (if isSwitchedOn keywords "httponly" then []
        else [weakness "COOKIE_NO_HTTPONLY" .medium "web" "Cookie without HttpOnly flag"
          ["session_token"]]) ++
      (if Text.containsAny (Text.lower name) trackingNames then [trackingCookie name] else [])
    weaknesses.map (target.atLine place.line)
  | _ => []

def isWildcard (node : Node) : Bool := node.text? == some "*"

def opensResource : Node → Bool
  | .dict _ _ resources =>
    resources.any fun
      | .dict _ keys values =>
        (keys.zip values).any fun (key, value) => key.text? == some "origins" && isWildcard value
      | _ => false
  | _ => false

def allowsAllOrigins (inputs keywords : List Node) : Bool :=
  inputs.any isWildcard ||
    (keywordsOf keywords).any fun (id, value) =>
      ((id == some "origins" || id == some "allow_origins") && isWildcard value) ||
        (id == some "resources" && opensResource value)

def checkOrigins : Spots :=
  match node with
  | .call place function inputs keywords =>
    if function.lastName?.any (fun name => Text.contains (Text.lower name) "cors") &&
        allowsAllOrigins inputs keywords then
      [target.atLine place.line
        (weakness "CORS_WILDCARD" .high "web" "CORS allows all origins (*)")]
    else []
  | _ => []

def checkWeb : Outcome Spots := do
  return checkAddress target node ++ (← checkHeaders target node) ++ checkCookie target node ++
    checkOrigins target node

/-! ### Authentication -/

def isWeakHash (function : Node) : Bool :=
  function.lastName?.any (["md5", "sha1", "sha256"].contains ·)

def givesPassword (keywords : List Node) : Bool :=
  (keywordsOf keywords).any fun (id, value) =>
    id.any (["password", "passwd", "pwd"].contains ·) && value.constant?.isSome

/-- Whether a method sets up a session without the secure flag. Methods that only ask are left
out. -/
def isInsecureSession (function : Node) (keywords : List Node) : Bool :=
  match function with
  | .member _ method _ =>
    let name := Text.lower method
    !Text.containsAny name ["is_", "get_", "check_", "has_", "validate_"] &&
      Text.contains name "session" && !(keywordsOf keywords).any (·.1 == some "secure")
  | _ => false

def checkAuthentication : Spots :=
  match node with
  | .call place function _ keywords =>
    let weaknesses :=
      (if isWeakHash function then
        [weakness "PASSWORD_HASH_WEAK" .critical "auth" "Weak password hashing algorithm detected"
          ["password"]] else []) ++
      (if givesPassword keywords then
        [weakness "PASSWORD_HARDCODED" .critical "auth" "Hardcoded password detected" ["password"]]
        else []) ++
      (if isInsecureSession function keywords then
        [weakness "SESSION_INSECURE" .high "auth" "Insecure session configuration"
          ["session_token"]] else [])
    weaknesses.map (target.atLine place.line)
  | _ => []

/-! ### Requests -/

def isRequest : Node → Bool
  | .member _ method (.name _ object) =>
    ["get", "post", "put", "delete", "patch", "request"].contains method &&
      ["requests", "httpx", "urllib", "http"].contains object
  | _ => false

def isOutside (address : String) : Bool :=
  Text.startsWith address "http" && !Text.contains address "localhost" &&
    !Text.contains address "127.0.0.1"

def sendsData (inputs keywords : List Node) : Bool :=
  (keywordsOf keywords).any (fun (id, _) => id == some "data" || id == some "json") &&
    (inputs.head?.bind (·.text?)).any isOutside

def externalData : Weakness securityRules :=
  { weakness "API_EXTERNAL_DATA" .high "api" "Data transmission to external API" with
    article := "Art. 44"
    gdprArticles := ["Art. 44", "Art. 46"] }

def checkRequest : Spots :=
  match node with
  | .call place function inputs keywords =>
    if isRequest function then
      let weaknesses :=
        (if (keywordsOf keywords).any (fun (id, value) => id == some "verify" && isFalse value) then
          [weakness "API_SSL_DISABLED" .critical "api" "SSL verification disabled for API call"]
          else []) ++
        (if sendsData inputs keywords then [externalData] else [])
      weaknesses.map (target.atLine place.line)
    else []
  | _ => []

/-! ### Secrets and settings -/

/-- Assignments of long literals to names of secrets, with the rule that reports each. -/
def secretPatterns : List ({ rule // rule ∈ securityRules } × Pattern) :=
  [(⟨"API_KEY_HARDCODED", by decide⟩,
      .ofTextIgnoringCase r#"api[_-]?key[\s]*=[\s]*["\']([a-zA-Z0-9]{20,})["\']"#),
    (⟨"SECRET_KEY_HARDCODED", by decide⟩,
      .ofTextIgnoringCase r#"secret[_-]?key[\s]*=[\s]*["\']([a-zA-Z0-9]{20,})["\']"#),
    (⟨"TOKEN_HARDCODED", by decide⟩,
      .ofTextIgnoringCase r#"token[\s]*=[\s]*["\']([a-zA-Z0-9]{20,})["\']"#),
    (⟨"AWS_KEY_HARDCODED", by decide⟩,
      .ofTextIgnoringCase r#"aws[_-]?access[_-]?key[\s]*=[\s]*["\']([A-Z0-9]{20})["\']"#)]

def checkSecrets (target : Target) (code : String) : Spots :=
  secretPatterns.flatMap fun (⟨rule, known⟩, pattern) =>
    (pattern.all code).map fun found =>
      target.atLine (Text.countChar '\n' (Text.take found.start code) + 1)
        (weakness rule .critical "config" ("Hardcoded secret detected: " ++ rule) ["api_key"] known)

def checkDebug : Spots :=
  match node with
  | .assign place targets value =>
    if isTrue value then
      (targets.filterMap (·.name?)).filterMap fun id =>
        if ["debug", "debug_mode"].contains (Text.lower id) then
          some (target.atLine place.line
            (weakness "CFG_DEBUG_ENABLED" .high "config" "Debug mode enabled"))
        else none
    else []
  | _ => []

/-- The insecure settings of a Python file; code that does not parse has none. -/
def findings (file code : String) : Outcome (List Finding) :=
  match Source.parseModule? code with
  | none => .ok []
  | some tree => do
    let target := Target.ofCode code
    let nodes := tree.walk
    let web ← nodes.mapM (checkWeb target)
    let spots := web.flatten ++ nodes.flatMap (checkAuthentication target) ++
      nodes.flatMap (checkRequest target) ++ checkSecrets target code ++
      nodes.flatMap (checkDebug target)
    return spots.map (·.finding file)

end PrivacyScan.Check.Security
