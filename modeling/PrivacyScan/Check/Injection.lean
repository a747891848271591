import PrivacyScan.Check.Basic
import PrivacyScan.Table

/-!
Injection: calls that run, open, fetch or show a text that is put together while the program runs.
The walk keeps what each variable was last put together from, because a query is often built one
line above the call that runs it.
-/

namespace PrivacyScan.Check.Injection

open Source (Node BinaryOperator)

/-- What stands in the fixed parts of a text that is put together. -/
structure Assembled where
  hasQuery : Bool
  hasPath : Bool
deriving Repr

def queryWords : List String :=
  ["SELECT", "INSERT", "UPDATE", "DELETE", "DROP", "CREATE", "ALTER", "EXEC", "EXECUTE", "UNION",
    "WHERE", "FROM"]

def commandFunctions : List String :=
  ["os.system", "subprocess.call", "subprocess.run", "subprocess.Popen", "os.popen", "os.exec",
    "commands.getoutput", "eval", "exec"]

def fileFunctions : List String :=
  ["open", "os.path.join", "pathlib.Path", "os.remove", "os.unlink", "shutil.rmtree", "os.rmdir",
    "os.rename", "os.makedirs"]

def requestFunctions : List String :=
  ["requests.get", "requests.post", "requests.put", "requests.delete", "urllib.request.urlopen",
    "httpx.get", "httpx.post"]

def loadingFunctions : List String :=
  ["pickle.loads", "pickle.load", "marshal.loads", "shelve.open", "eval", "exec", "compile"]

def documentFunctions : List String :=
  ["xml.etree.ElementTree.parse", "xml.etree.ElementTree.fromstring", "xml.etree.ElementTree.XML",
    "xml.dom.minidom.parse", "xml.dom.minidom.parseString", "xml.sax.parse", "xml.sax.parseString",
    "lxml.etree.parse", "lxml.etree.fromstring", "lxml.etree.XML"]

def inputWords : List String :=
  ["request.", "input(", "argv", "stdin", "get(", "post(", "params", "query", "form",
    "json", "data"]

def injectionRules : List String :=
  ["SQL_INJECTION", "CODE_INJECTION", "COMMAND_INJECTION", "PATH_TRAVERSAL", "SSRF",
    "YAML_UNSAFE_LOAD", "PICKLE_UNTRUSTED", "TEMPLATE_INJECTION", "XSS_REFLECTED",
    "XXE_VULNERABILITY"]

abbrev Spots := List (Spot injectionRules)

def injection (rule : String) (severity : Severity) (confidence : Float)
    (reasoning kind recommendation weaknessNumber : String)
    (gdprArticles : List String := ["Art. 32", "Art. 5(1)(f)"])
    (known : rule ∈ injectionRules := by decide) : Weakness injectionRules where
  rule := rule
  known := known
  severity := severity
  sectors := ["security"]
  category := "injection"
  confidence := confidence
  reasoning := reasoning
  gdprArticles := gdprArticles
  metadata := [("vulnerability_type", .text kind), ("recommendation", .text recommendation),
    ("cwe", .text weaknessNumber)]

/-- A query put together inside the call is graver than one put together before it. -/
def queryInjection (insideCall : Bool) : Weakness injectionRules :=
  { injection "SQL_INJECTION" (if insideCall then .critical else .high)
      (if insideCall then 0.9 else 0.75)
      "SQL query constructed via string concatenation/formatting - potential SQL injection"
      "SQL Injection" "Use parameterized queries or ORM methods" "CWE-89" with
    piiTypes := ["database"] }

def codeInjection (function : String) : Weakness injectionRules :=
  injection "CODE_INJECTION" .critical 1.0
    ("Dangerous " ++ function ++ "() allows arbitrary code execution")
    "Code Injection" "Avoid eval/exec - use ast.literal_eval or safer alternatives" "CWE-94"
    ["Art. 32"]

def commandInjection : Weakness injectionRules :=
  injection "COMMAND_INJECTION" .critical 0.95
    "Command execution with shell=True and dynamic input - potential command injection"
    "Command Injection"
    "Use shell=False and pass arguments as list, or validate/sanitize input" "CWE-78"

def pathTraversal (isSanitized : Bool) : Weakness injectionRules :=
  injection "PATH_TRAVERSAL" (if isSanitized then .medium else .high)
    (if isSanitized then 0.5 else 0.8)
    "File path constructed from user input - potential path traversal" "Path Traversal"
    "Validate and sanitize file paths, use os.path.basename(), check against whitelist" "CWE-22"

def requestForgery : Weakness injectionRules :=
  injection "SSRF" .high 0.85 "HTTP request with user-controlled URL - potential SSRF"
    "Server-Side Request Forgery (SSRF)"
    "Validate URLs against whitelist, block internal IPs, use URL parsing" "CWE-918"
    ["Art. 32", "Art. 44"]

def unsafeYaml : Weakness injectionRules :=
  { injection "YAML_UNSAFE_LOAD" .critical 1.0
      "yaml.load() without SafeLoader allows arbitrary code execution"
      "Insecure Deserialization"
      "Use yaml.safe_load() or yaml.load(data, Loader=yaml.SafeLoader)" "CWE-502" ["Art. 32"] with
    category := "deserialization" }

def untrustedPickle : Weakness injectionRules :=
  { injection "PICKLE_UNTRUSTED" .critical 0.95
      "pickle deserialization of untrusted data allows code execution"
      "Insecure Deserialization"
      "Never unpickle untrusted data - use JSON or other safe formats" "CWE-502" ["Art. 32"] with
    category := "deserialization" }

def templateInjection : Weakness injectionRules :=
  injection "TEMPLATE_INJECTION" .critical 0.9
    "Template rendering with user input - potential SSTI"
    "Server-Side Template Injection (SSTI)"
    "Use render_template() with separate template files, sanitize template variables" "CWE-94"
    ["Art. 32"]

def reflectedScript : Weakness injectionRules where
  rule := "XSS_REFLECTED"
  severity := .high
  sectors := ["security", "web"]
  category := "injection"
  confidence := 0.75
  reasoning := "Potentially unescaped user input in HTTP response - XSS risk"
  gdprArticles := ["Art. 32", "Art. 5(1)(f)"]
  metadata := [("vulnerability_type", .text "Cross-Site Scripting (XSS)"),
    ("xss_type", .text "Reflected XSS"),
    ("recommendation", .text
      "Use template engine auto-escaping, sanitize user input, Content-Security-Policy headers"),
    ("cwe", .text "CWE-79")]

def externalEntity : Weakness injectionRules :=
  { injection "XXE_VULNERABILITY" .high 0.85
      "XML parser may be vulnerable to XXE - entity processing not disabled"
      "XML External Entity (XXE)"
      "Use defusedxml library, disable entity processing, DTD processing" "CWE-611" with
    sectors := ["security", "web"] }

def fixedText : Node → String
  | .mk (.constant (.text value) _) _ _ => value
  | .mk .joinedText _ [values] => String.join (values.filterMap fun value => value.text?)
  | .mk (.binOp _) _ [[left], [right]] => fixedText left ++ fixedText right
  | _ => ""

def hasQueryWord (text : String) : Bool := Text.containsAny (Text.upper text) queryWords

def isJoined (node : Node) : Bool :=
  match node.form with
  | .joinedText => true
  | _ => false

def isSum (node : Node) : Bool :=
  match node.form with
  | .binOp .add => true
  | _ => false

/-- Whether a value is computed: formatted, combined or returned by a call. -/
def isComputed (node : Node) : Bool :=
  match node.form with
  | .joinedText | .binOp _ | .call => true
  | _ => false

def assembled (value : Node) : Assembled :=
  let text := fixedText value
  { hasQuery := hasQueryWord text
    hasPath := Text.contains text "/" || Text.contains text "\\\\" }

/-- Whether a query is put together in this very expression. -/
def buildsQuery (node : Node) : Bool :=
  match node with
  | .mk .joinedText _ _ => hasQueryWord (fixedText node)
  | .binOp _ .add left right => hasQueryWord (fixedText left ++ fixedText right)
  | .binOp _ .mod left right => hasQueryWord (fixedText left ++ fixedText right)
  | .call _ (.member _ method object) _ _ =>
    ["format", "join"].contains method &&
      object.constant?.any fun content => hasQueryWord content.shown
  | _ => false

def loweredSource (node : Node) : Outcome String := Text.lower <$> node.source

def isUserInput (node : Node) : Outcome Bool :=
  (Text.containsAny · inputWords) <$> loweredSource node

/-- The checks of one call know what the variables were put together from. -/
structure Scene where
  target : Target
  parts : Table Assembled

def Scene.assembled? (scene : Scene) (node : Node) : Option Assembled :=
  node.name?.bind scene.parts.get?

variable (scene : Scene) (call : Call)

def forInputs (applies : Node → Outcome Bool)
    (weakness : Outcome (Weakness injectionRules)) : Outcome Spots := do
  let found ← call.inputs.mapM fun input => do
    if ← applies input then return some (← scene.target.atNode call.node (← weakness))
    else return none
  return found.filterMap id

def checkQuery : Outcome Spots := do
  if !Text.containsAny (Text.lower call.name) ["execute", "raw", "query", "sql"] then return []
  let built := call.inputs.findSome? fun input =>
    if buildsQuery input then some true
    else if (scene.assembled? input).any (·.hasQuery) then some false
    else none
  match built with
  | some insideCall => return [← scene.target.atNode call.node (queryInjection insideCall)]
  | none => return []

def checkCommand : Outcome Spots := do
  if !Text.containsAny call.name commandFunctions then return []
  if ["eval", "exec"].contains call.name then
    return [← scene.target.atNode call.node (codeInjection call.name)]
  if !(call.namedBy "shell").any isTrue then return []
  forInputs scene call (fun input => do return (← isUserInput input) || isComputed input)
    (.ok commandInjection)

def checkPath : Outcome Spots := do
  if !Text.containsAny call.name fileFunctions then return []
  forInputs scene call
    (fun input => do
      return (← isUserInput input) || isJoined input || isSum input ||
        (scene.assembled? input).any (·.hasPath))
    (do
      let source ← loweredSource call.node
      return pathTraversal (Text.containsAny source ["basename", "abspath", "realpath"]))

def checkRequest : Outcome Spots := do
  if !Text.containsAny call.name requestFunctions then return []
  forInputs scene call
    (fun input => do
      let source ← loweredSource input
      return Text.containsAny source inputWords ||
        (isComputed input && Text.containsAny source ["http", "url"]) ||
        input.name?.isSome || isJoined input)
    (.ok requestForgery)

def checkLoading : Outcome Spots := do
  if Text.contains call.name "yaml.load" then
    for loader in call.namedBy "Loader" do
      if Text.contains (← loader.source) "Safe" then return []
    return [← scene.target.atNode call.node unsafeYaml]
  else if Text.containsAny call.name loadingFunctions && Text.contains call.name "pickle" then
    forInputs scene call isUserInput (.ok untrustedPickle)
  else return []

def checkTemplate : Outcome Spots := do
  if !Text.contains call.name "render_template_string" then return []
  forInputs scene call
    (fun input => do return (← isUserInput input) || input.constant?.isNone)
    (.ok templateInjection)

/-- The first input that shows in a response is reported. -/
def checkResponse : Outcome Spots := do
  if !Text.containsAny call.name ["jsonify", "make_response", "Response", "HttpResponse"] then
    return []
  for input in call.inputs do
    let source ← loweredSource input
    let mayBeInput := Text.containsAny source inputWords || input.name?.isSome
    let hasMarkup := Text.containsAny source ["<", ">", "html", "script", "div", "span"]
    if mayBeInput && (hasMarkup || isComputed input) then
      return [← scene.target.atNode call.node reflectedScript]
  return []

def checkDocument : Outcome Spots := do
  if !Text.containsAny call.name documentFunctions then return []
  let guards ← (call.namedBy "resolve_entities" ++ call.namedBy "no_network").mapM (·.source)
  if Text.contains call.name "defusedxml" || guards.any (Text.contains · "False") then return []
  return [← scene.target.atNode call.node externalEntity]

def checkCall : Outcome Spots := do
  return (← checkQuery scene call) ++ (← checkCommand scene call) ++ (← checkPath scene call) ++
    (← checkRequest scene call) ++ (← checkLoading scene call) ++ (← checkTemplate scene call) ++
    (← checkResponse scene call) ++ (← checkDocument scene call)

def remember (parts : Table Assembled) : Node → Table Assembled
  | .assign _ targets value =>
    if isComputed value then
      (targets.filterMap (·.name?)).foldl (fun known id => known.set id (assembled value)) parts
    else parts
  | _ => parts

def checkNodes (target : Target) : Table Assembled → List Node → Outcome Spots
  | _, [] => .ok []
  | parts, node :: rest => do
    let known := remember parts node
    let found ← match Call.ofNode? node with
      | some call => checkCall { target, parts := known } call
      | none => pure []
    return found ++ (← checkNodes target known rest)

/-- The injections that a Python file allows; code that does not parse allows none. -/
def findings (file code : String) : Outcome (List Finding) :=
  match Source.parseModule? code with
  | none => .ok []
  | some tree => do
    let found ← checkNodes (Target.ofCode code) [] tree.preorder
    return found.map (·.finding file)

end PrivacyScan.Check.Injection
