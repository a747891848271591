import PrivacyScan.Policy
import PrivacyScan.Project.FileTree
import PrivacyScan.Rule
import PrivacyScan.Toml.Reader

/-!
The configuration of a scan: which files to read, the policy and the rules of the user. It is read
from a file of its own, or from a table of the file that describes a Python project.
-/

namespace PrivacyScan

/-- Values that a configuration file may give in any shape are kept as documents. No rules are
absent rather than an empty list. -/
structure Config where
  root : Path
  excludePatterns : Document := .texts ["*/node_modules/*", "*/venv/*", "*/env/*", "*/.venv/*",
    "*/dist/*", "*/build/*", "*/__pycache__/*", "*/.git/*", "*/site-packages/*", "*/demo_stage/*",
    "*/scan_results.json"]
  policy : Policy := {}
  maxWorkers : Document := .int 8
  maxFiles : Option Int := none
  maxFileSize : Int := 5000000
  verbose : Document := .bool false
  debug : Document := .bool false
  pythonEndings : List String := [".py", ".pyw"]
  scriptEndings : List String := [".cjs", ".js", ".jsx", ".mjs", ".ts", ".tsx"]
  settingEndings : List String := [".env", ".ini", ".json", ".toml", ".yaml", ".yml"]
  containerFiles : List String := ["Dockerfile", "docker-compose.yaml", "docker-compose.yml"]
  rules : Option (List Rule) := none

namespace Config

def policyOf (document : Document) : Outcome Policy :=
  return { blockedCountries := ← document.get "blocked_countries" (.list [])
           blockedProviders := ← document.get "blocked_providers" (.list [])
           allowedCountries := ← document.get "allowed_countries" (.list [])
           requireSanitization := ← document.get "require_sanitization_for_ai" (.bool false) }

def ofDocument (root : Path) (document : Document) : Outcome Config := do
  let policy ← policyOf (← document.get "policy" (.object []))
  let rules ← Rule.ofConfiguration document
  let exclude ← document.get "exclude" (.list [])
  let standard : Config := { root }
  return { standard with
    policy
    rules := if rules.isEmpty then none else some rules
    excludePatterns := if exclude.isTruthy then exclude else standard.excludePatterns
    maxWorkers := ← document.get "max_workers" standard.maxWorkers
    verbose := ← document.get "verbose" standard.verbose
    debug := ← document.get "debug" standard.debug }

def documentIn? (workspace : Workspace) (file : Path) : Option Document :=
  match workspace.at? file with
  | some (.file content) => Toml.parse? content
  | _ => none

/-- The settings in the file of a project: the table of this tool among those of all tools. -/
def projectSettings? (workspace : Workspace) (root : Path) : Option Document := do
  let document ← documentIn? workspace (root.child "pyproject.toml")
  let tools := (document.field? "tool").getD (.object [])
  match tools with
  | .object _ => some ((tools.field? "privalyse").getD (.object []))
  | _ => none

/-- Loads the configuration of a project; a file that cannot be read counts as empty. -/
def load (workspace : Workspace) (root : Path) : Outcome Config :=
  let own := ((documentIn? workspace (root.child "privalyse.toml")).filter (·.isTruthy))
  ofDocument root ((own.or (projectSettings? workspace root)).getD (.object []))

def toDocument (config : Config) : Document :=
  .object [("root_path", .text config.root.text), ("exclude_patterns", config.excludePatterns),
    ("policy", config.policy.toDocument), ("max_workers", config.maxWorkers),
    ("max_files", .ofOption .int config.maxFiles), ("max_file_size", .int config.maxFileSize),
    ("verbose", config.verbose), ("debug", config.debug),
    ("python_extensions", .texts config.pythonEndings),
    ("js_extensions", .texts config.scriptEndings),
    ("config_extensions", .texts config.settingEndings),
    ("docker_files", .texts config.containerFiles),
    ("custom_rules", .ofOption (fun rules => .list (rules.map (·.toDocument))) config.rules)]

end Config

end PrivacyScan
