import PrivacyScan.Document.Access
import PrivacyScan.Document.Shown
import PrivacyScan.Glob
import PrivacyScan.Pattern.Parser

/-!
Rules that a user adds: a pattern for the text of files, what to say about a match, and which files
it is for. They come from a configuration, so some of their values may have any shape.
-/

namespace PrivacyScan

/-- A rule whose pattern cannot be read has no `compiled` one and matches nothing. -/
structure Rule where
  id : Document
  pattern : String
  severity : String := "medium"
  message : Document := .text ""
  category : Document := .text "custom"
  filePatterns : Document := .list []
  excludePatterns : Document := .list []
  compiled : Option Pattern := none

/-- A place in a text where a rule matches; the line counts from 1, the positions from 0. -/
structure RuleMatch where
  rule : Rule
  text : String
  line : Nat
  start : Nat
  stop : Nat

def matchesAnyGlob (file : String) : List Document → Outcome Bool
  | [] => .ok false
  | .text pattern :: rest =>
    if Glob.accepts pattern file then .ok true else matchesAnyGlob file rest
  | other :: _ => .error (.notAPath other.kind)

namespace Rule

def compile (rule : Rule) : Rule :=
  { rule with compiled := Pattern.parse? rule.pattern { ignoreCase := true } }

def patternText : Document → Outcome String
  | .text pattern =>
    match Pattern.fault? pattern { ignoreCase := true } with
    | some fault => .error fault
    | none => .ok pattern
  | .list _ => .error (.notHashable .list)
  | .object _ => .error (.notHashable .object)
  | _ => .error .notAPattern

/-- The rule that an entry of a configuration describes, if it has an id and a pattern that can be
read. -/
def ofRecord? (entry : Document) : Outcome (Option Rule) := do
  let id := entry.fieldOrNull "id"
  let pattern := entry.fieldOrNull "pattern"
  if !id.isTruthy || !pattern.isTruthy then return none
  let severity ← ((entry.field? "severity").getD (.text "medium")).asText "lower"
  let text ← patternText pattern
  let rule := Rule.compile {
    id
    pattern := text
    severity := Text.lower severity
    message := (entry.field? "message").getD
      (.text ("Custom rule " ++ id.shown ++ " triggered"))
    category := (entry.field? "category").getD (.text "custom")
    filePatterns := (entry.field? "file_patterns").getD (.list [])
    excludePatterns := (entry.field? "exclude_patterns").getD (.list []) }
  return if rule.compiled.isSome then some rule else none

/-- The rules of a configuration, in order; entries that are no objects are passed over. -/
def ofConfiguration (configuration : Document) : Outcome (List Rule) := do
  match ← configuration.get "rules" (.list []) with
  | .list entries =>
    let rules ← entries.mapM fun entry =>
      match entry with
      | .object _ => ofRecord? entry
      | _ => .ok none
    return rules.filterMap fun rule => rule
  | _ => return []

/-- Whether a rule is for a file: for all files, unless it names some, and never for those that it
excludes. -/
def appliesTo (rule : Rule) (file : String) : Outcome Bool := do
  let included ← if rule.filePatterns.isTruthy then
      (rule.filePatterns.elements).bind (matchesAnyGlob file)
    else pure true
  let excluded ← if rule.excludePatterns.isTruthy then
      (rule.excludePatterns.elements).bind (matchesAnyGlob file)
    else pure false
  return included && !excluded

def firstMatch? (rule : Rule) (text : String) : Option Pattern.Match :=
  rule.compiled.bind (·.search? text)

def matchesIn (rule : Rule) (text : String) : List RuleMatch :=
  match rule.compiled with
  | none => []
  | some pattern =>
    (pattern.all text).map fun found =>
      { rule, text := found.text, line := Text.countChar '\n' (Text.take found.start text) + 1
        start := found.start, stop := found.stop }

def toDocument (rule : Rule) : Document :=
  .object [("id", rule.id), ("pattern", .text rule.pattern), ("severity", .text rule.severity),
    ("message", rule.message), ("category", rule.category), ("file_patterns", rule.filePatterns),
    ("exclude_patterns", rule.excludePatterns)]

end Rule

def RuleMatch.toDocument (found : RuleMatch) : Document :=
  .object [("rule_id", found.rule.id), ("severity", .text found.rule.severity),
    ("message", found.rule.message), ("category", found.rule.category), ("match", .text found.text),
    ("line", .int found.line), ("start", .int found.start), ("end", .int found.stop)]

namespace Rule

/-- The matches of all rules in the text of a file, rule by rule. A text without a file name is for
all rules. -/
def scan (rules : List Rule) (text : String) (file : String := "") : Outcome (List RuleMatch) := do
  let found ← rules.mapM fun rule => do
    let applies ← if file.isEmpty then pure true else rule.appliesTo file
    return if applies then rule.matchesIn text else []
  return found.flatten

end Rule

end PrivacyScan
