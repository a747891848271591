import PrivacyScan.Pattern.Parser
import PrivacyScan.Source.Statement
import PrivacyScan.Source.Walk

/-!
What the code of a file defines and what it imports. Python is read through its tree; scripts are
read line by line, because many of them need extensions of the language.
-/

namespace PrivacyScan

open Source (Node)

inductive Language where
  | python
  | script
deriving Repr, DecidableEq

inductive DefinitionKind where
  | function
  | classType
deriving Repr, DecidableEq

def DefinitionKind.label : DefinitionKind → String
  | .function => "function"
  | .classType => "class"

/-- A function or class. Functions of scripts also tell whether their name says that they return
personal data. -/
structure Definition where
  name : String
  kind : DefinitionKind
  line : Nat
  isExported : Bool
  signature : String
  returnsPersonal : Option Bool := none
deriving Repr, DecidableEq

def Definition.toDocument (definition : Definition) : Document :=
  .object [("name", .text definition.name), ("type", .text definition.kind.label),
    ("line", .int definition.line), ("is_exported", .bool definition.isExported),
    ("signature", .text definition.signature),
    ("metadata", .object ((definition.returnsPersonal.map fun value =>
      ("returns_pii", Document.bool value)).toList))]

/-- Names taken from another module; none means the module as a whole. -/
structure Import where
  source : String
  names : List String
  line : Nat
deriving Repr, DecidableEq

def Import.toDocument (imported : Import) : Document :=
  .object [("source_module", .text imported.source), ("imported_names", .texts imported.names),
    ("line", .int imported.line)]

namespace Definition

/-! ### Python -/

def ofNode? (node : Node) : Option Definition :=
  let define (kind : DefinitionKind) (id signature : String) : Definition :=
    { name := id, kind, line := node.place.line, isExported := !Text.startsWith id "_", signature }
  match node.form with
  | .functionDef isAsync id =>
    some (define .function id ((if isAsync then "async def " else "def ") ++ id ++ "(...)"))
  | .classDef id => some (define .classType id ("class " ++ id))
  | _ => none

def ofPython (code : String) : List Definition :=
  match Source.parseModule? code with
  | some tree => tree.walk.filterMap ofNode?
  | none => []

/-! ### Scripts -/

def functionPattern : Pattern :=
  .ofText r"(?:export\s+)?(?:async\s+)?function\s+([a-zA-Z0-9_]+)\s*\("

def arrowPattern : Pattern :=
  .ofText (r"(?:export\s+)?(?:const|let|var)\s+([a-zA-Z0-9_]+)\s*=\s*(?:async\s*)?" ++
    r"\(?.*?\)?\s*=>")

def classPattern : Pattern := .ofText r"(?:export\s+)?class\s+([a-zA-Z0-9_]+)"

def personalResults : List String :=
  ["getuser", "getprofile", "login", "register", "fetchdata", "fetchprofile", "getaccount"]

/-- The definition on a line: of a function, or else of an arrow function, or else of a class. -/
def ofScriptLine? (line : String) (number : Nat) : Option Definition :=
  let define (kind : DefinitionKind) (name : String) (returnsPersonal : Option Bool) : Definition :=
    { name, kind, line := number, isExported := Text.contains line "export"
      signature := Text.trim line, returnsPersonal }
  let defineFunction (name : String) : Definition :=
    define .function name (some (Text.containsAny (Text.lower name) personalResults))
  match functionPattern.search? line with
  | some found => some (defineFunction (found.capture 1))
  | none =>
    match arrowPattern.search? line with
    | some found => some (defineFunction (found.capture 1))
    | none => (classPattern.search? line).map fun found => define .classType (found.capture 1) none

def ofScript (code : String) : List Definition :=
  ((Text.lines code).zipIdx 1).filterMap fun (line, number) => ofScriptLine? line number

end Definition

namespace Import

def ofNode (node : Node) : List Import :=
  let aliased (names : List Node) : List String :=
    names.filterMap fun
      | .importAs _ id _ => some id
      | _ => none
  match node with
  | .importing place names =>
    (aliased names).map fun id => { source := id, names := [], line := place.line }
  | .importingFrom place (some source) _ names =>
    [{ source, names := aliased names, line := place.line }]
  | _ => []

def ofPython (code : String) : List Import :=
  match Source.parseModule? code with
  | some tree => tree.walk.flatMap ofNode
  | none => []

def importPattern : Pattern :=
  .ofText (r"import\s+(?:(\{[\s\w,]+\})|(\*\s+as\s+\w+)|([\w]+))\s+from\s+" ++
    r#"['\"]([^'\"]+)['\"]"#)

def requirePattern : Pattern :=
  .ofText (r"(?:const|let|var)\s+(?:(\{[\s\w,]+\})|(\w+))\s*=\s*require\(" ++
    r#"['\"]([^'\"]+)['\"]\)"#)

def bracedNames (group : String) : List String :=
  (Text.split (Text.trimBy (fun c => c == '\x7b' || c == '\x7d') group) ",").map Text.trim

/-- The name behind the word `as`, which has single blanks around it. -/
def renamed (part : String) : Outcome String :=
  match Text.split part " as " with
  | _ :: name :: _ => .ok (Text.trim name)
  | _ => .error .indexOutOfRange

def boundName (part : String) : Outcome String :=
  if Text.contains part " as " then renamed part else .ok part

/-- The import on a line, or else the requirement on it. -/
def ofScriptLine? (line : String) (number : Nat) : Outcome (Option Import) := do
  match importPattern.search? line with
  | some found =>
    let names ← match found.capture? 1, found.capture? 2 with
      | some braced, _ => (bracedNames braced).mapM boundName
      | none, some whole => List.singleton <$> renamed whole
      | none, none => pure [found.capture 3]
    return some { source := found.capture 4, names, line := number }
  | none =>
    match requirePattern.search? line with
    | some found =>
      let names := match found.capture? 1 with
        | some braced => bracedNames braced
        | none => [found.capture 2]
      return some { source := found.capture 3, names, line := number }
    | none => return none

def ofScript (code : String) : Outcome (List Import) := do
  let found ← ((Text.lines code).zipIdx 1).mapM fun (line, number) => ofScriptLine? line number
  return found.filterMap id

end Import

namespace Language

def definitions (language : Language) (code : String) : List Definition :=
  match language with
  | .python => Definition.ofPython code
  | .script => Definition.ofScript code

def imports (language : Language) (code : String) : Outcome (List Import) :=
  match language with
  | .python => .ok (Import.ofPython code)
  | .script => Import.ofScript code

end Language

end PrivacyScan
