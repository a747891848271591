import PrivacyScan.Source.Docstring
import PrivacyScan.Source.Walk
import PrivacyScan.Table

/-!
What is known of functions and classes beyond their names: the parameters and attributes that hold
personal data, and the sensitive operations of a function.
-/

namespace PrivacyScan

open Source (Node)

structure Parameter where
  name : String
  hint : Option String := none
  isPersonal : Bool := false
deriving Repr, DecidableEq

/-- The personal parameters and the operations are sorted. -/
structure Signature where
  name : String
  parameters : List Parameter := []
  returnType : Option String := none
  isAsync : Bool := false
  decorators : List String := []
  docstring : Option String := none
  returnsPersonal : Bool := false
  personalParameters : List String := []
  operations : List String := []
deriving Repr, DecidableEq

/-- The attributes are sorted, and the methods are in the order of their first definition. -/
structure ClassInfo where
  name : String
  bases : List String := []
  attributes : List String := []
  methods : Table Signature := []
  decorators : List String := []
  docstring : Option String := none
  personalAttributes : List String := []
deriving Repr, DecidableEq

def Parameter.toDocument (parameter : Parameter) : Document :=
  .object [("name", .text parameter.name),
    ("type_annotation", .ofOption .text parameter.hint), ("default_value", .null),
    ("is_pii_related", .bool parameter.isPersonal)]

def Signature.toDocument (signature : Signature) : Document :=
  .object [("name", .text signature.name),
    ("parameters", .list (signature.parameters.map (·.toDocument))),
    ("return_type", .ofOption .text signature.returnType), ("is_async", .bool signature.isAsync),
    ("decorators", .texts signature.decorators),
    ("docstring", .ofOption .text signature.docstring),
    ("returns_pii", .bool signature.returnsPersonal),
    ("pii_parameters", .texts signature.personalParameters),
    ("sensitive_operations", .texts signature.operations)]

def ClassInfo.toDocument (info : ClassInfo) : Document :=
  .object [("name", .text info.name), ("base_classes", .texts info.bases),
    ("attributes", .texts info.attributes),
    ("methods", .object (info.methods.map fun (name, method) => (name, method.toDocument))),
    ("decorators", .texts info.decorators), ("docstring", .ofOption .text info.docstring),
    ("pii_attributes", .texts info.personalAttributes)]

def personalWords : List String :=
  ["email", "password", "passwd", "pwd", "token", "api_key", "secret", "ssn", "social_security",
    "credit_card", "cc_number", "card_number", "cvv", "phone", "mobile", "cell", "address",
    "street", "city", "zip", "postal", "user_id", "username", "name", "firstname", "lastname",
    "fullname", "birth_date", "dob", "ip_address", "location", "geo", "lat", "lon", "auth",
    "credential", "session", "jwt", "cookie", "iban", "bank_account"]

def isPersonalName (name : String) : Bool := Text.containsAny (Text.lower name) personalWords

namespace Signature

def parameterOf? : Node → Outcome (Option Parameter)
  | .parameter _ id hint => do
    let shown ← hint.head?.mapM (·.source)
    return some { name := id, hint := shown, isPersonal := isPersonalName id }
  | _ => .ok none

def operationsOfCall : Node → List String
  | .call _ (.member _ method _) _ _ =>
    (if ["info", "debug", "warning", "error", "log"].contains method then ["logging"] else []) ++
    (if ["execute", "add", "commit", "query", "insert", "update", "delete"].contains method then
      ["db_write"] else []) ++
    (if ["get", "post", "put", "delete", "request", "urlopen"].contains method then ["network"]
      else [])
  | .call _ (.name _ "print") _ _ => ["logging"]
  | _ => []

def operationsOf (node : Node) : List String :=
  Text.sortedDistinct (node.walk.flatMap operationsOfCall)

def ofNode? (node : Node) : Outcome (Option Signature) := do
  match node with
  | .functionDef _ isAsync id (.parameters _ plain _ _ _ _ _) body decorators returns =>
    let parameters := (← plain.mapM parameterOf?).filterMap (fun parameter => parameter)
    return some {
      name := id
      parameters
      decorators := ← decorators.mapM (·.source)
      returnType := ← returns.head?.mapM (·.source)
      isAsync
      docstring := Source.docstring? body
      personalParameters :=
        Text.sortedDistinct ((parameters.filter (·.isPersonal)).map (·.name))
      operations := operationsOf node }
  | _ => return none

end Signature

namespace ClassInfo

def attributesOf (body : List Node) : List String :=
  body.filterMap fun
    | .annAssign _ _ (.name _ id) _ _ => some id
    | _ => none

/-- A class definition, with all its methods; where a name is defined twice, the later one
counts. -/
def ofNode? (node : Node) : Outcome (Option (ClassInfo × List Signature)) := do
  match node with
  | .classDef _ id bases _ body decorators =>
    let shownBases ← bases.mapM (·.source)
    let shownDecorators ← decorators.mapM (·.source)
    let methods := (← body.mapM Signature.ofNode?).filterMap (fun method => method)
    let attributes := Text.sortedDistinct (attributesOf body)
    return some ({
      name := id
      bases := shownBases
      attributes
      methods := methods.foldl (fun table method => table.set method.name method) []
      decorators := shownDecorators
      docstring := Source.docstring? body
      personalAttributes := attributes.filter isPersonalName }, methods)
  | _ => return none

end ClassInfo

end PrivacyScan
