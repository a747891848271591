import PrivacyScan.Text.Casing
import PrivacyScan.Text.Search

/-!
Database mappers and web frameworks, by the names that code using them contains.
-/

namespace PrivacyScan.Framework

/-- A mapper between objects and database tables: the names of its functions for queries, for
running them, for taking results and for writing. -/
structure Mapper where
  name : String
  queries : List String
  executions : List String
  results : List String
  writes : List String

/-- A web framework, with groups of names that mark its use. -/
structure WebFramework where
  name : String
  marks : List (List String)

def mappers : List Mapper := [
  { name := "sqlalchemy"
    queries := ["select", "query", "insert", "update", "delete"]
    executions := ["execute", "scalar", "scalars", "fetchone", "fetchall"]
    results := ["scalar_one", "scalar", "scalars", "first", "one", "all", "fetchone", "fetchall",
      "fetchmany"]
    writes := ["add", "add_all", "bulk_save_objects", "merge", "delete"] },
  { name := "django"
    queries := ["objects.filter", "objects.get", "objects.all", "objects.create"]
    executions := ["filter", "get", "all", "first", "last", "exists", "count"]
    results := ["values", "values_list", "first", "last", "get"]
    writes := ["save", "create", "update", "delete", "bulk_create", "update_or_create"] },
  { name := "peewee"
    queries := ["select", "insert", "update", "delete"]
    executions := ["execute", "get", "first"]
    results := ["get", "first", "dicts", "tuples", "namedtuples"]
    writes := ["save", "create", "insert", "bulk_create"] },
  { name := "sqlmodel"
    queries := ["select"]
    executions := ["exec", "execute"]
    results := ["one", "first", "all", "scalars"]
    writes := ["add", "add_all"] },
  { name := "tortoise"
    queries := ["filter", "get", "all", "create"]
    executions := ["filter", "get", "all", "first"]
    results := ["values", "values_list", "first"]
    writes := ["save", "create", "update", "delete", "bulk_create"] },
  { name := "hibernate"
    queries := ["createQuery", "createNativeQuery", "getCriteriaBuilder"]
    executions := ["getResultList", "getSingleResult", "executeUpdate"]
    results := ["getSingleResult", "getResultList", "uniqueResult"]
    writes := ["save", "persist", "merge", "delete", "saveOrUpdate"] },
  { name := "jpa"
    queries := ["createQuery", "createNamedQuery", "find"]
    executions := ["getResultList", "getSingleResult"]
    results := ["getSingleResult", "getResultList"]
    writes := ["persist", "merge", "remove"] },
  { name := "typeorm"
    queries := ["find", "findOne", "createQueryBuilder", "query"]
    executions := ["getMany", "getOne", "getRawMany", "execute"]
    results := ["getMany", "getOne", "getRawOne", "getRawMany"]
    writes := ["save", "insert", "update", "delete", "remove"] },
  { name := "prisma"
    queries := ["findUnique", "findMany", "findFirst", "create", "update"]
    executions := ["findUnique", "findMany", "findFirst"]
    results := ["findUnique", "findMany", "findFirst"]
    writes := ["create", "update", "delete", "upsert", "createMany"] },
  { name := "sequelize"
    queries := ["findAll", "findOne", "findByPk", "create"]
    executions := ["findAll", "findOne", "findByPk"]
    results := ["findAll", "findOne", "findByPk", "get"]
    writes := ["save", "create", "update", "destroy", "bulkCreate"] },
  { name := "activerecord"
    queries := ["where", "find", "find_by", "all", "first", "last"]
    executions := ["where", "find", "find_by", "all"]
    results := ["first", "last", "take", "pluck"]
    writes := ["save", "create", "update", "destroy", "delete"] }]

def webFrameworks : List WebFramework := [
  { name := "fastapi"
    marks := [["get", "post", "put", "patch", "delete", "api_route"],
      ["Query", "Path", "Body", "Form", "File", "Depends"],
      ["JSONResponse", "Response", "HTMLResponse", "StreamingResponse"],
      ["Depends"]] },
  { name := "flask"
    marks := [["route", "get", "post", "put", "patch", "delete"],
      ["request.args", "request.form", "request.json", "request.data"],
      ["jsonify", "make_response", "Response"]] },
  { name := "django"
    marks := [["request.GET", "request.POST", "request.body", "request.data"],
      ["JsonResponse", "HttpResponse", "HttpResponseRedirect"],
      ["View", "APIView", "ViewSet", "GenericAPIView"]] },
  { name := "spring"
    marks := [["GetMapping", "PostMapping", "PutMapping", "DeleteMapping", "RequestMapping"],
      ["RequestParam", "PathVariable", "RequestBody"],
      ["ResponseEntity"]] },
  { name := "express"
    marks := [["req.query", "req.params", "req.body"],
      ["res.json", "res.send", "res.status"]] },
  { name := "nestjs"
    marks := [["Get", "Post", "Put", "Patch", "Delete"],
      ["Query", "Param", "Body"],
      ["HttpException", "HttpStatus"]] },
  { name := "rails"
    marks := [["params", "params.require", "params.permit"],
      ["render", "redirect_to", "respond_to"],
      ["before_action", "after_action"]] }]

def personalModelWords : List String :=
  ["user", "account", "profile", "member", "customer",
    "person", "employee", "contact", "participant", "subscriber", "client", "patient", "student",
    "auth", "authentication", "credential", "password", "token", "session", "apikey", "api_key",
    "secret", "certificate", "permission", "role", "address", "location", "phone", "email",
    "identity", "document", "payment", "billing", "card", "transaction", "order", "invoice", "scan",
    "analytics", "tracking", "monitoring", "audit", "log", "notification", "message", "comment",
    "feedback", "review", "organization", "organisation", "company", "tenant", "workspace"]

def commonResults : List String :=
  ["scalar_one", "scalar", "scalars", "first", "one", "all",
    "fetchone", "fetchall", "fetchmany", "fetchval", "get", "filter", "values", "values_list",
    "first", "last", "take", "limit", "offset"]

def occursAnyCase (name : String) (texts : List String) : Bool :=
  texts.any fun text => Text.contains (Text.lower text) (Text.lower name)

/-- A mapper is used where two of its names for queries and executions occur. -/
def Mapper.isUsedIn (mapper : Mapper) (texts : List String) : Bool :=
  2 ≤ ((mapper.queries ++ mapper.executions).filter (occursAnyCase · texts)).length

/-- The groups of marks of which one occurs; the framework counts once for each. -/
def WebFramework.groupsIn (framework : WebFramework) (texts : List String) : List (List String) :=
  framework.marks.filter (·.any fun mark => texts.any (Text.contains · mark))

/-- The mappers and frameworks whose names occur in the texts. -/
def detect (texts : List String) : List String :=
  (mappers.filter (·.isUsedIn texts)).map (·.name) ++
    webFrameworks.flatMap fun framework => (framework.groupsIn texts).map fun _ => framework.name

def isPersonalModel (name : String) : Bool :=
  Text.containsAny (Text.lower name) personalModelWords

def resultMethods : List String :=
  Text.sortedDistinct (mappers.flatMap (·.results) ++ commonResults)

def writeMethods : List String := Text.sortedDistinct (mappers.flatMap (·.writes))

end PrivacyScan.Framework
