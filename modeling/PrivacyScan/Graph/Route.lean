import PrivacyScan.Document.Access
import PrivacyScan.Graph.Basic
import PrivacyScan.Pattern.Parser

/-!
Requests and the routes that serve them. A request is a node with an address, a server is a node
with a route, and the two are linked when the path of the address matches the route. There are two
ways to match: by the whole path, or by its end.
-/

namespace PrivacyScan.Route

/-- The path of an address that has a scheme; any other address is a path already. -/
def pathOf (address : String) : String :=
  match Text.cut? address "://" with
  | some (_, rest) =>
    match Text.cut? rest "/" with
    | some (_, path) => "/" ++ path
    | none => "/"
  | none => address

def specialChars : List Char := "()[]\x7b\x7d?*+-|^$\\.&~# \t\n\r\x0b\x0c".toList

def escaped (text : String) : String :=
  String.ofList (text.toList.flatMap fun c => if specialChars.contains c then ['\\', c] else [c])

def anyPart : String := "[^/]+"

def angleParameter : Pattern := .ofText r"\\<[^>]+\\>"

def escapedColonParameter : Pattern := .ofText r"\\:[a-zA-Z0-9_]+"

def colonParameter : Pattern := .ofText r":[a-zA-Z0-9_]+"

/-- Whether an address is served by a route: its path is the route, up to parameters whose marks the
route escapes. -/
def serves (address route : String) : Bool :=
  let path := pathOf address
  if path == route then true
  else
    let angled := angleParameter.replaceAll (fun _ => anyPart) (escaped route)
    let body := escapedColonParameter.replaceAll (fun _ => anyPart) angled
    (Pattern.parse? ("^" ++ body ++ "$")).any fun pattern => (pattern.matchStart? path).isSome

/-- Whether a path ends in a route, where a parameter `:name` stands for one part of the path. -/
def endsIn (path route : String) : Bool :=
  if Text.endsWith path route then true
  else
    let body := colonParameter.replaceAll (fun _ => anyPart)
      (Text.replace (escaped route) "\\:" ":")
    (Pattern.parse? (body ++ "$")).any (·.occursIn path)

abbrev Endpoint := GraphNode × Document

def held? (node : GraphNode) (name : String) : Option Endpoint :=
  ((node.metadata.lookup name).filter (·.isTruthy)).map (node, ·)

/-- The nodes that send a request: sinks with one of these words in their label. -/
def senders (graph : Graph) (words : List String) : List Endpoint :=
  graph.nodes.values.filterMap fun node =>
    if node.type == "sink" && Text.containsAny node.label words then held? node "url" else none

def servers (graph : Graph) : List Endpoint := graph.nodes.values.filterMap (held? · "route")

/-- Adds one edge for each pair that fits, in order, up to a pair that cannot be compared. -/
def linkAll (fits : Document → Document → Outcome Bool)
    (details : Document → Document → List (String × Document)) :
    List (Endpoint × Endpoint) → Graph → Graph × Outcome Unit
  | [], graph => (graph, .ok ())
  | ((sender, address), (server, route)) :: rest, graph =>
    match fits address route with
    | .error fault => (graph, .error fault)
    | .ok false => linkAll fits details rest graph
    | .ok true =>
      linkAll fits details rest (graph.addEdge {
        source := sender.id, target := server.id, type := "network_flow",
          label := some "HTTP Request"
        metadata := ("protocol", .text "http") :: details address route })

def pairs (senders servers : List Endpoint) : List (Endpoint × Endpoint) :=
  senders.flatMap fun sender => servers.map (sender, ·)

/-- A value is searched for the mark of a scheme, and cut where it has one, as only a text can
be. -/
def searchable (address : Document) : Outcome Unit := do
  if ← address.mentions "://" then
    let _ ← address.asText "split"

def servesDocument (address route : Document) : Outcome Bool :=
  match address, route with
  | .text address, .text route => .ok (serves address route)
  | address, route => do
    searchable address
    return address == route

def endsInDocument (address route : Document) : Outcome Bool := do
  searchable address
  match address, route with
  | .text address, .text route => return endsIn (pathOf address) route
  | .text _, other => .error (.notAnEnding other.kind)
  | address, route =>
    if address == route then return true else .error (.noMember address.kind "endswith")

def resolve (graph : Graph) : Graph × Outcome Nat :=
  let senders := senders graph ["fetch", "axios", "requests", "http"]
  let (linked, outcome) := linkAll servesDocument
    (fun address route => [("url", address), ("route", route)])
      (pairs senders (servers graph)) graph
  (linked, outcome.map fun _ => linked.edges.length - graph.edges.length)

def linkByEnd (graph : Graph) : Graph × Outcome Unit :=
  linkAll endsInDocument (fun _ _ => [])
    (pairs (senders graph ["axios", "fetch"]) (servers graph)) graph

end PrivacyScan.Route
