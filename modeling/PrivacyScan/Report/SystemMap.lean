import PrivacyScan.Document.Shown
import PrivacyScan.Path
import PrivacyScan.Report.RuleTitle
import PrivacyScan.Table

/-!
The map of a system: its files and sinks as places in four layers, and the links along which data
goes from place to place. The nodes of a project's graph belong to places, its edges become links
between the places of their ends, and findings add the sinks that their rules tell of.
-/

namespace PrivacyScan.Report

inductive Layer where
  | input
  | processing
  | sink
  | external
deriving Repr, DecidableEq

namespace Layer

def all : List Layer := [.input, .processing, .sink, .external]

def name : Layer → String
  | input => "input"
  | processing => "processing"
  | sink => "sink"
  | external => "external"

def title : Layer → String
  | input => "1. Input / Frontend"
  | processing => "2. Processing / Backend"
  | sink => "3. Data Sinks"
  | external => "4. External Services"

def group (layer : Layer) : String := "group_" ++ layer.name

def ofSink (label : String) : Layer :=
  if Text.containsAny (Text.lower label)
      ["api", "http", "request", "fetch", "axios", "external", "stripe", "aws"] then external
  else sink

def ofFile (path : String) : Layer :=
  let has (words : List String) : Bool := Text.containsAny (Text.lower path) words
  if has ["frontend", "client", "ui", "web", "view", "template", "html", "form", "page", "screen",
      "cli", "argparse", "input", "stdin"] then input
  else if has ["external", "thirdparty", "lib", "requests", "node_modules"] then external
  else processing

end Layer

structure Place where
  label : Document
  isSink : Bool
  layer : Layer
  isCritical : Bool

/-- All that goes from one place to another. The labels are a set. -/
structure Link where
  source : String
  target : String
  count : Nat := 0
  labels : List Document := []
  isCritical : Bool := false
  isImplicit : Bool := false

def Link.add (link : Link) (label : Option Document) : Link :=
  let fresh := label.toList.filter fun label => !link.labels.contains label
  { link with count := link.count + 1, labels := link.labels ++ fresh }

structure SystemMap where
  places : Table Place := []
  links : List Link := []

namespace SystemMap

/-- Which place a node belongs to, the newest node first. -/
abbrev Owners := List (Document × String)

def fileId (file : Document) : String := "file_" ++ file.shown

/-- The place of a file that is known by its path only. -/
def filePlace (file : Document) (isCritical : Bool) : Outcome Place :=
  match file with
  | .text path =>
    .ok { label := .text (Path.ofText path).name, isSink := false, layer := Layer.ofFile path
          isCritical }
  | other => .error (.notAPath other.kind)

def ensureFile (places : Table Place) (file : Document) (isCritical : Bool) :
    Outcome (Table Place) := do
  if places.hasKey (fileId file) then return places
  return places.set (fileId file) (← filePlace file isCritical)

def sinkTargets (edges : List Document) : Outcome (List Document) :=
  edges.foldlM (fun targets edge => do
    let label ← edge.get "label"
    if label != .text "sink" then return targets
    let target ← edge.item "target"
    return targets ++ [← target.hashable]) []

/-- Enters the place of a node: a sink has one of its own, and any other node belongs to its file. A
node without a file belongs nowhere. -/
def addNode (targets : List Document) (state : Table Place × Owners) (node : Document) :
    Outcome (Table Place × Owners) := do
  let (places, owners) := state
  let id ← (← node.item "id").hashable
  let type := (node.field? "type").getD (.text "unknown")
  let label := (node.field? "label").getD (.text "")
  let file := (node.field? "file_path").getD (.text "")
  if type == .text "sink" || targets.contains id then
    let sinkId := "sink_" ++ label.shown
    let place : Place :=
      { label, isSink := true, layer := Layer.ofSink label.shown, isCritical := false }
    return (places.set sinkId place, (id, sinkId) :: owners)
  else if type == .text "file" then
    let place : Place :=
      { label, isSink := false, layer := Layer.ofFile file.shown, isCritical := false }
    return (places.set (fileId file) place, (id, fileId file) :: owners)
  else if file.isTruthy then
    return (← ensureFile places file false, (id, fileId file) :: owners)
  else
    return state

def connect (first : Link) (label : Option Document) : List Link → List Link
  | [] => [first.add label]
  | link :: rest =>
    if link.source == first.source && link.target == first.target then link.add label :: rest
    else link :: connect first label rest

/-- Where data goes by a finding, told by words in the name of its rule. -/
structure InferredSink where
  words : List String
  label : String
  layer : Layer := .sink
deriving Repr

def inferredSinks : List InferredSink := [
  { words := ["PRINT_PII", "LOG"], label := "Logs / Console" },
  { words := ["DB_", "SQL_"], label := "Database" },
  { words := ["XSS"], label := "Web Browser", layer := .external },
  { words := ["COMMAND_"], label := "OS Shell" },
  { words := ["NETWORK", "API"], label := "External Network", layer := .external },
  { words := ["HARDCODED_SECRET"], label := "Source Code (Leak)" }]

def inferredSink? (rule : Document) : Outcome (Option InferredSink) :=
  inferredSinks.findM? fun inferred => inferred.words.anyM rule.mentions

def InferredSink.id (inferred : InferredSink) : String :=
  "sink_inferred_" ++ Text.replace inferred.label " " "_"

/-- The file of a finding, which may be given under either of two names. -/
def fileOf (finding : Document) : Document :=
  let file := finding.fieldOrNull "file"
  if file.isTruthy then file else finding.fieldOrNull "file_path"

/-- Links the file of a finding with the sink that its rule tells of. -/
def addFinding (map : SystemMap) (finding : Document) : Outcome SystemMap := do
  let severity ← finding.get "severity" (.text "low")
  let _ ← severity.asText "lower"
  let rule := (finding.field? "rule").getD (.text "")
  let file := fileOf finding
  match ← inferredSink? rule with
  | none => return map
  | some inferred =>
    if !file.isTruthy then return map
    let places := map.places.setNew inferred.id
      { label := .text inferred.label, isSink := true, layer := inferred.layer, isCritical := true }
    let places ← ensureFile places file true
    let first : Link := { source := fileId file, target := inferred.id, isCritical := true }
    return { places, links := connect first (some (.text (← ruleTitle rule))) map.links }

def edgeLabel? (edge : Document) : Outcome (Option Document) :=
  let label := edge.fieldOrNull "label"
  if label.isTruthy then some <$> label.hashable else .ok none

/-- Links the places of the two ends of an edge, when they are two places. -/
def addEdge (owners : Owners) (map : SystemMap) (edge : Document) : Outcome SystemMap := do
  let source ← edge.item "source"
  let target ← edge.item "target"
  let source ← source.hashable
  let target ← target.hashable
  match owners.lookup source, owners.lookup target with
  | some sourceId, some targetId =>
    if sourceId == targetId then return map
    let first : Link := { source := sourceId, target := targetId }
    return { map with links := connect first (← edgeLabel? edge) map.links }
  | _, _ => return map

def idsIn (map : SystemMap) (layer : Layer) : List String :=
  (map.places.filter fun (_, place) => place.layer == layer).map (·.1)

def layerOf (map : SystemMap) (id : String) : Outcome Layer :=
  match map.places.get? id with
  | some place => .ok place.layer
  | none => .error (.missingKey id)

def joinsInputs (map : SystemMap) : Outcome Bool :=
  map.links.anyM fun link => do
    let source ← map.layerOf link.source
    let target ← map.layerOf link.target
    return source == .input && target == .processing

/-- Links all inputs with the place that looks most like the entry of the processing. -/
def linkInputs (map : SystemMap) : SystemMap :=
  match map.idsIn .processing with
  | [] => map
  | first :: rest =>
    let isEntry (id : String) : Bool :=
      Text.containsAny (Text.lower id) ["app", "server", "main", "api"]
    let target := ((first :: rest).find? isEntry).getD first
    { map with links := map.links ++ (map.idsIn .input).map fun source =>
        { source, target, count := 1, labels := [.text "Implicit Flow"], isImplicit := true } }

/-- The inputs are linked with the processing where no link leads there already. -/
def withImplicitLinks (map : SystemMap) : Outcome SystemMap := do
  return if ← map.joinsInputs then map else map.linkInputs

/-- The map for the results of a scan; there is none without nodes or without edges. -/
def ofResults? (results : Document) : Outcome (Option SystemMap) := do
  let graph ← results.get "semantic_graph" (.object [])
  let nodes ← graph.get "nodes" (.list [])
  let edges ← graph.get "edges" (.list [])
  let findings ← results.get "findings" (.list [])
  if !nodes.isTruthy || !edges.isTruthy then return none
  let edges ← edges.elements
  let targets ← sinkTargets edges
  let nodes ← nodes.elements
  let (places, owners) ← nodes.foldlM (addNode targets) ([], [])
  let findings ← findings.elements
  let map ← findings.foldlM addFinding { places }
  let map ← edges.foldlM (addEdge owners) map
  return some (← map.withImplicitLinks)

def layerElement (layer : Layer) : Document :=
  .object [("data", .object [("id", .text layer.group), ("label", .text layer.title),
    ("category", .text "group")])]

def placeElement (id : String) (place : Place) : Document :=
  .object [
    ("data", .object [("id", .text id), ("label", place.label),
      ("parent", .text place.layer.group), ("category", .text place.layer.name),
      ("type", .text (if place.isSink then "sink" else "component")),
      ("critical", .bool place.isCritical)]),
    ("classes", .text (if place.isCritical then "critical" else ""))]

def linkLabel (link : Link) : Outcome String := do
  let sorted := link.labels.mergeSort fun left right => left.shown ≤ right.shown
  let shown ← (Document.list (sorted.take 2)).joined ", "
  return if sorted.length > 2 then shown ++ "..." else shown

def linkElement (link : Link) : Outcome Document := do
  return .object [
    ("data", .object [("source", .text link.source), ("target", .text link.target),
      ("weight", .int link.count), ("label", .text (← linkLabel link)),
      ("critical", .bool link.isCritical)]),
    ("classes", .text ((if link.isCritical then "critical" else "") ++
      (if link.isImplicit then " dashed" else "")))]

def toDocument (map : SystemMap) : Outcome Document := do
  return .list (Layer.all.map layerElement ++
    map.places.map (fun (id, place) => placeElement id place) ++
    (← map.links.mapM linkElement))

/-- The drawing for the results of a scan; there is none without nodes or without edges. -/
def drawing? (results : Document) : Outcome (Option Document) := do
  match ← ofResults? results with
  | none => return none
  | some map => return some (← map.toDocument)

end SystemMap

end PrivacyScan.Report
