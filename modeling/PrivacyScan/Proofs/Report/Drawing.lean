import PrivacyScan.Proofs.Report.SystemMap
import PrivacyScan.Report.Html.Map

/-!
# The drawing of a map is a closed graph

What the page shows of a map is a list of elements: groups, components and edges. The elements are
read here as a reader of the page would do it, by the names in their data, and the map behind them
is left out of the statements.
-/

namespace PrivacyScan.Report.SystemMap

/-! ## Elements -/

def datum? (name : String) (element : Document) : Option Document :=
  (element.field? "data").bind (·.field? name)

def isGroup (element : Document) : Bool :=
  (datum? "category" element).bind Document.text? == some "group"

def isEdge (element : Document) : Bool := (datum? "source" element).isSome

def isComponent (element : Document) : Bool := !isGroup element && !isEdge element

def isDashed (element : Document) : Bool :=
  (element.field? "classes").bind Document.text? == some " dashed"

def weightOf (element : Document) : Int :=
  match datum? "weight" element with
  | some (.int weight) => weight
  | _ => 0

/-- The elements refer to each other only: ids are distinct, the groups are the four layers, every
component lies in one of them, and every edge leads from a component to a component. -/
structure IsClosedDrawing (elements : List Document) : Prop where
  distinct : (elements.filterMap (datum? "id")).Nodup
  groups : (elements.filter isGroup).map (datum? "id") =
    Layer.all.map fun layer => some (.text layer.group)
  parents : ∀ component ∈ elements, isComponent component = true →
    (datum? "id" component).isSome = true ∧
      ∃ group ∈ elements, isGroup group = true ∧ datum? "parent" component = datum? "id" group
  ends : ∀ edge ∈ elements, isEdge edge = true → ∀ name ∈ ["source", "target"],
    ∃ component ∈ elements, isComponent component = true ∧
      datum? name edge = datum? "id" component

theorem layerElement_reads (layer : Layer) :
    datum? "id" (layerElement layer) = some (.text layer.group) ∧
      isGroup (layerElement layer) = true ∧ isEdge (layerElement layer) = false ∧
      weightOf (layerElement layer) = 0 ∧ isDashed (layerElement layer) = false := by
  simp [layerElement, datum?, isGroup, isEdge, weightOf, isDashed, Document.field?, Document.text?,
    List.lookup_cons]

theorem placeElement_reads (id : String) (place : Place) :
    datum? "id" (placeElement id place) = some (.text id) ∧
      datum? "parent" (placeElement id place) = some (.text place.layer.group) ∧
      isGroup (placeElement id place) = false ∧ isEdge (placeElement id place) = false ∧
      weightOf (placeElement id place) = 0 ∧ isDashed (placeElement id place) = false := by
  obtain ⟨label, isSink, layer, isCritical⟩ := place
  cases layer <;> cases isCritical <;>
    simp [placeElement, datum?, isGroup, isEdge, weightOf, isDashed, Document.field?,
      Document.text?, List.lookup_cons, Layer.name]

/-- What is read off the element of a link. -/
structure IsDrawnAs (link : Link) (element : Document) : Prop where
  id : datum? "id" element = none
  group : isGroup element = false
  source : datum? "source" element = some (.text link.source)
  target : datum? "target" element = some (.text link.target)
  weight : weightOf element = link.count
  dashed : isDashed element = (link.isImplicit && !link.isCritical)

theorem linkElement_isDrawnAs {link : Link} {element : Document}
    (h : linkElement link = .ok element) : IsDrawnAs link element := by
  obtain ⟨label, _, h⟩ := Outcome.bind_eq_ok.mp h
  cases h
  obtain ⟨source, target, count, labels, isCritical, isImplicit⟩ := link
  constructor
  -- only the classes depend on what kind of link it is
  case dashed =>
    cases isCritical <;> cases isImplicit <;>
      simp [isDashed, Document.field?, Document.text?, List.lookup_cons]
  all_goals simp [datum?, isGroup, weightOf, Document.field?, List.lookup_cons]

/-- The elements for the layers, the places and the links of a map. -/
def elementsOf (map : SystemMap) (drawn : List Document) : List Document :=
  Layer.all.map layerElement ++ map.places.map (fun (id, place) => placeElement id place) ++ drawn

section Elements

variable {map : SystemMap} {drawn : List Document} (hdrawn : map.links.mapM linkElement = .ok drawn)

theorem toDocument_eq {document : Document} (h : map.toDocument = .ok document) :
    ∃ drawn, map.links.mapM linkElement = .ok drawn ∧ document = .list (elementsOf map drawn) := by
  obtain ⟨drawn, hdrawn, h⟩ := Outcome.bind_eq_ok.mp h
  exact ⟨drawn, hdrawn, (Except.ok.inj h).symm⟩

theorem layerElement_mem (layer : Layer) : layerElement layer ∈ elementsOf map drawn := by
  refine List.mem_append_left _ (List.mem_append_left _ (List.mem_map_of_mem ?_))
  cases layer <;> decide

theorem placeElement_mem (drawn : List Document) {id : String} (hid : map.places.hasKey id = true) :
    ∃ place, placeElement id place ∈ elementsOf map drawn := by
  obtain ⟨place, hplace⟩ := Option.isSome_iff_exists.mp hid
  refine ⟨place, List.mem_append_left _ (List.mem_append_right _ ?_)⟩
  exact List.mem_map.mpr ⟨(id, place), Table.mem_of_get? hplace, rfl⟩

theorem group_not_isPlaceId (layer : Layer) : ¬ IsPlaceId layer.group := by
  cases layer <;> simp [IsPlaceId, Layer.group, Layer.name]

include hdrawn

/-- An element is that of a layer, of a place or of a link. -/
theorem mem_elementsOf {element : Document} (helement : element ∈ elementsOf map drawn) :
    (∃ layer, element = layerElement layer) ∨
      (∃ entry ∈ map.places, element = placeElement entry.1 entry.2) ∨
      ∃ link ∈ map.links, linkElement link = .ok element := by
  rcases List.mem_append.mp helement with hshown | hlink
  · rcases List.mem_append.mp hshown with hlayer | hplace
    · obtain ⟨layer, _, rfl⟩ := List.mem_map.mp hlayer
      exact .inl ⟨layer, rfl⟩
    · obtain ⟨entry, hentry, rfl⟩ := List.mem_map.mp hplace
      exact .inr (.inl ⟨entry, hentry, rfl⟩)
  · exact .inr (.inr (Outcome.exists_of_mem_mapM hdrawn hlink))

theorem ids_elementsOf :
    (elementsOf map drawn).filterMap (datum? "id") =
      (Layer.all.map (·.group) ++ map.places.keys).map .text := by
  have hnone : drawn.filterMap (datum? "id") = [] :=
    List.filterMap_eq_nil_iff.mpr fun element helement => by
      obtain ⟨link, _, hlink⟩ := Outcome.exists_of_mem_mapM hdrawn helement
      exact (linkElement_isDrawnAs hlink).id
  rw [elementsOf, List.filterMap_append, List.filterMap_append, hnone, List.append_nil,
    List.map_append]
  congr 1
  simp only [List.filterMap_map, Table.keys, List.map_map]
  exact List.filterMap_eq_map_iff_forall_eq_some.mpr fun entry _ =>
    (placeElement_reads entry.1 entry.2).1

/-- The groups of a drawing are the layers, each of them once. -/
theorem groups_elementsOf :
    (elementsOf map drawn).filter isGroup = Layer.all.map layerElement := by
  have hplaces : (map.places.map fun (id, place) => placeElement id place).filter isGroup = [] :=
    List.filter_eq_nil_iff.mpr fun element helement => by
      obtain ⟨entry, _, rfl⟩ := List.mem_map.mp helement
      simp [placeElement_reads]
  have hlinks : drawn.filter isGroup = [] :=
    List.filter_eq_nil_iff.mpr fun element helement => by
      obtain ⟨link, _, hlink⟩ := Outcome.exists_of_mem_mapM hdrawn helement
      simp [(linkElement_isDrawnAs hlink).group]
  have hlayers : (Layer.all.map layerElement).filter isGroup = Layer.all.map layerElement :=
    List.filter_eq_self.mpr fun element helement => by
      obtain ⟨layer, _, rfl⟩ := List.mem_map.mp helement
      exact (layerElement_reads layer).2.1
  rw [elementsOf, List.filter_append, List.filter_append, hplaces, hlinks, hlayers,
    List.append_nil, List.append_nil]

/-- **A closed map is drawn closed**: every link joins two places that are drawn. -/
theorem Closed.drawing (h : map.Closed) : IsClosedDrawing (elementsOf map drawn) where
  distinct := by
    rw [ids_elementsOf hdrawn]
    refine List.Nodup.map (fun _ _ => Document.text.inj) ?_
    refine List.nodup_append.mpr ⟨by decide, h.distinct, ?_⟩
    -- places are files and sinks, so none has the name of a group
    rintro _ hgroup id hid rfl
    obtain ⟨layer, _, rfl⟩ := List.mem_map.mp hgroup
    obtain ⟨entry, hentry, hname⟩ := List.mem_map.mp hid
    exact group_not_isPlaceId layer (hname ▸ h.ids entry hentry)
  groups := by
    rw [groups_elementsOf hdrawn, List.map_map]
    exact List.map_congr_left fun layer _ => (layerElement_reads layer).1
  parents := by
    intro component hcomponent hkind
    rcases mem_elementsOf hdrawn hcomponent with ⟨layer, rfl⟩ | ⟨entry, _, rfl⟩ | ⟨link, _, hlink⟩
    · simp [isComponent, layerElement_reads] at hkind
    · obtain ⟨hid, hparent, _⟩ := placeElement_reads entry.1 entry.2
      obtain ⟨hgroupId, hgroup, _⟩ := layerElement_reads entry.2.layer
      refine ⟨by rw [hid]; rfl, layerElement entry.2.layer, layerElement_mem _, hgroup, ?_⟩
      exact hparent.trans hgroupId.symm
    · simp [isComponent, isEdge, (linkElement_isDrawnAs hlink).source] at hkind
  ends := by
    intro edge hedge hkind name hname
    rcases mem_elementsOf hdrawn hedge with ⟨layer, rfl⟩ | ⟨entry, _, rfl⟩ | ⟨link, hmem, hlink⟩
    · simp [layerElement_reads] at hkind
    · simp [placeElement_reads] at hkind
    · -- the end under either name is a place of the map
      have hend : ∃ id, datum? name edge = some (.text id) ∧ map.places.hasKey id = true := by
        have hdrawnAs := linkElement_isDrawnAs hlink
        obtain ⟨hsourceKey, htargetKey⟩ := h.ends link hmem
        rcases List.mem_pair.mp hname with rfl | rfl
        · exact ⟨link.source, hdrawnAs.source, hsourceKey⟩
        · exact ⟨link.target, hdrawnAs.target, htargetKey⟩
      obtain ⟨id, hdatum, hid⟩ := hend
      obtain ⟨place, hplace⟩ := placeElement_mem drawn hid
      exact ⟨_, hplace, by simp [isComponent, placeElement_reads],
        hdatum.trans (placeElement_reads id place).1.symm⟩

theorem weight_elementsOf :
    ((elementsOf map drawn).map weightOf).sum = total map.links := by
  have hlinks : drawn.map weightOf = map.links.map fun link => (link.count : Int) :=
    Outcome.map_of_mapM (fun link _ {_} hlink => (linkElement_isDrawnAs hlink).weight) hdrawn
  have hlayers : ((Layer.all.map layerElement).map weightOf).sum = 0 := by
    simp [Function.comp_def, layerElement_reads]
  have hplaces :
      ((map.places.map fun (id, place) => placeElement id place).map weightOf).sum = 0 := by
    simp [Function.comp_def, placeElement_reads]
  rw [elementsOf, List.map_append, List.map_append, List.sum_append, List.sum_append, hlinks,
    hlayers, hplaces, total, Nat.cast_list_sum, List.map_map]
  simp [Function.comp_def]

theorem dashed_elementsOf :
    (elementsOf map drawn).countP isDashed =
      map.links.countP fun link => link.isImplicit && !link.isCritical := by
  have hlinks : drawn.map isDashed =
      map.links.map fun link => link.isImplicit && !link.isCritical :=
    Outcome.map_of_mapM (fun link _ {_} hlink => (linkElement_isDrawnAs hlink).dashed) hdrawn
  have hshown : (Layer.all.map layerElement ++
      map.places.map fun (id, place) => placeElement id place).countP isDashed = 0 := by
    simp [List.countP_eq_zero, layerElement_reads, placeElement_reads]
  have hcount {α : Type} (test : α → Bool) (items : List α) :
      items.countP test = (items.map test).countP id := by
    rw [List.countP_map]
    rfl
  rw [elementsOf, List.countP_append, hshown, Nat.zero_add, hcount, hlinks, ← hcount]

end Elements

/-! ## Surveys -/

/-- The results of a scan with these nodes and edges, at least one of each, and these findings. A
node has an id and an edge has two ends; whether they fit together is left open. -/
structure IsSurvey (results : Document) (nodes edges findings : List Document) : Prop where
  graph : ∃ graph, results.field? "semantic_graph" = some graph ∧
    graph.field? "nodes" = some (.list nodes) ∧ graph.field? "edges" = some (.list edges)
  reported : (results.field? "findings").getD (.list []) = .list findings
  some_node : nodes ≠ []
  some_edge : edges ≠ []
  identified : ∀ node ∈ nodes, (node.field? "id").isSome = true
  ended : ∀ edge ∈ edges,
    (edge.field? "source").isSome = true ∧ (edge.field? "target").isSome = true
  rated : ∀ finding ∈ findings, IsRated finding

def IsTextOrNull (document : Document) : Prop := document = .null ∨ ∃ value, document = .text value

/-- Names, paths and labels are texts wherever they are given. -/
structure IsTyped (nodes edges findings : List Document) : Prop where
  identified : ∀ node ∈ nodes, IsTextOrNull (node.fieldOrNull "id") ∧
    IsTextOrNull (node.fieldOrNull "file_path")
  ended : ∀ edge ∈ edges, IsTextOrNull (edge.fieldOrNull "source") ∧
    IsTextOrNull (edge.fieldOrNull "target") ∧ IsTextOrNull (edge.fieldOrNull "label")
  filed : ∀ finding ∈ findings, IsTextOrNull (finding.fieldOrNull "file_path")

section Surveys

variable {results : Document} {nodes edges findings : List Document}

/-- What has one field is an object, which answers for every name. -/
theorem get_of_field? {document value default : Document} {other name : String}
    (h : document.field? other = some value) :
    document.get name default = .ok ((document.field? name).getD default) := by
  cases document with
  | object fields => rfl
  | _ => cases h

theorem item_of_field? {document value : Document} {name : String}
    (h : document.field? name = some value) : document.item name = .ok value := by
  cases document with
  | object fields => rw [Document.item, show fields.lookup name = some value from h]
  | _ => cases h

theorem isTruthy_list {items : List Document} (h : items ≠ []) :
    (Document.list items).isTruthy = true := by
  cases items with
  | nil => exact absurd rfl h
  | cons item rest => rfl

theorem drawing?_eq (h : IsSurvey results nodes edges findings) :
    drawing? results = (do
      let map ← chart nodes edges findings
      let map ← map.withImplicitLinks
      return some (← map.toDocument)) := by
  obtain ⟨graph, hgraph, hnodes, hedges⟩ := h.graph
  unfold drawing? ofResults? chart
  rw [get_of_field? hgraph, get_of_field? hgraph, hgraph, h.reported]
  simp only [Option.getD_some, Outcome.ok_bind, get_of_field? hnodes, hnodes, hedges,
    isTruthy_list h.some_node, isTruthy_list h.some_edge, Document.elements, bind_assoc, pure_bind,
    Bool.not_true, Bool.or_self, Bool.false_eq_true, if_false]

end Surveys

/-! ## Faults

Which faults can come is settled for single values (`IsReadable`), and the runs over nodes, findings
and edges add none. With one set of faults this says that no key is missing, and with the empty set
that there is a drawing. -/

section Faults

open Outcome

variable {allowed : Fault → Prop} {nodes edges findings : List Document}

/-- A label that can be written between others, but for these faults. -/
def IsJoinable (allowed : Fault → Prop) (label : Document) : Prop :=
  ∀ position, FailsOnly allowed (Document.joinTexts position [label])

/-- Whatever is looked at for the map is there, and all that may come of it is one of these
faults. -/
structure IsReadable (allowed : Fault → Prop) (nodes edges findings : List Document) : Prop where
  node : ∀ node ∈ nodes, ∃ id, node.field? "id" = some id ∧ FailsOnly allowed id.hashable ∧
    ∀ file, (node.field? "file_path").getD (.text "") = file → file.isTruthy = true →
      FailsOnly allowed (filePlace file false)
  edge : ∀ edge ∈ edges, ∃ source target, edge.field? "source" = some source ∧
    edge.field? "target" = some target ∧ FailsOnly allowed source.hashable ∧
    FailsOnly allowed target.hashable
  label : ∀ edge ∈ edges, FailsOnly allowed (edgeLabel? edge) ∧
    ∀ shown, edgeLabel? edge = .ok (some shown) → IsJoinable allowed shown
  finding : ∀ finding ∈ findings, IsRated finding ∧
    ((fileOf finding).isTruthy = true → FailsOnly allowed (filePlace (fileOf finding) true))

theorem ensureFile_failsOnly {file : Document} {isCritical : Bool}
    (h : FailsOnly allowed (filePlace file isCritical)) (places : Table Place) :
    FailsOnly allowed (ensureFile places file isCritical) := by
  unfold ensureFile
  split
  · exact failsOnly_ok places
  · exact h.bind fun _ _ => failsOnly_ok _

section Readable

variable (h : IsReadable allowed nodes edges findings)

include h

theorem sinkTargets_failsOnly : FailsOnly allowed (sinkTargets edges) := by
  refine .foldlM (fun edge hedge targets => ?_) []
  obtain ⟨source, target, hsource, htarget, _, htargetKey⟩ := h.edge edge hedge
  refine failsOnly_ok_bind (get_of_field? hsource) ?_
  split
  · exact failsOnly_ok targets
  · refine failsOnly_ok_bind (item_of_field? htarget) ?_
    exact htargetKey.bind fun _ _ => failsOnly_ok _

/-- Nodes enter a map with no other faults than these. -/
theorem nodes_failsOnly (targets : List Document) (state : Table Place × Owners) :
    FailsOnly allowed (nodes.foldlM (addNode targets) state) := by
  refine .foldlM (fun node hnode state => ?_) state
  obtain ⟨id, hid, hkey, hfile⟩ := h.node node hnode
  obtain ⟨places, owners⟩ := state
  unfold addNode
  refine failsOnly_ok_bind (item_of_field? hid) (hkey.bind fun key _ => ?_)
  dsimp only
  split
  · exact failsOnly_ok _
  · split
    · exact failsOnly_ok _
    · split
      · next htruthy =>
        exact (ensureFile_failsOnly (hfile _ rfl htruthy) places).bind fun _ _ => failsOnly_ok _
      · exact failsOnly_ok _

/-- Findings enter a map with no other faults than these. -/
theorem findings_failsOnly (map : SystemMap) :
    FailsOnly allowed (findings.foldlM addFinding map) := by
  refine .foldlM (fun finding hfinding map => ?_) map
  obtain ⟨⟨severity, rule, file, hseverity, hrule, _⟩, hplace⟩ := h.finding finding hfinding
  unfold addFinding
  refine failsOnly_ok_bind (get_of_field? hseverity) ?_
  rw [hseverity, hrule]
  dsimp only [Option.getD_some]
  refine failsOnly_ok_bind rfl (failsOnly_ok_bind (sinkOf?_eq hrule) ?_)
  split
  · exact failsOnly_ok map
  · split
    · exact failsOnly_ok map
    · next hknown =>
      have htruthy : (fileOf finding).isTruthy = true := by simpa using hknown
      refine (ensureFile_failsOnly (hplace htruthy) _).bind fun _ _ => ?_
      -- a text has a title
      have htitle : FailsOnly allowed (ruleTitle (.text rule)) := by
        unfold ruleTitle
        split <;> exact failsOnly_ok _
      exact htitle.bind fun _ _ => failsOnly_ok _

theorem edges_failsOnly (owners : Owners) (map : SystemMap) :
    FailsOnly allowed (edges.foldlM (addEdge owners) map) := by
  refine .foldlM (fun edge hedge map => ?_) map
  obtain ⟨source, target, hsource, htarget, hsourceKey, htargetKey⟩ := h.edge edge hedge
  unfold addEdge
  refine failsOnly_ok_bind (item_of_field? hsource)
    (failsOnly_ok_bind (item_of_field? htarget) ?_)
  refine hsourceKey.bind fun _ _ => htargetKey.bind fun _ _ => ?_
  split
  · split
    · exact failsOnly_ok map
    · exact (h.label edge hedge).1.bind fun _ _ => failsOnly_ok _
  · exact failsOnly_ok map

theorem chart_failsOnly : FailsOnly allowed (chart nodes edges findings) :=
  (sinkTargets_failsOnly h).bind fun _ _ => (nodes_failsOnly h _ _).bind fun _ _ =>
    (findings_failsOnly h _).bind fun _ _ => edges_failsOnly h _ _

end Readable

theorem joinTexts_failsOnly {labels : List Document}
    (h : ∀ label ∈ labels, IsJoinable allowed label) (position : Nat) :
    FailsOnly allowed (Document.joinTexts position labels) := by
  induction labels generalizing position with
  | nil => exact failsOnly_ok []
  | cons label rest ih =>
    obtain ⟨hlabel, hrest⟩ := List.forall_mem_cons.mp h
    cases label with
    | text value => exact (ih hrest (position + 1)).bind fun _ _ => failsOnly_ok _
    | _ => exact hlabel position -- the first label that is no text ends the run

theorem toDocument_failsOnly {map : SystemMap}
    (h : ∀ link ∈ map.links, ∀ label ∈ link.labels, IsJoinable allowed label) :
    FailsOnly allowed map.toDocument := by
  refine FailsOnly.bind (.mapM fun link hlink => ?_) fun _ _ => failsOnly_ok _
  -- of all that is written about a link, only the joined labels can fail
  refine FailsOnly.bind (FailsOnly.bind ?_ fun _ _ => failsOnly_ok _) fun _ _ => failsOnly_ok _
  refine FailsOnly.bind (joinTexts_failsOnly (fun label hlabel => ?_) 0) fun _ _ => failsOnly_ok _
  exact h link hlink label (List.mem_mergeSort.mp (List.mem_of_mem_take hlabel))

theorem drawing?_failsOnly {results : Document} (hsurvey : IsSurvey results nodes edges findings)
    (h : IsReadable allowed nodes edges findings) : FailsOnly allowed (drawing? results) := by
  rw [drawing?_eq hsurvey]
  refine (chart_failsOnly h).bind fun map hmap => ?_
  -- the labels of links are titles of rules, labels of edges, and one text for implicit links
  have htexts (text : String) : IsJoinable allowed (.text text) := fun _ => failsOnly_ok _
  obtain ⟨hsound, hlabels, _⟩ := chart_spec (IsJoinable allowed) hsurvey.rated htexts
    (fun edge hedge => (h.label edge hedge).2) hmap
  obtain ⟨implied, himplied, hall⟩ := withImplicitLinks_eq hsound.toClosed
  refine failsOnly_ok_bind himplied (.bind ?_ fun _ _ => failsOnly_ok _)
  refine toDocument_failsOnly fun link hlink label hlabel => ?_
  rcases List.mem_append.mp hlink with hold | hnew
  · exact hlabels link hold label hlabel
  · rw [(hall link hnew).labels, List.mem_singleton] at hlabel
    exact hlabel ▸ htexts _

/-- Among these are the faults of values of a wrong kind. -/
structure AdmitsWrongKinds (allowed : Fault → Prop) : Prop where
  hashed : ∀ kind, allowed (.notHashable kind)
  path : ∀ kind, allowed (.notAPath kind)
  joined : ∀ position kind, allowed (.joinedNonText position kind)

section Kinds

variable {document : Document} (h : IsTextOrNull document ∨ AdmitsWrongKinds allowed)

include h

theorem hashable_failsOnly : FailsOnly allowed document.hashable := by
  rcases h with (rfl | ⟨value, rfl⟩) | h
  · exact failsOnly_ok _
  · exact failsOnly_ok _
  · cases document with
    | list items => exact failsOnly_error (h.hashed .list)
    | object fields => exact failsOnly_error (h.hashed .object)
    | _ => exact failsOnly_ok _

theorem filePlace_failsOnly (htruthy : document.isTruthy = true) (isCritical : Bool) :
    FailsOnly allowed (filePlace document isCritical) := by
  rcases h with (rfl | ⟨path, rfl⟩) | h
  · cases htruthy
  · exact failsOnly_ok _
  · cases document with
    | text path => exact failsOnly_ok _
    | _ => exact failsOnly_error (h.path _)

theorem isJoinable (htruthy : document.isTruthy = true) : IsJoinable allowed document := by
  intro position
  rcases h with (rfl | ⟨value, rfl⟩) | h
  · cases htruthy
  · exact failsOnly_ok _
  · cases document with
    | text value => exact failsOnly_ok _
    | _ => exact failsOnly_error (h.joined position _)

end Kinds

theorem edgeLabel?_failsOnly {edge : Document}
    (h : FailsOnly allowed (edge.fieldOrNull "label").hashable) :
    FailsOnly allowed (edgeLabel? edge) := by
  unfold edgeLabel?
  dsimp only
  split
  · exact h.map
  · exact failsOnly_ok none

theorem fieldOrNull_of_field? {document value : Document} {name : String}
    (h : document.field? name = some value) : document.fieldOrNull name = value := by
  rw [Document.fieldOrNull, h, Option.getD_some]

/-- **A survey can be read** but for values of a wrong kind, and without a fault where there are
none. -/
theorem IsSurvey.isReadable {results : Document} (h : IsSurvey results nodes edges findings)
    (hkinds : IsTyped nodes edges findings ∨ AdmitsWrongKinds allowed) :
    IsReadable allowed nodes edges findings where
  node := by
    intro node hnode
    obtain ⟨id, hid⟩ := Option.isSome_iff_exists.mp (h.identified node hnode)
    refine ⟨id, hid, hashable_failsOnly (hkinds.imp_left fun htyped => ?_), ?_⟩
    · exact fieldOrNull_of_field? hid ▸ (htyped.identified node hnode).1
    · rintro _ rfl htruthy
      refine filePlace_failsOnly (hkinds.imp_left fun htyped => ?_) htruthy false
      have hpath := (htyped.identified node hnode).2
      unfold Document.fieldOrNull at hpath
      -- a node without a path is drawn as if its path were empty
      cases hfile : node.field? "file_path" with
      | none => exact .inr ⟨"", rfl⟩
      | some file => rwa [hfile] at hpath
  edge := by
    intro edge hedge
    obtain ⟨hsource, htarget⟩ := h.ended edge hedge
    obtain ⟨source, hsource⟩ := Option.isSome_iff_exists.mp hsource
    obtain ⟨target, htarget⟩ := Option.isSome_iff_exists.mp htarget
    refine ⟨source, target, hsource, htarget, hashable_failsOnly (hkinds.imp_left fun htyped => ?_),
      hashable_failsOnly (hkinds.imp_left fun htyped => ?_)⟩
    · exact fieldOrNull_of_field? hsource ▸ (htyped.ended edge hedge).1
    · exact fieldOrNull_of_field? htarget ▸ (htyped.ended edge hedge).2.1
  label := by
    intro edge hedge
    have hlabel := hkinds.imp_left fun htyped => (htyped.ended edge hedge).2.2
    refine ⟨edgeLabel?_failsOnly (hashable_failsOnly hlabel), fun shown hshown => ?_⟩
    obtain ⟨rfl, htruthy⟩ := eq_of_edgeLabel? hshown
    exact isJoinable hlabel htruthy
  finding := by
    intro finding hfinding
    have hrated := h.rated finding hfinding
    refine ⟨hrated, fun htruthy => ?_⟩
    refine filePlace_failsOnly (hkinds.imp_left fun htyped => ?_) htruthy true
    obtain ⟨_, _, file, _, _, hfile⟩ := hrated
    unfold fileOf
    dsimp only
    split
    · exact .inr ⟨file, fieldOrNull_of_field? hfile⟩
    · exact htyped.filed finding hfinding

end Faults

/-! ## The drawing of a survey -/

section Survey

variable {results : Document} {nodes edges findings : List Document}

/-- What there is of a drawing is closed, and its weights are accounted for. -/
theorem drawing_of_survey (h : IsSurvey results nodes edges findings) {drawing : Option Document}
    (hdrawing : drawing? results = .ok drawing) :
    ∃ elements, drawing = some (.list elements) ∧ IsClosedDrawing elements ∧
      (elements.map weightOf).sum = edges.countP (joinsOwners (ownersOf nodes edges)) +
        findings.countP infersSink + elements.countP isDashed := by
  rw [drawing?_eq h] at hdrawing
  obtain ⟨map, hmap, hdrawing⟩ := Outcome.bind_eq_ok.mp hdrawing
  obtain ⟨hsound, _, htotal⟩ := chart_spec (fun _ => True) h.rated (by simp) (by simp) hmap
  obtain ⟨implied, himplied, hall⟩ := withImplicitLinks_eq hsound.toClosed
  obtain ⟨closed, hclosed, hdrawing⟩ := Outcome.bind_eq_ok.mp hdrawing
  obtain rfl := Except.ok.inj (himplied.symm.trans hclosed)
  obtain ⟨document, hdocument, hdrawing⟩ := Outcome.bind_eq_ok.mp hdrawing
  cases hdrawing
  obtain ⟨drawn, hdrawn, rfl⟩ := toDocument_eq hdocument
  refine ⟨_, rfl, (hsound.append hall).drawing hdrawn, ?_⟩
  rw [weight_elementsOf hdrawn, dashed_elementsOf hdrawn, hsound.total_append hall, htotal]
  push_cast
  rfl

theorem mapPart_failsOnly {allowed : Fault → Prop}
    (h : Outcome.FailsOnly allowed (drawing? results)) :
    Outcome.FailsOnly allowed (Html.mapPart results) := by
  refine h.bind fun drawing _ => ?_
  cases drawing with
  | none => exact Outcome.failsOnly_ok _
  | some elements => exact Outcome.failsOnly_ok _

/-- **The map on the page is a closed graph.** No key is missing for it. Whatever is drawn refers to
what is drawn, and the weights add up to the edges between two owners, the findings that tell of a
sink and the implicit edges. Where names, paths and labels are texts, there is a drawing. -/
theorem mapPart_is_closed_graph (h : IsSurvey results nodes edges findings) :
    (∀ key, Html.mapPart results ≠ .error (.missingKey key)) ∧
      (∀ part, Html.mapPart results = .ok part →
        ∃ elements, drawing? results = .ok (some (.list elements)) ∧
          part = Html.mapSection (.list elements) ∧ IsClosedDrawing elements ∧
          (elements.map weightOf).sum = edges.countP (joinsOwners (ownersOf nodes edges)) +
            findings.countP infersSink + elements.countP isDashed) ∧
      (IsTyped nodes edges findings → Outcome.Completes (Html.mapPart results)) := by
  refine ⟨?finds, ?closed, ?completes⟩
  case finds =>
    intro key hkey
    have hreadable :
        IsReadable (fun fault => ∀ key, fault ≠ .missingKey key) nodes edges findings :=
      h.isReadable (.inr ⟨nofun, nofun, nofun⟩)
    exact mapPart_failsOnly (drawing?_failsOnly h hreadable) _ hkey key rfl
  case closed =>
    intro part hpart
    obtain ⟨drawing, hdrawing, hpart⟩ := Outcome.bind_eq_ok.mp hpart
    obtain ⟨elements, rfl, hclosed, hweights⟩ := drawing_of_survey h hdrawing
    exact ⟨elements, hdrawing, (Except.ok.inj hpart).symm, hclosed, hweights⟩
  case completes =>
    intro htyped
    have hreadable : IsReadable (fun _ => False) nodes edges findings := h.isReadable (.inl htyped)
    exact Outcome.completes_iff_failsOnly.mpr
      (mapPart_failsOnly (drawing?_failsOnly h hreadable))

end Survey

/-- A form without a link to the code behind it, a value that this code hands to a sink, and an edge
to a node that is nowhere. -/
def formNodes : List Document := [
  .object [("id", .text "form"), ("type", .text "file"), ("label", .text "Form"),
    ("file_path", .text "web/form.py")],
  .object [("id", .text "email"), ("file_path", .text "core/app.py")],
  .object [("id", .text "store"), ("label", .text "store")]]

def formEdges : List Document := [
  .object [("source", .text "email"), ("target", .text "store"), ("label", .text "sink")],
  .object [("source", .text "form"), ("target", .text "nowhere")]]

def formFindings : List Document := [
  .object [("severity", .text "high"), ("rule", .text "PRINT_PII"), ("file", .text "core/app.py")]]

def formResults : Document :=
  .object [("semantic_graph", .object [("nodes", .list formNodes), ("edges", .list formEdges)]),
    ("findings", .list formFindings)]

theorem formResults_isSurvey : IsSurvey formResults formNodes formEdges formFindings where
  graph := ⟨_, rfl, rfl, rfl⟩
  reported := rfl
  some_node := by simp [formNodes]
  some_edge := by simp [formEdges]
  identified := by simp [formNodes, Document.field?]
  ended := by simp [formEdges, Document.field?, List.lookup_cons]
  rated := by
    refine List.forall_mem_singleton.mpr ⟨"high", "PRINT_PII", "core/app.py", ?_⟩
    simp [Document.field?, List.lookup_cons]

theorem formResults_isTyped : IsTyped formNodes formEdges formFindings where
  identified := by
    simp [formNodes, IsTextOrNull, Document.fieldOrNull, Document.field?, List.lookup_cons]
  ended := by
    simp [formEdges, IsTextOrNull, Document.fieldOrNull, Document.field?, List.lookup_cons]
  filed := by
    simp [formFindings, IsTextOrNull, Document.fieldOrNull, Document.field?, List.lookup_cons]

theorem formResults_drawing : IsSurvey formResults formNodes formEdges formFindings ∧
    IsTyped formNodes formEdges formFindings ∧
    ∃ elements, drawing? formResults = .ok (some (.list elements)) ∧ IsClosedDrawing elements ∧
      (elements.map weightOf).sum = 1 + 1 + elements.countP isDashed := by
  refine ⟨formResults_isSurvey, formResults_isTyped, ?_⟩
  obtain ⟨_, hclosed, hcompletes⟩ := mapPart_is_closed_graph formResults_isSurvey
  obtain ⟨part, hpart⟩ := hcompletes formResults_isTyped
  obtain ⟨elements, hdrawing, _, hclosed, hweights⟩ := hclosed part hpart
  -- the edge to the sink counts, the one to nowhere does not, and the finding tells of a sink
  have hedges : formEdges.countP (joinsOwners (ownersOf formNodes formEdges)) = 1 := by
    decide +kernel
  have hfindings : formFindings.countP infersSink = 1 := by decide +kernel
  rw [hedges, hfindings] at hweights
  exact ⟨elements, hdrawing, hclosed, hweights⟩

end PrivacyScan.Report.SystemMap
