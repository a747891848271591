import PrivacyScan.Graph.Route
import PrivacyScan.Project.FlowGraph
import PrivacyScan.Proofs.Findings
import PrivacyScan.Proofs.Table

/-!
# Graphs that only grow

All that writes to a graph goes through two operations, one for nodes and one for edges. From a
well-formed graph, each of them leads to a well-formed graph with the old nodes and edges first:

* **`linkAll_grows`**, **`addFlows_grows`**, **`addSymbols_grows`** — the loops over pairs of nodes,
  flows and symbols, also those that a fault breaks off.
-/

namespace PrivacyScan.Graph

open Project (addFlow addFlows addSymbol addSymbols)
open Taint (FlowEdge)

variable {graph : Graph}

/-- The names that are kept beside the nodes are those of the nodes, every node stands under its own
name and no name is there twice, and every edge has its two ends. -/
structure WellFormed (graph : Graph) : Prop where
  ids (id : String) : id ∈ graph.ids ↔ id ∈ graph.nodes.keys
  distinct : graph.nodes.keys.Nodup
  named : ∀ entry ∈ graph.nodes, entry.2.id = entry.1
  ends : ∀ edge ∈ graph.edges, edge.source ∈ graph.nodes.keys ∧ edge.target ∈ graph.nodes.keys

/-- The old nodes and edges come first, unchanged and in their order. -/
structure Extends (before after : Graph) : Prop where
  nodes : before.nodes <+: after.nodes
  edges : before.edges <+: after.edges

namespace Extends

theorem refl (graph : Graph) : Extends graph graph := ⟨List.prefix_rfl, List.prefix_rfl⟩

theorem trans {first second third : Graph} (h : Extends first second) (h' : Extends second third) :
    Extends first third :=
  ⟨h.nodes.trans h'.nodes, h.edges.trans h'.edges⟩

end Extends

/-- A well-formed graph becomes a well-formed graph that extends it. -/
structure Grows (before after : Graph) : Prop where
  keeps : before.WellFormed → after.WellFormed ∧ before.Extends after

namespace Grows

theorem refl (graph : Graph) : Grows graph graph := ⟨fun h => ⟨h, .refl graph⟩⟩

theorem trans {first second third : Graph} (h : Grows first second) (h' : Grows second third) :
    Grows first third := by
  constructor
  intro hfirst
  obtain ⟨hsecond, hextends⟩ := h.keeps hfirst
  obtain ⟨hthird, hextends'⟩ := h'.keeps hsecond
  exact ⟨hthird, hextends.trans hextends'⟩

end Grows

/-! ## Nodes and edges -/

theorem addNode_nodes (h : graph.WellFormed) {node : GraphNode} (hnew : node.id ∉ graph.ids) :
    (graph.addNode node).nodes = graph.nodes ++ [(node.id, node)] := by
  have hcontains : ¬ graph.ids.contains node.id = true := by simpa using hnew
  rw [addNode, if_neg hcontains]
  exact Table.set_eq_append (fun hkey => hnew ((h.ids node.id).mpr hkey)) node

theorem addNode_eq_self {node : GraphNode} (hold : node.id ∈ graph.ids) :
    graph.addNode node = graph := by
  rw [addNode, if_pos]
  simpa using hold

theorem mem_addNode_ids {id : String} {node : GraphNode} :
    id ∈ (graph.addNode node).ids ↔ id = node.id ∨ id ∈ graph.ids := by
  by_cases hold : node.id ∈ graph.ids
  · rw [addNode_eq_self hold]
    constructor
    · exact .inr
    · rintro (rfl | hid)
      · exact hold
      · exact hid
  · have hcontains : ¬ graph.ids.contains node.id = true := by simpa using hold
    rw [addNode, if_neg hcontains]
    exact List.mem_cons

theorem addNode_edges (graph : Graph) (node : GraphNode) :
    (graph.addNode node).edges = graph.edges := by
  unfold addNode
  split <;> rfl

/-- **Adding a node** keeps what is there: a node whose name is taken is left out, any other comes
last. -/
theorem addNode_grows (graph : Graph) (node : GraphNode) : Grows graph (graph.addNode node) := by
  by_cases hold : node.id ∈ graph.ids
  · rw [addNode_eq_self hold]
    exact .refl graph
  · constructor
    intro h
    have hnodes := addNode_nodes h hold
    have hkeys : (graph.addNode node).nodes.keys = graph.nodes.keys ++ [node.id] := by
      rw [hnodes]
      exact List.map_append
    have hedges := addNode_edges graph node
    refine ⟨⟨fun id => ?ids, ?distinct, fun entry hentry => ?named, fun edge hedge => ?ends⟩, ?_⟩
    case ids =>
      rw [mem_addNode_ids, hkeys, List.mem_append, List.mem_singleton, h.ids, or_comm]
    case distinct =>
      rw [hkeys, List.nodup_append]
      refine ⟨h.distinct, List.pairwise_singleton .., fun id hid other hother => ?_⟩
      -- the new name is none of the old ones
      rw [List.mem_singleton.mp hother]
      intro heq
      exact hold ((h.ids node.id).mpr (heq ▸ hid))
    case named =>
      rw [hnodes] at hentry
      rcases List.mem_append.mp hentry with hentry | hentry
      · exact h.named entry hentry
      · rw [List.mem_singleton.mp hentry]
    case ends =>
      rw [hedges] at hedge
      obtain ⟨hsource, htarget⟩ := h.ends edge hedge
      rw [hkeys]
      exact ⟨List.mem_append_left _ hsource, List.mem_append_left _ htarget⟩
    · refine ⟨?_, ?_⟩
      · rw [hnodes]
        exact List.prefix_append ..
      · exact hedges ▸ List.prefix_rfl

/-- **Adding an edge** keeps what is there, and its ends are nodes, if only placeholders. -/
theorem addEdge_grows (graph : Graph) (edge : GraphEdge) : Grows graph (graph.addEdge edge) := by
  constructor
  intro h
  let withEnds := (graph.addNode (placeholder edge.source)).addNode (placeholder edge.target)
  obtain ⟨hends, hextends⟩ : withEnds.WellFormed ∧ graph.Extends withEnds :=
    ((addNode_grows _ _).trans (addNode_grows _ _)).keeps h
  have hsource : edge.source ∈ withEnds.nodes.keys :=
    (hends.ids _).mp (mem_addNode_ids.mpr (.inr (mem_addNode_ids.mpr (.inl rfl))))
  have htarget : edge.target ∈ withEnds.nodes.keys :=
    (hends.ids _).mp (mem_addNode_ids.mpr (.inl rfl))
  refine ⟨⟨hends.ids, hends.distinct, hends.named, fun other hother => ?_⟩, hextends.nodes, ?_⟩
  · rcases List.mem_append.mp hother with hother | hother
    · exact hends.ends other hother
    · rw [List.mem_singleton.mp hother]
      exact ⟨hsource, htarget⟩
  · exact hextends.edges.trans (List.prefix_append withEnds.edges [edge])

/-! ## Loops

Each loop adds nodes and edges one after the other. Those that can fail leave behind the graph that
they have come to. -/

/-- Links are added until a pair cannot be compared, and none is taken back. -/
theorem linkAll_grows (fits : Document → Document → Outcome Bool)
    (details : Document → Document → List (String × Document))
    (pairs : List (Route.Endpoint × Route.Endpoint)) (graph : Graph) :
    Grows graph (Route.linkAll fits details pairs graph).1 := by
  induction pairs generalizing graph with
  | nil => exact .refl graph
  | cons pair rest ih =>
    obtain ⟨⟨sender, address⟩, ⟨server, route⟩⟩ := pair
    rw [Route.linkAll]
    split
    · exact .refl graph
    · exact ih graph
    · exact (addEdge_grows ..).trans (ih _)

theorem addFlow_grows {root file : Path} {flow : FlowEdge} {larger : Graph}
    (h : addFlow root file graph flow = .ok larger) : Grows graph larger := by
  unfold addFlow at h
  split at h
  · cases h
  · cases h
    exact ((addNode_grows ..).trans (addNode_grows ..)).trans (addEdge_grows ..)

/-- The flows up to the first without a source are added. -/
theorem addFlows_grows (root file : Path) (flows : List FlowEdge) (graph : Graph) :
    Grows graph (addFlows root file flows graph).1 := by
  induction flows generalizing graph with
  | nil => exact .refl graph
  | cons flow rest ih =>
    rw [addFlows]
    split
    · next hflow => exact (addFlow_grows hflow).trans (ih _)
    · exact .refl graph

/-- The node of a file is added only where it is asked for. -/
theorem addNodeUnless_grows {condition : Prop} [Decidable condition] (graph : Graph)
    (node : GraphNode) : Grows graph (if condition then graph else graph.addNode node) := by
  split
  · exact .refl graph
  · exact addNode_grows ..

theorem addSymbol_grows (root : Path) (graph : Graph) (symbol : Symbol) :
    Grows graph (addSymbol root graph symbol) := by
  unfold addSymbol
  exact ((addNode_grows ..).trans (addNodeUnless_grows ..)).trans (addEdge_grows ..)

theorem addSymbols_grows (root : Path) (symbols : Symbols) (graph : Graph) :
    Grows graph (addSymbols root symbols graph) :=
  foldl_relates Grows .refl .trans (fun symbol _ graph => addSymbol_grows root graph symbol) graph

/-! ## Sequences of operations -/

/-- All that is done to the graph of a project. -/
inductive Operation where
  | addNode (node : GraphNode)
  | addEdge (edge : GraphEdge)
  | linkByEnd
  | resolve
  | addFlows (root file : Path) (flows : List FlowEdge)
  | addSymbols (root : Path) (symbols : Symbols)

/-- The graph that an operation leaves behind, also when it fails. -/
def perform (graph : Graph) : Operation → Graph
  | .addNode node => graph.addNode node
  | .addEdge edge => graph.addEdge edge
  | .linkByEnd => (Route.linkByEnd graph).1
  | .resolve => (Route.resolve graph).1
  | .addFlows root file flows => (addFlows root file flows graph).1
  | .addSymbols root symbols => addSymbols root symbols graph

def run (graph : Graph) (operations : List Operation) : Graph := operations.foldl perform graph

/-- **Every operation only adds to a graph.** -/
theorem perform_grows (graph : Graph) (operation : Operation) :
    Grows graph (graph.perform operation) := by
  cases operation with
  | addNode node => exact addNode_grows ..
  | addEdge edge => exact addEdge_grows ..
  | linkByEnd => exact linkAll_grows ..
  | resolve => exact linkAll_grows ..
  | addFlows root file flows => exact addFlows_grows ..
  | addSymbols root symbols => exact addSymbols_grows ..

/-- **Every sequence of operations lets a graph grow.** -/
theorem run_grows (graph : Graph) (operations : List Operation) :
    Grows graph (graph.run operations) :=
  foldl_relates Grows .refl .trans (fun operation _ graph => perform_grows graph operation) graph

theorem empty_wellFormed : WellFormed {} where
  ids id := Iff.rfl
  distinct := List.nodup_nil
  named := by simp
  ends := by simp

/-! ## The record of a graph -/

/-- The record lists nodes with different names, and edges only between listed nodes. -/
def ListsEndsOnce (document : Document) : Prop :=
  ∃ nodes edges, document = .object [("nodes", .list nodes), ("edges", .list edges)] ∧
    (nodes.map (·.field? "id")).Nodup ∧
    ∀ edge ∈ edges, edge.field? "source" ∈ nodes.map (·.field? "id") ∧
      edge.field? "target" ∈ nodes.map (·.field? "id")

theorem WellFormed.map_id_toDocument (h : graph.WellFormed) :
    (graph.nodes.values.map (·.toDocument)).map (·.field? "id") =
      graph.nodes.keys.map fun id => some (.text id) := by
  unfold Table.values Table.keys
  rw [List.map_map, List.map_map, List.map_map]
  refine List.map_congr_left fun entry hentry => ?_
  show some (Document.text entry.2.id) = some (.text entry.1)
  rw [h.named entry hentry]

/-- The document of a graph lists what its edges join. -/
theorem WellFormed.toDocument_listsEndsOnce (h : graph.WellFormed) :
    ListsEndsOnce graph.toDocument := by
  refine ⟨_, _, rfl, ?_, fun document hdocument => ?_⟩
  · rw [h.map_id_toDocument]
    refine List.pairwise_map.mpr (h.distinct.imp fun hne heq => hne ?_)
    exact Document.text.inj (Option.some.inj heq)
  · obtain ⟨edge, hedge, rfl⟩ := List.mem_map.mp hdocument
    obtain ⟨hsource, htarget⟩ := h.ends edge hedge
    rw [h.map_id_toDocument]
    exact ⟨List.mem_map_of_mem hsource, List.mem_map_of_mem htarget⟩

/-- **A graph is well formed over whole runs.** After any operations on an empty graph it is well
formed and its record lists every node once and no edge without its ends; further operations leave
the nodes and edges that are there as they are, in their order, in front of the new ones. -/
theorem graph_wellFormed_and_grows (operations further : List Operation) :
    (run {} operations).WellFormed ∧ ListsEndsOnce (run {} operations).toDocument ∧
      (run {} operations).Extends (run {} (operations ++ further)) := by
  obtain ⟨hwellFormed, _⟩ := (run_grows {} operations).keeps empty_wellFormed
  refine ⟨hwellFormed, hwellFormed.toDocument_listsEndsOnce, ?_⟩
  rw [run, run, List.foldl_append]
  exact ((run_grows _ further).keeps hwellFormed).2

end PrivacyScan.Graph
