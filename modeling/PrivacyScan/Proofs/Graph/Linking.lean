import PrivacyScan.Proofs.Graph.WellFormed
import PrivacyScan.Proofs.Outcome
import PrivacyScan.Proofs.Text

/-!
# Requests and the routes that they are linked to

Requests and routes are first collected from the nodes of a graph, then every request is compared
with every route, and each pair that fits becomes an edge of the same graph:

* **`addEdge_eq_of_mem`** — an edge between two nodes changes nothing but the edges;
* **`linkAll_append`** — so the loop adds the edges of the pairs that fit, as long as pairs can be
  compared, and stops at the first that cannot.
-/

namespace PrivacyScan

theorem Graph.addEdge_eq_of_mem {graph : Graph} {edge : GraphEdge}
    (hsource : edge.source ∈ graph.ids) (htarget : edge.target ∈ graph.ids) :
    graph.addEdge edge = { graph with edges := graph.edges ++ [edge] } := by
  have hfirst : graph.addNode (placeholder edge.source) = graph := addNode_eq_self hsource
  have hsecond : graph.addNode (placeholder edge.target) = graph := addNode_eq_self htarget
  unfold addEdge
  rw [hfirst, hsecond]

namespace Route

open Outcome (Completes)

variable {graph : Graph} {node : GraphNode} {address route : Document} {words : List String}

/-! ## Collecting the ends -/

/-- The node has this value, which is not an empty one, under the name. -/
structure Holds (node : GraphNode) (name : String) (value : Document) : Prop where
  held : node.metadata.lookup name = some value
  full : value.isTruthy = true

/-- The node is a request to this address: a sink with one of these words in its label. -/
structure Sends (words : List String) (node : GraphNode) (address : Document) : Prop where
  type : node.type = "sink"
  label : ∃ word ∈ words, word.toList <:+: node.label.toList
  address : Holds node "url" address

theorem held?_eq_some_iff {name : String} {endpoint : Endpoint} :
    held? node name = some endpoint ↔ endpoint.1 = node ∧ Holds node name endpoint.2 := by
  obtain ⟨own, value⟩ := endpoint
  unfold held?
  rw [Option.map_eq_some_iff]
  constructor
  · rintro ⟨found, hfound, heq⟩
    obtain ⟨rfl, rfl⟩ := Prod.mk.inj heq
    obtain ⟨hheld, hfull⟩ := Option.filter_eq_some_iff.mp hfound
    exact ⟨rfl, hheld, hfull⟩
  · rintro ⟨rfl, hheld, hfull⟩
    exact ⟨value, Option.filter_eq_some_iff.mpr ⟨hheld, hfull⟩, rfl⟩

theorem sender?_eq_some_iff {endpoint : Endpoint} :
    (if node.type == "sink" && Text.containsAny node.label words then held? node "url" else none) =
        some endpoint ↔
      endpoint.1 = node ∧ Sends words node endpoint.2 := by
  split
  · next hsink =>
    obtain ⟨htype, hlabel⟩ := Bool.and_eq_true_iff.mp hsink
    rw [held?_eq_some_iff]
    exact and_congr_right fun _ =>
      ⟨fun hheld => ⟨beq_iff_eq.mp htype, Text.containsAny_iff.mp hlabel, hheld⟩, (·.address)⟩
  · next hother =>
    refine iff_of_false nofun ?_
    rintro ⟨_, htype, hlabel, _⟩
    exact hother (Bool.and_eq_true_iff.mpr ⟨beq_iff_eq.mpr htype, Text.containsAny_iff.mpr hlabel⟩)

/-- The senders are the sinks whose label has one of the words and which hold an address. -/
theorem mem_senders_iff {endpoint : Endpoint} :
    endpoint ∈ senders graph words ↔
      endpoint.1 ∈ graph.nodes.values ∧ Sends words endpoint.1 endpoint.2 := by
  unfold senders
  simp only [List.mem_filterMap, sender?_eq_some_iff]
  constructor
  · rintro ⟨node, hnode, rfl, hsends⟩
    exact ⟨hnode, hsends⟩
  · rintro ⟨hnode, hsends⟩
    exact ⟨_, hnode, rfl, hsends⟩

theorem mem_servers_iff {endpoint : Endpoint} :
    endpoint ∈ servers graph ↔
      endpoint.1 ∈ graph.nodes.values ∧ Holds endpoint.1 "route" endpoint.2 := by
  unfold servers
  simp only [List.mem_filterMap, held?_eq_some_iff]
  constructor
  · rintro ⟨node, hnode, rfl, hholds⟩
    exact ⟨hnode, hholds⟩
  · rintro ⟨hnode, hholds⟩
    exact ⟨_, hnode, rfl, hholds⟩

/-! ## The order of the nodes -/

def Before (graph : Graph) (node other : GraphNode) : Prop :=
  graph.nodes.keys.idxOf node.id < graph.nodes.keys.idxOf other.id

theorem Before.id_ne {other : GraphNode} (h : Before graph node other) : node.id ≠ other.id := by
  intro heq
  unfold Before at h
  rw [heq] at h
  exact Nat.lt_irrefl _ h

/-- In a graph in order, nodes come in the order of their entries. -/
theorem values_pairwise (h : graph.WellFormed) : graph.nodes.values.Pairwise (Before graph) := by
  unfold Table.values
  rw [List.pairwise_map]
  refine (Table.pairwise_idxOf_keys h.distinct).imp_of_mem fun hentry hother hbefore => ?_
  unfold Before
  rw [h.named _ hentry, h.named _ hother]
  exact hbefore

/-- What is collected from the nodes stands in their order. -/
theorem filterMap_pairwise (h : graph.WellFormed) {collect : GraphNode → Option Endpoint}
    (hcollect : ∀ {node endpoint}, collect node = some endpoint → endpoint.1 = node) :
    (graph.nodes.values.filterMap collect).Pairwise fun endpoint other =>
      Before graph endpoint.1 other.1 := by
  refine (values_pairwise h).filterMap collect ?_
  intro node other hbefore endpoint hendpoint further hfurther
  rw [hcollect hendpoint, hcollect hfurther]
  exact hbefore

theorem senders_pairwise (h : graph.WellFormed) :
    (senders graph words).Pairwise fun sender other => Before graph sender.1 other.1 :=
  filterMap_pairwise h fun hsender => (sender?_eq_some_iff.mp hsender).1

theorem servers_pairwise (h : graph.WellFormed) :
    (servers graph).Pairwise fun server other => Before graph server.1 other.1 :=
  filterMap_pairwise h fun hserver => (held?_eq_some_iff.mp hserver).1

/-- By their requests, and those of one request by their routes. -/
def Precedes (graph : Graph) (pair other : Endpoint × Endpoint) : Prop :=
  Before graph pair.1.1 other.1.1 ∨ pair.1 = other.1 ∧ Before graph pair.2.1 other.2.1

theorem Precedes.asymm {pair other : Endpoint × Endpoint} (h : Precedes graph pair other) :
    ¬ Precedes graph other pair := by
  rintro (hback | ⟨hsame, hback⟩)
  · rcases h with hbefore | ⟨hsame, _⟩
    · exact Nat.lt_asymm hbefore hback
    · rw [hsame] at hback
      exact Nat.lt_irrefl _ hback
  · rcases h with hbefore | ⟨_, hbefore⟩
    · rw [hsame] at hbefore
      exact Nat.lt_irrefl _ hbefore
    · exact Nat.lt_asymm hbefore hback

/-! ## The pairs -/

def requestWords : List String := ["fetch", "axios", "requests", "http"]

/-- A request of the graph and a route of the graph, with the values that they hold. -/
structure IsPair (graph : Graph) (pair : Endpoint × Endpoint) : Prop where
  sender : pair.1.1 ∈ graph.nodes.values
  sends : Sends requestWords pair.1.1 pair.1.2
  server : pair.2.1 ∈ graph.nodes.values
  holds : Holds pair.2.1 "route" pair.2.2

/-- All requests with all routes, as they are collected. -/
def requestPairs (graph : Graph) : List (Endpoint × Endpoint) :=
  pairs (senders graph requestWords) (servers graph)

/-- All senders are tried with all servers. -/
theorem mem_requestPairs_iff {pair : Endpoint × Endpoint} :
    pair ∈ requestPairs graph ↔ IsPair graph pair := by
  have hmem : pair ∈ requestPairs graph ↔
      pair.1 ∈ senders graph requestWords ∧ pair.2 ∈ servers graph := by
    obtain ⟨sender, server⟩ := pair
    simp [requestPairs, pairs]
  rw [hmem, mem_senders_iff, mem_servers_iff]
  exact ⟨fun ⟨⟨hsender, hsends⟩, hserver, hholds⟩ => ⟨hsender, hsends, hserver, hholds⟩,
    fun h => ⟨⟨h.sender, h.sends⟩, h.server, h.holds⟩⟩

/-- The pairs are tried in the order of their senders, and then of their servers. -/
theorem requestPairs_pairwise (h : graph.WellFormed) :
    (requestPairs graph).Pairwise (Precedes graph) := by
  unfold requestPairs pairs
  rw [List.pairwise_flatMap]
  constructor
  · intro sender _
    rw [List.pairwise_map]
    exact (servers_pairwise h).imp fun hbefore => .inr ⟨rfl, hbefore⟩
  · refine (senders_pairwise h).imp fun hbefore pair hpair other hother => .inl ?_
    obtain ⟨_, _, rfl⟩ := List.mem_map.mp hpair
    obtain ⟨_, _, rfl⟩ := List.mem_map.mp hother
    exact hbefore

theorem mem_ids_of_mem_requestPairs (h : graph.WellFormed) :
    ∀ pair ∈ requestPairs graph, pair.1.1.id ∈ graph.ids ∧ pair.2.1.id ∈ graph.ids := by
  have hid {node : GraphNode} (hnode : node ∈ graph.nodes.values) : node.id ∈ graph.ids := by
    obtain ⟨entry, hentry, rfl⟩ := List.mem_map.mp hnode
    rw [h.ids, h.named entry hentry]
    exact List.mem_map_of_mem hentry
  intro pair hpair
  have hends := mem_requestPairs_iff.mp hpair
  exact ⟨hid hends.sender, hid hends.server⟩

/-! ## The loop -/

def linkEdge (details : Document → Document → List (String × Document))
    (pair : Endpoint × Endpoint) : GraphEdge where
  source := pair.1.1.id
  target := pair.2.1.id
  type := "network_flow"
  label := some "HTTP Request"
  metadata := ("protocol", .text "http") :: details pair.1.2 pair.2.2

def withEdges (graph : Graph) (edges : List GraphEdge) : Graph :=
  { graph with edges := graph.edges ++ edges }

theorem withEdges_nil (graph : Graph) : withEdges graph [] = graph := by
  unfold withEdges
  rw [List.append_nil]

theorem withEdges_withEdges (graph : Graph) (edges others : List GraphEdge) :
    withEdges (withEdges graph edges) others = withEdges graph (edges ++ others) := by
  unfold withEdges
  dsimp only
  rw [List.append_assoc]

section Loop

variable {fits : Document → Document → Outcome Bool}
  {details : Document → Document → List (String × Document)}
  {pair : Endpoint × Endpoint} {done rest : List (Endpoint × Endpoint)}

/-- Whether the two can be compared and fit. -/
def fitting (fits : Document → Document → Outcome Bool) (pair : Endpoint × Endpoint) : Bool :=
  (fits pair.1.2 pair.2.2).toOption.getD false

theorem eq_ok_fitting (h : Completes (fits pair.1.2 pair.2.2)) :
    fits pair.1.2 pair.2.2 = .ok (fitting fits pair) := by
  obtain ⟨fit, hfit⟩ := h
  unfold fitting
  rw [hfit]
  rfl

theorem fitting_iff : fitting fits pair = true ↔ fits pair.1.2 pair.2.2 = .ok true := by
  unfold fitting
  cases fits pair.1.2 pair.2.2 with
  | error fault => exact iff_of_false nofun nofun
  | ok fit => exact ⟨congrArg Except.ok, Except.ok.inj⟩

/-- Pairs that have been tried have left exactly the edges of those that fit. -/
theorem linkAll_append (hdone : ∀ pair ∈ done, Completes (fits pair.1.2 pair.2.2))
    (hends : ∀ pair ∈ done, pair.1.1.id ∈ graph.ids ∧ pair.2.1.id ∈ graph.ids) :
    linkAll fits details (done ++ rest) graph =
      linkAll fits details rest
        (withEdges graph ((done.filter (fitting fits)).map (linkEdge details))) := by
  -- the graph is left open: the loop goes on with the one that has the edge of the first pair
  induction done generalizing graph with
  | nil => rw [List.nil_append, List.filter_nil, List.map_nil, withEdges_nil]
  | cons pair done ih =>
    obtain ⟨hpair, hlater⟩ := List.forall_mem_cons.mp hdone
    obtain ⟨⟨hsource, htarget⟩, hothers⟩ := List.forall_mem_cons.mp hends
    rw [List.cons_append, linkAll, eq_ok_fitting hpair]
    cases hfitting : fitting fits pair with
    | false =>
      rw [List.filter_cons_of_neg (by simp [hfitting])]
      exact ih hlater hothers
    | true =>
      have hadd : graph.addEdge (linkEdge details pair) =
          withEdges graph [linkEdge details pair] :=
        Graph.addEdge_eq_of_mem hsource htarget
      rw [List.filter_cons_of_pos hfitting, List.map_cons]
      show linkAll fits details (done ++ rest) (graph.addEdge (linkEdge details pair)) = _
      have hlonger :
          linkAll fits details (done ++ rest) (withEdges graph [linkEdge details pair]) = _ :=
        ih hlater hothers
      rw [hadd, hlonger, withEdges_withEdges, List.singleton_append]

/-- Where not all pairs can be compared, there is a first one that cannot. -/
theorem exists_first_fault {pairs : List (Endpoint × Endpoint)}
    (h : ¬ ∀ pair ∈ pairs, Completes (fits pair.1.2 pair.2.2)) :
    ∃ done pair rest fault, pairs = done ++ pair :: rest ∧
      (∀ pair ∈ done, Completes (fits pair.1.2 pair.2.2)) ∧
      fits pair.1.2 pair.2.2 = .error fault := by
  induction pairs with
  | nil => exact absurd (by simp) h
  | cons first pairs ih =>
    cases hfirst : fits first.1.2 first.2.2 with
    | error fault => exact ⟨[], first, pairs, fault, rfl, by simp, hfirst⟩
    | ok fit =>
      have hcompletes : Completes (fits first.1.2 first.2.2) := ⟨fit, hfirst⟩
      have hlater : ¬ ∀ pair ∈ pairs, Completes (fits pair.1.2 pair.2.2) := by
        intro hall
        exact h (List.forall_mem_cons.mpr ⟨hcompletes, hall⟩)
      obtain ⟨done, pair, rest, fault, rfl, hdone, hfault⟩ := ih hlater
      exact ⟨first :: done, pair, rest, fault, rfl, List.forall_mem_cons.mpr ⟨hcompletes, hdone⟩,
        hfault⟩

end Loop

/-! ## Linking a graph -/

def linkEdges (links : List (Endpoint × Endpoint)) : List GraphEdge :=
  links.map (linkEdge fun address route => [("url", address), ("route", route)])

theorem length_withEdges_sub (graph : Graph) (edges : List GraphEdge) :
    (withEdges graph edges).edges.length - graph.edges.length = edges.length := by
  show (graph.edges ++ edges).length - graph.edges.length = edges.length
  rw [List.length_append, Nat.add_sub_cancel_left]

theorem resolve_eq (graph : Graph) :
    resolve graph =
      let linked :=
        linkAll servesDocument (fun address route => [("url", address), ("route", route)])
        (requestPairs graph) graph
      (linked.1, linked.2.map fun _ => linked.1.edges.length - graph.edges.length) :=
  rfl

/-- Where all pairs can be compared, those that fit are linked and counted. -/
theorem resolve_of_comparable (h : graph.WellFormed)
    (hall : ∀ pair ∈ requestPairs graph, Completes (servesDocument pair.1.2 pair.2.2)) :
    resolve graph =
      (withEdges graph (linkEdges ((requestPairs graph).filter (fitting servesDocument))),
        .ok ((requestPairs graph).filter (fitting servesDocument)).length) := by
  rw [resolve_eq, ← List.append_nil (requestPairs graph),
    linkAll_append hall (mem_ids_of_mem_requestPairs h), List.append_nil]
  dsimp only [linkAll]
  rw [length_withEdges_sub, List.length_map]
  rfl

/-- The first pair that cannot be compared ends the run; the links before it stay. -/
theorem resolve_of_fault (h : graph.WellFormed) {done rest : List (Endpoint × Endpoint)}
    {first : Endpoint × Endpoint} {fault : Fault}
    (hpairs : requestPairs graph = done ++ first :: rest)
    (hdone : ∀ pair ∈ done, Completes (servesDocument pair.1.2 pair.2.2))
    (hfault : servesDocument first.1.2 first.2.2 = .error fault) :
    resolve graph =
      (withEdges graph (linkEdges (done.filter (fitting servesDocument))), .error fault) := by
  have hends : ∀ pair ∈ done, pair.1.1.id ∈ graph.ids ∧ pair.2.1.id ∈ graph.ids := by
    intro pair hpair
    refine mem_ids_of_mem_requestPairs h pair ?_
    rw [hpairs]
    exact List.mem_append_left _ hpair
  rw [resolve_eq, hpairs, linkAll_append hdone hends, linkAll, hfault]
  rfl

/-- Of these pairs, those whose route serves the address: each pair of nodes once, by their requests
and then by their routes. -/
structure IsLinking (graph : Graph) (among : Endpoint × Endpoint → Prop)
    (links : List (Endpoint × Endpoint)) : Prop where
  ordered : links.Pairwise (Precedes graph)
  once : (links.map fun link => (link.1.1.id, link.2.1.id)).Nodup
  served (link : Endpoint × Endpoint) :
    link ∈ links ↔ among link ∧ servesDocument link.1.2 link.2.2 = .ok true

/-- The pairs that fit, in the order in which they are tried, are a linking. -/
theorem isLinking_filter {among : Endpoint × Endpoint → Prop} {pairs : List (Endpoint × Endpoint)}
    (hordered : pairs.Pairwise (Precedes graph)) (hpairs : ∀ pair, pair ∈ pairs ↔ among pair) :
    IsLinking graph among (pairs.filter (fitting servesDocument)) where
  ordered := hordered.filter _
  once := by
    refine List.pairwise_map.mpr ((hordered.filter _).imp ?_)
    intro link other hprecedes heq
    obtain ⟨hsource, htarget⟩ := Prod.mk.inj heq
    rcases hprecedes with hbefore | ⟨_, hbefore⟩
    · exact hbefore.id_ne hsource
    · exact hbefore.id_ne htarget
  served link := by rw [List.mem_filter, fitting_iff, hpairs]

/-- The pairs before the first one at fault are those that precede it. -/
theorem mem_done_iff (h : graph.WellFormed) {done rest : List (Endpoint × Endpoint)}
    {first : Endpoint × Endpoint} (hpairs : requestPairs graph = done ++ first :: rest)
    (pair : Endpoint × Endpoint) :
    pair ∈ done ↔ IsPair graph pair ∧ Precedes graph pair first := by
  have hordered := requestPairs_pairwise h
  rw [hpairs] at hordered
  obtain ⟨_, hlater, hacross⟩ := List.pairwise_append.mp hordered
  rw [← mem_requestPairs_iff, hpairs, List.mem_append]
  constructor
  · exact fun hpair => ⟨.inl hpair, hacross pair hpair first List.mem_cons_self⟩
  · rintro ⟨hpair | hpair, hprecedes⟩
    · exact hpair
    · -- neither the pair at fault nor a later one precedes it
      rcases List.mem_cons.mp hpair with rfl | hrest
      · exact absurd hprecedes hprecedes.asymm
      · exact absurd ((List.pairwise_cons.mp hlater).1 pair hrest) hprecedes.asymm

theorem searchable_text (address : String) : searchable (.text address) = .ok () := by
  unfold searchable Document.mentions Document.asText
  rw [Outcome.ok_bind]
  split <;> rfl

theorem completes_servesDocument_text (address : String) (route : Document) :
    Completes (servesDocument (.text address) route) := by
  have hother : Completes (do
      searchable (.text address)
      return Document.text address == route) := by
    rw [searchable_text]
    exact Outcome.completes_ok _
  cases route with
  | text route => exact Outcome.completes_ok _
  | null | bool _ | int _ | float _ | dated _ _ | list _ | object _ => exact hother

/-- **Linking is exact.** Where every address can be compared with every route, as all texts can, a
graph gets one edge for each request and route of which the route serves the address, behind its own
edges and in order, and the result is the number of these pairs. Otherwise linking fails with the
fault of the first pair that cannot be compared, after the edges of the pairs before it. In both
cases nothing else changes. -/
theorem links_exact (graph : Graph) (h : graph.WellFormed) :
    ((∀ pair, IsPair graph pair → Completes (servesDocument pair.1.2 pair.2.2)) →
      ∃ links, IsLinking graph (IsPair graph) links ∧
        resolve graph = (withEdges graph (linkEdges links), .ok links.length)) ∧
    ((¬ ∀ pair, IsPair graph pair → Completes (servesDocument pair.1.2 pair.2.2)) →
      ∃ first fault links, IsPair graph first ∧
        servesDocument first.1.2 first.2.2 = .error fault ∧
        IsLinking graph (fun pair => IsPair graph pair ∧ Precedes graph pair first) links ∧
        resolve graph = (withEdges graph (linkEdges links), .error fault)) := by
  have hordered := requestPairs_pairwise h
  have hcomparable : (∀ pair, IsPair graph pair → Completes (servesDocument pair.1.2 pair.2.2)) ↔
      ∀ pair ∈ requestPairs graph, Completes (servesDocument pair.1.2 pair.2.2) := by
    simp only [mem_requestPairs_iff]
  rw [hcomparable]
  constructor
  · intro hall
    refine ⟨_, ?_, resolve_of_comparable h hall⟩
    exact isLinking_filter hordered fun pair => mem_requestPairs_iff
  · intro hsome
    obtain ⟨done, first, rest, fault, hpairs, hdone, hfault⟩ := exists_first_fault hsome
    have hfirst : IsPair graph first := by
      rw [← mem_requestPairs_iff, hpairs]
      simp
    rw [hpairs] at hordered
    refine ⟨first, fault, _, hfirst, hfault, ?_, resolve_of_fault h hpairs hdone hfault⟩
    exact isLinking_filter (List.pairwise_append.mp hordered).1 (mem_done_iff h hpairs)

/-! ## A node on both sides

The relay sends a request and serves a route, so it stands at both ends. -/

def fetchNode : GraphNode where
  id := "cart.js:fetch"
  type := "sink"
  label := "fetch"
  metadata := [("url", .text "https://shop.test/users")]

def usersNode : GraphNode where
  id := "api.py:users"
  type := "source"
  label := "request.json"
  metadata := [("route", .text "/users")]

def relayNode : GraphNode where
  id := "relay.py:post"
  type := "sink"
  label := "requests.post"
  metadata := [("url", .text "/orders"), ("route", .text "/users")]

def relayGraph : Graph := Graph.run {} [.addNode fetchNode, .addNode usersNode, .addNode relayNode]

/-- Two calls find their endpoints. -/
theorem relayGraph_linked :
    relayGraph.WellFormed ∧
      (∀ pair, IsPair relayGraph pair → Completes (servesDocument pair.1.2 pair.2.2)) ∧
      ∃ links, IsLinking relayGraph (IsPair relayGraph) links ∧ links.length = 2 ∧
        resolve relayGraph = (withEdges relayGraph (linkEdges links), .ok links.length) := by
  have hwellFormed : relayGraph.WellFormed :=
    ((Graph.run_grows {} _).keeps Graph.empty_wellFormed).1
  have htext : ∀ node ∈ relayGraph.nodes.values, ∀ address,
      Holds node "url" address → ∃ text, address = .text text := by
    show ∀ node ∈ [fetchNode, usersNode, relayNode], _
    simp only [List.forall_mem_cons]
    refine ⟨fun address h => ⟨_, (Option.some.inj h.held).symm⟩, fun address h => ?_,
      fun address h => ⟨_, (Option.some.inj h.held).symm⟩, nofun⟩
    cases h.held
  have hcomparable : ∀ pair, IsPair relayGraph pair →
      Completes (servesDocument pair.1.2 pair.2.2) := by
    intro pair hpair
    obtain ⟨text, haddress⟩ := htext _ hpair.sender _ hpair.sends.address
    rw [haddress]
    exact completes_servesDocument_text text pair.2.2
  obtain ⟨links, hlinking, hresolve⟩ := (links_exact relayGraph hwellFormed).1 hcomparable
  have hcount : (resolve relayGraph).2 = .ok 2 := by decide +kernel
  rw [hresolve] at hcount
  exact ⟨hwellFormed, hcomparable, links, hlinking, Except.ok.inj hcount, hresolve⟩

end Route

end PrivacyScan
