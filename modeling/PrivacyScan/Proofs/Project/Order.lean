import Mathlib.Data.Fintype.Card
import Mathlib.Data.Set.Finite.Basic
import Mathlib.Logic.Relation
import PrivacyScan.Project.Order
import PrivacyScan.Proofs.Table
import PrivacyScan.Proofs.Text

/-!
# Dependencies come first

Modules are worked off from a queue, and a counter for each says how many of its dependencies are
still open. A dependency that is named twice is counted twice and released twice.

* **`count_dependentsOf`** — a finished module releases every dependent as often as it is named
  there;
* **`mem_workedOf_iff`** — what is worked off are the modules from which no path leads to a cycle.
-/

namespace PrivacyScan.Order

open Relation (ReflTransGen TransGen)

variable {graph : Table (List String)} {node other dependency : String}

def dependenciesOf (graph : Table (List String)) (node : String) : List String :=
  (graph.get? node).getD []

def DependsOn (graph : Table (List String)) (node dependency : String) : Prop :=
  dependency ∈ dependenciesOf graph node

/-- No path of dependencies leads from the module to one that depends on itself. -/
def LeadsToNoCycle (graph : Table (List String)) (node : String) : Prop :=
  ∀ other, ReflTransGen (DependsOn graph) node other → ¬ TransGen (DependsOn graph) other other

/-- How many dependencies of a module are open. -/
def openOf (left : Table Nat) (node : String) : Nat := (left.get? node).getD 0

/-! ## Releasing the dependents of a module -/

theorem openOf_set_self (left : Table Nat) (node : String) (value : Nat) :
    openOf (left.set node value) node = value := by
  rw [openOf, Table.get?_set_self]
  rfl

theorem openOf_set_of_ne (left : Table Nat) (value : Nat) (hne : other ≠ node) :
    openOf (left.set node value) other = openOf left other := by
  rw [openOf, Table.get?_set_of_ne left value hne]
  rfl

theorem openOf_release (progress : Table Nat × List String) (node other : String) :
    openOf (release progress node).1 other = openOf progress.1 other - [node].count other := by
  by_cases hnode : other = node
  · rw [hnode, List.count_singleton_self]
    exact openOf_set_self ..
  · rw [List.count_singleton, if_neg (by simpa using Ne.symm hnode)]
    exact openOf_set_of_ne _ _ hnode

/-- A release makes its module ready when nothing of it is open any more. -/
theorem ready_release (progress : Table Nat × List String) (node : String) :
    (release progress node).2 =
      progress.2 ++ if openOf (release progress node).1 node = 0 then [node] else [] := by
  have hopen : openOf (release progress node).1 node = openOf progress.1 node - 1 :=
    openOf_set_self ..
  rw [hopen]
  show (if (openOf progress.1 node - 1 == 0) = true then progress.2 ++ [node] else progress.2) = _
  by_cases hzero : openOf progress.1 node - 1 = 0
  · rw [if_pos (beq_iff_eq.mpr hzero), if_pos hzero]
  · rw [if_neg (mt beq_iff_eq.mp hzero), if_neg hzero, List.append_nil]

/-- Releasing modules one after the other: each counter falls by the number of releases, and where
there are not more of them than dependencies are open, those modules become ready, once each, that
have no open dependency left. -/
theorem foldl_release (released : List String) (left : Table Nat) (ready : List String)
    (hopen : ∀ node, released.count node ≤ openOf left node) :
    ∃ after added, released.foldl release (left, ready) = (after, ready ++ added) ∧
      (∀ node, openOf after node = openOf left node - released.count node) ∧ added.Nodup ∧
      ∀ node, node ∈ added ↔ node ∈ released ∧ openOf after node = 0 := by
  induction released generalizing left ready with
  | nil => exact ⟨left, [], by simp, by simp, List.nodup_nil, by simp⟩
  | cons first rest ih =>
    have hnext (node : String) : openOf (release (left, ready) first).1 node =
        openOf left node - [first].count node := openOf_release ..
    have hready := ready_release (left, ready) first
    rw [List.foldl_cons]
    generalize release (left, ready) first = next at hnext hready
    have hrest (node : String) : rest.count node ≤ openOf next.1 node := by
      have := hopen node
      rw [List.count_cons] at this
      rw [hnext, List.count_singleton]
      omega
    obtain ⟨after, added, hafter, hfall, hdistinct, hadded⟩ := ih next.1 next.2 hrest
    refine ⟨after, (if openOf next.1 first = 0 then [first] else []) ++ added, ?_, ?_, ?_, ?_⟩
    · rw [hafter, hready, List.append_assoc]
    · intro node
      rw [hfall, hnext, List.count_singleton, List.count_cons]
      omega
    · split
      · next hzero =>
        -- the first release closes the last open dependency, so it is also the last release
        have hlast : first ∉ rest := by
          rw [← List.count_eq_zero, ← Nat.le_zero, ← hzero]
          exact hrest first
        exact List.nodup_cons.mpr ⟨fun hmem => hlast ((hadded first).mp hmem).1, hdistinct⟩
      · exact hdistinct
    · intro node
      rw [List.mem_append, hadded, List.mem_cons]
      constructor
      · rintro (hmem | ⟨hmem, hzero⟩)
        · split at hmem
          · next hzero =>
            obtain rfl := List.mem_singleton.mp hmem
            rw [hfall, hzero]
            exact ⟨.inl rfl, Nat.zero_sub _⟩
          · cases hmem
        · exact ⟨.inr hmem, hzero⟩
      · rintro ⟨rfl | hmem, hzero⟩
        · by_cases hagain : node ∈ rest
          · exact .inr ⟨hagain, hzero⟩
          · rw [hfall, List.count_eq_zero.mpr hagain, Nat.sub_zero] at hzero
            rw [if_pos hzero]
            exact .inl (List.mem_singleton_self node)
        · exact .inr ⟨hmem, hzero⟩

/-! ## Modules and their dependencies -/

theorem mem_nodesOf : node ∈ nodesOf graph ↔
    node ∈ graph.keys ∨ ∃ dependencies ∈ graph.values, node ∈ dependencies := by
  rw [nodesOf, Text.mem_sortedDistinct, List.mem_append, List.mem_flatten]

theorem DependsOn.mem_nodesOf (h : DependsOn graph node dependency) :
    node ∈ nodesOf graph ∧ dependency ∈ nodesOf graph := by
  unfold DependsOn dependenciesOf at h
  cases hdependencies : graph.get? node with
  | none =>
    rw [hdependencies] at h
    cases h
  | some dependencies =>
    rw [hdependencies] at h
    have hentry := Table.mem_of_get? hdependencies
    exact ⟨Order.mem_nodesOf.mpr (.inl (List.mem_map_of_mem hentry)),
      Order.mem_nodesOf.mpr (.inr ⟨dependencies, List.mem_map_of_mem hentry, h⟩)⟩

theorem count_dependentsOf (hkeys : graph.keys.Nodup) (node other : String) :
    (dependentsOf graph node).count other = (dependenciesOf graph other).count node := by
  induction graph with
  | nil => rfl
  | cons entry rest ih =>
    obtain ⟨hentry, hrest⟩ := List.nodup_cons.mp hkeys
    show (List.replicate (entry.2.count node) entry.1 ++ dependentsOf rest node).count other = _
    rw [List.count_append, ih hrest, List.count_replicate, dependenciesOf, dependenciesOf,
      Table.get?_cons]
    by_cases hother : other = entry.1
    · -- no later entry has this key
      rw [hother, Table.get?_eq_none hentry]
      simp
    · rw [if_neg (by simpa using Ne.symm hother), if_neg (by simpa using hother), Nat.zero_add]

/-- A module leads to no cycle when none of its dependencies does: a cycle through the module would
go through one of them. -/
theorem leadsToNoCycle_of_dependencies
    (h : ∀ dependency, DependsOn graph node dependency → LeadsToNoCycle graph dependency) :
    LeadsToNoCycle graph node := by
  intro other hpath hcycle
  rcases ReflTransGen.cases_head hpath with rfl | ⟨dependency, hdepends, hrest⟩
  · obtain ⟨dependency, hdepends, hback⟩ := TransGen.head'_iff.mp hcycle
    exact h dependency hdepends node hback hcycle
  · exact h dependency hdepends other hrest hcycle

/-- Induction along the dependencies of a module that leads to no cycle: among the finitely many
modules that it reaches, they are well-founded. -/
theorem dependencies_induction {motive : String → Prop} (hacyclic : LeadsToNoCycle graph node)
    (hnode : node ∈ nodesOf graph)
    (h : ∀ other ∈ nodesOf graph,
    (∀ dependency, DependsOn graph other dependency → motive dependency) →
      motive other) : motive node := by
  let Reached := { other // other ∈ nodesOf graph ∧ ReflTransGen (DependsOn graph) node other }
  let Below (first second : Reached) : Prop := TransGen (DependsOn graph) second.1 first.1
  have hfinite : Finite Reached :=
    ((nodesOf graph).finite_toSet.subset fun _ hother => hother.1).to_subtype
  have htrans : IsTrans Reached Below := ⟨fun _ _ _ hfirst hsecond => hsecond.trans hfirst⟩
  have hirrefl : Std.Irrefl Below := ⟨fun other => hacyclic other.1 other.2.2⟩
  have hall (other : Reached) : motive other.1 := by
    induction other using (Finite.wellFounded_of_trans_of_irrefl Below).induction with
    | _ other ih =>
      refine h other.1 other.2.1 fun dependency hdepends => ?_
      exact ih ⟨dependency, hdepends.mem_nodesOf.2, other.2.2.tail hdepends⟩ (.single hdepends)
  exact hall ⟨node, hnode, .refl⟩

/-! ## The counters while the queue is worked off -/

/-- How far the work is: the modules that are done, in order, and those in the queue behind them.
The counters say how many dependencies are not done, and what is done or queued are the modules
without one, each once and behind all its dependencies. -/
structure Progress (graph : Table (List String)) (worked queue : List String) (left : Table Nat) :
    Prop where
  counts : ∀ node, openOf left node = (dependenciesOf graph node).countP (· ∉ worked)
  distinct : (worked ++ queue).Nodup
  ready : ∀ node, node ∈ worked ++ queue ↔ node ∈ nodesOf graph ∧ openOf left node = 0
  ordered : ∀ node ∈ worked ++ queue, ∀ dependency, DependsOn graph node dependency →
    [dependency, node].Sublist (worked ++ queue)
  acyclic : ∀ node ∈ worked ++ queue, LeadsToNoCycle graph node

namespace Progress

variable {worked queue : List String} {left : Table Nat}

theorem openOf_eq_zero_iff (h : Progress graph worked queue left) :
    openOf left node = 0 ↔ ∀ dependency, DependsOn graph node dependency → dependency ∈ worked := by
  rw [h.counts, List.countP_eq_zero]
  simp [DependsOn]

/-- A module that is done is no longer counted where it is a dependency. -/
theorem countP_worked (hnew : other ∉ worked) (dependencies : List String) :
    dependencies.countP (· ∉ worked) =
      dependencies.countP (· ∉ worked ++ [other]) + dependencies.count other := by
  induction dependencies with
  | nil => rfl
  | cons first rest ih =>
    have hfirst : (if first ∉ worked then 1 else 0) =
        (if first ∉ worked ++ [other] then 1 else 0) + if first = other then 1 else 0 := by
      by_cases heq : first = other
      · simp [heq, hnew]
      · simp [heq]
    simp only [List.countP_cons, List.count_cons, ih, beq_iff_eq, decide_eq_true_eq, hfirst]
    omega

/-- Releasing the dependents of a module that is done: the counters follow, and those modules become
ready, once each, that had an open dependency before and have none now. -/
theorem release_dependents (hkeys : graph.keys.Nodup)
    (h : Progress graph worked (node :: queue) left) :
    ∃ after ready, (dependentsOf graph node).foldl release (left, []) = (after, ready) ∧
      (∀ other, openOf after other = (dependenciesOf graph other).countP (· ∉ worked ++ [node])) ∧
      (∀ other, openOf after other ≤ openOf left other) ∧ ready.Nodup ∧
      ∀ other, other ∈ ready ↔ openOf left other ≠ 0 ∧ openOf after other = 0 := by
  have hnew : node ∉ worked := fun hmem =>
    (List.nodup_append.mp h.distinct).2.2 node hmem node List.mem_cons_self rfl
  have hcount (other : String) : openOf left other =
      (dependenciesOf graph other).countP (· ∉ worked ++ [node]) +
        (dependentsOf graph node).count other := by
    rw [h.counts, countP_worked hnew, count_dependentsOf hkeys]
  have hopen (other : String) : (dependentsOf graph node).count other ≤ openOf left other := by
    rw [hcount]
    exact Nat.le_add_left ..
  obtain ⟨after, ready, hafter, hfall, hdistinct, hready⟩ := foldl_release _ left [] hopen
  refine ⟨after, ready, hafter, fun other => ?_, fun other => ?_, hdistinct, fun other => ?_⟩
  · rw [hfall, hcount, Nat.add_sub_cancel]
  · rw [hfall]
    exact Nat.sub_le ..
  · rw [hready, ← List.count_pos_iff, hfall]
    have := hopen other
    omega

/-- **One module is worked off.** What becomes ready is new, and all its dependencies are done. -/
theorem step (hkeys : graph.keys.Nodup) (h : Progress graph worked (node :: queue) left) :
    ∃ after ready, (dependentsOf graph node).foldl release (left, []) = (after, ready) ∧
      Progress graph (worked ++ [node]) (queue ++ ready) after := by
  obtain ⟨after, ready, hafter, hcounts, hfall, hdistinct, hready⟩ := h.release_dependents hkeys
  have hdone {other dependency : String} (hmem : other ∈ ready)
      (hdepends : DependsOn graph other dependency) : dependency ∈ worked ++ node :: queue := by
    have hzero := ((hready other).mp hmem).2
    rw [hcounts, List.countP_eq_zero] at hzero
    have hworked : dependency ∈ worked ++ [node] := by
      simpa only [decide_eq_true_eq, Classical.not_not] using hzero dependency hdepends
    rw [List.append_cons]
    exact List.mem_append_left queue hworked
  have hall : worked ++ [node] ++ (queue ++ ready) = (worked ++ node :: queue) ++ ready := by simp
  refine ⟨after, ready, hafter, ⟨hcounts, ?distinct, ?ready, ?ordered, ?acyclic⟩⟩
  all_goals rw [hall]
  case distinct =>
    -- what becomes ready had an open dependency before, what was queued had none
    refine List.nodup_append.mpr ⟨h.distinct, hdistinct, ?_⟩
    rintro other hold _ hmem rfl
    exact ((hready other).mp hmem).1 ((h.ready other).mp hold).2
  case ready =>
    intro other
    rw [List.mem_append, h.ready, hready]
    constructor
    · rintro (⟨hnode, hzero⟩ | ⟨hbefore, hzero⟩)
      · exact ⟨hnode, Nat.le_zero.mp (hzero ▸ hfall other)⟩
      · rw [h.counts, ← Nat.pos_iff_ne_zero, List.countP_pos_iff] at hbefore
        obtain ⟨dependency, hdepends, _⟩ := hbefore
        exact ⟨(DependsOn.mem_nodesOf hdepends).1, hzero⟩
    · rintro ⟨hnode, hzero⟩
      by_cases hbefore : openOf left other = 0
      · exact .inl ⟨hnode, hbefore⟩
      · exact .inr ⟨hbefore, hzero⟩
  case ordered =>
    intro other hmem dependency hdepends
    rcases List.mem_append.mp hmem with hold | hmem
    · exact (h.ordered other hold dependency hdepends).trans (List.sublist_append_left ..)
    · exact .append (List.singleton_sublist.mpr (hdone hmem hdepends))
        (List.singleton_sublist.mpr hmem)
  case acyclic =>
    intro other hmem
    rcases List.mem_append.mp hmem with hold | hmem
    · exact h.acyclic other hold
    · exact leadsToNoCycle_of_dependencies fun dependency hdepends =>
        h.acyclic dependency (hdone hmem hdepends)

/-- Nothing is left in the queue once as many modules are done as there are. -/
theorem queue_eq_nil (h : Progress graph worked queue left)
    (hall : (nodesOf graph).length ≤ worked.length) : queue = [] := by
  have hnodes : worked ++ queue ⊆ nodesOf graph := fun node hnode => ((h.ready node).mp hnode).1
  have hlength := (List.subperm_of_subset h.distinct hnodes).length_le
  rw [List.length_append] at hlength
  exact List.eq_nil_of_length_eq_zero (by omega)

end Progress

/-- Working off a queue to its end, without a bound on the number of modules. -/
inductive WorksOff (graph : Table (List String)) :
    List String → Table Nat → List String → Prop where
  | nil (left : Table Nat) : WorksOff graph [] left []
  | cons {node : String} {queue ready worked : List String} {left after : Table Nat}
      (hrelease : (dependentsOf graph node).foldl release (left, []) = (after, ready))
      (hrest : WorksOff graph (queue ++ ready) after worked) :
      WorksOff graph (node :: queue) left (node :: worked)

/-- **The queue is worked off to its end.** The bound that limits the work is never met, and all
that holds of the modules that are done holds at the end. -/
theorem Progress.drain (hkeys : graph.keys.Nodup) {fuel : Nat} {worked queue : List String}
    {left : Table Nat} (h : Progress graph worked queue left)
    (hfuel : (nodesOf graph).length ≤ worked.length + fuel) :
    WorksOff graph queue left (drain graph fuel queue left) ∧
      ∃ last, Progress graph (worked ++ Order.drain graph fuel queue left) [] last := by
  induction fuel generalizing worked queue left with
  | zero =>
    obtain rfl := h.queue_eq_nil hfuel
    exact ⟨.nil left, left, by simpa [Order.drain] using h⟩
  | succ fuel ih =>
    cases queue with
    | nil => exact ⟨.nil left, left, by simpa [Order.drain] using h⟩
    | cons node queue =>
      obtain ⟨after, ready, hrelease, hnext⟩ := h.step hkeys
      obtain ⟨hworks, last, hlast⟩ := ih hnext (by simp; omega)
      have hdrain : Order.drain graph (fuel + 1) (node :: queue) left =
          node :: Order.drain graph fuel (queue ++ ready) after := by
        rw [Order.drain, hrelease]
      rw [hdrain]
      exact ⟨.cons hrelease hworks, last, by simpa using hlast⟩

/-! ## The order -/

/-- The counters before anything is done. -/
def countsOf (graph : Table (List String)) : Table Nat :=
  (nodesOf graph).map fun node => (node, ((graph.get? node).getD []).length)

/-- The modules that are ready from the start. -/
def readyOf (graph : Table (List String)) : List String :=
  (nodesOf graph).filter fun node => ((countsOf graph).get? node).getD 0 == 0

/-- The modules that are worked off. -/
def workedOf (graph : Table (List String)) : List String :=
  drain graph (nodesOf graph).length (readyOf graph) (countsOf graph)

theorem sorted_eq (graph : Table (List String)) : sorted graph =
    workedOf graph ++ (nodesOf graph).filter fun node => !(workedOf graph).contains node :=
  rfl

theorem openOf_countsOf (graph : Table (List String)) (node : String) :
    openOf (countsOf graph) node = (dependenciesOf graph node).length := by
  rw [openOf, countsOf, Table.get?_map]
  split
  · rfl
  · next hnone =>
    -- what is no module has no dependencies
    cases hdependencies : dependenciesOf graph node with
    | nil => rfl
    | cons first rest =>
      have hdepends : DependsOn graph node first := by
        rw [DependsOn, hdependencies]
        exact List.mem_cons_self
      exact absurd hdepends.mem_nodesOf.1 hnone

/-- At the start nothing is ordered, and what has no dependencies is ready. -/
theorem progress_start (graph : Table (List String)) :
    Progress graph [] (readyOf graph) (countsOf graph) := by
  have hready (node : String) :
      node ∈ readyOf graph ↔ node ∈ nodesOf graph ∧ openOf (countsOf graph) node = 0 := by
    rw [readyOf, List.mem_filter, beq_iff_eq]
    rfl
  have hnone {node : String} (hmem : node ∈ readyOf graph) (dependency : String) :
      ¬ DependsOn graph node dependency := by
    have hzero := ((hready node).mp hmem).2
    rw [openOf_countsOf, List.length_eq_zero_iff] at hzero
    rw [DependsOn, hzero]
    exact List.not_mem_nil
  refine { counts := fun node => ?_, distinct := ?_, ready := hready, ordered := ?_, acyclic := ?_ }
  · rw [openOf_countsOf, List.countP_eq_length.mpr]
    simp
  · exact (Text.sortedDistinct_nodup _).filter _
  · intro node hmem dependency hdepends
    exact absurd hdepends (hnone hmem dependency)
  · intro node hmem
    exact leadsToNoCycle_of_dependencies fun dependency hdepends =>
      absurd hdepends (hnone hmem dependency)

theorem workedOf_progress (hkeys : graph.keys.Nodup) :
    WorksOff graph (readyOf graph) (countsOf graph) (workedOf graph) ∧
      ∃ last, Progress graph (workedOf graph) [] last :=
  (progress_start graph).drain hkeys (by simp)

theorem mem_workedOf_iff (hkeys : graph.keys.Nodup) :
    node ∈ workedOf graph ↔ node ∈ nodesOf graph ∧ LeadsToNoCycle graph node := by
  obtain ⟨_, last, hlast⟩ := workedOf_progress hkeys
  have hmem (other : String) : other ∈ workedOf graph ↔ other ∈ nodesOf graph ∧
      ∀ dependency, DependsOn graph other dependency → dependency ∈ workedOf graph := by
    rw [← hlast.openOf_eq_zero_iff, ← hlast.ready, List.append_nil]
  constructor
  · intro hworked
    exact ⟨((hmem node).mp hworked).1, hlast.acyclic node (by simpa using hworked)⟩
  · rintro ⟨hnode, hacyclic⟩
    exact dependencies_induction hacyclic hnode fun other hother hdependencies =>
      (hmem other).mpr ⟨hother, hdependencies⟩

theorem sorted_nodup (hkeys : graph.keys.Nodup) : (sorted graph).Nodup := by
  obtain ⟨_, last, hlast⟩ := workedOf_progress hkeys
  rw [sorted_eq]
  refine List.nodup_append.mpr ⟨by simpa using hlast.distinct, ?_, ?_⟩
  · exact (Text.sortedDistinct_nodup _).filter _
  · rintro node hworked _ hrest rfl
    simpa [hworked] using (List.mem_filter.mp hrest).2

theorem mem_sorted_iff (hkeys : graph.keys.Nodup) : node ∈ sorted graph ↔ node ∈ nodesOf graph := by
  rw [sorted_eq, List.mem_append, List.mem_filter]
  constructor
  · rintro (hworked | ⟨hnode, _⟩)
    · exact ((mem_workedOf_iff hkeys).mp hworked).1
    · exact hnode
  · intro hnode
    by_cases hworked : node ∈ workedOf graph
    · exact .inl hworked
    · exact .inr ⟨hnode, by simpa using hworked⟩

theorem dependency_precedes (hkeys : graph.keys.Nodup) (hacyclic : LeadsToNoCycle graph node)
    (hdepends : DependsOn graph node dependency) : [dependency, node].Sublist (sorted graph) := by
  obtain ⟨_, last, hlast⟩ := workedOf_progress hkeys
  have hworked : node ∈ workedOf graph :=
    (mem_workedOf_iff hkeys).mpr ⟨hdepends.mem_nodesOf.1, hacyclic⟩
  have hbefore := hlast.ordered node (by simpa using hworked) dependency hdepends
  rw [List.append_nil] at hbefore
  rw [sorted_eq]
  exact hbefore.trans (List.sublist_append_left ..)

/-- **The order in which modules are worked through.** The queue is worked off to its end, and only
what leads to a cycle stands behind it. Every key and every dependency is in the order once; a
module that leads to no cycle stands behind all its dependencies, and without cycles all modules
do. -/
theorem sorted_puts_dependencies_first (hkeys : graph.keys.Nodup) :
    (∃ worked cyclic, WorksOff graph (readyOf graph) (countsOf graph) worked ∧
      sorted graph = worked ++ cyclic ∧ ∀ node ∈ cyclic, ¬ LeadsToNoCycle graph node) ∧
    (sorted graph).Nodup ∧
    (∀ node, node ∈ sorted graph ↔
      node ∈ graph.keys ∨ ∃ dependencies ∈ graph.values, node ∈ dependencies) ∧
    (∀ node, LeadsToNoCycle graph node → ∀ dependency, DependsOn graph node dependency →
      [dependency, node].Sublist (sorted graph)) ∧
    ((∀ node, ¬ TransGen (DependsOn graph) node node) → ∀ node dependency,
      DependsOn graph node dependency → [dependency, node].Sublist (sorted graph)) := by
  refine ⟨⟨_, _, (workedOf_progress hkeys).1, sorted_eq graph, ?_⟩, sorted_nodup hkeys, ?_, ?_, ?_⟩
  · intro node hrest hacyclic
    obtain ⟨hnode, hnotWorked⟩ := List.mem_filter.mp hrest
    have hworked := (mem_workedOf_iff hkeys).mpr ⟨hnode, hacyclic⟩
    simp [hworked] at hnotWorked
  · exact fun node => (mem_sorted_iff hkeys).trans mem_nodesOf
  · exact fun node hacyclic dependency hdepends => dependency_precedes hkeys hacyclic hdepends
  · exact fun hnone node dependency hdepends =>
      dependency_precedes hkeys (fun other _ => hnone other) hdepends

/-! ## A graph with repeated dependencies and a cycle

`report` needs `store` twice and `text`; `store` needs `text`; `first` and `second` need each
other. -/

def reportGraph : Table (List String) :=
  [("report", ["store", "text", "store"]), ("store", ["text"]), ("first", ["second"]),
    ("second", ["first"])]

theorem reportGraph_order :
    reportGraph.keys.Nodup ∧ LeadsToNoCycle reportGraph "report" ∧
      TransGen (DependsOn reportGraph) "first" "first" ∧ (sorted reportGraph).Nodup ∧
      ["store", "report"].Sublist (sorted reportGraph) ∧ "first" ∈ sorted reportGraph := by
  have hkeys : reportGraph.keys.Nodup := by decide
  have hworked : "report" ∈ workedOf reportGraph := by decide +kernel
  have hacyclic : LeadsToNoCycle reportGraph "report" := ((mem_workedOf_iff hkeys).mp hworked).2
  have hcycle : TransGen (DependsOn reportGraph) "first" "first" :=
    .head (b := "second") List.mem_cons_self (.single List.mem_cons_self)
  obtain ⟨_, hdistinct, hmem, hbefore, _⟩ := sorted_puts_dependencies_first hkeys
  refine ⟨hkeys, hacyclic, hcycle, hdistinct, ?_, (hmem "first").mpr (.inl (by decide))⟩
  exact hbefore "report" hacyclic "store" List.mem_cons_self

end PrivacyScan.Order
