import PrivacyScan.SourceFlow.Visit
import PrivacyScan.Proofs.SourceFlow.Reports

/-!
# The walk through a module

The walk enters a node, goes through all its parts in order and leaves it. Written as one run over
the parts, it is open to induction on the size of the node. The induction is made here, once for
relations and once for what is collected; a property of the walk is then one of `enter` and `leave`:

* **`visit_relates`**, **`visit_collects`** — what a step keeps, and what it adds, over a whole walk;
* **`track_marked`** — an assignment observes variables and adds edges into no sink;
* **`analyze_rules`** — the findings of a module have rules of the checks of calls, or that of a
  secret in an assignment.
-/

namespace PrivacyScan.SourceFlow

open Outcome
open Source (Node Form Place Constant)
open Taint (Tracker FlowEdge Mark)

variable {setting : Setting}

/-! ## The walk as a run -/

/-- The walk through nodes, one after the other. -/
def visitAll (setting : Setting) (nodes : List Node) (state : State) : Outcome State :=
  nodes.foldlM (fun state node => visit setting node state) state

theorem visitNodes_eq (nodes : List Node) (state : State) :
    visitNodes setting nodes state = visitAll setting nodes state := by
  induction nodes generalizing state with
  | nil => rfl
  | cons node rest ih =>
    rw [visitNodes, visitAll, List.foldlM_cons]
    refine bind_congr fun next => ?_
    exact ih next

theorem visitGroups_eq (groups : List (List Node)) (state : State) :
    visitGroups setting groups state = visitAll setting groups.flatten state := by
  induction groups generalizing state with
  | nil => rfl
  | cons group rest ih =>
    rw [visitGroups, visitNodes_eq, List.flatten_cons, visitAll, visitAll, List.foldlM_append]
    refine bind_congr fun next => ?_
    exact ih next

/-- **The walk enters a node, goes through its parts and leaves it.** -/
theorem visit_eq (node : Node) (state : State) :
    visit setting node state = (do
      let entered ← enter setting node state
      let walked ← visitAll setting node.parts.flatten entered
      return leave node.form state walked) := by
  obtain ⟨form, place, parts⟩ := node
  rw [visit]
  simp only [visitGroups_eq]
  rfl

theorem sizeOf_lt_of_mem_parts {child node : Node} (h : child ∈ node.parts.flatten) :
    sizeOf child < sizeOf node := by
  obtain ⟨form, place, parts⟩ := node
  obtain ⟨group, hgroup, hchild⟩ := List.mem_flatten.mp h
  have hgroupSize := List.sizeOf_lt_of_mem hgroup
  have hchildSize := List.sizeOf_lt_of_mem hchild
  rw [Node.mk.sizeOf_spec]
  rw [Node.parts] at hgroupSize
  omega

theorem preorderOfNodes_eq (nodes : List Node) :
    Source.preorderOfNodes nodes = nodes.flatMap Node.preorder := by
  induction nodes with
  | nil => rfl
  | cons node rest ih => rw [Source.preorderOfNodes, ih, List.flatMap_cons]

theorem preorderOfGroups_eq (groups : List (List Node)) :
    Source.preorderOfGroups groups = groups.flatten.flatMap Node.preorder := by
  induction groups with
  | nil => rfl
  | cons group rest ih =>
    rw [Source.preorderOfGroups, preorderOfNodes_eq, ih, List.flatten_cons, List.flatMap_append]

/-- The order in which the walk enters nodes. -/
theorem preorder_eq (node : Node) :
    node.preorder = node :: node.parts.flatten.flatMap Node.preorder := by
  obtain ⟨form, place, parts⟩ := node
  rw [Node.preorder, preorderOfGroups_eq]
  rfl

theorem self_mem_preorder (node : Node) : node ∈ node.preorder := by
  rw [preorder_eq]
  exact List.mem_cons_self

theorem preorder_subset_of_mem_parts {child node : Node} (h : child ∈ node.parts.flatten) :
    child.preorder ⊆ node.preorder := by
  intro inner hinner
  rw [preorder_eq node]
  exact List.mem_cons_of_mem _ (List.mem_flatMap.mpr ⟨child, h, hinner⟩)

/-- A walk that ends has entered the node, gone through its parts and left it. -/
theorem exists_of_visit {node : Node} {before after : State}
    (h : visit setting node before = .ok after) : ∃ entered walked,
      enter setting node before = .ok entered ∧
        visitAll setting node.parts.flatten entered = .ok walked ∧
        leave node.form before walked = after := by
  rw [visit_eq] at h
  obtain ⟨entered, hentered, h⟩ := bind_eq_ok.mp h
  obtain ⟨walked, hwalked, h⟩ := bind_eq_ok.mp h
  exact ⟨entered, walked, hentered, hwalked, Except.ok.inj h⟩

/-- **What entering and leaving a node keeps, the walk keeps.** Induction on the size of the node;
the run over its parts keeps it because each of them does. -/
theorem visit_relates (relates : State → State → Prop) (hrefl : ∀ state, relates state state)
    (htrans : ∀ {first second third}, relates first second → relates second third →
      relates first third)
    (henter : ∀ {node before after}, enter setting node before = .ok after → relates before after)
    (hleave : ∀ {form before after}, relates before after →
      relates before (leave form before after))
    {node : Node} {before after : State} (h : visit setting node before = .ok after) :
    relates before after := by
  obtain ⟨entered, walked, hentered, hwalked, rfl⟩ := exists_of_visit h
  have hparts : relates entered walked :=
    foldlM_relates relates hrefl htrans
      (fun child hchild {_ _} hvisit =>
        have := sizeOf_lt_of_mem_parts hchild
        visit_relates relates hrefl htrans henter hleave hvisit) hwalked
  exact hleave (htrans (henter hentered) hparts)
  termination_by sizeOf node

/-- **The walk comes to the nodes in preorder.** Where entering a node adds its output to what is
seen of the state, and leaving one changes nothing of it, the walk adds the outputs of all nodes.
Induction on the size of the node. -/
theorem visit_collects {β : Type} (view : State → List β) (output : Node → List β)
    (henter : ∀ {node before after}, enter setting node before = .ok after →
      view after = view before ++ output node)
    (hleave : ∀ form before after, view (leave form before after) = view after)
    {node : Node} {before after : State} (h : visit setting node before = .ok after) :
    view after = view before ++ node.preorder.flatMap output := by
  obtain ⟨entered, walked, hentered, hwalked, rfl⟩ := exists_of_visit h
  have hparts : view walked =
      view entered ++ node.parts.flatten.flatMap fun child => child.preorder.flatMap output :=
    foldlM_collects view _
      (fun child hchild {_ _} hvisit =>
        have := sizeOf_lt_of_mem_parts hchild
        visit_collects view output henter hleave hvisit) hwalked
  rw [hleave, hparts, henter hentered, preorder_eq, List.flatMap_cons, List.flatMap_assoc,
    List.append_assoc]
  termination_by sizeOf node

/-! ## What an assignment does

The parts of an assignment observe the variable and add edges that lead into no sink, and they do
nothing else. What this keeps, every part keeps. -/

/-- From `first` to `last` variables were observed, and edges added that lead into no sink. -/
inductive Marked (first : Tracker) : Tracker → Prop where
  | refl : Marked first first
  | mark {last : Tracker} (h : Marked first last) (name : String) (mark : Mark) :
      Marked first (last.mark name mark)
  | edge {last : Tracker} (h : Marked first last) {edge : FlowEdge}
      (hflow : edge.flowType ≠ "sink") : Marked first (last.addEdge edge)

theorem Marked.trans {first second third : Tracker} (h : Marked first second)
    (h' : Marked second third) : Marked first third := by
  induction h' with
  | refl => exact h
  | mark _ name mark ih => exact ih.mark name mark
  | edge _ hflow ih => exact ih.edge hflow

theorem Marked.ofOk {first last : Tracker} (h : (Except.ok first : Outcome Tracker) = .ok last) :
    Marked first last := Except.ok.inj h ▸ .refl

section Assignment

variable {line : Int} {target : String} {value : Node} {scope : Outcome (Option String)}
  {context : Option String} {first last tracker : Tracker}

/-- What is observed under a condition. -/
theorem Marked.markIf (h : Marked first last) {condition : Prop} [Decidable condition]
    (name : String) (mark : Mark) :
    Marked first (if condition then last.mark name mark else last) := by
  split
  · exact h.mark name mark
  · exact h

theorem assignRequest_marked (h : assignRequest line target value scope first = .ok last) :
    Marked first last := by
  unfold assignRequest at h
  split at h
  · split at h
    · obtain ⟨context, _, h⟩ := bind_eq_ok.mp h
      cases h
      exact (Marked.refl.mark _ _).edge (by simp)
    · exact .ofOk h
  · exact .ofOk h

theorem assignField_marked (h : assignField line target value scope first = .ok last) :
    Marked first last := by
  unfold assignField at h
  split at h
  · split at h
    · obtain ⟨piiTypes, _, h⟩ := bind_eq_ok.mp h
      obtain ⟨context, _, h⟩ := bind_eq_ok.mp h
      cases h
      exact (Marked.refl.mark _ _).edge (by simp)
    · exact .ofOk h
  · exact .ofOk h

theorem assignParameter_marked (h : assignParameter line target value scope first = .ok last) :
    Marked first last := by
  unfold assignParameter at h
  split at h
  · split at h
    · obtain ⟨piiTypes, _, h⟩ := bind_eq_ok.mp h
      obtain ⟨context, _, h⟩ := bind_eq_ok.mp h
      cases h
      exact (Marked.refl.mark _ _).edge (by simp)
    · exact .ofOk h
  · exact .ofOk h

theorem assignSecret_marked : Marked tracker (assignSecret line target value context tracker) := by
  unfold assignSecret
  split
  · exact Marked.refl.mark _ _
  · exact .refl

theorem markExtraction_marked {object : Node} {source : String} :
    Marked tracker (markExtraction line target object source context tracker) := by
  unfold markExtraction
  split
  · exact Marked.refl.mark _ _
  · exact .refl

/-- A member gives its variable an observation, and an edge that leads into no sink. -/
theorem assignMember_marked {id : String} {object : Node} :
    Marked tracker (assignMember line target id object context tracker) := by
  unfold assignMember
  split
  · exact .refl
  · next base _ =>
    -- the extraction of a result comes first, and the member is observed on top of it
    have hextracted : Marked tracker (if Framework.resultMethods.contains id then
        markExtraction line target object (base ++ "." ++ id ++ "()") context tracker
      else tracker) := by
      split
      · exact markExtraction_marked
      · exact .refl
    dsimp only
    split
    · exact hextracted.mark _ _
    · exact hextracted

theorem assignItem_marked {container index : Node}
    (h : assignItem line target container index first = .ok last) : Marked first last := by
  unfold assignItem at h
  split at h
  · exact .ofOk h
  · obtain ⟨key, _, h⟩ := bind_eq_ok.mp h
    dsimp only at h
    split at h
    · cases h
      exact Marked.refl.mark _ _
    · exact .ofOk h

theorem propagateName_marked {id : String} :
    Marked tracker (tracker.propagateName target id line context) := by
  unfold Tracker.propagateName
  split
  · exact .refl
  · exact (Marked.refl.mark _ _).edge (by simp)

theorem Marked.edges {edgeOf : String → FlowEdge}
    (hflow : ∀ name, (edgeOf name).flowType ≠ "sink") (names : List String)
    (h : Marked first last) :
    Marked first (names.foldl (fun tracker name => tracker.addEdge (edgeOf name)) last) := by
  induction names generalizing last with
  | nil => exact h
  | cons name rest ih => exact ih (h.edge (hflow name))

theorem propagateCall_marked {function : Node} {inputs : List Node} :
    Marked tracker (tracker.propagateCall target function inputs line context) := by
  unfold Tracker.propagateCall
  split
  · exact .refl
  · -- the target is observed, and then there is an edge from each variable among the arguments
    exact (Marked.refl.mark _ _).edges (fun _ => by simp) _

theorem assignResult_marked {function : Node} :
    Marked tracker (assignResult line target function tracker) := by
  unfold assignResult
  split
  · split
    · exact markExtraction_marked
    · exact .refl
  · exact .refl

theorem assignCall_marked {function : Node} {inputs : List Node} :
    Marked tracker (assignCall line target function inputs context tracker) := by
  unfold assignCall
  refine Marked.trans ?_ propagateCall_marked
  -- a query and an inferred type are observed on top of what the function extracts
  exact (assignResult_marked.markIf _ _).markIf _ _

theorem assignAwaited_marked {call : Node} :
    Marked tracker (assignAwaited line target call tracker) := by
  unfold assignAwaited
  split
  · dsimp only
    split
    · exact Marked.refl.mark _ _
    · exact .refl
  · exact .refl

theorem assignValue_marked (h : assignValue line target value context first = .ok last) :
    Marked first last := by
  unfold assignValue at h
  split at h
  · cases h
    exact assignMember_marked
  · cases h
    exact propagateName_marked
  · exact assignItem_marked h
  · cases h
    exact assignCall_marked
  · cases h
    exact assignAwaited_marked
  · exact .ofOk h

/-- **All parts of an assignment together observe variables and add edges into no sink.** -/
theorem track_marked {state : State} (h : track line target value state = .ok last) :
    Marked state.tracker last := by
  unfold track at h
  obtain ⟨requested, hrequested, h⟩ := bind_eq_ok.mp h
  obtain ⟨asked, hasked, h⟩ := bind_eq_ok.mp h
  obtain ⟨received, hreceived, h⟩ := bind_eq_ok.mp h
  have hstart : Marked state.tracker received :=
    ((assignRequest_marked hrequested).trans (assignField_marked hasked)).trans
      (assignParameter_marked hreceived)
  exact (hstart.trans assignSecret_marked).trans (assignValue_marked h)

end Assignment

variable {target : String} {value : Node} {before after : State}

/-! ## What is reported -/

/-- The only finding of an assignment is the one for a secret. -/
theorem assignName_appends {place : Place}
    (h : assignName setting place value before target = .ok after) :
    Appends (Finding.IsOf ["HARDCODED_SECRET"] place.line) before.findings after.findings := by
  obtain ⟨tracker, _, rfl⟩ := map_eq_ok.mp h
  refine .ofAll fun finding hfinding => ?_
  obtain ⟨secret, _, rfl⟩ := Option.map_eq_some_iff.mp (Option.mem_toList.mp hfinding)
  exact ⟨List.mem_singleton.mpr rfl, rfl⟩

def moduleRules : List String := "HARDCODED_SECRET" :: callRules

/-- One node adds findings of the rules for modules, and takes none away. -/
theorem enter_appends {node : Node} (h : enter setting node before = .ok after) :
    Appends (Finding.HasRule moduleRules) before.findings after.findings := by
  unfold enter at h
  split at h
  · cases h
    exact .refl _
  · cases h
    exact .refl _
  · next place targets value =>
    have hname {target : String} {before after : State}
        (h : assignName setting place value before target = .ok after) :
        Appends (Finding.HasRule moduleRules) before.findings after.findings :=
      (assignName_appends h).mono fun _ hof => hof.hasRule (by decide)
    exact foldlM_relates
      (fun first last => Appends (Finding.HasRule moduleRules) first.findings last.findings)
      (fun state => .refl state.findings) .trans (fun _ _ => hname) h
  · exact (checkCall_observes h).findings.mono fun _ hof => hof.hasRule (by decide)
  · cases h
    exact .refl _

theorem leave_findings (form : Form) (before after : State) :
    (leave form before after).findings = after.findings := by
  unfold leave
  split <;> rfl

/-- **Every finding of a module has one of the rules of the analysis.** -/
theorem analyze_rules {file code : String} {method : Classify.Method} {last : State}
    (h : analyze? file code method = .ok (some last)) :
    ∀ finding ∈ last.findings, finding.HasRule moduleRules := by
  unfold analyze? at h
  split at h
  · cases h
  · obtain ⟨state, hvisit, hlast⟩ := map_eq_ok.mp h
    cases hlast
    have happends := visit_relates
      (fun first last => Appends (Finding.HasRule moduleRules) first.findings last.findings)
      (fun state => .refl state.findings) .trans enter_appends
      (fun hinner => by rw [leave_findings]; exact hinner) hvisit
    exact happends.all (by simp)

end PrivacyScan.SourceFlow
