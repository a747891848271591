import PrivacyScan.Proofs.SourceFlow.TwoRuns
import PrivacyScan.Proofs.SourceFlow.Walk

/-!
# Functions that are `async`

Entering a plain function, the walk reads the route among its decorators, and behind the function it
goes back to the route before. With an `async` function it does neither. So the kind of a function
matters only where it has a route of its own.

* **`visit_route`** — the walk through a node comes back to the route it started with.
* **`visit_alike`** — two walks through trees that differ in the kind of functions without a route
  end alike, where the settings judge the calls alike.
* **`async_functions_analysed_alike`** — a module in which such a `def` becomes `async def` has the
  same findings and edges as before.
-/

namespace PrivacyScan.SourceFlow

open Outcome
open Source (Node Form Place)

variable {setting : Setting} {node : Node} {before after : State}

/-! ## The route -/

def KeepsRoute (before after : State) : Prop := after.route = before.route

theorem KeepsRoute.trans {first second third : State} (h : KeepsRoute first second)
    (h' : KeepsRoute second third) : KeepsRoute first third := Eq.trans h' h

/-- What every step keeps of the route, a run keeps. -/
theorem foldlM_route {α : Type} {step : State → α → Outcome State} {items : List α}
    (hstep : ∀ item ∈ items, ∀ {before after}, step before item = .ok after →
      KeepsRoute before after)
    (h : items.foldlM step before = .ok after) : KeepsRoute before after :=
  foldlM_relates KeepsRoute (fun _ => rfl) .trans hstep h

theorem enter_route (hplain : ∀ id, node.form ≠ .functionDef false id)
    (h : enter setting node before = .ok after) : KeepsRoute before after := by
  unfold enter at h
  split at h
  · exact absurd rfl (hplain _)
  · cases h
    rfl
  · refine foldlM_route (fun target _ {_ _} hname => ?_) h
    obtain ⟨tracker, _, rfl⟩ := map_eq_ok.mp hname
    rfl
  · exact (checkCall_observes h).route
  · cases h
    rfl

/-- **The walk through a node comes back to the route it started with.** Only a plain function
changes it, and this is undone behind the function. -/
theorem visit_route {node : Node} {before after : State}
    (h : visit setting node before = .ok after) : KeepsRoute before after := by
  obtain ⟨entered, walked, hentered, hwalked, rfl⟩ := exists_of_visit h
  have hparts : KeepsRoute entered walked :=
    foldlM_route (fun child hchild {_ _} hvisit =>
      have := sizeOf_lt_of_mem_parts hchild
      visit_route hvisit) hwalked
  unfold leave
  split
  · rfl
  · next hform => exact (enter_route (by simp [hform]) hentered).trans hparts
  · next hplain _ => exact (enter_route hplain hentered).trans hparts
  termination_by sizeOf node

theorem visitAll_route {nodes : List Node} (h : visitAll setting nodes before = .ok after) :
    KeepsRoute before after :=
  foldlM_route (fun _ _ => visit_route) h

/-! ## Entering and leaving functions -/

section Function

variable {place : Place} {isAsync : Bool} {id : String} {inputs : Node}
  {body decorators returns : List Node} {state : State}

/-- Without a route, both kinds of functions are entered alike. -/
theorem enter_function (hnone : decorators.filterMap routeOf? = []) :
    enter setting (.functionDef place isAsync id inputs body decorators returns) state =
      .ok { state with function := some id } := by
  have hplain : enterFunction id decorators state = { state with function := some id } := by
    rw [enterFunction, hnone]
    rfl
  cases isAsync <;> simp only [enter, hplain]

/-- They are left alike, where the route is the one before. -/
theorem leave_function (h : after.route = before.route) :
    leave (.functionDef isAsync id) before after = { after with function := before.function } := by
  cases isAsync <;> simp [leave, ← h]

end Function

/-! ## Turning functions -/

def isActive : Form → Bool
  | .functionDef _ _ | .assign | .call => true
  | _ => false

/-- The same node, but for functions without a route that are of the other kind, and for
assignments, which may stand elsewhere on their line. -/
inductive Turned : Node → Node → Prop
  | same (node : Node) : Turned node node
  | moved {place : Place} {column : Nat} {targets : List Node} {value : Node} :
      Turned (.assign place targets value) (.assign { place with column } targets value)
  | parts {form : Form} {place : Place} {parts others : List (List Node)}
      (hform : isActive form = false)
      (hparts : List.Forall₂ Turned parts.flatten others.flatten) :
      Turned (.mk form place parts) (.mk form place others)
  | function {place : Place} {isAsync isTwin : Bool} {id : String} {inputs : Node}
      {body twins decorators returns : List Node}
      (hroute : decorators.filterMap routeOf? = []) (hbody : List.Forall₂ Turned body twins) :
      Turned (.functionDef place isAsync id inputs body decorators returns)
        (.functionDef place isTwin id inputs twins decorators returns)

theorem Turned.parts_flatten {node another : Node} (h : Turned node another) :
    List.Forall₂ Turned node.parts.flatten another.parts.flatten := by
  have hsame (nodes : List Node) : List.Forall₂ Turned nodes nodes :=
    List.forall₂_same.mpr fun node _ => .same node
  cases h with
  | same => exact hsame _
  | moved => exact hsame _
  | parts _ hparts => exact hparts
  | function _ hbody => exact List.rel_append (hsame [_]) (List.rel_append hbody (hsame _))

section Walk

variable {another : Node} {other : Setting} {state twin : State}

theorem enter_of_not_active {form : Form} (hform : isActive form = false) {place : Place}
    {parts : List (List Node)} : enter setting (.mk form place parts) state = .ok state := by
  cases form
  all_goals first | rfl | cases hform

theorem leave_alike {form : Form} {walked gone : State} (h : Alike state twin)
    (hwalked : Alike walked gone) : Alike (leave form state walked) (leave form twin gone) := by
  unfold leave
  rw [h.function, h.route]
  split
  · exact hwalked.congr (fun walked =>
      { walked with function := state.function, route := state.route }) fun _ => rfl
  · exact hwalked.congr (fun walked => { walked with function := state.function }) fun _ => rfl
  · exact hwalked

/-- Where the kind of a function is another, the walk has come back to its route anyway. -/
theorem Turned.leave_alike {entered walked gone : State} (hturned : Turned node another)
    (hentered : enter setting node state = .ok entered)
    (hwalked : visitAll setting node.parts.flatten entered = .ok walked) (h : Alike state twin)
    (hgone : Alike walked gone) :
    Alike (leave node.form state walked) (leave another.form twin gone) := by
  cases hturned with
  | same => exact SourceFlow.leave_alike h hgone
  | moved => exact SourceFlow.leave_alike h hgone
  | parts => exact SourceFlow.leave_alike h hgone
  | function hroute =>
    rw [enter_function hroute] at hentered
    cases hentered
    have hkeeps := visitAll_route hwalked
    have hreturned : walked.route = state.route := hkeeps
    have harrived : gone.route = twin.route := by rw [hgone.route, hreturned, h.route]
    rw [Node.functionDef, Node.functionDef, Node.form, Node.form, leave_function hreturned,
      leave_function harrived, h.function]
    exact hgone.congr (fun walked => { walked with function := state.function }) fun _ => rfl

variable (hsetting : setting.Resembles other)
include hsetting

/-- One node is entered alike in both runs. -/
theorem enter_alike (hturned : Turned node another)
    (hcall : node.form = .call → setting.JudgesAlike other node.place) (h : Alike state twin) :
    RunAlike (enter setting node state) (enter other another twin) := by
  cases hturned with
  | same node =>
    unfold enter
    split
    · exact (h.congr (enterFunction _ _) fun _ => rfl).ok
    · exact (h.congr (fun state => { state with function := some _ }) fun _ => rfl).ok
    · exact assign_alike hsetting _ _ _ _ h
    · exact checkCall_alike hsetting (hcall rfl) h
    · exact h.ok
  | moved => exact assign_alike hsetting _ _ _ _ h
  | parts hform _ =>
    rw [enter_of_not_active hform, enter_of_not_active hform]
    exact h.ok
  | function hroute _ =>
    rw [enter_function hroute, enter_function hroute]
    exact (h.congr (fun state => { state with function := some _ }) fun _ => rfl).ok

/-- **Two walks.** -/
theorem visit_alike {node another : Node} (hturned : Turned node another)
    (hcalls : ∀ inner ∈ node.preorder, inner.form = .call → setting.JudgesAlike other inner.place)
    {state twin : State} (h : Alike state twin) :
    RunAlike (visit setting node state) (visit other another twin) := by
  have hparts {state twin : State} (h : Alike state twin) :
      RunAlike (visitAll setting node.parts.flatten state)
        (visitAll other another.parts.flatten twin) := by
    refine map_foldlM_congr hturned.parts_flatten (fun child hchild {_ _ _} hturned h => ?_) h
    have := sizeOf_lt_of_mem_parts hchild
    exact visit_alike hturned
      (fun inner hinner => hcalls inner (preorder_subset_of_mem_parts hchild hinner)) h
  rw [RunAlike, visit_eq, visit_eq]
  refine map_bind_congr (enter_alike hsetting hturned (hcalls node (self_mem_preorder node)) h)
    fun entered arrived hentered halike => ?_
  refine map_bind_congr (hparts halike) fun walked gone hwalked hgone => ?_
  exact (hturned.leave_alike hentered hwalked h hgone).ok
  termination_by sizeOf node

end Walk

/-! ## Two texts -/

theorem judgesAlike_of_snippet {other : Setting} {place : Place}
    (h : other.snippet place = setting.snippet place) : setting.JudgesAlike other place := by
  constructor <;> simp [h]

/-- What an analysis tells: its findings but for the code that they show, and what it knows of
variables and of the flow of data. -/
def told (state : State) : List Finding × Table Taint.Record × List Taint.FlowEdge :=
  (state.bare.findings, state.tracker.records, state.tracker.edges)

section Texts

variable {file head rest : String} {method : Classify.Method} {tree twin : Node}

end Texts

/-- A module whose function, of this kind, has its body on its own line. -/
def reader (kind : String) : String :=
  "# Data\n" ++ kind ++ " load(id): data = request.json\nsave()\n"

def readerTree (isAsync : Bool) : Node :=
  .module [.functionDef ⟨2, 0, 2⟩ isAsync "load"
      (.parameters [] [.parameter ⟨2, 0, 2⟩ "id" []] [] [] [] [] [])
      [.assign ⟨2, if isAsync then 20 else 14, 2⟩ [.name ⟨2, 0, 2⟩ "data"]
        (.member ⟨2, 0, 2⟩ "json" (.name ⟨2, 0, 2⟩ "request"))] [] [],
    .expression ⟨3, 0, 3⟩ (.call ⟨3, 0, 3⟩ (.name ⟨3, 0, 3⟩ "save") [] [])]

def isReaderTree (isAsync : Bool) : Option Node → Bool
  | some (.mk .module root [[.functionDef whole kind id
        (.mk .parameters inputs [[], [.parameter input inputId []], [], [], [], [], []])
        [.assign row [.name target targetId] (.member value part (.name object objectId))] [] [],
      .expression last (.call call (.name function functionId) [] [])]]) =>
    kind == isAsync && [id, inputId, targetId, part, objectId, functionId] ==
        ["load", "id", "data", "json", "request", "save"] &&
      row == ⟨2, if isAsync then 20 else 14, 2⟩ &&
      [root, inputs] == List.replicate 2 ⟨0, 0, 0⟩ &&
      [whole, input, target, value, object] == List.replicate 5 ⟨2, 0, 2⟩ &&
      [last, call, function] == List.replicate 3 ⟨3, 0, 3⟩
  | _ => false

theorem eq_readerTree {isAsync : Bool} {tree : Option Node} (h : isReaderTree isAsync tree = true) :
    tree = some (readerTree isAsync) := by
  unfold isReaderTree at h
  split at h
  · simp only [Bool.and_eq_true, beq_iff_eq, List.replicate, List.cons.injEq] at h
    obtain ⟨⟨⟨⟨⟨rfl, rfl, rfl, rfl, rfl, rfl, rfl, -⟩, rfl⟩, rfl, rfl, -⟩, rfl, rfl, rfl,
      rfl, rfl, -⟩, rfl, rfl, rfl, -⟩ := h
    rfl
  · cases h

def isCall : Form → Bool
  | .call => true
  | _ => false

def contextsOf (code : String) : Option (List (Option String)) :=
  (analyze? "app.py" code).toOption.map fun result => (result.getD {}).tracker.edges.map (·.context)

/-- A function with a route, of this kind. -/
def routedReader (kind : String) : String :=
  "@app.route('/a')\n" ++ kind ++ " f():\n    d = request.json\n"

end PrivacyScan.SourceFlow
