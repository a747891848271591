import PrivacyScan.ScriptFlow.Trace

/-!
# How far the walk through a script comes

The walk goes through the tree of a script and follows assignments and calls. It has no result of
its own for a member of tainted data whose property has no name, such as `x = data["key"]`: there it
ends, and what stands behind is not looked at.
-/

namespace PrivacyScan.ScriptFlow

open Script (Node)
open Taint (Tracker)

/-- What the walk follows. -/
inductive Event where
  | assignment (target source : Node) (line : Int)
  | call (callee : Node) (arguments : List Node) (line : Int)

def declared? (line : Int) : Node → Option Event
  | .declarator _ target [value] => some (.assignment target value line)
  | _ => none

def ownEvents : Node → List Event
  | .declaration line declarators => declarators.filterMap (declared? line)
  | .assignment line left right => [.assignment left right line]
  | .call line arguments callee => [.call callee arguments line]
  | _ => []

mutual

/-- All declarations with a value, assignments and calls of a tree, each before those in its
parts. -/
def eventsOf : Node → List Event
  | .mk form line parts => ownEvents (.mk form line parts) ++ eventsOfGroups parts

def eventsOfGroups : List (List Node) → List Event
  | [] => []
  | group :: rest => eventsOfList group ++ eventsOfGroups rest

def eventsOfList : List Node → List Event
  | [] => []
  | node :: rest => eventsOf node ++ eventsOfList rest

end

def perform : Event → Walk Unit
  | .assignment target source line => traceAssignment target source line
  | .call callee arguments line => modify (traceCall callee arguments line)

/-- What is known after an event. -/
def after (tracker : Tracker) (event : Event) : Tracker := ((perform event).run.run tracker).2

/-- A variable gets a member of a tainted one, and the property has no name. -/
def Refused (tracker : Tracker) : Event → Prop
  | .assignment target (.member _ _ object property) _ =>
    (∃ name, nodeName? target = some name ∧ name ≠ "") ∧ nodeName? property = none ∧
      ∃ name, nodeName? object = some name ∧ tracker.holds name
  | _ => False

/-! ## One event -/

theorem run_get_bind (tracker : Tracker) (rest : Tracker → Walk Unit) :
    (get >>= rest).run.run tracker = (rest tracker).run.run tracker := rfl

theorem run_bind_ok {first : Walk Unit} {rest : Unit → Walk Unit} {tracker next : Tracker}
    (h : first.run.run tracker = (.ok (), next)) :
    (first >>= rest).run.run tracker = (rest ()).run.run next := by
  rw [ExceptT.run_bind, StateT.run_bind, h]
  rfl

theorem run_bind_error {first : Walk Unit} {rest : Unit → Walk Unit} {tracker next : Tracker}
    {fault : Fault} (h : first.run.run tracker = (.error fault, next)) :
    (first >>= rest).run.run tracker = (.error fault, next) := by
  rw [ExceptT.run_bind, StateT.run_bind, h]
  rfl

theorem nodeName?_member {line : Nat} {isComputed : Bool} {object property : Node}
    (h : nodeName? property = none) :
    nodeName? (.mk (.member isComputed) line [[object], [property]]) = none := by
  cases isComputed with
  | true => rfl
  | false =>
    rw [nodeName?, h]
    cases nodeName? object <;> rfl

variable {tracker : Tracker} {event : Event}

theorem perform_of_refused (h : Refused tracker event) :
    (perform event).run.run tracker = (.error (.noMember .none "lower"), tracker) := by
  unfold Refused at h
  split at h
  · obtain ⟨⟨name, htarget, hne⟩, hproperty, owner, howner, hholds⟩ := h
    obtain ⟨record, hrecord⟩ := Option.isSome_iff_exists.mp hholds
    have hbound : (some owner).bind tracker.record? = some record := hrecord
    have hempty : ¬ name.isEmpty = true := fun h => hne (String.isEmpty_iff.mp h)
    simp only [perform, traceAssignment, htarget, nodeName?_member hproperty, if_neg hempty,
      traceMember, howner, hproperty]
    rw [run_get_bind, hbound]
    rfl
  · cases h

theorem traceMember_ok {name : String} {source object property : Node} {line : Int}
    (h : nodeName? property = none → (nodeName? object).bind tracker.record? = none) :
    ((traceMember name source object property line).run.run tracker).1 = .ok () := by
  unfold traceMember
  rw [run_get_bind]
  split
  · rfl
  · next record hrecord =>
    split
    · next hnone => cases hrecord.symm.trans (h hnone)
    · rfl

/-- An event that is not refused is followed. -/
theorem perform_ok (h : ¬ Refused tracker event) :
    ((perform event).run.run tracker).1 = .ok () := by
  cases event with
  | call callee arguments line => rfl
  | assignment target source line =>
    rw [perform, traceAssignment]
    split
    · rfl
    · next name htarget =>
      split
      · rfl
      · next hempty =>
        split
        · next isComputed number object property =>
          split
          · next hsource =>
            refine (congrArg Prod.fst (run_bind_ok rfl)).trans (traceMember_ok fun hnone => ?_)
            cases (nodeName?_member hnone).symm.trans hsource
          · refine traceMember_ok fun hnone =>
              Option.eq_none_iff_forall_ne_some.mpr fun record hrecord => ?_
            obtain ⟨owner, howner, hheld⟩ := Option.bind_eq_some_iff.mp hrecord
            exact h ⟨⟨name, htarget, fun he => hempty (String.isEmpty_iff.mpr he)⟩, hnone,
              owner, howner, Option.isSome_of_eq_some hheld⟩
        · split <;> rfl

theorem perform_of_not_refused (h : ¬ Refused tracker event) :
    (perform event).run.run tracker = (.ok (), after tracker event) :=
  Prod.ext (perform_ok h) rfl

/-! ## The events of a node -/

theorem forM_filterMap {step : Node → Walk Unit} {event? : Node → Option Event}
    (h : ∀ node, step node = (event? node).elim (pure ()) perform) (nodes : List Node) :
    nodes.forM step = forM (nodes.filterMap event?) perform := by
  induction nodes with
  | nil => rfl
  | cons node rest ih =>
    change step node >>= (fun _ => rest.forM step) = _
    rw [h node, ih, List.filterMap_cons]
    cases event? node <;> rfl

/-- What is done at a node is to follow its own events in their order. -/
theorem enterNode_eq (node : Node) : enterNode node = forM (ownEvents node) perform := by
  fun_cases ownEvents node with
  | case1 line declarators =>
    refine forM_filterMap (fun node => ?_) declarators
    split
    · rfl
    · next hother =>
      rw [declared?]
      · rfl
      · exact hother
  | case2 line left right => exact (bind_pure _).symm
  | case3 line arguments callee => exact (bind_pure _).symm
  | case4 node hdeclaration hassignment hcall =>
    rw [enterNode]
    · rfl
    all_goals assumption

mutual

theorem visitNode_eq (node : Node) : visitNode node = forM (eventsOf node) perform := by
  cases node with
  | mk form line parts =>
    rw [visitNode, eventsOf, List.forM_append, ← enterNode_eq, ← visitNodeGroups_eq]

theorem visitNodeGroups_eq (groups : List (List Node)) :
    visitNodeGroups groups = forM (eventsOfGroups groups) perform := by
  cases groups with
  | nil => rfl
  | cons group rest =>
    rw [visitNodeGroups, eventsOfGroups, List.forM_append, ← visitNodeList_eq, ← visitNodeGroups_eq]

theorem visitNodeList_eq (nodes : List Node) :
    visitNodeList nodes = forM (eventsOfList nodes) perform := by
  cases nodes with
  | nil => rfl
  | cons node rest =>
    rw [visitNodeList, eventsOfList, List.forM_append, ← visitNode_eq, ← visitNodeList_eq]

end

/-! ## The whole walk -/

/-- From `tracker` these events lead to `last`, and none of them is refused. -/
inductive Performs : Tracker → List Event → Tracker → Prop where
  | nil (tracker : Tracker) : Performs tracker [] tracker
  | cons {tracker last : Tracker} {event : Event} {rest : List Event} (h : ¬ Refused tracker event)
    (hrest : Performs (after tracker event) rest last) : Performs tracker (event :: rest) last

/-- A run over events performs them up to the first that is refused. Induction on the events, with
what is known before them left open. -/
theorem forM_perform (events : List Event) (tracker : Tracker) :
    ∃ done rest, events = done ++ rest ∧
      Performs tracker done ((forM events perform).run.run tracker).2 ∧
      (∀ event ∈ rest.head?, Refused ((forM events perform).run.run tracker).2 event) ∧
      (((forM events perform).run.run tracker).1 = .ok () ↔ rest = []) := by
  induction events generalizing tracker with
  | nil => exact ⟨[], [], rfl, .nil tracker, nofun, iff_of_true rfl rfl⟩
  | cons event events ih =>
    by_cases hrefused : Refused tracker event
    · have hrun : (forM (event :: events) perform).run.run tracker =
          (.error (.noMember .none "lower"), tracker) :=
        run_bind_error (perform_of_refused hrefused)
      rw [hrun]
      exact ⟨[], event :: events, rfl, .nil tracker, by simpa using hrefused, by simp⟩
    · have hrun : (forM (event :: events) perform).run.run tracker =
          (forM events perform).run.run (after tracker event) :=
        run_bind_ok (perform_of_not_refused hrefused)
      obtain ⟨done, rest, hevents, hdone, hrest, hall⟩ := ih (after tracker event)
      rw [hrun]
      exact ⟨event :: done, rest, congrArg (event :: ·) hevents, .cons hrefused hdone, hrest, hall⟩

/-- **The walk performs the events of a tree in their order, up to the first that is refused.** It
is through only when there is none. -/
theorem walk_ends_at_first_refused (tree : Node) (tracker : Tracker) :
    ∃ done rest, eventsOf tree = done ++ rest ∧
      Performs tracker done ((visitNode tree).run.run tracker).2 ∧
      (∀ event ∈ rest.head?, Refused ((visitNode tree).run.run tracker).2 event) ∧
      (((visitNode tree).run.run tracker).1 = .ok () ↔ rest = []) := by
  rw [visitNode_eq]
  exact forM_perform (eventsOf tree) tracker

/-- The tree of `x = t['k']; console.log(t);`. -/
def keyedTree : Node :=
  .mk .program 1 [[
    .mk .expressionStatement 1 [[.assignment 1 (.identifier 1 "x")
      (.member 1 true (.identifier 1 "t") (.mk (.literal (some "k")) 1 []))]],
    .mk .expressionStatement 1 [[.call 1 [.identifier 1 "t"]
      (.member 1 false (.identifier 1 "console") (.identifier 1 "log"))]]]]

def keyedTracker : Tracker := Tracker.markScript {} "t" ["email"] (some "seed")

/-- The data that is logged in the second statement is not seen. -/
theorem keyedTree_not_walked :
    (eventsOf keyedTree).length = 2 ∧
      ((visitNode keyedTree).run.run keyedTracker).1.toBool = false ∧
      ((visitNode keyedTree).run.run keyedTracker).2.edges = [] ∧
      (traceCall (.member 1 false (.identifier 1 "console") (.identifier 1 "log"))
        [.identifier 1 "t"] 1 keyedTracker).edges.length = 1 := by
  decide

end PrivacyScan.ScriptFlow
