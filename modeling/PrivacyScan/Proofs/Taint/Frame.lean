import PrivacyScan.Proofs.Taint.Laundering

/-!
# What an assignment leaves alone

A variable, a member, an item and a call are followed in ways of their own, but all four come to the
same: the target is observed once, and then there is an edge from each of some variables that stand
in the value. That is said once, and the rest is read off it:

* **`propagate_framed`** — so it stays inside its frame: other variables, the parameters, the
  columns and the old edges are as before;
* **`perform_closed`**, **`run_closed`** — and both ends of every edge are known variables, after
  one operation and after any number of them.
-/

namespace PrivacyScan.Taint.Tracker

open Source (Node Place)

variable {tracker after : Tracker} {name target : String} {line : Int} {context : Option String}

/-- The variable stands directly in the value: it is copied, it is the one whose member or item is
taken, or it is among the arguments of a call. -/
inductive Reads (name : String) : Node → Prop where
  | copy (place : Place) : Reads name (.name place name)
  | member (place : Place) (id : String) {value : Node} (hvalue : value.name? = some name) :
      Reads name (.member place id value)
  | item (place valuePlace : Place) (index : Node) :
      Reads name (.subscript place (.name valuePlace name) index)
  | argument (place argumentPlace : Place) (function : Node) {inputs : List Node}
      (keywords : List Node) (hinput : .name argumentPlace name ∈ inputs) :
      Reads name (.call place function inputs keywords)

/-! ## Which variables are known after an observation -/

theorem holds_iff : tracker.holds name = true ↔ ∃ record, tracker.record? name = some record :=
  Option.isSome_iff_exists

theorem holds_mark_self (tracker : Tracker) (name : String) (mark : Mark) :
    (tracker.mark name mark).holds name = true :=
  Table.hasKey_set_self ..

theorem holds_mark (h : tracker.holds name = true) (target : String) (mark : Mark) :
    (tracker.mark target mark).holds name = true :=
  Table.hasKey_set h ..

theorem eq_name_of_isTainted {argument : Node} (hname : argument.name? = some name)
    (htainted : tracker.isTainted argument = true) :
    ∃ place, argument = .name place name ∧ tracker.holds name = true := by
  refine ⟨argument.place, ?_, holds_of_isTainted hname htainted⟩
  unfold isTainted at htainted
  split at htainted
  · cases hname
    rfl
  · cases hname
  · cases hname
  · cases htainted

/-! ## Following an assignment -/

def follow (tracker : Tracker) (target : String) (mark : Mark) (added : List FlowEdge) : Tracker :=
  { tracker.mark target mark with edges := tracker.edges ++ added }

theorem follow_nil (tracker : Tracker) (target : String) (mark : Mark) :
    tracker.follow target mark [] = tracker.mark target mark := by
  unfold follow
  rw [List.append_nil]
  rfl

theorem foldl_addEdge_eq {α : Type} (edgeOf : α → FlowEdge) (items : List α) (tracker : Tracker) :
    items.foldl (fun tracker item => tracker.addEdge (edgeOf item)) tracker =
      { tracker with edges := tracker.edges ++ items.map edgeOf } := by
  induction items generalizing tracker with
  | nil => simp
  | cons item rest ih =>
    rw [List.foldl_cons, ih]
    simp [addEdge]

/-- The edges of an assignment: they lead to the target from variables that stand in the value and
are known once the target is, and every variable of the value that was known before has one. -/
structure IsFollowed (tracker : Tracker) (target : String) (source : Node) (line : Int)
    (mark : Mark) (added : List FlowEdge) : Prop where
  leads : ∀ edge ∈ added, edge.target = target ∧ edge.targetLine = line ∧
    ∃ name, edge.source = some name ∧ Reads name source ∧
      (tracker.mark target mark).holds name = true
  complete : ∀ name, Reads name source → tracker.holds name = true →
    ∃ edge ∈ added, edge.source = some name

/-- The possible results of an assignment: nothing happens because no variable in the value is
known, or the assignment is followed. -/
def MayBecome (tracker : Tracker) (target : String) (source : Node) (line : Int) (after : Tracker) :
    Prop :=
  (after = tracker ∧ ∀ name, Reads name source → tracker.holds name = false) ∨
    ∃ mark added, IsFollowed tracker target source line mark added ∧
      after = tracker.follow target mark added

section Single

variable {source : Node} {mark : Mark} {base : String}

/-- A value with one variable that is known once the target is has the edge from this variable. -/
theorem mayBecome_addEdge {edge : FlowEdge} (hreads : ∀ name, Reads name source ↔ base = name)
    (hbase : (tracker.mark target mark).holds base = true) (hsource : edge.source = some base)
    (htarget : edge.target = target) (hline : edge.targetLine = line) :
    MayBecome tracker target source line ((tracker.mark target mark).addEdge edge) := by
  refine .inr ⟨mark, [edge],
    { leads := fun other hother => ?_, complete := fun name hread _ => ?_ }, rfl⟩
  · obtain rfl := List.mem_singleton.mp hother
    exact ⟨htarget, hline, base, hsource, (hreads base).mpr rfl, hbase⟩
  · obtain rfl := (hreads name).mp hread
    exact ⟨edge, List.mem_singleton_self edge, hsource⟩

/-- A value whose variables are not known, also not once the target is, has no edge. -/
theorem mayBecome_mark
    (hreads : ∀ name, Reads name source → (tracker.mark target mark).holds name = false) :
    MayBecome tracker target source line (tracker.mark target mark) := by
  refine .inr ⟨mark, [], { leads := nofun, complete := fun name hread hbefore => ?_ },
    (follow_nil ..).symm⟩
  have hafter := holds_mark hbefore target mark
  rw [hreads name hread] at hafter
  cases hafter

end Single

/-- A variable is given the value of another one. -/
theorem propagateName_cases (tracker : Tracker) (place : Place) (target id : String) (line : Int)
    (context : Option String) :
    MayBecome tracker target (.name place id) line
      (tracker.propagateName target id line context) := by
  have hreads (name : String) : Reads name (.name place id) ↔ id = name := by
    constructor
    · rintro ⟨_⟩
      rfl
    · rintro rfl
      exact .copy place
  unfold propagateName
  split
  · next hnone =>
    refine .inl ⟨rfl, fun name hread => ?_⟩
    rw [← (hreads name).mp hread]
    exact Option.isSome_eq_false_iff.mpr (Option.isNone_iff_eq_none.mpr hnone)
  · next record hrecord =>
    exact mayBecome_addEdge hreads (holds_mark (holds_iff.mpr ⟨record, hrecord⟩) ..) rfl rfl rfl

/-- A variable is given a member, of a known object or by the name of the member alone. -/
theorem propagateMember_cases (tracker : Tracker) (place : Place) (target id : String)
    (value : Node) (line : Int) (context : Option String) :
    MayBecome tracker target (.member place id value) line
      (tracker.propagateMember target id value line context) := by
  have hreads (name : String) : Reads name (.member place id value) ↔ value.name? = some name := by
    constructor
    · rintro ⟨_⟩
      assumption
    · exact .member place id
  unfold propagateMember
  split
  · next huntainted =>
    refine .inl ⟨rfl, fun name hread => ?_⟩
    simp only [isTaintedMember, (hreads name).mp hread, Option.any_some, Bool.not_eq_true',
      Bool.or_eq_false_iff] at huntainted
    exact huntainted.1
  · cases hvalue : value.name? with
    | none =>
      -- a member of what is no variable reads none, and is tainted for its own name alone
      refine mayBecome_mark fun name hread => ?_
      rw [hreads, hvalue] at hread
      cases hread
    | some base =>
      have hbase (name : String) : Reads name (.member place id value) ↔ base = name := by
        rw [hreads, hvalue, Option.some_inj]
      dsimp only
      split
      · next hknown => exact mayBecome_addEdge hbase hknown rfl rfl rfl
      · next hunknown =>
        refine mayBecome_mark fun name hread => ?_
        rw [← (hbase name).mp hread]
        exact Bool.eq_false_iff.mpr hunknown

/-- A variable is given an element. -/
theorem propagateSubscript_cases {place : Place} {value index : Node}
    (h : tracker.propagateSubscript target value index line context = .ok after) :
    MayBecome tracker target (.subscript place value index) line after := by
  unfold propagateSubscript at h
  split at h
  · next huntainted =>
    cases h
    refine .inl ⟨rfl, ?_⟩
    rintro name ⟨_⟩
    simpa [isTainted] using huntainted
  · next htainted =>
    rw [Bool.not_eq_true', Bool.not_eq_false] at htainted
    obtain ⟨piiTypes, _, hafter⟩ := Outcome.bind_eq_ok.mp h
    dsimp only at hafter
    split at hafter
    · next base hvalue =>
      -- a value that is tainted and names a variable is that variable, which was known before
      obtain ⟨valuePlace, rfl, hbefore⟩ := eq_name_of_isTainted hvalue htainted
      rw [if_pos (holds_mark hbefore ..)] at hafter
      cases hafter
      refine mayBecome_addEdge (fun name => ⟨?_, ?_⟩) (holds_mark hbefore ..) rfl rfl rfl
      · rintro ⟨_⟩
        rfl
      · rintro rfl
        exact .item place valuePlace index
    · next hvalue =>
      cases hafter
      refine mayBecome_mark ?_
      rintro name ⟨_⟩
      cases hvalue

/-- A variable is given the result of a call. -/
theorem propagateCall_cases (tracker : Tracker) (place : Place) (target : String) (function : Node)
    (inputs keywords : List Node) (line : Int) (context : Option String) :
    MayBecome tracker target (.call place function inputs keywords) line
      (tracker.propagateCall target function inputs line context) := by
  unfold propagateCall
  split
  · next hnone =>
    refine .inl ⟨rfl, fun name hread => ?_⟩
    cases hread with
    | argument _ argumentPlace _ _ hinput =>
      exact Bool.eq_false_iff.mpr (List.filter_eq_nil_iff.mp hnone _ hinput)
  · -- each tainted argument has given its edge, and nothing else has
    dsimp only
    rw [foldl_addEdge_eq]
    refine .inr
      ⟨_, _, { leads := fun edge hedge => ?_, complete := fun name hread hbefore => ?_ }, rfl⟩
    · obtain ⟨name, hname, rfl⟩ := List.mem_map.mp hedge
      obtain ⟨argument, hargument, hnamed⟩ := List.mem_filterMap.mp hname
      obtain ⟨hinput, htainted⟩ := List.mem_filter.mp hargument
      obtain ⟨argumentPlace, rfl, hknown⟩ := eq_name_of_isTainted hnamed htainted
      exact ⟨rfl, rfl, name, rfl, .argument place argumentPlace function keywords hinput,
        holds_mark hknown ..⟩
    · cases hread with
      | argument _ argumentPlace _ _ hinput =>
        have hargument : .name argumentPlace name ∈ inputs.filter tracker.isTainted :=
          List.mem_filter.mpr ⟨hinput, hbefore⟩
        exact ⟨_, List.mem_map_of_mem (List.mem_filterMap.mpr ⟨_, hargument, rfl⟩), rfl⟩

/-- **All that an assignment can do.** Nothing happens where no variable of the value is known;
otherwise the target is observed and has edges from the variables of the value. -/
theorem propagate_cases {source : Node}
    (h : tracker.propagate target source line context = .ok after) :
    MayBecome tracker target source line after := by
  unfold propagate at h
  split at h
  · cases h
    exact propagateName_cases ..
  · cases h
    exact propagateMember_cases ..
  · exact propagateSubscript_cases h
  · cases h
    exact propagateCall_cases ..
  · next hname hmember hitem hcall =>
    cases h
    refine .inl ⟨rfl, fun name hread => ?_⟩
    cases hread with
    | copy => exact (hname _ _ rfl).elim
    | member => exact (hmember _ _ _ rfl).elim
    | item => exact (hitem _ _ _ rfl).elim
    | argument => exact (hcall _ _ _ _ rfl).elim

/-! ## The frame of an assignment -/

/-- What an assignment may change: of the records only that of the target, and of the edges only
what stands behind the old ones. A new edge leads to the target on the line of the assignment, from
a variable of the value that is known afterwards, and there is none unless the target is known then.
Every variable of the value that was known before has one. -/
structure Framed (target : String) (source : Node) (line : Int) (before after : Tracker) :
    Prop where
  records : ∀ name, name ≠ target → after.record? name = before.record? name
  parameters : after.parameters = before.parameters
  columns : after.columns = before.columns
  edges : ∃ added, after.edges = before.edges ++ added ∧
    (∀ edge ∈ added, edge.target = target ∧ edge.targetLine = line ∧
      ∃ name, edge.source = some name ∧ Reads name source ∧ after.holds name = true) ∧
    (added ≠ [] → after.holds target = true) ∧
    ∀ name, Reads name source → before.holds name = true → ∃ edge ∈ added, edge.source = some name

theorem propagate_framed {source : Node}
    (h : tracker.propagate target source line context = .ok after) :
    Framed target source line tracker after := by
  rcases propagate_cases h with ⟨rfl, hunknown⟩ | ⟨mark, added, hfollowed, rfl⟩
  · refine ⟨fun _ _ => rfl, rfl, rfl, [], (List.append_nil _).symm, nofun, nofun, ?_⟩
    intro name hread hknown
    rw [hunknown name hread] at hknown
    cases hknown
  · exact ⟨fun name hne => record?_mark_of_ne mark hne, rfl, rfl, added, rfl, hfollowed.leads,
      fun _ => holds_mark_self tracker target mark, hfollowed.complete⟩

/-! ## Both ends of every edge -/

/-- Every edge leads from a known variable to a known variable. -/
def Closed (tracker : Tracker) : Prop :=
  ∀ edge ∈ tracker.edges,
    (∃ name, edge.source = some name ∧ tracker.holds name = true) ∧ tracker.holds edge.target = true

theorem Closed.of_holds (hclosed : tracker.Closed)
    (hholds : ∀ name, tracker.holds name = true → after.holds name = true) {edge : FlowEdge}
    (hedge : edge ∈ tracker.edges) :
    (∃ name, edge.source = some name ∧ after.holds name = true) ∧
      after.holds edge.target = true := by
  obtain ⟨⟨name, hsource, hname⟩, htarget⟩ := hclosed edge hedge
  exact ⟨⟨name, hsource, hholds name hname⟩, hholds edge.target htarget⟩

theorem mark_closed (hclosed : tracker.Closed) (name : String) (mark : Mark) :
    (tracker.mark name mark).Closed :=
  fun _ hedge => hclosed.of_holds (fun _ hknown => holds_mark hknown name mark) hedge

/-- The new edges are closed by what the frame says of them, the old ones because no variable is
forgotten. -/
theorem propagate_closed {source : Node} (hclosed : tracker.Closed)
    (h : tracker.propagate target source line context = .ok after) : after.Closed := by
  rcases propagate_cases h with ⟨rfl, _⟩ | ⟨mark, added, hfollowed, rfl⟩
  · exact hclosed
  · intro edge hedge
    rcases List.mem_append.mp hedge with hold | hnew
    · exact mark_closed hclosed target mark edge hold
    · obtain ⟨htarget, _, name, hsource, _, hname⟩ := hfollowed.leads edge hnew
      rw [htarget]
      exact ⟨⟨name, hsource, hname⟩, holds_mark_self tracker target mark⟩

theorem perform_closed (hclosed : tracker.Closed) (operation : Operation) :
    (tracker.perform operation).Closed := by
  cases operation with
  | mark name mark => exact mark_closed hclosed name mark
  | assign target source line context =>
    show ((tracker.propagate target source line context).toOption.getD tracker).Closed
    cases hafter : tracker.propagate target source line context with
    | ok after => exact propagate_closed hclosed hafter
    | error fault => exact hclosed

theorem run_closed (hclosed : tracker.Closed) (operations : List Operation) :
    (tracker.run operations).Closed :=
  List.foldlRecOn operations perform hclosed fun _ hstate operation _ =>
    perform_closed hstate operation

/-- **An assignment stays inside its frame, and every edge has two known ends.** The first is said
of any tracker, the second of those that a new tracker becomes by observations and assignments. -/
theorem assignment_framed_and_edges_closed :
    (∀ (tracker : Tracker) (target : String) (source : Node) (line : Int) (context : Option String)
      (after : Tracker), tracker.propagate target source line context = .ok after →
        Framed target source line tracker after) ∧
      ∀ operations, (({} : Tracker).run operations).Closed :=
  ⟨fun _ _ _ _ _ _ h => propagate_framed h, run_closed nofun⟩

/-! ## A variable that is assigned to itself

The tracker knows `user`. The result of a call goes into `text`, and `text` is itself an argument:
there is an edge from `user`, but none from `text`, which was not known when the arguments were
looked at. -/

def extendedText : Node :=
  .call { line := 2, column := 0, endLine := 2 } (variableAt 2 "join")
    [variableAt 2 "text", variableAt 2 "user"] []

theorem extendedText_framed :
    ∃ after, userTracker.propagate "text" extendedText 2 none = .ok after ∧
      after.edges.map (fun edge => (edge.source, edge.target)) = [(some "user", "text")] ∧
      Framed "text" extendedText 2 userTracker after ∧ after.Closed := by
  refine ⟨_, rfl, by decide +kernel, ?_, ?_⟩
  · exact assignment_framed_and_edges_closed.1 userTracker "text" extendedText 2 none _ rfl
  · exact assignment_framed_and_edges_closed.2
      [.mark "user" { piiTypes := ["email"], line := 1 }, .assign "text" extendedText 2 none]

end PrivacyScan.Taint.Tracker
