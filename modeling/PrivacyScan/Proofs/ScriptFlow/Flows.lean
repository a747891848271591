import PrivacyScan.Proofs.Findings
import PrivacyScan.Proofs.Table
import PrivacyScan.Proofs.Text
import PrivacyScan.ScriptFlow.Analysis

/-!
# What a line of a script says of its variables

The walk through the tree of a script may add a flow whose source has no name: that of a computed
member. The passes over its lines keep all flows and add only such that have a name, and what a line
says of its variables adds no flow and takes nothing back.
-/

namespace PrivacyScan.ScriptFlow

open Taint (Tracker Record FlowEdge inferScriptTypes)

/-- From `before` to `after` only flows that have a name were added. -/
def AddsNamed (before after : Tracker) : Prop :=
  ∃ added, after.edges = before.edges ++ added ∧ ∀ flow ∈ added, flow.source ≠ none

namespace AddsNamed

variable {first second third : Tracker}

theorem of_edges_eq (h : second.edges = first.edges) : AddsNamed first second :=
  ⟨[], by rw [h, List.append_nil], nofun⟩

theorem refl (tracker : Tracker) : AddsNamed tracker tracker := of_edges_eq rfl

theorem trans (h : AddsNamed first second) (h' : AddsNamed second third) :
    AddsNamed first third := by
  obtain ⟨added, hadded, hnamed⟩ := h
  obtain ⟨more, hmore, hnamed'⟩ := h'
  exact ⟨added ++ more, by rw [hmore, hadded, List.append_assoc],
    List.forall_mem_append.mpr ⟨hnamed, hnamed'⟩⟩

/-- What is added has a source, so it is told by the edges of before whether all have one. -/
theorem named_iff (h : AddsNamed first second) :
    (∀ flow ∈ second.edges, flow.source ≠ none) ↔ ∀ flow ∈ first.edges, flow.source ≠ none := by
  obtain ⟨added, hadded, hnamed⟩ := h
  rw [hadded, List.forall_mem_append]
  exact and_iff_left hnamed

end AddsNamed

theorem addScriptEdge_flows (tracker : Tracker) (source target : String) (number : Int)
    (flowType : String) (transformation context : Option String) :
    AddsNamed tracker
      (tracker.addScriptEdge (some source) target number flowType transformation context) :=
  ⟨[_], rfl, List.forall_mem_singleton.mpr (Option.some_ne_none source)⟩

/-- Every variable that has a record keeps one, with all types of its data. -/
def Retains (before after : Tracker) : Prop :=
  ∀ name record, before.record? name = some record →
    ∃ later, after.record? name = some later ∧ record.piiTypes ⊆ later.piiTypes

/-- From `before` to `after` something may have been learned of variables, and nothing else. -/
structure Learns (before after : Tracker) : Prop where
  edges : after.edges = before.edges
  retains : Retains before after

theorem Retains.refl (tracker : Tracker) : Retains tracker tracker :=
  fun _ record hrecord => ⟨record, hrecord, List.Subset.refl _⟩

theorem Retains.trans {first second third : Tracker} (h : Retains first second)
    (h' : Retains second third) : Retains first third := by
  intro name record hrecord
  obtain ⟨later, hlater, hsub⟩ := h name record hrecord
  obtain ⟨last, hlast, hsub'⟩ := h' name later hlater
  exact ⟨last, hlast, List.Subset.trans hsub hsub'⟩

namespace Learns

variable {first second third : Tracker}

theorem refl (tracker : Tracker) : Learns tracker tracker := ⟨rfl, .refl tracker⟩

theorem trans (h : Learns first second) (h' : Learns second third) : Learns first third :=
  ⟨h'.edges.trans h.edges, h.retains.trans h'.retains⟩

theorem foldl {α : Type} {step : Tracker → α → Tracker} {items : List α}
    (hstep : ∀ item ∈ items, ∀ tracker, Learns tracker (step tracker item)) (start : Tracker) :
    Learns start (items.foldl step start) :=
  foldl_relates Learns refl trans hstep start

/-- A record may take the place of one with no other types. -/
theorem of_set {tracker : Tracker} {name : String} {later : Record}
    (h : ∀ record, tracker.record? name = some record → record.piiTypes ⊆ later.piiTypes) :
    Learns tracker { tracker with records := tracker.records.set name later } := by
  refine ⟨rfl, fun other record hrecord => ?_⟩
  by_cases hname : other = name
  · subst hname
    exact ⟨later, Table.get?_set_self .., h record hrecord⟩
  · exact ⟨record, (Table.get?_set_of_ne _ _ hname).trans hrecord, List.Subset.refl _⟩

end Learns

/-! ## What a tracker is told -/

/-- A mark adds a record, and no edge. -/
theorem markScript_learns (tracker : Tracker) (name : String) (piiTypes : List String)
    (source context : Option String) (isSanitized : Bool) :
    Learns tracker (tracker.markScript name piiTypes source context isSanitized) := by
  unfold Tracker.markScript
  split
  · exact .refl tracker
  · refine .of_set fun record hrecord piiType htype => ?_
    rw [hrecord]
    exact Text.mem_sortedDistinct.mpr (List.mem_append_left _ htype)

theorem setRoute_learns (tracker : Tracker) (name route : String) :
    Learns tracker (tracker.setRoute name route) := by
  unfold Tracker.setRoute
  split
  · next record hrecord =>
    refine .of_set fun known hknown => ?_
    rw [Option.some.inj (hrecord.symm.trans hknown)]
    exact List.Subset.refl _
  · exact .refl tracker

/-! ## What a line says of its variables -/

theorem readAssignment_learns (text : String) (tracker : Tracker) :
    Learns tracker (readAssignment text tracker) := by
  unfold readAssignment
  split
  · exact .refl tracker
  · dsimp only
    split
    · exact .refl tracker
    · split
      · exact (markScript_learns ..).trans (markScript_learns ..)
      · exact markScript_learns ..

/-- Each name in the braces is marked by itself. -/
theorem readDestructuring_learns (script : Script) (line : Line) (text : String)
    (tracker : Tracker) : Learns tracker (readDestructuring script line text tracker) := by
  unfold readDestructuring
  split
  · exact .refl tracker
  · refine .foldl (fun name _ tracker => ?_) tracker
    dsimp only
    split
    · exact .refl tracker
    · split
      · split
        · exact (markScript_learns ..).trans (setRoute_learns ..)
        · exact markScript_learns ..
      · exact markScript_learns ..

theorem readParameters_learns (text : String) (tracker : Tracker) :
    Learns tracker (readParameters text tracker) := by
  unfold readParameters
  split
  · exact .refl tracker
  · exact .foldl (fun name _ tracker => markScript_learns ..) tracker

theorem readState_learns (text : String) (tracker : Tracker) :
    Learns tracker (readState text tracker) := by
  unfold readState
  split
  · exact .refl tracker
  · exact markScript_learns ..

theorem readDatabase_learns (text : String) (tracker : Tracker) :
    Learns tracker (readDatabase text tracker) := by
  unfold readDatabase
  split
  · exact .refl tracker
  · exact markScript_learns ..

/-- The result of a call to another module is marked with the types of that module. -/
theorem readCalls_learns (callResult : CallResult) (text : String) (tracker : Tracker) :
    Learns tracker (readCalls callResult text tracker) := by
  refine .foldl (fun found _ tracker => ?_) tracker
  unfold readCall
  dsimp only
  split
  · exact .refl tracker
  · split
    · split
      · exact markScript_learns ..
      · exact .refl tracker
    · exact .refl tracker

/-- All readers of a line, with the one for calls where other modules are known. -/
theorem followed_learns (script : Script) (callResult : Option CallResult) (line : Line)
    (text : String) (tracker : Tracker) :
    Learns tracker
      (match callResult with
        | some callResult => readCalls callResult text (readDatabase text (readState text
            (readParameters text
              (readDestructuring script line text (readAssignment text tracker)))))
        | none => readDatabase text (readState text (readParameters text
            (readDestructuring script line text (readAssignment text tracker))))) := by
  have hread := ((((readAssignment_learns text tracker).trans
    (readDestructuring_learns script line text _)).trans (readParameters_learns text _)).trans
    (readState_learns text _)).trans (readDatabase_learns text _)
  cases callResult with
  | none => exact hread
  | some callResult => exact hread.trans (readCalls_learns callResult text _)

end PrivacyScan.ScriptFlow
