import PrivacyScan.Proofs.Outcome
import PrivacyScan.Proofs.Table
import PrivacyScan.Proofs.Text
import PrivacyScan.Taint.Propagation

/-!
# Personal data along a chain of assignments

A tracker is told of variables and follows assignments. Whatever it is told, it forgets no type of
personal data that it knows of a variable, and a copy or a call hands on all types of the variable
that goes into it:

* **`propagate_carries`** — an assignment hands on what goes into its value.
-/

namespace PrivacyScan.Taint.Tracker

open Source (Node Place)

variable {tracker : Tracker} {name target piiType : String} {line : Int} {context : Option String}

/-- The variable holds personal data, and this is one of its types. -/
def Carries (tracker : Tracker) (name piiType : String) : Prop :=
  ∃ record, tracker.record? name = some record ∧ piiType ∈ record.piiTypes

/-- Every type that is known of a variable before is known of it after. -/
structure Keeps (before after : Tracker) : Prop where
  carries {name piiType : String} : before.Carries name piiType → after.Carries name piiType

namespace Keeps

variable {first second third : Tracker}

theorem refl (tracker : Tracker) : Keeps tracker tracker := ⟨id⟩

theorem trans (h : Keeps first second) (h' : Keeps second third) : Keeps first third :=
  ⟨fun hcarries => h'.carries (h.carries hcarries)⟩

end Keeps

/-! ## What one observation changes -/

theorem record?_mark_self (tracker : Tracker) (name : String) (mark : Mark) :
    (tracker.mark name mark).record? name =
      some (match tracker.record? name with
        | some record => mark.revise record
        | none => mark.record name) :=
  Table.get?_set_self ..

theorem record?_mark_of_ne {other : String} (mark : Mark) (hne : other ≠ name) :
    (tracker.mark name mark).record? other = tracker.record? other :=
  Table.get?_set_of_ne _ _ hne

/-- The variable of an observation has the types that were observed. -/
theorem mark_carries {mark : Mark} (htype : piiType ∈ mark.piiTypes) :
    (tracker.mark name mark).Carries name piiType := by
  refine ⟨_, record?_mark_self tracker name mark, ?_⟩
  cases tracker.record? name with
  | some record => exact Text.mem_sortedDistinct.mpr (List.mem_append_right _ htype)
  | none => exact htype

/-- **An observation forgets nothing.** A variable that was known keeps its types beside the new
ones, and the other variables are not touched. -/
theorem mark_keeps (tracker : Tracker) (name : String) (mark : Mark) :
    Keeps tracker (tracker.mark name mark) := by
  constructor
  rintro other piiType ⟨record, hrecord, htype⟩
  by_cases hname : other = name
  · subst hname
    refine ⟨_, record?_mark_self tracker other mark, ?_⟩
    rw [hrecord]
    exact Text.mem_sortedDistinct.mpr (List.mem_append_left _ htype)
  · refine ⟨record, ?_, htype⟩
    rw [record?_mark_of_ne mark hname, hrecord]

theorem addEdge_carries_iff {edge : FlowEdge} :
    (tracker.addEdge edge).Carries name piiType ↔ tracker.Carries name piiType :=
  Iff.rfl

theorem addEdge_keeps (tracker : Tracker) (edge : FlowEdge) :
    Keeps tracker (tracker.addEdge edge) :=
  ⟨addEdge_carries_iff.mpr⟩

theorem foldl_addEdge_keeps {α : Type} (edgeOf : α → FlowEdge) (items : List α)
    (tracker : Tracker) :
    Keeps tracker (items.foldl (fun tracker item => tracker.addEdge (edgeOf item)) tracker) := by
  induction items generalizing tracker with
  | nil => exact .refl tracker
  | cons item rest ih => exact (addEdge_keeps tracker _).trans (ih _)

/-! ## What an assignment changes -/

theorem propagateName_keeps (tracker : Tracker) (target id : String) (line : Int)
    (context : Option String) : Keeps tracker (tracker.propagateName target id line context) := by
  unfold propagateName
  split
  · exact .refl tracker
  · exact (mark_keeps ..).trans (addEdge_keeps ..)

theorem propagateMember_keeps (tracker : Tracker) (target id : String) (value : Node) (line : Int)
    (context : Option String) :
    Keeps tracker (tracker.propagateMember target id value line context) := by
  unfold propagateMember
  split
  · exact .refl tracker
  · cases value.name? with
    | none => exact mark_keeps ..
    | some base =>
      dsimp only
      split
      · exact (mark_keeps ..).trans (addEdge_keeps ..)
      · exact mark_keeps ..

/-- No type is lost by the assignment of an element. -/
theorem propagateSubscript_keeps {value index : Node} {after : Tracker}
    (h : tracker.propagateSubscript target value index line context = .ok after) :
    Keeps tracker after := by
  unfold propagateSubscript at h
  split at h
  · cases h
    exact .refl tracker
  · obtain ⟨piiTypes, _, h⟩ := Outcome.bind_eq_ok.mp h
    dsimp only at h
    split at h
    · split at h
      · cases h
        exact (mark_keeps ..).trans (addEdge_keeps ..)
      · cases h
        exact mark_keeps ..
    · cases h
      exact mark_keeps ..

theorem propagateCall_keeps (tracker : Tracker) (target : String) (function : Node)
    (inputs : List Node) (line : Int) (context : Option String) :
    Keeps tracker (tracker.propagateCall target function inputs line context) := by
  unfold propagateCall
  split
  · exact .refl tracker
  · dsimp only
    exact (mark_keeps ..).trans (foldl_addEdge_keeps _ _ _)

/-- **An assignment forgets nothing,** whatever is assigned. -/
theorem propagate_keeps {source : Node} {after : Tracker}
    (h : tracker.propagate target source line context = .ok after) : Keeps tracker after := by
  unfold propagate at h
  split at h
  · cases h
    exact propagateName_keeps ..
  · cases h
    exact propagateMember_keeps ..
  · exact propagateSubscript_keeps h
  · cases h
    exact propagateCall_keeps ..
  · cases h
    exact .refl tracker

/-! ## What goes into a value -/

/-- The value is the variable itself, or a call that has it among its plain arguments. -/
inductive Feeds (name : String) : Node → Prop where
  | copy (place : Place) : Feeds name (.name place name)
  | argument (place argumentPlace : Place) (function : Node) {inputs : List Node}
      (keywords : List Node) (hinput : .name argumentPlace name ∈ inputs) :
      Feeds name (.call place function inputs keywords)

theorem propagateName_carries (h : tracker.Carries name piiType) :
    (tracker.propagateName target name line context).Carries target piiType := by
  obtain ⟨record, hrecord, htype⟩ := h
  unfold propagateName
  rw [hrecord]
  exact addEdge_carries_iff.mpr (mark_carries htype)

/-- The result of a call has the types of all its tainted arguments. -/
theorem callMark_piiTypes {arguments : List Node} {argumentPlace : Place} {sanitizes : Bool}
    (harguments : .name argumentPlace name ∈ arguments) (h : tracker.Carries name piiType) :
    piiType ∈ (tracker.callMark arguments sanitizes line context).piiTypes := by
  obtain ⟨record, hrecord, htype⟩ := h
  have hmem : record ∈ arguments.filterMap tracker.recordOf? :=
    List.mem_filterMap.mpr ⟨.name argumentPlace name, harguments, hrecord⟩
  exact Text.mem_sortedDistinct.mpr (List.mem_flatMap.mpr ⟨record, hmem, htype⟩)

/-- The result of a call carries every type of an argument. -/
theorem propagateCall_carries {function : Node} {inputs : List Node} {argumentPlace : Place}
    (hinput : .name argumentPlace name ∈ inputs) (h : tracker.Carries name piiType) :
    (tracker.propagateCall target function inputs line context).Carries target piiType := by
  have htainted : tracker.isTainted (.name argumentPlace name) = true := by
    obtain ⟨record, hrecord, _⟩ := h
    show (tracker.records.get? name).isSome = true
    rw [show tracker.records.get? name = some record from hrecord]
    rfl
  have harguments : .name argumentPlace name ∈ inputs.filter tracker.isTainted :=
    List.mem_filter.mpr ⟨hinput, htainted⟩
  unfold propagateCall
  split
  · next hnone =>
    rw [hnone] at harguments
    cases harguments
  · dsimp only
    exact (foldl_addEdge_keeps _ _ _).carries (mark_carries (callMark_piiTypes harguments h))

theorem propagate_carries {source : Node} (hfeeds : Feeds name source)
    (h : tracker.Carries name piiType) :
    ∃ after, tracker.propagate target source line context = .ok after ∧
      after.Carries target piiType := by
  cases hfeeds with
  | copy place => exact ⟨_, rfl, propagateName_carries h⟩
  | argument place argumentPlace function keywords hinput =>
    exact ⟨_, rfl, propagateCall_carries hinput h⟩

/-! ## Sequences of operations -/

/-- What a tracker is told: an observation of a variable, or an assignment to one. -/
inductive Operation where
  | mark (name : String) (mark : Mark)
  | assign (target : String) (source : Node) (line : Int) (context : Option String)

def perform (tracker : Tracker) : Operation → Tracker
  | .mark name mark => tracker.mark name mark
  | .assign target source line context =>
    (tracker.propagate target source line context).toOption.getD tracker

def run (tracker : Tracker) (operations : List Operation) : Tracker :=
  operations.foldl perform tracker

theorem perform_assign {source : Node} {after : Tracker}
    (h : tracker.propagate target source line context = .ok after) :
    tracker.perform (.assign target source line context) = after := by
  show (tracker.propagate target source line context).toOption.getD tracker = after
  rw [h]
  rfl

theorem perform_keeps (tracker : Tracker) (operation : Operation) :
    Keeps tracker (tracker.perform operation) := by
  cases operation with
  | mark name mark => exact mark_keeps ..
  | assign target source line context =>
    cases hafter : tracker.propagate target source line context with
    | ok after =>
      rw [perform_assign hafter]
      exact propagate_keeps hafter
    | error fault =>
      show Keeps tracker ((tracker.propagate target source line context).toOption.getD tracker)
      rw [hafter]
      exact .refl tracker

/-- Assignments that hand data on from the first variable to the last: the first variable goes into
the first of the values, and the target of each assignment into the next one. -/
inductive Chain : String → List Operation → String → Prop where
  | nil (name : String) : Chain name [] name
  | link {first next last : String} {source : Node} {rest : List Operation}
      (hfeeds : Feeds first source) (line : Int) (context : Option String)
      (hrest : Chain next rest last) : Chain first (.assign next source line context :: rest) last

/-- **No type of personal data is lost along a chain of copies and calls.** The links of the chain
are among the operations, in order and with anything in between. -/
theorem type_kept_along_chain {first last : String} {operations links : List Operation}
    (hfirst : tracker.Carries first piiType) (hchain : Chain first links last)
    (hlinks : links.Sublist operations) : (tracker.run operations).Carries last piiType := by
  induction hlinks generalizing tracker first with
  | slnil =>
    cases hchain
    exact hfirst
  | cons operation _ ih =>
    -- an operation that stands between two links of the chain
    exact ih ((perform_keeps tracker operation).carries hfirst) hchain
  | cons_cons operation _ ih =>
    cases hchain with
    | link hfeeds line context hrest =>
      obtain ⟨after, hafter, hnext⟩ := propagate_carries hfeeds hfirst
      refine ih ?_ hrest
      rw [perform_assign hafter]
      exact hnext

/-! ## A chain through a sanitizer

An address is copied, and the copy goes into a digest. In between, the copy is observed once more
and assigned to itself. -/

def addressTracker : Tracker :=
  { records := [("address", { name := "address", piiTypes := ["email"], sourceLine := 1
                              sourceNode := "request" })] }

def variableAt (line : Nat) (name : String) : Node :=
  .name { line, column := 0, endLine := line } name

def copyAddress : Operation := .assign "copy" (variableAt 2 "address") 2 none

def digestCopy : Operation :=
  .assign "digest" (.call { line := 4, column := 0, endLine := 4 } (variableAt 4 "sha256")
    [variableAt 4 "salt", variableAt 4 "copy"] []) 4 none

def observeCopy : Operation := .mark "copy" { piiTypes := [], line := 2, isSanitized := true }

def reassignCopy : Operation := .assign "copy" (variableAt 3 "copy") 3 none

theorem digest_has_type_of_address :
    addressTracker.Carries "address" "email" ∧
      Chain "address" [copyAddress, digestCopy] "digest" ∧
      [copyAddress, digestCopy].Sublist [copyAddress, observeCopy, reassignCopy, digestCopy] ∧
      (addressTracker.run [copyAddress, observeCopy, reassignCopy, digestCopy]).Carries "digest"
        "email" := by
  have hfirst : addressTracker.Carries "address" "email" := ⟨_, rfl, List.mem_cons_self⟩
  have hcopied : variableAt 4 "copy" ∈ [variableAt 4 "salt", variableAt 4 "copy"] :=
    List.mem_cons_of_mem _ List.mem_cons_self
  have hchain : Chain "address" [copyAddress, digestCopy] "digest" :=
    .link (.copy _) _ _ (.link (.argument _ _ _ _ hcopied) _ _ (.nil _))
  have hlinks : [copyAddress, digestCopy].Sublist
      [copyAddress, observeCopy, reassignCopy, digestCopy] :=
    .cons_cons _ (.cons _ (.cons _ (.refl _)))
  exact ⟨hfirst, hchain, hlinks, type_kept_along_chain hfirst hchain hlinks⟩

end PrivacyScan.Taint.Tracker
