import PrivacyScan.Proofs.Taint.Chain

/-!
# What a call leaves of unsanitized data

The result of a call with tainted arguments is tainted. Whether it counts as sanitized is asked of
the records of the arguments, and only a plain variable has one: a member or an item of a variable
can be tainted, but nothing is known of it.

* **`callMark_isSanitized_iff`** — the result counts as sanitized when the function is a sanitizer
  or no argument has a record that says otherwise.
-/

namespace PrivacyScan.Taint.Tracker

open Source (Node Place)

variable {tracker : Tracker} {target : String} {function : Node} {inputs : List Node} {line : Int}
  {context : Option String}

/-- The variable is tainted, and its record says that a sanitizer has seen its data. -/
def IsSanitized (tracker : Tracker) (name : String) : Prop :=
  ∃ record, tracker.record? name = some record ∧ record.isSanitized = true

/-- The argument is a variable that is tainted and counts as sanitized. -/
def IsSanitizedVariable (tracker : Tracker) (argument : Node) : Prop :=
  ∃ name, argument.name? = some name ∧ tracker.IsSanitized name

def Sanitizes (function : Node) : Prop := isSanitizerName ((calledName? function).getD "") = true

instance (function : Node) : Decidable (Sanitizes function) :=
  inferInstanceAs (Decidable (isSanitizerName ((calledName? function).getD "") = true))

/-! ## The record of the result -/

theorem record?_foldl_addEdge {α : Type} (edgeOf : α → FlowEdge) (items : List α)
    (tracker : Tracker) (name : String) :
    (items.foldl (fun tracker item => tracker.addEdge (edgeOf item)) tracker).record? name =
      tracker.record? name := by
  induction items generalizing tracker with
  | nil => rfl
  | cons item rest ih => exact ih (tracker.addEdge (edgeOf item))

/-- A call without tainted arguments tells nothing of a new variable; any other gives it the record
that the tainted arguments make. -/
theorem record?_propagateCall (hnew : tracker.record? target = none) :
    (tracker.propagateCall target function inputs line context).record? target =
      if inputs.filter tracker.isTainted = [] then none
      else some ((tracker.callMark (inputs.filter tracker.isTainted)
        (isSanitizerName ((calledName? function).getD "")) line context).record target) := by
  unfold propagateCall
  split
  · next hnone => rw [if_pos hnone, hnew]
  · next hsome =>
    rw [if_neg hsome]
    dsimp only
    rw [record?_foldl_addEdge, record?_mark_self, hnew]

theorem callMark_isSanitized_iff {arguments : List Node} {sanitizes : Bool} (line : Int)
    (context : Option String) :
    (tracker.callMark arguments sanitizes line context).isSanitized = true ↔
      sanitizes = true ∨ ∀ argument ∈ arguments, ∀ record,
        tracker.recordOf? argument = some record →
        record.isSanitized = true := by
  show (sanitizes || (arguments.filterMap tracker.recordOf?).all (·.isSanitized)) = true ↔ _
  rw [Bool.or_eq_true, List.all_eq_true]
  refine or_congr_right ?_
  constructor
  · intro hall argument hargument record hrecord
    exact hall record (List.mem_filterMap.mpr ⟨argument, hargument, hrecord⟩)
  · intro hall record hmem
    obtain ⟨argument, hargument, hrecord⟩ := List.mem_filterMap.mp hmem
    exact hall argument hargument record hrecord

/-! ## Which arguments have a record -/

theorem holds_of_isTainted {argument : Node} {name : String} (hname : argument.name? = some name)
    (htainted : tracker.isTainted argument = true) : tracker.holds name = true := by
  unfold isTainted at htainted
  split at htainted
  · cases hname
    exact htainted
  · cases hname
  · cases hname
  · cases htainted

theorem recordOf?_of_name? {argument : Node} {name : String} (hname : argument.name? = some name) :
    tracker.recordOf? argument = tracker.record? name := by
  unfold recordOf?
  rw [hname]
  rfl

/-- Every tainted variable among the arguments counts as sanitized. -/
def VariablesSanitized (tracker : Tracker) (inputs : List Node) : Prop :=
  ∀ argument ∈ inputs, tracker.isTainted argument = true → argument.name? ≠ none →
    tracker.IsSanitizedVariable argument

/-- Some argument is tainted and is no variable, but a member or an item of something. -/
def HasTaintedPart (tracker : Tracker) (inputs : List Node) : Prop :=
  ∃ argument ∈ inputs, tracker.isTainted argument = true ∧ argument.name? = none

/-- What allows the result of a call to count as sanitized: the function is a sanitizer, or every
tainted argument is a sanitized variable. -/
def MayLaunder (tracker : Tracker) (function : Node) (inputs : List Node) : Prop :=
  Sanitizes function ∨
    ∀ argument ∈ inputs, tracker.isTainted argument = true → tracker.IsSanitizedVariable argument

/-- No record says otherwise exactly when all tainted variables are sanitized: the other arguments
have no record to ask. -/
theorem forall_recordOf?_isSanitized_iff :
    (∀ argument ∈ inputs.filter tracker.isTainted, ∀ record,
        tracker.recordOf? argument = some record → record.isSanitized = true) ↔
      tracker.VariablesSanitized inputs := by
  constructor
  · intro hall argument hinput htainted hvariable
    obtain ⟨name, hname⟩ := Option.ne_none_iff_exists'.mp hvariable
    obtain ⟨record, hrecord⟩ :=
      Option.isSome_iff_exists.mp (holds_of_isTainted hname htainted)
    refine ⟨name, hname, record, hrecord, ?_⟩
    refine hall argument (List.mem_filter.mpr ⟨hinput, htainted⟩) record ?_
    rw [recordOf?_of_name? hname]
    exact hrecord
  · intro hall argument hargument record hrecord
    obtain ⟨hinput, htainted⟩ := List.mem_filter.mp hargument
    have hvariable : argument.name? ≠ none := by
      intro hnone
      rw [recordOf?, hnone] at hrecord
      cases hrecord
    obtain ⟨name, hname, known, hknown, hsanitized⟩ := hall argument hinput htainted hvariable
    rw [recordOf?_of_name? hname, hknown] at hrecord
    rw [← Option.some.inj hrecord]
    exact hsanitized

/-- **When the result of a call counts as sanitized.** -/
theorem propagateCall_isSanitized_iff (hnew : tracker.record? target = none) :
    (tracker.propagateCall target function inputs line context).IsSanitized target ↔
      (∃ argument ∈ inputs, tracker.isTainted argument = true) ∧
        (Sanitizes function ∨ tracker.VariablesSanitized inputs) := by
  have hsome : (∃ argument ∈ inputs, tracker.isTainted argument = true) ↔
      ¬ inputs.filter tracker.isTainted = [] := by
    rw [List.filter_eq_nil_iff]
    simp
  unfold IsSanitized
  rw [record?_propagateCall hnew, hsome, ← forall_recordOf?_isSanitized_iff]
  split
  · next hnone => simp [hnone]
  · next hnone =>
    -- the record of a new variable takes its flag from the mark
    rw [and_iff_right hnone]
    constructor
    · rintro ⟨record, hrecord, hsanitized⟩
      cases hrecord
      exact (callMark_isSanitized_iff line context).mp hsanitized
    · exact fun hclean => ⟨_, rfl, (callMark_isSanitized_iff line context).mpr hclean⟩

/-- **When a call launders data without a sanitizer.** The result of a call counts as sanitized when
some argument is tainted, and the function is a sanitizer or all tainted variables among the
arguments are sanitized. That is more than is allowed exactly where a tainted member or item stands
beside them: it has no record, so nobody asks for its sanitizer. -/
theorem call_launders_iff_part_beside_sanitized {place : Place} {keywords : List Node}
    (hnew : tracker.holds target = false) :
    ∃ after,
      tracker.propagate target (.call place function inputs keywords) line context = .ok after ∧
      (after.IsSanitized target ↔
        (∃ argument ∈ inputs, tracker.isTainted argument = true) ∧
          (Sanitizes function ∨ tracker.VariablesSanitized inputs)) ∧
      (after.IsSanitized target ∧ ¬ tracker.MayLaunder function inputs ↔
        ¬ Sanitizes function ∧ tracker.HasTaintedPart inputs ∧
          tracker.VariablesSanitized inputs) := by
  have hrecord : tracker.record? target = none :=
    Option.isNone_iff_eq_none.mp (Option.isSome_eq_false_iff.mp hnew)
  refine ⟨_, rfl, propagateCall_isSanitized_iff hrecord, ?_⟩
  rw [propagateCall_isSanitized_iff hrecord]
  constructor
  · rintro ⟨⟨_, hclean⟩, hmay⟩
    obtain ⟨hfunction, harguments⟩ := not_or.mp hmay
    have hvariables := hclean.resolve_left hfunction
    -- an argument that breaks the rule cannot be a variable
    simp only [Classical.not_forall] at harguments
    obtain ⟨argument, hinput, htainted, hraw⟩ := harguments
    have hpart : argument.name? = none :=
      Classical.byContradiction fun hvariable =>
        hraw (hvariables argument hinput htainted hvariable)
    exact ⟨hfunction, ⟨argument, hinput, htainted, hpart⟩, hvariables⟩
  · rintro ⟨hfunction, ⟨argument, hinput, htainted, hpart⟩, hvariables⟩
    refine ⟨⟨⟨argument, hinput, htainted⟩, .inr hvariables⟩, ?_⟩
    rintro (hsanitizer | harguments)
    · exact hfunction hsanitizer
    · obtain ⟨name, hname, _⟩ := harguments argument hinput htainted
      rw [hpart] at hname
      cases hname

/-! ## An address that is formatted

The tracker knows that `user` holds an address and that no sanitizer has seen it. Formatting the
variable gives raw data; formatting a member of it gives data that counts as sanitized. -/

def userTracker : Tracker := ({} : Tracker).mark "user" { piiTypes := ["email"], line := 1 }

def formatted (argument : Node) : Node :=
  .call { line := 2, column := 0, endLine := 2 } (variableAt 2 "format") [argument] []

theorem formatted_variable_stays_raw :
    userTracker.holds "text" = false ∧
      ∃ after, userTracker.propagate "text" (formatted (variableAt 2 "user")) 2 none = .ok after ∧
        ¬ after.IsSanitized "text" := by
  have hnew : userTracker.holds "text" = false := by decide
  obtain ⟨after, hafter, hiff, _⟩ := call_launders_iff_part_beside_sanitized hnew
  refine ⟨hnew, after, hafter, fun hsanitized => ?_⟩
  rcases (hiff.mp hsanitized).2 with hsanitizer | hvariables
  · exact absurd hsanitizer (by decide)
  · obtain ⟨name, hname, record, hrecord, hflag⟩ :=
      hvariables (variableAt 2 "user") List.mem_cons_self (by decide) nofun
    cases hname
    cases hrecord
    cases hflag

def userEmail : Node :=
  .member { line := 2, column := 0, endLine := 2 } "email" (variableAt 2 "user")

theorem formatted_member_is_laundered :
    userTracker.holds "text" = false ∧
      ∃ after, userTracker.propagate "text" (formatted userEmail) 2 none = .ok after ∧
        after.IsSanitized "text" ∧
          ¬ userTracker.MayLaunder (variableAt 2 "format") [userEmail] := by
  refine ⟨by decide, _, rfl, ⟨_, rfl, by decide⟩, ?_⟩
  rintro (hsanitizer | harguments)
  · exact absurd hsanitizer (by decide)
  · -- the member is tainted, and it is no variable
    obtain ⟨name, hname, _⟩ := harguments userEmail List.mem_cons_self (by decide)
    cases hname

end PrivacyScan.Taint.Tracker
