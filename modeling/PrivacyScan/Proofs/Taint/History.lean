import PrivacyScan.Proofs.Taint.Chain
import PrivacyScan.Taint.Script

/-!
# The record of a variable as the sum of its history

A tracker keeps one record for a variable and revises it with every observation. What the record
says is still a function of all observations of the variable, in order. Modules and scripts have a
rule each for how an observation is merged into a record:

* **`mark_merges`**, **`markScript_merges`** — the two rules, field by field.
-/

namespace PrivacyScan.Taint

variable {μ : Type}

/-! ## Histories -/

/-- The observations of one variable among those of all variables, in order. -/
def observationsOf (name : String) (calls : List (String × μ)) : List μ :=
  (calls.filter (·.1 == name)).map (·.2)

/-- What is known of a variable agrees with its history. Without an observation nothing is known,
and otherwise there is a record that sums up the first observation and the later ones. -/
def Reflects (sumsUp : Record → μ → List μ → Prop) : Option Record → List μ → Prop
  | none, history => history = []
  | some record, history => ∃ first later, history = first :: later ∧ sumsUp record first later

theorem Reflects.isSome_iff {sumsUp : Record → μ → List μ → Prop} {known : Option Record}
    {history : List μ} (h : Reflects sumsUp known history) :
    known.isSome = true ↔ history ≠ [] := by
  cases known with
  | none =>
    obtain rfl : history = [] := h
    simp
  | some record =>
    obtain ⟨first, later, rfl, _⟩ := h
    simp

theorem observationsOf_ne_nil_iff {name : String} {calls : List (String × μ)} :
    observationsOf name calls ≠ [] ↔ ∃ call ∈ calls, call.1 = name := by
  unfold observationsOf
  rw [ne_eq, List.map_eq_nil_iff, List.filter_eq_nil_iff]
  simp

/-- A rule for merging observations into records. An observation that does not count changes
nothing, one that counts touches only the record of its variable: it starts that record or becomes
the last of the later observations that the record sums up. -/
structure Merges (enter : Tracker → String → μ → Tracker) (counts : String × μ → Bool)
    (sumsUp : Record → μ → List μ → Prop) : Prop where
  skips {tracker : Tracker} {name : String} {observation : μ} :
    counts (name, observation) = false → enter tracker name observation = tracker
  frame {tracker : Tracker} {name other : String} {observation : μ} :
    other ≠ name → (enter tracker name observation).record? other = tracker.record? other
  starts {tracker : Tracker} {name : String} {observation : μ} :
    counts (name, observation) = true → tracker.record? name = none →
      ∃ record, (enter tracker name observation).record? name = some record ∧
        sumsUp record observation []
  revises {tracker : Tracker} {name : String} {observation : μ} {record : Record} {first : μ}
    {later : List μ} :
    counts (name, observation) = true → tracker.record? name = some record →
      sumsUp record first later →
      ∃ revised, (enter tracker name observation).record? name = some revised ∧
        sumsUp revised first (later ++ [observation])

namespace Merges

variable {enter : Tracker → String → μ → Tracker} {counts : String × μ → Bool}
  {sumsUp : Record → μ → List μ → Prop} {tracker : Tracker} {name : String} {history : List μ}

/-- One more observation that counts is reflected in the record of its variable. -/
theorem step_reflects (h : Merges enter counts sumsUp) {observation : μ}
    (hcounts : counts (name, observation) = true)
    (hbefore : Reflects sumsUp (tracker.record? name) history) :
    Reflects sumsUp ((enter tracker name observation).record? name) (history ++ [observation]) := by
  cases hknown : tracker.record? name with
  | none =>
    rw [hknown] at hbefore
    obtain rfl : history = [] := hbefore
    obtain ⟨record, hrecord, hsums⟩ := h.starts hcounts hknown
    rw [hrecord]
    exact ⟨observation, [], rfl, hsums⟩
  | some record =>
    rw [hknown] at hbefore
    obtain ⟨first, later, rfl, hsums⟩ := hbefore
    obtain ⟨revised, hrevised, hrevisedSums⟩ := h.revises hcounts hknown hsums
    rw [hrevised]
    exact ⟨first, later ++ [observation], rfl, hrevisedSums⟩

/-- **A record sums up its history.** Induction on the observations, with the tracker and the
history so far left open. -/
theorem run_reflects (h : Merges enter counts sumsUp) (calls : List (String × μ))
    (hbefore : Reflects sumsUp (tracker.record? name) history) :
    Reflects sumsUp
      ((calls.foldl (fun tracker call => enter tracker call.1 call.2) tracker).record? name)
      (history ++ observationsOf name (calls.filter counts)) := by
  induction calls generalizing tracker history with
  | nil =>
    rw [show observationsOf name (List.filter counts []) = [] from rfl, List.append_nil]
    exact hbefore
  | cons call rest ih =>
    obtain ⟨other, observation⟩ := call
    rw [List.foldl_cons]
    by_cases hcounts : counts (other, observation) = true
    · rw [List.filter_cons_of_pos hcounts]
      by_cases hname : other = name
      · -- an observation of the variable itself joins the history
        subst hname
        have hsplit : observationsOf other ((other, observation) :: rest.filter counts) =
            observation :: observationsOf other (rest.filter counts) := by
          simp [observationsOf]
        rw [hsplit, List.append_cons]
        exact ih (h.step_reflects hcounts hbefore)
      · have hskip : observationsOf name ((other, observation) :: rest.filter counts) =
            observationsOf name (rest.filter counts) := by
          simp [observationsOf, hname]
        rw [hskip]
        refine ih ?_
        rw [h.frame (Ne.symm hname)]
        exact hbefore
    · rw [List.filter_cons_of_neg hcounts, h.skips (Bool.eq_false_iff.mpr hcounts)]
      exact ih hbefore

/-- In a new tracker nothing is known, so there is no history yet. -/
theorem new_reflects (h : Merges enter counts sumsUp) (calls : List (String × μ)) (name : String) :
    Reflects sumsUp
      ((calls.foldl (fun tracker call => enter tracker call.1 call.2) {}).record? name)
      (observationsOf name (calls.filter counts)) := by
  have hnew : Reflects sumsUp (({} : Tracker).record? name) [] := rfl
  exact h.run_reflects calls hnew

end Merges

/-! ## Modules -/

/-- The record of a variable of a module, from the observations of it: all types, the origin of the
first observation, the first context unless there is none, then the first later one that says
anything, and the flag of the last observation. -/
structure Record.SumsUp (record : Record) (first : Mark) (later : List Mark) : Prop where
  types (piiType : String) :
    piiType ∈ record.piiTypes ↔ ∃ mark ∈ first :: later, piiType ∈ mark.piiTypes
  line : record.sourceLine = first.line
  node : record.sourceNode = first.node
  source : record.source = first.source
  context : record.context =
    first.context.or ((later.filterMap (·.context)).find? (!·.isEmpty))
  isSanitized : record.isSanitized = (later.getLastD first).isSanitized

/-- A further observation adds its types to those of all others. -/
theorem mem_sortedDistinct_iff_exists (typesOf : μ → List String) {types : List String}
    {piiType : String} {first observation : μ} {later : List μ}
    (h : piiType ∈ types ↔ ∃ mark ∈ first :: later, piiType ∈ typesOf mark) :
    piiType ∈ Text.sortedDistinct (types ++ typesOf observation) ↔
      ∃ mark ∈ first :: (later ++ [observation]), piiType ∈ typesOf mark := by
  rw [Text.mem_sortedDistinct, List.mem_append, h, ← List.cons_append]
  simp [or_and_right, exists_or, or_assoc]

theorem Mark.record_sumsUp (mark : Mark) (name : String) : (mark.record name).SumsUp mark [] where
  types piiType := by simp [Mark.record]
  line := rfl
  node := rfl
  source := rfl
  context := by simp [Mark.record]
  isSanitized := rfl

/-- A context is taken over only while there is none, and an empty one never. -/
theorem Mark.revise_context (mark : Mark) (record : Record) :
    (mark.revise record).context = record.context.or (mark.context.filter (!·.isEmpty)) := by
  show (if record.context.isNone && mark.context.any (!·.isEmpty) then mark.context
    else record.context) = _
  cases record.context with
  | some context => simp
  | none => cases mark.context <;> simp [Option.filter]

theorem Mark.revise_sumsUp (mark : Mark) {record : Record} {first : Mark} {later : List Mark}
    (h : record.SumsUp first later) : (mark.revise record).SumsUp first (later ++ [mark]) where
  types piiType := mem_sortedDistinct_iff_exists Mark.piiTypes (h.types piiType)
  line := h.line
  node := h.node
  source := h.source
  context := by
    have hlast : ([mark].filterMap (·.context)).find? (!·.isEmpty) =
        mark.context.filter (!·.isEmpty) := by
      cases hcontext : mark.context <;> simp [hcontext, Option.filter]
    rw [Mark.revise_context, h.context, List.filterMap_append, List.find?_append, hlast,
      Option.or_assoc]
  isSanitized := by simp [Mark.revise]

theorem mark_merges : Merges Tracker.mark (fun _ => true) Record.SumsUp where
  skips hcounts := by cases hcounts
  frame hne := Tracker.record?_mark_of_ne _ hne
  starts {tracker name mark} _ hnew := by
    refine ⟨mark.record name, ?_, mark.record_sumsUp name⟩
    rw [Tracker.record?_mark_self, hnew]
  revises {tracker name mark record _ _} _ hknown hsums := by
    refine ⟨mark.revise record, ?_, mark.revise_sumsUp hsums⟩
    rw [Tracker.record?_mark_self, hknown]

/-! ## Scripts -/

/-- What one observation of a variable of a script says. -/
structure ScriptMark where
  piiTypes : List String
  source : Option String
  context : Option String := none
  isSanitized : Bool := false

namespace ScriptMark

def enter (tracker : Tracker) (name : String) (mark : ScriptMark) : Tracker :=
  tracker.markScript name mark.piiTypes mark.source mark.context mark.isSanitized

/-- Only an observation of a variable with a name and of some type is entered. -/
def counts (call : String × ScriptMark) : Bool := !call.1.isEmpty && !call.2.piiTypes.isEmpty

variable {tracker : Tracker} {name : String} {mark : ScriptMark}

theorem counts_iff : counts (name, mark) = true ↔ name ≠ "" ∧ mark.piiTypes ≠ [] := by
  simp [counts]

/-- The record of a variable that was not known before. -/
def record (mark : ScriptMark) (name : String) : Record :=
  Record.withSources
    { name, piiTypes := mark.piiTypes, sourceLine := 0, sourceNode := "regex_match"
      source := mark.source, context := mark.context, isSanitized := mark.isSanitized }

/-- A later observation adds its types and can take back that the variable is sanitized. -/
def revise (mark : ScriptMark) (record : Record) : Record :=
  { record with
    piiTypes := Text.sortedDistinct (record.piiTypes ++ mark.piiTypes)
    isSanitized := record.isSanitized && mark.isSanitized }

/-- A mark that counts starts the record of its variable or revises it. -/
theorem enter_eq :
    enter tracker name mark =
      if counts (name, mark) then
        { tracker with records := tracker.records.set name (match tracker.record? name with
            | some record => mark.revise record
            | none => mark.record name) }
      else tracker := by
  unfold enter Tracker.markScript
  split
  · next hempty =>
    rw [if_neg]
    intro hcounts
    obtain ⟨hname, htypes⟩ := counts_iff.mp hcounts
    simp [hname, htypes] at hempty
  · next hempty =>
    rw [if_pos]
    · rfl
    · simpa [counts] using hempty

theorem record?_enter_self (hcounts : counts (name, mark) = true) :
    (enter tracker name mark).record? name = some (match tracker.record? name with
      | some record => mark.revise record
      | none => mark.record name) := by
  rw [enter_eq, if_pos hcounts]
  exact Table.get?_set_self ..

theorem record?_enter_of_ne {other : String} (hne : other ≠ name) :
    (enter tracker name mark).record? other = tracker.record? other := by
  rw [enter_eq]
  split
  · exact Table.get?_set_of_ne _ _ hne
  · rfl

end ScriptMark

/-- The record of a variable of a script, from the observations of it: all types, origin and context
of the first observation, and sanitized only if all observations are. The place of an observation is
not kept. -/
structure Record.SumsUpScript (record : Record) (first : ScriptMark) (later : List ScriptMark) :
    Prop where
  types (piiType : String) :
    piiType ∈ record.piiTypes ↔ ∃ mark ∈ first :: later, piiType ∈ mark.piiTypes
  line : record.sourceLine = 0
  node : record.sourceNode = "regex_match"
  source : record.source = first.source
  context : record.context = first.context
  isSanitized : record.isSanitized = (first :: later).all (·.isSanitized)

/-- The list of sources is filled in from the source, which stays what it is. -/
theorem ScriptMark.record_sumsUp (mark : ScriptMark) (name : String) :
    (mark.record name).SumsUpScript mark [] := by
  unfold ScriptMark.record Record.withSources
  cases hsource : mark.source with
  | none => exact ⟨by simp, rfl, rfl, hsource.symm, rfl, by simp⟩
  | some source =>
    dsimp only
    split
    · exact ⟨by simp, rfl, rfl, hsource.symm, rfl, by simp⟩
    · exact ⟨by simp, rfl, rfl, hsource.symm, rfl, by simp⟩

theorem ScriptMark.revise_sumsUp (mark : ScriptMark) {record : Record} {first : ScriptMark}
    {later : List ScriptMark} (h : record.SumsUpScript first later) :
    (mark.revise record).SumsUpScript first (later ++ [mark]) where
  types piiType := mem_sortedDistinct_iff_exists ScriptMark.piiTypes (h.types piiType)
  line := h.line
  node := h.node
  source := h.source
  context := h.context
  isSanitized := by
    show (record.isSanitized && mark.isSanitized) = _
    rw [h.isSanitized, ← List.cons_append, List.all_append]
    simp

theorem markScript_merges : Merges ScriptMark.enter ScriptMark.counts Record.SumsUpScript where
  skips hcounts := by rw [ScriptMark.enter_eq, if_neg (Bool.eq_false_iff.mp hcounts)]
  frame hne := ScriptMark.record?_enter_of_ne hne
  starts {tracker name mark} hcounts hnew := by
    refine ⟨mark.record name, ?_, mark.record_sumsUp name⟩
    rw [ScriptMark.record?_enter_self hcounts, hnew]
  revises {tracker name mark record _ _} hcounts hknown hsums := by
    refine ⟨mark.revise record, ?_, mark.revise_sumsUp hsums⟩
    rw [ScriptMark.record?_enter_self hcounts, hknown]

/-! ## The records of a new tracker -/

/-- A new tracker that is told of variables of a module. -/
def observed (calls : List (String × Mark)) : Tracker :=
  calls.foldl (fun tracker call => tracker.mark call.1 call.2) {}

def observedScript (calls : List (String × ScriptMark)) : Tracker :=
  calls.foldl (fun tracker call => ScriptMark.enter tracker call.1 call.2) {}

/-- **A record is a function of the observations of its variable,** in a module and in a script. A
variable is known exactly when some observation names it, and its record sums up all that do. -/
theorem record_reflects_history (calls : List (String × Mark))
    (scriptCalls : List (String × ScriptMark)) (name : String) :
    (((observed calls).holds name = true ↔ ∃ call ∈ calls, call.1 = name) ∧
      Reflects Record.SumsUp ((observed calls).record? name) (observationsOf name calls)) ∧
    (((observedScript scriptCalls).holds name = true ↔
        ∃ call ∈ scriptCalls, call.1 = name ∧ call.1 ≠ "" ∧ call.2.piiTypes ≠ []) ∧
      Reflects Record.SumsUpScript ((observedScript scriptCalls).record? name)
        (observationsOf name (scriptCalls.filter ScriptMark.counts))) := by
  have hmodule : Reflects Record.SumsUp ((observed calls).record? name)
      (observationsOf name calls) := by
    have hnew := mark_merges.new_reflects calls name
    rwa [List.filter_eq_self.mpr fun _ _ => rfl] at hnew
  have hscript : Reflects Record.SumsUpScript ((observedScript scriptCalls).record? name)
      (observationsOf name (scriptCalls.filter ScriptMark.counts)) :=
    markScript_merges.new_reflects scriptCalls name
  refine ⟨⟨hmodule.isSome_iff.trans observationsOf_ne_nil_iff, hmodule⟩,
    (hscript.isSome_iff.trans observationsOf_ne_nil_iff).trans ?_, hscript⟩
  -- an observation that is entered is one that counts
  constructor
  · rintro ⟨call, hcall, hname⟩
    obtain ⟨hmem, hcounts⟩ := List.mem_filter.mp hcall
    exact ⟨call, hmem, hname, ScriptMark.counts_iff.mp hcounts⟩
  · rintro ⟨call, hmem, hname, hcounts⟩
    exact ⟨call, List.mem_filter.mpr ⟨hmem, ScriptMark.counts_iff.mpr hcounts⟩, hname⟩

end PrivacyScan.Taint
