import Mathlib.Data.List.Forall2
import PrivacyScan.Proofs.ScriptFlow.Flows

/-!
# Leaks of a script and their flows

The search for leaks goes through the lines of a script. It enters what a line says of its
variables, and then, as long as the call of a sink is open, every tainted word of the line gives a
finding and a flow. `AddsLeaks` says so of one step: findings and flows come in pairs, and nothing
that is known of a variable is taken back. It composes, since a pair only asks for variables that
are tainted, and these stay so.
-/

namespace PrivacyScan.ScriptFlow

open Taint (Tracker FlowEdge)

def leakRules : List String := ["API_RESPONSE_LEAK", "DB_WRITE_PII", "JS_DATA_LEAK"]

theorem leakRule_mem (sink : String) : leakRule sink ∈ leakRules := by
  unfold leakRule
  split
  · decide
  · split <;> decide

/-- The finding tells of the flow: on one line, one tainted variable goes into a sink. -/
structure IsLeak (file : String) (tracker : Tracker) (finding : Finding) (flow : FlowEdge) :
    Prop where
  isIn : finding.IsIn file leakRules
  tainted : ∃ name, finding.taintedVariables = [name] ∧ flow.source = some name ∧ tracker.holds name
  sink : finding.flowPath.getLast? = some (.text flow.target)
  flowType : flow.flowType = "sink"
  line : flow.sourceLine = finding.line ∧ flow.targetLine = finding.line

/-- From `before` to `after` leaks were added, each as a finding and a flow. -/
structure AddsLeaks (file : String) (before after : State) : Prop where
  pairs : ∃ found flows, after.findings = before.findings ++ found ∧
    after.tracker.edges = before.tracker.edges ++ flows ∧
    List.Forall₂ (IsLeak file after.tracker) found flows
  retains : Retains before.tracker after.tracker

variable {file : String} {script : Script} {line : Line} {before after : Tracker} {state : State}

theorem Retains.holds {name : String} (h : Retains before after) (hholds : before.holds name) :
    after.holds name := by
  obtain ⟨record, hrecord⟩ := Option.isSome_iff_exists.mp hholds
  obtain ⟨later, hlater, _⟩ := h name record hrecord
  exact Option.isSome_iff_exists.mpr ⟨later, hlater⟩

theorem IsLeak.mono {finding : Finding} {flow : FlowEdge} (h : IsLeak file before finding flow)
    (hretains : Retains before after) : IsLeak file after finding flow := by
  obtain ⟨name, hvariable, hsource, hholds⟩ := h.tainted
  exact { h with tainted := ⟨name, hvariable, hsource, hretains.holds hholds⟩ }

namespace AddsLeaks

variable {first second third : State}

theorem of_learns (h : Learns state.tracker after) :
    AddsLeaks file state { state with tracker := after } :=
  ⟨⟨[], [], (List.append_nil _).symm, h.edges.trans (List.append_nil _).symm, .nil⟩, h.retains⟩

theorem refl (state : State) : AddsLeaks file state state := of_learns (.refl state.tracker)

theorem trans (h : AddsLeaks file first second) (h' : AddsLeaks file second third) :
    AddsLeaks file first third := by
  obtain ⟨found, flows, hfound, hflows, hleaks⟩ := h.pairs
  obtain ⟨more, others, hmore, hothers, hleaks'⟩ := h'.pairs
  have hkept : List.Forall₂ (IsLeak file third.tracker) found flows :=
    hleaks.imp fun _ _ hleak => hleak.mono h'.retains
  refine ⟨⟨found ++ more, flows ++ others, ?_, ?_, List.rel_append hkept hleaks'⟩,
    h.retains.trans h'.retains⟩
  · rw [hmore, hfound, List.append_assoc]
  · rw [hothers, hflows, List.append_assoc]

end AddsLeaks

/-! ## Words, lines and scripts -/

/-- A leak is reported for a word that is held, once with its edge. -/
theorem leak_addsLeaks (sink : String) (address : Option String) (state : State) (word : String) :
    AddsLeaks script.file state (leak script line sink address state word) := by
  unfold leak
  split
  · exact .refl state
  · next record hrecord =>
    split
    · exact .refl state
    · -- an edge changes no record, so the word is tainted afterwards by the record that was found
      have hholds : state.tracker.holds word := Option.isSome_iff_exists.mpr ⟨record, hrecord⟩
      exact ⟨⟨[_], [_], rfl, rfl,
        .cons ⟨⟨rfl, leakRule_mem sink⟩, ⟨word, rfl, rfl, hholds⟩, rfl, rfl,
        rfl, rfl⟩ .nil⟩, .refl state.tracker⟩

/-- The words of a line, with what the line says of its variables already entered. -/
theorem words_addsLeaks (sink : String) (address : Option String) (words : List String)
    (h : Learns state.tracker after) :
    AddsLeaks script.file state
      (words.foldl (leak script line sink address) { state with tracker := after }) :=
  (AddsLeaks.of_learns h).trans (foldl_relates (AddsLeaks script.file) .refl .trans
    (fun word _ state => leak_addsLeaks sink address state word) _)

/-- A line is followed first, so what leaks is tainted after it. -/
theorem readLine_addsLeaks (script : Script) (callResult : Option CallResult)
    (progress : State × Sink) (line : Line) :
    AddsLeaks script.file progress.1 (readLine script callResult progress line).1 := by
  have hlearns := followed_learns script callResult line (Text.trim line.text) progress.1.tracker
  unfold readLine
  dsimp only
  split
  · dsimp only
    exact .of_learns hlearns
  · dsimp only
    exact words_addsLeaks _ _ _ hlearns

theorem findLeaks_addsLeaks (script : Script) (callResult : Option CallResult) (state : State) :
    AddsLeaks script.file state (findLeaks script callResult state) :=
  foldl_relates (fun first last : State × Sink => AddsLeaks script.file first.1 last.1)
    (fun progress => .refl progress.1) .trans
    (fun line _ progress => readLine_addsLeaks script callResult progress line) (state, {})

/-- **Leaks and their flows correspond.** Whatever is known before, the search for leaks keeps all
findings and flows and adds one flow into a sink for each new finding, in the same order: from the
variable of the finding, on its line, to the end of its path. All these variables are tainted
afterwards, and no variable has lost its record or a type of its data. -/
theorem leak_findings_match_flows (script : Script) (callResult : Option CallResult)
    (state : State) :
    ∃ found flows, (findLeaks script callResult state).findings = state.findings ++ found ∧
      (findLeaks script callResult state).tracker.edges = state.tracker.edges ++ flows ∧
      List.Forall₂ (IsLeak script.file (findLeaks script callResult state).tracker) found flows ∧
      Retains state.tracker (findLeaks script callResult state).tracker := by
  have hleaks := findLeaks_addsLeaks script callResult state
  obtain ⟨found, flows, hfound, hflows, hpairs⟩ := hleaks.pairs
  exact ⟨found, flows, hfound, hflows, hpairs, hleaks.retains⟩

end PrivacyScan.ScriptFlow
