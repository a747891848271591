import PrivacyScan.Proofs.SourceFlow.Walk

/-!
# Findings and the edges into sinks

Where data leaves for a model of another provider, for the console or for the log, the analysis
reports a finding and adds edges into the sink. The two happen at different places and not always in
the same order, but at the end they agree. `Tells` says so of each check of a call; here it is
carried through assignments and through the walk:

* **`enter_tells`**, **`analyze_tells`** — entering a node and the whole walk add findings together
  with their edges.
-/

namespace PrivacyScan.SourceFlow

open Source (Node Form Place Constant)
open Taint (Tracker Record FlowEdge Mark)

/-! ## The parts of an assignment -/

section Assignment

variable {file target : String} {setting : Setting} {value : Node} {before after : State}

/-- No edge between variables leads into a sink. -/
theorem Marked.exists_edges {first last : Tracker} (h : Marked first last) :
    ∃ added, last.edges = first.edges ++ added ∧ ∀ edge ∈ added, edge.flowType ≠ "sink" := by
  induction h with
  | refl => exact ⟨[], (List.append_nil _).symm, by simp⟩
  | mark _ _ _ ih => exact ih
  | edge _ hflow ih =>
    obtain ⟨added, hadded, hflows⟩ := ih
    refine ⟨added ++ [_], ?_, List.forall_mem_append.mpr ⟨hflows, by simpa using hflow⟩⟩
    rw [Tracker.addEdge, hadded, List.append_assoc]

/-- An assignment adds edges between variables, and a finding that has none. -/
theorem assignName_tells {place : Place}
    (h : assignName setting place value before target = .ok after) :
    Tells setting.file before after := by
  obtain ⟨tracker, htrack, rfl⟩ := Outcome.map_eq_ok.mp h
  obtain ⟨edges, hedges, hflows⟩ := (track_marked htrack).exists_edges
  refine (Tells.ofTracker edges hedges hflows).trans ?_
  unfold secretFound
  cases secretOf? target value with
  | none => exact .ofEq (List.append_nil _) rfl
  | some secret => exact report_tells List.mem_cons_self rfl { before with tracker }

/-! ## The walk -/

theorem enter_tells {node : Node} (h : enter setting node before = .ok after) :
    Tells setting.file before after := by
  unfold enter at h
  split at h
  · cases h
    exact .ofEq rfl rfl
  · cases h
    exact .ofEq rfl rfl
  · exact Outcome.foldlM_relates (Tells setting.file) .refl .trans (fun _ _ => assignName_tells) h
  · exact (checkCall_observes h).tells
  · cases h
    exact .refl _

theorem leave_tells {form : Form} (h : Tells file before after) :
    Tells file before (leave form before after) := by
  unfold leave
  split
  · exact h.trans (.ofEq rfl rfl)
  · exact h.trans (.ofEq rfl rfl)
  · exact h

end Assignment

/-- **The walk through a module adds findings together with their edges.** -/
theorem analyze_tells {file code : String} {method : Classify.Method} {result : Option State}
    (h : analyze? file code method = .ok result) : Tells file {} (result.getD {}) := by
  unfold analyze? at h
  split at h
  · cases h
    exact .refl _
  · obtain ⟨state, hvisit, rfl⟩ := Outcome.map_eq_ok.mp h
    have hwalk := visit_relates (Tells file) .refl .trans enter_tells leave_tells hvisit
    exact hwalk.trans (.ofEq rfl rfl)

/-- **Findings and edges into sinks agree.** Where a module can be analysed, its edges into sinks
are those of its findings for models, the console and the log, one group after the other and each in
full. -/
theorem sink_edges_match_findings {file code : String} {method : Classify.Method}
    {result : Option State} (h : analyze? file code method = .ok result) :
    Matches (result.getD {}).findings (result.getD {}).tracker.edges := by
  obtain ⟨findings, edges, hfindings, hedges, hmatches, _⟩ := analyze_tells h
  rw [hfindings, hedges]
  exact hmatches

/-! ## A prompt with two values

The body of a request goes to a model twice in one call, and once more in another one. -/

def promptCode : String := "data = request.json\nllm.predict(data, data)\nllm.predict([data])\n"

theorem promptCode_edges :
    ∃ result, analyze? "app.py" promptCode = .ok result ∧ (result.getD {}).findings.length = 3 ∧
      Matches (result.getD {}).findings (result.getD {}).tracker.edges := by
  have hseen : (analyze? "app.py" promptCode).toOption.map (fun result =>
      (result.getD {}).findings.length) = some 3 := by
    decide +kernel
  obtain ⟨result, hresult, hlength⟩ := Outcome.exists_of_seen hseen
  exact ⟨result, hresult, hlength, sink_edges_match_findings hresult⟩

end PrivacyScan.SourceFlow
