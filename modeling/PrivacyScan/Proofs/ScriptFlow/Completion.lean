import PrivacyScan.Proofs.Outcome
import PrivacyScan.ScriptFlow.Analysis

/-!
# Which scripts are analysed to the end

The passes over the lines of a script go on whatever became of the walk through its tree, and one of
them can fail: the one for the handlers of a server. It notes the route of a handler with a field of
the request, where the record of the field has no place for it.

* **`findInputs_completes_iff`** — the pass for handlers completes exactly when no personal field of
  a request is read below a route, whatever is known of the variables.
-/

namespace PrivacyScan.ScriptFlow

open Taint (inferScriptTypes)
open Outcome (Completes completes_ok not_completes_error)

variable {script : Script} {line : Line} {state : State}

/-! ## Lines with their numbers -/

theorem mem_numbered_iff :
    line ∈ script.numbered ↔
      ∃ index, script.lines[index]? = some line.text ∧ line.number = index + 1 := by
  unfold Script.numbered
  rw [List.mem_mapIdx]
  constructor
  · rintro ⟨index, hindex, rfl⟩
    exact ⟨index, List.getElem?_eq_getElem hindex, rfl⟩
  · rintro ⟨index, htext, hnumber⟩
    obtain ⟨hindex, htext⟩ := List.getElem?_eq_some_iff.mp htext
    refine ⟨index, hindex, ?_⟩
    rw [htext, ← hnumber]

/-- The lines before a line are those above it, up to as many as are asked for. -/
theorem mem_before_iff {count : Nat} {text : String} :
    text ∈ script.before line count ↔
      ∃ above, script.lines[above]? = some text ∧ above + 1 < line.number ∧
        line.number ≤ above + 1 + count := by
  unfold Script.before
  rw [List.mem_iff_getElem?]
  constructor
  · rintro ⟨position, hposition⟩
    rw [List.getElem?_drop, List.getElem?_take] at hposition
    split at hposition
    · next hlt => exact ⟨_, hposition, by omega, by omega⟩
    · cases hposition
  · rintro ⟨above, htext, hbefore, hnear⟩
    refine ⟨above - (line.number - 1 - count), ?_⟩
    rw [List.getElem?_drop, List.getElem?_take, if_pos (by omega)]
    rw [show line.number - 1 - count + (above - (line.number - 1 - count)) = above by omega]
    exact htext

/-! ## Fields of a request below a route -/

def DeclaresRoute (text : String) : Prop := ∃ found, routePattern.search? text = some found

/-- The line reads a field of a request, and the name of the field points to personal data. -/
def ReadsPersonal (text : String) : Prop :=
  ∃ found, accessPattern.search? (Text.trim text) = some found ∧
    inferScriptTypes (found.capture 2) ≠ []

/-- A line reads a personal field of a request, at most twenty lines below one that declares a
route. -/
def RoutedAccess (lines : List String) : Prop :=
  ∃ above below handler access, lines[above]? = some handler ∧ lines[below]? = some access ∧
    above < below ∧ below ≤ above + 20 ∧ DeclaresRoute handler ∧ ReadsPersonal access

theorem routeBefore?_isSome_iff :
    (script.routeBefore? line).isSome = true ↔
      ∃ text ∈ script.before line 20, DeclaresRoute text := by
  unfold Script.routeBefore? DeclaresRoute
  rw [List.findSome?_isSome_iff]
  simp only [Option.isSome_map, Option.isSome_iff_exists]

/-- The only line that is refused reads personal data of a request below a route. -/
theorem readAccess_completes_iff :
    Completes (readAccess script line state) ↔
      ¬ (ReadsPersonal line.text ∧ (script.routeBefore? line).isSome = true) := by
  unfold readAccess
  split
  · next hnone =>
    refine iff_of_true (completes_ok _) ?_
    rintro ⟨⟨found, hfound, _⟩, _⟩
    rw [hnone] at hfound
    cases hfound
  · next found hfound =>
    dsimp only
    split
    · next htypes =>
      refine iff_of_true (completes_ok _) ?_
      rintro ⟨⟨other, hother, hpersonal⟩, _⟩
      rw [hfound] at hother
      cases hother
      exact hpersonal htypes
    · next hpersonal =>
      split
      · next hroute =>
        refine iff_of_false (not_completes_error _) ?_
        exact not_not_intro ⟨⟨found, hfound, hpersonal⟩, hroute⟩
      · next hroute => exact iff_of_true (completes_ok _) fun h => hroute h.2

theorem readAccess_fault {fault : Fault} (h : readAccess script line state = .error fault) :
    fault = .noItemAssignment .taint := by
  unfold readAccess at h
  split at h
  · cases h
  · dsimp only at h
    split at h
    · cases h
    · split at h
      · exact (Except.error.inj h).symm
      · cases h

/-- What is done with a line behind its fields cannot fail. -/
theorem readHandler_eq :
    readHandler script state line =
      (fun accessed =>
        decorators.foldl (readDecorator script line) (readAddress script line accessed)) <$>
        readAccess script line state := by
  unfold readHandler
  cases readAccess script line state <;> rfl

theorem readHandler_completes_iff :
    Completes (readHandler script state line) ↔
      ¬ (ReadsPersonal line.text ∧ (script.routeBefore? line).isSome = true) := by
  rw [readHandler_eq, Outcome.completes_map_iff, readAccess_completes_iff]

theorem readHandler_fault {fault : Fault} (h : readHandler script state line = .error fault) :
    fault = .noItemAssignment .taint := by
  rw [readHandler_eq] at h
  cases haccess : readAccess script line state with
  | ok accessed =>
    rw [haccess] at h
    cases h
  | error cause =>
    rw [haccess] at h
    obtain rfl : cause = fault := Except.error.inj h
    exact readAccess_fault haccess

/-- A line of the script is refused exactly when it belongs to a routed access. -/
theorem exists_refused_line_iff :
    (∃ line ∈ script.numbered, ReadsPersonal line.text ∧ (script.routeBefore? line).isSome = true) ↔
      RoutedAccess script.lines := by
  constructor
  · rintro ⟨line, hline, haccess, hroute⟩
    obtain ⟨below, hbelow, hnumber⟩ := mem_numbered_iff.mp hline
    obtain ⟨handler, hhandler, hdeclares⟩ := routeBefore?_isSome_iff.mp hroute
    obtain ⟨above, habove, hbefore, hnear⟩ := mem_before_iff.mp hhandler
    exact ⟨above, below, handler, line.text, habove, hbelow, by omega, by omega, hdeclares, haccess⟩
  · rintro ⟨above, below, handler, access, habove, hbelow, hbefore, hnear, hdeclares, haccess⟩
    refine ⟨{ number := below + 1, text := access }, mem_numbered_iff.mpr ⟨below, hbelow, rfl⟩,
      haccess, routeBefore?_isSome_iff.mpr ⟨handler, mem_before_iff.mpr ?_, hdeclares⟩⟩
    exact ⟨above, habove, by dsimp only; omega, by dsimp only; omega⟩

theorem findInputs_completes_iff :
    Completes (findInputs script state) ↔ ¬ RoutedAccess script.lines := by
  unfold findInputs
  rw [Outcome.completes_foldlM_iff_forall (fun _ : State => True)
    (fun line => ¬ (ReadsPersonal line.text ∧ (script.routeBefore? line).isSome = true))
    (fun line _ current _ => by rw [readHandler_completes_iff])
    (fun _ _ _ _ _ _ => by trivial) (by trivial), ← exists_refused_line_iff]
  constructor
  · rintro hall ⟨line, hline, hrefused⟩
    exact hall line hline hrefused
  · exact fun hnone line hline hrefused => hnone ⟨line, hline, hrefused⟩

/-! ## All passes -/

/-- The passes before the one for handlers give a state, and those behind it only add to its
result. -/
theorem exists_analyze_eq (file code : String) (callResult : Option CallResult) :
    ∃ stored, analyze file code callResult =
      (fun served => (served.reportAll (findModels (Script.ofCode file code))).reportAll
        (findSecrets (Script.ofCode file code))) <$>
          findInputs (Script.ofCode file code) stored := by
  unfold analyze
  exact ⟨_, bind_pure_comp _ _⟩

/-- **The analysis of a script has a result exactly when no personal field of a request is read
below a route.** This holds with and without the functions of other files, and for a text that is no
script as for one. The fault is always the same. -/
theorem analysis_completes_iff_no_routed_access (file code : String)
    (callResult : Option CallResult) :
    (Completes (analyze file code callResult) ↔ ¬ RoutedAccess (Text.lines code)) ∧
      ∀ fault, analyze file code callResult = .error fault → fault = .noItemAssignment .taint := by
  obtain ⟨stored, heq⟩ := exists_analyze_eq file code callResult
  rw [heq]
  refine ⟨?_, fun fault hfault => ?_⟩
  · rw [Outcome.completes_map_iff]
    exact findInputs_completes_iff
  · cases hinputs : findInputs (Script.ofCode file code) stored with
    | ok served =>
      rw [hinputs] at hfault
      cases hfault
    | error cause =>
      rw [hinputs] at hfault
      obtain rfl : cause = fault := Except.error.inj hfault
      obtain ⟨line, _, current, hstep⟩ := Outcome.exists_of_foldlM_eq_error hinputs
      exact readHandler_fault hstep

/-- A handler that reads the address of a user, right below its route. -/
def routedCode : String := "app.post('/users', save);\nsave(req.body.email);\n"

/-- A field of a request is read below a route, and the analysis of the script has no result. -/
theorem routed_field_has_no_result : ¬ Completes (analyze "app.js" routedCode) := by
  have hnone : (analyze "app.js" routedCode).toOption.isNone = true := by decide +kernel
  rintro ⟨state, hstate⟩
  rw [hstate] at hnone
  cases hnone

end PrivacyScan.ScriptFlow
