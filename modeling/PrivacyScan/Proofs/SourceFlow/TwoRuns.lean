import Mathlib.Data.List.Forall2
import PrivacyScan.Proofs.Outcome
import PrivacyScan.Proofs.Snippet
import PrivacyScan.SourceFlow.Visit

/-!
# Two runs over the same code

The walk reads the code of a module in two ways only: a finding shows some of it, and a call is
judged by the text of its lines. So two settings with other code give the same findings and edges,
apart from what the findings show, as long as they judge the calls alike.
-/

namespace PrivacyScan

namespace Outcome

variable {α β σ τ : Type}

/-- Two sequences are seen alike where both of their steps are. -/
theorem map_bind_congr {first second : Outcome α} {next other : α → Outcome β} {view : α → σ}
    {seen : β → τ} (h : view <$> first = view <$> second)
    (hnext : ∀ value twin, first = .ok value → view value = view twin →
      seen <$> next value = seen <$> other twin) :
    seen <$> (first >>= next) = seen <$> (second >>= other) := by
  cases first with
  | error fault =>
    cases second with
    | error cause =>
      cases h
      rfl
    | ok twin => cases h
  | ok value =>
    cases second with
    | error cause => cases h
    | ok twin => exact hnext value twin rfl (Except.ok.inj h)

theorem map_foldlM {view : σ → τ} {step : σ → α → Outcome σ} {other : τ → α → Outcome τ}
    (h : ∀ state item, view <$> step state item = other (view state) item) (items : List α)
    (start : σ) : view <$> items.foldlM step start = items.foldlM other (view start) := by
  induction items generalizing start with
  | nil => rfl
  | cons item rest ih =>
    rw [List.foldlM_cons, List.foldlM_cons, ← h, map_bind, bind_map_left]
    exact bind_congr fun next => ih next

/-- Two runs over items in pairs are seen alike where their steps are. -/
theorem map_foldlM_congr {view : σ → τ} {step : σ → α → Outcome σ} {other : σ → β → Outcome σ}
    {pairs : α → β → Prop} {items : List α} {others : List β} {start twin : σ}
    (hpairs : List.Forall₂ pairs items others)
    (hstep : ∀ item ∈ items, ∀ {another start twin}, pairs item another → view start = view twin →
      view <$> step start item = view <$> other twin another)
    (h : view start = view twin) :
    view <$> items.foldlM step start = view <$> others.foldlM other twin := by
  induction hpairs generalizing start twin with
  | nil => exact congrArg Except.ok h
  | cons hpair _ ih =>
    obtain ⟨hitem, hrest⟩ := List.forall_mem_cons.mp hstep
    rw [List.foldlM_cons, List.foldlM_cons]
    exact map_bind_congr (hitem hpair h) fun _ _ _ hnext => ih hrest hnext

end Outcome

/-- A finding without the code that it shows. -/
def Finding.bare (finding : Finding) : Finding := { finding with snippet := "", codeContext := [] }

namespace SourceFlow

open Outcome
open Source (Node Place)

/-- A state whose findings show no code. -/
def State.bare (state : State) : State := { state with findings := state.findings.map Finding.bare }

theorem tracker_bare (state : State) : state.bare.tracker = state.tracker := rfl

/-- States that are the same but for the code that their findings show. -/
def Alike (state twin : State) : Prop := state.bare = twin.bare

/-- Runs that fail in the same way, or end in states that are alike. -/
def RunAlike (run other : Outcome State) : Prop := State.bare <$> run = State.bare <$> other

theorem Alike.ok {state twin : State} (h : Alike state twin) : RunAlike (.ok state) (.ok twin) :=
  congrArg Except.ok h

namespace Alike

variable {state twin : State} (h : Alike state twin)
include h

theorem tracker : twin.tracker = state.tracker := by
  obtain ⟨htracker, _⟩ := State.mk.inj h
  exact htracker.symm

theorem function : twin.function = state.function := by
  obtain ⟨_, _, hfunction, _⟩ := State.mk.inj h
  exact hfunction.symm

theorem route : twin.route = state.route := by
  obtain ⟨_, _, _, hroute⟩ := State.mk.inj h
  exact hroute.symm

/-- A change that has nothing to do with findings. -/
theorem congr (change : State → State)
    (hchange : ∀ state, (change state).bare = change state.bare) :
    Alike (change state) (change twin) :=
  (hchange state).trans ((congrArg change h).trans (hchange twin).symm)

theorem addEdge (edge : Taint.FlowEdge) : Alike (state.addEdge edge) (twin.addEdge edge) :=
  h.congr (·.addEdge edge) fun _ => rfl

theorem addEdges (edge : String → Taint.FlowEdge) (names : List String) :
    Alike (names.foldl (fun state name => state.addEdge (edge name)) state)
      (names.foldl (fun state name => state.addEdge (edge name)) twin) := by
  induction names generalizing state twin with
  | nil => exact h
  | cons name rest ih => exact ih (h.addEdge (edge name))

theorem report {finding other : Finding} (hfinding : finding.bare = other.bare) :
    Alike (state.report finding) (twin.report other) := by
  have hreport (state : State) (finding : Finding) : (state.report finding).bare =
      { state.bare with findings := state.bare.findings ++ [finding.bare] } := by
    simp [State.report, State.bare]
  rw [Alike, hreport, hreport, hfinding, h]

end Alike

/-! ## Objects that are written -/

section Written

variable (known : List String)

def bareFound (found : State × Exposure) : State × Exposure := (found.1.bare, found.2)

theorem writeKeyword_bare (table : String) (found : State × Exposure) (keyword : Node) :
    bareFound <$> writeKeyword table known found keyword =
      writeKeyword table known (bareFound found) keyword := by
  obtain ⟨state, exposure⟩ := found
  simp only [writeKeyword, bareFound, tracker_bare]
  split
  · split
    · rfl
    · next column _ value _ _ _ => cases state.tracker.recordOf? value <;> cases column <;> rfl
  · rfl

theorem writeArgument_bare (found : State × Exposure) (argument : Node) :
    bareFound <$> writeArgument known found argument =
      writeArgument known (bareFound found) argument := by
  unfold writeArgument
  split
  · exact map_foldlM (writeKeyword_bare known _) _ _
  · obtain ⟨state, exposure⟩ := found
    simp only [bareFound, tracker_bare]
    split <;> rfl
  · rfl

end Written

/-! ## Calls -/

/-- Settings that differ in the text of the code alone. -/
structure Setting.Resembles (setting other : Setting) : Prop where
  file : other.file = setting.file
  method : other.method = setting.method
  length : other.lines.length = setting.lines.length

/-- The code at a place is judged alike, whatever else counts. -/
structure Setting.JudgesAlike (setting other : Setting) (place : Place) : Prop where
  message :
    Routine.isLogMessage (other.snippet place) = Routine.isLogMessage (setting.snippet place)
  statement :
    Routine.isStatement (other.snippet place) = Routine.isStatement (setting.snippet place)
  verdict : ∀ context names, setting.method.classify (other.snippet place) context names =
    setting.method.classify (setting.snippet place) context names

section Calls

variable {setting other : Setting} {call : Call} {state twin : State}

theorem foldl_alike {nodes : List Node} {step another : State → Node → State}
    (hstep : ∀ {state twin node}, Alike state twin → Alike (step state node) (another twin node))
    (h : Alike state twin) : Alike (nodes.foldl step state) (nodes.foldl another twin) := by
  induction nodes generalizing state twin with
  | nil => exact h
  | cons node rest ih => exact ih (hstep h)

variable (hsetting : setting.Resembles other)
include hsetting

theorem leakTo_alike (h : Alike state twin) (provider : String) (argument : Node) :
    Alike (leakTo setting call provider state argument)
      (leakTo other call provider twin argument) := by
  unfold leakTo
  rw [h.tracker]
  split
  · exact h
  · split
    · exact h
    · refine (h.report ?_).addEdge _
      simp only [Finding.bare, hsetting.file]

theorem checkProviders_alike (h : Alike state twin) :
    Alike (checkProviders setting call state) (checkProviders other call twin) := by
  unfold checkProviders
  split
  · exact foldl_alike (fun h => leakTo_alike hsetting h _ _) h
  · exact h

theorem printArgument_alike (h : Alike state twin) (argument : Node) :
    Alike (printArgument setting call state argument) (printArgument other call twin argument) := by
  unfold printArgument
  rw [h.tracker]
  split
  · exact h
  · split
    · exact h
    · refine (h.report ?_).addEdge _
      simp only [Finding.bare, hsetting.file]

theorem checkPrint_alike (h : Alike state twin) :
    Alike (checkPrint setting call state) (checkPrint other call twin) := by
  unfold checkPrint
  split
  · exact foldl_alike (fun h => printArgument_alike hsetting h _) h
  · exact h

/-- Both runs judge a credential by the value of the keyword, which they share. -/
theorem checkCredential_alike (h : Alike state twin) (keyword : Node) :
    Alike (checkCredential setting call state keyword)
      (checkCredential other call twin keyword) := by
  unfold checkCredential
  rw [h.tracker, hsetting.file]
  split
  · dsimp only
    split
    · exact h
    · split
      · split
        · exact h.report (by simp only [Finding.bare])
        · exact h
      · split
        · exact h.report (by simp only [Finding.bare])
        · exact h
      · exact h
  · exact h

theorem sinkFinding_alike (h : Alike state twin) (rule : String) (severity : Severity)
    (verdict : Classify.Verdict) (flowType : String) (exposure : Exposure) :
    (sinkFinding setting call state rule severity verdict flowType exposure).bare =
      (sinkFinding other call twin rule severity verdict flowType exposure).bare := by
  simp only [sinkFinding, Finding.bare, hsetting.file, State.sourcesOf, h.tracker]

variable (hjudged : setting.JudgesAlike other call.place)
include hjudged

theorem checkPrinted_alike (h : Alike state twin) (exposure : Exposure) :
    Alike (checkPrinted setting call exposure state) (checkPrinted other call exposure twin) := by
  unfold checkPrinted
  dsimp only
  rw [hjudged.message, hsetting.method, hjudged.verdict, hsetting.file]
  split
  · exact h
  · split
    · exact h.report (sinkFinding_alike hsetting h ..)
    · exact h

/-- Both runs see the same exposure in a log call. -/
theorem checkLog_alike (h : Alike state twin) (exposure : Exposure) :
    Alike (checkLog setting call exposure state) (checkLog other call exposure twin) := by
  unfold checkLog
  dsimp only
  rw [hjudged.message, hsetting.method, hjudged.verdict, hsetting.file]
  split
  · exact h
  · split
    · exact h
    · -- first come the edges of the variables, and the finding shows the lines around the call
      rw [h.tracker, h.function]
      refine (h.addEdges _ _).report ?_
      obtain ⟨hfirst, hlast⟩ := Snippet.surrounded_bounds_eq hsetting.length call.place.line
        call.place.endLine 2
      simp only [sinkFinding, Finding.bare, Setting.excerpt, hfirst, hlast, hsetting.file,
        State.sourcesOf, h.tracker]

theorem checkNetwork_alike (h : Alike state twin) (exposure : Exposure) :
    RunAlike (checkNetwork setting call exposure state)
      (checkNetwork other call exposure twin) := by
  unfold checkNetwork
  rw [RunAlike, map_bind, map_bind]
  refine bind_congr fun address => ?_
  rw [map_bind, map_bind]
  refine bind_congr fun host => ?_
  dsimp only
  rw [hsetting.method, hjudged.verdict]
  split
  · exact (h.report (congrArg (fun finding : Finding => { finding with url := some address })
      (sinkFinding_alike hsetting h ..))).ok
  · exact h.ok

/-- Both runs are refused for the same argument, or write alike. -/
theorem checkWrite_alike (h : Alike state twin) (exposure : Exposure) :
    RunAlike (checkWrite setting call exposure state) (checkWrite other call exposure twin) := by
  unfold checkWrite
  dsimp only
  rw [hjudged.statement]
  split
  · exact h.ok
  · have hwritten (state : State) :=
      map_foldlM (writeArgument_bare exposure.names) call.inputs (state, ({} : Exposure))
    have hsame : bareFound (state, {}) = bareFound (twin, {}) := congrArg (·, ({} : Exposure)) h
    refine map_bind_congr ((hwritten state).trans (hsame ▸ (hwritten twin).symm)) ?_
    rintro ⟨written, added⟩ ⟨another, _⟩ - hfound
    obtain ⟨hwritten, rfl⟩ : Alike written another ∧ added = _ := Prod.mk.inj hfound
    dsimp only
    split
    · exact hwritten.ok
    · rw [hsetting.method, hjudged.verdict, hsetting.file]
      exact (hwritten.report (sinkFinding_alike hsetting hwritten ..)).ok

theorem checkMethod_alike (h : Alike state twin) (exposure : Exposure) :
    RunAlike (checkMethod setting call exposure state) (checkMethod other call exposure twin) := by
  unfold checkMethod
  split
  · dsimp only
    split
    · exact (checkLog_alike hsetting hjudged h exposure).ok
    · split
      · exact checkNetwork_alike hsetting hjudged h exposure
      · split
        · exact checkWrite_alike hsetting hjudged h exposure
        · exact h.ok
  · exact h.ok

theorem checkCall_alike (h : Alike state twin) :
    RunAlike (checkCall setting call state) (checkCall other call twin) := by
  have hleaked : Alike (checkPrint setting call (checkProviders setting call state))
      (checkPrint other call (checkProviders other call twin)) :=
    checkPrint_alike hsetting (checkProviders_alike hsetting h)
  have hcredited : Alike (call.keywords.foldl (checkCredential setting call) _)
      (call.keywords.foldl (checkCredential other call) _) :=
    foldl_alike (fun h => checkCredential_alike hsetting h _) hleaked
  unfold checkCall
  dsimp only
  rw [hcredited.tracker]
  exact checkMethod_alike hsetting hjudged (checkPrinted_alike hsetting hjudged hcredited _) _

end Calls

/-! ## One node -/

section Nodes

variable {setting other : Setting} {state twin : State} (hsetting : setting.Resembles other)
include hsetting

theorem secretFinding_alike (place : Place) (column : Nat) (target : String)
    (secret : Secret.Verdict) : (secretFinding setting place target secret).bare =
      (secretFinding other { place with column } target secret).bare := by
  obtain ⟨hfirst, hlast⟩ := Snippet.surrounded_bounds_eq hsetting.length place.line place.endLine 2
  simp only [secretFinding, Finding.bare, Setting.excerpt, hfirst, hlast, hsetting.file]

/-- An assignment has the same effect wherever it stands on its line. -/
theorem assignName_alike (place : Place) (column : Nat) (value : Node) (target : String)
    (h : Alike state twin) :
    RunAlike (assignName setting place value state target)
      (assignName other { place with column } value twin target) := by
  have htrack : track place.line target value twin = track place.line target value state := by
    unfold track State.scope
    rw [h.tracker, h.function, h.route]
  unfold assignName
  rw [htrack]
  cases track place.line target value state with
  | error fault => rfl
  | ok tracker =>
    refine Alike.ok ?_
    unfold secretFound
    cases secretOf? target value with
    | none =>
      simp only [Option.map_none, Option.toList_none, List.append_nil]
      exact h.congr (fun state => { state with tracker }) fun _ => rfl
    | some secret =>
      exact (h.report (secretFinding_alike hsetting place column target secret)).congr
        (fun state => { state with tracker }) fun _ => rfl

theorem assign_alike (place : Place) (column : Nat) (targets : List Node) (value : Node)
    (h : Alike state twin) :
    RunAlike (assign setting place targets value state)
      (assign other { place with column } targets value twin) := by
  have hsame : List.Forall₂ Eq (namesOf targets) (namesOf targets) :=
    List.forall₂_same.mpr fun _ _ => rfl
  refine map_foldlM_congr hsame (fun target _ {_ _ _} heq h => ?_) h
  obtain rfl := heq
  exact assignName_alike hsetting place column value target h

end Nodes

end SourceFlow

end PrivacyScan
