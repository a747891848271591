import PrivacyScan.Proofs.Outcome
import PrivacyScan.Proofs.ScriptFlow.Leaks

/-!
# What the passes over a script report

Each pass adds findings of its own rules and flows that have a name, and keeps those before it.
`Adds file rules` is that, for one line or for many, and from the passes in order follows the list
of all rules of a script:

* **`findLeaks_adds`**, **`findRequests_adds`**, **`findStorage_adds`**, **`findInputs_adds`** — the
  passes that change the state;
* **`formRule_mem`**, **`trackingRule_mem`** — the rules that are made from a table of the analysis;
* **`analyze_reports`** — every finding of a script is in its file and has one of `scriptRules`;
* **`analyze_flows_named_iff`** — whether all flows have a name is decided by the walk through the
  tree.
-/

namespace PrivacyScan.ScriptFlow

open Taint (Tracker inferScriptTypes)

/-- From `before` to `after` only findings in this file and of these rules were added, and only
flows that have a name. -/
structure Adds (file : String) (rules : List String) (before after : State) : Prop where
  findings : Appends (Finding.IsIn file rules) before.findings after.findings
  flows : AddsNamed before.tracker after.tracker

namespace Adds

variable {file : String} {rules others : List String} {first second third : State}

theorem refl (state : State) : Adds file rules state state := ⟨.refl _, .refl _⟩

theorem trans (h : Adds file rules first second) (h' : Adds file rules second third) :
    Adds file rules first third :=
  ⟨h.findings.trans h'.findings, h.flows.trans h'.flows⟩

theorem mono (h : Adds file rules first second) (hsub : rules ⊆ others) :
    Adds file others first second :=
  ⟨h.findings.mono fun _ hin => ⟨hin.file, hsub hin.rule⟩, h.flows⟩

theorem foldl {α : Type} {step : State → α → State} {items : List α}
    (hstep : ∀ item ∈ items, ∀ state, Adds file rules state (step state item)) (start : State) :
    Adds file rules start (items.foldl step start) :=
  foldl_relates (Adds file rules) refl trans hstep start

end Adds

variable {file code : String} {rules : List String} {script : Script} {line : Line}
  {tracker : Tracker}
  {callResult : Option CallResult} {state before after last : State}

theorem report_adds {finding : Finding}
    (h : finding.IsIn file rules) (htracker : AddsNamed state.tracker tracker) :
    Adds file rules state ({ state with tracker }.report finding) :=
  ⟨.single h, htracker⟩

theorem reportAll_adds {findings : List Finding} (h : ∀ finding ∈ findings, finding.IsIn file rules)
    (state : State) : Adds file rules state (state.reportAll findings) :=
  ⟨.ofAll h, .refl _⟩

theorem findLeaks_adds (script : Script) (callResult : Option CallResult) (state : State) :
    Adds script.file leakRules state (findLeaks script callResult state) := by
  obtain ⟨found, flows, hfound, hflows, hleaks⟩ :=
    (findLeaks_addsLeaks script callResult state).pairs
  have hin := (List.forall₂_and_left _ _).mp (hleaks.imp fun _ _ hleak => ⟨hleak.isIn, hleak⟩)
  have hnamed :=
    (List.forall₂_and_left _ _).mp (List.Forall₂.flip (hleaks.imp fun _ flow hleak => by
    obtain ⟨name, _, hsource, _⟩ := hleak.tainted
    exact (⟨hsource ▸ Option.some_ne_none name, hleak⟩ : flow.source ≠ none ∧ _)))
  exact ⟨⟨found, hfound, hin.1⟩, ⟨flows, hflows, hnamed.1⟩⟩

/-! ## Requests, storage and handlers -/

def requestRules : List String := ["AI_PII_LEAK", "HTTP_INSECURE_API"]

/-- A request is reported as one to a model, or for an address without encryption. -/
theorem request_findings_isIn (request : Request) (state : State) :
    ∀ finding ∈ request.findings script line state, finding.IsIn script.file requestRules := by
  intro finding hmem
  unfold Request.findings at hmem
  dsimp only at hmem
  split at hmem
  · rw [List.mem_singleton.mp hmem]
    exact ⟨rfl, List.mem_cons_self⟩
  · split at hmem
    · rw [List.mem_singleton.mp hmem]
      exact ⟨rfl, List.mem_cons_of_mem _ List.mem_cons_self⟩
    · cases hmem

theorem readRequest_adds (progress : State × List Document) (request : Request) :
    Adds script.file requestRules progress.1 (readRequest script line progress request).1 :=
  ⟨.ofAll (request_findings_isIn request progress.1), addScriptEdge_flows ..⟩

/-- Requests are found line by line, and each line only adds. -/
theorem findRequests_adds (script : Script) (state : State) :
    Adds script.file requestRules state (findRequests script state).1 := by
  have hline (line : Line) (progress : State × List Document) :
      Adds script.file requestRules progress.1
        ((requestsOn line).foldl (readRequest script line) progress).1 :=
    foldl_relates
      (fun first last : State × List Document => Adds script.file requestRules first.1 last.1)
      (fun progress => .refl progress.1) .trans
      (fun request _ progress => readRequest_adds progress request) progress
  have hlines := foldl_relates
    (fun first last : State × List Document => Adds script.file requestRules first.1 last.1)
    (fun progress => .refl progress.1) .trans
    (fun line (_ : line ∈ script.numbered) progress => hline line progress) (state, [])
  exact hlines

def storageRules : List String := ["INSECURE_BROWSER_STORAGE", "INSECURE_COOKIE_STORAGE"]

theorem readStorage_adds (state : State) :
    Adds script.file storageRules state (readStorage script line state) := by
  unfold readStorage
  split
  · exact .refl state
  · dsimp only
    split
    · exact report_adds ⟨rfl, List.mem_cons_self⟩ (addScriptEdge_flows ..)
    · exact .refl state

theorem readCookie_adds (state : State) :
    Adds script.file storageRules state (readCookie script line state) := by
  unfold readCookie
  dsimp only
  split
  · exact report_adds ⟨rfl, List.mem_cons_of_mem _ List.mem_cons_self⟩ (.refl _)
  · exact .refl state

theorem findStorage_adds (script : Script) (state : State) :
    Adds script.file storageRules state (findStorage script state) := by
  unfold findStorage
  exact .foldl (fun line _ state => (readStorage_adds state).trans (readCookie_adds _)) state

def inputRules : List String := ["BACKEND_PII_INPUT"]

theorem inputFinding_isIn (piiTypes : List String) (confidence : Float) (reasoning : String) :
    (inputFinding script line piiTypes confidence reasoning).IsIn script.file inputRules :=
  ⟨rfl, List.mem_singleton.mpr rfl⟩

/-- Access to a request adds the variable and its finding, or nothing. -/
theorem readAccess_adds (h : readAccess script line before = .ok after) :
    Adds script.file inputRules before after := by
  unfold readAccess at h
  split at h
  · cases h
    exact .refl _
  · dsimp only at h
    split at h
    · cases h
      exact .refl _
    · split at h
      · cases h
      · cases h
        exact report_adds (inputFinding_isIn ..) (.of_edges_eq (markScript_learns ..).edges)

theorem readAddress_adds (state : State) :
    Adds script.file inputRules state (readAddress script line state) := by
  unfold readAddress
  split
  · exact report_adds (inputFinding_isIn ..) (.refl _)
  · exact .refl state

theorem readDecorator_adds (state : State) (decorator : String × Pattern) :
    Adds script.file inputRules state (readDecorator script line state decorator) := by
  unfold readDecorator
  split
  · exact .refl state
  · dsimp only
    split
    · exact .refl state
    · exact report_adds (inputFinding_isIn ..) (.of_edges_eq (markScript_learns ..).edges)

/-- The ways in which a handler gets data, one after the other. -/
theorem readHandler_adds (h : readHandler script before line = .ok after) :
    Adds script.file inputRules before after := by
  unfold readHandler at h
  obtain ⟨accessed, haccessed, h⟩ := Outcome.bind_eq_ok.mp h
  obtain rfl := Except.ok.inj h
  have hread : Adds script.file inputRules before (readAddress script line accessed) :=
    (readAccess_adds haccessed).trans (readAddress_adds accessed)
  exact hread.trans (.foldl (fun decorator _ state => readDecorator_adds state decorator) _)

theorem findInputs_adds (h : findInputs script before = .ok after) :
    Adds script.file inputRules before after :=
  Outcome.foldlM_relates (Adds script.file inputRules) .refl .trans (fun _ _ => readHandler_adds) h

/-! ## Fields, trackers, models and secrets -/

def formRules : List String :=
  ["FORM_FIELD_NAME", "FORM_FIELD_PASSWORD", "FORM_FIELD_EMAIL", "FORM_FIELD_PHONE",
    "FORM_FIELD_BUSINESS_DATA", "FORM_FIELD_LOCATION", "FORM_FIELD_FINANCIAL", "FORM_FIELD_ID",
    "FORM_FIELD_BIRTH_DATE"]

theorem formRule_mem :
    ∀ field ∈ formFields, "FORM_FIELD_" ++ Text.upper field.piiType ∈ formRules := by
  decide +kernel

theorem findFormFields_isIn (script : Script) :
    ∀ finding ∈ findFormFields script, finding.IsIn script.file formRules := by
  intro finding hmem
  obtain ⟨line, _, hmem⟩ := List.mem_flatMap.mp hmem
  obtain ⟨field, hfield, hfinding⟩ := List.mem_filterMap.mp hmem
  obtain ⟨found, _, rfl⟩ := Option.map_eq_some_iff.mp hfinding
  exact ⟨rfl, formRule_mem field hfield⟩

def trackingRules : List String :=
  ["TRACKING_GOOGLE_ANALYTICS", "TRACKING_FACEBOOK_PIXEL", "TRACKING_MIXPANEL", "TRACKING_HOTJAR",
    "TRACKING_SEGMENT"]

theorem trackingRule_mem :
    ∀ tracking ∈ trackingScripts, "TRACKING_" ++ tracking.name ∈ trackingRules := by
  decide +kernel

theorem findTracking_isIn (script : Script) :
    ∀ finding ∈ findTracking script, finding.IsIn script.file trackingRules := by
  intro finding hmem
  obtain ⟨line, _, hmem⟩ := List.mem_flatMap.mp hmem
  obtain ⟨tracking, htracking, rfl⟩ := List.mem_map.mp hmem
  exact ⟨rfl, trackingRule_mem tracking (List.mem_filter.mp htracking).1⟩

def modelRules : List String := ["DB_MODEL_PII"]

theorem modelField?_isIn {pattern : Pattern} {definition source : String} {finding : Finding}
    (h : modelField? script line pattern definition source = some finding) :
    finding.IsIn script.file modelRules := by
  unfold modelField? at h
  obtain ⟨found, _, h⟩ := Option.bind_eq_some_iff.mp h
  dsimp only at h
  split at h
  · cases h
  · cases h
    exact ⟨rfl, List.mem_singleton.mpr rfl⟩

theorem findModels_isIn (script : Script) :
    ∀ finding ∈ findModels script, finding.IsIn script.file modelRules := by
  intro finding hmem
  obtain ⟨line, _, hmem⟩ := List.mem_flatMap.mp hmem
  rcases List.mem_append.mp hmem with hschema | hcolumn
  · exact modelField?_isIn (Option.mem_toList.mp hschema)
  · exact modelField?_isIn (Option.mem_toList.mp hcolumn)

def secretRules : List String := ["HARDCODED_SECRET"]

/-- A line has at most one finding for its secrets. -/
theorem findSecrets_isIn (script : Script) :
    ∀ finding ∈ findSecrets script, finding.IsIn script.file secretRules := by
  intro finding hmem
  obtain ⟨line, _, hfinding⟩ := List.mem_filterMap.mp hmem
  unfold secretOn? at hfinding
  obtain ⟨_, _, hfinding⟩ := Option.bind_eq_some_iff.mp hfinding
  obtain ⟨found, _, hfinding⟩ := Option.bind_eq_some_iff.mp hfinding
  obtain ⟨secret, _, hfinding⟩ := Option.bind_eq_some_iff.mp hfinding
  cases hfinding
  exact ⟨rfl, List.mem_singleton.mpr rfl⟩

/-! ## All passes -/

def scriptRules : List String :=
  leakRules ++ formRules ++ requestRules ++ storageRules ++ trackingRules ++ inputRules ++
    modelRules ++ secretRules

/-- The passes over a script start with what the walk through its tree has found. -/
theorem analyze_adds {file : String} (h : analyze file code callResult = .ok last) :
    Adds file scriptRules { tracker := (trace code {}).2 } last := by
  unfold analyze at h
  dsimp only at h
  obtain ⟨served, hserved, h⟩ := Outcome.bind_eq_ok.mp h
  cases h
  -- the state behind each pass, in the order of the passes
  have hleaks := (findLeaks_adds (Script.ofCode file code) callResult
    { tracker := (trace code {}).2 }).mono (show leakRules ⊆ scriptRules by decide)
  have hforms := hleaks.trans ((reportAll_adds (findFormFields_isIn (Script.ofCode file code))
    _).mono (show formRules ⊆ scriptRules by decide))
  have hrequests := hforms.trans ((findRequests_adds (Script.ofCode file code) _).mono
    (show requestRules ⊆ scriptRules by decide))
  have hstorage := hrequests.trans ((findStorage_adds (Script.ofCode file code) _).mono
    (show storageRules ⊆ scriptRules by decide))
  have htracking := hstorage.trans ((reportAll_adds (findTracking_isIn (Script.ofCode file code))
    _).mono (show trackingRules ⊆ scriptRules by decide))
  have hinputs := htracking.trans ((findInputs_adds hserved).mono
    (show inputRules ⊆ scriptRules by decide))
  have hmodels := hinputs.trans ((reportAll_adds (findModels_isIn (Script.ofCode file code))
    _).mono (show modelRules ⊆ scriptRules by decide))
  exact hmodels.trans ((reportAll_adds (findSecrets_isIn (Script.ofCode file code))
    _).mono (show secretRules ⊆ scriptRules by decide))

theorem analyze_reports {file : String} (h : analyze file code callResult = .ok last) :
    ∀ finding ∈ last.findings, finding.IsIn file scriptRules :=
  (analyze_adds h).findings.all (by simp)

theorem analyze_flows_named_iff {file : String} (h : analyze file code callResult = .ok last) :
    (∀ flow ∈ last.tracker.edges, flow.source ≠ none) ↔
      ∀ flow ∈ (trace code {}).2.edges, flow.source ≠ none :=
  (analyze_adds h).flows.named_iff

end PrivacyScan.ScriptFlow
