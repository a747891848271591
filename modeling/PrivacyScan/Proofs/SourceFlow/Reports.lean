import Mathlib.Data.List.Forall2
import PrivacyScan.SourceFlow.Sink
import PrivacyScan.Proofs.Findings
import PrivacyScan.Proofs.Outcome

/-!
# What the checks of a call report

Each check of a call adds findings of its own rules on the line of the call, together with their
edges into sinks, and leaves what is known of the variables as it was. `Observes file rules line` is
that, for one step or many.

There is one lemma for each check, named after it. They are put together in the order in which the
checks come, with the rules widened on the way (`Observes.mono`), up to `checkCall_observes`. Later
proofs about findings and edges read these lemmas and no check.
-/

namespace PrivacyScan.SourceFlow

open Source (Node Place Constant)
open Taint (Tracker Record FlowEdge inferTypes)

def credentialRules : List String :=
  ["HARDCODED_CREDENTIAL_IN_CALL", "HARDCODED_SECRET_PROPAGATION"]

def printRules : List String := ["PRINT_PII_ARTICLE9", "PRINT_PII"]

def logRules : List String := ["LOG_PII_ARTICLE9", "LOG_PII_EMAIL", "LOG_PII_TOKEN", "LOG_PII"]

def writeRules : List String := ["DB_WRITE_ARTICLE9", "DB_WRITE"]

/-! ## Findings with their edges -/

/-- The rules of data that leaves for a model, for the console or for the log. -/
def isSinkRule (rule : String) : Bool :=
  rule == "AI_PII_LEAK" || rule == "PRINT_SENSITIVE_DATA" || Text.startsWith rule "LOG_PII"

def isSinkEdge (edge : FlowEdge) : Bool := edge.flowType == "sink"

/-- The edges of one finding: a single one into the model or to the console, and for the log one
from each of its variables, in order. All lead to the line of the finding. -/
inductive LeadsInto (finding : Finding) : List FlowEdge → Prop where
  | provider {edge : FlowEdge} (name : String) (hrule : finding.rule = "AI_PII_LEAK")
      (htarget : edge.target = "AI_SINK:" ++ name) (hline : edge.targetLine = finding.line) :
      LeadsInto finding [edge]
  | console {edge : FlowEdge} (hrule : finding.rule = "PRINT_SENSITIVE_DATA")
      (htarget : edge.target = "print") (hline : edge.targetLine = finding.line) :
      LeadsInto finding [edge]
  | log {edges : List FlowEdge} (hrule : Text.startsWith finding.rule "LOG_PII" = true)
      (hsources : edges.map (·.source) = finding.taintedVariables.map some)
      (hedges : ∀ edge ∈ edges, edge.target = "logging" ∧ edge.targetLine = finding.line) :
      LeadsInto finding edges

/-- The edges into sinks are those of the findings, one group after the other. -/
def Matches (findings : List Finding) (edges : List FlowEdge) : Prop :=
  ∃ groups, List.Forall₂ LeadsInto (findings.filter fun finding => isSinkRule finding.rule) groups ∧
    edges.filter isSinkEdge = groups.flatten

namespace Matches

variable {findings others : List Finding} {edges more : List FlowEdge} {finding : Finding}

theorem ofFlows (h : ∀ edge ∈ edges, edge.flowType ≠ "sink") : Matches [] edges := by
  refine ⟨[], .nil, List.filter_eq_nil_iff.mpr fun edge hedge hsink => ?_⟩
  exact h edge hedge (eq_of_beq hsink)

theorem nil : Matches [] [] := ⟨[], .nil, rfl⟩

theorem other (h : isSinkRule finding.rule = false) : Matches [finding] [] := by
  refine ⟨[], ?_, rfl⟩
  rw [List.filter_singleton, h]
  exact .nil

theorem group (hrule : isSinkRule finding.rule = true) (h : LeadsInto finding edges)
    (hsinks : ∀ edge ∈ edges, edge.flowType = "sink") : Matches [finding] edges := by
  refine ⟨[edges], ?_, ?_⟩
  · rw [List.filter_singleton, hrule]
    exact .cons h .nil
  · rw [List.flatten_singleton, List.filter_eq_self]
    exact fun edge hedge => beq_iff_eq.mpr (hsinks edge hedge)

/-- The groups of the first part come before those of the second. -/
theorem append (h : Matches findings edges) (h' : Matches others more) :
    Matches (findings ++ others) (edges ++ more) := by
  obtain ⟨groups, hgroups, hedges⟩ := h
  obtain ⟨rest, hrest, hmore⟩ := h'
  refine ⟨groups ++ rest, ?_, ?_⟩
  · rw [List.filter_append]
    exact List.rel_append hgroups hrest
  · rw [List.filter_append, hedges, hmore, List.flatten_append]

end Matches

/-- From `before` to `after` findings of this file were added, together with their edges. -/
def Tells (file : String) (before after : State) : Prop :=
  ∃ findings edges, after.findings = before.findings ++ findings ∧
    after.tracker.edges = before.tracker.edges ++ edges ∧ Matches findings edges ∧
    ∀ finding ∈ findings, finding.file = file

namespace Tells

variable {file : String} {first second third : State}

theorem refl (state : State) : Tells file state state :=
  ⟨[], [], (List.append_nil _).symm, (List.append_nil _).symm, .nil, by simp⟩

theorem trans (h : Tells file first second) (h' : Tells file second third) :
    Tells file first third := by
  obtain ⟨findings, edges, hfindings, hedges, hmatches, hfile⟩ := h
  obtain ⟨others, more, hothers, hmore, hmatches', hfile'⟩ := h'
  refine ⟨findings ++ others, edges ++ more, ?_, ?_, hmatches.append hmatches', ?_⟩
  · rw [hothers, hfindings, List.append_assoc]
  · rw [hmore, hedges, List.append_assoc]
  · intro finding hmem
    rcases List.mem_append.mp hmem with hmem | hmem
    · exact hfile finding hmem
    · exact hfile' finding hmem

theorem ofTracker {state : State} {tracker : Tracker} (added : List FlowEdge)
    (hedges : tracker.edges = state.tracker.edges ++ added)
    (hflows : ∀ edge ∈ added, edge.flowType ≠ "sink") : Tells file state { state with tracker } :=
  ⟨[], added, (List.append_nil _).symm, hedges, .ofFlows hflows, by simp⟩

/-- A change of the state that leaves the findings and the edges alone. -/
theorem ofEq {before after : State} (hfindings : after.findings = before.findings)
    (hedges : after.tracker.edges = before.tracker.edges) : Tells file before after := by
  refine ⟨[], [], ?_, ?_, .nil, by simp⟩
  · rw [hfindings, List.append_nil]
  · rw [hedges, List.append_nil]

end Tells

def silentRules : List String :=
  "HARDCODED_SECRET" :: credentialRules ++ printRules ++ ["HTTP_PLAIN"] ++ writeRules

/-- The findings without edges have rules of their own. -/
theorem not_isSinkRule_of_silent {rule : String} (h : rule ∈ silentRules) :
    isSinkRule rule = false := by
  have hall : ∀ rule ∈ silentRules, isSinkRule rule = false := by decide
  exact hall rule h

theorem isSinkRule_of_log {rule : String} (h : rule ∈ logRules) :
    Text.startsWith rule "LOG_PII" = true ∧ isSinkRule rule = true := by
  have hall : ∀ rule ∈ logRules, Text.startsWith rule "LOG_PII" = true ∧
      isSinkRule rule = true := by
    decide
  exact hall rule h

/-! ## What a check does -/

/-- From `before` to `after` only findings of these rules on this line of this file were added,
together with their edges; no record of a variable has changed, nor the route. -/
structure Observes (file : String) (rules : List String) (line : Int) (before after : State) :
    Prop where
  findings : Appends (Finding.IsOf rules line) before.findings after.findings
  records : after.tracker.records = before.tracker.records
  route : after.route = before.route
  tells : Tells file before after

namespace Observes

variable {file : String} {rules others : List String} {line : Int} {first second third : State}

theorem refl (state : State) : Observes file rules line state state := ⟨.refl _, rfl, rfl, .refl _⟩

theorem trans (h : Observes file rules line first second)
    (h' : Observes file rules line second third) : Observes file rules line first third :=
  ⟨h.findings.trans h'.findings, h'.records.trans h.records, h'.route.trans h.route,
    h.tells.trans h'.tells⟩

theorem mono (h : Observes file rules line first second) (hsub : rules ⊆ others) :
    Observes file others line first second :=
  ⟨h.findings.mono fun _ hof => hof.mono hsub, h.records, h.route, h.tells⟩

theorem foldl {α : Type} {step : State → α → State} {items : List α}
    (hstep : ∀ item ∈ items, ∀ state, Observes file rules line state (step state item))
    (start : State) : Observes file rules line start (items.foldl step start) :=
  foldl_relates (Observes file rules line) refl trans hstep start

end Observes

variable {file : String} {rules : List String} {line : Int} {setting : Setting} {call : Call}
  {exposure : Exposure} {finding : Finding} {before after : State}

theorem report_tells (hrule : finding.rule ∈ silentRules)
    (hfile : finding.file = file) (state : State) : Tells file state (state.report finding) := by
  refine ⟨[finding], [], rfl, (List.append_nil _).symm,
    .other (not_isSinkRule_of_silent hrule), fun other hother => ?_⟩
  rw [List.mem_singleton.mp hother, hfile]

/-- A finding without edges is reported. -/
theorem report_observes (h : finding.IsOf rules line) (state : State)
    (hfile : finding.file = file := by rfl) (hsilent : rules ⊆ silentRules := by decide) :
    Observes file rules line state (state.report finding) :=
  ⟨.single h, rfl, rfl, report_tells (hsilent h.1) hfile state⟩

/-- A finding is reported together with its one edge. -/
theorem report_addEdge_observes {edge : FlowEdge} (h : finding.IsOf rules line)
    (hedge : LeadsInto finding [edge]) (state : State) (hfile : finding.file = file := by rfl)
    (hrule : isSinkRule finding.rule = true := by rfl) (hsink : edge.flowType = "sink" := by rfl) :
    Observes file rules line state ((state.report finding).addEdge edge) := by
  refine ⟨.single h, rfl, rfl, [finding], [edge], rfl, rfl, .group hrule hedge ?_, ?_⟩
  · simpa using hsink
  · simpa using hfile

theorem foldl_addEdge_eq (edgeOf : String → FlowEdge) (names : List String) (state : State) :
    names.foldl (fun state name => state.addEdge (edgeOf name)) state =
      { state with
        tracker := { state.tracker with edges := state.tracker.edges ++ names.map edgeOf } } := by
  induction names generalizing state with
  | nil => simp
  | cons name rest ih =>
    rw [List.foldl_cons, ih]
    simp [State.addEdge, Tracker.addEdge]

/-- Edges to the log from all variables of a finding, and then the finding. -/
theorem log_tells {edgeOf : String → FlowEdge} (names : List String)
    (state : State) (hrule : finding.rule ∈ logRules) (hfile : finding.file = file)
    (hnames : finding.taintedVariables = names)
    (hedge : ∀ name, (edgeOf name).source = some name ∧ (edgeOf name).target = "logging" ∧
      (edgeOf name).targetLine = finding.line ∧ (edgeOf name).flowType = "sink") :
    Tells file state
      ((names.foldl (fun state name => state.addEdge (edgeOf name)) state).report finding) := by
  obtain ⟨hlog, hsink⟩ := isSinkRule_of_log hrule
  rw [foldl_addEdge_eq]
  refine ⟨[finding], names.map edgeOf, rfl, rfl, .group hsink (.log hlog ?_ ?_) ?_, ?_⟩
  · rw [hnames, List.map_map]
    exact List.map_congr_left fun name _ => (hedge name).1
  · intro edge hmem
    obtain ⟨name, _, rfl⟩ := List.mem_map.mp hmem
    exact ⟨(hedge name).2.1, (hedge name).2.2.1⟩
  · intro edge hmem
    obtain ⟨name, _, rfl⟩ := List.mem_map.mp hmem
    exact (hedge name).2.2.2
  · intro other hother
    rw [List.mem_singleton.mp hother, hfile]

/-! ## The single checks -/

section Single

variable (setting call)

theorem leakTo_observes (provider : String) (argument : Node) (state : State) :
    Observes setting.file ["AI_PII_LEAK"] call.place.line state
      (leakTo setting call provider state argument) := by
  unfold leakTo
  split
  · exact .refl state
  · split
    · exact .refl state
    · refine report_addEdge_observes ?_ ?_ state
      · exact ⟨List.mem_singleton.mpr rfl, rfl⟩
      · exact .provider provider rfl rfl rfl

theorem checkProviders_observes (state : State) :
    Observes setting.file ["AI_PII_LEAK"] call.place.line state
      (checkProviders setting call state) := by
  unfold checkProviders
  split
  · next provider _ =>
    exact .foldl
      (fun argument _ state => leakTo_observes setting call provider argument state) state
  · exact .refl state

theorem printArgument_observes (argument : Node) (state : State) :
    Observes setting.file ["PRINT_SENSITIVE_DATA"] call.place.line state
      (printArgument setting call state argument) := by
  unfold printArgument
  split
  · exact .refl state
  · split
    · exact .refl state
    · refine report_addEdge_observes ?_ ?_ state
      · exact ⟨List.mem_singleton.mpr rfl, rfl⟩
      · exact .console rfl rfl rfl

theorem checkPrint_observes (state : State) :
    Observes setting.file ["PRINT_SENSITIVE_DATA"] call.place.line state
      (checkPrint setting call state) := by
  unfold checkPrint
  split
  · exact .foldl (fun argument _ state => printArgument_observes setting call argument state) state
  · exact .refl state

/-- A credential is reported by rules of its own, and no record changes. -/
theorem checkCredential_observes (keyword : Node) (state : State) :
    Observes setting.file credentialRules call.place.line state
      (checkCredential setting call state keyword) := by
  unfold checkCredential
  split
  · -- a named keyword: the value is a literal, a variable or neither
    dsimp only
    split
    · exact .refl state
    · split
      · split
        · exact report_observes (by simp [Finding.IsOf, credentialRules]) state
        · exact .refl state
      · split
        · exact report_observes (by simp [Finding.IsOf, credentialRules]) state
        · exact .refl state
      · exact .refl state
  · exact .refl state

/-- The finding of a sink is on the line of the call and has the rule that it is given. -/
theorem sinkFinding_isOf {setting : Setting} {call : Call} {state : State} {rule : String}
    {severity : Severity} {verdict : Classify.Verdict} {flowType : String} (h : rule ∈ rules) :
    (sinkFinding setting call state rule severity verdict flowType exposure).IsOf rules
      call.place.line :=
  ⟨h, rfl⟩

theorem checkPrinted_observes (exposure : Exposure) (state : State) :
    Observes setting.file printRules call.place.line state
      (checkPrinted setting call exposure state) := by
  unfold checkPrinted
  dsimp only
  split
  · exact .refl state
  · split
    · exact report_observes (sinkFinding_isOf (by split <;> simp [printRules])) state
    · exact .refl state

/-- The rule of a message to the log is put together from the first type, and is one of four. -/
theorem logRule_mem (verdict : Classify.Verdict) : (logRule verdict).1 ∈ logRules := by
  unfold logRule
  split
  · simp [logRules]
  · split
    · next first _ _ =>
      split
      · next hfirst =>
        -- only two types give a rule of their own, and their upper case is computed
        have hcases : first = "email" ∨ first = "token" := by simpa using hfirst
        rcases hcases with rfl | rfl
        · show "LOG_PII_" ++ Text.upper "email" ∈ logRules
          decide
        · show "LOG_PII_" ++ Text.upper "token" ∈ logRules
          decide
      · simp [logRules]
    · simp [logRules]

/-- A log call is reported on its line. -/
theorem checkLog_observes (exposure : Exposure) (state : State) :
    Observes setting.file logRules call.place.line state
      (checkLog setting call exposure state) := by
  unfold checkLog
  dsimp only
  split
  · exact .refl state
  · split
    · exact .refl state
    · refine ⟨?_, ?_, ?_, log_tells exposure.names state (logRule_mem _) rfl rfl
        fun _ => ⟨rfl, rfl, rfl, rfl⟩⟩
      · rw [foldl_addEdge_eq]
        exact .single ⟨logRule_mem _, rfl⟩
      all_goals
        rw [foldl_addEdge_eq]
        rfl

end Single

theorem checkNetwork_observes (h : checkNetwork setting call exposure before = .ok after) :
    Observes setting.file ["HTTP_PLAIN"] call.place.line before after := by
  unfold checkNetwork at h
  obtain ⟨address, _, h⟩ := Outcome.bind_eq_ok.mp h
  obtain ⟨host, _, h⟩ := Outcome.bind_eq_ok.mp h
  dsimp only at h
  split at h
  · cases h
    refine report_observes ?_ before
    exact ⟨List.mem_singleton.mpr rfl, rfl⟩
  · cases h
    exact .refl before

/-! ## Writing to a database

The columns that are noted do not belong to the records, so both runs, over the arguments and over
the keywords of one of them, keep the state apart from its columns. -/

/-- A keyword adds no finding and changes no record. -/
theorem writeKeyword_observes {table : String} {known : List String} {keyword : Node}
    {before after : State × Exposure} (h : writeKeyword table known before keyword = .ok after) :
    Observes file rules line before.1 after.1 := by
  unfold writeKeyword at h
  dsimp only at h
  split at h
  · split at h
    · cases h
      exact .refl _
    · -- the types come from the record, else from the column, and without either there is no result
      split at h
      · cases h
        exact ⟨.refl _, rfl, rfl, .ofEq rfl rfl⟩
      · cases h
        exact ⟨.refl _, rfl, rfl, .ofEq rfl rfl⟩
      · cases h
  · cases h
    exact .refl _

theorem writeArgument_observes {known : List String} {argument : Node}
    {before after : State × Exposure} (h : writeArgument known before argument = .ok after) :
    Observes file rules line before.1 after.1 := by
  unfold writeArgument at h
  split at h
  · exact Outcome.foldlM_relates (fun first last => Observes file rules line first.1 last.1)
      (fun found => .refl found.1) .trans (fun _ _ => writeKeyword_observes) h
  · dsimp only at h
    split at h
    · cases h
      exact .refl _
    · cases h
      exact .refl _
  · cases h
    exact .refl _

theorem writeArguments_observes {known : List String} {arguments : List Node}
    {before after : State × Exposure}
    (h : arguments.foldlM (writeArgument known) before = .ok after) :
    Observes file rules line before.1 after.1 :=
  Outcome.foldlM_relates (fun first last => Observes file rules line first.1 last.1)
    (fun found => .refl found.1) .trans (fun _ _ => writeArgument_observes) h

/-- A write is reported on the line of its call. -/
theorem checkWrite_observes (h : checkWrite setting call exposure before = .ok after) :
    Observes setting.file writeRules call.place.line before after := by
  unfold checkWrite at h
  dsimp only at h
  split at h
  · cases h
    exact .refl _
  · obtain ⟨⟨written, added⟩, hwritten, h⟩ := Outcome.bind_eq_ok.mp h
    have hrun : Observes setting.file writeRules call.place.line before written :=
      writeArguments_observes hwritten
    dsimp only at h
    split at h
    · cases h
      exact hrun
    · cases h
      exact hrun.trans (report_observes (sinkFinding_isOf (by split <;> simp [writeRules])) _)

/-! ## All checks of a call -/

/-- The rules of the checks that look at the object and the method. -/
def methodRules : List String := logRules ++ ["HTTP_PLAIN"] ++ writeRules

/-- Whatever the method is, its findings are on the line of the call. -/
theorem checkMethod_observes (h : checkMethod setting call exposure before = .ok after) :
    Observes setting.file methodRules call.place.line before after := by
  unfold checkMethod at h
  split at h
  · dsimp only at h
    split at h
    · cases h
      exact (checkLog_observes setting call exposure before).mono (by decide)
    · split at h
      · exact (checkNetwork_observes h).mono (by decide)
      · split at h
        · exact (checkWrite_observes h).mono (by decide)
        · cases h
          exact .refl _
  · cases h
    exact .refl _

/-- The state in which the method of a call is looked at, after all checks that cannot fail. -/
def credited (setting : Setting) (call : Call) (state : State) : State :=
  call.keywords.foldl (checkCredential setting call) (checkPrint setting call state)

/-- What is checked once the models of other providers are. -/
def checkSinks (setting : Setting) (call : Call) (state : State) : Outcome State :=
  let exposure := Exposure.ofNodes (credited setting call state).tracker call.values
  checkMethod setting call exposure
    (checkPrinted setting call exposure (credited setting call state))

theorem checkCall_eq (setting : Setting) (call : Call) (state : State) :
    checkCall setting call state = checkSinks setting call (checkProviders setting call state) :=
  rfl

/-- The rules of all checks behind the one for models of other providers. -/
def sinkRules : List String :=
  ["PRINT_SENSITIVE_DATA"] ++ credentialRules ++ printRules ++ methodRules

def creditedRules : List String := "PRINT_SENSITIVE_DATA" :: credentialRules

theorem credited_observes (setting : Setting) (call : Call) (state : State) :
    Observes setting.file creditedRules call.place.line state (credited setting call state) := by
  have hcredential (keyword : Node) (state : State) :
      Observes setting.file creditedRules call.place.line state
        (checkCredential setting call state keyword) :=
    (checkCredential_observes setting call keyword state).mono (by decide)
  exact ((checkPrint_observes setting call state).mono (by decide)).trans
    (.foldl (fun keyword _ => hcredential keyword) _)

theorem checkSinks_observes (h : checkSinks setting call before = .ok after) :
    Observes setting.file sinkRules call.place.line before after := by
  unfold checkSinks at h
  have hcredited : Observes setting.file sinkRules call.place.line before
      (credited setting call before) := (credited_observes setting call before).mono (by decide)
  have hprinted (exposure : Exposure) (state : State) :
      Observes setting.file sinkRules call.place.line state
        (checkPrinted setting call exposure state) :=
    (checkPrinted_observes setting call exposure state).mono (by decide)
  exact (hcredited.trans (hprinted _ _)).trans ((checkMethod_observes h).mono (by decide))

def callRules : List String := "AI_PII_LEAK" :: sinkRules

/-- **All checks of a call only observe.** -/
theorem checkCall_observes (h : checkCall setting call before = .ok after) :
    Observes setting.file callRules call.place.line before after := by
  rw [checkCall_eq] at h
  have hproviders : Observes setting.file callRules call.place.line before
      (checkProviders setting call before) :=
    (checkProviders_observes setting call before).mono (by decide)
  exact hproviders.trans ((checkSinks_observes h).mono (by decide))

end PrivacyScan.SourceFlow
