import Mathlib.Data.List.Forall2
import PrivacyScan.Proofs.SourceFlow.Walk
import PrivacyScan.Proofs.Taint.Frame

/-!
# The variables that a finding names

A finding about the log, the console or a database names the variables and members that its call
hands on. They are collected by a recursion over the arguments, with the variables known at that
moment; what is said here of them holds of the variables known in the end, because none is ever
forgotten:

* **`ofNodes_isFrom`** — everything collected from expressions inside a node stands for data there;
* **`checkCall_explains`** — so the findings of a call name such data, and at least one;
* **`visit_explains`** — the walk gives each node the findings that were added when it was entered.

The findings are put into groups, one for each node in preorder, because the line of a finding does
not tell the call that it belongs to: there may be several on one line.
-/

namespace PrivacyScan.SourceFlow

open Source (Node Form Place Constant)
open Taint (Tracker Mark FlowEdge memberWords)

/-- The rules of data that goes to the log, to the console or into a database. -/
def isExposureRule (rule : String) : Bool :=
  Text.startsWithAny rule ["LOG_PII", "PRINT_PII", "DB_WRITE"]

/-! ## What a text stands for -/

/-- A member as it is written in a finding: with its object when that is a variable. -/
def memberText (id : String) (object : Node) : String :=
  match object.name? with
  | some base => base ++ "." ++ id
  | none => id

/-- The text is a known variable in the node, or a member in the node whose object is a known
variable or whose own name holds one of the words for personal data. -/
inductive StandsFor (tracker : Tracker) (node : Node) (text : String) : Prop where
  | known {inner : Node} (hinside : inner ∈ node.preorder) (hform : inner.form = .name text)
      (hholds : tracker.holds text = true)
  | member (place : Place) (id : String) (object : Node)
      (hinside : .member place id object ∈ node.preorder) (htext : text = memberText id object)
      (htainted : (∃ base, object.name? = some base ∧ tracker.holds base = true) ∨
        ∃ word ∈ memberWords, Text.contains (Text.lower id) word = true)

/-- Every variable that `before` knows, `after` knows. -/
def Remembers (before after : Tracker) : Prop :=
  ∀ name, before.holds name = true → after.holds name = true

namespace Remembers

variable {first second third : Tracker}

theorem refl (tracker : Tracker) : Remembers tracker tracker := fun _ h => h

theorem trans (h : Remembers first second) (h' : Remembers second third) : Remembers first third :=
  fun name hknown => h' name (h name hknown)

theorem ofRecords (h : second.records = first.records) : Remembers first second := by
  intro name hknown
  rwa [Tracker.holds, h]

end Remembers

theorem StandsFor.mono {before after : Tracker} {node : Node} {text : String}
    (h : StandsFor before node text) (hremembers : Remembers before after) :
    StandsFor after node text := by
  cases h with
  | known hinside hform hholds => exact .known hinside hform (hremembers text hholds)
  | member place id object hinside htext htainted =>
    refine .member place id object hinside htext (htainted.imp_left ?_)
    rintro ⟨base, hbase, hholds⟩
    exact ⟨base, hbase, hremembers base hholds⟩

variable {tracker : Tracker} {node : Node}

/-- The test for a tainted member, as `StandsFor` puts it. -/
theorem isTaintedMember_iff {id : String} {object : Node} :
    tracker.isTaintedMember id object = true ↔
      (∃ base, object.name? = some base ∧ tracker.holds base = true) ∨
        ∃ word ∈ memberWords, Text.contains (Text.lower id) word = true := by
  unfold Tracker.isTaintedMember Text.containsAny
  rw [Bool.or_eq_true, Option.any_eq_true, List.any_eq_true]

/-! ## What is collected from expressions -/

def Exposure.IsFrom (tracker : Tracker) (node : Node) (exposure : Exposure) : Prop :=
  ∀ text ∈ exposure.names, StandsFor tracker node text

section Collecting

variable {exposure : Exposure}

theorem append_isFrom {names : List String} {text : String}
    (h : ∀ old ∈ names, StandsFor tracker node old) (htext : StandsFor tracker node text) :
    ∀ new ∈ names ++ [text], StandsFor tracker node new := by
  intro new hnew
  rcases List.mem_append.mp hnew with hold | hnew
  · exact h new hold
  · obtain rfl := List.mem_singleton.mp hnew
    exact htext

theorem addName_isFrom {inner : Node} {id : String} (hinside : inner ∈ node.preorder)
    (hform : inner.form = .name id) (h : exposure.IsFrom tracker node) :
    (exposure.addName tracker id).IsFrom tracker node := by
  unfold Exposure.addName
  split
  · next record hrecord =>
    exact append_isFrom h (.known hinside hform (Tracker.holds_iff.mpr ⟨record, hrecord⟩))
  · exact h

theorem addMember_isFrom {place : Place} {id : String} {object : Node}
    (hinside : .member place id object ∈ node.preorder) (h : exposure.IsFrom tracker node) :
    (exposure.addMember tracker id object).IsFrom tracker node := by
  unfold Exposure.addMember
  split
  · next htainted =>
    have hmember : StandsFor tracker node (memberText id object) :=
      .member place id object hinside rfl (isTaintedMember_iff.mp htainted)
    show ∀ text ∈ (if exposure.names.contains (memberText id object) then exposure.names
      else exposure.names ++ [memberText id object]), StandsFor tracker node text
    split
    · exact h
    · exact append_isFrom h hmember
  · exact h

theorem preorder_subset_of_mem {form : Form} {place : Place} {parts : List (List Node)}
    {group : List Node} {child : Node} (hgroup : group ∈ parts) (hchild : child ∈ group) :
    child.preorder ⊆ (Node.mk form place parts).preorder :=
  preorder_subset_of_mem_parts (List.mem_flatten.mpr ⟨group, hgroup, hchild⟩)

-- Induction along the recursion that collects; what is carried is that the expression lies in the
-- node.
mutual

theorem addNode_isFrom : (inner : Node) → (exposure : Exposure) → inner.preorder ⊆ node.preorder →
    exposure.IsFrom tracker node → (exposure.addNode tracker inner).IsFrom tracker node
  | .mk form place parts, exposure, hinside, h => by
    have hself := hinside (self_mem_preorder _)
    have hparts : ∀ group ∈ parts, ∀ child ∈ group, child.preorder ⊆ node.preorder :=
      fun group hgroup child hchild =>
        List.Subset.trans (preorder_subset_of_mem hgroup hchild) hinside
    unfold Exposure.addNode
    split
    · exact addName_isFrom hself rfl h
    · exact addMember_isFrom hself h
    · exact addFormatted_isFrom _ exposure (hparts _ (by simp)) h
    · exact addNodes_isFrom _ exposure (hparts _ (by simp)) h
    · exact addGroups_isFrom _ exposure hparts h

/-- The fields of a formatted text are inside the node that the text is in. -/
theorem addFormatted_isFrom : (nodes : List Node) → (exposure : Exposure) →
    (∀ inner ∈ nodes, inner.preorder ⊆ node.preorder) → exposure.IsFrom tracker node →
      (exposure.addFormatted tracker nodes).IsFrom tracker node
  | [], _, _, h => h
  | inner :: rest, exposure, hinside, h => by
    obtain ⟨hinner, hrest⟩ := List.forall_mem_cons.mp hinside
    unfold Exposure.addFormatted
    split
    · exact h
    · next value _ _ heq =>
      obtain ⟨rfl, rfl⟩ := List.cons.inj heq
      have hvalue : value.preorder ⊆ node.preorder :=
        List.Subset.trans (preorder_subset_of_mem List.mem_cons_self List.mem_cons_self) hinner
      exact addFormatted_isFrom _ _ hrest (addNode_isFrom value _ hvalue h)
    · next heq =>
      obtain ⟨rfl, rfl⟩ := List.cons.inj heq
      exact addFormatted_isFrom _ _ hrest h

theorem addNodes_isFrom : (nodes : List Node) → (exposure : Exposure) →
    (∀ inner ∈ nodes, inner.preorder ⊆ node.preorder) → exposure.IsFrom tracker node →
      (exposure.addNodes tracker nodes).IsFrom tracker node
  | [], _, _, h => h
  | inner :: rest, exposure, hinside, h => by
    obtain ⟨hinner, hrest⟩ := List.forall_mem_cons.mp hinside
    exact addNodes_isFrom rest _ hrest (addNode_isFrom inner exposure hinner h)

theorem addGroups_isFrom : (groups : List (List Node)) → (exposure : Exposure) →
    (∀ group ∈ groups, ∀ inner ∈ group, inner.preorder ⊆ node.preorder) →
      exposure.IsFrom tracker node → (exposure.addGroups tracker groups).IsFrom tracker node
  | [], _, _, h => h
  | group :: rest, exposure, hinside, h => by
    obtain ⟨hgroup, hrest⟩ := List.forall_mem_cons.mp hinside
    exact addGroups_isFrom rest _ hrest (addNodes_isFrom group exposure hgroup h)

end

theorem ofNodes_isFrom {nodes : List Node}
    (hinside : ∀ inner ∈ nodes, inner.preorder ⊆ node.preorder) :
    (Exposure.ofNodes tracker nodes).IsFrom tracker node :=
  addNodes_isFrom nodes {} hinside (by simp [Exposure.IsFrom])

end Collecting

/-! ## What is written to a database

The arguments are gone through a second time: the variables among them count, and the columns of an
object that is created there. -/

/-- The value that is written to a column is told apart by the same test. -/
theorem writtenName?_standsFor {value : Node} {text : String} (hinside : value ∈ node.preorder)
    (h : writtenName? tracker value = some text) : StandsFor tracker node text := by
  unfold writtenName? at h
  split at h
  · split at h
    · next hholds =>
      cases h
      exact .known hinside rfl hholds
    · cases h
  · split at h
    · next htainted =>
      cases h
      exact .member _ _ _ hinside rfl (isTaintedMember_iff.mp htainted)
    · cases h
  · cases h

/-- While arguments are gone through, the records stay, and everything that is collected stands for
data in the node. -/
structure Gathered (tracker : Tracker) (node : Node) (found : State × Exposure) : Prop where
  records : found.1.tracker.records = tracker.records
  names : found.2.IsFrom tracker node

section Writing

variable {known : List String} {before after : State × Exposure}

theorem addUnless_isFrom {names : List String} {text : String}
    (h : ∀ old ∈ names, StandsFor tracker node old) (htext : StandsFor tracker node text) :
    ∀ new ∈ (if known.contains text then names else names ++ [text]),
      StandsFor tracker node new := by
  split
  · exact h
  · exact append_isFrom h htext

/-- A keyword collects data of its own value only. -/
theorem writeKeyword_gathered {table : String} {keyword : Node}
    (hinside : keyword.preorder ⊆ node.preorder) (hbefore : Gathered tracker node before)
    (h : writeKeyword table known before keyword = .ok after) : Gathered tracker node after := by
  unfold writeKeyword at h
  dsimp only at h
  split at h
  · next value =>
    split at h
    · cases h
      exact hbefore
    · next text htext =>
      have hvalue : value ∈ node.preorder :=
        hinside
          (preorder_subset_of_mem List.mem_cons_self List.mem_cons_self (self_mem_preorder value))
      have hstands : StandsFor tracker node text :=
        (writtenName?_standsFor hvalue htext).mono (.ofRecords hbefore.records.symm)
      -- the types come from the record, else from the column, and without either there is no result
      split at h
      · cases h
        exact ⟨hbefore.records, addUnless_isFrom hbefore.names hstands⟩
      · cases h
        exact ⟨hbefore.records, addUnless_isFrom hbefore.names hstands⟩
      · cases h
  · cases h
    exact hbefore

/-- An argument collects data of its own and of its keywords. -/
theorem writeArgument_gathered {argument : Node} (hinside : argument.preorder ⊆ node.preorder)
    (hbefore : Gathered tracker node before) (h : writeArgument known before argument = .ok after) :
    Gathered tracker node after := by
  unfold writeArgument at h
  split at h
  · next keywords =>
    refine Outcome.foldlM_keeps (Gathered tracker node) ?_ hbefore h
    intro keyword hkeyword first last hfirst hstep
    have hkeywordInside : keyword.preorder ⊆ node.preorder :=
      List.Subset.trans (preorder_subset_of_mem (by simp) hkeyword) hinside
    exact writeKeyword_gathered hkeywordInside hfirst hstep
  · dsimp only at h
    split at h
    · next record hrecord =>
      cases h
      have hholds := Tracker.holds_iff.mpr ⟨record, hrecord⟩
      refine ⟨hbefore.records, addUnless_isFrom hbefore.names ?_⟩
      exact (StandsFor.known (hinside (self_mem_preorder _)) rfl hholds).mono
        (.ofRecords hbefore.records.symm)
    · cases h
      exact hbefore
  · cases h
    exact hbefore

end Writing

/-! ## The checks of a call -/

/-- Where the finding is about the log, the console or a database, the node is the call on its line,
and it names data in that call. -/
def Explained (tracker : Tracker) (node : Node) (finding : Finding) : Prop :=
  isExposureRule finding.rule = true →
    (node.form = .call ∧ finding.line = node.place.line) ∧ finding.taintedVariables ≠ [] ∧
      ∀ text ∈ finding.taintedVariables, StandsFor tracker node text

theorem Explained.mono {before after : Tracker} {finding : Finding}
    (h : Explained before node finding) (hremembers : Remembers before after) :
    Explained after node finding := by
  intro hrule
  obtain ⟨hcall, hsome, hstands⟩ := h hrule
  exact ⟨hcall, hsome, fun text htext => (hstands text htext).mono hremembers⟩

/-- The rules that name no variables of the call. -/
def otherRules : List String :=
  ["HARDCODED_SECRET", "AI_PII_LEAK", "PRINT_SENSITIVE_DATA", "HTTP_PLAIN"] ++ credentialRules

/-- Nothing is to be explained about a finding of another rule. -/
theorem explained_of_other {line : Int} {first second : List Finding}
    (h : Appends (Finding.IsOf otherRules line) first second) :
    Appends (Explained tracker node) first second := by
  have hother : ∀ rule ∈ otherRules, isExposureRule rule = false := by decide +kernel
  refine h.mono fun finding hof hrule => ?_
  rw [hother finding.rule hof.1] at hrule
  cases hrule

def Call.IsWhole (call : Call) : Prop :=
  call.node = .call call.place call.function call.inputs call.keywords

section Checks

variable {setting : Setting} {call : Call} {exposure : Exposure} {before after : State}
  (hwhole : call.IsWhole)

theorem credited_other (state : State) :
    Observes setting.file otherRules call.place.line state
      (credited setting call (checkProviders setting call state)) := by
  have hproviders : Observes setting.file otherRules call.place.line state
      (checkProviders setting call state) :=
    (checkProviders_observes setting call state).mono (by decide)
  exact hproviders.trans ((credited_observes setting call _).mono (by decide))

include hwhole

theorem input_inside {input : Node} (hinput : input ∈ call.inputs) :
    input.preorder ⊆ call.node.preorder := by
  rw [hwhole]
  exact preorder_subset_of_mem (by simp) hinput

theorem values_inside : ∀ value ∈ call.values, value.preorder ⊆ call.node.preorder := by
  intro value hvalue
  rcases List.mem_append.mp hvalue with hinput | hvalue
  · exact input_inside hwhole hinput
  · obtain ⟨keyword, hkeyword, hread⟩ := List.mem_filterMap.mp hvalue
    split at hread
    · cases hread
      have hpart : call.keywords ∈ [[call.function], call.inputs, call.keywords] := by simp
      rw [hwhole]
      exact List.Subset.trans (preorder_subset_of_mem List.mem_cons_self List.mem_cons_self)
        (preorder_subset_of_mem hpart hkeyword)
    · cases hread

/-- A finding of a sink is explained by the names that it was given. -/
theorem sinkFinding_explained {finding : Finding} (hline : finding.line = call.place.line)
    (hsome : ¬ finding.taintedVariables.isEmpty = true)
    (h : ∀ text ∈ finding.taintedVariables, StandsFor tracker call.node text) :
    Explained tracker call.node finding := by
  intro _
  refine ⟨?_, fun hnil => hsome (by rw [hnil]; rfl), h⟩
  rw [hwhole]
  exact ⟨rfl, hline⟩

section Exposed

variable (hfrom : exposure.IsFrom tracker call.node)

include hfrom

theorem checkPrinted_explains (state : State) :
    Appends (Explained tracker call.node) state.findings
      (checkPrinted setting call exposure state).findings := by
  unfold checkPrinted
  dsimp only
  split
  · exact .refl _
  · next hguard =>
    split
    · exact .single (sinkFinding_explained hwhole rfl (by simp_all [sinkFinding]) hfrom)
    · exact .refl _

theorem checkLog_explains (state : State) :
    Appends (Explained tracker call.node) state.findings
      (checkLog setting call exposure state).findings := by
  unfold checkLog
  dsimp only
  split
  · exact .refl _
  · next hguard =>
    split
    · exact .refl _
    · rw [foldl_addEdge_eq]
      exact .single (sinkFinding_explained hwhole rfl (by simp_all [sinkFinding]) hfrom)

/-- A write is explained by the data that its arguments have collected. -/
theorem checkWrite_explains (hrecords : before.tracker.records = tracker.records)
    (h : checkWrite setting call exposure before = .ok after) :
    Appends (Explained tracker call.node) before.findings after.findings := by
  unfold checkWrite at h
  dsimp only at h
  split at h
  · cases h
    exact .refl _
  · obtain ⟨⟨written, added⟩, hwritten, h⟩ := Outcome.bind_eq_ok.mp h
    have hobserved : Observes setting.file otherRules call.place.line before written :=
      writeArguments_observes hwritten
    have hgathered : Gathered tracker call.node (written, added) :=
      Outcome.foldlM_keeps (Gathered tracker call.node)
        (fun _ hinput {_ _} => writeArgument_gathered (input_inside hwhole hinput))
        ⟨hrecords, by simp [Exposure.IsFrom]⟩ hwritten
    have hrun : Appends (Explained tracker call.node) before.findings written.findings :=
      explained_of_other hobserved.findings
    dsimp only at h
    split at h
    · cases h
      exact hrun
    · next hsome =>
      cases h
      -- the finding names the data of the arguments, and what was found on the second way
      have hwritten : ∀ text ∈ exposure.names ++ added.names, StandsFor tracker call.node text :=
        List.forall_mem_append.mpr ⟨hfrom, hgathered.names⟩
      exact hrun.trans (.single (sinkFinding_explained hwhole rfl hsome hwritten))

/-- The check by the name of the method: logging, printing or writing. -/
theorem checkMethod_explains (hrecords : before.tracker.records = tracker.records)
    (h : checkMethod setting call exposure before = .ok after) :
    Appends (Explained tracker call.node) before.findings after.findings := by
  unfold checkMethod at h
  split at h
  · dsimp only at h
    split at h
    · cases h
      exact checkLog_explains hwhole hfrom before
    · split at h
      · exact explained_of_other ((checkNetwork_observes h).mono (by decide)).findings
      · split at h
        · exact checkWrite_explains hwhole hfrom hrecords h
        · cases h
          exact .refl _
  · cases h
    exact .refl _

end Exposed

/-- **The findings of a call about the log, the console or a database name data in it.** -/
theorem checkCall_explains (h : checkCall setting call before = .ok after) :
    Appends (Explained before.tracker call.node) before.findings after.findings := by
  rw [checkCall_eq, checkSinks] at h
  have hother : Observes setting.file otherRules call.place.line before
      (credited setting call (checkProviders setting call before)) := credited_other before
  -- the checks up to here have other rules, and those behind them see the records of the start
  generalize credited setting call (checkProviders setting call before) = state at h hother
  have hfrom : (Exposure.ofNodes state.tracker call.values).IsFrom state.tracker call.node :=
    ofNodes_isFrom (values_inside hwhole)
  have hrecords := (checkPrinted_observes setting call
    (Exposure.ofNodes state.tracker call.values) state).records
  have hexplains : Appends (Explained state.tracker call.node) state.findings after.findings :=
    (checkPrinted_explains hwhole hfrom state).trans (checkMethod_explains hwhole hfrom hrecords h)
  exact (explained_of_other hother.findings).trans (hexplains.mono fun _ hexplained =>
    hexplained.mono (.ofRecords hother.records.symm))

end Checks

/-! ## The walk -/

/-- From `before` to `after` no variable was forgotten, and the findings that were added fall into
one group for each of the nodes, explained by it. -/
structure Explains (nodes : List Node) (before after : State) : Prop where
  remembers : Remembers before.tracker after.tracker
  findings : ∃ groups, List.Forall₂ (fun node group => ∀ finding ∈ group,
    Explained after.tracker node finding) nodes groups ∧
    after.findings = before.findings ++ groups.flatten

namespace Explains

variable {nodes more : List Node} {first second third : State}

theorem refl (state : State) : Explains [] state state :=
  ⟨.refl _, [], .nil, (List.append_nil _).symm⟩

theorem append (h : Explains nodes first second) (h' : Explains more second third) :
    Explains (nodes ++ more) first third := by
  obtain ⟨groups, hgroups, hfirst⟩ := h.findings
  obtain ⟨rest, hrest, hsecond⟩ := h'.findings
  refine ⟨h.remembers.trans h'.remembers, groups ++ rest, List.rel_append ?_ hrest, ?_⟩
  · exact hgroups.imp fun node group hgroup finding hfinding =>
      (hgroup finding hfinding).mono h'.remembers
  · rw [hsecond, hfirst, List.flatten_append, List.append_assoc]

theorem single (hremembers : Remembers first.tracker second.tracker)
    (h : Appends (Explained second.tracker node) first.findings second.findings) :
    Explains [node] first second := by
  obtain ⟨added, hadded, hexplained⟩ := h
  exact ⟨hremembers, [added], .cons hexplained .nil, by rw [hadded, List.flatten_singleton]⟩

end Explains

variable {setting : Setting} {before after : State}

theorem Marked.remembers {first last : Tracker} (h : Marked first last) : Remembers first last := by
  induction h with
  | refl => exact .refl _
  | mark _ name mark ih => exact ih.trans fun _ hknown => Tracker.holds_mark hknown name mark
  | edge _ _ ih => exact ih.trans (.ofRecords rfl)

theorem assignName_remembers {place : Place} {value : Node} {target : String}
    (h : assignName setting place value before target = .ok after) :
    Remembers before.tracker after.tracker := by
  obtain ⟨tracker, htrack, rfl⟩ := Outcome.map_eq_ok.mp h
  exact (track_marked htrack).remembers

/-- Only an assignment and a call report something when they are entered. -/
theorem enter_explains (h : enter setting node before = .ok after) :
    Explains [node] before after := by
  unfold enter at h
  split at h
  · cases h
    exact .single (.ofRecords rfl) (.refl _)
  · cases h
    exact .single (.refl _) (.refl _)
  · next place targets value =>
    refine .single ?_ ?_
    · exact Outcome.foldlM_relates (fun first last : State => Remembers first.tracker last.tracker)
        (fun state => .refl state.tracker) .trans
        (fun _ _ => assignName_remembers) h
    · have hname {target : String} {first last : State}
          (h : assignName setting place value first target = .ok last) :
          Appends (Finding.IsOf otherRules place.line) first.findings last.findings :=
        (assignName_appends h).mono fun _ hof => hof.mono (by decide)
      exact explained_of_other (Outcome.foldlM_relates
        (fun first last : State =>
          Appends (Finding.IsOf otherRules place.line) first.findings last.findings)
        (fun state => .refl state.findings) .trans (fun _ _ => hname) h)
  · have hremembers : Remembers before.tracker after.tracker :=
      .ofRecords (checkCall_observes h).records
    have hcall := checkCall_explains (by exact rfl) h
    exact .single hremembers (hcall.mono fun _ hexplained => hexplained.mono hremembers)
  · cases h
    exact .single (.refl _) (.refl _)

theorem leave_explains {nodes : List Node} (form : Form) (start : State)
    (h : Explains nodes before after) : Explains nodes before (leave form start after) := by
  unfold leave
  split
  · exact ⟨h.remembers, h.findings⟩
  · exact ⟨h.remembers, h.findings⟩
  · exact h

theorem visitAll_explains {nodes : List Node}
    (hvisit : ∀ inner ∈ nodes, ∀ {first last}, visit setting inner first = .ok last →
      Explains inner.preorder first last)
    (h : visitAll setting nodes before = .ok after) :
    Explains (nodes.flatMap Node.preorder) before after := by
  induction nodes generalizing before with
  | nil =>
    cases h
    exact .refl _
  | cons inner rest ih =>
    obtain ⟨hinner, hrest⟩ := List.forall_mem_cons.mp hvisit
    obtain ⟨next, hnext, h⟩ := Outcome.foldlM_cons_eq_ok.mp h
    rw [List.flatMap_cons]
    exact (hinner hnext).append (ih hrest h)

/-- **The findings of a walk fall into one group for each node, in preorder, and are explained by
it.** Induction on the size of the node. -/
theorem visit_explains {node : Node} {before after : State}
    (h : visit setting node before = .ok after) : Explains node.preorder before after := by
  obtain ⟨entered, walked, hentered, hwalked, rfl⟩ := exists_of_visit h
  have hparts : Explains (node.parts.flatten.flatMap Node.preorder) entered walked :=
    visitAll_explains (fun inner hinner {_ _} hvisit =>
      have := sizeOf_lt_of_mem_parts hinner
      visit_explains hvisit) hwalked
  rw [preorder_eq]
  exact leave_explains node.form before ((enter_explains hentered).append hparts)
  termination_by sizeOf node

/-- **Findings about the log, the console and databases name tainted data only.** Where a module can
be analysed, its findings fall into one group for each node of its tree. Those about the log, the
console or a database belong to calls, and name at least one variable or member of the call; each of
them is known to be tainted in the end, or is a member that says so itself. -/
theorem exposed_names_stand_for_tainted_data {file code : String} {method : Classify.Method}
    {last : State} (h : analyze? file code method = .ok (some last)) :
    ∃ tree, Source.parseModule? code = some tree ∧
      ∃ groups, last.findings = groups.flatten ∧
        List.Forall₂ (fun node group => ∀ finding ∈ group, Explained last.tracker node finding)
          tree.preorder groups := by
  unfold analyze? at h
  split at h
  · cases h
  · next tree htree =>
    obtain ⟨state, hvisit, hlast⟩ := Outcome.map_eq_ok.mp h
    cases hlast
    obtain ⟨groups, hgroups, hfindings⟩ := (visit_explains hvisit).findings
    have hremembers : Remembers state.tracker (noteParameters tree state).tracker := fun _ h => h
    exact ⟨tree, htree, groups, hfindings, hgroups.imp fun _ _ hgroup finding hfinding =>
      (hgroup finding hfinding).mono hremembers⟩

/-! ## A row with two columns

One column of the row is the body of a request, the other is a member that says what it is. The form
feeds end lines of the excerpt and not of the code, so the excerpt of the call is blank. -/

def rowCode : String := "\x0c\x0cdata = request.json\ndb.add(Row(note=data, mail=form.email))\n"

/-- A row is blamed on the variable and on the member that are written. -/
theorem rowCode_names :
    ∃ last, analyze? "app.py" rowCode = .ok (some last) ∧
      (last.findings.map fun finding => (finding.rule, finding.taintedVariables)) =
        [("DB_WRITE", ["data", "form.email"])] ∧
      ∃ tree, Source.parseModule? rowCode = some tree ∧
        ∃ groups, last.findings = groups.flatten ∧
          List.Forall₂ (fun node group => ∀ finding ∈ group, Explained last.tracker node finding)
            tree.preorder groups := by
  have hseen : (analyze? "app.py" rowCode).toOption.map (fun result =>
      result.map fun last => last.findings.map fun finding =>
        (finding.rule, finding.taintedVariables)) =
      some (some [("DB_WRITE", ["data", "form.email"])]) := by
    decide +kernel
  obtain ⟨result, hresult, hsome⟩ := Outcome.exists_of_seen hseen
  obtain ⟨last, rfl, hfindings⟩ := Option.map_eq_some_iff.mp hsome
  exact ⟨last, hresult, hfindings, exposed_names_stand_for_tainted_data hresult⟩

end PrivacyScan.SourceFlow
