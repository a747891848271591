import PrivacyScan.Proofs.Outcome
import PrivacyScan.Report.Html.Flow

/-!
# The diagram of a flow

A card shows a flow as a diagram: a node for each step and an arrow from each node to the next. The
label of the last node is the same for all flows.
-/

namespace PrivacyScan.Report.Html

namespace FlowDiagram

variable {front : List String}

def names (diagram : FlowDiagram) : List String := diagram.nodes.map (·.name)

def labels (diagram : FlowDiagram) : List String := diagram.nodes.map (·.label)

theorem nodeAt_name (index count position : Nat) (label : String) :
    (nodeAt index count label position).name = nodeName index position := by
  unfold nodeAt
  dsimp only
  split
  · rfl
  · split <;> rfl

/-- The steps of one card have different names. -/
theorem nodeName_inj {index position other : Nat}
    (h : nodeName index position = nodeName index other) : position = other := by
  -- the position is read back from its digits
  have hdigits : Nat.toDigits 10 position = Nat.toDigits 10 other := by
    rw [← Nat.toList_repr, ← Nat.toList_repr]
    exact congrArg String.toList (by simpa [nodeName] using h)
  simpa using congrArg (Nat.ofDigitChars 10 · 0) hdigits

theorem names_ofSteps (index : Nat) (steps : List String) :
    (ofSteps index steps).names = (List.range steps.length).map (nodeName index) := by
  apply List.ext_getElem
  · simp [names, ofSteps]
  · intro position _ _
    simp [names, ofSteps, nodeAt_name]

theorem arrows_ofSteps (index : Nat) (steps : List String) :
    (ofSteps index steps).arrows =
      (ofSteps index steps).names.zip (ofSteps index steps).names.tail := by
  rw [names_ofSteps]
  apply List.ext_getElem
  · simp [ofSteps]
  · intro position _ _
    simp [ofSteps]

/-- One node for each step under a name of its own, and one arrow from each node to the next. -/
structure IsChain (index : Nat) (steps : List String) (diagram : FlowDiagram) : Prop where
  names : diagram.names = (List.range steps.length).map (nodeName index)
  distinct : diagram.names.Nodup
  arrows : diagram.arrows = diagram.names.zip diagram.names.tail

/-- A diagram is a chain through its steps. -/
theorem ofSteps_isChain (index : Nat) (steps : List String) :
    IsChain index steps (ofSteps index steps) := by
  refine ⟨names_ofSteps index steps, ?_, arrows_ofSteps index steps⟩
  rw [names_ofSteps]
  refine List.pairwise_map.mpr (List.pairwise_lt_range.imp fun hlt heq => ?_)
  exact Nat.ne_of_lt hlt (nodeName_inj heq)

theorem nodeAt_label {index count position : Nat} {label : String} (h : position + 1 ≠ count) :
    (nodeAt index count label position).label = label := by
  unfold nodeAt
  dsimp only
  split
  · rfl
  · rw [if_neg (by simpa using h)]

theorem nodeAt_last (index : Nat) (hfront : front ≠ []) (last : String) :
    nodeAt index (front.length + 1) last front.length =
      { name := nodeName index front.length, label := sinkLabel, shape := .sink } := by
  simp [nodeAt, hfront]

/-- The last step is shown under the label for sinks, whatever it is. -/
theorem labels_ofSteps_concat (index : Nat) (hfront : front ≠ []) (last : String) :
    (ofSteps index (front ++ [last])).labels = front ++ [sinkLabel] := by
  -- no node before the last one is that of a sink
  have hinit : (front.zipIdx.map fun entry =>
      (nodeAt index (front.length + 1) entry.1 entry.2).label) = front := by
    apply List.ext_getElem (by simp)
    intro position _ hposition
    simpa using nodeAt_label (by omega)
  simp [labels, ofSteps, List.zipIdx_append, Function.comp_def, hinit, nodeAt_last index hfront]

theorem ofSteps_concat_eq (index : Nat) (hfront : front ≠ []) (last other : String) :
    ofSteps index (front ++ [last]) = ofSteps index (front ++ [other]) := by
  simp [ofSteps, List.zipIdx_append, nodeAt_last index hfront]

end FlowDiagram

/-- The steps of a flow that are shown. -/
def shownSteps (steps : List String) : List String := cleanSteps (steps.map .text)

theorem exists_shownSteps_eq (steps : List String) :
    ∃ last, shownSteps steps = (shownSteps steps).dropLast ++ [last] := by
  have hsome : shownSteps steps ≠ [] := by
    unfold shownSteps cleanSteps
    split
    · simp
    · next h => exact h
  exact ⟨_, (List.dropLast_concat_getLast hsome).symm⟩

/-- The finding tells of this flow, and its severity is a text. -/
structure TellsFlow (finding : Document) (steps : List String) : Prop where
  path : finding.field? "flow_path" = some (.texts steps)
  severity : ∃ label, (finding.field? "severity").getD (.text "info") = .text label

variable {finding other : Document} {steps others : List String}

/-- A card has the diagram of its flow within. -/
theorem exists_flowCard (h : TellsFlow finding steps) (index : Nat) : ∃ before after,
    flowCard finding index =
      .ok (before ++ (FlowDiagram.ofSteps index (shownSteps steps)).text ++ after) := by
  obtain ⟨label, hlabel⟩ := h.severity
  unfold flowCard
  simp only [hlabel, h.path, Option.getD_some, Document.texts, Document.elements, Document.asText,
    Outcome.ok_bind]
  exact ⟨_, _, congrArg Except.ok ((String.append_assoc ..).trans (String.append_assoc ..))⟩

/-- The other finding has as many steps and differs at most in the text of the last one. -/
structure DiffersInSink (finding other : Document) (steps others : List String) : Prop where
  path : other.field? "flow_path" = some (.texts others)
  length : others.length = steps.length
  front : (shownSteps others).dropLast = (shownSteps steps).dropLast
  rest : ∀ name ≠ "flow_path", other.field? name = finding.field? name

/-- Two flows into different sinks look the same. -/
theorem flowCard_eq (h : TellsFlow finding steps)
    (hother : DiffersInSink finding other steps others)
    (hfront : (shownSteps steps).dropLast ≠ []) (index : Nat) :
    flowCard other index = flowCard finding index := by
  have hdiagram : FlowDiagram.ofSteps index (cleanSteps (others.map .text)) =
      FlowDiagram.ofSteps index (cleanSteps (steps.map .text)) := by
    obtain ⟨last, hsteps⟩ := exists_shownSteps_eq steps
    obtain ⟨otherLast, hothers⟩ := exists_shownSteps_eq others
    rw [← shownSteps, ← shownSteps, hsteps, hothers, hother.front]
    exact FlowDiagram.ofSteps_concat_eq index hfront _ _
  unfold flowCard
  simp only [h.path, hother.path, hother.rest "severity" (by decide),
    hother.rest "rule" (by decide),
    hother.rest "file" (by decide), hother.rest "line" (by decide), Option.getD_some,
      Document.texts, Document.elements, Outcome.ok_bind, hdiagram, List.length_map, hother.length]

/-- The labels are those of the steps only where no sink is renamed. -/
theorem labels_eq_iff (index : Nat) (steps : List String) :
    (FlowDiagram.ofSteps index (shownSteps steps)).labels = shownSteps steps ↔
      (shownSteps steps).dropLast = [] ∨ (shownSteps steps).getLast? = some sinkLabel := by
  obtain ⟨last, hsteps⟩ := exists_shownSteps_eq steps
  by_cases hfront : (shownSteps steps).dropLast = []
  · rw [hsteps, hfront]
    exact iff_of_true rfl (.inl rfl)
  · rw [hsteps, FlowDiagram.labels_ofSteps_concat index hfront]
    simp [hfront, eq_comm]

/-- **A flow is shown without its sink.** There is a card, and in it a diagram with one node for
each step and one arrow from each to the next. The labels of the nodes are the texts of the steps
exactly when there is no step but the source, or the last one has the text that all last nodes have.
Where there is one, no other text of the last step makes any difference to the card. -/
theorem steps_labelled_iff (h : TellsFlow finding steps) (index : Nat) :
    (∃ before after, flowCard finding index =
        .ok (before ++ (FlowDiagram.ofSteps index (shownSteps steps)).text ++ after)) ∧
      (FlowDiagram.ofSteps index (shownSteps steps)).IsChain index (shownSteps steps) ∧
      ((FlowDiagram.ofSteps index (shownSteps steps)).labels = shownSteps steps ↔
        (shownSteps steps).dropLast = [] ∨ (shownSteps steps).getLast? = some sinkLabel) ∧
      ((shownSteps steps).dropLast ≠ [] → ∀ other others, DiffersInSink finding other steps others →
        flowCard other index = flowCard finding index) :=
  ⟨exists_flowCard h index, FlowDiagram.ofSteps_isChain index _, labels_eq_iff index steps,
    fun hfront _ _ hother => flowCard_eq h hother hfront index⟩

/-- A finding of a flow from a variable to this sink. -/
def flowTo (sink : String) : Document :=
  .object [("severity", .text "high"), ("flow_path", .texts ["email", "user", sink])]

theorem flowTo_tells (sink : String) : TellsFlow (flowTo sink) ["email", "user", sink] where
  path := rfl
  severity := ⟨"high", rfl⟩

theorem shownSteps_flow : shownSteps ["email", "user", "send"] = ["email", "user", "send"] ∧
    shownSteps ["email", "user", "save"] = ["email", "user", "save"] := by
  decide +kernel

theorem flowTo_shown_alike : TellsFlow (flowTo "send") ["email", "user", "send"] ∧
    flowCard (flowTo "save") 1 = flowCard (flowTo "send") 1 := by
  refine ⟨flowTo_tells "send", ?_⟩
  obtain ⟨_, _, _, hsame⟩ := steps_labelled_iff (flowTo_tells "send") 1
  refine hsame (by simp [shownSteps_flow]) _ ["email", "user", "save"] ?_
  refine ⟨rfl, rfl, by simp [shownSteps_flow], fun name hname => ?_⟩
  have hother : (name == "flow_path") = false := by simpa using hname
  simp [flowTo, Document.field?, List.lookup_cons, hother]

/-- The node of a sink does not have its text. -/
theorem sink_not_labelled : (FlowDiagram.ofSteps 1 (shownSteps ["email", "user", "send"])).labels ≠
    shownSteps ["email", "user", "send"] := by
  rw [ne_eq, labels_eq_iff, shownSteps_flow.1]
  decide

end PrivacyScan.Report.Html
