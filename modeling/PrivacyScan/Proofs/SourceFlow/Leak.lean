import PrivacyScan.Proofs.SourceFlow.Reports

/-!
# When data that goes to a language model is reported

An argument of a call can nest variables to any depth: in the values of dictionaries, in the
elements of lists and tuples, in the fields of formatted texts. `Nested` is that relation, and
`readings` lists the variables of an expression in the order in which they are met.

The check looks at one variable of each argument, the first that has a record, and asks only of this
one whether a sanitizer has seen it:

* **`mem_readings_iff`** — the list holds exactly the nested variables;
* **`leaks_iff`** — this one is raw exactly when some variable is raw and no sanitized one comes
  first.
-/

namespace PrivacyScan.SourceFlow

open Source (Node Place Constant)
open Taint (Tracker Record FlowEdge)

/-! ## Variables in an expression -/

/-- A variable, or a member of a variable. -/
def IsReading : Node → Prop
  | .name _ _ => True
  | .member _ _ (.name _ _) => True
  | _ => False

/-- `leaf` stands in an expression, at any depth of values of dictionaries, elements of lists and
tuples, and fields of formatted texts. -/
inductive Nested (leaf : Node) : Node → Prop where
  | here : Nested leaf leaf
  | value {place : Place} {keys values : List Node} {value : Node} (hmem : value ∈ values)
      (inner : Nested leaf value) : Nested leaf (.dict place keys values)
  | listElement {place : Place} {elements : List Node} {element : Node} (hmem : element ∈ elements)
      (inner : Nested leaf element) : Nested leaf (.list place elements)
  | tupleElement {place : Place} {elements : List Node} {element : Node}
      (hmem : element ∈ elements) (inner : Nested leaf element) :
        Nested leaf (.tuple place elements)
  | field {place fieldPlace : Place} {conversion : Source.Conversion} {value : Node}
      {values formatSpec : List Node}
      (hmem : .formattedValue fieldPlace conversion value formatSpec ∈ values)
      (inner : Nested leaf value) : Nested leaf (.joinedText place values)

mutual

/-- The variables in an expression, in the order in which they are met. -/
def readings : Node → List Node
  | .mk .dict _ [_, values] => readingsOf values
  | .mk .list _ [elements] => readingsOf elements
  | .mk .tuple _ [elements] => readingsOf elements
  | .mk .joinedText _ [values] => fieldReadings values
  | .name place id => [.name place id]
  | .member place id (.name basePlace base) => [.member place id (.name basePlace base)]
  | _ => []

def readingsOf : List Node → List Node
  | [] => []
  | node :: rest => readings node ++ readingsOf rest

def fieldReadings : List Node → List Node
  | [] => []
  | .mk (.formattedValue _) _ [[value], _] :: rest => readings value ++ fieldReadings rest
  | _ :: rest => fieldReadings rest

end

variable {tracker : Tracker} {leaf node argument : Node} {setting : Setting}

theorem mem_readingsOf_iff {nodes : List Node} :
    leaf ∈ readingsOf nodes ↔ ∃ node ∈ nodes, leaf ∈ readings node := by
  induction nodes with
  | nil => simp [readingsOf]
  | cons first rest ih => simp [readingsOf, ih]

/-- The readings of a formatted text are those of the values in its fields. -/
theorem mem_fieldReadings_iff {nodes : List Node} :
    leaf ∈ fieldReadings nodes ↔
      ∃ place conversion value formatSpec,
        .formattedValue place conversion value formatSpec ∈ nodes ∧ leaf ∈ readings value := by
  induction nodes with
  | nil => simp [fieldReadings]
  | cons first rest ih =>
    simp only [List.mem_cons, or_and_right, exists_or, ← ih]
    rw [fieldReadings.eq_def]
    split
    · simp at *
    · next heq =>
      obtain ⟨rfl, rfl⟩ := List.cons.inj heq
      simp [Node.formattedValue]
    · next hother heq =>
      obtain ⟨rfl, rfl⟩ := List.cons.inj heq
      -- another part of the text has no readings
      refine (or_iff_right ?_).symm
      rintro ⟨_, _, _, _, rfl, _⟩
      exact hother _ _ _ _ rfl

/-- What is listed is a variable and stands in the expression. Induction on the recursion of
`readings`: for a list of nodes the statement is about each of them, for the parts of a formatted
text about the value of each field. -/
theorem nested_of_mem_readings (node : Node) :
    ∀ leaf ∈ readings node, Nested leaf node ∧ IsReading leaf := by
  refine readings.induct (fun node => ∀ leaf ∈ readings node, Nested leaf node ∧ IsReading leaf)
    (fun nodes => ∀ place conversion value formatSpec,
      .formattedValue place conversion value formatSpec ∈ nodes →
        ∀ leaf ∈ readings value, Nested leaf value ∧ IsReading leaf)
    (fun nodes => ∀ node ∈ nodes, ∀ leaf ∈ readings node, Nested leaf node ∧ IsReading leaf)
    ?dict ?list ?tuple ?text ?name ?member ?other ?noField ?field ?noted ?none ?cons node
  case dict =>
    intro place keys values ih leaf hmem
    rw [readings, mem_readingsOf_iff] at hmem
    obtain ⟨value, hvalue, hmem⟩ := hmem
    obtain ⟨hnested, hreading⟩ := ih value hvalue leaf hmem
    exact ⟨.value hvalue hnested, hreading⟩
  case list =>
    intro place elements ih leaf hmem
    rw [readings, mem_readingsOf_iff] at hmem
    obtain ⟨element, helement, hmem⟩ := hmem
    obtain ⟨hnested, hreading⟩ := ih element helement leaf hmem
    exact ⟨.listElement helement hnested, hreading⟩
  case tuple =>
    intro place elements ih leaf hmem
    rw [readings, mem_readingsOf_iff] at hmem
    obtain ⟨element, helement, hmem⟩ := hmem
    obtain ⟨hnested, hreading⟩ := ih element helement leaf hmem
    exact ⟨.tupleElement helement hnested, hreading⟩
  case text =>
    intro place values ih leaf hmem
    rw [readings, mem_fieldReadings_iff] at hmem
    obtain ⟨fieldPlace, conversion, value, formatSpec, hvalue, hmem⟩ := hmem
    obtain ⟨hnested, hreading⟩ := ih fieldPlace conversion value formatSpec hvalue leaf hmem
    exact ⟨.field hvalue hnested, hreading⟩
  case name =>
    intro id place leaf hmem
    rw [readings, List.mem_singleton] at hmem
    subst hmem
    exact ⟨.here, trivial⟩
  case member =>
    intro id place base basePlace leaf hmem
    rw [readings, List.mem_singleton] at hmem
    subst hmem
    exact ⟨.here, trivial⟩
  case other =>
    intro node hdict hlist htuple htext hname hmember leaf hmem
    rw [readings] at hmem
    · cases hmem
    all_goals assumption
  case noField =>
    intro place conversion value formatSpec hmem
    cases hmem
  case field =>
    intro conversion place value formatSpec rest hvalue hrest place' conversion' value'
      formatSpec' hmem
    rcases List.mem_cons.mp hmem with heq | hmem
    · cases heq
      exact hvalue
    · exact hrest place' conversion' value' formatSpec' hmem
  case noted =>
    intro node rest hother hrest place conversion value formatSpec hmem
    rcases List.mem_cons.mp hmem with heq | hmem
    · cases heq
      exact (hother _ _ _ _ rfl).elim
    · exact hrest place conversion value formatSpec hmem
  case none =>
    intro node hmem
    cases hmem
  case cons =>
    intro node rest hnode hrest other hmem
    rcases List.mem_cons.mp hmem with rfl | hmem
    · exact hnode
    · exact hrest other hmem

theorem mem_readings_of_nested (h : Nested leaf node) (hreading : IsReading leaf) :
    leaf ∈ readings node := by
  induction h with
  | here =>
    unfold IsReading at hreading
    split at hreading
    · rw [readings]
      exact List.mem_singleton.mpr rfl
    · rw [readings]
      exact List.mem_singleton.mpr rfl
    · exact hreading.elim
  | value hmem _ ih => exact mem_readingsOf_iff.mpr ⟨_, hmem, ih⟩
  | listElement hmem _ ih => exact mem_readingsOf_iff.mpr ⟨_, hmem, ih⟩
  | tupleElement hmem _ ih => exact mem_readingsOf_iff.mpr ⟨_, hmem, ih⟩
  | field hmem _ ih => exact mem_fieldReadings_iff.mpr ⟨_, _, _, _, hmem, ih⟩

theorem mem_readings_iff : leaf ∈ readings node ↔ Nested leaf node ∧ IsReading leaf :=
  ⟨nested_of_mem_readings node leaf, fun h => mem_readings_of_nested h.1 h.2⟩

/-! ## The variable that the check looks at -/

/-- What is neither a variable nor a member of one has no record. -/
theorem baseRecord?_eq_none (h : ¬ IsReading node) : baseRecord? tracker node = none := by
  unfold baseRecord?
  split
  · exact (h trivial).elim
  · exact (h trivial).elim
  · rfl

/-- **The check looks at the first variable of an expression that has a record.** Both functions go
through the expression in the same order, so the induction is on their common recursion. -/
theorem firstTainted?_eq (tracker : Tracker) (node : Node) :
    firstTainted? tracker node = (readings node).findSome? (baseRecord? tracker) := by
  refine readings.induct
    (fun node => firstTainted? tracker node = (readings node).findSome? (baseRecord? tracker))
    (fun nodes => firstFormatted? tracker nodes =
      (fieldReadings nodes).findSome? (baseRecord? tracker))
    (fun nodes => firstTaintedOf? tracker nodes =
      (readingsOf nodes).findSome? (baseRecord? tracker))
    ?dict ?list ?tuple ?text ?name ?member ?other ?noField ?field ?noted ?none ?cons node
  case dict =>
    intro place keys values ih
    rw [firstTainted?, readings, ih]
  case list =>
    intro place elements ih
    rw [firstTainted?, readings, ih]
  case tuple =>
    intro place elements ih
    rw [firstTainted?, readings, ih]
  case text =>
    intro place values ih
    rw [firstTainted?, readings, ih]
  case name =>
    intro id place
    rw [readings, List.findSome?_singleton]
    rfl
  case member =>
    intro id place base basePlace
    rw [readings, List.findSome?_singleton]
    rfl
  case other =>
    intro node hdict hlist htuple htext hname hmember
    have hreading : ¬ IsReading node := by
      unfold IsReading
      split
      · exact (hname _ _ rfl).elim
      · exact (hmember _ _ _ _ rfl).elim
      · exact id
    rw [firstTainted?, readings, baseRecord?_eq_none hreading]
    · rfl
    all_goals assumption
  case noField => rfl
  case field =>
    intro conversion place value formatSpec rest hvalue hrest
    rw [firstFormatted?, fieldReadings, List.findSome?_append, ← hvalue, ← hrest]
    cases firstTainted? tracker value <;> rfl
  case noted =>
    -- what stands between the fields of a formatted text is passed over by both
    intro node rest hother hrest
    rw [firstFormatted?, fieldReadings, hrest]
    · exact hother
    · exact hother
  case none => rfl
  case cons =>
    intro node rest hnode hrest
    rw [firstTaintedOf?, readingsOf, List.findSome?_append, ← hnode, ← hrest]
    cases firstTainted? tracker node <;> rfl

/-- Raw personal data stands in the argument, at any depth. -/
def HoldsRaw (tracker : Tracker) (argument : Node) : Prop :=
  ∃ leaf record, Nested leaf argument ∧ baseRecord? tracker leaf = some record ∧
    record.isSanitized = false

/-- Of the variables of the argument that have a record, a sanitized one comes first. -/
def SanitizedFirst (tracker : Tracker) (argument : Node) : Prop :=
  ∃ before leaf after record, readings argument = before ++ leaf :: after ∧
    (∀ earlier ∈ before, baseRecord? tracker earlier = none) ∧
    baseRecord? tracker leaf = some record ∧ record.isSanitized = true

/-- The variable that the check looks at is raw. -/
def Leaks (tracker : Tracker) (argument : Node) : Prop :=
  ∃ record, firstTainted? tracker argument = some record ∧ record.isSanitized = false

theorem firstTainted?_eq_some_iff {record : Record} :
    firstTainted? tracker argument = some record ↔
      ∃ before leaf after, readings argument = before ++ leaf :: after ∧
        baseRecord? tracker leaf = some record ∧
        ∀ earlier ∈ before, baseRecord? tracker earlier = none := by
  rw [firstTainted?_eq, List.findSome?_eq_some_iff]

theorem sanitizedFirst_iff :
    SanitizedFirst tracker argument ↔
      ∃ record, firstTainted? tracker argument = some record ∧ record.isSanitized = true := by
  constructor
  · rintro ⟨before, leaf, after, record, hsplit, hbefore, hleaf, hsanitized⟩
    exact ⟨record, firstTainted?_eq_some_iff.mpr ⟨before, leaf, after, hsplit, hleaf, hbefore⟩,
      hsanitized⟩
  · rintro ⟨record, hfirst, hsanitized⟩
    obtain ⟨before, leaf, after, hsplit, hleaf, hbefore⟩ := firstTainted?_eq_some_iff.mp hfirst
    exact ⟨before, leaf, after, record, hsplit, hbefore, hleaf, hsanitized⟩

theorem firstTainted?_isSome_of_nested {record : Record}
    (hnested : Nested leaf argument) (hleaf : baseRecord? tracker leaf = some record) :
    (firstTainted? tracker argument).isSome := by
  have hreading : IsReading leaf := by
    refine Classical.byContradiction fun hreading => ?_
    rw [baseRecord?_eq_none hreading] at hleaf
    cases hleaf
  rw [firstTainted?_eq, List.findSome?_isSome_iff]
  exact ⟨leaf, mem_readings_iff.mpr ⟨hnested, hreading⟩, by rw [hleaf]; rfl⟩

/-- A leak holds raw data, and the data that comes first in it is not sanitized. -/
theorem leaks_iff :
    Leaks tracker argument ↔ HoldsRaw tracker argument ∧ ¬ SanitizedFirst tracker argument := by
  rw [sanitizedFirst_iff]
  constructor
  · rintro ⟨record, hfirst, hraw⟩
    constructor
    · obtain ⟨before, leaf, after, hsplit, hleaf, _⟩ := firstTainted?_eq_some_iff.mp hfirst
      have hmem : leaf ∈ readings argument := by simp [hsplit]
      exact ⟨leaf, record, (mem_readings_iff.mp hmem).1, hleaf, hraw⟩
    · rintro ⟨record', hfirst', hsanitized⟩
      obtain rfl : record = record' := Option.some.inj (hfirst.symm.trans hfirst')
      rw [hraw] at hsanitized
      cases hsanitized
  · rintro ⟨⟨leaf, raw, hnested, hleaf, _⟩, hfirst⟩
    obtain ⟨record, hrecord⟩ :=
      Option.isSome_iff_exists.mp (firstTainted?_isSome_of_nested hnested hleaf)
    refine ⟨record, hrecord, ?_⟩
    rw [← Bool.not_eq_true]
    intro hsanitized
    exact hfirst ⟨record, hrecord, hsanitized⟩

/-! ## The reports of a call -/

/-- On the way from `before` to `after`, a leak is reported on the line of the call. -/
def ReportsLeak (call : Call) (before after : State) : Prop :=
  ∃ added, after.findings = before.findings ++ added ∧
    ∃ finding ∈ added, finding.rule = "AI_PII_LEAK" ∧ finding.line = call.place.line

variable {call : Call} {file : String} {rules others : List String} {line : Int}
  {first second third : State}

/-- Over two steps a leak is reported when one of them reports it. -/
theorem reportsLeak_trans (h : Observes file rules line first second)
    (h' : Observes file others line second third) :
    ReportsLeak call first third ↔ ReportsLeak call first second ∨
      ReportsLeak call second third := by
  obtain ⟨added, hadded, _⟩ := h.findings
  obtain ⟨more, hmore, _⟩ := h'.findings
  unfold ReportsLeak
  simp only [hmore, hadded, List.append_assoc, List.append_cancel_left_eq, exists_eq_left',
    List.mem_append, or_and_right, exists_or]

theorem not_reportsLeak_of_observes (h : Observes file rules line first second)
    (hrule : "AI_PII_LEAK" ∉ rules) : ¬ ReportsLeak call first second := by
  rintro ⟨added, hadded, finding, hmem, hleak, _⟩
  obtain ⟨added', hadded', hall⟩ := h.findings
  obtain rfl : added = added' := List.append_cancel_left (hadded.symm.trans hadded')
  have hmem' := (hall finding hmem).1
  rw [hleak] at hmem'
  exact hrule hmem'

/-- The check of an argument reads nothing but the records. -/
theorem leaks_congr {tracker' : Tracker} (h : tracker'.records = tracker.records) :
    Leaks tracker' argument ↔ Leaks tracker argument := by
  have hbase : baseRecord? tracker' = baseRecord? tracker := by
    funext node
    unfold baseRecord? Tracker.record?
    rw [h]
  unfold Leaks
  rw [firstTainted?_eq, firstTainted?_eq, hbase]

theorem reportsLeak_leakTo_iff {provider : String} {state : State} :
    ReportsLeak call state (leakTo setting call provider state argument) ↔
      Leaks state.tracker argument := by
  have hrefl : ¬ ReportsLeak call state state := by
    have hobserves : Observes setting.file [] call.place.line state state := .refl state
    exact not_reportsLeak_of_observes hobserves List.not_mem_nil
  unfold leakTo Leaks
  split
  · next hnone => simp [hnone, hrefl]
  · next record hsome =>
    split
    · next hsanitized => simp [hsome, hsanitized, hrefl]
    · next hraw =>
      refine iff_of_true ⟨_, rfl, _, List.mem_singleton.mpr rfl, rfl, rfl⟩ ⟨record, hsome, ?_⟩
      simpa using hraw

/-- All arguments, one after the other. Induction on the arguments, with the state left open; it
changes on the way, but its records do not. -/
theorem reportsLeak_foldl_iff {provider : String} {arguments : List Node} {state : State} :
    ReportsLeak call state (arguments.foldl (leakTo setting call provider) state) ↔
      ∃ argument ∈ arguments, Leaks state.tracker argument := by
  induction arguments generalizing state with
  | nil =>
    have hobserves : Observes setting.file [] call.place.line state state := .refl state
    simp [not_reportsLeak_of_observes hobserves List.not_mem_nil]
  | cons argument rest ih =>
    have hfirst := leakTo_observes setting call provider argument state
    have hrest : Observes setting.file ["AI_PII_LEAK"] call.place.line
        (leakTo setting call provider state argument)
        (rest.foldl (leakTo setting call provider) (leakTo setting call provider state argument)) :=
      .foldl (fun argument _ state => leakTo_observes setting call provider argument state) _
    rw [List.foldl_cons, reportsLeak_trans hfirst hrest, reportsLeak_leakTo_iff, ih]
    simp only [leaks_congr hfirst.records, List.mem_cons, exists_eq_or_imp]

/-- The checks behind the one for models of other providers report no leak. -/
theorem reportsLeak_checkCall_iff {before after : State}
    (h : checkCall setting call before = .ok after) :
    ReportsLeak call before after ↔
      ReportsLeak call before (checkProviders setting call before) := by
  rw [checkCall_eq] at h
  have hsinks := checkSinks_observes h
  rw [reportsLeak_trans (checkProviders_observes setting call before) hsinks]
  exact or_iff_left (not_reportsLeak_of_observes hsinks (by decide))

/-- **Data that goes to a model is reported exactly when, in some argument, raw data stands and no
sanitized variable comes before it.** The report is made by the first check of the call, and when
the whole call is checked it is still the one that counts. So raw data is overlooked exactly when in
every argument that holds some a sanitized variable comes first. -/
theorem leak_reported_iff_raw_not_masked (setting : Setting) (call : Call) (state : State)
    (provider : String) (hprovider : providerOf? call.function call.inputs = some provider) :
    (ReportsLeak call state (checkProviders setting call state) ↔
      ∃ argument ∈ call.values,
        HoldsRaw state.tracker argument ∧ ¬ SanitizedFirst state.tracker argument) ∧
    (∀ after, checkCall setting call state = .ok after →
      (ReportsLeak call state after ↔
        ∃ argument ∈ call.values,
          HoldsRaw state.tracker argument ∧ ¬ SanitizedFirst state.tracker argument)) := by
  have hproviders : ReportsLeak call state (checkProviders setting call state) ↔
      ∃ argument ∈ call.values,
        HoldsRaw state.tracker argument ∧ ¬ SanitizedFirst state.tracker argument := by
    unfold checkProviders
    rw [hprovider]
    simp only [reportsLeak_foldl_iff, leaks_iff]
  refine ⟨hproviders, fun after hafter => ?_⟩
  rw [reportsLeak_checkCall_iff hafter]
  exact hproviders

/-! ## Raw data behind sanitized data

The two variables below are known, one of them sanitized. Handed on in one list, they are reported
or not depending on which comes first. -/

def halfSanitized : State :=
  { tracker := { records := [
      ("email",
        { name := "email", piiTypes := ["email"], sourceLine := 1, sourceNode := "request" }),
      ("safe", { name := "safe", piiTypes := ["email"], sourceLine := 2, sourceNode := "anonymize"
                 isSanitized := true })] } }

def predictOf (names : List String) : Call :=
  let place : Place := { line := 3, column := 0, endLine := 3 }
  let function := Node.member place "predict" (.name place "llm")
  let inputs := [Node.list place (names.map (Node.name place))]
  { node := .call place function inputs [], place, function, inputs, keywords := [] }

theorem raw_first_is_reported :
    providerOf? (predictOf ["email", "safe"]).function (predictOf ["email", "safe"]).inputs =
        some "langchain" ∧
      ReportsLeak (predictOf ["email", "safe"]) halfSanitized
        (checkProviders { file := "app.py", lines := [] } (predictOf ["email", "safe"])
          halfSanitized) := by
  have hprovider : providerOf? (predictOf ["email", "safe"]).function
      (predictOf ["email", "safe"]).inputs = some "langchain" := by
    decide
  refine ⟨hprovider, (leak_reported_iff_raw_not_masked _ _ halfSanitized _ hprovider).1.mpr ?_⟩
  refine ⟨_, List.mem_cons_self, ?_⟩
  rw [← leaks_iff]
  exact ⟨_, rfl, rfl⟩

/-- With the sanitized variable in front, the raw one goes out and nothing is reported. -/
theorem raw_behind_sanitized_is_overlooked :
    providerOf? (predictOf ["safe", "email"]).function (predictOf ["safe", "email"]).inputs =
        some "langchain" ∧
      (∃ argument ∈ (predictOf ["safe", "email"]).values, HoldsRaw halfSanitized.tracker argument) ∧
      ¬ ReportsLeak (predictOf ["safe", "email"]) halfSanitized
        (checkProviders { file := "app.py", lines := [] } (predictOf ["safe", "email"])
          halfSanitized) := by
  refine ⟨by decide, ⟨_, List.mem_cons_self, ?raw⟩, ?silent⟩
  case raw =>
    exact ⟨.name _ "email", _, .listElement (List.mem_cons_of_mem _ List.mem_cons_self) .here,
      rfl, rfl⟩
  case silent =>
    rintro ⟨added, hadded, finding, hmem, _⟩
    have hnone : (checkProviders { file := "app.py", lines := [] } (predictOf ["safe", "email"])
        halfSanitized).findings.isEmpty := by
      decide
    rw [List.isEmpty_iff.mp hnone] at hadded
    rw [(List.append_eq_nil_iff.mp hadded.symm).2] at hmem
    cases hmem

end PrivacyScan.SourceFlow
