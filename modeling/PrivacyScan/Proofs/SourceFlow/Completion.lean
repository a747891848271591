import PrivacyScan.Proofs.SourceFlow.Walk

/-!
# Which modules are analysed to the end

The analysis of a module fails in a few places only: where an assignment asks tainted data for a key
that has no lower case, where a number is too long to be written down, where a request goes to an
address that cannot be read, and where an object made from an unpacked mapping is written to a
database. Each of them is a shape of one assignment or one call, together with what is known of the
variables when the walk comes to it:

* **`assignName_completes_iff`**, **`checkCall_completes_iff`** — the shapes that an assignment and
  a call are refused for;
* **`visit_completes_iff`** — the walk completes exactly when it comes to no such shape.

Both directions go along the parts of an assignment and the checks of a call in the order in which
they are made. A part is asked in a state that the parts before it have changed, so each step needs
that they leave alone what it looks at: the route, and the records of the variables.
-/

namespace PrivacyScan.SourceFlow

open Source (Node Form Place Constant)
open Taint (Tracker inferTypes)
open Outcome (Completes completes_ok not_completes_error completes_bind_iff
  completes_bind_iff_left completes_map_iff)

variable {setting : Setting} {state before after : State} {tracker : Tracker} {line : Int}
  {target : String} {value : Node} {place : Place} {key : Constant}

/-! ## Assignments -/

/-- The route of the function is a number that is too long to be written down. -/
def RouteTooLong (state : State) : Prop :=
  ∃ route, state.route = some route ∧ route.isTruthy = true ∧ route.isWritable = false

def HasLowerCase : Constant → Prop
  | .text _ => True
  | .bytes _ => True
  | _ => False

def ReadsRequest (value : Node) : Prop :=
  ∃ place part basePlace, value = .member place part (.name basePlace "request") ∧
    part ∈ ["json", "form", "args", "values"]

def AsksVariable (tracker : Tracker) (value : Node) (key : Constant) : Prop :=
  ∃ place object, fieldAsked? value = some (.name place object, key) ∧ tracker.holds object = true

def AsksRequest (value : Node) (key : Constant) : Prop :=
  ∃ place part base, fieldAsked? value = some (.member place part base, key) ∧
    part ∈ ["args", "form", "json"]

/-- The value is an item under a number that is too long to be written down. -/
def IndexTooLong (value : Node) : Prop :=
  ∃ place container index number, value = .subscript place container index ∧
    index.constant? = some number ∧ number.isWritable = false

/-- The two things that every key needs to be noted: a lower case, and a scope to note it in. -/
def Notable (state : State) (key : Constant) : Prop := HasLowerCase key ∧ ¬ RouteTooLong state

/-- What an assignment of this value is refused for. -/
inductive RefusedAssignment (value : Node) (state : State) : Prop where
  | request (hreads : ReadsRequest value) (hroute : RouteTooLong state)
  | variableKey (key : Constant) (hasks : AsksVariable state.tracker value key)
      (hkey : ¬ Notable state key)
  | requestKey (key : Constant) (hasks : AsksRequest value key) (hkey : ¬ Notable state key)
  | index (hindex : IndexTooLong value)

/-- A constant that is no text is written in decimal digits, of which there may be too many. -/
theorem written_completes_iff : Completes key.written ↔ key.isWritable = true := by
  unfold Constant.written
  split
  · next h => exact iff_of_true (completes_ok _) h
  · next h => exact iff_of_false (not_completes_error _) h

/-- The scope has a name unless its route is too long. -/
theorem scope_completes_iff : Completes state.scope ↔ ¬ RouteTooLong state := by
  unfold State.scope RouteTooLong
  cases hroute : state.route with
  | none => exact iff_of_true (completes_ok _) (by simp)
  | some route =>
    dsimp only
    split
    · next htruthy =>
      refine (completes_bind_iff_left fun _ => completes_ok _).trans ?_
      rw [written_completes_iff]
      simp [htruthy]
    · next hfalsy =>
      refine iff_of_true (completes_ok _) ?_
      rintro ⟨other, hother, htruthy, _⟩
      cases hother
      exact hfalsy htruthy

theorem typesOfConstant_completes_iff : Completes (typesOfConstant key) ↔ HasLowerCase key := by
  unfold typesOfConstant
  rw [completes_bind_iff]
  cases key with
  | text value => exact iff_of_true ⟨_, rfl, completes_ok _⟩ trivial
  | bytes value => exact iff_of_true ⟨_, rfl, completes_ok _⟩ trivial
  | _ => exact iff_of_false (by rintro ⟨_, h, _⟩; cases h) id

/-- A key is noted where it is asked for, and no other key is. -/
theorem noted_completes_iff {α : Type} {note : List String → Option String → α}
    {asks : Constant → Prop} (hasks : ∀ other, asks other ↔ key = other) :
    Completes (do
      let piiTypes ← typesOfConstant key
      let context ← state.scope
      return note piiTypes context) ↔ ∀ other, asks other → Notable state other := by
  simp only [hasks, forall_eq', Notable, ← typesOfConstant_completes_iff, ← scope_completes_iff]
  exact Outcome.completes_both_iff

theorem assignRequest_eq_self {scope : Outcome (Option String)} (h : ¬ ReadsRequest value) :
    assignRequest line target value scope tracker = .ok tracker := by
  unfold assignRequest
  split
  · split
    · next hpart => exact (h ⟨_, _, _, rfl, List.contains_iff_mem.mp hpart⟩).elim
    · rfl
  · rfl

/-- The body of a request is noted under the route of the function. -/
theorem assignRequest_completes_iff :
    Completes (assignRequest line target value state.scope tracker) ↔
      (ReadsRequest value → ¬ RouteTooLong state) := by
  unfold assignRequest
  split
  · split
    · next hpart =>
      rw [← scope_completes_iff,
        forall_prop_of_true ⟨_, _, _, rfl, List.contains_iff_mem.mp hpart⟩]
      exact completes_bind_iff_left fun _ => completes_ok _
    · next hpart =>
      refine iff_of_true (completes_ok _) ?_
      rintro ⟨_, _, _, hvalue, hmem⟩
      cases hvalue
      exact (hpart (List.contains_iff_mem.mpr hmem)).elim
  · next hother =>
    refine iff_of_true (completes_ok _) ?_
    rintro ⟨_, _, _, hvalue, _⟩
    exact (hother _ _ _ hvalue).elim

theorem assignField_completes_iff :
    Completes (assignField line target value state.scope tracker) ↔
      ∀ key, AsksVariable tracker value key → Notable state key := by
  unfold assignField
  split
  · next place object field hasked =>
    split
    · next hheld =>
      exact noted_completes_iff fun key => by simp [AsksVariable, hasked, hheld, Node.name]
    · next hheld =>
      exact iff_of_true (completes_ok _) (by simp [AsksVariable, hasked, hheld, Node.name])
  · next hother =>
    refine iff_of_true (completes_ok _) ?_
    rintro key ⟨_, _, hkey, _⟩
    exact (hother _ _ _ hkey).elim

theorem assignParameter_completes_iff :
    Completes (assignParameter line target value state.scope tracker) ↔
      ∀ key, AsksRequest value key → Notable state key := by
  unfold assignParameter
  split
  · next place part base field hasked =>
    split
    · next hpart => exact noted_completes_iff fun key => by simp_all [AsksRequest, Node.member]
    · next hpart => exact iff_of_true (completes_ok _) (by simp_all [AsksRequest, Node.member])
  · next hother =>
    refine iff_of_true (completes_ok _) ?_
    rintro key ⟨_, _, _, hkey, _⟩
    exact (hother _ _ _ _ hkey).elim

theorem assignItem_completes_iff {container index : Node} :
    Completes (assignItem line target container index tracker) ↔
      ∀ number, index.constant? = some number → number.isWritable = true := by
  unfold assignItem
  split
  · next hnone => exact iff_of_true (completes_ok _) (by simp [hnone])
  · next constant hconstant =>
    have hwritten : Completes constant.written ↔
        ∀ number, index.constant? = some number → number.isWritable = true := by
      simp [written_completes_iff, hconstant]
    refine (completes_bind_iff_left fun text => ?_).trans hwritten
    dsimp only
    split
    · exact completes_ok _
    · exact completes_ok _

/-- Of the values only an item under a key can fail. -/
theorem assignValue_completes_iff {context : Option String} :
    Completes (assignValue line target value context tracker) ↔ ¬ IndexTooLong value := by
  unfold assignValue
  split
  case h_3 place container index =>
    rw [assignItem_completes_iff]
    constructor
    · rintro hall ⟨_, _, _, number, hvalue, hnumber, hlong⟩
      cases hvalue
      rw [hall number hnumber] at hlong
      cases hlong
    · intro hshort number hnumber
      rw [← Bool.not_eq_false]
      exact fun hlong => hshort ⟨_, _, _, number, rfl, hnumber, hlong⟩
  case h_6 hsubscript _ _ =>
    refine iff_of_true (completes_ok _) ?_
    rintro ⟨_, _, _, number, hvalue, _⟩
    exact hsubscript _ _ _ hvalue
  all_goals
    refine iff_of_true (completes_ok _) ?_
    rintro ⟨_, _, _, number, hvalue, _⟩
    cases hvalue

/-- The body of a request is not asked for a key, so the first part of an assignment leaves it to
the second whether a variable is asked for one. -/
theorem asksVariable_congr {scope : Outcome (Option String)} {requested : Tracker}
    (h : assignRequest line target value scope tracker = .ok requested) :
    AsksVariable requested value key ↔ AsksVariable tracker value key := by
  by_cases hreads : ReadsRequest value
  · obtain ⟨place, part, basePlace, rfl, _⟩ := hreads
    have hnone : fieldAsked? (.member place part (.name basePlace "request")) = none := rfl
    unfold AsksVariable
    rw [hnone]
    simp
  · rw [assignRequest_eq_self hreads] at h
    cases h
    exact Iff.rfl

/-- **The assignment of a value to a variable completes exactly when it is not refused.** -/
theorem assignName_completes_iff :
    Completes (assignName setting place value state target) ↔ ¬ RefusedAssignment value state := by
  unfold assignName
  rw [completes_map_iff]
  unfold track
  constructor
  · intro hcompletes hrefused
    obtain ⟨requested, hrequested, hcompletes⟩ := completes_bind_iff.mp hcompletes
    obtain ⟨asked, hasked, hcompletes⟩ := completes_bind_iff.mp hcompletes
    obtain ⟨received, hreceived, hcompletes⟩ := completes_bind_iff.mp hcompletes
    -- what refuses is asked of the first state; the parts up to it leave the answer as it is
    cases hrefused with
    | request hreads hroute =>
      exact assignRequest_completes_iff.mp ⟨requested, hrequested⟩ hreads hroute
    | variableKey key hasks hkey =>
      exact hkey (assignField_completes_iff.mp ⟨asked, hasked⟩ key
        ((asksVariable_congr hrequested).mpr hasks))
    | requestKey key hasks hkey =>
      exact hkey (assignParameter_completes_iff.mp ⟨received, hreceived⟩ key hasks)
    | index hindex => exact assignValue_completes_iff.mp hcompletes hindex
  · intro hallowed
    have hrequest : Completes (assignRequest place.line target value state.scope state.tracker) :=
      assignRequest_completes_iff.mpr fun hreads hroute => hallowed (.request hreads hroute)
    obtain ⟨requested, hrequested⟩ := hrequest
    have hfield : Completes (assignField place.line target value state.scope requested) := by
      refine assignField_completes_iff.mpr fun key hasks => ?_
      have hasks := (asksVariable_congr hrequested).mp hasks
      exact Classical.byContradiction fun hkey => hallowed (.variableKey key hasks hkey)
    obtain ⟨asked, hasked⟩ := hfield
    have hparameter : Completes (assignParameter place.line target value state.scope asked) := by
      refine assignParameter_completes_iff.mpr fun key hasks => ?_
      exact Classical.byContradiction fun hkey => hallowed (.requestKey key hasks hkey)
    obtain ⟨received, hreceived⟩ := hparameter
    refine completes_bind_iff.mpr ⟨requested, hrequested, ?_⟩
    refine completes_bind_iff.mpr ⟨asked, hasked, ?_⟩
    refine completes_bind_iff.mpr ⟨received, hreceived, ?_⟩
    exact assignValue_completes_iff.mpr fun hindex => hallowed (.index hindex)

/-! ## Calls -/

def Sends (call : Call) : Prop :=
  ∃ place method object, call.function = .member place method object ∧
    (Tracker.calledName? object).getD "" ∈ ["requests", "httpx"] ∧ method ∈ requestMethods

def Writes (call : Call) : Prop :=
  ∃ place method object, call.function = .member place method object ∧
    method ∈ Framework.writeMethods

/-- A mapping whose name is that of personal data, or of a member of it, is unpacked. -/
def Unpacks (tracker : Tracker) (keyword : Node) : Prop :=
  ∃ place memberPlace id basePlace base,
    keyword = .keyword place none (.member memberPlace id (.name basePlace base)) ∧
      tracker.isTaintedMember id (.name basePlace base) = true

/-- Some input of the call creates an object from an unpacked mapping. -/
def UnpacksInput (call : Call) (tracker : Tracker) : Prop :=
  ∃ place function inputs keywords, .call place function inputs keywords ∈ call.inputs ∧
    ∃ keyword ∈ keywords, Unpacks tracker keyword

/-- What a call is refused for: the address of a request is no text, or a text whose host cannot be
read; or an object is written that is created from an unpacked mapping. -/
inductive RefusedCall (setting : Setting) (call : Call) (state : State) : Prop where
  | address (constant : Constant) (hsends : Sends call)
      (hconstant : call.inputs.head?.bind (·.constant?) = some constant)
      (htruthy : constant.isTruthy = true)
      (hhost : ∀ address, constant = .text address → ¬ Completes (Url.host address))
  | unpacked (hsends : ¬ Sends call) (hwrites : Writes call)
      (hroutine : Routine.isStatement (setting.snippet call.place) = false)
      (hinput : UnpacksInput call state.tracker)

variable {call : Call} {exposure : Exposure} {other : Tracker} {keyword : Node}

theorem host_empty : Url.host "" = .ok "" := rfl

theorem checkNetwork_completes_iff_host :
    Completes (checkNetwork setting call exposure state) ↔
      ∃ address, addressOf call = .ok address ∧ Completes (Url.host address) := by
  unfold checkNetwork
  rw [completes_bind_iff]
  refine exists_congr fun address => and_congr_right fun _ => ?_
  refine completes_bind_iff_left fun host => ?_
  dsimp only
  split
  · exact completes_ok _
  · exact completes_ok _

/-- A request is looked at to its end when its address, if it has one, is a text whose host can be
read. -/
theorem checkNetwork_completes_iff :
    Completes (checkNetwork setting call exposure state) ↔
      ∀ constant, call.inputs.head?.bind (·.constant?) = some constant →
        constant.isTruthy = true → ∃ address, constant = .text address ∧
          Completes (Url.host address) := by
  rw [checkNetwork_completes_iff_host]
  unfold addressOf
  cases call.inputs.head?.bind (·.constant?) with
  | none => exact iff_of_true ⟨"", rfl, "", host_empty⟩ (by simp)
  | some constant =>
    cases htruthy : constant.isTruthy with
    | false =>
      refine iff_of_true ⟨"", by simp [htruthy], "", host_empty⟩ ?_
      intro other hother
      cases hother
      rw [htruthy]
      exact fun h => by cases h
    | true =>
      simp only [htruthy, Bool.not_true, Bool.false_eq_true, if_false]
      constructor
      · rintro ⟨address, haddress, hhost⟩ other hother _
        cases hother
        -- of the constants that count as true only texts are addresses
        split at haddress
        · cases haddress
          exact ⟨_, rfl, hhost⟩
        · cases haddress
        · cases haddress
      · intro hall
        obtain ⟨address, rfl, hhost⟩ := hall constant rfl htruthy
        exact ⟨address, rfl, hhost⟩

/-- Whether a mapping is unpacked depends on the records alone. -/
theorem unpacks_congr (h : other.records = tracker.records) :
    Unpacks other keyword ↔ Unpacks tracker keyword := by
  unfold Unpacks Tracker.isTaintedMember Tracker.holds
  rw [h]

theorem writtenName?_member {basePlace : Place} {id base : String}
    (h : tracker.isTaintedMember id (.name basePlace base) = true) :
    writtenName? tracker (.member place id (.name basePlace base)) = some (base ++ "." ++ id) := by
  show (if tracker.isTaintedMember id (.name basePlace base) then some (base ++ "." ++ id)
    else none) = _
  rw [if_pos h]

/-- A value that is written and has no record is a member of a variable. -/
theorem unpacks_of_writtenName? {value : Node} {name : String}
    (hname : writtenName? tracker value = some name) (hrecord : tracker.recordOf? value = none) :
    Unpacks tracker (.keyword place none value) := by
  unfold writtenName? at hname
  split at hname
  · next id _ =>
    split at hname
    · next hholds =>
      -- a variable that is held has a record
      have hsome : (tracker.record? id).isSome := hholds
      rw [show tracker.record? id = none from hrecord] at hsome
      cases hsome
    · cases hname
  · split at hname
    · next htainted => exact ⟨_, _, _, _, _, rfl, htainted⟩
    · cases hname
  · cases hname

/-- A keyword without a name gives no column that its types could be taken from. -/
theorem writeKeyword_completes_iff {table : String} {known : List String}
    {found : State × Exposure} :
    Completes (writeKeyword table known found keyword) ↔ ¬ Unpacks found.1.tracker keyword := by
  unfold writeKeyword
  dsimp only
  split
  · next column place value =>
    split
    · next hname =>
      refine iff_of_true (completes_ok _) ?_
      rintro ⟨_, _, _, _, _, hkeyword, htainted⟩
      cases hkeyword
      rw [writtenName?_member htainted] at hname
      cases hname
    · next name hname =>
      split
      · next record hrecord =>
        refine iff_of_true (completes_ok _) ?_
        rintro ⟨_, _, _, _, _, hkeyword, _⟩
        cases hkeyword
        cases hrecord
      · refine iff_of_true (completes_ok _) ?_
        rintro ⟨_, _, _, _, _, hkeyword, _⟩
        cases hkeyword
      · next hrecord =>
        refine iff_of_false ?_ (fun h => h (unpacks_of_writtenName? hname hrecord))
        rintro ⟨_, h⟩
        cases h
  · next hother =>
    refine iff_of_true (completes_ok _) ?_
    rintro ⟨_, _, _, _, _, hkeyword, _⟩
    exact hother _ _ _ hkeyword

/-- An argument is refused only for a mapping that it unpacks. -/
theorem writeArgument_completes_iff {known : List String} {found : State × Exposure}
    {argument : Node} :
    Completes (writeArgument known found argument) ↔
      ∀ place function inputs keywords, argument = .call place function inputs keywords →
        ∀ keyword ∈ keywords, ¬ Unpacks found.1.tracker keyword := by
  unfold writeArgument
  split
  · next place function inputs keywords =>
    rw [Outcome.completes_foldlM_iff_forall
      (fun current : State × Exposure => current.1.tracker.records = found.1.tracker.records)
      (fun keyword => ¬ Unpacks found.1.tracker keyword)
      (fun keyword _ current hcurrent => by
        rw [writeKeyword_completes_iff, unpacks_congr hcurrent])
      (fun keyword _ current next hcurrent hnext => by
        have hobserves : Observes "" [] 0 current.1 next.1 := writeKeyword_observes hnext
        rw [hobserves.records, hcurrent]) rfl]
    constructor
    · rintro hall _ _ _ _ hargument
      cases hargument
      exact hall
    · intro hall
      exact hall _ _ _ _ rfl
  · dsimp only
    refine iff_of_true ?_ (by rintro _ _ _ _ hargument; cases hargument)
    split
    · exact completes_ok _
    · exact completes_ok _
  · next hcall _ =>
    refine iff_of_true (completes_ok _) ?_
    rintro _ _ _ _ hargument
    exact (hcall _ _ _ _ hargument).elim

/-- A write is refused only for a mapping that one of its inputs unpacks. -/
theorem checkWrite_completes_iff :
    Completes (checkWrite setting call exposure state) ↔
      (Routine.isStatement (setting.snippet call.place) = false →
        ¬ UnpacksInput call state.tracker) := by
  have hrun : Completes (call.inputs.foldlM (writeArgument exposure.names) (state, {})) ↔
      ¬ UnpacksInput call state.tracker := by
    -- each argument is checked in a later state, but with the records of the first
    rw [Outcome.completes_foldlM_iff_forall
      (fun current : State × Exposure => current.1.tracker.records = state.tracker.records)
      (fun argument => ∀ place function inputs keywords,
        argument = .call place function inputs keywords →
          ∀ keyword ∈ keywords, ¬ Unpacks state.tracker keyword)
      (fun argument _ current hcurrent => by
        rw [writeArgument_completes_iff]
        simp only [unpacks_congr hcurrent])
      (fun argument _ current next hcurrent hnext => by
        have hobserves : Observes "" [] 0 current.1 next.1 := writeArgument_observes hnext
        rw [hobserves.records, hcurrent]) rfl]
    constructor
    · rintro hall ⟨place, function, inputs, keywords, hinput, keyword, hkeyword, hunpacks⟩
      exact hall _ hinput place function inputs keywords rfl keyword hkeyword hunpacks
    · rintro hnone _ hinput place function inputs keywords rfl keyword hkeyword hunpacks
      exact hnone ⟨place, function, inputs, keywords, hinput, keyword, hkeyword, hunpacks⟩
  unfold checkWrite
  dsimp only
  split
  · next hroutine => exact iff_of_true (completes_ok _) (by simp [hroutine])
  · next hroutine =>
    rw [← hrun, forall_prop_of_true (by simpa using hroutine)]
    refine completes_bind_iff_left fun found => ?_
    split
    · exact completes_ok _
    · exact completes_ok _

theorem logMethods_not_written : ∀ method ∈ logMethods, method ∉ Framework.writeMethods := by
  decide

theorem sends_iff_of_member {method : String} {object : Node}
    (hfunction : call.function = .member place method object) :
    Sends call ↔ (["requests", "httpx"].contains ((Tracker.calledName? object).getD "") &&
      requestMethods.contains method) = true := by
  rw [Bool.and_eq_true_iff, List.contains_iff_mem, List.contains_iff_mem]
  constructor
  · rintro ⟨_, _, _, hother, hbase, hmethod⟩
    rw [hfunction] at hother
    cases hother
    exact ⟨hbase, hmethod⟩
  · rintro ⟨hbase, hmethod⟩
    exact ⟨place, method, object, hfunction, hbase, hmethod⟩

theorem writes_iff_of_member {method : String} {object : Node}
    (hfunction : call.function = .member place method object) :
    Writes call ↔ Framework.writeMethods.contains method = true := by
  rw [List.contains_iff_mem]
  constructor
  · rintro ⟨_, _, _, hother, hmethod⟩
    rw [hfunction] at hother
    cases hother
    exact hmethod
  · intro hmethod
    exact ⟨place, method, object, hfunction, hmethod⟩

theorem not_refusedCall (hsends : ¬ Sends call) (hwrites : ¬ Writes call) :
    ¬ RefusedCall setting call state := by
  intro hrefused
  cases hrefused with
  | address _ hsends' => exact hsends hsends'
  | unpacked _ hwrites' => exact hwrites hwrites'

/-- The sinks are told apart one after the other, and the refused shapes are those of the last two:
what comes first takes the call from what comes behind. -/
theorem checkMethod_completes_iff :
    Completes (checkMethod setting call exposure state) ↔ ¬ RefusedCall setting call state := by
  unfold checkMethod
  split
  · next method place object hfunction =>
    dsimp only
    split
    · -- a message to the log has neither the object of a request nor a method that writes
      next hlog =>
      obtain ⟨hbase, hmethod⟩ := Bool.and_eq_true_iff.mp hlog
      refine iff_of_true (completes_ok _) (not_refusedCall ?_ ?_)
      · rw [sends_iff_of_member hfunction, Bool.and_eq_true_iff]
        rintro ⟨hrequest, _⟩
        rw [List.contains_iff_mem] at hbase hrequest
        simp only [List.mem_cons, List.not_mem_nil, or_false] at hbase hrequest
        rcases hbase with hbase | hbase <;> rw [hbase] at hrequest <;> simp at hrequest
      · rw [writes_iff_of_member hfunction, List.contains_iff_mem]
        exact logMethods_not_written method (List.contains_iff_mem.mp hmethod)
    · split
      · next hrequest =>
        have hsends := (sends_iff_of_member hfunction).mpr hrequest
        rw [checkNetwork_completes_iff]
        constructor
        · intro hall hrefused
          cases hrefused with
          | address constant _ hconstant htruthy hhost =>
            obtain ⟨address, haddress, hcompletes⟩ := hall constant hconstant htruthy
            exact hhost address haddress hcompletes
          | unpacked hsends' => exact hsends' hsends
        · intro hallowed constant hconstant htruthy
          refine Classical.byContradiction fun hnone => ?_
          refine hallowed (.address constant hsends hconstant htruthy ?_)
          exact fun address haddress hcompletes => hnone ⟨address, haddress, hcompletes⟩
      · next hrequest =>
        have hsends : ¬ Sends call := fun h => hrequest ((sends_iff_of_member hfunction).mp h)
        split
        · next hwrite =>
          have hwrites := (writes_iff_of_member hfunction).mpr hwrite
          rw [checkWrite_completes_iff]
          constructor
          · intro hnone hrefused
            cases hrefused with
            | address _ hsends' => exact hsends hsends'
            | unpacked _ _ hroutine hinput => exact hnone hroutine hinput
          · exact fun hallowed hroutine hinput =>
              hallowed (.unpacked hsends hwrites hroutine hinput)
        · next hwrite =>
          refine iff_of_true (completes_ok _) (not_refusedCall hsends fun hwrites => ?_)
          exact hwrite ((writes_iff_of_member hfunction).mp hwrites)
  · next hother =>
    refine iff_of_true (completes_ok _) (not_refusedCall ?_ ?_)
    · rintro ⟨place, method, object, hfunction, _⟩
      exact hother _ _ _ hfunction
    · rintro ⟨place, method, object, hfunction, _⟩
      exact hother _ _ _ hfunction

/-- A call is refused for its shape and the records of the variables. -/
theorem RefusedCall.of_records_eq (hrefused : RefusedCall setting call before)
    (h : after.tracker.records = before.tracker.records) : RefusedCall setting call after := by
  cases hrefused with
  | address constant hsends hconstant htruthy hhost =>
    exact .address constant hsends hconstant htruthy hhost
  | unpacked hsends hwrites hroutine hunpacks =>
    refine .unpacked hsends hwrites hroutine ?_
    obtain ⟨place, function, inputs, keywords, hinput, keyword, hkeyword, hunpacks⟩ := hunpacks
    exact ⟨place, function, inputs, keywords, hinput, keyword, hkeyword,
      (unpacks_congr h).mpr hunpacks⟩

/-- **The checks of a call complete exactly when it is not refused.** -/
theorem checkCall_completes_iff :
    Completes (checkCall setting call state) ↔ ¬ RefusedCall setting call state := by
  rw [checkCall_eq]
  unfold checkSinks
  dsimp only
  rw [checkMethod_completes_iff]
  -- the checks before the one for methods change no record
  have hrecords (exposure : Exposure) :
      (checkPrinted setting call exposure (credited setting call
        (checkProviders setting call state))).tracker.records = state.tracker.records := by
    rw [(checkPrinted_observes ..).records, (credited_observes ..).records,
      (checkProviders_observes ..).records]
  exact not_congr ⟨fun hrefused => hrefused.of_records_eq (hrecords _).symm,
    fun hrefused => hrefused.of_records_eq (hrecords _)⟩

/-! ## The walk -/

/-- What a node does by itself when the walk comes to it. -/
inductive Step where
  /-- The value is assigned to one of the variables. -/
  | assignment (place : Place) (value : Node) (target : String)
  | call (call : Call)

def Step.Refused (setting : Setting) (state : State) : Step → Prop
  | .assignment _ value _ => RefusedAssignment value state
  | .call call => RefusedCall setting call state

/-- The steps that a node takes by itself, each with the state that it is taken in: an assignment
takes one for each of its variables, in order. -/
inductive Takes (setting : Setting) : Node → State → Step → State → Prop where
  | assignment {place : Place} {targets : List Node} {value : Node} {state reached : State}
      {before after : List String} {target : String}
      (hsplit : namesOf targets = before ++ target :: after)
      (hbefore : before.foldlM (assignName setting place value) state = .ok reached) :
      Takes setting (.assign place targets value) state (.assignment place value target) reached
  | call {place : Place} {function : Node} {inputs keywords : List Node} {state : State} :
      Takes setting (.call place function inputs keywords) state
        (.call { node := .call place function inputs keywords, place, function, inputs, keywords })
        state

/-- **The walk comes to a step in a state.** It is a step of the node itself, or the walk has
entered the node, gone through the parts before one of them, and comes to the step in this part. -/
inductive Comes (setting : Setting) : Node → State → Step → State → Prop where
  | own {node : Node} {state reached : State} {step : Step}
      (htakes : Takes setting node state step reached) : Comes setting node state step reached
  | part {node child : Node} {state entered between reached : State} {step : Step}
      {before after : List Node} (hentered : enter setting node state = .ok entered)
      (hsplit : node.parts.flatten = before ++ child :: after)
      (hbefore : visitAll setting before entered = .ok between)
      (inner : Comes setting child between step reached) : Comes setting node state step reached

/-- Entering a node completes exactly when none of its own steps is refused. -/
theorem enter_completes_iff {node : Node} :
    Completes (enter setting node state) ↔
      ∀ step reached, Takes setting node state step reached → ¬ step.Refused setting reached := by
  unfold enter
  split
  · refine iff_of_true (completes_ok _) ?_
    intro step reached htakes
    cases htakes
  · refine iff_of_true (completes_ok _) ?_
    intro step reached htakes
    cases htakes
  · unfold assign
    rw [Outcome.completes_foldlM_iff]
    constructor
    · intro hall step reached htakes
      cases htakes with
      | assignment hsplit hbefore =>
        exact assignName_completes_iff.mp (hall _ _ _ _ hsplit hbefore)
    · intro hallowed before target after reached hsplit hbefore
      exact assignName_completes_iff.mpr (hallowed _ _ (.assignment hsplit hbefore))
  · rw [checkCall_completes_iff]
    constructor
    · intro hallowed step reached htakes
      cases htakes
      exact hallowed
    · intro hallowed
      exact hallowed _ _ .call
  · -- every other node is passed by without a step
    next hassign hcall =>
    refine iff_of_true (completes_ok _) ?_
    intro step reached htakes
    cases htakes with
    | assignment => exact (hassign _ _ _ rfl).elim
    | call => exact (hcall _ _ _ _ rfl).elim

/-- **The walk completes exactly when it comes to no refused step.** Induction on the size of the
node: where the node is entered, its parts complete one after the other. -/
theorem visit_completes_iff (node : Node) (state : State) :
    Completes (visit setting node state) ↔
      ∀ step reached, Comes setting node state step reached → ¬ step.Refused setting reached := by
  rw [visit_eq, completes_bind_iff]
  constructor
  · rintro ⟨entered, hentered, hcompletes⟩ step reached hcomes
    obtain ⟨walked, hwalked, _⟩ := completes_bind_iff.mp hcompletes
    cases hcomes with
    | own htakes => exact enter_completes_iff.mp ⟨entered, hentered⟩ step reached htakes
    | @part _ child _ _ _ _ _ _ _ hentered' hsplit hbefore inner =>
      rw [hentered] at hentered'
      cases hentered'
      have hchild := Outcome.completes_foldlM_iff.mp ⟨walked, hwalked⟩ _ _ _ _ hsplit hbefore
      have hsize : sizeOf child < sizeOf node := sizeOf_lt_of_mem_parts (by rw [hsplit]; simp)
      exact (visit_completes_iff _ _).mp hchild step reached inner
  · intro hallowed
    obtain ⟨entered, hentered⟩ := enter_completes_iff.mpr
      fun step reached htakes => hallowed step reached (.own htakes)
    refine ⟨entered, hentered, ?_⟩
    have hparts : Completes (visitAll setting node.parts.flatten entered) := by
      refine Outcome.completes_foldlM_iff.mpr fun before child after between hsplit hbefore => ?_
      have hsize : sizeOf child < sizeOf node := sizeOf_lt_of_mem_parts (by rw [hsplit]; simp)
      exact (visit_completes_iff child between).mpr fun step reached inner =>
        hallowed step reached (.part hentered hsplit hbefore inner)
    obtain ⟨walked, hwalked⟩ := hparts
    exact completes_bind_iff.mpr ⟨walked, hwalked, completes_ok _⟩
  termination_by sizeOf node

/-- **The analysis of a file gives a result exactly when the walk through its module comes to no
refused step.** A file that is no module is passed over. -/
theorem analysis_completes_iff_nothing_refused (file code : String) (method : Classify.Method) :
    Completes (analyze? file code method) ↔
      ∀ tree, Source.parseModule? code = some tree → ∀ step reached,
        Comes (Setting.ofCode file code method) tree {} step reached →
          ¬ step.Refused (Setting.ofCode file code method) reached := by
  unfold analyze?
  split
  · next hnone => exact iff_of_true (completes_ok _) (by simp [hnone])
  · next tree htree =>
    constructor
    · rintro ⟨result, hresult⟩ other hother
      obtain rfl := Option.some.inj (htree.symm.trans hother)
      obtain ⟨state, hstate, _⟩ := Outcome.map_eq_ok.mp hresult
      exact (visit_completes_iff tree {}).mp ⟨state, hstate⟩
    · intro hallowed
      obtain ⟨state, hstate⟩ := (visit_completes_iff tree {}).mpr (hallowed tree htree)
      exact ⟨_, Outcome.map_eq_ok.mpr ⟨state, hstate, rfl⟩⟩

/-- A request parameter is asked for under a number, and the analysis of the module has no
result. -/
theorem numbered_parameter_has_no_result :
    (Source.parseModule? "x = request.args.get(5)").isSome ∧
      ¬ Completes (analyze? "app.py" "x = request.args.get(5)") := by
  refine ⟨by decide +kernel, ?_⟩
  rw [Outcome.not_completes_iff]
  refine ⟨.noMember .int "lower", ?_⟩
  have hfault : (match analyze? "app.py" "x = request.args.get(5)" with
      | .ok _ => none
      | .error fault => some fault) = some (.noMember .int "lower") := by
    decide +kernel
  split at hfault
  · cases hfault
  · next fault herror => rw [herror, Option.some.inj hfault]

end PrivacyScan.SourceFlow
