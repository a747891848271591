import PrivacyScan.Fault

/-!
# Outcomes in sequence

When a computation made of steps that can fail gives a result. `Completes` says that there is one;
the lemmas take a sequence apart into its steps, so that no later proof opens a `do` block by hand.

Runs over a list come with one lemma for each question that is asked of them: when they complete
(`completes_foldlM_iff`), what relates their ends (`foldlM_relates`), what they keep
(`foldlM_keeps`), what they add (`foldlM_collects`), and which fault ends them
(`exists_of_foldlM_eq_error`).
-/

namespace PrivacyScan

namespace Outcome

variable {α β σ : Type} {outcome : Outcome α} {next : α → Outcome β} {change : α → β} {result : β}

instance instDecidableEq [DecidableEq α] : DecidableEq (Outcome α)
  | .ok first, .ok second => decidable_of_iff (first = second) ⟨congrArg _, Except.ok.inj⟩
  | .error first, .error second => decidable_of_iff (first = second) ⟨congrArg _, Except.error.inj⟩
  | .ok _, .error _ => isFalse nofun
  | .error _, .ok _ => isFalse nofun

/-- There is a result. -/
def Completes (outcome : Outcome α) : Prop := ∃ result, outcome = .ok result

theorem completes_ok (result : α) : Completes (.ok result) := ⟨result, rfl⟩

theorem not_completes_error (fault : Fault) : ¬ Completes (α := α) (.error fault) := by
  rintro ⟨result, h⟩
  cases h

theorem not_completes_iff :
    ¬ Completes outcome ↔ ∃ fault, outcome = .error fault := by
  cases outcome with
  | ok result => simp [Completes]
  | error fault => simp [Completes]

/-- What is seen of a result tells that there is one. -/
theorem exists_of_seen {see : α → β} (h : outcome.toOption.map see = some result) :
    ∃ value, outcome = .ok value ∧ see value = result := by
  cases outcome with
  | ok value => exact ⟨value, rfl, Option.some.inj h⟩
  | error fault => cases h

theorem ok_bind (value : α) (next : α → Outcome β) : (.ok value >>= next) = next value := rfl

theorem bind_eq_ok :
    outcome >>= next = .ok result ↔ ∃ value, outcome = .ok value ∧ next value = .ok result := by
  cases outcome with
  | ok value => simp [bind, Except.bind]
  | error fault => simp [bind, Except.bind]

theorem map_eq_ok :
    change <$> outcome = .ok result ↔ ∃ value, outcome = .ok value ∧ change value = result := by
  cases outcome with
  | ok value => simp [Functor.map, Except.map]
  | error fault => simp [Functor.map, Except.map]

theorem completes_bind_iff :
    Completes (outcome >>= next) ↔ ∃ value, outcome = .ok value ∧ Completes (next value) := by
  constructor
  · rintro ⟨result, h⟩
    obtain ⟨value, hvalue, hnext⟩ := bind_eq_ok.mp h
    exact ⟨value, hvalue, result, hnext⟩
  · rintro ⟨value, hvalue, result, hnext⟩
    exact ⟨result, bind_eq_ok.mpr ⟨value, hvalue, hnext⟩⟩

/-- Where nothing that follows can fail, the first step decides. -/
theorem completes_bind_iff_left
    (hnext : ∀ value, Completes (next value)) : Completes (outcome >>= next) ↔
    Completes outcome := by
  rw [completes_bind_iff]
  exact exists_congr fun value => and_iff_left (hnext value)

/-- Two parts of which a result is made have to complete both. -/
theorem completes_both_iff {γ : Type} {first : Outcome α} {second : Outcome β} {give : α → β → γ} :
    Completes (first >>= fun value => second >>= fun other => .ok (give value other)) ↔
      Completes first ∧ Completes second := by
  rw [completes_bind_iff]
  refine (exists_congr fun value => and_congr_right fun _ =>
    completes_bind_iff_left fun other => completes_ok (give value other)).trans ?_
  exact exists_and_right

theorem completes_map_iff :
    Completes (change <$> outcome) ↔ Completes outcome := by
  constructor
  · rintro ⟨result, h⟩
    obtain ⟨value, hvalue, _⟩ := map_eq_ok.mp h
    exact ⟨value, hvalue⟩
  · rintro ⟨value, hvalue⟩
    exact ⟨change value, map_eq_ok.mpr ⟨value, hvalue, rfl⟩⟩

/-! ## Runs over a list -/

section Runs

variable {step : σ → α → Outcome σ} {items : List α} {start last : σ}

theorem foldlM_cons_eq_ok {item : α} {rest : List α} :
    (item :: rest).foldlM step start = .ok last ↔
      ∃ next, step start item = .ok next ∧ rest.foldlM step next = .ok last := by
  rw [List.foldlM_cons]
  exact bind_eq_ok

/-- **A run completes exactly when none of its steps fails.** A step counts in the state that the
steps before it lead to. Induction on the list, with the first state left open. -/
theorem completes_foldlM_iff :
    Completes (items.foldlM step start) ↔
      ∀ before item after reached, items = before ++ item :: after →
        before.foldlM step start = .ok reached → Completes (step reached item) := by
  induction items generalizing start with
  | nil =>
    constructor
    · intro _ before item after reached hsplit
      simp at hsplit
    · intro _
      exact completes_ok start
  | cons first rest ih =>
    rw [List.foldlM_cons, completes_bind_iff]
    constructor
    · rintro ⟨next, hnext, hrest⟩ before item after reached hsplit hbefore
      cases before with
      | nil =>
        -- the step in question is the first of the run
        obtain ⟨rfl, rfl⟩ : first = item ∧ rest = after := by simpa using hsplit
        obtain rfl : start = reached := by simpa [pure, Except.pure] using hbefore
        exact ⟨next, hnext⟩
      | cons head tail =>
        obtain ⟨rfl, rfl⟩ : first = head ∧ rest = tail ++ item :: after := by simpa using hsplit
        obtain ⟨next', hnext', htail⟩ := foldlM_cons_eq_ok.mp hbefore
        obtain rfl : next = next' := by
          rw [hnext] at hnext'
          exact Except.ok.inj hnext'
        exact ih.mp hrest tail item after reached rfl htail
    · intro hall
      obtain ⟨next, hnext⟩ := hall [] first rest start rfl rfl
      refine ⟨next, hnext, ih.mpr ?_⟩
      intro before item after reached hsplit hbefore
      refine hall (first :: before) item after reached (by rw [hsplit]; rfl) ?_
      exact foldlM_cons_eq_ok.mpr ⟨next, hnext, hbefore⟩

/-- Where the steps keep all that decides whether they fail, a run completes exactly when each of
them would at its start. -/
theorem completes_foldlM_iff_forall (keeps : σ → Prop) (allowed : α → Prop)
    (hstep : ∀ item ∈ items, ∀ {current}, keeps current →
      (Completes (step current item) ↔ allowed item))
    (hkeeps : ∀ item ∈ items, ∀ {current next}, keeps current → step current item = .ok next →
      keeps next)
    (hstart : keeps start) :
    Completes (items.foldlM step start) ↔ ∀ item ∈ items, allowed item := by
  induction items generalizing start with
  | nil => exact iff_of_true (completes_ok start) (by simp)
  | cons first rest ih =>
    have ihrest (next : σ) (hnext : keeps next) :=
      ih (fun item hitem => hstep item (List.mem_cons_of_mem _ hitem))
        (fun item hitem => hkeeps item (List.mem_cons_of_mem _ hitem)) hnext
    have hfirst := hstep first List.mem_cons_self hstart
    rw [List.foldlM_cons, completes_bind_iff, List.forall_mem_cons, ← hfirst]
    constructor
    · rintro ⟨next, hnext, hrest⟩
      exact ⟨⟨next, hnext⟩, (ihrest next (hkeeps first List.mem_cons_self hstart hnext)).mp hrest⟩
    · rintro ⟨⟨next, hnext⟩, hrest⟩
      exact ⟨next, hnext, (ihrest next (hkeeps first List.mem_cons_self hstart hnext)).mpr hrest⟩

/-- What every step of a completed run relates, its ends are related by. -/
theorem foldlM_relates (relates : σ → σ → Prop) (hrefl : ∀ state, relates state state)
    (htrans : ∀ {first second third}, relates first second → relates second third →
      relates first third)
    (hstep : ∀ item ∈ items, ∀ {before after}, step before item = .ok after → relates before after)
    (h : items.foldlM step start = .ok last) : relates start last := by
  induction items generalizing start with
  | nil =>
    obtain rfl : start = last := by simpa [pure, Except.pure] using h
    exact hrefl start
  | cons first rest ih =>
    obtain ⟨next, hnext, hrest⟩ := foldlM_cons_eq_ok.mp h
    have hfirst : relates start next := hstep first (by simp) hnext
    exact htrans hfirst (ih (fun item hitem => hstep item (by simp [hitem])) hrest)

/-- What every step of a completed run keeps holds at its end. -/
theorem foldlM_keeps (holds : σ → Prop)
    (hstep : ∀ item ∈ items, ∀ {current next}, holds current → step current item = .ok next →
      holds next)
    (hstart : holds start) (h : items.foldlM step start = .ok last) : holds last :=
  foldlM_relates (fun first last => holds first → holds last) (fun _ => id) (fun h h' => h' ∘ h)
    (fun item hitem {_ _} hnext hcurrent => hstep item hitem hcurrent hnext) h hstart

/-- What every step of a completed run adds to a view of the state stands there in the end, in
order. -/
theorem foldlM_collects (view : σ → List β) (output : α → List β)
    (hstep : ∀ item ∈ items, ∀ {before after}, step before item = .ok after →
      view after = view before ++ output item)
    (h : items.foldlM step start = .ok last) :
    view last = view start ++ items.flatMap output := by
  induction items generalizing start with
  | nil =>
    obtain rfl : start = last := by simpa [pure, Except.pure] using h
    rw [List.flatMap_nil, List.append_nil]
  | cons first rest ih =>
    obtain ⟨next, hnext, hrest⟩ := foldlM_cons_eq_ok.mp h
    have hfirst : view next = view start ++ output first := hstep first (by simp) hnext
    rw [ih (fun item hitem => hstep item (by simp [hitem])) hrest, hfirst, List.flatMap_cons,
      List.append_assoc]

/-- The fault of a run is that of one of its steps, in some state. -/
theorem exists_of_foldlM_eq_error {fault : Fault} (h : items.foldlM step start = .error fault) :
    ∃ item ∈ items, ∃ current, step current item = .error fault := by
  induction items generalizing start with
  | nil => cases h
  | cons first rest ih =>
    rw [List.foldlM_cons] at h
    cases hfirst : step start first with
    | error cause =>
      rw [hfirst] at h
      obtain rfl : cause = fault := Except.error.inj h
      exact ⟨first, List.mem_cons_self, start, hfirst⟩
    | ok next =>
      rw [hfirst] at h
      obtain ⟨item, hitem, current, hstep⟩ := ih h
      exact ⟨item, List.mem_cons_of_mem _ hitem, current, hstep⟩

end Runs

section Collecting

variable {γ : Type} {step : α → Outcome β} {items : List α} {results : List β}

theorem mapM_cons_eq_ok {item : α} {rest : List α} :
    (item :: rest).mapM step = .ok results ↔ ∃ head tail, step item = .ok head ∧
      rest.mapM step = .ok tail ∧ results = head :: tail := by
  rw [List.mapM_cons, bind_eq_ok]
  constructor
  · rintro ⟨head, hhead, h⟩
    obtain ⟨tail, htail, h⟩ := bind_eq_ok.mp h
    exact ⟨head, tail, hhead, htail, (Except.ok.inj h).symm⟩
  · rintro ⟨head, tail, hhead, htail, rfl⟩
    exact ⟨head, hhead, bind_eq_ok.mpr ⟨tail, htail, rfl⟩⟩

theorem mapM_congr {other : α → Outcome β}
    (h : ∀ item ∈ items, step item = other item) : items.mapM step = items.mapM other := by
  induction items with
  | nil => rfl
  | cons item rest ih =>
    obtain ⟨hitem, hrest⟩ := List.forall_mem_cons.mp h
    rw [List.mapM_cons, List.mapM_cons, hitem, ih hrest]

theorem mapM_eq_ok {give : α → β}
    (h : ∀ item ∈ items, step item = .ok (give item)) : items.mapM step = .ok (items.map give) :=
  (mapM_congr h).trans List.mapM_pure

/-- Results may be changed one by one, or all at the end. -/
theorem mapM_map_result {change : β → γ} (items : List α) :
    items.mapM (fun item => change <$> step item) = List.map change <$> items.mapM step := by
  induction items with
  | nil => rfl
  | cons item rest ih =>
    rw [List.mapM_cons, List.mapM_cons, ih]
    cases step item with
    | error fault => rfl
    | ok value => cases rest.mapM step <;> rfl

theorem completes_mapM
    (h : ∀ item ∈ items, Completes (step item)) : Completes (items.mapM step) := by
  induction items with
  | nil => exact completes_ok []
  | cons item rest ih =>
    obtain ⟨⟨result, hresult⟩, hrest⟩ := List.forall_mem_cons.mp h
    obtain ⟨results, hresults⟩ := ih hrest
    rw [List.mapM_cons, hresult, hresults]
    exact completes_ok (result :: results)

/-- What is seen of the results of a run that collects them is what the items give. -/
theorem map_of_mapM {view : β → γ} {give : α → γ}
    (hstep : ∀ item ∈ items, ∀ {result}, step item = .ok result → view result = give item)
    (h : items.mapM step = .ok results) : results.map view = items.map give := by
  induction items generalizing results with
  | nil =>
    cases h
    rfl
  | cons item rest ih =>
    obtain ⟨hitem, hrest⟩ := List.forall_mem_cons.mp hstep
    obtain ⟨head, tail, hhead, htail, rfl⟩ := mapM_cons_eq_ok.mp h
    rw [List.map_cons, List.map_cons, hitem hhead, ih hrest htail]

theorem map_ok_of_mapM (h : items.mapM step = .ok results) : results.map .ok = items.map step :=
  map_of_mapM (fun _ _ _ hresult => hresult.symm) h

/-- Every result of a run that collects results is that of one of its steps. -/
theorem exists_of_mem_mapM (h : items.mapM step = .ok results)
    (hmem : result ∈ results) : ∃ item ∈ items, step item = .ok result := by
  have hstep : Except.ok result ∈ items.map step := map_ok_of_mapM h ▸ List.mem_map_of_mem hmem
  exact List.mem_map.mp hstep

/-- Every step of a run that collects results has its own among them. -/
theorem exists_result_of_mapM (h : items.mapM step = .ok results) {item : α}
    (hmem : item ∈ items) : ∃ result ∈ results, step item = .ok result := by
  have hstep : step item ∈ results.map .ok := map_ok_of_mapM h ▸ List.mem_map_of_mem hmem
  obtain ⟨result, hresult, hok⟩ := List.mem_map.mp hstep
  exact ⟨result, hresult, hok.symm⟩

theorem completes_anyM {test : α → Outcome Bool}
    (h : ∀ item ∈ items, Completes (test item)) : Completes (items.anyM test) := by
  induction items with
  | nil => exact completes_ok false
  | cons item rest ih =>
    obtain ⟨⟨passed, hpassed⟩, hrest⟩ := List.forall_mem_cons.mp h
    rw [List.anyM, completes_bind_iff]
    refine ⟨passed, hpassed, ?_⟩
    cases passed with
    | true => exact completes_ok true
    | false => exact ih hrest

end Collecting

/-! ## Which faults can come -/

/-- There is a result, or one of these faults. -/
def FailsOnly (allowed : Fault → Prop) (outcome : Outcome α) : Prop :=
  ∀ fault, outcome = .error fault → allowed fault

theorem completes_iff_failsOnly :
    Completes outcome ↔ FailsOnly (fun _ => False) outcome := by
  cases outcome with
  | ok result => exact iff_of_true (completes_ok result) nofun
  | error fault => exact iff_of_false (not_completes_error fault) fun h => h fault rfl

section FailsOnly

variable {allowed : Fault → Prop}

theorem failsOnly_ok (result : α) : FailsOnly allowed (.ok result) := nofun

theorem failsOnly_error {fault : Fault} (h : allowed fault) :
    FailsOnly allowed (.error fault : Outcome α) := by
  rintro _ ⟨⟩
  exact h

theorem failsOnly_ok_bind {value : α}
    (h : outcome = .ok value) (hnext : FailsOnly allowed (next value)) :
    FailsOnly allowed (outcome >>= next) := by
  rw [h]
  exact hnext

namespace FailsOnly

theorem bind (h : FailsOnly allowed outcome)
    (hnext : ∀ value, outcome = .ok value → FailsOnly allowed (next value)) :
    FailsOnly allowed (outcome >>= next) := by
  cases outcome with
  | ok value => exact hnext value rfl
  | error fault => exact failsOnly_error (h fault rfl)

theorem map (h : FailsOnly allowed outcome) :
    FailsOnly allowed (change <$> outcome) := by
  cases outcome with
  | ok value => exact failsOnly_ok (change value)
  | error fault => exact failsOnly_error (h fault rfl)

theorem foldlM {step : σ → α → Outcome σ} {items : List α}
    (h : ∀ item ∈ items, ∀ current, FailsOnly allowed (step current item)) (start : σ) :
    FailsOnly allowed (items.foldlM step start) := by
  intro fault hfault
  obtain ⟨item, hitem, current, hstep⟩ := exists_of_foldlM_eq_error hfault
  exact h item hitem current fault hstep

theorem mapM {step : α → Outcome β} {items : List α}
    (h : ∀ item ∈ items, FailsOnly allowed (step item)) : FailsOnly allowed (items.mapM step) := by
  induction items with
  | nil => exact failsOnly_ok []
  | cons item rest ih =>
    obtain ⟨hitem, hrest⟩ := List.forall_mem_cons.mp h
    rw [List.mapM_cons]
    exact hitem.bind fun _ _ => (ih hrest).bind fun _ _ => failsOnly_ok _

end FailsOnly

end FailsOnly

end Outcome

end PrivacyScan
