import PrivacyScan.Table

/-!
# Reading a table after a change
-/

namespace PrivacyScan.Table

variable {α β : Type} {table : Table α} {key other : String} {value : α}

theorem get?_cons (entry : String × α) (table : Table α) (key : String) :
    get? (entry :: table) key = if key == entry.1 then some entry.2 else get? table key := by
  unfold get?
  rw [List.lookup_cons]
  cases key == entry.1 <;> rfl

theorem get?_set_self (table : Table α) (key : String) (value : α) :
    (table.set key value).get? key = some value := by
  induction table with
  | nil => simp [set, get?_cons]
  | cons entry rest ih =>
    unfold set
    split
    · next hkey =>
      rw [get?_cons, if_pos]
      exact BEq.symm hkey
    · next hkey =>
      rw [get?_cons, if_neg, ih]
      intro hother
      exact hkey (BEq.symm hother)

theorem get?_set_of_ne (table : Table α) (value : α) (hne : other ≠ key) :
    (table.set key value).get? other = table.get? other := by
  induction table with
  | nil =>
    rw [set, get?_cons, if_neg]
    simpa using hne
  | cons entry rest ih =>
    unfold set
    split
    · next hkey =>
      have hentry : ¬ (other == entry.1) = true := by
        rw [beq_iff_eq, eq_of_beq hkey]
        exact hne
      rw [get?_cons, get?_cons, if_neg hentry, if_neg hentry]
    · rw [get?_cons, get?_cons, ih]

theorem set_eq_self (h : table.get? key = some value) : table.set key value = table := by
  induction table with
  | nil => cases h
  | cons entry rest ih =>
    rw [get?_cons] at h
    unfold set
    split
    · next hkey =>
      rw [if_pos (BEq.symm hkey)] at h
      rw [← Option.some.inj h]
    · next hkey =>
      rw [if_neg (fun hother => hkey (BEq.symm hother))] at h
      rw [ih h]

/-- What is in a table after an entry was in it before, or is the entry. -/
theorem mem_or_eq_of_mem_set {entry : String × α} (h : entry ∈ table.set key value) :
    entry ∈ table ∨ entry = (key, value) := by
  induction table with
  | nil =>
    rw [set, List.mem_singleton] at h
    exact .inr h
  | cons first rest ih =>
    unfold set at h
    split at h
    · next hkey =>
      rcases List.mem_cons.mp h with hfirst | hrest
      · rw [eq_of_beq hkey] at hfirst
        exact .inr hfirst
      · exact .inl (List.mem_cons_of_mem _ hrest)
    · rcases List.mem_cons.mp h with rfl | hrest
      · exact .inl List.mem_cons_self
      · exact (ih hrest).imp_left (List.mem_cons_of_mem _)

theorem mem_of_get? (h : table.get? key = some value) : (key, value) ∈ table := by
  induction table with
  | nil => cases h
  | cons entry rest ih =>
    rw [get?_cons] at h
    split at h
    · next hkey =>
      rw [eq_of_beq hkey, ← Option.some.inj h]
      exact List.mem_cons_self
    · exact List.mem_cons_of_mem _ (ih h)

theorem get?_eq_none (h : key ∉ table.keys) : table.get? key = none := by
  rw [get?, List.lookup_eq_none_iff]
  intro entry hentry
  rw [bne_iff_ne]
  rintro rfl
  exact h (List.mem_map_of_mem hentry)

theorem get?_eq_some_iff (hdistinct : table.keys.Nodup) :
    table.get? key = some value ↔ (key, value) ∈ table := by
  refine ⟨mem_of_get?, fun hmem => ?_⟩
  induction table with
  | nil => cases hmem
  | cons entry rest ih =>
    obtain ⟨hnew, hrest⟩ := List.nodup_cons.mp hdistinct
    rw [get?_cons]
    rcases List.mem_cons.mp hmem with rfl | hmem
    · exact if_pos (beq_self_eq_true key)
    · have hother : ¬ (key == entry.1) = true := by
        rw [beq_iff_eq]
        rintro rfl
        exact hnew (List.mem_map.mpr ⟨_, hmem, rfl⟩)
      rw [if_neg hother, ih hrest hmem]

theorem get?_map (valueOf : String → α) (keys : List String) (key : String) :
    get? (keys.map fun key => (key, valueOf key)) key =
      if key ∈ keys then some (valueOf key) else none := by
  induction keys with
  | nil => rfl
  | cons first rest ih =>
    rw [List.map_cons, get?_cons, ih]
    by_cases hfirst : key = first <;> simp [hfirst]

theorem hasKey_set_self (table : Table α) (key : String) (value : α) :
    (table.set key value).hasKey key = true := by
  rw [hasKey, get?_set_self]
  rfl

theorem hasKey_set (h : table.hasKey other = true) (key : String) (value : α) :
    (table.set key value).hasKey other = true := by
  by_cases hkey : other = key
  · rw [hkey]
    exact hasKey_set_self table key value
  · rw [hasKey, get?_set_of_ne table value hkey]
    exact h

theorem set_eq_append (hnew : key ∉ table.keys) (value : α) :
    table.set key value = table ++ [(key, value)] := by
  induction table with
  | nil => rfl
  | cons entry rest ih =>
    obtain ⟨hentry, hrest⟩ : key ≠ entry.1 ∧ key ∉ keys rest := by
      simpa [keys] using hnew
    have hother : ¬ (entry.1 == key) = true := by
      rw [beq_iff_eq]
      exact Ne.symm hentry
    rw [set, if_neg hother, ih hrest]
    rfl

theorem keys_set_of_mem (hmem : key ∈ table.keys) (value : α) :
    (table.set key value).keys = table.keys := by
  induction table with
  | nil => cases hmem
  | cons entry rest ih =>
    rw [set]
    split
    · rfl
    · next hkey =>
      have hrest : key ∈ keys rest := by
        refine (List.mem_cons.mp hmem).resolve_left fun heq => hkey ?_
        exact beq_iff_eq.mpr heq.symm
      show entry.1 :: keys (set key value rest) = entry.1 :: keys rest
      rw [ih hrest]

theorem keys_set_nodup (hdistinct : table.keys.Nodup) (key : String) (value : α) :
    (table.set key value).keys.Nodup := by
  by_cases hkey : key ∈ table.keys
  · rw [keys_set_of_mem hkey]
    exact hdistinct
  · have hkeys : (table ++ [(key, value)]).keys = table.keys ++ [key] := List.map_append
    rw [set_eq_append hkey, hkeys, List.nodup_append]
    refine ⟨hdistinct, by simp, fun name hname other hother => ?_⟩
    rw [List.mem_singleton.mp hother]
    rintro rfl
    exact hkey hname

theorem pairwise_idxOf {items : List β} [DecidableEq β] (hdistinct : items.Nodup) :
    items.Pairwise fun item other => items.idxOf item < items.idxOf other := by
  rw [List.pairwise_iff_getElem]
  intro i j hi hj hlt
  rw [hdistinct.idxOf_getElem, hdistinct.idxOf_getElem]
  exact hlt

/-- Entries under distinct keys stand in the order of their keys. -/
theorem pairwise_idxOf_keys (hdistinct : table.keys.Nodup) :
    table.Pairwise fun entry other => table.keys.idxOf entry.1 < table.keys.idxOf other.1 :=
  (List.pairwise_map (f := Prod.fst)).mp (pairwise_idxOf hdistinct)

/-- Where only the entry under one key gives something, all entries give what this one does. -/
theorem flatMap_eq_of_key {β : Type} {give : String × α → List β} (hdistinct : table.keys.Nodup)
    (hother : ∀ entry ∈ table, entry.1 ≠ key → give entry = []) :
    table.flatMap give = ((table.get? key).map fun value => give (key, value)).getD [] := by
  induction table with
  | nil => rfl
  | cons entry rest ih =>
    obtain ⟨hnew, hrest⟩ := List.nodup_cons.mp hdistinct
    obtain ⟨hentry, hothers⟩ := List.forall_mem_cons.mp hother
    rw [List.flatMap_cons, get?_cons]
    by_cases hkey : entry.1 = key
    · -- no further entry has this key
      have hnone : rest.flatMap give = [] := by
        rw [List.flatMap_eq_nil_iff]
        refine fun further hfurther => hothers further hfurther fun heq => hnew ?_
        exact List.mem_map.mpr ⟨further, hfurther, heq.trans hkey.symm⟩
      rw [hnone, List.append_nil, if_pos (beq_iff_eq.mpr hkey.symm), ← hkey]
      rfl
    · rw [hentry hkey, List.nil_append, ih hrest hothers, if_neg]
      rw [beq_iff_eq]
      exact Ne.symm hkey

theorem find?_key_eq_some_iff {ι : Type} {keyOf : ι → String} {items : List ι} {item : ι} :
    items.find? (keyOf · == key) = some item ↔
      keyOf item = key ∧ ∃ before after, items = before ++ item :: after ∧
        ∀ earlier ∈ before, keyOf earlier ≠ key := by
  simp [List.find?_eq_some_iff_append]

/-! ## Entering one value after the other -/

/-- What the step for one item brings about and no other step undoes holds at the end of a run with
this item, whatever else the steps keep. -/
theorem foldl_holds_of_mem {σ ι : Type} {step : σ → ι → σ} {items : List ι} {item : ι}
    (keeps holds : σ → Prop) (hmem : item ∈ items)
    (hkeeps : ∀ other ∈ items, ∀ state, keeps state → keeps (step state other))
    (hitem : ∀ state, keeps state → holds (step state item))
    (hother : ∀ other ∈ items, other ≠ item → ∀ state, keeps state → holds state →
      holds (step state other))
    {start : σ} (hstart : keeps start) : holds (items.foldl step start) := by
  induction items generalizing start with
  | nil => cases hmem
  | cons first rest ih =>
    have hnext : keeps (step start first) := hkeeps first List.mem_cons_self start hstart
    have hrestKeeps (other : ι) (h : other ∈ rest) := hkeeps other (List.mem_cons_of_mem _ h)
    have hrestOther (other : ι) (h : other ∈ rest) := hother other (List.mem_cons_of_mem _ h)
    rw [List.foldl_cons]
    by_cases hrest : item ∈ rest
    · exact ih hrest hrestKeeps hrestOther hnext
    · -- the step for the item is the first one, and it does not come again
      obtain rfl : item = first := (List.mem_cons.mp hmem).resolve_right hrest
      refine (List.foldlRecOn (motive := fun state => keeps state ∧ holds state) rest step
        ⟨hnext, hitem start hstart⟩ fun state hstate other h => ?_).2
      have hne : other ≠ item := fun heq => hrest (heq ▸ h)
      exact ⟨hrestKeeps other h state hstate.1, hrestOther other h hne state hstate.1 hstate.2⟩

theorem get?_enterAll_of_unique {keyOf : α → String} {items : List α} {item : α}
    (hmem : item ∈ items) (hunique : ∀ other ∈ items, keyOf other = keyOf item → other = item)
    (table : Table α) :
    (items.foldl (fun table item => table.set (keyOf item) item) table).get? (keyOf item) =
      some item := by
  refine foldl_holds_of_mem (fun _ => True)
    (fun table : Table α => table.get? (keyOf item) = some item) hmem (fun _ _ _ _ => trivial)
    (fun table _ => ?item) (fun other hother hne table _ htable => ?other) trivial
  case item => exact get?_set_self table (keyOf item) item
  case other =>
    rw [get?_set_of_ne table other fun hkey => hne (hunique other hother hkey.symm), htable]

end PrivacyScan.Table
