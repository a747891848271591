import Mathlib.Algebra.BigOperators.Ring.Finset
import Mathlib.Data.List.Induction
import PrivacyScan.Proofs.Table

/-!
# Items grouped under keys

Items are taken one after the other, and each is added to what stands under its key. What one item
changes is said by lemmas about `update`; from them follows what a table holds after all items:

* **`mem_keys_grouped_iff`**, **`keys_grouped_pairwise`** — the keys are those of the items, in the
  order in which they first come;
* **`get?_grouped`** — under a key stands what its own items add up to, whatever comes between them;
* **`sum_grouped`** — a quantity that every item raises by its own amount is, over all keys, the sum
  of these amounts.
-/

namespace PrivacyScan.Table

variable {α ι : Type} {table : Table α} {key other : String} {first : α} {change : α → α}

/-! ## One change -/

theorem update_cons (entry : String × α) (rest : Table α) (key : String) (first : α)
    (change : α → α) :
    update (entry :: rest) key first change =
      if entry.1 == key then (entry.1, change entry.2) :: rest
      else entry :: update rest key first change := by
  unfold update
  rw [get?_cons, set]
  split
  · next hkey =>
    rw [if_pos (BEq.symm hkey)]
    rfl
  · next hkey =>
    rw [if_neg fun hother => hkey (BEq.symm hother)]

theorem keys_update (table : Table α) (key : String) (first : α) (change : α → α) :
    (table.update key first change).keys =
      if key ∈ table.keys then table.keys else table.keys ++ [key] := by
  unfold update
  split
  · next hmem => exact keys_set_of_mem hmem _
  · next hnew =>
    rw [set_eq_append hnew]
    exact List.map_append

theorem get?_update (table : Table α) (key other : String) (first : α) (change : α → α) :
    (table.update key first change).get? other =
      if other = key then some (change ((table.get? key).getD first)) else table.get? other := by
  unfold update
  split
  · next hkey => rw [hkey, get?_set_self]
  · next hkey => rw [get?_set_of_ne table _ hkey]

/-- A change raises the sum over all entries by what it raises the one entry. -/
theorem sum_update {M : Type} [AddCommMonoid M] {weigh : α → M} {amount : M}
    (hfirst : weigh first = 0) (hchange : ∀ value, weigh (change value) = weigh value + amount)
    (table : Table α) (key : String) :
    ((table.update key first change).values.map weigh).sum =
      (table.values.map weigh).sum + amount := by
  induction table with
  | nil =>
    show (List.map weigh [change first]).sum = (List.map weigh []).sum + amount
    rw [List.map_singleton, List.sum_singleton, hchange, hfirst, List.map_nil, List.sum_nil]
  | cons entry rest ih =>
    have hcons (entry : String × α) (rest : Table α) :
        ((values (entry :: rest)).map weigh).sum = weigh entry.2 + (rest.values.map weigh).sum :=
      List.sum_cons
    rw [update_cons]
    split
    · rw [hcons, hcons, hchange, add_right_comm]
    · rw [hcons, hcons, ih, add_assoc]

/-- A reading of the values that goes along with a change can be made before or after it. -/
theorem map_update {β : Type} {read : α → β} {change' : β → β}
    (hchange : ∀ value, read (change value) = change' (read value)) (table : Table α)
    (key : String) :
    (table.update key first change).map (fun entry => (entry.1, read entry.2)) =
      update (table.map fun entry => (entry.1, read entry.2)) key (read first) change' := by
  induction table with
  | nil =>
    show [(key, read (change first))] = [(key, change' (read first))]
    rw [hchange]
  | cons entry rest ih =>
    rw [update_cons, List.map_cons, update_cons]
    split
    · rw [List.map_cons, hchange]
    · rw [List.map_cons, ih]

/-! ## All items -/

/-- The items are added, one after the other, to what stands under their keys; the first one under a
key is added to `first`. -/
def grouped (keyOf : ι → String) (first : α) (add : α → ι → α) (items : List ι) : Table α :=
  items.foldl (fun table item => table.update (keyOf item) first (add · item)) []

variable {keyOf : ι → String} {add : α → ι → α}

theorem grouped_concat (items : List ι) (item : ι) :
    grouped keyOf first add (items ++ [item]) =
      (grouped keyOf first add items).update (keyOf item) first (add · item) := by
  unfold grouped
  rw [List.foldl_append]
  rfl

theorem mem_keys_grouped_iff {items : List ι} :
    key ∈ (grouped keyOf first add items).keys ↔ key ∈ items.map keyOf := by
  induction items using List.reverseRecOn with
  | nil => exact Iff.rfl
  | append_singleton items item ih =>
    rw [grouped_concat, keys_update, List.map_append, List.mem_append, ← ih, List.map_singleton,
      List.mem_singleton]
    split
    · next hmem =>
      constructor
      · exact .inl
      · rintro (hold | rfl)
        · exact hold
        · exact hmem
    · rw [List.mem_append, List.mem_singleton]

/-- The groups come in the order in which their keys first occur. -/
theorem keys_grouped_pairwise (items : List ι) :
    (grouped keyOf first add items).keys.Pairwise fun key other =>
      (items.map keyOf).idxOf key < (items.map keyOf).idxOf other := by
  induction items using List.reverseRecOn with
  | nil => exact .nil
  | append_singleton items item ih =>
    have hidx {key : String} (hkey : key ∈ (grouped keyOf first add items).keys) :
        ((items ++ [item]).map keyOf).idxOf key = (items.map keyOf).idxOf key := by
      rw [List.map_append, List.idxOf_append, if_pos (mem_keys_grouped_iff.mp hkey)]
    have hold : (grouped keyOf first add items).keys.Pairwise fun key other =>
        ((items ++ [item]).map keyOf).idxOf key < ((items ++ [item]).map keyOf).idxOf other := by
      refine ih.imp_of_mem fun hkey hother hlt => ?_
      rw [hidx hkey, hidx hother]
      exact hlt
    rw [grouped_concat, keys_update]
    split
    · exact hold
    · next hnew =>
      rw [List.pairwise_append]
      refine ⟨hold, List.pairwise_singleton _ _, fun key hkey other hother => ?_⟩
      -- an old key comes among the old items, the new one only behind them
      rw [List.mem_singleton.mp hother, hidx hkey, List.map_append, List.idxOf_append,
        if_neg (mt mem_keys_grouped_iff.mpr hnew)]
      exact Nat.lt_add_left _ (List.idxOf_lt_length_iff.mpr (mem_keys_grouped_iff.mp hkey))

theorem keys_grouped_nodup (items : List ι) : (grouped keyOf first add items).keys.Nodup :=
  (keys_grouped_pairwise items).imp fun hlt heq => by
    rw [heq] at hlt
    exact lt_irrefl _ hlt

theorem getD_grouped (items : List ι) (key : String) :
    ((grouped keyOf first add items).get? key).getD first =
      (items.filter (keyOf · == key)).foldl add first := by
  induction items using List.reverseRecOn with
  | nil => rfl
  | append_singleton items item ih =>
    rw [grouped_concat, get?_update, List.filter_append, List.foldl_append, ← ih,
      List.filter_singleton]
    split
    · next hkey =>
      rw [hkey, beq_self_eq_true]
      rfl
    · next hkey =>
      rw [beq_false_of_ne (Ne.symm hkey)]
      rfl

theorem get?_grouped {items : List ι} (hkey : key ∈ items.map keyOf) :
    (grouped keyOf first add items).get? key =
      some ((items.filter (keyOf · == key)).foldl add first) := by
  have hmem : key ∈ (grouped keyOf first add items).keys := mem_keys_grouped_iff.mpr hkey
  obtain ⟨entry, hentry, rfl⟩ := List.mem_map.mp hmem
  have hvalue : (grouped keyOf first add items).get? entry.1 = some entry.2 :=
    (get?_eq_some_iff (keys_grouped_nodup items)).mpr hentry
  rw [← getD_grouped, hvalue]
  rfl

theorem sum_grouped {M : Type} [AddCommMonoid M] (weigh : α → M) (amount : ι → M) (items : List ι)
    (hfirst : weigh first = 0)
    (hadd : ∀ value item, weigh (add value item) = weigh value + amount item) :
    ((grouped keyOf first add items).values.map weigh).sum = (items.map amount).sum := by
  induction items using List.reverseRecOn with
  | nil => rfl
  | append_singleton items item ih =>
    rw [grouped_concat, sum_update hfirst fun value => hadd value item, ih, List.map_append,
      List.sum_append, List.map_singleton, List.sum_singleton]

/-- A reading of the values that goes along with every addition can be made while grouping. -/
theorem map_grouped {β : Type} {read : α → β} {add' : β → ι → β}
    (hadd : ∀ value item, read (add value item) = add' (read value) item) (items : List ι) :
    (grouped keyOf first add items).map (fun entry => (entry.1, read entry.2)) =
      grouped keyOf (read first) add' items := by
  induction items using List.reverseRecOn with
  | nil => rfl
  | append_singleton items item ih =>
    rw [grouped_concat, grouped_concat, ← ih]
    exact map_update (fun value => hadd value item) _ _

/-- **No item is lost and none comes twice** when the items of each of some distinct keys are taken,
as long as these are all keys that items have. -/
theorem perm_flatMap_filter {names : List String} (hdistinct : names.Nodup) {items : List ι}
    (hnames : ∀ item ∈ items, keyOf item ∈ names) :
    (names.flatMap fun name => items.filter (keyOf · == name)).Perm items := by
  -- what is left for the other names are the items without the first one
  induction names generalizing items with
  | nil =>
    rw [List.eq_nil_iff_forall_not_mem.mpr fun item hitem => List.not_mem_nil (hnames item hitem)]
    rfl
  | cons name rest ih =>
    obtain ⟨hname, hrest⟩ := List.nodup_cons.mp hdistinct
    have hleft : (rest.flatMap fun other => items.filter (keyOf · == other)) =
        rest.flatMap fun other =>
          (items.filter fun item => !(keyOf item == name)).filter (keyOf · == other) := by
      refine List.flatMap_congr fun other hother => ?_
      rw [List.filter_filter]
      refine List.filter_congr fun item _ => ?_
      have hne : keyOf item = other → keyOf item ≠ name := by
        rintro hkey hsame
        rw [← hsame, hkey] at hname
        exact hname hother
      by_cases hkey : keyOf item = other
      · simp [hkey, hkey ▸ hne hkey]
      · simp [hkey]
    rw [List.flatMap_cons, hleft]
    refine (List.Perm.append_left _ (ih hrest fun item hitem => ?_)).trans
      (List.filter_append_perm (keyOf · == name) items)
    obtain ⟨hitem, hother⟩ := List.mem_filter.mp hitem
    exact (List.mem_cons.mp (hnames item hitem)).resolve_left (by simpa using hother)

/-- A table under distinct keys is told by what is read under each. -/
theorem eq_map_keys {valueOf : String → α} (hdistinct : table.keys.Nodup)
    (hread : ∀ key ∈ table.keys, table.get? key = some (valueOf key)) :
    table = table.keys.map fun key => (key, valueOf key) := by
  unfold keys
  rw [List.map_map]
  refine (List.map_id _).symm.trans (List.map_congr_left fun entry hentry => ?_)
  have hvalue : table.get? entry.1 = some entry.2 := (get?_eq_some_iff hdistinct).mpr hentry
  rw [hread entry.1 (List.mem_map_of_mem hentry)] at hvalue
  exact Prod.ext rfl (Option.some.inj hvalue).symm

end PrivacyScan.Table
