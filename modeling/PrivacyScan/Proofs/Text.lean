import PrivacyScan.Text.Search

/-!
# Texts in order, cut and joined

What a text is cut into at a separator, and what joining gives back. At a single character cutting
is the library's `List.splitOn` (`split_eq`), so its lemmas apply; for separators of several
characters the scan is followed by hand, up to the first place where one can begin.
-/

namespace PrivacyScan.Text

theorem mem_insertSorted {text other : String} {texts : List String} :
    other ∈ insertSorted text texts ↔ other = text ∨ other ∈ texts := by
  induction texts with
  | nil => simp [insertSorted]
  | cons first rest ih =>
    unfold insertSorted
    split
    · simp
    · split
      · next heq =>
        rw [heq]
        simp
      · rw [List.mem_cons, ih, List.mem_cons]
        exact or_left_comm

theorem mem_sortedDistinct {text : String} {texts : List String} :
    text ∈ sortedDistinct texts ↔ text ∈ texts := by
  induction texts with
  | nil => exact Iff.rfl
  | cons first rest ih =>
    show text ∈ insertSorted first (sortedDistinct rest) ↔ _
    rw [mem_insertSorted, ih, List.mem_cons]

/-- A text is inserted in its place, and once. -/
theorem insertSorted_pairwise {text : String} {texts : List String} (h : texts.Pairwise (· < ·)) :
    (insertSorted text texts).Pairwise (· < ·) := by
  induction texts with
  | nil => exact List.pairwise_singleton ..
  | cons first rest ih =>
    obtain ⟨hfirst, hrest⟩ := List.pairwise_cons.mp h
    unfold insertSorted
    split
    · next hsmaller =>
      refine List.pairwise_cons.mpr ⟨fun other hother => ?_, h⟩
      rcases List.mem_cons.mp hother with rfl | hother
      · exact hsmaller
      · exact String.lt_trans hsmaller (hfirst other hother)
    · next hsmaller =>
      split
      · exact h
      · next hne =>
        have hlarger : first < text :=
          Classical.byContradiction fun hnot =>
            hne (String.le_antisymm (String.not_lt.mp hnot) (String.not_lt.mp hsmaller))
        refine List.pairwise_cons.mpr ⟨fun other hother => ?_, ih hrest⟩
        rcases mem_insertSorted.mp hother with rfl | hother
        · exact hlarger
        · exact hfirst other hother

theorem sortedDistinct_pairwise (texts : List String) :
    (sortedDistinct texts).Pairwise (· < ·) := by
  induction texts with
  | nil => exact .nil
  | cons first rest ih => exact insertSorted_pairwise ih

theorem sortedDistinct_nodup (texts : List String) : (sortedDistinct texts).Nodup := by
  refine (sortedDistinct_pairwise texts).imp ?_
  rintro text _ hless rfl
  exact String.lt_irrefl text hless

/-- Which texts are put in order decides the result, not how often or where each comes. -/
theorem sortedDistinct_eq_iff {texts others : List String} :
    sortedDistinct texts = sortedDistinct others ↔ ∀ text, text ∈ texts ↔ text ∈ others := by
  constructor
  · intro heq text
    rw [← mem_sortedDistinct, heq, mem_sortedDistinct]
  · intro hsame
    have hperm : (sortedDistinct texts).Perm (sortedDistinct others) := by
      rw [List.perm_ext_iff_of_nodup (sortedDistinct_nodup _) (sortedDistinct_nodup _)]
      simpa only [mem_sortedDistinct] using hsame
    refine hperm.eq_of_pairwise ?_ (sortedDistinct_pairwise _) (sortedDistinct_pairwise _)
    exact fun text other _ _ hless hgreater => absurd hgreater (String.lt_asymm hless)

/-! ## Cutting and joining at a character -/

theorem slash_toList : "/".toList = ['/'] := rfl

section Mark

variable {separator text before after : String} {parts : List String} {mark : Char}
  (hmark : separator.toList = [mark])

theorem splitList_eq_splitOnPPrepend (mark : Char) (part text : List Char) :
    splitList [mark] 0 part text = text.splitOnPPrepend (· == mark) part := by
  induction text generalizing part with
  | nil => rfl
  | cons c rest ih =>
    have hmark : (!List.isEmpty [mark] && [mark].isPrefixOf (c :: rest)) = (c == mark) := by
      rw [Bool.beq_comm]
      simp [List.isPrefixOf]
    rw [List.splitOnPPrepend_cons_eq_if, List.splitOnP_eq_splitOnPPrepend, ← ih, ← ih, splitList,
      hmark]
    rfl

/-- No part of a split text has the mark that it was split at. -/
theorem not_mem_of_mem_splitOnPPrepend {done text part : List Char}
    (hdone : mark ∉ done) (h : part ∈ text.splitOnPPrepend (· == mark) done) : mark ∉ part := by
  induction text generalizing done with
  | nil =>
    rw [List.splitOnPPrepend_nil, List.mem_singleton] at h
    rw [h, List.mem_reverse]
    exact hdone
  | cons c rest ih =>
    rw [List.splitOnPPrepend_cons_eq_if, List.splitOnP_eq_splitOnPPrepend] at h
    split at h
    · rcases List.mem_cons.mp h with rfl | hrest
      · rw [List.mem_reverse]
        exact hdone
      · exact ih List.not_mem_nil hrest
    · next hother =>
      have hne : mark ≠ c := fun heq => hother (beq_iff_eq.mpr heq.symm)
      exact ih (List.not_mem_cons_of_ne_of_not_mem hne hdone) h

include hmark

theorem split_eq (text : String) :
    split text separator = (text.toList.splitOn mark).map String.ofList := by
  unfold split
  rw [hmark, splitList_eq_splitOnPPrepend]
  rfl

theorem toList_join (parts : List String) :
    (join separator parts).toList = [mark].intercalate (parts.map String.toList) := by
  unfold join
  rw [String.toList_intercalate, hmark]

/-- The parts of a text do not have the mark at which it was cut. -/
theorem not_mem_of_mem_split {part : String} (h : part ∈ split text separator) :
    mark ∉ part.toList := by
  rw [split_eq hmark, List.mem_map] at h
  obtain ⟨chars, hchars, rfl⟩ := h
  rw [String.toList_ofList]
  exact not_mem_of_mem_splitOnPPrepend List.not_mem_nil hchars

theorem length_split (text : String) :
    (split text separator).length = text.toList.count mark + 1 := by
  have hparts (part chars : List Char) :
      (splitList [mark] 0 part chars).length = chars.count mark + 1 := by
    induction chars generalizing part with
    | nil => rfl
    | cons c rest ih =>
      rw [splitList_eq_splitOnPPrepend, List.splitOnPPrepend_cons_eq_if,
        List.splitOnP_eq_splitOnPPrepend, ← splitList_eq_splitOnPPrepend,
        ← splitList_eq_splitOnPPrepend, List.count_cons]
      split
      · rw [List.length_cons, ih]
      · rw [ih, Nat.add_zero]
  rw [split, List.length_map, hmark, hparts]

/-- What was cut is joined again to the same text. -/
theorem join_split (text : String) : join separator (split text separator) = text := by
  apply String.toList_injective
  rw [toList_join hmark, split_eq hmark, List.map_map]
  have hback : String.toList ∘ String.ofList = id := by
    funext chars
    simp
  rw [hback, List.map_id, List.intercalate_splitOn]

/-- What was joined is cut again into its parts, each of them cut as well. -/
theorem split_join (hparts : parts ≠ []) :
    split (join separator parts) separator = parts.flatMap (split · separator) := by
  rw [split_eq hmark, toList_join hmark]
  induction parts with
  | nil => cases hparts rfl
  | cons part rest ih =>
    cases rest with
    | nil => simp [split_eq hmark]
    | cons next rest =>
      -- the library's split finds the joint behind the first part
      have hrest := ih (List.cons_ne_nil next rest)
      rw [List.map_cons, List.map_cons, List.intercalate_cons_cons, List.append_assoc,
        List.singleton_append, List.splitOn_append_cons_self, List.map_append, List.flatMap_cons,
        ← hrest, split_eq hmark, List.map_cons]

theorem join_eq_join_iff {others : List String} (hparts : parts ≠ []) (hothers : others ≠ []) :
    join separator parts = join separator others ↔
      parts.flatMap (split · separator) = others.flatMap (split · separator) := by
  rw [← split_join hmark hparts, ← split_join hmark hothers]
  constructor
  · exact fun hjoined => by rw [hjoined]
  · intro hsplit
    rw [← join_split hmark (join separator parts), hsplit, join_split hmark]

/-- Between two parts there is the mark. -/
theorem mem_join_cons_cons_iff {c : Char} {first second : String} {rest : List String} :
    c ∈ (join separator (first :: second :: rest)).toList ↔
      c ∈ first.toList ∨ c = mark ∨ c ∈ (join separator (second :: rest)).toList := by
  rw [toList_join hmark, toList_join hmark, List.map_cons, List.map_cons,
    List.intercalate_cons_cons]
  simp

/-- A character of a joined text is the mark or comes from a part. -/
theorem of_mem_join {c : Char} (h : c ∈ (join separator parts).toList) :
    c = mark ∨ ∃ part ∈ parts, c ∈ part.toList := by
  induction parts with
  | nil => cases h
  | cons part rest ih =>
    cases rest with
    | nil => exact .inr ⟨part, List.mem_cons_self, h⟩
    | cons next rest =>
      rcases (mem_join_cons_cons_iff hmark).mp h with hpart | heq | hrest
      · exact .inr ⟨part, List.mem_cons_self, hpart⟩
      · exact .inl heq
      · refine (ih hrest).imp_right ?_
        rintro ⟨other, hother, hmem⟩
        exact ⟨other, List.mem_cons_of_mem _ hother, hmem⟩

/-- A joined text has all characters of its parts. -/
theorem mem_join_of_mem {part : String} {c : Char} (hpart : part ∈ parts)
    (hc : c ∈ part.toList) : c ∈ (join separator parts).toList := by
  induction parts with
  | nil => cases hpart
  | cons first rest ih =>
    cases rest with
    | nil =>
      obtain rfl := List.mem_singleton.mp hpart
      exact hc
    | cons next rest =>
      refine (mem_join_cons_cons_iff hmark).mpr ?_
      rcases List.mem_cons.mp hpart with rfl | hlater
      · exact .inl hc
      · exact .inr (.inr (ih hlater))

theorem mark_mem_join (first second : String) (rest : List String) :
    mark ∈ (join separator (first :: second :: rest)).toList :=
  (mem_join_cons_cons_iff hmark).mpr (.inr (.inl rfl))

theorem join_eq_empty_iff (hfull : ∀ part ∈ parts, part ≠ "") :
    join separator parts = "" ↔ parts = [] := by
  match parts with
  | [] => simp [join]
  | [part] =>
    have hpart : part ≠ "" := hfull part List.mem_cons_self
    simpa [join] using hpart
  | first :: second :: rest =>
    refine iff_of_false (fun hempty => ?_) (List.cons_ne_nil _ _)
    have hmem := mark_mem_join hmark first second rest
    rw [hempty] at hmem
    cases hmem

theorem split_eq_singleton (hfree : mark ∉ text.toList) :
    split text separator = [text] := by
  rw [split_eq hmark, List.splitOn_eq_singleton hfree]
  simp

theorem flatMap_split_eq_self (hfree : ∀ part ∈ parts, mark ∉ part.toList) :
    parts.flatMap (split · separator) = parts := by
  induction parts with
  | nil => rfl
  | cons part rest ih =>
    rw [List.flatMap_cons, split_eq_singleton hmark (hfree part List.mem_cons_self),
      ih fun other hother => hfree other (List.mem_cons_of_mem _ hother)]
    rfl

/-- What is appended without a mark belongs to the last part. -/
theorem split_append {tail last : String} {front : List String}
    (hsplit : split text separator = front ++ [last]) (hfree : mark ∉ tail.toList) :
    split (text ++ tail) separator = front ++ [last ++ tail] := by
  have hparts : ∀ part ∈ front ++ [last ++ tail], mark ∉ part.toList := by
    have hmem (part : String) (hpart : part ∈ front ++ [last]) : mark ∉ part.toList :=
      not_mem_of_mem_split hmark (hsplit ▸ hpart)
    intro part hpart
    rcases List.mem_append.mp hpart with hfront | hlast
    · exact hmem part (List.mem_append_left _ hfront)
    · rw [List.mem_singleton.mp hlast, String.toList_append, List.mem_append, not_or]
      exact ⟨hmem last (by simp), hfree⟩
  have hjoined : text ++ tail = join separator (front ++ [last ++ tail]) := by
    rw [← join_split hmark text, hsplit]
    unfold join
    by_cases hfront : front = []
    · simp [hfront]
    · rw [String.intercalate_append_of_ne_nil hfront (List.cons_ne_nil _ _),
        String.intercalate_append_of_ne_nil hfront (List.cons_ne_nil _ _),
        String.intercalate_singleton, String.intercalate_singleton, String.append_assoc,
        String.append_assoc]
  rw [hjoined, split_join hmark (by simp), flatMap_split_eq_self hmark hparts]

theorem split_ne_nil (text : String) : split text separator ≠ [] := by
  rw [split_eq hmark, ne_eq, List.map_eq_nil_iff]
  exact List.splitOn_ne_nil _ _

/-- A text is what stands before the last mark, the mark, and the rest. -/
theorem eq_of_cutLast? (h : cutLast? text separator = some (before, after)) :
    text = before ++ separator ++ after := by
  unfold cutLast? at h
  split at h
  · next last first rest hreverse =>
    obtain ⟨rfl, rfl⟩ := Prod.mk.inj (Option.some.inj h)
    have hsplit : split text separator = (first :: rest).reverse ++ [last] := by
      rw [← List.reverse_inj, hreverse]
      simp
    have hfront : (first :: rest).reverse ≠ [] := by simp
    rw [← join_split hmark text, hsplit]
    unfold join
    rw [String.intercalate_append_of_ne_nil hfront (List.cons_ne_nil _ _),
      String.intercalate_singleton]
  · cases h

theorem not_mem_of_cutLast?
    (h : cutLast? text separator = some (before, after)) : mark ∉ after.toList := by
  unfold cutLast? at h
  split at h
  · next last first rest hreverse =>
    obtain ⟨rfl, rfl⟩ := Prod.mk.inj (Option.some.inj h)
    have hlast : last ∈ (split text separator).reverse := by simp [hreverse]
    exact not_mem_of_mem_split hmark (List.mem_reverse.mp hlast)
  · cases h

/-- A text is cut before a part that does not have the mark. -/
theorem cutLast?_append (hfree : mark ∉ after.toList) :
    cutLast? (before ++ separator ++ after) separator = some (before, after) := by
  have hjoined : before ++ separator ++ after = join separator [before, after] := by
    simp [join, String.append_assoc]
  have hsplit : split (before ++ separator ++ after) separator =
      split before separator ++ [after] := by
    rw [hjoined, split_join hmark (List.cons_ne_nil _ _)]
    simp [split_eq_singleton hmark hfree]
  unfold cutLast?
  rw [hsplit, List.reverse_append, List.reverse_singleton, List.singleton_append]
  have hback : before = join separator (split before separator).reverse.reverse := by
    rw [List.reverse_reverse, join_split hmark]
  cases hreverse : (split before separator).reverse with
  | nil => exact absurd (List.reverse_eq_nil_iff.mp hreverse) (split_ne_nil hmark before)
  | cons first rest =>
    rw [hreverse] at hback
    dsimp only
    rw [← hback]

end Mark

/-! ## The first occurrence of a separator -/

section Search

variable {mark : Char} {needle : List Char} {text separator : String}

/-- The first place is found where nothing before it begins like what is looked for. -/
theorem findFrom?_append {before : List Char} (hbefore : mark ∉ before) (position : Nat)
    (after : List Char) :
    findFrom? (mark :: needle) position (before ++ (mark :: needle ++ after)) =
      some (position + before.length) := by
  induction before generalizing position with
  | nil =>
    have hhere : (mark :: needle).isPrefixOf (mark :: (needle ++ after)) = true :=
      List.isPrefixOf_iff_prefix.mpr (List.prefix_append (mark :: needle) after)
    rw [List.nil_append, List.cons_append, findFrom?, if_pos hhere]
    rfl
  | cons c before ih =>
    obtain ⟨hc, hrest⟩ := List.ne_and_not_mem_of_not_mem_cons hbefore
    have hlater : ¬ (mark :: needle).isPrefixOf
        (c :: (before ++ (mark :: needle ++ after))) = true := by
      rw [List.isPrefixOf_iff_prefix]
      exact fun hstarts => hc (List.cons_prefix_cons.mp hstarts).1
    rw [List.cons_append, findFrom?, if_neg hlater, ih hrest, List.length_cons]
    congr 1
    omega

theorem findFrom?_eq_none {text : List Char} (hnone : ¬ needle <:+: text) (position : Nat) :
    findFrom? needle position text = none := by
  induction text generalizing position with
  | nil =>
    have hsome : ¬ needle.isEmpty = true := by
      rw [List.isEmpty_iff]
      rintro rfl
      exact hnone (List.nil_infix)
    rw [findFrom?, if_neg hsome]
  | cons c rest ih =>
    have hhere : ¬ needle.isPrefixOf (c :: rest) = true := by
      rw [List.isPrefixOf_iff_prefix]
      exact fun hstarts => hnone hstarts.isInfix
    rw [findFrom?, if_neg hhere, ih fun hinfix => hnone (List.infix_cons hinfix)]

/-- A text is cut behind a part that does not have the first character of the separator. -/
theorem cut?_append {before : String} (hmark : separator.toList = mark :: needle)
    (hbefore : mark ∉ before.toList) (after : String) :
    cut? (before ++ separator ++ after) separator = some (before, after) := by
  have hfind : find? (before ++ separator ++ after) separator = some before.toList.length := by
    unfold find?
    rw [String.toList_append, String.toList_append, hmark, List.append_assoc,
      findFrom?_append hbefore, Nat.zero_add]
  unfold cut? take drop length
  rw [hfind]
  simp

theorem cut?_eq_none (hnone : ¬ separator.toList <:+: text.toList) :
    cut? text separator = none := by
  unfold cut? find?
  rw [findFrom?_eq_none hnone]
  rfl

/-- The text before a mark, whether the mark is found or not. -/
theorem toList_before (hmark : separator.toList = [mark]) (text : String) :
    (before text separator).toList = text.toList.takeWhile (· != mark) := by
  have hkept {front : List Char} (hfront : mark ∉ front) : ∀ c ∈ front, (c != mark) = true :=
    fun c hc => bne_iff_ne.mpr fun heq => hfront (heq ▸ hc)
  by_cases hmem : mark ∈ text.toList
  · obtain ⟨front, back, htext, hfront⟩ := List.eq_append_cons_of_mem hmem
    have happend : text = String.ofList front ++ separator ++ String.ofList back :=
      String.toList_injective (by simp [htext, hmark])
    have hcut : cut? text separator = some (String.ofList front, String.ofList back) := by
      rw [happend]
      exact cut?_append hmark (by simpa using hfront) _
    simp [before, hcut, htext, List.takeWhile_append_of_pos (hkept hfront)]
  · have hcut : cut? text separator = none :=
      cut?_eq_none fun hpart => hmem (hpart.subset (by simp [hmark]))
    have hall : (text.toList ++ []).takeWhile (· != mark) = text.toList ++ [] :=
      List.takeWhile_append_of_pos (hkept hmem)
    simpa [before, hcut] using hall.symm

theorem hasInfix_iff {text : List Char} : hasInfix needle text = true ↔ needle <:+: text := by
  induction text with
  | nil => rw [hasInfix, List.isEmpty_iff, List.infix_nil]
  | cons c rest ih =>
    rw [hasInfix, Bool.or_eq_true, List.isPrefixOf_iff_prefix, ih, List.infix_cons_iff]

theorem containsAny_iff {needles : List String} :
    containsAny text needles = true ↔ ∃ word ∈ needles, word.toList <:+: text.toList := by
  unfold containsAny contains
  rw [List.any_eq_true]
  simp only [hasInfix_iff]

/-! ### Cutting at a separator of several characters -/

theorem splitList_skip (separator part passed text : List Char) :
    splitList separator passed.length part (passed ++ text) = splitList separator 0 part text := by
  induction passed with
  | nil => rfl
  | cons c passed ih =>
    rw [List.length_cons, List.cons_append, splitList]
    exact ih

theorem splitList_cons_of_ne {c : Char} (hc : mark ≠ c) (part text : List Char) :
    splitList (mark :: needle) 0 part (c :: text) =
      splitList (mark :: needle) 0 (c :: part) text := by
  have hlater : (mark :: needle).isPrefixOf (c :: text) = false := by
    rw [Bool.eq_false_iff, ne_eq, List.isPrefixOf_iff_prefix]
    exact fun hstarts => hc (List.cons_prefix_cons.mp hstarts).1
  rw [splitList, hlater]
  rfl

theorem splitList_append {before : List Char} (hbefore : mark ∉ before) (part after : List Char) :
    splitList (mark :: needle) 0 part (before ++ (mark :: needle ++ after)) =
      (part.reverse ++ before) :: splitList (mark :: needle) 0 [] after := by
  induction before generalizing part with
  | nil =>
    have hhere : (mark :: needle).isPrefixOf (mark :: (needle ++ after)) = true :=
      List.isPrefixOf_iff_prefix.mpr (List.prefix_append (mark :: needle) after)
    rw [List.nil_append, List.cons_append, splitList, hhere, List.append_nil]
    exact congrArg _ (splitList_skip (mark :: needle) [] needle after)
  | cons c before ih =>
    obtain ⟨hc, hrest⟩ := List.ne_and_not_mem_of_not_mem_cons hbefore
    rw [List.cons_append, splitList_cons_of_ne hc, ih hrest]
    simp

theorem splitList_eq_singleton {text : List Char} (hfree : mark ∉ text) (part : List Char) :
    splitList (mark :: needle) 0 part text = [part.reverse ++ text] := by
  induction text generalizing part with
  | nil => simp [splitList]
  | cons c text ih =>
    obtain ⟨hc, hrest⟩ := List.ne_and_not_mem_of_not_mem_cons hfree
    rw [splitList_cons_of_ne hc, ih hrest]
    simp

/-- A text is cut in two where its parts do not have the first character of the separator. -/
theorem split_eq_pair {before after : String} (hmark : separator.toList = mark :: needle)
    (hbefore : mark ∉ before.toList) (hafter : mark ∉ after.toList) :
    split (before ++ separator ++ after) separator = [before, after] := by
  unfold split
  rw [String.toList_append, String.toList_append, hmark, List.append_assoc,
    splitList_append hbefore, splitList_eq_singleton hafter]
  simp

theorem splitList_ne_nil (separator : List Char) (skip : Nat) (part text : List Char) :
    splitList separator skip part text ≠ [] := by
  induction text generalizing skip part with
  | nil => exact List.cons_ne_nil _ _
  | cons c text ih =>
    unfold splitList
    split
    · exact ih _ _
    · split
      · exact List.cons_ne_nil _ _
      · exact ih _ _

/-- A text is split in two or more exactly where the separator is in it. -/
theorem two_le_length_splitList_iff (part text : List Char) :
    2 ≤ (splitList (mark :: needle) 0 part text).length ↔ (mark :: needle) <:+: text := by
  induction text generalizing part with
  | nil => simp [splitList]
  | cons c text ih =>
    rw [List.infix_cons_iff, splitList]
    by_cases hhere : (mark :: needle).isPrefixOf (c :: text) = true
    · have hlater := List.length_pos_iff.mpr
        (splitList_ne_nil (mark :: needle) ((mark :: needle).length - 1) [] text)
      have hcut :
          (!(mark :: needle).isEmpty && (mark :: needle).isPrefixOf (c :: text)) = true := by
        rw [hhere]
        rfl
      rw [if_pos hcut, List.length_cons]
      exact ⟨fun _ => .inl (List.isPrefixOf_iff_prefix.mp hhere), fun _ => by omega⟩
    · rw [Bool.not_eq_true] at hhere
      rw [hhere, ← ih (c :: part)]
      simp [← List.isPrefixOf_iff_prefix, hhere]

theorem two_le_length_split_iff (hmark : separator.toList = mark :: needle) :
    2 ≤ (split text separator).length ↔ contains text separator = true := by
  unfold split contains
  rw [List.length_map, hmark, two_le_length_splitList_iff, hasInfix_iff]

end Search

/-! ## Replacing a character -/

theorem intercalate_splitOnPPrepend (mark other : Char) (done text : List Char) :
    [other].intercalate (text.splitOnPPrepend (· == mark) done) =
      done.reverse ++ text.map fun c => if c = mark then other else c := by
  induction text generalizing done with
  | nil => simp [List.splitOnPPrepend_nil]
  | cons c rest ih =>
    rw [List.splitOnPPrepend_cons_eq_if, List.map_cons]
    by_cases hc : c = mark
    · rw [if_pos (beq_iff_eq.mpr hc), if_pos hc,
        List.intercalate_cons_of_ne_nil (List.splitOnP_ne_nil _ _),
          List.splitOnP_eq_splitOnPPrepend, ih]
      simp
    · rw [if_neg (by simpa using hc), if_neg hc, ih]
      simp

theorem toList_replace {old new : String} {mark other : Char} (hold : old.toList = [mark])
    (hnew : new.toList = [other]) (text : String) :
    (replace text old new).toList = text.toList.map fun c => if c = mark then other else c := by
  have hback : String.toList ∘ String.ofList = id := by
    funext chars
    simp
  unfold replace
  rw [toList_join hnew, split_eq hold, List.map_map, hback, List.map_id]
  exact intercalate_splitOnPPrepend mark other [] text.toList

/-! ## What is dropped at both ends -/

variable {drops : Char → Bool} {text : String} {c : Char} {front middle back : List Char}

theorem dropWhile_append_eq {rest : List Char}
    (hfront : ∀ c ∈ front, drops c = true) (hrest : ∀ c ∈ rest.head?, drops c = false) :
    (front ++ rest).dropWhile drops = rest := by
  rw [List.dropWhile_append_of_pos hfront]
  cases rest with
  | nil => rfl
  | cons c rest => rw [List.dropWhile_cons, hrest c rfl, if_neg Bool.false_ne_true]

/-- What is to be dropped goes from both ends, as long as there is something between them. -/
theorem trimBy_eq_of_ends
    (htext : text.toList = front ++ (middle ++ back)) (hfront : ∀ c ∈ front, drops c = true)
    (hback : ∀ c ∈ back, drops c = true) (hhead : ∀ c ∈ middle.head?, drops c = false)
    (hlast : ∀ c ∈ middle.getLast?, drops c = false) (hsome : middle ≠ []) :
    trimBy drops text = String.ofList middle := by
  have hleft : ∀ c ∈ (middle ++ back).head?, drops c = false := by
    obtain ⟨first, rest, rfl⟩ := List.exists_cons_of_ne_nil hsome
    exact hhead
  rw [← List.head?_reverse] at hlast
  unfold trimBy trimRightBy trimLeftBy
  rw [htext, dropWhile_append_eq hfront hleft, String.toList_ofList, List.reverse_append,
    dropWhile_append_eq (by simpa using hback) hlast, List.reverse_reverse]

theorem trimBy_eq
    (htext : text.toList = front ++ (middle ++ back)) (hfront : ∀ c ∈ front, drops c = true)
    (hback : ∀ c ∈ back, drops c = true) (hmiddle : ∀ c ∈ middle, drops c = false)
    (hsome : middle ≠ []) : trimBy drops text = String.ofList middle :=
  trimBy_eq_of_ends htext hfront hback (fun c hc => hmiddle c (List.mem_of_mem_head? hc))
    (fun c hc => hmiddle c (List.mem_of_mem_getLast? hc)) hsome

theorem toList_trimBy (drops : Char → Bool) (text : String) :
    (trimBy drops text).toList =
      ((text.toList.dropWhile drops).reverse.dropWhile drops).reverse := by
  unfold trimBy trimRightBy trimLeftBy
  rw [String.toList_ofList, String.toList_ofList]

theorem of_mem_head?_dropWhile {text : List Char}
    (h : c ∈ (text.dropWhile drops).head?) : drops c = false := by
  have hhead := List.head?_dropWhile_not drops text
  rw [Option.mem_def.mp h] at hhead
  exact hhead

theorem of_mem_head?_trimBy (h : c ∈ (trimBy drops text).toList.head?) : drops c = false := by
  rw [toList_trimBy, List.head?_reverse] at h
  -- the last characters go after the first ones, so the first one left is the same
  obtain ⟨dropped, hsplit⟩ :=
    @List.dropWhile_suffix _ (text.toList.dropWhile drops).reverse drops
  have hfirst : c ∈ (text.toList.dropWhile drops).head? := by
    rw [← List.getLast?_reverse, ← hsplit, List.getLast?_append, Option.mem_def.mp h]
    rfl
  exact of_mem_head?_dropWhile hfirst

theorem of_mem_getLast?_trimBy (h : c ∈ (trimBy drops text).toList.getLast?) : drops c = false := by
  rw [toList_trimBy, List.getLast?_reverse] at h
  exact of_mem_head?_dropWhile h

theorem mem_of_mem_trimBy (h : c ∈ (trimBy drops text).toList) : c ∈ text.toList := by
  rw [toList_trimBy, List.mem_reverse] at h
  have hright := (List.dropWhile_sublist drops).subset h
  exact (List.dropWhile_sublist drops).subset (List.mem_reverse.mp hright)

theorem dropWhile_eq_self {text : List Char}
    (h : ∀ c ∈ text.head?, drops c = false) : text.dropWhile drops = text := by
  have hnothing : ∀ c ∈ ([] : List Char), drops c = true := nofun
  exact dropWhile_append_eq hnothing h

/-- Nothing goes from a text that neither starts nor ends with something to be dropped. -/
theorem trimBy_eq_self (hhead : ∀ c ∈ text.toList.head?, drops c = false)
    (hlast : ∀ c ∈ text.toList.getLast?, drops c = false) : trimBy drops text = text := by
  apply String.toList_injective
  rw [← List.head?_reverse] at hlast
  rw [toList_trimBy, dropWhile_eq_self hhead, dropWhile_eq_self hlast, List.reverse_reverse]

/-- A word of characters that are not dropped is still there afterwards. -/
theorem infix_dropWhile {word text : List Char}
    (hword : ∀ c ∈ word, drops c = false) (h : word <:+: text) :
    word <:+: text.dropWhile drops := by
  induction text with
  | nil => exact h
  | cons c rest ih =>
    rw [List.dropWhile_cons]
    split
    · next hdrops =>
      rcases List.infix_cons_iff.mp h with hstart | hlater
      · -- a word at the start of the text would start with a character that is dropped
        cases word with
        | nil => exact List.nil_infix
        | cons first word =>
          have hfirst := hword first List.mem_cons_self
          rw [(List.cons_prefix_cons.mp hstart).1, hdrops] at hfirst
          cases hfirst
      · exact ih hlater
    · exact h

/-- A word of characters that stay is found in the trimmed text as well. -/
theorem infix_trimBy {word : List Char} (hword : ∀ c ∈ word, drops c = false)
    (h : word <:+: text.toList) : word <:+: (trimBy drops text).toList := by
  have hleft := List.reverse_infix.mpr (infix_dropWhile hword h)
  have hright := infix_dropWhile (fun c hc => hword c (List.mem_reverse.mp hc)) hleft
  rw [toList_trimBy, ← List.reverse_infix, List.reverse_reverse]
  exact hright

end PrivacyScan.Text
