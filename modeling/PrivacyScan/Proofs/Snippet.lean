import PrivacyScan.Snippet

/-!
# Excerpts of texts that differ within one line

Two texts that differ in one stretch without line ends have the same lines, apart from the line on
which the stretch stands. So an excerpt tells them apart exactly when it shows that line.
-/

namespace PrivacyScan.Text

/-! ## Lines around a stretch of text -/

/-- A stretch of text that stands within one line. -/
structure IsInline (stretch : String) : Prop where
  nonempty : stretch ≠ ""
  endless : ∀ c ∈ stretch.toList, isLineEnd c = false

instance (stretch : String) : Decidable (IsInline stretch) :=
  decidable_of_iff (stretch ≠ "" ∧ (stretch.toList.all fun c => !isLineEnd c) = true)
    ⟨fun h => ⟨h.1, by simpa using h.2⟩, fun h => ⟨h.1, by simpa using h.2⟩⟩

variable {line : List Char}

/-- A character that does not begin the pair of a carriage return and a line feed. -/
theorem lineList_cons {c : Char} {rest : List Char}
    (hpair : ¬ (c = '\r' ∧ rest.head? = some '\n')) :
    lineList line (c :: rest) =
      if isLineEnd c then line.reverse :: lineList [] rest else lineList (c :: line) rest := by
  rw [lineList]
  rintro following rfl rfl
  exact hpair ⟨rfl, rfl⟩

theorem lineList_append_of_endless {stretch : List Char}
    (h : ∀ c ∈ stretch, isLineEnd c = false) (rest : List Char) :
    lineList line (stretch ++ rest) = lineList (stretch.reverse ++ line) rest := by
  induction stretch generalizing line with
  | nil => rfl
  | cons c others ih =>
    have hc : isLineEnd c = false := h c List.mem_cons_self
    have hothers : ∀ other ∈ others, isLineEnd other = false :=
      fun other hother => h other (List.mem_cons_of_mem c hother)
    rw [List.cons_append, lineList_cons (by rintro ⟨rfl, _⟩; cases hc), if_neg (by simp [hc]),
      ih hothers, List.reverse_cons, List.append_assoc]
    rfl

/-- What stands before a stretch ends some lines and opens one, whatever follows. Only a line feed
would join a carriage return before it. -/
theorem exists_lineList_before (line before : List Char) :
    ∃ front opened, ∀ rest : List Char, rest.head? ≠ some '\n' →
      lineList line (before ++ rest) = front ++ lineList opened rest := by
  fun_induction lineList line before with
  | case1 line _ => exact ⟨[], line, fun _ _ => rfl⟩
  | case2 line _ => exact ⟨[], line, fun _ _ => rfl⟩
  | case3 line others ih =>
    obtain ⟨front, opened, hfront⟩ := ih
    refine ⟨line.reverse :: front, opened, fun rest hrest => ?_⟩
    rw [List.cons_append, List.cons_append, lineList, hfront rest hrest]
    rfl
  | case4 line c others hpair hend ih =>
    obtain ⟨front, opened, hfront⟩ := ih
    refine ⟨line.reverse :: front, opened, fun rest hrest => ?_⟩
    rw [List.cons_append, lineList_cons, if_pos hend, hfront rest hrest]
    · rfl
    · -- a carriage return is alone, as no line feed follows at the end either
      rintro ⟨rfl, hhead⟩
      cases others with
      | nil => exact hrest hhead
      | cons other following =>
        obtain rfl : other = '\n' := Option.some.inj hhead
        exact hpair following rfl rfl
  | case5 line c others hpair hend ih =>
    obtain ⟨front, opened, hfront⟩ := ih
    refine ⟨front, opened, fun rest hrest => ?_⟩
    rw [List.cons_append, lineList_cons, if_neg hend, hfront rest hrest]
    rintro ⟨rfl, _⟩
    exact hend rfl

/-- What stands behind a stretch closes its line and holds the lines below it. -/
theorem exists_lineList_after (after : List Char) :
    ∃ closed tail, ∀ line : List Char, line ≠ [] →
      lineList line after = (line.reverse ++ closed) :: tail := by
  induction after with
  | nil =>
    refine ⟨[], [], fun line hline => ?_⟩
    rw [lineList, if_neg (by simpa using hline), List.append_nil]
  | cons c rest ih =>
    by_cases hpair : c = '\r' ∧ rest.head? = some '\n'
    · obtain ⟨rfl, hhead⟩ := hpair
      obtain ⟨following, rfl⟩ := List.head?_eq_some_iff.mp hhead
      refine ⟨[], lineList [] following, fun line _ => ?_⟩
      rw [lineList, List.append_nil]
    · by_cases hend : isLineEnd c
      · refine ⟨[], lineList [] rest, fun line _ => ?_⟩
        rw [lineList_cons hpair, if_pos hend, List.append_nil]
      · obtain ⟨closed, tail, hclosed⟩ := ih
        refine ⟨c :: closed, tail, fun line _ => ?_⟩
        rw [lineList_cons hpair, if_neg hend, hclosed (c :: line) (List.cons_ne_nil c line),
          List.reverse_cons, List.append_assoc]
        rfl

/-- A stretch without line ends changes one line, and not the number of lines before it. -/
theorem exists_lines_eq (before after : String) :
    ∃ front opened closed tail, ∀ stretch, IsInline stretch →
      lines (before ++ stretch ++ after) = front ++ (opened ++ stretch ++ closed) :: tail ∧
        (lines (before ++ stretch)).length = front.length + 1 := by
  obtain ⟨front, opened, hbefore⟩ := exists_lineList_before [] before.toList
  obtain ⟨closed, tail, hafter⟩ := exists_lineList_after after.toList
  refine ⟨front.map String.ofList, String.ofList opened.reverse, String.ofList closed,
    tail.map String.ofList, fun stretch hinline => ?_⟩
  obtain ⟨c, others, hstretch⟩ : ∃ c others, stretch.toList = c :: others :=
    List.exists_cons_of_ne_nil (by simpa using hinline.nonempty)
  have hstart (rest : List Char) : (stretch.toList ++ rest).head? ≠ some '\n' := by
    rw [hstretch]
    intro hhead
    obtain rfl : c = '\n' := Option.some.inj hhead
    have hend : isLineEnd '\n' = false := hinline.endless '\n' (by simp [hstretch])
    cases hend
  have hsplit (rest : List Char) : lineList [] (before.toList ++ (stretch.toList ++ rest)) =
      front ++ lineList (stretch.toList.reverse ++ opened) rest := by
    rw [hbefore _ (hstart rest), lineList_append_of_endless hinline.endless]
  -- the stretch is part of the open line, so this line is not dropped where the text ends
  have hpending : stretch.toList.reverse ++ opened ≠ [] := by simp [hstretch]
  constructor
  · unfold lines
    rw [String.toList_append, String.toList_append, List.append_assoc, hsplit,
      hafter _ hpending, List.reverse_append, List.reverse_reverse, List.map_append, List.map_cons,
      String.ofList_append, String.ofList_append, String.ofList_toList]
  · have hlines := hsplit []
    rw [List.append_nil, lineList, if_neg (by simpa using hpending)] at hlines
    simp [lines, hlines]

end PrivacyScan.Text

namespace PrivacyScan.Snippet

/-! ## Excerpts -/

def Excerpt.Shows (excerpt : Excerpt) (line : Nat) : Prop :=
  excerpt.first ≤ line ∧ line ≤ excerpt.last

theorem window_natCast {α : Type} (items : List α) (start stop : Nat) :
    window items start stop = (items.take stop).drop start := by
  have hposition (index : Nat) :
      (if (index : Int) < 0 then (index : Int) + items.length else index).toNat = index := by
    rw [if_neg (by omega), Int.toNat_natCast]
  unfold window
  simp only [hposition]

/-- Two lists that differ in one item have the same window exactly when it leaves the item out. -/
theorem window_eq_iff {α : Type} {front tail : List α} {one other : α} {start stop : Nat} :
    window (front ++ one :: tail) start stop = window (front ++ other :: tail) start stop ↔
      one = other ∨ ¬ (start ≤ front.length ∧ front.length < stop) := by
  rw [window_natCast, window_natCast]
  constructor
  · intro heq
    by_cases hinside : start ≤ front.length ∧ front.length < stop
    · have hitem := congrArg (·[front.length - start]?) heq
      simp only [List.getElem?_drop, List.getElem?_take,
        Nat.add_sub_of_le hinside.1, if_pos hinside.2] at hitem
      left
      simpa using hitem
    · exact .inr hinside
  · rintro (rfl | houtside)
    · rfl
    · -- a window that leaves out the place has items from before it or behind it only
      apply List.ext_getElem?
      intro index
      simp only [List.getElem?_drop, List.getElem?_take]
      split
      · next hstop =>
        have hother : start + index ≠ front.length := by omega
        rcases Nat.lt_or_gt_of_ne hother with hbefore | hbehind
        · rw [List.getElem?_append_left hbefore, List.getElem?_append_left hbefore]
        · obtain ⟨offset, hoffset⟩ : ∃ offset, start + index - front.length = offset + 1 :=
            ⟨start + index - front.length - 1, by omega⟩
          rw [List.getElem?_append_right (by omega), List.getElem?_append_right (by omega), hoffset,
            List.getElem?_cons_succ, List.getElem?_cons_succ]
      · rfl

/-- A place joined into one line is the same where the line that differs is not among its lines. -/
theorem oneLine_eq_of_off_line {front tail : List String} {one other : String} {first last : Nat}
    (h : ¬ (first ≤ front.length + 1 ∧ front.length + 1 ≤ last)) :
    oneLine (front ++ one :: tail) first last = oneLine (front ++ other :: tail) first last := by
  have hstart : max 0 ((first : Int) - 1) = (first - 1 : Nat) := by omega
  have hstop : min ((front ++ one :: tail).length : Int) last =
      (min (front ++ one :: tail).length last : Nat) := by omega
  have hlength : (front ++ other :: tail).length = (front ++ one :: tail).length := by simp
  unfold oneLine
  rw [hlength, hstart, hstop, window_eq_iff.mpr (.inr _)]
  simp only [List.length_append, List.length_cons]
  omega

theorem surrounded_bounds_eq {lines others : List String} (h : lines.length = others.length)
    (first last around : Int) :
    (surrounded lines first last around).first = (surrounded others first last around).first ∧
      (surrounded lines first last around).last = (surrounded others first last around).last := by
  unfold surrounded
  split
  · exact ⟨rfl, rfl⟩
  · rw [h]
    exact ⟨rfl, rfl⟩

/-- A snippet changes with a line exactly when it shows the line. -/
theorem surrounded_lines_eq_iff {front tail : List String} {one other : String} (first last : Nat) :
    (surrounded (front ++ one :: tail) first last).lines =
        (surrounded (front ++ other :: tail) first last).lines ↔
      one = other ∨ ¬ (surrounded (front ++ one :: tail) first last).Shows (front.length + 1) := by
  unfold surrounded
  split
  · -- an excerpt from nowhere has no lines, and ends before the first one
    refine iff_of_true rfl (.inr ?_)
    rintro ⟨_, hlast⟩
    change ((front.length + 1 : Nat) : Int) ≤ 0 at hlast
    omega
  · obtain ⟨start, hstart⟩ : ∃ start : Nat, max 0 ((first : Int) - 1 - 2) = start :=
      Int.eq_ofNat_of_zero_le (by omega)
    obtain ⟨stop, hstop⟩ : ∃ stop : Nat,
        min ((front ++ one :: tail).length : Int) ((last : Int) + 2) = stop :=
      Int.eq_ofNat_of_zero_le (by omega)
    have hlength : (front ++ other :: tail).length = (front ++ one :: tail).length := by simp
    simp only [hlength, hstart, hstop, window_eq_iff, Excerpt.Shows]
    refine or_congr_right (not_congr ?_)
    omega

end PrivacyScan.Snippet
