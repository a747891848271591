import PrivacyScan.Proofs.Pattern.Literal

/-!
# Matches that succeed at the first attempt

A matcher tries the ways to match one after the other, and gives up a way as soon as what follows
does not match. Where the first way succeeds, none of this is seen, and a match can be followed
through a text from left to right. `Takes` says how far a pattern comes in this way.
-/

namespace PrivacyScan.Pattern

deriving instance DecidableEq for Regex

variable {regex : Regex} {rest : List Regex} {set : CharSet} {before chars more after : List Char}
  {old middle new : Array (Option (Nat × Nat))}

/-- At its first attempt the pattern passes over `chars`, which stand between `before` and `after`:
if what follows matches behind them, with the captures `new` in place of `old`, this is the
match. -/
def Takes (regex : Regex) (before chars after : List Char)
    (old new : Array (Option (Nat × Nat))) : Prop :=
  ∀ resume result, resume { position := (before ++ chars).length, captures := new } = some result →
    regex.run (before ++ chars ++ after).toArray resume
      { position := before.length, captures := old } = some result

theorem takes_one {c : Char} (hset : set.contains c = true) :
    Takes (.one set) before [c] after old old := by
  intro resume result hresume
  have hhere : (before ++ [c] ++ after).toArray[before.length]? = some c := by simp
  rw [Regex.run]
  dsimp only
  rw [hhere]
  dsimp only
  rw [if_pos hset]
  simpa using hresume

theorem takes_literal (c : Char) : Takes (literal c) before [c] after old old :=
  takes_one ((contains_ofCode c c).mpr rfl)

/-! ## Repeated characters -/

/-- Characters of the set are passed, and the run goes on behind them. -/
theorem runLength_append (hall : ∀ c ∈ chars, set.contains c = true) (limit : Nat) :
    runLength (before ++ chars ++ after).toArray set before.length (limit + chars.length) =
      runLength (before ++ chars ++ after).toArray set (before ++ chars).length limit +
        chars.length := by
  induction chars generalizing before with
  | nil => simp
  | cons c chars ih =>
    have hhere : (before ++ c :: chars ++ after).toArray[before.length]? = some c := by simp
    have hshift : before ++ c :: chars = before ++ [c] ++ chars := by simp
    obtain ⟨hc, hrest⟩ := List.forall_mem_cons.mp hall
    have hlater := @ih (before ++ [c]) hrest
    rw [← hshift, List.length_append, List.length_singleton] at hlater
    rw [List.length_cons, ← Nat.add_assoc, runLength, hhere]
    dsimp only
    rw [if_pos hc, hlater, Nat.add_assoc]

/-- A run ends at the first character that is not in the set. -/
theorem runLength_eq (hall : ∀ c ∈ chars, set.contains c = true)
    (hstop : ∀ c ∈ after.head?, set.contains c = false) {limit : Nat}
    (hlimit : chars.length ≤ limit) :
    runLength (before ++ chars ++ after).toArray set before.length limit = chars.length := by
  have hhere : (before ++ chars ++ after).toArray[(before ++ chars).length]? = after.head? := by
    rw [List.getElem?_toArray, List.getElem?_append_right (Nat.le_refl _), Nat.sub_self,
      List.head?_eq_getElem?]
  rw [← Nat.sub_add_cancel hlimit, runLength_append hall]
  cases limit - chars.length with
  | zero => rw [runLength, Nat.zero_add]
  | succ limit =>
    rw [runLength, hhere]
    cases hnext : after.head? with
    | none => exact Nat.zero_add _
    | some c =>
      dsimp only
      rw [hstop c hnext]
      exact Nat.zero_add _

theorem tryDown_eq {resume : Continuation} {cursor result : Cursor} {least count : Nat}
    (hleast : least ≤ count)
    (hresume : resume { cursor with position := cursor.position + count } = some result) :
    tryDown resume cursor least count = some result := by
  cases count with
  | zero =>
    rw [tryDown, Nat.le_zero.mp hleast]
    exact hresume
  | succ count =>
    rw [tryDown, if_neg (Nat.not_lt.mpr hleast), hresume]

/-- **A repeated set takes all that belongs to it**, up to the first character that does not. -/
theorem takes_span {least : Nat} (hall : ∀ c ∈ chars, set.contains c = true)
    (hstop : ∀ c ∈ after.head?, set.contains c = false) (hleast : least ≤ chars.length) :
    Takes (.span set least none .greedy) before chars after old old := by
  intro resume result hresume
  have hlimit : chars.length ≤ (before ++ chars ++ after).toArray.size := by
    simp only [List.size_toArray, List.length_append]
    omega
  have hcount : runLength (before ++ chars ++ after).toArray set before.length _ = chars.length :=
    runLength_eq hall hstop hlimit
  rw [Regex.run]
  dsimp only [Option.getD_none]
  rw [if_neg (by rw [hcount]; exact Nat.not_lt.mpr hleast), hcount]
  refine tryDown_eq hleast ?_
  rw [← List.length_append]
  exact hresume

/-- The first count with which the rest goes on is the one that is taken. -/
theorem tryUp_eq {resume : Continuation} {cursor result : Cursor} {count extra : Nat}
    (hcount : count ≤ extra)
    (hearlier : ∀ k < count, resume { cursor with position := cursor.position + k } = none)
    (hresume : resume { cursor with position := cursor.position + count } = some result) :
    tryUp resume cursor extra = some result := by
  induction count generalizing cursor extra with
  | zero =>
    have hhere : resume cursor = some result := hresume
    cases extra with
    | zero => exact hhere
    | succ extra => rw [tryUp, hhere]
  | succ count ih =>
    have hhere : resume cursor = none := hearlier 0 (Nat.succ_pos _)
    cases extra with
    | zero => cases hcount
    | succ extra =>
      rw [tryUp, hhere]
      refine ih (Nat.le_of_succ_le_succ hcount) (fun k hk => ?_) ?_
      · simpa only [Nat.add_assoc, Nat.add_comm 1] using hearlier (k + 1) (Nat.succ_lt_succ hk)
      · simpa only [Nat.add_assoc, Nat.add_comm 1] using hresume

/-! ## Captures, choices and sequences -/

theorem takes_capture {body : Regex} (h : Takes body before chars after old new) (index : Nat) :
    Takes (.capture index body) before chars after old
      (new.setIfInBounds index (some (before.length, (before ++ chars).length))) := by
  intro resume result hresume
  rw [Regex.run]
  exact h _ result hresume

theorem takes_choice (h : Takes regex before chars after old new) (other : Regex) :
    Takes (.choice regex other) before chars after old new := by
  intro resume result hresume
  rw [Regex.run, h resume result hresume]

theorem takes_sequenceOf_nil : Takes (sequenceOf []) before [] after old old := by
  intro resume result hresume
  rw [List.append_nil] at hresume
  exact hresume

theorem takes_sequenceOf_cons (hfirst : Takes regex before chars (more ++ after) old middle)
    (hrest : Takes (sequenceOf rest) (before ++ chars) more after middle new) :
    Takes (sequenceOf (regex :: rest)) before (chars ++ more) after old new := by
  intro resume result hresume
  rw [← List.append_assoc] at hresume
  have htext : before ++ (chars ++ more) ++ after = before ++ chars ++ (more ++ after) := by simp
  have hlater := hrest resume result hresume
  rw [List.append_assoc (before ++ chars)] at hlater
  rw [run_sequenceOf_cons, htext]
  exact hfirst _ result hlater

theorem takes_sequenceOf_single (h : Takes regex before chars after old new) :
    Takes (sequenceOf [regex]) before chars after old new := by
  have hboth := takes_sequenceOf_cons h takes_sequenceOf_nil
  rwa [List.append_nil] at hboth

theorem takes_literals (hrest : Takes (sequenceOf rest) (before ++ chars) more after old new) :
    Takes (sequenceOf (chars.map literal ++ rest)) before (chars ++ more) after old new := by
  induction chars generalizing before with
  | nil =>
    rw [List.append_nil] at hrest
    exact hrest
  | cons c chars ih =>
    have hlater :
      Takes (sequenceOf (chars.map literal ++ rest)) (before ++ [c]) (chars ++ more) after
        old new := ih (by simpa using hrest)
    have hboth := takes_sequenceOf_cons (takes_literal c) hlater
    exact hboth

theorem takes_sequenceOf_anchor {place : Anchor}
    (h : place.holds (before ++ chars ++ after).toArray before.length = true)
    (hrest : Takes (sequenceOf rest) before chars after old new) :
    Takes (sequenceOf (.anchor place :: rest)) before chars after old new := by
  intro resume result hresume
  rw [run_sequenceOf_cons, Regex.run, if_pos h]
  exact hrest resume result hresume

/-! ## Text up to a quote -/

theorem run_reference {text : Array Char} {resume : Continuation} {cursor : Cursor}
    {index start : Nat} {quote c : Char} (hkept : cursor.captured? index = some (start, start + 1))
    (hquote : text[start]? = some quote) (hhere : text[cursor.position]? = some c) :
    (Regex.reference index .exact).run text resume cursor =
      if quote = c then resume { cursor with position := cursor.position + 1 } else none := by
  rw [Regex.run, hkept]
  dsimp only
  rw [Nat.add_sub_cancel_left, repeatsSpan, hquote, hhere]
  simp [repeatsSpan, Folding.lowerChar]

/-- **The fewest characters before a quote are all those up to the first one**, where the quote was
kept that stands before them. -/
theorem takes_quoted {quote : Char} {opened : List Char} {index kept : Nat} (hne : index ≠ kept)
    (hchars : ∀ c ∈ chars, c ≠ quote ∧ c ≠ '\n') (hopened : before = opened ++ [quote])
    (hkept : old[kept]? = some (some (opened.length, opened.length + 1))) :
    Takes (sequenceOf [.capture index (.span .notNewline 0 none .lazy), .reference kept .exact])
      before (chars ++ [quote]) after old
      (old.setIfInBounds index (some (before.length, (before ++ chars).length))) := by
  intro resume result hresume
  have htext : before ++ (chars ++ [quote]) ++ after =
      before ++ chars ++ ([quote] ++ after) := by simp
  have hall : ∀ c ∈ chars, CharSet.notNewline.contains c = true := by
    intro c hc
    have hcode : c.toNat ≠ 10 := fun hcode => (hchars c hc).2 (Char.toNat_inj.mp hcode)
    simpa [CharSet.notNewline, CharSet.contains, CharSet.holds, SetItem.contains] using
      Nat.lt_or_gt_of_ne hcode
  have hquote : (before ++ (chars ++ [quote]) ++ after).toArray[opened.length]? = some quote := by
    simp [hopened]
  -- a reference looks at one character, and only behind `chars` it is the quote
  have hrun (count : Nat) (c : Char) (hhere : (chars ++ [quote])[count]? = some c) :
      (Regex.reference kept .exact).run (before ++ (chars ++ [quote]) ++ after).toArray resume
          { position := before.length + count,
            captures := old.setIfInBounds index (some (before.length, before.length + count)) } =
        if quote = c then resume
          { position := before.length + count + 1,
            captures := old.setIfInBounds index (some (before.length, before.length + count)) }
        else none := by
    refine run_reference ?_ hquote ?_
    · rw [Cursor.captured?, Array.getElem?_setIfInBounds_ne hne, hkept]
      rfl
    · rw [List.getElem?_toArray, List.append_assoc,
        List.getElem?_append_right (Nat.le_add_right _ _),
        Nat.add_sub_cancel_left, List.getElem?_append_left]
      · exact hhere
      · exact (List.getElem?_eq_some_iff.mp hhere).1
  rw [run_sequenceOf_cons, Regex.run, Regex.run]
  dsimp only [Option.getD_none, Nat.add_zero, Nat.sub_zero]
  rw [if_neg (Nat.not_lt_zero _)]
  refine @tryUp_eq _ _ _ chars.length _ ?_ (fun count hcount => ?_) ?_
  · have hlimit : chars.length ≤ (before ++ (chars ++ [quote]) ++ after).toArray.size := by
      simp only [List.size_toArray, List.length_append]
      omega
    rw [← Nat.sub_add_cancel hlimit, htext, runLength_append hall]
    exact Nat.le_add_left _ _
  · have hhere : (chars ++ [quote])[count]? = some chars[count] := by
      rw [List.getElem?_append_left hcount, List.getElem?_eq_getElem hcount]
    refine (hrun count _ hhere).trans (if_neg fun heq => ?_)
    exact (hchars _ (List.getElem_mem hcount)).1 heq.symm
  · refine (hrun chars.length quote (by simp)).trans ((if_pos rfl).trans ?_)
    simpa [Nat.add_assoc] using hresume

/-! ## The match -/

/-- The first position with a match is the one that a search finds. -/
theorem searchFrom?_eq {pattern : Pattern} {text : Array Char} {found : Match}
    {start skip count : Nat}
    (hskip : skip ≤ count)
    (hearlier : ∀ position < start + skip, pattern.matchFrom? text false position = none)
    (h : pattern.matchFrom? text false (start + skip) = some found) :
    pattern.searchFrom? text false start count = some found := by
  induction skip generalizing start count with
  | zero =>
    cases count with
    | zero => exact h
    | succ count =>
      rw [searchFrom?]
      rw [Nat.add_zero] at h
      rw [h]
  | succ skip ih =>
    have hhere := hearlier start (Nat.lt_add_of_pos_right (Nat.succ_pos skip))
    have hstart : start + (skip + 1) = start + 1 + skip := by omega
    rw [hstart] at hearlier h
    cases count with
    | zero => cases hskip
    | succ count =>
      rw [searchFrom?, hhere]
      exact ih (Nat.le_of_succ_le_succ hskip) hearlier h

/-- A pattern is found where it takes the text first. -/
theorem search?_of_takes_behind {pattern : Pattern} {text : String}
    (htext : text.toList = before ++ chars ++ after)
    (hearlier : ∀ position < before.length,
      pattern.matchFrom? (before ++ chars ++ after).toArray false position = none)
    (h : Takes pattern.body before chars after
    (Array.replicate (pattern.captureCount + 1) none) new) :
    pattern.search? text = some
      { start := before.length, stop := (before ++ chars).length, captures := new,
        source := (before ++ chars ++ after).toArray } := by
  have hmatch : pattern.matchFrom? (before ++ chars ++ after).toArray false before.length = some
      { start := before.length, stop := (before ++ chars).length, captures := new,
        source := (before ++ chars ++ after).toArray } := by
    unfold matchFrom?
    rw [Option.map_eq_some_iff]
    exact ⟨_, h _ _ rfl, rfl⟩
  have hsize : before.length ≤ (before ++ chars ++ after).toArray.size := by
    simp only [List.size_toArray, List.length_append]
    omega
  unfold search?
  dsimp only
  rw [htext]
  rw [← Nat.zero_add before.length] at hearlier
  exact searchFrom?_eq hsize hearlier (by rwa [Nat.zero_add])

theorem search?_of_takes {pattern : Pattern} {text : String} (htext : text.toList = chars ++ after)
    (h : Takes pattern.body [] chars after (Array.replicate (pattern.captureCount + 1) none) new) :
    pattern.search? text = some
      { start := 0, stop := chars.length, captures := new, source := (chars ++ after).toArray } :=
  @search?_of_takes_behind [] chars after new pattern text htext nofun h

theorem capture?_eq {found : Match} {index : Nat} (hindex : index ≠ 0)
    (hkept : found.captures[index]? = some (some (before.length, (before ++ chars).length)))
    (hsource : found.source = (before ++ chars ++ after).toArray) :
    found.capture? index = some (String.ofList chars) := by
  have hspan : found.spanText before.length (before ++ chars).length = String.ofList chars := by
    unfold Match.spanText
    rw [hsource]
    simp
  unfold Match.capture?
  rw [if_neg (by simpa using hindex), hkept, ← hspan]
  rfl

end PrivacyScan.Pattern
