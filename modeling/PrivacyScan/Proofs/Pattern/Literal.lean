import PrivacyScan.Pattern.Parser

/-!
# Patterns that spell a text

A pattern can be written so that it stands for one text only: a character without a meaning of its
own stands for itself, and so does any character with a backslash before it that is neither a letter
nor a digit.
-/

namespace PrivacyScan.Pattern

/-! ## Reading a spelling -/

/-- The characters that have a meaning of their own outside sets. -/
def signs : List Char := ['|', ')', '\\', '[', '.', '^', '$', '*', '+', '?', '{', '(']

def literal (c : Char) : Regex := .one (CharSet.ofCode c.toNat .exact)

/-- `Spells spelling chars`: the spelling has each of the characters as it is, or behind a
backslash. -/
inductive Spells : List Char → List Char → Prop where
  | nil : Spells [] []
  | plain {c : Char} {spelling chars : List Char} (hsign : c ∉ signs)
      (hrest : Spells spelling chars) : Spells (c :: spelling) (c :: chars)
  | escaped {c : Char} {spelling chars : List Char} (hsign : c.isAlphanum = false)
      (hrest : Spells spelling chars) : Spells ('\\' :: c :: spelling) (c :: chars)

theorem Spells.length_le {spelling chars : List Char} (h : Spells spelling chars) :
    chars.length ≤ spelling.length := by
  induction h with
  | nil => exact Nat.le_refl 0
  | plain _ _ ih => simpa using ih
  | escaped _ _ ih =>
    simp only [List.length_cons]
    omega

section Reading

variable {c : Char} {spelling chars rest : List Char} (nested first : Bool) (done : List Piece)
  (reading : Reading)

theorem peek?_bind {α : Type} (go : Option Char → Reader α) :
    (Reader.peek? >>= go) { reading with rest := c :: rest } =
      go (some c) { reading with rest := c :: rest } :=
  rfl

/-- A character that is no sign is one more literal. -/
theorem pieces_of_plain (hsign : c ∉ signs) (fuel : Nat) :
    pieces (fuel + 1) {} nested first done { reading with rest := c :: rest } =
      pieces fuel {} nested first (.plain (literal c) :: done) { reading with rest } := by
  simp only [signs, List.mem_cons, List.not_mem_nil, or_false, not_or] at hsign
  have hsimple : simplePiece {} c { reading with rest } =
      .ok (.plain (literal c), { reading with rest }) := by
    unfold simplePiece
    simp only [hsign, imp_self]
    rfl
  rw [pieces, peek?_bind]
  -- the two signs that end a sequence are told first, then those that repeat or group
  simp only [hsign, Bool.false_and, Bool.false_eq_true, if_false, imp_self]
  have hrepeats : ['*', '+', '?', '{'].contains c = false := by simp [hsign]
  have hgroups : (c == '(') = false := by simp [hsign]
  rw [hrepeats, hgroups]
  show (simplePiece {} c { reading with rest }).bind (fun found =>
    pieces fuel {} nested first (found.1 :: done) found.2) = _
  rw [hsimple]
  rfl

theorem classEscape?_eq_none (hsign : c.isAlphanum = false) (ascii : Bool) :
    classEscape? ascii c = none := by
  unfold classEscape?
  split
  case h_7 => rfl
  all_goals exact absurd hsign (by decide)

theorem controlEscape?_eq_none (hsign : c.isAlphanum = false) (hne : c ≠ '\\') :
    controlEscape? c = none := by
  unfold controlEscape?
  split
  case h_8 => exact absurd rfl hne
  case h_9 => rfl
  all_goals exact absurd hsign (by decide)

theorem codeEscape?_eq_none (hsign : c.isAlphanum = false) (hne : c ≠ '\\') :
    codeEscape? c = pure none := by
  unfold codeEscape?
  rw [controlEscape?_eq_none hsign hne]
  dsimp only
  split
  case h_4 => rfl
  all_goals exact absurd hsign (by decide)

/-- Only letters and digits have a meaning behind a backslash. -/
theorem escapePiece_eq (hsign : c.isAlphanum = false) :
    escapePiece {} c reading = .ok (.plain (literal c), reading) := by
  by_cases hne : c = '\\'
  · subst hne
    rfl
  · obtain ⟨halpha, hdigit⟩ := Bool.or_eq_false_iff.mp hsign
    have hzero : (c == '0') = false := by
      rw [beq_eq_false_iff_ne]
      rintro rfl
      exact absurd hsign (by decide)
    unfold escapePiece
    split
    case h_5 =>
      simp only [classEscape?_eq_none hsign, codeEscape?_eq_none hsign hne, hzero, halpha, hdigit]
      rfl
    all_goals exact absurd hsign (by decide)

theorem pieces_of_escaped (hsign : c.isAlphanum = false) (fuel : Nat) :
    pieces (fuel + 1) {} nested first done { reading with rest := '\\' :: c :: rest } =
      pieces fuel {} nested first (.plain (literal c) :: done) { reading with rest } := by
  have hpiece := escapePiece_eq { reading with rest } hsign
  show (escapePiece {} c { reading with rest }).bind (fun found =>
    pieces fuel {} nested first (found.1 :: done) found.2) = _
  rw [hpiece]
  rfl

theorem pieces_of_spells (h : Spells spelling chars) (fuel : Nat) :
    pieces (fuel + chars.length) {} nested first done { reading with rest := spelling ++ rest } =
      pieces fuel {} nested first ((chars.map fun c => .plain (literal c)).reverse ++ done)
        { reading with rest } := by
  induction h generalizing done with
  | nil => rfl
  | plain hsign _ ih =>
    rw [List.length_cons, ← Nat.add_assoc, List.cons_append, pieces_of_plain _ _ _ _ hsign, ih]
    simp
  | escaped hsign _ ih =>
    rw [List.length_cons, ← Nat.add_assoc, List.cons_append, List.cons_append,
      pieces_of_escaped _ _ _ _ hsign, ih]
    simp

end Reading

/-- The regular expression that matches the characters from the start of a text to its end. -/
def wholeOf (chars : List Char) : Regex :=
  sequenceOf (.anchor .textStart :: (chars.map literal ++ [.anchor .finalLineEnd]))

/-- Escaped text between the two anchors is read as these characters and nothing else. -/
theorem parse?_whole {spelling chars : List Char} (h : Spells spelling chars) :
    parse? ("^" ++ String.ofList spelling ++ "$") = some { body := wholeOf chars } := by
  have htext : ("^" ++ String.ofList spelling ++ "$").toList = '^' :: (spelling ++ ['$']) := by
    simp [String.toList_append]
  -- one unit of fuel goes to the alternatives, one to each piece, and one to the end
  obtain ⟨spare, hspare⟩ : ∃ spare,
      3 * ('^' :: (spelling ++ ['$'])).length + 8 = spare + 2 + chars.length + 2 := by
    have hlength := h.length_le
    refine ⟨3 * spelling.length + 10 - chars.length, ?_⟩
    simp only [List.length_cons, List.length_append, List.length_nil]
    omega
  have hpieces : pieces (spare + 2 + chars.length + 1) {} false true []
      { rest := '^' :: (spelling ++ ['$']), global := {} } =
        .ok (wholeOf chars, { rest := [], global := {} }) := by
    have hread : pieces (spare + 2 + chars.length) {} false true [.place (.anchor .textStart)]
        { rest := spelling ++ ['$'], global := {} } =
          pieces (spare + 2) {} false true ((chars.map fun c => .plain (literal c)).reverse ++
            [.place (.anchor .textStart)]) { rest := ['$'], global := {} } :=
      pieces_of_spells false true _ { rest := [], global := {} } h (spare + 2)
    show pieces (spare + 2 + chars.length) {} false true [.place (.anchor .textStart)]
      { rest := spelling ++ ['$'], global := {} } = _
    rw [hread]
    show Except.ok (sequenceOf (List.map Piece.regex (Piece.place (.anchor .finalLineEnd) ::
      ((chars.map fun c => Piece.plain (literal c)).reverse ++
        [.place (.anchor .textStart)])).reverse), _) = _
    have hregex : Piece.regex ∘ (fun c => Piece.plain (literal c)) = literal := rfl
    simp [wholeOf, Piece.regex, hregex]
  unfold parse? read
  rw [htext, hspare]
  dsimp only
  have halternatives : alternatives (spare + 2 + chars.length + 2) {} false true
      { rest := '^' :: (spelling ++ ['$']), global := {} } =
        .ok (wholeOf chars, { rest := [], global := {} }) := by
    show (pieces (spare + 2 + chars.length + 1) {} false true []
      { rest := '^' :: (spelling ++ ['$']), global := {} }).bind _ = _
    rw [hpieces]
    rfl
  rw [halternatives]
  rfl

/-! ## Matching literals -/

theorem contains_ofCode (c d : Char) :
    (CharSet.ofCode c.toNat .exact).contains d = true ↔ d = c := by
  have hholds : (CharSet.ofCode c.toNat .exact).contains d =
      (decide (c.toNat ≤ d.toNat) && decide (d.toNat ≤ c.toNat)) := by
    simp [CharSet.contains, CharSet.holds, CharSet.ofCode, SetItem.contains]
  rw [hholds, Bool.and_eq_true, decide_eq_true_eq, decide_eq_true_eq, ← Nat.le_antisymm_iff]
  constructor
  · exact fun hcode => (Char.toNat_inj.mp hcode).symm
  · rintro rfl
    rfl

section Matching

variable (text : Array Char) (resume : Continuation) (cursor : Cursor)

theorem run_sequenceOf_cons (regex : Regex) (rest : List Regex) :
    (sequenceOf (regex :: rest)).run text resume cursor =
      regex.run text ((sequenceOf rest).run text resume) cursor := by
  cases rest with
  | nil => rfl
  | cons next rest => rfl

/-- Literals match one way only: their characters stand there, or there is no match. -/
theorem run_literals (chars : List Char) (rest : List Regex) :
    (sequenceOf (chars.map literal ++ rest)).run text resume cursor =
      if chars <+: text.toList.drop cursor.position then
        (sequenceOf rest).run text resume
          { cursor with position := cursor.position + chars.length }
      else none := by
  induction chars generalizing cursor with
  | nil => simp
  | cons c chars ih =>
    rw [List.map_cons, List.cons_append, run_sequenceOf_cons, literal, Regex.run]
    have hnext : text[cursor.position]? = (text.toList.drop cursor.position).head? := by
      rw [List.head?_drop, Array.getElem?_toList]
    cases hdrop : text.toList.drop cursor.position with
    | nil =>
      rw [hnext, hdrop]
      simp
    | cons d tail =>
      have htail : text.toList.drop (cursor.position + 1) = tail := by
        rw [← List.tail_drop, hdrop]
        rfl
      rw [hnext, hdrop, List.head?_cons]
      dsimp only
      by_cases hsame : d = c
      · subst hsame
        rw [if_pos ((contains_ofCode d d).mpr rfl), ih]
        simp only [htail, List.cons_prefix_cons, true_and, List.length_cons]
        rw [Nat.add_assoc, Nat.add_comm 1]
      · rw [if_neg fun hcontains => hsame ((contains_ofCode c d).mp hcontains), if_neg]
        exact fun hstarts => hsame (List.cons_prefix_cons.mp hstarts).1.symm

end Matching

/-- **Escaped text between anchors matches the text itself and no other.** -/
theorem whole_matches_iff {spelling chars : List Char} (h : Spells spelling chars) {text : String}
    (hline : '\n' ∉ text.toList) :
    ((parse? ("^" ++ String.ofList spelling ++ "$")).any fun pattern =>
      (pattern.matchStart? text).isSome) = true ↔ text.toList = chars := by
  rw [parse?_whole h, Option.any_some]
  unfold matchStart? matchFrom? wholeOf
  rw [Option.isSome_map, run_sequenceOf_cons, Regex.run, if_pos (by rfl), run_literals]
  show Option.isSome (if chars <+: text.toList.drop 0 then
    (if Anchor.finalLineEnd.holds text.toList.toArray (0 + chars.length) then some _ else none)
    else none) = true ↔ _
  rw [List.drop_zero, Nat.zero_add]
  -- without line feeds, what counts as the end is the end of the text alone
  have hend (hstarts : chars <+: text.toList) :
      Anchor.finalLineEnd.holds text.toList.toArray chars.length = true ↔
        text.toList.length = chars.length := by
    unfold Anchor.holds
    have hfree : (text.toList.toArray[chars.length]? == some '\n') = false := by
      rw [beq_eq_false_iff_ne, List.getElem?_toArray]
      exact fun hfeed => hline (List.mem_of_getElem? hfeed)
    rw [hfree, Bool.and_false, Bool.or_false, beq_iff_eq, List.size_toArray]
    exact eq_comm
  constructor
  · intro hmatch
    split at hmatch
    · next hstarts =>
      split at hmatch
      · next hlast => exact (hstarts.eq_of_length ((hend hstarts).mp hlast).symm).symm
      · cases hmatch
    · cases hmatch
  · rintro rfl
    rw [if_pos (List.prefix_refl _), if_pos ((hend (List.prefix_refl _)).mpr rfl)]
    rfl

/-! ## Replacing nothing -/

theorem searchFrom?_eq_none {pattern : Pattern} {text : Array Char}
    (h : ∀ start mustAdvance, pattern.matchFrom? text mustAdvance start = none)
    (mustAdvance : Bool) (start count : Nat) :
    pattern.searchFrom? text mustAdvance start count = none := by
  induction count generalizing start mustAdvance with
  | zero => exact h start mustAdvance
  | succ count ih => rw [searchFrom?, h start mustAdvance, ih]

theorem replaceAll_eq_self {pattern : Pattern} {text : String}
    (h : ∀ start mustAdvance, pattern.matchFrom? text.toList.toArray mustAdvance start = none)
    (replacement : Match → String) : pattern.replaceAll replacement text = text := by
  have hnone : pattern.all text = [] := by
    unfold all
    dsimp only
    rw [allFrom, searchFrom?_eq_none h]
    simp
  unfold replaceAll
  rw [hnone, substitute]
  simp

/-- The pattern asks for these two characters first, and goes on somehow. -/
def beginsWith (first second : Char) : Regex → Bool
  | .sequence (.one set) (.sequence (.one next) _) =>
    set == CharSet.ofCode first.toNat .exact && next == CharSet.ofCode second.toNat .exact
  | _ => false

theorem exists_of_beginsWith {first second : Char} {regex : Regex}
    (h : beginsWith first second regex = true) :
    ∃ rest, regex = sequenceOf ([first, second].map literal ++ [rest]) := by
  unfold beginsWith at h
  split at h
  · next set next rest =>
    obtain ⟨hset, hnext⟩ := Bool.and_eq_true_iff.mp h
    rw [beq_iff_eq.mp hset, beq_iff_eq.mp hnext]
    exact ⟨rest, rfl⟩
  · cases h

/-- A pattern does not match where its first two characters never stand next to each other. -/
theorem matchFrom?_eq_none {pattern : Pattern} {first second : Char} {text : List Char}
    (hbegins : beginsWith first second pattern.body = true) (hnone : ¬ [first, second] <:+: text)
    (start : Nat) (mustAdvance : Bool) :
    pattern.matchFrom? text.toArray mustAdvance start = none := by
  obtain ⟨rest, hbody⟩ := exists_of_beginsWith hbegins
  unfold matchFrom?
  dsimp only
  rw [hbody, run_literals, if_neg]
  · rfl
  · intro hstarts
    exact hnone (hstarts.isInfix.trans (List.drop_suffix start text).isInfix)

end PrivacyScan.Pattern
