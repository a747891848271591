import PrivacyScan.Text.Casing

/-!
# Lower case is settled

No character that lower case produces is changed by lower case again, wherever it stands. Inside
ASCII this is a look at 128 characters. Outside, the table decides: the images of its entries are
apart from all spans, which is checked entry by entry and not for each character.
-/

namespace PrivacyScan.Text

/-! ## Spans -/

namespace Span

def image (span : Span) (target : Nat) : Span :=
  { first := target, last := target + (span.last - span.first), step := span.step }

/-- Two spans that lie one behind the other, or of which one takes the odd code points and the other
the even ones. Written with the operations on numbers that a check evaluates fastest. -/
def isApart (span other : Span) : Bool :=
  Nat.ble (span.last + 1) other.first || Nat.ble (other.last + 1) span.first ||
    (other.step == 2 && (span.step == 2 || span.first == span.last) &&
      span.first % 2 != other.first % 2)

variable {span other : Span} {code target : Nat}

theorem contains_iff :
    span.contains code = true ↔
      span.first ≤ code ∧ code ≤ span.last ∧ (code - span.first) % span.step = 0 := by
  unfold contains
  simp [and_assoc]

theorem contains_image (h : span.contains code = true) :
    (span.image target).contains (target + (code - span.first)) = true := by
  obtain ⟨hfirst, hlast, hstep⟩ := contains_iff.mp h
  refine contains_iff.mpr ⟨Nat.le_add_right _ _, ?_, ?_⟩
  · exact Nat.add_le_add_left (Nat.sub_le_sub_right hlast _) _
  · have hback : target + (code - span.first) - (span.image target).first = code - span.first :=
      Nat.add_sub_cancel_left target _
    rw [hback]
    exact hstep

/-- Spans that are apart share no code. -/
theorem not_contains_of_isApart (h : span.isApart other = true)
    (hcode : span.contains code = true) : ¬ other.contains code = true := by
  intro hother
  obtain ⟨hfirst, hlast, hstep⟩ := contains_iff.mp hcode
  obtain ⟨hfirst', hlast', hstep'⟩ := contains_iff.mp hother
  unfold isApart at h
  simp only [Bool.or_eq_true, Bool.and_eq_true, Nat.ble_eq, beq_iff_eq, bne_iff_ne] at h
  rcases h with (hbelow | habove) | ⟨⟨htwo, hone⟩, hparity⟩
  · omega
  · omega
  · -- the code point has the parity of both starts
    rw [htwo] at hstep'
    rcases hone with hspan | hsingle
    · rw [hspan] at hstep
      omega
    · omega

end Span

/-! ## The table -/

theorem SpanTable.of_lookup? {α : Type} {table : SpanTable α} {code : Nat} {span : Span} {value : α}
    (h : table.lookup? code = some (span, value)) :
    (span, value) ∈ table.entries.toList ∧ span.contains code = true := by
  unfold lookup? at h
  dsimp only at h
  split at h
  · next found hfound =>
    split at h
    · next hcontains =>
      obtain ⟨rfl, rfl⟩ := Prod.mk.inj (Option.some.inj h)
      exact ⟨Array.mem_toList_iff.mpr (Array.mem_of_getElem? hfound), hcontains⟩
    · cases h
  · cases h

/-- An entry that sends its span behind the capital letters of ASCII and apart from all spans. -/
def isSettled (entry : Span × List Nat) : Bool :=
  match entry.2 with
  | [target] =>
    Nat.ble 0x5B target && lowerEntries.all fun other => (entry.1.image target).isApart other.1
  | _ => false

/-- What the table has to be looked through for: all entries are settled, the two characters with a
rule of their own are in it, and the mark of a dot and the final sigma, which the rules bring, are
not. -/
theorem lowerTable_checked :
    lowerEntries.all isSettled = true ∧
      (lowerTable.lookup? 0x130).isSome = true ∧ (lowerTable.lookup? 0x3A3).isSome = true ∧
      lowerTable.lookup? 0x307 = none ∧ lowerTable.lookup? 0x3C2 = none := by
  decide +kernel

/-- What the table turns a character into has no entry of its own. -/
theorem image?_lowerTable {code : Nat} :
    lowerTable.image? code = none ∧ lowerTable.lookup? code = none ∨
      ∃ image, lowerTable.image? code = some [image] ∧ 0x5B ≤ image ∧
        lowerTable.lookup? image = none := by
  unfold SpanTable.image?
  cases hlookup : lowerTable.lookup? code with
  | none => exact .inl ⟨rfl, rfl⟩
  | some entry =>
    obtain ⟨span, targets⟩ := entry
    obtain ⟨hmem, hcontains⟩ := SpanTable.of_lookup? hlookup
    have hsettled := List.all_eq_true.mp lowerTable_checked.1 (span, targets) hmem
    unfold isSettled at hsettled
    match targets, hsettled with
    | [target], hsettled =>
      obtain ⟨hbehind, hapart⟩ := Bool.and_eq_true_iff.mp hsettled
      refine .inr ⟨target + (code - span.first), rfl,
        Nat.le_trans (Nat.ble_eq ▸ hbehind) (Nat.le_add_right _ _), ?_⟩
      cases hagain : lowerTable.lookup? (target + (code - span.first)) with
      | none => rfl
      | some other =>
        obtain ⟨hother, hboth⟩ := SpanTable.of_lookup? hagain
        have hdisjoint := List.all_eq_true.mp hapart other hother
        exact absurd hboth (Span.not_contains_of_isApart hdisjoint (Span.contains_image hcontains))

/-! ## Characters -/

/-- A character that lower case leaves alone, wherever it stands. -/
structure IsLowered (c : Char) : Prop where
  notSigma : c ≠ capitalSigma
  fixed : lowerExpansion c = [c]

theorem isLowered_of_ascii {c : Char} (hascii : isAscii c = true) (hlower : c.toLower = c) :
    IsLowered c := by
  have hcode : c.toNat < 128 := of_decide_eq_true hascii
  refine ⟨?_, ?_⟩
  · rintro rfl
    exact absurd hascii (by decide)
  · have hdotted : ¬ (c.toNat == 0x130) = true := by
      rw [beq_iff_eq]
      omega
    rw [lowerExpansion, if_neg hdotted, lowerChar, if_pos hascii, hlower]

theorem isLowered_of_not_listed {c : Char} (hascii : isAscii c = false)
    (hnone : lowerTable.lookup? c.toNat = none) : IsLowered c := by
  refine ⟨?_, ?_⟩
  · rintro rfl
    have hlisted : (lowerTable.lookup? capitalSigma.toNat).isSome = true := lowerTable_checked.2.2.1
    rw [hnone] at hlisted
    cases hlisted
  · have hdotted : ¬ (c.toNat == 0x130) = true := by
      intro heq
      have hlisted := lowerTable_checked.2.1
      rw [← beq_iff_eq.mp heq, hnone] at hlisted
      cases hlisted
    rw [lowerExpansion, if_neg hdotted, lowerChar, hascii, if_neg Bool.false_ne_true,
      SpanTable.image?, hnone]

theorem ascii_toLower : ∀ code < 128, (Char.ofNat code).toLower.toNat < 128 ∧
      (Char.ofNat code).toLower.toLower = (Char.ofNat code).toLower ∧
      (0x5B ≤ code → (Char.ofNat code).toLower = Char.ofNat code) := by
  decide

theorem isLowered_ofNat {code : Nat} (hbehind : 0x5B ≤ code)
    (hnone : lowerTable.lookup? code = none) : IsLowered (Char.ofNat code) := by
  by_cases hvalid : code.isValidChar
  · have hcode : (Char.ofNat code).toNat = code := by
      rw [Char.ofNat, dif_pos hvalid]
      rfl
    cases hascii : isAscii (Char.ofNat code) with
    | true =>
      have hsmall : code < 128 := hcode ▸ of_decide_eq_true hascii
      exact isLowered_of_ascii hascii ((ascii_toLower code hsmall).2.2 hbehind)
    | false => exact isLowered_of_not_listed hascii (hcode.symm ▸ hnone)
  · -- a number that is no character reads as the null character
    rw [Char.ofNat, dif_neg hvalid]
    exact isLowered_of_ascii (by decide) (by decide)

theorem isLowered_lowerChar (c : Char) : IsLowered (lowerChar c) := by
  unfold lowerChar
  cases hascii : isAscii c with
  | true =>
    obtain ⟨hsmall, hagain, -⟩ := ascii_toLower c.toNat (of_decide_eq_true hascii)
    rw [Char.ofNat_toNat] at hsmall hagain
    exact isLowered_of_ascii (decide_eq_true hsmall) hagain
  | false =>
    rw [if_neg Bool.false_ne_true]
    rcases @image?_lowerTable c.toNat with ⟨himage, hnone⟩ | ⟨image, himage, hbehind, hnone⟩
    · rw [himage]
      exact isLowered_of_not_listed hascii hnone
    · rw [himage]
      exact isLowered_ofNat hbehind hnone

theorem isLowered_of_mem_lowerExpansion {c other : Char} (h : other ∈ lowerExpansion c) :
    IsLowered other := by
  unfold lowerExpansion at h
  split at h
  · rcases List.mem_cons.mp h with rfl | hmark
    · exact isLowered_of_ascii (by decide) (by decide)
    · rw [List.mem_singleton.mp hmark]
      exact isLowered_of_not_listed (by decide) lowerTable_checked.2.2.2.1
  · rw [List.mem_singleton.mp h]
    exact isLowered_lowerChar c

/-- The code points of all blanks. -/
def spaceCodes : List Nat :=
  List.range' 9 5 ++ List.range' 0x1C 5 ++ [0x85, 0xA0, 0x1680] ++ List.range' 0x2000 11 ++
    [0x2028, 0x2029, 0x202F, 0x205F, 0x3000]

theorem spaceCodes_checked : ∀ code ∈ spaceCodes,
    (Char.ofNat code).toLower = Char.ofNat code ∧ lowerTable.lookup? code = none := by
  decide +kernel

theorem isLowered_of_isSpace {c : Char} (h : isSpace c = true) : IsLowered c := by
  have hlisted : c.toNat ∈ spaceCodes := by
    unfold isSpace at h
    simp only [Bool.or_eq_true, Bool.and_eq_true, decide_eq_true_eq, beq_iff_eq] at h
    simp only [spaceCodes, List.mem_append, List.mem_range'_1, List.mem_cons, List.not_mem_nil,
      or_false]
    omega
  obtain ⟨hlower, hnone⟩ := spaceCodes_checked c.toNat hlisted
  rw [Char.ofNat_toNat] at hlower
  cases hascii : isAscii c with
  | true => exact isLowered_of_ascii hascii hlower
  | false => exact isLowered_of_not_listed hascii hnone

/-! ## Texts -/

variable {text word : String} {c : Char}

theorem isLowered_of_mem_lowerList {before rest : List Char}
    (h : c ∈ lowerList before rest) : IsLowered c := by
  induction rest generalizing before with
  | nil => cases h
  | cons first rest ih =>
    rw [lowerList, List.mem_append] at h
    rcases h with hfirst | hrest
    · split at hfirst
      · split at hfirst
        · rw [List.mem_singleton.mp hfirst]
          exact isLowered_of_not_listed (by decide) lowerTable_checked.2.2.2.2
        · rw [List.mem_singleton.mp hfirst]
          exact isLowered_lowerChar first
      · exact isLowered_of_mem_lowerExpansion hfirst
    · exact ih hrest

theorem isLowered_of_mem_lower (h : c ∈ (lower text).toList) : IsLowered c := by
  rw [lower, String.toList_ofList] at h
  exact isLowered_of_mem_lowerList h

/-- Characters in lower case stay as they are, whatever stands around them. -/
theorem lowerList_append {front : List Char} (hfront : ∀ c ∈ front, IsLowered c)
    (before rest : List Char) :
    lowerList before (front ++ rest) = front ++ lowerList (front.reverse ++ before) rest := by
  induction front generalizing before with
  | nil => rfl
  | cons c front ih =>
    obtain ⟨hsigma, hfixed⟩ := hfront c List.mem_cons_self
    have hrest :=
      ih (fun other hother => hfront other (List.mem_cons_of_mem _ hother)) (c :: before)
    rw [List.cons_append, lowerList, if_neg (by simpa using hsigma), hfixed, hrest]
    simp

theorem exists_lowerList_append (before front rest : List Char) :
    ∃ lowered, lowerList before (front ++ rest) =
      lowered ++ lowerList (front.reverse ++ before) rest := by
  induction front generalizing before with
  | nil => exact ⟨[], rfl⟩
  | cons c front ih =>
    obtain ⟨lowered, hlowered⟩ := ih (c :: before)
    rw [List.cons_append, lowerList, hlowered, List.reverse_cons, List.append_assoc,
      List.singleton_append, ← List.append_assoc]
    exact ⟨_, rfl⟩

theorem lower_eq_self (h : ∀ c ∈ text.toList, IsLowered c) : lower text = text := by
  have hsame := lowerList_append h [] []
  rw [List.append_nil, lowerList, List.append_nil] at hsame
  rw [lower, hsame, String.ofList_toList]

theorem lower_eq_self_iff : lower text = text ↔ ∀ c ∈ text.toList, IsLowered c := by
  refine ⟨fun hlower c hc => ?_, lower_eq_self⟩
  rw [← hlower] at hc
  exact isLowered_of_mem_lower hc

theorem infix_lower (hword : lower word = word) (h : word.toList <:+: text.toList) :
    word.toList <:+: (lower text).toList := by
  obtain ⟨front, back, htext⟩ := h
  obtain ⟨lowered, hfront⟩ := exists_lowerList_append [] front (word.toList ++ back)
  rw [lower, String.toList_ofList, ← htext, List.append_assoc, hfront,
    lowerList_append (lower_eq_self_iff.mp hword)]
  exact ⟨lowered, _, List.append_assoc _ _ _⟩

theorem lower_eq_of_infix_lower (h : word.toList <:+: (lower text).toList) : lower word = word :=
  lower_eq_self fun _ hc => isLowered_of_mem_lower (h.mem hc)

/-! ## Letters of ASCII -/

/-- What does not tell the cases of the ASCII letters apart. -/
theorem apply_toLower {α : Type} (f : Char → α)
    (h : ∀ code < 128, f (Char.ofNat code).toLower = f (Char.ofNat code)) (c : Char) :
    f c.toLower = f c := by
  by_cases hascii : c.toNat < 128
  · have hcode := h c.toNat hascii
    rwa [Char.ofNat_toNat] at hcode
  · have hother : ¬ (c.val ≥ 'A'.val ∧ c.val ≤ 'Z'.val) := by
      intro hcapital
      have hle := UInt32.le_iff_toNat_le.mp hcapital.2
      exact hascii (Nat.lt_of_le_of_lt hle (by decide))
    have hsame : c.toLower = c := dif_neg hother
    rw [hsame]

/-- The first character that does not count for the casing of a word. -/
theorem head?_dropWhile_toLower (text : List Char) :
    ((text.map Char.toLower).dropWhile isCaseIgnorable).head?.map isCased =
      (text.dropWhile isCaseIgnorable).head?.map isCased := by
  have hignorable : isCaseIgnorable ∘ Char.toLower = isCaseIgnorable :=
    funext (apply_toLower isCaseIgnorable (by decide))
  have hcased : isCased ∘ Char.toLower = isCased := funext (apply_toLower isCased (by decide))
  rw [List.dropWhile_map, hignorable, List.head?_map, Option.map_map, hcased]

theorem sigmaIsFinal_eq (before after : List Char) :
    sigmaIsFinal before after =
      (((before.dropWhile isCaseIgnorable).head?.map isCased).getD false &&
        !((after.dropWhile isCaseIgnorable).head?.map isCased).getD false) := by
  unfold sigmaIsFinal
  cases before.dropWhile isCaseIgnorable <;> cases after.dropWhile isCaseIgnorable <;> rfl

/-- Lower case does not depend on the case of ASCII letters, not even that of a sigma near them. -/
theorem lowerList_toLower (before rest : List Char) :
    lowerList (before.map Char.toLower) (rest.map Char.toLower) = lowerList before rest := by
  induction rest generalizing before with
  | nil => rfl
  | cons c rest ih =>
    have hsigma := apply_toLower (· == capitalSigma) (by decide) c
    have hexpansion := apply_toLower lowerExpansion (by decide) c
    have hchar := apply_toLower lowerChar (by decide) c
    rw [List.map_cons, lowerList, lowerList, ← List.map_cons, ih, sigmaIsFinal_eq,
      sigmaIsFinal_eq before, head?_dropWhile_toLower, head?_dropWhile_toLower, hexpansion, hchar,
      hsigma]

variable {one other : String}

theorem map_eq_of_map_toLower {α : Type} (f : Char → α)
    (hf : ∀ code < 128, f (Char.ofNat code).toLower = f (Char.ofNat code))
    (h : one.toList.map Char.toLower = other.toList.map Char.toLower) :
    one.toList.map f = other.toList.map f := by
  have hcomp : f ∘ Char.toLower = f := funext (apply_toLower f hf)
  rw [← hcomp, ← List.map_map, h, List.map_map]

theorem lower_eq_of_map_toLower
    (h : one.toList.map Char.toLower = other.toList.map Char.toLower) :
    lower one = lower other := by
  rw [lower, lower, ← lowerList_toLower [] one.toList, h, lowerList_toLower]

end PrivacyScan.Text
