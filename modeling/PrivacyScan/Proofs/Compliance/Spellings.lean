import PrivacyScan.Proofs.Compliance.DataTypes

/-!
# Spellings of the names of data types

A name may be written in capitals, with blanks around it, and with a blank, a dash or an underscore
between its words. The plain form of a name does not depend on that. But the entries of the table
are looked up as they are written.
-/

namespace PrivacyScan.Compliance

/-- What a character stands for: a separator for any of them, and a letter for both its cases. -/
def letterOf (c : Char) : List Char :=
  if c = ' ' ∨ c = '-' ∨ c = '_' then ['_'] else Text.lowerExpansion c

/-- A way to write a name, with blanks around it. -/
def IsSpelling (key name : String) : Prop :=
  ∃ front body back : List Char, name.toList = front ++ (body ++ back) ∧
    (∀ c ∈ front, Text.isSpace c = true) ∧ (∀ c ∈ back, Text.isSpace c = true) ∧
    body.map letterOf = key.toList.map letterOf

theorem isSpelling_refl (key : String) : IsSpelling key key :=
  ⟨[], key.toList, [], by simp, nofun, nofun, rfl⟩

/-! ## The plain form of a spelling -/

/-- Lower case makes one character of a form of a plain letter. -/
theorem exists_lowered {c letter : Char} (h : letterOf c = [letter])
    (hplain : isPlain letter = true) :
    c ≠ Text.capitalSigma ∧
      ∃ lowered, Text.lowerExpansion c = [lowered] ∧ plainChar lowered = letter := by
  unfold letterOf at h
  split at h
  · next hseparator =>
    obtain rfl := List.singleton_inj.mp h
    rcases hseparator with rfl | rfl | rfl
    all_goals exact ⟨by decide, _, rfl, by decide⟩
  · refine ⟨?_, letter, h, (isKept_of_isPlain hplain).plain⟩
    rintro rfl
    -- a sigma stays one, which is not plain
    have hsmall : Text.lowerExpansion Text.capitalSigma = [Char.ofNat 0x3C3] := by decide +kernel
    obtain rfl := List.singleton_inj.mp (hsmall.symm.trans h)
    exact absurd hplain (by decide)

/-- Lowering turns a spelling of plain letters into these letters, and leaves what is lowered. -/
theorem exists_lowerList_spelled {body plain rest : List Char}
    (h : body.map letterOf = plain.map ([·])) (hplain : ∀ c ∈ plain, isPlain c = true)
    (hrest : ∀ c ∈ rest, Text.IsLowered c) (before : List Char) :
    ∃ lowered, Text.lowerList before (body ++ rest) = lowered ++ rest ∧
      lowered.map plainChar = plain := by
  induction body generalizing plain before with
  | nil =>
    obtain rfl := List.map_eq_nil_iff.mp h.symm
    have hsame := Text.lowerList_append hrest before []
    rw [List.append_nil, Text.lowerList, List.append_nil] at hsame
    exact ⟨[], hsame, rfl⟩
  | cons c body ih =>
    obtain ⟨letter, letters, rfl, hletter, hletters⟩ := List.map_eq_cons_iff.mp h.symm
    obtain ⟨hfirst, hothers⟩ := List.forall_mem_cons.mp hplain
    obtain ⟨hsigma, first, hexpansion, rfl⟩ := exists_lowered hletter.symm hfirst
    obtain ⟨lowered, hlowered, rfl⟩ := ih hletters.symm hothers (c :: before)
    refine ⟨first :: lowered, ?_, rfl⟩
    rw [List.cons_append, Text.lowerList, if_neg (by simpa using hsigma), hexpansion, hlowered]
    rfl

/-- A plain letter at the end of a name is made of no blank. -/
theorem isSpace_eq_false_of_plainChar {letter? : Option Char} {lowered : List Char}
    (hplain : ∀ c ∈ lowered.map plainChar, isPlain c = true) (hletter : letter? ≠ some '_') :
    ∀ c ∈ lowered, letter? = some (plainChar c) → Text.isSpace c = false := by
  rintro c hc rfl
  have hkept := isKept_of_isPlain (hplain _ (List.mem_map_of_mem hc))
  rcases plainChar_eq_or c with heq | heq
  · exact absurd (congrArg some heq) hletter
  · rw [← heq]
    exact hkept.notSpace

/-- A name of plain letters, with a separator at neither end. -/
def isKey (key : String) : Bool :=
  let plain := key.toList.map plainChar
  plain.all isPlain && !plain.isEmpty && plain.head? != some '_' && plain.getLast? != some '_' &&
    key.toList.map letterOf == plain.map ([·])

/-- Every spelling of a key comes down to the same plain name. -/
theorem plainName_of_isSpelling {key name : String} (hkey : isKey key = true)
    (hname : IsSpelling key name) : (plainName name).toList = key.toList.map plainChar := by
  unfold isKey at hkey
  simp only [Bool.and_eq_true, List.all_eq_true, bne_iff_ne, beq_iff_eq, Bool.not_eq_true',
    List.isEmpty_eq_false_iff] at hkey
  obtain ⟨⟨⟨⟨hplain, hsome⟩, hhead⟩, hlast⟩, hletters⟩ := hkey
  obtain ⟨front, body, back, htext, hfront, hback, hbody⟩ := hname
  obtain ⟨lowered, hlowered, hmap⟩ := exists_lowerList_spelled (hbody.trans hletters) hplain
    (fun c hc => Text.isLowered_of_isSpace (hback c hc)) (front.reverse ++ [])
  have hlower : (Text.lower name).toList = front ++ (lowered ++ back) := by
    rw [Text.lower, String.toList_ofList, htext,
      Text.lowerList_append (fun c hc => Text.isLowered_of_isSpace (hfront c hc)), hlowered]
  rw [← hmap] at hplain hsome hhead hlast
  have htrim : Text.trim (Text.lower name) = String.ofList lowered := by
    refine Text.trimBy_eq_of_ends hlower hfront hback (fun c hc => ?_) (fun c hc => ?_)
      (by simpa using hsome)
    · refine isSpace_eq_false_of_plainChar hplain hhead c (List.mem_of_mem_head? hc) ?_
      rw [List.head?_map, Option.mem_def.mp hc]
      rfl
    · refine isSpace_eq_false_of_plainChar hplain hlast c (List.mem_of_mem_getLast? hc) ?_
      rw [List.getLast?_map, Option.mem_def.mp hc]
      rfl
  rw [toList_plainName, htrim, String.toList_ofList, hmap]

/-! ## The entries of the table -/

/-- What the entries have to be looked through for. The one with a dash is missed, and no other
entry shares a part with it. -/
theorem knownTypes_keys_checked :
    ∀ entry ∈ knownTypes, isKey entry.1 = true ∧ ' ' ∉ entry.1.toList ∧
    ('-' ∈ entry.1.toList →
      normalType entry.1 = plainName entry.1 ∧ plainName entry.1 ≠ entry.2) := by
  decide +kernel

theorem plainName_key {key : String} (hkey : isKey key = true) (hblank : ' ' ∉ key.toList)
    (hdash : '-' ∉ key.toList) : plainName key = key := by
  have hkept : ∀ c ∈ key.toList, plainChar c = id c := by
    intro c hc
    refine if_neg ?_
    rintro (rfl | rfl)
    · exact hblank hc
    · exact hdash hc
  apply String.toList_injective
  rw [plainName_of_isSpelling hkey (isSpelling_refl key), List.map_congr_left hkept, List.map_id]

/-- **A spelling of an entry gets the type of the entry exactly when the entry has no dash.** With a
dash in it, an entry is looked up in vain, and the plain form of the name stays. -/
theorem spelled_entry_effective_iff_no_dash (key type name : String)
    (hentry : (key, type) ∈ knownTypes) (hname : IsSpelling key name) :
    (normalTypes [name] = [type] ↔ '-' ∉ key.toList) ∧
      ('-' ∈ key.toList → normalTypes [name] = [plainName key]) := by
  obtain ⟨hkey, hblank, hmissed⟩ := knownTypes_keys_checked _ hentry
  have hplain : plainName name = plainName key := String.toList_injective
    ((plainName_of_isSpelling hkey hname).trans
      (plainName_of_isSpelling hkey (isSpelling_refl key)).symm)
  have hlist : normalTypes [name] = [normalType key] := by
    unfold normalTypes normalType
    rw [List.map_singleton, hplain]
    rfl
  rw [hlist]
  by_cases hdash : '-' ∈ key.toList
  · simpa [hdash, (hmissed hdash).1] using (hmissed hdash).2
  · have hlisted : (plainName key, type) ∈ knownTypes := by rwa [plainName_key hkey hblank hdash]
    simp [hdash, normalType_eq (.listed hlisted)]

/-- In capitals, with blanks around it and another separator. -/
theorem creditCard_spelled :
    ("credit_card", "credit_card") ∈ knownTypes ∧ IsSpelling "credit_card" " Credit-CARD\n" ∧
      normalTypes [" Credit-CARD\n"] = ["credit_card"] := by
  have hentry : ("credit_card", "credit_card") ∈ knownTypes := by decide
  have hname : IsSpelling "credit_card" " Credit-CARD\n" :=
    ⟨[' '], "Credit-CARD".toList, ['\n'], by decide, List.forall_mem_singleton.mpr (by decide),
      List.forall_mem_singleton.mpr (by decide), by decide⟩
  exact ⟨hentry, hname, (spelled_entry_effective_iff_no_dash _ _ _ hentry hname).1.mpr (by decide)⟩

/-- The entry with a dash is missed even in its own spelling. -/
theorem eMail_missed :
    ("e-mail", "email") ∈ knownTypes ∧ normalTypes ["e-mail"] = ["e_mail"] := by
  decide +kernel

end PrivacyScan.Compliance
