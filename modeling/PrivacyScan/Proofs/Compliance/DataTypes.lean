import PrivacyScan.Compliance.DataType
import PrivacyScan.Proofs.Table
import PrivacyScan.Proofs.Text
import PrivacyScan.Proofs.Text.Casing

/-!
# Normal forms of data types

A name is put in small letters and looked up in a table; where the table does not have it, the first
entry that shares a part with it decides, and where there is none, the name stays. What comes out is
said here without that search, and then that it is settled:

* **`toList_plainName`**, **`plainName_plainName`** — the plain form of a name, character by
  character, which is its own plain form;
* **`normalType_eq_iff`** — when a type is the normal form of a name.
-/

namespace PrivacyScan.Compliance

variable {name type : String}

/-! ## Plain names -/

/-- Blanks and dashes become underscores. -/
def plainChar (c : Char) : Char := if c = ' ' ∨ c = '-' then '_' else c

theorem plainChar_eq_or (c : Char) : plainChar c = '_' ∨ plainChar c = c := by
  unfold plainChar
  split
  · exact .inl rfl
  · exact .inr rfl

theorem plainChar_plainChar (c : Char) : plainChar (plainChar c) = plainChar c := by
  rcases plainChar_eq_or c with heq | heq
  · rw [heq]
    rfl
  · rw [heq, heq]

theorem toList_plainName (name : String) :
    (plainName name).toList = (Text.trim (Text.lower name)).toList.map plainChar := by
  have hblank : " ".toList = [' '] := rfl
  have hdash : "-".toList = ['-'] := rfl
  have hscore : "_".toList = ['_'] := rfl
  unfold plainName
  rw [Text.toList_replace hdash hscore, Text.toList_replace hblank hscore, List.map_map]
  refine List.map_congr_left fun c _ => ?_
  by_cases hc : c = ' '
  · simp [plainChar, hc]
  · simp [plainChar, hc]

theorem isLowered_of_mem_plainName {c : Char} (h : c ∈ (plainName name).toList) :
    Text.IsLowered c := by
  rw [toList_plainName, List.mem_map] at h
  obtain ⟨before, hbefore, rfl⟩ := h
  rcases plainChar_eq_or before with heq | heq
  · rw [heq]
    exact Text.isLowered_of_ascii (by decide) (by decide)
  · rw [heq]
    exact Text.isLowered_of_mem_lower (Text.mem_of_mem_trimBy hbefore)

theorem isSpace_plainChar {c : Char} (h : Text.isSpace c = false) :
    Text.isSpace (plainChar c) = false := by
  rcases plainChar_eq_or c with heq | heq
  · rw [heq]
    decide
  · rw [heq]
    exact h

theorem trim_plainName (name : String) : Text.trim (plainName name) = plainName name := by
  refine Text.trimBy_eq_self ?_ ?_
  · intro c hc
    rw [toList_plainName, List.head?_map] at hc
    obtain ⟨before, hbefore, rfl⟩ := Option.map_eq_some_iff.mp hc
    exact isSpace_plainChar (Text.of_mem_head?_trimBy hbefore)
  · intro c hc
    rw [toList_plainName, List.getLast?_map] at hc
    obtain ⟨before, hbefore, rfl⟩ := Option.map_eq_some_iff.mp hc
    exact isSpace_plainChar (Text.of_mem_getLast?_trimBy hbefore)

theorem plainName_plainName (name : String) : plainName (plainName name) = plainName name := by
  apply String.toList_injective
  rw [toList_plainName, Text.lower_eq_self fun _ => isLowered_of_mem_plainName, trim_plainName,
    toList_plainName, List.map_map]
  exact List.map_congr_left fun c _ => plainChar_plainChar c

/-- The small letters of ASCII and the underscore, with the one character between them. -/
def isPlain (c : Char) : Bool := Nat.ble 0x5F c.toNat && Nat.ble c.toNat 0x7A

/-- All steps to a plain name leave such a character alone. -/
structure IsKept (c : Char) : Prop where
  lowered : Text.IsLowered c
  notSpace : Text.isSpace c = false
  plain : plainChar c = c

/-- A plain character comes through lowering and the removal of other signs as it is. -/
theorem isKept_of_isPlain {c : Char} (h : isPlain c = true) : IsKept c := by
  unfold isPlain at h
  simp only [Bool.and_eq_true, Nat.ble_eq] at h
  have hsmall : c.toNat < 128 := by omega
  have htoLower := (Text.ascii_toLower c.toNat hsmall).2.2 (by omega)
  rw [Char.ofNat_toNat] at htoLower
  refine ⟨Text.isLowered_of_ascii (decide_eq_true hsmall) htoLower, ?_, ?_⟩
  · unfold Text.isSpace
    simp only [Bool.or_eq_false_iff, Bool.and_eq_false_iff, decide_eq_false_iff_not,
      beq_eq_false_iff_ne]
    omega
  · have hother : ¬ (c = ' ' ∨ c = '-') := by
      rintro (rfl | rfl)
      · exact absurd h (by decide)
      · exact absurd h (by decide)
    rw [plainChar, if_neg hother]

theorem map_plainChar {word : List Char} (h : ∀ c ∈ word, isPlain c = true) :
    word.map plainChar = word := by
  have hsame : ∀ c ∈ word, plainChar c = id c := fun c hc => (isKept_of_isPlain (h c hc)).plain
  rw [List.map_congr_left hsame, List.map_id]

theorem plainName_eq_self (h : ∀ c ∈ name.toList, isPlain c = true) : plainName name = name := by
  have hlower : Text.lower name = name :=
    Text.lower_eq_self fun c hc => (isKept_of_isPlain (h c hc)).lowered
  have hspace (c : Char) (hc : c ∈ name.toList) : Text.isSpace c = false :=
    (isKept_of_isPlain (h c hc)).notSpace
  have htrim : Text.trim name = name := Text.trimBy_eq_self
    (fun c hc => hspace c (List.mem_of_mem_head? hc))
    (fun c hc => hspace c (List.mem_of_mem_getLast? hc))
  apply String.toList_injective
  rw [toList_plainName, hlower, htrim, map_plainChar h]

/-- A plain word that stands in the small letters of a name stands in its plain form. -/
theorem infix_plainName {word : String} (hword : ∀ c ∈ word.toList, isPlain c = true)
    (h : word.toList <:+: (Text.lower name).toList) : word.toList <:+: (plainName name).toList := by
  have htrim : word.toList <:+: (Text.trim (Text.lower name)).toList :=
    Text.infix_trimBy (fun c hc => (isKept_of_isPlain (hword c hc)).notSpace) h
  rw [toList_plainName, ← map_plainChar hword]
  exact htrim.map plainChar

/-! ## Normal forms of names -/

def SharesPart (name key : String) : Prop :=
  key.toList <:+: name.toList ∨ name.toList <:+: key.toList

theorem SharesPart.refl (name : String) : SharesPart name name := .inl List.infix_rfl

theorem SharesPart.symm {key : String} (h : SharesPart name key) : SharesPart key name := Or.symm h

/-- The normal form of a name, by the entry of the table that decides. -/
inductive IsNormalForm (name : String) : String → Prop where
  /-- The table has the name. -/
  | listed {type : String} (hentry : (plainName name, type) ∈ knownTypes) : IsNormalForm name type
  /-- The table does not have the name, and this is the first entry that shares a part with it. -/
  | shared {key type : String} {before after : List (String × String)}
      (hother : ∀ entry ∈ knownTypes, plainName name ≠ entry.1)
      (htable : knownTypes = before ++ (key, type) :: after)
      (hbefore : ∀ entry ∈ before, ¬ SharesPart (plainName name) entry.1)
      (hkey : SharesPart (plainName name) key) : IsNormalForm name type
  /-- No entry shares a part with the name. -/
  | unknown (hnone : ∀ entry ∈ knownTypes, ¬ SharesPart (plainName name) entry.1) :
      IsNormalForm name (plainName name)

theorem sharesPart_iff {key : String} :
    (Text.contains name key || Text.contains key name) = true ↔ SharesPart name key := by
  unfold Text.contains SharesPart
  rw [Bool.or_eq_true, Text.hasInfix_iff, Text.hasInfix_iff]

/-- The name that the program computes is a normal form. -/
theorem isNormalForm_normalType (name : String) : IsNormalForm name (normalType name) := by
  unfold normalType
  dsimp only
  split
  · next type hlookup =>
    obtain ⟨before, after, htable, -⟩ := List.lookup_eq_some_iff.mp hlookup
    exact .listed (by rw [htable]; simp)
  · next hlookup =>
    have hother (entry : String × String) (hentry : entry ∈ knownTypes) :
        plainName name ≠ entry.1 := by
      simpa using List.lookup_eq_none_iff.mp hlookup entry hentry
    split
    · next key type hfind =>
      obtain ⟨hkey, before, after, htable, hbefore⟩ := List.find?_eq_some_iff_append.mp hfind
      refine .shared hother htable (fun entry hentry hshares => ?_) (sharesPart_iff.mp hkey)
      simpa [sharesPart_iff.mpr hshares] using hbefore entry hentry
    · next hfind =>
      refine .unknown fun entry hentry hshares => ?_
      exact List.find?_eq_none.mp hfind entry hentry (sharesPart_iff.mpr hshares)

/-- What the table has to be looked through for: no name is in it twice, its types are plain, and
each of them is an entry of its own, but for one, whose first word decides. -/
theorem knownTypes_checked :
    (Table.keys knownTypes).Nodup ∧
      (knownTypes.all fun entry => entry.2.toList.all isPlain) = true ∧
      (∀ entry ∈ knownTypes, (entry.2, entry.2) ∈ knownTypes ∨ entry.2 = "racial_ethnic") ∧
      normalType "racial_ethnic" = "racial_ethnic" := by
  decide +kernel

/-- A name has one normal form only, as the table is gone through in its order. -/
theorem normalType_eq (h : IsNormalForm name type) : normalType name = type := by
  cases h with
  | listed hentry =>
    have hlookup : knownTypes.lookup (plainName name) = some type :=
      (Table.get?_eq_some_iff knownTypes_checked.1).mpr hentry
    unfold normalType
    simp only [hlookup]
  | @shared key _ before after hother htable hbefore hkey =>
    have hlookup : knownTypes.lookup (plainName name) = none :=
      List.lookup_eq_none_iff.mpr fun entry hentry => by simpa using hother entry hentry
    -- the entry is found, as all before it share no part with the name
    have hfind : knownTypes.find? (fun entry =>
        Text.contains (plainName name) entry.1 || Text.contains entry.1 (plainName name)) =
          some (key, type) := by
      refine List.find?_eq_some_iff_append.mpr
        ⟨sharesPart_iff.mpr hkey, before, after, htable, fun entry hentry => ?_⟩
      rw [Bool.not_eq_true', ← Bool.not_eq_true, sharesPart_iff]
      exact hbefore entry hentry
    unfold normalType
    simp only [hlookup, hfind]
  | unknown hnone =>
    have hlookup : knownTypes.lookup (plainName name) = none := by
      refine List.lookup_eq_none_iff.mpr fun entry hentry => ?_
      rw [bne_iff_ne]
      exact fun heq => hnone entry hentry (heq ▸ SharesPart.refl _)
    have hfind : knownTypes.find? (fun entry =>
        Text.contains (plainName name) entry.1 || Text.contains entry.1 (plainName name)) = none :=
      List.find?_eq_none.mpr fun entry hentry hshares =>
        hnone entry hentry (sharesPart_iff.mp hshares)
    unfold normalType
    simp only [hlookup, hfind]

theorem normalType_eq_iff : normalType name = type ↔ IsNormalForm name type := by
  refine ⟨?_, normalType_eq⟩
  rintro rfl
  exact isNormalForm_normalType name

/-! ## Normal forms are settled -/

theorem normalType_type {key : String} (hentry : (key, type) ∈ knownTypes) :
    normalType type = type := by
  obtain ⟨-, hplain, hlisted, hracial⟩ := knownTypes_checked
  have hsame : plainName type = type :=
    plainName_eq_self (List.all_eq_true.mp (List.all_eq_true.mp hplain _ hentry))
  rcases hlisted _ hentry with hown | hwords
  · exact normalType_eq (.listed (hsame.symm ▸ hown))
  · have htype : type = "racial_ethnic" := hwords
    rw [htype]
    exact hracial

theorem IsNormalForm.normalType_eq_self (h : IsNormalForm name type) : normalType type = type := by
  cases h with
  | listed hentry => exact normalType_type hentry
  | @shared key _ before after _ htable _ _ =>
    have hentry : (key, type) ∈ knownTypes := by
      rw [htable]
      exact List.mem_append_cons_self
    exact normalType_type hentry
  | unknown hnone =>
    -- the plain form of the name is its own plain form, so the same search fails again
    have hagain : IsNormalForm (plainName name) (plainName (plainName name)) :=
      .unknown (by rwa [plainName_plainName])
    rw [plainName_plainName] at hagain
    exact normalType_eq hagain

/-! ## Lists of names -/

/-- What is asked of normal forms of lists. -/
structure IsClosure (normalize : List String → List String) : Prop where
  idempotent : ∀ names, normalize (normalize names) = normalize names
  sorted : ∀ names, (normalize names).Pairwise (· < ·)
  /-- Only the set of names counts. -/
  unordered : ∀ names others, (∀ name, name ∈ names ↔ name ∈ others) →
    normalize names = normalize others
  union : ∀ names others type,
    type ∈ normalize (names ++ others) ↔ type ∈ normalize names ∨ type ∈ normalize others

theorem mem_normalTypes_iff {names : List String} :
    type ∈ normalTypes names ↔ ∃ name ∈ names, IsNormalForm name type := by
  unfold normalTypes
  rw [Text.mem_sortedDistinct, List.mem_map]
  simp only [normalType_eq_iff]

theorem normalTypes_eq_iff {names others : List String} :
    normalTypes names = normalTypes others ↔
      ∀ type, type ∈ normalTypes names ↔ type ∈ normalTypes others := by
  unfold normalTypes
  rw [Text.sortedDistinct_eq_iff]
  simp only [Text.mem_sortedDistinct]

theorem normalTypes_normalTypes (names : List String) :
    normalTypes (normalTypes names) = normalTypes names := by
  have hfixed : (normalTypes names).map normalType = normalTypes names := by
    have hsame : ∀ type ∈ normalTypes names, normalType type = id type := by
      intro type htype
      obtain ⟨name, -, hnormal⟩ := mem_normalTypes_iff.mp htype
      exact hnormal.normalType_eq_self
    rw [List.map_congr_left hsame, List.map_id]
  rw [normalTypes_eq_iff]
  intro type
  rw [normalTypes, hfixed, Text.mem_sortedDistinct]

/-- **Normalisation is a closure operator on lists of names**: a second run changes nothing, the
types come in ascending order and once each, in whatever order and how often the names come, and
those of two lists together are those of both. The types are the normal forms of the names and no
others. -/
theorem normalTypes_isClosure :
    IsClosure normalTypes ∧
      ∀ names type, type ∈ normalTypes names ↔ ∃ name ∈ names, IsNormalForm name type := by
  refine ⟨⟨normalTypes_normalTypes, fun _ => Text.sortedDistinct_pairwise _, ?_, ?_⟩,
    fun _ _ => mem_normalTypes_iff⟩
  · intro names others hsame
    rw [normalTypes_eq_iff]
    intro type
    simp only [mem_normalTypes_iff, hsame]
  · intro names others type
    simp only [mem_normalTypes_iff, List.mem_append, or_and_right, exists_or]

end PrivacyScan.Compliance
