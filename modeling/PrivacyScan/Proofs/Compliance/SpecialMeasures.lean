import PrivacyScan.Compliance.Article
import PrivacyScan.Compliance.Measure
import PrivacyScan.Proofs.Compliance.DataTypes
import PrivacyScan.Proofs.Outcome

/-!
# Articles and measures for the special categories

A classification gets the article for the special categories when one of ten words stands in one of
its types, or when its category says so. The measures that protect such data, pseudonymisation and
an assessment of the impact, are taken for four types in normal form, or when the category says so.
Here the second is said in terms of the table of types, which shows where the two part.
-/

namespace PrivacyScan.Compliance

variable {name type category rule : String} {types : List String} {isGrave : Bool}
  {entry : String × String} {measure : Measure} {classification : Document}

def HasWord (text word : String) : Prop := word.toList <:+: (Text.lower text).toList

theorem contains_lower_iff {text word : String} :
    Text.contains (Text.lower text) word = true ↔ HasWord text word :=
  Text.hasInfix_iff

/-! ## The article -/

def AddsSpecial (types : List String) (category : String) : Prop :=
  "Art. 9(1)" ∈ types.flatMap articlesOfType ++ articlesOfCategory category

theorem mem_articlesOfType_iff :
    "Art. 9(1)" ∈ articlesOfType type ↔ ∃ word ∈ specialWords, HasWord type word := by
  have hwords : Text.containsAny (Text.lower type) specialWords = true ↔
      ∃ word ∈ specialWords, HasWord type word := Text.containsAny_iff
  rw [← hwords]
  unfold articlesOfType
  by_cases hspecial : Text.containsAny (Text.lower type) specialWords = true
  · simp [hspecial]
  · simp [hspecial]

theorem mem_articlesOfCategory_iff :
    "Art. 9(1)" ∈ articlesOfCategory category ↔ HasWord category "special" := by
  rw [← contains_lower_iff]
  unfold articlesOfCategory
  by_cases hspecial : Text.contains (Text.lower category) "special" = true
  · simp [hspecial]
  · simp [hspecial]

theorem addsSpecial_iff :
    AddsSpecial types category ↔
      HasWord category "special" ∨ ∃ type ∈ types, ∃ word ∈ specialWords, HasWord type word := by
  unfold AddsSpecial
  rw [List.mem_append, List.mem_flatMap, mem_articlesOfCategory_iff, or_comm]
  simp only [mem_articlesOfType_iff]

/-- Special data or a special category brings in the article, whatever else is named. -/
theorem mem_articles_of_addsSpecial (h : AddsSpecial types category) (named : Option String)
    (text : String) : "Art. 9(1)" ∈ articles named types category text := by
  have hfound : "Art. 9(1)" ∈ (named.map namedArticle).toList ++ types.flatMap articlesOfType ++
      articlesOfCategory category ++ articlesOfText text := by
    unfold AddsSpecial at h
    simp only [List.mem_append] at h ⊢
    rcases h with htype | hcategory
    · exact .inl (.inl (.inr htype))
    · exact .inl (.inr hcategory)
  have hsome : ((named.map namedArticle).toList ++ types.flatMap articlesOfType ++
      articlesOfCategory category ++ articlesOfText text).isEmpty = false :=
    List.isEmpty_eq_false_iff.mpr (List.ne_nil_of_mem hfound)
  unfold articles
  dsimp only
  rw [hsome, Bool.false_and, if_neg Bool.false_ne_true, Text.mem_sortedDistinct]
  exact hfound

/-! ## Types that come to a special one -/

/-- The entries of the table for the types that measures are taken for. -/
def specialEntries : List (String × String) := knownTypes.filter (specialTypes.contains ·.2)

def earlierEntries : List (String × String) := knownTypes.takeWhile (!specialTypes.contains ·.2)

def laterEntries : List (String × String) :=
  knownTypes.drop (earlierEntries.length + specialEntries.length)

/-- An entry for one of the special types shares a part with the type, and no earlier entry does. -/
structure IsDecidedSpecial (type : String) : Prop where
  earlier : ∀ entry ∈ earlierEntries, ¬ SharesPart (plainName type) entry.1
  special : ∃ entry ∈ specialEntries, SharesPart (plainName type) entry.1

/-- What the table has to be looked through for: the special entries stand together, their names
share no part with a name of another entry, and each special type shares a part with some entry. -/
theorem specialEntries_checked :
    knownTypes = earlierEntries ++ (specialEntries ++ laterEntries) ∧
      (specialEntries.all fun entry => (earlierEntries ++ laterEntries).all fun other =>
        !(Text.contains entry.1 other.1 || Text.contains other.1 entry.1)) = true ∧
      (specialTypes.all fun type => knownTypes.any fun entry => Text.contains type entry.1) = true ∧
      (specialWords.all fun word => word.toList.all isPlain) = true := by
  decide +kernel

-- from here on the table is not looked into
attribute [local irreducible] knownTypes specialTypes specialEntries earlierEntries laterEntries
  plainName normalType

theorem mem_knownTypes_cases (hentry : entry ∈ knownTypes) :
    entry ∈ earlierEntries ∨ entry ∈ specialEntries ∨ entry ∈ laterEntries := by
  rw [specialEntries_checked.1, List.mem_append, List.mem_append] at hentry
  exact hentry

theorem mem_specialEntries_iff :
    entry ∈ specialEntries ↔ entry ∈ knownTypes ∧ entry.2 ∈ specialTypes := by
  unfold specialEntries
  rw [List.mem_filter, List.contains_iff_mem]

theorem not_sharesPart_of_special {other : String × String} (hentry : entry ∈ specialEntries)
    (hother : other ∈ earlierEntries ∨ other ∈ laterEntries) : ¬ SharesPart entry.1 other.1 := by
  have hall := List.all_eq_true.mp specialEntries_checked.2.1 entry hentry
  have hone := List.all_eq_true.mp hall other (List.mem_append.mpr hother)
  rw [Bool.not_eq_true', ← Bool.not_eq_true, sharesPart_iff] at hone
  exact hone

/-- The entries that come first in the table are before every entry for special data. -/
theorem mem_of_mem_earlierEntries {last : String × String} {before after : List (String × String)}
    (htable : knownTypes = before ++ last :: after) (hlast : last.2 ∈ specialTypes)
    (hentry : entry ∈ earlierEntries) : entry ∈ before := by
  have hstops : (!specialTypes.contains last.2) = false := by
    rw [List.contains_iff_mem.mpr hlast]
    rfl
  unfold earlierEntries at hentry
  rw [htable] at hentry
  clear htable
  induction before with
  | nil =>
    rw [List.nil_append, List.takeWhile_cons, hstops] at hentry
    cases hentry
  | cons first before ih =>
    rw [List.cons_append, List.takeWhile_cons] at hentry
    split at hentry
    · rcases List.mem_cons.mp hentry with rfl | hrest
      · exact List.mem_cons_self
      · exact List.mem_cons_of_mem _ (ih hrest)
    · cases hentry

/-- A name with a special normal form is decided by an entry for special data. -/
theorem IsNormalForm.isDecidedSpecial (h : IsNormalForm name type) (htype : type ∈ specialTypes) :
    IsDecidedSpecial name := by
  cases h with
  | listed hentry =>
    have hspecial : (plainName name, type) ∈ specialEntries :=
      mem_specialEntries_iff.mpr ⟨hentry, htype⟩
    refine ⟨fun entry hearlier => ?_, _, hspecial, SharesPart.refl _⟩
    exact not_sharesPart_of_special hspecial (.inl hearlier)
  | @shared key _ before after _ htable hbefore hkey =>
    have hentry : (key, type) ∈ knownTypes := by
      rw [htable]
      exact List.mem_append_cons_self
    refine ⟨fun entry hearlier => ?_, _, mem_specialEntries_iff.mpr ⟨hentry, htype⟩, hkey⟩
    exact hbefore entry (mem_of_mem_earlierEntries htable htype hearlier)
  | unknown hnone =>
    -- each special type shares a part with an entry, so it is not unknown
    have hshared := List.all_eq_true.mp specialEntries_checked.2.2.1 _ htype
    obtain ⟨entry, hentry, hcontains⟩ := List.any_eq_true.mp hshared
    exact absurd (.inl (Text.hasInfix_iff.mp hcontains)) (hnone entry hentry)

/-- The first special entry that shares a part decides where the table does not have the name. -/
theorem IsDecidedSpecial.exists_shared (h : IsDecidedSpecial name)
    (hother : ∀ entry ∈ knownTypes, plainName name ≠ entry.1) :
    ∃ type ∈ specialTypes, IsNormalForm name type := by
  obtain ⟨entry, hentry, hshares⟩ := h.special
  have hsome : (specialEntries.find? fun entry =>
      Text.contains (plainName name) entry.1 || Text.contains entry.1 (plainName name)).isSome := by
    rw [List.find?_isSome]
    exact ⟨entry, hentry, sharesPart_iff.mpr hshares⟩
  obtain ⟨⟨key, type⟩, hfind⟩ := Option.isSome_iff_exists.mp hsome
  obtain ⟨hkey, before, after, hspecial, hbefore⟩ := List.find?_eq_some_iff_append.mp hfind
  have htable :
      knownTypes = (earlierEntries ++ before) ++ (key, type) :: (after ++ laterEntries) := by
    rw [specialEntries_checked.1, hspecial]
    simp
  have hmem : (key, type) ∈ specialEntries := by
    rw [hspecial]
    exact List.mem_append_cons_self
  refine ⟨type, (mem_specialEntries_iff.mp hmem).2,
    .shared hother htable ?_ (sharesPart_iff.mp hkey)⟩
  intro entry hentry hshares
  rcases List.mem_append.mp hentry with hearlier | hbetween
  · exact h.earlier entry hearlier hshares
  · simpa [sharesPart_iff.mpr hshares] using hbefore entry hbetween

/-- What an entry for special data decides has a special normal form. -/
theorem IsDecidedSpecial.exists_isNormalForm (h : IsDecidedSpecial name) :
    ∃ type ∈ specialTypes, IsNormalForm name type := by
  by_cases hlisted : ∃ type, (plainName name, type) ∈ knownTypes
  · obtain ⟨type, hentry⟩ := hlisted
    refine ⟨type, ?_, .listed hentry⟩
    rcases mem_knownTypes_cases hentry with hearlier | hspecial | hlater
    · have hnot := h.earlier _ hearlier
      exact absurd (SharesPart.refl (plainName name)) hnot
    · exact (mem_specialEntries_iff.mp hspecial).2
    · -- no special entry shares a part with a later one
      obtain ⟨entry, hentry, hshares⟩ := h.special
      have hnot := not_sharesPart_of_special hentry (.inr hlater)
      exact absurd hshares.symm hnot
  · refine h.exists_shared fun entry hentry heq => hlisted ⟨entry.2, ?_⟩
    rw [heq]
    exact hentry

theorem normalType_mem_specialTypes_iff :
    normalType name ∈ specialTypes ↔ IsDecidedSpecial name := by
  constructor
  · exact (isNormalForm_normalType name).isDecidedSpecial
  · intro hdecided
    obtain ⟨type, htype, hnormal⟩ := hdecided.exists_isNormalForm
    rw [normalType_eq hnormal]
    exact htype

/-- The words among the ten that are entries for special types themselves. -/
def coveredWords : List String :=
  specialWords.filter fun word => specialEntries.any fun entry => entry.1 == word

/-- With one of these words in it, a name comes to a special type unless an earlier entry shares a
part with it. -/
theorem isDecidedSpecial_iff_of_covered {word : String} (hword : word ∈ coveredWords)
    (h : HasWord name word) :
    IsDecidedSpecial name ↔ ∀ entry ∈ earlierEntries, ¬ SharesPart (plainName name) entry.1 := by
  obtain ⟨hspecial, hcovered⟩ := List.mem_filter.mp hword
  obtain ⟨entry, hentry, heq⟩ := List.any_eq_true.mp hcovered
  have hplain : ∀ c ∈ word.toList, isPlain c = true :=
    List.all_eq_true.mp (List.all_eq_true.mp specialEntries_checked.2.2.2 word hspecial)
  have hshares : SharesPart (plainName name) entry.1 := by
    rw [beq_iff_eq.mp heq]
    exact .inl (infix_plainName hplain h)
  exact ⟨fun hdecided => hdecided.earlier, fun hearlier => ⟨hearlier, entry, hentry, hshares⟩⟩

/-! ## The measures -/

theorem mem_map_mk_iff {codes : List String} {priority : Priority} :
    measure ∈ codes.map (⟨·, priority⟩) ↔ measure.priority = priority ∧ measure.code ∈ codes := by
  rw [List.mem_map]
  constructor
  · rintro ⟨code, hcode, rfl⟩
    exact ⟨rfl, hcode⟩
  · rintro ⟨hpriority, hcode⟩
    exact ⟨measure.code, hcode, by rw [← hpriority]⟩

theorem keepFirst_subset {measures kept : List Measure} (hkept : kept ⊆ measures)
    (hmeasure : measure ∈ measures) :
    (if kept.any (·.code == measure.code) then kept else kept ++ [measure]) ⊆ measures := by
  split
  · exact hkept
  · exact List.append_subset.mpr ⟨hkept, List.cons_subset.mpr ⟨hmeasure, List.nil_subset _⟩⟩

theorem distinctMeasures_subset (measures : List Measure) : distinctMeasures measures ⊆ measures :=
  List.foldlRecOn (motive := fun kept => kept ⊆ measures) measures _ (List.nil_subset _)
    fun _ hkept _ hmeasure => keepFirst_subset hkept hmeasure

/-- A measure that is the only one of its code stays when the first of each code is kept. -/
theorem mem_distinctMeasures_iff {measures : List Measure}
    (hunique : ∀ other ∈ measures, other.code = measure.code → other = measure) :
    measure ∈ distinctMeasures measures ↔ measure ∈ measures := by
  refine ⟨fun hmem => distinctMeasures_subset measures hmem, fun hmem => ?_⟩
  unfold distinctMeasures
  refine Table.foldl_holds_of_mem (fun kept => kept ⊆ measures) (fun kept => measure ∈ kept) hmem
    (fun _ hother _ hkept => keepFirst_subset hkept hother) (fun kept hkept => ?item)
    (fun other _ _ kept _ hholds => ?other) (List.nil_subset _)
  case item =>
    split
    · next hany =>
      -- another one of this code would be the measure itself
      obtain ⟨first, hfirst, hcode⟩ := List.any_eq_true.mp hany
      exact hunique first (hkept hfirst) (beq_iff_eq.mp hcode) ▸ hfirst
    · exact List.mem_append_right _ List.mem_cons_self
  case other =>
    split
    · exact hholds
    · exact List.mem_append_left _ hholds

/-- The types or the category call for the measures that protect the special categories. -/
def CallsForProtection (types : List String) (category : String) : Prop :=
  HasWord category "special" ∨ ∃ type ∈ types, IsDecidedSpecial type

theorem callsForProtection_iff :
    (Text.contains (Text.lower category) "special" ||
      (normalTypes types).any (specialTypes.contains ·)) = true ↔
        CallsForProtection types category := by
  unfold CallsForProtection
  rw [Bool.or_eq_true, contains_lower_iff, List.any_eq_true]
  refine or_congr_right ?_
  simp only [← normalType_mem_specialTypes_iff, List.contains_iff_mem, mem_normalTypes_iff,
    ← normalType_eq_iff]
  constructor
  · rintro ⟨_, ⟨type, htype, rfl⟩, hspecial⟩
    exact ⟨type, htype, hspecial⟩
  · rintro ⟨type, htype, hspecial⟩
    exact ⟨_, ⟨type, htype, rfl⟩, hspecial⟩

/-- The measures that protect the special categories: pseudonymisation and an assessment of the
impact. -/
def protectiveCodes : List String := ["PSC-001", "PRI-002"]

theorem mem_ite_nil {condition : Bool} {items : List Measure} :
    (measure ∈ if condition = true then items else []) ↔ condition = true ∧ measure ∈ items := by
  cases condition <;> simp

theorem mem_demands_iff (hcode : measure.code ∈ protectiveCodes) :
    measure ∈ demands types category rule isGrave ↔
      measure.priority = .required ∧ CallsForProtection types category := by
  rw [← callsForProtection_iff]
  unfold demands required recommended
  simp only [List.mem_append, mem_ite_nil, mem_map_mk_iff]
  unfold protectiveCodes at hcode
  simp only [List.mem_cons, List.not_mem_nil, or_false] at hcode
  rcases hcode with hcode | hcode
  · simp [hcode, and_comm]
  · simp [hcode, and_comm]

/-- **When the measures that protect the special categories are taken**: they are always required,
and no measure that comes for another reason takes their place. -/
theorem mem_measures_iff (hcode : measure.code ∈ protectiveCodes) :
    measure ∈ measures types category rule isGrave ↔
      measure.priority = .required ∧ CallsForProtection types category := by
  unfold measures
  dsimp only
  split
  · next hnone =>
    have hempty : demands types category rule isGrave = [] :=
      List.isEmpty_iff.mp (Bool.and_eq_true_iff.mp hnone).1
    have hdisjoint : ∀ code ∈ protectiveCodes, code ∉ ["ACC-001", "ACC-004", "POL-001"] := by decide
    rw [← mem_demands_iff hcode, hempty, recommended, mem_map_mk_iff]
    exact iff_of_false (fun hdefault => hdisjoint _ hcode hdefault.2) List.not_mem_nil
  · by_cases hpriority : measure.priority = .required
    · rw [← mem_demands_iff hcode]
      refine mem_distinctMeasures_iff fun other hother hsame => ?_
      have hothers := ((mem_demands_iff (hsame ▸ hcode)).mp hother).1
      cases measure
      cases other
      simp_all
    · refine iff_of_false (fun hmem => hpriority ?_) fun h => hpriority h.1
      exact ((mem_demands_iff hcode).mp (distinctMeasures_subset _ hmem)).1

/-! ## Classifications from outside -/

/-- What a classification says of its types and its category. -/
structure IsRead (classification : Document) (types : List String) (category : String) : Prop where
  lists : ∃ listed, classification.get "pii_types" (.list []) = .ok listed ∧
    textsOf listed = .ok types
  names : ∃ named, classification.get "category" (.text "") = .ok named ∧
    named.asText "lower" = .ok category

/-- What is read once the article that a classification names is known. -/
def articlesBeside (classification description : Document) (named : Option String) :
    Outcome (List String) := do
  let types ← textsOf (← classification.get "pii_types" (.list []))
  let category ← (← classification.get "category" (.text "")).asText "lower"
  let reasoning ← classification.get "reasoning" (.text "")
  return articles named types category (description.shown ++ " " ++ reasoning.shown)

theorem exists_articlesBeside {description : Document} {found : List String}
    (h : articlesOf classification description = .ok found) :
    ∃ named, articlesBeside classification description named = .ok found := by
  unfold articlesOf at h
  obtain ⟨article, -, h⟩ := Outcome.bind_eq_ok.mp h
  dsimp only at h
  split at h
  · obtain ⟨named, -, h⟩ := Outcome.bind_eq_ok.mp h
    exact ⟨named, h⟩
  · exact ⟨none, h⟩

theorem of_articlesOf {description : Document} {found : List String}
    (h : articlesOf classification description = .ok found) :
    ∃ named types category text,
      IsRead classification types category ∧ found = articles named types category text := by
  obtain ⟨named, h⟩ := exists_articlesBeside h
  unfold articlesBeside at h
  obtain ⟨listed, hlisted, h⟩ := Outcome.bind_eq_ok.mp h
  obtain ⟨types, htypes, h⟩ := Outcome.bind_eq_ok.mp h
  obtain ⟨field, hfield, h⟩ := Outcome.bind_eq_ok.mp h
  obtain ⟨category, hcategory, h⟩ := Outcome.bind_eq_ok.mp h
  obtain ⟨reasoning, -, h⟩ := Outcome.bind_eq_ok.mp h
  exact ⟨named, types, category, _, ⟨⟨listed, hlisted, htypes⟩, field, hfield, hcategory⟩,
    (Except.ok.inj h).symm⟩

theorem IsRead.measuresOf_eq (h : IsRead classification types category) (rule : String) :
    ∃ isGrave, measuresOf classification rule = .ok (measures types category rule isGrave) := by
  obtain ⟨⟨listed, hlisted, htypes⟩, field, hfield, hcategory⟩ := h
  cases classification with
  | object fields =>
    unfold measuresOf
    rw [hlisted, Outcome.ok_bind, htypes, Outcome.ok_bind, hfield]
    simp only [Document.get, Outcome.ok_bind, hcategory]
    exact ⟨_, rfl⟩
  | null | bool _ | int _ | float _ | text _ | dated _ _ | list _ => cases hlisted

/-- **The measures follow the article where a special entry decides.** Let the articles of a
classification be found. Then there are measures as well. A word in the types or the category adds
the article; the two measures are taken, and then as required ones, exactly when the category says
"special" or a special entry decides one of the types. Of the ten words six are special entries, and
a type with one of these is decided so unless an earlier entry shares a part with it. -/
theorem measures_taken_iff_special_entry_decides {classification description : Document}
    {found : List String} (hfound : articlesOf classification description = .ok found)
    (rule : String) :
    ∃ types category taken, IsRead classification types category ∧
      measuresOf classification rule = .ok taken ∧
      (AddsSpecial types category ↔
        HasWord category "special" ∨ ∃ type ∈ types, ∃ word ∈ specialWords, HasWord type word) ∧
      (AddsSpecial types category → "Art. 9(1)" ∈ found) ∧
      (∀ code ∈ protectiveCodes, ∀ priority, ⟨code, priority⟩ ∈ taken ↔
        priority = .required ∧
          (HasWord category "special" ∨ ∃ type ∈ types, IsDecidedSpecial type)) ∧
      ∀ type ∈ types, ∀ word ∈ coveredWords, HasWord type word →
        (IsDecidedSpecial type ↔ ∀ entry ∈ earlierEntries,
          ¬ SharesPart (plainName type) entry.1) := by
  obtain ⟨named, types, category, text, hread, rfl⟩ := of_articlesOf hfound
  obtain ⟨isGrave, hmeasures⟩ := hread.measuresOf_eq rule
  refine ⟨types, category, _, hread, hmeasures, addsSpecial_iff, fun hadds => ?_,
    fun code hcode _ => ?_, fun type _ word hword => isDecidedSpecial_iff_of_covered hword⟩
  · exact mem_articles_of_addsSpecial hadds named text
  · exact mem_measures_iff hcode

def healthRecord : Document :=
  .object [("pii_types", .texts ["email", "Health Data"]), ("category", .text "pii")]

/-- A record of health data, with both of its measures. -/
theorem healthRecord_protected :
    ∃ found, articlesOf healthRecord (.text "") = .ok found ∧ "Art. 9(1)" ∈ found ∧
      ∃ taken, measuresOf healthRecord "LOG_PII" = .ok taken ∧
        ⟨"PSC-001", .required⟩ ∈ taken ∧ ⟨"PRI-002", .required⟩ ∈ taken := by
  have hfound : articlesOf healthRecord (.text "") =
      .ok (articles none ["email", "Health Data"] "pii" " ") := rfl
  have hword : HasWord "Health Data" "health" := contains_lower_iff.mp (by decide)
  have hdecided : IsDecidedSpecial "Health Data" :=
    normalType_mem_specialTypes_iff.mp (by decide +kernel)
  obtain ⟨types, category, taken, ⟨⟨listed, hlisted, htypes⟩, -⟩, htaken, hadds, harticle,
    hcodes, -⟩ :=
    measures_taken_iff_special_entry_decides hfound "LOG_PII"
  obtain rfl : types = ["email", "Health Data"] := by
    cases hlisted
    exact (Except.ok.inj htypes).symm
  have hsome : ∃ type ∈ ["email", "Health Data"], IsDecidedSpecial type :=
    ⟨"Health Data", by simp, hdecided⟩
  refine ⟨_, hfound, harticle (hadds.mpr (.inr ?_)), taken, htaken, ?_, ?_⟩
  · exact ⟨"Health Data", by simp, "health", by decide, hword⟩
  · exact (hcodes "PSC-001" (by decide) _).mpr ⟨rfl, .inr hsome⟩
  · exact (hcodes "PRI-002" (by decide) _).mpr ⟨rfl, .inr hsome⟩

/-- Data on political opinions, which none of the special entries is for. -/
def opinionRecord : Document :=
  .object [("pii_types", .texts ["political_opinion"]), ("category", .text "pii")]

/-- The article is added and neither measure is taken. -/
theorem opinionRecord_not_protected :
    AddsSpecial ["political_opinion"] "pii" ∧
      (∃ found, articlesOf opinionRecord (.text "") = .ok found ∧ "Art. 9(1)" ∈ found) ∧
      measuresOf opinionRecord "LOG_PII" =
        .ok [⟨"LOG-001", .required⟩, ⟨"LOG-002", .recommended⟩, ⟨"PRI-003", .recommended⟩] := by
  have hword : HasWord "political_opinion" "political" := contains_lower_iff.mp (by decide)
  have hadds : AddsSpecial ["political_opinion"] "pii" :=
    addsSpecial_iff.mpr (.inr ⟨_, List.mem_cons_self, "political", by decide, hword⟩)
  exact ⟨hadds, ⟨_, rfl, mem_articles_of_addsSpecial hadds none " "⟩, by decide +kernel⟩

end PrivacyScan.Compliance
