import Mathlib.Tactic.TFAE
import PrivacyScan.Classify.Classifier
import PrivacyScan.Proofs.Text

/-!
# What a verdict on code says

The rules and the special categories that apply to a piece of code decide its verdict. When they
apply is said here without the search that finds out, and then what the verdict makes of them.
-/

namespace PrivacyScan

/-! ## The graver of two levels -/

namespace Severity

theorem rank_le_max_left (current new : Severity) : current.rank ≤ (current.max new).rank := by
  unfold max
  split
  · next hgraver => exact Nat.le_of_lt hgraver
  · exact Nat.le_refl _

theorem rank_le_max_right (current new : Severity) : new.rank ≤ (current.max new).rank := by
  unfold max
  split
  · exact Nat.le_refl _
  · next hmilder => exact Nat.le_of_not_lt hmilder

theorem max_eq_or (current new : Severity) : current.max new = current ∨ current.max new = new := by
  unfold max
  split
  · exact .inr rfl
  · exact .inl rfl

theorem eq_info_of_rank_le {level : Severity} (h : level.rank ≤ info.rank) : level = info := by
  cases level with
  | info => rfl
  | critical | high | medium | low => exact absurd h (by decide)

theorem rank_le_critical (level : Severity) : level.rank ≤ critical.rank := by
  cases level <;> decide

end Severity

namespace Classify

-- the rules themselves are not looked into here
attribute [local irreducible] dataRules specialCategories

variable {code context : String} {names more : List String} {rule : DataRule}
  {rules : List DataRule}

/-! ## When a rule matches -/

/-- The word occurs in the code or in its context, both in lower case. -/
def Mentions (code context word : String) : Prop :=
  word.toList <:+: (Text.lower code).toList ∨ word.toList <:+: (Text.lower context).toList

theorem mentionsAny_iff {words : List String} :
    (Sample.ofCode code context names).mentionsAny words = true ↔
      ∃ word ∈ words, Mentions code context word := by
  unfold Sample.mentionsAny Sample.ofCode Mentions Text.contains
  simp only [List.any_eq_true, Bool.or_eq_true, Text.hasInfix_iff]

theorem not_mentionsAny_iff {words : List String} :
    (!(Sample.ofCode code context names).mentionsAny words) = true ↔
      ∀ word ∈ words, ¬ Mentions code context word := by
  rw [Bool.not_eq_true', ← Bool.not_eq_true, mentionsAny_iff]
  simp

/-- A rule matches where none of its exclusions is mentioned, and the code has one of its patterns
or one of the names of variables is, but for case, one of its own. -/
structure DataRule.Matches (rule : DataRule) (code context : String) (names : List String) :
    Prop where
  allowed : ∀ word ∈ rule.exclusions, ¬ Mentions code context word
  found : (∃ pattern ∈ rule.patterns, pattern.occursIn (Text.lower code) = true) ∨
    ∃ name ∈ names, ∃ known ∈ rule.variableNames, Text.lower name = Text.lower known

/-- A special category is detected where the code has one of its patterns, none of its exclusions is
mentioned, and one of its contexts is, if it asks for any. -/
structure SpecialCategory.IsDetected (category : SpecialCategory) (code context : String) :
    Prop where
  found : ∃ pattern ∈ category.patterns, pattern.occursIn (Text.lower code) = true
  allowed : ∀ word ∈ category.exclusions, ¬ Mentions code context word
  placed : category.contexts = [] ∨ ∃ word ∈ category.contexts, Mentions code context word

/-- A rule applies to a sample exactly when it matches the code, its context or the names. -/
theorem DataRule.applies_iff :
    rule.applies (Sample.ofCode code context names) = true ↔ rule.Matches code context names := by
  have hnames : ((Sample.ofCode code context names).variableNames.any fun name =>
      (rule.variableNames.map Text.lower).contains name) = true ↔
        ∃ name ∈ names, ∃ known ∈ rule.variableNames, Text.lower name = Text.lower known := by
    unfold Sample.ofCode
    simp only [List.any_map, List.any_eq_true, Function.comp_apply, List.contains_iff_mem,
      List.mem_map]
    constructor
    · rintro ⟨name, hname, known, hknown, heq⟩
      exact ⟨name, hname, known, hknown, heq.symm⟩
    · rintro ⟨name, hname, known, hknown, heq⟩
      exact ⟨name, hname, known, hknown, heq.symm⟩
  unfold applies
  rw [Bool.and_eq_true, not_mentionsAny_iff, Bool.or_eq_true, List.any_eq_true, hnames]
  exact ⟨fun ⟨allowed, found⟩ => ⟨allowed, found⟩, fun h => ⟨h.allowed, h.found⟩⟩

theorem SpecialCategory.applies_iff {category : SpecialCategory} :
    category.applies (Sample.ofCode code context names) = true ↔
      category.IsDetected code context := by
  unfold applies
  rw [Bool.and_eq_true, Bool.and_eq_true, not_mentionsAny_iff, Bool.or_eq_true, mentionsAny_iff,
    List.any_eq_true, List.isEmpty_iff]
  exact ⟨fun ⟨⟨found, allowed⟩, placed⟩ => ⟨found, allowed, placed⟩,
    fun h => ⟨⟨h.found, h.allowed⟩, h.placed⟩⟩

def matchingRules (code context : String) (names : List String) : List DataRule :=
  dataRules.filter (·.applies (Sample.ofCode code context names))

def detectedCodes (code context : String) (names : List String) : List String :=
  Text.sortedDistinct
    ((specialCategories.filter (·.applies (Sample.ofCode code context names))).map (·.code))

theorem mem_matchingRules_iff :
    rule ∈ matchingRules code context names ↔
      rule ∈ dataRules ∧ rule.Matches code context names := by
  unfold matchingRules
  rw [List.mem_filter, DataRule.applies_iff]

theorem mem_detectedCodes_iff {type : String} :
    type ∈ detectedCodes code context names ↔
      ∃ category ∈ specialCategories, category.IsDetected code context ∧ category.code = type := by
  unfold detectedCodes
  rw [Text.mem_sortedDistinct, List.mem_map]
  simp only [List.mem_filter, SpecialCategory.applies_iff, and_assoc]

theorem detectedCodes_eq_nil_iff :
    detectedCodes code context names = [] ↔
      ∀ category ∈ specialCategories, ¬ category.IsDetected code context := by
  rw [List.eq_nil_iff_forall_not_mem]
  simp only [mem_detectedCodes_iff]
  constructor
  · exact fun hnone category hcategory hdetected => hnone _ ⟨category, hcategory, hdetected, rfl⟩
  · rintro hnone _ ⟨category, hcategory, hdetected, rfl⟩
    exact hnone category hcategory hdetected

/-! ## Types -/

theorem piiTypes_eq :
    (Verdict.ofCode code context names).piiTypes =
      Text.sortedDistinct ((matchingRules code context names).map (·.code) ++
        detectedCodes code context names) :=
  rfl

/-- **The types are the codes of the rules that match and of the categories that are detected.** -/
theorem mem_piiTypes_iff {type : String} :
    type ∈ (Verdict.ofCode code context names).piiTypes ↔
      (∃ rule ∈ dataRules, rule.Matches code context names ∧ rule.code = type) ∨
        ∃ category ∈ specialCategories, category.IsDetected code context ∧
          category.code = type := by
  rw [piiTypes_eq, Text.mem_sortedDistinct, List.mem_append, mem_detectedCodes_iff, List.mem_map]
  simp only [mem_matchingRules_iff, and_assoc]

theorem piiTypes_eq_nil_iff :
    (Verdict.ofCode code context names).piiTypes = [] ↔
      matchingRules code context names = [] ∧ detectedCodes code context names = [] := by
  rw [piiTypes_eq, List.eq_nil_iff_forall_not_mem]
  simp only [Text.mem_sortedDistinct]
  rw [← List.eq_nil_iff_forall_not_mem, List.append_eq_nil_iff, List.map_eq_nil_iff]

/-! ## Severity -/

def greatestOf (start : Severity) (rules : List DataRule) : Severity :=
  rules.foldl (fun severity rule => severity.max rule.severity) start

theorem rank_le_greatestOf (start : Severity) (rules : List DataRule) :
    start.rank ≤ (greatestOf start rules).rank := by
  unfold greatestOf
  induction rules generalizing start with
  | nil => exact Nat.le_refl _
  | cons rule rest ih => exact Nat.le_trans (start.rank_le_max_left rule.severity) (ih _)

theorem rank_le_greatestOf_of_mem {start : Severity}
    (hrule : rule ∈ rules) : rule.severity.rank ≤ (greatestOf start rules).rank := by
  induction rules generalizing start with
  | nil => cases hrule
  | cons first rest ih =>
    rcases List.mem_cons.mp hrule with rfl | hrest
    · exact Nat.le_trans (start.rank_le_max_right rule.severity) (rank_le_greatestOf _ rest)
    · exact ih hrest

theorem greatestOf_eq_or (start : Severity) (rules : List DataRule) :
    greatestOf start rules = start ∨ ∃ rule ∈ rules, rule.severity = greatestOf start rules := by
  induction rules generalizing start with
  | nil => exact .inl rfl
  | cons first rest ih =>
    show greatestOf (start.max first.severity) rest = start ∨
      ∃ rule ∈ first :: rest, rule.severity = greatestOf (start.max first.severity) rest
    rcases ih (start.max first.severity) with heq | ⟨rule, hrule, heq⟩
    · rw [heq]
      refine (start.max_eq_or first.severity).imp_right fun hfirst => ?_
      exact ⟨first, List.mem_cons_self, hfirst.symm⟩
    · exact .inr ⟨rule, List.mem_cons_of_mem _ hrule, heq⟩

/-- Among some rules the greatest severity is that of one of them. -/
theorem exists_severity_eq_greatestOf (hrules : rules ≠ []) :
    ∃ rule ∈ rules, rule.severity = greatestOf .info rules := by
  rcases greatestOf_eq_or .info rules with heq | hrule
  · obtain ⟨rule, hrule⟩ := List.exists_mem_of_ne_nil rules hrules
    refine ⟨rule, hrule, ?_⟩
    rw [heq]
    exact Severity.eq_info_of_rank_le (heq ▸ rank_le_greatestOf_of_mem hrule)
  · exact hrule

theorem rank_greatestOf_le {others : List DataRule} (hsubset : rules ⊆ others) :
    (greatestOf .info rules).rank ≤ (greatestOf .info others).rank := by
  rcases greatestOf_eq_or .info rules with heq | ⟨rule, hrule, heq⟩
  · rw [heq]
    exact Nat.zero_le _
  · rw [← heq]
    exact rank_le_greatestOf_of_mem (hsubset hrule)

theorem severity_eq :
    (Verdict.ofCode code context names).severity =
      if (detectedCodes code context names).isEmpty then
        greatestOf .info (matchingRules code context names)
      else .critical :=
  rfl

/-- How grave code is by what was found in it. -/
structure IsRating (code context : String) (names : List String) (level : Severity) : Prop where
  /-- No rule that matches is graver. -/
  bounds : ∀ rule ∈ dataRules, rule.Matches code context names → rule.severity.rank ≤ level.rank
  /-- A rule that matches is as grave, unless there is more than rules. -/
  attained : (∃ rule ∈ dataRules, rule.Matches code context names) →
    (∀ category ∈ specialCategories, ¬ category.IsDetected code context) →
      ∃ rule ∈ dataRules, rule.Matches code context names ∧ rule.severity = level
  special : (∃ category ∈ specialCategories, category.IsDetected code context) → level = .critical
  nothing : (∀ rule ∈ dataRules, ¬ rule.Matches code context names) →
    (∀ category ∈ specialCategories, ¬ category.IsDetected code context) → level = .info

/-- **The severity is that of the gravest rule that matches**, and critical where there is special
data. -/
theorem isRating (code context : String) (names : List String) :
    IsRating code context names (Verdict.ofCode code context names).severity := by
  rw [severity_eq]
  by_cases hnone : detectedCodes code context names = []
  · rw [hnone, if_pos (by rfl)]
    refine ⟨fun rule hrule hmatches => ?_, fun ⟨rule, hrule, hmatches⟩ _ => ?_, ?_,
      fun hrules _ => ?_⟩
    · exact rank_le_greatestOf_of_mem (mem_matchingRules_iff.mpr ⟨hrule, hmatches⟩)
    · have hrules : matchingRules code context names ≠ [] :=
        List.ne_nil_of_mem (mem_matchingRules_iff.mpr ⟨hrule, hmatches⟩)
      obtain ⟨gravest, hgravest, heq⟩ := exists_severity_eq_greatestOf hrules
      obtain ⟨hmem, hmatches⟩ := mem_matchingRules_iff.mp hgravest
      exact ⟨gravest, hmem, hmatches, heq⟩
    · rintro ⟨category, hcategory, hdetected⟩
      exact absurd hdetected (detectedCodes_eq_nil_iff.mp hnone category hcategory)
    · have hempty : matchingRules code context names = [] := by
        rw [List.eq_nil_iff_forall_not_mem]
        intro rule hrule
        obtain ⟨hmem, hmatches⟩ := mem_matchingRules_iff.mp hrule
        exact hrules rule hmem hmatches
      rw [hempty]
      rfl
  · rw [if_neg (by simpa using hnone)]
    -- a category was detected, so the two cases without one do not arise
    refine ⟨fun _ _ _ => Severity.rank_le_critical _, fun _ hcategories => ?_, fun _ => rfl,
      fun _ hcategories => ?_⟩
    · exact absurd (detectedCodes_eq_nil_iff.mpr hcategories) hnone
    · exact absurd (detectedCodes_eq_nil_iff.mpr hcategories) hnone

/-! ## All parts together -/

def namedArticles (code context : String) (names : List String) : List String :=
  (matchingRules code context names).filterMap (·.article) ++
    (if (detectedCodes code context names).isEmpty then [] else ["Art. 9"])

theorem articles_eq :
    (Verdict.ofCode code context names).articles =
      if !(Verdict.ofCode code context names).piiTypes.isEmpty &&
          (namedArticles code context names).isEmpty then ["Art. 6(1)"]
      else Text.sortedDistinct (namedArticles code context names) :=
  rfl

/-- Articles are named exactly when personal data is found. -/
theorem articles_eq_nil_iff :
    (Verdict.ofCode code context names).articles = [] ↔
      (Verdict.ofCode code context names).piiTypes = [] := by
  rw [articles_eq]
  constructor
  · intro hempty
    split at hempty
    · cases hempty
    · next hdefault =>
      have hnamed : namedArticles code context names = [] := by
        rw [List.eq_nil_iff_forall_not_mem]
        intro article harticle
        rw [← Text.mem_sortedDistinct, hempty] at harticle
        cases harticle
      -- without named articles the default is taken, unless there is no type
      simpa [hnamed] using hdefault
  · intro hempty
    obtain ⟨hrules, hcodes⟩ := piiTypes_eq_nil_iff.mp hempty
    have hnamed : namedArticles code context names = [] := by
      simp [namedArticles, hrules, hcodes]
    rw [hempty, hnamed]
    rfl

theorem isPersonal_eq :
    (Verdict.ofCode code context names).isPersonal =
      !(Verdict.ofCode code context names).piiTypes.isEmpty :=
  rfl

theorem category_eq :
    (Verdict.ofCode code context names).category =
      if (Verdict.ofCode code context names).piiTypes.isEmpty then "technical" else "pii" :=
  rfl

theorem confidence_eq :
    (Verdict.ofCode code context names).confidence =
      if (Verdict.ofCode code context names).piiTypes.isEmpty then 0.0 else 1.0 :=
  rfl

/-- A classification whose parts agree with each other and with what was found. -/
structure IsCoherent (code context : String) (names : List String) (result : Classification) :
    Prop where
  sorted : result.piiTypes.Pairwise (· < ·)
  exact : ∀ type, type ∈ result.piiTypes ↔
    (∃ rule ∈ dataRules, rule.Matches code context names ∧ rule.code = type) ∨
      ∃ category ∈ specialCategories, category.IsDetected code context ∧ category.code = type
  rated : ∃ level : Severity, result.severity = level.label ∧ IsRating code context names level
  /-- Personal data is told by six parts, and by all of them or none. -/
  together : [result.piiTypes ≠ [], result.gdprArticles ≠ [],
    (∃ article, result.article = some article ∧ article ∈ result.gdprArticles),
    result.legalBasisRequired = true, result.confidence = 1.0, result.category = "pii"].TFAE

/-- The classification of a verdict whose articles are taken in another order. -/
def Verdict.classificationIn (verdict : Verdict) (order : List String) : Classification :=
  { verdict.classification with article := order.head?, gdprArticles := order }

/-- **A verdict is coherent and maximal**, whatever the code, its context and the names are, and in
whatever order its articles are taken. -/
theorem verdict_coherent_and_maximal (code context : String) (names : List String) :
    IsCoherent code context names (Verdict.ofCode code context names).classification ∧
      ∀ order : List String, order.Perm (Verdict.ofCode code context names).articles →
        IsCoherent code context names
          ((Verdict.ofCode code context names).classificationIn order) := by
  suffices hall : ∀ order : List String, order.Perm (Verdict.ofCode code context names).articles →
      IsCoherent code context names
        ((Verdict.ofCode code context names).classificationIn order) from
    ⟨hall _ (List.Perm.refl _), hall⟩
  intro order hperm
  refine ⟨Text.sortedDistinct_pairwise _, fun _ => mem_piiTypes_iff,
    ⟨_, rfl, isRating code context names⟩, ?_⟩
  show [(Verdict.ofCode code context names).piiTypes ≠ [], order ≠ [],
    (∃ article, order.head? = some article ∧ article ∈ order),
    (Verdict.ofCode code context names).isPersonal = true,
    (Verdict.ofCode code context names).confidence = 1.0,
    (Verdict.ofCode code context names).category = "pii"].TFAE
  have harticles : order = [] ↔ (Verdict.ofCode code context names).piiTypes = [] := by
    rw [← articles_eq_nil_iff, ← List.nil_perm, ← List.nil_perm]
    exact ⟨fun h => h.trans hperm, fun h => h.trans hperm.symm⟩
  rw [isPersonal_eq, confidence_eq, category_eq]
  tfae_have 1 ↔ 2 := not_congr harticles.symm
  tfae_have 2 ↔ 3 := by
    cases order <;> simp
  tfae_have 1 ↔ 4 := by simp
  tfae_have 1 ↔ 5 := by
    have hdistinct : (0.0 : Float) ≠ 1.0 := by decide
    cases (Verdict.ofCode code context names).piiTypes <;> simp [hdistinct]
  tfae_have 1 ↔ 6 := by
    cases (Verdict.ofCode code context names).piiTypes <;> simp
  tfae_finish

/-! ## More names -/

theorem DataRule.Matches.mono (h : rule.Matches code context names)
    (hnames : ∀ name ∈ names, Text.lower name ∈ more.map Text.lower) :
    rule.Matches code context more := by
  refine ⟨h.allowed, h.found.imp_right ?_⟩
  rintro ⟨name, hname, known, hknown, heq⟩
  obtain ⟨other, hother, hlower⟩ := List.mem_map.mp (hnames name hname)
  exact ⟨other, hother, known, hknown, hlower.trans heq⟩

theorem detectedCodes_eq (names more : List String) :
    detectedCodes code context names = detectedCodes code context more :=
  rfl

theorem rank_severity_le (hnames : ∀ name ∈ names, Text.lower name ∈ more.map Text.lower) :
    (Verdict.ofCode code context names).severity.rank ≤
      (Verdict.ofCode code context more).severity.rank := by
  rw [severity_eq, severity_eq, detectedCodes_eq names more]
  split
  · refine rank_greatestOf_le fun rule hrule => ?_
    obtain ⟨hmem, hmatches⟩ := mem_matchingRules_iff.mp hrule
    exact mem_matchingRules_iff.mpr ⟨hmem, hmatches.mono hnames⟩
  · exact Nat.le_refl _

/-- Only the set of names counts, and of each name only its lower case. -/
theorem ofCode_eq (hnames : ∀ name, name ∈ names.map Text.lower ↔ name ∈ more.map Text.lower) :
    Verdict.ofCode code context names = Verdict.ofCode code context more := by
  have hforth (name : String) (hname : name ∈ names) : Text.lower name ∈ more.map Text.lower :=
    (hnames _).mp (List.mem_map_of_mem hname)
  have hback (name : String) (hname : name ∈ more) : Text.lower name ∈ names.map Text.lower :=
    (hnames _).mpr (List.mem_map_of_mem hname)
  have hrules : dataRules.filter (·.applies (Sample.ofCode code context names)) =
      dataRules.filter (·.applies (Sample.ofCode code context more)) := by
    refine List.filter_congr fun rule _ => ?_
    rw [Bool.eq_iff_iff, DataRule.applies_iff, DataRule.applies_iff]
    exact ⟨fun h => h.mono hforth, fun h => h.mono hback⟩
  have hcategories : specialCategories.filter (·.applies (Sample.ofCode code context names)) =
      specialCategories.filter (·.applies (Sample.ofCode code context more)) :=
    rfl
  unfold Verdict.ofCode Verdict.ofSample
  rw [hrules, hcategories]

/-- **More names of variables never hide a type.** All types that are reported with some names are
reported with these and others, at a severity that is no lower. Names count as a set and regardless
of case: where two lists have the same names in lower case, the verdict is the same in all its
parts. -/
theorem more_names_never_hide_types (code context : String) (names more : List String) :
    (names ⊆ more →
      (Verdict.ofCode code context names).piiTypes ⊆ (Verdict.ofCode code context more).piiTypes ∧
      (Verdict.ofCode code context names).severity.rank ≤
        (Verdict.ofCode code context more).severity.rank) ∧
    ((∀ name, name ∈ names.map Text.lower ↔ name ∈ more.map Text.lower) →
      Verdict.ofCode code context names = Verdict.ofCode code context more) := by
  refine ⟨fun hsubset => ?_, ofCode_eq⟩
  have hnames (name : String) (hname : name ∈ names) : Text.lower name ∈ more.map Text.lower :=
    List.mem_map_of_mem (hsubset hname)
  refine ⟨fun type htype => ?_, rank_severity_le hnames⟩
  rw [mem_piiTypes_iff] at htype ⊢
  refine htype.imp_left ?_
  rintro ⟨rule, hrule, hmatches, hcode⟩
  exact ⟨rule, hrule, hmatches.mono hnames, hcode⟩

theorem email_reported : "email" ∈ (Verdict.ofCode "send(user)" "" ["userEmail"]).piiTypes := by
  rw [mem_piiTypes_iff]
  unfold dataRules
  refine .inl ⟨_, .tail _ (.tail _ (.head _)), ⟨?_, .inr ?_⟩, rfl⟩
  · exact (@not_mentionsAny_iff _ _ [] _).mp (by decide)
  · exact ⟨"userEmail", by simp, "userEmail", by simp, rfl⟩

/-- The address stays when a social security number comes to it. -/
theorem email_reported_beside_number :
    ["userEmail"] ⊆ ["ssn", "userEmail"] ∧
      "email" ∈ (Verdict.ofCode "send(user)" "" ["ssn", "userEmail"]).piiTypes ∧
      Verdict.ofCode "send(user)" "" ["userEmail"] =
        Verdict.ofCode "send(user)" "" ["USEREMAIL", "useremail"] := by
  have hsubset : ["userEmail"] ⊆ ["ssn", "userEmail"] := by simp
  have hlower : ["userEmail"].map Text.lower = ["useremail"] ∧
      ["USEREMAIL", "useremail"].map Text.lower = ["useremail", "useremail"] := by decide
  refine ⟨hsubset, ?_, ?_⟩
  · exact ((more_names_never_hide_types _ _ _ _).1 hsubset).1 email_reported
  · refine (more_names_never_hide_types _ _ _ _).2 fun name => ?_
    rw [hlower.1, hlower.2]
    simp

end Classify

end PrivacyScan
