import PrivacyScan.Compliance.Score
import PrivacyScan.Proofs.Classify.Exclusions

/-!
# The article by which special data is charged

A verdict names the articles of all that was found, and the score charges a finding by the first of
them. Special categories bring article 9 with the greatest factor, and credentials bring article 32.
Where both are found, which article comes first is a matter of the order: of code points in a
verdict, which puts article 32 first.

* **`article_eq`** — only the rules for credentials name an article;
* **`articles_of_credentials`**, **`articles_of_no_credentials`** — the articles of special data,
  with credentials beside it and without.
-/

namespace PrivacyScan.Classify

open Compliance (articleFactor articleOf weightOf)

variable {rule : DataRule} {category : SpecialCategory} {code context : String}
  {names : List String}

/-! ## The articles of special data -/

def HasCredentials (code context : String) (names : List String) : Prop :=
  "password" ∈ (Verdict.ofCode code context names).piiTypes ∨
    "api_key" ∈ (Verdict.ofCode code context names).piiTypes

/-- What rules and categories have to be looked through for: the rules that name an article, and
that the codes of these are none of the special categories. -/
theorem articles_checked :
    (dataRules.all fun rule => rule.article ==
      if rule.code == "password" || rule.code == "api_key" then some "Art. 32" else none) = true ∧
    (specialCategories.all fun category =>
      category.code != "password" && category.code != "api_key") = true := by
  decide +kernel

attribute [local irreducible] dataRules specialCategories

theorem article_eq (hrule : rule ∈ dataRules) :
    rule.article =
      if rule.code == "password" || rule.code == "api_key" then some "Art. 32" else none :=
  beq_iff_eq.mp (List.all_eq_true.mp articles_checked.1 rule hrule)

theorem exists_article_iff (hrule : rule ∈ dataRules) {article : String} :
    rule.article = some article ↔
      (rule.code = "password" ∨ rule.code = "api_key") ∧ article = "Art. 32" := by
  rw [article_eq hrule]
  by_cases hcode : rule.code = "password" ∨ rule.code = "api_key"
  · have hpos : (rule.code == "password" || rule.code == "api_key") = true := by simpa using hcode
    rw [if_pos hpos, Option.some_inj]
    exact ⟨fun heq => ⟨hcode, heq.symm⟩, fun h => h.2.symm⟩
  · have hneg : ¬ (rule.code == "password" || rule.code == "api_key") = true := by simpa using hcode
    rw [if_neg hneg]
    exact iff_of_false nofun fun h => hcode h.1

/-- A type that is not that of a category is reported by a rule with its code. -/
theorem exists_rule_of_mem {type : String} (h : type ∈ (Verdict.ofCode code context names).piiTypes)
    (hcategories : ∀ category ∈ specialCategories, category.code ≠ type) :
    ∃ rule ∈ matchingRules code context names, rule.code = type := by
  rcases mem_piiTypes_iff.mp h with ⟨rule, hrule, hmatches, hcode⟩ | ⟨category, hcategory, -, hcode⟩
  · exact ⟨rule, mem_matchingRules_iff.mpr ⟨hrule, hmatches⟩, hcode⟩
  · exact absurd hcode (hcategories category hcategory)

/-- Credentials are there exactly when a rule for passwords or for keys applies. -/
theorem hasCredentials_iff :
    HasCredentials code context names ↔
      ∃ rule ∈ matchingRules code context names, rule.code = "password" ∨
        rule.code = "api_key" := by
  have hcategories (category : SpecialCategory) (hcategory : category ∈ specialCategories) :
      category.code ≠ "password" ∧ category.code ≠ "api_key" := by
    simpa using List.all_eq_true.mp articles_checked.2 category hcategory
  constructor
  · rintro (hpassword | hkey)
    · obtain ⟨rule, hrule, hcode⟩ :=
        exists_rule_of_mem hpassword fun category hcategory => (hcategories category hcategory).1
      exact ⟨rule, hrule, .inl hcode⟩
    · obtain ⟨rule, hrule, hcode⟩ :=
        exists_rule_of_mem hkey fun category hcategory => (hcategories category hcategory).2
      exact ⟨rule, hrule, .inr hcode⟩
  · rintro ⟨rule, hrule, hcode⟩
    obtain ⟨hmem, hmatches⟩ := mem_matchingRules_iff.mp hrule
    have hreported := (code_mem_piiTypes_iff hmem).mpr hmatches
    rcases hcode with hcode | hcode
    · exact .inl (hcode ▸ hreported)
    · exact .inr (hcode ▸ hreported)

theorem mem_ruleArticles_iff {article : String} :
    article ∈ (matchingRules code context names).filterMap (·.article) ↔
      HasCredentials code context names ∧ article = "Art. 32" := by
  rw [List.mem_filterMap, hasCredentials_iff]
  constructor
  · rintro ⟨rule, hrule, harticle⟩
    have hmem := (mem_matchingRules_iff.mp hrule).1
    obtain ⟨hcode, heq⟩ := (exists_article_iff hmem).mp harticle
    exact ⟨⟨rule, hrule, hcode⟩, heq⟩
  · rintro ⟨⟨rule, hrule, hcode⟩, heq⟩
    have hmem := (mem_matchingRules_iff.mp hrule).1
    exact ⟨rule, hrule, (exists_article_iff hmem).mpr ⟨hcode, heq⟩⟩

section Detected

variable (hcategory : category ∈ specialCategories) (hdetected : category.IsDetected code context)
include hcategory hdetected

theorem mem_namedArticles_iff {article : String} :
    article ∈ namedArticles code context names ↔
      HasCredentials code context names ∧ article = "Art. 32" ∨ article = "Art. 9" := by
  have hsome : (detectedCodes code context names).isEmpty = false := by
    rw [List.isEmpty_eq_false_iff]
    exact fun hnone => detectedCodes_eq_nil_iff.mp hnone category hcategory hdetected
  unfold namedArticles
  rw [hsome, if_neg Bool.false_ne_true, List.mem_append, mem_ruleArticles_iff, List.mem_singleton]

theorem articles_eq_sortedDistinct :
    (Verdict.ofCode code context names).articles =
      Text.sortedDistinct (namedArticles code context names) := by
  have hnine : "Art. 9" ∈ namedArticles code context names :=
    (mem_namedArticles_iff hcategory hdetected).mpr (.inr rfl)
  have hfull : (namedArticles code context names).isEmpty = false := by
    rw [List.isEmpty_eq_false_iff]
    exact List.ne_nil_of_mem hnine
  rw [articles_eq, hfull, Bool.and_false, if_neg Bool.false_ne_true]

theorem articles_of_credentials (hcredentials : HasCredentials code context names) :
    (Verdict.ofCode code context names).articles = ["Art. 32", "Art. 9"] := by
  have hsorted : Text.sortedDistinct ["Art. 32", "Art. 9"] = ["Art. 32", "Art. 9"] := by decide
  rw [articles_eq_sortedDistinct hcategory hdetected, ← hsorted, Text.sortedDistinct_eq_iff]
  intro article
  rw [mem_namedArticles_iff hcategory hdetected, List.mem_cons, List.mem_singleton,
    and_iff_right hcredentials]

theorem articles_of_no_credentials (hcredentials : ¬ HasCredentials code context names) :
    (Verdict.ofCode code context names).articles = ["Art. 9"] := by
  have hsorted : Text.sortedDistinct ["Art. 9"] = ["Art. 9"] := by decide
  rw [articles_eq_sortedDistinct hcategory hdetected, ← hsorted, Text.sortedDistinct_eq_iff]
  intro article
  rw [mem_namedArticles_iff hcategory hdetected, List.mem_singleton]
  exact or_iff_right fun h => hcredentials h.1

end Detected

/-! ## The article that is charged -/

/-- A finding is charged by the primary article of its classification. -/
theorem weightOf_article {finding : Finding} {result : Classification} {article : String}
    (hfinding : finding.assessment = .classified result) (hprimary : result.article = some article)
    (hfull : article.isEmpty = false) :
    (weightOf finding).article = articleFactor (some article) := by
  have harticle : articleOf finding = some article := by
    unfold articleOf
    rw [hfinding]
    show result.article.filter (!·.isEmpty) = some article
    rw [hprimary, Option.filter_some, hfull]
    rfl
  show articleFactor (articleOf finding) = _
  rw [harticle]

/-- In whatever order its articles are taken, article 9 comes first in a verdict, and every finding
that is classified by it is charged with the factor of article 9. -/
def DrivesScore (verdict : Verdict) : Prop :=
  ∀ order : List String, order.Perm verdict.articles →
    order.head? = some "Art. 9" ∧
    ∀ finding : Finding, finding.assessment = .classified (verdict.classificationIn order) →
      (weightOf finding).article = 20

theorem drivesScore_of_articles_eq {verdict : Verdict} (harticles : verdict.articles = ["Art. 9"]) :
    DrivesScore verdict := by
  intro order hperm
  have horder : order = ["Art. 9"] := List.perm_singleton.mp (harticles ▸ hperm)
  have hfirst : order.head? = some "Art. 9" := by rw [horder, List.head?_cons]
  refine ⟨hfirst, fun finding hfinding => ?_⟩
  rw [weightOf_article hfinding hfirst (by decide)]
  decide

/-- Article 32 is charged for special data with credentials beside it. -/
theorem charged_of_articles_eq {verdict : Verdict}
    (harticles : verdict.articles = ["Art. 32", "Art. 9"]) :
    ¬ DrivesScore verdict ∧ verdict.classification.article = some "Art. 32" ∧
      ∀ finding : Finding, finding.assessment = .classified verdict.classification →
        (weightOf finding).article = 13 := by
  have hfirst : verdict.articles.head? = some "Art. 32" := by rw [harticles, List.head?_cons]
  refine ⟨fun hdrives => ?_, hfirst, fun finding hfinding => ?_⟩
  · -- the order of code points is one of the orders
    have hnine := (hdrives verdict.articles (List.Perm.refl _)).1
    exact absurd (hfirst.symm.trans hnine) (by decide)
  · rw [weightOf_article hfinding hfirst (by decide)]
    decide

/-- Where a special category is detected, article 9 is among the articles. It drives the score
exactly where no password and no key is found beside it: with these, article 32 comes first in the
order of code points, and its smaller factor is charged. -/
theorem special_data_drives_score_iff_no_credentials (names : List String)
    (hcategory : category ∈ specialCategories) (hdetected : category.IsDetected code context) :
    "Art. 9" ∈ (Verdict.ofCode code context names).articles ∧
    (DrivesScore (Verdict.ofCode code context names) ↔ ¬ HasCredentials code context names) ∧
    (HasCredentials code context names →
      (Verdict.ofCode code context names).classification.article = some "Art. 32" ∧
      ∀ finding : Finding,
        finding.assessment = .classified (Verdict.ofCode code context names).classification →
          (weightOf finding).article = 13) := by
  by_cases hcredentials : HasCredentials code context names
  · have harticles := articles_of_credentials hcategory hdetected hcredentials
    obtain ⟨hnot, hcharged⟩ := charged_of_articles_eq harticles
    refine ⟨?_, iff_of_false hnot (not_not_intro hcredentials), fun _ => hcharged⟩
    rw [harticles]
    decide
  · have harticles := articles_of_no_credentials hcategory hdetected hcredentials
    have hdrives := drivesScore_of_articles_eq harticles
    refine ⟨?_, iff_of_true hdrives hcredentials, fun h => absurd h hcredentials⟩
    rw [harticles]
    decide

/-- Genetic data is detected with and without a password beside it, and only with it are there
credentials. -/
theorem dna_checked :
    (specialCategories.any fun category =>
      category.applies (Sample.ofCode "save(dna)" "" []) &&
        category.applies (Sample.ofCode "save(dna, password)" "" [])) = true ∧
    (dataRules.all fun rule => rule.code != "password" && rule.code != "api_key" ||
      !rule.applies (Sample.ofCode "save(dna)" "" [])) = true ∧
    (dataRules.any fun rule => rule.code == "password" &&
      rule.applies (Sample.ofCode "save(dna, password)" "" [])) = true := by
  decide +kernel

theorem exists_dna_category :
    ∃ category ∈ specialCategories, category.IsDetected "save(dna)" "" ∧
      category.IsDetected "save(dna, password)" "" := by
  obtain ⟨category, hcategory, happlies⟩ := List.any_eq_true.mp dna_checked.1
  rw [Bool.and_eq_true] at happlies
  exact ⟨category, hcategory, SpecialCategory.applies_iff.mp happlies.1,
    SpecialCategory.applies_iff.mp happlies.2⟩

theorem dna_without_credentials : ¬ HasCredentials "save(dna)" "" [] := by
  rw [hasCredentials_iff]
  rintro ⟨rule, hrule, hcode⟩
  obtain ⟨hmem, hmatches⟩ := mem_matchingRules_iff.mp hrule
  have hchecked := List.all_eq_true.mp dna_checked.2.1 rule hmem
  rw [DataRule.applies_iff.mpr hmatches] at hchecked
  rcases hcode with hcode | hcode <;> simp [hcode] at hchecked

theorem dna_drives_score :
    ∃ category ∈ specialCategories, category.IsDetected "save(dna)" "" ∧
      DrivesScore (Verdict.ofCode "save(dna)" "" []) := by
  obtain ⟨category, hcategory, hdetected, -⟩ := exists_dna_category
  have hsettled := special_data_drives_score_iff_no_credentials [] hcategory hdetected
  exact ⟨category, hcategory, hdetected, hsettled.2.1.mpr dna_without_credentials⟩

/-- With a password beside it, genetic data is charged by article 32. -/
theorem dna_with_password_does_not_drive_score :
    ∃ category ∈ specialCategories, category.IsDetected "save(dna, password)" "" ∧
      (Verdict.ofCode "save(dna, password)" "" []).classification.article = some "Art. 32" ∧
      ¬ DrivesScore (Verdict.ofCode "save(dna, password)" "" []) := by
  obtain ⟨category, hcategory, -, hdetected⟩ := exists_dna_category
  obtain ⟨rule, hrule, happlies⟩ := List.any_eq_true.mp dna_checked.2.2
  rw [Bool.and_eq_true, beq_iff_eq, DataRule.applies_iff] at happlies
  have hcredentials : HasCredentials "save(dna, password)" "" [] :=
    hasCredentials_iff.mpr ⟨rule, mem_matchingRules_iff.mpr ⟨hrule, happlies.2⟩, .inl happlies.1⟩
  have harticles := articles_of_credentials hcategory hdetected hcredentials
  obtain ⟨hnot, hprimary, -⟩ := charged_of_articles_eq harticles
  exact ⟨category, hcategory, hdetected, hprimary, hnot⟩

end PrivacyScan.Classify
