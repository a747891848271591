import Mathlib.Data.List.Nodup
import PrivacyScan.Proofs.Classify.Verdicts
import PrivacyScan.Proofs.Text.Casing

/-!
# Words that rule a type of data out

A rule does not match where one of its exclusions is mentioned. Mentioned means: in the lower case
of the code or its context. The exclusions themselves are taken as they are spelled, so one with a
capital letter is never found.

* **`mentions_of_standsIn`**, **`lower_eq_of_mentions`** — a word in lower case is mentioned
  wherever it stands, and other words are mentioned nowhere;
* **`code_mem_piiTypes_iff`** — a type of a rule is reported when the rule matches, since no two
  rules and no category share a code.
-/

namespace PrivacyScan.Classify

variable {rule : DataRule} {word code context : String} {names : List String}

/-! ## Words as they are spelled -/

def StandsIn (code context word : String) : Prop :=
  word.toList <:+: code.toList ∨ word.toList <:+: context.toList

theorem mentions_of_standsIn (hword : Text.lower word = word) (h : StandsIn code context word) :
    Mentions code context word := by
  rcases h with hcode | hcontext
  · exact .inl (Text.infix_lower hword hcode)
  · exact .inr (Text.infix_lower hword hcontext)

theorem lower_eq_of_mentions (h : Mentions code context word) : Text.lower word = word := by
  rcases h with hcode | hcontext
  · exact Text.lower_eq_of_infix_lower hcode
  · exact Text.lower_eq_of_infix_lower hcontext

/-! ## Which rule reports a type -/

/-- What the rules have to be looked through for: all have codes of their own, which are none of the
special categories, all know the name of a variable, and an exclusion with capital letters does not
mention any exclusion of its rule. -/
theorem dataRules_checked :
    (dataRules.map DataRule.code).Nodup ∧
      (∀ code ∈ specialCategories.map SpecialCategory.code, code ∉ dataRules.map DataRule.code) ∧
      (dataRules.all fun rule => !rule.variableNames.isEmpty && rule.exclusions.all fun word =>
        Text.lower word == word || !(Sample.ofCode word "" []).mentionsAny rule.exclusions) =
          true := by
  decide +kernel

attribute [local irreducible] dataRules specialCategories

theorem code_mem_piiTypes_iff (hrule : rule ∈ dataRules) :
    rule.code ∈ (Verdict.ofCode code context names).piiTypes ↔ rule.Matches code context names := by
  obtain ⟨hdistinct, hspecial, -⟩ := dataRules_checked
  rw [mem_piiTypes_iff]
  constructor
  · rintro (⟨other, hother, hmatches, heq⟩ | ⟨category, hcategory, -, heq⟩)
    · rwa [← List.inj_on_of_nodup_map hdistinct hother hrule heq]
    · -- the code of a category is not that of a rule
      have hcode := hspecial _ (List.mem_map_of_mem hcategory)
      exact absurd (heq ▸ List.mem_map_of_mem hrule) hcode
  · exact fun hmatches => .inl ⟨rule, hrule, hmatches, rfl⟩

/-! ## Which exclusions are honoured -/

/-- Where the word stands, as it is spelled, the type of the rule is not reported. -/
def DataRule.Honours (rule : DataRule) (word : String) : Prop :=
  ∀ code context names, StandsIn code context word →
    rule.code ∉ (Verdict.ofCode code context names).piiTypes

/-- The rule without those of its exclusions that have capital letters. -/
def DataRule.inLowerCase (rule : DataRule) : DataRule :=
  { rule with exclusions := rule.exclusions.filter fun word => Text.lower word == word }

theorem matches_inLowerCase_iff :
    rule.inLowerCase.Matches code context names ↔ rule.Matches code context names := by
  constructor
  · rintro ⟨hallowed, hfound⟩
    refine ⟨fun word hword hmentions => ?_, hfound⟩
    have hlower : (Text.lower word == word) = true :=
      beq_iff_eq.mpr (lower_eq_of_mentions hmentions)
    exact hallowed word (List.mem_filter.mpr ⟨hword, hlower⟩) hmentions
  · rintro ⟨hallowed, hfound⟩
    exact ⟨fun word hword => hallowed word (List.mem_filter.mp hword).1, hfound⟩

theorem honours_of_lower_eq (hrule : rule ∈ dataRules) (hword : word ∈ rule.exclusions)
    (hlower : Text.lower word = word) : rule.Honours word := by
  intro code context names hstands hreported
  have hmatches := (code_mem_piiTypes_iff hrule).mp hreported
  exact hmatches.allowed word hword (mentions_of_standsIn hlower hstands)

/-- An exclusion with capital letters, beside a variable that the rule knows, is reported. -/
theorem reported_of_lower_ne (hrule : rule ∈ dataRules) (hword : word ∈ rule.exclusions)
    (hlower : Text.lower word ≠ word) :
    ∃ name, rule.code ∈ (Verdict.ofCode word "" [name]).piiTypes := by
  have hchecked := List.all_eq_true.mp dataRules_checked.2.2 rule hrule
  obtain ⟨hknows, hexclusions⟩ := Bool.and_eq_true_iff.mp hchecked
  have hsilent : (!(Sample.ofCode word "" []).mentionsAny rule.exclusions) = true := by
    have hone := List.all_eq_true.mp hexclusions word hword
    rw [Bool.or_eq_true, beq_iff_eq] at hone
    exact hone.resolve_left hlower
  obtain ⟨name, hname⟩ := List.exists_mem_of_ne_nil rule.variableNames (by simpa using hknows)
  refine ⟨name, (code_mem_piiTypes_iff hrule).mpr ⟨not_mentionsAny_iff.mp hsilent, .inr ?_⟩⟩
  exact ⟨name, List.mem_cons_self, name, hname, rfl⟩

/-- **An exclusion is honoured exactly when it is spelled in lower case.** One with capital letters
is mentioned nowhere, however the code and its context are spelled, and so the rule reports in all
cases what it would report without those. -/
theorem exclusion_honoured_iff_in_lower_case (hrule : rule ∈ dataRules)
    (hword : word ∈ rule.exclusions) :
    (rule.Honours word ↔ Text.lower word = word) ∧
      (Text.lower word ≠ word → ∀ code context, ¬ Mentions code context word) ∧
      ∀ code context names, rule.code ∈ (Verdict.ofCode code context names).piiTypes ↔
        rule.inLowerCase.Matches code context names := by
  refine ⟨⟨fun hhonours => ?_, honours_of_lower_eq hrule hword⟩,
    fun hlower code context hmentions => ?_, fun code context names => ?_⟩
  · by_contra hlower
    obtain ⟨name, hreported⟩ := reported_of_lower_ne hrule hword hlower
    exact hhonours word "" [name] (.inl List.infix_rfl) hreported
  · exact hlower (lower_eq_of_mentions hmentions)
  · rw [matches_inLowerCase_iff, code_mem_piiTypes_iff hrule]

theorem exists_email_rule :
    ∃ rule ∈ dataRules, rule.code = "email" ∧ "email_sent" ∈ rule.exclusions ∧
      "emailSent" ∈ rule.exclusions ∧ "email" ∈ rule.variableNames ∧
      (!(Sample.ofCode "log(emailSent, email)" "" []).mentionsAny rule.exclusions) = true := by
  unfold dataRules
  exact ⟨_, .tail _ (.tail _ (.head _)), rfl, by simp, by simp, by simp, by decide⟩

/-- A flag that says whether a mail was sent: one of its two spellings rules the address out. -/
theorem email_sent_honoured :
    ∃ rule ∈ dataRules, rule.code = "email" ∧
      "email_sent" ∈ rule.exclusions ∧ rule.Honours "email_sent" ∧
      "emailSent" ∈ rule.exclusions ∧ ¬ rule.Honours "emailSent" := by
  obtain ⟨rule, hrule, hcode, hsnake, hcamel, -, -⟩ := exists_email_rule
  refine ⟨rule, hrule, hcode, hsnake, ?_, hcamel, ?_⟩
  · exact (exclusion_honoured_iff_in_lower_case hrule hsnake).1.mpr (by decide)
  · exact fun hhonours => absurd
      ((exclusion_honoured_iff_in_lower_case hrule hcamel).1.mp hhonours) (by decide)

/-- The other one does not, beside a variable for an address. -/
theorem emailSent_not_honoured :
    ∃ rule ∈ dataRules, rule.code = "email" ∧ "emailSent" ∈ rule.exclusions ∧
      StandsIn "log(emailSent, email)" "" "emailSent" ∧
      rule.code ∈ (Verdict.ofCode "log(emailSent, email)" "" ["email"]).piiTypes := by
  obtain ⟨rule, hrule, hcode, -, hcamel, hname, hsilent⟩ := exists_email_rule
  refine ⟨rule, hrule, hcode, hcamel, .inl (Text.hasInfix_iff.mp (by decide)), ?_⟩
  refine (code_mem_piiTypes_iff hrule).mpr ⟨not_mentionsAny_iff.mp hsilent, .inr ?_⟩
  exact ⟨"email", List.mem_cons_self, "email", hname, rfl⟩

end PrivacyScan.Classify
