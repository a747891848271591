import Mathlib.Algebra.BigOperators.Ring.Finset
import Mathlib.Algebra.Order.Round
import Mathlib.Data.Rat.Floor
import Mathlib.Tactic.Positivity
import Mathlib.Tactic.Ring
import PrivacyScan.Proofs.Grouping
import PrivacyScan.Proofs.Report.Severities

/-!
# The accounts of the score

The score adds the penalties of all findings to one total and, beside it, to the share of the
article that each finding names. Both are folds over the findings in any type of numbers. Here the
numbers are exact: what floats lose by rounding is not a matter of the accounts.
-/

namespace PrivacyScan.Compliance

open Report (numberOf)

variable {findings others : List Finding} {category : String}

/-! ## What a finding costs -/

def Weight.exact (weight : Weight) : ℚ := weight.costIn Nat.cast fun count => (count : ℚ) / 10

def Weight.hundredths (weight : Weight) : ℕ := weight.base * weight.article * weight.rule

theorem Weight.exact_eq (weight : Weight) : weight.exact = (weight.hundredths : ℚ) / 100 := by
  unfold exact costIn hundredths
  push_cast
  ring

def cost (finding : Finding) : ℚ := (weightOf finding).exact

theorem cost_eq (finding : Finding) : cost finding = ((weightOf finding).hundredths : ℚ) / 100 :=
  (weightOf finding).exact_eq

theorem cost_nonneg (finding : Finding) : 0 ≤ cost finding := by
  rw [cost_eq]
  positivity

theorem cost_of_weightless {finding : Finding} (h : (weightOf finding).base = 0) :
    cost finding = 0 := by
  rw [cost_eq, Weight.hundredths, h, Nat.zero_mul, Nat.zero_mul, Nat.cast_zero, zero_div]

/-- A label weighs something when it is that of one of the four upper levels. -/
theorem baseWeight_charged (label : String) :
    (if baseWeight label != 0 then 1 else 0) =
      (if label == Severity.critical.label then 1 else 0) +
      (if label == Severity.high.label then 1 else 0) +
      (if label == Severity.medium.label then 1 else 0) +
      (if label == Severity.low.label then 1 else 0) := by
  unfold baseWeight
  split
  · rfl
  · rfl
  · rfl
  · rfl
  · next hcritical hhigh hmedium hlow =>
    simp only [Severity.label, beq_iff_eq, if_neg hcritical, if_neg hhigh, if_neg hmedium,
      if_neg hlow]
    rfl

/-- A finding costs something exactly when its level is one of these four. -/
theorem length_counted (findings : List Finding) :
    (counted findings).length = numberOf .critical findings + numberOf .high findings +
      numberOf .medium findings + numberOf .low findings := by
  unfold counted
  rw [← List.countP_eq_length_filter]
  induction findings with
  | nil => rfl
  | cons finding rest ih =>
    have hone := baseWeight_charged finding.severity.label
    simp only [List.countP_cons, Report.numberOf_cons, ih]
    show _ + (if baseWeight finding.severity.label != 0 then 1 else 0) = _
    omega

/-! ## The total -/

def exactTotal (findings : List Finding) : ℚ := totalPenalty 0 Weight.exact findings

theorem sum_cost_counted (findings : List Finding) :
    ((counted findings).map cost).sum = (findings.map cost).sum := by
  induction findings with
  | nil => rfl
  | cons finding rest ih =>
    unfold counted at ih ⊢
    rw [List.filter_cons, List.map_cons, List.sum_cons]
    split
    · rw [List.map_cons, List.sum_cons, ih]
    · next hweightless =>
      rw [ih, cost_of_weightless (by simpa using hweightless), zero_add]

theorem exactTotal_eq_sum (findings : List Finding) :
    exactTotal findings = (findings.map cost).sum := by
  rw [← sum_cost_counted, List.sum_eq_foldl, List.foldl_map]
  rfl

theorem exactTotal_concat (findings : List Finding) (finding : Finding) :
    exactTotal (findings ++ [finding]) = exactTotal findings + cost finding := by
  rw [exactTotal_eq_sum, exactTotal_eq_sum, List.map_append, List.sum_append, List.map_singleton,
    List.sum_singleton]

/-- The exact total is a whole number of hundredths. -/
theorem exactTotal_eq_hundredths (findings : List Finding) :
    exactTotal findings =
      ((findings.map fun finding => (weightOf finding).hundredths).sum : ℕ) / (100 : ℚ) := by
  rw [exactTotal_eq_sum]
  induction findings with
  | nil => simp
  | cons finding rest ih =>
    rw [List.map_cons, List.sum_cons, ih, List.map_cons, List.sum_cons, cost_eq, Nat.cast_add,
      add_div]

/-! ## The shares -/

def exactShares (findings : List Finding) : Table (Share ℚ) := shares 0 Weight.exact findings

def chargedTo (category : String) (findings : List Finding) : List Finding :=
  (counted findings).filter (categoryOf · == category)

theorem shares_eq_grouped {α : Type} [Add α] (zero : α) (penalty : Weight → α)
    (findings : List Finding) :
    shares zero penalty findings = Table.grouped categoryOf ⟨0, zero⟩
      (fun share finding => share.add (penalty (weightOf finding))) (counted findings) :=
  rfl

/-- Which categories there are and how many findings each has does not depend on the numbers in
which penalties are counted. -/
theorem shares_counts {α : Type} [Add α] (zero : α) (penalty : Weight → α)
    (findings : List Finding) :
    (shares zero penalty findings).map (fun entry => (entry.1, entry.2.count)) =
      Table.grouped categoryOf 0 (fun count _ => count + 1) (counted findings) := by
  rw [shares_eq_grouped]
  exact Table.map_grouped (fun _ _ => rfl) _

theorem sum_counts (findings : List Finding) :
    ((exactShares findings).values.map Share.count).sum = (counted findings).length := by
  have hsum : ((exactShares findings).values.map Share.count).sum =
      ((counted findings).map fun _ => 1).sum :=
    Table.sum_grouped Share.count (fun _ => 1) _ rfl fun _ _ => rfl
  rw [hsum, List.map_const', List.sum_replicate_nat, Nat.mul_one]

/-- The shares of the categories add up to the total. -/
theorem sum_penalties (findings : List Finding) :
    ((exactShares findings).values.map Share.penalty).sum = exactTotal findings := by
  have hsum : ((exactShares findings).values.map Share.penalty).sum =
      ((counted findings).map cost).sum :=
    Table.sum_grouped Share.penalty cost _ rfl fun _ _ => rfl
  rw [hsum, sum_cost_counted, exactTotal_eq_sum]

theorem foldl_add_share (findings : List Finding) (share : Share ℚ) :
    findings.foldl (fun share finding => share.add (cost finding)) share =
      ⟨share.count + findings.length, share.penalty + (findings.map cost).sum⟩ := by
  induction findings generalizing share with
  | nil => simp
  | cons finding rest ih =>
    have hcount : share.count + 1 + rest.length = share.count + (rest.length + 1) := by omega
    rw [List.foldl_cons, ih, List.map_cons, List.sum_cons, List.length_cons, ← hcount,
      ← add_assoc share.penalty]
    rfl

/-- **The share of a category** tells the number and the cost of the findings that are charged to
it; a category without any has no share. -/
theorem get?_exactShares (findings : List Finding) (category : String) :
    (exactShares findings).get? category =
      if (chargedTo category findings).isEmpty then none
      else some ⟨(chargedTo category findings).length,
        ((chargedTo category findings).map cost).sum⟩ := by
  have hmem : category ∈ (counted findings).map categoryOf ↔
      (chargedTo category findings).isEmpty = false := by
    simp [chargedTo, List.filter_eq_nil_iff]
  unfold exactShares
  rw [shares_eq_grouped]
  split
  · next hnone =>
    refine Table.get?_eq_none fun hkey => ?_
    rw [hmem.mp (Table.mem_keys_grouped_iff.mp hkey)] at hnone
    cases hnone
  · next hsome =>
    refine (Table.get?_grouped (hmem.mpr (Bool.eq_false_of_not_eq_true hsome))).trans ?_
    have hshare := foldl_add_share (chargedTo category findings) ⟨0, 0⟩
    rw [Nat.zero_add, zero_add] at hshare
    exact congrArg some hshare

theorem chargedTo_perm (hperm : others.Perm findings) (category : String) :
    (chargedTo category others).Perm (chargedTo category findings) :=
  (hperm.filter _).filter _

/-- Exact shares do not hang on the order of the findings. -/
theorem get?_exactShares_perm (hperm : others.Perm findings) (category : String) :
    (exactShares others).get? category = (exactShares findings).get? category := by
  have hcharged := chargedTo_perm hperm category
  rw [get?_exactShares, get?_exactShares, hcharged.length_eq, (hcharged.map cost).sum_eq,
    hcharged.isEmpty_eq]

/-! ## All accounts -/

/-- How the accounts of some findings go together. -/
structure AddsUp (findings : List Finding) : Prop where
  total : exactTotal findings = (findings.map cost).sum
  share : ∀ category, (exactShares findings).get? category =
    if (chargedTo category findings).isEmpty then none
    else some ⟨(chargedTo category findings).length, ((chargedTo category findings).map cost).sum⟩
  /-- Every finding of the four upper levels is in one share. -/
  counts : ((exactShares findings).values.map Share.count).sum =
    numberOf .critical findings + numberOf .high findings + numberOf .medium findings +
      numberOf .low findings
  penalties : ((exactShares findings).values.map Share.penalty).sum = exactTotal findings
  permuted : ∀ others : List Finding, others.Perm findings →
    exactTotal others = exactTotal findings ∧
      ∀ category, (exactShares others).get? category = (exactShares findings).get? category
  appended : ∀ finding, exactTotal findings ≤ exactTotal (findings ++ [finding])
  /-- Two places, as the summary has them, hold the whole total. -/
  places : (round (exactTotal findings * 100) : ℚ) / 100 = exactTotal findings
  /-- The summary shows these accounts in floats, with the same categories and counts. -/
  shown : (summary findings).lookup "total_penalty" =
      some (.float (Number.roundTo (totalPenalty 0.0 Weight.penalty findings) 2)) ∧
    (summary findings).lookup "findings_by_category" =
      some (.object ((shares 0.0 Weight.penalty findings).map fun entry =>
        (entry.1, shareDocument entry.2))) ∧
    (shares 0.0 Weight.penalty findings).map (fun entry => (entry.1, entry.2.count)) =
      (exactShares findings).map fun entry => (entry.1, entry.2.count)

/-- **The accounts of a project with findings add up**: what is charged to the categories is what is
charged in total, of every finding that weighs something and in any order of the findings. -/
theorem accounts_add_up (hsome : findings ≠ []) : AddsUp findings where
  total := exactTotal_eq_sum findings
  share := get?_exactShares findings
  counts := by rw [sum_counts, length_counted]
  penalties := sum_penalties findings
  permuted others hperm := by
    refine ⟨?_, get?_exactShares_perm hperm⟩
    rw [exactTotal_eq_sum, exactTotal_eq_sum, (hperm.map cost).sum_eq]
  appended finding := by
    rw [exactTotal_concat]
    exact le_add_of_nonneg_right (cost_nonneg finding)
  places := by
    rw [exactTotal_eq_hundredths, div_mul_cancel₀ _ (by norm_num), round_natCast, Int.cast_natCast]
  shown := by
    have hempty : findings.isEmpty = false := List.isEmpty_eq_false_iff.mpr hsome
    refine ⟨?_, ?_, (shares_counts _ _ _).trans (shares_counts _ _ _).symm⟩
    · simp [summary, hempty, List.lookup_cons]
    · simp [summary, hempty, List.lookup_cons]

/-- A critical finding under article 9 for a secret in the code, one without an article, and one
that weighs nothing. -/
def chargedFindings : List Finding :=
  [{ Report.bareFinding with
      rule := "HARDCODED_SECRET"
      severity := .level .critical
      assessment := .classified {
        piiTypes := ["health"], sectors := [], severity := "critical", article := some "Art. 9"
        legalBasisRequired := true, category := "health", confidence := 0.9 } },
    { Report.bareFinding with rule := "LOG_PII", severity := .named "high" },
    { Report.bareFinding with severity := .named "urgent" }]

/-- The critical finding costs most, and the last one nothing. -/
theorem chargedFindings_add_up :
    chargedFindings ≠ [] ∧
      chargedFindings.map weightOf = [⟨15, 20, 15⟩, ⟨8, 10, 9⟩, ⟨0, 10, 10⟩] ∧
      exactTotal chargedFindings = 52.2 ∧ AddsUp chargedFindings := by
  have hsome : chargedFindings ≠ [] := nofun
  have hweights : chargedFindings.map weightOf = [⟨15, 20, 15⟩, ⟨8, 10, 9⟩, ⟨0, 10, 10⟩] := by
    decide
  refine ⟨hsome, hweights, ?_, accounts_add_up hsome⟩
  have hcosts : chargedFindings.map (fun finding => (weightOf finding).hundredths) =
      [4500, 720, 0] := by
    have hmap := congrArg (List.map Weight.hundredths) hweights
    rw [List.map_map] at hmap
    exact hmap
  rw [exactTotal_eq_hundredths, hcosts]
  norm_num

end PrivacyScan.Compliance
