import Mathlib.Algebra.BigOperators.Ring.Finset
import PrivacyScan.Proofs.Report.Records
import PrivacyScan.Report.Console
import PrivacyScan.Report.Html.Basic

/-!
# Counting findings by severity

Four parts of the scanner count the findings of each severity, and each in its own way: the score
looks for a level in the text that a rating shows as, the overview looks records up in a table, the
page puts them into groups by their severity in small letters, and the terminal compares the texts
of findings that were read back from records. On findings whose severity is a level, given as such
or by its name, all of them count the same.
-/

namespace PrivacyScan

def Rating.IsLevel (rating : Rating) : Prop :=
  ∃ level : Severity, rating = .level level ∨ rating = .named level.label

namespace Report

def numberOf (level : Severity) (findings : List Finding) : Nat :=
  findings.countP fun finding => finding.severity.label == level.label

variable {findings : List Finding} {level : Severity}

theorem numberOf_cons (finding : Finding) (rest : List Finding) (level : Severity) :
    numberOf level (finding :: rest) =
      numberOf level rest + if finding.severity.label == level.label then 1 else 0 :=
  List.countP_cons

theorem label_of_isLevel {rating : Rating} (h : rating.IsLevel) :
    ∃ level : Severity, rating.label = level.label := by
  obtain ⟨level, rfl | rfl⟩ := h
  · exact ⟨level, rfl⟩
  · exact ⟨level, rfl⟩

theorem lower_label (level : Severity) : Text.lower level.label = level.label := by
  cases level <;> decide +kernel

/-! ## The score -/

def countedLevels : List Severity := [.critical, .high, .medium]

/-- **The level that the score sees in a rating is the level of the rating.** No name of a level is
a part of the text that another one shows as. -/
theorem countedLevel?_eq_some_iff {rating : Rating} (h : rating.IsLevel)
    (hlevel : level ∈ countedLevels) :
    Compliance.countedLevel? rating = some level ↔ rating.label = level.label := by
  have hall : ∀ actual ∈ Severity.all, ∀ level ∈ countedLevels,
      (Compliance.countedLevel? (.level actual) = some level ↔ actual.label = level.label) ∧
      (Compliance.countedLevel? (.named actual.label) = some level ↔
        actual.label = level.label) := by
    -- the search goes through the shown text, so every pair of names is compared
    decide +kernel
  obtain ⟨actual, hrating⟩ := h
  have hmem : actual ∈ Severity.all := by cases actual <;> decide
  rcases hrating with rfl | rfl
  · exact (hall actual hmem level hlevel).1
  · exact (hall actual hmem level hlevel).2

theorem countOf_eq (h : ∀ finding ∈ findings, finding.severity.IsLevel)
    (hlevel : level ∈ countedLevels) :
    Compliance.countOf level findings = numberOf level findings := by
  refine List.countP_congr fun finding hfinding => ?_
  rw [beq_iff_eq, beq_iff_eq]
  exact countedLevel?_eq_some_iff (h finding hfinding) hlevel

/-! ## The overview -/

def buckets (total : Nat) (count : Severity → Nat) : Table Nat :=
  ("total", total) :: Severity.all.map fun level => (level.label, count level)

theorem get?_buckets (total : Nat) (count : Severity → Nat) (level : Severity) :
    (buckets total count).get? level.label = some (count level) := by
  cases level <;> rfl

theorem update_buckets (total : Nat) (count : Severity → Nat) (level : Severity) :
    (buckets total count).update level.label 0 (· + 1) =
      buckets total fun other => count other + if level.label == other.label then 1 else 0 := by
  cases level <;> rfl

/-- One record more: its level goes up by one, and the other counts stay. -/
theorem summary_step {finding : Finding} (h : finding.severity.IsLevel) (total : Nat)
    (count : Severity → Nat) :
    (if (buckets total count).hasKey finding.severity.label then
        (buckets total count).update finding.severity.label 0 (· + 1)
      else buckets total count) =
      buckets total fun level =>
        count level + if finding.severity.label == level.label then 1 else 0 := by
  obtain ⟨level, hlevel⟩ := label_of_isLevel h
  have hkey : (buckets total count).hasKey level.label = true := by
    rw [Table.hasKey, get?_buckets]
    rfl
  rw [hlevel, if_pos hkey, update_buckets]

theorem summary_run (h : ∀ finding ∈ findings, finding.severity.IsLevel) (total : Nat)
    (count : Severity → Nat) :
    findings.foldlM (fun summary finding => Except.ok
        (if Table.hasKey summary finding.severity.label then
          summary.update finding.severity.label 0 (· + 1) else summary)) (buckets total count) =
      (.ok (buckets total fun level => count level + numberOf level findings) :
        Outcome (Table Nat)) := by
  -- the counts are left open: the run over the rest starts from those after the first finding
  induction findings generalizing count with
  | nil => rfl
  | cons finding rest ih =>
    obtain ⟨hfinding, hrest⟩ := List.forall_mem_cons.mp h
    rw [List.foldlM_cons, summary_step hfinding]
    refine (ih hrest _).trans ?_
    simp only [numberOf_cons, Nat.add_assoc, Nat.add_comm (numberOf _ rest)]

/-- **The overview counts every record under its level.** -/
theorem summaryOf_eq (h : ∀ finding ∈ findings, finding.severity.IsLevel) :
    Overview.summaryOf (findings.map fun finding => .record finding.toDocument) =
      .ok (buckets findings.length fun level => numberOf level findings) := by
  rw [Entry.map_record_toDocument, Overview.summaryOf_recorded, Overview.summaryOf,
    List.foldlM_map, List.length_map]
  refine (summary_run h findings.length fun _ => 0).trans ?_
  simp only [Nat.zero_add]

theorem sum_numberOf (h : ∀ finding ∈ findings, finding.severity.IsLevel) :
    (Severity.all.map fun level => numberOf level findings).sum = findings.length := by
  induction findings with
  | nil => rfl
  | cons finding rest ih =>
    obtain ⟨hfinding, hrest⟩ := List.forall_mem_cons.mp h
    obtain ⟨level, hlevel⟩ := label_of_isLevel hfinding
    have hone : (Severity.all.map fun other => if level.label == other.label then 1 else 0).sum =
        1 := by
      cases level <;> rfl
    simp only [numberOf_cons, hlevel, List.sum_map_add, ih hrest, hone, List.length_cons]

/-! ## The page -/

theorem severityLabel_toDocument {finding : Finding} (h : finding.severity.IsLevel) :
    Html.severityLabel finding.toDocument = .ok finding.severity.label := by
  obtain ⟨level, hlevel⟩ := label_of_isLevel h
  simp only [Html.severityLabel, Finding.toDocument, Document.get, Finding.lookup_common,
    Option.getD_some, hlevel]
  exact congrArg Except.ok (lower_label level)

theorem grouped_length (h : ∀ finding ∈ findings, finding.severity.IsLevel) :
    ∃ groups, Html.grouped (findings.map Finding.toDocument) = .ok groups ∧
      ∀ level, (groups level).length = numberOf level findings := by
  have hlabelled : (findings.map Finding.toDocument).mapM (fun record => do
        return (← Html.severityLabel record, record)) =
      .ok (findings.map fun finding => (finding.severity.label, finding.toDocument)) := by
    rw [List.mapM_map]
    refine Outcome.mapM_eq_ok fun finding hfinding => ?_
    rw [Function.comp_apply, severityLabel_toDocument (h finding hfinding)]
    rfl
  unfold Html.grouped
  rw [hlabelled]
  refine ⟨_, rfl, fun level => ?_⟩
  rw [List.length_map, List.filter_map, List.length_map, ← List.countP_eq_length_filter]
  rfl

/-! ## The terminal -/

theorem countShown_kept (h : ∀ finding ∈ findings, finding.severity.IsLevel) (level : Severity) :
    Console.countShown (findings.map Finding.kept) level.label = numberOf level findings := by
  unfold Console.countShown
  rw [List.countP_map]
  refine List.countP_congr fun finding hfinding => ?_
  obtain ⟨actual, hactual⟩ := label_of_isLevel (h finding hfinding)
  have hshown : Text.lower finding.kept.severity.shown = finding.severity.label := by
    show Text.lower finding.severity.label = finding.severity.label
    rw [hactual, lower_label]
  rw [Function.comp_apply, hshown]

/-! ## All four -/

/-- What the four parts say about the numbers of findings. The overview also gives the number of all
findings, which is the sum of the others. -/
structure CountsAgree (findings : List Finding) : Prop where
  score : (Compliance.summary findings).lookup "critical_findings" =
      some (.int (numberOf .critical findings)) ∧
    (Compliance.summary findings).lookup "high_findings" = some (.int (numberOf .high findings)) ∧
    (Compliance.summary findings).lookup "medium_findings" = some (.int (numberOf .medium findings))
  overview : ∃ summary,
    Overview.summaryOf (findings.map fun finding => .record finding.toDocument) = .ok summary ∧
    (∀ level : Severity, summary.get? level.label = some (numberOf level findings)) ∧
    summary.get? "total" = some findings.length ∧
    (Severity.all.map fun level => numberOf level findings).sum = findings.length
  page : ∃ groups, Html.grouped (findings.map Finding.toDocument) = .ok groups ∧
    ∀ level, (groups level).length = numberOf level findings
  terminal : ∃ shown, (findings.map Finding.toDocument).mapM Finding.ofRecord = .ok shown ∧
    Console.countTable shown = .table "Findings Summary" ["Severity", "Count", "Description"] [
      ["[red]CRITICAL[/red]", toString (numberOf .critical findings), "Immediate action required"],
      ["[orange1]HIGH[/orange1]", toString (numberOf .high findings), "Significant privacy risk"],
      ["[yellow]MEDIUM[/yellow]", toString (numberOf .medium findings), "Compliance warning"],
      ["[blue]LOW[/blue]", toString (numberOf .low findings), "Best practice suggestion"]]

/-- **All parts count the findings of a severity alike**, where there are any, their severities are
levels, given as such or by their names, and they have classifications. -/
theorem severity_counts_agree (hsome : findings ≠ [])
    (h : ∀ finding ∈ findings, finding.severity.IsLevel)
    (hclassified : ∀ finding ∈ findings, ∃ classification,
      finding.assessment = .classified classification) : CountsAgree findings := by
  constructor
  case score =>
    have hempty : findings.isEmpty = false := List.isEmpty_eq_false_iff.mpr hsome
    have hcount (level : Severity) (hlevel : level ∈ countedLevels) :
        numberOf level findings = Compliance.countOf level findings := (countOf_eq h hlevel).symm
    rw [hcount .critical (by decide), hcount .high (by decide), hcount .medium (by decide)]
    simp [Compliance.summary, hempty, List.lookup_cons]
  case overview =>
    exact ⟨_, summaryOf_eq h, get?_buckets _ _, rfl, sum_numberOf h⟩
  case page => exact grouped_length h
  case terminal =>
    refine ⟨findings.map Finding.kept, ?_, ?_⟩
    · rw [List.mapM_map]
      refine Outcome.mapM_eq_ok fun finding hfinding => ?_
      obtain ⟨classification, hclassification⟩ := hclassified finding hfinding
      exact Finding.ofRecord_toDocument hclassification
    · -- the terminal counts what was read back, where a severity is a text
      have hcount := countShown_kept h
      unfold Console.countTable
      rw [← hcount .critical, ← hcount .high, ← hcount .medium, ← hcount .low]
      rfl

/-- Findings of one level in both forms, and one of a level that the score does not count. -/
def mixedFindings : List Finding :=
  [bareFinding, { bareFinding with severity := .named "high" },
    { bareFinding with severity := .named "info" }]

theorem mixedFindings_counts :
    mixedFindings ≠ [] ∧ (∀ finding ∈ mixedFindings, finding.severity.IsLevel) ∧
      (∀ finding ∈ mixedFindings, ∃ classification,
        finding.assessment = .classified classification) ∧
      numberOf .high mixedFindings = 2 ∧ CountsAgree mixedFindings := by
  have hsome : mixedFindings ≠ [] := nofun
  have hlevels : ∀ finding ∈ mixedFindings, finding.severity.IsLevel := by
    rw [mixedFindings, List.forall_mem_cons, List.forall_mem_cons, List.forall_mem_singleton]
    exact ⟨⟨.high, .inl rfl⟩, ⟨.high, .inr rfl⟩, ⟨.info, .inr rfl⟩⟩
  have hclassified : ∀ finding ∈ mixedFindings, ∃ classification,
      finding.assessment = .classified classification := by
    rw [mixedFindings, List.forall_mem_cons, List.forall_mem_cons, List.forall_mem_singleton]
    exact ⟨⟨_, rfl⟩, ⟨_, rfl⟩, ⟨_, rfl⟩⟩
  exact ⟨hsome, hlevels, hclassified, by decide, severity_counts_agree hsome hlevels hclassified⟩

end Report

end PrivacyScan
