import PrivacyScan.Proofs.Grouping
import PrivacyScan.Proofs.Report.Records

/-!
# The files of a report

The overview adds every finding to the group of its file and then sorts the groups by their scores.
The groups are those of `Proofs/Grouping.lean`, with three quantities side by side; the sorting is
stable.
-/

namespace PrivacyScan.Report

/-- Items that are sorted stand by their rank, and those of one rank as they stood before. -/
theorem pairwise_mergeSort_stable {α : Type} [DecidableEq α] {le : α → α → Bool}
    {before : α → α → Prop} {items : List α}
    (htrans : ∀ a b c, le a b = true → le b c = true → le a c = true)
    (htotal : ∀ a b, (le a b || le b a) = true) (hdistinct : items.Nodup)
    (hbefore : items.Pairwise before) :
    (items.mergeSort le).Pairwise fun item other =>
      le item other = true ∧ (le other item = true → before item other) := by
  have hplaces : (items.mergeSort le).Pairwise fun item other =>
      (items.mergeSort le).idxOf item < (items.mergeSort le).idxOf other :=
    Table.pairwise_idxOf ((List.mergeSort_perm items le).nodup_iff.mpr hdistinct)
  rw [List.pairwise_iff_forall_sublist] at hplaces
  refine (List.pairwise_mergeSort htrans htotal items).and ?_
  refine List.pairwise_iff_forall_sublist.mpr fun {item other} hpair hback => ?_
  have hplace := hplaces hpair
  have hmem {member : α} (h : member ∈ [item, other]) : member ∈ items :=
    List.mem_mergeSort.mp (hpair.subset h)
  obtain ⟨i, hi, rfl⟩ := List.getElem_of_mem (hmem List.mem_cons_self)
  obtain ⟨j, hj, rfl⟩ := List.getElem_of_mem (hmem (List.mem_cons_of_mem _ List.mem_cons_self))
  rcases Nat.lt_trichotomy i j with hlt | rfl | hlt
  · exact List.pairwise_iff_getElem.mp hbefore i j hi hj hlt
  · exact absurd hplace (Nat.lt_irrefl _)
  · -- the other one stood first, so it would still stand first
    have hfirst : [items[j], items[i]].Sublist items :=
      List.pairwise_iff_getElem.mp (List.pairwise_iff_forall_sublist.mpr id) j i hj hi hlt
    have hagain := hplaces (List.pair_sublist_mergeSort htrans htotal hback hfirst)
    exact absurd hplace (Nat.lt_asymm hagain)

/-! ## What a file is charged with -/

/-- How much a finding of a level adds to the score of its file. -/
def levelRisk : Severity → Nat
  | .critical => 10
  | .high => 5
  | .medium => 2
  | .low => 1
  | .info => 0

namespace Entry

def level? (entry : Entry) : Option Severity := entry.severity.text?.bind Severity.ofLabel?

def risk (entry : Entry) : Nat := (entry.level?.map levelRisk).getD 0

def isCritical (entry : Entry) : Bool := entry.level? == some .critical

end Entry

def entriesOf (file : String) (entries : List Entry) : List Entry :=
  entries.filter (·.file.shown == file)

def fileRisk (file : String) (entries : List Entry) : Nat :=
  ((entriesOf file entries).map Entry.risk).sum

/-- What a report tells about a file. -/
def fileRecord (file : String) (entries : List Entry) : Document :=
  .object [("score", .int (fileRisk file entries)),
    ("findings_count", .int (entriesOf file entries).length),
    ("findings", .list ((entriesOf file entries).map Entry.toDocument)),
    ("critical_count", .int ((entriesOf file entries).countP Entry.isCritical))]

/-- The files of the entries: each of them once, those with the higher scores first, and those with
one score in the order in which they first come. -/
structure IsRiskOrder (entries : List Entry) (files : List String) : Prop where
  once : files.Nodup
  covers : ∀ file, file ∈ files ↔ ∃ entry ∈ entries, entry.file.shown = file
  ranked : files.Pairwise fun file other =>
    fileRisk other entries < fileRisk file entries ∨
      fileRisk other entries = fileRisk file entries ∧
        (entries.map (·.file.shown)).idxOf file < (entries.map (·.file.shown)).idxOf other

theorem label_of_ofLabel? {label : String} {level : Severity}
    (h : Severity.ofLabel? label = some level) : level.label = label := by
  unfold Severity.ofLabel? at h
  simpa using List.find?_some h

namespace Overview

/-- The score of a severity is the one that its level has in the report. -/
theorem riskOf_severity (entry : Entry) : riskOf entry.severity = entry.risk := by
  unfold Entry.risk Entry.level?
  cases entry.severity with
  | text label =>
    show riskOf (.text label) = ((Severity.ofLabel? label).map levelRisk).getD 0
    cases hlevel : Severity.ofLabel? label with
    | some level =>
      rw [← label_of_ofLabel? hlevel]
      cases level <;> rfl
    | none =>
      unfold riskOf
      split
      case h_5 => rfl
      all_goals
        next hlabel =>
          cases hlabel
          exact absurd hlevel (by decide)
  | _ => rfl

theorem isCritical_severity (entry : Entry) : isCritical entry.severity = entry.isCritical := by
  unfold Entry.isCritical Entry.level?
  cases entry.severity with
  | text label =>
    show (label == "critical") = (Severity.ofLabel? label == some .critical)
    rw [Bool.eq_iff_iff, beq_iff_eq, beq_iff_eq]
    exact ⟨fun hlabel => by rw [hlabel]; decide, fun hlevel => (label_of_ofLabel? hlevel).symm⟩
  | _ => rfl

theorem foldl_add (entries : List Entry) (group : FileGroup) :
    entries.foldl FileGroup.add group =
      { score := group.score + (entries.map Entry.risk).sum
        findings := group.findings ++ entries.map Entry.toDocument
        criticalCount := group.criticalCount + entries.countP Entry.isCritical } := by
  induction entries generalizing group with
  | nil => simp
  | cons entry rest ih =>
    rw [List.foldl_cons, ih, FileGroup.add, riskOf_severity, isCritical_severity, List.map_cons,
      List.sum_cons, List.map_cons, List.countP_cons, List.append_assoc, Nat.add_assoc,
      Nat.add_assoc, Nat.add_comm (List.countP _ _)]
    rfl

def groupOf (entries : List Entry) (file : String) : FileGroup where
  score := fileRisk file entries
  findings := (entriesOf file entries).map Entry.toDocument
  criticalCount := (entriesOf file entries).countP Entry.isCritical

theorem toDocument_groupOf (entries : List Entry) (file : String) :
    (groupOf entries file).toDocument = fileRecord file entries := by
  unfold groupOf FileGroup.toDocument fileRecord
  rw [List.length_map]

theorem groupByFile_eq_grouped (entries : List Entry) :
    groupByFile entries = Table.grouped (·.file.shown) {} FileGroup.add entries :=
  rfl

theorem groupByFile_eq (entries : List Entry) :
    groupByFile entries =
      (groupByFile entries).keys.map fun file => (file, groupOf entries file) := by
  rw [groupByFile_eq_grouped]
  refine Table.eq_map_keys (Table.keys_grouped_nodup entries) fun file hfile => ?_
  rw [Table.get?_grouped (Table.mem_keys_grouped_iff.mp hfile), foldl_add]
  simp only [Nat.zero_add, List.nil_append]
  rfl

/-! ## Their order -/

def riskOrder (entries : List Entry) : List String :=
  (groupByFile entries).keys.mergeSort fun file other =>
    fileRisk other entries ≤ fileRisk file entries

theorem riskiestFirst_groupByFile (entries : List Entry) :
    riskiestFirst (groupByFile entries) =
      (riskOrder entries).map fun file => (file, groupOf entries file) := by
  have hsorted : (riskOrder entries).map (fun file => (file, groupOf entries file)) =
      riskiestFirst ((groupByFile entries).keys.map fun file => (file, groupOf entries file)) :=
    List.map_mergeSort fun _ _ _ _ => rfl
  rw [hsorted, ← groupByFile_eq]

/-- **The files are ordered by risk**, and stably so, as the sort keeps the order of the groups. -/
theorem riskOrder_isRiskOrder (entries : List Entry) : IsRiskOrder entries (riskOrder entries) where
  once := (List.mergeSort_perm _ _).nodup_iff.mpr (Table.keys_grouped_nodup entries)
  covers file := by
    rw [riskOrder, List.mem_mergeSort, groupByFile_eq_grouped, Table.mem_keys_grouped_iff,
      List.mem_map]
  ranked := by
    refine (pairwise_mergeSort_stable ?_ ?_ (Table.keys_grouped_nodup entries)
      (Table.keys_grouped_pairwise entries)).imp fun {file other} hrank => ?_
    · intro first second third hfirst hsecond
      simp only [decide_eq_true_eq] at hfirst hsecond ⊢
      exact hsecond.trans hfirst
    · intro first second
      simp only [Bool.or_eq_true, decide_eq_true_eq]
      exact Nat.le_total _ _
    · simp only [decide_eq_true_eq] at hrank
      obtain ⟨hle, htie⟩ := hrank
      rcases Nat.lt_or_eq_of_le hle with hlt | heq
      · exact .inl hlt
      · exact .inr ⟨heq, htie heq.ge⟩

theorem entriesOf_riskOrder_perm (entries : List Entry) :
    ((riskOrder entries).flatMap (entriesOf · entries)).Perm entries := by
  have horder := riskOrder_isRiskOrder entries
  exact Table.perm_flatMap_filter horder.once fun entry hentry =>
    (horder.covers _).mpr ⟨entry, hentry, rfl⟩

theorem files_of_ofEntries {entries : List Entry} {metadata : Document} {overview : Overview}
    (h : ofEntries entries metadata = .ok overview) :
    overview.files = riskiestFirst (groupByFile entries) := by
  unfold ofEntries at h
  obtain ⟨summary, -, h⟩ := Outcome.bind_eq_ok.mp h
  obtain ⟨articles, -, h⟩ := Outcome.bind_eq_ok.mp h
  cases h
  rfl

/-- **A report has the findings under their files**: one record for each file, in the order of their
scores; all findings are listed, none of them twice, and those of a file in the order in which they
came. There is a report for all entries that can be read. -/
theorem files_partition_findings (entries : List Entry) (metadata : Document) :
    ∃ files, IsRiskOrder entries files ∧ (files.flatMap (entriesOf · entries)).Perm entries ∧
      (Outcome.Completes (ofEntries entries metadata) ↔ ∀ entry ∈ entries, entry.IsReadable) ∧
      ∀ overview, ofEntries entries metadata = .ok overview →
        overview.toDocument.field? "files" =
          some (.object (files.map fun file => (file, fileRecord file entries))) := by
  refine ⟨riskOrder entries, riskOrder_isRiskOrder entries, entriesOf_riskOrder_perm entries,
    ofEntries_completes_iff entries metadata, fun overview hoverview => ?_⟩
  have hfiles : overview.files.map (fun entry => (entry.1, entry.2.toDocument)) =
      (riskOrder entries).map fun file => (file, fileRecord file entries) := by
    rw [files_of_ofEntries hoverview, riskiestFirst_groupByFile, List.map_map]
    refine List.map_congr_left fun file _ => ?_
    exact congrArg (Prod.mk file) (toDocument_groupOf entries file)
  rw [← hfiles]
  simp [toDocument, Document.field?, List.lookup_cons]

end Overview

end PrivacyScan.Report
