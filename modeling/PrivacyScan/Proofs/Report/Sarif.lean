import PrivacyScan.Proofs.Report.Files

/-!
# Results and rules for other tools

The report in the format SARIF lists the findings as results, and the rules that they name. Each
result is read off its own finding; the rules are the first results of each name.
-/

namespace PrivacyScan

/-! ## Looking into a document -/

namespace Document

def int? : Document → Option Int
  | .int value => some value
  | _ => none

def members : Document → List Document
  | .list items => items
  | other => [other]

theorem exists_text {document : Document} (h : document.kind = .text) :
    ∃ value, document = .text value := by
  cases document with
  | text value => exact ⟨value, rfl⟩
  | _ => cases h

theorem exists_object {document : Document} (h : document.kind = .object) :
    ∃ fields, document = .object fields := by
  cases document with
  | object fields => exact ⟨fields, rfl⟩
  | _ => cases h

/-- What stands under a path of names. A list on the way is gone through item by item. -/
def under : List String → Document → List Document
  | [], document => [document]
  | name :: path, document =>
    document.members.flatMap fun member => ((member.field? name).map (under path)).getD []

end Document

namespace Report

/-! ## Findings and their records -/

namespace Entry

def ruleName : Entry → String
  | .found finding => finding.rule
  | .record document => ((document.field? "rule").bind Document.text?).getD "UNKNOWN"

def severityLabel : Entry → String
  | .found finding => finding.severity.label
  | .record document => ((document.field? "severity").bind Document.text?).getD "warning"

def line? : Entry → Option Int
  | .found finding => some finding.line
  | .record document => (document.field? "line").bind Document.int?

/-- The line that a result starts at: the first one where the finding has no line, or the line 0. -/
def startLine (entry : Entry) : Int := entry.line?.elim 1 fun line => if line = 0 then 1 else line

end Entry

/-- A record as findings have one: it may lack any field, but what it has is of the kind that
findings have there. A line may also be null. -/
structure IsFindingRecord (document : Document) : Prop where
  object : document.kind = .object
  rule : ∀ value ∈ document.field? "rule", value.kind = .text
  severity : ∀ value ∈ document.field? "severity", value.kind = .text
  line : ∀ value ∈ document.field? "line", value.kind = .int ∨ value.kind = .none
  classification : ∀ value ∈ document.field? "classification", value.kind = .object

instance (document : Document) : Decidable (IsFindingRecord document) :=
  decidable_of_iff
    (document.kind = .object ∧ (∀ value ∈ document.field? "rule", value.kind = .text) ∧
      (∀ value ∈ document.field? "severity", value.kind = .text) ∧
      (∀ value ∈ document.field? "line", value.kind = .int ∨ value.kind = .none) ∧
      ∀ value ∈ document.field? "classification", value.kind = .object)
    ⟨fun ⟨object, rule, severity, line, classification⟩ =>
        ⟨object, rule, severity, line, classification⟩,
      fun h => ⟨h.object, h.rule, h.severity, h.line, h.classification⟩⟩

/-- A finding that names its file by a text and has a classification, or the record of a finding. -/
def Entry.IsFinding : Entry → Prop
  | .found finding => finding.fileIsPath = false ∧
      ∃ classification, finding.assessment = .classified classification
  | .record document => IsFindingRecord document

namespace Sarif

/-! ## The result of a finding -/

theorem lineNumber_int (number : Int) :
    lineNumber (.int number) = .ok (if number = 0 then 1 else number) := by
  unfold lineNumber
  by_cases hzero : number = 0 <;> simp [Document.isTruthy, hzero]

/-- What a result takes from its entry. -/
structure Reads (entry : Entry) (result : Result) : Prop where
  rule : result.rule = .text entry.ruleName
  severity : result.severity = entry.severityLabel
  line : result.line = .int entry.startLine

theorem resultOf_found {finding : Finding} (h : (Entry.found finding).IsFinding) :
    ∃ result, resultOf (.found finding) = .ok result ∧ Reads (.found finding) result := by
  obtain ⟨-, classification, hclassified⟩ := h
  simp only [resultOf, hclassified, lineNumber_int]
  exact ⟨_, rfl, rfl, rfl, rfl⟩

section Record

variable {record : Document}

theorem getD_text {name : String} (h : ∀ value ∈ record.field? name, value.kind = .text)
    (default : String) :
    (record.field? name).getD (.text default) =
      .text (((record.field? name).bind Document.text?).getD default) := by
  cases hfield : record.field? name with
  | none => rfl
  | some value =>
    obtain ⟨text, rfl⟩ := Document.exists_text (h value hfield)
    rfl

/-- A missing line is read as the first one, and so is null. -/
theorem lineNumber_record (h : IsFindingRecord record) :
    lineNumber ((record.field? "line").getD (.int 1)) = .ok (Entry.record record).startLine := by
  have hstart : (Entry.record record).startLine =
      ((record.field? "line").bind Document.int?).elim 1 fun line =>
        if line = 0 then 1 else line := rfl
  rw [hstart]
  cases hline : record.field? "line" with
  | none => rfl
  | some value =>
    have hkind := h.line value hline
    cases value with
    | null => rfl
    | int number => exact lineNumber_int number
    | _ => simp [Document.kind] at hkind

theorem classification_record (h : IsFindingRecord record) :
    ∃ fields, record.get "classification" (.object []) = .ok (.object fields) := by
  have hget : record.get "classification" (.object []) =
      .ok ((record.field? "classification").getD (.object [])) := by
    obtain ⟨fields, rfl⟩ := Document.exists_object h.object
    rfl
  rw [hget]
  cases hfield : record.field? "classification" with
  | none => exact ⟨[], rfl⟩
  | some value =>
    obtain ⟨fields, rfl⟩ := Document.exists_object (h.classification value hfield)
    exact ⟨fields, rfl⟩

theorem resultOf_record (h : IsFindingRecord record) :
    ∃ result, resultOf (.record record) = .ok result ∧ Reads (.record record) result := by
  obtain ⟨fields, hfields⟩ := classification_record h
  simp only [resultOf, hfields, getD_text h.rule, getD_text h.severity, lineNumber_record h]
  exact ⟨_, rfl, rfl, rfl, rfl⟩

end Record

theorem resultOf_reads {entry : Entry} (h : entry.IsFinding) :
    ∃ result, resultOf entry = .ok result ∧ Reads entry result := by
  cases entry with
  | found finding => exact resultOf_found h
  | record document => exact resultOf_record h

/-! ## The rules -/

/-- Some names, each of them once, in the order in which they first come. -/
structure ListsOnce (occurring names : List String) : Prop where
  once : names.Nodup
  covers : ∀ name, name ∈ names ↔ name ∈ occurring
  ordered : names.Pairwise fun name other => occurring.idxOf name < occurring.idxOf other

/-- A first name comes to the front and is taken out of the rest. -/
theorem ListsOnce.cons {occurring names : List String} (h : ListsOnce occurring names)
    (first : String) : ListsOnce (first :: occurring) (first :: names.filter (· != first)) where
  once := by
    rw [List.nodup_cons]
    exact ⟨by simp, h.once.filter _⟩
  covers name := by
    rw [List.mem_cons, List.mem_cons, List.mem_filter, h.covers]
    by_cases hfirst : name = first <;> simp [hfirst]
  ordered := by
    refine List.pairwise_cons.mpr ⟨fun name hname => ?_, ?_⟩
    · obtain ⟨-, hne⟩ := List.mem_filter.mp hname
      rw [List.idxOf_cons_self, List.idxOf_cons_ne _ (bne_iff_ne.mp hne).symm]
      exact Nat.succ_pos _
    · -- each name that is left comes one place later than before
      refine (h.ordered.filter _).imp_of_mem fun {name other} hname hother hlt => ?_
      obtain ⟨-, hne⟩ := List.mem_filter.mp hname
      obtain ⟨-, hne'⟩ := List.mem_filter.mp hother
      rw [List.idxOf_cons_ne _ (bne_iff_ne.mp hne).symm,
        List.idxOf_cons_ne _ (bne_iff_ne.mp hne').symm]
      exact Nat.succ_lt_succ hlt

def Result.name (result : Result) : String := result.rule.shown

theorem bne_rule {result other : Result} (h : result.rule = .text result.name)
    (h' : other.rule = .text other.name) :
    (result.rule != other.rule) = (result.name != other.name) := by
  rw [h, h']
  rfl

theorem mem_of_mem_firstOfRules {results : List Result} {result : Result}
    (h : result ∈ firstOfRules results) : result ∈ results := by
  induction results with
  | nil => cases h
  | cons first rest ih =>
    rcases List.mem_cons.mp h with rfl | hrest
    · exact List.mem_cons_self
    · exact List.mem_cons_of_mem _ (ih (List.mem_filter.mp hrest).1)

theorem firstOfRules_cons {first : Result} {rest : List Result}
    (h : ∀ result ∈ first :: rest, result.rule = .text result.name) :
    firstOfRules (first :: rest) =
      first :: (firstOfRules rest).filter (·.name != first.name) := by
  obtain ⟨hfirst, hrest⟩ := List.forall_mem_cons.mp h
  rw [firstOfRules]
  congr 1
  refine List.filter_congr fun result hresult => ?_
  exact bne_rule (hrest result (mem_of_mem_firstOfRules hresult)) hfirst

theorem names_firstOfRules {results : List Result}
    (h : ∀ result ∈ results, result.rule = .text result.name) :
    ListsOnce (results.map Result.name) ((firstOfRules results).map Result.name) := by
  induction results with
  | nil => exact ⟨.nil, fun _ => Iff.rfl, .nil⟩
  | cons first rest ih =>
    have hrest := ih (List.forall_mem_cons.mp h).2
    have hfilter : ((firstOfRules rest).filter (·.name != first.name)).map Result.name =
        ((firstOfRules rest).map Result.name).filter (· != first.name) := by
      rw [List.filter_map]
      rfl
    rw [firstOfRules_cons h, List.map_cons, List.map_cons, hfilter]
    exact hrest.cons first.name

/-- Of each rule the first result is kept. -/
theorem find?_firstOfRules {results : List Result}
    (h : ∀ result ∈ results, result.rule = .text result.name) (name : String) :
    (firstOfRules results).find? (·.name == name) = results.find? (·.name == name) := by
  induction results with
  | nil => rfl
  | cons first rest ih =>
    have hrest := ih (List.forall_mem_cons.mp h).2
    rw [firstOfRules_cons h, List.find?_cons, List.find?_cons]
    cases hfirst : first.name == name with
    | true => rfl
    | false =>
      -- what the first result takes away has another name
      have hne : name ≠ first.name := fun heq => by simp [heq] at hfirst
      have hkept : (fun result : Result => decide
            ((result.name != first.name) = true ∧ (result.name == name) = true)) =
          fun result => result.name == name := by
        funext result
        by_cases hname : result.name = name
        · simp [hname, hne]
        · simp [hname]
      rw [← hrest, List.find?_filter, hkept]

/-! ## The report -/

def report (entries : List Entry) : Outcome Document := do
  let results ← entries.mapM resultOf
  entries.forM checkFile
  return document results

theorem text_eq_report (entries : List Entry) :
    text entries = Document.pretty <$> report entries := by
  unfold text report
  cases entries.mapM resultOf with
  | error fault => rfl
  | ok results => cases entries.forM checkFile <;> rfl

def told (result : Document) : Option Document × Option Document × List Document :=
  (result.field? "ruleId", result.field? "level",
    result.under ["locations", "physicalLocation", "region", "startLine"])

theorem told_resultDocument (result : Result) :
    told (resultDocument result) =
      (some result.rule, some (.text (level result.severity)), [result.line]) := by
  simp [told, resultDocument, Document.under, Document.members, Document.field?, List.lookup_cons]

theorem under_results (results : List Result) :
    (document results).under ["runs", "results"] = [.list (results.map resultDocument)] := by
  simp [document, Document.under, Document.members, Document.field?, List.lookup_cons]

theorem under_rules (results : List Result) :
    (document results).under ["runs", "tool", "driver", "rules"] =
      [.list ((firstOfRules results).map ruleDocument)] := by
  simp [document, Document.under, Document.members, Document.field?, List.lookup_cons]

theorem checkFile_of_isFinding {entry : Entry} (h : entry.IsFinding) :
    checkFile entry = .ok () := by
  cases entry with
  | found finding =>
    rw [checkFile, h.1]
    rfl
  | record document => rfl

/-- **There is a report of all findings**, and its results read them one by one. -/
theorem report_of_findings {entries : List Entry} (h : ∀ entry ∈ entries, entry.IsFinding) :
    ∃ results, report entries = .ok (document results) ∧
      results.map (fun result => (result.rule, result.severity, result.line)) =
        entries.map fun entry =>
          (.text entry.ruleName, entry.severityLabel, .int entry.startLine) := by
  obtain ⟨results, hresults⟩ : Outcome.Completes (entries.mapM resultOf) := by
    refine Outcome.completes_mapM fun entry hentry => ?_
    obtain ⟨result, hresult, -⟩ := resultOf_reads (h entry hentry)
    exact ⟨result, hresult⟩
  refine ⟨results, ?_, Outcome.map_of_mapM (fun entry hentry result hresult => ?_) hresults⟩
  · unfold report
    rw [hresults, forM_checkFile fun entry hentry => checkFile_of_isFinding (h entry hentry)]
    rfl
  · obtain ⟨read, hread, hreads⟩ := resultOf_reads (h entry hentry)
    obtain rfl := Except.ok.inj (hresult.symm.trans hread)
    rw [hreads.rule, hreads.severity, hreads.line]

section Reading

variable {entries : List Entry} {results : List Result}
  (hread : results.map (fun result => (result.rule, result.severity, result.line)) =
    entries.map fun entry => (.text entry.ruleName, entry.severityLabel, .int entry.startLine))

include hread

/-- What is seen of a result by its rule, severity and line is seen of its entry. -/
theorem map_read {α : Type} (see : Document × String × Document → α) :
    results.map (fun result => see (result.rule, result.severity, result.line)) =
      entries.map fun entry =>
        see (.text entry.ruleName, entry.severityLabel, .int entry.startLine) := by
  have h := congrArg (List.map see) hread
  rw [List.map_map, List.map_map] at h
  exact h

theorem rule_of_read : ∀ result ∈ results, result.rule = .text result.name := by
  intro result hresult
  have hmem := List.mem_map_of_mem (f := Result.rule) hresult
  rw [map_read hread Prod.fst] at hmem
  obtain ⟨entry, -, hentry⟩ := List.mem_map.mp hmem
  unfold Result.name
  rw [← hentry]
  rfl

theorem names_of_read : results.map Result.name = entries.map Entry.ruleName :=
  map_read hread fun seen => seen.1.shown

end Reading

/-- The report tells each entry by one result, in order. It has a rule for each name that a result
gives, and no others, in the order in which the names first come. -/
structure IsConsistent (entries : List Entry) (document : Document) : Prop where
  results : ∃ results, document.under ["runs", "results"] = [.list results] ∧
    results.map told = entries.map fun entry =>
      (some (.text entry.ruleName), some (.text (level entry.severityLabel)),
        [.int entry.startLine])
  rules : ∃ rules names, document.under ["runs", "tool", "driver", "rules"] = [.list rules] ∧
    rules.map (·.field? "id") = names.map (fun name => some (.text name)) ∧
    ListsOnce (entries.map Entry.ruleName) names

theorem id_ruleDocument (result : Result) :
    (ruleDocument result).field? "id" = some result.rule := by
  simp [ruleDocument, Document.field?]

/-- **Rules and results agree.** Of all findings and records of findings there is a report, with one
result for each, at its level and its line, and with the rules of the results. -/
theorem rules_and_results_agree {entries : List Entry} (h : ∀ entry ∈ entries, entry.IsFinding) :
    ∃ document, report entries = .ok document ∧ text entries = .ok document.pretty ∧
      IsConsistent entries document := by
  obtain ⟨results, hreport, hread⟩ := report_of_findings h
  refine ⟨document results, hreport, ?_, ?_, ?_⟩
  · rw [text_eq_report, hreport]
    rfl
  · refine ⟨_, under_results results, ?_⟩
    rw [List.map_map]
    refine Eq.trans (List.map_congr_left fun result _ => told_resultDocument result) ?_
    exact map_read hread fun seen =>
      (some seen.1, some (Document.text (level seen.2.1)), [seen.2.2])
  · have hrules := rule_of_read hread
    refine ⟨_, _, under_rules results, ?_, names_of_read hread ▸ names_firstOfRules hrules⟩
    rw [List.map_map, List.map_map]
    refine List.map_congr_left fun result hresult => ?_
    rw [Function.comp_apply, Function.comp_apply, id_ruleDocument,
      hrules result (mem_of_mem_firstOfRules hresult)]

/-- A finding on line 0, a record without any field, and one of the rule of the finding. -/
def mixedEntries : List Entry :=
  [.found bareFinding, .record (.object []),
    .record (.object [("rule", .text "DB_WRITE"), ("severity", .text "MEDIUM"), ("line", .int 7)])]

theorem mixedEntries_agree :
    (∀ entry ∈ mixedEntries, entry.IsFinding) ∧
      mixedEntries.map Entry.ruleName = ["DB_WRITE", "UNKNOWN", "DB_WRITE"] ∧
      mixedEntries.map Entry.startLine = [1, 1, 7] ∧
      ∃ document, report mixedEntries = .ok document ∧
        text mixedEntries = .ok document.pretty ∧ IsConsistent mixedEntries document := by
  have hrecords : ∀ document ∈ [Document.object [], .object [("rule", .text "DB_WRITE"),
      ("severity", .text "MEDIUM"), ("line", .int 7)]], IsFindingRecord document := by decide
  have hfindings : ∀ entry ∈ mixedEntries, entry.IsFinding := by
    refine List.forall_mem_cons.mpr ⟨⟨rfl, _, rfl⟩, ?_⟩
    simpa [Entry.IsFinding] using hrecords
  exact ⟨hfindings, by decide, by decide, rules_and_results_agree hfindings⟩

/-! ## How grave a rule is -/

/-- The number that a rating stands for; the ratings are whole numbers. -/
def ratedNumber? (rating : String) : Option Int :=
  (Text.cut? rating ".").bind fun parts =>
    if parts.2 = "0" then Number.wholeNumber? parts.1 else none

/-- How grave a severity is on the scale from 0 to 10. -/
def score (severity : String) : Int := (ratedNumber? (securitySeverity severity)).getD 0

theorem ratedNumber?_securitySeverity (severity : String) :
    ratedNumber? (securitySeverity severity) = some (score severity) := by
  unfold score securitySeverity
  split <;> decide

/-- The report has one description of the rule, with a rating of this number. -/
def Rates (document : Document) (rule : String) (number : Int) : Prop :=
  ∃ rules described rating, document.under ["runs", "tool", "driver", "rules"] = [.list rules] ∧
    described ∈ rules ∧ described.field? "id" = some (.text rule) ∧
    (∀ other ∈ rules, other.field? "id" = some (.text rule) → other = described) ∧
    described.under ["properties", "security-severity"] = [.text rating] ∧
    ratedNumber? rating = some number

theorem Rates.unique {document : Document} {rule : String} {number other : Int}
    (h : Rates document rule number) (h' : Rates document rule other) : number = other := by
  obtain ⟨rules, described, rating, hrules, hmem, hid, -, hrating, hnumber⟩ := h
  obtain ⟨rules', described', rating', hrules', -, -, honly', hrating', hnumber'⟩ := h'
  obtain rfl : rules = rules' := by simpa using hrules.symm.trans hrules'
  obtain rfl := honly' described hmem hid
  obtain rfl : rating = rating' := by simpa using hrating.symm.trans hrating'
  exact Option.some.inj (hnumber.symm.trans hnumber')

theorem rating_ruleDocument (result : Result) :
    (ruleDocument result).under ["properties", "security-severity"] =
      [.text (securitySeverity result.severity)] := by
  simp [ruleDocument, Document.under, Document.members, Document.field?, List.lookup_cons]

/-- A rule is rated by the severity of its first result. -/
theorem document_rates {results : List Result}
    (h : ∀ result ∈ results, result.rule = .text result.name) {rule : String} {first : Result}
    (hfirst : results.find? (·.name == rule) = some first) :
    Rates (document results) rule (score first.severity) := by
  have hfound : (firstOfRules results).find? (·.name == rule) = some first := by
    rw [find?_firstOfRules h, hfirst]
  have hmem : first ∈ firstOfRules results := List.mem_of_find?_eq_some hfound
  have hname : first.name = rule := by simpa using List.find?_some hfound
  have hid {result : Result} (hresult : result ∈ firstOfRules results) :
      (ruleDocument result).field? "id" = some (.text result.name) := by
    rw [id_ruleDocument, h result (mem_of_mem_firstOfRules hresult)]
  refine ⟨_, ruleDocument first, _, under_rules results, List.mem_map_of_mem hmem, ?_, ?_,
    rating_ruleDocument first, ratedNumber?_securitySeverity _⟩
  · rw [hid hmem, hname]
  · intro described hdescribed hrule
    -- a second description of the rule would be that of a second result of the name
    obtain ⟨other, hother, rfl⟩ := List.mem_map.mp hdescribed
    have hsame : other.name = first.name := by
      rw [hid hother] at hrule
      rw [hname]
      simpa using hrule
    rw [List.inj_on_of_nodup_map (names_firstOfRules h).once hother hmem hsame]

/-- The first finding of a rule. -/
structure IsFirst (entries : List Entry) (rule : String) (first : Entry) : Prop where
  named : first.ruleName = rule
  earliest : ∃ before after, entries = before ++ first :: after ∧
    ∀ entry ∈ before, entry.ruleName ≠ rule

variable {entries : List Entry} {rule : String} {first : Entry}

theorem isFirst_iff : IsFirst entries rule first ↔
    entries.find? (·.ruleName == rule) = some first := by
  rw [Table.find?_key_eq_some_iff]
  exact ⟨fun h => ⟨h.named, h.earliest⟩, fun ⟨hnamed, hearliest⟩ => ⟨hnamed, hearliest⟩⟩

theorem exists_isFirst (h : ∃ entry ∈ entries, entry.ruleName = rule) :
    ∃ first, IsFirst entries rule first := by
  simp only [isFirst_iff]
  rw [← Option.isSome_iff_exists, List.find?_isSome]
  obtain ⟨entry, hentry, hnamed⟩ := h
  exact ⟨entry, hentry, beq_iff_eq.mpr hnamed⟩

/-- **A rule is rated by its first finding.** -/
theorem report_rates (h : ∀ entry ∈ entries, entry.IsFinding)
    (hfirst : IsFirst entries rule first) :
    ∃ document, report entries = .ok document ∧
      Rates document rule (score first.severityLabel) := by
  obtain ⟨results, hreport, hread⟩ := report_of_findings h
  -- the first result of the name is that of the first entry
  have hseen := congrArg (List.find? (·.1.shown == rule)) hread
  rw [List.find?_map, List.find?_map] at hseen
  have hentry : entries.find? ((fun seen : Document × String × Document => seen.1.shown == rule) ∘
      fun entry => (.text entry.ruleName, entry.severityLabel, .int entry.startLine)) =
        some first :=
    isFirst_iff.mp hfirst
  rw [hentry, Option.map_some, Option.map_eq_some_iff] at hseen
  obtain ⟨result, hresult, hsame⟩ := hseen
  have hseverity : result.severity = first.severityLabel := congrArg (·.2.1) hsame
  refine ⟨document results, hreport, ?_⟩
  rw [← hseverity]
  exact document_rates (rule_of_read hread) hresult

/-- In the report of these entries, the rating of the rule is no less than the score of any of its
findings. -/
def NeverUnderstates (entries : List Entry) (rule : String) : Prop :=
  ∃ document number, report entries = .ok document ∧ Rates document rule number ∧
    ∀ entry ∈ entries, entry.ruleName = rule → score entry.severityLabel ≤ number

theorem neverUnderstates_iff (h : ∀ entry ∈ entries, entry.IsFinding)
    (hfirst : IsFirst entries rule first) :
    NeverUnderstates entries rule ↔
      ∀ entry ∈ entries, entry.ruleName = rule →
        score entry.severityLabel ≤ score first.severityLabel := by
  obtain ⟨document, hreport, hrates⟩ := report_rates h hfirst
  constructor
  · rintro ⟨document', number, hreport', hrates', hle⟩
    obtain rfl := Except.ok.inj (hreport.symm.trans hreport')
    rw [hrates.unique hrates']
    exact hle
  · intro hle
    exact ⟨document, _, hreport, hrates, hle⟩

/-- Any finding of a rule can come first, so only findings of one score are safe in every order. -/
theorem neverUnderstates_perm_iff (h : ∀ entry ∈ entries, entry.IsFinding)
    (hfirst : IsFirst entries rule first) :
    (∀ others : List Entry, others.Perm entries → NeverUnderstates others rule) ↔
      ∀ entry ∈ entries, entry.ruleName = rule →
        score entry.severityLabel = score first.severityLabel := by
  have hmem : first ∈ entries := List.mem_of_find?_eq_some (isFirst_iff.mp hfirst)
  constructor
  · intro hall entry hentry hnamed
    -- with this entry in front, it is the first one of the rule, so neither is graver than the
    -- other
    obtain ⟨before, after, rfl⟩ := List.append_of_mem hentry
    have hperm : (entry :: (before ++ after)).Perm (before ++ entry :: after) :=
      List.perm_middle.symm
    have hput : IsFirst (entry :: (before ++ after)) rule entry :=
      ⟨hnamed, [], before ++ after, rfl, by simp⟩
    have hfindings (other : Entry) (hother : other ∈ entry :: (before ++ after)) :=
      h other (hperm.mem_iff.mp hother)
    have hasIs := (neverUnderstates_iff h hfirst).mp (hall _ (.refl _))
    have hentryFirst := (neverUnderstates_iff hfindings hput).mp (hall _ hperm)
    exact Int.le_antisymm (hasIs entry hentry hnamed)
      (hentryFirst first (hperm.mem_iff.mpr hmem) hfirst.named)
  · intro hsame others hperm
    obtain ⟨leading, hleading⟩ := exists_isFirst ⟨first, hperm.mem_iff.mpr hmem, hfirst.named⟩
    have hlead : leading ∈ others := List.mem_of_find?_eq_some (isFirst_iff.mp hleading)
    have hfindings (other : Entry) (hother : other ∈ others) := h other (hperm.mem_iff.mp hother)
    refine (neverUnderstates_iff hfindings hleading).mpr fun entry hentry hnamed => ?_
    rw [hsame entry (hperm.mem_iff.mp hentry) hnamed,
      hsame leading (hperm.mem_iff.mp hlead) hleading.named]

/-- **A rule is rated by its first finding**, whatever the severities of the others. So the report
understates no finding of the rule exactly when none of them is graver than the first one, and in
every order of the entries exactly when they all have one score. -/
theorem rule_rated_by_first_finding (h : ∀ entry ∈ entries, entry.IsFinding)
    (hrule : ∃ entry ∈ entries, entry.ruleName = rule) :
    ∃ first, IsFirst entries rule first ∧
      (∃ document, report entries = .ok document ∧
        Rates document rule (score first.severityLabel)) ∧
      (NeverUnderstates entries rule ↔ ∀ entry ∈ entries, entry.ruleName = rule →
        score entry.severityLabel ≤ score first.severityLabel) ∧
      ((∀ others : List Entry, others.Perm entries → NeverUnderstates others rule) ↔
        ∀ entry ∈ entries, entry.ruleName = rule →
          score entry.severityLabel = score first.severityLabel) := by
  obtain ⟨first, hfirst⟩ := exists_isFirst hrule
  exact ⟨first, hfirst, report_rates h hfirst, neverUnderstates_iff h hfirst,
    neverUnderstates_perm_iff h hfirst⟩

/-! ## Two findings of one rule -/

def mildRecord : Entry :=
  .record (.object [("rule", .text "LOG_PII"), ("severity", .text "low"), ("file", .text "app.py"),
    ("line", .int 1)])

def graveRecord : Entry :=
  .record (.object [("rule", .text "LOG_PII"), ("severity", .text "high"), ("file", .text "app.py"),
    ("line", .int 2)])

theorem mildRecord_isFinding : mildRecord.IsFinding := by
  show IsFindingRecord _
  decide

theorem graveRecord_isFinding : graveRecord.IsFinding := by
  show IsFindingRecord _
  decide

/-- With the graver finding in front, the rule is rated by it. -/
theorem graveRecord_first_is_stated :
    (∀ entry ∈ [graveRecord, mildRecord], entry.IsFinding) ∧
      (∃ entry ∈ [graveRecord, mildRecord], entry.ruleName = "LOG_PII") ∧
      NeverUnderstates [graveRecord, mildRecord] "LOG_PII" := by
  have hfindings : ∀ entry ∈ [graveRecord, mildRecord], entry.IsFinding := by
    simp [graveRecord_isFinding, mildRecord_isFinding]
  have hrule : ∃ entry ∈ [graveRecord, mildRecord], entry.ruleName = "LOG_PII" :=
    ⟨graveRecord, List.mem_cons_self, by decide⟩
  obtain ⟨first, hfirst, -, hstated, -⟩ := rule_rated_by_first_finding hfindings hrule
  obtain rfl : graveRecord = first := Option.some.inj (isFirst_iff.mp hfirst)
  have hscores : ∀ entry ∈ [graveRecord, mildRecord],
      score entry.severityLabel ≤ score graveRecord.severityLabel := by decide
  exact ⟨hfindings, hrule, hstated.mpr fun entry hentry _ => hscores entry hentry⟩

/-- With the milder finding in front, the rule is rated by it, though both severities are levels. -/
theorem mildRecord_first_understates :
    (∀ entry ∈ [mildRecord, graveRecord], entry.IsFinding) ∧
      [mildRecord, graveRecord].map Entry.severityLabel =
        [Severity.low.label, Severity.high.label] ∧
      ¬ NeverUnderstates [mildRecord, graveRecord] "LOG_PII" := by
  have hfindings : ∀ entry ∈ [mildRecord, graveRecord], entry.IsFinding := by
    simp [graveRecord_isFinding, mildRecord_isFinding]
  have hfirst : IsFirst [mildRecord, graveRecord] "LOG_PII" mildRecord :=
    ⟨by decide, [], [graveRecord], rfl, by simp⟩
  refine ⟨hfindings, by decide, fun hstated => ?_⟩
  have hle := (neverUnderstates_iff hfindings hfirst).mp hstated graveRecord (by simp) (by decide)
  exact absurd hle (by decide)

end Sarif

end Report

end PrivacyScan
