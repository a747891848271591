import Mathlib.Data.List.Basic
import PrivacyScan.Finding.Record
import PrivacyScan.Proofs.Outcome
import PrivacyScan.Proofs.Text
import PrivacyScan.Report.Markdown
import PrivacyScan.Report.Sarif

/-!
# Reports of findings and of their records

A report is made of findings or of their records. Either is read in its own way: a finding has all
its fields, a record has only those that are not empty, and what it lacks is filled in. All of these
ways come to the same:

* **`lookup_common`** — the fields that every record has, with what the finding has there;
* **`ofEntries_recorded`**, **`detailSection_recorded`**, **`resultOf_recorded`** — so no part of a
  report changes when an entry becomes its own record (`Entry.recorded`);
* **`ofEntries_completes_iff`** — which entries an overview can be made of.
-/

namespace PrivacyScan

open Outcome

/-! ## Reading a record back -/

theorem lookup_optionalField (name key : String) (value : Document) :
    (Finding.optionalField name value).lookup key =
      if key == name && value.isTruthy then some value else none := by
  unfold Finding.optionalField
  cases hkey : key == name <;> cases htruthy : value.isTruthy <;> simp [List.lookup_cons, hkey]

theorem shown_map_text (texts : List String) :
    (texts.map Document.text).map Document.shown = texts := by
  rw [List.map_map]
  exact List.map_id texts

theorem Classification.ofRecord_toDocument (classification : Classification) :
    Classification.ofRecord classification.toDocument = .ok classification := by
  have harticle : (Document.ofOption Document.text classification.article).text? =
      classification.article := by
    cases classification.article <;> rfl
  show Except.ok { classification with
    piiTypes := (classification.piiTypes.map Document.text).map Document.shown
    sectors := (classification.sectors.map Document.text).map Document.shown
    article := (Document.ofOption Document.text classification.article).text?
    gdprArticles := (classification.gdprArticles.map Document.text).map Document.shown } = _
  rw [shown_map_text, shown_map_text, shown_map_text, harticle]

namespace Finding

variable (finding : Finding)

/-- An empty flow is left out of the record, and read back as the empty flow. -/
theorem lookup_flowPath :
    (finding.toFields.lookup "flow_path").getD (.list []) = .list finding.flowPath := by
  have hlookup : finding.toFields.lookup "flow_path" =
      if (Document.list finding.flowPath).isTruthy then some (.list finding.flowPath)
        else none := by
    simp [toFields, List.lookup_append, lookup_optionalField, List.lookup_cons]
  rw [hlookup]
  cases finding.flowPath <;> rfl

/-- The fields that are in every record. -/
theorem lookup_common :
    finding.toFields.lookup "rule" = some (.text finding.rule) ∧
    finding.toFields.lookup "severity" = some (.text finding.severity.label) ∧
    finding.toFields.lookup "file" = some (.text finding.reportedFile) ∧
    finding.toFields.lookup "line" = some (.int finding.line) ∧
    finding.toFields.lookup "snippet" = some (.text finding.snippet) ∧
    finding.toFields.lookup "classification" = some finding.assessment.toDocument := by
  simp [toFields, List.lookup_cons]

/-- What is left of a finding in its record, with a text for the severity. -/
def kept : Finding where
  rule := finding.rule
  severity := .named finding.severity.label
  file := finding.reportedFile
  line := finding.line
  snippet := finding.snippet
  assessment := finding.assessment
  flowPath := finding.flowPath

variable {finding} in
/-- A finding that is read back from its record has lost what the record does not keep. -/
theorem ofRecord_toDocument {classification : Classification}
    (h : finding.assessment = .classified classification) :
    ofRecord finding.toDocument = .ok finding.kept := by
  have hclassification : Classification.ofRecord finding.assessment.toDocument =
      .ok classification := by
    rw [h]
    exact classification.ofRecord_toDocument
  have hkept : finding.kept = { finding.kept with assessment := .classified classification } := by
    rw [← h]
    rfl
  unfold ofRecord Document.textField Document.itemsField toDocument Document.get
  simp only [lookup_common, lookup_flowPath, Option.getD_some]
  show (do
    let classification ← Classification.ofRecord finding.assessment.toDocument
    return { finding.kept with assessment := .classified classification }) = _
  rw [hclassification, hkept]
  rfl

/-- The finding names its file by a text with forward slashes, and has a classification. -/
structure IsPlain (finding : Finding) : Prop where
  text : finding.fileIsPath = false
  slashes : '\\' ∉ finding.file.toList
  classified : ∃ classification, finding.assessment = .classified classification

variable {finding} in
theorem IsPlain.reportedFile_eq (h : finding.IsPlain) : finding.reportedFile = finding.file := by
  have hwhole : Text.split finding.file "\\" = [finding.file] :=
    Text.split_eq_singleton (by decide) h.slashes
  rw [reportedFile, h.text, Text.replace, hwhole]
  rfl

end Finding

namespace Report

variable {finding : Finding} {findings : List Finding}

namespace Entry

def recorded (entry : Entry) : Entry := .record entry.toDocument

theorem map_record_toDocument (findings : List Finding) :
    (findings.map fun finding => record finding.toDocument) =
      (findings.map found).map recorded := by
  rw [List.map_map]
  rfl

theorem severity_recorded (entry : Entry) : entry.recorded.severity = entry.severity := by
  cases entry with
  | found finding =>
    simp only [recorded, toDocument, severity, Finding.toDocument, Document.fieldOrNull,
      Document.field?, Finding.lookup_common, Option.getD_some]
  | record document => rfl

theorem classification_recorded (entry : Entry) :
    entry.recorded.classification = entry.classification := by
  cases entry with
  | found finding =>
    simp only [recorded, toDocument, classification, Finding.toDocument, Document.fieldOrNull,
      Document.field?, Finding.lookup_common, Option.getD_some]
  | record document => rfl

theorem file_recorded (h : finding.IsPlain) :
    (found finding).recorded.file = (found finding).file := by
  simp only [recorded, toDocument, file, Finding.toDocument, Document.fieldOrNull,
    Document.field?, Finding.lookup_common, Option.getD_some, h.reportedFile_eq]

end Entry

/-! ## The overview -/

/-- The severity is no list and no object, and the articles are named by texts. -/
structure Entry.IsReadable (entry : Entry) : Prop where
  notList : ∀ items, entry.severity ≠ .list items
  notObject : ∀ fields, entry.severity ≠ .object fields
  articles : ∃ articles, Overview.articlesOf entry.classification = .ok articles ∧
    ∀ article ∈ articles, ∃ name, article = .text name

namespace Overview

theorem summaryOf_recorded (entries : List Entry) :
    summaryOf (entries.map Entry.recorded) = summaryOf entries := by
  unfold summaryOf
  rw [List.foldlM_map, List.length_map]
  simp only [Entry.severity_recorded]

theorem groupByArticle_recorded (entries : List Entry) :
    groupByArticle (entries.map Entry.recorded) = groupByArticle entries := by
  unfold groupByArticle
  rw [List.foldlM_map]
  simp only [Entry.classification_recorded]
  rfl

/-- Files are the one thing that is not read alike: a record has forward slashes only. -/
theorem groupByFile_recorded (h : ∀ finding ∈ findings, finding.IsPlain) :
    groupByFile ((findings.map Entry.found).map Entry.recorded) =
      groupByFile (findings.map Entry.found) := by
  unfold groupByFile
  rw [List.map_map, List.foldl_map, List.foldl_map]
  refine List.foldl_ext _ _ _ fun groups finding hfinding => ?_
  -- a group looks at the severity of an entry only
  have hadd : (FileGroup.add · (Entry.found finding).recorded) =
      (FileGroup.add · (Entry.found finding)) := by
    funext group
    unfold FileGroup.add
    rw [Entry.severity_recorded]
    rfl
  rw [Function.comp_apply, Entry.file_recorded (h finding hfinding), hadd]

theorem ofEntries_recorded (h : ∀ finding ∈ findings, finding.IsPlain)
    (metadata : Document) :
    ofEntries ((findings.map Entry.found).map Entry.recorded) metadata =
      ofEntries (findings.map Entry.found) metadata := by
  unfold ofEntries
  rw [summaryOf_recorded, groupByArticle_recorded, groupByFile_recorded h, List.map_map]
  rfl

theorem filter_text (texts : List String) :
    (texts.map Document.text).filter (·.isTruthy) =
      (texts.filter fun text => !text.isEmpty).map .text := by
  rw [List.filter_map]
  rfl

/-- A classification names its articles by texts. -/
theorem articlesOf_toDocument (classification : Classification) :
    ∃ names : List String, articlesOf classification.toDocument = .ok (names.map .text) := by
  have hfields : classification.toDocument.fieldOrNull "gdpr_articles" =
        .texts classification.gdprArticles ∧
      classification.toDocument.fieldOrNull "article" = .ofOption .text classification.article := by
    simp [Classification.toDocument, Document.fieldOrNull, Document.field?, List.lookup_cons]
  have harticle : [Document.ofOption Document.text classification.article].filter (·.isTruthy) =
      (classification.article.toList.map Document.text).filter (·.isTruthy) := by
    cases classification.article <;> rfl
  show ∃ names : List String, (do
    let named ← if (classification.toDocument.fieldOrNull "gdpr_articles").isTruthy then
        (classification.toDocument.fieldOrNull "gdpr_articles").elements
      else pure [classification.toDocument.fieldOrNull "article"]
    return named.filter (·.isTruthy)) = (.ok (names.map .text) : Outcome (List Document))
  -- the single article counts only where the list of articles is empty
  rw [hfields.1, hfields.2]
  split
  · exact ⟨_, congrArg Except.ok (filter_text classification.gdprArticles)⟩
  · exact ⟨_, congrArg Except.ok (harticle.trans (filter_text classification.article.toList))⟩

theorem completes_hashable_iff {severity : Document} :
    Completes severity.hashable ↔
      (∀ items, severity ≠ .list items) ∧ ∀ fields, severity ≠ .object fields := by
  cases severity with
  | list items => exact iff_of_false (not_completes_error _) fun h => h.1 items rfl
  | object fields => exact iff_of_false (not_completes_error _) fun h => h.2 fields rfl
  | _ => exact iff_of_true (completes_ok _) ⟨nofun, nofun⟩

theorem summaryOf_completes_iff (entries : List Entry) :
    Completes (summaryOf entries) ↔
      ∀ entry ∈ entries, Completes entry.severity.hashable := by
  unfold summaryOf
  refine completes_foldlM_iff_forall (fun _ => True) _ (fun entry _ summary _ => ?_)
    (fun _ _ _ _ _ _ => trivial) trivial
  refine completes_bind_iff_left fun severity => ?_
  split
  · exact completes_ok _
  · exact completes_ok _

theorem completes_articleKey_iff {article : Document} :
    Completes (articleKey article) ↔ ∃ name, article = .text name := by
  cases article with
  | text name => exact iff_of_true (completes_ok _) ⟨name, rfl⟩
  | _ => exact iff_of_false (not_completes_error _) nofun

theorem groupByArticle_completes_iff (entries : List Entry) :
    Completes (groupByArticle entries) ↔
      ∀ entry ∈ entries, ∃ articles, articlesOf entry.classification = .ok articles ∧
        ∀ article ∈ articles, ∃ name, article = .text name := by
  unfold groupByArticle
  refine completes_foldlM_iff_forall (fun _ => True) _ (fun entry _ groups _ => ?_)
    (fun _ _ _ _ _ _ => trivial) trivial
  rw [completes_bind_iff]
  refine exists_congr fun articles => and_congr_right fun _ => ?_
  refine completes_foldlM_iff_forall (fun _ => True) _ (fun article _ groups _ => ?_)
    (fun _ _ _ _ _ _ => trivial) trivial
  rw [← completes_articleKey_iff]
  exact completes_bind_iff_left fun _ => completes_ok _

/-- **An overview is made exactly of readable entries.** -/
theorem ofEntries_completes_iff (entries : List Entry) (metadata : Document) :
    Completes (ofEntries entries metadata) ↔ ∀ entry ∈ entries, entry.IsReadable := by
  have hboth : Completes (ofEntries entries metadata) ↔
      Completes (summaryOf entries) ∧ Completes (groupByArticle entries) := by
    unfold ofEntries
    rw [completes_bind_iff]
    simp only [completes_bind_iff]
    constructor
    · rintro ⟨summary, hsummary, articles, harticles, -⟩
      exact ⟨⟨summary, hsummary⟩, ⟨articles, harticles⟩⟩
    · rintro ⟨⟨summary, hsummary⟩, ⟨articles, harticles⟩⟩
      exact ⟨summary, hsummary, articles, harticles, completes_ok _⟩
  rw [hboth, summaryOf_completes_iff, groupByArticle_completes_iff]
  simp only [completes_hashable_iff]
  constructor
  · rintro ⟨hseverity, harticles⟩ entry hentry
    exact ⟨(hseverity entry hentry).1, (hseverity entry hentry).2, harticles entry hentry⟩
  · intro h
    exact ⟨fun entry hentry => ⟨(h entry hentry).notList, (h entry hentry).notObject⟩,
      fun entry hentry => (h entry hentry).articles⟩

theorem ofEntries_completes (h : ∀ finding ∈ findings, finding.IsPlain)
    (metadata : Document) : Completes (ofEntries (findings.map Entry.found) metadata) := by
  refine (ofEntries_completes_iff _ metadata).mpr fun entry hentry => ?_
  obtain ⟨finding, hfinding, rfl⟩ := List.mem_map.mp hentry
  obtain ⟨classification, hclassified⟩ := (h finding hfinding).classified
  obtain ⟨names, hnames⟩ := articlesOf_toDocument classification
  refine ⟨nofun, nofun, names.map .text, ?_, fun article harticle => ?_⟩
  · rw [Entry.classification, hclassified]
    exact hnames
  · obtain ⟨name, -, rfl⟩ := List.mem_map.mp harticle
    exact ⟨name, rfl⟩

end Overview

/-! ## Findings in detail -/

/-- Sorting by severity and changing the items come to the same in either order. -/
theorem gravestFirst_map {α β : Type} (severity : β → Document) (change : α → β) (items : List α) :
    gravestFirst severity (items.map change) =
      List.map change <$> gravestFirst (fun item => severity (change item)) items := by
  -- the keys are those of the changed items, so the items can be changed after the sorting
  have hkeyed : (items.map change).mapM (fun item => do
        return (← severityOrder (severity item), item)) =
      List.map (Prod.map id change) <$> items.mapM fun item => do
        return (← severityOrder (severity (change item)), item) := by
    rw [List.mapM_map, ← mapM_map_result]
    refine mapM_congr fun item _ => ?_
    dsimp only [Function.comp_apply]
    cases severityOrder (severity (change item)) <;> rfl
  unfold gravestFirst
  rw [hkeyed]
  cases items.mapM fun item => do return (← severityOrder (severity (change item)), item) with
  | error fault => rfl
  | ok keyed =>
    show Except.ok (((keyed.map (Prod.map id change)).mergeSort fun left right =>
        left.1 ≤ right.1).map (·.2)) =
      Except.ok (((keyed.mergeSort fun left right => left.1 ≤ right.1).map (·.2)).map change)
    rw [← List.map_mergeSort (r := fun left right => decide (left.1 ≤ right.1))
      (fun _ _ _ _ => rfl), List.map_map, List.map_map]
    rfl

theorem gravestFirst_completes {α : Type} {severity : α → Document} {items : List α}
    (h : ∀ item ∈ items, Completes (severityOrder (severity item))) :
    Completes (gravestFirst severity items) := by
  have hkeyed : Completes (items.mapM fun item => do
      return (← severityOrder (severity item), item)) := by
    refine completes_mapM fun item hitem => ?_
    obtain ⟨order, horder⟩ := h item hitem
    rw [horder]
    exact completes_ok (order, item)
  obtain ⟨keyed, hkeyed⟩ := hkeyed
  exact completes_bind_iff.mpr ⟨keyed, hkeyed, completes_ok _⟩

theorem mem_of_mem_gravestFirst {α : Type} {severity : α → Document} {items sorted : List α}
    (h : gravestFirst severity items = .ok sorted) {item : α} (hitem : item ∈ sorted) :
    item ∈ items := by
  obtain ⟨keyed, hkeyed, h⟩ := bind_eq_ok.mp h
  cases h
  obtain ⟨⟨order, inner⟩, hinner, rfl⟩ := List.mem_map.mp hitem
  obtain ⟨source, hsource, hstep⟩ := exists_of_mem_mapM hkeyed (List.mem_mergeSort.mp hinner)
  obtain ⟨place, _, hstep⟩ := bind_eq_ok.mp hstep
  obtain ⟨_, rfl⟩ := Prod.mk.inj (Except.ok.inj hstep)
  exact hsource

namespace Markdown

theorem chosenSeverity_recorded (entry : Entry) :
    chosenSeverity entry.recorded = chosenSeverity entry := by
  cases entry with
  | found finding =>
    simp only [Entry.recorded, Entry.toDocument, chosenSeverity, Finding.toDocument,
      Document.field?, Finding.lookup_common, Option.getD_some]
  | record document => rfl

theorem topEntries_recorded (entries : List Entry) :
    topEntries (entries.map Entry.recorded) = List.map Entry.recorded <$> topEntries entries := by
  unfold topEntries
  rw [gravestFirst_map]
  simp only [chosenSeverity_recorded]
  cases gravestFirst chosenSeverity entries with
  | error fault => rfl
  | ok sorted =>
    show Except.ok (((sorted.map Entry.recorded).filter fun entry =>
        isGrave (chosenSeverity entry)).take 10) =
      Except.ok (((sorted.filter fun entry => isGrave (chosenSeverity entry)).take 10).map
        Entry.recorded)
    rw [List.filter_map, List.map_take]
    simp only [Function.comp_def, chosenSeverity_recorded]

theorem detailSection_recorded (entries : List Entry) :
    detailSection (entries.map Entry.recorded) = detailSection entries := by
  unfold detailSection
  rw [topEntries_recorded]
  cases topEntries entries with
  | error fault => rfl
  | ok top =>
    show (if (top.map Entry.recorded).isEmpty then _ else _) = (if top.isEmpty then _ else _)
    -- a detail is written from the record, whatever the form of the entry
    rw [List.isEmpty_map, List.zipIdx_map, List.mapM_map, List.length_map, List.length_map]
    rfl

theorem joinTexts_map_text (position : Nat) (texts : List String) :
    Document.joinTexts position (texts.map .text) = .ok texts := by
  induction texts generalizing position with
  | nil => rfl
  | cons text rest ih =>
    rw [List.map_cons, Document.joinTexts, ih]
    rfl

theorem joined_texts (separator : String) (texts : List String) :
    (Document.texts texts).joined separator = .ok (String.intercalate separator texts) := by
  unfold Document.texts Document.joined Document.elements
  dsimp only
  rw [joinTexts_map_text]
  rfl

theorem typesPart_completes (classification : Classification) :
    Completes (typesPart classification.toDocument) := by
  have htypes : classification.toDocument.get "pii_types" (.list []) =
      .ok (.texts classification.piiTypes) := by
    simp [Classification.toDocument, Document.get]
  unfold typesPart
  rw [htypes]
  show Completes (if !(Document.texts classification.piiTypes).isTruthy then _ else _)
  split
  · exact completes_ok _
  · rw [joined_texts]
    exact completes_ok _

theorem codePart_completes (snippet file : String) :
    Completes (codePart (.text snippet) (.text file)) := by
  unfold codePart
  split
  · exact completes_ok _
  · exact completes_ok _

theorem flowPart_completes (steps : List Document) :
    Completes (flowPart (.list steps)) := by
  unfold flowPart
  split
  · exact completes_ok _
  · exact completes_ok _

theorem detail_completes (h : finding.IsPlain) (number : Nat) :
    Completes (detail finding.toDocument number) := by
  obtain ⟨classification, hclassified⟩ := h.classified
  obtain ⟨types, htypes⟩ := typesPart_completes classification
  obtain ⟨code, hcode⟩ := codePart_completes finding.snippet finding.reportedFile
  obtain ⟨flow, hflow⟩ := flowPart_completes finding.flowPath
  unfold detail
  simp only [Finding.toDocument, Document.field?, Finding.lookup_common, Finding.lookup_flowPath,
    Option.getD_some, hclassified, Assessment.toDocument, htypes, hcode, hflow]
  exact completes_ok _

theorem topEntries_completes (findings : List Finding) :
    Completes (topEntries (findings.map Entry.found)) := by
  have hsorted : Completes (gravestFirst chosenSeverity (findings.map Entry.found)) := by
    refine gravestFirst_completes fun entry hentry => ?_
    obtain ⟨finding, _, rfl⟩ := List.mem_map.mp hentry
    exact completes_ok _
  obtain ⟨sorted, hsorted⟩ := hsorted
  unfold topEntries
  rw [hsorted]
  exact completes_ok _

theorem mem_of_mem_topEntries {entries top : List Entry} (h : topEntries entries = .ok top)
    {entry : Entry} (hentry : entry ∈ top) : entry ∈ entries := by
  obtain ⟨sorted, hsorted, h⟩ := bind_eq_ok.mp h
  cases h
  exact mem_of_mem_gravestFirst hsorted (List.mem_filter.mp (List.mem_of_mem_take hentry)).1

/-- Plain findings can all be described. -/
theorem detailSection_completes (h : ∀ finding ∈ findings, finding.IsPlain) :
    Completes (detailSection (findings.map Entry.found)) := by
  obtain ⟨top, htop⟩ := topEntries_completes findings
  have hdetails : Completes (top.zipIdx.mapM fun numbered =>
      detail numbered.1.toDocument (numbered.2 + 1)) := by
    refine completes_mapM fun numbered hnumbered => ?_
    have hmem := mem_of_mem_topEntries htop (List.fst_mem_of_mem_zipIdx hnumbered)
    obtain ⟨finding, hfinding, hentry⟩ := List.mem_map.mp hmem
    rw [← hentry]
    exact detail_completes (h finding hfinding) (numbered.2 + 1)
  obtain ⟨details, hdetails⟩ := hdetails
  unfold detailSection
  rw [htop]
  show Completes (if top.isEmpty then _ else _)
  split
  · exact completes_ok _
  · exact completes_bind_iff.mpr ⟨details, hdetails, completes_ok _⟩

theorem text_recorded (h : ∀ finding ∈ findings, finding.IsPlain)
    (metadata : Document) (now : Moment) :
    text ((findings.map Entry.found).map Entry.recorded) metadata now =
      text (findings.map Entry.found) metadata now := by
  unfold text
  rw [Overview.ofEntries_recorded h, detailSection_recorded]

/-- Only the header and the diagram, which come from the metadata, can stand in the way. -/
theorem text_completes_iff (h : ∀ finding ∈ findings, finding.IsPlain)
    (metadata : Document) (now : Moment) :
    Completes (text (findings.map Entry.found) metadata now) ↔
      Completes (header metadata now) ∧
        ((metadata.fieldOrNull "semantic_graph").isTruthy = true →
          Completes (graphSection (metadata.fieldOrNull "semantic_graph"))) := by
  obtain ⟨overview, hoverview⟩ := Overview.ofEntries_completes h metadata
  obtain ⟨details, hdetails⟩ := detailSection_completes h
  -- with overview and details settled, what is left are the steps of the header and the diagram
  unfold text
  rw [hoverview, hdetails]
  constructor
  · intro hcompletes
    obtain ⟨_, _, hcompletes⟩ := completes_bind_iff.mp hcompletes
    obtain ⟨top, htop, hcompletes⟩ := completes_bind_iff.mp hcompletes
    obtain ⟨_, _, hcompletes⟩ := completes_bind_iff.mp hcompletes
    refine ⟨⟨top, htop⟩, fun hgraph => ?_⟩
    dsimp only at hcompletes
    rw [if_pos hgraph] at hcompletes
    obtain ⟨lines, hlines, _⟩ := completes_bind_iff.mp hcompletes
    exact ⟨lines, hlines⟩
  · rintro ⟨⟨top, htop⟩, hdiagram⟩
    rw [htop]
    show Completes (if (metadata.fieldOrNull "semantic_graph").isTruthy then _ else _)
    split
    · next hgraph =>
      obtain ⟨lines, hlines⟩ := hdiagram hgraph
      rw [hlines]
      exact completes_ok _
    · exact completes_ok _

end Markdown

/-! ## Results for other tools -/

namespace Sarif

theorem resultOf_recorded (h : finding.IsPlain) :
    resultOf (Entry.found finding).recorded = resultOf (Entry.found finding) := by
  obtain ⟨classification, hclassified⟩ := h.classified
  simp only [resultOf, Entry.recorded, Entry.toDocument, Finding.toDocument, Document.get,
    Document.field?, Finding.lookup_common, Option.getD_some, hclassified, h.reportedFile_eq]
  rfl

theorem forM_checkFile {entries : List Entry} (h : ∀ entry ∈ entries, checkFile entry = .ok ()) :
    entries.forM checkFile = .ok () := by
  induction entries with
  | nil => rfl
  | cons entry rest ih =>
    obtain ⟨hentry, hrest⟩ := List.forall_mem_cons.mp h
    rw [List.forM, hentry]
    exact ih hrest

theorem resultOf_completes (h : finding.IsPlain) :
    Completes (resultOf (.found finding)) := by
  obtain ⟨classification, hclassified⟩ := h.classified
  have hline : Completes (lineNumber (.int finding.line)) := by
    unfold lineNumber
    split
    · exact completes_ok _
    · exact completes_ok _
  obtain ⟨line, hline⟩ := hline
  simp only [resultOf, hclassified, hline]
  exact completes_ok _

/-- **Findings and their records give the same report**, and there is one. -/
theorem text_recorded (h : ∀ finding ∈ findings, finding.IsPlain) :
    ∃ report, text (findings.map Entry.found) = .ok report ∧
      text ((findings.map Entry.found).map Entry.recorded) = .ok report := by
  obtain ⟨results, hresults⟩ : Completes ((findings.map Entry.found).mapM resultOf) := by
    rw [List.mapM_map]
    exact completes_mapM fun finding hfinding => resultOf_completes (h finding hfinding)
  have hrecorded : ((findings.map Entry.found).map Entry.recorded).mapM resultOf = .ok results := by
    rw [← hresults, List.map_map, List.mapM_map, List.mapM_map]
    exact mapM_congr fun finding hfinding => resultOf_recorded (h finding hfinding)
  have hfiles : ∀ entry ∈ findings.map Entry.found, checkFile entry = .ok () := by
    intro entry hentry
    obtain ⟨finding, hfinding, rfl⟩ := List.mem_map.mp hentry
    rw [checkFile, (h finding hfinding).text]
    rfl
  have hrecords : ∀ entry ∈ (findings.map Entry.found).map Entry.recorded,
      checkFile entry = .ok () := by
    intro entry hentry
    obtain ⟨inner, _, rfl⟩ := List.mem_map.mp hentry
    rfl
  refine ⟨(document results).pretty, ?_, ?_⟩
  · unfold text
    rw [hresults, forM_checkFile hfiles]
    rfl
  · unfold text
    rw [hrecorded, forM_checkFile hrecords]
    rfl

end Sarif

/-! ## All reports -/

/-- The reports of findings are those of their records. For other programs and for other tools there
is always one; in Markdown there is one unless the metadata stand in the way, which give the header
and the diagram. -/
structure SameReports (findings : List Finding) (metadata : Document) (now : Moment) : Prop where
  json : ∃ report, json (findings.map .found) metadata = .ok report ∧
    json (findings.map fun finding => .record finding.toDocument) metadata = .ok report
  markdown : Markdown.text (findings.map .found) metadata now =
    Markdown.text (findings.map fun finding => .record finding.toDocument) metadata now
  markdownCompletes : Completes (Markdown.text (findings.map .found) metadata now) ↔
    Completes (Markdown.header metadata now) ∧
      ((metadata.fieldOrNull "semantic_graph").isTruthy = true →
        Completes (Markdown.graphSection (metadata.fieldOrNull "semantic_graph")))
  sarif : ∃ report, Sarif.text (findings.map .found) = .ok report ∧
    Sarif.text (findings.map fun finding => .record finding.toDocument) = .ok report

/-- **Findings and their records give the same reports**, whatever the metadata, where every file is
a text with forward slashes and every finding has a classification. -/
theorem reports_agree_on_records {findings : List Finding}
    (h : ∀ finding ∈ findings, finding.IsPlain) (metadata : Document) (now : Moment) :
    SameReports findings metadata now := by
  have hrecords := Entry.map_record_toDocument findings
  obtain ⟨overview, hoverview⟩ := Overview.ofEntries_completes h metadata
  constructor
  case json =>
    refine ⟨overview.toDocument.pretty, ?_, ?_⟩
    · rw [json, hoverview]
      rfl
    · rw [json, hrecords, Overview.ofEntries_recorded h, hoverview]
      rfl
  case markdown => rw [hrecords, Markdown.text_recorded h]
  case markdownCompletes => exact Markdown.text_completes_iff h metadata now
  case sarif =>
    rw [hrecords]
    exact Sarif.text_recorded h

/-! ## Two findings of one file

The first has a level and next to nothing else, so its record lacks most fields; the severity of the
second is no level, and it has a flow. -/

def bareFinding : Finding where
  rule := "DB_WRITE"
  severity := .level .high
  file := "app/models.py"
  line := 0
  snippet := ""
  assessment := .classified {
    piiTypes := [], sectors := [], severity := "high", article := none, legalBasisRequired := false
    category := "storage", confidence := 0.5 }

def flowingFinding : Finding where
  rule := "LOG_PII"
  severity := .named "urgent"
  file := "app/models.py"
  line := 7
  snippet := "log(user)"
  assessment := .classified {
    piiTypes := ["email"], sectors := ["web"], severity := "high", article := some "Art. 9"
    legalBasisRequired := true, category := "log", confidence := 0.9,
      gdprArticles := ["", "Art. 6"] }
  flowPath := [.text "user", .text "log"]
  metadata := [("param", .text "user")]

theorem bareFinding_and_flowingFinding_reports :
    (∀ finding ∈ [bareFinding, flowingFinding], finding.IsPlain) ∧
      SameReports [bareFinding, flowingFinding] (.object [("root_path", .text "app")])
        (.ofSeconds 0) := by
  have hplain : ∀ finding ∈ [bareFinding, flowingFinding], finding.IsPlain := by
    intro finding hfinding
    rcases List.mem_pair.mp hfinding with rfl | rfl
    · exact ⟨rfl, by decide, _, rfl⟩
    · exact ⟨rfl, by decide, _, rfl⟩
  exact ⟨hplain, reports_agree_on_records hplain _ _⟩

end Report

end PrivacyScan
