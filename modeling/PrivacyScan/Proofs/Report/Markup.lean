import PrivacyScan.Proofs.Report.Records
import PrivacyScan.Report.Html.Finding

/-!
# The markup of a card

A card of the page has tags of its own, and between them the texts of a finding. How many angle
brackets it opens says whether the texts bring tags too:

* **`angles_escape`** — an escaped text brings none;
* **`findingCard_angles`** — a card opens those of its parts and those of the texts that it takes
  over as they are.
-/

namespace PrivacyScan.Report.Html

/-- How many angle brackets a text opens. -/
def angles (text : String) : Nat := text.toList.count '<'

theorem angles_append (front back : String) :
    angles (front ++ back) = angles front + angles back := by
  simp [angles]

theorem angles_eq_zero_iff {text : String} : angles text = 0 ↔ '<' ∉ text.toList :=
  List.count_eq_zero

theorem angles_escape (text : String) : angles (escape text) = 0 := by
  rw [angles_eq_zero_iff, escape, String.toList_join, List.flatMap_map]
  intro hmem
  obtain ⟨c, _, hc⟩ := List.mem_flatMap.mp hmem
  unfold escapeChar at hc
  split at hc
  case h_6 hangle _ _ _ => exact hangle (by simpa [eq_comm] using hc)
  all_goals simp at hc

theorem angles_toString (number : Nat) : angles (toString number) = 0 := by
  rw [angles_eq_zero_iff, Nat.toString_eq_repr, Nat.toList_repr]
  intro hmem
  cases Nat.isDigit_of_mem_toDigits (by decide) (by decide) hmem

theorem angles_label (level : Severity) : angles level.label = 0 := by
  cases level <;> decide

/-! ## The parts of a card -/

structure CardParts where
  code : Bool
  article : Bool
  reasoning : Bool
  types : Bool

/-- How many angle brackets the tags of a card with these parts open. -/
def CardParts.angles (parts : CardParts) : Nat :=
  14 + (if parts.code then 2 else 0) + (if parts.article then 4 else 0) +
    (if parts.reasoning || parts.types then 2 else 0) + if parts.types then 3 else 0

/-- The texts from which a card is made; line and count as they are shown. -/
structure CardTexts where
  rule : String
  file : String
  line : String
  snippet : String
  article : String
  reasoning : String
  count : String
  repeated : Bool
  types : List String

namespace CardTexts

def parts (texts : CardTexts) : CardParts where
  code := texts.snippet != ""
  article := texts.article != "N/A"
  reasoning := texts.reasoning != ""
  types := texts.repeated && !texts.types.isEmpty

/-- The texts that are taken over as they are. -/
def raw (texts : CardTexts) : List String :=
  [titleOfName texts.rule, texts.file, texts.line, texts.reasoning] ++
    (if texts.parts.article then [texts.article] else []) ++
    (if texts.repeated then [texts.count] else []) ++
    if texts.parts.types then [String.intercalate ", " texts.types] else []

theorem angles_join_raw (texts : CardTexts) :
    angles (String.join texts.raw) = angles (titleOfName texts.rule) + angles texts.file +
      angles texts.line + angles texts.reasoning +
      (if texts.parts.article then angles texts.article else 0) +
      (if texts.repeated then angles texts.count else 0) +
      if texts.parts.types then angles (String.intercalate ", " texts.types) else 0 := by
  have hjoin (shown : Bool) (text : String) : angles (String.join (if shown then [text] else [])) =
      if shown then angles text else 0 := by
    cases shown <;> simp [angles]
  simp only [raw, String.join_append, angles_append, hjoin]
  simp [angles]
  omega

/-- The finding has these texts. -/
structure Describes (texts : CardTexts) (finding : Document) : Prop where
  rule : finding.field? "rule" = some (.text texts.rule)
  file : finding.field? "file" = some (.text texts.file)
  line : ((finding.field? "line").getD (.text "N/A")).shown = texts.line
  snippet : finding.field? "snippet" = some (.text texts.snippet)
  classification : ∃ fields, finding.field? "classification" = some (.object fields) ∧
    fields.lookup "article" = some (.text texts.article) ∧
    fields.lookup "reasoning" = some (.text texts.reasoning)
  count : ∃ count number, (finding.field? "aggregated_count").getD (.int 1) = count ∧
    count.compared ">" = .ok number ∧ texts.count = count.shown ∧
    texts.repeated = !decide (number ≤ 1)
  types : (finding.field? "aggregated_pii").getD (.list []) = .texts texts.types

end CardTexts

variable {texts : CardTexts} {finding : Document}

theorem codePart_text (snippet : String) :
    ∃ code, codePart (.text snippet) = .ok code ∧ angles code = if snippet != "" then 2 else 0 := by
  by_cases hempty : snippet = ""
  · subst hempty
    exact ⟨"", rfl, rfl⟩
  · refine ⟨"<div class=\"finding-code\">" ++ escape snippet ++ "</div>", ?_, ?_⟩
    · simp [codePart, Document.isTruthy, hempty, Document.asText]
    · rw [angles_append, angles_append, angles_escape, if_pos (bne_iff_ne.mpr hempty)]
      decide

theorem angles_articlePart (article : String) :
    angles (articlePart (.text article)) =
      (if article != "N/A" then 4 else 0) + if article != "N/A" then angles article else 0 := by
  show angles (if article == "N/A" then "" else
    "<div class=\"finding-gdpr\"><strong>GDPR:</strong> " ++ article ++ "</div>") = _
  by_cases hnone : article = "N/A"
  · simp [angles, hnone]
  · have htags : angles "<div class=\"finding-gdpr\"><strong>GDPR:</strong> " = 3 ∧
        angles "</div>" = 1 := by decide
    simp [angles_append, htags, hnone]
    omega

theorem angles_reasoningPart (reasoning : String) :
    angles (reasoningPart (.text reasoning)) =
      angles reasoning + if reasoning != "" then 2 else 0 := by
  by_cases hempty : reasoning = ""
  · subst hempty
    rfl
  · have htags : angles "<p style=\"margin-top: 12px; color: #4b5563;\">" = 1 ∧
        angles "</p>" = 1 := by decide
    simp [angles_append, htags, reasoningPart, Document.isTruthy, Document.shown, hempty]
    omega

theorem ruleTitle_text (name : String) : ruleTitle (.text name) = .ok (titleOfName name) := by
  by_cases hempty : name = ""
  · subst hempty
    rfl
  · simp [ruleTitle, Document.isTruthy, Document.asText, hempty]

/-- What further findings add to the title and to the reasoning. -/
theorem occurrences_text (h : texts.Describes finding) :
    ∃ suffix reasoning,
      occurrences finding (.text texts.reasoning) = .ok (suffix, .text reasoning) ∧
      angles suffix = (if texts.repeated then angles texts.count else 0) ∧
      angles (reasoningPart (.text reasoning)) = angles texts.reasoning +
        (if texts.parts.reasoning || texts.parts.types then 2 else 0) +
        (if texts.parts.types then 3 else 0) +
        if texts.parts.types then angles (String.intercalate ", " texts.types) else 0 := by
  obtain ⟨count, number, hcount, hnumber, hshown, hrepeated⟩ := h.count
  unfold occurrences
  dsimp only
  rw [hcount, hnumber, h.types, hshown, Outcome.ok_bind]
  simp only [CardTexts.parts, hrepeated]
  by_cases hfew : number ≤ 1
  · exact ⟨"", _, if_pos hfew, by simp [hfew, angles], by simp [hfew, angles_reasoningPart]⟩
  · have hsuffix : angles (" (x" ++ count.shown ++ " occurrences)") = angles count.shown := by
      simp [angles]
    rw [if_neg hfew]
    cases htypes : texts.types with
    | nil => exact ⟨_, _, rfl, by simp [hfew, hsuffix], by simp [angles_reasoningPart]⟩
    | cons type types =>
      rw [if_neg (by simp [Document.texts, Document.isTruthy]), Markdown.joined_texts,
        Outcome.ok_bind]
      refine ⟨_, _, rfl, by simp [hfew, hsuffix], ?_⟩
      -- with the types behind it, the reasoning is never empty
      have hmore : texts.reasoning ++ ("<br><strong>Aggregated PII Types:</strong> " ++
          String.intercalate ", " (type :: types)) ≠ "" := by simp
      have htags : angles "<br><strong>Aggregated PII Types:</strong> " = 3 := by decide
      rw [angles_reasoningPart, if_pos (bne_iff_ne.mpr hmore), angles_append, angles_append, htags]
      simp [hfew]
      omega

/-- The angle brackets of a card are those of its frame and of the texts that are not escaped. -/
theorem findingCard_angles (h : texts.Describes finding) (index : Nat) (level : Severity) :
    ∃ card, findingCard finding index level = .ok card ∧
      angles card = texts.parts.angles + angles (String.join texts.raw) := by
  obtain ⟨fields, hfields, harticle, hreasoning⟩ := h.classification
  obtain ⟨suffix, reasoning, hoccurrences, hsuffix, hreasons⟩ := occurrences_text h
  obtain ⟨code, hcode, htags⟩ := codePart_text texts.snippet
  unfold findingCard
  simp only [hfields, h.rule, h.file, h.line, h.snippet, Option.getD_some, Document.get, harticle,
    hreasoning, Outcome.ok_bind, hoccurrences, ruleTitle_text, hcode]
  refine ⟨_, rfl, ?_⟩
  simp only [angles_append, angles_toString, angles_label, hsuffix, hreasons, htags,
    angles_articlePart, Document.shown]
  rw [CardTexts.angles_join_raw]
  -- the tags around the texts open fourteen, which the kernel counts
  have hsum {a b c d e f g h i : Nat}
      (htags : [a, b, c, d, e, f, g, h, i] = [1, 1, 0, 5, 4, 2, 0, 0, 1])
      (title suffix file line code article reasoning : Nat) :
      a + 0 + b + 0 + c + title + suffix + d + file + e + line + f + code + g + article + h +
        reasoning + i = 14 + title + suffix + file + line + code + article + reasoning := by
    simp only [List.cons.injEq] at htags
    omega
  refine (hsum (by decide +kernel) ..).trans ?_
  simp [CardParts.angles, CardTexts.parts]
  omega

/-- **A finding can bring markup into its card through every text but the snippet.** A card opens
the angle brackets of its parts and those of the texts that it takes over as they are. So the parts
alone count exactly when none of these texts has one. -/
theorem markup_depends_on_parts_iff (h : texts.Describes finding) (index : Nat) (level : Severity) :
    ∃ card, findingCard finding index level = .ok card ∧
      angles card = texts.parts.angles + angles (String.join texts.raw) ∧
      (angles card = texts.parts.angles ↔ ∀ text ∈ texts.raw, '<' ∉ text.toList) := by
  obtain ⟨card, hcard, hangles⟩ := findingCard_angles h index level
  refine ⟨card, hcard, hangles, ?_⟩
  rw [hangles, Nat.add_eq_left, angles_eq_zero_iff, String.toList_join]
  simp

/-- A finding in this file, with a snippet that has a tag. -/
def findingIn (file : String) : Document :=
  .object [("rule", .text "LOG_PII"), ("file", .text file), ("snippet", .text "log(<p>)"),
    ("classification", .object [("article", .text "Art. 32"), ("reasoning", .text "Logged")])]

def textsIn (file : String) : CardTexts where
  rule := "LOG_PII"
  file
  line := "N/A"
  snippet := "log(<p>)"
  article := "Art. 32"
  reasoning := "Logged"
  count := "1"
  repeated := false
  types := []

theorem textsIn_describes (file : String) : (textsIn file).Describes (findingIn file) where
  rule := rfl
  file := rfl
  line := rfl
  snippet := rfl
  classification := ⟨_, rfl, rfl, rfl⟩
  count := ⟨_, _, rfl, rfl, rfl, show false = !decide (Float.ofInt 1 ≤ 1) by decide⟩
  types := rfl

theorem findingIn_marked_file :
    (textsIn "<b>.py").Describes (findingIn "<b>.py") ∧
      ∃ card, findingCard (findingIn "<b>.py") 1 .high = .ok card ∧
        angles card ≠ (textsIn "<b>.py").parts.angles := by
  refine ⟨textsIn_describes _, ?_⟩
  obtain ⟨card, hcard, _, honly⟩ := markup_depends_on_parts_iff (textsIn_describes "<b>.py") 1 .high
  refine ⟨card, hcard, fun hsame => ?_⟩
  have hfree := honly.mp hsame "<b>.py" (by simp [CardTexts.raw, textsIn])
  simp at hfree

/-- The name of a file brings markup into the card. -/
theorem file_name_changes_markup :
    ∃ card other, findingCard (findingIn "b.py") 1 .high = .ok card ∧
      findingCard (findingIn "<b>.py") 1 .high = .ok other ∧ angles card ≠ angles other := by
  obtain ⟨card, hcard, hangles⟩ := findingCard_angles (textsIn_describes "b.py") 1 .high
  obtain ⟨other, hother, hothers⟩ := findingCard_angles (textsIn_describes "<b>.py") 1 .high
  refine ⟨card, other, hcard, hother, ?_⟩
  have hfile : angles "b.py" = 0 ∧ angles "<b>.py" = 1 := by decide
  rw [hangles, hothers, CardTexts.angles_join_raw, CardTexts.angles_join_raw]
  simp [textsIn, CardTexts.parts, hfile]

end PrivacyScan.Report.Html
