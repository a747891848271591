import PrivacyScan.Proofs.Snippet
import PrivacyScan.Source.Statement

/-!
# Excerpts by the line numbers of code

The nodes of code have the numbers of its physical lines, which end only at line feeds and carriage
returns. Excerpts count the lines of plain text, and these end at more characters. The two agree up
to the first physical line that has such a character.
-/

namespace PrivacyScan

/-! ## The physical lines of code -/

namespace Source

/-- The lines of a text that end at line feeds only, where `line` is the reversed start of the
current one. Nothing follows the last end. -/
def fedLines (line : List Char) : List Char → List (List Char)
  | [] => if line.isEmpty then [] else [line.reverse]
  | c :: rest => if c = '\n' then line.reverse :: fedLines [] rest else fedLines (c :: line) rest

def physicalLines (code : String) : List String :=
  (fedLines [] (Text.unifyLineEnds code.toList)).map String.ofList

def IsPlain (line : String) : Prop := ∀ c ∈ line.toList, Text.isLineEnd c = false

instance (line : String) : Decidable (IsPlain line) :=
  List.decidableBAll (Text.isLineEnd · = false) line.toList

theorem exists_fedLines {c : Char} {line : List Char} (h : c ∈ line) (text : List Char) :
    ∃ head tail, fedLines line text = head :: tail ∧ c ∈ head := by
  induction text generalizing line with
  | nil =>
    rw [fedLines, if_neg (by simpa using List.ne_nil_of_mem h)]
    exact ⟨line.reverse, [], rfl, List.mem_reverse.mpr h⟩
  | cons d rest ih =>
    rw [fedLines]
    split
    · exact ⟨line.reverse, _, rfl, List.mem_reverse.mpr h⟩
    · exact ih (List.mem_cons_of_mem d h)

/-- The first lines of both kinds are the same as long as the physical ones are plain. -/
def SameWhilePlain (lines physical : List (List Char)) : Prop :=
  ∀ count, (∀ line ∈ physical.take count, ∀ c ∈ line, Text.isLineEnd c = false) →
    lines.take count = physical.take count

theorem SameWhilePlain.cons {lines physical : List (List Char)} (h : SameWhilePlain lines physical)
    (line : List Char) : SameWhilePlain (line :: lines) (line :: physical)
  | 0, _ => rfl
  | count + 1, hplain => by
    rw [List.take_succ_cons, List.take_succ_cons,
      h count fun line hline => hplain line (List.mem_cons_of_mem _ hline)]

/-- Nothing is said of the lines behind one that is not plain. -/
theorem sameWhilePlain_of_end {head : List Char} {c : Char} (hmem : c ∈ head)
    (hend : Text.isLineEnd c = true) (lines tail : List (List Char)) :
    SameWhilePlain lines (head :: tail)
  | 0, _ => rfl
  | _ + 1, hplain => by
    have hfalse := hplain head List.mem_cons_self c hmem
    rw [hend] at hfalse
    cases hfalse

/-- Both ways to cut a text give the same lines, up to the first one with another line end. -/
theorem lineList_sameWhilePlain (line text : List Char) :
    SameWhilePlain (Text.lineList line text) (fedLines line (Text.unifyLineEnds text)) := by
  fun_induction Text.lineList line text with
  | case1 line hempty =>
    rw [Text.unifyLineEnds, fedLines, if_pos hempty]
    exact fun _ _ => rfl
  | case2 line hpending =>
    rw [Text.unifyLineEnds, fedLines, if_neg hpending]
    exact fun _ _ => rfl
  | case3 line rest ih => exact ih.cons line.reverse
  | case4 line c rest hpair hend ih =>
    rw [Text.unifyLineEnds.eq_3 c rest hpair]
    split
    · exact ih.cons line.reverse
    · rw [fedLines]
      split
      · exact ih.cons line.reverse
      · -- only plain text ends a line here, so the physical line holds the character
        obtain ⟨head, tail, hlines, hmem⟩ := exists_fedLines List.mem_cons_self _
        rw [hlines]
        exact sameWhilePlain_of_end hmem hend _ tail
  | case5 line c rest hpair hend ih =>
    have hreturn : (c == '\r') = false := beq_eq_false_iff_ne.mpr (by rintro rfl; exact hend rfl)
    rw [Text.unifyLineEnds.eq_3 c rest hpair, hreturn, fedLines, if_neg]
    · exact ih
    · rintro rfl
      exact hend rfl

/-- No line has a line end inside. -/
theorem isPlain_of_mem_lineList {line text shown : List Char}
    (hline : ∀ c ∈ line, Text.isLineEnd c = false) (h : shown ∈ Text.lineList line text) :
    ∀ c ∈ shown, Text.isLineEnd c = false := by
  have hdone : ∀ c ∈ line.reverse, Text.isLineEnd c = false :=
    fun c hc => hline c (List.mem_reverse.mp hc)
  fun_induction Text.lineList line text with
  | case1 line _ => cases h
  | case2 line _ => exact List.mem_singleton.mp h ▸ hdone
  | case3 line rest ih =>
    rcases List.mem_cons.mp h with rfl | hrest
    · exact hdone
    · exact ih (List.forall_mem_nil _) hrest (List.forall_mem_nil _)
  | case4 line c rest _ _ ih =>
    rcases List.mem_cons.mp h with rfl | hrest
    · exact hdone
    · exact ih (List.forall_mem_nil _) hrest (List.forall_mem_nil _)
  | case5 line c rest _ hend ih =>
    have hboth : ∀ d ∈ c :: line, Text.isLineEnd d = false :=
      List.forall_mem_cons.mpr ⟨Bool.eq_false_iff.mpr hend, hline⟩
    exact ih hboth h fun d hd => hboth d (List.mem_reverse.mp hd)

theorem isPlain_of_mem_lines {code line : String} (h : line ∈ Text.lines code) : IsPlain line := by
  obtain ⟨chars, hchars, rfl⟩ := List.mem_map.mp h
  intro c hc
  rw [String.toList_ofList] at hc
  exact isPlain_of_mem_lineList (List.forall_mem_nil _) hchars c hc

theorem take_lines_eq_iff (code : String) (count : Nat) :
    (Text.lines code).take count = (physicalLines code).take count ↔
      ∀ line ∈ (physicalLines code).take count, IsPlain line := by
  constructor
  · intro heq line hline
    rw [← heq] at hline
    exact isPlain_of_mem_lines (List.mem_of_mem_take hline)
  · intro hplain
    unfold Text.lines physicalLines at *
    rw [← List.map_take] at hplain ⊢
    rw [← List.map_take, lineList_sameWhilePlain]
    intro shown hshown c hc
    exact hplain _ (List.mem_map_of_mem hshown) c (by rwa [String.toList_ofList])

end Source

/-! ## What an excerpt takes from its lines -/

namespace Snippet

/-- The excerpt is a block of lines, under its numbers, that has the lines `first` to `last`. -/
def Excerpt.Covers (excerpt : Excerpt) (lines : List String) (first last : Nat) : Prop :=
  ∃ above below, lines = above ++ excerpt.lines ++ below ∧ excerpt.first = above.length + 1 ∧
    excerpt.last = above.length + excerpt.lines.length ∧ excerpt.Shows first ∧ excerpt.Shows last

/-- The first line that it has to show is one of its lines. -/
theorem Excerpt.Covers.mem {excerpt : Excerpt} {lines : List String} {line : String}
    {index last : Nat} (h : excerpt.Covers lines (index + 1) last)
    (hline : lines[index]? = some line) : line ∈ excerpt.lines := by
  obtain ⟨above, below, rfl, hfirst, hlast, hshows, _⟩ := h
  unfold Excerpt.Shows at hshows
  rw [List.append_assoc, List.getElem?_append_right (by omega),
    List.getElem?_append_left (by omega)] at hline
  exact List.mem_of_getElem? hline

variable (lines : List String) {first last : Nat}

theorem oneLine_natCast (hfirst : 1 ≤ first) (last : Nat) (limit : Int) :
    oneLine lines first last limit =
      shorten (Text.join " " (((lines.take last).drop (first - 1)).map Text.trim)) limit := by
  have hstart : max 0 ((first : Int) - 1) = ((first - 1 : Nat) : Int) := by omega
  have hstop : min (lines.length : Int) last = ((min last lines.length : Nat) : Int) := by omega
  unfold oneLine
  rw [hstart, hstop, window_natCast, ← List.take_eq_take_min]

theorem surrounded_natCast (hfirst : 1 ≤ first) (last around : Nat) :
    surrounded lines first last around =
      { lines := (lines.take (last + around)).drop (first - 1 - around)
        first := (first - 1 - around : Nat) + 1
        last := (lines.take (last + around)).length } := by
  have hstart : max 0 ((first : Int) - 1 - around) = ((first - 1 - around : Nat) : Int) := by omega
  have hstop : min (lines.length : Int) (last + around) =
      ((min (last + around) lines.length : Nat) : Int) := by omega
  unfold surrounded
  rw [if_neg (by simp; omega), hstart, hstop]
  dsimp only
  rw [window_natCast, ← List.take_eq_take_min, List.length_take]

theorem covers_surrounded (around : Nat) (hfirst : 1 ≤ first) (hle : first ≤ last)
    (hlast : last ≤ lines.length) :
    (surrounded lines first last around).Covers lines first last := by
  rw [surrounded_natCast lines hfirst]
  refine ⟨lines.take (first - 1 - around), lines.drop (last + around), ?_, ?_⟩
  · have habove : lines.take (first - 1 - around) =
        (lines.take (last + around)).take (first - 1 - around) := by
      rw [List.take_take, Nat.min_eq_left (by omega)]
    rw [habove, List.take_append_drop, List.take_append_drop]
  · simp only [Excerpt.Shows, List.length_take, List.length_drop]
    omega

/-- The lines of a node, as the code counts them. -/
structure IsPlace (code : String) (first last : Nat) : Prop where
  first_pos : 1 ≤ first
  first_le : first ≤ last
  last_le : last ≤ (Source.physicalLines code).length

/-- The one line of a place is built from its physical lines, and its excerpt is a block of physical
lines around them. -/
structure ShowsPlace (code : String) (limit : Int) (around first last : Nat) : Prop where
  oneLine : Snippet.oneLine (Text.lines code) first last limit =
    shorten (Text.join " "
      ((((Source.physicalLines code).take last).drop (first - 1)).map Text.trim)) limit
  excerpt : (surrounded (Text.lines code) first last around).Covers (Source.physicalLines code)
    first last

/-- **All places of some code are shown rightly exactly when no physical line has a character that
ends a line of plain text.** A place is shown rightly, too, when such characters come only below its
excerpt. -/
theorem places_shown_iff_no_other_line_ends (code : String) (limit : Int) (around : Nat) :
    (∀ first last, IsPlace code first last →
      (∀ line ∈ (Source.physicalLines code).take (last + around), Source.IsPlain line) →
        ShowsPlace code limit around first last) ∧
    ((∀ first last, IsPlace code first last → ShowsPlace code limit around first last) ↔
      ∀ line ∈ Source.physicalLines code, Source.IsPlain line) := by
  have hplaces (first last : Nat) (hplace : IsPlace code first last)
      (hplain : ∀ line ∈ (Source.physicalLines code).take (last + around), Source.IsPlain line) :
      ShowsPlace code limit around first last := by
    have hwide := (Source.take_lines_eq_iff code (last + around)).mpr hplain
    have hnarrow : (Text.lines code).take last = (Source.physicalLines code).take last := by
      have htaken := congrArg (List.take last) hwide
      rwa [List.take_take, List.take_take, Nat.min_eq_left (by omega)] at htaken
    constructor
    · rw [oneLine_natCast _ hplace.first_pos, hnarrow]
    · rw [surrounded_natCast _ hplace.first_pos, hwide, ← surrounded_natCast _ hplace.first_pos]
      exact covers_surrounded _ around hplace.first_pos hplace.first_le hplace.last_le
  refine ⟨hplaces, fun hshown line hline => ?_, fun hplain first last hplace =>
    hplaces first last hplace fun line hline => hplain line (List.mem_of_mem_take hline)⟩
  -- the excerpt around a physical line has it, and takes all its lines from the plain text
  obtain ⟨index, hindex⟩ := List.mem_iff_getElem?.mp hline
  obtain ⟨hbound, _⟩ := List.getElem?_eq_some_iff.mp hindex
  have hmem := (hshown (index + 1) (index + 1) ⟨by omega, by omega, by omega⟩).excerpt.mem hindex
  rw [surrounded_natCast _ (by omega)] at hmem
  exact Source.isPlain_of_mem_lines (List.mem_of_mem_take (List.mem_of_mem_drop hmem))

/-! In code of three lines that end in the three ways, all places are shown. In code with a form
feed in a text, the second statement is shown by a part of the first one. -/

theorem mixed_ends_shown : ShowsPlace "f(\r\n  x\r)\n" 200 2 1 3 :=
  (places_shown_iff_no_other_line_ends "f(\r\n  x\r)\n" 200 2).2.mpr (by decide) 1 3
    ⟨by decide, by decide, by decide⟩

def formFeedCode : String := "'\x0c'\nx\n"

theorem form_feed_misplaces_snippet :
    (Source.parseModule? formFeedCode).map (fun tree => tree.children.map (·.place)) =
        some [⟨1, 0, 1⟩, ⟨2, 0, 2⟩] ∧
      Source.physicalLines formFeedCode = ["'\x0c'", "x"] ∧
      oneLine (Text.lines formFeedCode) 2 2 = "'" ∧ ¬ ShowsPlace formFeedCode 200 2 2 2 := by
  refine ⟨by decide +kernel, by decide, by decide, fun hshown => ?_⟩
  exact absurd hshown.oneLine (by decide)

end Snippet

end PrivacyScan
