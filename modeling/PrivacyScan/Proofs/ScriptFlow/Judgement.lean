import PrivacyScan.Proofs.Pattern.Taking
import PrivacyScan.Proofs.ScriptFlow.Credentials

/-!
# Secrets of scripts are judged like those of modules

A value is judged by the name that it is given, in scripts and in modules alike, apart from one word
that only a script takes for a stand-in. A module has names and values in its tree; a script finds
them by a pattern, and this asks for a boundary of words before the name. So a name is read as it is
written exactly from its first character that belongs to a word, and a name of dollar signs not at
all.
-/

namespace PrivacyScan

theorem Secret.judge?_eq_verdict? {name value : String} (h : Text.lower value ≠ "placeholder") :
    judge? (placeholders ++ ["placeholder"]) name value = verdict? name value := by
  have hcontains : (placeholders ++ ["placeholder"]).contains (Text.lower value) =
      placeholders.contains (Text.lower value) := by
    simp [List.contains_eq_mem, h]
  unfold verdict? judge?
  rw [hcontains]

namespace ScriptFlow

open Pattern

variable {script : Script} {line : Line} {name value : String} {finding : Finding}

/-! ## The pattern for secrets -/

def nameSet : CharSet :=
  { items := [.range 97 122, .range 65 90, .range 48 57, .range 95 95, .range 36 36] }

def blankSet : CharSet := { items := [.ofClass (.space false) false] }

def markSet : CharSet := { items := [.range 58 58, .range 61 61] }

def quoteSet : CharSet := { items := [.range 34 34, .range 39 39] }

/-- A name and what is assigned to it in quotes. -/
def assignmentParts : List Regex :=
  [.capture 1 (.span nameSet 1 none .greedy), .span blankSet 0 none .greedy, .one markSet,
    .span blankSet 0 none .greedy, .capture 2 (.one quoteSet),
    .capture 3 (.span .notNewline 0 none .lazy), .reference 2 .exact]

theorem secretPattern_body :
    secretPattern.body = sequenceOf (.anchor (.wordBoundary false) :: assignmentParts) := by
  decide +kernel

theorem secretPattern_captureCount : secretPattern.captureCount = 3 := by decide +kernel

/-! ## Assignments on a line -/

/-- A name that is read as it is written: its first character belongs to a word. -/
structure IsReadName (name : String) : Prop where
  first : ∃ c ∈ name.toList.head?, Text.isWord c = true
  plain : ∀ c ∈ name.toList, c.isAlphanum = true ∨ c = '_' ∨ c = '$'

def IsBlank (chars : List Char) : Prop := ∀ c ∈ chars, c = ' ' ∨ c = '\t'

/-- How a value is written behind its name: with a mark, blanks on both its sides, and quotes. -/
structure Writing (value : String) where
  gap : List Char
  mark : Char
  space : List Char
  quote : Char
  gap_isBlank : IsBlank gap
  mark_eq : mark = '=' ∨ mark = ':'
  space_isBlank : IsBlank space
  quote_eq : quote = '"' ∨ quote = '\''
  plain : ∀ c ∈ value.toList, c ≠ quote ∧ c ≠ '\n'

def Writing.chars (writing : Writing value) : List Char :=
  writing.gap ++ ([writing.mark] ++ (writing.space ++ ([writing.quote] ++
    (value.toList ++ [writing.quote]))))

/-- The line assigns the value to the name, which is a word of its own, and nothing that stands
before is taken for an assignment of a text. -/
inductive Assigns (name value : String) : List Char → Prop where
  | intro {front rest : List Char} (writing : Writing value)
      (hfront : ∀ c ∈ front.getLast?, Text.isWord c = false)
      (hearlier : ∀ position < front.length, secretPattern.matchFrom?
        (front ++ (name.toList ++ writing.chars) ++ rest).toArray false position = none) :
      Assigns name value (front ++ (name.toList ++ writing.chars) ++ rest)

theorem contains_nameSet {c : Char} (h : c.isAlphanum = true ∨ c = '_' ∨ c = '$') :
    nameSet.contains c = true := by
  rcases h with h | rfl | rfl
  · have hcode : (decide (65 ≤ c.val ∧ c.val ≤ 90) || decide (97 ≤ c.val) && decide (c.val ≤ 122) ||
        decide (48 ≤ c.val) && decide (c.val ≤ 57)) = true := h
    simp only [Bool.or_eq_true, Bool.and_eq_true, decide_eq_true_eq,
      UInt32.le_iff_toNat_le] at hcode
    change (65 ≤ c.toNat ∧ c.toNat ≤ 90 ∨ 97 ≤ c.toNat ∧ c.toNat ≤ 122) ∨
      48 ≤ c.toNat ∧ c.toNat ≤ 57 at hcode
    simp only [nameSet, CharSet.contains, CharSet.holds, SetItem.contains, BEq.rfl,
      Bool.true_or, if_true,
      List.any_cons, Bool.bne_false, Bool.or_eq_true, Bool.and_eq_true, decide_eq_true_eq]
    omega
  · decide
  · decide

theorem takes_blanks {before chars after : List Char} {old : Array (Option (Nat × Nat))}
    (hchars : IsBlank chars) (hstop : ∀ c ∈ after.head?, Text.isSpace c = false) :
    Takes (.span blankSet 0 none .greedy) before chars after old old := by
  refine takes_span (fun c hc => ?_) (fun c hc => ?_) (Nat.zero_le _)
  · rcases hchars c hc with rfl | rfl <;> decide
  · simp [blankSet, CharSet.contains, CharSet.holds, SetItem.contains,
      CharClass.contains, hstop c hc]

section Match

variable {front more rest : List Char} {position : Nat} {old : Array (Option (Nat × Nat))}

theorem isWordAt_last (hfront : ∀ c ∈ front.getLast?, Text.isWord c = false) :
    (front.length != 0 && isWordAt (front ++ more).toArray false (front.length - 1)) = false := by
  cases hlast : front.getLast? with
  | none => rw [List.getLast?_eq_none_iff.mp hlast]; rfl
  | some last =>
    obtain ⟨init, rfl⟩ := List.getLast?_eq_some_iff.mp hlast
    simp [isWordAt, CharClass.contains, hfront last hlast]

theorem holds_before_word (hfront : ∀ c ∈ front.getLast?, Text.isWord c = false)
    (hfirst : ∃ c ∈ more.head?, Text.isWord c = true) :
    (Anchor.wordBoundary false).holds (front ++ more).toArray front.length = true := by
  obtain ⟨c, hc, hword⟩ := hfirst
  obtain ⟨chars, rfl⟩ := List.head?_eq_some_iff.mp hc
  rw [Anchor.holds, atWordBoundary, isWordAt_last hfront]
  simp [isWordAt, CharClass.contains, hword]

/-- A line up to the first quote. -/
def opening (front name : List Char) (writing : Writing value) : List Char :=
  front ++ name ++ writing.gap ++ [writing.mark] ++ writing.space

/-- The captures of a match: where the name stands, the first quote and the value. -/
def keeping (old : Array (Option (Nat × Nat))) (front name : List Char) (writing : Writing value) :
    Array (Option (Nat × Nat)) :=
  let opened := opening front name writing ++ [writing.quote]
  ((old.setIfInBounds 1 (some (front.length, (front ++ name).length))).setIfInBounds 2
    (some ((opening front name writing).length, opened.length))).setIfInBounds 3
    (some (opened.length, (opened ++ value.toList).length))

/-- The pattern takes an assignment however it is written, and captures name and value. -/
theorem takes_assignmentParts (hname : IsReadName name) (hold : old.size = 4)
    (writing : Writing value) :
    Takes (sequenceOf assignmentParts) front (name.toList ++ writing.chars) rest old
      (keeping old front name.toList writing) := by
  obtain ⟨gap, mark, space, quote, hgap, hmark, hspace, hquote, hvalue⟩ := writing
  obtain ⟨first, hfirst, _⟩ := hname.first
  refine takes_sequenceOf_cons (takes_capture (takes_span
    (fun c hc => contains_nameSet (hname.plain c hc)) (fun c hc => ?_)
    (List.length_pos_of_mem (List.mem_of_mem_head? hfirst))) 1) ?_
  · -- behind the name stands a blank or the mark
    cases gap with
    | nil =>
      obtain rfl : mark = c := by simpa [Writing.chars] using hc
      rcases hmark with rfl | rfl <;> decide
    | cons blank gap =>
      obtain rfl : blank = c := by simpa [Writing.chars] using hc
      rcases hgap _ List.mem_cons_self with rfl | rfl <;> decide
  refine takes_sequenceOf_cons (takes_blanks hgap fun c hc => ?_) ?_
  · obtain rfl : mark = c := by simpa using hc
    rcases hmark with rfl | rfl <;> decide
  have hmarks : markSet.contains mark = true := by rcases hmark with rfl | rfl <;> decide
  refine takes_sequenceOf_cons (takes_one hmarks) ?_
  refine takes_sequenceOf_cons (takes_blanks hspace fun c hc => ?_) ?_
  · obtain rfl : quote = c := by simpa using hc
    rcases hquote with rfl | rfl <;> decide
  have hquotes : quoteSet.contains quote = true := by rcases hquote with rfl | rfl <;> decide
  refine takes_sequenceOf_cons (takes_capture (takes_one hquotes) 2) ?_
  exact takes_quoted (by decide) hvalue rfl (by simp [hold, Nat.add_assoc])

end Match

/-- A line that assigns the value is matched with this name and this value. -/
theorem search?_secretPattern {text : String} (hname : IsReadName name)
    (h : Assigns name value text.toList) : ∃ found, secretPattern.search? text = some found ∧
      found.capture 1 = name ∧ found.capture 3 = value := by
  generalize htext : text.toList = chars at h
  obtain @⟨front, rest, writing, hfront, hearlier⟩ := h
  obtain ⟨first, hfirst, hword⟩ := hname.first
  have htakes : Takes secretPattern.body front (name.toList ++ writing.chars) rest
      (Array.replicate (secretPattern.captureCount + 1) none)
      (keeping (Array.replicate 4 none) front name.toList writing) := by
    rw [secretPattern_body, secretPattern_captureCount]
    refine takes_sequenceOf_anchor ?_ (takes_assignmentParts hname rfl writing)
    rw [List.append_assoc, List.append_assoc]
    exact holds_before_word hfront ⟨first, by rw [List.head?_append, hfirst]; rfl, hword⟩
  refine ⟨_, search?_of_takes_behind htext hearlier htakes, ?_, ?_⟩
  all_goals unfold Match.capture
  · have hsplit : front ++ (name.toList ++ writing.chars) ++ rest =
        front ++ name.toList ++ (writing.chars ++ rest) := by simp
    rw [capture?_eq (by decide) (by simp [keeping]) (congrArg List.toArray hsplit)]
    simp
  · have hsplit : front ++ (name.toList ++ writing.chars) ++ rest =
        opening front name.toList writing ++ [writing.quote] ++ value.toList ++
          ([writing.quote] ++ rest) := by
      simp [opening, Writing.chars]
    rw [capture?_eq (by decide) (by simp [keeping]) (congrArg List.toArray hsplit)]
    simp

/-! ## Findings -/

theorem secretOn?_eq {found : Match} (hshort : Text.length line.text ≤ 500)
    (hfound : secretPattern.search? line.text = some found) :
    secretOn? script line =
      (verdictOf? found).map (secretFinding script line (found.capture 1)) := by
  have hguard : (guard (Text.length line.text ≤ 500) : Option Unit) = some () := if_pos hshort
  unfold secretOn?
  rw [hguard, hfound, Option.map_eq_bind]
  rfl

theorem mem_findSecrets_iff (hline : line ∈ script.numbered) :
    finding ∈ findSecrets script ∧ finding.line = line.number ↔
      secretOn? script line = some finding := by
  constructor
  · rintro ⟨hmem, hnumber⟩
    obtain ⟨other, hother, hfinding⟩ := List.mem_filterMap.mp hmem
    obtain ⟨_, _, htells⟩ := exists_leading hfinding
    obtain rfl := eq_of_number_eq hline hother (Int.ofNat.inj (htells.line.symm.trans hnumber))
    exact hfinding
  · intro hfinding
    obtain ⟨_, _, htells⟩ := exists_leading hfinding
    exact ⟨List.mem_filterMap.mpr ⟨line, hline, hfinding⟩, htells.line⟩

/-- **A script judges the values that it reads as a module does.** Let a line that is not too long
assign a value to a name, both of which can be read. Unless the value is the one word that scripts
take for a stand-in, there is a finding on the line exactly when the value is a secret by the
verdict of a module, and it tells the kind and the confidence of this verdict. -/
theorem secrets_judged_as_in_modules (hline : line ∈ script.numbered)
    (hshort : Text.length line.text ≤ 500) (hname : IsReadName name)
    (hassigns : Assigns name value line.text.toList) (hvalue : Text.lower value ≠ "placeholder") :
    finding ∈ findSecrets script ∧ finding.line = line.number ↔
      ∃ verdict, Secret.verdict? name value = some verdict ∧
        secretFinding script line name verdict = finding := by
  obtain ⟨found, hfound, rfl, rfl⟩ := search?_secretPattern hname hassigns
  rw [mem_findSecrets_iff hline, secretOn?_eq hshort hfound, verdictOf?,
    Secret.judge?_eq_verdict? hvalue, Option.map_eq_some_iff]

/-- A key that is declared. -/
def keyLine : Line := { number := 1, text := "const apiKey = 'k3y-0123456', n = 1" }

def keyWriting : Writing "k3y-0123456" where
  gap := [' ']
  mark := '='
  space := [' ']
  quote := '\''
  gap_isBlank := List.forall_mem_singleton.mpr (.inl rfl)
  mark_eq := .inl rfl
  space_isBlank := List.forall_mem_singleton.mpr (.inl rfl)
  quote_eq := .inr rfl
  plain := @of_decide_eq_true _ (List.decidableBAll _ _) (by decide)

def keyScript : Script := { file := "a.js", lines := [keyLine.text] }

theorem keyScript_judged :
    ∃ finding ∈ findSecrets keyScript, finding.line = (keyLine.number : Int) := by
  have hname : IsReadName "apiKey" :=
    ⟨⟨'a', rfl, by decide⟩, @of_decide_eq_true _ (List.decidableBAll _ _) (by decide)⟩
  have hassigns : Assigns "apiKey" "k3y-0123456"
      ("const ".toList ++ ("apiKey".toList ++ keyWriting.chars) ++ ", n = 1".toList) :=
    .intro keyWriting (fun _ hc => by cases hc; rfl) (by decide +kernel)
  obtain ⟨verdict, hverdict⟩ := Option.isSome_iff_exists.mp
    (by decide +kernel : (Secret.verdict? "apiKey" "k3y-0123456").isSome = true)
  obtain ⟨hmem, hnumber⟩ :=
    (@secrets_judged_as_in_modules keyScript keyLine _ _ _ List.mem_cons_self
    (by decide) hname hassigns (by decide +kernel)).mpr ⟨verdict, hverdict, rfl⟩
  exact ⟨_, hmem, hnumber⟩

/-- A dollar sign is a name, but no word begins with it. -/
def dollarScript : Script := Script.ofCode "a.js" "$ = '0123456789abcdef0123456789abcdef'"

theorem dollarScript_missed :
    Text.lower "0123456789abcdef0123456789abcdef" ≠ "placeholder" ∧
      (Secret.verdict? "$" "0123456789abcdef0123456789abcdef").isSome ∧
      (findSecrets dollarScript).isEmpty := by
  decide +kernel

end ScriptFlow

end PrivacyScan
