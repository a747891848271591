import PrivacyScan.ScriptFlow.Credential

/-!
# Which secrets of a script are reported

A line of a script may have several assignments, but only the first of them is looked at:

* **`head?_all`** — the first of all matches in a text is the one that a search finds;
* **`reported_iff`** — a secret is reported exactly when it leads its line.
-/

namespace PrivacyScan

theorem Pattern.head?_all (pattern : Pattern) (text : String) :
    (pattern.all text).head? = pattern.search? text := by
  unfold all search?
  dsimp only
  rw [allFrom, if_neg (Nat.not_lt_zero _), Nat.sub_zero]
  split
  · next h => exact h.symm
  · next h => exact h.symm

namespace ScriptFlow

open Pattern (Match)

variable {script : Script} {line : Line} {name : String} {finding : Finding}

/-- What the value of an assignment is judged to be by its name. -/
def verdictOf? (found : Match) : Option Secret.Verdict :=
  Secret.judge? (Secret.placeholders ++ ["placeholder"]) (found.capture 1) (found.capture 3)

/-- The assignments of secrets on a line that is not too long. -/
def secretsOn (line : Line) : List Match :=
  if Text.length line.text ≤ 500 then
    (secretPattern.all line.text).filter fun found => (verdictOf? found).isSome
  else []

/-- The finding tells of a secret of this name on the line. -/
structure TellsSecret (finding : Finding) (line : Line) (name : String) : Prop where
  rule : finding.rule = "HARDCODED_SECRET"
  line : finding.line = line.number
  snippet : finding.snippet = name ++ " = \"***\""

/-- The first assignment on the line is that of a secret of this name. -/
def LeadsWith (line : Line) (name : String) : Prop :=
  ∃ first ∈ secretsOn line, (secretPattern.all line.text).head? = some first ∧
    first.capture 1 = name

theorem eq_of_number_eq {other : Line} (hline : line ∈ script.numbered)
    (hother : other ∈ script.numbered) (h : other.number = line.number) : other = line := by
  obtain ⟨index, hindex, rfl⟩ := List.mem_mapIdx.mp hline
  obtain ⟨position, hposition, rfl⟩ := List.mem_mapIdx.mp hother
  obtain rfl : position = index := Nat.succ.inj h
  rfl

/-- What is reported of a line is the secret that it assigns first. -/
theorem exists_leading (h : secretOn? script line = some finding) :
    ∃ name, LeadsWith line name ∧ TellsSecret finding line name := by
  unfold secretOn? at h
  obtain ⟨_, hshort, h⟩ := Option.bind_eq_some_iff.mp h
  obtain ⟨first, hfirst, h⟩ := Option.bind_eq_some_iff.mp h
  obtain ⟨secret, hsecret, h⟩ := Option.bind_eq_some_iff.mp h
  have hshort : Text.length line.text ≤ 500 := by
    by_cases hlong : Text.length line.text ≤ 500
    · exact hlong
    · have hnone : (none : Option Unit) = some _ := (if_neg hlong).symm.trans hshort
      cases hnone
  cases h
  rw [← Pattern.head?_all] at hfirst
  refine ⟨_, ⟨first, ?_, hfirst, rfl⟩, rfl, rfl, rfl⟩
  rw [secretsOn, if_pos hshort, List.mem_filter, verdictOf?, hsecret]
  exact ⟨List.mem_of_mem_head? hfirst, rfl⟩

theorem exists_finding (script : Script) (h : LeadsWith line name) :
    ∃ finding, secretOn? script line = some finding ∧ TellsSecret finding line name := by
  obtain ⟨first, hmem, hfirst, rfl⟩ := h
  unfold secretsOn at hmem
  split at hmem
  · next hshort =>
    obtain ⟨secret, hsecret⟩ := Option.isSome_iff_exists.mp (List.mem_filter.mp hmem).2
    rw [Pattern.head?_all] at hfirst
    unfold secretOn?
    have hguard : (guard (Text.length line.text ≤ 500) : Option Unit) = some () := if_pos hshort
    rw [hguard, hfirst]
    rw [verdictOf?] at hsecret
    simp only [pure, Option.bind_eq_bind, Option.bind_some, hsecret]
    exact ⟨_, rfl, rfl, rfl, rfl⟩
  · cases hmem

theorem reported_iff (hline : line ∈ script.numbered) :
    (∃ finding ∈ findSecrets script, TellsSecret finding line name) ↔ LeadsWith line name := by
  constructor
  · rintro ⟨finding, hmem, htells⟩
    obtain ⟨other, hother, hfinding⟩ := List.mem_filterMap.mp hmem
    obtain ⟨own, hleads, hown⟩ := exists_leading hfinding
    -- a finding tells the number of its line and the name, so both are those of the leading secret
    obtain rfl := eq_of_number_eq hline hother (Int.ofNat.inj (hown.line.symm.trans htells.line))
    obtain rfl : own = name :=
      (String.append_left_inj _).mp (hown.snippet.symm.trans htells.snippet)
    exact hleads
  · intro hleads
    obtain ⟨finding, hfinding, htells⟩ := exists_finding script hleads
    exact ⟨finding, List.mem_filterMap.mpr ⟨line, hline, hfinding⟩, htells⟩

/-- **All secrets of a script are reported exactly when each has the name of one that leads its
line.** What is reported on a line is the secret that leads it, and nothing else. -/
theorem all_secrets_reported_iff_leading (script : Script) :
    (∀ line ∈ script.numbered, ∀ name,
        (∃ finding ∈ findSecrets script, TellsSecret finding line name) ↔ LeadsWith line name) ∧
      ((∀ line ∈ script.numbered, ∀ found ∈ secretsOn line,
          ∃ finding ∈ findSecrets script, TellsSecret finding line (found.capture 1)) ↔
        ∀ line ∈ script.numbered, ∀ found ∈ secretsOn line, LeadsWith line (found.capture 1)) := by
  refine ⟨fun line hline name => reported_iff hline, ?_⟩
  refine forall_congr' fun line => forall_congr' fun hline => ?_
  exact forall_congr' fun found => forall_congr' fun _ => reported_iff hline

/-- A secret behind another assignment. -/
def lateSecret : Script := Script.ofCode "a.js" "let a='',pwd='123456789'"

theorem lateSecret_missed : ¬ ∀ line ∈ lateSecret.numbered, ∀ found ∈ secretsOn line,
    ∃ finding ∈ findSecrets lateSecret, TellsSecret finding line (found.capture 1) := by
  have hsecrets : (lateSecret.numbered.flatMap secretsOn).isEmpty = false := by decide +kernel
  have hnone : (findSecrets lateSecret).isEmpty = true := by decide +kernel
  intro hall
  obtain ⟨found, hfound⟩ := List.exists_mem_of_ne_nil _ (List.isEmpty_eq_false_iff.mp hsecrets)
  obtain ⟨line, hline, hmem⟩ := List.mem_flatMap.mp hfound
  obtain ⟨finding, hfinding, _⟩ := hall line hline found hmem
  rw [List.isEmpty_iff.mp hnone] at hfinding
  cases hfinding

end ScriptFlow

end PrivacyScan
