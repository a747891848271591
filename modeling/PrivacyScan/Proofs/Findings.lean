import PrivacyScan.Finding.Basic

/-!
# Reports that only grow

Every analysis keeps a list of findings and adds to its end. `Appends allowed before after` says
that `after` is `before` with findings added, each of which is `allowed`. It composes, so what a
whole analysis can report follows from what its parts can report.
-/

namespace PrivacyScan

def Finding.IsOf (rules : List String) (line : Int) (finding : Finding) : Prop :=
  finding.rule ∈ rules ∧ finding.line = line

theorem Finding.IsOf.mono {rules others : List String} {line : Int} {finding : Finding}
    (h : finding.IsOf rules line) (hsub : rules ⊆ others) : finding.IsOf others line :=
  ⟨hsub h.1, h.2⟩

def Finding.HasRule (rules : List String) (finding : Finding) : Prop := finding.rule ∈ rules

theorem Finding.IsOf.hasRule {rules others : List String} {line : Int} {finding : Finding}
    (h : finding.IsOf rules line) (hsub : rules ⊆ others) : finding.HasRule others :=
  hsub h.1

/-- The finding is in this file and has one of these rules. -/
structure Finding.IsIn (file : String) (rules : List String) (finding : Finding) : Prop where
  file : finding.file = file
  rule : finding.HasRule rules

def Appends (allowed : Finding → Prop) (before after : List Finding) : Prop :=
  ∃ added, after = before ++ added ∧ ∀ finding ∈ added, allowed finding

namespace Appends

variable {allowed permitted : Finding → Prop} {first second third : List Finding}

theorem refl (findings : List Finding) : Appends allowed findings findings :=
  ⟨[], by simp, by simp⟩

theorem single {finding : Finding} (h : allowed finding) :
    Appends allowed first (first ++ [finding]) :=
  ⟨[finding], rfl, by simpa using h⟩

theorem ofAll {findings : List Finding} (h : ∀ finding ∈ findings, allowed finding) :
    Appends allowed first (first ++ findings) :=
  ⟨findings, rfl, h⟩

theorem trans (h : Appends allowed first second) (h' : Appends allowed second third) :
    Appends allowed first third := by
  obtain ⟨added, rfl, hadded⟩ := h
  obtain ⟨more, rfl, hmore⟩ := h'
  refine ⟨added ++ more, by rw [List.append_assoc], ?_⟩
  intro finding hmem
  rcases List.mem_append.mp hmem with hmem | hmem
  · exact hadded finding hmem
  · exact hmore finding hmem

theorem mono (h : Appends allowed first second)
    (himp : ∀ finding, allowed finding → permitted finding) : Appends permitted first second := by
  obtain ⟨added, rfl, hadded⟩ := h
  exact ⟨added, rfl, fun finding hmem => himp finding (hadded finding hmem)⟩

/-- Whoever starts with allowed findings only, ends with such only. -/
theorem all (h : Appends allowed first second) (hfirst : ∀ finding ∈ first, allowed finding) :
    ∀ finding ∈ second, allowed finding := by
  obtain ⟨added, rfl, hadded⟩ := h
  intro finding hmem
  rcases List.mem_append.mp hmem with hmem | hmem
  · exact hfirst finding hmem
  · exact hadded finding hmem

end Appends

theorem foldl_relates {σ α : Type} {step : σ → α → σ} (relates : σ → σ → Prop)
    (hrefl : ∀ state, relates state state)
    (htrans : ∀ {first second third}, relates first second → relates second third →
      relates first third)
    {items : List α} (hstep : ∀ item ∈ items, ∀ state, relates state (step state item))
    (start : σ) : relates start (items.foldl step start) := by
  induction items generalizing start with
  | nil => exact hrefl start
  | cons first rest ih =>
    have hfirst : relates start (step start first) := hstep first (by simp) start
    have hrest := ih (fun item hitem => hstep item (by simp [hitem])) (step start first)
    exact htrans hfirst hrest

end PrivacyScan
