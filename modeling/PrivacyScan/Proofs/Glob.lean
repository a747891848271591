import PrivacyScan.Glob

/-!
# What patterns for file names accept
-/

namespace PrivacyScan.Glob

/-- A pattern in which every character stands for itself. -/
def IsPlain (pattern : String) : Prop := ∀ sign ∈ ['*', '?', '['], sign ∉ pattern.toList

-- The instance is named: a search may find the one that goes through all characters.
instance : DecidablePred IsPlain := fun pattern =>
  List.decidableBAll (· ∉ pattern.toList) ['*', '?', '[']

theorem isPlain_append_iff {first second : String} :
    IsPlain (first ++ second) ↔ IsPlain first ∧ IsPlain second := by
  unfold IsPlain
  simp only [String.toList_append, List.mem_append, not_or]
  exact ⟨fun h => ⟨fun sign hsign => (h sign hsign).1, fun sign hsign => (h sign hsign).2⟩,
    fun h sign hsign => ⟨h.1 sign hsign, h.2 sign hsign⟩⟩

/-! ## Pieces of a pattern -/

/-- Text without signs is a pattern of its own characters. -/
theorem pieces_of_plain {text : List Char} (hplain : ∀ sign ∈ ['*', '?', '['], sign ∉ text)
    (rest : List Char) : pieces 0 (text ++ rest) = text.map .char ++ pieces 0 rest := by
  induction text with
  | nil => rfl
  | cons c text ih =>
    have hc : c ≠ '*' ∧ c ≠ '?' ∧ c ≠ '[' := by
      refine ⟨?_, ?_, ?_⟩
      all_goals
        rintro rfl
        exact hplain _ (by decide) List.mem_cons_self
    have hrest := ih fun sign hsign hmem => hplain sign hsign (List.mem_cons_of_mem _ hmem)
    rw [List.cons_append, pieces, hrest]
    · rfl
    · exact hc.1
    · exact hc.2.1
    · exact hc.2.2

theorem pieces_toList {pattern : String} (hplain : IsPlain pattern) :
    pieces 0 pattern.toList = pattern.toList.map .char ++ [] := by
  simpa [pieces] using pieces_of_plain hplain []

theorem mem_suffixes_iff {name ending : List Char} : ending ∈ suffixes name ↔ ending <:+ name := by
  induction name with
  | nil => simp [suffixes]
  | cons c rest ih => rw [suffixes, List.mem_cons, ih, List.suffix_cons_iff]

/-! ## Matching the pieces -/

theorem matchesAll_run_iff {rest : List Piece} {name : List Char} :
    matchesAll (.run :: rest) name = true ↔
      ∃ ending, ending <:+ name ∧ matchesAll rest ending = true := by
  rw [matchesAll, List.any_eq_true]
  simp only [mem_suffixes_iff]

theorem matchesAll_chars_iff {text name : List Char} {rest : List Piece} :
    matchesAll (text.map .char ++ rest) name = true ↔
      ∃ after, name = text ++ after ∧ matchesAll rest after = true := by
  induction text generalizing name with
  | nil => simp
  | cons c text ih =>
    cases name with
    | nil => simp [matchesAll]
    | cons d name =>
      have hstep : matchesAll ((c :: text).map .char ++ rest) (d :: name) =
          (d == c && matchesAll (text.map .char ++ rest) name) := by
        simp [matchesAll, Piece.accepts]
      rw [hstep, Bool.and_eq_true, beq_iff_eq, ih]
      simp only [List.cons_append, List.cons.injEq, and_assoc, exists_and_left]

theorem accepts_iff_eq {pattern : String} (hplain : IsPlain pattern) (name : String) :
    accepts pattern name = true ↔ name = pattern := by
  unfold accepts
  rw [pieces_toList hplain, matchesAll_chars_iff]
  simp [matchesAll, String.toList_inj]

theorem accepts_run_iff {text : String} (hplain : IsPlain text) (name : String) :
    accepts ("*" ++ text) name = true ↔ text.toList <:+ name.toList := by
  have hpieces : pieces 0 ("*" ++ text).toList = .run :: (text.toList.map .char ++ []) := by
    rw [String.toList_append, ← pieces_toList hplain]
    rfl
  unfold accepts
  rw [hpieces, matchesAll_run_iff]
  simp only [matchesAll_chars_iff]
  simp [matchesAll]

/-- Between two stars, plain text accepts exactly the names that contain it. -/
theorem accepts_runs_iff {text : String} (hplain : IsPlain text) (name : String) :
    accepts ("*" ++ text ++ "*") name = true ↔ text.toList <:+: name.toList := by
  have hpieces : pieces 0 ("*" ++ text ++ "*").toList =
      .run :: (text.toList.map .char ++ [.run]) := by
    rw [String.toList_append, String.toList_append, List.append_assoc]
    show .run :: pieces 0 (text.toList ++ ['*']) = _
    rw [pieces_of_plain hplain]
    rfl
  unfold accepts
  rw [hpieces, matchesAll_run_iff]
  simp only [matchesAll_chars_iff]
  constructor
  · rintro ⟨_, ⟨before, hname⟩, after, rfl, _⟩
    rw [← hname, ← List.append_assoc]
    exact List.infix_append before text.toList after
  · rintro ⟨before, after, hname⟩
    refine ⟨text.toList ++ after, ⟨before, ?_⟩, after, rfl, ?_⟩
    · rw [← hname, List.append_assoc]
    · exact matchesAll_run_iff.mpr ⟨[], List.nil_suffix, rfl⟩

end PrivacyScan.Glob
