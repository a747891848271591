import PrivacyScan.Project.Definition
import PrivacyScan.Proofs.Outcome
import PrivacyScan.Proofs.Pattern.Taking
import PrivacyScan.Proofs.Text

/-!
# The lines of scripts that import names

What is read from a line that imports names in braces, and which lines cannot be read at all.
-/

namespace PrivacyScan

open Outcome

namespace Import

open Pattern

variable {code line names source : String}

/-! ## The pattern for imports -/

def blanks : Regex := .span { items := [.ofClass (.space false) false] } 1 none .greedy

def oneWord : Regex := .span { items := [.ofClass (.word false) false] } 1 none .greedy

/-- What may stand in braces: names, blanks and commas. -/
def nameSet : CharSet :=
  { items := [.ofClass (.space false) false, .ofClass (.word false) false, .range 44 44] }

def quoteSet : CharSet := { items := [.range 39 39, .range 34 34] }

def pathSet : CharSet := { quoteSet with negated := true }

def inBraces : Regex := sequenceOf [literal '\x7b', .span nameSet 1 none .greedy, literal '\x7d']

/-- The path of a module in quotes, after the word that announces it. -/
def fromPath : List Regex :=
  ['f', 'r', 'o', 'm'].map literal ++
    [blanks, .one quoteSet, .capture 4 (.span pathSet 1 none .greedy), .one quoteSet]

/-- Names in braces, or all names under one, or one name, and the module that they come from. -/
def importRegex : Regex :=
  sequenceOf (['i', 'm', 'p', 'o', 'r', 't'].map literal ++
    blanks ::
    .choice (.capture 1 inBraces)
      (.choice
        (.capture 2 (sequenceOf [literal '*', blanks, literal 'a', literal 's', blanks, oneWord]))
        (.capture 3 oneWord)) ::
    blanks :: fromPath)

theorem importPattern_body : importPattern.body = importRegex := by decide +kernel

theorem importPattern_captureCount : importPattern.captureCount = 4 := by decide +kernel

theorem contains_nameSet {c : Char}
    (h : Text.isSpace c = true ∨ Text.isWord c = true ∨ c = ',') : nameSet.contains c = true := by
  have hholds : nameSet.contains c =
      (Text.isSpace c || (Text.isWord c || (decide (44 ≤ c.toNat) && decide (c.toNat ≤ 44)))) := by
    simp [nameSet, CharSet.contains, CharSet.holds, SetItem.contains, CharClass.contains]
  rw [hholds]
  rcases h with h | h | rfl
  · simp [h]
  · simp [h]
  · decide

theorem contains_quoteSet_iff {c : Char} :
    quoteSet.contains c = true ↔ c = '\'' ∨ c = '"' := by
  have hholds : quoteSet.contains c =
      ((decide (39 ≤ c.toNat) && decide (c.toNat ≤ 39)) ||
        (decide (34 ≤ c.toNat) && decide (c.toNat ≤ 34))) := by
    simp [quoteSet, CharSet.contains, CharSet.holds, SetItem.contains]
  have hsingle : '\''.toNat = 39 := rfl
  have hdouble : '"'.toNat = 34 := rfl
  rw [hholds, ← Char.toNat_inj, ← Char.toNat_inj, hsingle, hdouble]
  simp only [Bool.or_eq_true, Bool.and_eq_true, decide_eq_true_eq]
  omega

theorem contains_pathSet (c : Char) : pathSet.contains c = !quoteSet.contains c := by
  simp [pathSet, quoteSet, CharSet.contains, CharSet.holds]

/-! ## Names in braces -/

/-- A name in a script: letters, digits and underscores, none of which is a blank. -/
structure IsName (text : String) : Prop where
  full : text ≠ ""
  plain : ∀ c ∈ text.toList, Text.isWord c = true ∧ Text.isSpace c = false

instance (text : String) : Decidable (IsName text) :=
  have := List.decidableBAll (fun c => Text.isWord c = true ∧ Text.isSpace c = false) text.toList
  decidable_of_iff
    (text ≠ "" ∧ ∀ c ∈ text.toList, Text.isWord c = true ∧ Text.isSpace c = false)
    ⟨fun ⟨full, plain⟩ => ⟨full, plain⟩, fun ⟨full, plain⟩ => ⟨full, plain⟩⟩

/-- A line of a script that imports names in braces from a module. -/
structure IsBraced (line names source : String) : Prop where
  written : ∃ quote tail, (quote = "'" ∨ quote = "\"") ∧
    line = "import \x7b" ++ names ++ "\x7d from " ++ quote ++ source ++ quote ++ tail
  listed : ∀ c ∈ names.toList, Text.isSpace c = true ∨ Text.isWord c = true ∨ c = ','
  full : source ≠ ""
  plain : ∀ c ∈ source.toList, c ≠ '\'' ∧ c ≠ '"'

def braced (names : List Char) : List Char := ['\x7b'] ++ (names ++ ['\x7d'])

theorem takes_blank {before after : List Char} {old : Array (Option (Nat × Nat))}
    (hstop : ∀ c ∈ after.head?, Text.isSpace c = false) :
    Takes blanks before [' '] after old old := by
  refine takes_span (fun c hc => ?_) (fun c hc => ?_) (Nat.le_refl 1)
  · rw [List.mem_singleton.mp hc]
    decide
  · simp [CharSet.contains, CharSet.holds, SetItem.contains, CharClass.contains, hstop c hc]

theorem takes_inBraces {before names after : List Char} {old : Array (Option (Nat × Nat))}
    (hnames : ∀ c ∈ names, nameSet.contains c = true) (hfull : names ≠ []) :
    Takes inBraces before (braced names) after old old := by
  refine takes_sequenceOf_cons (takes_literal _) ?_
  refine takes_sequenceOf_cons (takes_span hnames ?_ (List.length_pos_iff.mpr hfull)) ?_
  · intro c hc
    obtain rfl : '\x7d' = c := by simpa using hc
    decide
  · exact takes_sequenceOf_single (takes_literal _)

/-- The end of an import, with the path as what the fourth group captures. -/
theorem takes_fromPath {before path after : List Char} {old : Array (Option (Nat × Nat))}
    {quote : Char} (hquote : quoteSet.contains quote = true)
    (hpath : ∀ c ∈ path, quoteSet.contains c = false) (hfull : path ≠ []) :
    Takes (sequenceOf fromPath) before
      (['f', 'r', 'o', 'm'] ++ ([' '] ++ ([quote] ++ (path ++ [quote])))) after old
      (old.setIfInBounds 4 (some ((before ++ ['f', 'r', 'o', 'm'] ++ [' '] ++ [quote]).length,
        (before ++ ['f', 'r', 'o', 'm'] ++ [' '] ++ [quote] ++ path).length))) := by
  refine takes_literals (takes_sequenceOf_cons (takes_blank ?_) ?_)
  · intro c hc
    obtain rfl : quote = c := by simpa using hc
    rcases contains_quoteSet_iff.mp hquote with rfl | rfl <;> decide
  · refine takes_sequenceOf_cons (takes_one hquote) ?_
    refine takes_sequenceOf_cons (takes_capture (takes_span ?_ ?_ ?_) 4) ?_
    · intro c hc
      rw [contains_pathSet, hpath c hc]
      rfl
    · -- the path ends at the second quote
      intro c hc
      obtain rfl : quote = c := by simpa using hc
      rw [contains_pathSet, hquote]
      rfl
    · exact List.length_pos_iff.mpr hfull
    · exact takes_sequenceOf_single (takes_one hquote)

/-- A line up to the names in braces. -/
def opening : List Char := ['i', 'm', 'p', 'o', 'r', 't', ' ']

/-- A line up to the path of the module. -/
def opened (names : List Char) (quote : Char) : List Char :=
  opening ++ braced names ++ [' ', 'f', 'r', 'o', 'm', ' ', quote]

/-- The captures after such a line: where the braces stand, and where the path does. -/
def keeping (old : Array (Option (Nat × Nat))) (names path : List Char) (quote : Char) :
    Array (Option (Nat × Nat)) :=
  (old.setIfInBounds 1 (some (opening.length, (opening ++ braced names).length))).setIfInBounds 4
    (some ((opened names quote).length, (opened names quote ++ path).length))

/-- The pattern takes a whole import of braced names. -/
theorem takes_importRegex {names path after : List Char} {old : Array (Option (Nat × Nat))}
    {quote : Char} (hnames : ∀ c ∈ names, nameSet.contains c = true) (hnamed : names ≠ [])
    (hquote : quoteSet.contains quote = true)
    (hpath : ∀ c ∈ path, quoteSet.contains c = false) (hfull : path ≠ []) :
    Takes importRegex [] (opened names quote ++ path ++ [quote]) after old
      (keeping old names path quote) := by
  have hlast (captures : Array (Option (Nat × Nat))) :=
    @takes_fromPath (opening ++ braced names ++ [' ']) path after captures quote hquote hpath hfull
  have hbefore : opening ++ braced names ++ [' '] ++ ['f', 'r', 'o', 'm'] ++ [' '] ++ [quote] =
      opened names quote := by simp [opened]
  have hchars : opened names quote ++ path ++ [quote] = ['i', 'm', 'p', 'o', 'r', 't'] ++ ([' '] ++
      (braced names ++ ([' '] ++ (['f', 'r', 'o', 'm'] ++ ([' '] ++ ([quote] ++
        (path ++ [quote]))))))) := by simp [opened, opening]
  rw [hbefore] at hlast
  rw [hchars]
  refine takes_literals (takes_sequenceOf_cons (takes_blank ?_) ?_)
  · intro c hc
    obtain rfl : '\x7b' = c := by simpa [braced] using hc
    decide
  · refine takes_sequenceOf_cons
      (takes_choice (takes_capture (takes_inBraces hnames hnamed) 1) _) ?_
    refine takes_sequenceOf_cons (takes_blank ?_) (hlast _)
    intro c hc
    obtain rfl : 'f' = c := by simpa using hc
    decide

/-- A line that imports braced names is matched at its start, names and path captured. -/
theorem search?_importPattern (h : IsBraced line names source) (hnamed : names ≠ "") :
    ∃ found, importPattern.search? line = some found ∧
      found.capture? 1 = some ("\x7b" ++ names ++ "\x7d") ∧ found.capture 4 = source := by
  obtain ⟨⟨quote, tail, hquote, hline⟩, hlisted, hfull, hplain⟩ := h
  obtain ⟨mark, hmark, hset⟩ : ∃ mark, quote.toList = [mark] ∧ quoteSet.contains mark = true := by
    rcases hquote with rfl | rfl
    · exact ⟨'\'', rfl, by decide⟩
    · exact ⟨'"', rfl, by decide⟩
  have hpath : ∀ c ∈ source.toList, quoteSet.contains c = false := by
    intro c hc
    rw [← Bool.not_eq_true, contains_quoteSet_iff]
    exact not_or.mpr (hplain c hc)
  have htext : line.toList =
      opened names.toList mark ++ source.toList ++ [mark] ++ tail.toList := by
    simp [hline, hmark, opened, opening, braced]
  have htakes : Takes importPattern.body [] (opened names.toList mark ++ source.toList ++ [mark])
      tail.toList (Array.replicate (importPattern.captureCount + 1) none)
      (keeping (Array.replicate 5 none) names.toList source.toList mark) := by
    rw [importPattern_body, importPattern_captureCount]
    exact takes_importRegex (fun c hc => contains_nameSet (hlisted c hc))
      (by simpa using hnamed) hset
      hpath (by simpa using hfull)
  -- the match begins with the line, so the captures are read off two splits of its text
  refine ⟨_, search?_of_takes htext htakes, ?_, ?_⟩
  · have hsplit : opened names.toList mark ++ source.toList ++ [mark] ++ tail.toList =
        opening ++ braced names.toList ++
          ([' ', 'f', 'r', 'o', 'm', ' ', mark] ++ source.toList ++ [mark] ++ tail.toList) := by
      simp [opened]
    rw [capture?_eq (by decide) (by simp [keeping]) (congrArg List.toArray hsplit)]
    simp [braced, ← String.toList_inj]
  · have hsplit : opened names.toList mark ++ source.toList ++ [mark] ++ tail.toList =
        opened names.toList mark ++ source.toList ++ ([mark] ++ tail.toList) := by simp
    unfold Match.capture
    rw [capture?_eq (by decide) (by simp [keeping]) (congrArg List.toArray hsplit)]
    simp

theorem bracedNames_eq
    (hlisted : ∀ c ∈ names.toList, Text.isSpace c = true ∨ Text.isWord c = true ∨ c = ',')
    (hnamed : names ≠ "") :
    bracedNames ("\x7b" ++ names ++ "\x7d") = (Text.split names ",").map Text.trim := by
  have htext : ("\x7b" ++ names ++ "\x7d").toList =
      ['\x7b'] ++ (names.toList ++ ['\x7d']) := by simp
  have hmiddle : ∀ c ∈ names.toList, (c == '\x7b' || c == '\x7d') = false := by
    intro c hc
    -- no brace is a blank, a letter or a comma
    have hne : c ≠ '\x7b' ∧ c ≠ '\x7d' := by
      constructor <;> rintro rfl <;> exact absurd (hlisted _ hc) (by decide)
    simp [hne]
  unfold bracedNames
  rw [Text.trimBy_eq htext (by simp) (by simp) hmiddle (by simpa using hnamed),
    String.ofList_toList]

theorem not_space_mem_of_isName {name : String} (h : IsName name) : ' ' ∉ name.toList := by
  intro hc
  have hspace : Text.isSpace ' ' = true := by decide
  rw [(h.plain _ hc).2] at hspace
  cases hspace

theorem trim_eq_self_of_isName {name : String} (h : IsName name) : Text.trim name = name := by
  have htext : name.toList = [] ++ (name.toList ++ []) := by simp
  unfold Text.trim
  rw [Text.trimBy_eq htext nofun nofun (fun c hc => (h.plain c hc).2) (by simpa using h.full),
    String.ofList_toList]

theorem boundName_eq {original binding : String} (horiginal : IsName original)
    (hbinding : IsName binding) : boundName (original ++ " as " ++ binding) = .ok binding := by
  have hmark : " as ".toList = ' ' :: ['a', 's', ' '] := rfl
  have hcontains : Text.contains (original ++ " as " ++ binding) " as " = true := by
    unfold Text.contains
    rw [Text.hasInfix_iff]
    exact ⟨original.toList, binding.toList, by simp⟩
  unfold boundName
  rw [if_pos hcontains]
  unfold renamed
  rw [Text.split_eq_pair hmark (not_space_mem_of_isName horiginal)
    (not_space_mem_of_isName hbinding)]
  dsimp only
  rw [trim_eq_self_of_isName hbinding]

/-! ## Which code can be read -/

theorem completes_renamed_iff {part : String} :
    Completes (renamed part) ↔ Text.contains part " as " = true := by
  have hmark : " as ".toList = ' ' :: ['a', 's', ' '] := rfl
  rw [← Text.two_le_length_split_iff hmark]
  unfold renamed
  rcases Text.split part " as " with _ | ⟨before, _ | ⟨name, rest⟩⟩
  · exact ⟨fun h => absurd h (not_completes_error _), fun h => absurd h (by decide)⟩
  · exact ⟨fun h => absurd h (not_completes_error _), fun h => absurd h (by simp)⟩
  · exact ⟨fun _ => by simp, fun _ => completes_ok _⟩

theorem completes_boundName (part : String) : Completes (boundName part) := by
  unfold boundName
  split
  · next hcontains => exact completes_renamed_iff.mpr hcontains
  · exact completes_ok part

/-- Where the line imports all names of a module under one, the word `as` has single blanks around
it. -/
def HasPlainAs (line : String) : Prop :=
  ∀ found, importPattern.search? line = some found → found.capture? 1 = none →
    ∀ whole, found.capture? 2 = some whole → Text.contains whole " as " = true

theorem hasPlainAs_of_isBraced (h : IsBraced line names source) (hnamed : names ≠ "") :
    HasPlainAs line := by
  obtain ⟨found, hfound, hbraced, _⟩ := search?_importPattern h hnamed
  intro other hother hnone
  rw [hfound] at hother
  rw [← Option.some.inj hother, hbraced] at hnone
  cases hnone

/-- A line is read exactly when the `as` of a whole module has single blanks around it. -/
theorem completes_ofScriptLine?_iff {number : Nat} :
    Completes (ofScriptLine? line number) ↔ HasPlainAs line := by
  unfold ofScriptLine? HasPlainAs
  cases hfound : importPattern.search? line with
  | none =>
    dsimp only
    split
    · exact ⟨fun _ => nofun, fun _ => completes_ok _⟩
    · exact ⟨fun _ => nofun, fun _ => completes_ok _⟩
  | some found =>
    simp only [Option.some.injEq, forall_eq']
    cases found.capture? 1 with
    | some braced =>
      -- names in braces can be bound whatever they are
      obtain ⟨names, hnames⟩ : Completes ((bracedNames braced).mapM boundName) :=
        completes_mapM fun part _ => completes_boundName part
      refine ⟨fun _ => nofun, fun _ => ?_⟩
      exact completes_bind_iff.mpr ⟨names, hnames, completes_ok _⟩
    | none =>
      cases found.capture? 2 with
      | some whole =>
        simp only [Option.some.injEq, forall_eq', forall_const]
        rw [← completes_renamed_iff]
        constructor
        · intro h
          obtain ⟨names, hnames, _⟩ := completes_bind_iff.mp h
          exact completes_map_iff.mp ⟨names, hnames⟩
        · intro h
          obtain ⟨names, hnames⟩ : Completes (List.singleton <$> renamed whole) :=
            completes_map_iff.mpr h
          exact completes_bind_iff.mpr ⟨names, hnames, completes_ok _⟩
      | none => exact ⟨fun _ _ => nofun, fun _ => completes_ok _⟩

/-- Each line of a script that can be read can be read itself, and its import is among all of
them. -/
theorem exists_result_of_mem_lines {imports : List Import} (h : ofScript code = .ok imports)
    (hline : line ∈ Text.lines code) :
    ∃ number result, ofScriptLine? line number = .ok result ∧
      ∀ imported ∈ result, imported ∈ imports := by
  obtain ⟨found, hfound, h⟩ := bind_eq_ok.mp h
  cases h
  rw [← List.zipIdx_map_fst 1 (Text.lines code)] at hline
  obtain ⟨⟨_, number⟩, hnumbered, rfl⟩ := List.mem_map.mp hline
  obtain ⟨result, hresult, hstep⟩ := exists_result_of_mapM hfound hnumbered
  exact ⟨number, result, hstep, fun imported himported =>
    List.mem_filterMap.mpr ⟨result, hresult, himported⟩⟩

/-- Python code is read as it is, a script where each line that imports all names under one can
be. -/
def IsReadable (code : String) : Language → Prop
  | .python => True
  | .script => ∀ line ∈ Text.lines code, HasPlainAs line

theorem completes_imports_iff {language : Language} :
    Completes (language.imports code) ↔ IsReadable code language := by
  cases language with
  | python => exact ⟨fun _ => trivial, fun _ => completes_ok _⟩
  | script =>
    constructor
    · rintro ⟨imports, himports⟩ line hline
      obtain ⟨number, result, hresult, _⟩ := exists_result_of_mem_lines himports hline
      exact completes_ofScriptLine?_iff.mp ⟨result, hresult⟩
    · intro h
      obtain ⟨found, hfound⟩ := completes_mapM fun numbered hnumbered =>
        completes_ofScriptLine?_iff.mpr (h _ (List.fst_mem_of_mem_zipIdx hnumbered))
      exact completes_bind_iff.mpr ⟨found, hfound, completes_ok _⟩

end Import

end PrivacyScan
