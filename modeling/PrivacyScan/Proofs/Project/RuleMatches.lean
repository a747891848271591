import PrivacyScan.Project.Scan
import PrivacyScan.Proofs.Project.Placement

/-!
# Where the rules of the user match

Each match of a rule has its place in the text: two positions and the number of a line. A finding
has this number, and shows the line with its neighbours.
-/

namespace PrivacyScan

/-! ## The text of a match -/

namespace Pattern

variable {pattern : Pattern} {text : Array Char} {mustAdvance : Bool} {start : Nat} {found : Match}

theorem source_of_matchFrom? (h : pattern.matchFrom? text mustAdvance start = some found) :
    found.source = text := by
  obtain ⟨cursor, _, rfl⟩ := Option.map_eq_some_iff.mp h
  rfl

theorem source_of_searchFrom? {count : Nat}
    (h : pattern.searchFrom? text mustAdvance start count = some found) : found.source = text := by
  induction count generalizing mustAdvance start with
  | zero => exact source_of_matchFrom? h
  | succ count ih =>
    rw [searchFrom?] at h
    split at h
    · next hmatch =>
      cases h
      exact source_of_matchFrom? hmatch
    · exact ih h

theorem source_of_mem_allFrom {fuel : Nat}
    (h : found ∈ pattern.allFrom text fuel mustAdvance start) : found.source = text := by
  induction fuel generalizing mustAdvance start with
  | zero => cases h
  | succ fuel ih =>
    rw [allFrom] at h
    split at h
    · cases h
    · split at h
      · next hfirst =>
        rcases List.mem_cons.mp h with rfl | hlater
        · exact source_of_searchFrom? hfirst
        · exact ih hlater
      · cases h

theorem text_of_mem_all {text : String} (h : found ∈ pattern.all text) :
    found.text = Text.slice text found.start found.stop := by
  have hsource : found.source = text.toList.toArray := source_of_mem_allFrom h
  unfold Match.text Match.spanText Text.slice
  rw [hsource, Array.toList_extract, List.extract_eq_take_drop, List.drop_take]

end Pattern

/-! ## The entries of a text -/

namespace Rule

open Outcome

/-- The files of a rule are named by globs, as a configuration should give them. -/
structure NamesFiles (rule : Rule) (included excluded : List String) : Prop where
  files : rule.filePatterns = .texts included
  exclusions : rule.excludePatterns = .texts excluded

def isFor (rule : Rule) (file : String) : Bool :=
  match rule.appliesTo file with
  | .ok applies => applies
  | .error _ => false

/-- The places where the pattern of a rule matches, from left to right. -/
def occurrences (rule : Rule) (text : String) : List Pattern.Match :=
  match rule.compiled with
  | some pattern => pattern.all text
  | none => []

/-- What is known of a match by its positions alone. -/
def entryAt (rule : Rule) (text : String) (place : Pattern.Match) : RuleMatch where
  rule := rule
  text := Text.slice text place.start place.stop
  line := 1 + (text.toList.take place.start).count '\n'
  start := place.start
  stop := place.stop

/-- One entry for each match, rule by rule, of the rules that are for the file. -/
def entries (rules : List Rule) (text file : String) : List RuleMatch :=
  rules.flatMap fun rule =>
    if rule.isFor file then (rule.occurrences text).map (rule.entryAt text) else []

variable {rule : Rule} {text file : String}

/-- What a list of globs says about a file, or what holds without one. -/
def fileTest (file : String) (patterns : Document) (otherwise : Bool) : Outcome Bool :=
  if patterns.isTruthy then patterns.elements.bind (matchesAnyGlob file) else pure otherwise

theorem fileTest_texts (file : String) (names : List String) (otherwise : Bool) :
    fileTest file (.texts names) otherwise =
      .ok (if names.isEmpty then otherwise else names.any (Glob.accepts · file)) := by
  cases names with
  | nil => rfl
  | cons name others => exact Project.matchesAnyGlob_texts file (name :: others)

theorem appliesTo_eq_fileTest (rule : Rule) (file : String) :
    rule.appliesTo file = (do
      let included ← fileTest file rule.filePatterns true
      let excluded ← fileTest file rule.excludePatterns false
      return included && !excluded) := by
  unfold appliesTo fileTest
  split <;> split <;> rfl

/-- A rule is for the files that it names, or for all if it names none, without those that it
excludes. -/
theorem appliesTo_eq {included excluded : List String} (h : rule.NamesFiles included excluded)
    (file : String) :
    rule.appliesTo file = .ok ((included.isEmpty || included.any (Glob.accepts · file)) &&
      !excluded.any (Glob.accepts · file)) := by
  rw [appliesTo_eq_fileTest, h.files, h.exclusions, fileTest_texts, fileTest_texts]
  cases included <;> cases excluded <;> rfl

theorem matchesIn_eq (rule : Rule) (text : String) :
    rule.matchesIn text = (rule.occurrences text).map (rule.entryAt text) := by
  unfold matchesIn occurrences
  cases rule.compiled with
  | none => rfl
  | some pattern =>
    refine List.map_congr_left fun found hfound => ?_
    have hline : Text.countChar '\n' (Text.take found.start text) + 1 =
        1 + (text.toList.take found.start).count '\n' := by
      rw [Text.countChar, Text.take, String.toList_ofList, Nat.add_comm]
    rw [Pattern.text_of_mem_all hfound, hline]
    rfl

/-- A run over the rules of the user gives the entries of the text. -/
theorem scan_eq_ok {rules : List Rule} (hfile : file ≠ "") {found : List RuleMatch}
    (h : scan rules text file = .ok found) : found = entries rules text file := by
  unfold scan at h
  obtain ⟨results, hresults, hflat⟩ := bind_eq_ok.mp h
  cases hflat
  have hrules : results.map (fun result => result) = rules.map fun rule =>
      if rule.isFor file then (rule.occurrences text).map (rule.entryAt text) else [] := by
    refine map_of_mapM (fun rule _ result hresult => ?_) hresults
    rw [if_neg (by simpa using hfile)] at hresult
    obtain ⟨applies, happlies, hresult⟩ := bind_eq_ok.mp hresult
    cases hresult
    rw [isFor, happlies, matchesIn_eq]
  rw [← List.map_id' results, hrules]
  rfl

/-- Rules that name their files by globs can tell which files they are for. -/
theorem completes_scan {rules : List Rule}
    (h : ∀ rule ∈ rules, ∃ included excluded, rule.NamesFiles included excluded)
    (text file : String) : Completes (scan rules text file) := by
  unfold scan
  refine (completes_bind_iff_left fun _ => completes_ok _).mpr ?_
  refine completes_mapM fun rule hrule => ?_
  obtain ⟨included, excluded, hnames⟩ := h rule hrule
  split
  · exact completes_ok _
  · rw [appliesTo_eq hnames, ok_bind]
    exact completes_ok _

end Rule

/-! ## The lines that a finding shows -/

namespace Project

/-- Some lines of a text, behind those `above`, that have a line with at most one more on either
side. -/
structure IsAround (line : Nat) (above shown : List String) : Prop where
  below_above : above.length < line
  within : line ≤ above.length + shown.length
  before : line ≤ above.length + 2
  behind : above.length + shown.length ≤ line + 1

/-- A snippet consists of consecutive whole lines of a text around one of them. -/
def ShowsLine (text : String) (line : Nat) (snippet : String) : Prop :=
  ∃ above shown below, Text.split text "\n" = above ++ shown ++ below ∧
    snippet = Text.join "\n" shown ∧ IsAround line above shown

theorem shows_matchSnippet {text : String} {line : Nat} (hfirst : 1 ≤ line)
    (hlast : line ≤ (Text.split text "\n").length) :
    ShowsLine text line (matchSnippet text line) := by
  generalize hlines : Text.split text "\n" = lines at hlast
  unfold ShowsLine matchSnippet
  rw [hlines]
  refine ⟨lines.take (line - 2), (lines.drop (line - 2)).take (line + 1 - (line - 2)),
    (lines.drop (line - 2)).drop (line + 1 - (line - 2)), ?_, rfl, ?_⟩
  · rw [List.append_assoc, List.take_append_drop, List.take_append_drop]
  · constructor <;> simp only [List.length_take, List.length_drop] <;> omega

theorem line_of_mem_entries {rules : List Rule} {text file : String} {entry : RuleMatch}
    (h : entry ∈ Rule.entries rules text file) :
    1 ≤ entry.line ∧ entry.line ≤ (Text.split text "\n").length := by
  obtain ⟨rule, _, hentry⟩ := List.mem_flatMap.mp h
  obtain ⟨place, _, rfl⟩ := List.mem_map.mp (List.mem_ite_nil_right.mp hentry).2
  have hcount : (text.toList.take place.start).count '\n' ≤ text.toList.count '\n' :=
    (List.take_sublist place.start text.toList).count_le '\n'
  rw [Text.length_split (show "\n".toList = ['\n'] from rfl)]
  unfold Rule.entryAt
  dsimp only
  omega

/-- **The findings of the user's rules stand for the matches of these rules and show where they
are.** Rules that name their files by globs always give their entries. These are one for each match
of each rule that is for the file, rule by rule, with the text between the positions of the match
and the number of the line on which it begins. The findings of the file are one for each entry, in
the same order; each has the line of its entry, which is a line of the text, and shows it with at
most one more on either side. -/
theorem rule_matches_located (rules : List Rule) (text file : String) (hfile : file ≠ "") :
    ((∀ rule ∈ rules, ∃ included excluded, rule.NamesFiles included excluded) →
      ∃ found, Rule.scan rules text file = .ok found) ∧
    ∀ found, Rule.scan rules text file = .ok found →
      found = Rule.entries rules text file ∧
      (∀ (config : Config) (workspace : Workspace) (path inside : Path) (before after : List Path),
        config.rules = some rules → workspace.read? path = some text →
        path.relativeTo? config.root = some inside → inside.text = file →
        ruleFindings config workspace (before ++ path :: after) =
          ruleFindings config workspace before ++ found.map (ruleFinding file text) ++
            ruleFindings config workspace after) ∧
      ∀ entry ∈ found, (ruleFinding file text entry).line = entry.line ∧
        1 ≤ entry.line ∧ entry.line ≤ (Text.split text "\n").length ∧
        ShowsLine text entry.line (ruleFinding file text entry).snippet := by
  refine ⟨fun hnames => Rule.completes_scan hnames text file, fun found hfound => ?_⟩
  have hentries : found = Rule.entries rules text file := Rule.scan_eq_ok hfile hfound
  refine ⟨hentries, ?_, fun entry hentry => ?_⟩
  · intro config workspace path inside before after hrules hread hinside hname
    subst hname
    unfold ruleFindings
    rw [List.flatMap_append, List.flatMap_cons, hread, hinside, hrules, List.append_assoc]
    dsimp only [Option.getD]
    rw [hfound]
  · rw [hentries] at hentry
    obtain ⟨hfirst, hlast⟩ := line_of_mem_entries hentry
    exact ⟨rfl, hfirst, hlast, shows_matchSnippet hfirst hlast⟩

/-! A file with a ticket number on its last line, and a rule that looks for such numbers. -/

def numberRule : Rule :=
  Rule.compile { id := .text "NUMBER", pattern := "acme-\\d+", filePatterns := .texts ["*.txt"] }

def numberText : String := "open:\n\nACME-12"

def numberWorkspace : Workspace :=
  { root := { anchor := "/", parts := ["project"] }
    tree := .directory [("notes.txt", .file numberText)] }

/-- The number is found with its two positions and its line. -/
theorem number_located :
    ∃ found, Rule.scan [numberRule] numberText "notes.txt" = .ok found ∧
      found.map (fun entry => (entry.text, entry.line, entry.start, entry.stop)) =
        [("ACME-12", 3, 7, 14)] ∧
      ruleFindings { root := numberWorkspace.root, rules := some [numberRule] } numberWorkspace
          [{ anchor := "/", parts := ["project", "notes.txt"] }] =
        found.map (ruleFinding "notes.txt" numberText) ∧
      ∀ entry ∈ found, ShowsLine numberText entry.line (matchSnippet numberText entry.line) := by
  obtain ⟨hcompletes, hlocated⟩ :=
    rule_matches_located [numberRule] numberText "notes.txt" (by decide)
  obtain ⟨found, hfound⟩ := hcompletes fun rule hrule =>
    ⟨["*.txt"], [], by obtain rfl := List.mem_singleton.mp hrule; exact ⟨rfl, rfl⟩⟩
  obtain ⟨hentries, hfindings, hlines⟩ := hlocated found hfound
  refine ⟨found, hfound, ?_, ?_, fun entry hentry => (hlines entry hentry).2.2.2⟩
  · rw [hentries]
    decide +kernel
  · have hall := hfindings { root := numberWorkspace.root, rules := some [numberRule] }
      numberWorkspace { anchor := "/", parts := ["project", "notes.txt"] }
      { parts := ["notes.txt"] } [] [] rfl (by decide) (by decide) (by decide)
    rw [List.nil_append] at hall
    rw [hall]
    exact List.append_nil _

end Project

end PrivacyScan
