import PrivacyScan.Config
import PrivacyScan.Proofs.Outcome

/-!
# Which configurations can be loaded

A file that cannot be read counts as empty, and so do rules that are no list. The values in it are
not looked at before they are used, so a value of another kind than expected is either taken over as
it is or ends the loading:

* **`completes_ofRecord?_iff`** — an entry of the rules can be read when its severity and pattern
  are texts and reading the pattern ends in no fault; nothing is asked of an entry that gives no
  rule;
* **`completes_ofDocument_iff`** — so loading completes when the settings are a table, the policy is
  one too, and all entries can be read.
-/

namespace PrivacyScan

open Outcome

theorem Document.completes_asText_iff {document : Document} {member : String} :
    Completes (document.asText member) ↔ document.text?.isSome = true := by
  cases document <;> simp [asText, text?, Completes]

/-! ## Rules -/

namespace Rule

/-- Patterns of rules are read without regard to case. -/
def flags : Pattern.Flags := { ignoreCase := true }

/-- Whether an entry can be read; one without an id or a pattern is passed over. -/
def isReadable (entry : Document) : Bool :=
  !(entry.fieldOrNull "id").isTruthy || !(entry.fieldOrNull "pattern").isTruthy ||
    (((entry.field? "severity").getD (.text "medium")).text?.isSome &&
      (entry.fieldOrNull "pattern").text?.any fun text => (Pattern.fault? text flags).isNone)

/-- The entries of the list of rules; rules that are no list have none. -/
def entriesOf (settings : Document) : List Document :=
  match settings.field? "rules" with
  | some (.list entries) => entries
  | _ => []

variable {entry : Document} {found : Option Rule}

theorem completes_patternText_iff {document : Document} :
    Completes (patternText document) ↔
      document.text?.any (fun text => (Pattern.fault? text flags).isNone) = true := by
  cases document with
  | text pattern =>
    simp only [patternText, Document.text?, Option.any_some, flags]
    cases Pattern.fault? pattern { ignoreCase := true } <;> simp [Completes]
  | _ => simp [patternText, Document.text?, Completes]

theorem eq_text_of_patternText {document : Document} {text : String}
    (h : patternText document = .ok text) : document = .text text := by
  unfold patternText at h
  split at h
  · split at h
    · cases h
    · rw [Except.ok.inj h]
  all_goals cases h

theorem completes_ofRecord?_iff : Completes (ofRecord? entry) ↔ isReadable entry = true := by
  unfold ofRecord? isReadable
  dsimp only
  cases !(entry.fieldOrNull "id").isTruthy || !(entry.fieldOrNull "pattern").isTruthy with
  | true => exact iff_of_true (completes_ok none) rfl
  | false =>
    -- the severity is put in lower case before the pattern is read
    rw [if_neg Bool.false_ne_true, Bool.false_or, Bool.and_eq_true,
      ← @Document.completes_asText_iff _ "lower", ← completes_patternText_iff]
    exact completes_both_iff

/-- An entry is passed over, or it describes a rule, which is kept when its pattern can be read. -/
theorem ofRecord?_cases (h : ofRecord? entry = .ok found) :
    (found = none ∧
        ((entry.fieldOrNull "id").isTruthy = false ∨
          (entry.fieldOrNull "pattern").isTruthy = false)) ∨
      ∃ rule : Rule, rule.id = entry.fieldOrNull "id" ∧
        entry.fieldOrNull "pattern" = .text rule.pattern ∧
        rule.compiled = Pattern.parse? rule.pattern flags ∧
        found = if rule.compiled.isSome then some rule else none := by
  unfold ofRecord? at h
  dsimp only at h
  split at h
  · next hskipped =>
    rw [Bool.or_eq_true, Bool.not_eq_true', Bool.not_eq_true'] at hskipped
    exact .inl ⟨(Except.ok.inj h).symm, hskipped⟩
  · obtain ⟨severity, _, h⟩ := bind_eq_ok.mp h
    obtain ⟨text, htext, h⟩ := bind_eq_ok.mp h
    exact .inr ⟨_, rfl, eq_text_of_patternText htext, rfl, (Except.ok.inj h).symm⟩

/-- The rules of a configuration are those of its entries. -/
theorem ofConfiguration_object (fields : List (String × Document)) :
    ofConfiguration (.object fields) =
      (fun found => found.filterMap fun rule => rule) <$>
        (entriesOf (.object fields)).mapM ofRecord? := by
  have hget : (Document.object fields).get "rules" (.list []) =
      .ok (((Document.object fields).field? "rules").getD (.list [])) := rfl
  unfold ofConfiguration entriesOf
  rw [hget, ok_bind]
  cases (Document.object fields).field? "rules" with
  | none => rfl
  | some value =>
    cases value with
    | list entries =>
      refine Eq.trans (bind_pure_comp _ _) (congrArg _ (mapM_congr fun entry _ => ?_))
      cases entry <;> rfl
    | _ => rfl

end Rule

/-! ## Settings -/

namespace Config

/-- Whether a value is a table, where one has to be. -/
def isTable : Document → Bool
  | .object _ => true
  | _ => false

/-- Whether the settings have a table where one is relied on, and rules that can be read. -/
def wellTyped (settings : Document) : Bool :=
  isTable settings && (settings.field? "policy").all isTable &&
    (Rule.entriesOf settings).all Rule.isReadable

/-- The settings of a project: those in its own file, or the table for this tool. -/
def settingsOf (workspace : Workspace) (root : Path) : Document :=
  let own := (documentIn? workspace (root.child "privalyse.toml")).filter (·.isTruthy)
  (own.or (projectSettings? workspace root)).getD (.object [])

/-- What a configuration has from the settings. -/
structure IsFrom (settings : Document) (config : Config) : Prop where
  /-- Only a missing value is replaced, whatever kind the value has. -/
  values : config.maxWorkers = (settings.field? "max_workers").getD (.int 8) ∧
    config.verbose = (settings.field? "verbose").getD (.bool false) ∧
    config.debug = (settings.field? "debug").getD (.bool false) ∧
    policyOf ((settings.field? "policy").getD (.object [])) = .ok config.policy
  /-- Patterns that exclude files are replaced when they are empty, too. -/
  excluded : config.excludePatterns =
    ((settings.field? "exclude").filter (·.isTruthy)).getD (excludePatterns { root := config.root })
  /-- Every rule has the pattern that its text spells. -/
  compiled : ∀ rule ∈ config.rules.getD [],
    rule.compiled.isSome = true ∧ rule.compiled = Pattern.parse? rule.pattern Rule.flags
  /-- An entry with an id and a pattern gives a rule when its pattern can be read. -/
  kept : ∀ entry ∈ Rule.entriesOf settings, ∀ text, (entry.fieldOrNull "id").isTruthy = true →
    entry.fieldOrNull "pattern" = .text text → text ≠ "" →
    ((∃ rule ∈ config.rules.getD [], rule.id = entry.fieldOrNull "id" ∧ rule.pattern = text) ↔
      (Pattern.parse? text Rule.flags).isSome = true)

variable {settings : Document} {root : Path} {config : Config}

theorem completes_policyOf_iff {policy : Document} :
    Completes (policyOf policy) ↔ isTable policy = true := by
  cases policy with
  | object fields => exact iff_of_true (completes_ok _) rfl
  | _ => exact iff_of_false (not_completes_error _) Bool.false_ne_true

/-- Settings are read exactly when every one of them has the type that it needs. -/
theorem completes_ofDocument_iff :
    Completes (ofDocument root settings) ↔ wellTyped settings = true := by
  cases settings with
  | object fields =>
    have hpolicy : isTable (((Document.object fields).field? "policy").getD (.object [])) = true ↔
        ((Document.object fields).field? "policy").all isTable = true := by
      cases (Document.object fields).field? "policy" <;> simp [isTable]
    have hrules : Completes (Rule.ofConfiguration (.object fields)) ↔
        (Rule.entriesOf (.object fields)).all Rule.isReadable = true := by
      rw [Rule.ofConfiguration_object, completes_map_iff, List.all_eq_true]
      simp only [← Rule.completes_ofRecord?_iff]
      refine ⟨fun h entry hentry => ?_, completes_mapM⟩
      obtain ⟨found, hfound⟩ := h
      obtain ⟨result, _, hresult⟩ := exists_result_of_mapM hfound hentry
      exact ⟨result, hresult⟩
    have hboth : Completes (ofDocument root (.object fields)) ↔
        Completes (policyOf (((Document.object fields).field? "policy").getD (.object []))) ∧
          Completes (Rule.ofConfiguration (.object fields)) := completes_both_iff
    rw [hboth, hrules, completes_policyOf_iff, hpolicy, wellTyped, Bool.and_eq_true]
    rfl
  | _ => exact iff_of_false (not_completes_error _) Bool.false_ne_true

/-- Each setting comes from its own field, and from nowhere else. -/
theorem isFrom_of_ofDocument (h : ofDocument root settings = .ok config) :
    IsFrom settings config := by
  cases settings with
  | object fields =>
    obtain ⟨_, htable, h⟩ := bind_eq_ok.mp h
    cases htable
    obtain ⟨policy, hpolicy, h⟩ := bind_eq_ok.mp h
    obtain ⟨rules, hrules, h⟩ := bind_eq_ok.mp h
    cases h
    have hlisted : (if rules.isEmpty then none else some rules).getD [] = rules := by
      cases rules <;> rfl
    rw [Rule.ofConfiguration_object] at hrules
    obtain ⟨found, hfound, rfl⟩ := map_eq_ok.mp hrules
    have hcompiled : ∀ rule ∈ found.filterMap fun rule => rule,
        rule.compiled.isSome = true ∧ rule.compiled = Pattern.parse? rule.pattern Rule.flags := by
      intro rule hrule
      obtain ⟨_, hmem, rfl⟩ := List.mem_filterMap.mp hrule
      obtain ⟨entry, _, hentry⟩ := exists_of_mem_mapM hfound hmem
      obtain ⟨hnone, _⟩ | ⟨other, _, _, hother, hsome⟩ := Rule.ofRecord?_cases hentry
      · cases hnone
      · split at hsome
        · next hread =>
          cases hsome
          exact ⟨hread, hother⟩
        · cases hsome
    have hexcluded (value : Option Document) (standard : Document) :
        (if (value.getD (.list [])).isTruthy then value.getD (.list []) else standard) =
          (value.filter (·.isTruthy)).getD standard := by
      cases value with
      | none => rfl
      | some value => cases htruthy : value.isTruthy <;> simp [Option.filter, htruthy]
    refine ⟨⟨rfl, rfl, rfl, hpolicy⟩, hexcluded _ _, by rwa [hlisted],
      fun entry hentry text hid hpattern hne => ?_⟩
    rw [hlisted]
    -- a rule has the pattern of its entry, and no rule without one is kept
    constructor
    · rintro ⟨rule, hrule, _, rfl⟩
      obtain ⟨hread, hsame⟩ := hcompiled rule hrule
      rwa [← hsame]
    · intro hread
      obtain ⟨result, hmem, hresult⟩ := exists_result_of_mapM hfound hentry
      obtain ⟨_, hempty⟩ | ⟨rule, hid', htext, hsame, rfl⟩ := Rule.ofRecord?_cases hresult
      · rw [hpattern, hid] at hempty
        simp [Document.isTruthy, hne] at hempty
      · obtain rfl := Document.text.inj (hpattern.symm.trans htext)
        rw [hsame, if_pos hread] at hmem
        exact ⟨rule, List.mem_filterMap.mpr ⟨_, hmem, rfl⟩, hid', rfl⟩
  | _ => cases h

/-- **Loading completes exactly for settings with tables where they are relied on and rules that can
be read.** All other values are taken over whatever their kind, and no rule is kept without a
pattern to search for. -/
theorem load_completes_iff_wellTyped (workspace : Workspace) (root : Path) :
    (Completes (load workspace root) ↔ wellTyped (settingsOf workspace root) = true) ∧
      ∀ config, load workspace root = .ok config → IsFrom (settingsOf workspace root) config :=
  ⟨completes_ofDocument_iff, fun _ h => isFrom_of_ofDocument h⟩

def projectWith (settings : String) : Workspace where
  root := Path.ofText "/p"
  tree := .directory [("privalyse.toml", .file settings)]

/-- Odd values, an entry that is no table and a pattern that cannot be read do no harm. -/
def oddProject : Workspace :=
  projectWith "max_workers = 'many'\nrules = [3, \x7bid = 'A', pattern = '('\x7d]"

theorem oddProject_loaded : wellTyped (settingsOf oddProject oddProject.root) = true ∧
    ∃ config, load oddProject oddProject.root = .ok config ∧
      IsFrom (settingsOf oddProject oddProject.root) config := by
  have htyped : wellTyped (settingsOf oddProject oddProject.root) = true := by decide +kernel
  obtain ⟨hcompletes, hfrom⟩ := load_completes_iff_wellTyped oddProject oddProject.root
  obtain ⟨config, hconfig⟩ := hcompletes.mpr htyped
  exact ⟨htyped, config, hconfig, hfrom config hconfig⟩

/-- A number in place of the policy ends the loading. -/
theorem number_as_policy_not_loaded :
    ¬ Completes (load (projectWith "policy = 3") (Path.ofText "/p")) := by
  rw [show load (projectWith "policy = 3") (Path.ofText "/p") = ofDocument _ _ from rfl,
    completes_ofDocument_iff]
  decide +kernel

end Config

end PrivacyScan
