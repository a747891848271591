import Mathlib.Data.List.Forall2
import PrivacyScan.Proofs.Snippet
import PrivacyScan.Proofs.SourceFlow.Walk

/-!
# What the report of a secret tells

Every text that a module assigns to a variable is judged, and each secret gets one finding, in the
order of the walk. The finding masks the value in its snippet; whether it tells the value all the
same is a question about two runs, on modules that differ in an assigned text alone:

* **`analyze_secrets`** — the secrets of a report are those that the assignments of the module hold.
-/

namespace PrivacyScan

/-! ## Records and verdicts -/

/-- An empty list leaves the field out, so lists can be told apart by their fields. -/
theorem Finding.optionalField_texts_inj {name : String} {texts others : List String} :
    optionalField name (.texts texts) = optionalField name (.texts others) ↔ texts = others := by
  have hinj (first second : List String) (h : Document.texts first = .texts second) :
      first = second :=
    List.map_inj_right (fun _ _ htext => Document.text.inj htext) |>.mp (Document.list.inj h)
  have hempty : optionalField name (.texts []) = [] := rfl
  have hfull (first : String) (rest : List String) :
      optionalField name (.texts (first :: rest)) = [(name, .texts (first :: rest))] := rfl
  constructor
  · intro h
    cases texts with
    | nil =>
      cases others with
      | nil => rfl
      | cons other rest => rw [hempty, hfull] at h; cases h
    | cons text following =>
      cases others with
      | nil => rw [hempty, hfull] at h; cases h
      | cons other rest =>
        rw [hfull, hfull] at h
        exact hinj _ _ (Prod.mk.inj (List.singleton_inj.mp h)).2
  · rintro rfl
    rfl

/-- The lines around a finding come last in its record, so they can be read off it. -/
theorem Finding.toDocument_eq_iff_codeContext {finding other : Finding}
    (h : other = { finding with codeContext := other.codeContext }) :
    finding.toDocument = other.toDocument ↔ finding.codeContext = other.codeContext := by
  constructor
  · intro hdocument
    have hfields : finding.toFields = other.toFields := Document.object.inj hdocument
    rw [h] at hfields
    exact optionalField_texts_inj.mp (List.append_cancel_left hfields)
  · intro hcontext
    rw [h, ← hcontext]

def Finding.ShowsLine (finding : Finding) (line : Nat) : Prop :=
  ∃ first last, finding.contextStartLine = some first ∧ finding.contextEndLine = some last ∧
    first ≤ line ∧ line ≤ last

/-- Whether a long value that encodes no data is a secret depends on its name alone. -/
theorem Secret.verdict?_of_plain {name value : String} (hlong : 8 < Text.length value)
    (hserious : placeholders.contains (Text.lower value) = false)
    (hplain : isEncoded value = false) :
    verdict? name value =
      (namePatterns.find? fun (_, pattern) => pattern.occursIn (Text.lower name)).map
        fun (kind, _) => { kind, confidence := 0.6 } := by
  have hjudged :
      (decide (8 < Text.length value) && !placeholders.contains (Text.lower value)) = true := by
    rw [hserious, decide_eq_true hlong]
    rfl
  unfold verdict? judge?
  dsimp only
  rw [if_pos hjudged, hplain]
  cases namePatterns.find? fun (_, pattern) => pattern.occursIn (Text.lower name) with
  | none => rfl
  | some found => rfl

namespace SourceFlow

open Source (Node Form Place Constant)

variable {setting : Setting}

/-! ## The secrets of a module -/

def secretsIn (findings : List Finding) : List Finding :=
  findings.filter (·.rule == "HARDCODED_SECRET")

/-- A secret that an assignment gives to a variable, and the lines of the assignment. -/
structure HeldSecret where
  line : Nat
  endLine : Nat
  target : String
  verdict : Secret.Verdict

/-- The finding for a secret. Where the assignment starts within its line does not matter. -/
def HeldSecret.finding (setting : Setting) (held : HeldSecret) : Finding :=
  secretFinding setting ⟨held.line, 0, held.endLine⟩ held.target held.verdict

def heldSecret? (place : Place) (value : Node) (target : String) : Option HeldSecret :=
  (secretOf? target value).map
    ({ line := place.line, endLine := place.endLine, target, verdict := · })

/-- The secrets that a node holds itself. Only assignments hold any, one for each variable at
most. -/
def heldSecrets : Node → List HeldSecret
  | .assign place targets value => (namesOf targets).filterMap (heldSecret? place value)
  | _ => []

theorem secretsIn_append (findings others : List Finding) :
    secretsIn (findings ++ others) = secretsIn findings ++ secretsIn others :=
  List.filter_append ..

theorem secretsIn_eq_of_appends {rules : List String} {line : Int} {before after : List Finding}
    (h : Appends (Finding.IsOf rules line) before after) (hrules : "HARDCODED_SECRET" ∉ rules) :
    secretsIn after = secretsIn before := by
  obtain ⟨added, rfl, hadded⟩ := h
  have hnone : secretsIn added = [] := by
    refine List.filter_eq_nil_iff.mpr fun finding hfinding hsecret => hrules ?_
    have hrule : finding.rule = "HARDCODED_SECRET" := by simpa using hsecret
    rw [← hrule]
    exact (hadded finding hfinding).1
  rw [secretsIn_append, hnone, List.append_nil]

variable {node other : Node} {before after : State}

/-- An assignment to one variable reports the secret it holds, and nothing else. -/
theorem assignName_secrets {place : Place} {value : Node} {target : String}
    (h : assignName setting place value before target = .ok after) :
    secretsIn after.findings = secretsIn before.findings ++
      ((heldSecret? place value target).map (HeldSecret.finding setting)).toList := by
  obtain ⟨tracker, _, rfl⟩ := Outcome.map_eq_ok.mp h
  dsimp only
  rw [secretsIn_append, secretFound, heldSecret?]
  cases secretOf? target value <;> rfl

theorem heldSecrets_eq_nil (h : ∀ place targets value, node ≠ .assign place targets value) :
    heldSecrets node = [] := by
  unfold heldSecrets
  split
  · next place targets value => exact absurd rfl (h place targets value)
  · rfl

/-- **Entering a node reports the secrets it holds.** The checks of a call have rules of their
own. -/
theorem enter_secrets (h : enter setting node before = .ok after) :
    secretsIn after.findings =
      secretsIn before.findings ++ (heldSecrets node).map (HeldSecret.finding setting) := by
  unfold enter at h
  split at h
  · cases h
    exact (List.append_nil _).symm
  · cases h
    exact (List.append_nil _).symm
  · next place targets value =>
    have hrun := Outcome.foldlM_collects (fun state => secretsIn state.findings) _
      (fun target _ {_ _} hname => assignName_secrets hname) h
    rw [heldSecrets, List.map_filterMap, List.filterMap_eq_flatMap_toList]
    exact hrun
  · have hcall := secretsIn_eq_of_appends (checkCall_observes h).findings (by decide)
    exact hcall.trans (List.append_nil _).symm
  · next hassign _ =>
    cases h
    rw [heldSecrets_eq_nil hassign]
    exact (List.append_nil _).symm

theorem analyze_secrets {file code : String} {method : Classify.Method} {tree : Node}
    {state : State}
    (htree : Source.parseModule? code = some tree)
    (hstate : analyze? file code method = .ok (some state)) :
    secretsIn state.findings =
      (tree.preorder.flatMap heldSecrets).map
        (HeldSecret.finding (Setting.ofCode file code method)) := by
  unfold analyze? at hstate
  rw [htree] at hstate
  obtain ⟨last, hvisit, hlast⟩ := Outcome.map_eq_ok.mp hstate
  cases hlast
  have hrun := visit_collects (fun state => secretsIn state.findings) _ enter_secrets
    (fun form before after => by rw [leave_findings]) hvisit
  rw [List.map_flatMap]
  exact hrun

/-! ## Modules that differ in assigned texts -/

/-- The trees are the same but for the columns of their nodes and for texts that are assigned: what
follows a text on its line moves with its length. A text that is assigned without an annotation has
the same verdict under each of its variables in both. -/
inductive SameButSecrets : Node → Node → Prop
  | alike {form : Form} {place : Place} {column : Nat} {parts others : List (List Node)}
      (hparts : List.Forall₂ (List.Forall₂ SameButSecrets) parts others) :
      SameButSecrets (.mk form place parts) (.mk form { place with column } others)
  | assigned {place literalPlace : Place} {column literalColumn : Nat} {targets others : List Node}
      {text twin : String} {isMarked : Bool}
      (htargets : List.Forall₂ SameButSecrets targets others)
      (hverdict : ∀ name ∈ namesOf targets, Secret.verdict? name text = Secret.verdict? name twin) :
      SameButSecrets
        (.assign place targets (.constant literalPlace (.text text) isMarked))
        (.assign { place with column } others
          (.constant { literalPlace with column := literalColumn } (.text twin) isMarked))
  | annotated {place literalPlace : Place} {column literalColumn : Nat}
      {target hint other hintTwin : Node} {isSimple isMarked : Bool} {text twin : String}
      (htarget : SameButSecrets target other) (hhint : SameButSecrets hint hintTwin) :
      SameButSecrets
        (.annAssign place isSimple target hint [.constant literalPlace (.text text) isMarked])
        (.annAssign { place with column } isSimple other hintTwin
          [.constant { literalPlace with column := literalColumn } (.text twin) isMarked])

namespace SameButSecrets

theorem form_eq (h : SameButSecrets node other) : node.form = other.form := by
  cases h <;> rfl

/-- What is read off the form of a node alone is the same for both. -/
theorem read_eq {α : Type} {read : Node → α}
    (hread : ∀ form place parts, read (.mk form place parts) = read (.mk form Node.nowhere []))
    (h : SameButSecrets node other) : read node = read other := by
  obtain ⟨form, place, parts⟩ := node
  obtain ⟨twinForm, twinPlace, twinParts⟩ := other
  obtain rfl : form = twinForm := h.form_eq
  rw [hread, hread form twinPlace]

theorem text?_eq (h : SameButSecrets node other) : node.text? = other.text? := by
  refine read_eq (fun form _ _ => ?_) h
  cases form <;> rfl

theorem name?_eq (h : SameButSecrets node other) : node.name? = other.name? := by
  refine read_eq (fun form _ _ => ?_) h
  cases form <;> rfl

theorem namesOf_eq {nodes others : List Node} (h : List.Forall₂ SameButSecrets nodes others) :
    namesOf nodes = namesOf others := by
  unfold namesOf
  induction h with
  | nil => rfl
  | cons hfirst _ ih => rw [List.filterMap_cons, List.filterMap_cons, hfirst.name?_eq, ih]

/-- Such nodes hold the same secrets. An assignment has two groups of parts, and so has its twin. -/
theorem heldSecrets_eq (h : SameButSecrets node other) : heldSecrets node = heldSecrets other := by
  cases h with
  | @alike form place column parts others hparts =>
    by_cases hassign : ∃ targets value, form = .assign ∧ parts = [targets, [value]]
    · obtain ⟨targets, value, rfl, rfl⟩ := hassign
      obtain ⟨twins, rest, htargets, hrest, rfl⟩ := List.forall₂_cons_left_iff.mp hparts
      obtain ⟨group, none, hgroup, hnone, rfl⟩ := List.forall₂_cons_left_iff.mp hrest
      obtain rfl := List.forall₂_nil_left_iff.mp hnone
      obtain ⟨twinValue, none, hvalue, hnone, rfl⟩ := List.forall₂_cons_left_iff.mp hgroup
      obtain rfl := List.forall₂_nil_left_iff.mp hnone
      show (namesOf targets).filterMap (heldSecret? place value) =
        (namesOf twins).filterMap (heldSecret? { place with column } twinValue)
      unfold heldSecret? secretOf?
      rw [namesOf_eq htargets, hvalue.text?_eq]
    · -- the twin of what is no assignment is none either, so neither holds a secret
      rw [heldSecrets_eq_nil, heldSecrets_eq_nil]
      · intro _ twins twinValue htwin
        obtain ⟨rfl, _, rfl⟩ := Node.mk.inj htwin
        obtain ⟨targets, rest, _, hrest, rfl⟩ := List.forall₂_cons_right_iff.mp hparts
        obtain ⟨group, none, hgroup, hnone, rfl⟩ := List.forall₂_cons_right_iff.mp hrest
        obtain rfl := List.forall₂_nil_right_iff.mp hnone
        obtain ⟨value, none, _, hnone, rfl⟩ := List.forall₂_cons_right_iff.mp hgroup
        obtain rfl := List.forall₂_nil_right_iff.mp hnone
        exact hassign ⟨targets, value, rfl, rfl⟩
      · intro _ targets value hnode
        obtain ⟨rfl, _, rfl⟩ := Node.mk.inj hnode
        exact hassign ⟨targets, value, rfl, rfl⟩
  | @assigned place literalPlace column literalColumn targets others text twin isMarked htargets
      hverdict =>
    show (namesOf targets).filterMap _ = (namesOf others).filterMap _
    rw [← namesOf_eq htargets]
    refine List.filterMap_congr fun name hname => ?_
    show (Secret.verdict? name text).map _ = (Secret.verdict? name twin).map _
    rw [hverdict name hname]
  | annotated => rfl

/-- A text that is written in the code. -/
def IsLiteral (node : Node) : Prop :=
  ∃ place text isMarked, node = .constant place (.text text) isMarked

/-- The parts of such nodes are of the same kind again, or two texts. -/
theorem parts_forall₂ (h : SameButSecrets node other) :
    List.Forall₂ (fun part twin => SameButSecrets part twin ∨ IsLiteral part ∧ IsLiteral twin)
      node.parts.flatten other.parts.flatten := by
  cases h with
  | alike hparts => exact (List.rel_flatten hparts).imp fun _ _ => .inl
  | assigned htargets _ =>
    refine List.rel_append (htargets.imp fun _ _ => .inl) ?_
    exact .cons (.inr ⟨⟨_, _, _, rfl⟩, ⟨_, _, _, rfl⟩⟩) .nil
  | annotated htarget hhint =>
    exact .cons (.inl htarget)
      (.cons (.inl hhint) (.cons (.inr ⟨⟨_, _, _, rfl⟩, ⟨_, _, _, rfl⟩⟩) .nil))

theorem flatMap_eq_of_forall₂ {β : Type} {relates : Node → Node → Prop} {nodes others : List Node}
    {output : Node → List β} (h : List.Forall₂ relates nodes others)
    (heq : ∀ node ∈ nodes, ∀ other, relates node other → output node = output other) :
    nodes.flatMap output = others.flatMap output := by
  induction h with
  | nil => rfl
  | @cons node other nodes others hfirst _ ih =>
    rw [List.flatMap_cons, List.flatMap_cons, heq node List.mem_cons_self other hfirst,
      ih fun node hnode => heq node (List.mem_cons_of_mem _ hnode)]

/-- **Trees that differ in assigned texts of the same verdicts hold the same secrets.** Induction on
the size of the tree; a text holds no secret itself. -/
theorem preorder_heldSecrets_eq {node other : Node} (h : SameButSecrets node other) :
    node.preorder.flatMap heldSecrets = other.preorder.flatMap heldSecrets := by
  have hparts : (node.parts.flatten.flatMap fun part => part.preorder.flatMap heldSecrets) =
      other.parts.flatten.flatMap fun part => part.preorder.flatMap heldSecrets := by
    refine flatMap_eq_of_forall₂ h.parts_forall₂ fun part hpart twin htwin => ?_
    have := sizeOf_lt_of_mem_parts hpart
    rcases htwin with hsame | ⟨⟨_, _, _, rfl⟩, ⟨_, _, _, rfl⟩⟩
    · exact preorder_heldSecrets_eq hsame
    · rfl
  rw [preorder_eq, preorder_eq other, List.flatMap_cons, List.flatMap_cons, h.heldSecrets_eq,
    List.flatMap_assoc, List.flatMap_assoc, hparts]
  termination_by sizeOf node

end SameButSecrets

/-! ## The findings of both -/

variable {setting twin : Setting} (held : HeldSecret)

theorem HeldSecret.finding_eq_withContext (hfile : twin.file = setting.file)
    (hlength : twin.lines.length = setting.lines.length) :
    held.finding twin =
      { held.finding setting with codeContext := (held.finding twin).codeContext } := by
  obtain ⟨hfirst, hlast⟩ := Snippet.surrounded_bounds_eq hlength held.line held.endLine 2
  simp only [HeldSecret.finding, secretFinding, Setting.excerpt, hfile, hfirst, hlast]

theorem HeldSecret.finding_showsLine_iff (line : Nat) :
    (held.finding setting).ShowsLine line ↔
      (Snippet.surrounded setting.lines held.line held.endLine).Shows line := by
  constructor
  · rintro ⟨first, last, hfirst, hlast, hshows⟩
    cases hfirst
    cases hlast
    exact hshows
  · intro hshows
    exact ⟨_, _, rfl, rfl, hshows⟩

/-- The finding of a secret for two settings that differ in one line. -/
theorem HeldSecret.finding_toDocument_eq_iff {front tail : List String} {one other : String}
    (hlines : setting.lines = front ++ one :: tail) (htwin : twin.lines = front ++ other :: tail)
    (hfile : twin.file = setting.file) :
    (held.finding setting).toDocument = (held.finding twin).toDocument ↔
      one = other ∨ ¬ (held.finding setting).ShowsLine (front.length + 1) := by
  have hlength : twin.lines.length = setting.lines.length := by simp [hlines, htwin]
  rw [Finding.toDocument_eq_iff_codeContext (held.finding_eq_withContext hfile hlength),
    held.finding_showsLine_iff]
  show (Snippet.surrounded setting.lines held.line held.endLine).lines =
    (Snippet.surrounded twin.lines held.line held.endLine).lines ↔ _
  rw [hlines, htwin]
  exact Snippet.surrounded_lines_eq_iff held.line held.endLine

/-- **A report tells an assigned text exactly by showing its line.** Let two modules differ in a
stretch of text within one line, so that their trees differ in assigned texts of the same verdicts
alone. Then both report the secrets that the first one holds, one finding for one, in the same
order. Each two findings agree in all their fields but the lines around the assignment, and their
records are the same exactly when the stretch is the same or its line is not among these. -/
theorem secret_findings_agree_unless_line_shown {file before after literal twin : String}
    {method : Classify.Method} {tree twinTree : Node} {state twinState : State}
    (hliteral : Text.IsInline literal) (htwin : Text.IsInline twin)
    (htree : Source.parseModule? (before ++ literal ++ after) = some tree)
    (htwinTree : Source.parseModule? (before ++ twin ++ after) = some twinTree)
    (hsame : SameButSecrets tree twinTree)
    (hstate : analyze? file (before ++ literal ++ after) method = .ok (some state))
    (htwinState : analyze? file (before ++ twin ++ after) method = .ok (some twinState)) :
    secretsIn state.findings = (tree.preorder.flatMap heldSecrets).map
        (HeldSecret.finding (Setting.ofCode file (before ++ literal ++ after) method)) ∧
      List.Forall₂
        (fun finding other =>
          other = { finding with codeContext := other.codeContext } ∧
            (finding.toDocument = other.toDocument ↔
              literal = twin ∨ ¬ finding.ShowsLine (Text.lines (before ++ literal)).length))
        (secretsIn state.findings) (secretsIn twinState.findings) := by
  have hsecrets := analyze_secrets htree hstate
  refine ⟨hsecrets, ?_⟩
  rw [hsecrets, analyze_secrets htwinTree htwinState, ← hsame.preorder_heldSecrets_eq,
    List.forall₂_map_left_iff, List.forall₂_map_right_iff, List.forall₂_same]
  intro held _
  obtain ⟨front, opened, closed, tail, hlines⟩ := Text.exists_lines_eq before after
  obtain ⟨hliteralLines, hline⟩ := hlines literal hliteral
  obtain ⟨htwinLines, _⟩ := hlines twin htwin
  -- the two lines agree around the stretch, so they are the same when it is
  have hstretch : opened ++ literal ++ closed = opened ++ twin ++ closed ↔ literal = twin := by
    constructor
    · intro h
      have hlists := congrArg String.toList h
      simp only [String.toList_append, List.append_cancel_right_eq, List.append_cancel_left_eq]
        at hlists
      exact String.toList_inj.mp hlists
    · rintro rfl
      rfl
  constructor
  · refine held.finding_eq_withContext rfl ?_
    show (Text.lines _).length = (Text.lines _).length
    rw [hliteralLines, htwinLines]
    simp
  · rw [hline, ← hstretch]
    exact held.finding_toDocument_eq_iff hliteralLines htwinLines rfl

/-! ## Two keys -/

/-- A module that assigns a key to a variable, below some other text. -/
def keyModule (head key : String) : String := head ++ "api_key = \"" ++ key ++ "\"\n"

/-- The tree of such a module, where the assignment stands on this line. -/
def keyTree (line : Nat) (key : String) : Node :=
  .module [.assign ⟨line, 0, line⟩ [.name ⟨line, 0, line⟩ "api_key"]
    (.constant ⟨line, 0, line⟩ (.text key) false)]

def isKeyTree (line : Nat) (key : String) : Option Node → Bool
  | some (.mk .module place [[.assign assignPlace [.name namePlace name]
      (.constant textPlace (.text text) isMarked)]]) =>
    place == ⟨0, 0, 0⟩ && assignPlace == ⟨line, 0, line⟩ && namePlace == ⟨line, 0, line⟩ &&
      name == "api_key" && textPlace == ⟨line, 0, line⟩ && text == key && !isMarked
  | _ => false

theorem eq_keyTree {line : Nat} {key : String} {tree : Option Node}
    (h : isKeyTree line key tree = true) : tree = some (keyTree line key) := by
  unfold isKeyTree at h
  split at h
  · simp only [Bool.and_eq_true, beq_iff_eq, Bool.not_eq_true'] at h
    obtain ⟨⟨⟨⟨⟨⟨rfl, rfl⟩, rfl⟩, rfl⟩, rfl⟩, rfl⟩, rfl⟩ := h
    rfl
  · cases h

theorem keyTree_same {line : Nat} {key twin : String}
    (h : Secret.verdict? "api_key" key = Secret.verdict? "api_key" twin) :
    SameButSecrets (keyTree line key) (keyTree line twin) := by
  have hverdict : ∀ name ∈ ["api_key"], Secret.verdict? name key = Secret.verdict? name twin :=
    fun name hname => by rwa [List.mem_singleton.mp hname]
  exact .alike (.cons (.cons (.assigned (.cons (.alike .nil) .nil) hverdict) .nil) .nil)

/-- The finding of the only secret that a module is seen to hold. -/
theorem exists_secret_of_seen {code : String} {β : Type} {see : Finding → β} {seen : β}
    (h : (analyze? "app.py" code).toOption.map (fun result =>
      result.map fun state => (secretsIn state.findings).map see) = some (some [seen])) :
    ∃ state finding, analyze? "app.py" code = .ok (some state) ∧
      secretsIn state.findings = [finding] ∧ see finding = seen := by
  obtain ⟨result, hresult, hsome⟩ := Outcome.exists_of_seen h
  obtain ⟨state, rfl, hseen⟩ := Option.map_eq_some_iff.mp hsome
  obtain ⟨finding, hfinding, hsee⟩ := List.map_eq_singleton_iff.mp hseen
  exact ⟨state, finding, hresult, hfinding, hsee⟩

def liveKey : String := "sk_live_DUMMY_TEST_KEY"

def spareKey : String := "sk_live_SPARE_TEST_KEY"

theorem keys_inline : Text.IsInline liveKey ∧ Text.IsInline spareKey := by
  decide

theorem keys_verdict : ∃ verdict, Secret.verdict? "api_key" liveKey = some verdict ∧
    Secret.verdict? "api_key" spareKey = some verdict := by
  have hlive : Secret.isEncoded liveKey = false := by decide +kernel
  have hspare : Secret.isEncoded spareKey = false := by decide +kernel
  have hsame : Secret.verdict? "api_key" liveKey = Secret.verdict? "api_key" spareKey := by
    rw [Secret.verdict?_of_plain (by decide) (by decide) hlive,
      Secret.verdict?_of_plain (by decide) (by decide) hspare]
  obtain ⟨verdict, hverdict⟩ :=
    Option.isSome_iff_exists.mp (show (Secret.verdict? "api_key" liveKey).isSome by decide +kernel)
  exact ⟨verdict, hverdict, hsame ▸ hverdict⟩

/-- Form feeds end lines of plain text, but not lines of code: four of them move the key behind the
lines that the finding shows. -/
def formFeeds : String := "#\x0c\x0c\x0c\x0c\n"

/-- The records of the two keys behind form feeds are the same. -/
theorem key_behind_form_feeds_is_masked :
    ∃ state twinState finding other,
      analyze? "app.py" (keyModule formFeeds liveKey) = .ok (some state) ∧
        analyze? "app.py" (keyModule formFeeds spareKey) = .ok (some twinState) ∧
        secretsIn state.findings = [finding] ∧ secretsIn twinState.findings = [other] ∧
        finding.toDocument = other.toDocument := by
  obtain ⟨verdict, hlive, hspare⟩ := keys_verdict
  have hliveTree : Source.parseModule? (keyModule formFeeds liveKey) = some (keyTree 2 liveKey) :=
    eq_keyTree (by decide +kernel)
  have hspareTree : Source.parseModule? (keyModule formFeeds spareKey) =
      some (keyTree 2 spareKey) :=
    eq_keyTree (by decide +kernel)
  -- the finding shows the first four lines of plain text
  have hseen : ∀ key ∈ [liveKey, spareKey],
      (analyze? "app.py" (keyModule formFeeds key)).toOption.map (fun result =>
        result.map fun state => (secretsIn state.findings).map (·.contextEndLine)) =
          some (some [some 4]) := by
    decide +kernel
  obtain ⟨state, finding, hstate, hfinding, hend⟩ := exists_secret_of_seen (hseen liveKey (by simp))
  obtain ⟨twinState, other, htwinState, hother, _⟩ :=
    exists_secret_of_seen (hseen spareKey (by simp))
  obtain ⟨_, hpairs⟩ :=
    secret_findings_agree_unless_line_shown keys_inline.1 keys_inline.2 hliveTree
    hspareTree (keyTree_same (hlive.trans hspare.symm)) hstate htwinState
  rw [hfinding, hother] at hpairs
  have hpair := (List.forall₂_cons.mp hpairs).1
  have hline : (Text.lines (formFeeds ++ "api_key = \"" ++ liveKey)).length = 6 := by decide
  refine ⟨state, twinState, finding, other, hstate, htwinState, hfinding, hother,
    hpair.2.mpr (.inr ?_)⟩
  rw [hline]
  rintro ⟨_, last, _, hlast, _, hshown⟩
  obtain rfl := Option.some.inj (hend.symm.trans hlast)
  omega

/-- The one line that a record shows, at its end. -/
def shownLine : Document → String
  | .object fields =>
    match fields.getLast? with
    | some (_, .list [.text line]) => line
    | _ => ""
  | _ => ""

/-- Both keys get the same verdict, and the lines around the assignment tell them apart. -/
theorem shown_key_is_told :
    ∃ state twinState finding other,
      analyze? "app.py" (keyModule "" liveKey) = .ok (some state) ∧
        analyze? "app.py" (keyModule "" spareKey) = .ok (some twinState) ∧
        (∃ verdict, Secret.verdict? "api_key" liveKey = some verdict ∧
          Secret.verdict? "api_key" spareKey = some verdict) ∧
        secretsIn state.findings = [finding] ∧ secretsIn twinState.findings = [other] ∧
        finding.toDocument ≠ other.toDocument := by
  have hseen : ∀ key ∈ [liveKey, spareKey],
      (analyze? "app.py" (keyModule "" key)).toOption.map (fun result =>
        result.map fun state => (secretsIn state.findings).map (shownLine ·.toDocument)) =
          some (some ["api_key = \"" ++ key ++ "\""]) := by
    decide +kernel
  obtain ⟨state, finding, hstate, hfinding, hshown⟩ :=
    exists_secret_of_seen (hseen liveKey (by simp))
  obtain ⟨twinState, other, htwinState, hother, hotherShown⟩ :=
    exists_secret_of_seen (hseen spareKey (by simp))
  refine ⟨state, twinState, finding, other, hstate, htwinState, keys_verdict, hfinding, hother,
    fun hsame => ?_⟩
  rw [hsame] at hshown
  exact absurd (hshown.symm.trans hotherShown) (by decide)

end SourceFlow

end PrivacyScan
