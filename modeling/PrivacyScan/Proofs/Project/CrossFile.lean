import PrivacyScan.Project.Scan
import PrivacyScan.Proofs.Table

/-!
# What modules learn from each other

A module is refused when it exports a tainted name, and it is refused before the name enters the
table of what it exports. So this table is empty in every session, and there is never anything to
import:

* **`register_eq_ok_iff`** — a module is accepted exactly when none of its exported names is
  tainted;
* **`Session.isInert`** — whatever is registered and propagated, no module exports or imports a
  record.
-/

namespace PrivacyScan.CrossFile

open Taint (Record Tracker)

variable {cross : CrossFile} {module : String} {language : Language} {tracker : Tracker}

/-! ## Sessions -/

/-- What can become of resolved modules and their symbols: contexts are registered, whether they are
accepted or not, and taints are propagated, in any order and any number of times. -/
inductive Session : CrossFile → Prop where
  | fresh (resolver : Resolver) (symbols : Symbols) : Session { resolver, symbols }
  | register {cross : CrossFile} (before : Session cross) (module : String) (language : Language)
      (tracker : Tracker) : Session (cross.register module language tracker).1
  | propagate {cross : CrossFile} (before : Session cross) : Session cross.propagate.1

/-- No module exports or imports the records of tainted names. -/
def IsInert (cross : CrossFile) : Prop :=
  ∀ entry ∈ cross.contexts, entry.2.imported = [] ∧ entry.2.exported = []

/-! ## Registering -/

theorem register_contexts :
    (cross.register module language tracker).1.contexts =
      cross.contexts.set module { language, tracker } := by
  unfold register
  dsimp only
  split <;> rfl

theorem register_keeps :
    (cross.register module language tracker).1.resolver = cross.resolver ∧
      (cross.register module language tracker).1.symbols = cross.symbols := by
  unfold register
  dsimp only
  split <;> exact ⟨rfl, rfl⟩

theorem register_isInert (h : cross.IsInert) :
    (cross.register module language tracker).1.IsInert := by
  intro entry hentry
  rw [register_contexts] at hentry
  rcases Table.mem_or_eq_of_mem_set hentry with hold | rfl
  · exact h entry hold
  · exact ⟨rfl, rfl⟩

/-- A module is accepted exactly when there is no record of a name that it exports. -/
theorem register_eq_ok_iff :
    (cross.register module language tracker).2 = .ok () ↔
      ∀ name ∈ cross.symbols.exportsOf module, tracker.record? name = none := by
  unfold register
  dsimp only
  split
  · next htainted =>
    obtain ⟨name, hname, hheld⟩ := List.any_eq_true.mp htainted
    refine iff_of_false (by simp) fun hnone => ?_
    rw [Tracker.holds, Table.hasKey, ← Tracker.record?, hnone name hname] at hheld
    cases hheld
  · next hclean =>
    refine iff_of_true rfl fun name hname => ?_
    rw [← Option.not_isSome_iff_eq_none]
    intro hsome
    exact hclean (List.any_eq_true.mpr ⟨name, hname, hsome⟩)

/-! ## Propagating -/

theorem importNames_eq_self {source context : ModuleContext} (h : source.exported = [])
    (imports : List ImportedSymbol) : importNames source imports context = (context, .ok ()) := by
  induction imports with
  | nil => rfl
  | cons imported rest ih =>
    unfold importNames
    rw [h]
    exact ih

theorem importFrom_eq_self (h : cross.IsInert) (module dependency : String) :
    cross.importFrom module dependency = (cross, .ok ()) := by
  unfold importFrom
  split
  · next context source info hcontext hsource _ =>
    have hexported := (h _ (Table.mem_of_get? hsource)).2
    rw [importNames_eq_self hexported]
    -- the context is entered again as it was
    show ({ cross with contexts := cross.contexts.set module context }, _) = _
    rw [Table.set_eq_self hcontext]
  · rfl

theorem importPairs_eq_self (h : cross.IsInert) (pairs : List (String × String)) :
    importPairs pairs cross = (cross, .ok ()) := by
  induction pairs with
  | nil => rfl
  | cons pair rest ih =>
    unfold importPairs
    rw [importFrom_eq_self h]
    exact ih

/-- Where nothing is exported, propagation completes and changes nothing. -/
theorem propagate_eq_self (h : cross.IsInert) : cross.propagate = (cross, .ok ()) :=
  importPairs_eq_self h _

theorem Session.isInert (h : Session cross) : cross.IsInert := by
  induction h with
  | fresh resolver symbols =>
    intro entry hentry
    cases hentry
  | register _ module language tracker ih => exact register_isInert ih
  | propagate _ ih =>
    rw [propagate_eq_self ih]
    exact ih

/-- Where nothing is imported, the explanation of findings changes none of them. -/
theorem enhanceAll_eq (h : cross.IsInert) (module : String)
    (findings : List (Finding × Option String)) :
    cross.enhanceAll module findings = .ok (findings.map (·.1)) := by
  have himported : ((cross.contexts.get? module).map (·.imported)).getD [] = [] := by
    cases hcontext : cross.contexts.get? module with
    | none => rfl
    | some context => exact (h _ (Table.mem_of_get? hcontext)).1
  unfold enhanceAll
  rw [himported]
  have henhance : (fun entry : Finding × Option String => enhance [] entry.1 entry.2) =
      fun entry => pure entry.1 := by
    funext entry
    simp [enhance, pure, Except.pure]
  show findings.mapM (fun entry => enhance [] entry.1 entry.2) = _
  rw [henhance, List.mapM_pure]
  rfl

/-! ## A tainted name that another module imports -/

/-- The tracker knows the variable and at least these types of its data. -/
def Marks (tracker : Tracker) (name : String) (piiTypes : List String) : Prop :=
  ∃ record, tracker.record? name = some record ∧ piiTypes ⊆ record.piiTypes

variable {both : CrossFile} {exporter importer : String}
  {exporterLanguage importerLanguage : Language} {exporterTracker importerTracker : Tracker}

/-- Two modules are registered, one after the other. -/
def RegistersBoth (cross : CrossFile) (exporter importer : String)
    (exporterLanguage importerLanguage : Language) (exporterTracker importerTracker : Tracker)
    (both : CrossFile) : Prop :=
  both = ((cross.register exporter exporterLanguage exporterTracker).1.register importer
      importerLanguage importerTracker).1 ∨
    both = ((cross.register importer importerLanguage importerTracker).1.register exporter
      exporterLanguage exporterTracker).1

theorem RegistersBoth.session (hcross : Session cross)
    (h : RegistersBoth cross exporter importer exporterLanguage importerLanguage exporterTracker
      importerTracker both) : Session both := by
  rcases h with rfl | rfl
  · exact (hcross.register ..).register ..
  · exact (hcross.register ..).register ..

theorem RegistersBoth.get?_importer
    (h : RegistersBoth cross exporter importer exporterLanguage importerLanguage exporterTracker
      importerTracker both) (hne : importer ≠ exporter) :
    both.contexts.get? importer =
      some { language := importerLanguage, tracker := importerTracker } := by
  rcases h with rfl | rfl
  · rw [register_contexts, Table.get?_set_self]
  · rw [register_contexts, Table.get?_set_of_ne _ _ hne, register_contexts, Table.get?_set_self]

/-- **The exporting module is refused as soon as it exports a tainted name, and the importing module
never learns of one.** In any session, two modules are registered in either order. The first is
accepted only when it has nothing to hand on; propagation completes but changes nothing; and the
second knows of a variable at the end exactly what it was registered with. -/
theorem tainted_export_refused_and_never_imported (hcross : Session cross)
    (hne : importer ≠ exporter)
    (hboth : RegistersBoth cross exporter importer exporterLanguage importerLanguage exporterTracker
      importerTracker both) :
    ((cross.register exporter exporterLanguage exporterTracker).2 = .ok () ↔
      ∀ name ∈ cross.symbols.exportsOf exporter, exporterTracker.record? name = none) ∧
    both.propagate = (both, .ok ()) ∧
    ∀ name piiTypes,
      (∃ context, both.propagate.1.contexts.get? importer = some context ∧
        Marks context.tracker name piiTypes) ↔ Marks importerTracker name piiTypes := by
  have hpropagate := propagate_eq_self (hboth.session hcross).isInert
  refine ⟨register_eq_ok_iff, hpropagate, fun name piiTypes => ?_⟩
  rw [hpropagate, hboth.get?_importer hne]
  constructor
  · rintro ⟨context, hcontext, hmarks⟩
    rw [← Option.some.inj hcontext] at hmarks
    exact hmarks
  · intro hmarks
    exact ⟨_, rfl, hmarks⟩

/-! ## Two modules

`mail` imports the name `email`, which `users` exports and holds as tainted. -/

def mailWorkspace : Workspace :=
  { root := { anchor := "/", parts := ["project"] }
    tree := .directory [("users.py", .file "def email():\n    return 1\n"),
      ("mail.py", .file "from users import email\n")] }

/-- What is known of the two modules when both have been read. -/
def usersAndMail : CrossFile :=
  let read := Project.readModules { root := mailWorkspace.root } mailWorkspace
    { resolver := { root := mailWorkspace.root } }
    [{ anchor := "/", parts := ["project", "users.py"] },
      { anchor := "/", parts := ["project", "mail.py"] }]
  { resolver := read.resolver, symbols := read.symbols }

def usersTracker : Tracker :=
  { records := [("email", { name := "email", piiTypes := ["email"], sourceLine := 1
                            sourceNode := "request" })] }

/-- The module with the tainted export is refused, and the one that imports it learns nothing. -/
theorem users_refused_before_mail_imports :
    (usersAndMail.register "users" .python usersTracker).2 ≠ .ok () ∧
      ¬ ∃ context,
        ((usersAndMail.register "mail" .python {}).1.register "users" .python
          usersTracker).1.propagate.1.contexts.get? "mail" = some context ∧
        Marks context.tracker "email" ["email"] := by
  have hsession : Session usersAndMail := .fresh _ _
  have hboth : RegistersBoth usersAndMail "users" "mail" .python .python usersTracker {}
      ((usersAndMail.register "mail" .python {}).1.register "users" .python usersTracker).1 :=
    .inr rfl
  obtain ⟨haccepted, _, hmarks⟩ :=
    tainted_export_refused_and_never_imported hsession (by decide) hboth
  constructor
  · rw [Ne, haccepted]
    intro hclean
    have hnone := hclean "email" (by decide +kernel)
    cases hnone
  · rw [hmarks]
    rintro ⟨record, hrecord, _⟩
    cases hrecord

/-- `users` exports a tainted name and `mail` imports it. Yet `users` is refused, and after both are
registered and taints are propagated, `mail` does not know the name. -/
theorem tainted_name_lost_on_import :
    "email" ∈ usersAndMail.symbols.exportsOf "users" ∧
      Marks usersTracker "email" ["email"] ∧
      (∃ info, usersAndMail.resolver.modules.get? "mail" = some info ∧
        ∃ imported ∈ info.imports, imported.source = "users" ∧ imported.originalName = "email" ∧
          imported.name = "email") ∧
      (usersAndMail.register "users" .python usersTracker).2 ≠ .ok () ∧
      ¬ ∃ context,
        ((usersAndMail.register "users" .python usersTracker).1.register "mail" .python
          {}).1.propagate.1.contexts.get? "mail" = some context ∧
        Marks context.tracker "email" ["email"] := by
  have hexported : "email" ∈ usersAndMail.symbols.exportsOf "users" := by decide +kernel
  have himported : (usersAndMail.resolver.modules.get? "mail").map (fun info =>
      info.imports.any fun imported => imported.source == "users" &&
        imported.originalName == "email" && imported.name == "email") = some true := by
    decide +kernel
  have hunknown : (((usersAndMail.register "users" .python usersTracker).1.register "mail" .python
      {}).1.propagate.1.contexts.get? "mail").map (fun context =>
        (context.tracker.record? "email").isSome) = some false := by
    decide +kernel
  obtain ⟨info, hinfo, hany⟩ := Option.map_eq_some_iff.mp himported
  obtain ⟨imported, hmem, hnames⟩ := List.any_eq_true.mp hany
  simp only [Bool.and_eq_true, beq_iff_eq, and_assoc] at hnames
  refine ⟨hexported, ⟨_, rfl, by decide⟩, ⟨info, hinfo, imported, hmem, hnames⟩, ?_, ?_⟩
  · rw [Ne, register_eq_ok_iff]
    intro hclean
    cases hclean "email" hexported
  · rintro ⟨context, hcontext, record, hrecord, _⟩
    rw [hcontext, Option.map_some, hrecord] at hunknown
    cases hunknown

end PrivacyScan.CrossFile
