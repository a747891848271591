import Mathlib.Algebra.BigOperators.Ring.Finset
import PrivacyScan.Proofs.Outcome
import PrivacyScan.Proofs.Table
import PrivacyScan.Report.SystemMap

/-!
# Places and links of the map

The map is made in four runs: over the edges for the nodes that they lead to as sinks, over the
nodes for places and owners, over the findings and over the edges for links. What one step of each
can do is said once, and what a whole run does follows:

* **`addNode_spec`** — a node enters one place at most, and belongs to it;
* **`addFinding_advances`**, **`addEdge_advances`** — one more way is counted, or nothing changes;
* **`run_advances`**, **`chart_spec`** — so every link joins two places, and the links count as many
  ways as findings and edges give.
-/

namespace PrivacyScan.Report.SystemMap

open Outcome

variable {map : SystemMap} {places : Table Place} {id : String} {document : Document}
  {targets : List Document} {owners : Owners}

/-! ## Links -/

/-- All that goes along links. -/
def total (links : List Link) : Nat := (links.map (·.count)).sum

section Connect

variable {first : Link} {label : Option Document}

/-- One more way is counted, on a link that there is or on a new one. -/
theorem total_connect (hfirst : first.count = 0) (links : List Link) :
    total (connect first label links) = total links + 1 := by
  induction links with
  | nil => simp [connect, total, Link.add, hfirst]
  | cons link rest ih =>
    unfold connect
    split
    · simp only [total, Link.add, List.map_cons, List.sum_cons]
      omega
    · simp only [total, List.map_cons, List.sum_cons] at ih ⊢
      omega

/-- What holds of the old links and of the new one, and stays when one more way is counted, holds of
all links after that. -/
theorem forall_mem_connect {holds : Link → Prop}
    (hadd : ∀ link, holds link → holds (link.add label)) (hfirst : holds first)
    {links : List Link} (h : ∀ link ∈ links, holds link) :
    ∀ link ∈ connect first label links, holds link := by
  induction links with
  | nil => exact List.forall_mem_singleton.mpr (hadd first hfirst)
  | cons link rest ih =>
    obtain ⟨hlink, hrest⟩ := List.forall_mem_cons.mp h
    unfold connect
    split
    · exact List.forall_mem_cons.mpr ⟨hadd link hlink, hrest⟩
    · exact List.forall_mem_cons.mpr ⟨hlink, ih hrest⟩

end Connect

/-! ## Sound maps -/

/-- The name of a place says first whether it is a file or a sink. -/
def IsPlaceId (id : String) : Prop := id.toList.head? = some 'f' ∨ id.toList.head? = some 's'

theorem fileId_isPlaceId (file : Document) : IsPlaceId (fileId file) := by
  left
  rw [fileId, String.toList_append]
  rfl

theorem sinkId_isPlaceId (label : String) : IsPlaceId ("sink_" ++ label) := by
  right
  rw [String.toList_append]
  rfl

theorem inferredId_isPlaceId (inferred : InferredSink) : IsPlaceId inferred.id := by
  right
  rw [InferredSink.id, String.toList_append]
  rfl

/-- Both ends of the link are on the map. -/
def Joins (places : Table Place) (link : Link) : Prop :=
  places.hasKey link.source = true ∧ places.hasKey link.target = true

/-- Every place has a name of its own, and every link joins two places. -/
structure Closed (map : SystemMap) : Prop where
  distinct : map.places.keys.Nodup
  ids : ∀ entry ∈ map.places, IsPlaceId entry.1
  ends : ∀ link ∈ map.links, Joins map.places link

/-- A closed map without implicit links. -/
structure Sound (map : SystemMap) : Prop extends Closed map where
  explicit : ∀ link ∈ map.links, link.isImplicit = false

def Covers (before after : Table Place) : Prop :=
  ∀ id, before.hasKey id = true → after.hasKey id = true

theorem Joins.mono {before after : Table Place} {link : Link} (h : Joins before link)
    (hcovers : Covers before after) : Joins after link :=
  ⟨hcovers _ h.1, hcovers _ h.2⟩

/-- From one table of places to the other, places were entered and none was lost. -/
structure Enters (before after : Table Place) : Prop where
  covers : Covers before after
  distinct : before.keys.Nodup → after.keys.Nodup
  ids : (∀ entry ∈ before, IsPlaceId entry.1) → ∀ entry ∈ after, IsPlaceId entry.1

namespace Enters

variable {first second third : Table Place}

theorem refl (places : Table Place) : Enters places places := ⟨fun _ h => h, id, id⟩

theorem trans (h : Enters first second) (h' : Enters second third) : Enters first third :=
  ⟨fun id hid => h'.covers id (h.covers id hid), h'.distinct ∘ h.distinct, h'.ids ∘ h.ids⟩

theorem set (hid : IsPlaceId id) (places : Table Place) (place : Place) :
    Enters places (places.set id place) := by
  refine ⟨fun other hother => Table.hasKey_set hother id place,
    fun hdistinct => Table.keys_set_nodup hdistinct id place, fun hids entry hentry => ?_⟩
  rcases Table.mem_or_eq_of_mem_set hentry with hold | rfl
  · exact hids entry hold
  · exact hid

theorem setNew (hid : IsPlaceId id) (places : Table Place) (place : Place) :
    Enters places (places.setNew id place) := by
  unfold Table.setNew
  split
  · exact refl places
  · exact set hid places place

end Enters

theorem hasKey_setNew_self (places : Table Place) (id : String) (place : Place) :
    (places.setNew id place).hasKey id = true := by
  unfold Table.setNew
  split
  · next hold => exact hold
  · exact Table.hasKey_set_self places id place

theorem ensureFile_enters {after : Table Place} {file : Document} {isCritical : Bool}
    (h : ensureFile places file isCritical = .ok after) :
    Enters places after ∧ after.hasKey (fileId file) = true := by
  unfold ensureFile at h
  split at h
  · next hold =>
    cases h
    exact ⟨.refl _, hold⟩
  · obtain ⟨place, _, h⟩ := bind_eq_ok.mp h
    cases h
    exact ⟨.set (fileId_isPlaceId file) places place, Table.hasKey_set_self ..⟩

theorem Sound.enter (h : map.Sound)
    (henters : Enters map.places places) : Sound { map with places } :=
  ⟨⟨henters.distinct h.distinct, henters.ids h.ids,
    fun link hlink => (h.ends link hlink).mono henters.covers⟩, h.explicit⟩

theorem Sound.connect (h : map.Sound) {first : Link} (label : Option Document)
    (hjoins : Joins map.places first) (hexplicit : first.isImplicit = false) :
    Sound { map with links := connect first label map.links } :=
  ⟨⟨h.distinct, h.ids, forall_mem_connect (fun _ hlink => hlink) hjoins h.ends⟩,
    forall_mem_connect (fun _ hlink => hlink) hexplicit h.explicit⟩

/-! ## Owners -/

theorem eq_of_hashable {key : Document} (h : document.hashable = .ok key) :
    key = document := by
  unfold Document.hashable at h
  split at h
  · cases h
  · cases h
  · exact (Except.ok.inj h).symm

theorem field_of_item {value : Document} {key : String}
    (h : document.item key = .ok value) : document.fieldOrNull key = value := by
  unfold Document.item at h
  split at h
  · split at h
    · next fields _ hvalue =>
      rw [Document.fieldOrNull, Document.field?, hvalue]
      exact Except.ok.inj h
    · cases h
  · cases h
  · cases h
  · cases h

theorem field_of_get {value : Document} {key : String}
    (h : document.get key = .ok value) : document.fieldOrNull key = value := by
  unfold Document.get at h
  split at h
  · exact Except.ok.inj h
  · cases h

def targetsOf (edges : List Document) : List Document :=
  edges.flatMap fun edge =>
    if edge.fieldOrNull "label" == .text "sink" then [edge.fieldOrNull "target"] else []

/-- The place that a node belongs to: a sink has one of its own, and any other node belongs to its
file, if it has one. -/
def ownerOf? (targets : List Document) (node : Document) : Option String :=
  let type := (node.field? "type").getD (.text "unknown")
  let file := (node.field? "file_path").getD (.text "")
  if type == .text "sink" || targets.contains (node.fieldOrNull "id") then
    some ("sink_" ++ ((node.field? "label").getD (.text "")).shown)
  else if type == .text "file" || file.isTruthy then some (fileId file)
  else none

def ownersOf (nodes edges : List Document) : Owners :=
  (nodes.flatMap fun node =>
    (ownerOf? (targetsOf edges) node).toList.map (node.fieldOrNull "id", ·)).reverse

/-- Where the targets can be read, they are those of the edges into sinks. -/
theorem sinkTargets_eq {edges : List Document} (h : sinkTargets edges = .ok targets) :
    targets = targetsOf edges := by
  refine (foldlM_collects id _ (fun edge _ {before after} hstep => ?_) h).trans
    (List.nil_append _)
  obtain ⟨label, hlabel, hrest⟩ := bind_eq_ok.mp hstep
  rw [field_of_get hlabel]
  split at hrest
  · next hother =>
    cases hrest
    rw [if_neg (by simpa [bne] using hother)]
    exact (List.append_nil _).symm
  · next hsink =>
    obtain ⟨target, htarget, hrest⟩ := bind_eq_ok.mp hrest
    obtain ⟨key, hkey, hlast⟩ := bind_eq_ok.mp hrest
    cases hlast
    rw [if_pos (by simpa [bne] using hsink), field_of_item htarget, eq_of_hashable hkey]
    rfl

/-- Every place of the table is sound, and every owner is in it. -/
structure Housed (state : Table Place × Owners) : Prop where
  sound : Sound { places := state.1 }
  owned : ∀ entry ∈ state.2, state.1.hasKey entry.2 = true

theorem Housed.own {after : Table Place} (h : Housed (places, owners))
    (henters : Enters places after) {owner : String} (howner : after.hasKey owner = true)
    (id : Document) : Housed (after, (id, owner) :: owners) :=
  ⟨h.sound.enter henters,
    List.forall_mem_cons.mpr ⟨howner, fun entry hentry => henters.covers _ (h.owned entry hentry)⟩⟩

/-- A node that has an owner enters its place, and no other place is lost. -/
theorem addNode_spec {before after : Table Place × Owners}
    {node : Document} (h : addNode targets before node = .ok after) :
    (Housed before → Housed after) ∧
      after.2 = ((ownerOf? targets node).toList.map (node.fieldOrNull "id", ·)) ++ before.2 := by
  obtain ⟨places, owners⟩ := before
  unfold addNode at h
  obtain ⟨id, hid, hrest⟩ := bind_eq_ok.mp h
  obtain ⟨key, hkey, hstep⟩ := bind_eq_ok.mp hrest
  obtain rfl : key = node.fieldOrNull "id" := (eq_of_hashable hkey).trans (field_of_item hid).symm
  -- the owner is found by the same three questions that the step asks
  unfold ownerOf?
  dsimp only at hstep ⊢
  split at hstep
  · next hsink =>
    cases hstep
    rw [if_pos hsink]
    refine ⟨fun hbefore => hbefore.own ?_ (Table.hasKey_set_self ..) _, rfl⟩
    exact .set (sinkId_isPlaceId _) places _
  · next hsink =>
    rw [if_neg hsink]
    split at hstep
    · next hfile =>
      cases hstep
      rw [if_pos (by simp [hfile])]
      refine ⟨fun hbefore => hbefore.own ?_ (Table.hasKey_set_self ..) _, rfl⟩
      exact .set (fileId_isPlaceId _) places _
    · next hfile =>
      split at hstep
      · next htruthy =>
        obtain ⟨entered, hentered, hlast⟩ := bind_eq_ok.mp hstep
        cases hlast
        obtain ⟨henters, hhas⟩ := ensureFile_enters hentered
        rw [if_pos (by simp [htruthy])]
        exact ⟨fun hbefore => hbefore.own henters hhas _, rfl⟩
      · next htruthy =>
        cases hstep
        rw [if_neg (by simp [hfile, htruthy])]
        exact ⟨fun hbefore => hbefore, rfl⟩

/-! ## What findings and edges add

Each finding and each edge leaves the map as it is or counts one more way between two places. That
is said once, and the rest is read off it. -/

/-- From `before` to `after` at most one way more is counted, with this label, between two places
that may be new. -/
inductive Advances (counted : Bool) (label : Option Document) (before : SystemMap) :
    SystemMap → Prop where
  | stays (hcounted : counted = false) : Advances counted label before before
  | adds {places : Table Place} {first : Link} (hcounted : counted = true)
      (henters : Enters before.places places) (hjoins : Joins places first)
      (hcount : first.count = 0) (hexplicit : first.isImplicit = false)
      (hlabels : first.labels = []) :
      Advances counted label before { places, links := connect first label before.links }

namespace Advances

variable {counted : Bool} {label : Option Document} {before after : SystemMap}

theorem sound (h : Advances counted label before after) (hsound : before.Sound) : after.Sound := by
  cases h with
  | stays hcounted => exact hsound
  | adds hcounted henters hjoins hcount hexplicit hlabels =>
    exact (hsound.enter henters).connect label hjoins hexplicit

theorem covers (h : Advances counted label before after) : Covers before.places after.places := by
  cases h with
  | stays hcounted => exact fun _ hid => hid
  | adds hcounted henters hjoins hcount hexplicit hlabels => exact henters.covers

theorem total_eq (h : Advances counted label before after) :
    total after.links = total before.links + if counted then 1 else 0 := by
  cases h with
  | stays hcounted => rw [hcounted]; rfl
  | adds hcounted henters hjoins hcount hexplicit hlabels =>
    rw [hcounted]
    exact total_connect hcount before.links

theorem labels {allowed : Document → Prop} (h : Advances counted label before after)
    (hlabel : ∀ shown, label = some shown → allowed shown)
    (hbefore : ∀ link ∈ before.links, ∀ shown ∈ link.labels, allowed shown) :
    ∀ link ∈ after.links, ∀ shown ∈ link.labels, allowed shown := by
  cases h with
  | stays hcounted => exact hbefore
  | adds hcounted henters hjoins hcount hexplicit hlabels =>
    refine forall_mem_connect (fun link hlink shown hshown => ?_) (by simp [hlabels]) hbefore
    rcases List.mem_append.mp hshown with hold | hnew
    · exact hlink shown hold
    · exact hlabel shown (Option.mem_toList.mp (List.mem_filter.mp hnew).1)

end Advances

/-- **What a run of such steps leads to.** The steps may rely on the places that there are before
the run. Induction on the items, with the first map left open. -/
theorem run_advances {α : Type} {step : SystemMap → α → Outcome SystemMap} {counts : α → Bool}
    {allowed : Document → Prop} {items : List α}
    (hstep : ∀ item ∈ items, ∀ {before after}, Covers places before.places →
      step before item = .ok after → ∃ label, (∀ shown, label = some shown → allowed shown) ∧
        Advances (counts item) label before after)
    {start last : SystemMap} (hcovers : Covers places start.places) (hsound : start.Sound)
    (hlabels : ∀ link ∈ start.links, ∀ shown ∈ link.labels, allowed shown)
    (h : items.foldlM step start = .ok last) :
    last.Sound ∧ (∀ link ∈ last.links, ∀ shown ∈ link.labels, allowed shown) ∧
      Covers places last.places ∧ total last.links = total start.links + items.countP counts := by
  induction items generalizing start with
  | nil =>
    cases h
    exact ⟨hsound, hlabels, hcovers, rfl⟩
  | cons item rest ih =>
    obtain ⟨hitem, hrest⟩ := List.forall_mem_cons.mp hstep
    obtain ⟨next, hnext, h⟩ := foldlM_cons_eq_ok.mp h
    obtain ⟨label, hlabel, hadvances⟩ := hitem hcovers hnext
    obtain ⟨hlast, hlastLabels, hlastCovers, htotal⟩ :=
      ih hrest (fun id hid => hadvances.covers id (hcovers id hid)) (hadvances.sound hsound)
        (hadvances.labels hlabel hlabels) h
    refine ⟨hlast, hlastLabels, hlastCovers, ?_⟩
    rw [htotal, hadvances.total_eq, List.countP_cons]
    omega

def IsRated (finding : Document) : Prop :=
  ∃ severity rule file, finding.field? "severity" = some (.text severity) ∧
    finding.field? "rule" = some (.text rule) ∧ finding.field? "file" = some (.text file)

def sinkOf? (finding : Document) : Option InferredSink :=
  inferredSinks.find? fun inferred => inferred.words.any fun word =>
    Text.contains (((finding.field? "rule").bind Document.text?).getD "") word

/-- A sink is inferred from the finding: its rule tells of one, and its file is known. -/
def infersSink (finding : Document) : Bool := (sinkOf? finding).isSome && (fileOf finding).isTruthy

theorem inferredSink?_text (rule : String) :
    inferredSink? (.text rule) = .ok (inferredSinks.find? fun inferred =>
      inferred.words.any fun word => Text.contains rule word) := by
  -- a text can be searched for any word, so no test of the search fails
  have hwords : (fun inferred : InferredSink => inferred.words.anyM (Document.text rule).mentions) =
      fun inferred => (.ok (inferred.words.any fun word => Text.contains rule word)) := by
    funext inferred
    exact List.anyM_pure
  rw [inferredSink?, hwords]
  exact List.findM?_pure _ _

theorem sinkOf?_eq {finding : Document} {rule : String}
    (hrule : finding.field? "rule" = some (.text rule)) :
    inferredSink? (.text rule) = .ok (sinkOf? finding) := by
  rw [inferredSink?_text, sinkOf?, hrule]
  rfl

/-- A finding counts one way from its file to the sink that is inferred from it. -/
theorem addFinding_advances {finding : Document} (hrated : IsRated finding) {after : SystemMap}
    (h : addFinding map finding = .ok after) :
    ∃ title, Advances (infersSink finding) (some (.text title)) map after := by
  obtain ⟨severity, rule, file, hseverity, hrule, hfile⟩ := hrated
  unfold addFinding at h
  obtain ⟨_, _, h⟩ := bind_eq_ok.mp h
  obtain ⟨_, _, h⟩ := bind_eq_ok.mp h
  rw [hrule] at h
  dsimp only [Option.getD_some] at h
  obtain ⟨found, hfound, h⟩ := bind_eq_ok.mp h
  obtain rfl : sinkOf? finding = found := Except.ok.inj ((sinkOf?_eq hrule).symm.trans hfound)
  unfold infersSink
  split at h
  · next hnone =>
    cases h
    exact ⟨"", .stays (by rw [hnone]; rfl)⟩
  · next inferred hsome =>
    split at h
    · next hunknown =>
      cases h
      have hfile : (fileOf finding).isTruthy = false := by simpa using hunknown
      exact ⟨"", .stays (by rw [hfile, Bool.and_false])⟩
    · next hknown =>
      obtain ⟨places, hplaces, h⟩ := bind_eq_ok.mp h
      obtain ⟨title, _, h⟩ := bind_eq_ok.mp h
      cases h
      -- the sink is entered first, and the file of the finding does not displace it
      obtain ⟨henters, hfileKey⟩ := ensureFile_enters hplaces
      have hsink := henters.covers _ (hasKey_setNew_self map.places inferred.id _)
      refine ⟨title, .adds ?_ ((Enters.setNew (inferredId_isPlaceId inferred) _ _).trans henters)
        ⟨hfileKey, hsink⟩ rfl rfl rfl⟩
      rw [hsome]
      simpa using hknown

/-- The two ends of an edge belong to two places. -/
def joinsOwners (owners : Owners) (edge : Document) : Bool :=
  match owners.lookup (edge.fieldOrNull "source"), owners.lookup (edge.fieldOrNull "target") with
  | some source, some target => source != target
  | _, _ => false

theorem exists_of_lookup {id : Document} {owner : String}
    (h : owners.lookup id = some owner) : ∃ entry ∈ owners, entry.2 = owner := by
  induction owners with
  | nil => cases h
  | cons entry rest ih =>
    rw [List.lookup_cons] at h
    split at h
    · exact ⟨entry, List.mem_cons_self, Option.some.inj h⟩
    · obtain ⟨other, hother, howner⟩ := ih h
      exact ⟨other, List.mem_cons_of_mem _ hother, howner⟩

theorem eq_of_edgeLabel? {edge shown : Document} (h : edgeLabel? edge = .ok (some shown)) :
    shown = edge.fieldOrNull "label" ∧ shown.isTruthy = true := by
  unfold edgeLabel? at h
  dsimp only at h
  split at h
  · next htruthy =>
    obtain ⟨key, hkey, hsome⟩ := map_eq_ok.mp h
    cases hsome
    obtain rfl := eq_of_hashable hkey
    exact ⟨rfl, htruthy⟩
  · cases h

/-- An edge counts one way where its two ends belong to two places. -/
theorem addEdge_advances {after : SystemMap} {edge : Document}
    (howned : ∀ entry ∈ owners, map.places.hasKey entry.2 = true)
    (h : addEdge owners map edge = .ok after) :
    ∃ label, (∀ shown, label = some shown → edgeLabel? edge = .ok (some shown)) ∧
      Advances (joinsOwners owners edge) label map after := by
  obtain ⟨source, hsource, h⟩ := bind_eq_ok.mp h
  obtain ⟨target, htarget, h⟩ := bind_eq_ok.mp h
  obtain ⟨sourceKey, hsourceKey, h⟩ := bind_eq_ok.mp h
  obtain ⟨targetKey, htargetKey, h⟩ := bind_eq_ok.mp h
  unfold joinsOwners
  rw [field_of_item hsource, field_of_item htarget, ← eq_of_hashable hsourceKey,
    ← eq_of_hashable htargetKey]
  cases hsourceId : owners.lookup sourceKey with
  | none =>
    rw [hsourceId] at h
    cases h
    exact ⟨none, nofun, .stays rfl⟩
  | some sourceId =>
    rw [hsourceId] at h
    cases htargetId : owners.lookup targetKey with
    | none =>
      rw [htargetId] at h
      cases h
      exact ⟨none, nofun, .stays rfl⟩
    | some targetId =>
      rw [htargetId] at h
      dsimp only at h ⊢
      split at h
      · next hsame =>
        cases h
        exact ⟨none, nofun, .stays (by simpa using hsame)⟩
      · next hother =>
        obtain ⟨label, hlabel, h⟩ := bind_eq_ok.mp h
        cases h
        -- only here the map changes, and both ends are places of it already
        obtain ⟨_, hsourceMem, rfl⟩ := exists_of_lookup hsourceId
        obtain ⟨_, htargetMem, rfl⟩ := exists_of_lookup htargetId
        refine ⟨label, fun shown hshown => hshown ▸ hlabel, .adds ?_ (.refl map.places)
          ⟨howned _ hsourceMem, howned _ htargetMem⟩ rfl rfl rfl⟩
        simpa using hother

/-! ## The whole map -/

/-- The map before implicit links are added. -/
def chart (nodes edges findings : List Document) : Outcome SystemMap := do
  let targets ← sinkTargets edges
  let (places, owners) ← nodes.foldlM (addNode targets) ([], [])
  let map ← findings.foldlM addFinding { places }
  edges.foldlM (addEdge owners) map

variable {nodes edges findings : List Document}

theorem sound_empty : Sound {} where
  distinct := List.nodup_nil
  ids := by simp
  ends := by simp
  explicit := by simp

theorem nodes_housed {state : Table Place × Owners}
    (h : nodes.foldlM (addNode targets) ([], []) = .ok state) : Housed state :=
  foldlM_keeps Housed (fun _ _ {_ _} hbefore hstep => (addNode_spec hstep).1 hbefore)
    ⟨sound_empty, by simp⟩ h

theorem nodes_owners {state : Table Place × Owners} (htargets : targets = targetsOf edges)
    (h : nodes.foldlM (addNode targets) ([], []) = .ok state) : state.2 = ownersOf nodes edges := by
  -- seen from its end, the list of owners grows by those of one node after the other
  have hcollects := foldlM_collects (fun state : Table Place × Owners => state.2.reverse)
    (fun node => (ownerOf? targets node).toList.map (node.fieldOrNull "id", ·))
    (fun node _ {before after} hstep => by
      rw [(addNode_spec hstep).2, List.reverse_append]
      cases ownerOf? targets node <;> rfl) h
  rw [List.reverse_nil, List.nil_append] at hcollects
  rw [ownersOf, ← htargets, ← hcollects, List.reverse_reverse]

/-- **What the four runs come to.** The map is sound, its labels are those of findings and edges, and
no way is lost or counted twice. -/
theorem chart_spec (allowed : Document → Prop)
    (hrated : ∀ finding ∈ findings, IsRated finding) (htexts : ∀ text, allowed (.text text))
    (hlabels : ∀ edge ∈ edges, ∀ shown, edgeLabel? edge = .ok (some shown) → allowed shown)
    (h : chart nodes edges findings = .ok map) :
    map.Sound ∧ (∀ link ∈ map.links, ∀ shown ∈ link.labels, allowed shown) ∧
      total map.links =
        edges.countP (joinsOwners (ownersOf nodes edges)) + findings.countP infersSink := by
  obtain ⟨targets, htargets, h⟩ := bind_eq_ok.mp h
  obtain ⟨⟨places, owners⟩, hnodes, h⟩ := bind_eq_ok.mp h
  obtain ⟨found, hfound, hlinked⟩ := bind_eq_ok.mp h
  have hhoused := nodes_housed hnodes
  -- the owners are known once the nodes are read; the places only grow from there
  obtain rfl : owners = ownersOf nodes edges := nodes_owners (sinkTargets_eq htargets) hnodes
  obtain ⟨hsound, hfoundLabels, hcovers, hfoundTotal⟩ := run_advances
    (fun finding hfinding {_ _} _ hstep => by
      obtain ⟨title, hadvances⟩ := addFinding_advances (hrated finding hfinding) hstep
      exact ⟨_, by rintro _ ⟨⟩; exact htexts title, hadvances⟩)
    (fun _ hid => hid) hhoused.sound (by simp) hfound
  obtain ⟨hlast, hlastLabels, _, htotal⟩ := run_advances
    (fun edge hedge {_ _} hcovers hstep => by
      obtain ⟨label, hlabel, hadvances⟩ :=
        addEdge_advances (fun entry hentry => hcovers _ (hhoused.owned entry hentry)) hstep
      exact ⟨label, fun shown hshown => hlabels edge hedge shown (hlabel shown hshown), hadvances⟩)
    hcovers hsound hfoundLabels hlinked
  refine ⟨hlast, hlastLabels, ?_⟩
  rw [htotal, hfoundTotal, Nat.add_comm]
  simp [total]

/-! ## Implicit links -/

/-- A link that stands for no finding and no edge, and counts as one way. -/
structure IsImplied (places : Table Place) (link : Link) : Prop where
  joins : Joins places link
  count : link.count = 1
  implicit : link.isImplicit = true
  critical : link.isCritical = false
  labels : link.labels = [.text "Implicit Flow"]

section ImplicitLinks

variable {map : SystemMap}

theorem completes_joinsInputs (h : map.Closed) : Completes map.joinsInputs := by
  have hlayer {id : String} (hid : map.places.hasKey id = true) :
      ∃ layer, map.layerOf id = .ok layer := by
    obtain ⟨place, hplace⟩ := Option.isSome_iff_exists.mp hid
    exact ⟨place.layer, by rw [layerOf, hplace]⟩
  refine completes_anyM fun link hlink => ?_
  obtain ⟨hsource, htarget⟩ := h.ends link hlink
  obtain ⟨source, hsource⟩ := hlayer hsource
  obtain ⟨target, htarget⟩ := hlayer htarget
  rw [hsource, htarget]
  exact completes_ok _

theorem hasKey_of_mem_idsIn (h : map.Closed) (layer : Layer)
    (hid : id ∈ map.idsIn layer) : map.places.hasKey id = true := by
  obtain ⟨⟨id, place⟩, hentry, rfl⟩ := List.mem_map.mp hid
  exact Option.isSome_iff_exists.mpr
    ⟨place, (Table.get?_eq_some_iff h.distinct).mpr (List.mem_filter.mp hentry).1⟩

/-- Links are only added, and each of them is implied by the places. -/
theorem linkInputs_eq (h : map.Closed) :
    ∃ implied, map.linkInputs = { map with links := map.links ++ implied } ∧
      ∀ link ∈ implied, IsImplied map.places link := by
  unfold linkInputs
  split
  · exact ⟨[], by rw [List.append_nil], by simp⟩
  · next first rest hids =>
    refine ⟨_, rfl, fun link hlink => ?_⟩
    obtain ⟨source, hsource, rfl⟩ := List.mem_map.mp hlink
    refine ⟨⟨hasKey_of_mem_idsIn h .input hsource, hasKey_of_mem_idsIn h .processing ?_⟩,
      rfl, rfl, rfl, rfl⟩
    -- the target is the first processing place, or one that was found among them
    rw [hids]
    cases hentry : (first :: rest).find? _ with
    | none => exact List.mem_cons_self
    | some entry => exact List.mem_of_find?_eq_some hentry

/-- Implicit links are all that is added in the end. -/
theorem withImplicitLinks_eq (h : map.Closed) :
    ∃ implied, map.withImplicitLinks = .ok { map with links := map.links ++ implied } ∧
      ∀ link ∈ implied, IsImplied map.places link := by
  obtain ⟨joins, hjoins⟩ := completes_joinsInputs h
  unfold withImplicitLinks
  rw [hjoins]
  cases joins with
  | true => exact ⟨[], by rw [List.append_nil]; rfl, by simp⟩
  | false =>
    obtain ⟨implied, himplied, hall⟩ := linkInputs_eq h
    exact ⟨implied, congrArg Except.ok himplied, hall⟩

theorem Closed.append (h : map.Closed) {implied : List Link}
    (hall : ∀ link ∈ implied, IsImplied map.places link) :
    Closed { map with links := map.links ++ implied } :=
  ⟨h.distinct, h.ids, fun link hlink =>
    (List.mem_append.mp hlink).elim (h.ends link) fun hnew => (hall link hnew).joins⟩

/-- The implicit links are exactly those that were added, and each of them counts one way. -/
theorem Sound.total_append (h : map.Sound) {implied : List Link}
    (hall : ∀ link ∈ implied, IsImplied map.places link) :
    total (map.links ++ implied) = total map.links +
      (map.links ++ implied).countP fun link => link.isImplicit && !link.isCritical := by
  -- no link of the map counts here, and all further links do
  have hold : map.links.countP (fun link => link.isImplicit && !link.isCritical) = 0 :=
    List.countP_eq_zero.mpr fun link hlink => by simp [h.explicit link hlink]
  have hnew : implied.countP (fun link => link.isImplicit && !link.isCritical) = implied.length :=
    List.countP_eq_length.mpr fun link hlink => by
      simp [(hall link hlink).implicit, (hall link hlink).critical]
  have hcounts : implied.map (·.count) = List.replicate implied.length 1 :=
    List.eq_replicate_iff.mpr ⟨List.length_map _, fun count hcount => by
      obtain ⟨link, hlink, rfl⟩ := List.mem_map.mp hcount
      exact (hall link hlink).count⟩
  rw [total, List.map_append, List.sum_append, List.countP_append, hold, hnew, hcounts]
  simp [total]

end ImplicitLinks

end PrivacyScan.Report.SystemMap
