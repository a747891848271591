import Mathlib.Data.List.Forall2
import PrivacyScan.Graph.Route
import PrivacyScan.Proofs.Pattern.Literal
import PrivacyScan.Proofs.Text

/-!
# Which addresses a route serves

A route is a template: parts between slashes, some of which are parameters, `<name>` or `:name`. A
request is linked to the route when the route serves its address. To find out, the route is escaped,
and the parameters in the escaped text give way to patterns. But they are looked for with a
backslash before their marks, and escaping puts none there.
-/

namespace PrivacyScan.Route

open Pattern (Spells beginsWith)

/-! ## Templates -/

/-- A part of a route, between two slashes. -/
inductive Segment where
  | literal (text : String)
  | angle (name : String)
  | colon (name : String)
deriving Repr, DecidableEq

namespace Segment

def text : Segment → String
  | .literal text => text
  | .angle name => "<" ++ name ++ ">"
  | .colon name => ":" ++ name

def isNameChar (c : Char) : Bool := c.isAlphanum || c == '_'

/-- A literal has none of the marks, and a name is made of letters, digits and underscores. -/
def IsProper : Segment → Prop
  | .literal text => ∀ mark ∈ ['<', '>', ':', '/'], mark ∉ text.toList
  | .angle name | .colon name => name.toList.all isNameChar = true

instance : DecidablePred IsProper
  | .literal text => List.decidableBAll (· ∉ text.toList) ['<', '>', ':', '/']
  | .angle name | .colon name => inferInstanceAs (Decidable (name.toList.all isNameChar = true))

/-- What may stand in a path where the route has this part. -/
def Admits : Segment → String → Prop
  | .literal text, part => part = text
  | .angle _, part | .colon _, part => part ≠ ""

instance : (segment : Segment) → DecidablePred segment.Admits
  | .literal text => fun part => inferInstanceAs (Decidable (part = text))
  | .angle _ | .colon _ => fun part => inferInstanceAs (Decidable (part ≠ ""))

variable {segment : Segment} {c mark : Char}

/-- Only a literal has characters that belong neither to names nor to the marks of parameters. -/
theorem IsProper.literal_of_mem (h : segment.IsProper)
    (hc : c ∈ segment.text.toList) (hname : isNameChar c = false) (hmark : c ∉ ['<', '>', ':']) :
    ∃ text, segment = .literal text := by
  have hother {name : String} (hproper : name.toList.all isNameChar = true) : c ∉ name.toList := by
    intro hmem
    rw [List.all_eq_true.mp hproper c hmem] at hname
    cases hname
  simp only [List.mem_cons, List.not_mem_nil, or_false, not_or] at hmark
  cases segment with
  | literal text => exact ⟨text, rfl⟩
  | angle name => simp [text, String.toList_append, hmark, hother h] at hc
  | colon name => simp [text, String.toList_append, hmark, hother h] at hc

theorem IsProper.slashless (h : segment.IsProper) :
    '/' ∉ segment.text.toList := by
  intro hslash
  obtain ⟨text, rfl⟩ := h.literal_of_mem hslash (by decide) (by decide)
  exact h '/' (by decide) hslash

theorem IsProper.no_pair (h : segment.IsProper)
    (hmark : mark = '<' ∨ mark = ':') : ¬ ['\\', mark] <:+: segment.text.toList := by
  intro hpair
  have hslash : '\\' ∈ segment.text.toList := hpair.subset (by simp)
  obtain ⟨text, rfl⟩ := h.literal_of_mem hslash (by decide) (by decide)
  have hmem : mark ∈ text.toList := hpair.subset (by simp)
  rcases hmark with rfl | rfl
  · exact h '<' (by decide) hmem
  · exact h ':' (by decide) hmem

/-- A text that may stand in place of a part: a digit, where this is a parameter. -/
def filling : Segment → String
  | .literal text => text
  | .angle _ | .colon _ => "0"

theorem admits_filling (segment : Segment) : segment.Admits segment.filling := by
  cases segment with
  | literal text => exact rfl
  | angle name => exact (by decide : "0" ≠ "")
  | colon name => exact (by decide : "0" ≠ "")

theorem of_mem_filling (h : c ∈ segment.filling.toList) :
    c = '0' ∨ ∃ text, segment = .literal text ∧ c ∈ text.toList := by
  cases segment with
  | literal text => exact .inr ⟨text, rfl, h⟩
  | angle name => exact .inl (by simpa [filling] using h)
  | colon name => exact .inl (by simpa [filling] using h)

theorem filling_eq_text_iff (segment : Segment) :
    segment.filling = segment.text ↔ ∃ text, segment = .literal text := by
  cases segment with
  | literal text => exact iff_of_true rfl ⟨text, rfl⟩
  | angle name =>
    refine iff_of_false (fun hsame => ?_) (by simp)
    have hchars := congrArg String.toList hsame
    simp [filling, text, String.toList_append] at hchars
  | colon name =>
    refine iff_of_false (fun hsame => ?_) (by simp)
    have hchars := congrArg String.toList hsame
    simp [filling, text, String.toList_append] at hchars

theorem admits_text (segment : Segment) : segment.Admits segment.text := by
  cases segment with
  | literal text => exact rfl
  | angle name => simp [Admits, text, ← String.toList_eq_nil_iff, String.toList_append]
  | colon name => simp [Admits, text, ← String.toList_eq_nil_iff, String.toList_append]

end Segment

/-- A slash between two texts belongs to no pair of other characters. -/
theorem pair_of_append {first second : Char} {before after : List Char} (hfirst : first ≠ '/')
    (hsecond : second ≠ '/') (h : [first, second] <:+: before ++ '/' :: after) :
    [first, second] <:+: before ∨ [first, second] <:+: after := by
  induction before with
  | nil =>
    rcases List.infix_cons_iff.mp h with hhere | hlater
    · exact absurd (List.cons_prefix_cons.mp hhere).1 hfirst
    · exact .inr hlater
  | cons c before ih =>
    rcases List.infix_cons_iff.mp h with hhere | hlater
    · obtain ⟨rfl, hnext⟩ := List.cons_prefix_cons.mp hhere
      cases before with
      | nil => exact absurd (List.cons_prefix_cons.mp hnext).1 hsecond
      | cons d before =>
        obtain ⟨rfl, _⟩ := List.cons_prefix_cons.mp hnext
        exact .inl (List.prefix_append [first, second] before).isInfix
    · exact (ih hlater).imp_left List.infix_cons

/-- A route with its parameters. -/
structure Template where
  segments : List Segment
  someSegment : segments ≠ []
  proper : ∀ segment ∈ segments, segment.IsProper

namespace Template

variable {template : Template} {path : String} {c : Char}

def text (template : Template) : String := Text.join "/" (template.segments.map (·.text))

/-- The path has as many parts as the route, and each of them may stand in its place. -/
def Admits (template : Template) (path : String) : Prop :=
  List.Forall₂ Segment.Admits template.segments (Text.split path "/")

/-- A route without parameters. -/
def IsFixed (template : Template) : Prop :=
  ∀ segment ∈ template.segments, ∃ text, segment = .literal text

theorem split_text (template : Template) :
    Text.split template.text "/" = template.segments.map (·.text) := by
  have hsome : template.segments.map (·.text) ≠ [] := by simpa using template.someSegment
  unfold text
  rw [Text.split_join Text.slash_toList hsome,
    Text.flatMap_split_eq_self Text.slash_toList]
  intro part hpart
  obtain ⟨segment, hsegment, rfl⟩ := List.mem_map.mp hpart
  exact (template.proper segment hsegment).slashless

theorem admits_text (template : Template) : template.Admits template.text := by
  unfold Admits
  rw [split_text, List.forall₂_map_right_iff, List.forall₂_same]
  exact fun segment _ => segment.admits_text

theorem IsFixed.eq_text (h : template.IsFixed) (hadmits : template.Admits path) :
    path = template.text := by
  have hsame : List.Forall₂ (fun segment part => segment.text = part) template.segments
      (Text.split path "/") := by
    refine ((List.forall₂_and_left _ _).mpr ⟨h, hadmits⟩).imp ?_
    rintro segment part ⟨⟨text, rfl⟩, hpart⟩
    exact hpart.symm
  rw [← List.forall₂_map_left_iff, List.forall₂_eq_eq_eq] at hsame
  rw [← Text.join_split Text.slash_toList path, ← hsame]
  rfl

/-- A path that fits the route: each parameter gives way to a digit. -/
def filling (template : Template) : String :=
  Text.join "/" (template.segments.map (·.filling))

theorem split_filling (template : Template) :
    Text.split template.filling "/" = template.segments.map (·.filling) := by
  have hsome : template.segments.map (·.filling) ≠ [] := by simpa using template.someSegment
  unfold filling
  rw [Text.split_join Text.slash_toList hsome, Text.flatMap_split_eq_self Text.slash_toList]
  intro part hpart hslash
  obtain ⟨segment, hsegment, rfl⟩ := List.mem_map.mp hpart
  rcases Segment.of_mem_filling hslash with hzero | ⟨text, rfl, hown⟩
  · exact absurd hzero (by decide)
  · exact template.proper _ hsegment '/' (by decide) hown

theorem admits_filling (template : Template) : template.Admits template.filling := by
  unfold Admits
  rw [split_filling, List.forall₂_map_right_iff, List.forall₂_same]
  exact fun segment _ => segment.admits_filling

/-- The path has a character of its own only in place of a parameter. -/
theorem of_mem_filling (h : c ∈ template.filling.toList) :
    c = '/' ∨ c = '0' ∨ ∃ text, Segment.literal text ∈ template.segments ∧ c ∈ text.toList := by
  rcases Text.of_mem_join Text.slash_toList h with hslash | ⟨part, hpart, hmem⟩
  · exact .inl hslash
  · obtain ⟨segment, hsegment, rfl⟩ := List.mem_map.mp hpart
    rcases Segment.of_mem_filling hmem with hzero | ⟨text, rfl, hown⟩
    · exact .inr (.inl hzero)
    · exact .inr (.inr ⟨text, hsegment, hown⟩)

theorem mem_text_of_literal {text : String}
    (h : Segment.literal text ∈ template.segments) (hc : c ∈ text.toList) :
    c ∈ template.text.toList :=
  Text.mem_join_of_mem Text.slash_toList (List.mem_map.mpr ⟨_, h, rfl⟩) hc

/-- The path is the route itself only if there is no parameter to give way. -/
theorem isFixed_of_filling_eq (h : template.filling = template.text) : template.IsFixed := by
  have hparts : template.segments.map (·.filling) = template.segments.map (·.text) := by
    rw [← split_filling, h, split_text]
  intro segment hsegment
  exact segment.filling_eq_text_iff.mp (List.map_inj_left.mp hparts segment hsegment)

/-- Every part of the route admits some part of a path that fits. -/
theorem Admits.exists_part (h : template.Admits path) :
    ∀ segment ∈ template.segments, ∃ part ∈ Text.split path "/", segment.Admits part := by
  unfold Admits at h
  generalize template.segments = segments, Text.split path "/" = parts at h
  induction h with
  | nil => nofun
  | cons hfirst _ ih =>
    refine List.forall_mem_cons.mpr ⟨⟨_, List.mem_cons_self, hfirst⟩, fun segment hsegment => ?_⟩
    obtain ⟨part, hpart, hadmits⟩ := ih segment hsegment
    exact ⟨part, List.mem_cons_of_mem _ hpart, hadmits⟩

theorem not_admits_of_lineFeed (h : '\n' ∈ template.text.toList)
    (hline : '\n' ∉ path.toList) : ¬ template.Admits path := by
  intro hadmits
  rcases Text.of_mem_join Text.slash_toList h with hslash | ⟨part, hpart, hmem⟩
  · exact absurd hslash (by decide)
  · obtain ⟨segment, hsegment, rfl⟩ := List.mem_map.mp hpart
    obtain ⟨text, rfl⟩ :=
      (template.proper segment hsegment).literal_of_mem hmem (by decide) (by decide)
    obtain ⟨own, hown, rfl⟩ := hadmits.exists_part _ hsegment
    apply hline
    rw [← Text.join_split Text.slash_toList path]
    exact Text.mem_join_of_mem Text.slash_toList hown hmem

/-- A template has no backslash right before the mark of a parameter. -/
theorem no_pair (template : Template) {mark : Char} (hmark : mark = '<' ∨ mark = ':') :
    ¬ ['\\', mark] <:+: template.text.toList := by
  have hslash : mark ≠ '/' := by
    rcases hmark with rfl | rfl
    · decide
    · decide
  have hproper := template.proper
  unfold text
  rw [Text.toList_join Text.slash_toList]
  generalize template.segments = segments at hproper
  -- the slash between two parts belongs to no pair, so a pair would be within one of them
  induction segments with
  | nil =>
    intro hpair
    simp at hpair
  | cons segment rest ih =>
    obtain ⟨hsegment, hrest⟩ := List.forall_mem_cons.mp hproper
    cases rest with
    | nil => simpa using hsegment.no_pair hmark
    | cons next rest =>
      intro hpair
      rw [List.map_cons, List.map_cons, List.map_cons, List.map_cons, List.intercalate_cons_cons,
        List.append_assoc, List.singleton_append] at hpair
      rcases pair_of_append (by decide) hslash hpair with hfirst | hlater
      · exact hsegment.no_pair hmark hfirst
      · exact ih hrest hlater

end Template

/-! ## The path of an address -/

/-- The path of an address, which may have a scheme and a host before it. -/
inductive HasPath : String → String → Prop where
  | bare (path : String) (hscheme : ¬ "://".toList <:+: path.toList) : HasPath path path
  | full (scheme host path : String) (hscheme : ':' ∉ scheme.toList) (hhost : '/' ∉ host.toList) :
      HasPath (scheme ++ "://" ++ (host ++ "/" ++ path)) ("/" ++ path)
  | hostOnly (scheme host : String) (hscheme : ':' ∉ scheme.toList) (hhost : '/' ∉ host.toList) :
      HasPath (scheme ++ "://" ++ host) "/"

theorem pathOf_eq {address path : String} (h : HasPath address path) : pathOf address = path := by
  have hmark : "://".toList = ':' :: ['/', '/'] := rfl
  unfold pathOf
  cases h with
  | bare path hscheme => rw [Text.cut?_eq_none hscheme]
  | full scheme host path hscheme hhost =>
    rw [Text.cut?_append hmark hscheme]
    dsimp only
    rw [Text.cut?_append Text.slash_toList hhost]
  | hostOnly scheme host hscheme hhost =>
    have hnone : ¬ "/".toList <:+: host.toList := fun hslash => hhost (hslash.subset (by simp))
    rw [Text.cut?_append hmark hscheme]
    dsimp only
    rw [Text.cut?_eq_none hnone]

/-! ## Escaping a route -/

def escapedChar (c : Char) : List Char := if specialChars.contains c then ['\\', c] else [c]

theorem escaped_eq (text : String) :
    escaped text = String.ofList (text.toList.flatMap escapedChar) :=
  rfl

theorem isAlphanum_of_special : ∀ c ∈ specialChars, c.isAlphanum = false := by
  have hall : specialChars.all (fun c => !c.isAlphanum) = true := by decide
  intro c hc
  simpa using List.all_eq_true.mp hall c hc

theorem signs_subset_special : Pattern.signs ⊆ specialChars := by
  decide

theorem escaped_spells (chars : List Char) : Spells (chars.flatMap escapedChar) chars := by
  induction chars with
  | nil => exact .nil
  | cons c rest ih =>
    rw [List.flatMap_cons, escapedChar]
    split
    · next hspecial =>
      exact .escaped (isAlphanum_of_special c (List.contains_iff_mem.mp hspecial)) ih
    · next hplain =>
      exact .plain (fun hsign => hplain (List.contains_iff_mem.mpr (signs_subset_special hsign))) ih

/-- A character that is not escaped comes first in an escaped text only if it is first in the
text. -/
theorem head_of_escaped {mark : Char} (hmark : mark ∉ specialChars) {chars : List Char}
    (h : [mark] <+: chars.flatMap escapedChar) : [mark] <+: chars := by
  cases chars with
  | nil => exact h
  | cons c rest =>
    rw [List.flatMap_cons, escapedChar] at h
    split at h
    · obtain ⟨rfl, _⟩ := List.cons_prefix_cons.mp h
      exact absurd (signs_subset_special (by decide)) hmark
    · obtain ⟨rfl, _⟩ := List.cons_prefix_cons.mp h
      exact List.prefix_append [mark] rest

/-- A backslash that escaping adds is never before a mark, as no mark is escaped. -/
theorem pair_of_escaped {mark : Char} (hmark : mark ∉ specialChars) {chars : List Char}
    (h : ['\\', mark] <:+: chars.flatMap escapedChar) : ['\\', mark] <:+: chars := by
  induction chars with
  | nil => exact h
  | cons c rest ih =>
    rw [List.flatMap_cons, escapedChar] at h
    split at h
    · next hspecial =>
      have hescaped := List.contains_iff_mem.mp hspecial
      rcases List.infix_cons_iff.mp h with hhere | hlater
      · -- the backslash that escapes the character has the character behind it
        obtain ⟨rfl, _⟩ := List.cons_prefix_cons.mp (List.cons_prefix_cons.mp hhere).2
        exact absurd hescaped hmark
      · rcases List.infix_cons_iff.mp hlater with hnext | hlater
        · obtain ⟨rfl, hhead⟩ := List.cons_prefix_cons.mp hnext
          exact (List.cons_prefix_cons.mpr ⟨rfl, head_of_escaped hmark hhead⟩).isInfix
        · exact List.infix_cons (ih hlater)
    · next hplain =>
      rcases List.infix_cons_iff.mp h with hhere | hlater
      · obtain ⟨rfl, _⟩ := List.cons_prefix_cons.mp hhere
        exact absurd (List.contains_iff_mem.mpr (signs_subset_special (by decide))) hplain
      · exact List.infix_cons (ih hlater)

/-- Where the mark has no backslash before it, the parameters behind the mark stay as they are. -/
theorem replaceAll_escaped {parameter : Pattern} {mark : Char} {route : String}
    (hbegins : beginsWith '\\' mark parameter.body = true) (hmark : mark ∉ specialChars)
    (hnone : ¬ ['\\', mark] <:+: route.toList) (replacement : Pattern.Match → String) :
    parameter.replaceAll replacement (escaped route) = escaped route := by
  refine Pattern.replaceAll_eq_self (fun start mustAdvance => ?_) replacement
  refine Pattern.matchFrom?_eq_none hbegins (fun hpair => hnone ?_) start mustAdvance
  rw [escaped_eq, String.toList_ofList] at hpair
  exact pair_of_escaped hmark hpair

/-! ## Serving -/

theorem serves_iff (template : Template) {address : String}
    (hline : '\n' ∉ (pathOf address).toList) :
    serves address template.text = true ↔ pathOf address = template.text := by
  have hangle : angleParameter.replaceAll (fun _ => anyPart) (escaped template.text) =
      escaped template.text :=
    replaceAll_escaped (by decide +kernel) (by decide) (template.no_pair (.inl rfl)) _
  have hcolon : escapedColonParameter.replaceAll (fun _ => anyPart) (escaped template.text) =
      escaped template.text :=
    replaceAll_escaped (by decide +kernel) (by decide) (template.no_pair (.inr rfl)) _
  unfold serves
  dsimp only
  split
  · next hsame => exact iff_of_true rfl (beq_iff_eq.mp hsame)
  · rw [hangle, hcolon, escaped_eq, Pattern.whole_matches_iff (escaped_spells _) hline,
      String.toList_inj]

theorem hasPath_filling (template : Template) : HasPath template.filling template.filling := by
  refine .bare _ fun hscheme => ?_
  have hcolon : ':' ∈ template.filling.toList := hscheme.subset (by decide)
  rcases Template.of_mem_filling hcolon with hslash | hzero | ⟨text, hliteral, hmem⟩
  · exact absurd hslash (by decide)
  · exact absurd hzero (by decide)
  · exact template.proper _ hliteral ':' (by decide) hmem

/-- **A route serves only its own text.** Whatever the address, the route serves it exactly when the
path is the text of the route, with the parameters as they are written there. So the template is
followed for all addresses exactly when there is no parameter, or no path without line feeds that
could fit. -/
theorem route_serves_only_its_own_text (template : Template) :
    (∀ address, '\n' ∉ (pathOf address).toList →
      (serves address template.text = true ↔ pathOf address = template.text)) ∧
    ((∀ address path, HasPath address path → '\n' ∉ path.toList →
      (serves address template.text = true ↔ template.Admits path)) ↔
        template.IsFixed ∨ '\n' ∈ template.text.toList) := by
  have hserves {address path : String} (hpath : HasPath address path) (hline : '\n' ∉ path.toList) :
      serves address template.text = true ↔ path = template.text := by
    rw [← pathOf_eq hpath] at hline ⊢
    exact serves_iff template hline
  refine ⟨fun address hline => serves_iff template hline, ⟨fun hfollowed => ?_, ?_⟩⟩
  · by_cases hfeed : '\n' ∈ template.text.toList
    · exact .inr hfeed
    · -- the path with digits for parameters fits, so it has to be the route itself
      have hline : '\n' ∉ template.filling.toList := by
        intro hmem
        rcases Template.of_mem_filling hmem with hslash | hzero | ⟨text, hliteral, hown⟩
        · exact absurd hslash (by decide)
        · exact absurd hzero (by decide)
        · exact hfeed (Template.mem_text_of_literal hliteral hown)
      have hpath := hasPath_filling template
      have hserved := (hfollowed _ _ hpath hline).mpr template.admits_filling
      exact .inl (Template.isFixed_of_filling_eq ((hserves hpath hline).mp hserved))
  · rintro (hfixed | hfeed) address path hpath hline
    · rw [hserves hpath hline]
      refine ⟨?_, hfixed.eq_text⟩
      rintro rfl
      exact template.admits_text
    · rw [hserves hpath hline]
      refine iff_of_false ?_ (Template.not_admits_of_lineFeed hfeed hline)
      rintro rfl
      exact hline hfeed

/-! ## A route with a parameter

The address of one user fits the route for all users, in either way to write the parameter. -/

def userRoute (parameter : Segment) (h : parameter.IsProper) : Template where
  segments := [.literal "", .literal "users", parameter]
  someSegment := List.cons_ne_nil _ _
  proper := List.forall_mem_cons.mpr ⟨by decide,
    List.forall_mem_cons.mpr ⟨by decide, List.forall_mem_singleton.mpr h⟩⟩

theorem userRoute_serves_its_text :
    HasPath "https://shop.test/users/<id>" "/users/<id>" ∧
      serves "https://shop.test/users/<id>" (userRoute (.angle "id") (by decide)).text = true := by
  have haddress : "https" ++ "://" ++ ("shop.test" ++ "/" ++ "users/<id>") =
      "https://shop.test/users/<id>" := by
    decide
  have hpath : HasPath ("https" ++ "://" ++ ("shop.test" ++ "/" ++ "users/<id>"))
      ("/" ++ "users/<id>") :=
    .full _ _ _ (by decide) (by decide)
  have hline : '\n' ∉ (pathOf "https://shop.test/users/<id>").toList := by decide
  rw [haddress, show "/" ++ "users/<id>" = "/users/<id>" by decide] at hpath
  refine ⟨hpath, ((route_serves_only_its_own_text (userRoute (.angle "id") (by decide))).1
    "https://shop.test/users/<id>" hline).mpr ?_⟩
  decide

/-- The path fits the route, which does not serve it. -/
theorem user_not_served :
    HasPath "/users/7" "/users/7" ∧
      ∀ template ∈ [userRoute (.angle "id") (by decide), userRoute (.colon "id") (by decide)],
        template.Admits "/users/7" ∧ serves "/users/7" template.text = false := by
  have hparts : Text.split "/users/7" "/" = ["", "users", "7"] := by decide
  refine ⟨.bare "/users/7" (by decide +kernel), List.forall_mem_cons.mpr ⟨⟨?_, by decide +kernel⟩,
    List.forall_mem_singleton.mpr ⟨?_, by decide +kernel⟩⟩⟩
  · unfold Template.Admits
    rw [hparts]
    exact .cons rfl (.cons rfl (.cons (by decide) .nil))
  · unfold Template.Admits
    rw [hparts]
    exact .cons rfl (.cons rfl (.cons (by decide) .nil))

end PrivacyScan.Route
