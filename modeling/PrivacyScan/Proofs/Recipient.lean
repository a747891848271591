import Mathlib.Data.List.Infix
import PrivacyScan.Recipient
import PrivacyScan.Proofs.Text
import PrivacyScan.Proofs.Text.Casing

/-!
# The recipient behind an address

An address may have a scheme before its host, and a port and a path behind it. They are cut off one
after the other, so that only the host decides, and it does so in small letters.
-/

namespace PrivacyScan.Recipient

/-! ## Addresses -/

def endsHost (c : Char) : Bool := c == '/' || c == '?' || c == ':'

/-- Nothing, or a colon with digits behind it. -/
def IsPort (port : String) : Prop :=
  port = "" ∨ ∃ digit digits, port.toList = ':' :: digit :: digits ∧
    ∀ c ∈ digit :: digits, c.isDigit = true

/-- Nothing, or a path, or a query. -/
def IsTail (tail : String) : Prop := ∀ c ∈ tail.toList.head?, c = '/' ∨ c = '?'

variable {host port tail : String}

/-- What may follow a host: it begins with one of the characters that end the host, and not with
what makes a scheme of the host. -/
structure Follows (rest : String) : Prop where
  ends : ∀ c ∈ rest.toList.head?, endsHost c = true
  noScheme : ¬ [':', '/'] <+: rest.toList

/-- A port and a tail behind a host are no part of it. -/
theorem follows_append (hport : IsPort port) (htail : IsTail tail) : Follows (port ++ tail) := by
  rcases hport with rfl | ⟨digit, digits, hport, hdigits⟩
  · rw [String.empty_append]
    constructor
    · intro c hc
      rcases htail c hc with rfl | rfl <;> rfl
    · rintro ⟨rest, hrest⟩
      have hhead := htail ':' (by rw [← hrest]; rfl)
      exact absurd hhead (by decide)
  · constructor
    · intro c hc
      rw [String.toList_append, hport] at hc
      cases hc
      rfl
    · rintro ⟨rest, hrest⟩
      rw [String.toList_append, hport] at hrest
      obtain ⟨-, htwo⟩ := List.cons.inj hrest
      obtain ⟨rfl, -⟩ := List.cons.inj htwo
      exact absurd (hdigits '/' List.mem_cons_self) (by decide)

section Host

variable {scheme rest : String} (hhost : ∀ c ∈ host.toList, endsHost c = false)

include hhost

theorem takeWhile_host (hrest : ∀ c ∈ rest.toList.head?, endsHost c = true) :
    (host ++ rest).toList.takeWhile (!endsHost ·) = host.toList := by
  rw [String.toList_append, List.takeWhile_append_of_pos (by simpa using hhost)]
  cases hlist : rest.toList with
  | nil => simp
  | cons c others =>
    have hc := hrest c (by rw [hlist]; rfl)
    simp [hc]

/-- No address begins like one with a scheme, unless it has one. -/
theorem startsWith_scheme_eq_false (hrest : Follows rest) (name : List Char)
    (hname : ∀ c ∈ name, endsHost c = false) (hscheme : scheme.toList = name ++ [':', '/', '/']) :
    Text.startsWith (host ++ rest) scheme = false := by
  rw [Text.startsWith, Bool.eq_false_iff, ne_eq, List.isPrefixOf_iff_prefix, hscheme]
  rintro ⟨others, hothers⟩
  -- the host is what stands before the colon, so the scheme has to go on behind it
  have hsame : host.toList = name := by
    rw [← takeWhile_host hhost hrest.ends, ← hothers, List.append_assoc,
      List.takeWhile_append_of_pos (by simpa using hname)]
    exact List.append_nil name
  rw [String.toList_append, hsame, List.append_assoc, List.append_cancel_left_eq] at hothers
  exact hrest.noScheme ⟨'/' :: others, hothers⟩

theorem withoutScheme_append (hscheme : scheme ∈ ["", "http://", "https://"])
    (hrest : Follows rest) : withoutScheme (scheme ++ (host ++ rest)) = host ++ rest := by
  have hplain : Text.startsWith (host ++ rest) "http://" = false :=
    startsWith_scheme_eq_false hhost hrest ['h', 't', 't', 'p'] (by simp [endsHost]) rfl
  have hsecure : Text.startsWith (host ++ rest) "https://" = false :=
    startsWith_scheme_eq_false hhost hrest ['h', 't', 't', 'p', 's'] (by simp [endsHost]) rfl
  simp only [List.mem_cons, List.not_mem_nil, or_false] at hscheme
  rcases hscheme with rfl | rfl | rfl
  · simp [withoutScheme, hplain, hsecure]
  · simp [withoutScheme, Text.startsWith, Text.drop, Text.length]
  · simp [withoutScheme, Text.startsWith, Text.drop, Text.length]

/-- The host is read from an address with or without its scheme. -/
theorem hostOf?_address (hscheme : scheme ∈ ["", "http://", "https://"]) (hrest : Follows rest) :
    hostOf? (scheme ++ (host ++ rest)) =
      if Text.contains host "." then some (Text.lower host) else none := by
  have hfree {mark : Char} (hmark : endsHost mark = true) :
      ∀ c ∈ host.toList, (c != mark) = true := by
    intro c hc
    rw [bne_iff_ne]
    rintro rfl
    rw [hhost c hc] at hmark
    cases hmark
  have hcut : Text.before (Text.before (Text.before (host ++ rest) "/") "?") ":" = host := by
    apply String.toList_injective
    rw [Text.toList_before (show ":".toList = [':'] from rfl),
      Text.toList_before (show "?".toList = ['?'] from rfl), Text.toList_before Text.slash_toList,
      String.toList_append, List.takeWhile_append_of_pos (hfree rfl),
      List.takeWhile_append_of_pos (hfree rfl), List.takeWhile_append_of_pos (hfree rfl)]
    cases hlist : rest.toList with
    | nil => simp
    | cons c others =>
      have hc := hrest.ends c (by rw [hlist]; rfl)
      simp only [endsHost, Bool.or_eq_true, beq_iff_eq] at hc
      rcases hc with (rfl | rfl) | rfl <;> simp
  rw [hostOf?, withoutScheme_append hhost hscheme hrest, hcut]

theorem hostOf?_host : hostOf? host = if Text.contains host "." then some (Text.lower host)
    else none := by
  have hbare : Follows "" := ⟨nofun, by decide⟩
  have halone := hostOf?_address hhost List.mem_cons_self hbare
  rwa [String.empty_append, String.append_empty] at halone

/-! ## One recipient for all addresses of a host -/

theorem resolve?_address (hscheme : scheme ∈ ["", "http://", "https://"]) (hrest : Follows rest) :
    resolve? (scheme ++ (host ++ rest)) = resolve? host := by
  rw [resolve?, resolve?, hostOf?_address hhost hscheme hrest, hostOf?_host hhost]

/-- The case of a host plays no part. -/
theorem resolve?_eq_of_map_toLower {other : String}
    (hother : other.toList.map Char.toLower = host.toList.map Char.toLower) :
    resolve? other = resolve? host := by
  have hends := Text.map_eq_of_map_toLower endsHost (by decide) hother
  have hdots := Text.map_eq_of_map_toLower (· == '.') (by decide) hother
  have hfree : ∀ c ∈ other.toList, endsHost c = false := by
    intro c hc
    have hmem : endsHost c ∈ host.toList.map endsHost := hends ▸ List.mem_map_of_mem hc
    obtain ⟨twin, htwin, heq⟩ := List.mem_map.mp hmem
    rw [← heq, hhost twin htwin]
  have hcontains (text : String) :
      Text.contains text "." = true ↔ true ∈ text.toList.map (· == '.') := by
    simp [Text.contains, Text.hasInfix_iff, List.singleton_infix_iff]
  have hsame : Text.contains other "." = Text.contains host "." := by
    rw [Bool.eq_iff_iff, hcontains, hcontains, hdots]
  rw [resolve?, resolve?, hostOf?_host hfree, hostOf?_host hhost, hsame,
    Text.lower_eq_of_map_toLower hother]

end Host

/-- **The recipient depends on the host alone.** An address with a scheme or without one, with a
port and with a path or a query behind it, has the recipient of its host, and so has the host with
its letters of ASCII in any case. -/
theorem resolution_depends_on_host (scheme host port tail : String)
    (hscheme : scheme ∈ ["", "http://", "https://"])
    (hhost : ∀ c ∈ host.toList, c ≠ '/' ∧ c ≠ '?' ∧ c ≠ ':') (hport : IsPort port)
    (htail : IsTail tail) :
    resolve? (scheme ++ host ++ port ++ tail) = resolve? host ∧
      ∀ other : String, other.toList.map Char.toLower = host.toList.map Char.toLower →
        resolve? other = resolve? host := by
  have hfree : ∀ c ∈ host.toList, endsHost c = false := by simpa [endsHost, and_assoc] using hhost
  refine ⟨?_, fun other => resolve?_eq_of_map_toLower hfree⟩
  rw [String.append_assoc, String.append_assoc]
  exact resolve?_address hfree hscheme (follows_append hport htail)

/-- The path has all that could end a host in it, and another address. -/
theorem openai_resolved :
    "https://" ∈ ["", "http://", "https://"] ∧ IsPort ":443" ∧
      IsTail "/v1?next=http://mixpanel.com:80/a" ∧
      resolve? ("https://" ++ "api.OpenAI.com" ++ ":443" ++ "/v1?next=http://mixpanel.com:80/a") =
        resolve? "api.OpenAI.com" ∧
      resolve? "API.openai.COM" = resolve? "api.OpenAI.com" := by
  have hport : IsPort ":443" := .inr ⟨'4', ['4', '3'], rfl, by simp⟩
  have hhost : ∀ c ∈ "api.OpenAI.com".toList, c ≠ '/' ∧ c ≠ '?' ∧ c ≠ ':' :=
    @of_decide_eq_true _ (List.decidableBAll _ _) (by decide)
  have htail : IsTail "/v1?next=http://mixpanel.com:80/a" := by
    rintro c hc
    obtain rfl : '/' = c := Option.some.inj hc
    exact .inl rfl
  obtain ⟨haddress, hcase⟩ := resolution_depends_on_host "https://" "api.OpenAI.com" ":443"
    "/v1?next=http://mixpanel.com:80/a" (by decide) hhost hport htail
  exact ⟨by decide, hport, htail, haddress, hcase "API.openai.COM" (by decide)⟩

end PrivacyScan.Recipient
