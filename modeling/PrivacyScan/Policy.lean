import PrivacyScan.Document.Access
import PrivacyScan.Text.Casing

/-!
Policies: to which countries and providers data may go. The lists come from a configuration and are
read only when they are asked, so a list with other values than texts is refused then.
-/

namespace PrivacyScan

structure Policy where
  blockedCountries : Document := .list []
  blockedProviders : Document := .list []
  allowedCountries : Document := .list []
  requireSanitization : Document := .bool false
deriving Repr

namespace Policy

/-- Whether one of the names is a part of the text, where both are written in the same case. -/
def names (entries : List Document) (spelled : String → String) (member : String) (text : String) :
    Outcome Bool :=
  match entries with
  | [] => .ok false
  | entry :: rest => do
    if Text.contains text (spelled (← entry.asText member)) then return true
    else names rest spelled member text

/-- A blocked country is refused in any case; a list of allowed ones refuses all others. -/
def allowsCountry (policy : Policy) (country : Document) : Outcome Bool := do
  if !country.isTruthy then return true
  let code := Text.upper (← country.asText "upper")
  if ← names (← policy.blockedCountries.elements) Text.upper "upper" code then return false
  if !policy.allowedCountries.isTruthy then return true
  names (← policy.allowedCountries.elements) Text.upper "upper" code

def allowsProvider (policy : Policy) (provider : Document) : Outcome Bool := do
  if !provider.isTruthy then return true
  let blocked ← policy.blockedProviders.elements
  if blocked.isEmpty then return true
  let name ← provider.asText "lower"
  return !(← names blocked Text.lower "lower" (Text.lower name))

def toDocument (policy : Policy) : Document :=
  .object [("blocked_countries", policy.blockedCountries),
    ("blocked_providers", policy.blockedProviders),
    ("allowed_countries", policy.allowedCountries),
    ("require_sanitization_for_ai", policy.requireSanitization)]

end Policy

end PrivacyScan
