import PrivacyScan.ScriptFlow.State

/-!
Scripts of third parties that track visitors, which may run only with consent.
-/

namespace PrivacyScan.ScriptFlow

structure TrackingScript where
  name : String
  pattern : Pattern
  description : String

def trackingScripts : List TrackingScript := [
  { name := "GOOGLE_ANALYTICS"
    pattern := Pattern.ofText r"\b(ga\('create'|gtag\('config'|googletagmanager\b)"
    description := "Google Analytics/Tag Manager detected" },
  { name := "FACEBOOK_PIXEL", pattern := Pattern.ofText r"\bfbq\('init'"
    description := "Facebook Pixel detected" },
  { name := "MIXPANEL", pattern := Pattern.ofText r"\bmixpanel\.init\b"
    description := "Mixpanel analytics detected" },
  { name := "HOTJAR", pattern := Pattern.ofText r"\bhj\('identify'"
    description := "Hotjar recording detected" },
  { name := "SEGMENT", pattern := Pattern.ofText r"\banalytics\.load\b"
    description := "Segment analytics detected" }]

def consentPattern : Pattern :=
  Pattern.ofTextIgnoringCase r"if\s*\(.*(consent|accepted|allowed|cookie|banner|agreed)"

/-- A tracking script, less grave when one of the five lines before asks for consent. -/
def trackingFinding (script : Script) (line : Line) (tracking : TrackingScript) : Finding :=
  let asksConsent := (script.before line 5).any consentPattern.occursIn
  script.finding line ("TRACKING_" ++ tracking.name)
    { piiTypes := ["tracking_data", "online_identifiers"], sectors := ["marketing"],
      severity := if asksConsent then "low" else "medium", article := some "Art. 6 / ePrivacy",
      legalBasisRequired := true, category := "tracking",
      confidence := if asksConsent then 0.6 else 0.95,
      reasoning := if asksConsent then
          tracking.description ++
            " detected inside a potential consent check. Verify logic manually."
        else
          tracking.description ++
            ". Ensure this is loaded only AFTER explicit user consent (GDPR/ePrivacy)." }

def findTracking (script : Script) : List Finding :=
  script.numbered.flatMap fun line =>
    (trackingScripts.filter (·.pattern.occursIn line.text)).map (trackingFinding script line)

end PrivacyScan.ScriptFlow
