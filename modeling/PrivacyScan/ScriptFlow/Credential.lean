import PrivacyScan.ScriptFlow.State
import PrivacyScan.Secret

/-!
Secrets in scripts.
-/

namespace PrivacyScan.ScriptFlow

def secretPattern : Pattern :=
  Pattern.ofText r#"\b([a-zA-Z0-9_$]+)\s*[:=]\s*(["\'])(.*?)\2"#

def secretFinding (script : Script) (line : Line) (name : String) (secret : Secret.Verdict) :
    Finding :=
  let severity := if secret.isCertain then "critical" else "high"
  { script.finding line "HARDCODED_SECRET"
      { piiTypes := [secret.kind, "credentials"], sectors := ["security", "authentication"],
        severity, article := some "Art. 32", legalBasisRequired := true, category := "credentials",
        confidence := secret.confidence,
        reasoning := "Hardcoded " ++ secret.kind ++ " detected in variable '" ++ name ++ "'",
        gdprArticles := ["Art. 32"] } with
    snippet := name ++ " = \"***\"" }

/-- The secret in the first assignment of a line; very long lines are not looked at. -/
def secretOn? (script : Script) (line : Line) : Option Finding := do
  guard (Text.length line.text ≤ 500)
  let found ← secretPattern.search? line.text
  let name := found.capture 1
  let secret ← Secret.judge? (Secret.placeholders ++ ["placeholder"]) name (found.capture 3)
  return secretFinding script line name secret

def findSecrets (script : Script) : List Finding := script.numbered.filterMap (secretOn? script)

end PrivacyScan.ScriptFlow
