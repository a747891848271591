import PrivacyScan.Pattern.Parser

/-!
Values that look like secrets: by the name they are given, or by their own shape.
-/

namespace PrivacyScan.Secret

def namePatterns : List (String × Pattern) :=
  [("api_key", r"(api[_-]?key|apikey|api[_-]?token)"),
    ("password", r"(password|passwd|pwd)"),
    ("secret", r"(secret[_-]?key|client[_-]?secret|app[_-]?secret)"),
    ("token",
      r"(access[_-]?token|auth[_-]?token|bearer[_-]?token|refresh[_-]?token|id[_-]?token)"),
    ("aws", r"(aws[_-]?secret|aws[_-]?access|aws[_-]?key)"),
    ("private_key", r"(private[_-]?key|priv[_-]?key|rsa[_-]?key|dsa[_-]?key)"),
    ("database",
      r"(db[_-]?password|database[_-]?password|db[_-]?pass|connection[_-]?string|dsn)"),
    ("jwt", r"(jwt|json[_-]?web[_-]?token)")].map fun (kind, text) =>
      (kind, Pattern.ofTextIgnoringCase text)

def encodedPattern : Pattern := Pattern.ofText r"^[A-Za-z0-9+/=_-]{32,}$"

def isEncoded (value : String) : Bool := (encodedPattern.matchStart? value).isSome

def placeholders : List String := ["your_api_key_here", "changeme", "secret", "password", "todo"]

structure Verdict where
  kind : String
  confidence : Float
deriving Repr

/-- Judges a value by the name that it is given. A name that points to a secret makes one of any
value that is long enough and does not merely stand in for it. -/
def judge? (standIns : List String) (name value : String) : Option Verdict :=
  let isSerious := 8 < Text.length value && !standIns.contains (Text.lower value)
  let named :=
    if isSerious then namePatterns.find? fun (_, pattern) => pattern.occursIn (Text.lower name)
    else none
  match named with
  | some (kind, _) => some { kind, confidence := if isEncoded value then 1.0 else 0.6 }
  | none =>
    if isEncoded value && 32 ≤ Text.length value then some { kind := "token", confidence := 0.9 }
    else none

def verdict? (name value : String) : Option Verdict := judge? placeholders name value

def Verdict.isCertain (verdict : Verdict) : Bool := 0.8 < verdict.confidence

end PrivacyScan.Secret
