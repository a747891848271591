import PrivacyScan.Pattern.Parser
import PrivacyScan.Document.Basic

/-!
Recipients of data, by the host that it is sent to: who they are and under which law they stand.
-/

namespace PrivacyScan

structure Recipient where
  provider : String
  category : String
  country : String
  risk : String
  notes : String
deriving Repr, DecidableEq

namespace Recipient

def known : List (String × Recipient) := [
  ("api.openai.com",
    ⟨"OpenAI", "AI_MODEL", "US", "high", "Standard OpenAI API. Data processed in US."⟩),
  ("api.anthropic.com", ⟨"Anthropic", "AI_MODEL", "US", "high", "Anthropic API."⟩),
  ("api.mistral.ai", ⟨"Mistral AI", "AI_MODEL", "EU", "low", "European AI provider (France)."⟩),
  ("sentry.io", ⟨"Sentry", "LOGGING", "US", "medium", "Sentry SaaS. US-hosted by default."⟩),
  ("o450.ingest.sentry.io", ⟨"Sentry", "LOGGING", "US", "medium", "Sentry Ingest."⟩),
  ("analytics.google.com",
    ⟨"Google Analytics", "ANALYTICS", "US", "medium", "Google Analytics."⟩),
  ("api.segment.io", ⟨"Segment", "ANALYTICS", "US", "medium", "Segment (Twilio)."⟩),
  ("heapanalytics.com", ⟨"Heap", "ANALYTICS", "US", "medium", "Heap Analytics."⟩),
  ("mixpanel.com", ⟨"Mixpanel", "ANALYTICS", "US", "medium", "Mixpanel."⟩)]

/-- Clouds whose region does not show in the host. -/
def clouds : List (Pattern × Recipient) := [
  (.ofText r".*\.amazonaws\.com",
    ⟨"AWS", "CLOUD_INFRA", "Region-Dependent", "variable",
      "AWS Service. Region depends on subdomain or config."⟩),
  (.ofText r".*\.blob\.core\.windows\.net",
    ⟨"Azure Blob Storage", "CLOUD_STORAGE", "Region-Dependent", "variable",
      "Azure Storage. Physical location depends on Storage Account region configuration."⟩),
  (.ofText r".*\.azurewebsites\.net",
    ⟨"Azure App Service", "CLOUD_INFRA", "Region-Dependent", "variable", "Azure App Service."⟩),
  (.ofText r"storage\.googleapis\.com",
    ⟨"Google Cloud Storage", "CLOUD_STORAGE", "Region-Dependent", "variable",
      "GCS. Region depends on bucket config."⟩)]

def storageRegion : Pattern := .ofText r"s3\.([a-z0-9-]+)\.amazonaws\.com"

/-- Storage in a region, which gives its country and its risk. -/
def ofRegion (region : String) : Recipient :=
  let (country, risk) :=
    if Text.startsWith region "eu-" then ("EU", "low")
    else if Text.startsWith region "us-" then ("US", "medium")
    else if Text.startsWith region "ap-" then ("APAC", "variable")
    else if Text.startsWith region "sa-" then ("South America", "variable")
    else ("Unknown", "variable")
  ⟨"AWS S3", "CLOUD_STORAGE", country ++ " (" ++ region ++ ")", risk,
    "AWS S3 Bucket in " ++ region⟩

def withoutScheme (address : String) : String :=
  match ["http://", "https://"].find? (Text.startsWith address) with
  | some scheme => Text.drop (Text.length scheme) address
  | none => address

/-- The host of an address in small letters; a host has a dot. -/
def hostOf? (address : String) : Option String :=
  let host := Text.before (Text.before (Text.before (withoutScheme address) "/") "?") ":"
  if Text.contains host "." then some (Text.lower host) else none

def ofHost? (host : String) : Option Recipient :=
  match known.lookup host with
  | some recipient => some recipient
  | none =>
    match storageRegion.search? host with
    | some found => some (ofRegion (found.capture 1))
    | none => (clouds.find? fun (pattern, _) => pattern.occursIn host).map (·.2)

def resolve? (address : String) : Option Recipient := (hostOf? address).bind ofHost?

def toDocument (recipient : Recipient) : Document :=
  .object [("provider", .text recipient.provider), ("category", .text recipient.category),
    ("country", .text recipient.country), ("gdpr_risk", .text recipient.risk),
    ("notes", .text recipient.notes)]

end Recipient

end PrivacyScan
