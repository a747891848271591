import PrivacyScan.Pattern.Parser
import PrivacyScan.Severity

/-!
The rules by which code is said to handle personal data: words and shapes that point to a type of
data, and words that say the data is only mentioned.
-/

namespace PrivacyScan.Classify

def patternsOf (texts : List String) : List Pattern := texts.map Pattern.ofTextIgnoringCase

/-- A type of personal data. The words of `exclusions` in the code or its context rule it out. -/
structure DataRule where
  code : String
  patterns : List Pattern
  variableNames : List String
  exclusions : List String := []
  article : Option String := none
  severity : Severity

/-- A special category of data. A pattern alone does not show it: one of the words of `contexts` has
to be there as well. -/
structure SpecialCategory where
  code : String
  patterns : List Pattern
  contexts : List String
  exclusions : List String := []

def dataRules : List DataRule := [
  { code := "user_id"
    patterns := patternsOf [r"\buser_id\b", r"\buserid\b", r"\buser\.id\b"]
    variableNames := ["user_id", "userId", "userid", "user.id"]
    exclusions := ["correlation", "task_id", "scan_id", "trace_id", "event_type"]
    severity := .info },
  { code := "correlation_id"
    patterns := patternsOf [r"\bcorrelation_id\b", r"\btrace_id\b", r"\brequest_id\b"]
    variableNames := ["correlation_id", "trace_id", "request_id", "tracking_id"]
    severity := .info },
  { code := "email"
    patterns := patternsOf [r"\b[A-Za-z0-9._%+-]+@[A-Za-z0-9.-]+\.[A-Z|a-z]{2,}\b",
      r"\bemail\b(?!\.com|\.de)", r"\bemailAddress\b", r"\buserEmail\b", r"\bmail\b(?!\.)",
      r"\be_mail\b"]
    variableNames := ["email", "user_email", "userEmail", "email_address", "emailAddress", "mail",
      "e_mail", "contactEmail"]
    exclusions := ["email_sent", "emailSent", "email_verified", "emailVerified", "email_enabled",
      "emailEnabled"]
    severity := .medium },
  { code := "name"
    patterns := patternsOf [r"\b(first|last|full)_?name\b", r"\b(first|last|full)Name\b",
      r"\bgivenname\b", r"\bgivenName\b", r"\bsurname\b", r"\bvorname\b", r"\bnachname\b"]
    variableNames := ["name", "first_name", "firstName", "last_name", "lastName", "full_name",
      "fullName", "username", "givenName", "familyName"]
    exclusions := ["project_name", "projectName", "file_name", "fileName", "organization_name",
      "organizationName", "role_name", "roleName"]
    severity := .medium },
  { code := "phone"
    patterns := patternsOf [r"\b(?:\+?1[-.\s]?)?\(?[0-9]{3}\)?[-.\s]?[0-9]{3}[-.\s]?[0-9]{4}\b",
      r"\bphone\b", r"\bphoneNumber\b", r"\bmobile\b", r"\bmobileNumber\b", r"\btel\b",
      r"\btelephone\b"]
    variableNames := ["phone", "phone_number", "phoneNumber", "mobile", "mobileNumber", "telephone",
      "tel"]
    severity := .medium },
  { code := "address"
    patterns := patternsOf [r"\b(street|postal|mailing)_?address\b",
      r"\b(street|postal|mailing)Address\b", r"\bstreet\b.*\baddress\b", r"\bcity\b",
      r"\bzip_?code\b", r"\bzipCode\b", r"\bpostal_?code\b", r"\bpostalCode\b"]
    variableNames := ["address", "street_address", "streetAddress", "postal_address",
      "postalAddress", "city", "zipcode", "zipCode", "postalCode"]
    exclusions := ["ip_address", "ipAddress", "mac_address", "macAddress", "email_address",
      "emailAddress"]
    severity := .medium },
  { code := "organization"
    patterns := patternsOf [r"\borganization_?name\b", r"\borganizationName\b",
      r"\bcompany_?name\b", r"\bcompanyName\b", r"\borg_?name\b", r"\borgName\b"]
    variableNames := ["organization_name", "organizationName", "company_name", "companyName",
      "org_name", "orgName", "company", "organization"]
    exclusions := ["project_name", "projectName"]
    severity := .low },
  { code := "password"
    patterns := patternsOf [r"\bpassword\b", r"\bpasswd\b", r"\bpwd\b", r"\bnewPassword\b",
      r"\boldPassword\b", r"\bconfirmPassword\b", r"\bcredential\b"]
    variableNames := ["password", "passwd", "pwd", "newPassword", "oldPassword", "confirmPassword",
      "password_hash", "hashed_password", "passwordHash", "hashedPassword"]
    exclusions := ["password_reset", "passwordReset", "password_changed", "passwordChanged",
      "password_verified", "passwordVerified"]
    article := some "Art. 32"
    severity := .high },
  { code := "api_key"
    patterns := patternsOf [r"\bapi_key\b", r"\baccess_token\b", r"\brefresh_token\b",
      r"\bauth_token\b", r"\bbearer\s+[A-Za-z0-9._-]{20,}", r"\beyJ[A-Za-z0-9._-]{20,}\b"]
    variableNames := ["api_key", "access_token", "refresh_token", "auth_token", "bearer_token"]
    exclusions := ["token_expired", "token_verified"]
    article := some "Art. 32"
    severity := .high },
  { code := "ssn"
    patterns := patternsOf [r"\bssn\b", r"\bsocial_security\b", r"\b\d{3}-\d{2}-\d{4}\b"]
    variableNames := ["ssn", "social_security_number"]
    severity := .critical },
  { code := "credit_card"
    patterns := patternsOf [r"\b\d{4}[\s-]?\d{4}[\s-]?\d{4}[\s-]?\d{4}\b", r"\bcredit_card\b",
      r"\bcard_number\b", r"\bpan\b"]
    variableNames := ["credit_card", "card_number", "pan", "cc_number"]
    severity := .critical }]

def specialCategories : List SpecialCategory := [
  { code := "health_data"
    patterns := patternsOf [r"\b(health|medical)_data\b",
      r"\b(diagnosis|prescription|treatment|medication)\b", r"\bpatient_record\b",
      r"\bmedical_history\b"]
    contexts := ["patient", "medical", "health", "doctor", "hospital", "clinic"]
    exclusions := ["health_check", "health_status", "healthy"] },
  { code := "biometric"
    patterns := patternsOf [r"\bfingerprint\b", r"\bfacial_recognition\b", r"\biris_scan\b",
      r"\bvoice_print\b", r"\bbiometric_data\b"]
    contexts := ["biometric", "scan", "recognition"] },
  { code := "genetic"
    patterns := patternsOf [r"\bgenetic_data\b", r"\bdna\b", r"\bgenome\b", r"\bgenetic_test\b"]
    contexts := ["genetic", "dna", "genome"] },
  { code := "racial_ethnic"
    patterns := patternsOf [r"\b(race|ethnicity|ethnic_origin)\b"]
    contexts := ["race", "ethnicity", "ethnic", "origin"] },
  { code := "political_opinion"
    patterns := patternsOf [r"\bpolitical_(opinion|affiliation|party)\b"]
    contexts := ["political", "party", "affiliation"] },
  { code := "religious_belief"
    patterns := patternsOf [r"\breligious_(belief|affiliation)\b", r"\breligion\b"]
    contexts := ["religion", "belief", "faith"] },
  { code := "sexual_orientation"
    patterns := patternsOf [r"\bsexual_orientation\b"]
    contexts := ["sexual", "orientation"] },
  { code := "trade_union"
    patterns := patternsOf [r"\btrade_union\b", r"\bunion_member\b"]
    contexts := ["union", "membership"] }]

end PrivacyScan.Classify
