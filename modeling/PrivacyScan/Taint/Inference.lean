import PrivacyScan.Text.Casing
import PrivacyScan.Text.Search

/-!
What a name tells about the data behind it.
-/

namespace PrivacyScan.Taint

/-- Types of personal data with the words that point to them. -/
abbrev Vocabulary := List (String × List String)

/-- The types whose words occur in a text, in the order of the vocabulary. -/
def Vocabulary.typesIn (vocabulary : Vocabulary) (text : String) : List String :=
  (vocabulary.filter fun (_, keywords) => Text.containsAny text keywords).map (·.1)

def nameVocabulary : Vocabulary := [
  ("email", ["email", "e_mail", "mail"]),
  ("password", ["password", "passwd", "pwd", "secret", "token", "key", "auth", "credential",
    "session_id", "jwt", "access_token", "refresh_token", "bearer"]),
  ("name", ["first_name", "last_name", "name", "fullname", "firstname", "lastname", "surname",
    "family_name"]),
  ("id", ["user_id", "customer_id", "id", "uuid", "account_id", "member_id"]),
  ("phone", ["phone", "mobile", "tel", "telephone", "cell", "fax"]),
  ("location", ["address", "location", "latitude", "longitude", "gps", "geo", "city", "country",
    "zip", "postal", "state", "province"]),
  ("ssn", ["ssn", "social_security", "national_id", "tax_id", "insurance_number", "passport",
    "driver_license", "id_card"]),
  ("financial", ["credit_card", "card_number", "cc", "cvv", "iban", "account_number", "bank",
    "credit", "card", "routing_number", "bic", "swift"]),
  ("birth_date", ["birth", "dob", "date_of_birth", "birthday", "age"]),
  ("ip_address", ["ip_address", "remote_addr", "client_ip", "ip"]),
  ("biometric", ["biometric", "fingerprint", "face", "face_encoding", "facial"]),
  ("health", ["health", "medical", "diagnosis", "medication", "blood", "hospital"]),
  ("racial_ethnic", ["race", "ethnic", "ethnicity", "religion", "religious"]),
  ("gender", ["gender", "sex"]),
  ("biometric", ["fingerprint", "face", "biometric", "retina", "iris"]),
  ("health", ["diagnosis", "medication", "blood_type", "medical", "health"]),
  ("demographic", ["ethnicity", "race", "religion", "political", "sexual_orientation"])]

/-- The types that a name and its context point to, both in lower case. -/
def typesOfLowered (name context : String) : List String :=
  match nameVocabulary.typesIn (name ++ " " ++ context) with
  | [] => ["unknown"]
  | types => types

def inferTypes (name : String) (context : String := "") : List String :=
  typesOfLowered (Text.lower name) (Text.lower context)

def scriptVocabulary : Vocabulary := [
  ("email", ["email", "e_mail", "mail"]),
  ("password", ["password", "passwd", "pwd", "secret", "token", "key", "auth", "credential",
    "session_id", "jwt", "access_token", "refresh_token", "bearer"]),
  ("name", ["first_name", "last_name", "fullname", "firstname", "lastname", "surname",
    "family_name", "display_name"]),
  ("id", ["user_id", "customer_id", "uuid", "account_id", "member_id"]),
  ("phone", ["phone", "mobile", "tel", "cell", "fax"]),
  ("location", ["address", "city", "country", "zip", "postal", "street", "state", "province",
    "geo", "lat", "lon"]),
  ("financial", ["creditcard", "credit_card", "card_number", "cc_number", "cvv", "iban",
    "bank_account", "routing_number", "bic", "swift"]),
  ("id", ["ssn", "social_security", "tax_id", "passport", "driver_license", "id_card",
    "national_id"]),
  ("birth_date", ["birth", "dob", "date_of_birth", "birthday", "age"])]

/-- Names of things that configure or serve, which hold no personal data whatever else they say. -/
def serviceWords : List String :=
  ["config", "service", "handler", "manager", "factory", "provider", "module",
    "controller", "rules", "context", "schema"]

def inferScriptTypes (name : String) : List String :=
  let lowered := Text.lower name
  if Text.containsAny lowered serviceWords then [] else scriptVocabulary.typesIn lowered

/-- Words that mark the name of a function whose result no longer identifies anyone. -/
def sanitizerWords : List String :=
  ["hash", "md5", "sha1", "sha256", "sha512", "bcrypt", "scrypt", "anonymize", "mask", "redact",
    "obfuscate", "encrypt", "len", "count", "bool", "exists"]

def isSanitizerName (name : String) : Bool :=
  !name.isEmpty && Text.containsAny (Text.lower name) sanitizerWords

/-- Words in the name of a member that mark its value as personal. -/
def memberWords : List String :=
  ["email", "password", "token", "ssn", "phone", "address", "first_name", "last_name", "user_id",
    "customer_id"]

end PrivacyScan.Taint
