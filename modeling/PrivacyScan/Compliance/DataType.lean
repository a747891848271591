import PrivacyScan.Document.Access
import PrivacyScan.Text.Casing

/-!
Names of data types in normal form, so that findings of different analyses can be compared.
-/

namespace PrivacyScan.Compliance

/-- Names that data types go by, with the name in normal form. -/
def knownTypes : List (String × String) := [
  ("email", "email"), ("e-mail", "email"), ("email_address", "email"), ("phone", "phone"),
  ("phone_number", "phone"), ("telephone", "phone"), ("name", "name"), ("full_name", "name"),
  ("first_name", "name"), ("last_name", "name"), ("username", "user_id"), ("user_id", "user_id"),
  ("userid", "user_id"), ("address", "address"), ("street_address", "address"),
  ("postal_address", "address"), ("ip_address", "ip_address"), ("ip", "ip_address"),
  ("geolocation", "geolocation"), ("location", "geolocation"), ("gps", "geolocation"),
  ("credit_card", "credit_card"), ("creditcard", "credit_card"), ("card_number", "credit_card"),
  ("iban", "iban"), ("bank_account", "iban"), ("ssn", "ssn"), ("social_security", "ssn"),
  ("passport", "passport"), ("passport_number", "passport"), ("drivers_license", "drivers_license"),
  ("license", "drivers_license"), ("health", "health_data"), ("health_data", "health_data"),
  ("medical", "health_data"), ("medical_data", "health_data"), ("biometric", "biometric"),
  ("biometric_data", "biometric"), ("fingerprint", "biometric"), ("facial", "biometric"),
  ("genetic", "genetic"), ("genetic_data", "genetic"), ("dna", "genetic"),
  ("racial", "racial_ethnic"), ("ethnic", "racial_ethnic"), ("race", "racial_ethnic"),
  ("ethnicity", "racial_ethnic"), ("political", "political_opinion"),
  ("political_opinion", "political_opinion"), ("religious", "religious_belief"),
  ("religion", "religious_belief"), ("religious_belief", "religious_belief"),
  ("trade_union", "trade_union"), ("union", "trade_union"), ("sexual", "sexual_orientation"),
  ("sexual_orientation", "sexual_orientation"), ("criminal", "criminal_record"),
  ("criminal_record", "criminal_record"), ("conviction", "criminal_record"),
  ("password", "password"), ("pwd", "password"), ("credential", "password"), ("token", "api_key"),
  ("api_key", "api_key"), ("apikey", "api_key"), ("secret", "api_key"), ("device_id", "device_id"),
  ("deviceid", "device_id"), ("cookie", "cookie_id"), ("cookie_id", "cookie_id")]

/-- A name in small letters, with underscores for blanks and dashes. -/
def plainName (name : String) : String :=
  Text.replace (Text.replace (Text.trim (Text.lower name)) " " "_") "-" "_"

/-- The normal form of a name: by the table, or by the first entry that shares a part with it, or
else the name itself. -/
def normalType (name : String) : String :=
  let plain := plainName name
  match knownTypes.lookup plain with
  | some type => type
  | none =>
    match knownTypes.find? fun (key, _) => Text.contains plain key || Text.contains key plain with
    | some (_, type) => type
    | none => plain

def normalTypes (names : List String) : List String := Text.sortedDistinct (names.map normalType)

/-- The texts in a list from outside; a single text stands for a list of one. -/
def textsOf (names : Document) : Outcome (List String) := do
  (← names.listed.elements).mapM (·.asText "lower")

def normalTypesOf (names : Document) : Outcome (List String) := normalTypes <$> textsOf names

end PrivacyScan.Compliance
