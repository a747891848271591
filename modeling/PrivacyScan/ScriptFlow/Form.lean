import PrivacyScan.ScriptFlow.State

/-!
Form fields that collect personal data.
-/

namespace PrivacyScan.ScriptFlow

structure FormField where
  piiType : String
  severity : String
  category : String
  description : String
  patterns : List Pattern

/-- A variable or a property of one of these names. -/
def namedShapes (names : String) : List String :=
  [r"\b(" ++ names ++ r#")\s*[:=]\s*['\"]"#, r"\b(" ++ names ++ r")\s*:\s*\{"]

/-- An attribute of an input element. -/
def attributeShape (label value : String) : String :=
  label ++ r#"\s*=\s*['\"]"# ++ value ++ r#"['\"]"#

/-- A text shown to the user that has one of these words. -/
def hintShapes (words : String) : List String :=
  ["placeholder", "label", "aria-label"].map fun label =>
    attributeShape label (".*(" ++ words ++ ").*")

def formField (piiType severity category description names words : String)
    (attributes : List String) : FormField :=
  { piiType, severity, category, description
    patterns :=
      (namedShapes names ++ attributes ++ hintShapes words).map Pattern.ofTextIgnoringCase }

/-- A field whose name attribute starts with one of the words of its hints. -/
def namedField (piiType severity category description names words : String)
    (attributes : List String := []) : FormField :=
  formField piiType severity category description names words
    (attributes ++ [attributeShape "name" ("(" ++ words ++ ").*")])

def formFields : List FormField := [
  { piiType := "name", severity := "medium", category := "personal_data"
    description := "Personal name field detected"
    patterns := [Pattern.ofTextIgnoringCase (
      r"\b(firstname|first[_-]?name|lastname|last[_-]?name|fullname|full[_-]?name|givenname|" ++
      r"familyname|surname|displayname)\s*[:=]\s*")] },
  formField "password" "high" "credentials" "Password field detected"
    "password|pwd|passphrase|newPassword|oldPassword|confirmPassword|passwd"
    "password|pwd|passphrase"
    [attributeShape "type" "password", attributeShape "name" "password"],
  formField "email" "medium" "contact_data" "Email address field detected"
    "email|emailAddress|userEmail|contactEmail|mail"
    "email|e-mail"
    [attributeShape "type" "email", attributeShape "name" "email"],
  namedField "phone" "medium" "contact_data" "Phone number field detected"
    "phone|phoneNumber|mobile|telephone|contactNumber|tel"
    "phone|mobile|tel"
    [attributeShape "type" "tel"],
  namedField "business_data" "low" "business_data" "Organization/company field detected"
    ("organizationName|organization[_-]?name|companyName|company[_-]?name|orgName|company|" ++
      "organization|employer")
    "company|organization|employer",
  namedField "location" "medium" "location_data" "Address/location field detected"
    ("address|street|streetAddress|city|zipCode|postalCode|postCode|country|state|province|" ++
      "location")
    "address|street|city|zip|postal|country",
  namedField "financial" "high" "financial_data" "Financial data field detected"
    "creditCard|credit[_-]?card|cardNumber|card[_-]?number|cvv|cvc|iban|account[_-]?number"
    "card|cc|cvv|iban|account",
  namedField "id" "high" "identification" "Government ID field detected"
    ("ssn|social[_-]?security|taxId|tax[_-]?id|nationalId|national[_-]?id|passport|" ++
      "driver[_-]?license")
    "ssn|tax|passport|license",
  namedField "birth_date" "medium" "personal_data" "Birth date field detected"
    ("birthDate|birth[_-]?date|dateOfBirth|date[_-]?of[_-]?birth|dob|birthday|birthYear|" ++
      "birth[_-]?year")
    "birth|dob"]

/-- The field of one kind on a line, by the first shape that fits. -/
def formFieldOn? (script : Script) (line : Line) (field : FormField) : Option Finding :=
  (field.patterns.findSome? (·.search? line.text)).map fun found =>
    script.finding line ("FORM_FIELD_" ++ Text.upper field.piiType)
      { piiTypes := [field.piiType], category := field.category, severity := field.severity,
        confidence := 0.9, article := some "Art. 6", legalBasisRequired := true, sectors := [],
        reasoning := field.description }
      [.text "User Input (Form)", .text ((found.capture? 1).getD field.piiType), .text "Form State"]

def findFormFields (script : Script) : List Finding :=
  script.numbered.flatMap fun line => formFields.filterMap (formFieldOn? script line)

end PrivacyScan.ScriptFlow
