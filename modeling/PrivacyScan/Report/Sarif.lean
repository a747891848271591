import PrivacyScan.Number.Whole
import PrivacyScan.Report.Entry

/-!
Reports in the format SARIF, in which tools exchange the results of static analyses: one result for
each finding, and one rule for each rule that a finding names. A rule is described by its first
finding.
-/

namespace PrivacyScan.Report.Sarif

structure Result where
  rule : Document
  severity : String
  message : Document
  file : Document
  line : Document
  snippet : Document

def level (severity : String) : String :=
  match Text.lower severity with
  | "critical" | "high" => "error"
  | "medium" => "warning"
  | _ => "note"

def securitySeverity (severity : String) : String :=
  match Text.lower severity with
  | "critical" => "9.0"
  | "high" => "7.0"
  | "medium" => "5.0"
  | "low" => "3.0"
  | _ => "1.0"

/-- The line of a result; a missing one is the first. -/
def lineNumber (line : Document) : Outcome Int :=
  if !line.isTruthy then .ok 1
  else
    match line with
    | .int value => .ok value
    | .bool _ => .ok 1
    | .float value => .ok (if value < 0 then -(Int.ofNat (-value).toUInt64.toNat)
        else Int.ofNat value.toUInt64.toNat)
    | .text value =>
      match Number.wholeNumber? value with
      | some number => .ok number
      | none => .error (.notAnInteger value)
    | other => .error (.notANumber other.kind)

def resultOf (entry : Entry) : Outcome Result := do
  match entry with
  | .found finding =>
    match finding.assessment with
    | .recorded document => .error (.noMember document.kind "reasoning")
    | .classified classification =>
      return { rule := .text finding.rule, severity := finding.severity.label
               message := .text classification.reasoning, file := .text finding.file
               line := ← .int <$> lineNumber (.int finding.line), snippet := .text finding.snippet }
  | .record document =>
    let classification ← document.get "classification" (.object [])
    let message ← classification.get "reasoning" (.text "Privacy issue detected")
    let severity ← ((document.field? "severity").getD (.text "warning")).asText "lower"
    let rule ← ((document.field? "rule").getD (.text "UNKNOWN")).hashable
    return { rule, severity, message, file := (document.field? "file").getD (.text "")
             line := ← .int <$> lineNumber ((document.field? "line").getD (.int 1))
             snippet := (document.field? "snippet").getD (.text "") }

def firstOfRules : List Result → List Result
  | [] => []
  | result :: rest =>
    result :: (firstOfRules rest).filter (·.rule != result.rule)

def ruleDocument (result : Result) : Document :=
  .object [("id", result.rule), ("name", result.rule),
    ("shortDescription", .object [("text", .text ("Privacy violation: " ++ result.rule.shown))]),
    ("fullDescription", .object [("text", result.message)]),
    ("properties", .object [("security-severity", .text (securitySeverity result.severity))])]

def resultDocument (result : Result) : Document :=
  .object [("ruleId", result.rule), ("level", .text (level result.severity)),
    ("message", .object [("text", result.message)]),
    ("locations", .list [.object [("physicalLocation", .object [
      ("artifactLocation", .object [("uri", result.file)]),
      ("region", .object [("startLine", result.line),
        ("snippet", .object [("text", result.snippet)])])])]])]

def toolName : String := "Privalyse"

def toolVersion : String := "0.3.3"

def document (results : List Result) : Document :=
  .object [("version", .text "2.1.0"),
    ("$schema",
      .text "https://schemastore.azurewebsites.net/schemas/json/sarif-2.1.0-rtm.5.json"),
    ("runs", .list [.object [
      ("tool", .object [("driver", .object [("name", .text toolName),
        ("version", .text toolVersion),
        ("rules", .list ((firstOfRules results).map ruleDocument))])]),
      ("results", .list (results.map resultDocument))]])]

/-- A file given as a path has no form in this format. -/
def checkFile (entry : Entry) : Outcome Unit :=
  match entry with
  | .found finding => if finding.fileIsPath then .error (.notSerializable .path) else .ok ()
  | .record _ => .ok ()

def text (entries : List Entry) : Outcome String := do
  let results ← entries.mapM resultOf
  entries.forM checkFile
  return (document results).pretty

end PrivacyScan.Report.Sarif
