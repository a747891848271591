import PrivacyScan.Severity
import PrivacyScan.Classify.Basic

/-!
Findings: what an analysis reports about a place in a file.
-/

namespace PrivacyScan

/-- What a finding says about the data: a classification, or a record from outside, null when there
is none. -/
inductive Assessment where
  | classified (result : Classification)
  | recorded (document : Document)
deriving Repr, Inhabited

def Assessment.toDocument : Assessment → Document
  | .classified result => result.toDocument
  | .recorded document => document

/-- `fileIsPath` tells a file given as a path, which is in normal form, from one given as a text.
The steps of `flowPath` are texts, unless the finding comes from outside. -/
structure Finding where
  rule : String
  severity : Rating
  file : String
  line : Int
  snippet : String
  assessment : Assessment
  fileIsPath : Bool := false
  dataFlowType : Option String := none
  taintedVariables : List String := []
  taintSources : List (Option String) := []
  url : Option String := none
  metadata : List (String × Document) := []
  sourceNode : Option String := none
  sinkNode : Option String := none
  flowPath : List Document := []
  suggestedFix : Option String := none
  confidenceScore : Float := 1.0
  contextStartLine : Option Int := none
  contextEndLine : Option Int := none
  codeContext : List String := []
deriving Repr, Inhabited

namespace Finding

/-- A file in a report has forward slashes only; a path keeps its backslashes, which are characters
of its names. -/
def reportedFile (finding : Finding) : String :=
  if finding.fileIsPath then finding.file else Text.replace finding.file "\\" "/"

def optionalField (name : String) (value : Document) : List (String × Document) :=
  if value.isTruthy then [(name, value)] else []

/-- The finding as a record. Fields that are empty are left out, apart from those that every finding
has. -/
def toFields (finding : Finding) : List (String × Document) :=
  [("rule", .text finding.rule),
    ("severity", .text finding.severity.label),
    ("file", .text finding.reportedFile),
    ("line", .int finding.line),
    ("snippet", .text finding.snippet),
    ("classification", finding.assessment.toDocument)] ++
  optionalField "data_flow_type" (.ofOption .text finding.dataFlowType) ++
  optionalField "tainted_variables" (.texts finding.taintedVariables) ++
  optionalField "taint_sources" (.list (finding.taintSources.map (.ofOption .text))) ++
  optionalField "url" (.ofOption .text finding.url) ++
  optionalField "metadata" (.object finding.metadata) ++
  optionalField "source_node" (.ofOption .text finding.sourceNode) ++
  optionalField "sink_node" (.ofOption .text finding.sinkNode) ++
  optionalField "flow_path" (.list finding.flowPath) ++
  optionalField "suggested_fix" (.ofOption .text finding.suggestedFix) ++
  [("confidence_score", .float finding.confidenceScore)] ++
  optionalField "context_start_line" (.ofOption .int finding.contextStartLine) ++
  optionalField "context_end_line" (.ofOption .int finding.contextEndLine) ++
  optionalField "code_context" (.texts finding.codeContext)

def toDocument (finding : Finding) : Document := .object finding.toFields

end Finding

end PrivacyScan
