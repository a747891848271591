import PrivacyScan.Table
import PrivacyScan.Document.Basic

/-!
What is known of variables that hold personal data, and the edges along which it flows.
-/

namespace PrivacyScan.Taint

/-- A variable that holds personal data: which types, where they came from, and whether a sanitizer
has seen them. -/
structure Record where
  name : String
  piiTypes : List String
  sourceLine : Int
  sourceNode : String
  source : Option String := none
  confidence : Float := 1.0
  transformations : List String := []
  context : Option String := none
  flowPath : List String := []
  isSanitized : Bool := false
  sources : List String := []
deriving Repr, Inhabited

namespace Record

/-- Fills in the source from the list of sources, or the list from the source. -/
def withSources (record : Record) : Record :=
  match record.source, record.sources with
  | some source, [] => if source.isEmpty then record else { record with sources := [source] }
  | some source, first :: _ =>
    if source.isEmpty then { record with source := some first } else record
  | none, first :: _ => { record with source := some first }
  | none, [] => record

def toDocument (record : Record) : Document :=
  .object [
    ("variable_name", .text record.name),
    ("pii_types", .texts record.piiTypes),
    ("source_line", .int record.sourceLine),
    ("source_node", .text record.sourceNode),
    ("taint_source", .ofOption .text record.source),
    ("confidence", .float record.confidence),
    ("transformations", .texts record.transformations),
    ("context", .ofOption .text record.context),
    ("flow_path", .texts record.flowPath),
    ("is_sanitized", .bool record.isSanitized),
    ("sources", .texts record.sources)]

end Record

/-- Data that flows from one variable to another, or into a sink. A source that is computed has no
name. -/
structure FlowEdge where
  source : Option String
  target : String
  sourceLine : Int
  targetLine : Int
  flowType : String
  transformation : Option String := none
  context : Option String := none
deriving Repr, DecidableEq

def FlowEdge.toDocument (edge : FlowEdge) : Document :=
  .object [
    ("source_var", .ofOption .text edge.source),
    ("target_var", .text edge.target),
    ("source_line", .int edge.sourceLine),
    ("target_line", .int edge.targetLine),
    ("flow_type", .text edge.flowType),
    ("transformation", .ofOption .text edge.transformation),
    ("context", .ofOption .text edge.context)]

structure Column where
  source : String
  piiTypes : List String
  table : String
deriving Repr, DecidableEq

def Column.toDocument (column : Column) : Document :=
  .object [
    ("source_var", .text column.source),
    ("pii_types", .texts column.piiTypes),
    ("table", .text column.table)]

structure Tracker where
  records : Table Record := []
  edges : List FlowEdge := []
  parameters : Table (List String) := []
  columns : Table Column := []
deriving Repr

namespace Tracker

def record? (tracker : Tracker) (name : String) : Option Record := tracker.records.get? name

def holds (tracker : Tracker) (name : String) : Bool := tracker.records.hasKey name

def addEdge (tracker : Tracker) (edge : FlowEdge) : Tracker :=
  { tracker with edges := tracker.edges ++ [edge] }

end Tracker

end PrivacyScan.Taint
