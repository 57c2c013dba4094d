import FleetLink.Value.Basic

/-! The columns that are read from a result row, in reading order. -/

namespace FleetLink.Row

/-- How the raw value of a column is read. -/
inductive ColumnKind where
  | string
  | integer
  | timestamp
  | epochMillis
  | associationStatus
  | unknown (name : String)
deriving DecidableEq, Repr

namespace ColumnKind

def known : List ColumnKind := [.associationStatus, .epochMillis, .integer, .string, .timestamp]

def name : ColumnKind → String
  | .string => "string"
  | .integer => "integer"
  | .timestamp => "timestamp"
  | .epochMillis => "epoch_millis"
  | .associationStatus => "association_status"
  | .unknown name => name

def ofName (text : String) : ColumnKind :=
  (known.find? (·.name == text)).getD (.unknown text)

end ColumnKind

/-- A column is required when it is not `nullable`. One that is `projectionOptional`
may be left out of the query and then reads as null. -/
structure ColumnSpec where
  name : String
  kind : ColumnKind := .string
  nullable : Bool := true
  projectionOptional : Bool := false
  field : Option String := none
deriving DecidableEq, Repr

/-- The field that the column fills, named like the column unless it has a name. -/
def ColumnSpec.target (spec : ColumnSpec) : String :=
  match spec.field with
  | some field => if field.isEmpty then spec.name else field
  | none => spec.name

abbrev Schema := List ColumnSpec

namespace Schema

def simDetails : Schema := [
  { name := "tran_id", nullable := false },
  { name := "tran_status" }]

def associationHistory : Schema := [
  { name := "id", kind := .integer, nullable := false },
  { name := "associated_by" },
  { name := "associated_on", kind := .timestamp },
  { name := "association_status", kind := .associationStatus, nullable := false },
  { name := "disassociated_by" },
  { name := "disassociated_on", kind := .timestamp },
  { name := "harman_id" },
  { name := "modified_by" },
  { name := "modified_on", kind := .timestamp },
  { name := "serial_number" },
  { name := "user_id" }]

/-- Not every query for associations selects the last four columns. -/
def association : Schema := associationHistory ++ [
  { name := "factory_data", kind := .integer, field := some "factory_id" },
  { name := "association_type", projectionOptional := true },
  { name := "start_timestamp", kind := .epochMillis, projectionOptional := true },
  { name := "end_timestamp", kind := .epochMillis, projectionOptional := true },
  { name := "software_version", projectionOptional := true }]

end Schema

end FleetLink.Row
