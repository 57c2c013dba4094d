import FleetLink.Fault
import FleetLink.Log.Event
import FleetLink.Record.Basic
import FleetLink.Row.Coercion
import FleetLink.Row.Labelled

/-! Mapping one result row to a record. The columns of a schema are read in order, and
the first one that cannot be read decides the error. Nulls are kept where a column
allows them. -/

namespace FleetLink.Row

open Check Log Record

inductive ReadFault where
  | lookup (error : LookupError)
  | foreign (fault : Fault)

def ReadFault.message : ReadFault → String
  | .lookup error => error.message
  | .foreign fault => fault.text

/-- A row as its readers see it; both questions may fail. -/
structure Cursor where
  has : String → Except ReadFault Bool
  get : String → Except ReadFault Value

def LabelledRow.cursor (row : LabelledRow) : Cursor where
  has column := .ok (row.has (.text column))
  get column := (row.get (.text column)).mapError .lookup

inductive ReadCause where
  | cursor (fault : ReadFault)
  | coercion (error : CoercionError)

def ReadCause.message : ReadCause → String
  | .cursor fault => fault.message
  | .coercion error => error.message

/-- An error that names its row is lost where the number of the row cannot be written. -/
inductive MapError where
  | missing (column : String) (rowNumber : Value)
  | unreadable (column : String) (rowNumber : Value) (cause : ReadCause)
  | escaped (cause : ReadCause)
  | unwritable (lost : MapError)
  | twoRowNumbers
  | invalid (shape : Shape) (issues : List Issue)

/-- The message of a column that cannot be read, with the reason if there is one. -/
def unreadableMessage (column : String) (rowNumber : Value) (reason : String) : String :=
  "Failed to read column '" ++ column ++ "' (row " ++ rowNumber.plain ++ ")" ++
    if reason.isEmpty then "" else ": " ++ reason

def missingMessage (column : String) (rowNumber : Value) : String :=
  "Required column '" ++ column ++ "' is null (row " ++ rowNumber.plain ++ ")"

def MapError.message : MapError → String
  | .missing column rowNumber => missingMessage column rowNumber
  | .unreadable column rowNumber cause => unreadableMessage column rowNumber cause.message
  | .escaped cause => cause.message
  | .unwritable _ => Number.unwritableMessage
  | .twoRowNumbers => "dict() got multiple values for keyword argument 'row_number'"
  | .invalid .. => ""

/-- What a failed mapping writes to the log, which it does before its message is worded. A
value that cannot be coerced writes nothing. -/
def MapError.events : MapError → List Event
  | .missing column rowNumber =>
      [⟨"required_column_null", .warning, [("column", .text column), ("row_number", rowNumber)]⟩]
  | .unreadable column rowNumber (.cursor fault) =>
      [⟨"cursor_read_failed", .warning,
        [("column", .text column), ("row_number", rowNumber), ("error", .text fault.message)]⟩]
  | .unwritable lost => lost.events
  | _ => []

/-- An error that names the row, as far as the number of the row can be written. -/
def MapError.numbered (rowNumber : Value) (error : MapError) : MapError :=
  if rowNumber.isWritable then error else .unwritable error

/-- Errors that blame the value become errors of the column, others pass unchanged. -/
def coercionFailure (column : String) (rowNumber : Value) (error : CoercionError) : MapError :=
  if error.blamesValue then .numbered rowNumber (.unreadable column rowNumber (.coercion error))
  else .escaped (.coercion error)

/-- The value of a column from what the cursor delivered for it. -/
def ColumnSpec.accept (spec : ColumnSpec) (rowNumber raw : Value) : Except MapError Value :=
  if raw.isNull then
    if spec.nullable then .ok .null else .error (.numbered rowNumber (.missing spec.name rowNumber))
  else (spec.kind.coerce raw).mapError (coercionFailure spec.name rowNumber)

inductive Question where
  | has (column : String)
  | get (column : String)
deriving DecidableEq, Repr

/-- A result and the questions that were put to the cursor for it. -/
structure Reading (α : Type) where
  asked : List Question
  outcome : Except MapError α

def ColumnSpec.fetch (cursor : Cursor) (rowNumber : Value) (spec : ColumnSpec) : Except MapError Value :=
  match cursor.get spec.name with
  | .error fault => .error (.numbered rowNumber (.unreadable spec.name rowNumber (.cursor fault)))
  | .ok raw => spec.accept rowNumber raw

def ColumnSpec.read (cursor : Cursor) (rowNumber : Value) (spec : ColumnSpec) : Reading Value :=
  if spec.projectionOptional then
    match cursor.has spec.name with
    | .error fault => ⟨[.has spec.name], .error (.escaped (.cursor fault))⟩
    | .ok false => ⟨[.has spec.name], .ok .null⟩
    | .ok true => ⟨[.has spec.name, .get spec.name], spec.fetch cursor rowNumber⟩
  else ⟨[.get spec.name], spec.fetch cursor rowNumber⟩

/-- Reads the columns in order and stops at the first that fails. -/
def Schema.read (cursor : Cursor) (rowNumber : Value) : Schema → Reading (List (String × Value))
  | [] => ⟨[], .ok []⟩
  | spec :: rest =>
      let first := spec.read cursor rowNumber
      match first.outcome with
      | .error error => ⟨first.asked, .error error⟩
      | .ok value =>
          let others := Schema.read cursor rowNumber rest
          ⟨first.asked ++ others.asked, ((spec.target, value) :: ·) <$> others.outcome⟩

/-- The values by target; of two columns with one target the last counts. -/
def targetEntries (values : List (String × Value)) : Entries :=
  .ofList (values.map fun (target, value) => (.text target, value))

/-- What is read into which record. Vehicles have no identity of their own yet, so
that of their device is taken for it where `vehicleFromDevice` is set. -/
structure Mapper where
  schema : Schema
  shape : Shape
  vehicleFromDevice : Bool

namespace Mapper

def simDetails : Mapper := ⟨.simDetails, .simDetails, false⟩
def associationHistory : Mapper := ⟨.associationHistory, .associationHistory, false⟩
def association : Mapper := ⟨.association, .association, true⟩

def finish (mapper : Mapper) (values : Entries) : Entries :=
  if mapper.vehicleFromDevice then
    values.put (.text "vehicle_id") ((values.getText? "harman_id").getD .null)
  else values

def record (mapper : Mapper) (rowNumber : Value) (values : List (String × Value)) : Except MapError Record :=
  let entries := (.text "row_number", rowNumber) :: mapper.finish (targetEntries values)
  match Record.build mapper.shape entries with
  | .ok record => .ok record
  | .failed issues => .error (.invalid mapper.shape issues)

def mapRow (mapper : Mapper) (cursor : Cursor) (rowNumber : Value) : Reading Record :=
  let values := mapper.schema.read cursor rowNumber
  ⟨values.asked, values.outcome.bind (mapper.record rowNumber)⟩

end Mapper

/-- Maps a row to plain entries by any schema. -/
def Schema.mapRow (schema : Schema) (cursor : Cursor) (rowNumber : Value) : Reading Entries :=
  let values := schema.read cursor rowNumber
  ⟨values.asked, values.outcome.bind fun values =>
    let entries := targetEntries values
    if entries.has (.text "row_number") then .error .twoRowNumbers
    else .ok ((.text "row_number", rowNumber) :: entries)⟩

end FleetLink.Row
