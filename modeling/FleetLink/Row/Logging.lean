import FleetLink.Row.Mapping

/-! Mapping a row as it writes to the log. A column that its cursor cannot read, and a
required one that is null, are warned of before the error ends the mapping. -/

namespace FleetLink.Row

open Log Record

/-- Mapping that writes to a log on its way. -/
abbrev MapM := ExceptT MapError (StateM (List Event))

def warn (name : String) (fields : List (String × Value)) : MapM Unit :=
  modify fun log => log ++ [⟨name, .warning, fields⟩]

namespace ColumnSpec
variable (cursor : Cursor) (rowNumber : Value)

def acceptLogging (raw : Value) (spec : ColumnSpec) : MapM Value := do
  if raw.isNull then
    if spec.nullable then return .null
    else
      warn "required_column_null" [("column", .text spec.name), ("row_number", rowNumber)]
      throw (.numbered rowNumber (.missing spec.name rowNumber))
  else match spec.kind.coerce raw with
    | .ok value => return value
    | .error error => throw (coercionFailure spec.name rowNumber error)

def fetchLogging (spec : ColumnSpec) : MapM Value := do
  match cursor.get spec.name with
  | .error fault =>
      warn "cursor_read_failed"
        [("column", .text spec.name), ("row_number", rowNumber), ("error", .text fault.message)]
      throw (.numbered rowNumber (.unreadable spec.name rowNumber (.cursor fault)))
  | .ok raw => spec.acceptLogging rowNumber raw

def readLogging (spec : ColumnSpec) : MapM Value := do
  if spec.projectionOptional then
    match cursor.has spec.name with
    | .error fault => throw (.escaped (.cursor fault))
    | .ok false => return .null
    | .ok true => spec.fetchLogging cursor rowNumber
  else spec.fetchLogging cursor rowNumber

end ColumnSpec

def Schema.readLogging (cursor : Cursor) (rowNumber : Value) : Schema → MapM (List (String × Value))
  | [] => return []
  | spec :: rest => do
      let value ← spec.readLogging cursor rowNumber
      let values ← Schema.readLogging cursor rowNumber rest
      return (spec.target, value) :: values

/-- Makes something of the values of all columns, which writes nothing. -/
def Schema.mapLogging (make : List (String × Value) → Except MapError α) (cursor : Cursor) (rowNumber : Value)
    (schema : Schema) : MapM α := do
  let values ← schema.readLogging cursor rowNumber
  match make values with
  | .ok made => return made
  | .error error => throw error

def Mapper.mapRowLogging (mapper : Mapper) (cursor : Cursor) (rowNumber : Value) : MapM Record :=
  mapper.schema.mapLogging (mapper.record rowNumber) cursor rowNumber

/-- Plain entries by any schema. -/
def Schema.mapRowLogging (schema : Schema) (cursor : Cursor) (rowNumber : Value) : MapM Entries :=
  schema.mapLogging
    (fun values =>
      let entries := targetEntries values
      if entries.has (.text "row_number") then .error .twoRowNumbers
      else .ok ((.text "row_number", rowNumber) :: entries))
    cursor rowNumber

end FleetLink.Row
