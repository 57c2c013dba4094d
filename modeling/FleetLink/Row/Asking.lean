import FleetLink.Row.Mapping

/-! Mapping a row by asking for its columns. Every question to the cursor is an act of its
own, so that whoever answers also learns what is asked, and when. -/

namespace FleetLink.Row

open Record

/-- What answers the questions about the columns of a row. -/
structure Source (m : Type → Type) where
  has : String → m (Except ReadFault Bool)
  get : String → m (Except ReadFault Value)

/-- A cursor whose questions are put down one after another. -/
def Cursor.recorded (cursor : Cursor) : Source (StateM (List Question)) where
  has column := do
    modify (· ++ [.has column])
    return cursor.has column
  get column := do
    modify (· ++ [.get column])
    return cursor.get column

section
variable {m : Type → Type} [Monad m] (source : Source m) (rowNumber : Value)

def ColumnSpec.fetchFrom (spec : ColumnSpec) : ExceptT MapError m Value := do
  match ← source.get spec.name with
  | .error fault => throw (.numbered rowNumber (.unreadable spec.name rowNumber (.cursor fault)))
  | .ok raw => ExceptT.mk (pure (spec.accept rowNumber raw))

def ColumnSpec.readFrom (spec : ColumnSpec) : ExceptT MapError m Value := do
  if spec.projectionOptional then
    match ← source.has spec.name with
    | .error fault => throw (.escaped (.cursor fault))
    | .ok false => return .null
    | .ok true => spec.fetchFrom source rowNumber
  else spec.fetchFrom source rowNumber

def Schema.readFrom : Schema → ExceptT MapError m (List (String × Value))
  | [] => return []
  | spec :: rest => do
      let value ← spec.readFrom source rowNumber
      let values ← Schema.readFrom rest
      return (spec.target, value) :: values

end

end FleetLink.Row
