import FleetLink.Log.Event
import FleetLink.Value.Dict
import FleetLink.Value.Spelling

/-! Filters on device attributes as statement text. The text is made of the references
of the attributes alone; values only ever become parameters. -/

namespace FleetLink.Query

open Log

def andOperator : String := " and "
def orOperator : String := " or "
def defaultPlaceholder : String := "?"

inductive FilterError where
  | emptyArgument
  | noConditions
  | unknownAttribute (identifier : Value)
  | unwritable

def unknownAttributeMessage (identifier : Value) (accepted : List String) : String :=
  "Unknown attribute: " ++ identifier.exact ++ ". Accepted attributes: " ++ ", ".intercalate accepted

def FilterError.message : FilterError → String
  | .emptyArgument => "prefix and operator must be non-empty"
  | .noConditions => "at least one condition is required"
  | .unknownAttribute identifier => unknownAttributeMessage identifier Attribute.names
  | .unwritable => Number.unwritableMessage

/-- The error that names an identifier, as far as it can be written. -/
def FilterError.foreign (identifier : Value) : FilterError :=
  if identifier.isWritable then .unknownAttribute identifier else .unwritable

/-- An attribute is given by itself or by its exact name. -/
def attribute? : Value → Option Attribute
  | .deviceAttribute a => some a
  | value => value.text?.bind Attribute.ofName?

def resolve (identifier : Value) : Except FilterError Attribute :=
  match attribute? identifier with
  | some a => .ok a
  | none => .error (.foreign identifier)

structure Statement where
  sql : String
  params : List Value

def term (placeholder : String) (a : Attribute) : String :=
  a.reference ++ " = " ++ placeholder

/-- The attributes of the conditions, or the first key that is none. -/
def attributes : Entries → Except FilterError (List Attribute)
  | [] => .ok []
  | (key, _) :: rest => do
      let a ← resolve key
      return a :: (← attributes rest)

/-- Appends one term for each condition to the opening text of a statement. -/
def filtered (opening operator placeholder : String) (conditions : Entries) :
    Except FilterError Statement :=
  if opening.isEmpty || operator.isEmpty then .error .emptyArgument
  else if conditions.isEmpty then .error .noConditions
  else do
    let found ← attributes conditions
    return ⟨opening ++ operator.intercalate (found.map (term placeholder)), conditions.map (·.2)⟩

def Statement.prepared (statement : Statement) : Event :=
  ⟨"prepared_sql", .debug,
    [("sql", .text statement.sql), ("param_count", .int statement.params.length)]⟩

end FleetLink.Query
