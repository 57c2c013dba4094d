import FleetLink.Attribute
import FleetLink.Number.Decimal
import FleetLink.Status.Association
import FleetLink.Time.Moment

/-! The values that rows, filters, settings and documents are made of. A dictionary
keeps its entries in order and may have keys of any kind. -/

namespace FleetLink

open Number Time

inductive Value where
  | null
  | bool (b : Bool)
  | int (n : Int)
  | float (x : Binary64)
  | decimal (d : Decimal)
  | text (s : String)
  | bytes (b : List UInt8)
  | moment (m : Moment)
  | date (d : Date)
  | deviceAttribute (a : Attribute)
  | status (s : AssociationStatus)
  | list (items : List Value)
  | dict (entries : List (Value × Value))
deriving Inhabited

namespace Value

def isNull : Value → Bool
  | .null => true
  | _ => false

/-- Empty, zero and absent values are false, all others true. -/
def truth : Value → Bool
  | .null => false
  | .bool b => b
  | .int n => n != 0
  | .float x => !x.isZero
  | .decimal d => !d.isZero
  | .text s => !s.isEmpty
  | .bytes b => !b.isEmpty
  | .list items => !items.isEmpty
  | .dict entries => !entries.isEmpty
  | .moment _ | .date _ | .deviceAttribute _ | .status _ => true

/-- The text of a value that is one. An attribute stands for its reference and a
status for its event name. -/
def text? : Value → Option String
  | .text s => some s
  | .deviceAttribute a => some a.reference
  | .status s => some s.eventName
  | _ => none

/-- The exact value of a number of any kind. -/
def decimal? : Value → Option Decimal
  | .bool b => some (.ofInt (if b then 1 else 0))
  | .int n => some (.ofInt n)
  | .float x => some (.ofBinary64 x)
  | .decimal d => some d
  | _ => none

/-- Whether two values are one key: equal numbers are, of whatever kind, and so are
equal texts. -/
def sameKey (a b : Value) : Bool :=
  match a.text?, b.text? with
  | some s, some t => s == t
  | some _, none => false
  | none, some _ => false
  | none, none =>
    match a.decimal?, b.decimal? with
    | some x, some y => x.same y
    | some _, none => false
    | none, some _ => false
    | none, none =>
      match a, b with
      | .null, .null => true
      | .bytes x, .bytes y => x == y
      | .date x, .date y => x == y
      | .moment x, .moment y => x.same y
      | _, _ => false

/-- The name of the kind of a value, as type errors give it. -/
def kindName : Value → String
  | .null => "NoneType"
  | .bool _ => "bool"
  | .int _ => "int"
  | .float _ => "float"
  | .decimal _ => "Decimal"
  | .text _ => "str"
  | .bytes _ => "bytes"
  | .moment _ => "datetime"
  | .date _ => "date"
  | .deviceAttribute _ => "DeviceAttribute"
  | .status _ => "AssociationStatus"
  | .list _ => "list"
  | .dict _ => "dict"

/-- The kind's name with the family it belongs to, where the family is spelled out. -/
def fullKindName : Value → String
  | .decimal _ => "decimal.Decimal"
  | .moment _ => "datetime.datetime"
  | .date _ => "datetime.date"
  | value => value.kindName

end Value

end FleetLink
