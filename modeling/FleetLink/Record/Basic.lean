import FleetLink.Json.Writer
import FleetLink.Record.Shape
import FleetLink.Status.Sim
import FleetLink.Value.Dict

/-! Records: the checked values of a shape's fields, and the payload written from the
fields that are neither hidden nor absent. -/

namespace FleetLink

open Record Check

/-- Values stand in the order of the shape's fields. -/
structure Record where
  shape : Shape
  values : List FieldValue
deriving DecidableEq, Repr

namespace Record

def FieldKind.check : FieldKind → Value → Checked FieldValue
  | .integer, value => .integer <$> Check.int value
  | .text, value => .text <$> Check.text value
  | .moment, value => .moment <$> Check.moment value
  | .status, value => .status <$> Check.status value
  | .texts, value => .texts <$> listOf Check.text value

/-- A null in an optional field leaves it absent. -/
def Field.checkValue (field : Field) (value : Value) : Checked FieldValue :=
  if value.isNull && !field.required then .ok .absent else field.kind.check value

/-- A field is given under its key or under its name, and the key goes first. -/
def Field.check (field : Field) (entries : Entries) : Checked FieldValue :=
  match entries.getText? field.key with
  | some value => (field.checkValue value).within (.key field.key)
  | none => match entries.getText? field.name with
    | some value => (field.checkValue value).within (.key field.name)
    | none => if field.required then .failed [⟨[.key field.key], .missing⟩] else .ok .absent

def checkFields (entries : Entries) : List Field → Checked (List FieldValue)
  | [] => .ok []
  | field :: rest => List.cons <$> field.check entries <*> checkFields entries rest

/-- Builds a record from entries; those that no field knows are passed over. -/
def build (shape : Shape) (entries : Entries) : Checked Record :=
  Record.mk shape <$> checkFields entries shape.fields

/-- A document must be a dictionary to be a record. -/
def ofValue (shape : Shape) : Value → Checked Record
  | .dict entries => build shape entries
  | _ => .fail .modelType

def FieldValue.toValue : FieldValue → Value
  | .absent => .null
  | .integer n => .int n
  | .text s => .text s
  | .moment m => .moment m
  | .status s => .status s
  | .texts items => .list (items.map .text)

/-- What a payload holds for a value; an absent one is not written. -/
def FieldValue.payload? : FieldValue → Option Value
  | .absent => none
  | .integer n => some (.int n)
  | .text s => some (.text s)
  | .moment m => some (.text m.stampText)
  | .status s => some (.text s.name)
  | .texts items => some (.list (items.map .text))

def fields (record : Record) : List (Field × FieldValue) :=
  record.shape.fields.zip record.values

def value? (record : Record) (name : String) : Option FieldValue :=
  (record.fields.find? (·.1.name == name)).map (·.2)

/-- All fields by name, absent ones as null. -/
def entries (record : Record) : Entries :=
  record.fields.map fun (field, value) => (.text field.name, value.toValue)

def payloadEntry? : Field × FieldValue → Option (Value × Value)
  | (field, value) =>
      if field.hidden then none else value.payload?.map fun shown => (.text field.key, shown)

def payload (record : Record) : Entries :=
  record.fields.filterMap payloadEntry?

def json (record : Record) : String := Json.write (.dict record.payload)

/-- The first text of the payload that holds half a character, which no bytes encode. -/
def unencodable? (record : Record) : Option Text.HalfRun :=
  record.payload.findSome? fun
    | (_, .text s) => Text.halves? s
    | (_, .list items) => items.findSome? fun item => item.text?.bind Text.halves?
    | _ => none

def unencodableMessage (run : Text.HalfRun) : String :=
  "Error serializing to JSON: UnicodeEncodeError: " ++ Text.Utf8.unencodableMessage run

/-- The state of a SIM transaction, read from its stored text. -/
def transactionStatus? (record : Record) : Option SimStatus :=
  match record.value? "tran_status" with
  | some (.text text) => SimStatus.lookup? text
  | _ => none

/-- The user recorded on rows that the platform itself wrote. -/
def systemUser : String := "SuperAdmin"

def associatedBySystem (record : Record) : Bool :=
  record.value? "associated_by" == some (.text systemUser)

end Record

end FleetLink
