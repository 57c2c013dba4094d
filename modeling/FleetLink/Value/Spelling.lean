import FleetLink.Number.IntegerText
import FleetLink.Text.Quoted
import FleetLink.Time.IsoText
import FleetLink.Value.Basic

/-! How values are spelled in messages and texts. The plain spelling of a value is what
stands in running text; the exact one tells values of different kinds apart and is
used inside lists and dictionaries. A value that holds too long an integer has neither. -/

namespace FleetLink

open Text Time

def Attribute.label (a : Attribute) : String := "DeviceAttribute." ++ a.name

def AssociationStatus.label (status : AssociationStatus) : String :=
  "AssociationStatus." ++ status.name

def call (name : String) (arguments : List String) : String :=
  name ++ "(" ++ ", ".intercalate arguments ++ ")"

/-- Microseconds are given when there are any, and seconds when either is. -/
def Time.Moment.exact (moment : Moment) : String :=
  let civil := moment.civil
  let seconds := moment.secondOfDay
  let fields := [civil.year, civil.month, civil.day, seconds / 3600, seconds / 60 % 60]
  let tail :=
    if moment.micro = 0 then if seconds % 60 = 0 then [] else [seconds % 60]
    else [seconds % 60, moment.micro]
  let zone := match moment.offset with
    | none => []
    | some 0 => ["tzinfo=datetime.timezone.utc"]
    | some shift => ["tzinfo=" ++ call "datetime.timezone" [spanText shift]]
  call "datetime.datetime" ((fields ++ tail).map toString ++ zone)

def Time.Date.exact (date : Date) : String :=
  call "datetime.date" ([date.civil.year, date.civil.month, date.civil.day].map toString)

def boolText (b : Bool) : String := if b then "True" else "False"

def member (label text : String) : String := "<" ++ label ++ ": " ++ quoted text ++ ">"

mutual

def Value.exact : Value → String
  | .null => "None"
  | .bool b => boolText b
  | .int n => toString n
  | .float x => x.text
  | .decimal d => call "Decimal" [quoted d.text]
  | .text s => quoted s
  | .bytes b => quotedBytes b
  | .moment m => m.exact
  | .date d => d.exact
  | .deviceAttribute a => member a.label a.reference
  | .status s => member s.label s.eventName
  | .list items => "[" ++ ", ".intercalate (exactItems items) ++ "]"
  | .dict entries => "\x7b" ++ ", ".intercalate (exactEntries entries) ++ "\x7d"

def exactItems : List Value → List String
  | [] => []
  | item :: rest => item.exact :: exactItems rest

def exactEntries : List (Value × Value) → List String
  | [] => []
  | (key, value) :: rest => (key.exact ++ ": " ++ value.exact) :: exactEntries rest

end

mutual

/-- Whether the value can be spelled: no integer in it has too many digits. -/
def Value.isWritable : Value → Bool
  | .int n => Number.isWritable n
  | .list items => areWritable items
  | .dict entries => entriesAreWritable entries
  | _ => true

def areWritable : List Value → Bool
  | [] => true
  | item :: rest => item.isWritable && areWritable rest

def entriesAreWritable : List (Value × Value) → Bool
  | [] => true
  | (key, value) :: rest => key.isWritable && value.isWritable && entriesAreWritable rest

end

def Value.plain : Value → String
  | .text s => s
  | .decimal d => d.text
  | .moment m => m.isoText ' '
  | .date d => d.isoText
  | .deviceAttribute a => a.label
  | .status s => s.label
  | value => value.exact

/-- The message of an operation that a value's kind does not have. -/
def lacksOperation (value : Value) (operation : String) : String :=
  "'" ++ value.fullKindName ++ "' object has no attribute '" ++ operation ++ "'"

end FleetLink
