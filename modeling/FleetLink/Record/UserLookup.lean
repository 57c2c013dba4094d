import FleetLink.Json.Reader
import FleetLink.Number.IntegerText
import FleetLink.Record.Basic

/-! Requests to the user service: made for one user, or read from JSON. -/

namespace FleetLink.Record

open Check

/-- How far a request's JSON may go. A minus sign takes the place of a digit. -/
def jsonBounds : Json.Bounds where
  depth := 200
  digits negative := if negative then Number.digitLimit - 1 else Number.digitLimit
  halves := false

/-- A filter for one value, left absent when the value is empty. -/
def single (value : Value) : Value := if value.truth then .list [value] else .null

def forUser (userName email : Value) : Checked Record :=
  build .userLookup [(.text "user_names", single userName), (.text "emails", single email)]

def lookupOfJson (text : String) : Checked Record :=
  match Json.read? jsonBounds text with
  | some document => ofValue .userLookup document
  | none => .fail .jsonInvalid

def lookupOfBytes (bytes : List UInt8) : Checked Record :=
  match Text.Utf8.decode bytes with
  | .ok text => lookupOfJson text
  | .error _ => .fail .jsonInvalid

end FleetLink.Record
