import FleetLink.Value.Dict

/-! Search for a field in a document: depth first, a dictionary that has the field
before its parts, and the first value that is not null. -/

namespace FleetLink

mutual

def Value.search? (field : String) : Value → Option Value
  | .dict entries =>
      match Dict.getText? field entries with
      | some .null => none
      | some value => some value
      | none => searchEntries? field entries
  | .list items => searchItems? field items
  | _ => none

def searchItems? (field : String) : List Value → Option Value
  | [] => none
  | item :: rest =>
      match item.search? field with
      | some value => some value
      | none => searchItems? field rest

def searchEntries? (field : String) : List (Value × Value) → Option Value
  | [] => none
  | (_, value) :: rest =>
      match value.search? field with
      | some found => some found
      | none => searchEntries? field rest

end

end FleetLink
