import FleetLink.Value.Dict

/-! Writing deep into a dictionary. What stands in the way and is no dictionary is
replaced by one. -/

namespace FleetLink.Entries

def inner (key : String) (entries : Entries) : Entries :=
  match entries.getText? key with
  | some (.dict inner) => inner
  | _ => []

/-- Puts a value at a path of keys; without a path nothing is put. -/
def putPath (value : Value) : List String → Entries → Entries
  | [], entries => entries
  | [key], entries => entries.put (.text key) value
  | key :: rest, entries => entries.put (.text key) (.dict (putPath value rest (entries.inner key)))

end FleetLink.Entries
