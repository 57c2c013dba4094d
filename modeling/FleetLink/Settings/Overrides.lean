import FleetLink.Text.Case
import FleetLink.Value.Path
import FleetLink.Value.Shared

/-! Settings overridden from the environment. The name of a variable is a lead and the
path of a setting, all joined by double underscores; the path is taken in lower case. -/

namespace FleetLink

/-- The variables of a process, each name once. -/
abbrev Environment := List (String × String)

namespace Overrides

/-- The texts between double underscores. -/
def splitPath : List Char → List (List Char)
  | [] => [[]]
  | '_' :: '_' :: rest => [] :: splitPath rest
  | c :: rest => match splitPath rest with
    | part :: others => (c :: part) :: others
    | [] => [[c]]

/-- The path that a variable's name leads to, if it begins with the lead. -/
def path? (lead name : String) : Option (List String) :=
  let opening := lead.toList ++ ['_', '_']
  if opening.isPrefixOf name.toList then
    some ((splitPath (name.toList.drop opening.length)).map fun part => Text.lower (String.ofList part))
  else none

/-- The overrides with this lead, in the order of the variables. -/
def found (lead : String) (environment : Environment) : List (List String × String) :=
  environment.filterMap fun (name, value) => (path? lead name).map fun path => (path, value)

def apply (entries : Entries) (overrides : List (List String × String)) : Entries :=
  overrides.foldl (fun entries (path, value) => entries.putPath (.text value) path) entries

/-- Overrides where one value may stand in several places. -/
def applyShared (values : Shared) (overrides : List (List String × String)) : Shared :=
  overrides.foldl (fun values (path, value) => values.putPath (.text value) path values.root) values

end Overrides

end FleetLink
