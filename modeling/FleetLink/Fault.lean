import FleetLink.Value.Basic

/-! Failures of outside parties: of a database driver, of a web server or of the way
to either. They are carried on unchanged. -/

namespace FleetLink

/-- `malformed` tells whether the failure says that some data could not be read. -/
structure Fault where
  name : String
  text : String
  malformed : Bool
deriving DecidableEq, Repr

end FleetLink
