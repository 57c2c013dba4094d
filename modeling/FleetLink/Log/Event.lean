import FleetLink.Value.Basic

/-! Events worth a line in the log: a name, a level and fields of their own. -/

namespace FleetLink.Log

inductive Level where
  | debug
  | info
  | warning
  | error
  | critical
deriving DecidableEq, Repr

def Level.name : Level → String
  | .debug => "debug"
  | .info => "info"
  | .warning => "warning"
  | .error => "error"
  | .critical => "critical"

def Level.severity : Level → Nat
  | .debug => 10
  | .info => 20
  | .warning => 30
  | .error => 40
  | .critical => 50

structure Event where
  name : String
  level : Level
  fields : List (String × Value)

end FleetLink.Log
