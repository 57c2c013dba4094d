import FleetLink.Text.Blank
import FleetLink.Text.Case

/-! The states of a SIM transaction, found by name or by display text in any letter case. -/

namespace FleetLink

inductive SimStatus where
  | completed
  | inProgress
  | pending
  | canceled
  | rejected
  | failed
deriving DecidableEq, Repr

namespace SimStatus

def all : List SimStatus := [.completed, .inProgress, .pending, .canceled, .rejected, .failed]

def name : SimStatus → String
  | .completed => "COMPLETED"
  | .inProgress => "IN_PROGRESS"
  | .pending => "PENDING"
  | .canceled => "CANCELED"
  | .rejected => "REJECTED"
  | .failed => "FAILED"

def display : SimStatus → String
  | .completed => "Completed"
  | .inProgress => "In Progress"
  | .pending => "Pending"
  | .canceled => "Canceled"
  | .rejected => "Rejected"
  | .failed => "Failed"

def lookup? (text : String) : Option SimStatus :=
  let wanted := Text.lower (Text.strip text)
  all.find? fun status => Text.lower status.display == wanted || Text.lower status.name == wanted

end SimStatus

end FleetLink
