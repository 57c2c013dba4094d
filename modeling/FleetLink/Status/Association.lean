/-! The life of a device association. Rows store the name of a status; its event name
is what is announced when an association enters it. -/

namespace FleetLink

inductive AssociationStatus where
  | associated
  | initiated
  | disassociated
  | failed
  | suspended
deriving DecidableEq, Repr

namespace AssociationStatus

def all : List AssociationStatus := [.associated, .initiated, .disassociated, .failed, .suspended]

def name : AssociationStatus → String
  | .associated => "ASSOCIATED"
  | .initiated => "ASSOCIATION_INITIATED"
  | .disassociated => "DISASSOCIATED"
  | .failed => "ASSOCIATION_FAILED"
  | .suspended => "SUSPENDED"

def eventName : AssociationStatus → String
  | .associated => "VehicleAssociation"
  | .disassociated => "VehicleDisAssociation"
  | status => status.name

/-- The statuses that count as a live association. -/
def active : List AssociationStatus := [.associated, .initiated, .suspended]

def ofName? (text : String) : Option AssociationStatus := all.find? (·.name == text)
def ofEventName? (text : String) : Option AssociationStatus := all.find? (·.eventName == text)

@[simp] theorem ofName?_name (status : AssociationStatus) : ofName? status.name = some status := by
  cases status <;> decide

@[simp] theorem ofEventName?_eventName (status : AssociationStatus) :
    ofEventName? status.eventName = some status := by
  cases status <;> decide

end AssociationStatus

end FleetLink
