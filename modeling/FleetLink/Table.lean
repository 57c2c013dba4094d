/-! The tables behind device associations. Tables with capitals in their names were
created with quoted identifiers, so their names carry the quotes. -/

namespace FleetLink

inductive Table where
  | deviceAssociation
  | device
  | hcpInfo
  | factoryData
  | activationState
  | deviceInfo
  | simDetails
deriving DecidableEq, Repr

def Table.name : Table → String
  | .deviceAssociation => "device_association"
  | .device => "\"Device\""
  | .hcpInfo => "\"HCPInfo\""
  | .factoryData => "\"DeviceInfoFactoryData\""
  | .activationState => "device_activation_state"
  | .deviceInfo => "\"DeviceInfo\""
  | .simDetails => "sim_details"

/-- The two sides of the join over factory data and associations. -/
inductive JoinSide where
  | factoryData
  | association
deriving DecidableEq, Repr

namespace JoinSide

def all : List JoinSide := [.factoryData, .association]

def shortName : JoinSide → String
  | .factoryData => "a"
  | .association => "b"

def table : JoinSide → Table
  | .factoryData => .factoryData
  | .association => .deviceAssociation

end JoinSide

end FleetLink
