import FleetLink.Table

/-! The attributes a device can be looked up by. The set is closed: only an attribute
or its exact name resolves, so no other text ever becomes a column of a statement. -/

namespace FleetLink

inductive Attribute where
  | imei
  | serialNumber
  | deviceId
  | userId
  | ssid
  | iccid
  | msisdn
  | imsi
  | bssid
  | associationType
deriving DecidableEq, Repr

namespace Attribute

def all : List Attribute :=
  [.imei, .serialNumber, .deviceId, .userId, .ssid, .iccid, .msisdn, .imsi, .bssid, .associationType]

def name : Attribute → String
  | .imei => "IMEI"
  | .serialNumber => "SERIAL_NUMBER"
  | .deviceId => "DEVICE_ID"
  | .userId => "USER_ID"
  | .ssid => "SSID"
  | .iccid => "ICCID"
  | .msisdn => "MSISDN"
  | .imsi => "IMSI"
  | .bssid => "BSSID"
  | .associationType => "ASSOCIATION_TYPE"

def side : Attribute → JoinSide
  | .deviceId | .userId | .associationType => .association
  | _ => .factoryData

def column : Attribute → String
  | .imei => "imei"
  | .serialNumber => "serial_number"
  | .deviceId => "harman_id"
  | .userId => "user_id"
  | .ssid => "ssid"
  | .iccid => "iccid"
  | .msisdn => "msisdn"
  | .imsi => "imsi"
  | .bssid => "bssid"
  | .associationType => "association_type"

def table (attr : Attribute) : Table := attr.side.table

/-- The column with the alias of its table in the join. -/
def reference (attr : Attribute) : String :=
  attr.side.shortName ++ "." ++ attr.column

def names : List String := all.map name

def ofName? (text : String) : Option Attribute := all.find? (·.name == text)

/-- The attributes kept in the table of this name. -/
def inTable (table : String) : List Attribute := all.filter (·.table.name == table)

@[simp] theorem mem_all (attr : Attribute) : attr ∈ all := by
  cases attr <;> decide

@[simp] theorem ofName?_name (attr : Attribute) : ofName? attr.name = some attr := by
  cases attr <;> decide

end Attribute

end FleetLink
