import FleetLink.Check.Scalar

/-! The shapes of records. A shape lists its fields in order; a field has a name, the
key that stands for it in payloads, and a kind. Hidden fields are kept on the record
and never written. -/

namespace FleetLink.Record

open Time

inductive FieldKind where
  | integer
  | text
  | moment
  | status
  | texts
deriving DecidableEq, Repr

inductive FieldValue where
  | absent
  | integer (n : Int)
  | text (s : String)
  | moment (m : Moment)
  | status (s : AssociationStatus)
  | texts (items : List String)
deriving DecidableEq, Repr

structure Field where
  name : String
  key : String
  kind : FieldKind
  required : Bool
  hidden : Bool
deriving DecidableEq, Repr

structure Shape where
  name : String
  fields : List Field
deriving DecidableEq, Repr

/-- Whether a value may stand in a field. Only optional fields may be absent. -/
def Field.admits (field : Field) : FieldValue → Bool
  | .absent => !field.required
  | .integer _ => field.kind == .integer
  | .text _ => field.kind == .text
  | .moment _ => field.kind == .moment
  | .status _ => field.kind == .status
  | .texts _ => field.kind == .texts

def requiredField (name key : String) (kind : FieldKind) : Field := ⟨name, key, kind, true, false⟩
def optionalField (name key : String) (kind : FieldKind) : Field := ⟨name, key, kind, false, false⟩
def Field.hide (field : Field) : Field := { field with hidden := true }

def rowNumberField : Field := (requiredField "row_number" "rowNumber" .integer).hide

namespace Shape

def simDetails : Shape where
  name := "SimDetails"
  fields := [
    rowNumberField,
    requiredField "tran_id" "tranId" .text,
    optionalField "tran_status" "tranStatus" .text]

def associationHistory : Shape where
  name := "DeviceAssociationHistory"
  fields := [
    rowNumberField,
    (requiredField "id" "id" .integer).hide,
    optionalField "serial_number" "serialNumber" .text,
    optionalField "user_id" "userId" .text,
    optionalField "harman_id" "harmanId" .text,
    requiredField "association_status" "associationStatus" .status,
    optionalField "associated_on" "associatedOn" .moment,
    optionalField "associated_by" "associatedBy" .text,
    optionalField "disassociated_on" "disassociatedOn" .moment,
    optionalField "disassociated_by" "disassociatedBy" .text,
    optionalField "modified_on" "modifiedOn" .moment,
    optionalField "modified_by" "modifiedBy" .text]

def association : Shape where
  name := "DeviceAssociation"
  fields := [
    rowNumberField,
    requiredField "id" "associationId" .integer,
    optionalField "serial_number" "serialNumber" .text,
    (optionalField "user_id" "userId" .text).hide,
    optionalField "harman_id" "deviceId" .text,
    (optionalField "vehicle_id" "vehicleId" .text).hide,
    requiredField "association_status" "associationStatus" .status,
    optionalField "associated_on" "associatedOn" .moment,
    (optionalField "associated_by" "associatedBy" .text).hide,
    optionalField "disassociated_on" "disassociatedOn" .moment,
    (optionalField "disassociated_by" "disassociatedBy" .text).hide,
    (optionalField "modified_on" "modifiedOn" .moment).hide,
    (optionalField "modified_by" "modifiedBy" .text).hide,
    (optionalField "factory_id" "factoryId" .integer).hide,
    optionalField "association_type" "associationType" .text,
    optionalField "start_timestamp" "startTimeStamp" .integer,
    optionalField "end_timestamp" "endTimeStamp" .integer,
    optionalField "software_version" "softwareVersion" .text]

/-- A filter for the user service. An absent field does not filter, so it must not be
written, while an empty list is a filter. -/
def userLookup : Shape where
  name := "UserLookupRequest"
  fields := [
    optionalField "user_names" "userNames" .texts,
    optionalField "emails" "emails" .texts]

end Shape

end FleetLink.Record
