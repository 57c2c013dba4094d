import FleetLink.Number.IntegerText
import FleetLink.Row.Column
import FleetLink.Text.Utf8
import FleetLink.Time.Epoch
import FleetLink.Value.Spelling

/-! Reading raw column values. The drivers of different databases deliver one thing in
several forms, and each kind of column reads all forms that say it exactly. -/

namespace FleetLink.Row

open Number Time

inductive CoercionError where
  | undecodable (error : Text.Utf8.DecodeError)
  | booleanInteger
  | unreadable (found : Value) (wanted : String)
  | fractional (d : Decimal)
  | infiniteInteger
  | signallingNan
  | integerText (text : String) (error : IntegerTextError)
  | iso (text : String) (error : IsoError)
  | epoch (error : EpochError)
  | beyondCalendar
  | unknownStatus (name : String)
  | unknownKind (name : String)
  | unwritable

namespace CoercionError

def message : CoercionError → String
  | .undecodable error => error.message
  | .booleanInteger => "boolean is not an integer column value"
  | .unreadable found wanted => "cannot read " ++ found.kindName ++ " as " ++ wanted
  | .fractional d => "non-integral value " ++ d.text
  | .infiniteInteger => "cannot convert Infinity to integer"
  | .signallingNan => "[<class 'decimal.InvalidOperation'>]"
  | .integerText text .malformed => notIntegerMessage 10 (Text.strip text)
  | .integerText _ (.tooLong digits) => tooLongMessage digits
  | .iso text error => error.message (Text.strip text)
  | .epoch error => error.message
  | .beyondCalendar => "date value out of range"
  | .unknownStatus name => "unknown association status " ++ Text.quoted name
  | .unknownKind name => Text.quoted name
  | .unwritable => unwritableMessage

/-- Whether the value itself is at fault: it is of the wrong kind or ill-formed. The
other errors say that a sound value leads out of some range. -/
def blamesValue : CoercionError → Bool
  | .infiniteInteger | .signallingNan | .beyondCalendar | .unknownKind _ => false
  | .epoch .beyondSeconds | .epoch .beyondClock => false
  | _ => true

end CoercionError

def coerceString : Value → Except CoercionError String
  | .bytes bytes => (Text.Utf8.decode bytes).mapError .undecodable
  | value => if value.isWritable then .ok value.plain else .error .unwritable

def coerceDecimal (d : Decimal) : Except CoercionError Int :=
  match d with
  | .nan _ true _ => .error .signallingNan
  | .infinite _ => .error .infiniteInteger
  | d => match d.integer? with
    | some n => .ok n
    | none => .error (.fractional d)

def coerceInteger (value : Value) : Except CoercionError Int :=
  match value with
  | .bool _ => .error .booleanInteger
  | .int n => .ok n
  | .decimal d => coerceDecimal d
  | value => match value.text? with
    | some text => (readInteger text).mapError (.integerText text)
    | none => .error (.unreadable value "integer")

/-- A reading without offset is kept, any other one becomes the reading in UTC. -/
def naiveUtc (moment : Moment) : Except CoercionError Moment :=
  if moment.isNaive then .ok moment
  else match moment.toUtc? with
    | some utc => .ok utc
    | none => .error .beyondCalendar

def coerceTimestamp (value : Value) : Except CoercionError Moment :=
  match value with
  | .moment m => naiveUtc m
  | .date d => .ok (.midnight d)
  | .int n => do naiveUtc (← (ofEpoch n 0).mapError .epoch)
  | .float x => do naiveUtc (← (ofEpochFloat x).mapError .epoch)
  | value => match value.text? with
    | some text => do naiveUtc (← (readIso (Text.strip text)).mapError (.iso text))
    | none => .error (.unreadable value "timestamp")

def coerceEpochMillis (value : Value) : Except CoercionError Int :=
  (·.epochMillis) <$> coerceTimestamp value

def coerceAssociationStatus (value : Value) : Except CoercionError AssociationStatus := do
  let name := Text.strip (← coerceString value)
  match AssociationStatus.ofName? name with
  | some status => .ok status
  | none => .error (.unknownStatus name)

def ColumnKind.coerce (kind : ColumnKind) (value : Value) : Except CoercionError Value :=
  match kind with
  | .string => .text <$> coerceString value
  | .integer => .int <$> coerceInteger value
  | .timestamp => .moment <$> coerceTimestamp value
  | .epochMillis => .int <$> coerceEpochMillis value
  | .associationStatus => .status <$> coerceAssociationStatus value
  | .unknown name => .error (.unknownKind name)

end FleetLink.Row
