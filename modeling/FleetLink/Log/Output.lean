import FleetLink.Log.Event
import FleetLink.Text.Case
import FleetLink.Value.Dict
import FleetLink.Value.Spelling

/-! Where events go. Until it is set up an output shows every event as text; after that
it shows those from a level on, as JSON or as text, under the name of the service. -/

namespace FleetLink.Log

def defaultService : String := "device-association"

/-- `threshold` is the least severity shown, and none before the first set-up. -/
structure Output where
  threshold : Option Nat
  json : Bool
  service : String
deriving DecidableEq, Repr

def Output.initial : Output := ⟨none, false, defaultService⟩

/-- The level names that may be asked for, with the least severity each shows. -/
def thresholds : List (String × Nat) :=
  [("CRITICAL", 50), ("FATAL", 50), ("ERROR", 40), ("WARN", 30), ("WARNING", 30), ("INFO", 20),
    ("DEBUG", 10), ("NOTSET", 0)]

/-- A level names a severity in any letter case. -/
def threshold? (level : Value) : Option Nat :=
  level.text?.bind fun name => thresholds.lookup (Text.upper name)

inductive LevelError where
  | unknown (level : Value)
  | caseless (level : Value)

/-- Why a level is none. Texts and bytes have letters, if not those of a level. -/
def LevelError.of (level : Value) : LevelError :=
  match level with
  | .bytes _ => .unknown level
  | _ => if level.text?.isSome then .unknown level else .caseless level

def LevelError.message : LevelError → String
  | .unknown level => "Unknown log level: " ++ level.exact
  | .caseless level => lacksOperation level "upper"

/-- Sets an output up, or tells what is wrong with the level. The name of the service is
taken over in both cases. Without a format JSON is chosen. -/
def Output.configure (output : Output) (level : Value) (jsonFormat : Option Bool) (service : String) :
    Output × Except LevelError Unit :=
  match threshold? level with
  | some threshold => (⟨some threshold, jsonFormat.getD true, service⟩, .ok ())
  | none => ({ output with service := service }, .error (.of level))

def Output.shows (output : Output) (event : Event) : Bool :=
  match output.threshold with
  | none => true
  | some threshold => threshold ≤ event.level.severity

inductive Line where
  | json (entries : Entries)
  | console
deriving Inhabited

/-- Fields that ask for a trace of a call or of an error. No trace is shown, and neither is
the request. -/
def traceFields : List String := ["stack_info", "exc_info"]

/-- The entries of an event written at a given time. Its own level and time fields are
replaced, but its own service name is kept. -/
def Event.entries (event : Event) (service : String) (time : Value) : Entries :=
  let shown := event.fields.filter fun (key, _) => !traceFields.contains key
  let own : Entries := shown.map fun (key, value) => (.text key, value)
  let stamped := (own.put (.text "timestamp") time).put (.text "level") (.text event.level.name)
  let served :=
    if stamped.has (.text "service") then stamped else stamped.put (.text "service") (.text service)
  served.put (.text "event") (.text event.name)

/-- The lines that an event is shown by. A line break in its name makes one line more
of text. -/
def Output.lines (output : Output) (time : Value) (event : Event) : List Line :=
  if !output.shows event then []
  else if output.json then [.json (event.entries output.service time)]
  else List.replicate (1 + event.name.toList.count '\n') .console

end FleetLink.Log
