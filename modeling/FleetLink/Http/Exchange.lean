import FleetLink.Fault
import FleetLink.Log.Event
import FleetLink.Number.Shortest
import FleetLink.Value.Dict
import FleetLink.Value.Spelling

/-! Talking to a web server. The server is what it answers to each request in turn, and
an exchange keeps what was done: the requests made and the pauses between them in their
order, and the events logged. -/

namespace FleetLink.Http

open Log Number

structure Request where
  method : String
  url : String
  headers : Entries
  params : Value
  body : Value
  connectTimeout : Int
  readTimeout : Int

/-- A response without a status counts as status zero. Reading the body as JSON may
fail. -/
structure Response where
  status : Int
  empty : Bool
  body : Except Fault Value

inductive Act where
  | request (request : Request)
  | pause (delay : Binary64)

/-- `answers` answers the requests in the order in which they are made. -/
structure Exchange where
  answers : Nat → Except Fault Response
  made : Nat
  acts : List Act
  events : List Event

def Exchange.start (answers : Nat → Except Fault Response) (made : Nat) : Exchange :=
  ⟨answers, made, [], []⟩

def Exchange.requests (exchange : Exchange) : List Request :=
  exchange.acts.filterMap fun
    | .request request => some request
    | .pause _ => none

def Exchange.delays (exchange : Exchange) : List Binary64 :=
  exchange.acts.filterMap fun
    | .request _ => none
    | .pause delay => some delay

inductive HttpError where
  | unknownHost (name : String)
  | server (fault : Fault)
  | unreadableBody (status : Int) (url : String) (fault : Fault)
  | refused (status : Int)
  | longDelay

/-- The message of an exchange that failed with a status. -/
def statusMessage (status : Int) (message : String) : String :=
  if message.isEmpty then "Transport error: HTTP " ++ toString status else message

def HttpError.message : HttpError → String
  | .unknownHost name => Text.quoted name
  | .server fault => fault.text
  | .unreadableBody _ url fault => "Invalid JSON body from " ++ url ++ ": " ++ fault.text
  | .refused status => statusMessage status ""
  | .longDelay => "int too large to convert to float"

abbrev HttpM := ExceptT HttpError (StateM Exchange)

def log (event : Event) : HttpM Unit :=
  modify fun exchange => { exchange with events := exchange.events ++ [event] }

def ask (request : Request) : HttpM Response := do
  let exchange ← get
  set { exchange with made := exchange.made + 1, acts := exchange.acts ++ [Act.request request] }
  match exchange.answers exchange.made with
  | .ok response => return response
  | .error fault => throw (.server fault)

def pause (delay : Binary64) : HttpM Unit :=
  modify fun exchange => { exchange with acts := exchange.acts ++ [Act.pause delay] }

end FleetLink.Http
