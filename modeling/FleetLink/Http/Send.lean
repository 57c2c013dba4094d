import FleetLink.Http.Exchange
import FleetLink.Settings.Basic
import FleetLink.Text.Case

/-! Sending a request to a configured host. Answers with certain statuses are retried a
limited number of times, each pause being twice as long as the one before. -/

namespace FleetLink.Http

open Log Number

/-- A request as its sender gives it; the host supplies the rest. -/
structure Order where
  method : String
  path : String
  headers : Entries
  params : Value
  body : Value

def headerEntries (headers : List (String × String)) : Entries :=
  headers.map fun (name, value) => (.text name, .text value)

/-- Headers of the order go before those of the host. -/
def mergedHeaders (host : Host) (order : Order) : Entries :=
  order.headers.foldl (fun done (name, value) => done.put name value) (headerEntries host.headers)

def Order.request (order : Order) (host : Host) : Request where
  method := Text.upper order.method
  url := host.baseUrl ++ order.path
  headers := mergedHeaders host order
  params := order.params
  body := if Text.upper order.method = "GET" then .null else order.body
  connectTimeout := host.transport.connectTimeout
  readTimeout := host.transport.requestTimeout

/-- The pause before the retry with this number, counted from zero. A factor of two to
the 1024 is no number any more. -/
def delay? (factor : Binary64) (retry : Nat) : Option Binary64 :=
  if retry < 1024 then some (factor * .ofInt (twoTo retry : Nat)) else none

def accepted (status : Int) : Bool := 200 ≤ status && status < 300

def retryEvent (hostName : String) (status : Int) (attempt : Nat) (delay : Binary64) : Event :=
  ⟨"http_retry", .info, [("host_id", .text hostName), ("status", .int status),
    ("attempt", .int attempt), ("delay", .float delay)]⟩

def warningEvent (name hostName url : String) (status : Int) : Event :=
  ⟨name, .warning, [("host_id", .text hostName), ("url", .text url), ("status", .int status)]⟩

/-- The value of an accepted answer; an empty one has none. -/
def readBody (hostName url : String) (response : Response) : HttpM Value :=
  if response.status = 204 || response.empty then return .null
  else match response.body with
    | .ok value => return value
    | .error fault =>
        if fault.malformed then do
          log (warningEvent "http_bad_body" hostName url response.status)
          throw (.unreadableBody response.status url fault)
        else throw (.server fault)

def refuse (hostName url : String) (status : Int) : HttpM Value := do
  log (warningEvent "http_failed" hostName url status)
  throw (.refused status)

/-- Sends a request and retries it while retries are left. -/
def sendRetrying (hostName : String) (retries : Retries) (request : Request) :
    Nat → Nat → HttpM Value
  | left, retry => do
    let response ← ask request
    if accepted response.status then readBody hostName request.url response
    else match left with
      | 0 => refuse hostName request.url response.status
      | left + 1 =>
          if !retries.statuses.contains response.status then
            refuse hostName request.url response.status
          else match delay? retries.backoffFactor retry with
            | none => throw .longDelay
            | some delay => do
                log (retryEvent hostName response.status (retry + 1) delay)
                pause delay
                sendRetrying hostName retries request left (retry + 1)

def send (settings : Settings) (hostName : String) (order : Order) : HttpM Value :=
  match settings.host? hostName with
  | none => throw (.unknownHost hostName)
  | some host =>
      sendRetrying hostName host.transport.retries (order.request host) host.transport.retries.maxRetries.toNat 0

end FleetLink.Http
