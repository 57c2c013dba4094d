import FleetLink.Users
import FleetLink.Proofs.Retrying

/-! Calls of a client of the user service, one after another. Each of them asks nothing but
the filter of the service, whatever the server answers and whether the call fails. -/

namespace FleetLink

namespace Http

/-- Between the two exchanges only requests of this kind were made. -/
def Exchange.Asks (before after : Exchange) (kind : Request → Prop) : Prop :=
  ∃ acts, after.acts = before.acts ++ acts ∧ ∀ request, Act.request request ∈ acts → kind request

namespace Exchange
variable {before middle after : Exchange} {kind : Request → Prop}

theorem Asks.refl (exchange : Exchange) : exchange.Asks exchange kind :=
  ⟨[], (List.append_nil _).symm, by simp⟩

theorem Asks.trans (first : before.Asks middle kind) (second : middle.Asks after kind) : before.Asks after kind := by
  obtain ⟨acts, same, each⟩ := first
  obtain ⟨more, further, others⟩ := second
  refine ⟨acts ++ more, by rw [further, same, List.append_assoc], ?_⟩
  intro request member
  exact (List.mem_append.mp member).elim (each request) (others request)

theorem Asks.logged (logged : before.OnlyLogged after) : before.Asks after kind := by
  obtain ⟨events, rfl⟩ := logged
  exact ⟨[], (List.append_nil _).symm, by simp⟩

theorem Asks.mono {other : Request → Prop} (asks : before.Asks after kind) (wider : ∀ request, kind request → other request) :
    before.Asks after other := by
  obtain ⟨acts, same, each⟩ := asks
  exact ⟨acts, same, fun request member => wider request (each request member)⟩

theorem Asks.of_mem_requests {answers : Nat → Except Fault Response} {made : Nat}
    (asks : (start answers made).Asks after kind) {request : Request} (member : request ∈ after.requests) :
    kind request := by
  obtain ⟨acts, same, each⟩ := asks
  obtain ⟨act, inside, found⟩ := List.mem_filterMap.mp member
  rw [same, start, List.nil_append] at inside
  cases act with
  | request other =>
    cases found
    exact each request inside
  | pause delay => cases found

end Exchange

theorem eq_of_mem_rounds {request other : Request} {factor : Number.Binary64} {retry count : Nat}
    (member : Act.request other ∈ rounds request factor retry count ++ [.request request]) : other = request := by
  rcases List.mem_append.mp member with inside | last
  · obtain ⟨_, _, round⟩ := List.mem_flatMap.mp inside
    simpa using round
  · simpa using last

theorem send_asks {settings : Settings} {hostName : String} {host : Host}
    (configured : settings.host? hostName = some host) (order : Order) (exchange : Exchange) :
    exchange.Asks ((send settings hostName order).after exchange) (· = order.request host) := by
  obtain ⟨count, run⟩ := send_run configured order exchange
  exact ⟨_, run.sends.acts, fun request member => eq_of_mem_rounds member⟩

end Http

namespace Users
open Http

def Filters (service : UserService) (host : Host) (request : Request) : Prop :=
  ∃ lookup, request = (lookupOrder service lookup).request host

theorem lift_run (work : HttpM α) (exchange : Exchange) :
    lift work exchange = ((work.result exchange).mapError .http, work.after exchange) := by
  unfold lift HttpM.result HttpM.after
  rcases work exchange with ⟨_ | _, _⟩ <;> rfl

theorem detail_asks {settings : Settings} {host : Host} (configured : settings.host? settings.users.host = some host)
    (field : String) (userName email : Value) (exchange : Exchange) :
    exchange.Asks (detail settings field userName email exchange).2 (Filters settings.users host) := by
  unfold detail
  split
  next missing => exact .refl exchange
  next given =>
    cases Record.forUser userName email with
    | failed issues => exact .refl exchange
    | ok lookup =>
      have sent := (send_asks configured (lookupOrder settings.users lookup) exchange).mono
        fun request same => (⟨lookup, same⟩ : Filters settings.users host request)
      simp only [bind_run, lift_run]
      cases (send settings settings.users.host (lookupOrder settings.users lookup)).result exchange with
      | error error => exact sent
      | ok answer =>
        simp only [Except.mapError]
        cases answer.search? field with
        | some value => exact sent
        | none => exact sent.trans (.logged ⟨_, rfl⟩)

inductive Call where
  | users (lookup : Record)
  | detail (field : String) (userName email : Value)

/-- The exchange after a call, which may have failed. -/
def Call.after (settings : Settings) (exchange : Exchange) : Call → Exchange
  | .users lookup => (send settings settings.users.host (lookupOrder settings.users lookup)).after exchange
  | .detail field userName email => (Users.detail settings field userName email exchange).2

theorem Call.asks {settings : Settings} {host : Host} (configured : settings.host? settings.users.host = some host)
    (call : Call) (exchange : Exchange) :
    exchange.Asks (call.after settings exchange) (Filters settings.users host) := by
  cases call with
  | users lookup => exact (send_asks configured _ exchange).mono fun request same => ⟨lookup, same⟩
  | detail field userName email => exact detail_asks configured field userName email exchange

def afterCalls (settings : Settings) (calls : List Call) (exchange : Exchange) : Exchange :=
  calls.foldl (Call.after settings) exchange

theorem afterCalls_asks {settings : Settings} {host : Host}
    (configured : settings.host? settings.users.host = some host) (calls : List Call) (exchange : Exchange) :
    exchange.Asks (afterCalls settings calls exchange) (Filters settings.users host) := by
  induction calls generalizing exchange with
  | nil => exact .refl exchange
  | cons call rest ih => exact (call.asks configured exchange).trans (ih _)

end Users

end FleetLink
