import Mathlib.Order.Bounds.Defs
import FleetLink.Http.Send
import FleetLink.Proofs.Dictionary
import FleetLink.Proofs.LetterCase
import FleetLink.Proofs.Runs

/-! Sending with retries. Whatever the server answers, the same request is made again,
after ever longer pauses, up to the first answer that is not retried; that answer alone
decides what the sending comes to. -/

namespace FleetLink.Http
open Number

def HttpM.result (work : HttpM α) (exchange : Exchange) : Except HttpError α := (work exchange).1

def HttpM.after (work : HttpM α) (exchange : Exchange) : Exchange := (work exchange).2

def Success (status : Int) : Prop := 200 ≤ status ∧ status < 300

theorem accepted_iff (status : Int) : accepted status = true ↔ Success status := by
  simp [accepted, Success]

def Retried (retries : Retries) (answer : Except Fault Response) : Prop :=
  ∃ response, answer = .ok response ∧ ¬Success response.status ∧ response.status ∈ retries.statuses

/-- What an answer comes to that no further request follows. A body counts only with a
success other than 204, and a fault in reading it blames the body when it says that the
data is malformed. -/
inductive Settles (url : String) : Except Fault Response → Except HttpError Value → Prop where
  | raised (fault : Fault) : Settles url (.error fault) (.error (.server fault))
  | nothing {response : Response} (success : Success response.status)
      (none : response.status = 204 ∨ response.empty = true) : Settles url (.ok response) (.ok .null)
  | decoded {response : Response} {value : Value} (success : Success response.status)
      (some : ¬(response.status = 204 ∨ response.empty = true)) (body : response.body = .ok value) :
      Settles url (.ok response) (.ok value)
  | undecodable {response : Response} {fault : Fault} (success : Success response.status)
      (some : ¬(response.status = 204 ∨ response.empty = true)) (body : response.body = .error fault)
      (malformed : fault.malformed = true) :
      Settles url (.ok response) (.error (.unreadableBody response.status url fault))
  | broken {response : Response} {fault : Fault} (success : Success response.status)
      (some : ¬(response.status = 204 ∨ response.empty = true)) (body : response.body = .error fault)
      (sound : fault.malformed = false) : Settles url (.ok response) (.error (.server fault))
  | refused {response : Response} (failed : ¬Success response.status) :
      Settles url (.ok response) (.error (.refused response.status))

def Exchange.OnlyLogged (before after : Exchange) : Prop :=
  ∃ events, after = { before with events := events }

theorem readBody_run (hostName url : String) {response : Response} (success : Success response.status)
    (exchange : Exchange) :
    Settles url (.ok response) ((readBody hostName url response).result exchange) ∧
      exchange.OnlyLogged ((readBody hostName url response).after exchange) := by
  unfold readBody HttpM.result HttpM.after
  split
  next none => exact ⟨.nothing success (by simpa using none), _, rfl⟩
  next some =>
    have some : ¬(response.status = 204 ∨ response.empty = true) := by simpa using some
    cases body : response.body with
    | ok value => exact ⟨.decoded success some body, _, rfl⟩
    | error fault =>
      simp only
      split
      next malformed => exact ⟨.undecodable success some body malformed, _, rfl⟩
      next sound => exact ⟨.broken success some body (by simpa using sound), _, rfl⟩

theorem refuse_run (hostName url : String) {response : Response} (failed : ¬Success response.status)
    (exchange : Exchange) :
    Settles url (.ok response) ((refuse hostName url response.status).result exchange) ∧
      exchange.OnlyLogged ((refuse hostName url response.status).after exchange) :=
  ⟨.refused failed, _, rfl⟩

/-- The answer to a later request, counted from the next one on. -/
def Exchange.upcoming (exchange : Exchange) (place : Nat) : Except Fault Response :=
  exchange.answers (exchange.made + place)

def Exchange.asked (exchange : Exchange) (request : Request) : Exchange :=
  { exchange with made := exchange.made + 1, acts := exchange.acts ++ [.request request] }

theorem ask_run (request : Request) (exchange : Exchange) :
    ask request exchange = ((exchange.upcoming 0).mapError .server, exchange.asked request) := by
  simp only [ask, bind_run, get_run, set_run, Exchange.upcoming, Nat.add_zero]
  cases exchange.answers exchange.made <;> rfl

/-- Requests, each with the pause after it. The pauses double from the given retry on. -/
def rounds (request : Request) (factor : Binary64) (retry count : Nat) : List Act :=
  (List.range count).flatMap fun place => [.request request, .pause (factor * .ofInt (twoTo (retry + place) : Nat))]

theorem rounds_succ (request : Request) (factor : Binary64) (retry count : Nat) :
    rounds request factor retry (count + 1) =
      .request request :: .pause (factor * .ofInt (twoTo retry : Nat)) :: rounds request factor (retry + 1) count := by
  simp only [rounds, List.range_succ_eq_map, List.flatMap_cons, List.flatMap_map, Nat.add_zero, Nat.add_right_comm,
    Nat.add_assoc]
  rfl

structure Exchange.Sends (before after : Exchange) (request : Request) (factor : Binary64) (retry count : Nat) : Prop where
  answers : after.answers = before.answers
  made : after.made = before.made + count + 1
  acts : after.acts = before.acts ++ (rounds request factor retry count ++ [.request request])

/-- How sending ends at the answer after so many retried ones: the answer settles it, or it is
to be retried after a pause that is no number. -/
inductive Ends (retries : Retries) (url : String) (left retry count : Nat) (answer : Except Fault Response)
    (outcome : Except HttpError Value) : Prop where
  | settled (last : count = left ∨ ¬Retried retries answer) (settles : Settles url answer outcome) :
      Ends retries url left retry count answer outcome
  | endless (more : count < left) (retried : Retried retries answer) (long : 1024 ≤ retry + count)
      (failed : outcome = .error .longDelay) : Ends retries url left retry count answer outcome

theorem Ends.later {retries : Retries} {url : String} {left retry count : Nat} {answer : Except Fault Response}
    {outcome : Except HttpError Value} (ends : Ends retries url left (retry + 1) count answer outcome) :
    Ends retries url (left + 1) retry (count + 1) answer outcome := by
  cases ends with
  | settled last settles => exact .settled (last.imp_left (congrArg (· + 1))) settles
  | endless more retried long failed => exact .endless (by omega) retried (by omega) failed

def Exchange.next (exchange : Exchange) (request : Request) (delay : Binary64) (events : List Log.Event) : Exchange :=
  ⟨exchange.answers, exchange.made + 1, exchange.acts ++ [.request request] ++ [.pause delay], events⟩

theorem Exchange.upcoming_next (exchange : Exchange) (request : Request) (delay : Binary64)
    (events : List Log.Event) (place : Nat) :
    (exchange.next request delay events).upcoming place = exchange.upcoming (place + 1) := by
  simp only [upcoming, next, Nat.add_right_comm, Nat.add_assoc]

section
variable (hostName : String) {retries : Retries} (request : Request) (left retry : Nat) {exchange : Exchange}

theorem sendRetrying_final (last : left = 0 ∨ ¬Retried retries (exchange.upcoming 0)) :
    Settles request.url (exchange.upcoming 0) ((sendRetrying hostName retries request left retry).result exchange) ∧
      (exchange.asked request).OnlyLogged ((sendRetrying hostName retries request left retry).after exchange) := by
  unfold sendRetrying HttpM.result HttpM.after
  simp only [bind_run, ask_run]
  cases answer : exchange.upcoming 0 with
  | error fault => exact ⟨.raised fault, _, rfl⟩
  | ok response =>
    simp only [Except.mapError]
    split
    next success => exact readBody_run hostName request.url ((accepted_iff _).mp success) _
    next failed =>
      have failed : ¬Success response.status := fun success => failed ((accepted_iff _).mpr success)
      cases left with
      | zero => exact refuse_run hostName request.url failed _
      | succ left =>
        have unlisted : response.status ∉ retries.statuses := by
          intro listed
          rcases last with none | final
          · cases none
          · exact final ⟨response, answer, failed, listed⟩
        simp only [List.contains_eq_mem, unlisted, decide_false, Bool.not_false, if_true]
        exact refuse_run hostName request.url failed _

theorem sendRetrying_retried (retried : Retried retries (exchange.upcoming 0)) :
    ∃ events, sendRetrying hostName retries request (left + 1) retry exchange =
      match delay? retries.backoffFactor retry with
      | none => (.error .longDelay, exchange.asked request)
      | some delay => sendRetrying hostName retries request left (retry + 1)
          (exchange.next request delay events) := by
  obtain ⟨response, answer, failed, listed⟩ := retried
  have failed : ¬accepted response.status = true := fun success => failed ((accepted_iff _).mp success)
  conv => enter [1, events, 1]; unfold sendRetrying
  simp only [bind_run, ask_run, answer, Except.mapError, failed, List.contains_eq_mem, listed, decide_true,
    Bool.not_true, Bool.false_eq_true, if_false]
  cases delay? retries.backoffFactor retry with
  | none => exact ⟨[], rfl⟩
  | some delay =>
    refine ⟨(exchange.asked request).events ++ [retryEvent hostName response.status (retry + 1) delay], ?_⟩
    simp only [bind_run]
    rfl

end

theorem delay?_eq_none_iff (factor : Binary64) (retry : Nat) : delay? factor retry = none ↔ 1024 ≤ retry := by
  simp [delay?]

theorem delay?_eq_some {factor delay : Binary64} {retry : Nat} (given : delay? factor retry = some delay) :
    delay = factor * .ofInt (twoTo retry : Nat) := by
  simp only [delay?, Option.ite_none_right_eq_some, Option.some.injEq] at given
  exact given.2.symm

/-- The run of a sending: it comes to the outcome and leaves the exchange after so many
retried answers. -/
structure Run (retries : Retries) (request : Request) (left retry : Nat) (exchange : Exchange)
    (outcome : Except HttpError Value) (after : Exchange) (count : Nat) : Prop where
  sends : exchange.Sends after request retries.backoffFactor retry count
  bound : count ≤ left
  retried : ∀ place < count, Retried retries (exchange.upcoming place)
  ends : Ends retries request.url left retry count (exchange.upcoming count) outcome

theorem Run.once {retries : Retries} {request : Request} {left : Nat} (retry : Nat) {exchange after : Exchange}
    {outcome : Except HttpError Value} (last : left = 0 ∨ ¬Retried retries (exchange.upcoming 0))
    (settles : Settles request.url (exchange.upcoming 0) outcome) (logged : (exchange.asked request).OnlyLogged after) :
    Run retries request left retry exchange outcome after 0 := by
  obtain ⟨events, rfl⟩ := logged
  exact ⟨⟨rfl, rfl, rfl⟩, Nat.zero_le left, by simp, .settled (last.imp_left Eq.symm) settles⟩

theorem Run.again {retries : Retries} {request : Request} {left retry count : Nat} {exchange after : Exchange}
    {outcome : Except HttpError Value} {events : List Log.Event} (retried : Retried retries (exchange.upcoming 0))
    (run : Run retries request left (retry + 1)
      (exchange.next request (retries.backoffFactor * .ofInt (twoTo retry : Nat)) events) outcome after count) :
    Run retries request (left + 1) retry exchange outcome after (count + 1) := by
  obtain ⟨⟨answers, made, acts⟩, bound, others, ends⟩ := run
  simp only [Exchange.upcoming_next] at others ends
  refine ⟨⟨answers, ?_, ?_⟩, Nat.succ_le_succ bound, ?_, ends.later⟩
  · rw [made, Exchange.next, Nat.add_right_comm exchange.made]
    rfl
  · simp only [acts, rounds_succ, Exchange.next, List.append_assoc, List.cons_append, List.nil_append]
  · intro place less
    cases place with
    | zero => exact retried
    | succ place => exact others place (Nat.lt_of_succ_lt_succ less)

theorem sendRetrying_run (hostName : String) (retries : Retries) (request : Request) (left retry : Nat)
    (exchange : Exchange) :
    ∃ count, Run retries request left retry exchange ((sendRetrying hostName retries request left retry).result exchange)
      ((sendRetrying hostName retries request left retry).after exchange) count := by
  induction left generalizing retry exchange with
  | zero =>
    obtain ⟨settles, logged⟩ := sendRetrying_final hostName request 0 retry (.inl rfl)
    exact ⟨0, .once retry (.inl rfl) settles logged⟩
  | succ left ih =>
    by_cases retried : Retried retries (exchange.upcoming 0)
    · obtain ⟨events, run⟩ := sendRetrying_retried hostName request left retry retried
      simp only [HttpM.result, HttpM.after, run] at ih ⊢
      cases given : delay? retries.backoffFactor retry with
      | none =>
        refine ⟨0, ⟨⟨rfl, rfl, rfl⟩, Nat.zero_le _, by simp, .endless (Nat.succ_pos left) retried ?_ rfl⟩⟩
        exact (delay?_eq_none_iff _ _).mp given
      | some delay =>
        obtain ⟨count, later⟩ := ih (retry + 1) (exchange.next request delay events)
        obtain rfl := delay?_eq_some given
        exact ⟨count + 1, later.again retried⟩
    · obtain ⟨settles, logged⟩ := sendRetrying_final hostName request (left + 1) retry (.inr retried)
      exact ⟨0, .once retry (.inr retried) settles logged⟩

theorem send_run {settings : Settings} {hostName : String} {host : Host}
    (configured : settings.host? hostName = some host) (order : Order) (exchange : Exchange) :
    ∃ count, Run host.transport.retries (order.request host) host.transport.retries.maxRetries.toNat 0 exchange
      ((send settings hostName order).result exchange) ((send settings hostName order).after exchange) count := by
  simp only [send, configured]
  exact sendRetrying_run hostName host.transport.retries (order.request host) _ 0 exchange

/-- The request that an order makes of a host. Of headers given twice the last one counts,
and no letter case of GET lets a body through. -/
structure Order.Makes (order : Order) (host : Host) (request : Request) : Prop where
  method : request.method = Text.upper order.method
  url : request.url = host.baseUrl ++ order.path
  headers : ∀ name, request.headers.getText? name =
    (Dict.getText? name order.headers.reverse).or ((host.headers.lookup name).map .text)
  params : request.params = order.params
  body : request.body = if order.method.toList.map Char.toUpper = ['G', 'E', 'T'] then .null else order.body
  connectTimeout : request.connectTimeout = host.transport.connectTimeout
  readTimeout : request.readTimeout = host.transport.requestTimeout

theorem Order.request_makes (order : Order) (host : Host) : order.Makes host (order.request host) where
  method := rfl
  url := rfl
  headers name := by
    rw [← Dict.getText?_texts]
    exact Dict.getText?_foldl_put name order.headers (headerEntries host.headers)
  params := rfl
  body := by
    have get : Text.upper order.method = "GET" ↔ order.method.toList.map Char.toUpper = ['G', 'E', 'T'] :=
      Text.upper_eq_iff (by decide)
    simp only [Order.request, get]
  connectTimeout := rfl
  readTimeout := rfl

/-- No request follows the answer at this place. -/
inductive Stops (retries : Retries) (answers : Nat → Except Fault Response) (place : Nat) : Prop where
  | exhausted (spent : (place : Int) = max 0 retries.maxRetries)
  | raised {fault : Fault} (given : answers place = .error fault)
  | success {response : Response} (given : answers place = .ok response) (success : Success response.status)
  | unlisted {response : Response} (given : answers place = .ok response)
      (unlisted : response.status ∉ retries.statuses)

theorem stops_iff (retries : Retries) (answers : Nat → Except Fault Response) (place : Nat) :
    Stops retries answers place ↔ (place : Int) = max 0 retries.maxRetries ∨ ¬Retried retries (answers place) := by
  constructor
  · intro stops
    cases stops with
    | exhausted spent => exact .inl spent
    | raised given => simp [Retried, given]
    | success given success => simp [Retried, given, success]
    | unlisted given unlisted => simp [Retried, given, unlisted]
  · rintro (spent | final)
    · exact .exhausted spent
    · cases given : answers place with
      | error fault => exact .raised given
      | ok response =>
        by_cases success : Success response.status
        · exact .success given success
        · exact .unlisted given fun listed => final ⟨response, given, success, listed⟩

theorem Settles.unique {url : String} {answer : Except Fault Response} {first second : Except HttpError Value}
    (one : Settles url answer first) (other : Settles url answer second) : first = second := by
  cases one <;> cases other <;> simp_all

/-- Up to 1024 retries, sending makes the same request again up to the first answer that
stops it, with one pause between two requests, each twice as long as the one before. What
it comes to is decided by that answer alone. -/
theorem send_outcome {settings : Settings} {hostName : String} {host : Host}
    (configured : settings.host? hostName = some host) (bounded : host.transport.retries.maxRetries ≤ 1024)
    (order : Order) (exchange : Exchange) :
    ∃ request last, order.Makes host request ∧
      IsLeast {place | Stops host.transport.retries exchange.upcoming place} last ∧
      ((send settings hostName order).after exchange).acts = exchange.acts ++
        ((List.range last).flatMap (fun place =>
          [.request request, .pause (host.transport.retries.backoffFactor * .ofInt (twoTo place : Nat))]) ++
          [.request request]) ∧
      ∀ outcome, (send settings hostName order).result exchange = outcome ↔
        Settles request.url (exchange.upcoming last) outcome := by
  obtain ⟨last, sends, bound, retried, ends⟩ := send_run configured order exchange
  have acts := sends.acts
  simp only [rounds, Nat.zero_add] at acts
  cases ends with
  | endless more _ long => omega
  | settled final settles =>
    refine ⟨order.request host, last, order.request_makes host, ⟨?_, ?_⟩, acts, fun outcome => ?_⟩
    · exact (stops_iff _ _ last).mpr (final.imp_left fun spent => by omega)
    · intro place stops
      by_contra earlier
      rcases (stops_iff _ _ place).mp stops with spent | final
      · omega
      · exact final (retried place (Nat.lt_of_not_le earlier))
    · constructor
      · rintro rfl
        exact settles
      · intro other
        exact settles.unique other

def busyHost : Host where
  baseUrl := "https://users.example"
  headers := [("Accept", "application/json")]
  transport := ⟨15, 5, ⟨2, .one, [503]⟩⟩

def busySettings : Settings := ⟨1, {}, "?", [("users", busyHost)], ⟨"users", "/filter", none⟩⟩

def busyExchange : Exchange := .start (fun _ => .ok ⟨503, false, .ok .null⟩) 0

def gentleOrder : Order := ⟨"get", "/filter", [], .null, .text "dropped"⟩

theorem send_outcome_of_busy :
    busySettings.host? "users" = some busyHost ∧ busyHost.transport.retries.maxRetries ≤ 1024 ∧
      ∃ request, gentleOrder.Makes busyHost request ∧
        ((send busySettings "users" gentleOrder).after busyExchange).acts =
          [.request request, .pause (.one * .ofInt 1), .request request, .pause (.one * .ofInt 2), .request request] ∧
        (send busySettings "users" gentleOrder).result busyExchange = .error (.refused 503) := by
  have configured : busySettings.host? "users" = some busyHost := rfl
  have bounded : busyHost.transport.retries.maxRetries ≤ 1024 := by decide
  obtain ⟨request, last, makes, least, acts, outcome⟩ := send_outcome configured bounded gentleOrder busyExchange
  have failed : ¬Success 503 := by simp [Success]
  have spent : last = 2 := by
    rcases (stops_iff _ _ last).mp least.1 with spent | final
    · exact Int.ofNat.inj spent
    · exact absurd ⟨_, rfl, failed, List.mem_singleton_self _⟩ final
  subst spent
  exact ⟨configured, bounded, request, makes, acts, (outcome _).mpr (.refused failed)⟩

end FleetLink.Http
