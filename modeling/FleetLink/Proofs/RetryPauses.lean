import FleetLink.Proofs.BinaryRounding
import FleetLink.Proofs.Retrying
import FleetLink.Proofs.SettingChecks

/-! Whether the pauses between retries can be waited for. Settings say how often to retry and
how long to pause at first, and neither is checked against a bound: of the pauses that they
come to, the longest decides for all. -/

namespace FleetLink.Http
open Number Binary64 Settings

/-- A sending that computes each of its pauses and can wait for them. Where every answer is to
be retried, it ends with the status of the last one. -/
structure Exchange.Paced (retries : Retries) (before after : Exchange) (outcome : Except HttpError Value) : Prop where
  computed : outcome ≠ .error .longDelay
  pauses : ∃ acts, after.acts = before.acts ++ acts ∧ ∀ delay, Act.pause delay ∈ acts → Lasts delay
  refused : (∀ place, Retried retries (before.upcoming place)) →
    ∃ last response, after.made = before.made + last + 1 ∧ before.upcoming last = .ok response ∧
      outcome = .error (.refused response.status)

/-- Nothing is retried at all, or the pauses are computed and the longest of them can be waited for. -/
inductive Steady (retries : Retries) : Prop where
  | never (none : retries.maxRetries ≤ 0)
  | unlisted (successes : ∀ status ∈ retries.statuses, Success status)
  | bounded (few : retries.maxRetries ≤ 1024)
      (longest : Lasts (retries.backoffFactor * .ofInt (twoTo (retries.maxRetries.toNat - 1) : Nat)))

def SendsPaced (settings : Settings) : Prop :=
  ∀ hostName host, settings.host? hostName = some host → ∀ order (exchange : Exchange),
    exchange.Paced host.transport.retries ((send settings hostName order).after exchange)
      ((send settings hostName order).result exchange)

theorem pause_mem_rounds {request : Request} {factor delay : Binary64} {retry count : Nat} :
    .pause delay ∈ rounds request factor retry count ↔
      ∃ place < count, delay = factor * .ofInt (twoTo (retry + place) : Nat) := by
  simp [rounds]

section
variable {retries : Retries} {request : Request} {exchange after : Exchange} {outcome : Except HttpError Value} {count : Nat}

theorem Retried.not_unlisted {answer : Except Fault Response} (retried : Retried retries answer) :
    ¬∀ status ∈ retries.statuses, Success status := by
  obtain ⟨response, _, failed, listed⟩ := retried
  exact fun successes => failed (successes _ listed)

theorem Settles.ne_longDelay {url : String} {answer : Except Fault Response} (settles : Settles url answer outcome) :
    outcome ≠ .error .longDelay := by
  cases settles <;> simp

theorem Settles.refused_of_retried {url : String} {answer : Except Fault Response} (settles : Settles url answer outcome)
    (retried : Retried retries answer) :
    ∃ response, answer = .ok response ∧ outcome = .error (.refused response.status) := by
  obtain ⟨response, rfl, failed, _⟩ := retried
  cases settles with
  | refused => exact ⟨response, rfl, rfl⟩
  | nothing success => exact absurd success failed
  | decoded success => exact absurd success failed
  | undecodable success => exact absurd success failed
  | broken success => exact absurd success failed

theorem Steady.lasts (steady : Steady retries) {place : Nat} (inside : place < retries.maxRetries.toNat)
    {answer : Except Fault Response} (retried : Retried retries answer) :
    place < 1024 ∧ Lasts (retries.backoffFactor * .ofInt (twoTo place : Nat)) := by
  cases steady with
  | never none => omega
  | unlisted successes => exact absurd successes retried.not_unlisted
  | bounded few longest => exact ⟨by omega, longest.shorter (by omega) (by omega)⟩

theorem Run.paced (run : Run retries request retries.maxRetries.toNat 0 exchange outcome after count)
    (steady : Steady retries) : exchange.Paced retries after outcome := by
  have acts := run.sends.acts
  have settles : Settles request.url (exchange.upcoming count) outcome ∧
      (count = retries.maxRetries.toNat ∨ ¬Retried retries (exchange.upcoming count)) := by
    cases run.ends with
    | settled last settles => exact ⟨settles, last⟩
    | endless more retried long =>
      have small := (steady.lasts more retried).1
      omega
  obtain ⟨settles, last⟩ := settles
  refine ⟨settles.ne_longDelay, ⟨_, acts, ?_⟩, ?_⟩
  · intro delay member
    rcases List.mem_append.mp member with member | member
    · obtain ⟨place, less, rfl⟩ := pause_mem_rounds.mp member
      rw [Nat.zero_add]
      exact (steady.lasts (Nat.lt_of_lt_of_le less run.bound) (run.retried place less)).2
    · simp at member
  · intro retried
    obtain ⟨response, given, refused⟩ := settles.refused_of_retried (retried count)
    exact ⟨count, response, run.sends.made, given, refused⟩

/-- Where all answers are to be retried and every pause can be computed, the last pause is made. -/
theorem Run.last_pause (run : Run retries request retries.maxRetries.toNat 0 exchange outcome after count)
    (some : 0 < retries.maxRetries) (paced : exchange.Paced retries after outcome)
    (retried : ∀ place, Retried retries (exchange.upcoming place)) :
    Lasts (retries.backoffFactor * .ofInt (twoTo (retries.maxRetries.toNat - 1) : Nat)) := by
  have spent : count = retries.maxRetries.toNat := by
    cases run.ends with
    | settled last => exact last.resolve_right (not_not_intro (retried count))
    | endless _ _ _ failed => exact absurd failed paced.computed
  obtain ⟨acts, appended, lasts⟩ := paced.pauses
  have same : acts = rounds request retries.backoffFactor 0 count ++ [.request request] :=
    List.append_cancel_left (appended.symm.trans run.sends.acts)
  apply lasts
  rw [same]
  apply List.mem_append_left
  exact pause_mem_rounds.mpr ⟨retries.maxRetries.toNat - 1, by omega, by rw [Nat.zero_add]⟩

end

/-- Retries that go on to the 1024th end there, since the next pause is no number. -/
theorem sendRetrying_endless (hostName : String) {retries : Retries} (request : Request) {left retry further : Nat}
    {exchange : Exchange} (limit : retry + further = 1024) (more : further < left)
    (retried : ∀ place, Retried retries (exchange.upcoming place)) :
    (sendRetrying hostName retries request left retry).result exchange = .error .longDelay := by
  induction further generalizing left retry exchange with
  | zero =>
    cases left with
    | zero => omega
    | succ left =>
      obtain ⟨events, run⟩ := sendRetrying_retried hostName request left retry (retried 0)
      have long : delay? retries.backoffFactor retry = none := (delay?_eq_none_iff _ _).mpr (by omega)
      rw [HttpM.result, run, long]
  | succ further ih =>
    cases left with
    | zero => omega
    | succ left =>
      obtain ⟨events, run⟩ := sendRetrying_retried hostName request left retry (retried 0)
      rw [HttpM.result, run]
      cases given : delay? retries.backoffFactor retry with
      | none =>
        have long := (delay?_eq_none_iff _ _).mp given
        omega
      | some delay =>
        apply ih
        · omega
        · omega
        · intro place
          rw [Exchange.upcoming_next]
          exact retried (place + 1)

def Exchange.steadfast (status : Int) : Exchange := .start (fun _ => .ok ⟨status, false, .ok .null⟩) 0

theorem Exchange.steadfast_retried {retries : Retries} {status : Int} (listed : status ∈ retries.statuses)
    (failed : ¬Success status) (place : Nat) : Retried retries ((steadfast status).upcoming place) :=
  ⟨_, rfl, failed, listed⟩

section
variable {settings : Settings} {hostName : String} {host : Host} (configured : settings.host? hostName = some host)
include configured

theorem send_endless (many : 1024 < host.transport.retries.maxRetries) (order : Order) {exchange : Exchange}
    (retried : ∀ place, Retried host.transport.retries (exchange.upcoming place)) :
    (send settings hostName order).result exchange = .error .longDelay := by
  simp only [send, configured]
  exact sendRetrying_endless hostName (order.request host) (Nat.zero_add 1024) (by omega) retried

theorem host_paced_iff :
    (∀ order (exchange : Exchange), exchange.Paced host.transport.retries
      ((send settings hostName order).after exchange) ((send settings hostName order).result exchange)) ↔
      Steady host.transport.retries := by
  constructor
  · intro paced
    by_cases some : 0 < host.transport.retries.maxRetries
    · by_cases successes : ∀ status ∈ host.transport.retries.statuses, Success status
      · exact .unlisted successes
      · -- A server that keeps giving a status to be retried drives the sending to its last pause.
        push Not at successes
        obtain ⟨status, listed, failed⟩ := successes
        have retried := Exchange.steadfast_retried listed failed
        have order : Order := ⟨"", "", [], .null, .null⟩
        have held := paced order (.steadfast status)
        obtain ⟨count, run⟩ := send_run configured order (.steadfast status)
        refine .bounded ?_ (run.last_pause some held retried)
        by_contra many
        exact held.computed (send_endless configured (by omega) order retried)
    · exact .never (by omega)
  · intro steady order exchange
    obtain ⟨count, run⟩ := send_run configured order exchange
    exact run.paced steady

end

/-- All sendings with some settings can wait for their pauses and end as they should, exactly
when the retries of every host are steady. -/
theorem sends_paced_iff (settings : Settings) :
    SendsPaced settings ↔
      ∀ hostName host, settings.host? hostName = some host → Steady host.transport.retries := by
  constructor
  · intro paced hostName host configured
    exact (host_paced_iff configured).mp (paced hostName host configured)
  · intro steady hostName host configured
    exact (host_paced_iff configured).mpr (steady hostName host configured)

/-- The retries of the settings that come with the library. -/
example : Steady ⟨2, .finite false (twoTo 52) (-53), [502, 503, 504]⟩ := .bounded (by decide) ⟨_, _, rfl, by decide⟩

def retryingHost (most : Int) (factor : Int) : Host :=
  ⟨"https://users.example", [], ⟨15, 5, ⟨most, .ofInt factor, [503]⟩⟩⟩

def retryingSettings : Settings :=
  ⟨1, {}, "%s", [("stubborn", retryingHost 1025 0), ("hasty", retryingHost 1 (-1))],
    ⟨"stubborn", "/filter", some "sortOrder=DESC"⟩⟩

def retryingEntries (most : Int) (factor : Int) : Value :=
  .dict [(.text "base_url", .text "https://users.example"),
    (.text "transport", .dict [(.text "request_timeout_seconds", .int 15), (.text "connect_timeout_seconds", .int 5),
      (.text "retries", .dict [(.text "max_retries", .int most), (.text "backoff_factor", .int factor),
        (.text "retry_statuses", .list [.int 503])])])]

def retryingFolder : Folder where
  name := "."
  files := [(pathParts defaultPath, .document (.dict [(.text "version", .int 1),
    (.text "hosts", .dict [(.text "stubborn", retryingEntries 1025 0), (.text "hasty", retryingEntries 1 (-1))]),
    (.text "user_management", .dict [(.text "host", .text "stubborn"), (.text "filter_path", .text "filter")])]))]
  folders := []

/-- Settings with one retry too many and with a negative factor are loaded. The one ends a
sending without its last status, the other pauses for less than no time. -/
theorem load_unpaced_of_boldRetries :
    load retryingFolder none [] none = .ok retryingSettings ∧
      (send retryingSettings "stubborn" gentleOrder).result (.steadfast 503) = .error .longDelay ∧
      (∃ request, ((send retryingSettings "hasty" gentleOrder).after (.steadfast 503)).acts =
        [.request request, .pause (.ofInt (-1)), .request request]) ∧
      ¬SendsPaced retryingSettings := by
  have stubborn : retryingSettings.host? "stubborn" = some (retryingHost 1025 0) := by rfl
  have hasty : retryingSettings.host? "hasty" = some (retryingHost 1 (-1)) := by rfl
  have listed : (503 : Int) ∈ (retryingHost 1025 0).transport.retries.statuses := List.mem_singleton_self _
  have failed : ¬Success 503 := by simp [Success]
  have ended := send_endless stubborn (by decide) gentleOrder (Exchange.steadfast_retried listed failed)
  refine ⟨by rfl, ended, ⟨gentleOrder.request (retryingHost 1 (-1)), by rfl⟩, ?_⟩
  intro paced
  exact (paced "stubborn" _ stubborn gentleOrder (.steadfast 503)).computed ended

end FleetLink.Http
