import Mathlib.Data.List.Induction
import FleetLink.Log.Output
import FleetLink.Proofs.Dictionary

/-! The name of the service after an output was set up many times. A call with a level that
is not known leaves everything as it was but the name, which is taken over before the level
is looked at. So the name of the last call shows, and not that of the last one that worked. -/

namespace FleetLink.Log

/-- A call that sets an output up. -/
structure SetUp where
  level : Value
  jsonFormat : Option Bool
  service : String

namespace SetUp

def succeeds (call : SetUp) : Bool := (threshold? call.level).isSome

def run (output : Output) (call : SetUp) : Output × Except LevelError Unit :=
  output.configure call.level call.jsonFormat call.service

theorem run_of_succeeds {call : SetUp} (sound : call.succeeds = true) : ∃ threshold, ∀ output : Output,
    call.run output = (⟨some threshold, call.jsonFormat.getD true, call.service⟩, .ok ()) := by
  obtain ⟨threshold, known⟩ := Option.isSome_iff_exists.mp sound
  refine ⟨threshold, fun output => ?_⟩
  simp only [run, Output.configure, known]

theorem run_of_fails {call : SetUp} (fails : call.succeeds = false) (output : Output) :
    call.run output = ({ output with service := call.service }, .error (.of call.level)) := by
  have unknown : threshold? call.level = none := by simpa [succeeds] using fails
  simp only [run, Output.configure, unknown]

theorem run_outcome (call : SetUp) (output : Output) :
    (call.run output).2 = if call.succeeds then .ok () else .error (.of call.level) := by
  cases sound : call.succeeds with
  | true =>
    obtain ⟨threshold, run⟩ := run_of_succeeds sound
    rw [run, if_pos rfl]
  | false => rw [run_of_fails sound, if_neg Bool.false_ne_true]

/-- The name that the last of some calls gives, or the one before them. -/
def lastNamed (service : String) (calls : List SetUp) : String :=
  (calls.getLast?.map SetUp.service).getD service

theorem lastNamed_append (service : String) (calls : List SetUp) (call : SetUp) :
    lastNamed service (calls ++ [call]) = call.service := by
  simp [lastNamed]

/-- Of calls of which some failed, the last name is that of the last success only when it
comes from it or was given again. -/
theorem lastNamed_eq_filter_iff (service : String) (calls : List SetUp) :
    lastNamed service calls = lastNamed service (calls.filter succeeds) ↔
      ∀ call ∈ calls.getLast?, call.succeeds = true ∨ call.service = lastNamed service (calls.filter succeeds) := by
  induction calls using List.reverseRecOn with
  | nil => simp
  | append_singleton calls call ih =>
    rw [lastNamed_append, List.getLast?_concat, List.filter_append]
    simp only [Option.mem_some_iff, forall_eq']
    cases sound : call.succeeds with
    | true => simp [sound, lastNamed_append]
    | false => simp

end SetUp

def Output.afterCalls (output : Output) (calls : List SetUp) : Output :=
  calls.foldl (fun output call => (call.run output).1) output

namespace Output

theorem afterCalls_append (output : Output) (calls : List SetUp) (call : SetUp) :
    output.afterCalls (calls ++ [call]) = (call.run (output.afterCalls calls)).1 := by
  simp [afterCalls]

/-- Calls that failed have left no trace but the name that the last of all calls gave. -/
theorem afterCalls_eq (output : Output) (calls : List SetUp) :
    output.afterCalls calls =
      { output.afterCalls (calls.filter SetUp.succeeds) with service := SetUp.lastNamed output.service calls } := by
  induction calls using List.reverseRecOn with
  | nil => rfl
  | append_singleton calls call ih =>
    rw [afterCalls_append, List.filter_append, SetUp.lastNamed_append]
    cases sound : call.succeeds with
    | true =>
      obtain ⟨threshold, run⟩ := SetUp.run_of_succeeds sound
      rw [List.filter_singleton, sound, cond_true, afterCalls_append, run, run]
    | false =>
      rw [List.filter_singleton, sound, cond_false, List.append_nil, SetUp.run_of_fails sound, ih]

end Output

theorem lookup_filter (keep : String → Bool) {name : String} (kept : keep name = true) (fields : List (String × α)) :
    (fields.filter fun field => keep field.1).lookup name = fields.lookup name := by
  induction fields with
  | nil => rfl
  | cons field rest ih =>
    obtain ⟨key, value⟩ := field
    by_cases same : name = key
    · subst same
      simp [kept]
    · have other : (name == key) = false := beq_eq_false_iff_ne.mpr same
      rw [List.lookup_cons, other, ← ih, List.filter_cons]
      split
      · rw [List.lookup_cons, other]
      · rfl

theorem Event.getText?_own (event : Event) :
    Dict.getText? "service" ((event.fields.filter fun (key, _) => !traceFields.contains key).map
      fun (key, value) => (.text key, value)) = event.fields.lookup "service" := by
  refine (Dict.getText?_texts id _ "service").trans ?_
  rw [Option.map_id]
  exact lookup_filter (fun key => !traceFields.contains key) (by decide) event.fields

/-- An event shows its own service name, and that of the output only if it has none. -/
theorem Event.getText?_service (event : Event) (service : String) (time : Value) :
    (event.entries service time).getText? "service" = some ((event.fields.lookup "service").getD (.text service)) := by
  have own := event.getText?_own
  have asked (dict : Entries) : dict.has (.text "service") = (dict.getText? "service").isSome := rfl
  unfold Event.entries
  simp only [asked, Dict.getText?_put, own, String.reduceEq, reduceIte]
  cases named : event.fields.lookup "service" with
  | none =>
    simp only [Option.isSome_none, Bool.false_eq_true, if_false, Dict.getText?_put, reduceIte, Option.getD_none]
  | some name =>
    rw [named] at own
    simp only [Option.isSome_some, if_true, Dict.getText?_put, own, String.reduceEq, reduceIte, Option.getD_some]

/-- After any calls an event without a service name shows that of the last call, which is
that of the last successful one just when the last call succeeded or gave the name again. -/
theorem service_attached_iff (output : Output) (calls : List SetUp) (event : Event) (time : Value) :
    (∀ call before, (SetUp.run before call).2 = if call.succeeds then .ok () else .error (.of call.level)) ∧
      output.afterCalls calls =
        { output.afterCalls (calls.filter SetUp.succeeds) with service := SetUp.lastNamed output.service calls } ∧
      (event.entries (output.afterCalls calls).service time).getText? "service" =
        some ((event.fields.lookup "service").getD (.text (SetUp.lastNamed output.service calls))) ∧
      ((event.entries (output.afterCalls calls).service time).getText? "service" =
          some ((event.fields.lookup "service").getD
            (.text (SetUp.lastNamed output.service (calls.filter SetUp.succeeds)))) ↔
        event.fields.lookup "service" ≠ none ∨ ∀ call ∈ calls.getLast?,
          call.succeeds = true ∨ call.service = SetUp.lastNamed output.service (calls.filter SetUp.succeeds)) := by
  have after := output.afterCalls_eq calls
  have named : (output.afterCalls calls).service = SetUp.lastNamed output.service calls := congrArg Output.service after
  have shown : (event.entries (output.afterCalls calls).service time).getText? "service" =
      some ((event.fields.lookup "service").getD (.text (SetUp.lastNamed output.service calls))) := by
    rw [event.getText?_service, named]
  refine ⟨fun call before => call.run_outcome before, after, shown, ?_⟩
  rw [shown, ← SetUp.lastNamed_eq_filter_iff]
  cases event.fields.lookup "service" with
  | none => simp
  | some name => simp

def refusedCalls : List SetUp := [⟨.text "INFO", some true, "fleet"⟩, ⟨.text "LOUD", some true, "other"⟩]

/-- The second call fails, and yet it is its name that the next event shows. -/
theorem service_misattached_of_unknownLevel :
    refusedCalls.map SetUp.succeeds = [true, false] ∧
      SetUp.lastNamed defaultService (refusedCalls.filter SetUp.succeeds) = "fleet" ∧
      Dict.getText? "service" (Event.entries ⟨"user_field_missing", .info, []⟩
        (Output.initial.afterCalls refusedCalls).service (.text "now")) = some (.text "other") ∧
      Dict.getText? "service" (Event.entries ⟨"user_field_missing", .info, []⟩
        (Output.initial.afterCalls refusedCalls).service (.text "now")) ≠ some (.text "fleet") := by
  have shown : Dict.getText? "service" (Event.entries ⟨"user_field_missing", .info, []⟩
      (Output.initial.afterCalls refusedCalls).service (.text "now")) = some (.text "other") := by rfl
  refine ⟨by rfl, by rfl, shown, ?_⟩
  rw [shown]
  simp

end FleetLink.Log
