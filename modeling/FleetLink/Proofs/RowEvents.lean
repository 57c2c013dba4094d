import FleetLink.Row.Logging
import FleetLink.Proofs.RowFailure
import FleetLink.Proofs.Runs

/-! What mapping a row writes to the log. A failure that names its column and its row is
warned of once, unless the value was read and is at fault: then nothing is written. -/

namespace FleetLink.Row
open Log Record

def written : Except MapError α → List Event
  | .ok _ => []
  | .error error => error.events

theorem warn_run (name : String) (fields : List (String × Value)) (log : List Event) :
    warn name fields log = (.ok ⟨⟩, log ++ [⟨name, .warning, fields⟩]) := rfl

/-- An error that is lost to the number of its row has been warned of all the same. -/
theorem numbered_events (rowNumber : Value) (error : MapError) :
    (MapError.numbered rowNumber error).events = error.events := by
  unfold MapError.numbered
  split <;> rfl

theorem coercionFailure_silent (column : String) (rowNumber : Value) (error : CoercionError) :
    (coercionFailure column rowNumber error).events = [] := by
  unfold coercionFailure
  split
  · exact numbered_events rowNumber _
  · rfl

namespace ColumnSpec
variable (cursor : Cursor) (rowNumber : Value) (spec : ColumnSpec) (log : List Event)

theorem acceptLogging_run (raw : Value) :
    spec.acceptLogging rowNumber raw log =
      (spec.accept rowNumber raw, log ++ written (spec.accept rowNumber raw)) := by
  unfold acceptLogging accept
  split
  · split
    · rw [pure_run, written, List.append_nil]
    · rw [bind_run, warn_run, written, numbered_events]
      rfl
  · cases spec.kind.coerce raw with
    | ok value => exact congrArg _ (List.append_nil log).symm
    | error error =>
      simp only [Except.mapError, written, coercionFailure_silent, List.append_nil]
      rfl

theorem fetchLogging_run :
    spec.fetchLogging cursor rowNumber log =
      (spec.fetch cursor rowNumber, log ++ written (spec.fetch cursor rowNumber)) := by
  unfold fetchLogging fetch
  cases cursor.get spec.name with
  | error fault =>
    simp only [bind_run, warn_run, written, numbered_events]
    rfl
  | ok raw => exact acceptLogging_run rowNumber spec log raw

theorem readLogging_run :
    spec.readLogging cursor rowNumber log =
      ((spec.read cursor rowNumber).outcome, log ++ written (spec.read cursor rowNumber).outcome) := by
  unfold readLogging read
  split
  · cases cursor.has spec.name with
    | error fault => exact congrArg _ (List.append_nil log).symm
    | ok present =>
      cases present with
      | false => exact congrArg _ (List.append_nil log).symm
      | true => exact fetchLogging_run cursor rowNumber spec log
  · exact fetchLogging_run cursor rowNumber spec log

end ColumnSpec

namespace Schema

theorem readLogging_run (cursor : Cursor) (rowNumber : Value) (schema : Schema) (log : List Event) :
    schema.readLogging cursor rowNumber log =
      ((schema.read cursor rowNumber).outcome, log ++ written (schema.read cursor rowNumber).outcome) := by
  induction schema generalizing log with
  | nil => exact congrArg _ (List.append_nil log).symm
  | cons spec rest ih =>
    simp only [readLogging, Schema.read, bind_run, ColumnSpec.readLogging_run]
    cases (spec.read cursor rowNumber).outcome with
    | error error => rfl
    | ok value =>
      simp only [written, List.append_nil, ih]
      cases (Schema.read cursor rowNumber rest).outcome with
      | error error => rfl
      | ok values => simp only [pure_run, Except.map_ok, List.append_nil]

theorem mapLogging_run {make : List (String × Value) → Except MapError α}
    (silent : ∀ values error, make values = .error error → error.events = []) (cursor : Cursor) (rowNumber : Value)
    (schema : Schema) (log : List Event) :
    schema.mapLogging make cursor rowNumber log =
      ((schema.read cursor rowNumber).outcome.bind make,
        log ++ written ((schema.read cursor rowNumber).outcome.bind make)) := by
  rw [mapLogging, bind_run, readLogging_run]
  cases (schema.read cursor rowNumber).outcome with
  | error error => rfl
  | ok values =>
    simp only [Except.bind]
    cases made : make values with
    | error error =>
      simp only [written, List.append_nil, silent values error made]
      rfl
    | ok value =>
      simp only [written, List.append_nil]
      rfl

theorem mapRowLogging_run (cursor : Cursor) (rowNumber : Value) (schema : Schema) (log : List Event) :
    schema.mapRowLogging cursor rowNumber log =
      ((schema.mapRow cursor rowNumber).outcome, log ++ written (schema.mapRow cursor rowNumber).outcome) := by
  apply mapLogging_run
  intro values error failed
  simp only at failed
  split at failed
  · cases failed
    rfl
  · cases failed

end Schema

namespace Mapper
variable (mapper : Mapper) (cursor : Cursor) (rowNumber : Value)

theorem record_eq_error {values : List (String × Value)} {error : MapError}
    (failed : mapper.record rowNumber values = .error error) : ∃ issues, error = .invalid mapper.shape issues := by
  simp only [record] at failed
  split at failed
  next => cases failed
  next issues _ =>
    cases failed
    exact ⟨issues, rfl⟩

/-- The mapping that writes to the log comes to what the mapping without a log does. -/
theorem mapRowLogging_run (log : List Event) :
    mapper.mapRowLogging cursor rowNumber log =
      ((mapper.mapRow cursor rowNumber).outcome, log ++ written (mapper.mapRow cursor rowNumber).outcome) := by
  apply Schema.mapLogging_run
  intro values error failed
  obtain ⟨issues, rfl⟩ := mapper.record_eq_error rowNumber failed
  rfl

end Mapper

structure Warns (column : String) (rowNumber : Value) (event : Event) : Prop where
  level : event.level = .warning
  column : event.fields.lookup "column" = some (.text column)
  row : event.fields.lookup "row_number" = some rowNumber

/-- The column is there with a value that is not null, and the value is at fault: it is
none of its kind, nor a sound one that leads too far. -/
def ColumnSpec.Refuses (spec : ColumnSpec) (cursor : Cursor) : Prop :=
  (spec.projectionOptional = true → cursor.has spec.name = .ok true) ∧
    ∃ raw, cursor.get spec.name = .ok raw ∧ raw ≠ .null ∧ (∀ value, spec.kind.coerce raw ≠ .ok value) ∧
      ¬spec.kind.Overflows raw

/-- The column is the first of the schema that cannot be read. -/
def Schema.StopsAt (schema : Schema) (cursor : Cursor) (rowNumber : Value) (spec : ColumnSpec) : Prop :=
  ∃ before after, schema = before ++ spec :: after ∧
    (∀ earlier ∈ before, ∃ value, (ColumnSpec.read cursor rowNumber earlier).outcome = .ok value) ∧
    ∃ error, (spec.read cursor rowNumber).outcome = .error error

/-- What a mapping that began with some log has to leave there: a record leaves the log as
it was, and an error about a column leaves one warning more, about the first column that
cannot be read and about this row. -/
def Schema.Logged (schema : Schema) (cursor : Cursor) (rowNumber : Value) (log : List Event) :
    Except MapError α × List Event → Prop
  | (.ok _, after) => after = log
  | (.error error, after) => error.OfColumn → ∃ spec event, schema.StopsAt cursor rowNumber spec ∧
      error.Names spec.name rowNumber ∧ Warns spec.name rowNumber event ∧ after = log ++ [event]

/-- The ways in which a column fails, each with what it writes. -/
inductive ColumnSpec.Fails (spec : ColumnSpec) (cursor : Cursor) (rowNumber : Value) (error : MapError) : Prop where
  | warned {event : Event} (warns : Warns spec.name rowNumber event) (events : error.events = [event])
      (names : error.Names spec.name rowNumber) (spared : ¬spec.Refuses cursor)
  | refused (refuses : spec.Refuses cursor) (short : rowNumber.isWritable = true) (events : error.events = [])
      (names : error.Names spec.name rowNumber)
  | unnamed (unnamed : ¬error.OfColumn) (spared : rowNumber.isWritable = true → ¬spec.Refuses cursor)

namespace ColumnSpec
variable {spec : ColumnSpec} {cursor : Cursor} {rowNumber : Value}

theorem refuses_of_coerce {raw : Value} {cause : CoercionError}
    (present : spec.projectionOptional = true → cursor.has spec.name = .ok true) (got : cursor.get spec.name = .ok raw)
    (sound : raw ≠ .null) (failed : spec.kind.coerce raw = .error cause) :
    spec.Refuses cursor ↔ cause.blamesValue = true := by
  have overflows : spec.kind.Overflows raw ↔ cause.blamesValue = false := by
    rw [← ColumnKind.coerce_escapes_iff]
    simp [Escapes, failed]
  constructor
  · rintro ⟨_, other, found, _, _, spared⟩
    rw [got] at found
    cases found
    simpa [overflows] using spared
  · intro blames
    refine ⟨present, raw, got, sound, ?_, ?_⟩
    · simp [failed]
    · simp [overflows, blames]

theorem fails_of_read {error : MapError} (failed : (spec.read cursor rowNumber).outcome = .error error) :
    spec.Fails cursor rowNumber error := by
  cases read_iff_breaks.mp failed with
  | unanswered optional asked =>
    refine .unnamed (MapError.not_ofColumn_escaped _) fun _ => ?_
    rintro ⟨present, _⟩
    rw [present optional] at asked
    cases asked
  | overflowed present got sound coerced spared =>
    refine .unnamed (MapError.not_ofColumn_escaped _) fun _ refused => ?_
    rw [(refuses_of_coerce present got sound coerced).mp refused] at spared
    cases spared
  | unwritable _ long => exact .unnamed (MapError.not_ofColumn_unwritable _) (by simp [long])
  | named faults short =>
    cases faults with
    | unread present unread =>
      refine .warned ⟨rfl, rfl, rfl⟩ rfl ⟨rfl, rfl⟩ ?_
      rintro ⟨_, raw, found, _⟩
      rw [unread] at found
      cases found
    | missing present got =>
      refine .warned ⟨rfl, rfl, rfl⟩ rfl ⟨rfl, rfl⟩ ?_
      rintro ⟨_, raw, found, sound, _⟩
      rw [got] at found
      cases found
      exact sound rfl
    | refused present got sound coerced blamed =>
      exact .refused ((refuses_of_coerce present got sound coerced).mpr blamed) short rfl ⟨rfl, rfl⟩

end ColumnSpec

namespace Schema

/-- The first column that cannot be read is there with a value that is at fault, and the
number of the row can be written into an error that says so. -/
def Refuses (schema : Schema) (cursor : Cursor) (rowNumber : Value) : Prop :=
  rowNumber.isWritable = true ∧ ∃ spec, schema.StopsAt cursor rowNumber spec ∧ spec.Refuses cursor

variable {schema : Schema} {cursor : Cursor} {rowNumber : Value}

theorem stopsAt_of_read {error : MapError} (failed : (schema.read cursor rowNumber).outcome = .error error) :
    ∃ spec, schema.StopsAt cursor rowNumber spec ∧ spec.Fails cursor rowNumber error := by
  obtain ⟨before, spec, after, split, earlier, stopped⟩ := (read_eq_error_iff cursor rowNumber schema error).mp failed
  exact ⟨spec, ⟨before, after, split, earlier, error, stopped⟩, ColumnSpec.fails_of_read stopped⟩

theorem read_of_stopsAt {spec : ColumnSpec} (stops : schema.StopsAt cursor rowNumber spec) :
    ∃ error, (schema.read cursor rowNumber).outcome = .error error ∧ spec.Fails cursor rowNumber error := by
  obtain ⟨before, after, split, earlier, error, stopped⟩ := stops
  refine ⟨error, ?_, ColumnSpec.fails_of_read stopped⟩
  exact (read_eq_error_iff cursor rowNumber schema error).mpr ⟨before, spec, after, split, earlier, stopped⟩

end Schema

namespace Mapper
variable {mapper : Mapper} {cursor : Cursor} {rowNumber : Value}

theorem read_of_mapRow {error : MapError} (failed : (mapper.mapRow cursor rowNumber).outcome = .error error)
    (column : error.OfColumn) : (mapper.schema.read cursor rowNumber).outcome = .error error := by
  rw [mapRow_outcome] at failed
  cases read : (mapper.schema.read cursor rowNumber).outcome with
  | error found =>
    rw [read] at failed
    cases failed
    rfl
  | ok values =>
    -- Columns are looked at while reading only.
    rw [read] at failed
    obtain ⟨issues, rfl⟩ := mapper.record_eq_error rowNumber failed
    obtain ⟨_, _, none⟩ := column
    cases none

theorem mapRow_of_read {error : MapError} (failed : (mapper.schema.read cursor rowNumber).outcome = .error error) :
    (mapper.mapRow cursor rowNumber).outcome = .error error := by
  rw [mapRow_outcome, failed]
  rfl

/-- A mapping leaves in the log what it has to, exactly when the first column that cannot be
read does not hold a value that is at fault, or no error can name it. -/
theorem mapRow_logged_iff (mapper : Mapper) (cursor : Cursor) (rowNumber : Value) (log : List Event) :
    mapper.schema.Logged cursor rowNumber log (mapper.mapRowLogging cursor rowNumber log) ↔
      ¬mapper.schema.Refuses cursor rowNumber := by
  rw [mapRowLogging_run]
  constructor
  · rintro logged ⟨short, spec, stops, refuses⟩
    obtain ⟨error, failed, fails⟩ := Schema.read_of_stopsAt stops
    rw [mapRow_of_read failed] at logged
    cases fails with
    | warned _ _ _ spared => exact spared refuses
    | unnamed _ spared => exact spared short refuses
    | refused _ _ events names =>
      obtain ⟨_, _, _, _, _, more⟩ := logged ⟨_, _, names⟩
      simp [written, events] at more
  · intro spared
    cases outcome : (mapper.mapRow cursor rowNumber).outcome with
    | ok record => exact List.append_nil log
    | error error =>
      intro column
      obtain ⟨spec, stops, fails⟩ := Schema.stopsAt_of_read (read_of_mapRow outcome column)
      cases fails with
      | warned warns events names => exact ⟨spec, _, stops, names, warns, congrArg (log ++ ·) events⟩
      | refused refuses short => exact absurd ⟨short, spec, stops, refuses⟩ spared
      | unnamed unnamed => exact absurd column unnamed

def wordIdRow : LabelledRow where
  labels := [.text "id"]
  values := [.text "x"]
  same_length := by decide

/-- A word where a number belongs is an error about its column, and nothing is written. -/
theorem mapRow_unlogged_of_wordId :
    associationHistory.mapRowLogging wordIdRow.cursor (.int 1) [] =
        (.error (.unreadable "id" (.int 1) (.coercion (.integerText "x" .malformed))), []) ∧
      ¬associationHistory.schema.Logged wordIdRow.cursor (.int 1) []
        (associationHistory.mapRowLogging wordIdRow.cursor (.int 1) []) := by
  have silent : associationHistory.mapRowLogging wordIdRow.cursor (.int 1) [] =
      (.error (.unreadable "id" (.int 1) (.coercion (.integerText "x" .malformed))), []) := by rfl
  refine ⟨silent, fun logged => ?_⟩
  rw [silent] at logged
  obtain ⟨_, _, _, _, _, more⟩ := logged ⟨"id", .int 1, rfl, rfl⟩
  cases more

end Mapper

end FleetLink.Row
