import FleetLink.Proofs.Moment
import FleetLink.Proofs.RowMapping

/-! How mapping a row can fail. An error names a column and the row, unless the first
column that cannot be read leaks: the question whether it is there fails, its value is a
sound one that leads out of some range, or the number of the row is too long to write. -/

namespace FleetLink.Row
open Number Time

/-- A number of seconds leads past what a clock holds, not only past the calendar. -/
def BeyondClock (outcome : Except EpochError Moment) : Prop :=
  outcome = .error .beyondSeconds ∨ outcome = .error .beyondClock

/-- An aware reading whose moment in UTC lies outside the calendar. -/
def BeyondCalendar (moment : Moment) : Prop :=
  moment.isNaive = false ∧ moment.toUtc? = none

/-- The values that a kind of column is sound for and yet cannot hold. -/
inductive ColumnKind.Overflows : ColumnKind → Value → Prop where
  | infinite (negative : Bool) : Overflows .integer (.decimal (.infinite negative))
  | signalling (negative : Bool) (payload : Nat) : Overflows .integer (.decimal (.nan negative true payload))
  | seconds {kind : ColumnKind} {n : Int} (timed : kind = .timestamp ∨ kind = .epochMillis)
      (beyond : BeyondClock (ofEpoch n 0)) : Overflows kind (.int n)
  | fraction {kind : ColumnKind} {x : Binary64} (timed : kind = .timestamp ∨ kind = .epochMillis)
      (beyond : BeyondClock (ofEpochFloat x)) : Overflows kind (.float x)
  | moment {kind : ColumnKind} {moment : Moment} (timed : kind = .timestamp ∨ kind = .epochMillis)
      (beyond : BeyondCalendar moment) : Overflows kind (.moment moment)
  | text {kind : ColumnKind} {value : Value} {text : String} {moment : Moment}
      (timed : kind = .timestamp ∨ kind = .epochMillis) (written : value.text? = some text)
      (read : readIso (Text.strip text) = .ok moment) (beyond : BeyondCalendar moment) : Overflows kind value
  | unknown (name : String) (value : Value) : Overflows (.unknown name) value

/-- The coercion fails with an error that does not blame the value. -/
def Escapes (outcome : Except CoercionError α) : Prop :=
  ∃ error, outcome = .error error ∧ error.blamesValue = false

theorem escapes_map {wrap : α → β} {outcome : Except CoercionError α} : Escapes (wrap <$> outcome) ↔ Escapes outcome := by
  unfold Escapes
  cases outcome <;> simp

theorem coerceString_blames (value : Value) : ¬Escapes (coerceString value) := by
  rintro ⟨error, failed, sound⟩
  unfold coerceString at failed
  split at failed
  next bytes =>
    cases decoded : Text.Utf8.decode bytes with
    | error fault =>
      rw [decoded] at failed
      cases failed
      cases sound
    | ok text =>
      rw [decoded] at failed
      cases failed
  next =>
    split at failed
    · cases failed
    · cases failed
      cases sound

theorem coerceAssociationStatus_blames (value : Value) : ¬Escapes (coerceAssociationStatus value) := by
  rintro ⟨error, failed, sound⟩
  unfold coerceAssociationStatus at failed
  cases read : coerceString value with
  | error found =>
    rw [read] at failed
    cases failed
    exact coerceString_blames value ⟨error, read, sound⟩
  | ok name =>
    rw [read] at failed
    simp only [bind, Except.bind] at failed
    split at failed
    · cases failed
    · cases failed
      cases sound

theorem coerceInteger_escapes_iff (value : Value) :
    Escapes (coerceInteger value) ↔ ColumnKind.integer.Overflows value := by
  constructor
  · rintro ⟨error, failed, sound⟩
    unfold coerceInteger at failed
    split at failed
    next => cases failed; cases sound
    next => cases failed
    next d =>
      unfold coerceDecimal at failed
      split at failed
      next negative payload => exact .signalling negative payload
      next negative => exact .infinite negative
      next =>
        split at failed
        · cases failed
        · cases failed
          cases sound
    next =>
      split at failed
      next text written =>
        cases read : readInteger text with
        | error found =>
          rw [read] at failed
          cases failed
          cases found <;> cases sound
        | ok n =>
          rw [read] at failed
          cases failed
      next => cases failed; cases sound
  · intro overflows
    cases overflows with
    | infinite negative => exact ⟨_, rfl, rfl⟩
    | signalling negative payload => exact ⟨_, rfl, rfl⟩
    | seconds timed => simp at timed
    | fraction timed => simp at timed
    | moment timed => simp at timed
    | text timed => simp at timed

theorem naiveUtc_escapes_iff (moment : Moment) : Escapes (naiveUtc moment) ↔ BeyondCalendar moment := by
  unfold naiveUtc BeyondCalendar Escapes
  cases moment.isNaive with
  | true => simp
  | false =>
    cases moment.toUtc? with
    | none => exact iff_of_true ⟨.beyondCalendar, rfl, rfl⟩ ⟨rfl, rfl⟩
    | some utc => exact iff_of_false (by rintro ⟨_, failed, _⟩; cases failed) (by simp)

/-- A number of seconds is a moment in UTC, so that only the number itself can lead too far. -/
theorem coerceSeconds_escapes_iff {outcome : Except EpochError Moment}
    (utc : ∀ moment, outcome = .ok moment → moment.offset = some 0) :
    Escapes (outcome.mapError .epoch >>= naiveUtc) ↔ BeyondClock outcome := by
  cases outcome with
  | error error =>
    cases error with
    | beyondSeconds => exact iff_of_true ⟨_, rfl, rfl⟩ (.inl rfl)
    | beyondClock => exact iff_of_true ⟨_, rfl, rfl⟩ (.inr rfl)
    | notANumber | year =>
      apply iff_of_false
      · rintro ⟨_, failed, sound⟩
        cases failed
        cases sound
      · rintro (same | same) <;> cases same
  | ok moment =>
    have inside := Moment.toUtc?_of_offset_zero (utc moment rfl)
    have settled : ¬Escapes (naiveUtc moment) := by simp [naiveUtc_escapes_iff, BeyondCalendar, inside]
    exact iff_of_false settled (by simp [BeyondClock])

theorem coerceTimestamp_escapes_iff {kind : ColumnKind} (timed : kind = .timestamp ∨ kind = .epochMillis) (value : Value) :
    Escapes (coerceTimestamp value) ↔ kind.Overflows value := by
  constructor
  · intro escapes
    unfold coerceTimestamp at escapes
    split at escapes
    next m => exact .moment timed ((naiveUtc_escapes_iff m).mp escapes)
    next d =>
      obtain ⟨error, failed, _⟩ := escapes
      cases failed
    next n => exact .seconds timed ((coerceSeconds_escapes_iff fun _ => ofEpoch_offset).mp escapes)
    next x => exact .fraction timed ((coerceSeconds_escapes_iff fun _ => ofEpochFloat_offset).mp escapes)
    next =>
      split at escapes
      next text written =>
        cases read : readIso (Text.strip text) with
        | error found =>
          obtain ⟨error, failed, sound⟩ := escapes
          rw [read] at failed
          cases failed
          cases sound
        | ok moment =>
          rw [read] at escapes
          exact .text timed written read ((naiveUtc_escapes_iff moment).mp escapes)
      next =>
        obtain ⟨error, failed, sound⟩ := escapes
        cases failed
        cases sound
  · intro overflows
    cases overflows with
    | infinite => simp at timed
    | signalling => simp at timed
    | unknown => simp at timed
    | seconds _ beyond => exact (coerceSeconds_escapes_iff fun _ => ofEpoch_offset).mpr beyond
    | fraction _ beyond => exact (coerceSeconds_escapes_iff fun _ => ofEpochFloat_offset).mpr beyond
    | moment _ beyond => exact (naiveUtc_escapes_iff _).mpr beyond
    | @text _ _ text moment _ written read beyond =>
      have taken : coerceTimestamp value = naiveUtc moment := by
        cases value with
        | text | deviceAttribute | status =>
          cases written
          simp only [coerceTimestamp, Value.text?, read]
          rfl
        | _ => cases written
      rw [taken]
      exact (naiveUtc_escapes_iff moment).mpr beyond

theorem ColumnKind.coerce_escapes_iff (kind : ColumnKind) (raw : Value) :
    Escapes (kind.coerce raw) ↔ kind.Overflows raw := by
  cases kind with
  | string =>
    rw [coerce, escapes_map]
    refine iff_of_false (coerceString_blames raw) ?_
    intro overflows
    cases overflows <;> simp_all
  | associationStatus =>
    rw [coerce, escapes_map]
    refine iff_of_false (coerceAssociationStatus_blames raw) ?_
    intro overflows
    cases overflows <;> simp_all
  | integer => rw [coerce, escapes_map, coerceInteger_escapes_iff]
  | timestamp => rw [coerce, escapes_map, coerceTimestamp_escapes_iff (.inl rfl)]
  | epochMillis => rw [coerce, escapes_map, coerceEpochMillis, escapes_map, coerceTimestamp_escapes_iff (.inr rfl)]
  | unknown name => exact iff_of_true ⟨_, rfl, rfl⟩ (.unknown name raw)

/-- The error names this column and this row. -/
def MapError.Names (column : String) (rowNumber : Value) : MapError → Prop
  | .missing named number | .unreadable named number _ => named = column ∧ number = rowNumber
  | _ => False

/-- The error is about a column of the row, and says which. -/
def MapError.OfColumn (error : MapError) : Prop := ∃ column rowNumber, error.Names column rowNumber

theorem MapError.not_ofColumn_escaped (cause : ReadCause) : ¬(MapError.escaped cause).OfColumn := by
  rintro ⟨_, _, none⟩
  exact none

theorem MapError.not_ofColumn_unwritable (lost : MapError) : ¬(MapError.unwritable lost).OfColumn := by
  rintro ⟨_, _, none⟩
  exact none

/-- The error that the column comes to would not name it: the question whether an optional
column is there fails, its value overflows, or the number of the row is too long to be
named. -/
inductive ColumnSpec.Leaks (spec : ColumnSpec) (cursor : Cursor) (rowNumber : Value) : Prop where
  | unanswered {fault : ReadFault} (optional : spec.projectionOptional = true)
      (failed : cursor.has spec.name = .error fault)
  | overflowed {raw : Value} (present : spec.Present cursor)
      (got : cursor.get spec.name = .ok raw) (sound : raw ≠ .null) (overflows : spec.kind.Overflows raw)
  | unwritable {error : MapError} (failed : (spec.read cursor rowNumber).outcome = .error error)
      (long : rowNumber.isWritable = false)

namespace ColumnSpec
variable {spec : ColumnSpec} {cursor : Cursor} {rowNumber : Value}

theorem Faults.names {error : MapError} (faults : spec.Faults cursor rowNumber error) : error.Names spec.name rowNumber := by
  cases faults <;> exact ⟨rfl, rfl⟩

/-- The error of a column names it unless the column leaks. -/
theorem read_error_cases {error : MapError} (failed : (spec.read cursor rowNumber).outcome = .error error) :
    error.Names spec.name rowNumber ∨ spec.Leaks cursor rowNumber := by
  cases read_iff_breaks.mp failed with
  | unanswered optional asked => exact .inr (.unanswered optional asked)
  | overflowed present got sound coerced spared =>
    have overflows := (ColumnKind.coerce_escapes_iff spec.kind _).mp ⟨_, coerced, spared⟩
    exact .inr (.overflowed present got sound overflows)
  | named faults => exact .inl faults.names
  | unwritable _ long => exact .inr (.unwritable failed long)

/-- No column is named under a row number that cannot be written. -/
theorem not_ofColumn_of_long {error : MapError} (long : rowNumber.isWritable = false)
    (failed : (spec.read cursor rowNumber).outcome = .error error) : ¬error.OfColumn := by
  cases read_iff_breaks.mp failed with
  | unanswered => exact MapError.not_ofColumn_escaped _
  | overflowed => exact MapError.not_ofColumn_escaped _
  | named _ short => exact absurd (short.symm.trans long) Bool.noConfusion
  | unwritable => exact MapError.not_ofColumn_unwritable _

theorem read_of_leaks (leaks : spec.Leaks cursor rowNumber) :
    ∃ error, (spec.read cursor rowNumber).outcome = .error error ∧ ¬error.OfColumn := by
  cases leaks with
  | unanswered optional asked =>
    exact ⟨_, read_iff_breaks.mpr (.unanswered optional asked), MapError.not_ofColumn_escaped _⟩
  | @overflowed raw present got sound overflows =>
    obtain ⟨cause, coerced, spared⟩ := (ColumnKind.coerce_escapes_iff spec.kind raw).mpr overflows
    have breaks : spec.Breaks cursor rowNumber (.escaped (.coercion cause)) :=
      .overflowed present got sound coerced spared
    exact ⟨_, read_iff_breaks.mpr breaks, MapError.not_ofColumn_escaped _⟩
  | unwritable failed long => exact ⟨_, failed, not_ofColumn_of_long long failed⟩

end ColumnSpec

/-- A record, or an error that names the row and a column of the schema. -/
def Mapper.Settled (mapper : Mapper) (rowNumber : Value) : Except MapError Record → Prop
  | .ok _ => True
  | .error error => ∃ spec ∈ mapper.schema, error.Names spec.name rowNumber

/-- The first column that cannot be read leaks. -/
def Schema.Leaks (schema : Schema) (cursor : Cursor) (rowNumber : Value) : Prop :=
  ∃ before spec after, schema = before ++ spec :: after ∧
    (∀ earlier ∈ before, ∃ value, (ColumnSpec.read cursor rowNumber earlier).outcome = .ok value) ∧
    ColumnSpec.Leaks spec cursor rowNumber

/-- A row becomes a record or an error that names the row and a column, exactly when no
column leaks that all columns before can be read. -/
theorem Mapper.mapRow_settled_iff {mapper : Mapper} (standard : mapper ∈ Mapper.standard) (cursor : Cursor) (n : Int) :
    mapper.Settled (.int n) (mapper.mapRow cursor (.int n)).outcome ↔ ¬mapper.schema.Leaks cursor (.int n) := by
  have fits := fits_of_standard standard
  constructor
  · rintro settled ⟨before, spec, after, split, earlier, leaks⟩
    obtain ⟨error, failed, unnamed⟩ := ColumnSpec.read_of_leaks leaks
    have stopped := (Schema.read_eq_error_iff cursor (.int n) mapper.schema _).mpr
      ⟨before, spec, after, split, earlier, failed⟩
    rw [(mapRow_eq_error_iff fits cursor n _).mpr stopped] at settled
    obtain ⟨_, _, named⟩ := settled
    exact unnamed ⟨_, _, named⟩
  · intro tight
    cases outcome : (mapper.mapRow cursor (.int n)).outcome with
    | ok record => trivial
    | error error =>
      obtain ⟨before, spec, after, split, earlier, failed⟩ :=
        (Schema.read_eq_error_iff cursor (.int n) mapper.schema error).mp ((mapRow_eq_error_iff fits cursor n error).mp outcome)
      rcases ColumnSpec.read_error_cases failed with named | leaks
      · exact ⟨spec, by simp [split], named⟩
      · exact absurd ⟨before, spec, after, split, earlier, leaks⟩ tight

def nullIdRow : LabelledRow := ⟨[.text "id"], [.null], rfl⟩

theorem Mapper.mapRow_settled_of_nullId :
    Mapper.associationHistory ∈ Mapper.standard ∧ ¬Mapper.associationHistory.schema.Leaks nullIdRow.cursor (.int 1) := by
  have listed : Mapper.associationHistory ∈ Mapper.standard := List.mem_cons_of_mem _ List.mem_cons_self
  have failed : (Mapper.associationHistory.mapRow nullIdRow.cursor (.int 1)).outcome = .error (.missing "id" (.int 1)) := rfl
  refine ⟨listed, (mapRow_settled_iff listed nullIdRow.cursor 1).mp ?_⟩
  rw [failed]
  exact ⟨_, List.mem_cons_self, rfl, rfl⟩

def infiniteIdRow : LabelledRow := ⟨[.text "id"], [.decimal (.infinite false)], rfl⟩

/-- An infinite number in the first column leaks. -/
theorem Mapper.mapRow_unsettled_of_infiniteId :
    ¬Mapper.associationHistory.Settled (.int 1) (Mapper.associationHistory.mapRow infiniteIdRow.cursor (.int 1)).outcome := by
  have failed : (Mapper.associationHistory.mapRow infiniteIdRow.cursor (.int 1)).outcome =
      .error (.escaped (.coercion .infiniteInteger)) := rfl
  rw [failed]
  rintro ⟨_, _, named⟩
  exact MapError.not_ofColumn_escaped _ ⟨_, _, named⟩

end FleetLink.Row
