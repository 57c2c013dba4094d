import FleetLink.Proofs.RowReading
import FleetLink.Proofs.Runs
import FleetLink.Row.Asking

/-! What mapping a row asks of its cursor, and what the answers come to. The columns are asked
for in order up to the first that cannot be read, and that one alone decides the error. -/

namespace FleetLink.Row

theorem recorded_has_run (cursor : Cursor) (column : String) (asked : List Question) :
    (liftM (cursor.recorded.has column) : ExceptT MapError (StateM (List Question)) (Except ReadFault Bool)) asked =
      (.ok (cursor.has column), asked ++ [.has column]) := rfl

theorem recorded_get_run (cursor : Cursor) (column : String) (asked : List Question) :
    (liftM (cursor.recorded.get column) : ExceptT MapError (StateM (List Question)) (Except ReadFault Value)) asked =
      (.ok (cursor.get column), asked ++ [.get column]) := rfl

namespace ColumnSpec

/-- The questions about a column: whether it is there, where it may be left out, and for its
value, where it is there. -/
inductive Asks (spec : ColumnSpec) (cursor : Cursor) : List Question → Prop where
  | ordinary (kept : spec.projectionOptional = false) : Asks spec cursor [.get spec.name]
  | present (optional : spec.projectionOptional = true) (found : cursor.has spec.name = .ok true) :
      Asks spec cursor [.has spec.name, .get spec.name]
  | unfound (optional : spec.projectionOptional = true) (elsewhere : cursor.has spec.name ≠ .ok true) :
      Asks spec cursor [.has spec.name]

inductive Reads (spec : ColumnSpec) (cursor : Cursor) : Value → Prop where
  | leftOut (optional : spec.projectionOptional = true) (absent : cursor.has spec.name = .ok false) :
      Reads spec cursor .null
  | null (present : spec.Present cursor) (got : cursor.get spec.name = .ok .null) (nullable : spec.nullable = true) :
      Reads spec cursor .null
  | value {raw value : Value} (present : spec.Present cursor) (got : cursor.get spec.name = .ok raw)
      (sound : raw ≠ .null) (coerced : spec.kind.coerce raw = .ok value) : Reads spec cursor value

section
variable (cursor : Cursor) (rowNumber : Value) (spec : ColumnSpec) (asked : List Question)

theorem fetchFrom_recorded :
    spec.fetchFrom cursor.recorded rowNumber asked = (spec.fetch cursor rowNumber, asked ++ [.get spec.name]) := by
  rw [fetchFrom, bind_run, recorded_get_run, fetch]
  cases cursor.get spec.name <;> rfl

theorem readFrom_recorded :
    spec.readFrom cursor.recorded rowNumber asked =
      ((spec.read cursor rowNumber).outcome, asked ++ (spec.read cursor rowNumber).asked) := by
  unfold readFrom read
  split
  · rw [bind_run, recorded_has_run]
    cases cursor.has spec.name with
    | error fault => rfl
    | ok present =>
      cases present with
      | false => rfl
      | true =>
        simp only [fetchFrom_recorded, List.append_assoc]
        rfl
  · exact fetchFrom_recorded cursor rowNumber spec asked

end

variable {cursor : Cursor} {rowNumber : Value} {spec : ColumnSpec}

theorem read_iff_reads {value : Value} :
    (spec.read cursor rowNumber).outcome = .ok value ↔ spec.Reads cursor value := by
  rw [read_eq_ok_iff]
  constructor
  · rintro (⟨optional, absent, same⟩ | ⟨present, fetched⟩)
    · subst same
      exact .leftOut optional absent
    · obtain ⟨raw, got, accepted⟩ := (fetch_eq_ok_iff cursor rowNumber spec value).mp fetched
      rcases (accept_eq_ok_iff rowNumber spec raw value).mp accepted with ⟨none, nullable, same⟩ | ⟨sound, coerced⟩
      · subst none same
        exact .null present got nullable
      · exact .value present got sound coerced
  · intro reads
    cases reads with
    | leftOut optional absent => exact .inl ⟨optional, absent, rfl⟩
    | null present got nullable =>
      have accepted := (accept_eq_ok_iff rowNumber spec .null .null).mpr (.inl ⟨rfl, nullable, rfl⟩)
      exact .inr ⟨present, (fetch_eq_ok_iff cursor rowNumber spec .null).mpr ⟨.null, got, accepted⟩⟩
    | @value raw _ present got sound coerced =>
      have accepted := (accept_eq_ok_iff rowNumber spec raw value).mpr (.inr ⟨sound, coerced⟩)
      exact .inr ⟨present, (fetch_eq_ok_iff cursor rowNumber spec value).mpr ⟨raw, got, accepted⟩⟩

theorem coerce_ne_null (kind : ColumnKind) (raw : Value) : kind.coerce raw ≠ .ok .null := by
  have apart {α : Type} {wrap : α → Value} {outcome : Except CoercionError α} (other : ∀ found, wrap found ≠ .null) :
      wrap <$> outcome ≠ .ok .null := by
    cases outcome with
    | error error => nofun
    | ok found => exact fun same => other found (Except.ok.inj same)
  cases kind with
  | unknown name => nofun
  | _ =>
    apply apart
    simp

/-- What comes of asking for a column. One that may be left out is spared no check where it is
there, and no error is ever taken for a null. -/
structure Answered (spec : ColumnSpec) (cursor : Cursor) (rowNumber : Value) : Prop where
  value : ∀ value asked, (spec.readFrom cursor.recorded rowNumber asked).1 = .ok value ↔ spec.Reads cursor value
  error : ∀ error asked,
    (spec.readFrom cursor.recorded rowNumber asked).1 = .error error ↔ spec.Breaks cursor rowNumber error
  null : spec.Reads cursor .null ↔ (spec.projectionOptional = true ∧ cursor.has spec.name = .ok false) ∨
    (spec.Present cursor ∧ cursor.get spec.name = .ok .null ∧ spec.nullable = true)
  unspared : spec.projectionOptional = true → cursor.has spec.name = .ok true → ∀ asked,
    spec.readFrom cursor.recorded rowNumber asked =
      ({ spec with projectionOptional := false } : ColumnSpec).readFrom cursor.recorded rowNumber (asked ++ [.has spec.name])

theorem reads_null_iff : spec.Reads cursor .null ↔
    (spec.projectionOptional = true ∧ cursor.has spec.name = .ok false) ∨
      (spec.Present cursor ∧ cursor.get spec.name = .ok .null ∧ spec.nullable = true) := by
  constructor
  · intro reads
    cases reads with
    | leftOut optional absent => exact .inl ⟨optional, absent⟩
    | null present got nullable => exact .inr ⟨present, got, nullable⟩
    | value present got sound coerced => exact absurd coerced (coerce_ne_null spec.kind _)
  · rintro (⟨optional, absent⟩ | ⟨present, got, nullable⟩)
    · exact .leftOut optional absent
    · exact .null present got nullable

theorem answered (spec : ColumnSpec) (cursor : Cursor) (rowNumber : Value) : spec.Answered cursor rowNumber := by
  constructor
  · intro value asked
    rw [readFrom_recorded]
    exact read_iff_reads
  · intro error asked
    rw [readFrom_recorded]
    exact read_iff_breaks
  · exact reads_null_iff
  · intro optional found asked
    rw [readFrom_recorded, readFrom_recorded]
    simp only [read, optional, found, if_true, Bool.false_eq_true, if_false, List.append_assoc]
    rfl

end ColumnSpec

namespace Schema
variable {cursor : Cursor} {rowNumber : Value}

/-- How a mapping ends that has consulted some columns: it makes something of the values of
all, or it stops at the last of them with its error. -/
inductive Ends (schema : Schema) (make : List (String × Value) → Except MapError α) (cursor : Cursor)
    (rowNumber : Value) : Schema → Except MapError α → Prop where
  | whole {values : List (String × Value)} (read : List.Forall₂
        (fun (spec : ColumnSpec) entry => entry.1 = spec.target ∧ spec.Reads cursor entry.2) schema values) :
      Ends schema make cursor rowNumber schema (make values)
  | stopped {before after : Schema} {spec : ColumnSpec} {error : MapError} (split : schema = before ++ spec :: after)
      (earlier : ∀ sound ∈ before, ∃ value, ColumnSpec.Reads sound cursor value)
      (breaks : spec.Breaks cursor rowNumber error) :
      Ends schema make cursor rowNumber (before ++ [spec]) (.error error)

theorem readFrom_recorded (cursor : Cursor) (rowNumber : Value) (schema : Schema) (asked : List Question) :
    schema.readFrom cursor.recorded rowNumber asked =
      ((schema.read cursor rowNumber).outcome, asked ++ (schema.read cursor rowNumber).asked) := by
  induction schema generalizing asked with
  | nil => exact congrArg _ (List.append_nil asked).symm
  | cons spec rest ih =>
    simp only [readFrom, Schema.read, bind_run, ColumnSpec.readFrom_recorded]
    cases (spec.read cursor rowNumber).outcome with
    | error error => rfl
    | ok value =>
      simp only [ih, ← List.append_assoc]
      cases (Schema.read cursor rowNumber rest).outcome with
      | error error => rfl
      | ok values => rfl

theorem Ends.bind {schema consulted : Schema} {outcome : Except MapError (List (String × Value))}
    (ends : schema.Ends .ok cursor rowNumber consulted outcome) (make : List (String × Value) → Except MapError α) :
    schema.Ends make cursor rowNumber consulted (outcome.bind make) := by
  cases ends with
  | whole read => exact .whole read
  | stopped split earlier breaks => exact .stopped split earlier breaks

end Schema

end FleetLink.Row
