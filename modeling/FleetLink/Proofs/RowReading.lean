import Mathlib.Data.List.Forall2
import FleetLink.Row.Mapping
import FleetLink.Proofs.RowLabels

/-! Reading the columns of a schema in order. A reading succeeds when every column gives
a value, and otherwise the first column that gives none decides the error. A column breaks in
few ways, and names itself and the row in most of them. -/

namespace FleetLink.Row

theorem isNull_iff (value : Value) : value.isNull = true ↔ value = .null := by
  cases value <;> simp [Value.isNull]

theorem MapError.numbered_of_writable {rowNumber : Value} (short : rowNumber.isWritable = true) (error : MapError) :
    MapError.numbered rowNumber error = error := if_pos short

theorem MapError.numbered_of_long {rowNumber : Value} (long : rowNumber.isWritable = false) (error : MapError) :
    MapError.numbered rowNumber error = .unwritable error := if_neg (by simp [long])

theorem coercionFailure_of_blames {error : CoercionError} (blames : error.blamesValue = true) (column : String)
    (rowNumber : Value) :
    coercionFailure column rowNumber error = .numbered rowNumber (.unreadable column rowNumber (.coercion error)) :=
  if_pos blames

theorem coercionFailure_of_spares {error : CoercionError} (spares : error.blamesValue = false) (column : String)
    (rowNumber : Value) : coercionFailure column rowNumber error = .escaped (.coercion error) :=
  if_neg (by simp [spares])

namespace ColumnSpec

section
variable (cursor : Cursor) (rowNumber : Value) (spec : ColumnSpec)

theorem accept_eq_ok_iff (raw value : Value) : spec.accept rowNumber raw = .ok value ↔
    (raw = .null ∧ spec.nullable = true ∧ value = .null) ∨ (raw ≠ .null ∧ spec.kind.coerce raw = .ok value) := by
  unfold accept
  by_cases null : raw = .null
  · subst null
    cases spec.nullable <;> simp [Value.isNull, eq_comm]
  · have sound : raw.isNull = false := by simpa using mt (isNull_iff raw).mp null
    simp only [sound, Bool.false_eq_true, if_false, null, false_and, false_or, ne_eq, not_false_eq_true, true_and]
    cases spec.kind.coerce raw <;> simp [Except.mapError]

theorem accept_eq_error_iff (raw : Value) (error : MapError) : spec.accept rowNumber raw = .error error ↔
    (raw = .null ∧ spec.nullable = false ∧ error = .numbered rowNumber (.missing spec.name rowNumber)) ∨
      (raw ≠ .null ∧ ∃ cause, spec.kind.coerce raw = .error cause ∧
        error = coercionFailure spec.name rowNumber cause) := by
  unfold accept
  by_cases null : raw = .null
  · subst null
    cases spec.nullable <;> simp [Value.isNull, eq_comm]
  · have sound : raw.isNull = false := by simpa using mt (isNull_iff raw).mp null
    simp only [sound, Bool.false_eq_true, if_false, null, false_and, false_or, ne_eq, not_false_eq_true, true_and]
    cases spec.kind.coerce raw <;> simp [Except.mapError, eq_comm]

theorem fetch_eq_ok_iff (value : Value) : spec.fetch cursor rowNumber = .ok value ↔
    ∃ raw, cursor.get spec.name = .ok raw ∧ spec.accept rowNumber raw = .ok value := by
  unfold fetch
  cases cursor.get spec.name <;> simp

theorem fetch_eq_error_iff (error : MapError) : spec.fetch cursor rowNumber = .error error ↔
    (∃ fault, cursor.get spec.name = .error fault ∧
        error = .numbered rowNumber (.unreadable spec.name rowNumber (.cursor fault))) ∨
      ∃ raw, cursor.get spec.name = .ok raw ∧ spec.accept rowNumber raw = .error error := by
  unfold fetch
  cases cursor.get spec.name <;> simp [eq_comm]

theorem read_eq_ok_iff (value : Value) : (spec.read cursor rowNumber).outcome = .ok value ↔
    (spec.projectionOptional = true ∧ cursor.has spec.name = .ok false ∧ value = .null) ∨
      ((spec.projectionOptional = true → cursor.has spec.name = .ok true) ∧
        spec.fetch cursor rowNumber = .ok value) := by
  unfold read
  cases spec.projectionOptional with
  | false => simp
  | true =>
    cases cursor.has spec.name with
    | error fault => simp
    | ok present => cases present <;> simp [eq_comm]

theorem read_eq_error_iff (error : MapError) : (spec.read cursor rowNumber).outcome = .error error ↔
    (spec.projectionOptional = true ∧ ∃ fault, cursor.has spec.name = .error fault ∧
        error = .escaped (.cursor fault)) ∨
      ((spec.projectionOptional = true → cursor.has spec.name = .ok true) ∧
        spec.fetch cursor rowNumber = .error error) := by
  unfold read
  cases spec.projectionOptional with
  | false => simp
  | true =>
    cases cursor.has spec.name with
    | error fault => simp [eq_comm]
    | ok present => cases present <;> simp

end

/-- The column is not left out of the projection, as far as it may be. -/
def Present (spec : ColumnSpec) (cursor : Cursor) : Prop :=
  spec.projectionOptional = true → cursor.has spec.name = .ok true

/-- The ways in which a column fails with an error that names it and the row. -/
inductive Faults (spec : ColumnSpec) (cursor : Cursor) (rowNumber : Value) : MapError → Prop where
  | unread {fault : ReadFault} (present : spec.Present cursor) (failed : cursor.get spec.name = .error fault) :
      Faults spec cursor rowNumber (.unreadable spec.name rowNumber (.cursor fault))
  | missing (present : spec.Present cursor) (got : cursor.get spec.name = .ok .null)
      (required : spec.nullable = false) :
      Faults spec cursor rowNumber (.missing spec.name rowNumber)
  | refused {raw : Value} {error : CoercionError} (present : spec.Present cursor) (got : cursor.get spec.name = .ok raw)
      (sound : raw ≠ .null) (failed : spec.kind.coerce raw = .error error) (blamed : error.blamesValue = true) :
      Faults spec cursor rowNumber (.unreadable spec.name rowNumber (.coercion error))

/-- The ways in which a column breaks. An error in saying whether the column is there passes
unchanged, and so does that of a value that leads out of some range. The others name the
column and the row, if the number of the row can be written. -/
inductive Breaks (spec : ColumnSpec) (cursor : Cursor) (rowNumber : Value) : MapError → Prop where
  | unanswered {fault : ReadFault} (optional : spec.projectionOptional = true)
      (failed : cursor.has spec.name = .error fault) : Breaks spec cursor rowNumber (.escaped (.cursor fault))
  | overflowed {raw : Value} {error : CoercionError} (present : spec.Present cursor)
      (got : cursor.get spec.name = .ok raw) (sound : raw ≠ .null) (failed : spec.kind.coerce raw = .error error)
      (spared : error.blamesValue = false) : Breaks spec cursor rowNumber (.escaped (.coercion error))
  | named {error : MapError} (faults : spec.Faults cursor rowNumber error) (short : rowNumber.isWritable = true) :
      Breaks spec cursor rowNumber error
  | unwritable {error : MapError} (faults : spec.Faults cursor rowNumber error) (long : rowNumber.isWritable = false) :
      Breaks spec cursor rowNumber (.unwritable error)

section
variable {cursor : Cursor} {rowNumber : Value} {spec : ColumnSpec} {error : MapError}

theorem Faults.breaks (faults : spec.Faults cursor rowNumber error) :
    spec.Breaks cursor rowNumber (.numbered rowNumber error) := by
  cases short : rowNumber.isWritable with
  | true =>
    rw [MapError.numbered_of_writable short]
    exact .named faults short
  | false =>
    rw [MapError.numbered_of_long short]
    exact .unwritable faults short

theorem Faults.read (faults : spec.Faults cursor rowNumber error) :
    (spec.read cursor rowNumber).outcome = .error (.numbered rowNumber error) := by
  rw [read_eq_error_iff, fetch_eq_error_iff]
  cases faults with
  | unread present failed => exact .inr ⟨present, .inl ⟨_, failed, rfl⟩⟩
  | missing present got required =>
    have refused := (accept_eq_error_iff rowNumber spec .null _).mpr (.inl ⟨rfl, required, rfl⟩)
    exact .inr ⟨present, .inr ⟨_, got, refused⟩⟩
  | @refused raw cause present got sound failed blamed =>
    have named := coercionFailure_of_blames blamed spec.name rowNumber
    have refused := (accept_eq_error_iff rowNumber spec raw _).mpr (.inr ⟨sound, cause, failed, named.symm⟩)
    exact .inr ⟨present, .inr ⟨_, got, refused⟩⟩

/-- A column fails in these ways and in no other. -/
theorem read_iff_breaks :
    (spec.read cursor rowNumber).outcome = .error error ↔ spec.Breaks cursor rowNumber error := by
  constructor
  · rw [read_eq_error_iff, fetch_eq_error_iff]
    rintro (⟨optional, fault, asked, same⟩ | ⟨present, ⟨fault, got, same⟩ | ⟨raw, got, refused⟩⟩)
    · exact same ▸ .unanswered optional asked
    · exact same ▸ Faults.breaks (.unread present got)
    · rcases (accept_eq_error_iff rowNumber spec raw error).mp refused with
        ⟨rfl, required, same⟩ | ⟨sound, cause, coerced, same⟩
      · exact same ▸ Faults.breaks (.missing present got required)
      · cases blamed : cause.blamesValue with
        | true =>
          rw [coercionFailure_of_blames blamed] at same
          exact same ▸ Faults.breaks (.refused present got sound coerced blamed)
        | false =>
          rw [coercionFailure_of_spares blamed] at same
          exact same ▸ .overflowed present got sound coerced blamed
  · intro breaks
    cases breaks with
    | unanswered optional failed => exact (read_eq_error_iff ..).mpr (.inl ⟨optional, _, failed, rfl⟩)
    | @overflowed raw cause present got sound failed spared =>
      have escaped := coercionFailure_of_spares spared spec.name rowNumber
      have refused := (accept_eq_error_iff rowNumber spec raw _).mpr (.inr ⟨sound, cause, failed, escaped.symm⟩)
      have fetched := (fetch_eq_error_iff cursor rowNumber spec _).mpr (.inr ⟨raw, got, refused⟩)
      exact (read_eq_error_iff ..).mpr (.inr ⟨present, fetched⟩)
    | named faults short => rw [faults.read, MapError.numbered_of_writable short]
    | unwritable faults long => rw [faults.read, MapError.numbered_of_long long]

end

end ColumnSpec

namespace Schema
variable (cursor : Cursor) (rowNumber : Value)

theorem read_eq_ok_iff (schema : Schema) (values : List (String × Value)) :
    (Schema.read cursor rowNumber schema).outcome = .ok values ↔
      List.Forall₂ (fun (spec : ColumnSpec) entry => entry.1 = spec.target ∧
        (spec.read cursor rowNumber).outcome = .ok entry.2) schema values := by
  induction schema generalizing values with
  | nil => simp [Schema.read, eq_comm]
  | cons spec rest ih =>
    simp only [Schema.read]
    cases first : (spec.read cursor rowNumber).outcome with
    | error error => simp [first, List.forall₂_cons_left_iff]
    | ok value =>
      cases others : (Schema.read cursor rowNumber rest).outcome with
      | error error =>
        simp only [others, reduceCtorEq, false_iff] at ih
        simp [List.forall₂_cons_left_iff, ih]
      | ok later =>
        simp only [others, Except.ok.injEq] at ih
        simp only [Except.map_ok, Except.ok.injEq, List.forall₂_cons_left_iff, ← ih]
        constructor
        · rintro rfl
          exact ⟨_, _, ⟨rfl, first⟩, rfl, rfl⟩
        · rintro ⟨⟨target, given⟩, tail, ⟨rfl, same⟩, rfl, rfl⟩
          rw [first] at same
          cases same
          rfl

/-- A cursor that gives at least the same values column by column gives them for all columns together. -/
theorem read_eq_ok_of_columns {other : Cursor} {schema : Schema} {values : List (String × Value)}
    (kept : ∀ spec ∈ schema, ∀ value, (spec.read cursor rowNumber).outcome = .ok value →
      (spec.read other rowNumber).outcome = .ok value)
    (read : (Schema.read cursor rowNumber schema).outcome = .ok values) :
    (Schema.read other rowNumber schema).outcome = .ok values := by
  rw [read_eq_ok_iff] at read ⊢
  induction read with
  | nil => exact .nil
  | @cons spec entry rest values first others ih =>
    obtain ⟨head, tail⟩ := List.forall_mem_cons.mp kept
    exact .cons ⟨first.1, head _ first.2⟩ (ih tail)

theorem exists_read_iff (schema : Schema) :
    (∃ values, (Schema.read cursor rowNumber schema).outcome = .ok values) ↔
      ∀ spec ∈ schema, ∃ value, (spec.read cursor rowNumber).outcome = .ok value := by
  simp only [read_eq_ok_iff]
  induction schema with
  | nil => simp
  | cons spec rest ih =>
    simp only [List.forall₂_cons_left_iff, List.forall_mem_cons, ← ih]
    constructor
    · rintro ⟨_, entry, tail, ⟨_, given⟩, others, rfl⟩
      exact ⟨⟨_, given⟩, tail, others⟩
    · rintro ⟨⟨value, given⟩, tail, others⟩
      exact ⟨_, (spec.target, value), tail, ⟨rfl, given⟩, others, rfl⟩

/-- The error of a reading is that of the first column that cannot be read. -/
theorem read_eq_error_iff (schema : Schema) (error : MapError) :
    (Schema.read cursor rowNumber schema).outcome = .error error ↔
      ∃ before spec after, schema = before ++ spec :: after ∧
        (∀ earlier ∈ before, ∃ value, (ColumnSpec.read cursor rowNumber earlier).outcome = .ok value) ∧
        (ColumnSpec.read cursor rowNumber spec).outcome = .error error := by
  induction schema with
  | nil => simp [Schema.read]
  | cons spec rest ih =>
    simp only [Schema.read]
    cases first : (spec.read cursor rowNumber).outcome with
    | error found =>
      simp only [Except.error.injEq]
      constructor
      · rintro rfl
        exact ⟨[], spec, rest, rfl, by simp, first⟩
      · rintro ⟨before, failing, after, split, earlier, failed⟩
        cases before with
        | nil =>
          cases split
          rw [first] at failed
          exact Except.error.inj failed
        | cons head before =>
          cases split
          obtain ⟨value, given⟩ := earlier spec (by simp)
          rw [first] at given
          cases given
    | ok value =>
      have rest_fails : (((spec.target, value) :: ·) <$> (Schema.read cursor rowNumber rest).outcome) = .error error ↔
          (Schema.read cursor rowNumber rest).outcome = .error error := by
        cases (Schema.read cursor rowNumber rest).outcome <;> simp
      rw [rest_fails, ih]
      constructor
      · rintro ⟨before, failing, after, rfl, earlier, failed⟩
        refine ⟨spec :: before, failing, after, rfl, ?_, failed⟩
        exact List.forall_mem_cons.mpr ⟨⟨value, first⟩, earlier⟩
      · rintro ⟨before, failing, after, split, earlier, failed⟩
        cases before with
        | nil =>
          cases split
          rw [first] at failed
          cases failed
        | cons head before =>
          cases split
          exact ⟨before, failing, after, rfl, (List.forall_mem_cons.mp earlier).2, failed⟩

end Schema

end FleetLink.Row
