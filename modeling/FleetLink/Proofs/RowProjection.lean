import FleetLink.Proofs.RowMapping

/-! The shape of a projection. A row may list its columns in another order, spell their
labels in other letters and carry columns that no schema asks for. What stands under each
column of the schema stays the same, and so does what mapping the row comes to. -/

namespace FleetLink.Row

def LabelledRow.columns (row : LabelledRow) : List (Label × Value) := row.labels.zip row.values

def Schema.Knows (schema : Schema) (label : Label) : Prop :=
  ∃ spec ∈ schema, label.folded = (Label.text spec.name).folded

/-- Changes of a projection, made one after another. Columns move with their values, and
only columns that the schema does not know come and go. -/
inductive Schema.Reshaped (schema : Schema) : List (Label × Value) → List (Label × Value) → Prop where
  | permuted {columns others : List (Label × Value)} (order : columns.Perm others) : Reshaped schema columns others
  | relabelled {label twin : Label} (value : Value) (others : List (Label × Value))
      (same : twin.folded = label.folded) : Reshaped schema ((label, value) :: others) ((twin, value) :: others)
  | added {label : Label} (value : Value) (columns : List (Label × Value)) (foreign : ¬schema.Knows label) :
      Reshaped schema columns ((label, value) :: columns)
  | removed {label : Label} (value : Value) (columns : List (Label × Value)) (foreign : ¬schema.Knows label) :
      Reshaped schema ((label, value) :: columns) columns
  | trans {first second third : List (Label × Value)} (before : Reshaped schema first second)
      (after : Reshaped schema second third) : Reshaped schema first third

def under (column : Label) (columns : List (Label × Value)) : List Value :=
  columns.filterMap fun (label, value) => if label.agrees column then some value else none

theorem LabelledRow.matching_eq_under (row : LabelledRow) (column : Label) :
    row.matching column = under column row.columns := rfl

theorem under_cons (column label : Label) (value : Value) (columns : List (Label × Value)) :
    under column ((label, value) :: columns) =
      if label.folded = column.folded then value :: under column columns else under column columns := by
  simp only [under, List.filterMap_cons, Label.agrees_iff]
  split <;> simp_all

/-- A change of the projection keeps the values under a column of the schema. -/
theorem Schema.Reshaped.under_perm {schema : Schema} {columns others : List (Label × Value)}
    (reshaped : schema.Reshaped columns others) {spec : ColumnSpec} (member : spec ∈ schema) :
    (under (.text spec.name) columns).Perm (under (.text spec.name) others) := by
  induction reshaped with
  | permuted order => exact order.filterMap _
  | relabelled value others same => rw [under_cons, under_cons, same]
  | added value columns foreign =>
    rw [under_cons, if_neg]
    intro called
    exact foreign ⟨spec, member, called⟩
  | removed value columns foreign =>
    rw [under_cons, if_neg]
    intro called
    exact foreign ⟨spec, member, called⟩
  | trans before after first second => exact first.trans second

/-- Errors that are one, but for the labels which the error of an absent column lists, also
where it is lost to the number of the row. -/
inductive MapError.Alike : MapError → MapError → Prop where
  | same (error : MapError) : Alike error error
  | absent (column : String) (rowNumber : Value) (row other : LabelledRow) :
      Alike (.unreadable column rowNumber (.cursor (.lookup (row.absent (.text column)))))
        (.unreadable column rowNumber (.cursor (.lookup (other.absent (.text column)))))
  | unwritable {lost other : MapError} (alike : Alike lost other) : Alike (.unwritable lost) (.unwritable other)

theorem MapError.Alike.numbered {first second : MapError} (alike : first.Alike second) (rowNumber : Value) :
    (MapError.numbered rowNumber first).Alike (MapError.numbered rowNumber second) := by
  unfold MapError.numbered
  split
  · exact alike
  · exact .unwritable alike

inductive Alike {α : Type} : Except MapError α → Except MapError α → Prop where
  | ok (value : α) : Alike (.ok value) (.ok value)
  | error {first second : MapError} (alike : first.Alike second) : Alike (.error first) (.error second)

theorem Alike.refl (outcome : Except MapError α) : Alike outcome outcome := by
  cases outcome with
  | ok value => exact .ok value
  | error error => exact .error (.same error)

theorem Alike.map {first second : Except MapError α} (alike : Alike first second) (f : α → β) :
    Alike (f <$> first) (f <$> second) := by
  cases alike with
  | ok value => exact .ok (f value)
  | error alike => exact .error alike

theorem Alike.bind {first second : Except MapError α} (alike : Alike first second) (next : α → Except MapError β) :
    Alike (first.bind next) (second.bind next) := by
  cases alike with
  | ok value => exact .refl (next value)
  | error alike => exact .error alike

section
variable {row other : LabelledRow}

theorem LabelledRow.has_of_perm {column : Label} (same : (row.matching column).Perm (other.matching column)) :
    row.has column = other.has column := by
  rw [has, has, same.isEmpty_eq]

/-- Of rows with the same values under a column, both lack it or both give the same answer. -/
theorem LabelledRow.get_of_perm {column : Label} (same : (row.matching column).Perm (other.matching column)) :
    row.get column = other.get column ∨
      (row.get column = .error (row.absent column) ∧ other.get column = .error (other.absent column)) := by
  unfold get
  generalize row.matching column = held at same
  generalize other.matching column = found at same
  cases held with
  | nil =>
    obtain rfl := List.nil_perm.mp same
    exact .inr ⟨rfl, rfl⟩
  | cons first rest =>
    cases rest with
    | nil =>
      obtain rfl := List.singleton_perm.mp same
      exact .inl rfl
    | cons second rest =>
      have many := same.length_eq
      match found with
      | [] | [_] => simp at many
      | _ :: _ :: _ => exact .inl rfl

theorem ColumnSpec.fetch_alike {spec : ColumnSpec}
    (same : (row.matching (.text spec.name)).Perm (other.matching (.text spec.name))) (rowNumber : Value) :
    Alike (spec.fetch row.cursor rowNumber) (spec.fetch other.cursor rowNumber) := by
  simp only [fetch, LabelledRow.cursor]
  rcases LabelledRow.get_of_perm same with equal | ⟨first, second⟩
  · rw [equal]
    exact .refl _
  · rw [first, second]
    exact .error (.numbered (.absent spec.name rowNumber row other) rowNumber)

theorem ColumnSpec.read_alike {spec : ColumnSpec}
    (same : (row.matching (.text spec.name)).Perm (other.matching (.text spec.name))) (rowNumber : Value) :
    Alike (spec.read row.cursor rowNumber).outcome (spec.read other.cursor rowNumber).outcome := by
  have fetched := fetch_alike same rowNumber
  have asked : row.cursor.has spec.name = other.cursor.has spec.name :=
    congrArg Except.ok (LabelledRow.has_of_perm same)
  simp only [read, asked]
  cases spec.projectionOptional with
  | false => exact fetched
  | true =>
    cases other.cursor.has spec.name with
    | error fault => exact .refl _
    | ok present =>
      cases present with
      | false => exact .refl _
      | true => exact fetched

/-- The columns of the schema come to the same values, or the same column fails first. -/
theorem Schema.read_alike {schema : Schema} (same : ∀ spec ∈ schema,
      (row.matching (.text spec.name)).Perm (other.matching (.text spec.name))) (rowNumber : Value) :
    Alike (Schema.read row.cursor rowNumber schema).outcome (Schema.read other.cursor rowNumber schema).outcome := by
  induction schema with
  | nil => exact .refl _
  | cons spec rest ih =>
    obtain ⟨head, tail⟩ := List.forall_mem_cons.mp same
    have first := ColumnSpec.read_alike head rowNumber
    simp only [Schema.read]
    generalize (spec.read row.cursor rowNumber).outcome = here at first
    generalize (spec.read other.cursor rowNumber).outcome = there at first
    cases first with
    | error alike => exact .error alike
    | ok value => exact (ih tail).map _

end

/-- A row whose projection is reshaped becomes the same record, or fails with the same
error for the same column and row. -/
theorem Mapper.mapRow_reshaped (mapper : Mapper) {row other : LabelledRow}
    (reshaped : mapper.schema.Reshaped row.columns other.columns) (rowNumber : Value) :
    Alike (mapper.mapRow row.cursor rowNumber).outcome (mapper.mapRow other.cursor rowNumber).outcome := by
  have same : ∀ spec ∈ mapper.schema, (row.matching (.text spec.name)).Perm (other.matching (.text spec.name)) := by
    intro spec member
    rw [LabelledRow.matching_eq_under, LabelledRow.matching_eq_under]
    exact reshaped.under_perm member
  rw [mapRow_outcome, mapRow_outcome]
  exact (Schema.read_alike same rowNumber).bind (mapper.record rowNumber)

/-- The columns of `shoutedRow` in another order and under other labels, of which two are
one that the schema does not know. -/
def strayRow : LabelledRow where
  labels := [.text "Made", .text "mADE", .text "tran_id", .text "tran_status"]
  values := [.int 1, .int 2, .text "T-1", .null]
  same_length := rfl

theorem strayRow_reshaped : Schema.simDetails.Reshaped shoutedRow.columns strayRow.columns := by
  have unknown (name : String) (foreign : ∀ spec ∈ Schema.simDetails, (Label.text name).folded ≠ (Label.text spec.name).folded) :
      ¬Schema.simDetails.Knows (.text name) := by
    rintro ⟨spec, member, called⟩
    exact foreign spec member called
  apply Schema.Reshaped.trans (.permuted (.swap _ _ _))
  apply Schema.Reshaped.trans (.removed _ _ (unknown "createdon" (by decide)))
  apply Schema.Reshaped.trans (@Schema.Reshaped.relabelled _ _ (.text "tran_id") _ _ (by decide))
  apply Schema.Reshaped.trans (.added (.int 2) _ (unknown "mADE" (by decide)))
  exact .added (.int 1) _ (unknown "Made" (by decide))

theorem Mapper.mapRow_reshaped_of_strayRow :
    Mapper.simDetails.schema.Reshaped shoutedRow.columns strayRow.columns ∧
      ∃ record, (Mapper.simDetails.mapRow shoutedRow.cursor (.int 7)).outcome = .ok record ∧
        (Mapper.simDetails.mapRow strayRow.cursor (.int 7)).outcome = .ok record := by
  have alike := mapRow_reshaped .simDetails strayRow_reshaped (.int 7)
  have mapped : ∃ record, (Mapper.simDetails.mapRow shoutedRow.cursor (.int 7)).outcome = .ok record := ⟨_, rfl⟩
  obtain ⟨record, same⟩ := mapped
  rw [same] at alike
  refine ⟨strayRow_reshaped, record, same, ?_⟩
  generalize (Mapper.simDetails.mapRow strayRow.cursor (.int 7)).outcome = outcome at alike
  cases alike
  rfl

end FleetLink.Row
