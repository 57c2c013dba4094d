import FleetLink.Proofs.Payloads
import FleetLink.Proofs.RowMapping

/-! What the payload of a mapped row depends on. Only columns that give their value to a
field which is written reach it. The number of the row and all other columns do not. -/

namespace FleetLink.Row
open Record

/-- Under a column the cursors deliver the same values. Where the column may be missing,
both have it or both lack it. -/
structure ColumnSpec.Agrees (spec : ColumnSpec) (first second : Cursor) : Prop where
  get : ∀ value, first.get spec.name = .ok value ↔ second.get spec.name = .ok value
  has : spec.projectionOptional = true → first.has spec.name = second.has spec.name

theorem LabelledRow.agrees {row other : LabelledRow} {spec : ColumnSpec}
    (same : row.matching (.text spec.name) = other.matching (.text spec.name)) : spec.Agrees row.cursor other.cursor := by
  constructor
  · intro value
    simp only [cursor, get, same]
    split <;> simp [Except.mapError]
  · intro _
    simp only [cursor, has, same]

theorem ColumnSpec.Agrees.read_iff {spec : ColumnSpec} {first second : Cursor} (agrees : spec.Agrees first second)
    (n m value : Value) :
    (spec.read first n).outcome = .ok value ↔ (spec.read second m).outcome = .ok value := by
  simp only [read_eq_ok_iff, fetch_eq_ok_iff, accept_eq_ok_iff, agrees.get]
  cases optional : spec.projectionOptional with
  | false => simp
  | true => simp [agrees.has optional]

/-- A column gives its value to a name. The vehicle takes the value of the device too. -/
def Mapper.Feeds (mapper : Mapper) (spec : ColumnSpec) (name : String) : Prop :=
  spec.target = name ∨ mapper.vehicleFromDevice = true ∧ name = "vehicle_id" ∧ spec.target = "harman_id"

instance (mapper : Mapper) (spec : ColumnSpec) (name : String) : Decidable (mapper.Feeds spec name) :=
  inferInstanceAs (Decidable (_ ∨ _))

def Mapper.Discloses (mapper : Mapper) (spec : ColumnSpec) : Prop :=
  ∃ field ∈ mapper.shape.fields, field.hidden = false ∧ (mapper.Feeds spec field.key ∨ mapper.Feeds spec field.name)

instance (mapper : Mapper) (spec : ColumnSpec) : Decidable (mapper.Discloses spec) :=
  inferInstanceAs (Decidable (∃ field ∈ mapper.shape.fields, _))

/-- No field that is written takes the number of the row. -/
def Mapper.HidesNumber (mapper : Mapper) : Prop :=
  ∀ field ∈ mapper.shape.fields, field.hidden = false → field.key ≠ "row_number" ∧ field.name ≠ "row_number"

instance (mapper : Mapper) : Decidable mapper.HidesNumber :=
  inferInstanceAs (Decidable (∀ field ∈ mapper.shape.fields, _))

section
variable {first second : Cursor} {n m : Value} {values others : List (String × Value)}

theorem targetEntries_congr {schema : Schema} (read : (schema.read first n).outcome = .ok values)
    (otherRead : (schema.read second m).outcome = .ok others) {name : String}
    (agree : ∀ spec ∈ schema, spec.target = name → spec.Agrees first second) :
    (targetEntries values).getText? name = (targetEntries others).getText? name := by
  have lookup : values.reverse.lookup name = others.reverse.lookup name := by
    rw [Schema.read_eq_ok_iff] at read otherRead
    -- The two readings went through the same schema, column by column.
    induction read generalizing others with
    | nil =>
      cases otherRead
      rfl
    | @cons spec entry rest values given later ih =>
      obtain ⟨twin, twins, twinGiven, twinsLater, rfl⟩ := List.forall₂_cons_left_iff.mp otherRead
      obtain ⟨head, tail⟩ := List.forall_mem_cons.mp agree
      obtain ⟨target, value⟩ := entry
      obtain ⟨twinTarget, twinValue⟩ := twin
      obtain ⟨rfl, outcome⟩ := given
      obtain ⟨rfl, twinOutcome⟩ := twinGiven
      simp only [List.reverse_cons, List.lookup_append, ih twinsLater tail]
      by_cases called : spec.target = name
      · rw [(head called).read_iff n m value, twinOutcome] at outcome
        cases outcome
        rfl
      · simp [List.lookup_cons, beq_eq_false_iff_ne.mpr (Ne.symm called)]
  rw [targetEntries, targetEntries]
  exact (Dict.getText?_ofList values name).trans (lookup.trans (Dict.getText?_ofList others name).symm)

namespace Mapper
variable {mapper : Mapper}

theorem given_congr (read : (mapper.schema.read first n).outcome = .ok values)
    (otherRead : (mapper.schema.read second m).outcome = .ok others) {name : String} (unnumbered : name ≠ "row_number")
    (agree : ∀ spec ∈ mapper.schema, mapper.Feeds spec name → spec.Agrees first second) :
    (mapper.given n values).getText? name = (mapper.given m others).getText? name := by
  rw [given_other unnumbered, given_other unnumbered]
  split
  next vehicle =>
    rw [targetEntries_congr read otherRead]
    intro spec member target
    exact agree spec member (.inr ⟨vehicle.1, vehicle.2, target⟩)
  next =>
    apply targetEntries_congr read otherRead
    intro spec member target
    exact agree spec member (.inl target)

theorem built_of_mapRow {cursor : Cursor} {record : Record} (mapped : (mapper.mapRow cursor n).outcome = .ok record) :
    ∃ values, (mapper.schema.read cursor n).outcome = .ok values ∧ build mapper.shape (mapper.given n values) = .ok record := by
  rw [mapRow_outcome] at mapped
  cases read : (mapper.schema.read cursor n).outcome with
  | error error =>
    rw [read] at mapped
    cases mapped
  | ok values =>
    simp only [read, Except.bind, Mapper.record] at mapped
    refine ⟨values, rfl, ?_⟩
    split at mapped
    next built =>
      cases mapped
      exact built
    next => cases mapped

/-- Rows whose cursors agree on the columns that are disclosed have the same payload. -/
theorem payload_eq_of_agrees (hides : mapper.HidesNumber)
    (agree : ∀ spec ∈ mapper.schema, mapper.Discloses spec → spec.Agrees first second) {record other : Record}
    (mapped : (mapper.mapRow first n).outcome = .ok record) (otherMapped : (mapper.mapRow second m).outcome = .ok other) :
    record.payload = other.payload := by
  obtain ⟨values, read, built⟩ := built_of_mapRow mapped
  obtain ⟨others, otherRead, otherBuilt⟩ := built_of_mapRow otherMapped
  apply payload_eq_of_build built otherBuilt
  intro field member visible
  obtain ⟨key, name⟩ := hides field member visible
  have keyed := given_congr read otherRead key fun spec inside feeds =>
    agree spec inside ⟨field, member, visible, .inl feeds⟩
  have named := given_congr read otherRead name fun spec inside feeds =>
    agree spec inside ⟨field, member, visible, .inr feeds⟩
  simp only [Field.check, keyed, named]

end Mapper

end

def associationColumns : List String := [
  "id", "serial_number", "harman_id", "association_status", "associated_on", "disassociated_on",
  "association_type", "start_timestamp", "end_timestamp", "software_version"]

/-- All columns but the one that identifies the row. -/
def historyColumns : List String := [
  "associated_by", "associated_on", "association_status", "disassociated_by", "disassociated_on",
  "harman_id", "modified_by", "modified_on", "serial_number", "user_id"]

/-- The mappers of associations with the columns that a payload may tell of. -/
def disclosures : List (Mapper × List String) :=
  [(.association, associationColumns), (.associationHistory, historyColumns)]

/-- Rows that agree on the columns which a payload may tell of have the same payload and the
same JSON, whatever their numbers and their other columns are. -/
theorem Mapper.payload_discloses {mapper : Mapper} {columns : List String} (listed : (mapper, columns) ∈ disclosures)
    {first second : Cursor} (agree : ∀ spec ∈ mapper.schema, spec.name ∈ columns → spec.Agrees first second)
    {n m : Value} {record other : Record} (mapped : (mapper.mapRow first n).outcome = .ok record)
    (otherMapped : (mapper.mapRow second m).outcome = .ok other) :
    record.payload = other.payload ∧ record.unencodable? = other.unencodable? ∧ record.json = other.json := by
  have hides : ∀ disclosure ∈ disclosures, disclosure.1.HidesNumber := by decide
  have within : ∀ disclosure ∈ disclosures, ∀ spec ∈ disclosure.1.schema,
      disclosure.1.Discloses spec → spec.name ∈ disclosure.2 := by decide
  have same : record.payload = other.payload := by
    apply payload_eq_of_agrees (hides _ listed) _ mapped otherMapped
    intro spec member disclosed
    exact agree spec member (within _ listed spec member disclosed)
  refine ⟨same, ?_, ?_⟩
  · rw [unencodable?, unencodable?, same]
  · rw [json, json, same]

def auditedRow (user : String) (factory : Int) : LabelledRow where
  labels := (Schema.associationHistory.map fun spec => .text spec.name) ++ [.text "factory_data", .text "association_type"]
  values := [.int 5, .text user, .null, .text "ASSOCIATED", .text user, .null, .text "H-1", .text user, .null, .text "S-1",
    .text user, .int factory, .text "owner"]
  same_length := rfl

theorem Mapper.payload_discloses_of_auditedRow :
    (Mapper.association, associationColumns) ∈ disclosures ∧
      (∀ spec ∈ Mapper.association.schema, spec.name ∈ associationColumns →
        spec.Agrees (auditedRow "ann" 1).cursor (auditedRow "bob" 2).cursor) ∧
      ∃ record other, (Mapper.association.mapRow (auditedRow "ann" 1).cursor (.int 1)).outcome = .ok record ∧
        (Mapper.association.mapRow (auditedRow "bob" 2).cursor (.int 2)).outcome = .ok other ∧
        record ≠ other ∧ record.json = other.json := by
  have listed : (Mapper.association, associationColumns) ∈ disclosures := List.mem_cons_self
  have same : ∀ name ∈ associationColumns,
      (auditedRow "ann" 1).matching (.text name) = (auditedRow "bob" 2).matching (.text name) := by
    simp only [associationColumns, List.forall_mem_cons]
    exact ⟨rfl, rfl, rfl, rfl, rfl, rfl, rfl, rfl, rfl, rfl, by simp⟩
  have agree : ∀ spec ∈ Mapper.association.schema, spec.name ∈ associationColumns →
      spec.Agrees (auditedRow "ann" 1).cursor (auditedRow "bob" 2).cursor :=
    fun spec _ inside => LabelledRow.agrees (same spec.name inside)
  have mapped : ∃ record, (Mapper.association.mapRow (auditedRow "ann" 1).cursor (.int 1)).outcome = .ok record ∧
      record.values.head? = some (.integer 1) := ⟨_, rfl, rfl⟩
  have otherMapped : ∃ record, (Mapper.association.mapRow (auditedRow "bob" 2).cursor (.int 2)).outcome = .ok record ∧
      record.values.head? = some (.integer 2) := ⟨_, rfl, rfl⟩
  obtain ⟨record, mapped, number⟩ := mapped
  obtain ⟨other, otherMapped, otherNumber⟩ := otherMapped
  refine ⟨listed, agree, record, other, mapped, otherMapped, ?_, (payload_discloses listed agree mapped otherMapped).2.2⟩
  rintro rfl
  rw [number] at otherNumber
  cases otherNumber

end FleetLink.Row
