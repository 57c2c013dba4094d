import FleetLink.Proofs.RecordBuilding
import FleetLink.Proofs.RowReading

/-! Mapping rows to records. A mapper fits when every column has a field of its own that
takes whatever the column gives. The record of a fitting mapper is then settled by the
reading of the columns alone: building it neither fails nor changes a value. -/

namespace FleetLink.Row
open Record

/-- The kind of field that holds what a kind of column gives. -/
def ColumnKind.fieldKind? : ColumnKind → Option FieldKind
  | .string => some .text
  | .integer => some .integer
  | .timestamp => some .moment
  | .epochMillis => some .integer
  | .associationStatus => some .status
  | .unknown _ => none

/-- The field takes whatever the column gives, a null only where it may be absent. -/
def ColumnSpec.Fills (spec : ColumnSpec) (field : Field) : Prop :=
  spec.kind.fieldKind? = some field.kind ∧
    (field.required = true → spec.nullable = false ∧ spec.projectionOptional = false)

instance (spec : ColumnSpec) (field : Field) : Decidable (spec.Fills field) :=
  inferInstanceAs (Decidable (_ ∧ _))

def Schema.targets (schema : Schema) : List String := schema.map ColumnSpec.target

/-- The names under which a mapper gives values to the fields of its record. -/
def Mapper.names (mapper : Mapper) : List String :=
  "row_number" :: (if mapper.vehicleFromDevice then ["vehicle_id"] else []) ++ mapper.schema.targets

/-- The column that a field is filled from. A vehicle takes that of its device. -/
def Mapper.Source (mapper : Mapper) (field : Field) (spec : ColumnSpec) : Prop :=
  spec.Fills field ∧ (spec.target = field.name ∨
    mapper.vehicleFromDevice = true ∧ field.name = "vehicle_id" ∧ spec.target = "harman_id")

instance (mapper : Mapper) (field : Field) (spec : ColumnSpec) : Decidable (mapper.Source field spec) :=
  inferInstanceAs (Decidable (_ ∧ _))

structure Mapper.Fits (mapper : Mapper) : Prop where
  distinct : mapper.names.Nodup
  landed : ∀ name ∈ mapper.names, name ∈ mapper.shape.fields.map Field.name
  keyed : ∀ field ∈ mapper.shape.fields, field.key = field.name ∨ field.key ∉ mapper.names
  filled : ∀ field ∈ mapper.shape.fields, field = rowNumberField ∨ ∃ spec ∈ mapper.schema, mapper.Source field spec
  derived : mapper.vehicleFromDevice = true → "harman_id" ∈ mapper.schema.targets

theorem Mapper.simDetails_fits : Mapper.simDetails.Fits := by
  constructor <;> decide

theorem Mapper.associationHistory_fits : Mapper.associationHistory.Fits := by
  constructor <;> decide

theorem Mapper.association_fits : Mapper.association.Fits := by
  constructor <;> decide

theorem ColumnKind.coerce_admitted {kind : ColumnKind} {field : Field} {raw value : Value}
    (same : kind.fieldKind? = some field.kind) (coerced : kind.coerce raw = .ok value) :
    ∃ held : FieldValue, field.admits held = true ∧ held.toValue = value := by
  have mapped {α : Type} {wrap : α → Value} {outcome : Except CoercionError α}
      (given : wrap <$> outcome = .ok value) : ∃ found, wrap found = value := by
    cases outcome with
    | error error => cases given
    | ok found => exact ⟨found, Except.ok.inj given⟩
  cases kind with
  | string =>
    obtain ⟨text, rfl⟩ := mapped coerced
    exact ⟨.text text, beq_iff_eq.mpr (Option.some.inj same).symm, rfl⟩
  | integer | epochMillis =>
    obtain ⟨n, rfl⟩ := mapped coerced
    exact ⟨.integer n, beq_iff_eq.mpr (Option.some.inj same).symm, rfl⟩
  | timestamp =>
    obtain ⟨moment, rfl⟩ := mapped coerced
    exact ⟨.moment moment, beq_iff_eq.mpr (Option.some.inj same).symm, rfl⟩
  | associationStatus =>
    obtain ⟨status, rfl⟩ := mapped coerced
    exact ⟨.status status, beq_iff_eq.mpr (Option.some.inj same).symm, rfl⟩
  | unknown name => cases same

theorem ColumnSpec.read_admitted {spec : ColumnSpec} {field : Field} {cursor : Cursor} {rowNumber value : Value}
    (fills : spec.Fills field) (read : (spec.read cursor rowNumber).outcome = .ok value) :
    ∃ held : FieldValue, field.admits held = true ∧ held.toValue = value := by
  have absent (optional : spec.nullable = true ∨ spec.projectionOptional = true) :
      field.admits .absent = true := by
    cases required : field.required with
    | false => simp [Field.admits, required]
    | true =>
      obtain ⟨refused, needed⟩ := fills.2 required
      simp [refused, needed] at optional
  rcases (read_eq_ok_iff cursor rowNumber spec value).mp read with ⟨optional, _, rfl⟩ | ⟨_, fetched⟩
  · exact ⟨.absent, absent (.inr optional), rfl⟩
  · obtain ⟨raw, _, accepted⟩ := (fetch_eq_ok_iff cursor rowNumber spec value).mp fetched
    rcases (accept_eq_ok_iff rowNumber spec raw value).mp accepted with ⟨_, nullable, rfl⟩ | ⟨_, coerced⟩
    · exact ⟨.absent, absent (.inl nullable), rfl⟩
    · exact ColumnKind.coerce_admitted fills.1 coerced

namespace Schema
variable {cursor : Cursor} {rowNumber : Value} {schema : Schema} {values : List (String × Value)}

private theorem read_entries (read : (schema.read cursor rowNumber).outcome = .ok values) :
    values.map Prod.fst = schema.targets ∧
      ∀ spec ∈ schema, ∃ value, (spec.target, value) ∈ values ∧ (spec.read cursor rowNumber).outcome = .ok value := by
  have each := (read_eq_ok_iff cursor rowNumber schema values).mp read
  clear read
  induction each with
  | nil => exact ⟨rfl, by simp⟩
  | @cons spec entry rest values first others ih =>
    obtain ⟨target, value⟩ := entry
    obtain ⟨rfl, given⟩ := first
    refine ⟨congrArg (spec.target :: ·) ih.1, List.forall_mem_cons.mpr ⟨⟨value, by simp, given⟩, ?_⟩⟩
    intro later member
    obtain ⟨value, inside, given⟩ := ih.2 later member
    exact ⟨value, by simp [inside], given⟩

end Schema

namespace Mapper
variable {mapper : Mapper} {rowNumber : Value} {values : List (String × Value)}

/-- All that a record is built from. -/
def given (mapper : Mapper) (rowNumber : Value) (values : List (String × Value)) : Entries :=
  (.text "row_number", rowNumber) :: mapper.finish (targetEntries values)

private theorem given_rowNumber : (mapper.given rowNumber values).getText? "row_number" = some rowNumber := by
  simp [given, Dict.getText?_cons, Value.text?]

theorem given_other {name : String} (other : name ≠ "row_number") :
    (mapper.given rowNumber values).getText? name =
      if mapper.vehicleFromDevice ∧ name = "vehicle_id" then some (((targetEntries values).getText? "harman_id").getD .null)
      else (targetEntries values).getText? name := by
  simp only [given, Dict.getText?_cons, Value.text?, Option.some.injEq, if_neg (Ne.symm other), finish]
  cases mapper.vehicleFromDevice with
  | false => simp
  | true => simp only [if_true, Dict.getText?_put, true_and, eq_comm]

private theorem targetEntries_target (fits : mapper.Fits) (targets : values.map Prod.fst = mapper.schema.targets)
    {target : String} {value : Value} (member : (target, value) ∈ values) :
    (targetEntries values).getText? target = some value := by
  apply Dict.getText?_ofList_of_mem _ member
  rw [targets]
  exact (List.nodup_append.mp (List.nodup_cons.mp fits.distinct).2).2.1

private theorem given_target (fits : mapper.Fits) (targets : values.map Prod.fst = mapper.schema.targets)
    {target : String} {value : Value} (member : (target, value) ∈ values) :
    (mapper.given rowNumber values).getText? target = some value := by
  have distinct := List.nodup_cons.mp fits.distinct
  have inside : target ∈ mapper.schema.targets := targets ▸ List.mem_map_of_mem member
  have numbered : target ≠ "row_number" := by
    rintro rfl
    exact distinct.1 (List.mem_append_right _ inside)
  have apart : ¬(mapper.vehicleFromDevice ∧ target = "vehicle_id") := by
    rintro ⟨derived, rfl⟩
    have separate := (List.nodup_append.mp distinct.2).2.2
    exact separate "vehicle_id" (by simp [derived]) "vehicle_id" inside rfl
  rw [given_other numbered, if_neg apart, targetEntries_target fits targets member]

private theorem given_unknown (targets : values.map Prod.fst = mapper.schema.targets)
    {name : String} (unknown : name ∉ mapper.names) : (mapper.given rowNumber values).getText? name = none := by
  simp only [names, List.cons_append, List.mem_cons, List.mem_append, not_or] at unknown
  have apart : ¬(mapper.vehicleFromDevice ∧ name = "vehicle_id") := by
    rintro ⟨derived, rfl⟩
    simp [derived] at unknown
  rw [given_other unknown.1, if_neg apart]
  exact Dict.getText?_ofList_eq_none (targets ▸ unknown.2.2)

private theorem record_of_built {record : Record} (built : build mapper.shape (mapper.given rowNumber values) = .ok record) :
    mapper.record rowNumber values = .ok record := by
  unfold Mapper.record
  unfold given at built
  simp only [built]

/-- The columns of a fitting mapper settle its record, and nothing else can fail. -/
theorem record_of_read (fits : mapper.Fits) {cursor : Cursor} {n : Int}
    (read : (mapper.schema.read cursor (.int n)).outcome = .ok values) :
    ∃ record, mapper.record (.int n) values = .ok record ∧ record.shape = mapper.shape ∧
      record.entries.getText? "row_number" = some (.int n) ∧
      (∀ spec ∈ mapper.schema, ∃ value, (spec.read cursor (.int n)).outcome = .ok value ∧
        record.entries.getText? spec.target = some value) ∧
      (mapper.vehicleFromDevice = true → record.entries.getText? "vehicle_id" = record.entries.getText? "harman_id") := by
  obtain ⟨targets, columns⟩ := Schema.read_entries read
  have shown : ∀ spec ∈ mapper.schema, ∃ value, (spec.read cursor (.int n)).outcome = .ok value ∧
      (mapper.given (.int n) values).getText? spec.target = some value := by
    intro spec member
    obtain ⟨value, inside, given⟩ := columns spec member
    exact ⟨value, given, given_target fits targets inside⟩
  have keyed : ∀ field ∈ mapper.shape.fields, field.key = field.name ∨
      (mapper.given (.int n) values).getText? field.key = none := by
    intro field member
    exact (fits.keyed field member).imp_right fun unknown => given_unknown targets unknown
  have filled : ∀ field ∈ mapper.shape.fields, ∃ held : FieldValue, field.admits held = true ∧
      (mapper.given (.int n) values).getText? field.name = some held.toValue := by
    intro field member
    rcases fits.filled field member with rfl | ⟨spec, source, fills, same | ⟨derived, vehicle, device⟩⟩
    · exact ⟨.integer n, rfl, given_rowNumber⟩
    · obtain ⟨value, given, found⟩ := shown spec source
      obtain ⟨held, admitted, rfl⟩ := ColumnSpec.read_admitted fills given
      exact ⟨held, admitted, same ▸ found⟩
    · obtain ⟨value, inside, given⟩ := columns spec source
      obtain ⟨held, admitted, rfl⟩ := ColumnSpec.read_admitted fills given
      refine ⟨held, admitted, ?_⟩
      rw [vehicle, given_other (by decide), if_pos ⟨derived, rfl⟩, targetEntries_target fits targets (device ▸ inside)]
      rfl
  obtain ⟨record, built, shape, entries⟩ := build_eq_ok keyed filled
  refine ⟨record, ?_, shape, ?_, ?_, ?_⟩
  · exact record_of_built built
  · rw [entries _ (fits.landed _ List.mem_cons_self), given_rowNumber]
  · intro spec member
    obtain ⟨value, given, found⟩ := shown spec member
    refine ⟨value, given, ?_⟩
    rw [entries _ (fits.landed _ (List.mem_append_right _ (List.mem_map_of_mem member))), found]
  · intro derived
    obtain ⟨spec, member, device⟩ := List.mem_map.mp (fits.derived derived)
    obtain ⟨value, inside, _⟩ := columns spec member
    rw [device] at inside
    rw [entries _ (fits.landed _ (by simp [names, derived])), given_other (by decide), if_pos ⟨derived, rfl⟩,
      entries _ (fits.landed _ (List.mem_append_right _ (fits.derived derived))),
      targetEntries_target fits targets inside, given_target fits targets inside]
    rfl

theorem mapRow_outcome (mapper : Mapper) (cursor : Cursor) (rowNumber : Value) :
    (mapper.mapRow cursor rowNumber).outcome =
      (mapper.schema.read cursor rowNumber).outcome.bind (mapper.record rowNumber) := rfl

/-- A fitting mapper gives a record exactly when every column can be read. -/
theorem exists_mapRow_iff (fits : mapper.Fits) (cursor : Cursor) (n : Int) :
    (∃ record, (mapper.mapRow cursor (.int n)).outcome = .ok record) ↔
      ∀ spec ∈ mapper.schema, ∃ value, (spec.read cursor (.int n)).outcome = .ok value := by
  rw [← Schema.exists_read_iff, mapRow_outcome]
  cases read : (mapper.schema.read cursor (.int n)).outcome with
  | error error => simp [Except.bind]
  | ok values =>
    obtain ⟨record, made, _⟩ := record_of_read fits read
    simp [Except.bind, made]

/-- A fitting mapper fails only where a column does. -/
theorem mapRow_eq_error_iff (fits : mapper.Fits) (cursor : Cursor) (n : Int) (error : MapError) :
    (mapper.mapRow cursor (.int n)).outcome = .error error ↔
      (mapper.schema.read cursor (.int n)).outcome = .error error := by
  rw [mapRow_outcome]
  cases read : (mapper.schema.read cursor (.int n)).outcome with
  | error found => simp [Except.bind]
  | ok values =>
    obtain ⟨record, made, _⟩ := record_of_read fits read
    simp [Except.bind, made]

end Mapper

/-- What a column gives for a row: the value under its only label, coerced unless it is
null, and null for a label that may be missing. -/
inductive ColumnSpec.Gives (spec : ColumnSpec) (row : LabelledRow) : Value → Prop where
  | missing (lacks : row.Lacks (.text spec.name)) (optional : spec.projectionOptional = true) : spec.Gives row .null
  | null {place : Nat} (only : row.OnlyAt (.text spec.name) place) (held : row.values[place]? = some .null)
      (nullable : spec.nullable = true) : spec.Gives row .null
  | coerced {place : Nat} {raw value : Value} (only : row.OnlyAt (.text spec.name) place)
      (held : row.values[place]? = some raw) (present : raw ≠ .null)
      (coerced : spec.kind.coerce raw = .ok value) : spec.Gives row value

theorem ColumnSpec.read_eq_ok_iff_gives (spec : ColumnSpec) (row : LabelledRow) (rowNumber value : Value) :
    (spec.read row.cursor rowNumber).outcome = .ok value ↔ spec.Gives row value := by
  have present : row.cursor.has spec.name = .ok true ↔ ¬row.Lacks (.text spec.name) := by
    rw [← LabelledRow.has_eq_false_iff]
    simp [LabelledRow.cursor]
  have lacks : row.cursor.has spec.name = .ok false ↔ row.Lacks (.text spec.name) := by
    rw [← LabelledRow.has_eq_false_iff]
    simp [LabelledRow.cursor]
  have got (raw : Value) : row.cursor.get spec.name = .ok raw ↔
      ∃ place, row.OnlyAt (.text spec.name) place ∧ row.values[place]? = some raw := by
    rw [← LabelledRow.get_eq_ok_iff]
    simp only [LabelledRow.cursor]
    cases row.get (.text spec.name) <;> simp [Except.mapError]
  simp only [read_eq_ok_iff, fetch_eq_ok_iff, accept_eq_ok_iff, present, lacks, got]
  constructor
  · rintro (⟨optional, lacks, rfl⟩ | ⟨_, raw, ⟨place, only, held⟩, ⟨rfl, nullable, rfl⟩ | ⟨sound, coerced⟩⟩)
    · exact .missing lacks optional
    · exact .null only held nullable
    · exact .coerced only held sound coerced
  · intro gives
    cases gives with
    | missing lacks optional => exact .inl ⟨optional, lacks, rfl⟩
    | @null place only held nullable =>
      exact .inr ⟨fun _ lacks => lacks place ((only place).mpr rfl), .null, ⟨place, only, held⟩, .inl ⟨rfl, nullable, rfl⟩⟩
    | @coerced place raw value only held sound coerced =>
      exact .inr ⟨fun _ lacks => lacks place ((only place).mpr rfl), raw, ⟨place, only, held⟩, .inr ⟨sound, coerced⟩⟩

/-- A record of a fitting mapper shows what the only value under a column's label is coerced to. -/
theorem Mapper.mapRow_shows {mapper : Mapper} (fits : mapper.Fits) {row : LabelledRow} {n : Int} {record : Record}
    (mapped : (mapper.mapRow row.cursor (.int n)).outcome = .ok record) {spec : ColumnSpec} (member : spec ∈ mapper.schema)
    {raw : Value} (got : row.get (.text spec.name) = .ok raw) (present : raw ≠ .null) :
    ∃ value, spec.kind.coerce raw = .ok value ∧ record.entries.getText? spec.target = some value := by
  obtain ⟨place, only, held⟩ := (row.get_eq_ok_iff (.text spec.name) raw).mp got
  rw [mapRow_outcome] at mapped
  cases read : (mapper.schema.read row.cursor (.int n)).outcome with
  | error error => simp [read, Except.bind] at mapped
  | ok values =>
    obtain ⟨built, made, _, _, columns, _⟩ := record_of_read fits read
    simp only [read, Except.bind, made, Except.ok.injEq] at mapped
    subst mapped
    obtain ⟨value, given, shown⟩ := columns spec member
    refine ⟨value, ?_, shown⟩
    cases (spec.read_eq_ok_iff_gives row (.int n) value).mp given with
    | missing lacks => exact absurd ((only place).mpr rfl) (lacks place)
    | null other empty =>
      obtain rfl := (only _).mp ((other _).mpr rfl)
      exact absurd (Option.some.inj (held.symm.trans empty)) present
    | coerced other found _ coerced =>
      obtain rfl := (only _).mp ((other _).mpr rfl)
      obtain rfl := Option.some.inj (held.symm.trans found)
      exact coerced

/-- The mappers of the records that rows are read into. -/
def Mapper.standard : List Mapper := [.simDetails, .associationHistory, .association]

theorem Mapper.fits_of_standard {mapper : Mapper} (standard : mapper ∈ Mapper.standard) : mapper.Fits := by
  simp only [Mapper.standard, List.mem_cons, List.not_mem_nil, or_false] at standard
  rcases standard with rfl | rfl | rfl
  · exact simDetails_fits
  · exact associationHistory_fits
  · exact association_fits

/-- A row becomes a record exactly when each column of the schema gives a value, and the
record shows every one of these values, the number of the row, and nothing else. -/
theorem Mapper.mapRow_record_iff {mapper : Mapper} (standard : mapper ∈ Mapper.standard) (row : LabelledRow) (n : Int) :
    ((∃ record, (mapper.mapRow row.cursor (.int n)).outcome = .ok record) ↔
      ∀ spec ∈ mapper.schema, ∃ value, spec.Gives row value) ∧
    ∀ record, (mapper.mapRow row.cursor (.int n)).outcome = .ok record →
      record.shape = mapper.shape ∧ record.entries.getText? "row_number" = some (.int n) ∧
      (∀ spec ∈ mapper.schema, ∃ value, spec.Gives row value ∧ record.entries.getText? spec.target = some value) ∧
      (mapper = .association → record.entries.getText? "vehicle_id" = record.entries.getText? "harman_id") := by
  have fits := fits_of_standard standard
  refine ⟨?_, ?_⟩
  · rw [exists_mapRow_iff fits]
    simp only [ColumnSpec.read_eq_ok_iff_gives]
  · intro record mapped
    rw [mapRow_outcome] at mapped
    cases read : (mapper.schema.read row.cursor (.int n)).outcome with
    | error error => simp [read, Except.bind] at mapped
    | ok values =>
      obtain ⟨built, made, shape, numbered, columns, vehicle⟩ := record_of_read fits read
      simp only [read, Except.bind, made, Except.ok.injEq] at mapped
      subst mapped
      refine ⟨shape, numbered, ?_, fun same => vehicle (same ▸ rfl)⟩
      intro spec member
      obtain ⟨value, given, shown⟩ := columns spec member
      exact ⟨value, (spec.read_eq_ok_iff_gives row (.int n) value).mp given, shown⟩

/-- A row with a label in capitals, a label that no column asks for and a null. -/
def shoutedRow : LabelledRow where
  labels := [.text "TRAN_ID", .text "createdon", .text "tran_status"]
  values := [.text "T-1", .int 5, .null]
  same_length := rfl

theorem Mapper.mapRow_record_of_shoutedRow :
    Mapper.simDetails ∈ Mapper.standard ∧ (∀ spec ∈ Mapper.simDetails.schema, ∃ value, spec.Gives shoutedRow value) ∧
      ∃ record, (Mapper.simDetails.mapRow shoutedRow.cursor (.int 7)).outcome = .ok record ∧
        record.entries.getText? "row_number" = some (.int 7) := by
  have listed : Mapper.simDetails ∈ Mapper.standard := List.mem_cons_self
  have law := mapRow_record_iff listed shoutedRow 7
  have mapped : ∃ record, (Mapper.simDetails.mapRow shoutedRow.cursor (.int 7)).outcome = .ok record := ⟨_, rfl⟩
  obtain ⟨record, same⟩ := mapped
  exact ⟨listed, law.1.mp ⟨record, same⟩, record, same, (law.2 record same).2.1⟩

end FleetLink.Row
