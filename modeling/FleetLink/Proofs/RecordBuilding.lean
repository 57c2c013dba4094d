import Mathlib.Data.List.Forall2
import FleetLink.Record.Basic
import FleetLink.Proofs.Dictionary

/-! Values that may stand in a field pass its check unchanged. A record built from such
values therefore shows under every field name what was put in under it. -/

namespace FleetLink.Record
open Check Checked

theorem check_texts (place : Nat) (items : List String) :
    itemsFrom Check.text place (items.map .text) = .ok items := by
  induction items generalizing place with
  | nil => rfl
  | cons item rest ih =>
    simp only [List.map_cons, itemsFrom, ih]
    rfl

theorem Field.checkValue_toValue {field : Field} {held : FieldValue} (admitted : field.admits held = true) :
    field.checkValue held.toValue = .ok held := by
  obtain ⟨name, key, kind, required, hidden⟩ := field
  cases held with
  | absent =>
    obtain rfl : required = false := by simpa [Field.admits] using admitted
    rfl
  | integer n =>
    obtain rfl : kind = .integer := by simpa [Field.admits] using admitted
    rfl
  | text s =>
    obtain rfl : kind = .text := by simpa [Field.admits] using admitted
    rfl
  | moment m =>
    obtain rfl : kind = .moment := by simpa [Field.admits] using admitted
    rfl
  | status s =>
    obtain rfl : kind = .status := by simpa [Field.admits] using admitted
    rfl
  | texts items =>
    obtain rfl : kind = .texts := by simpa [Field.admits] using admitted
    change Checked.map FieldValue.texts (itemsFrom Check.text 0 (items.map .text)) = _
    rw [check_texts]
    rfl

theorem Field.check_of_key {field : Field} {entries : Entries} {held : FieldValue} (admitted : field.admits held = true)
    (given : entries.getText? field.key = some held.toValue) : field.check entries = .ok held := by
  simp only [Field.check, given, checkValue_toValue admitted]
  rfl

/-- What stands under the name of a field counts when nothing else stands under its key. -/
theorem Field.check_eq_ok {field : Field} {entries : Entries} {held : FieldValue}
    (admitted : field.admits held = true) (key : field.key = field.name ∨ entries.getText? field.key = none)
    (given : entries.getText? field.name = some held.toValue) : field.check entries = .ok held := by
  rcases key with same | absent
  · exact check_of_key admitted (same ▸ given)
  · simp only [Field.check, absent, given, checkValue_toValue admitted]
    rfl

theorem Field.check_of_absent {field : Field} {entries : Entries} (optional : field.required = false)
    (key : entries.getText? field.key = none) (name : entries.getText? field.name = none) :
    field.check entries = .ok .absent := by
  simp only [Field.check, key, name, optional, Bool.false_eq_true, if_false]

theorem checkFields_eq_ok_iff {entries : Entries} {fields : List Field} {values : List FieldValue} :
    checkFields entries fields = .ok values ↔
      List.Forall₂ (fun field held => field.check entries = .ok held) fields values := by
  induction fields generalizing values with
  | nil => simp [checkFields, eq_comm]
  | cons field rest ih =>
    simp only [checkFields, seq_eq_ok_iff, map_eq_ok_iff, ih, List.forall₂_cons_left_iff]
    constructor
    · rintro ⟨_, later, ⟨held, checked, rfl⟩, others, rfl⟩
      exact ⟨held, later, checked, others, rfl⟩
    · rintro ⟨held, later, checked, others, rfl⟩
      exact ⟨_, later, ⟨held, checked, rfl⟩, others, rfl⟩

/-- A record is built when each of its fields passes its own check. -/
theorem build_eq_ok_iff {shape : Shape} {entries : Entries} {record : Record} :
    build shape entries = .ok record ↔ record.shape = shape ∧
      List.Forall₂ (fun field held => field.check entries = .ok held) shape.fields record.values := by
  simp only [build, map_eq_ok_iff, checkFields_eq_ok_iff]
  constructor
  · rintro ⟨values, passed, rfl⟩
    exact ⟨rfl, passed⟩
  · rintro ⟨rfl, passed⟩
    exact ⟨record.values, passed, rfl⟩

/-- The entries hold under the name of every field what the field comes to hold. -/
def Holding (entries : Entries) : List Field → List FieldValue → Prop :=
  List.Forall₂ fun field held => entries.getText? field.name = some held.toValue

theorem checkFields_eq_ok {entries : Entries} {fields : List Field}
    (each : ∀ field ∈ fields, ∃ held, field.check entries = .ok held ∧
      entries.getText? field.name = some held.toValue) :
    ∃ values, checkFields entries fields = .ok values ∧ Holding entries fields values := by
  induction fields with
  | nil => exact ⟨[], rfl, .nil⟩
  | cons field rest ih =>
    obtain ⟨⟨held, checked, given⟩, others⟩ := List.forall_mem_cons.mp each
    obtain ⟨values, passed, holding⟩ := ih others
    refine ⟨held :: values, ?_, .cons given holding⟩
    simp only [checkFields, checked, passed]
    rfl

theorem Holding.getText?_entries {entries : Entries} {fields : List Field} {values : List FieldValue}
    (holding : Holding entries fields values) {name : String} (known : name ∈ fields.map Field.name) :
    Dict.getText? name ((fields.zip values).map fun (field, held) => (.text field.name, held.toValue)) =
      entries.getText? name := by
  induction holding with
  | nil => cases known
  | @cons field held rest values given others ih =>
    simp only [List.zip_cons_cons, List.map_cons, Dict.getText?_cons, Value.text?, Option.some.injEq]
    split
    next same => rw [← same, given]
    next apart =>
      apply ih
      rcases List.mem_cons.mp known with same | later
      · exact absurd same.symm apart
      · exact later

/-- A record of admitted values shows, under every field name, the value it was built from. -/
theorem build_eq_ok {shape : Shape} {entries : Entries}
    (key : ∀ field ∈ shape.fields, field.key = field.name ∨ entries.getText? field.key = none)
    (given : ∀ field ∈ shape.fields, ∃ held, field.admits held = true ∧
      entries.getText? field.name = some held.toValue) :
    ∃ record, build shape entries = .ok record ∧ record.shape = shape ∧
      ∀ name ∈ shape.fields.map Field.name, record.entries.getText? name = entries.getText? name := by
  have each : ∀ field ∈ shape.fields, ∃ held, field.check entries = .ok held ∧
      entries.getText? field.name = some held.toValue := by
    intro field member
    obtain ⟨held, admitted, found⟩ := given field member
    exact ⟨held, Field.check_eq_ok admitted (key field member) found, found⟩
  obtain ⟨values, passed, holding⟩ := checkFields_eq_ok each
  refine ⟨⟨shape, values⟩, ?_, rfl, fun name known => holding.getText?_entries known⟩
  simp only [build, passed]
  rfl

end FleetLink.Record
