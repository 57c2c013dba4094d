import FleetLink.Proofs.RecordBuilding
import FleetLink.Proofs.StrictJson

/-! What a record shows of itself. Its payload has one entry for every field that is
neither hidden nor absent, under the key of the field and in the order of the shape. -/

namespace FleetLink.Record
open Check

/-- Each value may stand in its field. Records that were built are always sound. -/
def Sound (record : Record) : Prop :=
  List.Forall₂ (fun field held => field.admits held = true) record.shape.fields record.values

instance (record : Record) : Decidable record.Sound := inferInstanceAs (Decidable (List.Forall₂ _ _ _))

def Shape.Keyed (shape : Shape) : Prop := (shape.fields.map Field.key).Nodup

instance (shape : Shape) : Decidable shape.Keyed := inferInstanceAs (Decidable (List.Nodup _))

def Shape.all : List Shape := [.simDetails, .associationHistory, .association, .userLookup]

theorem Shape.keyed_of_mem_all {shape : Shape} (listed : shape ∈ Shape.all) : shape.Keyed := by
  have each : ∀ shape ∈ Shape.all, shape.Keyed := by decide
  exact each shape listed

def isShown : Field × FieldValue → Bool
  | (field, held) => !field.hidden && held != .absent

/-- The payload with its keys as texts. -/
def shown (record : Record) : List (String × Value) :=
  record.fields.filterMap fun (field, held) => if field.hidden then none else held.payload?.map fun value => (field.key, value)

theorem payload_eq_spelled (record : Record) : record.payload = Json.spelled record.shown := by
  rw [payload, Json.spelled, shown, List.map_filterMap]
  apply List.filterMap_congr
  intro entry _
  obtain ⟨field, held⟩ := entry
  cases hidden : field.hidden <;> simp [ payloadEntry?, hidden, Function.comp_def]

theorem FieldValue.payload?_eq_none_iff {held : FieldValue} : held.payload? = none ↔ held = .absent := by
  cases held <;> simp [payload?]

theorem FieldValue.payload?_ne_null {held : FieldValue} {value : Value} (written : held.payload? = some value) :
    value ≠ .null := by
  rintro rfl
  cases held <;> simp [payload?] at written

theorem mem_shown_iff {record : Record} {key : String} {value : Value} : (key, value) ∈ record.shown ↔
    ∃ field held, (field, held) ∈ record.fields ∧ field.hidden = false ∧ field.key = key ∧ held.payload? = some value := by
  simp only [shown, List.mem_filterMap, Prod.exists]
  constructor
  · rintro ⟨field, held, member, found⟩
    cases hidden : field.hidden with
    | true => simp [hidden] at found
    | false => exact ⟨field, held, member, hidden, by simpa [hidden, and_comm] using found⟩
  · rintro ⟨field, held, member, hidden, rfl, written⟩
    exact ⟨field, held, member, by simp [hidden, written]⟩

theorem shown_keys (record : Record) :
    record.shown.map Prod.fst = (record.fields.filter isShown).map fun entry => entry.1.key := by
  simp only [shown]
  induction record.fields with
  | nil => rfl
  | cons entry rest ih =>
    obtain ⟨field, held⟩ := entry
    cases hidden : field.hidden with
    | true => simpa [isShown, hidden] using ih
    | false =>
      cases written : held.payload? with
      | none =>
        obtain rfl := FieldValue.payload?_eq_none_iff.mp written
        simpa [isShown, hidden, written] using ih
      | some value =>
        have present : held ≠ .absent := by
          rintro rfl
          cases written
        simpa [isShown, hidden, written, present] using ih

section
variable {record : Record} (keyed : record.shape.Keyed) (sound : record.Sound)
include keyed sound

theorem field_keys_nodup : (record.fields.map fun entry => entry.1.key).Nodup := by
  have whole : record.fields.map Prod.fst = record.shape.fields :=
    List.map_fst_zip (Nat.le_of_eq sound.length_eq)
  have keys : (record.fields.map fun entry => entry.1.key) = record.shape.fields.map Field.key := by
    rw [← whole, List.map_map]
    rfl
  rw [keys]
  exact keyed

theorem shown_nodup : (record.shown.map Prod.fst).Nodup := by
  rw [shown_keys]
  exact (field_keys_nodup keyed sound).sublist (List.filter_sublist.map _)

theorem getText?_payload {field : Field} {held : FieldValue} (member : (field, held) ∈ record.fields)
    (visible : field.hidden = false) : record.payload.getText? field.key = held.payload? := by
  rw [payload_eq_spelled, Json.spelled]
  cases written : held.payload? with
  | some value =>
    exact Dict.getText?_spelled_of_mem (shown_nodup keyed sound) (mem_shown_iff.mpr ⟨field, held, member, visible, rfl, written⟩)
  | none =>
    apply Dict.getText?_spelled_eq_none
    intro inside
    obtain ⟨⟨key, value⟩, listed, same⟩ := List.mem_map.mp inside
    obtain ⟨other, found, otherMember, _, otherKey, otherWritten⟩ := mem_shown_iff.mp listed
    have equal : (other, found) = (field, held) :=
      List.inj_on_of_nodup_map (field_keys_nodup keyed sound) otherMember member (otherKey.trans same)
    cases equal
    rw [written] at otherWritten
    cases otherWritten

end

theorem getText?_payload_eq_none {record : Record} {name : String} (foreign : name ∉ record.shape.fields.map Field.key) :
    record.payload.getText? name = none := by
  rw [payload_eq_spelled, Json.spelled]
  apply Dict.getText?_spelled_eq_none
  intro inside
  obtain ⟨⟨key, value⟩, listed, rfl⟩ := List.mem_map.mp inside
  obtain ⟨field, held, member, _, same, _⟩ := mem_shown_iff.mp listed
  exact foreign (List.mem_map.mpr ⟨field, (List.of_mem_zip member).1, same⟩)

/-- The entries are those of the fields that are neither hidden nor absent, in the order of
the shape. An empty text or list is not absent. -/
structure Presents (record : Record) (entries : Entries) : Prop where
  keys : entries.map Prod.fst = (record.fields.filter isShown).map fun entry => .text entry.1.key
  distinct : (entries.map Prod.fst).Nodup
  values : ∀ field held, (field, held) ∈ record.fields → field.hidden = false → entries.getText? field.key = held.payload?
  noNull : ∀ entry ∈ entries, entry.2 ≠ .null
  emptyText : ∀ field, (field, .text "") ∈ record.fields → field.hidden = false → entries.getText? field.key = some (.text "")
  emptyList : ∀ field, (field, .texts []) ∈ record.fields → field.hidden = false → entries.getText? field.key = some (.list [])

theorem presents_payload {record : Record} (keyed : record.shape.Keyed) (sound : record.Sound) :
    record.Presents record.payload := by
  have spelled : record.payload.map Prod.fst = (record.shown.map Prod.fst).map Value.text := by
    rw [payload_eq_spelled, Json.spelled, List.map_map, List.map_map]
    rfl
  constructor
  · rw [spelled, shown_keys, List.map_map]
    rfl
  · rw [spelled]
    exact (shown_nodup keyed sound).map fun _ _ => Value.text.inj
  · intro field held member visible
    exact getText?_payload keyed sound member visible
  · intro entry member
    rw [payload_eq_spelled] at member
    obtain ⟨⟨key, value⟩, listed, rfl⟩ := List.mem_map.mp member
    obtain ⟨field, held, _, _, _, written⟩ := mem_shown_iff.mp listed
    exact FieldValue.payload?_ne_null written
  · intro field member visible
    exact getText?_payload keyed sound member visible
  · intro field member visible
    exact getText?_payload keyed sound member visible

/-- Records that are built alike, hidden fields apart, have the same payload. -/
theorem payload_eq_of_build {shape : Shape} {entries others : Entries} {record other : Record}
    (built : build shape entries = .ok record) (otherBuilt : build shape others = .ok other)
    (same : ∀ field ∈ shape.fields, field.hidden = false → field.check entries = field.check others) :
    record.payload = other.payload := by
  obtain ⟨rfl, checked⟩ := build_eq_ok_iff.mp built
  obtain ⟨otherShape, otherChecked⟩ := build_eq_ok_iff.mp otherBuilt
  simp only [payload, fields, otherShape]
  generalize record.shape.fields = fields at checked otherChecked same
  generalize record.values = values at checked
  generalize other.values = twins at otherChecked
  induction checked generalizing twins with
  | nil => rfl
  | @cons field held rest later passed others ih =>
    obtain ⟨twin, after, twinPassed, afterChecked, rfl⟩ := List.forall₂_cons_left_iff.mp otherChecked
    obtain ⟨head, tail⟩ := List.forall_mem_cons.mp same
    -- A hidden field may have come to hold two values, but neither is written.
    have entry : payloadEntry? (field, held) = payloadEntry? (field, twin) := by
      cases hidden : field.hidden with
      | true => simp [ payloadEntry?, hidden]
      | false =>
        have equal := head hidden
        rw [passed, twinPassed] at equal
        cases equal
        rfl
    simp only [List.zip_cons_cons, List.filterMap_cons, entry, ih tail after afterChecked]

end FleetLink.Record
