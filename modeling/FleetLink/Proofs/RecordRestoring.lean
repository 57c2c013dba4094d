import FleetLink.Proofs.StampText

/-! Records built again from what they show. The payload, with the hidden fields put beside
it by name, gives the record back, except for a status whose event is announced under
another name: payloads write the name, and only event names are read. -/

namespace FleetLink.Record
open Check Checked

/-- The hidden fields, each under its name. -/
def kept (record : Record) : List (String × Value) :=
  (record.fields.filter fun entry => entry.1.hidden).map fun (field, held) => (field.name, held.toValue)

/-- The payload and then the hidden fields by name. -/
def returned (record : Record) : Entries := Dict.ofList (record.payload ++ Json.spelled record.kept)

/-- A key is the name of no other field, so a text says which field it is for. -/
structure Shape.Distinct (shape : Shape) : Prop where
  keys : shape.Keyed
  names : (shape.fields.map Field.name).Nodup
  apart : ∀ field ∈ shape.fields, ∀ other ∈ shape.fields, field.key = other.name → field = other

def Shape.stored : List Shape := [.simDetails, .associationHistory, .association]

theorem Shape.distinct_of_mem_stored {shape : Shape} (known : shape ∈ Shape.stored) : shape.Distinct := by
  have names : ∀ shape ∈ Shape.stored, (shape.fields.map Field.name).Nodup := by decide
  have apart : ∀ shape ∈ Shape.stored, ∀ field ∈ shape.fields, ∀ other ∈ shape.fields,
      field.key = other.name → field = other := by decide
  have listed : shape ∈ Shape.all := List.Sublist.mem known (by decide)
  exact ⟨Shape.keyed_of_mem_all listed, names shape known, apart shape known⟩

theorem mem_kept_iff {record : Record} {name : String} {value : Value} : (name, value) ∈ record.kept ↔
    ∃ field held, (field, held) ∈ record.fields ∧ field.hidden = true ∧ field.name = name ∧ held.toValue = value := by
  simp only [kept, List.mem_map, List.mem_filter, Prod.exists, Prod.mk.injEq, and_assoc]

section
variable {record : Record} (distinct : record.shape.Distinct) (sound : record.Sound)
include distinct sound

theorem returned_keys_nodup : ((record.shown ++ record.kept).map Prod.fst).Nodup := by
  have whole : record.fields.map Prod.fst = record.shape.fields := List.map_fst_zip (Nat.le_of_eq sound.length_eq)
  have hidden : (record.kept.map Prod.fst).Nodup := by
    have names : (record.fields.map fun entry => entry.1.name).Nodup := by
      have named := distinct.names
      rwa [← whole, List.map_map] at named
    rw [kept, List.map_map]
    exact names.sublist (List.filter_sublist.map _)
  rw [List.map_append, List.nodup_append]
  refine ⟨shown_nodup distinct.keys sound, hidden, ?_⟩
  intro key inShown name inKept same
  obtain ⟨⟨_, _⟩, listed, rfl⟩ := List.mem_map.mp inShown
  obtain ⟨⟨_, _⟩, other, rfl⟩ := List.mem_map.mp inKept
  obtain ⟨field, _, member, visible, rfl, _⟩ := mem_shown_iff.mp listed
  obtain ⟨twin, _, twinMember, covered, rfl, _⟩ := mem_kept_iff.mp other
  obtain rfl := distinct.apart field (List.of_mem_zip member).1 twin (List.of_mem_zip twinMember).1 same
  rw [visible] at covered
  cases covered

theorem returned_eq : record.returned = Json.spelled (record.shown ++ record.kept) := by
  have joined : record.payload ++ Json.spelled record.kept = Json.spelled (record.shown ++ record.kept) := by
    rw [payload_eq_spelled, Json.spelled, Json.spelled, Json.spelled, List.map_append]
  rw [returned, joined]
  exact Dict.ofList_of_nodup (returned_keys_nodup distinct sound)

theorem getText?_returned {name : String} {value : Value} (member : (name, value) ∈ record.shown ++ record.kept) :
    record.returned.getText? name = some value := by
  rw [returned_eq distinct sound]
  exact Dict.getText?_spelled_of_mem (returned_keys_nodup distinct sound) member

theorem getText?_returned_eq_none {name : String}
    (unshown : ∀ field held, (field, held) ∈ record.fields → field.hidden = false → held ≠ .absent → field.key ≠ name)
    (unkept : ∀ field ∈ record.shape.fields, field.hidden = true → field.name ≠ name) :
    record.returned.getText? name = none := by
  rw [returned_eq distinct sound]
  apply Dict.getText?_spelled_eq_none
  intro inside
  obtain ⟨⟨_, _⟩, listed, rfl⟩ := List.mem_map.mp inside
  rcases List.mem_append.mp listed with inShown | inKept
  · obtain ⟨field, held, member, visible, same, written⟩ := mem_shown_iff.mp inShown
    refine unshown field held member visible ?_ same
    rintro rfl
    cases written
  · obtain ⟨field, _, member, hidden, same, _⟩ := mem_kept_iff.mp inKept
    exact unkept field (List.of_mem_zip member).1 hidden same

end

end FleetLink.Record

namespace FleetLink

theorem AssociationStatus.ofEventName?_name (status : AssociationStatus) :
    ofEventName? status.name = if status.eventName = status.name then some status else none := by
  cases status <;> decide

end FleetLink

namespace FleetLink.Record
open Check Checked

def FieldValue.isRenamed : FieldValue → Bool
  | .status s => s.eventName != s.name
  | _ => false

/-- What a payload writes under a name that is not read. -/
def isLost : Field × FieldValue → Bool
  | (field, held) => !field.hidden && held.isRenamed

def lossOf (entry : Field × FieldValue) : Issue := ⟨[.key entry.1.key], .enumMember⟩

/-- Any moment in it is without an offset. -/
def FieldValue.isNaive : FieldValue → Bool
  | .moment stamp => stamp.isNaive
  | _ => true

/-- A value that was written is read as it was, or refused if it is a renamed status. -/
theorem Field.checkValue_payload? {field : Field} {held : FieldValue} {value : Value}
    (admitted : field.admits held = true) (naive : held.isNaive = true) (written : held.payload? = some value) :
    field.checkValue value = if held.isRenamed then .fail .enumMember else .ok held := by
  cases held with
  | absent => cases written
  | integer n =>
    cases written
    exact checkValue_toValue admitted
  | text s =>
    cases written
    exact checkValue_toValue admitted
  | moment stamp =>
    obtain ⟨name, key, kind, required, hidden⟩ := field
    obtain rfl : kind = .moment := by simpa [Field.admits] using admitted
    cases written
    change FieldValue.moment <$> Check.moment (.text stamp.stampText) = _
    rw [moment_stampText (Option.isNone_iff_eq_none.mp naive)]
    rfl
  | status s =>
    obtain ⟨name, key, kind, required, hidden⟩ := field
    obtain rfl : kind = .status := by simpa [Field.admits] using admitted
    cases written
    change FieldValue.status <$> Checked.ofOption .enumMember (AssociationStatus.ofEventName? s.name) = _
    rw [AssociationStatus.ofEventName?_name]
    by_cases same : s.eventName = s.name
    · simp only [same, if_true, FieldValue.isRenamed, bne_self_eq_false, Bool.false_eq_true, if_false]
      rfl
    · simp only [same, if_false, FieldValue.isRenamed, bne_iff_ne, ne_eq, not_false_eq_true, if_true]
      rfl
  | texts items =>
    cases written
    exact checkValue_toValue admitted

theorem Field.check_of_written {field : Field} {entries : Entries} {held : FieldValue} {value : Value}
    (admitted : field.admits held = true) (naive : held.isNaive = true) (written : held.payload? = some value)
    (given : entries.getText? field.key = some value) :
    field.check entries = if held.isRenamed then .failed [lossOf (field, held)] else .ok held := by
  simp only [Field.check, given, checkValue_payload? admitted naive written]
  split <;> rfl

section
variable {record : Record} (distinct : record.shape.Distinct) (sound : record.Sound)
  {field : Field} {held : FieldValue} (member : (field, held) ∈ record.fields)
include distinct sound member

theorem eq_of_key {other : Field} {twin : FieldValue} (inside : (other, twin) ∈ record.fields)
    (same : other.key = field.key) : other = field ∧ twin = held :=
  Prod.mk.inj (List.inj_on_of_nodup_map (field_keys_nodup distinct.keys sound) inside member same)

theorem check_hidden (hidden : field.hidden = true) (admitted : field.admits held = true) :
    field.check record.returned = .ok held := by
  have lookup : record.returned.getText? field.name = some held.toValue := by
    apply getText?_returned distinct sound
    exact List.mem_append_right _ (mem_kept_iff.mpr ⟨field, held, member, hidden, rfl, rfl⟩)
  have key : field.key = field.name ∨ record.returned.getText? field.key = none := by
    by_cases same : field.key = field.name
    · exact .inl same
    · refine .inr (getText?_returned_eq_none distinct sound ?_ ?_)
      · intro other twin inside visible _ clash
        obtain ⟨rfl, -⟩ := eq_of_key distinct sound member inside clash
        rw [hidden] at visible
        cases visible
      · intro other inside _ clash
        obtain rfl := distinct.apart field (List.of_mem_zip member).1 other inside clash.symm
        exact same clash.symm
  exact Field.check_eq_ok admitted key lookup

theorem check_shown (visible : field.hidden = false) (admitted : field.admits held = true)
    (naive : held.isNaive = true) {value : Value} (written : held.payload? = some value) :
    field.check record.returned = if held.isRenamed then .failed [lossOf (field, held)] else .ok held := by
  apply Field.check_of_written admitted naive written
  apply getText?_returned distinct sound
  exact List.mem_append_left _ (mem_shown_iff.mpr ⟨field, held, member, visible, rfl, written⟩)

end

/-- An absent field is not written, and neither its key nor its name stands for another field. -/
theorem check_absent {record : Record} (distinct : record.shape.Distinct) (sound : record.Sound) {field : Field}
    (member : (field, .absent) ∈ record.fields) (visible : field.hidden = false) (optional : field.required = false) :
    field.check record.returned = .ok .absent := by
  have inShape := (List.of_mem_zip member).1
  have unhidden {other : Field} (covered : other.hidden = true) : other ≠ field := by
    rintro rfl
    rw [visible] at covered
    cases covered
  have key : record.returned.getText? field.key = none := by
    apply getText?_returned_eq_none distinct sound
    · intro other twin inside _ present clash
      exact present (eq_of_key distinct sound member inside clash).2
    · intro other inside covered clash
      exact unhidden covered (distinct.apart field inShape other inside clash.symm).symm
  have name : record.returned.getText? field.name = none := by
    apply getText?_returned_eq_none distinct sound
    · intro other twin inside _ present clash
      obtain rfl := distinct.apart other (List.of_mem_zip inside).1 field inShape clash
      exact present (eq_of_key distinct sound member inside rfl).2
    · intro other inside covered clash
      exact unhidden covered (List.inj_on_of_nodup_map distinct.names inside inShape clash)
  exact Field.check_of_absent optional key name

theorem check_returned {record : Record} (distinct : record.shape.Distinct) (sound : record.Sound)
    {field : Field} {held : FieldValue} (member : (field, held) ∈ record.fields)
    (admitted : field.admits held = true) (naive : held.isNaive = true) :
    field.check record.returned = if isLost (field, held) then .failed [lossOf (field, held)] else .ok held := by
  cases hidden : field.hidden with
  | true =>
    rw [check_hidden distinct sound member hidden admitted]
    simp [isLost, hidden]
  | false =>
    cases written : held.payload? with
    | some value =>
      rw [check_shown distinct sound member hidden admitted naive written]
      simp [isLost, hidden]
    | none =>
      obtain rfl := FieldValue.payload?_eq_none_iff.mp written
      have optional : field.required = false := by simpa [Field.admits] using admitted
      rw [check_absent distinct sound member hidden optional]
      simp [isLost, FieldValue.isRenamed]

/-- The values of fields that are all right, or everything that was lost. -/
def settled (values : List FieldValue) : List Issue → Checked (List FieldValue)
  | [] => .ok values
  | issues => .failed issues

theorem checkFields_settled {entries : Entries} {fields : List Field} {values : List FieldValue}
    (sameLength : fields.length = values.length)
    (each : ∀ field held, (field, held) ∈ fields.zip values →
      field.check entries = if isLost (field, held) then .failed [lossOf (field, held)] else .ok held) :
    checkFields entries fields = settled values (((fields.zip values).filter isLost).map lossOf) := by
  induction fields generalizing values with
  | nil =>
    obtain rfl := List.length_eq_zero_iff.mp sameLength.symm
    rfl
  | cons field rest ih =>
    cases values with
    | nil => cases sameLength
    | cons held later =>
      have first := each field held (List.mem_cons_self ..)
      have others := ih (Nat.succ.inj sameLength) fun other twin inside => each other twin (List.mem_cons_of_mem _ inside)
      rw [checkFields, first, others, List.zip_cons_cons, List.filter_cons]
      cases isLost (field, held) <;>
      · simp only [Bool.false_eq_true, if_true, if_false, List.map_cons]
        cases ((rest.zip later).filter isLost).map lossOf <;> rfl

theorem build_returned {record : Record} (distinct : record.shape.Distinct) (sound : record.Sound)
    (naive : ∀ held ∈ record.values, held.isNaive = true) :
    build record.shape record.returned =
      (settled record.values ((record.fields.filter isLost).map lossOf)).map (Record.mk record.shape) := by
  have each : ∀ field held, (field, held) ∈ record.shape.fields.zip record.values →
      field.check record.returned = if isLost (field, held) then .failed [lossOf (field, held)] else .ok held := by
    intro field held member
    exact check_returned distinct sound member (List.forall₂_zip sound member) (naive held (List.of_mem_zip member).2)
  rw [build, checkFields_settled sound.length_eq each]
  rfl

/-- A stored record has at most one status, and payloads show it under one key. -/
theorem losses_eq {record : Record} (known : record.shape ∈ Shape.stored) (sound : record.Sound) :
    (record.fields.filter isLost).map lossOf = [] ∨
      (record.fields.filter isLost).map lossOf = [⟨[.key "associationStatus"], .enumMember⟩] := by
  have statusKeys : ∀ shape ∈ Shape.stored,
      ((shape.fields.filter (·.kind == .status)).map Field.key).Sublist ["associationStatus"] := by decide
  have whole : record.fields.map Prod.fst = record.shape.fields := List.map_fst_zip (Nat.le_of_eq sound.length_eq)
  have statuses : record.fields.filter isLost =
      (record.fields.filter fun entry => entry.1.kind == .status).filter isLost := by
    rw [List.filter_filter]
    apply List.filter_congr
    intro (field, held) member
    have admitted := List.forall₂_zip sound member
    cases held <;> simp_all [isLost, FieldValue.isRenamed, Field.admits]
  have keys : ((record.fields.filter isLost).map fun entry => entry.1.key).Sublist ["associationStatus"] := by
    refine List.Sublist.trans ?_ (statusKeys record.shape known)
    rw [statuses, ← whole, List.filter_map, List.map_map]
    exact List.filter_sublist.map _
  have issues : (record.fields.filter isLost).map lossOf =
      ((record.fields.filter isLost).map fun entry => entry.1.key).map fun key => ⟨[.key key], .enumMember⟩ := by
    rw [List.map_map]
    rfl
  rw [issues]
  rcases List.sublist_singleton.mp keys with none | one
  · exact .inl (by rw [none]; rfl)
  · exact .inr (by rw [one]; rfl)

theorem losses_eq_nil_iff {record : Record} (known : record.shape ∈ Shape.stored) (sound : record.Sound) :
    (record.fields.filter isLost).map lossOf = [] ↔
      ∀ status, .status status ∈ record.values → status ≠ .associated ∧ status ≠ .disassociated := by
  have shownStatus : ∀ shape ∈ Shape.stored, ∀ field ∈ shape.fields, field.kind = .status → field.hidden = false := by
    decide
  have whole : record.fields.map Prod.snd = record.values := List.map_snd_zip (Nat.le_of_eq sound.length_eq.symm)
  rw [List.map_eq_nil_iff, List.filter_eq_nil_iff]
  constructor
  · intro unlost status inside
    rw [← whole] at inside
    obtain ⟨⟨field, _⟩, member, rfl⟩ := List.mem_map.mp inside
    have kind : field.kind = .status := by simpa [Field.admits] using List.forall₂_zip sound member
    have visible := shownStatus record.shape known field (List.of_mem_zip member).1 kind
    have same : status.eventName = status.name := by simpa [isLost, visible, FieldValue.isRenamed] using unlost _ member
    cases status <;> simp_all [AssociationStatus.eventName, AssociationStatus.name]
  · intro plain entry member lost
    obtain ⟨field, held⟩ := entry
    have renamed := (Bool.and_eq_true_iff.mp lost).2
    cases held with
    | status status =>
      have apart := plain status (List.of_mem_zip member).2
      cases status <;> simp_all [FieldValue.isRenamed, AssociationStatus.eventName]
    | _ => cases renamed

/-- A stored record is what its own payload and its hidden fields build, unless its status
is one of the two that are announced under another name. Then just the status is refused. -/
theorem restored_iff {record : Record} (known : record.shape ∈ Shape.stored) (sound : record.Sound)
    (naive : ∀ held ∈ record.values, held.isNaive = true) :
    (ofValue record.shape (.dict record.returned) = .ok record ↔
        ∀ status, .status status ∈ record.values → status ≠ .associated ∧ status ≠ .disassociated) ∧
      (ofValue record.shape (.dict record.returned) ≠ .ok record →
        ofValue record.shape (.dict record.returned) = .failed [⟨[.key "associationStatus"], .enumMember⟩]) := by
  have built : ofValue record.shape (.dict record.returned) = _ :=
    build_returned (Shape.distinct_of_mem_stored known) sound naive
  rw [built, ← losses_eq_nil_iff known sound]
  rcases losses_eq known sound with none | one
  · rw [none]
    exact ⟨⟨fun _ => rfl, fun _ => rfl⟩, fun broken => absurd rfl broken⟩
  · rw [one]
    exact ⟨⟨nofun, nofun⟩, fun _ => rfl⟩

theorem suspension_lt : 63850154400000123 < Time.wallLimit := by decide

def suspendedAssociation : Record :=
  ⟨.association, [.integer 4, .integer 10, .absent, .text "user-1", .text "HID-0001", .absent, .status .suspended,
    .moment ⟨63850154400000123, none, suspension_lt, Option.all_none⟩, .text "SuperAdmin", .absent, .absent, .absent,
    .absent, .integer 1, .absent, .integer 1704067200000, .absent, .text ""]⟩

theorem restored_of_suspendedAssociation :
    (suspendedAssociation.shape ∈ Shape.stored ∧ suspendedAssociation.Sound ∧
      ∀ held ∈ suspendedAssociation.values, held.isNaive = true) ∧
    ofValue .association (.dict suspendedAssociation.returned) = .ok suspendedAssociation := by
  have known : suspendedAssociation.shape ∈ Shape.stored := by decide
  have sound : suspendedAssociation.Sound := by decide
  have naive : ∀ held ∈ suspendedAssociation.values, held.isNaive = true := by decide
  refine ⟨⟨known, sound, naive⟩, (restored_iff known sound naive).1.mpr ?_⟩
  intro status member
  obtain rfl : status = .suspended := by simpa [suspendedAssociation] using member
  decide

def associatedHistory : Record :=
  ⟨.associationHistory, [.integer 1, .integer 2, .absent, .absent, .absent, .status .associated, .absent, .absent,
    .absent, .absent, .absent, .absent]⟩

/-- The status of a live association is written as "ASSOCIATED", which is not read back. -/
theorem associatedHistory_unrestored :
    associatedHistory.Sound ∧ (∀ held ∈ associatedHistory.values, held.isNaive = true) ∧
      associatedHistory.payload = [(.text "associationStatus", .text "ASSOCIATED")] ∧
      ofValue .associationHistory (.dict associatedHistory.returned) =
        .failed [⟨[.key "associationStatus"], .enumMember⟩] := by
  refine ⟨by decide, by decide, ?_, ?_⟩ <;> rfl

end FleetLink.Record
