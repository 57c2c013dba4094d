import FleetLink.Record.UserLookup
import FleetLink.Proofs.JsonWriting
import FleetLink.Proofs.Payloads

/-! Records as JSON text. The text of a record is strict JSON for its payload, and a user
lookup is read back from its text as it was. -/

namespace FleetLink.Time
open Text

def isAscii (c : Char) : Bool := c.toNat < 0x80

theorem ascii_paddedChars (width n : Nat) : (paddedChars width n).all isAscii = true := by
  apply List.all_eq_true.mpr
  intro c member
  have digit := isDigit_of_mem_paddedChars member
  simp only [Char.isDigit, Bool.and_eq_true, decide_eq_true_eq, UInt32.le_iff_toNat_le] at digit
  exact decide_eq_true (Nat.lt_of_le_of_lt digit.2 (by decide))

theorem ascii_stampChars (moment : Moment) : moment.stampChars.all isAscii = true := by
  have marks : isAscii '-' = true ∧ isAscii 'T' = true ∧ isAscii ':' = true := by decide
  have fraction : (fractionChars moment.micro).all isAscii = true := by
    unfold fractionChars
    split
    · rfl
    · exact Bool.and_eq_true_iff.mpr ⟨rfl, ascii_paddedChars 6 moment.micro⟩
  have offset : (moment.offset.elim [] stampOffsetChars).all isAscii = true := by
    cases moment.offset with
    | none => rfl
    | some shift =>
      simp only [Option.elim, stampOffsetChars]
      split
      · rfl
      · split <;> simp [ascii_paddedChars, isAscii]
  simp [Moment.stampChars, Civil.isoChars, clockChars, ascii_paddedChars, marks, fraction, offset]

end FleetLink.Time

namespace FleetLink.Record
open Time

theorem halves?_of_ascii {chars : List Char} (ascii : chars.all isAscii = true) : Text.halves? (String.ofList chars) = none := by
  rw [Text.halves?_eq_none_iff, String.toList_ofList]
  intro c member
  have low := of_decide_eq_true (List.all_eq_true.mp ascii c member)
  exact Text.half?_eq_none (Nat.lt_trans low (by decide))

/-- Every text in the value consists of whole characters. -/
def FieldValue.Whole : FieldValue → Prop
  | .text s => Text.halves? s = none
  | .texts items => ∀ item ∈ items, Text.halves? item = none
  | _ => True

/-- Only a text that holds half a character keeps the JSON of a record from being written. -/
theorem unencodable?_eq_none {record : Record} (whole : ∀ held ∈ record.values, held.Whole) : record.unencodable? = none := by
  rw [unencodable?, List.findSome?_eq_none_iff]
  intro entry member
  rw [payload_eq_spelled] at member
  obtain ⟨⟨key, value⟩, listed, rfl⟩ := List.mem_map.mp member
  obtain ⟨field, held, inside, _, _, written⟩ := mem_shown_iff.mp listed
  have sound := whole held (List.of_mem_zip inside).2
  cases held with
  | absent => cases written
  | integer n =>
    cases written
    rfl
  | text s =>
    cases written
    exact sound
  | moment m =>
    cases written
    exact halves?_of_ascii (ascii_stampChars m)
  | status s =>
    cases written
    cases s <;> exact halves?_of_ascii (by decide)
  | texts items =>
    cases written
    change (items.map Value.text).findSome? _ = none
    rw [List.findSome?_map, List.findSome?_eq_none_iff]
    exact sound

theorem strict_payload? {limit : Nat} {held : FieldValue} {value : Value} (written : held.payload? = some value)
    (short : ∀ n, held = .integer n → (Nat.toDigits 10 n.natAbs).length ≤ limit) :
    Json.Strict limit 1 value (Json.chars value) := by
  cases held with
  | absent => cases written
  | integer n =>
    cases written
    exact Json.strict_int (short n rfl)
  | text | moment | status =>
    cases written
    exact Json.strict_text _
  | texts items =>
    cases written
    apply Json.strict_list
    intro item member
    obtain ⟨text, _, rfl⟩ := List.mem_map.mp member
    exact Json.strict_text text

theorem strict_json {record : Record} {limit : Nat} (keyed : record.shape.Keyed) (sound : record.Sound)
    (short : ∀ field n, (field, .integer n) ∈ record.fields → (Nat.toDigits 10 n.natAbs).length ≤ limit) :
    Json.Strict limit 2 (.dict record.payload) record.json.toList := by
  rw [json, Json.write, String.toList_ofList, payload_eq_spelled]
  apply Json.strict_dict (shown_nodup keyed sound)
  intro entry listed
  obtain ⟨field, held, member, _, _, written⟩ := mem_shown_iff.mp listed
  apply strict_payload? written
  intro n same
  exact short field n (same ▸ member)

/-- How far a document may go for a reader that counts no sign as a digit. -/
def signlessBounds : Json.Bounds where
  depth := 200
  digits _ := Number.digitLimit
  halves := false

/-- The JSON of a record is strict, and reading it gives the payload. Both have the keys of the
fields that are neither hidden nor absent, in order. It can be written where all texts consist
of whole characters. -/
theorem json_presents {record : Record} (listed : record.shape ∈ Shape.all) (sound : record.Sound)
    (short : ∀ n, FieldValue.integer n ∈ record.values → (Nat.toDigits 10 n.natAbs).length ≤ Number.digitLimit) :
    ((∀ held ∈ record.values, held.Whole) → record.unencodable? = none) ∧
      Json.Strict Number.digitLimit 2 (.dict record.payload) record.json.toList ∧
      Json.read? signlessBounds record.json = some (.dict record.payload) ∧ record.Presents record.payload := by
  have keyed := Shape.keyed_of_mem_all listed
  have limited : ∀ field n, (field, .integer n) ∈ record.fields → (Nat.toDigits 10 n.natAbs).length ≤ Number.digitLimit := by
    intro field n member
    exact short n (List.of_mem_zip member).2
  have strict := strict_json keyed sound limited
  have read : Json.read? signlessBounds record.json = some (.dict record.payload) :=
    strict.read? (fun _ => Nat.le_refl _) (by decide)
  exact ⟨unencodable?_eq_none, strict, read, presents_payload keyed sound⟩

def quotedRecord : Record := ⟨.simDetails, [.integer 7, .text "", .text "\"\\\n"]⟩

theorem json_presents_of_quotedRecord :
    (quotedRecord.shape ∈ Shape.all ∧ quotedRecord.Sound ∧
      (∀ n, FieldValue.integer n ∈ quotedRecord.values → (Nat.toDigits 10 n.natAbs).length ≤ Number.digitLimit) ∧
      ∀ held ∈ quotedRecord.values, held.Whole) ∧
    quotedRecord.unencodable? = none ∧ Json.read? signlessBounds quotedRecord.json =
      some (.dict [(.text "tranId", .text ""), (.text "tranStatus", .text "\"\\\n")]) := by
  have listed : quotedRecord.shape ∈ Shape.all := List.mem_cons_self
  have sound : quotedRecord.Sound := by decide
  have short : ∀ n, FieldValue.integer n ∈ quotedRecord.values → (Nat.toDigits 10 n.natAbs).length ≤ Number.digitLimit := by
    intro n member
    obtain rfl : n = 7 := by simpa [quotedRecord] using member
    decide
  have whole : ∀ held ∈ quotedRecord.values, held.Whole := by
    simp only [quotedRecord, List.forall_mem_cons]
    exact ⟨trivial, rfl, rfl, by simp⟩
  obtain ⟨written, _, read, _⟩ := json_presents listed sound short
  exact ⟨⟨listed, sound, short, whole⟩, written whole, read⟩

/-- A field of texts that is written is read back from the payload. Under its name nothing
else may stand there. -/
theorem Field.check_payload {record : Record} (keyed : record.shape.Keyed) (sound : record.Sound) {field : Field}
    {held : FieldValue} (member : (field, held) ∈ record.fields) (visible : field.hidden = false)
    (kind : field.kind = .texts) (name : field.name = field.key ∨ field.name ∉ record.shape.fields.map Field.key) :
    field.check record.payload = .ok held := by
  have admitted : field.admits held = true := List.forall₂_zip sound member
  have given := getText?_payload keyed sound member visible
  cases held with
  | absent =>
    have named : record.payload.getText? field.name = none := by
      rcases name with same | foreign
      · exact same ▸ given
      · exact getText?_payload_eq_none foreign
    exact check_of_absent (by simpa [admits] using admitted) given named
  | texts items => exact check_of_key admitted given
  | integer | text | moment | status => simp [admits, kind] at admitted

theorem lookupOfJson_json {record : Record} (lookup : record.shape = .userLookup) (sound : record.Sound) :
    lookupOfJson record.json = .ok record := by
  have keyed : record.shape.Keyed := lookup ▸ Shape.keyed_of_mem_all (by decide)
  have fields : ∀ field ∈ record.shape.fields, field.hidden = false ∧ field.kind = .texts ∧
      (field.name = field.key ∨ field.name ∉ record.shape.fields.map Field.key) := by
    rw [lookup]
    decide
  have built : build record.shape record.payload = .ok record := by
    refine build_eq_ok_iff.mpr ⟨rfl, List.forall₂_iff_zip.mpr ⟨sound.length_eq, ?_⟩⟩
    intro field held member
    obtain ⟨visible, kind, name⟩ := fields field (List.of_mem_zip member).1
    exact Field.check_payload keyed sound member visible kind name
  -- The limit on digits does not matter, since no field holds an integer.
  have strict : Json.Strict 0 2 (.dict record.payload) record.json.toList := by
    apply strict_json keyed sound
    intro field n member
    have admitted : field.admits (.integer n) = true := List.forall₂_zip sound member
    simp [Field.admits, (fields field (List.of_mem_zip member).1).2.1] at admitted
  have read : Json.read? jsonBounds record.json = some (.dict record.payload) :=
    strict.read? (fun _ => Nat.zero_le _) (by decide)
  rw [lookup] at built
  simp only [lookupOfJson, read]
  exact built

/-- A user lookup comes back from its JSON as it was, with absent fields absent and empty
lists empty. So lookups with the same JSON are the same. -/
theorem lookup_restored {record : Record} (lookup : record.shape = .userLookup) (sound : record.Sound) :
    ((∀ held ∈ record.values, held.Whole) → record.unencodable? = none) ∧ lookupOfJson record.json = .ok record ∧
      ∀ other : Record, other.shape = .userLookup → other.Sound → other.json = record.json → other = record := by
  have restored := lookupOfJson_json lookup sound
  refine ⟨unencodable?_eq_none, restored, ?_⟩
  intro other otherLookup otherSound same
  have otherRestored := lookupOfJson_json otherLookup otherSound
  rw [same, restored] at otherRestored
  cases otherRestored
  rfl

def anyNameLookup : Record := ⟨.userLookup, [.absent, .texts ["\"\\\n", ""]]⟩
def noNameLookup : Record := ⟨.userLookup, [.texts [], .texts ["\"\\\n", ""]]⟩

theorem lookup_restored_of_anyNameLookup :
    (anyNameLookup.shape = .userLookup ∧ anyNameLookup.Sound ∧ ∀ held ∈ anyNameLookup.values, held.Whole) ∧
      anyNameLookup.unencodable? = none ∧ lookupOfJson anyNameLookup.json = .ok anyNameLookup ∧
        noNameLookup.json ≠ anyNameLookup.json := by
  have sound : anyNameLookup.Sound := by decide
  have whole : ∀ held ∈ anyNameLookup.values, held.Whole := by
    simp only [anyNameLookup, List.forall_mem_cons, FieldValue.Whole]
    exact ⟨trivial, ⟨rfl, rfl, by simp⟩, by simp⟩
  obtain ⟨written, restored, only⟩ := lookup_restored rfl sound
  refine ⟨⟨rfl, sound, whole⟩, written whole, restored, ?_⟩
  intro same
  have equal := only noNameLookup rfl (by decide) same
  cases equal

end FleetLink.Record
