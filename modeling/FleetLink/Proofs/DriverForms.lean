import FleetLink.Proofs.EpochSeconds
import FleetLink.Proofs.IntegerText
import FleetLink.Proofs.IsoText
import FleetLink.Proofs.RowMapping
import FleetLink.Proofs.Utf8

/-! The forms in which drivers deliver one thing. A column reads all forms of a thing as
the same value, so a row may mix the forms of any drivers and still be the same record. -/

namespace FleetLink.Row
open Number Text Time

/-- What a driver's value stands for. An instant is counted in microseconds from the
first one of year 1 in UTC. -/
inductive Thing where
  | text (name : String)
  | integer (n : Int)
  | instant (micros : Int)

/-- The forms of a thing. A text comes as itself or as bytes, an integer also as a decimal
or written out. An instant comes as any moment that names it, as the text of such a moment
and, when it is a whole second, as the seconds since 1970. -/
inductive Thing.Delivered : Thing → Value → Prop where
  | text (name : String) : Delivered (.text name) (.text name)
  | bytes (name : String) : Delivered (.text name) (.bytes (Utf8.encode name))
  | int (n : Int) : Delivered (.integer n) (.int n)
  | decimal (n : Int) : Delivered (.integer n) (.decimal (.ofInt n))
  | digits {n : Int} {written : String} (padded : Padded (toString n).toList written)
      (short : (Nat.toDigits 10 n.natAbs).length ≤ digitLimit) : Delivered (.integer n) (.text written)
  | moment (m : Moment) : Delivered (.instant m.instant) (.moment m)
  | iso {m : Moment} {separator : Char} {written : String} (whole : m.WholeOffset)
      (padded : Padded (m.isoChars separator) written) : Delivered (.instant m.instant) (.text written)
  | seconds (n : Int) : Delivered (.instant (n * secondMicros + epochMicros)) (.int n)

/-- The value that a kind of column gives for a thing, if it is one for that kind. -/
def ColumnKind.meaning? : ColumnKind → Thing → Option Value
  | .string, .text name => some (.text name)
  | .associationStatus, .text name => (AssociationStatus.ofName? (strip name)).map .status
  | .integer, .integer n => some (.int n)
  | .timestamp, .instant micros => (Moment.ofWall? micros none).map .moment
  | .epochMillis, .instant micros => (Moment.ofWall? micros none).map fun utc => .int utc.epochMillis
  | _, _ => none

/-- The kind of column is one for such things. -/
def ColumnKind.Takes : ColumnKind → Thing → Prop
  | .string, .text _ | .associationStatus, .text _ => True
  | .integer, .integer _ => True
  | .timestamp, .instant _ | .epochMillis, .instant _ => True
  | _, _ => False

section
variable {thing : Thing} {raw : Value}

theorem coerceString_delivered {name : String} (delivered : (Thing.text name).Delivered raw) :
    coerceString raw = .ok name := by
  cases delivered with
  | text => rfl
  | bytes =>
    rw [coerceString, Utf8.decode_encode]
    rfl

theorem coerceInteger_delivered {n : Int} (delivered : (Thing.integer n).Delivered raw) : coerceInteger raw = .ok n := by
  cases delivered with
  | int => rfl
  | decimal =>
    have exact := Decimal.integer?_ofInt n
    rw [Decimal.ofInt] at exact ⊢
    simp only [coerceInteger, coerceDecimal, exact]
  | @digits _ written padded short =>
    have read := readInteger_toString padded short
    simp only [coerceInteger, Value.text?, read]
    rfl

theorem naiveUtc_eq_ok_iff (moment utc : Moment) :
    naiveUtc moment = .ok utc ↔ Moment.ofWall? moment.instant none = some utc := by
  unfold naiveUtc
  split
  next naive =>
    have offset : moment.offset = none := Option.isNone_iff_eq_none.mp naive
    have same : Moment.ofWall? moment.instant none = some moment :=
      ofWall?_eq_some_iff.mpr ⟨by simp [Moment.instant, offset], offset⟩
    rw [same, Except.ok.injEq, Option.some.injEq]
  next =>
    unfold Moment.toUtc?
    cases Moment.ofWall? moment.instant none with
    | none => simp
    | some found => simp

theorem coerceTimestamp_seconds (n : Int) (utc : Moment) : coerceTimestamp (.int n) = .ok utc ↔
    Moment.ofWall? (n * secondMicros + epochMicros) none = some utc := by
  have taken : coerceTimestamp (.int n) = (ofEpoch n 0).mapError .epoch >>= naiveUtc := rfl
  have counted : n * secondMicros + (0 : Nat) + epochMicros = n * secondMicros + epochMicros := by simp
  constructor
  · intro coerced
    cases made : ofEpoch n 0 with
    | error error =>
      rw [taken, made] at coerced
      cases coerced
    | ok moment =>
      obtain ⟨wall, offset⟩ := ofWall?_eq_some_iff.mp (ofWall?_of_ofEpoch made)
      rw [taken, made] at coerced
      have read := (naiveUtc_eq_ok_iff moment utc).mp coerced
      have instant : moment.instant = n * secondMicros + epochMicros := by
        rw [Moment.instant, offset, wall, counted]
        simp
      rwa [instant] at read
  · intro found
    obtain ⟨wall, _⟩ := ofWall?_eq_some_iff.mp found
    have made : ofEpoch n 0 = .ok ⟨utc.wall, some 0, utc.wall_lt, rfl⟩ :=
      (ofEpoch_eq_ok_iff (by decide)).mpr (ofWall?_eq_some_iff.mpr ⟨by rw [wall, counted], rfl⟩)
    have read : naiveUtc ⟨utc.wall, some 0, utc.wall_lt, rfl⟩ = .ok utc := by
      rw [naiveUtc_eq_ok_iff, ← found, ← wall]
      simp [Moment.instant]
    rw [taken, made]
    exact read

theorem coerceTimestamp_delivered {micros : Int} (delivered : (Thing.instant micros).Delivered raw) (utc : Moment) :
    coerceTimestamp raw = .ok utc ↔ Moment.ofWall? micros none = some utc := by
  cases delivered with
  | moment m => exact naiveUtc_eq_ok_iff m utc
  | @iso m separator written whole padded =>
    have taken : coerceTimestamp (.text written) = naiveUtc m := by
      simp only [coerceTimestamp, Value.text?, Moment.readIso_padded whole padded]
      rfl
    rw [taken, naiveUtc_eq_ok_iff]
  | seconds n => exact coerceTimestamp_seconds n utc

theorem map_eq_ok_iff {α β : Type} {f : α → β} {outcome : Except CoercionError α} {value : β} :
    f <$> outcome = .ok value ↔ ∃ found, outcome = .ok found ∧ f found = value := by
  cases outcome <;> simp

/-- Every form of a thing is read as the thing itself. -/
theorem ColumnKind.coerce_delivered {kind : ColumnKind} (takes : kind.Takes thing) (delivered : thing.Delivered raw)
    (value : Value) : kind.coerce raw = .ok value ↔ kind.meaning? thing = some value := by
  cases kind with
  | string =>
    cases thing with
    | text name => simp [coerce, coerceString_delivered delivered, meaning?]
    | integer | instant => cases takes
  | associationStatus =>
    cases thing with
    | text name =>
      simp only [coerce, coerceAssociationStatus, coerceString_delivered delivered, meaning?]
      simp only [bind, Except.bind]
      cases AssociationStatus.ofName? (strip name) with
      | none => simp
      | some status => simp
    | integer | instant => cases takes
  | integer =>
    cases thing with
    | integer n => simp [coerce, coerceInteger_delivered delivered, meaning?]
    | text | instant => cases takes
  | timestamp =>
    cases thing with
    | instant micros =>
      simp only [coerce, meaning?, map_eq_ok_iff, coerceTimestamp_delivered delivered, Option.map_eq_some_iff]
    | text | integer => cases takes
  | epochMillis =>
    cases thing with
    | instant micros =>
      simp only [coerce, coerceEpochMillis, meaning?, map_eq_ok_iff, coerceTimestamp_delivered delivered,
        Option.map_eq_some_iff]
      simp
    | text | integer => cases takes
  | unknown name => cases thing <;> cases takes

end

theorem Thing.Delivered.ne_null {thing : Thing} {raw : Value} (delivered : thing.Delivered raw) : raw ≠ .null := by
  cases delivered <;> exact Value.noConfusion

/-- Both values are forms of one thing, and the column is one for such things. -/
def ColumnKind.SameThing (kind : ColumnKind) (raw form : Value) : Prop :=
  ∃ thing : Thing, kind.Takes thing ∧ thing.Delivered raw ∧ thing.Delivered form

theorem ColumnKind.SameThing.symm {kind : ColumnKind} {raw form : Value} (same : kind.SameThing raw form) :
    kind.SameThing form raw := by
  obtain ⟨thing, takes, first, second⟩ := same
  exact ⟨thing, takes, second, first⟩

theorem ColumnKind.SameThing.coerce {kind : ColumnKind} {raw form value : Value} (same : kind.SameThing raw form)
    (coerced : kind.coerce raw = .ok value) : kind.coerce form = .ok value := by
  obtain ⟨thing, takes, first, second⟩ := same
  rw [ColumnKind.coerce_delivered takes first] at coerced
  exact (ColumnKind.coerce_delivered takes second value).mpr coerced

/-- A row as other drivers may deliver it: the labels are the same, and each value is the
same or another form of what the value in a column of the schema stands for. -/
structure Schema.Respelled (schema : Schema) (row other : LabelledRow) : Prop where
  labels : other.labels = row.labels
  values : ∀ place : Nat, other.values[place]? = row.values[place]? ∨
    ∃ raw form, row.values[place]? = some raw ∧ other.values[place]? = some form ∧
      ∃ spec ∈ schema, row.CalledAt (.text spec.name) place ∧ spec.kind.SameThing raw form

theorem LabelledRow.calledAt_iff {row other : LabelledRow} (labels : other.labels = row.labels) (column : Label)
    (place : Nat) : other.CalledAt column place ↔ row.CalledAt column place := by
  rw [CalledAt, CalledAt, labels]

namespace Schema.Respelled
variable {schema : Schema} {row other : LabelledRow}

theorem symm (respelled : schema.Respelled row other) : schema.Respelled other row where
  labels := respelled.labels.symm
  values place := by
    rcases respelled.values place with same | ⟨raw, form, held, delivered, spec, member, called, same⟩
    · exact .inl same.symm
    · exact .inr ⟨form, raw, delivered, held, spec, member,
        (LabelledRow.calledAt_iff respelled.labels _ place).mpr called, same.symm⟩

/-- Each column of a schema whose columns have names of their own gives the same value. -/
theorem gives (respelled : schema.Respelled row other)
    (distinct : ∀ spec ∈ schema, ∀ twin ∈ schema,
      (Label.text twin.name).folded = (Label.text spec.name).folded → twin = spec)
    {spec : ColumnSpec} (member : spec ∈ schema) {value : Value} (given : spec.Gives row value) :
    spec.Gives other value := by
  have called := LabelledRow.calledAt_iff respelled.labels (.text spec.name)
  have moved {place : Nat} (only : row.OnlyAt (.text spec.name) place) : other.OnlyAt (.text spec.name) place :=
    fun place => (called place).trans (only place)
  have formed {place : Nat} (only : row.OnlyAt (.text spec.name) place) :
      other.values[place]? = row.values[place]? ∨ ∃ raw form, row.values[place]? = some raw ∧
        other.values[place]? = some form ∧ spec.kind.SameThing raw form := by
    refine (respelled.values place).imp_right ?_
    rintro ⟨raw, form, held, delivered, twin, inside, ⟨label, found, folded⟩, same⟩
    obtain ⟨_, again, own⟩ := (only place).mpr rfl
    rw [found] at again
    cases again
    exact ⟨raw, form, held, delivered, distinct spec member twin inside (folded.symm.trans own) ▸ same⟩
  cases given with
  | missing lacks optional => exact .missing (fun place found => lacks place ((called place).mp found)) optional
  | null only held nullable =>
    rcases formed only with same | ⟨raw, form, first, _, thing, _, delivered, _⟩
    · exact .null (moved only) (same.trans held) nullable
    · rw [held] at first
      cases first
      exact absurd rfl delivered.ne_null
  | coerced only held present coerced =>
    rcases formed only with same | ⟨raw, form, first, second, same⟩
    · exact .coerced (moved only) (same.trans held) present coerced
    · rw [held] at first
      cases first
      have again := same.coerce coerced
      obtain ⟨thing, _, _, delivered⟩ := same
      exact .coerced (moved only) second delivered.ne_null again

end Schema.Respelled

theorem Mapper.distinct_of_standard {mapper : Mapper} (standard : mapper ∈ Mapper.standard) :
    ∀ spec ∈ mapper.schema, ∀ twin ∈ mapper.schema,
      (Label.text twin.name).folded = (Label.text spec.name).folded → twin = spec := by
  simp only [Mapper.standard, List.mem_cons, List.not_mem_nil, or_false] at standard
  rcases standard with rfl | rfl | rfl <;> decide

theorem Mapper.mapRow_ok_of_respelled {mapper : Mapper} (standard : mapper ∈ Mapper.standard) {row other : LabelledRow}
    (respelled : mapper.schema.Respelled row other) {rowNumber : Value} {record : Record}
    (mapped : (mapper.mapRow row.cursor rowNumber).outcome = .ok record) :
    (mapper.mapRow other.cursor rowNumber).outcome = .ok record := by
  have kept : ∀ spec ∈ mapper.schema, ∀ value, (spec.read row.cursor rowNumber).outcome = .ok value →
      (spec.read other.cursor rowNumber).outcome = .ok value := by
    intro spec member value
    rw [ColumnSpec.read_eq_ok_iff_gives, ColumnSpec.read_eq_ok_iff_gives]
    exact respelled.gives (distinct_of_standard standard) member
  rw [mapRow_outcome] at mapped ⊢
  cases read : (mapper.schema.read row.cursor rowNumber).outcome with
  | error error =>
    rw [read] at mapped
    cases mapped
  | ok values =>
    rw [Schema.read_eq_ok_of_columns _ _ kept read]
    rwa [read] at mapped

/-- Rows that say the same things in the forms of any drivers become the same record, or none does. -/
theorem Mapper.mapRow_respelled {mapper : Mapper} (standard : mapper ∈ Mapper.standard) {row other : LabelledRow}
    (respelled : mapper.schema.Respelled row other) (n : Int) (record : Record) :
    (mapper.mapRow row.cursor (.int n)).outcome = .ok record ↔
      (mapper.mapRow other.cursor (.int n)).outcome = .ok record :=
  ⟨mapRow_ok_of_respelled standard respelled, mapRow_ok_of_respelled standard respelled.symm⟩

/-- The first moment of 1970, without offset. -/
def epochStart : Moment := ⟨epochMicros, none, epochMicros_lt, Option.all_none⟩

/-- A row of the history with an integer, two moments and a text in it. -/
def plainRow : LabelledRow where
  labels := Schema.associationHistory.map fun spec => .text spec.name
  values :=
    [.int 7, .null, .moment epochStart, .text "ASSOCIATED", .null, .moment epochStart, .null, .null, .null, .null, .null]
  same_length := rfl

/-- The same row with digits among blanks, a count of seconds, bytes and ISO text. -/
def mixedRow : LabelledRow where
  labels := Schema.associationHistory.map fun spec => .text spec.name
  values :=
    [.text " 7 ", .null, .int 0, .bytes (Utf8.encode "ASSOCIATED"), .null, .text (epochStart.isoText 'T'),
      .null, .null, .null, .null, .null]
  same_length := rfl

theorem mixedRow_respelled : Schema.associationHistory.Respelled plainRow mixedRow where
  labels := rfl
  values
    | 0 => by
      have blank : ∀ c ∈ [' '], isBlank c = true := List.forall_mem_singleton.mpr rfl
      have digits : Padded (toString (7 : Int)).toList " 7 " := ⟨[' '], [' '], rfl, blank, blank⟩
      exact .inr ⟨_, _, rfl, rfl, { name := "id", kind := .integer, nullable := false }, by decide, ⟨_, rfl, rfl⟩,
        .integer 7, trivial, .int 7, .digits digits (by decide)⟩
    | 2 => by
      have start : Thing.Delivered (.instant (0 * secondMicros + epochMicros)) (.moment epochStart) := .moment epochStart
      exact .inr ⟨_, _, rfl, rfl, { name := "associated_on", kind := .timestamp }, by decide, ⟨_, rfl, rfl⟩,
        .instant (0 * secondMicros + epochMicros), trivial, start, .seconds 0⟩
    | 3 => .inr ⟨_, _, rfl, rfl, { name := "association_status", kind := .associationStatus, nullable := false },
        by decide, ⟨_, rfl, rfl⟩, .text "ASSOCIATED", trivial, .text _, .bytes _⟩
    | 5 => by
      have whole : epochStart.WholeOffset := by simp [Moment.WholeOffset, epochStart]
      exact .inr ⟨_, _, rfl, rfl, { name := "disassociated_on", kind := .timestamp }, by decide, ⟨_, rfl, rfl⟩,
        .instant epochStart.instant, trivial, .moment epochStart, .iso whole (padded_ofList _)⟩
    | 1 | 4 => .inl rfl
    | _ + 6 => .inl rfl

theorem Mapper.mapRow_respelled_of_mixedRow :
    Mapper.associationHistory ∈ Mapper.standard ∧ Mapper.associationHistory.schema.Respelled plainRow mixedRow ∧
      ∃ record, (Mapper.associationHistory.mapRow plainRow.cursor (.int 1)).outcome = .ok record ∧
        (Mapper.associationHistory.mapRow mixedRow.cursor (.int 1)).outcome = .ok record := by
  have listed : Mapper.associationHistory ∈ Mapper.standard := by simp [Mapper.standard]
  have mapped : ∃ record, (Mapper.associationHistory.mapRow plainRow.cursor (.int 1)).outcome = .ok record := ⟨_, rfl⟩
  obtain ⟨record, same⟩ := mapped
  exact ⟨listed, mixedRow_respelled, record, same, (mapRow_respelled listed mixedRow_respelled 1 record).mp same⟩

end FleetLink.Row
