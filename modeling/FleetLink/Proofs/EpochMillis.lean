import FleetLink.Proofs.RoundedMillis
import FleetLink.Proofs.Timestamps

/-! Moments as milliseconds since 1970. A later moment never gets fewer of them, so a window
keeps its order, and whole seconds keep their value. Of the moments to the millisecond, those
are told that lose one to the rounding of their seconds. -/

namespace FleetLink.Time
open Number Binary64

/-- The milliseconds of so many microseconds, without the fraction that two roundings leave. -/
def wholeMillis (micros : Int) : Int :=
  if micros < 0 then -(⌊roundedMillis micros.natAbs⌋₊ : Int) else ⌊roundedMillis micros.natAbs⌋₊

theorem wholeMillis_mono {earlier later : Int} (ordered : earlier ≤ later) (first : earlier.natAbs ≤ 2 ^ 62)
    (last : later.natAbs ≤ 2 ^ 62) : wholeMillis earlier ≤ wholeMillis later := by
  unfold wholeMillis
  split
  next before =>
    split
    next =>
      -- Before 1970 the order of the sizes is reversed.
      have floors := Nat.floor_mono (roundedMillis_mono (show later.natAbs ≤ earlier.natAbs by omega) first)
      omega
    next => omega
  next =>
    have floors := Nat.floor_mono (roundedMillis_mono (show earlier.natAbs ≤ later.natAbs by omega) last)
    rw [if_neg (by omega)]
    omega

theorem wholeMillis_seconds {n : Int} (small : n.natAbs ≤ 2 ^ 42) : wholeMillis (n * secondMicros) = 1000 * n := by
  have size : (n * secondMicros).natAbs = n.natAbs * secondMicros := by rw [Int.natAbs_mul, Int.natAbs_natCast]
  have floor : ⌊roundedMillis (n * secondMicros).natAbs⌋₊ = 1000 * n.natAbs := by
    rw [size, roundedMillis_seconds small]
    exact_mod_cast Nat.floor_natCast (1000 * n.natAbs)
  rw [wholeMillis, floor]
  rcases lt_or_ge n 0 with before | after
  · rw [if_pos (Int.mul_neg_of_neg_of_pos before (by decide))]
    omega
  · rw [if_neg (not_lt.mpr (Int.mul_nonneg after (by decide)))]
    omega

section
variable {millis : Int} (small : millis.natAbs < 2 ^ 48)
include small

theorem wholeMillis_of_not_cutShort (kept : ¬CutShort millis.natAbs) : wholeMillis (1000 * millis) = millis := by
  have floor := floor_of_not_cutShort small kept
  rw [wholeMillis, Int.natAbs_mul, show (1000 : Int).natAbs = 1000 from rfl, floor]
  split <;> omega

theorem wholeMillis_of_cutShort (cut : CutShort millis.natAbs) : wholeMillis (1000 * millis) = millis - millis.sign := by
  have floor := floor_of_cutShort small cut
  have some := cut.pos
  rw [wholeMillis, Int.natAbs_mul, show (1000 : Int).natAbs = 1000 from rfl, floor]
  rcases Int.lt_or_gt_of_ne (Int.natAbs_pos.mp some) with before | after
  · rw [Int.sign_eq_neg_one_of_neg before, if_pos (by omega)]
    omega
  · rw [Int.sign_eq_one_of_pos after, if_neg (by omega)]
    omega

theorem wholeMillis_eq_iff : wholeMillis (1000 * millis) = millis ↔ ¬CutShort millis.natAbs := by
  refine ⟨?_, wholeMillis_of_not_cutShort small⟩
  intro exact cut
  rw [wholeMillis_of_cutShort small cut] at exact
  have some := cut.pos
  have unsigned := Int.sign_eq_zero_iff_zero.mp (show millis.sign = 0 by omega)
  omega

end

namespace Moment

theorem sinceEpoch_bound (moment : Moment) : moment.sinceEpoch.natAbs < 1000 * 2 ^ 48 := by
  have inside := moment.wall_lt
  have shift : -(dayMicros : Int) < moment.offset.getD 0 ∧ moment.offset.getD 0 < dayMicros := by
    have valid := moment.offset_valid
    cases zone : moment.offset with
    | none => decide
    | some shift => simpa [zone, validOffset] using valid
  simp only [sinceEpoch, instant, wallLimit, dayCount, epochMicros, dayMicros] at *
  omega

theorem epochMillis_eq (moment : Moment) : moment.epochMillis = wholeMillis moment.sinceEpoch := by
  have bound := moment.sinceEpoch_bound
  have product := truncate?_roundedMillis (show moment.sinceEpoch.natAbs ≤ 2 ^ 62 by omega) (decide (moment.sinceEpoch < 0))
  rw [epochMillis, epochSeconds, product]
  simp only [wholeMillis, decide_eq_true_eq, Option.getD_some]

theorem epochMillis_mono {earlier later : Moment} (ordered : earlier.instant ≤ later.instant) :
    earlier.epochMillis ≤ later.epochMillis := by
  have first := earlier.sinceEpoch_bound
  have last := later.sinceEpoch_bound
  rw [epochMillis_eq, epochMillis_eq]
  exact wholeMillis_mono (Int.sub_le_sub_right ordered _) (by omega) (by omega)

/-- The moment is so many milliseconds away from the start of 1970, and nothing finer. -/
def AtMillis (moment : Moment) (millis : Int) : Prop := moment.sinceEpoch = 1000 * millis

theorem AtMillis.small {moment : Moment} {millis : Int} (fine : moment.AtMillis millis) : millis.natAbs < 2 ^ 48 := by
  have bound := moment.sinceEpoch_bound
  rw [fine] at bound
  omega

/-- Offsets of whole seconds leave the milliseconds of the wall reading alone. -/
theorem exists_atMillis_iff {moment : Moment} (whole : moment.WholeOffset) :
    (∃ millis, moment.AtMillis millis) ↔ moment.micro % 1000 = 0 := by
  obtain ⟨seconds, shift⟩ : ∃ seconds : Int, moment.offset.getD 0 = seconds * secondMicros := by
    cases zone : moment.offset with
    | none => exact ⟨0, rfl⟩
    | some shift =>
      obtain ⟨seconds, counted⟩ := whole shift zone
      exact ⟨seconds, counted.trans (Int.mul_comm _ _)⟩
  simp only [AtMillis, sinceEpoch, instant, micro, shift, epochMicros, dayMicros, secondMicros]
  constructor
  · rintro ⟨millis, counted⟩
    omega
  · intro fine
    exact ⟨(moment.wall - seconds * 1000000 - 719162 * 86400000000) / 1000, by push_cast; omega⟩

end Moment

end FleetLink.Time

namespace FleetLink.Row
open Time

theorem coerceEpochMillis_eq_ok_iff (raw : Value) (millis : Int) : coerceEpochMillis raw = .ok millis ↔
    ∃ utc, coerceTimestamp raw = .ok utc ∧ utc.epochMillis = millis := map_eq_ok_iff

theorem coerceEpochMillis_moment (moment : Moment) (millis : Int) : coerceEpochMillis (.moment moment) = .ok millis ↔
    InCalendar moment.instant ∧ wholeMillis moment.sinceEpoch = millis := by
  simp only [coerceEpochMillis_eq_ok_iff, coerceTimestamp, naiveUtc_eq_ok_iff, ← exists_ofWall?_iff]
  have counted {utc : Moment} (made : Moment.ofWall? moment.instant none = some utc) :
      utc.epochMillis = wholeMillis moment.sinceEpoch := by
    rw [Moment.epochMillis_eq, Moment.sinceEpoch, (ofWall?_eq_some_iff_reads.mp made).same, Moment.sinceEpoch]
  constructor
  · rintro ⟨utc, made, same⟩
    exact ⟨⟨utc, made⟩, (counted made).symm.trans same⟩
  · rintro ⟨⟨utc, made⟩, same⟩
    exact ⟨utc, made, (counted made).trans same⟩

theorem coerceEpochMillis_int {n : Int} (inside : InCalendar (n * secondMicros + epochMicros)) :
    coerceEpochMillis (.int n) = .ok (1000 * n) := by
  obtain ⟨utc, read, reads⟩ := coerceTimestamp_int inside
  have since : utc.sinceEpoch = n * secondMicros := by
    rw [Moment.sinceEpoch, reads.same, Int.add_sub_cancel]
  have bound := utc.sinceEpoch_bound
  rw [since] at bound
  refine (coerceEpochMillis_eq_ok_iff _ _).mpr ⟨utc, read, ?_⟩
  rw [Moment.epochMillis_eq, since, wholeMillis_seconds]
  simp only [secondMicros] at bound
  omega

/-- A moment to the millisecond gets the milliseconds since 1970 if the calendar has its instant in
UTC, except that one is lost where the rounding cuts them short. Such a moment shows no finer part
on its clock. -/
theorem coerceEpochMillis_exact_iff (moment : Moment) :
    ((∃ millis, coerceEpochMillis (.moment moment) = .ok millis ∧ moment.AtMillis millis) ↔
      InCalendar moment.instant ∧ ∃ millis, moment.AtMillis millis ∧ ¬CutShort millis.natAbs) ∧
    (∀ millis, moment.AtMillis millis → InCalendar moment.instant → CutShort millis.natAbs →
      coerceEpochMillis (.moment moment) = .ok (millis - millis.sign)) ∧
    (moment.WholeOffset → ((∃ millis, moment.AtMillis millis) ↔ moment.micro % 1000 = 0)) := by
  simp only [coerceEpochMillis_moment]
  refine ⟨⟨?_, ?_⟩, ?_, Moment.exists_atMillis_iff⟩
  · rintro ⟨millis, ⟨inside, exact⟩, fine⟩
    rw [fine] at exact
    exact ⟨inside, millis, fine, (wholeMillis_eq_iff fine.small).mp exact⟩
  · rintro ⟨inside, millis, fine, kept⟩
    exact ⟨millis, ⟨inside, by rw [fine, wholeMillis_of_not_cutShort fine.small kept]⟩, fine⟩
  · intro millis fine inside cut
    exact ⟨inside, by rw [fine, wholeMillis_of_cutShort fine.small cut]⟩

/-- A second and a millisecond after the start of 1970. -/
def secondAndMilli : Moment := ⟨epochMicros + 1001000, none, by decide, Option.all_none⟩

theorem coerceEpochMillis_inexact_at_secondAndMilli : secondAndMilli.micro % 1000 = 0 ∧ secondAndMilli.AtMillis 1001 ∧
    coerceEpochMillis (.moment secondAndMilli) = .ok 1000 := by
  have kept : coerceTimestamp (.moment secondAndMilli) = .ok secondAndMilli := naiveUtc_of_bare rfl
  have cut : secondAndMilli.epochMillis = 1000 := by decide +kernel
  exact ⟨by decide, rfl, (coerceEpochMillis_eq_ok_iff _ _).mpr ⟨secondAndMilli, kept, cut⟩⟩

/-- An association shows the milliseconds of a column that is read as a timestamp. -/
theorem Mapper.association_shows_millis {row : LabelledRow} {n : Int} {record : Record}
    (mapped : (Mapper.association.mapRow row.cursor (.int n)).outcome = .ok record) {spec : ColumnSpec}
    (member : spec ∈ Mapper.association.schema) (timed : spec.kind = .epochMillis) {raw : Value} {utc : Moment}
    (got : row.get (.text spec.name) = .ok raw) (read : coerceTimestamp raw = .ok utc) :
    record.entries.getText? spec.target = some (.int utc.epochMillis) := by
  have present : raw ≠ .null := by
    rintro rfl
    cases read
  obtain ⟨value, coerced, shown⟩ := mapRow_shows association_fits mapped member got present
  rw [timed, ColumnKind.coerce, map_eq_ok_iff] at coerced
  obtain ⟨millis, given, rfl⟩ := coerced
  obtain ⟨same, again, rfl⟩ := (coerceEpochMillis_eq_ok_iff raw millis).mp given
  obtain rfl := Except.ok.inj (read.symm.trans again)
  exact shown

/-- The later one of two timestamps never gets fewer milliseconds, whatever both are read from, so
the window of an association keeps its order. Whole seconds keep their value. -/
theorem coerceEpochMillis_ordered {first second : Value} {earlier later : Moment}
    (start : coerceTimestamp first = .ok earlier) (stop : coerceTimestamp second = .ok later)
    (ordered : earlier.instant ≤ later.instant) :
    (∃ fewer more, coerceEpochMillis first = .ok fewer ∧ coerceEpochMillis second = .ok more ∧ fewer ≤ more) ∧
    (∀ (row : LabelledRow) (n : Int) (record : Record),
      row.get (.text "start_timestamp") = .ok first → row.get (.text "end_timestamp") = .ok second →
        (Mapper.association.mapRow row.cursor (.int n)).outcome = .ok record →
          ∃ fewer more, record.entries.getText? "start_timestamp" = some (.int fewer) ∧
            record.entries.getText? "end_timestamp" = some (.int more) ∧ fewer ≤ more) ∧
    ∀ n : Int, InCalendar (n * secondMicros + epochMicros) → coerceEpochMillis (.int n) = .ok (1000 * n) := by
  have order := Moment.epochMillis_mono ordered
  refine ⟨⟨earlier.epochMillis, later.epochMillis, ?_, ?_, order⟩, ?_, fun _ => coerceEpochMillis_int⟩
  · exact (coerceEpochMillis_eq_ok_iff _ _).mpr ⟨earlier, start, rfl⟩
  · exact (coerceEpochMillis_eq_ok_iff _ _).mpr ⟨later, stop, rfl⟩
  · intro row n record opened closed mapped
    have starts : ColumnSpec.mk "start_timestamp" .epochMillis true true none ∈ Mapper.association.schema := by decide
    have ends : ColumnSpec.mk "end_timestamp" .epochMillis true true none ∈ Mapper.association.schema := by decide
    exact ⟨earlier.epochMillis, later.epochMillis, Mapper.association_shows_millis mapped starts rfl opened start,
      Mapper.association_shows_millis mapped ends rfl closed stop, order⟩

/-- An association whose window opens at a moment and closes at a count of seconds. -/
def windowRow : LabelledRow where
  labels := (Schema.associationHistory.map fun spec => .text spec.name) ++
    [.text "factory_data", .text "start_timestamp", .text "end_timestamp"]
  values := [.int 5, .null, .null, .text "ASSOCIATED", .null, .null, .null, .null, .null, .null, .null, .null,
    .moment secondAndMilli, .int 5]
  same_length := rfl

theorem coerceEpochMillis_ordered_of_windowRow :
    ∃ later, coerceTimestamp (.moment secondAndMilli) = .ok secondAndMilli ∧ coerceTimestamp (.int 5) = .ok later ∧
      secondAndMilli.instant ≤ later.instant ∧
      ∃ record fewer more, (Mapper.association.mapRow windowRow.cursor (.int 1)).outcome = .ok record ∧
        record.entries.getText? "start_timestamp" = some (.int fewer) ∧
        record.entries.getText? "end_timestamp" = some (.int more) ∧ fewer ≤ more := by
  have start : coerceTimestamp (.moment secondAndMilli) = .ok secondAndMilli := naiveUtc_of_bare rfl
  have inside : InCalendar (5 * secondMicros + epochMicros) := (inCalendar_iff _).mpr (by decide)
  obtain ⟨later, stop, reads⟩ := coerceTimestamp_int inside
  have ordered : secondAndMilli.instant ≤ later.instant := by
    rw [reads.same]
    decide
  have mapped : ∃ record, (Mapper.association.mapRow windowRow.cursor (.int 1)).outcome = .ok record := ⟨_, rfl⟩
  obtain ⟨record, same⟩ := mapped
  obtain ⟨fewer, more, opened, closed, order⟩ := (coerceEpochMillis_ordered start stop ordered).2.1 windowRow 1 record rfl rfl same
  exact ⟨later, start, stop, ordered, record, fewer, more, same, opened, closed, order⟩

end FleetLink.Row
