import FleetLink.Proofs.DriverForms

/-! Timestamps of columns. A moment, its text and a count of seconds all say an instant, and
each of them is read as the bare moment of that instant in UTC when the calendar has one. -/

namespace FleetLink.Time

/-- The instant falls on a day in UTC that has a date in the years 1 to 9999. -/
def InCalendar (instant : Int) : Prop :=
  ∃ civil : Civil, civil.OnCalendar ∧ (civil.dayNumber : Int) = instant / dayMicros

/-- The epoch is the first moment of 1970. -/
example : epochMicros = (Civil.mk 1970 1 1).dayNumber * dayMicros := by decide

/-- The calendar has the instants from its first microsecond to its last one. -/
theorem inCalendar_iff (instant : Int) : InCalendar instant ↔ 0 ≤ instant ∧ instant < wallLimit := by
  constructor
  · rintro ⟨civil, sound, same⟩
    have inside := sound.dayNumber_lt
    simp only [wallLimit, dayMicros, dayCount] at *
    omega
  · rintro ⟨least, most⟩
    have number : (instant / dayMicros).toNat < dayCount := by
      simp only [wallLimit, dayMicros, dayCount] at *
      omega
    refine ⟨.ofDayNumber (instant / dayMicros).toNat, ofDayNumber_onCalendar number, ?_⟩
    rw [ofDayNumber_dayNumber]
    simp only [dayMicros] at *
    omega

theorem exists_ofWall?_iff (instant : Int) : (∃ utc, Moment.ofWall? instant none = some utc) ↔ InCalendar instant := by
  rw [inCalendar_iff]
  constructor
  · rintro ⟨utc, made⟩
    obtain ⟨wall, _⟩ := ofWall?_eq_some_iff.mp made
    have inside := utc.wall_lt
    omega
  · rintro ⟨least, most⟩
    exact ⟨⟨instant.toNat, none, by omega, rfl⟩, ofWall?_eq_some_iff.mpr ⟨Int.toNat_of_nonneg least, rfl⟩⟩

/-- The moment is a bare reading of an instant in UTC. -/
structure Moment.Reads (utc : Moment) (instant : Int) : Prop where
  bare : utc.offset = none
  same : utc.instant = instant

theorem ofWall?_eq_some_iff_reads {utc : Moment} {instant : Int} :
    Moment.ofWall? instant none = some utc ↔ utc.Reads instant := by
  rw [ofWall?_eq_some_iff]
  constructor
  · rintro ⟨wall, bare⟩
    exact ⟨bare, by rw [Moment.instant, bare, wall, Option.getD_none, Int.sub_zero]⟩
  · rintro ⟨bare, same⟩
    rw [Moment.instant, bare, Option.getD_none, Int.sub_zero] at same
    exact ⟨same, bare⟩

end FleetLink.Time

namespace FleetLink.Row
open Text Time

theorem naiveUtc_of_bare {moment : Moment} (bare : moment.offset = none) : naiveUtc moment = .ok moment :=
  if_pos (Option.isNone_iff_eq_none.mpr bare)

theorem naiveUtc_eq_ok_iff_reads (moment utc : Moment) : naiveUtc moment = .ok utc ↔ utc.Reads moment.instant := by
  rw [naiveUtc_eq_ok_iff, ofWall?_eq_some_iff_reads]

theorem naiveUtc_eq_error_iff (moment : Moment) : naiveUtc moment = .error .beyondCalendar ↔ ¬InCalendar moment.instant := by
  rw [← exists_ofWall?_iff, naiveUtc, Moment.toUtc?]
  split
  next naive =>
    have bare : moment.offset = none := Option.isNone_iff_eq_none.mp naive
    have same : Moment.ofWall? moment.instant none = some moment := ofWall?_eq_some_iff_reads.mpr ⟨bare, rfl⟩
    exact iff_of_false nofun (not_not_intro ⟨moment, same⟩)
  next => cases Moment.ofWall? moment.instant none <;> simp

theorem naiveUtc_bare {moment utc : Moment} (read : naiveUtc moment = .ok utc) : utc.offset = none :=
  ((naiveUtc_eq_ok_iff_reads moment utc).mp read).bare

/-- Whatever a timestamp is read from, it has no offset. -/
theorem coerceTimestamp_bare {raw : Value} {utc : Moment} (read : coerceTimestamp raw = .ok utc) : utc.offset = none := by
  unfold coerceTimestamp at read
  split at read
  next => exact naiveUtc_bare read
  next =>
    cases read
    rfl
  next n =>
    cases made : ofEpoch n 0 with
    | error => rw [made] at read; cases read
    | ok moment => rw [made] at read; exact naiveUtc_bare read
  next x =>
    cases made : ofEpochFloat x with
    | error => rw [made] at read; cases read
    | ok moment => rw [made] at read; exact naiveUtc_bare read
  next =>
    split at read
    next text _ =>
      cases made : readIso (strip text) with
      | error => rw [made] at read; cases read
      | ok moment => rw [made] at read; exact naiveUtc_bare read
    next => cases read

theorem coerceTimestamp_int {n : Int} (inside : InCalendar (n * secondMicros + epochMicros)) :
    ∃ utc, coerceTimestamp (.int n) = .ok utc ∧ utc.Reads (n * secondMicros + epochMicros) := by
  obtain ⟨utc, made⟩ := (exists_ofWall?_iff _).mpr inside
  exact ⟨utc, (coerceTimestamp_seconds n utc).mpr made, ofWall?_eq_some_iff_reads.mp made⟩

/-- The text of a moment, with any character before the clock and any blanks around it, is read
as the moment is: to the bare moment of its instant, or not at all when the calendar ends before
it. Seconds are counted from the start of 1970, and a timestamp once read is read as itself. -/
theorem coerceTimestamp_outcome {moment : Moment} (whole : moment.WholeOffset) {separator : Char} {text : String}
    (padded : Padded (moment.isoChars separator) text) :
    coerceTimestamp (.text text) = coerceTimestamp (.moment moment) ∧
      (∀ utc, coerceTimestamp (.moment moment) = .ok utc ↔ utc.Reads moment.instant) ∧
      (moment.offset = none → coerceTimestamp (.moment moment) = .ok moment) ∧
      (coerceTimestamp (.moment moment) = .error .beyondCalendar ↔ ¬InCalendar moment.instant) ∧
      (∀ n : Int, InCalendar (n * secondMicros + epochMicros) →
        ∃ utc, coerceTimestamp (.int n) = .ok utc ∧ utc.Reads (n * secondMicros + epochMicros)) ∧
      ∀ raw utc, coerceTimestamp raw = .ok utc → coerceTimestamp (.moment utc) = .ok utc := by
  refine ⟨?_, naiveUtc_eq_ok_iff_reads moment, naiveUtc_of_bare, naiveUtc_eq_error_iff moment, fun _ => coerceTimestamp_int, ?_⟩
  · simp only [coerceTimestamp, Value.text?, Moment.readIso_padded whole padded]
    rfl
  · intro raw utc read
    exact naiveUtc_of_bare (coerceTimestamp_bare read)

/-- Half a second before the end of a leap day, five hours and a half behind UTC. -/
def leapEvening : Moment :=
  ⟨(Civil.mk 2024 2 29).dayNumber * dayMicros + 86399 * secondMicros + 500000, some (-19800 * secondMicros), by decide, by decide⟩

/-- The same instant in UTC, on the first morning of the next month. -/
def marchMorning : Moment :=
  ⟨(Civil.mk 2024 3 1).dayNumber * dayMicros + 19799 * secondMicros + 500000, none, by decide, Option.all_none⟩

theorem coerceTimestamp_outcome_of_leapEvening :
    leapEvening.WholeOffset ∧ Padded (leapEvening.isoChars ' ') " 2024-02-29 23:59:59.500000-05:30\n" ∧
      coerceTimestamp (.text " 2024-02-29 23:59:59.500000-05:30\n") = .ok marchMorning ∧
      coerceTimestamp (.moment marchMorning) = .ok marchMorning := by
  have whole : leapEvening.WholeOffset := by
    intro shift zone
    cases zone
    exact ⟨-19800, by decide⟩
  have padded : Padded (leapEvening.isoChars ' ') " 2024-02-29 23:59:59.500000-05:30\n" :=
    ⟨[' '], ['\n'], by decide, List.forall_mem_singleton.mpr rfl, List.forall_mem_singleton.mpr rfl⟩
  obtain ⟨text, read, _, _, _, again⟩ := coerceTimestamp_outcome whole padded
  have same : coerceTimestamp (.moment leapEvening) = .ok marchMorning := (read marchMorning).mpr ⟨rfl, by decide⟩
  exact ⟨whole, padded, text.trans same, again _ _ same⟩

end FleetLink.Row
