import FleetLink.Time.Epoch

/-! Moments and their readings in UTC. A moment made from a number of seconds is one in
UTC already, and only readings with another offset can leave the calendar. -/

namespace FleetLink.Time

theorem ofWall?_eq_some_iff {wall : Int} {offset : Option Int} {moment : Moment} :
    Moment.ofWall? wall offset = some moment ↔ (moment.wall : Int) = wall ∧ moment.offset = offset := by
  constructor
  · intro made
    unfold Moment.ofWall? at made
    split at made
    next =>
      split at made
      next natural =>
        cases made
        exact ⟨Int.toNat_of_nonneg natural, rfl⟩
      next => cases made
    next => cases made
  · rintro ⟨rfl, rfl⟩
    simp [Moment.ofWall?, moment.wall_lt, moment.offset_valid]

theorem epochMicros_lt : epochMicros < wallLimit := by decide

namespace Moment

theorem dayNumber_lt (moment : Moment) : moment.dayNumber < dayCount :=
  Nat.div_lt_of_lt_mul (Nat.mul_comm dayCount dayMicros ▸ moment.wall_lt)

theorem secondOfDay_lt (moment : Moment) : moment.secondOfDay < 86400 :=
  Nat.div_lt_of_lt_mul (Nat.mod_lt moment.wall (by decide))

theorem micro_lt (moment : Moment) : moment.micro < secondMicros := Nat.mod_lt moment.wall (by decide)

/-- A day, a clock reading in hours, minutes and seconds, and the microseconds after it. -/
def clock (moment : Moment) : Clock :=
  ⟨moment.secondOfDay / 3600, moment.secondOfDay / 60 % 60, moment.secondOfDay % 60, moment.micro⟩

theorem clock_check (moment : Moment) : moment.clock.check = .ok moment.clock.micros := by
  have short := moment.secondOfDay_lt
  have hour : ¬23 < moment.clock.hour := by simp only [clock]; omega
  have minute : ¬59 < moment.clock.minute := by simp only [clock]; omega
  have second : ¬59 < moment.clock.second := by simp only [clock]; omega
  rw [Clock.check, if_neg hour, if_neg minute, if_neg second]

theorem wall_eq (moment : Moment) : moment.dayNumber * dayMicros + moment.clock.micros = moment.wall := by
  simp only [clock, Clock.micros, secondOfDay, microOfDay, micro, dayNumber, dayMicros, secondMicros]
  omega

end Moment

theorem Moment.toUtc?_of_offset_zero {moment : Moment} (utc : moment.offset = some 0) :
    moment.toUtc? = some ⟨moment.wall, none, moment.wall_lt, rfl⟩ :=
  ofWall?_eq_some_iff.mpr ⟨by simp [instant, utc], rfl⟩

theorem ofWall?_of_ofEpoch {seconds : Int} {micro : Nat} {moment : Moment} (made : ofEpoch seconds micro = .ok moment) :
    Moment.ofWall? (seconds * secondMicros + micro + epochMicros) (some 0) = some moment := by
  unfold ofEpoch at made
  split at made
  · cases made
  · split at made
    · cases made
    · split at made
      next found =>
        cases made
        exact found
      · cases made

theorem ofEpoch_offset {seconds : Int} {micro : Nat} {moment : Moment} (made : ofEpoch seconds micro = .ok moment) :
    moment.offset = some 0 :=
  (ofWall?_eq_some_iff.mp (ofWall?_of_ofEpoch made)).2

theorem ofEpochFloat_offset {x : Number.Binary64} {moment : Moment} (made : ofEpochFloat x = .ok moment) :
    moment.offset = some 0 := by
  unfold ofEpochFloat at made
  split at made
  · cases made
  · cases made
  · simp only at made
    split at made
    · cases made
    · exact ofEpoch_offset made

end FleetLink.Time
