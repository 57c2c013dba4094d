import FleetLink.Time.Calendar

/-! Days and dates. Every day of the years 1 to 9999 has a civil date, which lies on the
calendar and counts that day. -/

namespace FleetLink.Time

def yearLength (year : Nat) : Nat := if isLeap year then 366 else 365

theorem monthLengths_length (year : Nat) : (monthLengths year).length = 12 := rfl

/-- The days of some months together. -/
def daysOf (lengths : List Nat) : Nat := lengths.foldl (· + ·) 0

theorem daysOf_cons (length : Nat) (rest : List Nat) : daysOf (length :: rest) = length + daysOf rest := by
  simp only [daysOf, ← List.sum_eq_foldl_nat, List.sum_cons]

theorem daysOf_monthLengths (year : Nat) : daysOf (monthLengths year) = yearLength year := by
  unfold monthLengths yearLength
  cases isLeap year <;> rfl

/-- Days in groups of which the last may be one day longer, so that no fifth group begins. -/
private theorem capped_parts {past unit : Nat} (positive : 0 < unit) (inside : past ≤ 4 * unit) : ∃ part rest,
    min (past / unit) 3 = part ∧ past - part * unit = rest ∧ past = unit * part + rest ∧
      part ≤ 3 ∧ rest ≤ unit ∧ (rest = unit → part = 3) := by
  rcases Nat.lt_or_eq_of_le inside with less | rfl
  · have few : past / unit < 4 := Nat.div_lt_of_lt_mul (Nat.mul_comm 4 unit ▸ less)
    have division := Nat.div_add_mod past unit
    have short := Nat.mod_lt past positive
    refine ⟨past / unit, past % unit, by omega, ?_, division.symm, by omega, Nat.le_of_lt short, by omega⟩
    rw [Nat.mul_comm]
    omega
  · refine ⟨3, unit, ?_, by omega, by omega, Nat.le_refl 3, Nat.le_refl unit, fun _ => rfl⟩
    rw [Nat.mul_div_cancel 4 positive]
    rfl

/-- A day by its cycle of 400 years, century, group of four years, year and day of the
year. The 366th day of a year comes only at the end of a group, and at the end of a
century only when the cycle ends too. -/
theorem yearOfDay_parts (number : Nat) : ∃ cycle century group year past,
    century ≤ 3 ∧ group ≤ 24 ∧ year ≤ 3 ∧ past ≤ 365 ∧ (past = 365 → year = 3 ∧ (group = 24 → century = 3)) ∧
      number = 146097 * cycle + 36524 * century + 1461 * group + 365 * year + past ∧
      yearOfDay number = (cycle * 400 + century * 100 + group * 4 + year + 1, past) := by
  have inCycle : number % 146097 ≤ 4 * 36524 := Nat.le_of_lt_succ (Nat.mod_lt number (by decide))
  obtain ⟨century, inCentury, centuryIs, restIs, split, few, _, closing⟩ := capped_parts (by decide) inCycle
  have inGroup : inCentury % 1461 ≤ 4 * 365 := Nat.le_of_lt_succ (Nat.mod_lt inCentury (by decide))
  obtain ⟨year, past, yearIs, pastIs, dayIs, years, most, last⟩ := capped_parts (by decide) inGroup
  have cycleIs := Nat.div_add_mod number 146097
  have groupIs := Nat.div_add_mod inCentury 1461
  refine ⟨number / 146097, century, inCentury / 1461, year, past, few, by omega, years, most, by omega, by omega, ?_⟩
  simp only [yearOfDay, centuryIs, restIs, yearIs, pastIs]

theorem daysBeforeYear_parts {cycle century group year : Nat} (few : century ≤ 3) (groups : group ≤ 24)
    (years : year ≤ 3) :
    daysBeforeYear (cycle * 400 + century * 100 + group * 4 + year + 1) =
      146097 * cycle + 36524 * century + 1461 * group + 365 * year := by
  have fours : (cycle * 400 + century * 100 + group * 4 + year) / 4 = 100 * cycle + 25 * century + group := by omega
  have hundreds : (cycle * 400 + century * 100 + group * 4 + year) / 100 = 4 * cycle + century := by omega
  have cycles : (cycle * 400 + century * 100 + group * 4 + year) / 400 = cycle := by omega
  simp only [daysBeforeYear, Nat.add_sub_cancel, fours, hundreds, cycles]
  omega

theorem yearOfDay_counts (number : Nat) : daysBeforeYear (yearOfDay number).1 + (yearOfDay number).2 = number := by
  obtain ⟨cycle, century, group, year, past, few, groups, years, _, _, counted, same⟩ := yearOfDay_parts number
  rw [same, daysBeforeYear_parts few groups years, counted]

theorem yearOfDay_past (number : Nat) : (yearOfDay number).2 < yearLength (yearOfDay number).1 := by
  obtain ⟨cycle, century, group, year, past, few, groups, years, most, last, _, same⟩ := yearOfDay_parts number
  rw [same]
  unfold yearLength
  split
  next => exact Nat.lt_succ_of_le most
  next common =>
    have short : past ≠ 365 := by
      intro full
      obtain ⟨rfl, closed⟩ := last full
      simp only [isLeap, Bool.and_eq_true, Bool.or_eq_true, beq_iff_eq, bne_iff_ne] at common
      omega
    exact Nat.lt_of_le_of_ne most short

theorem yearOfDay_bounds {number : Nat} (inside : number < dayCount) :
    1 ≤ (yearOfDay number).1 ∧ (yearOfDay number).1 ≤ maxYear := by
  obtain ⟨cycle, century, group, year, past, few, groups, years, _, _, counted, same⟩ := yearOfDay_parts number
  rw [same]
  simp only [dayCount, maxYear] at *
  omega

/-- The month that a day of the year falls in, by the months before it. -/
theorem monthOfDay_place (month : Nat) {lengths : List Nat} {past : Nat} (inside : past < daysOf lengths) :
    ∃ place day, monthOfDay month lengths past = (month + place, day + 1) ∧
      daysOf (lengths.take place) + day = past ∧ ∃ length, lengths[place]? = some length ∧ day < length := by
  induction lengths generalizing month past with
  | nil => cases inside
  | cons length rest ih =>
    rw [monthOfDay]
    by_cases here : past < length
    · rw [if_pos here]
      exact ⟨0, past, rfl, Nat.zero_add past, length, rfl, here⟩
    · rw [daysOf_cons] at inside
      obtain ⟨place, day, found, counted, own, known, short⟩ := ih (month + 1) (show past - length < daysOf rest by omega)
      rw [if_neg here, found]
      refine ⟨place + 1, day, ?_, ?_, own, known, short⟩
      · rw [Nat.add_assoc, Nat.add_comm 1 place]
      · rw [List.take_succ_cons, daysOf_cons]
        omega

/-- The date of a day lies on the calendar. -/
structure Civil.OnCalendar (civil : Civil) : Prop where
  year_pos : 1 ≤ civil.year
  year_le : civil.year ≤ maxYear
  month_pos : 1 ≤ civil.month
  month_le : civil.month ≤ 12
  day_pos : 1 ≤ civil.day
  day_le : civil.day ≤ monthLength civil.year civil.month

theorem ofDayNumber_eq {number year past month day : Nat} (years : yearOfDay number = (year, past))
    (months : monthOfDay 1 (monthLengths year) past = (month, day)) : Civil.ofDayNumber number = ⟨year, month, day⟩ := by
  simp only [Civil.ofDayNumber, years, months]

/-- The date of a day, by the months and the days of the month before it. -/
theorem ofDayNumber_place (number : Nat) : ∃ year place day length,
    (yearOfDay number).1 = year ∧ Civil.ofDayNumber number = ⟨year, 1 + place, day + 1⟩ ∧
      number = daysBeforeYear year + (daysOf ((monthLengths year).take place) + day) ∧
      (monthLengths year)[place]? = some length ∧ day < length := by
  have counts := yearOfDay_counts number
  have inside := yearOfDay_past number
  cases years : yearOfDay number with
  | mk year past =>
    rw [years] at counts inside
    rw [← daysOf_monthLengths] at inside
    obtain ⟨place, day, months, counted, length, known, short⟩ := monthOfDay_place 1 inside
    exact ⟨year, place, day, length, rfl, ofDayNumber_eq years months, by rw [counted, counts], known, short⟩

theorem ofDayNumber_dayNumber (number : Nat) : (Civil.ofDayNumber number).dayNumber = number := by
  obtain ⟨year, place, day, _, _, same, counted, _⟩ := ofDayNumber_place number
  have before : daysBeforeMonth year (1 + place) = daysOf ((monthLengths year).take place) := by
    rw [daysBeforeMonth, Nat.add_sub_cancel_left, daysOf]
  simp only [same, Civil.dayNumber, before, Nat.add_sub_cancel]
  omega

theorem ofDayNumber_onCalendar {number : Nat} (inside : number < dayCount) : (Civil.ofDayNumber number).OnCalendar := by
  obtain ⟨year, place, day, length, isYear, same, _, known, short⟩ := ofDayNumber_place number
  have months : place < 12 := by
    have inList := (List.getElem?_eq_some_iff.mp known).1
    rwa [monthLengths_length] at inList
  have lengthOf : monthLength year (1 + place) = length := by
    rw [monthLength, Nat.add_sub_cancel_left, List.getD_eq_getElem?_getD, known, Option.getD_some]
  have years := yearOfDay_bounds inside
  rw [isYear] at years
  rw [same]
  exact ⟨years.1, years.2, Nat.le_add_right 1 place, (by omega : 1 + place ≤ 12), Nat.le_add_left 1 day, lengthOf ▸ short⟩

theorem Civil.OnCalendar.toDate {civil : Civil} (sound : civil.OnCalendar) (inside : civil.dayNumber < dayCount) :
    civil.toDate = .ok ⟨civil.dayNumber, inside⟩ := by
  obtain ⟨year_pos, year_le, month_pos, month_le, day_pos, day_le⟩ := sound
  simp only [Civil.toDate, Nat.not_lt.mpr year_pos, Nat.not_lt.mpr year_le, Nat.not_lt.mpr month_pos,
    Nat.not_lt.mpr month_le, Nat.not_lt.mpr day_pos, Nat.not_lt.mpr day_le, Date.ofNumber?, inside]
  simp

theorem toDate_ofDayNumber {number : Nat} (inside : number < dayCount) :
    (Civil.ofDayNumber number).toDate = .ok ⟨number, inside⟩ := by
  have counted := ofDayNumber_dayNumber number
  have same := (ofDayNumber_onCalendar inside).toDate (counted.symm ▸ inside)
  simpa only [counted] using same

theorem Civil.OnCalendar.day_lt {civil : Civil} (sound : civil.OnCalendar) : civil.day < 100 := by
  have each : ∀ length ∈ monthLengths civil.year, length ≤ 31 := by
    unfold monthLengths
    cases isLeap civil.year <;> decide
  have most : monthLength civil.year civil.month ≤ 31 := by
    rw [monthLength, List.getD_eq_getElem?_getD]
    cases known : (monthLengths civil.year)[civil.month - 1]? with
    | none => exact Nat.zero_le 31
    | some length => exact each length (List.mem_of_getElem? known)
  have := sound.day_le
  omega

theorem daysOf_take_le {lengths : List Nat} {place length : Nat} (known : lengths[place]? = some length) :
    daysOf (lengths.take place) + length ≤ daysOf lengths := by
  induction lengths generalizing place with
  | nil => cases known
  | cons first rest ih =>
    cases place with
    | zero =>
      cases known
      rw [List.take_zero, daysOf_cons, daysOf, List.foldl_nil]
      omega
    | succ place =>
      have step := ih known
      rw [List.take_succ_cons, daysOf_cons, daysOf_cons]
      omega

theorem yearLength_le (year : Nat) : yearLength year ≤ 366 := by
  unfold yearLength
  split <;> omega

/-- No year of the calendar ends after its last day. -/
theorem daysBeforeYear_le {year : Nat} (inside : year ≤ maxYear) : daysBeforeYear year + yearLength year ≤ dayCount := by
  rcases Nat.eq_or_lt_of_le inside with rfl | less
  · decide
  · have length := yearLength_le year
    simp only [daysBeforeYear, maxYear, dayCount] at *
    omega

theorem Civil.OnCalendar.dayNumber_lt {civil : Civil} (sound : civil.OnCalendar) : civil.dayNumber < dayCount := by
  have months : civil.month - 1 < (monthLengths civil.year).length := by
    have := sound.month_le
    rw [monthLengths_length]
    omega
  have known := List.getElem?_eq_getElem months
  have day := sound.day_le
  have year := daysBeforeYear_le sound.year_le
  have inYear := daysOf_take_le known
  rw [daysOf_monthLengths] at inYear
  rw [monthLength, List.getD_eq_getElem?_getD, known, Option.getD_some] at day
  have first := sound.day_pos
  have before : daysBeforeMonth civil.year civil.month = daysOf ((monthLengths civil.year).take (civil.month - 1)) := rfl
  rw [Civil.dayNumber, before]
  omega

end FleetLink.Time
