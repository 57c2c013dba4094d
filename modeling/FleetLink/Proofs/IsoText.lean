import FleetLink.Proofs.Calendar
import FleetLink.Proofs.CharRuns
import FleetLink.Proofs.Digits
import FleetLink.Proofs.Moment

/-! Moments written as ISO 8601 text and read back. Date, clock, fraction and offset are
fields of fixed width, so each of them is read off whole before the next one begins. -/

namespace FleetLink.Time
open Number Text

theorem paddedChars_ne_nil (width n : Nat) : paddedChars width n ≠ [] := by
  simp [paddedChars, Nat.toDigits_ne_nil]

theorem paddedChars_head (width n : Nat) (rest : List Char) :
    ∃ c, (paddedChars width n ++ rest).head? = some c ∧ c.isDigit = true := by
  obtain ⟨c, others, shape⟩ := List.exists_cons_of_ne_nil (paddedChars_ne_nil width n)
  exact ⟨c, by rw [shape]; rfl, isDigit_of_mem_paddedChars (shape ▸ List.mem_cons_self)⟩

theorem isDigit_of_paddedChars_head {width n : Nat} {rest : List Char} {c : Char}
    (leads : (paddedChars width n ++ rest).head? = some c) : c.isDigit = true := by
  obtain ⟨first, found, digit⟩ := paddedChars_head width n rest
  rw [found] at leads
  cases leads
  exact digit

namespace Civil.OnCalendar
variable {civil : Civil}

theorem year_small (sound : civil.OnCalendar) : civil.year < 10000 := Nat.lt_succ_of_le sound.year_le

theorem month_small (sound : civil.OnCalendar) : civil.month < 100 := Nat.lt_of_le_of_lt sound.month_le (by decide)

theorem isoChars_length (sound : civil.OnCalendar) : civil.isoChars.length = 10 := by
  have year := paddedChars_length 4 (by decide) sound.year_small
  have month := paddedChars_length 2 (by decide) sound.month_small
  have day := paddedChars_length 2 (by decide) sound.day_lt
  simp [isoChars, year, month, day]

theorem isoDate?_isoChars (sound : civil.OnCalendar) : isoDate? civil.isoChars = some (.civil civil) := by
  have year := digits?_paddedChars 4 (by decide) sound.year_small
  have month := digits?_paddedChars 2 (by decide) sound.month_small
  have day := digits?_paddedChars 2 (by decide) sound.day_lt []
  rw [List.append_nil] at day
  simp only [isoDate?, isoChars, List.append_assoc, List.cons_append, year, Option.bind_eq_bind, Option.bind_some,
    List.head?_cons, beq_self_eq_true, mark?]
  split
  next rest week =>
    have digit : 'W'.isDigit = true := isDigit_of_paddedChars_head (congrArg List.head? week)
    cases digit
  next => simp [month, day]

/-- The mark after the year and the digit after the mark tell that the date has ten characters. -/
theorem dateEnd?_isoChars (sound : civil.OnCalendar) (rest : List Char) :
    dateEnd? (civil.isoChars ++ rest) = some 10 := by
  have year := paddedChars_length 4 (by decide) sound.year_small
  have long : 10 ≤ (civil.isoChars ++ rest).length := by
    rw [List.length_append, sound.isoChars_length]
    exact Nat.le_add_right 10 rest.length
  have shape : civil.isoChars ++ rest = paddedChars 4 civil.year ++
      '-' :: (paddedChars 2 civil.month ++ ('-' :: paddedChars 2 civil.day ++ rest)) := by
    simp [isoChars]
  have mark : (civil.isoChars ++ rest)[4]? = some '-' := by
    rw [shape, List.getElem?_append_right (Nat.le_of_eq year), year]
    rfl
  have month : (civil.isoChars ++ rest)[5]? ≠ some 'W' := by
    intro week
    rw [shape, List.getElem?_append_right (by omega), year] at week
    have digit : 'W'.isDigit = true := isDigit_of_paddedChars_head (List.head?_eq_getElem?.trans week)
    cases digit
  simp only [dateEnd?, if_neg (show ¬(civil.isoChars ++ rest).length < 7 by omega),
    if_neg (show ¬(civil.isoChars ++ rest).length = 7 by omega), mark, beq_self_eq_true, if_true]
  rw [if_neg (by simpa using month)]

end Civil.OnCalendar

theorem fraction?_paddedChars {micro : Nat} (small : micro < secondMicros) :
    fraction? (paddedChars 6 micro) = some (micro, false) := by
  have long := paddedChars_length 6 (by decide) small
  have read := digits?_paddedChars 6 (by decide) small []
  rw [List.append_nil] at read
  simp [fraction?, long, read, leavesText, tenTo]

section
variable {n more : Nat} {colons : Option Bool} {rest : List Char}

theorem clockFields?_last (small : n < 100) :
    clockFields? (more + 1) colons (paddedChars 2 n) = some ([n], 0, false) := by
  have read := digits?_paddedChars 2 (by decide) small []
  rw [List.append_nil] at read
  simp [clockFields?, read]

theorem clockFields?_colon (small : n < 100) (marked : colons.getD true = true) (follows : rest ≠ []) :
    clockFields? (more + 1) colons (paddedChars 2 n ++ ':' :: rest) =
      (clockFields? more (some true) rest).map fun (fields, micro, left) => (n :: fields, micro, left) := by
  have read := digits?_paddedChars 2 (by decide) small (':' :: rest)
  obtain ⟨c, others, rfl⟩ := List.exists_cons_of_ne_nil follows
  simp only [clockFields?, read, Option.bind_eq_bind, Option.bind_some, beq_self_eq_true, marked, Bool.and_true, if_true]
  cases clockFields? more (some true) (c :: others) <;> rfl

theorem clockFields?_point (small : n < 100) (follows : rest ≠ []) :
    clockFields? (more + 1) colons (paddedChars 2 n ++ '.' :: rest) =
      (fraction? rest).map fun (micro, left) => ([n], micro, left) := by
  have read := digits?_paddedChars 2 (by decide) small ('.' :: rest)
  have point : ('.' == ':') = false := rfl
  obtain ⟨c, others, rfl⟩ := List.exists_cons_of_ne_nil follows
  simp only [clockFields?, read, Option.bind_eq_bind, Option.bind_some, point, Bool.and_false, beq_self_eq_true,
    Bool.true_or, if_true, Bool.false_eq_true, if_false]
  cases fraction? (c :: others) <;> rfl

end

theorem fractionChars_zero : fractionChars 0 = [] := rfl

theorem isoClock?_clockChars {seconds micro : Nat} (inDay : seconds < 86400) (small : micro < secondMicros) :
    isoClock? (clockChars seconds ++ fractionChars micro) =
      some (⟨seconds / 3600, seconds / 60 % 60, seconds % 60, micro⟩, false) := by
  have last : clockFields? 1 (some true) (paddedChars 2 (seconds % 60) ++ fractionChars micro) =
      some ([seconds % 60], micro, false) := by
    unfold fractionChars
    split
    next none =>
      rw [List.append_nil, clockFields?_last (by omega), none]
    next =>
      rw [clockFields?_point (by omega) (paddedChars_ne_nil 6 micro), fraction?_paddedChars small]
      rfl
  have shape : clockChars seconds ++ fractionChars micro = paddedChars 2 (seconds / 3600) ++
      ':' :: (paddedChars 2 (seconds / 60 % 60) ++ ':' :: (paddedChars 2 (seconds % 60) ++ fractionChars micro)) := by
    simp [clockChars]
  rw [isoClock?, shape, clockFields?_colon (by omega) rfl (by simp),
    clockFields?_colon (by omega) rfl (by simp [paddedChars_ne_nil]), last]
  rfl

theorem clockChars_take {seconds : Nat} (inDay : seconds < 86400) :
    (clockChars seconds).take 5 = paddedChars 2 (seconds / 3600) ++ ':' :: paddedChars 2 (seconds / 60 % 60) := by
  apply List.take_left'
  have hour : (paddedChars 2 (seconds / 3600)).length = 2 :=
    paddedChars_length 2 (by decide) (show _ < 100 by omega)
  have minute : (paddedChars 2 (seconds / 60 % 60)).length = 2 :=
    paddedChars_length 2 (by decide) (show _ < 100 by omega)
  simp [hour, minute]

theorem isoClock?_minutes {seconds : Nat} (inDay : seconds < 86400) :
    isoClock? ((clockChars seconds).take 5) = some (⟨seconds / 3600, seconds / 60 % 60, 0, 0⟩, false) := by
  rw [clockChars_take inDay, isoClock?, clockFields?_colon (by omega) rfl (paddedChars_ne_nil 2 _),
    clockFields?_last (by omega)]
  rfl

/-- Seconds are written only when there are any, and a clock without them is the same span. -/
theorem isoClock?_span {size : Nat} (inDay : size < dayMicros) (whole : size % secondMicros = 0) : ∃ clock,
    isoClock? (if size % (60 * secondMicros) = 0 then (clockChars (size / secondMicros)).take 5
      else clockChars (size / secondMicros)) = some (clock, false) ∧ clock.micros = size := by
  have seconds : size / secondMicros < 86400 := Nat.div_lt_of_lt_mul inDay
  split
  next minutes =>
    refine ⟨_, isoClock?_minutes seconds, ?_⟩
    simp only [Clock.micros, secondMicros] at *
    omega
  next =>
    have read := isoClock?_clockChars seconds (show 0 < secondMicros by decide)
    rw [fractionChars_zero, List.append_nil] at read
    refine ⟨_, read, ?_⟩
    simp only [Clock.micros, secondMicros] at *
    omega

theorem isoOffset?_sign {sign : Char} {rest : List Char} {clock : Clock} (apart : sign ≠ 'Z')
    (read : isoClock? rest = some (clock, false)) (far : ¬(0 < clock.micros ∧ clock.micros < secondMicros)) :
    isoOffset? (sign :: rest) = some (if sign == '-' then -(clock.micros : Int) else clock.micros) := by
  have counted : (if clock.micros < secondMicros then 0 else clock.micros) = clock.micros := by
    split <;> omega
  unfold isoOffset?
  split
  next same => exact absurd (List.cons.inj same).1 apart
  next same =>
    cases same
    simp only [read, Option.bind_eq_bind, Option.bind_some, Bool.false_eq_true, if_false, counted, Option.pure_def]
  next same => cases same

theorem isoOffset?_offsetChars {shift : Int} (valid : validOffset shift = true) (whole : (secondMicros : Int) ∣ shift) :
    isoOffset? (offsetChars shift) = some shift := by
  have inDay : shift.natAbs < dayMicros := by
    simp only [validOffset, Bool.and_eq_true, decide_eq_true_eq] at valid
    omega
  have exact : shift.natAbs % secondMicros = 0 := by
    simp only [secondMicros] at *
    omega
  obtain ⟨clock, read, size⟩ := isoClock?_span inDay exact
  have far : ¬(0 < clock.micros ∧ clock.micros < secondMicros) := by
    rw [size]
    simp only [secondMicros] at *
    omega
  simp only [offsetChars, exact, fractionChars_zero, List.append_nil]
  rw [isoOffset?_sign (by split <;> decide) read far, size]
  by_cases negative : shift < 0
  · have back : -(shift.natAbs : Int) = shift := by omega
    simp only [negative, if_true, beq_self_eq_true, back]
  · have back : (shift.natAbs : Int) = shift := by omega
    simp only [negative, if_false, back]
    rfl

theorem not_isZoneMark_of_isDigit {c : Char} (digit : c.isDigit = true) : isZoneMark c = false := by
  have plus : c ≠ '+' := ne_of_isDigit digit rfl
  have minus : c ≠ '-' := ne_of_isDigit digit rfl
  have zulu : c ≠ 'Z' := ne_of_isDigit digit rfl
  simp [isZoneMark, plus, minus, zulu]

theorem not_isZoneMark_of_mem_clock {seconds micro : Nat} {c : Char}
    (member : c ∈ clockChars seconds ++ fractionChars micro) : isZoneMark c = false := by
  have digit {width n : Nat} (inside : c ∈ paddedChars width n) : isZoneMark c = false :=
    not_isZoneMark_of_isDigit (isDigit_of_mem_paddedChars inside)
  simp only [clockChars, List.mem_append, List.mem_cons] at member
  rcases member with ((hour | rfl | minute) | rfl | second) | fraction
  · exact digit hour
  · rfl
  · exact digit minute
  · rfl
  · exact digit second
  · unfold fractionChars at fraction
    split at fraction
    · cases fraction
    · rcases List.mem_cons.mp fraction with rfl | inside
      · rfl
      · exact digit inside

theorem offsetChars_zone (shift : Int) : ∃ sign rest, offsetChars shift = sign :: rest ∧ isZoneMark sign = true := by
  refine ⟨_, _, rfl, ?_⟩
  split <;> rfl

theorem assembled_eq_ok {date : Date} {micros : Nat} {offset : Option Int} {moment : Moment}
    (made : Moment.ofWall? (date.number * dayMicros + micros : Nat) offset = some moment) :
    assembled date micros offset = .ok moment := by
  -- Unfolded without its arguments: with them, the kernel would compute with the bounds of the calendar.
  obtain ⟨build, same⟩ : ∃ build, build = assembled := ⟨_, rfl⟩
  rw [← same]
  delta assembled at same
  rw [same]
  simp only [made]

theorem readParts_eq_ok {civil : Civil} {date : Date} {clock : Clock} {micros : Nat} {offset : Option Int}
    {moment : Moment} (isDate : civil.toDate = .ok date) (isClock : clock.check = .ok micros) (valid : offset.all validOffset = true)
    (built : assembled date micros offset = .ok moment) :
    readParts (.civil civil) (some (clock, offset)) = .ok moment := by
  have dated : (IsoDate.civil civil).toDate = .ok date := by
    unfold IsoDate.toDate
    simp only [isDate]
    rfl
  have clocked : clock.check.mapError IsoError.clock = .ok micros := by
    rw [isClock]
    rfl
  unfold readParts
  cases offset with
  | none => simp only [Option.getD_some, dated, clocked, bind, Except.bind, built]
  | some shift =>
    have sound : (!validOffset shift) = false := by simpa using valid
    simp only [Option.getD_some, dated, clocked, sound, bind, Except.bind, built, Bool.false_eq_true, if_false]

theorem readIsoChars_eq {chars : List Char} {stop : Nat} {date : IsoDate} {time : Clock × Option Int}
    (ends : dateEnd? chars = some stop) (isDate : isoDate? (chars.take stop) = some date) (more : stop < chars.length)
    (isTime : isoTime? (chars.drop (stop + 1)) = some time) : readIsoChars chars = readParts date (some time) := by
  simp only [readIsoChars, ends, isDate, if_neg (Nat.not_le.mpr more), isTime]

def EndsInDigit (chars : List Char) : Prop := ∃ c, chars.getLast? = some c ∧ c.isDigit = true

theorem EndsInDigit.append {after : List Char} (ends : EndsInDigit after) (before : List Char) :
    EndsInDigit (before ++ after) := by
  obtain ⟨c, found, digit⟩ := ends
  exact ⟨c, by rw [List.getLast?_append, found]; rfl, digit⟩

theorem paddedChars_endsInDigit (width n : Nat) : EndsInDigit (paddedChars width n) :=
  ⟨_, List.getLast?_eq_some_getLast (paddedChars_ne_nil width n),
    isDigit_of_mem_paddedChars (List.getLast_mem (paddedChars_ne_nil width n))⟩

theorem fractionChars_endsInDigit {before : List Char} (ends : EndsInDigit before) (micro : Nat) :
    EndsInDigit (before ++ fractionChars micro) := by
  unfold fractionChars
  split
  · rwa [List.append_nil]
  · exact ((paddedChars_endsInDigit 6 micro).append ['.']).append before

theorem clockChars_endsInDigit (seconds : Nat) : EndsInDigit (clockChars seconds) :=
  ((paddedChars_endsInDigit 2 (seconds % 60)).append [':']).append _

theorem offsetChars_endsInDigit {shift : Int} (valid : validOffset shift = true) : EndsInDigit (offsetChars shift) := by
  have inDay : shift.natAbs / secondMicros < 86400 := by
    simp only [validOffset, Bool.and_eq_true, decide_eq_true_eq] at valid
    exact Nat.div_lt_of_lt_mul (show shift.natAbs < dayMicros by omega)
  have shown : EndsInDigit (if shift.natAbs % (60 * secondMicros) = 0 then
      (clockChars (shift.natAbs / secondMicros)).take 5 else clockChars (shift.natAbs / secondMicros)) := by
    split
    · rw [clockChars_take inDay]
      exact ((paddedChars_endsInDigit 2 _).append [':']).append _
    · exact clockChars_endsInDigit _
  exact fractionChars_endsInDigit (shown.append [if shift < 0 then '-' else '+']) _

namespace Moment

/-- The offset is known to the second. -/
def WholeOffset (moment : Moment) : Prop := ∀ shift ∈ moment.offset, (secondMicros : Int) ∣ shift

theorem isoTime?_isoChars {moment : Moment} (whole : moment.WholeOffset) :
    isoTime? (clockChars moment.secondOfDay ++ fractionChars moment.micro ++ moment.offset.elim [] offsetChars) =
      some (moment.clock, moment.offset) := by
  have reading : ∀ c ∈ clockChars moment.secondOfDay ++ fractionChars moment.micro, (!isZoneMark c) = true := by
    intro c member
    rw [not_isZoneMark_of_mem_clock member]
    rfl
  have read := isoClock?_clockChars moment.secondOfDay_lt moment.micro_lt
  cases zone : moment.offset with
  | none =>
    have split := span_all reading
    simp only [Option.elim_none, List.append_nil, isoTime?, split, read, Option.bind_eq_bind, Option.bind_some,
      List.isEmpty_nil, if_true, Bool.false_eq_true, if_false]
    rfl
  | some shift =>
    have valid : validOffset shift = true := by simpa [zone] using moment.offset_valid
    obtain ⟨sign, rest, shape, mark⟩ := offsetChars_zone shift
    have split := span_run reading (show ∀ c ∈ (offsetChars shift).head?, (!isZoneMark c) = false by simp [shape, mark])
    have offset := isoOffset?_offsetChars valid (whole shift zone)
    have present : (offsetChars shift).isEmpty = false := by rw [shape]; rfl
    simp only [Option.elim_some, isoTime?, split, read, Option.bind_eq_bind, Option.bind_some, present, Bool.false_eq_true,
      if_false, offset]
    rfl

/-- Every moment is read from its own text, whatever character stands between date and clock. -/
theorem readIsoChars_isoChars {moment : Moment} (whole : moment.WholeOffset) (separator : Char) :
    readIsoChars (moment.isoChars separator) = .ok moment := by
  have sound : moment.civil.OnCalendar := ofDayNumber_onCalendar moment.dayNumber_lt
  have shape : moment.isoChars separator = moment.civil.isoChars ++
      separator :: (clockChars moment.secondOfDay ++ fractionChars moment.micro ++ moment.offset.elim [] offsetChars) := by
    simp [isoChars]
  have long := sound.isoChars_length
  have ends : dateEnd? (moment.isoChars separator) = some 10 := shape ▸ sound.dateEnd?_isoChars _
  have date : (moment.isoChars separator).take 10 = moment.civil.isoChars := shape ▸ List.take_left' long
  have time : (moment.isoChars separator).drop (10 + 1) =
      clockChars moment.secondOfDay ++ fractionChars moment.micro ++ moment.offset.elim [] offsetChars := by
    rw [shape, ← long, List.drop_append]
    simp
  have more : 10 < (moment.isoChars separator).length := by
    rw [shape, List.length_append, long, List.length_cons]
    omega
  rw [readIsoChars_eq ends (date ▸ sound.isoDate?_isoChars) more (time ▸ isoTime?_isoChars whole)]
  have made : ofWall? (moment.dayNumber * dayMicros + moment.clock.micros : Nat) moment.offset = some moment :=
    ofWall?_eq_some_iff.mpr ⟨by rw [moment.wall_eq], rfl⟩
  exact readParts_eq_ok (toDate_ofDayNumber moment.dayNumber_lt) moment.clock_check moment.offset_valid
    (assembled_eq_ok made)

theorem isoChars_bounded (moment : Moment) (separator : Char) : Bounded isBlank (moment.isoChars separator) := by
  constructor
  · have shape : ∃ rest, moment.isoChars separator = paddedChars 4 moment.civil.year ++ rest := by
      simp [isoChars, Civil.isoChars]
    obtain ⟨rest, shape⟩ := shape
    obtain ⟨c, leads, digit⟩ := paddedChars_head 4 moment.civil.year rest
    exact ⟨c, shape ▸ leads, not_isBlank_of_isDigit digit⟩
  · have ends : EndsInDigit (moment.isoChars separator) := by
      unfold isoChars
      cases zone : moment.offset with
      | none =>
        rw [Option.elim_none, List.append_nil]
        apply fractionChars_endsInDigit
        exact ((clockChars_endsInDigit _).append [separator]).append _
      | some shift =>
        have valid : validOffset shift = true := by simpa [zone] using moment.offset_valid
        exact (offsetChars_endsInDigit valid).append _
    obtain ⟨c, found, digit⟩ := ends
    exact ⟨c, found, not_isBlank_of_isDigit digit⟩

theorem readIso_padded {moment : Moment} (whole : moment.WholeOffset) {separator : Char} {text : String}
    (padded : Padded (moment.isoChars separator) text) : readIso (strip text) = .ok moment := by
  rw [strip_padded (moment.isoChars_bounded separator) padded, readIso, String.toList_ofList,
    readIsoChars_isoChars whole separator]

end Moment

end FleetLink.Time
