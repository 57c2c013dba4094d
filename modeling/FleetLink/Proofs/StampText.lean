import FleetLink.Check.Scalar
import FleetLink.Proofs.IsoText
import FleetLink.Proofs.RecordText

/-! Moments written as the text of records and read back. A moment without an offset is
read from its text as it was, to the microsecond. -/

namespace FleetLink.Time
open Number Text

theorem stampDate?_isoChars (moment : Moment) (rest : List Char) :
    stampDate? (moment.civil.isoChars ++ rest) = some (⟨moment.dayNumber, moment.dayNumber_lt⟩, rest) := by
  have sound : moment.civil.OnCalendar := ofDayNumber_onCalendar moment.dayNumber_lt
  have date : moment.civil.toDate = .ok ⟨moment.dayNumber, moment.dayNumber_lt⟩ := toDate_ofDayNumber moment.dayNumber_lt
  have year := digits?_paddedChars 4 (by decide) sound.year_small
  have month := digits?_paddedChars 2 (by decide) sound.month_small
  have day := digits?_paddedChars 2 (by decide) sound.day_lt rest
  simp only [stampDate?, Civil.isoChars, List.append_assoc, List.cons_append, year, month, day, markedTwo?,
    Option.bind_eq_bind, Option.bind_some, if_true, date]
  rfl

theorem stampFraction?_fractionChars {micro : Nat} (small : micro < secondMicros) :
    stampFraction? (fractionChars micro) = some (micro, []) := by
  unfold fractionChars
  split
  next none =>
    rw [none]
    rfl
  next some =>
    have long := paddedChars_length 6 (by decide) small
    have whole : (paddedChars 6 micro).span Char.isDigit = (paddedChars 6 micro, []) :=
      span_all fun _ => isDigit_of_mem_paddedChars
    have kept : (paddedChars 6 micro).take 6 = paddedChars 6 micro := List.take_of_length_le (Nat.le_of_eq long)
    have read := digits?_paddedChars 6 (by decide) small []
    rw [List.append_nil] at read
    have point : ('.' != '.' && '.' != ',') = false := rfl
    simp only [stampFraction?, point, Bool.false_eq_true, if_false, whole, List.isEmpty_iff, paddedChars_ne_nil, kept,
      long, read, Option.map_some, Nat.sub_self, tenTo, Nat.pow_eq, Nat.pow_zero, Nat.mul_one]

theorem stampClock?_clockChars (moment : Moment) :
    stampClock? (clockChars moment.secondOfDay ++ fractionChars moment.micro) = some (moment.clock.micros, []) := by
  have inDay := moment.secondOfDay_lt
  have hourSmall : moment.secondOfDay / 3600 < 100 := by omega
  have minuteSmall : moment.secondOfDay / 60 % 60 < 100 := by omega
  have secondSmall : moment.secondOfDay % 60 < 100 := by omega
  have hour := digits?_paddedChars 2 (by decide) hourSmall
  have minute := digits?_paddedChars 2 (by decide) minuteSmall
  have second := digits?_paddedChars 2 (by decide) secondSmall (fractionChars moment.micro)
  have fraction := stampFraction?_fractionChars moment.micro_lt
  have checked := moment.clock_check
  simp only [Moment.clock] at checked ⊢
  simp only [stampClock?, clockChars, List.append_assoc, List.cons_append, hour, minute, second, markedTwo?, fraction,
    Option.bind_eq_bind, Option.bind_some, if_true, Option.pure_def, checked]

theorem readStampChars?_eq {chars rest zone : List Char} {date : Date} {separator : Char} {micros : Nat}
    {offset : Option Int} (dated : stampDate? chars = some (date, separator :: rest))
    (mark : isStampSeparator separator = true) (clock : stampClock? rest = some (micros, zone))
    (zoned : stampOffset? zone = some offset) :
    readStampChars? chars = Moment.ofWall? (date.number * dayMicros + micros : Nat) offset := by
  unfold readStampChars?
  simp only [dated, Option.bind_eq_bind, Option.bind_some, mark, Bool.not_true, Bool.false_eq_true, if_false]
  rw [clock, Option.bind_some, zoned, Option.bind_some]

/-- A moment without an offset is read from its own text. -/
theorem readStamp?_stampText {moment : Moment} (naive : moment.offset = none) :
    readStamp? moment.stampText = some moment := by
  have shape : moment.stampChars =
      moment.civil.isoChars ++ 'T' :: (clockChars moment.secondOfDay ++ fractionChars moment.micro) := by
    simp [Moment.stampChars, naive]
  have made : Moment.ofWall? (moment.dayNumber * dayMicros + moment.clock.micros : Nat) none = some moment :=
    ofWall?_eq_some_iff.mpr ⟨by rw [moment.wall_eq], naive⟩
  rw [Moment.stampText, readStamp?, String.toList_ofList, shape,
    readStampChars?_eq (stampDate?_isoChars moment _) rfl (stampClock?_clockChars moment) rfl]
  exact made

end FleetLink.Time

namespace FleetLink.Check
open Time

theorem moment_stampText {moment : Moment} (naive : moment.offset = none) :
    Check.moment (.text moment.stampText) = .ok moment := by
  have whole : Text.halves? moment.stampText = none := Record.halves?_of_ascii (ascii_stampChars moment)
  simp only [Check.moment, wholeTextOr, textOr, Value.text?, Option.map_some, Checked.andThen, whole, Option.isSome_none,
    Bool.false_eq_true, if_false, momentOfText, readStamp?_stampText naive]
  rfl

end FleetLink.Check
