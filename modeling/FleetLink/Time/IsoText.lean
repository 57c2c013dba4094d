import FleetLink.Number.Power
import FleetLink.Text.Quoted
import FleetLink.Time.Moment

/-! Moments as ISO 8601 text. Writing uses the extended form. Reading takes calendar
dates and week dates, with or without marks between the parts, any single character
between date and clock, and fractions of any length, of which six digits count. -/

namespace FleetLink.Time

open Number Text

def paddedChars (width n : Nat) : List Char :=
  let digits := Nat.toDigits 10 n
  List.replicate (width - digits.length) '0' ++ digits

def Civil.isoChars (civil : Civil) : List Char :=
  paddedChars 4 civil.year ++ '-' :: paddedChars 2 civil.month ++ '-' :: paddedChars 2 civil.day

def Date.isoText (date : Date) : String := String.ofList date.civil.isoChars

/-- Hours, minutes and seconds of a span below one day. -/
def clockChars (seconds : Nat) : List Char :=
  paddedChars 2 (seconds / 3600) ++ ':' :: paddedChars 2 (seconds / 60 % 60) ++
    ':' :: paddedChars 2 (seconds % 60)

def fractionChars (micro : Nat) : List Char :=
  if micro = 0 then [] else '.' :: paddedChars 6 micro

/-- Seconds of an offset are written only when there are any, and so are microseconds. -/
def offsetChars (shift : Int) : List Char :=
  let size := shift.natAbs
  let seconds := size / secondMicros
  let clock := clockChars seconds
  let shown := if size % (60 * secondMicros) = 0 then clock.take 5 else clock
  (if shift < 0 then '-' else '+') :: shown ++ fractionChars (size % secondMicros)

def Moment.isoChars (separator : Char) (moment : Moment) : List Char :=
  moment.civil.isoChars ++ separator :: clockChars moment.secondOfDay ++ fractionChars moment.micro ++
    moment.offset.elim [] offsetChars

def Moment.isoText (separator : Char) (moment : Moment) : String :=
  String.ofList (moment.isoChars separator)

inductive IsoError where
  | malformed
  | civil (error : CivilError)
  | clock (error : ClockError)
  | offset (shift : Int)
deriving DecidableEq, Repr

/-- A span as whole days downwards, then seconds and microseconds of the last day. -/
def spanText (micros : Int) : String :=
  let days := micros.fdiv dayMicros
  let rest := (micros.fmod dayMicros).toNat
  let part (name : String) (value : Int) : List String :=
    if value = 0 then [] else [name ++ "=" ++ toString value]
  let parts := part "days" days ++ part "seconds" (rest / secondMicros : Nat) ++
    part "microseconds" (rest % secondMicros : Nat)
  "datetime.timedelta(" ++ (if parts.isEmpty then "0" else ", ".intercalate parts) ++ ")"

def IsoError.message (text : String) : IsoError → String
  | .malformed => "Invalid isoformat string: " ++ quoted text
  | .civil error => error.message
  | .clock error => error.message
  | .offset shift =>
      "offset must be a timedelta strictly between -timedelta(hours=24) and timedelta(hours=24), not " ++
        spanText shift ++ "."

/-- Reads exactly this many digits. -/
def digits? : Nat → List Char → Option (Nat × List Char)
  | count, chars =>
      let digits := chars.take count
      if digits.length = count && digits.all Char.isDigit then
        some (digits.foldl (fun total digit => 10 * total + (digit.toNat - 48)) 0, chars.drop count)
      else none

/-- The place at which the date ends. Without marks the number of digits after a week
tells whether a day follows it; with marks two digits after the week are an hour. -/
def dateEnd? (chars : List Char) : Option Nat :=
  let size := chars.length
  let isAt (place : Nat) (c : Char) : Bool := chars[place]? == some c
  let digitAt (place : Nat) : Bool := (chars[place]?.map Char.isDigit).getD false
  if size < 7 then none
  else if size = 7 then some 7
  else if isAt 4 '-' then
    if isAt 5 'W' then
      if isAt 8 '-' then
        if size = 9 then none else if digitAt 10 then some 8 else some 10
      else some 8
    else some 10
  else if isAt 4 'W' then
    let stop := 7 + ((chars.drop 7).takeWhile Char.isDigit).length
    if stop < 9 then some stop else if stop % 2 = 0 then some 7 else some 8
  else some 8

inductive IsoDate where
  | civil (civil : Civil)
  | week (year week day : Nat)
deriving DecidableEq, Repr

/-- Takes the mark between two parts when the date is written with marks. -/
def mark? (marked : Bool) (chars : List Char) : Option (List Char) :=
  match marked, chars with
  | false, _ => some chars
  | true, '-' :: rest => some rest
  | true, _ => none

def isoDate? (chars : List Char) : Option IsoDate := do
  let (year, rest) ← digits? 4 chars
  let marked := rest.head? == some '-'
  let rest ← mark? marked rest
  match rest with
  | 'W' :: rest =>
      let (week, rest) ← digits? 2 rest
      if rest.isEmpty then return .week year week 1
      let rest ← mark? marked rest
      let (day, rest) ← digits? 1 rest
      if rest.isEmpty then return .week year week day else none
  | rest =>
      let (month, rest) ← digits? 2 rest
      let rest ← mark? marked rest
      let (day, rest) ← digits? 2 rest
      if rest.isEmpty then return .civil ⟨year, month, day⟩ else none

/-- An impossible week is no date at all; a week outside the calendar is an error of
the year, or of the month before year 1. -/
def IsoDate.toDate : IsoDate → Except IsoError Date
  | .civil parts => parts.toDate.mapError .civil
  | .week year number day =>
      match isoWeekDay? year number day with
      | none => .error .malformed
      | some number =>
          if year = 0 then .error (.civil .month)
          else match Date.ofNumber? number with
            | some date => .ok date
            | none => .error (.civil (.year (Civil.ofDayNumber number).year))

/-- Whether text that is not part of the reading is left. Nothing after a zero
character is looked at. -/
def leavesText (chars : List Char) : Bool :=
  match chars with
  | [] => false
  | c :: _ => c.toNat != 0

/-- Microseconds from the digits of a fraction. The first six are read, further ones
skipped; what follows them is left. -/
def fraction? (chars : List Char) : Option (Nat × Bool) := do
  let count := min 6 chars.length
  let (value, rest) ← digits? count chars
  return (value * tenTo (6 - count), leavesText (rest.dropWhile Char.isDigit))

/-- Reads the remaining fields of a clock, each of two digits. The character after the
first field settles whether colons stand between them. After the last field the digits
of a fraction may follow at once, or after a colon. One more ASCII character may be
left after a field. -/
def clockFields? : Nat → Option Bool → List Char → Option (List Nat × Nat × Bool)
  | 0, _, chars => (fraction? chars).map fun (micro, left) => ([], micro, left)
  | more + 1, colons, chars => do
      let (value, rest) ← digits? 2 chars
      match rest with
      | [] => return ([value], 0, false)
      | [c] => if c.toNat < 128 then return ([value], 0, leavesText [c]) else none
      | c :: rest =>
          let colons := colons.getD (c == ':')
          if colons && c == ':' then
            let (fields, micro, left) ← clockFields? more (some colons) rest
            return (value :: fields, micro, left)
          else if c == '.' || c == ',' then
            let (micro, left) ← fraction? rest
            return ([value], micro, left)
          else if colons then none
          else
            let (fields, micro, left) ← clockFields? more (some colons) (c :: rest)
            return (value :: fields, micro, left)

/-- A clock reading, and whether text was left after it. -/
def isoClock? (chars : List Char) : Option (Clock × Bool) := do
  let (fields, micro, left) ← clockFields? 3 none chars
  return (⟨fields.getD 0 0, fields.getD 1 0, fields.getD 2 0, micro⟩, left)

def isZoneMark (c : Char) : Bool := c == '+' || c == '-' || c == 'Z'

/-- An offset in microseconds. One of less than a second is none. -/
def isoOffset? : List Char → Option Int
  | 'Z' :: rest => if leavesText rest then none else some 0
  | sign :: rest => do
      let (clock, left) ← isoClock? rest
      if left then none
      else
        let size := if clock.micros < secondMicros then 0 else clock.micros
        return if sign == '-' then -size else size
  | [] => none

/-- A clock reading with its offset, if one is given. Text left between the two is
passed over. -/
def isoTime? (chars : List Char) : Option (Clock × Option Int) := do
  let (reading, zone) := chars.span fun c => !isZoneMark c
  let (clock, left) ← isoClock? reading
  if zone.isEmpty then
    if left then none else return (clock, none)
  else
    let shift ← isoOffset? zone
    return (clock, some shift)

def assembled (date : Date) (micros : Nat) (offset : Option Int) : Except IsoError Moment :=
  match Moment.ofWall? (date.number * dayMicros + micros : Nat) offset with
  | some moment => .ok moment
  | none => .error .malformed

def readParts (date : IsoDate) (time : Option (Clock × Option Int)) : Except IsoError Moment := do
  if let .week year week day := date then
    if (isoWeekDay? year week day).isNone then throw .malformed
  let (clock, offset) := time.getD (⟨0, 0, 0, 0⟩, none)
  if let some shift := offset then
    if !validOffset shift then throw (.offset shift)
  let date ← date.toDate
  let micros ← clock.check.mapError .clock
  assembled date micros offset

def readIsoChars (chars : List Char) : Except IsoError Moment :=
  match dateEnd? chars with
  | none => .error .malformed
  | some stop =>
      match isoDate? (chars.take stop) with
      | none => .error .malformed
      | some date =>
          if chars.length ≤ stop then readParts date none
          else match isoTime? (chars.drop (stop + 1)) with
            | none => .error .malformed
            | some time => readParts date (some time)

def readIso (text : String) : Except IsoError Moment := readIsoChars text.toList

end FleetLink.Time
