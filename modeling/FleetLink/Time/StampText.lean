import FleetLink.Time.IsoText

/-! The text of moments in records. Writing puts `Z` for UTC and whole minutes for any
other offset. Reading takes a date, alone or with a clock of hours and minutes at least,
and an offset after the clock. -/

namespace FleetLink.Time

open Number

def stampOffsetChars (shift : Int) : List Char :=
  let minutes := shift.natAbs / (60 * secondMicros)
  if shift = 0 then ['Z']
  else (if shift < 0 then '-' else '+') :: paddedChars 2 (minutes / 60) ++
    ':' :: paddedChars 2 (minutes % 60)

def Moment.stampChars (moment : Moment) : List Char :=
  moment.civil.isoChars ++ 'T' :: clockChars moment.secondOfDay ++ fractionChars moment.micro ++
    moment.offset.elim [] stampOffsetChars

def Moment.stampText (moment : Moment) : String := String.ofList moment.stampChars

/-- A number of exactly two digits after a given mark. -/
def markedTwo? (mark : Char) : List Char → Option (Nat × List Char)
  | c :: rest => if c = mark then digits? 2 rest else none
  | [] => none

def stampDate? (chars : List Char) : Option (Date × List Char) := do
  let (year, rest) ← digits? 4 chars
  let (month, rest) ← markedTwo? '-' rest
  let (day, rest) ← markedTwo? '-' rest
  match (Civil.mk year month day).toDate with
  | .ok date => return (date, rest)
  | .error _ => none

/-- Digits of a fraction, after a point or comma, as microseconds; those after the sixth
are dropped. -/
def stampFraction? (chars : List Char) : Option (Nat × List Char) :=
  match chars with
  | mark :: rest =>
      if mark != '.' && mark != ',' then some (0, chars)
      else
        let (digits, rest) := rest.span Char.isDigit
        if digits.isEmpty then none
        else
          let kept := digits.take 6
          (digits? kept.length kept).map fun (value, _) => (value * tenTo (6 - kept.length), rest)
  | [] => some (0, [])

def stampClock? (chars : List Char) : Option (Nat × List Char) := do
  let (hour, rest) ← digits? 2 chars
  let (minute, rest) ← markedTwo? ':' rest
  let (second, micro, rest) ← match rest with
    | ':' :: rest => do
        let (second, rest) ← digits? 2 rest
        let (micro, rest) ← stampFraction? rest
        pure (second, micro, rest)
    | _ => pure (0, 0, rest)
  match (Clock.mk hour minute second micro).check with
  | .ok micros => return (micros, rest)
  | .error _ => none

/-- Besides the hyphen a minus sign of its own may stand before an offset. -/
def isStampMinus (c : Char) : Bool := c == '-' || c.toNat == 0x2212

def stampOffset? : List Char → Option (Option Int)
  | [] => some none
  | ['Z'] => some (some 0)
  | ['z'] => some (some 0)
  | sign :: rest => do
      if sign != '+' && !isStampMinus sign then none
      let (hours, rest) ← digits? 2 rest
      let (minutes, rest) ← digits? 2 (if rest.head? == some ':' then rest.drop 1 else rest)
      if !rest.isEmpty || 23 < hours || 59 < minutes then none
      let size : Int := (hours * 60 + minutes) * 60 * secondMicros
      return some (if isStampMinus sign then -size else size)

def isStampSeparator (c : Char) : Bool :=
  c == 'T' || c == 't' || c == ' ' || c == '_'

def readStampChars? (chars : List Char) : Option Moment := do
  let (date, rest) ← stampDate? chars
  match rest with
  | [] => return .midnight date
  | separator :: rest =>
      if !isStampSeparator separator then none
      let (micros, rest) ← stampClock? rest
      let offset ← stampOffset? rest
      Moment.ofWall? (date.number * dayMicros + micros : Nat) offset

def readStamp? (text : String) : Option Moment := readStampChars? text.toList

end FleetLink.Time
