import FleetLink.Number.DecimalText
import FleetLink.Time.Moment

/-! Moments as plain numbers. A number counts seconds since the start of 1970 in UTC, or
milliseconds when it is a large one. The moment must lie in the years 1600 to 9999. -/

namespace FleetLink.Time

open Number

/-- Numbers up to this size count seconds. -/
def secondsLimit : Nat := 20000000000

/-- The seconds since 1970 with which the year 1600 begins and the year 9999 ends. -/
def firstSecond : Int := -11676096000
def lastSecond : Int := 253402300799

/-- The moment that many seconds or milliseconds after the start of 1970, and some
microseconds later. -/
def ofUnix? (number : Int) (micros : Nat) : Option Moment :=
  let unit : Nat := if number.natAbs ≤ secondsLimit then secondMicros else 1000
  let total := number * unit + micros
  let seconds := total.fdiv secondMicros
  if firstSecond ≤ seconds && seconds ≤ lastSecond then Moment.ofWall? (total + epochMicros) (some 0)
  else none

/-- A quotient as microseconds, a half going up. -/
def nearestMicros (num den : Nat) : Nat := (2 * num * secondMicros + den) / (2 * den)

/-- The whole part of a number goes down, and the size of its fraction is added. -/
def ofUnixFloat? (x : Binary64) : Option Moment := do
  let (num, den) ← x.ratio?
  ofUnix? (num.fdiv den) (nearestMicros (num.natAbs % den) den)

/-- A number written with digits, a sign and a point. Large numbers are made seconds
before they are taken apart. -/
def readUnix? (chars : List Char) : Option Moment :=
  let (negative, body) := splitSign chars
  if (body.head?.map Char.isDigit).getD false && body.all (fun c => c.isDigit || c == '.') then do
    let (digits, power) ← unsignedDecimal? body
    let num := signed negative digits
    if body.all Char.isDigit then ofUnix? num 0
    else
      let scale := tenTo power.natAbs
      let den := if num.natAbs ≤ secondsLimit * scale then scale else scale * 1000
      ofUnix? (num.fdiv den) (nearestMicros (num.fmod den).toNat den)
  else none

end FleetLink.Time
