import FleetLink.Number.Binary64
import FleetLink.Time.Moment

/-! Moments as numbers: seconds and milliseconds since 1970 in UTC. -/

namespace FleetLink.Time

open Number

inductive EpochError where
  | notANumber
  | beyondSeconds
  | beyondClock
  | year (value : Int)
deriving DecidableEq, Repr

def EpochError.message : EpochError → String
  | .notANumber => "Invalid value NaN (not a number)"
  | .beyondSeconds => "timestamp out of range for platform time_t"
  | .beyondClock => "[Errno 75] Value too large for defined data type"
  | .year value => "year " ++ toString value ++ " is out of range"

/-- Seconds are counted in 64 bits. -/
def fitsSeconds (seconds : Int) : Bool :=
  -(twoTo 63) ≤ seconds && seconds < twoTo 63

/-- The year of any count of seconds since 1970, in cycles of 400 years. -/
def yearOfSeconds (seconds : Int) : Int :=
  let days := seconds.fdiv 86400 + 719162
  days.fdiv 146097 * 400 + (yearOfDay (days.fmod 146097).toNat).1

/-- The year as a clock of 32 bits holds it, counted from 1900. -/
def clockYear? (seconds : Int) : Option Int :=
  let since := yearOfSeconds seconds - 1900
  if -(twoTo 31) ≤ since && since < twoTo 31 then some (Int.bmod (since + 1900) (twoTo 32)) else none

/-- The aware moment that many seconds and microseconds after the start of 1970. -/
def ofEpoch (seconds : Int) (micro : Nat) : Except EpochError Moment :=
  if !fitsSeconds seconds then .error .beyondSeconds
  else match clockYear? seconds with
    | none => .error .beyondClock
    | some year =>
        match Moment.ofWall? (seconds * secondMicros + micro + epochMicros) (some 0) with
        | some moment => .ok moment
        | none => .error (.year year)

/-- A number of seconds with a fraction. The fraction is scaled as a number of its own
and then rounded to microseconds, a half going to the even one. -/
def ofEpochFloat (x : Binary64) : Except EpochError Moment :=
  match x with
  | .nan => .error .notANumber
  | .infinite _ => .error .beyondSeconds
  | x =>
      let whole := x.truncate?.getD 0
      let micros := (x.fraction * .ofInt secondMicros).roundEven?.getD 0
      if !fitsSeconds whole then .error .beyondSeconds
      else
        let total := whole * secondMicros + micros
        ofEpoch (total.fdiv secondMicros) (total.fmod secondMicros).toNat

/-- Microseconds since the start of 1970 in UTC. -/
def Moment.sinceEpoch (moment : Moment) : Int := moment.instant - epochMicros

/-- Seconds since the start of 1970 as the nearest number. -/
def Moment.epochSeconds (moment : Moment) : Binary64 :=
  .ofRatio (decide (moment.sinceEpoch < 0)) moment.sinceEpoch.natAbs secondMicros

/-- Milliseconds since the start of 1970: the seconds are rounded to a number, so is
their thousandfold, and its fraction is dropped. -/
def Moment.epochMillis (moment : Moment) : Int :=
  (moment.epochSeconds * .ofInt 1000).truncate?.getD 0

end FleetLink.Time
