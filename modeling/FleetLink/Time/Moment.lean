import FleetLink.Time.Calendar

/-! Moments to the microsecond: a reading of calendar and clock, and the offset from
UTC if it is known. A moment without offset is a bare wall reading. -/

namespace FleetLink.Time

def secondMicros : Nat := 1000000
def dayMicros : Nat := 86400000000
def wallLimit : Nat := dayCount * dayMicros

/-- The first microsecond of 1970, counted from the first one of year 1. -/
def epochMicros : Nat := 719162 * dayMicros

def validOffset (shift : Int) : Bool :=
  -(dayMicros : Int) < shift && shift < dayMicros

/-- `wall` counts microseconds from the first one of year 1, and `offset` counts the
microseconds by which the wall reading is ahead of UTC. -/
structure Moment where
  wall : Nat
  offset : Option Int
  wall_lt : wall < wallLimit
  offset_valid : offset.all validOffset = true
deriving DecidableEq, Repr

namespace Moment

def ofWall? (wall : Int) (offset : Option Int) : Option Moment :=
  if inside : wall.toNat < wallLimit ∧ offset.all validOffset = true then
    if 0 ≤ wall then some ⟨wall.toNat, offset, inside.1, inside.2⟩ else none
  else none

theorem midnight_lt (date : Date) : date.number * dayMicros < wallLimit :=
  Nat.mul_lt_mul_of_pos_right date.number_lt (by decide)

/-- The first moment of a date, without offset. -/
def midnight (date : Date) : Moment :=
  ⟨date.number * dayMicros, none, midnight_lt date, rfl⟩

def isNaive (moment : Moment) : Bool := moment.offset.isNone

def dayNumber (moment : Moment) : Nat := moment.wall / dayMicros
def microOfDay (moment : Moment) : Nat := moment.wall % dayMicros
def secondOfDay (moment : Moment) : Nat := moment.microOfDay / secondMicros
def micro (moment : Moment) : Nat := moment.wall % secondMicros
def civil (moment : Moment) : Civil := .ofDayNumber moment.dayNumber

/-- Microseconds from the first one of year 1 in UTC. A naive reading is taken as UTC. -/
def instant (moment : Moment) : Int := moment.wall - moment.offset.getD 0

/-- The same instant as a bare reading in UTC, when the calendar reaches it. -/
def toUtc? (moment : Moment) : Option Moment := ofWall? moment.instant none

/-- Moments that name one point of time; a naive one is never an aware one. -/
def same (a b : Moment) : Bool :=
  a.isNaive == b.isNaive && a.instant == b.instant

end Moment

/-- A clock reading whose fields have not been looked at yet. -/
structure Clock where
  hour : Nat
  minute : Nat
  second : Nat
  micro : Nat
deriving DecidableEq, Repr

inductive ClockError where
  | hour
  | minute
  | second
deriving DecidableEq, Repr

def ClockError.message : ClockError → String
  | .hour => "hour must be in 0..23"
  | .minute => "minute must be in 0..59"
  | .second => "second must be in 0..59"

/-- Microseconds since midnight, whether or not the reading exists on a clock. -/
def Clock.micros (clock : Clock) : Nat :=
  (clock.hour * 3600 + clock.minute * 60 + clock.second) * secondMicros + clock.micro

def Clock.check (clock : Clock) : Except ClockError Nat :=
  if 23 < clock.hour then .error .hour
  else if 59 < clock.minute then .error .minute
  else if 59 < clock.second then .error .second
  else .ok clock.micros

end FleetLink.Time
