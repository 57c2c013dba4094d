/-! The calendar of the years 1 to 9999. A date is the number of days since the first
day of year 1, so that the arithmetic of moments never looks at months. -/

namespace FleetLink.Time

def isLeap (year : Nat) : Bool :=
  year % 4 == 0 && (year % 100 != 0 || year % 400 == 0)

def monthLengths (year : Nat) : List Nat :=
  [31, if isLeap year then 29 else 28, 31, 30, 31, 30, 31, 31, 30, 31, 30, 31]

def monthLength (year month : Nat) : Nat :=
  (monthLengths year).getD (month - 1) 0

def daysBeforeYear (year : Nat) : Nat :=
  let past := year - 1
  past * 365 + past / 4 - past / 100 + past / 400

def daysBeforeMonth (year month : Nat) : Nat :=
  ((monthLengths year).take (month - 1)).foldl (· + ·) 0

/-- A year, a month from 1 and a day of the month from 1. -/
structure Civil where
  year : Nat
  month : Nat
  day : Nat
deriving DecidableEq, Repr

/-- Days since the first day of year 1. -/
def Civil.dayNumber (civil : Civil) : Nat :=
  daysBeforeYear civil.year + daysBeforeMonth civil.year civil.month + (civil.day - 1)

/-- The year of a day and the days of that year before it. A cycle of 400 years ends
with a century, and a group of four years with a year, that is one day longer. -/
def yearOfDay (number : Nat) : Nat × Nat :=
  let inCycle := number % 146097
  let centuries := min (inCycle / 36524) 3
  let inCentury := inCycle - centuries * 36524
  let inFour := inCentury % 1461
  let years := min (inFour / 365) 3
  (number / 146097 * 400 + centuries * 100 + inCentury / 1461 * 4 + years + 1, inFour - years * 365)

/-- Finds the month and its day from the lengths of the months still to come. -/
def monthOfDay (month : Nat) : List Nat → Nat → Nat × Nat
  | [], past => (month, past + 1)
  | length :: rest, past =>
      if past < length then (month, past + 1) else monthOfDay (month + 1) rest (past - length)

def Civil.ofDayNumber (number : Nat) : Civil :=
  let (year, past) := yearOfDay number
  let (month, day) := monthOfDay 1 (monthLengths year) past
  ⟨year, month, day⟩

def maxYear : Nat := 9999
def dayCount : Nat := 3652059

/-- Monday is day 0 of the week. -/
def weekday (number : Nat) : Nat := number % 7

structure Date where
  number : Nat
  number_lt : number < dayCount
deriving DecidableEq, Repr

namespace Date

def civil (date : Date) : Civil := .ofDayNumber date.number

def ofNumber? (number : Nat) : Option Date :=
  if inside : number < dayCount then some ⟨number, inside⟩ else none

end Date

inductive CivilError where
  | year (value : Int)
  | month
  | day
deriving DecidableEq, Repr

def CivilError.message : CivilError → String
  | .year value => "year " ++ toString value ++ " is out of range"
  | .month => "month must be in 1..12"
  | .day => "day is out of range for month"

/-- The date of a year, month and day, looked at in that order. -/
def Civil.toDate (civil : Civil) : Except CivilError Date :=
  if civil.year < 1 || maxYear < civil.year then .error (.year civil.year)
  else if civil.month < 1 || 12 < civil.month then .error .month
  else if civil.day < 1 || monthLength civil.year civil.month < civil.day then .error .day
  else match Date.ofNumber? civil.dayNumber with
    | some date => .ok date
    | none => .error (.year civil.year)

/-- The day number of a day of an ISO week. Week 1 is the week of the year's first
Thursday; a year has a week 53 when it begins on a Thursday, or on a Wednesday and is
a leap year. -/
def isoWeekDay? (year week day : Nat) : Option Nat :=
  let start := weekday (daysBeforeYear year)
  let long := start == 3 || (start == 2 && isLeap year)
  if week < 1 || 53 < week || (week == 53 && !long) || day < 1 || 7 < day then none
  else
    let monday : Int := (daysBeforeYear year : Int) - start + (if start > 3 then 7 else 0)
    let number := monday + 7 * (week - 1 : Nat) + (day - 1 : Nat)
    if number < 0 then none else some number.toNat

end FleetLink.Time
