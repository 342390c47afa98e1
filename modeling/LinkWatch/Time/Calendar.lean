/-
# The calendar

The Gregorian calendar, extended without limit in both directions, as a count of days.
-/
namespace LinkWatch

/-- A day of the calendar. Year 0 is the year before year 1. -/
structure Date where
  year : Int
  month : Nat
  day : Nat
deriving DecidableEq

namespace Date

def isLeapYear (year : Int) : Bool :=
  year % 4 == 0 && (year % 100 != 0 || year % 400 == 0)

/-- The number of days in a month. -/
def daysInMonth (year : Int) (month : Nat) : Nat :=
  if month = 2 then (if isLeapYear year then 29 else 28)
  else if month = 4 ∨ month = 6 ∨ month = 9 ∨ month = 11 then 30
  else 31

/-- Whether there is such a day. -/
def isValid (d : Date) : Bool :=
  1 ≤ d.month && d.month ≤ 12 && 1 ≤ d.day && d.day ≤ daysInMonth d.year d.month

/-- Days from the beginning of March of year 0 to the beginning of March of a year. -/
def daysBeforeYear (year : Int) : Int := 365 * year + year / 4 - year / 100 + year / 400

/-- Days from the beginning of March to the beginning of a month, where March is 0 and February
is 11. -/
def daysBeforeMonth (month : Nat) : Nat := (153 * month + 2) / 5

/-- The days from 1 March of year 0. Years are counted from March here, so that the leap day is the
last of its year. -/
def toDays (d : Date) : Int :=
  let early := d.month ≤ 2
  let year := if early then d.year - 1 else d.year
  let month := if early then d.month + 9 else d.month - 3
  daysBeforeYear year + daysBeforeMonth month + (d.day - 1)

/-- The number of days in four centuries. -/
def cycle : Nat := 146097

/-- The day that lies a number of days after 1 March of year 0. -/
def ofDays (days : Int) : Date :=
  let inCycle := (days % cycle).toNat
  let century := min (inCycle / 36524) 3
  let inCentury := inCycle - century * 36524
  let four := inCentury / 1461
  let inFour := inCentury - four * 1461
  let single := min (inFour / 365) 3
  let inYear := inFour - single * 365
  let month := (5 * inYear + 2) / 153
  let day := inYear - daysBeforeMonth month + 1
  let year : Int := days / cycle * 400 + (century * 100 + four * 4 + single : Nat)
  if month < 10 then ⟨year, month + 3, day⟩ else ⟨year + 1, month - 9, day⟩

end Date

end LinkWatch
