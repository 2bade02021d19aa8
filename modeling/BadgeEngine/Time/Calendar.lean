/-
The Gregorian calendar over days counted from 0 on 0001-01-01, a Monday: years, months, days of the month,
days of the week and the ISO weeks, each of which belongs to the year of its Thursday.
-/

namespace BadgeEngine.Time

/-- whether a year has 366 days -/
def isLeap (y : Nat) : Bool :=
  y % 4 = 0 && (y % 100 ≠ 0 || y % 400 = 0)

/-- the days before the first of January of a year, for years from 1 -/
def daysBeforeYear (y : Nat) : Nat :=
  (y - 1) * 365 + (y - 1) / 4 - (y - 1) / 100 + (y - 1) / 400

def yearOfDay (n : Nat) : Nat :=
  let centuries := min (n % 146097 / 36524) 3
  let inCentury := n % 146097 - centuries * 36524
  let years := min (inCentury % 1461 / 365) 3
  400 * (n / 146097) + 100 * centuries + 4 * (inCentury / 1461) + years + 1

/-- the day of the year, from 0 -/
def dayInYear (n : Nat) : Nat :=
  n - daysBeforeYear (yearOfDay n)

/-- the days of the year before the first of a month, from January = 1 -/
def daysBeforeMonth (leap : Bool) : Nat → Nat
  | 0 | 1 => 0
  | 2 => 31
  | 3 => if leap then 60 else 59
  | 4 => if leap then 91 else 90
  | 5 => if leap then 121 else 120
  | 6 => if leap then 152 else 151
  | 7 => if leap then 182 else 181
  | 8 => if leap then 213 else 212
  | 9 => if leap then 244 else 243
  | 10 => if leap then 274 else 273
  | 11 => if leap then 305 else 304
  | 12 => if leap then 335 else 334
  | _ => if leap then 366 else 365

def daysInMonth (y m : Nat) : Nat :=
  daysBeforeMonth (isLeap y) (m + 1) - daysBeforeMonth (isLeap y) m

def monthOf (leap : Bool) (d : Nat) : Nat :=
  1 + ((List.range 11).map (· + 2)).countP fun m => daysBeforeMonth leap m ≤ d

/-- a date by year, month and day of the month -/
structure Date where
  year : Nat
  month : Nat
  day : Nat
  deriving DecidableEq, Repr

def dateOfDay (n : Nat) : Date :=
  let y := yearOfDay n
  let d := dayInYear n
  let m := monthOf (isLeap y) d
  ⟨y, m, d - daysBeforeMonth (isLeap y) m + 1⟩

def Date.exists (d : Date) : Bool :=
  1 ≤ d.year && 1 ≤ d.month && d.month ≤ 12 && 1 ≤ d.day && d.day ≤ daysInMonth d.year d.month

def Date.toDay (d : Date) : Nat :=
  daysBeforeYear d.year + daysBeforeMonth (isLeap d.year) d.month + (d.day - 1)

/-- the day of the week, from Monday = 1 to Sunday = 7 -/
def weekday (n : Nat) : Nat :=
  n % 7 + 1

/-- the Thursday of a day's week -/
def thursdayOf (n : Nat) : Nat :=
  n - n % 7 + 3

/-- the year an ISO week belongs to -/
def weekYear (n : Nat) : Nat :=
  yearOfDay (thursdayOf n)

/-- the number of a day's ISO week in its year -/
def weekNumber (n : Nat) : Nat :=
  dayInYear (thursdayOf n) / 7 + 1

/-- the Monday of the first ISO week of a year, counted so that it may lie before day 0 -/
def firstMonday (y : Nat) : Int :=
  let jan1 : Int := daysBeforeYear y
  let weekdayOfJan1 := jan1 % 7
  if weekdayOfJan1 ≤ 3 then jan1 - weekdayOfJan1 else jan1 - weekdayOfJan1 + 7

/-- whether a year has 53 ISO weeks: it starts on a Thursday, or is leap and starts on a Wednesday -/
def hasLongWeeks (y : Nat) : Bool :=
  let w := daysBeforeYear y % 7
  w = 3 || (w = 2 && isLeap y)

end BadgeEngine.Time
