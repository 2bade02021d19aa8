/-
Periods: stretches of time in which a badge may be earned once. The year, month, week, day and hour go by the
local calendar and are known by a key; sessions and games go by a count; the global period never ends.
-/
import BadgeEngine.Number.Numeral
import BadgeEngine.Text.Case
import BadgeEngine.Time.Text
import BadgeEngine.Value

namespace BadgeEngine

open BadgeEngine.Number BadgeEngine.Text BadgeEngine.Time

/-- a period of the calendar -/
inductive CalendarPeriod where
  | year
  | month
  | week
  | day
  | hour
  deriving DecidableEq, Repr

/-- what a host starts and ends: sessions and games -/
inductive Axis where
  | session
  | game
  deriving DecidableEq, Repr

/-- a period -/
inductive Period where
  | global
  | calendar (c : CalendarPeriod)
  | counter (a : Axis)
  deriving DecidableEq, Repr

namespace CalendarPeriod

def all : List CalendarPeriod := [year, month, week, day, hour]

def name : CalendarPeriod → String
  | year => "YEAR"
  | month => "MONTH"
  | week => "WEEK"
  | day => "DAY"
  | hour => "HOUR"

/-- the key of the period a local time lies in -/
def key (c : CalendarPeriod) (t : Moment) : String :=
  let d := t.date
  match c with
  | year => padded 4 d.year
  | month => padded 4 d.year ++ "-" ++ padded 2 d.month
  | week => padded 4 (weekYear t.dayNumber) ++ "-W" ++ padded 2 (weekNumber t.dayNumber)
  | day => d.text
  | hour => d.text ++ "-H" ++ padded 2 t.hour

end CalendarPeriod

def Axis.periodName : Axis → String
  | .session => "SESSION"
  | .game => "GAME"

namespace Period

/-- all periods, in the order in which their windows are kept -/
def all : List Period :=
  [global, calendar .year, calendar .month, calendar .week, calendar .day, calendar .hour, counter .session,
    counter .game]

def name : Period → String
  | global => "GLOBAL"
  | calendar c => c.name
  | counter a => a.periodName

def ofName? (s : String) : Option Period :=
  all.find? fun p => p.name = s

/-- the key of a period of the calendar at a local time -/
def key? (p : Period) (t : Moment) : Option String :=
  match p with
  | calendar c => some (c.key t)
  | _ => none

def ofAnyCase? (s : String) : Option Period :=
  ofName? (upper s)

end Period

/-! ## Counts -/

def counterWidth : Nat := 8

/-- a count as the key of a window; none when it has too many digits -/
def counterKey? (n : Int) : Option String :=
  if fitsNumeral n then some (String.ofList (zeroFilled counterWidth n)) else none

def readCounter (key : String) : Except NumeralError Int :=
  readInt key.toList

/-! ## The calendar in conditions -/

/-- what conditions see of a local time -/
def calendarProps (t : Moment) : List (String × Scalar) :=
  let d := t.date
  let w := weekday t.dayNumber
  [("year", .int d.year), ("month", .int d.month), ("day", .int d.day), ("hour", .int t.hour),
    ("minute", .int t.minute), ("weekday", .int w), ("isWeekDay", .bool (w ≤ 5)), ("isWeekEnd", .bool (5 < w)),
    ("date", .text d.text), ("time", .text (padded 2 t.hour ++ ":" ++ padded 2 t.minute))]

end BadgeEngine
