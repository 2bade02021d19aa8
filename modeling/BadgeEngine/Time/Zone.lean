/-
Time zones. A zone gives every instant an offset; the local time is the instant moved by it, when that
still lies in the years 1 to 9999. Zones are known by name or by a fixed offset.
-/
import BadgeEngine.Time.Text
import BadgeEngine.Time.ZoneTable
import BadgeEngine.Text.Quoted

namespace BadgeEngine.Time

/-! ## Yearly rules -/

/-- the seconds from 1970-01-01T00:00 of a rule's day and time in a year, by the local clock -/
def YearDay.secondIn (d : YearDay) (year : Nat) : Int :=
  let first := daysBeforeYear year + daysBeforeMonth (isLeap year) d.month
  -- the weekday of the first, from Sunday = 0
  let lead := (d.weekday + 7 - (first + 1) % 7) % 7
  let day := lead + (d.week - 1) * 7
  let day := if daysInMonth year d.month ≤ day then day - 7 else day
  ((first + day : Nat) - 719162) * 86400 + d.seconds

/-- whether daylight time holds at a second of UTC in a year -/
def Daylight.holds (d : Daylight) (standard : Int) (year : Nat) (t : Int) : Bool :=
  let start := d.start.secondIn year - standard
  let stop := d.stop.secondIn year - d.offset
  if start < stop then start ≤ t && t < stop else !(stop ≤ t && t < start)

/-! ## Zones -/

/-- the changes of a zone in rising order, and the rule that holds from the last on -/
structure ZoneRules where
  initial : Int
  changes : List (Int × Int)
  ruleFrom : Option Int
  standard : Int
  daylight : Option Daylight

def readSigned (cs : List Char) : Int :=
  match cs with
  | '-' :: ds => -(Nat.ofDigitChars 10 ds 0 : Int)
  | ds => (Nat.ofDigitChars 10 ds 0 : Int)

def ZoneHistory.rules (h : ZoneHistory) : ZoneRules :=
  { initial := h.initial
    changes := (Text.tableRows h.changes).map fun row =>
      match Text.splitChars ':' row with
      | a :: b :: _ => (readSigned a, readSigned b)
      | _ => (0, 0)
    ruleFrom := h.ruleFrom
    standard := h.standard
    daylight := h.daylight }

/-- the offset of the rule at a second of UTC in a year -/
def ZoneRules.ruleOffset (z : ZoneRules) (year : Nat) (t : Int) : Int :=
  match z.daylight with
  | none => z.standard
  | some d => if d.holds z.standard year t then d.offset else z.standard

def ZoneRules.offsetAt (z : ZoneRules) (i : Instant) : Int :=
  let t := i.unixSecond
  if z.ruleFrom.all (· ≤ t) then z.ruleOffset i.date.year t
  else z.changes.foldl (fun o c => if c.1 ≤ t then c.2 else o) z.initial

/-- a time zone, or a thing handed in as one -/
inductive Zone where
  | named (name : String) (rules : ZoneRules)
  /-- a fixed number of seconds ahead of UTC -/
  | fixed (seconds : Int)
  /-- no zone: the name of the type of thing it is -/
  | unusable (typeName : String)

/-- why there is no zone of a name -/
inductive ZoneNameError where
  | absolute
  | notNormal
  | outside
  /-- the name is that of a region -/
  | region
  | unknown
  deriving DecidableEq, Repr

/-- why an instant has no local time -/
inductive LocalTimeError where
  /-- the local time lies outside the years 1 to 9999 -/
  | outOfRange
  | notAZone (typeName : String)
  deriving DecidableEq, Repr

/-- the parts of a slash-separated path after `.` and `..` are worked out, last part first -/
def normalParts (parts : List (List Char)) : List (List Char) :=
  parts.foldl (fun done p =>
    if p.isEmpty ∨ p = ['.'] then done
    else if p = ['.', '.'] then
      match done with
      | d :: rest => if d = ['.', '.'] then p :: done else rest
      | [] => [p]
    else p :: done) []

/-- a relative path with `.` and `..` worked out; an empty one is `.` -/
def normalPath (path : List Char) : List Char :=
  match (normalParts (Text.splitChars '/' path)).reverse with
  | [] => ['.']
  | p :: ps => ps.foldl (fun s q => s ++ '/' :: q) p

def regions : List String :=
  ["Africa", "America", "America/Argentina", "America/Indiana", "America/Kentucky", "America/North_Dakota",
    "Antarctica", "Arctic", "Asia", "Atlantic", "Australia", "Brazil", "Canada", "Chile", "Etc", "Europe",
    "Indian", "Mexico", "Pacific", "US"]

/-- the zone of a name; a name is a relative path in normal form that stays inside the table -/
def Zone.ofName (name : String) : Except ZoneNameError Zone :=
  let cs := name.toList
  if cs.head? = some '/' then .error .absolute
  else if (normalPath cs).length ≠ cs.length then .error .notNormal
  else if !(['_', '/'].isPrefixOf (normalPath ('_' :: '/' :: cs))) then .error .outside
  else
    match zoneHistories.find? (·.1 == name) with
    | some (_, h) => .ok (.named name h.rules)
    | none => .error (if regions.contains name then .region else .unknown)

def Zone.offsetAt? : Zone → Instant → Option Int
  | .named _ r, i => some (r.offsetAt i)
  | .fixed s, _ => some s
  | .unusable _, _ => none

def Zone.localTime (z : Zone) (i : Instant) : Except LocalTimeError Moment :=
  match z with
  | .unusable t => .error (.notAZone t)
  | z =>
    match i.shift? ((z.offsetAt? i).getD 0 * 1000000) with
    | some t => .ok t
    | none => .error .outOfRange

end BadgeEngine.Time
