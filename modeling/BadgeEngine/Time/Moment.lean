/-
Moments: a date in the years 1 to 9999 with a time of day, to the microsecond. An instant is a moment of
UTC; a reading is what a clock shows, a moment with its offset from UTC or with none.
-/
import BadgeEngine.Time.Calendar

namespace BadgeEngine.Time

def dayMicros : Nat := 86400000000

/-- the first microsecond after the year 9999, counted from 0001-01-01T00:00 -/
def momentEnd : Nat := 3652059 * dayMicros

/-- a date and time of day, as microseconds from 0001-01-01T00:00 -/
structure Moment where
  micros : Nat
  inRange : micros < momentEnd
  deriving DecidableEq

abbrev Instant := Moment

namespace Moment

instance : LE Moment := ⟨fun a b => a.micros ≤ b.micros⟩
instance : LT Moment := ⟨fun a b => a.micros < b.micros⟩
instance (a b : Moment) : Decidable (a ≤ b) := inferInstanceAs (Decidable (a.micros ≤ b.micros))
instance (a b : Moment) : Decidable (a < b) := inferInstanceAs (Decidable (a.micros < b.micros))

def later (a b : Moment) : Moment := if a < b then b else a

/-- a moment by its count of microseconds, if it lies in the years 1 to 9999 -/
def ofMicros? (n : Int) : Option Moment :=
  if h : 0 ≤ n ∧ n.toNat < momentEnd then some ⟨n.toNat, h.2⟩ else none

def shift? (t : Moment) (d : Int) : Option Moment :=
  ofMicros? (t.micros + d)

/-- days from 0001-01-01 -/
def dayNumber (t : Moment) : Nat := t.micros / dayMicros

def date (t : Moment) : Date := dateOfDay t.dayNumber

def hour (t : Moment) : Nat := t.micros / 3600000000 % 24

def minute (t : Moment) : Nat := t.micros / 60000000 % 60

def second (t : Moment) : Nat := t.micros / 1000000 % 60

def micro (t : Moment) : Nat := t.micros % 1000000

/-- whole seconds from 1970-01-01T00:00 -/
def unixSecond (t : Moment) : Int := (t.micros / 1000000 : Nat) - 62135596800

end Moment

/-- the instant 1970-01-01T00:00Z -/
def epoch : Instant := ⟨62135596800000000, by decide⟩

/-- what a clock shows: a moment, and the microseconds its zone is ahead of UTC if it tells -/
structure Reading where
  wall : Moment
  offset : Option Int
  deriving DecidableEq

/-- the instant of a reading; without an offset it is taken as UTC -/
def Reading.toInstant? (r : Reading) : Option Instant :=
  match r.offset with
  | none => some r.wall
  | some o => r.wall.shift? (-o)

end BadgeEngine.Time
