/-
Windows of the periods. Each has a key and the instant it began. A refresh gives the calendar windows the keys
of the local time and tells which changed; a start counts the window of an axis up. Instants never go back.
-/
import BadgeEngine.Period
import BadgeEngine.Problem

namespace BadgeEngine

open BadgeEngine.Number BadgeEngine.Text BadgeEngine.Time

/-- the window of a period: its key, and the instant it began -/
structure Window where
  key : String
  since : Instant

/-- the windows of all periods -/
structure Windows where
  global : Window
  year : Window
  month : Window
  week : Window
  day : Window
  hour : Window
  session : Window
  game : Window

def globalKey : String := "global"

/-- the window of a period before anything happened -/
def initialWindow (p : Period) : Window where
  key :=
    match p with
    | .global => globalKey
    | .calendar c => c.key epoch
    | .counter _ => "00000000"
  since := epoch

namespace Windows

/-- the windows before anything happened -/
def initial : Windows where
  global := initialWindow .global
  year := initialWindow (.calendar .year)
  month := initialWindow (.calendar .month)
  week := initialWindow (.calendar .week)
  day := initialWindow (.calendar .day)
  hour := initialWindow (.calendar .hour)
  session := initialWindow (.counter .session)
  game := initialWindow (.counter .game)

def get (w : Windows) : Period → Window
  | .global => w.global
  | .calendar .year => w.year
  | .calendar .month => w.month
  | .calendar .week => w.week
  | .calendar .day => w.day
  | .calendar .hour => w.hour
  | .counter .session => w.session
  | .counter .game => w.game

/-- puts a window in place -/
def set (w : Windows) (p : Period) (x : Window) : Windows :=
  match p with
  | .global => { w with global := x }
  | .calendar .year => { w with year := x }
  | .calendar .month => { w with month := x }
  | .calendar .week => { w with week := x }
  | .calendar .day => { w with day := x }
  | .calendar .hour => { w with hour := x }
  | .counter .session => { w with session := x }
  | .counter .game => { w with game := x }

end Windows

/-! ## Rollovers -/

/-- which periods of the calendar rolled over -/
structure Rollover where
  year : Bool := false
  month : Bool := false
  week : Bool := false
  day : Bool := false
  hour : Bool := false
  deriving DecidableEq, Repr

namespace Rollover

def get (f : Rollover) : CalendarPeriod → Bool
  | .year => f.year
  | .month => f.month
  | .week => f.week
  | .day => f.day
  | .hour => f.hour

def any (f : Rollover) : Bool :=
  f.year || f.month || f.week || f.day || f.hour

def merge (f g : Rollover) : Rollover :=
  ⟨f.year || g.year, f.month || g.month, f.week || g.week, f.day || g.day, f.hour || g.hour⟩

def toProps (f : Rollover) : List (String × Scalar) :=
  [("isNewYear", .bool f.year), ("isNewMonth", .bool f.month), ("isNewWeek", .bool f.week),
    ("isNewDay", .bool f.day), ("isNewHour", .bool f.hour)]

end Rollover

namespace Windows

/-- whether the key of a period differs from that of a local time -/
def isStale (w : Windows) (t : Moment) (c : CalendarPeriod) : Bool :=
  c.key t ≠ (w.get (.calendar c)).key

/-- gives a period the key of a local time; a window whose key changes begins now, or when it last did if
that was later -/
def renew (w : Windows) (now : Instant) (t : Moment) (c : CalendarPeriod) : Windows :=
  let old := w.get (.calendar c)
  if w.isStale t c then w.set (.calendar c) ⟨c.key t, now.later old.since⟩ else w

/-- gives every period of the calendar the key of a local time; tells which keys changed -/
def refresh (w : Windows) (now : Instant) (t : Moment) : Windows × Rollover :=
  (CalendarPeriod.all.foldl (fun w c => w.renew now t c) w,
    ⟨w.isStale t .year, w.isStale t .month, w.isStale t .week, w.isStale t .day, w.isStale t .hour⟩)

/-- the count that follows the key of an axis; after a key that is no count it is 1 -/
def nextCount (w : Windows) (a : Axis) : Warned Int :=
  let key := (w.get (.counter a)).key
  match readCounter key with
  | .ok n => return n + 1
  | .error _ => do
    warn ("Counter " ++ a.periodName ++ " had non-numeric key " ++ quoted key ++ "; restarting from 1")
    return 1

/-- counts an axis up at an instant: the new count and the windows -/
def advance (w : Windows) (a : Axis) (now : Except Problem Instant) : Warned (Int × Windows) := do
  let n ← w.nextCount a
  let stamp := (← now).later (w.get (.counter a)).since
  match counterKey? n with
  | none => throw .digitLimit
  | some key => return (n, w.set (.counter a) ⟨key, stamp⟩)

def toEntries (w : Windows) : List (Value × Value) :=
  Period.all.map fun p =>
    let x := w.get p
    (.ofText p.name, .dict [(.ofText "key", .ofText x.key), (.ofText "lastTimestamp", .ofText (instantText x.since))])

def toValue (w : Windows) : Value := .dict w.toEntries

end Windows

/-! ## Reading windows -/

/-- an entry of a mapping that an item of may be asked for by name; other things have no items by name -/
def entryOf? (v : Value) (name : String) : Option Value :=
  match v with
  | .dict es => Value.lookup name es
  | _ => none

/-- reads a window; none when something about it is wrong, a problem when its instant is out of range -/
def readWindow (name data : Value) : Except Problem (Option (Period × Window)) :=
  match name.text?.bind Period.ofAnyCase?, (entryOf? data "key").bind Value.text?, entryOf? data "lastTimestamp" with
  | some p, some key, some stamp =>
    match instantOfValue stamp with
    | .ok t => .ok (some (p, ⟨key, t⟩))
    | .error e => if e.kind = "OverflowError" then .error e else .ok none
  | _, _, _ => .ok none

def shownOrBlank (v : Value) : String := v.shown?.getD ""

/-- reads windows over others; every entry that is wrong leaves a warning -/
def readWindows (w : Windows) : List (Value × Value) → Warned Windows
  | [] => return w
  | (name, data) :: es => do
    match ← readWindow name data with
    | some (p, x) => readWindows (w.set p x) es
    | none =>
      warn ("Skipping malformed period window " ++ shownOrBlank name ++ ": " ++ shownOrBlank data)
      readWindows w es

/-- reads windows from a mapping over the initial ones; what counts as false is an empty mapping -/
def Windows.ofValue (v : Value) : Warned Windows :=
  match v with
  | .dict es => readWindows .initial es
  | v => if v.truthy then throw (.noAttribute v.typeName "items") else return .initial

/-! ## Trackers -/

/-- keeps the windows of a host; there are none until one is needed -/
structure Tracker where
  kept : Option Windows := none

namespace Tracker

def windows (t : Tracker) : Windows := t.kept.getD .initial

def ready (t : Tracker) : Tracker := ⟨some t.windows⟩

def toValue (t : Tracker) : Value :=
  match t.kept with
  | some w => w.toValue
  | none => .dict []

/-- refreshes the windows from a clock's reading -/
def refresh (t : Tracker) (now : Reading) (z : Zone) : Tracker × Except Problem Rollover :=
  match instantOf now with
  | .error e => (t.ready, .error e)
  | .ok i =>
    match localTime z i with
    | .error e => (t.ready, .error e)
    | .ok l =>
      let (w, flags) := t.windows.refresh i l
      (⟨some w⟩, .ok flags)

/-- counts a period up: the new count, with the warnings, and the tracker -/
def advance (t : Tracker) (p : Period) (now : Reading) : (Except Problem Int × List String) × Tracker :=
  match p with
  | .counter a =>
    match (t.windows.advance a (instantOf now)).answer with
    | (.ok (n, w), warnings) => ((.ok n, warnings), ⟨some w⟩)
    | (.error e, warnings) => ((.error e, warnings), t.ready)
  | p => ((.error (.badValue (p.name ++ " is not a counter period")), []), t)

end Tracker

end BadgeEngine
