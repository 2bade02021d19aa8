/-
Commands to an engine and what its host keeps. A rehearsal runs an engine under a host that is all data: its
clock moves by a fixed step whenever it is read, and its hooks carry out commands.
-/
import BadgeEngine.Host
import BadgeEngine.Profiles

namespace BadgeEngine.Rehearsal

open BadgeEngine.Time

/-! ## Clocks -/

/-- a clock that moves by some microseconds whenever it is read -/
structure Clock where
  now : Reading
  step : Int := 0

/-- a clock moved; it stays within the years 1 to 9999 -/
def Clock.move (c : Clock) (micros : Int) : Except Problem Clock :=
  match c.now.wall.shift? micros with
  | some wall => .ok { c with now := { c.now with wall } }
  | none => .error .outOfRange

/-- reads a clock; one that cannot move on is not read -/
def Clock.read (c : Clock) : Except Problem Reading × Clock :=
  match c.move c.step with
  | .ok d => (.ok c.now, d)
  | .error e => (.error e, c)

/-! ## Commands -/

/-- what a hook does when it is called -/
structure Plan (Command : Type) where
  /-- commands, and whether a problem of one is passed over -/
  actions : List (Command × Bool) := []
  /-- how often the commands are carried out at most -/
  times : Option Int := none
  /-- the one badge or rule that the commands are meant for -/
  only : Option String := none
  /-- the system properties that a snapshot shows -/
  shown : Option (List String) := none

instance {α : Type} : Inhabited (Plan α) := ⟨{}⟩

/-- a command -/
inductive Command where
  | request (q : Request)
  | value (name : String) (default : Value)
  | systemValue (name : String) (default : Value)
  | props
  | systemProps
  | status (a : Axis)
  | hasEarned (id : String)
  | badgeCount (id : String)
  | rules
  | earnedIn (period : Value)
  | earnedSince (r : Reading)
  | bookmark (name : String)
  | earnedSinceBookmark (name : String)
  | state
  /-- loads the state the engine has -/
  | reload
  | saveProfile (id : String)
  | loadProfile (id : String)
  | deleteProfile (id : String)
  | profileIds
  | advance (micros : Int)
  | setClock (c : Clock)
  | setHook (h : Hook) (plan : Option (Plan Command))
  | newEngine
  | fail (message : String)

instance : Inhabited Command := ⟨.state⟩

/-- what a command comes to -/
inductive Reply where
  | value (v : Value)
  | badges (es : List Earned)
  | rules (rs : List Rule)
  | instant (t : Option Instant)

def Reply.nothing : Reply := .value .null

def Reply.ofAnswer : Answer → Reply
  | .done => nothing
  | .badges es => badges es
  | .instant t => instant (some t)

def Reply.ofReturned : Returned → Reply
  | .nothing => nothing
  | .found b => .value (.ofBool b)
  | .ids ids => .value (.list (ids.map .ofText))

/-! ## Hosts -/

/-- a call of a hook: what it was told, the system properties it shows, and what its commands came to -/
structure Event where
  hook : Hook
  payload : Payload
  shown : Option (List String)
  did : List (Except Problem Reply) := []

/-- the system properties an event shows: all, or those named, null where there is none -/
def Event.systemShown (e : Event) (system : Props) : List (String × Value) :=
  match e.shown with
  | none => system.entries.map fun x => (x.1, .scalar x.2)
  | some names => names.map fun n => (n, ((system.get? n).map .scalar).getD .null)

/-- a plan in use, and how often its commands were carried out -/
structure Installed where
  hook : Hook
  plan : Plan Command
  used : Nat := 0

/-- what the host of a rehearsal keeps -/
structure Desk where
  clock : Clock
  hooks : List Installed := []
  profiles : Profiles := .empty
  /-- the events of the running command -/
  events : List Event := []

namespace Desk

def keeper : Keeper Desk Profiles where
  get d := d.profiles
  set profiles d := { d with profiles }
  get_set _ _ := rfl

/-- installs a plan, or takes one away -/
def setHook (d : Desk) (h : Hook) (plan : Option (Plan Command)) : Desk :=
  let others := d.hooks.filter fun x => x.hook ≠ h
  { d with hooks := match plan with | none => others | some plan => ⟨h, plan, 0⟩ :: others }

/-- installs the plans of a new engine -/
def setHooks (d : Desk) (plans : List (Hook × Plan Command)) : Desk :=
  { d with hooks := plans.map fun p => ⟨p.1, p.2, 0⟩ }

def countUse (d : Desk) (h : Hook) : Desk :=
  { d with hooks := d.hooks.map fun x => if x.hook = h then { x with used := x.used + 1 } else x }

def record (d : Desk) (index : Nat) (r : Except Problem Reply) : Desk :=
  { d with events := d.events.modify index fun e => { e with did := e.did ++ [r] } }

end Desk

def subject? : Payload → Option String
  | .badge e => some e.id
  | .failure rule _ _ => some rule
  | .snapshot .. => none

def Installed.applies (x : Installed) (p : Payload) : Bool :=
  x.plan.only.all (fun id => subject? p = some id) && x.plan.times.all fun n => (x.used : Int) < n

end BadgeEngine.Rehearsal
