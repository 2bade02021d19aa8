/-
Rehearsals. Every command is a program of the host; a hook carries out the commands of its plan one after
another until one has a problem that is not passed over.
-/
import BadgeEngine.Engine
import BadgeEngine.Rehearsal.Command
import BadgeEngine.Verdict

namespace BadgeEngine.Rehearsal

open BadgeEngine.Time

/-- a program that makes a request and ends with its reply -/
def requesting (d : Desk) (q : Request) (reply : Answer → Reply) : Script Desk Reply :=
  .ask d q fun d a => .finish d (a.map reply)

/-- a program that looks at the state and ends with a reply -/
def looking (d : Desk) (f : EngineState → Except Problem Reply) : Script Desk Reply :=
  .look fun s => .finish d (f s)

/-- the program of a call of the profiles of a desk; a state that equals the stored one is not written -/
def calling (c : Call) (d : Desk) : Script Desk Reply :=
  (c.script (Profiles.database Value.same) Desk.keeper d).andThen fun d r => .finish d (r.map Reply.ofReturned)

def Command.script (rules : List Rule) (c : Command) (d : Desk) : Script Desk Reply :=
  match c with
  | .request q => requesting d q Reply.ofAnswer
  | .value name v => looking d fun s => .ok (.value (((s.props.get? name).map .scalar).getD v))
  | .systemValue name v => looking d fun s => .ok (.value (((s.system.get? name).map .scalar).getD v))
  | .props => looking d fun s => .ok (.value s.props.toValue)
  | .systemProps => looking d fun s => .ok (.value s.system.toValue)
  | .status a => looking d fun s => .ok (.value (.ofText (s.status a).name))
  | .hasEarned id => looking d fun s => .ok (.value (.ofBool (s.ledger.hasEarned id)))
  | .badgeCount id => looking d fun s => .ok (.value (.ofInt (s.ledger.count id)))
  | .rules => .finish d (.ok (.rules rules))
  | .earnedIn period => looking d fun s => (s.earnedIn period).map .badges
  | .earnedSince r => looking d fun s => (instantOf r).map fun t => .badges (s.ledger.since t)
  | .bookmark name => looking d fun s => .ok (.instant (s.bookmarks.get? name))
  | .earnedSinceBookmark name => looking d fun s => .ok (.badges (s.earnedSinceBookmark name))
  | .state => looking d fun s => .ok (.value s.toValue)
  | .reload => .look fun s =>
    if s.toValue.isWritable then requesting d (.operate (.load s.toValue)) Reply.ofAnswer
    else .finish d (.error .digitLimit)
  | .saveProfile id => calling (.save id) d
  | .loadProfile id => calling (.load id) d
  | .deleteProfile id => calling (.delete id) d
  | .profileIds => calling .list d
  | .advance micros =>
    match d.clock.move micros with
    | .ok clock => .finish { d with clock } (.ok .nothing)
    | .error e => .finish d (.error e)
  | .setClock clock => .finish { d with clock } (.ok .nothing)
  | .setHook h plan => .finish (d.setHook h plan) (.ok .nothing)
  | .newEngine => .finish d (.ok .nothing)
  | .fail message => .finish d (.error (.host message))

/-- the program of a plan's commands, for the event of an index -/
def actionsScript (rules : List Rule) (index : Nat) : List (Command × Bool) → Desk → Script Desk Unit
  | [], d => .finish d (.ok ())
  | (c, passOver) :: rest, d =>
    (c.script rules d).andThen fun d r =>
      let d := d.record index r
      match r with
      | .error e => if passOver then actionsScript rules index rest d else .finish d (.error e)
      | .ok _ => actionsScript rules index rest d

/-- the program of a hook: an event, and the commands of its plan when they are carried out -/
def hookScript (rules : List Rule) (d : Desk) (h : Hook) (p : Payload) : Option (Script Desk Unit) :=
  (d.hooks.find? fun x => x.hook = h).map fun x =>
    let index := d.events.length
    let d := { d with events := d.events ++ [⟨h, p, x.plan.shown, []⟩] }
    if x.applies p then actionsScript rules index x.plan.actions (d.countUse h) else .finish d (.ok ())

def setupOf (rules : List Rule) (zone : Zone) (extra : List (String × Value)) : Setup Desk where
  rules := rules
  zone := zone
  clock d := let (r, clock) := d.clock.read; (r, { d with clock })
  judge d c condition := (judgement extra (fun _ => 0.5) c condition, d)
  hook := hookScript rules

/-! ## Runs -/

/-- what a command showed: its reply, warnings, the clock after it, the events and the state after it -/
structure Outcome where
  reply : Except Problem Reply
  warnings : List String
  now : Reading
  events : List Event
  state : EngineState

def warningsOf (trace : List Noted) : List String :=
  trace.reverse.filterMap fun x => match x.note with | .warned text => some text | _ => none

/-- carries out a command outside hooks; `plans` are those of a new engine -/
def step (s : Setup Desk) (plans : List (Hook × Plan Command)) (w : World Desk) (c : Command) :
    World Desk × Outcome :=
  let w := { w with trace := [], host := { w.host with events := [] } }
  let (r, w) :=
    match c with
    | .newEngine => (.ok .nothing, { w with engine := {}, host := w.host.setHooks plans })
    | c => (s.play (c.script s.rules w.host)).run w
  (w, ⟨r, warningsOf w.trace, w.host.clock.now, w.host.events, w.engine.state⟩)

/-- carries out commands one after another -/
def steps (s : Setup Desk) (plans : List (Hook × Plan Command)) (w : World Desk) :
    List Command → World Desk × List Outcome
  | [] => (w, [])
  | c :: cs =>
    let (w, o) := step s plans w c
    let (w, os) := steps s plans w cs
    (w, o :: os)

def world (clock : Clock) (plans : List (Hook × Plan Command)) : World Desk where
  host := ({ clock } : Desk).setHooks plans

end BadgeEngine.Rehearsal
