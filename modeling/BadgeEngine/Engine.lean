/-
The engine. An operation refreshes the windows, runs the rules and tells the host; only one runs at a time, and
what a hook asks for while it runs is refused or put off. A write from a hook takes effect at once and makes the
rules run again, up to a limit. Notes are kept of what happens, the last in front, each with the engine as it was.
Nothing the host does goes without a note: a reading of its clock, a verdict, a turn of one of its programs.
-/
import BadgeEngine.Host

namespace BadgeEngine

open BadgeEngine.Text BadgeEngine.Time

/-! ## Worlds -/

/-- what a program of the host does in a turn -/
inductive Deed where
  /-- it looks at the state -/
  | look
  /-- it makes a request -/
  | ask (request : Request)
  /-- it comes to its end, with a problem if it fails -/
  | finish (problem : Option Problem)

def Deed.ending {α : Type} : Except Problem α → Deed
  | .ok _ => .finish none
  | .error e => .finish (some e)

/-- something that happened -/
inductive Note where
  /-- the clock was read: what it showed, or how it failed -/
  | clock (r : Except Problem Instant)
  /-- the windows were refreshed -/
  | refreshed (t : Instant) (l : Moment) (rolled : Rollover)
  /-- an axis was counted up -/
  | counted (a : Axis) (n : Int)
  /-- a pass over the rules began -/
  | pass
  /-- a condition was judged -/
  | judged (rule : String) (verdict : Except Problem (Except String Bool))
  /-- a match of a rule was recorded at an instant, its window begun at `since`: the entry it made, none when it
  was held back -/
  | recorded (rule : String) (since t : Instant) (entry : Option Earned)
  /-- a hook was called -/
  | told (h : Hook) (p : Payload)
  /-- a program of the host went on -/
  | turn (d : Deed)
  | warned (text : String)

/-- an engine: its state, and what belongs to the operation that runs -/
structure Engine where
  state : EngineState := .fresh
  /-- the operation that runs -/
  running : Option Operation := none
  /-- whether a hook has written since the last pass began -/
  pending : Bool := false
  /-- the badges of this operation, in the order in which they first came -/
  news : List Earned := []
  /-- what rolled over during this operation -/
  rolled : Rollover := {}

def Engine.busy (e : Engine) : Bool := e.running.isSome

/-- an engine refreshed at an instant with its local time: the calendar windows, and what conditions see of the
calendar; with what rolled over -/
def Engine.refresh (e : Engine) (t : Instant) (l : Moment) : Engine × Rollover :=
  let (windows, rolled) := e.state.windows.refresh t l
  let all := e.rolled.merge rolled
  let system := (e.state.system.setAll all.toProps).setAll (calendarProps l)
  ({ e with state := { e.state with windows, system }, rolled := all }, rolled)

/-- a note, and the engine when it was taken -/
structure Noted where
  note : Note
  engine : Engine

/-- an engine, what its host remembers, and what happened -/
structure World (σ : Type) where
  engine : Engine := {}
  host : σ
  trace : List Noted := []

/-- a step of a world that may fail; what it changed before it failed stays changed -/
abbrev Run (σ α : Type) := ExceptT Problem (StateM (World σ)) α

variable {σ α : Type}

namespace Run

def engine : Run σ Engine := do
  return (← get).engine

def state : Run σ EngineState := do
  return (← engine).state

def host : Run σ σ := do
  return (← get).host

def changeEngine (f : Engine → Engine) : Run σ Unit :=
  modify fun w => { w with engine := f w.engine }

def change (f : EngineState → EngineState) : Run σ Unit :=
  changeEngine fun e => { e with state := f e.state }

def changeSystem (f : Props → Props) : Run σ Unit :=
  change fun s => { s with system := f s.system }

def bump (name : String) : Run σ Unit := do
  let system ← (← state).system.addValue name (.ofInt 1)
  changeSystem fun _ => system

def setHost (host : σ) : Run σ Unit :=
  modify fun w => { w with host }

def note (n : Note) : Run σ Unit :=
  modify fun w => { w with trace := ⟨n, w.engine⟩ :: w.trace }

/-- runs a step that never fails: its problem is its answer -/
def attempt (r : Run σ α) : Run σ (Except Problem α) :=
  ExceptT.mk do return .ok (← r.run)

/-- runs a step and then, whether it failed or not, changes the engine -/
def ensuring (r : Run σ α) (f : Engine → Engine) : Run σ α :=
  ExceptT.mk do
    let a ← r.run
    modify fun w => { w with engine := f w.engine }
    return a

def ofWarned (a : Warned α) : Run σ α := do
  let (r, warnings) := a.answer
  warnings.forM fun text => note (.warned text)
  r

/-- runs a program, given how requests are answered -/
def ofScript (answer : Request → Run σ Answer) : Script σ α → Run σ α
  | .finish h r => do
    note (.turn (.ending r))
    setHost h
    r
  | .look next => do
    note (.turn .look)
    ofScript answer (next (← state))
  | .ask h q next => do
    note (.turn (.ask q))
    setHost h
    let a ← attempt (answer q)
    ofScript answer (next (← host) a)

end Run

namespace Setup

open Run

/-! ## Requests -/

def now (s : Setup σ) : Run σ Instant := do
  let (r, h) := s.clock (← host)
  setHost h
  let t := r.bind instantOf
  note (.clock t)
  t

/-- runs an operation: refused while another one runs; answers the badges of this one -/
def operation (op : Operation) (body : Run σ Unit) : Run σ Answer := do
  if (← engine).busy then throw (.reentrant op.name)
  changeEngine fun e => { e with running := some op, news := [], rolled := {} }
  ensuring body fun e => { e with running := none, pending := false }
  return op.answer (← engine).news

def answerWith (s : Setup σ) (body : Operation → Run σ Unit) : Request → Run σ Answer
  | .write w skip => do
    let props ← w.apply (← state).props
    change fun s => { s with props }
    if skip then return .badges []
    else if (← engine).busy then
      changeEngine fun e => { e with pending := true }
      return .badges []
    else operation .evaluate (body .evaluate)
  | .operate op => operation op (body op)
  | .endGameFor v => do
    let op := Operation.endGame (← EndReason.ofValue v)
    operation op (body op)
  | .setBookmark name => do
    let t ← s.now
    change fun s => { s with bookmarks := s.bookmarks.set name t }
    return .instant t
  | .clearBookmark name => do
    change fun s => { s with bookmarks := s.bookmarks.clear name }
    return .done

/-- answers a request made by a hook; an operation runs then, so none is begun -/
def answerHook (s : Setup σ) : Request → Run σ Answer :=
  s.answerWith fun _ => pure ()

/-! ## Telling the host -/

/-- calls a hook, if it is installed -/
def tell (s : Setup σ) (h : Hook) (p : Payload) : Run σ Unit := do
  match s.hook (← host) h p with
  | none => return ()
  | some script =>
    note (.told h p)
    ofScript s.answerHook script

def tellSnapshot (s : Setup σ) (h : Hook) : Run σ Unit := do
  let state ← state
  s.tell h (.snapshot state.props state.system)

/-! ## Rules -/

/-- the most passes over the rules that follow the first one of an operation's step -/
def passLimit : Nat := 8

def passWarning : String :=
  "Stopped re-evaluating after " ++ toString passLimit ++ " deferred passes; a hook keeps writing properties"

/-- records a match of a rule, and tells the host if a badge was earned -/
def award (s : Setup σ) (r : Rule) : Run σ Unit := do
  let since := ((← state).windows.get r.period).since
  let t ← s.now
  match (← state).ledger.record r since t with
  | (none, _) => note (.recorded r.id since t none)
  | (some e, ledger) =>
    change fun s => { s with ledger }
    changeEngine fun g => { g with news := Ledger.put e g.news }
    note (.recorded r.id since t (some e))
    s.tell .badgeEarned (.badge e)

def reportFailure (s : Setup σ) (r : Rule) (message : String) : Run σ Unit := do
  let text := "Rule " ++ quoted r.id ++ " failed to evaluate: " ++ message
  note (.warned text)
  s.tell .ruleError (.failure r.id r.condition text)

def consider (s : Setup σ) (props system : Props) (r : Rule) : Run σ Unit := do
  if !r.active then return ()
  let (verdict, h) := s.judge (← host) ⟨props, system, (← state).ledger⟩ r.condition
  setHost h
  note (.judged r.id verdict)
  match ← verdict with
  | .ok true => s.award r
  | .ok false => return ()
  | .error message => s.reportFailure r message

/-- passes over the rules in order; tells whether a hook has written meanwhile -/
def pass (s : Setup σ) : Run σ Bool := do
  changeEngine fun e => { e with pending := false }
  note .pass
  let state ← state
  s.rules.forM (s.consider state.props state.system)
  return (← engine).pending

/-- passes over the rules until no hook has written during a pass, with a number of passes left after this
one -/
def passes (s : Setup σ) : Nat → Run σ Unit
  | 0 => do
    if ← s.pass then
      note (.warned passWarning)
      changeEngine fun e => { e with pending := false }
  | left + 1 => do
    if ← s.pass then s.passes left

def runRules (s : Setup σ) : Run σ Unit :=
  s.passes passLimit

/-! ## Operations -/

/-- refreshes the windows, and tells the host if a period rolled over -/
def refresh (s : Setup σ) (t : Instant) : Run σ Unit := do
  let l ← localTime s.zone t
  let (e, rolled) := (← engine).refresh t l
  changeEngine fun _ => e
  note (.refreshed t l rolled)
  if rolled.any then s.tellSnapshot .newTimePeriod

def close (s : Setup σ) (a : Axis) : Run σ Unit := do
  changeSystem fun p => (p.set a.endedProp (.bool true)).set a.statusProp (.text Status.ended.name)
  bump a.endsProp
  s.tellSnapshot (.ended a)
  s.refresh (← s.now)
  s.runRules

def closeGame (s : Setup σ) (r : EndReason) : Run σ Unit := do
  changeSystem fun p => p.set endReasonProp (.text r.name)
  bump r.countProp
  s.close .game

def count (a : Axis) (t : Instant) : Run σ Unit := do
  let (n, windows) ← ofWarned ((← state).windows.advance a (.ok t))
  change fun s => { s with windows, system := s.system.set a.startsProp (.int n) }
  note (.counted a n)

/-- tells the host of a start and runs the rules; however that ends, the axis is in progress then -/
def present (s : Setup σ) (a : Axis) : Run σ Unit :=
  ensuring
    (do s.tellSnapshot (.started a); s.runRules)
    fun e => { e with state := { e.state with system :=
      (e.state.system.set a.newProp (.bool false)).set a.statusProp (.text Status.inProgress.name) } }

/-- starts an axis: it is new while the host is told and the rules run -/
def begin (s : Setup σ) (a : Axis) : Run σ Unit := do
  let t ← s.now
  s.refresh t
  changeSystem fun p =>
    ((p.set a.newProp (.bool true)).set a.endedProp (.bool false)).set a.statusProp (.text Status.started.name)
  count a t
  s.present a

/-- ends an axis that is being started again -/
def closeBeforeStart (s : Setup σ) : Axis → Run σ Unit
  | .session => s.close .session
  | .game => s.closeGame .implicitRestart

def perform (s : Setup σ) : Operation → Run σ Unit
  | .evaluate => do
    s.refresh (← s.now)
    s.runRules
  | .start a => do
    if ((← state).status a).isOpen then s.closeBeforeStart a
    s.begin a
  | .endSession => do
    if ((← state).status .session).isOpen then s.close .session
  | .endGame r => do
    if ((← state).status .game).isOpen then s.closeGame r
  | .load v => do
    let state ← ofWarned (EngineState.ofValue v)
    change fun _ => state.prepared

/-- answers a request made outside hooks -/
def answer (s : Setup σ) : Request → Run σ Answer :=
  s.answerWith s.perform

/-- runs a program of the host outside hooks -/
def play (s : Setup σ) (script : Script σ α) : Run σ α :=
  ofScript s.answer script

end Setup

end BadgeEngine
