/-
The host of an engine: a clock that it reads, an evaluator that judges conditions, and hooks that it calls with
news. A hook is a program: it looks at the state, asks the engine for things, and finishes or fails. What a host
remembers is a state of its own, which clock, evaluator and hooks may change.
-/
import BadgeEngine.Lifecycle

namespace BadgeEngine

open BadgeEngine.Time

/-! ## News -/

/-- the news a hook is called with -/
inductive Hook where
  | badgeEarned
  | newTimePeriod
  | started (a : Axis)
  | ended (a : Axis)
  | ruleError
  deriving DecidableEq, Repr

/-- what a hook is told: a badge as it was earned, the properties at that time, or a rule that failed -/
inductive Payload where
  | badge (e : Earned)
  | snapshot (props system : Props)
  | failure (rule condition message : String)

/-! ## Requests -/

/-- a change of a property -/
inductive Write where
  | set (name : String) (value : Value)
  | add (name : String) (delta : Value)
  | subtract (name : String) (delta : Value)

def Write.apply (w : Write) (p : Props) : Except Problem Props :=
  match w with
  | .set name v => p.setValue name v
  | .add name d => p.addValue name d
  | .subtract name d => p.subtractValue name d

/-- an operation, of which only one runs at a time -/
inductive Operation where
  | evaluate
  | start (a : Axis)
  | endSession
  | endGame (reason : EndReason)
  | load (state : Value)

def Operation.name : Operation → String
  | .evaluate => "evaluate"
  | .start .session => "start_session"
  | .start .game => "start_game"
  | .endSession => "end_session"
  | .endGame _ => "end_game"
  | .load _ => "load_state"

/-- a request to the engine that may change something -/
inductive Request where
  /-- change a property and, unless told to skip it, run the rules -/
  | write (w : Write) (skip : Bool)
  | operate (op : Operation)
  /-- end the game for a reason given as a value -/
  | endGameFor (reason : Value)
  | setBookmark (name : String)
  | clearBookmark (name : String)

/-- what the engine answers -/
inductive Answer where
  | done
  | badges (es : List Earned)
  | instant (t : Instant)

/-- what an operation answers, given the badges earned by it; a load answers none -/
def Operation.answer (op : Operation) (news : List Earned) : Answer :=
  match op with
  | .load _ => .done
  | _ => .badges news

/-! ## Programs -/

/-- a program of a host that remembers a `σ`: looks at the state, makes requests, and comes to an end with an
answer or a problem -/
inductive Script (σ α : Type) where
  | finish (host : σ) (result : Except Problem α)
  | look (next : EngineState → Script σ α)
  | ask (host : σ) (request : Request) (next : σ → Except Problem Answer → Script σ α)

/-- a program followed by another that goes on with what it came to -/
def Script.andThen {σ α β : Type} (next : σ → Except Problem α → Script σ β) : Script σ α → Script σ β
  | .finish host r => next host r
  | .look f => .look fun s => (f s).andThen next
  | .ask host q f => .ask host q fun h a => (f h a).andThen next

/-! ## Hosts -/

/-- what a condition is judged by: the properties at the start of a pass, and the ledger as it is -/
structure Context where
  props : Props
  system : Props
  ledger : Ledger

/-- the rules and the zone of an engine, and its host -/
structure Setup (σ : Type) where
  rules : List Rule
  zone : Zone
  /-- reads the clock -/
  clock : σ → Except Problem Reading × σ
  /-- judges a condition: whether it holds, or the message of what is wrong with it; judging may fail too -/
  judge : σ → Context → String → Except Problem (Except String Bool) × σ
  /-- the program of a hook, if one is installed -/
  hook : σ → Hook → Payload → Option (Script σ Unit)

end BadgeEngine
