/-
Sessions and games. Each axis goes through none, started, in progress, ended, and back to started; system
properties show where it is and how often it has been there. A game ends for a reason, and each reason has a
count of its own.
-/
import BadgeEngine.State

namespace BadgeEngine

open BadgeEngine.Text

/-! ## Axes -/

/-- where an axis is -/
inductive Status where
  | none
  | started
  | inProgress
  | ended
  deriving DecidableEq, Repr

namespace Status

def all : List Status := [none, started, inProgress, ended]

def name : Status → String
  | none => "none"
  | started => "started"
  | inProgress => "inProgress"
  | ended => "ended"

/-- the status of a name; what is no name of a status counts as none -/
def ofScalar : Scalar → Status
  | .text s => (all.find? fun x => x.name = s).getD none
  | _ => none

/-- whether something was started and has not ended -/
def isOpen (s : Status) : Bool :=
  s = started ∨ s = inProgress

end Status

namespace Axis

/-- the system property that is true while a start is being told -/
def newProp : Axis → String
  | session => "isNewSession"
  | game => "isNewGame"

/-- the system property that is true after an end -/
def endedProp : Axis → String
  | session => "isSessionEnded"
  | game => "isGameEnded"

def statusProp : Axis → String
  | session => "sessionStatus"
  | game => "gameStatus"

def startsProp : Axis → String
  | session => "lifetimeSessions"
  | game => "lifetimeGames"

def endsProp : Axis → String
  | session => "lifetimeSessionsEnded"
  | game => "lifetimeGamesEnded"

end Axis

/-! ## Reasons -/

/-- why a game ended -/
inductive EndReason where
  | win
  | lose
  | cancel
  | implicitRestart
  deriving DecidableEq, Repr

namespace EndReason

def all : List EndReason := [win, lose, cancel, implicitRestart]

def name : EndReason → String
  | win => "win"
  | lose => "lose"
  | cancel => "cancel"
  | implicitRestart => "implicitRestart"

def countProp : EndReason → String
  | win => "lifetimeGameWins"
  | lose => "lifetimeGameLosses"
  | cancel => "lifetimeGameCancels"
  | implicitRestart => "lifetimeGameRestarts"

def ofValue (v : Value) : Except Problem EndReason :=
  match v.key?.bind fun s => all.find? fun r => r.name = s with
  | some r => .ok r
  | none => do throw (.badValue ((← v.shown) ++ " is not a valid GameEndReason"))

end EndReason

def endReasonProp : String := "gameEndReason"

/-! ## States ready for use -/

/-- the system properties of an axis before its first start -/
def Axis.defaults (a : Axis) : List (String × Scalar) :=
  [(a.newProp, .bool false), (a.endedProp, .bool false), (a.statusProp, .text Status.none.name)]

/-- the system properties every engine has, with their first values -/
def systemDefaults : List (String × Scalar) :=
  Rollover.toProps {}
    ++ Axis.session.defaults
    ++ [(Axis.session.startsProp, .int 0), (Axis.session.endsProp, .int 0)]
    ++ Axis.game.defaults
    ++ [(endReasonProp, .text ""), (Axis.game.startsProp, .int 0), (Axis.game.endsProp, .int 0)]
    ++ EndReason.all.map fun r => (r.countProp, .int 0)

/-- properties with a value for every name of a list; values that are there stay -/
def Props.withDefaults (p : Props) (es : List (String × Scalar)) : Props :=
  es.foldl (fun p e => if p.contains e.1 then p else p.set e.1 e.2) p

namespace EngineState

def prepared (s : EngineState) : EngineState :=
  { s with system := s.system.withDefaults systemDefaults }

def fresh : EngineState := prepared {}

/-! ## Questions to a state -/

def status (s : EngineState) (a : Axis) : Status :=
  match s.system.get? a.statusProp with
  | some x => Status.ofScalar x
  | none => .none

/-- the badges last earned since a bookmark; since the epoch when it is not set -/
def earnedSinceBookmark (s : EngineState) (name : String) : List Earned :=
  s.ledger.since ((s.bookmarks.get? name).getD Time.epoch)

/-- the badges last earned since the window of a period began; all for null -/
def earnedIn (s : EngineState) (period : Value) : Except Problem (List Earned) :=
  match period with
  | .null => .ok s.ledger.entries
  | v => do
    let name := upper (← v.written)
    match Period.ofName? name with
    | some p => return s.ledger.since (s.windows.get p).since
    | none => throw (.badValue (quoted name ++ " is not a valid Period"))

end EngineState

end BadgeEngine
