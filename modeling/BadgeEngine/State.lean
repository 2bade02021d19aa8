/-
The state of an engine: properties, system properties, windows, the ledger and bookmarks; how it is written as
a value and read back. Reading forgives: a part that is missing is empty, and an entry that is wrong is skipped
with a warning. Only an instant out of range, or a count that is infinite, stops it.
-/
import BadgeEngine.Bookmarks
import BadgeEngine.Ledger
import BadgeEngine.Props
import BadgeEngine.Tracker

namespace BadgeEngine

open BadgeEngine.Number BadgeEngine.Text BadgeEngine.Time

/-- the state of an engine -/
structure EngineState where
  props : Props := {}
  system : Props := {}
  windows : Windows := .initial
  ledger : Ledger := .empty
  bookmarks : Bookmarks := {}

def Earned.toValue (e : Earned) : Value :=
  .dict [(.ofText "id", .ofText e.id), (.ofText "lastEarned", .ofText (instantText e.lastEarned)),
    (.ofText "count", .ofInt e.count)]

def EngineState.toValue (s : EngineState) : Value :=
  .dict [(.ofText "props", s.props.toValue), (.ofText "systemProps", s.system.toValue),
    (.ofText "periods", s.windows.toValue), (.ofText "earned", .list (s.ledger.entries.map Earned.toValue)),
    (.ofText "bookmarks", s.bookmarks.toValue)]

/-! ## Reading -/

def partEntries (raw : List (Value × Value)) (name : String) : Warned (List (Value × Value)) :=
  match Value.lookup name raw with
  | none | some .null => return []
  | some (.dict es) => return es
  | some _ => do
    warn ("State field " ++ quoted name ++ " is not a mapping; resetting it")
    return []

/-- reads properties; what a property may not hold is skipped -/
def readProps (part : String) (p : Props) : List (Value × Value) → Warned Props
  | [] => return p
  | (k, v) :: es => do
    let name ← k.written
    match p.setValue name v with
    | .ok p => readProps part p es
    | .error _ => do
      warn ("Skipping " ++ part ++ " entry " ++ shownOrBlank k ++ " with unsupported value " ++ shownOrBlank v)
      readProps part p es

/-- the count a value stands for; none when it is no count, a problem when it is infinite -/
def readCount : Value → Except Problem (Option Int)
  | .scalar (.bool b) => .ok (some (if b then 1 else 0))
  | .scalar (.int n) => .ok (some n)
  | .scalar (.text s) =>
    match readInt s.toList with
    | .ok n => .ok (some n)
    | .error _ => .ok none
  | .scalar (.float x) =>
    match truncate? x with
    | some n => .ok (some n)
    | none => if x == x then .error (.overflow "cannot convert float infinity to integer") else .ok none
  | _ => .ok none

/-- the count of an entry, which is 1 when it is left out -/
def countOf (es : List (Value × Value)) : Except Problem (Option Int) :=
  match Value.lookup "count" es with
  | none => .ok (some 1)
  | some v => readCount v

/-- reads a ledger entry; a count is at least 1. None when something about it is wrong. -/
def readEarned : Value → Except Problem (Option Earned)
  | .dict es => do
    match ← countOf es, (Value.lookup "id" es).bind Value.text?, Value.lookup "lastEarned" es with
    | some count, some id, some stamp =>
      match instantOfValue stamp with
      | .ok t => .ok (some ⟨id, max count 1, t⟩)
      | .error e => if e.kind = "OverflowError" then .error e else .ok none
    | _, _, _ => .ok none
  | _ => .ok none

def readEarnedList : List Value → Warned (List Earned)
  | [] => return []
  | v :: vs => do
    match ← readEarned v with
    | some e => return e :: (← readEarnedList vs)
    | none =>
      warn ("Skipping malformed earned entry: " ++ shownOrBlank v)
      readEarnedList vs

/-- makes a ledger of entries; an id that came before is left out -/
def makeLedger (es : List Earned) : Warned Ledger := do
  let (ledger, again) := Ledger.ofEntries es
  again.forM fun id => warn (duplicateWarning id)
  return ledger

def readLedger (raw : List (Value × Value)) : Warned Ledger := do
  let v := (Value.lookup "earned" raw).getD .null
  match v with
  | .list vs => makeLedger (← readEarnedList vs)
  | v =>
    if v.truthy then warn "State field 'earned' is not a list; resetting it"
    return .empty

def readBookmarks (b : Bookmarks) : List (Value × Value) → Warned Bookmarks
  | [] => return b
  | (k, v) :: es => do
    match k.text?, instantOfValue v with
    | some name, .ok t => readBookmarks (b.set name t) es
    | _, .error e =>
      if e.kind = "OverflowError" then throw e
      warn ("Skipping malformed bookmark " ++ shownOrBlank k ++ ": " ++ shownOrBlank v)
      readBookmarks b es
    | none, _ =>
      warn ("Skipping malformed bookmark " ++ shownOrBlank k ++ ": " ++ shownOrBlank v)
      readBookmarks b es

/-- the entries of a state: what counts as false has none, and what is no mapping is refused -/
def stateEntries (v : Value) : Except Problem (List (Value × Value)) :=
  if !v.truthy then .ok []
  else
    match v with
    | .dict es => .ok es
    | v =>
      match v.items? with
      | none => .error (.wrongType ("'" ++ v.typeName ++ "' object is not iterable"))
      | some vs =>
        match vs.findSome? Value.unhashable? with
        | some t => .error (.wrongType ("unhashable type: '" ++ t ++ "'"))
        | none => .error (.noAttribute v.typeName "get")

def EngineState.ofValue (v : Value) : Warned EngineState := do
  let raw ← stateEntries v
  let props ← readProps "props" {} (← partEntries raw "props")
  let system ← readProps "systemProps" {} (← partEntries raw "systemProps")
  let windows ← readWindows .initial (← partEntries raw "periods")
  let ledger ← readLedger raw
  let bookmarks ← readBookmarks {} (← partEntries raw "bookmarks")
  return { props, system, windows, ledger, bookmarks }

/-- whether a state written, read and written again is the same -/
def EngineState.isStable (s : EngineState) : Bool :=
  match (EngineState.ofValue s.toValue).answer.1 with
  | .ok t => t.toValue.same s.toValue
  | .error _ => false

end BadgeEngine
