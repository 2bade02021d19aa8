/-
Rules: a badge, the condition it is earned under, the period in which it is earned once, and how often at
most. Rules are read from definitions and written back as definitions.
-/
import BadgeEngine.Period
import BadgeEngine.Problem
import BadgeEngine.Text.Blank

namespace BadgeEngine

open BadgeEngine.Text

/-- a rule; its id is also the id of its badge -/
structure Rule where
  id : String
  condition : String
  period : Period := .global
  active : Bool := true
  /-- the most times the badge can be earned; the first time counts whatever it is -/
  max : Option Int := none
  /-- free text, or whatever the definition says -/
  description : Value := .null

def periodOfValue (v : Value) : Except Problem Period :=
  match v.key?.bind Period.ofName? with
  | some p => .ok p
  | none => do throw (.badValue ((← v.shown) ++ " is not a valid Period"))

def counterText (v : Value) : Except Problem String :=
  match v with
  | .scalar s =>
    match s.int? with
    | some n => Problem.ofText? (counterKey? n)
    | none => .error (.badValue ("Unknown format code 'd' for object of type '" ++ s.typeName ++ "'"))
  | v => .error (.wrongType ("unsupported format string passed to " ++ v.typeName ++ ".__format__"))

namespace Rule

def entriesOf : Value → Except Problem (List (Value × Value))
  | .dict es => .ok es
  | v => .error (.noAttribute v.typeName "get")

def readId (es : List (Value × Value)) : Except Problem String :=
  match Value.lookup "id" es with
  | some (.scalar (.text s)) =>
    if s.isEmpty then do throw (.rule (.noId (← (Value.dict es).shown))) else .ok s
  | _ => do throw (.rule (.noId (← (Value.dict es).shown)))

def readCondition (id : String) (es : List (Value × Value)) : Except Problem String :=
  match Value.lookup "condition" es with
  | some (.scalar (.text s)) => if allBlank s then .error (.rule (.noCondition id)) else .ok s
  | _ => .error (.rule (.noCondition id))

/-- the period of a rule, under either of two names -/
def readPeriod (id : String) (es : List (Value × Value)) : Except Problem Period :=
  match (Value.lookup "updatePeriod" es).orElse fun _ => Value.lookup "update_period" es with
  | none => .ok .global
  | some v =>
    match v.text?.bind Period.ofAnyCase? with
    | some p => .ok p
    | none => do throw (.rule (.unknownPeriod id (← v.shown)))

/-- how often a badge can be earned at most -/
def readMax (id : String) (es : List (Value × Value)) : Except Problem (Option Int) :=
  match Value.lookup "max" es with
  | none | some .null => .ok none
  | some v =>
    match v with
    | .scalar (.int n) => if 1 ≤ n then .ok (some n) else do throw (.rule (.badMax id (← v.shown)))
    | v => do throw (.rule (.badMax id (← v.shown)))

def readActive (id : String) (es : List (Value × Value)) : Except Problem Bool :=
  match Value.lookup "active" es with
  | none => .ok true
  | some (.scalar (.bool b)) => .ok b
  | some v => do throw (.rule (.badActive id (← v.shown)))

def ofValue (v : Value) : Except Problem Rule := do
  let es ← entriesOf v
  let id ← readId es
  let condition ← readCondition id es
  let period ← readPeriod id es
  let max ← readMax id es
  let active ← readActive id es
  return { id, condition, period, active, max, description := (Value.lookup "description" es).getD .null }

def toValue (r : Rule) : Value :=
  .dict ([(.ofText "id", .ofText r.id), (.ofText "active", .ofBool r.active),
      (.ofText "updatePeriod", .ofText r.period.name), (.ofText "condition", .ofText r.condition)]
    ++ (match r.description with | .null => [] | v => [(.ofText "description", v)])
    ++ (match r.max with | none => [] | some n => [(.ofText "max", .ofInt n)]))

def readsBack (r : Rule) : Bool :=
  match ofValue r.toValue with
  | .ok s => s.toValue.identical r.toValue
  | .error _ => false

end Rule

/-- reads definitions in order; an id may occur once. `seen` holds the ids so far. -/
def readRules (seen : List String) : List Value → Except Problem (List Rule)
  | [] => .ok []
  | v :: vs => do
    let r ← Rule.ofValue v
    if seen.contains r.id then throw (.rule (.duplicate r.id))
    return r :: (← readRules (r.id :: seen) vs)

def rulesOfValue (v : Value) : Except Problem (List Rule) :=
  match v.items? with
  | some vs => readRules [] vs
  | none => .error (.wrongType ("'" ++ v.typeName ++ "' object is not iterable"))

end BadgeEngine
