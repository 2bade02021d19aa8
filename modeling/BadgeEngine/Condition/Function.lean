/-
Functions a condition may call: numbers and texts made from other values, random numbers, what the ledger
holds, and constants.
-/
import BadgeEngine.Condition.Method
import BadgeEngine.Number.Based

namespace BadgeEngine.Condition

open BadgeEngine BadgeEngine.Number BadgeEngine.Text

/-- a function: what a call at a place of a condition comes to -/
abbrev Function := Nat → Given → Outcome Datum

/-- what a condition can see -/
structure Env where
  /-- the digits of the address at which every object stands -/
  address : String
  name : String → Datum
  function? : String → Option Function

/-! ## Whole numbers -/

/-- the fault of a text that is no whole number -/
def badInt (base : Nat) (shown : String) (e : NumeralError) : Fault :=
  .value (e.message base shown)

def intFromText (base : Nat) (cs : List Char) (shown : String) : Outcome Datum :=
  match (if base = 10 then readInt cs else readBased base cs) with
  | .ok n => .ok (.ofInt n)
  | .error e => .error (badInt base shown e)

def intFrom (d : Datum) : Outcome Datum :=
  match d with
  | .data (.scalar (.text s)) => intFromText 10 s.toList (quoted s)
  | .data (.bytes bs) => intFromText 10 (bs.map Char.ofNat) (Value.bytesShown bs)
  | .data (.scalar (.float x)) => do return .ofInt (← wholePart x)
  | d =>
    match d.int? with
    | some n => .ok (.ofInt n)
    | none =>
      .error (.type ("int() argument must be a string, a bytes-like object or a real number, not '" ++ d.typeName
        ++ "'"))

def intInBase (d base : Datum) : Outcome Datum := do
  let b ← wholeArgument base
  if !(b = 0 || (2 ≤ b && b ≤ 36)) then throw (.value "int() base must be >= 2 and <= 36, or 0")
  match d with
  | .data (.scalar (.text s)) => intFromText b.toNat s.toList (quoted s)
  | .data (.bytes bs) => intFromText b.toNat (bs.map Char.ofNat) (Value.bytesShown bs)
  | _ => throw (.type "int() can't convert non-string with explicit base")

/-- the function that makes whole numbers -/
def callInt (g : Given) : Outcome Datum := do
  let given := g.args.length + g.named.length
  if 2 < given then throw (.type ("int() takes at most 2 arguments (" ++ toString given ++ " given)"))
  match g.named.find? fun k => k.1 ≠ "base" with
  | some k => throw (.type ("'" ++ k.1 ++ "' is an invalid keyword argument for int()"))
  | none => pure ()
  match g.args, g.named with
  | [], [] => return .ofInt 0
  | [], _ => throw (.type "int() missing string argument")
  | [d], [] => intFrom d
  | [d], k :: _ => intInBase d k.2
  | d :: b :: _, _ => intInBase d b

/-! ## Doubles and texts -/

/-- the function that makes doubles -/
def callFloat (g : Given) : Outcome Datum := do
  if !g.named.isEmpty then throw (.type "float() takes no keyword arguments")
  match g.args with
  | [] => return .ofFloat 0
  | [d] =>
    let fromText (cs : List Char) (shown : String) : Outcome Datum :=
      match readFloat? cs with
      | some x => .ok (.ofFloat x)
      | none => .error (.value ("could not convert string to float: " ++ shown))
    match d with
    | .data (.scalar (.text s)) => fromText s.toList (quoted s)
    | .data (.bytes bs) => fromText (bs.map Char.ofNat) (Value.bytesShown bs)
    | d =>
      match d.num? with
      | some (.int n) => return .ofFloat (← floatOfInt n)
      | some (.float x) => return .ofFloat x
      | _ =>
        throw (.type ("float() argument must be a string or a real number, not '" ++ d.typeName ++ "'"))
  | ds => throw (.type ("float expected at most 1 argument, got " ++ toString ds.length))

def callText (g : Given) : Outcome Datum := do
  let names := ["object", "encoding", "errors"]
  let given := g.args.length + g.named.length
  if 3 < given then throw (.type ("str() takes at most 3 arguments (" ++ toString given ++ " given)"))
  match ← arrange "str" "str" (.byName names 3) g with
  | [object, encoding, errors] =>
    let mustBeText (what : String) (d : Option Datum) : Outcome Unit :=
      match d with
      | none => .ok ()
      | some d =>
        if d.text?.isSome then .ok ()
        else .error (.type ("str() argument '" ++ what ++ "' must be str, not " ++ argumentType d))
    mustBeText "encoding" encoding
    mustBeText "errors" errors
    match object with
    | none => return .ofText ""
    | some d =>
      if encoding.isNone && errors.isNone then return .ofText (← d.written)
      else
        match d with
        | .data (.bytes bs) => return .ofText (String.ofList (bs.map Char.ofNat))
        | .data (.scalar (.text _)) => throw (.type "decoding str is not supported")
        | d => throw (.type ("decoding to str: need a bytes-like object, " ++ d.typeName ++ " found"))
  | _ => return .ofText ""

/-! ## Calls -/

/-- the one argument of a function of the host that takes one -/
def onlyArgument (label parameter : String) (own : Nat) (g : Given) : Outcome Datum :=
  let n := g.args.length
  match g.named.find? fun k => k.1 ≠ parameter with
  | some k => .error (.type (label ++ " got an unexpected keyword argument '" ++ k.1 ++ "'"))
  | none =>
    match g.args, g.named with
    | _ :: _, _ :: _ => .error (.type (label ++ " got multiple values for argument '" ++ parameter ++ "'"))
    | [d], [] => .ok d
    | [], k :: _ => .ok k.2
    | [], [] => .error (.type (label ++ " missing 1 required positional argument: '" ++ parameter ++ "'"))
    | _, [] =>
      .error (.type (label ++ " takes " ++ toString (own + 1) ++ " positional argument"
        ++ (if own = 0 then "" else "s") ++ " but " ++ toString (own + n) ++ " were given"))

/-- the count of the badge that the argument of a function of the ledger names -/
def earnedCount (label : String) (earned? : String → Option Int) (g : Given) : Outcome (Option Int) := do
  let d ← onlyArgument label "badge_id" 1 g
  match ← d.asKey with
  | some (.scalar (.text s)) => return earned? s
  | _ => return none

/-- tells whether a badge was earned -/
def findsEarned (label : String) (earned? : String → Option Int) : Function := fun _ g => do
  return .ofBool (← earnedCount label earned? g).isSome

/-- tells how often a badge was earned -/
def countsEarned (label : String) (earned? : String → Option Int) : Function := fun _ g => do
  return .ofInt ((← earnedCount label earned? g).getD 0)

/-- gives a random double from 0 up to 1 -/
def callDraw (draw : Nat → Float) : Function := fun site g => do
  if !g.named.isEmpty then throw (.type "Random.random() takes no keyword arguments")
  else if !g.args.isEmpty then
    throw (.type ("Random.random() takes no arguments (" ++ toString g.args.length ++ " given)"))
  else return .ofFloat (draw site)

/-- gives a random whole number from 0 up to a limit -/
def callDrawBelow (draw : Nat → Float) : Function := fun site g => do
  let top ← onlyArgument "random_int()" "top" 0 g
  intFrom (← applyBinary .mul (.ofFloat (draw site)) top)

/-- takes anything and gives one value -/
def constantly (v : Value) : Function := fun _ g =>
  match g.named with
  | k :: _ => .error (.type ("<lambda>() got an unexpected keyword argument '" ++ k.1 ++ "'"))
  | [] => .ok (.data v)

end BadgeEngine.Condition
