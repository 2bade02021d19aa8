/-
Arguments of methods. Each method first checks how many arguments it is given, then of what types they are.
-/
import BadgeEngine.Condition.Member

namespace BadgeEngine.Condition

open BadgeEngine BadgeEngine.Number

/-- the arguments of a call: by position, and by name -/
structure Given where
  args : List Datum
  named : List (String × Datum)

/-! ## How many arguments -/

/-- what a method takes -/
inductive Takes where
  | nothing
  | one
  | between (low high : Nat)
  /-- a thing to look for, and perhaps where to begin and to end -/
  | search
  /-- up to as many as there are names; those behind a number of names only by name -/
  | byName (names : List String) (positional : Nat)

def argumentsShown (n : Nat) : String :=
  toString n ++ (if n = 1 then " argument" else " arguments")

/-- checks the number of arguments and puts those given by name into place -/
def arrange (owner name : String) (t : Takes) (g : Given) : Outcome (List (Option Datum)) :=
  let n := g.args.length
  let bad {α : Type} (s : String) : Outcome α := .error (.type s)
  let whole := owner ++ "." ++ name ++ "()"
  let placed : List (Option Datum) := g.args.map some
  match t with
  | .nothing =>
    if !g.named.isEmpty then bad (whole ++ " takes no keyword arguments")
    else if n ≠ 0 then bad (whole ++ " takes no arguments (" ++ toString n ++ " given)")
    else .ok []
  | .one =>
    if !g.named.isEmpty then bad (whole ++ " takes no keyword arguments")
    else if n ≠ 1 then bad (whole ++ " takes exactly one argument (" ++ toString n ++ " given)")
    else .ok placed
  | .between low high =>
    if !g.named.isEmpty then bad (whole ++ " takes no keyword arguments")
    else if low = high && n ≠ low then
      bad (name ++ " expected " ++ argumentsShown low ++ ", got " ++ toString n)
    else if n < low then
      bad (name ++ " expected at least " ++ argumentsShown low ++ ", got " ++ toString n)
    else if high < n then
      bad (name ++ " expected at most " ++ argumentsShown high ++ ", got " ++ toString n)
    else .ok (placed ++ List.replicate (high - n) none)
  | .search =>
    if !g.named.isEmpty then bad (name ++ "() takes no keyword arguments")
    else if n < 1 then bad (name ++ "() takes at least 1 argument (0 given)")
    else if 3 < n then bad (name ++ "() takes at most 3 arguments (" ++ toString n ++ " given)")
    else .ok (placed ++ List.replicate (3 - n) none)
  | .byName names positional =>
    let given := n + g.named.length
    if names.length < given then
      bad (name ++ "() takes at most " ++ argumentsShown names.length ++ " (" ++ toString given ++ " given)")
    else if positional = 0 && n ≠ 0 then bad (name ++ "() takes no positional arguments")
    else if positional < n then
      bad (name ++ "() takes at most " ++ toString positional ++ " positional argument"
        ++ (if positional = 1 then "" else "s") ++ " (" ++ toString n ++ " given)")
    else
      match g.named.find? fun k => !names.contains k.1 with
      | some k => bad ("'" ++ k.1 ++ "' is an invalid keyword argument for " ++ name ++ "()")
      | none =>
        match (names.take n).zipIdx.find? fun k => g.named.any fun a => a.1 = k.1 with
        | some (k, i) =>
          bad ("argument for " ++ name ++ "() given by name ('" ++ k ++ "') and position (" ++ toString (i + 1)
            ++ ")")
        | none => .ok (placed ++ (names.drop n).map fun k => (g.named.find? (·.1 = k)).map (·.2))

/-! ## What arguments are -/

def wholeArgument (d : Datum) : Outcome Int :=
  match d.int? with
  | some n => .ok n
  | none => .error (.type ("'" ++ d.typeName ++ "' object cannot be interpreted as an integer"))

/-- a whole number argument of machine size -/
def sizeArgument (d : Datum) : Outcome Int := do
  let n ← wholeArgument d
  if fitsPosition n then return n
  else throw (.overflow "Python int too large to convert to C ssize_t")

/-- the name of an argument's type, null going by its own name -/
def argumentType (d : Datum) : String :=
  match d with
  | .data .null => "None"
  | d => d.typeName

/-- the values a loop over something would meet -/
def iterate? : Datum → Option (List Value)
  | .data v => v.items?
  | .mapping es => some (es.map (·.1))
  | .view kind es => some (Datum.viewItems kind es)
  | _ => none

def textOr (fault : Datum → String) (d : Datum) : Outcome (List Char) :=
  match d.text? with
  | some s => .ok s.toList
  | none => .error (.type (fault d))

end BadgeEngine.Condition
