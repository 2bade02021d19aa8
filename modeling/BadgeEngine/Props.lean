/-
Properties: values under names, in the order in which the names first came. Numbers can be added to; what is
no number counts as zero then.
-/
import BadgeEngine.Entries
import BadgeEngine.Number.Double
import BadgeEngine.Problem

namespace BadgeEngine

open BadgeEngine.Number BadgeEngine.Text

/-- properties in order -/
structure Props where
  entries : List (String × Scalar) := []

namespace Props

def get? (p : Props) (name : String) : Option Scalar :=
  p.entries.lookup name

def contains (p : Props) (name : String) : Bool :=
  (p.get? name).isSome

/-- the names in order -/
def names (p : Props) : List String :=
  p.entries.map (·.1)

def set (p : Props) (name : String) (x : Scalar) : Props :=
  ⟨Entries.put name x p.entries⟩

def setAll (p : Props) (es : List (String × Scalar)) : Props :=
  es.foldl (fun p e => p.set e.1 e.2) p

def toEntries (p : Props) : List (Value × Value) :=
  p.entries.map fun e => (.ofText e.1, .scalar e.2)

def toValue (p : Props) : Value := .dict p.toEntries

end Props

def checkScalar (name : String) : Value → Except Problem Scalar
  | .scalar x => .ok x
  | v => .error (.wrongType ("Property " ++ quoted name ++ " must be str, int, float or bool, got " ++ v.typeName))

def asNumber : Value → Scalar
  | .scalar (.int n) => .int n
  | .scalar (.float x) => .float x
  | _ => .int 0

/-- a sum of two numbers; a whole number beside a double must fit into one -/
def addNumbers (a b : Scalar) : Except Problem Scalar :=
  let toDouble (n : Int) : Except Problem Float :=
    match ofInt? n with
    | some x => .ok x
    | none => .error (.overflow "int too large to convert to float")
  match a, b with
  | .int n, .int m => .ok (.int (n + m))
  | .float x, .float y => .ok (.float (x + y))
  | .int n, .float y => do return .float ((← toDouble n) + y)
  | .float x, .int m => do return .float (x + (← toDouble m))
  | a, _ => .ok a

def negate : Scalar → Scalar
  | .int n => .int (-n)
  | .float x => .float (-x)
  | a => a

namespace Props

def setValue (p : Props) (name : String) (v : Value) : Except Problem Props := do
  return p.set name (← checkScalar name v)

/-- the sum a number added to a name makes -/
def sumWith (p : Props) (name : String) (delta : Scalar) : Except Problem Scalar :=
  addNumbers (match p.get? name with | some x => asNumber (.scalar x) | none => .int 0) delta

def addValue (p : Props) (name : String) (delta : Value) : Except Problem Props := do
  return p.set name (← p.sumWith name (asNumber delta))

def subtractValue (p : Props) (name : String) (delta : Value) : Except Problem Props := do
  return p.set name (← p.sumWith name (negate (asNumber delta)))

/-- sets the values of a mapping up to the first that a property may not hold; those before it stay set -/
def update (p : Props) : List (String × Value) → Props × Option Problem
  | [] => (p, none)
  | (n, v) :: es =>
    match p.setValue n v with
    | .ok p => p.update es
    | .error e => (p, some e)

def ofEntries (es : List (String × Value)) : Except Problem Props :=
  match Props.update {} es with
  | (p, none) => .ok p
  | (_, some e) => .error e

end Props

end BadgeEngine
