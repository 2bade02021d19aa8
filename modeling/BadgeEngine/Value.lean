/-
Values handed in by the host or read from a document. A scalar is what a property may hold; a value may
also be null, a list, a mapping, a date, a moment, bytes, a set or a tuple. Truth values count as the
numbers 0 and 1, and numbers are compared by what they stand for, whole or not.
-/
import BadgeEngine.Number.FloatText
import BadgeEngine.Text.Quoted
import BadgeEngine.Time.Text

namespace BadgeEngine

open BadgeEngine.Number BadgeEngine.Text BadgeEngine.Time

/-- a value a property may hold -/
inductive Scalar where
  | bool (b : Bool)
  | int (n : Int)
  | float (x : Float)
  | text (s : String)
  deriving DecidableEq

/-- a value handed in -/
inductive Value where
  | null
  | scalar (s : Scalar)
  | list (items : List Value)
  | tuple (items : List Value)
  | set (items : List Value)
  | dict (entries : List (Value × Value))
  | date (d : Date)
  | moment (r : Reading)
  | bytes (bs : List Nat)

instance : Inhabited Value := ⟨.null⟩

namespace Scalar

def typeName : Scalar → String
  | bool _ => "bool"
  | int _ => "int"
  | float _ => "float"
  | text _ => "str"

/-- whether a scalar counts as true: all but false, zero and the empty text -/
def truthy : Scalar → Bool
  | bool b => b
  | int n => n ≠ 0
  | float x => x != 0
  | text s => s ≠ ""

/-- the whole number a truth value or whole number counts as -/
def int? : Scalar → Option Int
  | bool b => some (if b then 1 else 0)
  | int n => some n
  | _ => none

/-- equality by what is stood for -/
def same (a b : Scalar) : Bool :=
  match a, b with
  | text s, text t => s = t
  | float x, float y => x == y
  | float x, b => b.int?.any fun n => compareInt x n = some .eq
  | a, float y => a.int?.any fun n => compareInt y n = some .eq
  | a, b =>
    match a.int?, b.int? with
    | some n, some m => n = m
    | _, _ => false

/-- the scalar in a message, texts in quotes; none when a numeral is too long -/
def shown? : Scalar → Option String
  | bool b => some (if b then "True" else "False")
  | int n => writeInt? n
  | float x => some (floatText x)
  | text s => some (quoted s)

/-- the text of a scalar; none when a numeral is too long -/
def text? : Scalar → Option String
  | text s => some s
  | s => s.shown?

end Scalar

namespace Value

abbrev ofText (s : String) : Value := .scalar (.text s)

abbrev ofInt (n : Int) : Value := .scalar (.int n)

abbrev ofBool (b : Bool) : Value := .scalar (.bool b)

def typeName : Value → String
  | null => "NoneType"
  | scalar s => s.typeName
  | list _ => "list"
  | tuple _ => "tuple"
  | set _ => "set"
  | dict _ => "dict"
  | date _ => "date"
  | moment _ => "datetime"
  | bytes _ => "bytes"

/-- whether a value counts as true: null and empty things do not -/
def truthy : Value → Bool
  | null => false
  | scalar s => s.truthy
  | list xs => !xs.isEmpty
  | tuple xs => !xs.isEmpty
  | set xs => !xs.isEmpty
  | dict es => !es.isEmpty
  | date _ => true
  | moment _ => true
  | bytes bs => !bs.isEmpty

def key? : Value → Option String
  | scalar (.text s) => some s
  | _ => none

def lookup (k : String) (entries : List (Value × Value)) : Option Value :=
  (entries.find? fun e => e.1.key? == some k).map (·.2)

/-- the values a loop over a value meets; a mapping gives its keys, a text its characters -/
def items? : Value → Option (List Value)
  | list vs | tuple vs | set vs => some vs
  | dict es => some (es.map (·.1))
  | scalar (.text s) => some (s.toList.map fun c => .ofText c.toString)
  | bytes bs => some (bs.map fun b => .ofInt (b : Nat))
  | _ => none

/-- the name of the type that keeps a value from being a key, if one does -/
def unhashable? : Value → Option String
  | list _ => some "list"
  | dict _ => some "dict"
  | set _ => some "set"
  | tuple vs => unhashableItem? vs
  | _ => none
where
  /-- the first item that keeps a tuple from being a key -/
  unhashableItem? : List Value → Option String
    | [] => none
    | v :: vs =>
      match unhashable? v with
      | some t => some t
      | none => unhashableItem? vs

/-! ## Messages -/

def readingShown (r : Reading) : String :=
  let t := r.wall
  let d := t.date
  let fields := [d.year, d.month, d.day, t.hour, t.minute]
    ++ (if t.second ≠ 0 ∨ t.micro ≠ 0 then [t.second] else [])
    ++ (if t.micro ≠ 0 then [t.micro] else [])
  let zone := match r.offset with
    | none => ""
    | some 0 => ", tzinfo=datetime.timezone.utc"
    | some o => ", tzinfo=datetime.timezone(" ++ durationShown o ++ ")"
  "datetime.datetime(" ++ ", ".intercalate (fields.map toString) ++ zone ++ ")"

def bytesShown (bs : List Nat) : String :=
  let cs := bs.map Char.ofNat
  let q := quoteFor cs
  let body := cs.flatMap fun c =>
    if c.toNat < 128 then quoteChar q c else '\\' :: 'x' :: hexDigits 2 c.toNat
  String.ofList ('b' :: q :: body ++ [q])

mutual

/-- a value in a message; none when a numeral is too long -/
def shown? : Value → Option String
  | null => some "None"
  | scalar s => s.shown?
  | list xs => do return "[" ++ ", ".intercalate (← itemsShown? xs) ++ "]"
  | tuple xs => do
    match ← itemsShown? xs with
    | [one] => return "(" ++ one ++ ",)"
    | ss => return "(" ++ ", ".intercalate ss ++ ")"
  | set xs => do
    match ← itemsShown? xs with
    | [] => return "set()"
    | ss => return "\x7b" ++ ", ".intercalate ss ++ "\x7d"
  | dict es => do return "\x7b" ++ ", ".intercalate (← entriesShown? es) ++ "\x7d"
  | date d => some ("datetime.date(" ++ toString d.year ++ ", " ++ toString d.month ++ ", "
      ++ toString d.day ++ ")")
  | moment r => some (readingShown r)
  | bytes bs => some (bytesShown bs)

def itemsShown? : List Value → Option (List String)
  | [] => some []
  | v :: vs => do return (← v.shown?) :: (← itemsShown? vs)

def entriesShown? : List (Value × Value) → Option (List String)
  | [] => some []
  | (k, v) :: es => do return ((← k.shown?) ++ ": " ++ (← v.shown?)) :: (← entriesShown? es)

end

/-- the text of a value; none when a numeral is too long -/
def text? : Value → Option String
  | scalar s => s.text?
  | date d => some d.text
  | moment r =>
    let micros := if r.wall.micro = 0 then "" else "." ++ padded 6 r.wall.micro
    let zone := match r.offset with | none => "" | some o => offsetText o
    some (r.wall.date.text ++ " " ++ padded 2 r.wall.hour ++ ":" ++ padded 2 r.wall.minute ++ ":"
      ++ padded 2 r.wall.second ++ micros ++ zone)
  | v => v.shown?

/-! ## Equality -/

mutual

/-- equality of values, given that of scalars; the entries of a mapping have no order -/
def sameBy (eq : Scalar → Scalar → Bool) : Value → Value → Bool
  | null, null => true
  | scalar a, scalar b => eq a b
  | list xs, list ys => itemsSame eq xs ys
  | tuple xs, tuple ys => itemsSame eq xs ys
  | set xs, set ys => xs.length = ys.length && itemsIn eq xs ys
  | dict es, dict fs => es.length = fs.length && entriesIn eq es fs
  | date a, date b => a = b
  | moment a, moment b => a = b
  | bytes a, bytes b => a = b
  | _, _ => false

def itemsSame (eq : Scalar → Scalar → Bool) : List Value → List Value → Bool
  | [], [] => true
  | x :: xs, y :: ys => x.sameBy eq y && itemsSame eq xs ys
  | _, _ => false

/-- whether every item equals one of another list -/
def itemsIn (eq : Scalar → Scalar → Bool) : List Value → List Value → Bool
  | [], _ => true
  | x :: xs, ys => ys.any (fun y => x.sameBy eq y) && itemsIn eq xs ys

/-- whether every entry has an equal one in another mapping -/
def entriesIn (eq : Scalar → Scalar → Bool) :
    List (Value × Value) → List (Value × Value) → Bool
  | [], _ => true
  | (k, v) :: es, fs => fs.any (fun f => k.sameBy eq f.1 && v.sameBy eq f.2) && entriesIn eq es fs

end

/-- equality by what values stand for; what is not a number differs from itself -/
def same (a b : Value) : Bool := a.sameBy Scalar.same b

/-- equality as written: every number, and what is not one, is itself alone -/
def identical (a b : Value) : Bool := a.sameBy (fun x y => x = y) b

end Value

end BadgeEngine
