/-
What conditions compute with: values, numbers with an imaginary part, read-only mappings and the views of a
mapping, ranges of keys, and methods that wait for their arguments.
-/
import BadgeEngine.Condition.Fault
import BadgeEngine.Value

namespace BadgeEngine.Condition

open BadgeEngine BadgeEngine.Number BadgeEngine.Text

/-- which side of a mapping a view shows -/
inductive ViewKind where
  | keys
  | values
  | items
  deriving DecidableEq, Repr

/-- what an expression yields -/
inductive Datum where
  | data (v : Value)
  | ellipsis
  | complex (re im : Float)
  /-- a mapping that cannot be changed -/
  | mapping (entries : List (Value × Value))
  | view (kind : ViewKind) (entries : List (Value × Value))
  | slice (low high step : Datum)
  /-- a method that stands at an address -/
  | method (address : String) (owner : Datum) (name : String)

/-- a number an operator works on -/
inductive Num where
  | int (n : Int)
  | float (x : Float)
  | complex (re im : Float)

namespace Datum

abbrev ofInt (n : Int) : Datum := .data (.ofInt n)

abbrev ofFloat (x : Float) : Datum := .data (.scalar (.float x))

abbrev ofBool (b : Bool) : Datum := .data (.ofBool b)

abbrev ofText (s : String) : Datum := .data (.ofText s)

abbrev null : Datum := .data .null

def typeName : Datum → String
  | data v => v.typeName
  | ellipsis => "ellipsis"
  | complex .. => "complex"
  | mapping _ => "mappingproxy"
  | view .keys _ => "dict_keys"
  | view .values _ => "dict_values"
  | view .items _ => "dict_items"
  | slice .. => "slice"
  | method .. => "builtin_function_or_method"

def truthy : Datum → Bool
  | data v => v.truthy
  | complex re im => re != 0 || im != 0
  | mapping es | view _ es => !es.isEmpty
  | ellipsis | slice .. | method .. => true

/-- the number something is, truth values included -/
def num? : Datum → Option Num
  | data (.scalar (.bool b)) => some (.int (if b then 1 else 0))
  | data (.scalar (.int n)) => some (.int n)
  | data (.scalar (.float x)) => some (.float x)
  | complex re im => some (.complex re im)
  | _ => none

/-- the whole number something is, truth values included -/
def int? : Datum → Option Int
  | data (.scalar s) => s.int?
  | _ => none

def text? : Datum → Option String
  | data (.scalar (.text s)) => some s
  | _ => none

def length? : Datum → Option Nat
  | data (.scalar (.text s)) => some s.length
  | data (.list xs) | data (.tuple xs) | data (.set xs) => some xs.length
  | data (.dict es) | mapping es | view _ es => some es.length
  | data (.bytes bs) => some bs.length
  | _ => none

def ofNum : Num → Datum
  | .int n => .ofInt n
  | .float x => .ofFloat x
  | .complex re im => .complex re im

def viewItems (kind : ViewKind) (es : List (Value × Value)) : List Value :=
  es.map fun e =>
    match kind with
    | .keys => e.1
    | .values => e.2
    | .items => .tuple [e.1, e.2]

/-- how a part of a complex number is laid out: a whole number has no point -/
def partLayout : FloatLayout := { plainLayout with point := false }

/-- a complex number in a message; a part that is exactly zero is left out -/
def complexShown (re im : Float) : String :=
  if re == 0 && !signBit re then partLayout.write im ++ "j"
  else
    let i := partLayout.write im
    "(" ++ partLayout.write re ++ (if i.startsWith "-" then "" else "+") ++ i ++ "j)"

/-- something in a message; none when a numeral is too long -/
def shown? : Datum → Option String
  | data v => v.shown?
  | ellipsis => some "Ellipsis"
  | complex re im => some (complexShown re im)
  | mapping es => do return "mappingproxy(" ++ (← (Value.dict es).shown?) ++ ")"
  | view kind es => do
    let name := match kind with | .keys => "dict_keys" | .values => "dict_values" | .items => "dict_items"
    return name ++ "(" ++ (← (Value.list (viewItems kind es)).shown?) ++ ")"
  | slice a b c => do return "slice(" ++ (← a.shown?) ++ ", " ++ (← b.shown?) ++ ", " ++ (← c.shown?) ++ ")"
  | method address owner name =>
    some ("<built-in method " ++ name ++ " of " ++ owner.typeName ++ " object at 0x" ++ address ++ ">")

/-- something as a text; none when a numeral is too long -/
def written? : Datum → Option String
  | data v => v.text?
  | mapping es => (Value.dict es).shown?
  | d => d.shown?

/-- something in a message, or the fault of a numeral too long -/
def shown (d : Datum) : Outcome String := .ofText? d.shown?

/-- something as a text, or the fault of a numeral too long -/
def written (d : Datum) : Outcome String := .ofText? d.written?

/-- whether a complex number equals another number -/
def complexSame (re im : Float) : Num → Bool
  | .int n => im == 0 && compareInt re n = some .eq
  | .float x => im == 0 && re == x
  | .complex a b => re == a && im == b

/-- equality by what is stood for -/
def same : Datum → Datum → Bool
  | data a, data b => a.same b
  | complex re im, b => b.num?.any (complexSame re im)
  | a, complex re im => a.num?.any (complexSame re im)
  | mapping es, data b => (Value.dict es).same b
  | data a, mapping es => a.same (.dict es)
  | mapping es, mapping fs => (Value.dict es).same (.dict fs)
  | ellipsis, ellipsis => true
  | view .keys es, view .keys fs => (Value.set (es.map (·.1))).same (.set (fs.map (·.1)))
  | view .items es, view .items fs => (Value.dict es).same (.dict fs)
  | slice a b c, slice d e f => a.same d && b.same e && c.same f
  | method _ a m, method _ b n => m = n && a.same b
  | _, _ => false

/-- the value of a key; nothing can equal one that is no value -/
def asKey : Datum → Outcome (Option Value)
  | data v =>
    match v.unhashable? with
    | some t => .error (.type ("unhashable type: '" ++ t ++ "'"))
    | none => .ok (some v)
  | d =>
    match d with
    | mapping _ | slice .. | view .keys _ | view .items _ =>
      .error (.type ("unhashable type: '" ++ d.typeName ++ "'"))
    | _ => .ok none

def entry? (es : List (Value × Value)) (k : Option Value) : Option Value :=
  match k with
  | some k => (es.find? fun e => e.1.same k).map (·.2)
  | none => none

end Datum

end BadgeEngine.Condition
