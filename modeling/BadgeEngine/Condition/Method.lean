/-
Methods of values. A method never changes the value it belongs to: those that would are only seen to give an answer, as
nothing else refers to a list or mapping that a condition makes.
-/
import BadgeEngine.Condition.TextMethod
import BadgeEngine.Number.Based
import BadgeEngine.Number.HexFloat

namespace BadgeEngine.Condition

open BadgeEngine BadgeEngine.Number BadgeEngine.Text

/-! ## Numbers -/

def orderArgument (name : String) (d : Option Datum) : Outcome ByteOrder :=
  match d with
  | none => .ok .big
  | some d =>
    match d.text? with
    | some "little" => .ok .little
    | some "big" => .ok .big
    | some _ => .error (.value "byteorder must be either 'little' or 'big'")
    | none => .error (.type (name ++ "() argument 'byteorder' must be str, not " ++ argumentType d))

def signArgument (d : Option Datum) : Bool := d.any Datum.truthy

/-- the bytes of a whole number -/
def bytesOfInt (n : Int) (length order signed : Option Datum) : Outcome Datum := do
  let length ← match length with | some d => sizeArgument d | none => pure 1
  let order ← orderArgument "to_bytes" order
  if length < 0 then throw (.value "length argument must be non-negative")
  let limit : Int := Int.pow 256 length.toNat
  let tooBig : Fault := .overflow "int too big to convert"
  if signArgument signed then
    if 2 * n < -limit || limit ≤ 2 * n then throw tooBig
  else
    if n < 0 then throw (.overflow "can't convert negative int to unsigned")
    if limit ≤ n then throw tooBig
  return .data (.bytes (bytesIn order length.toNat (n % limit).toNat))

def bytesArgument (d : Datum) : Outcome (List Nat) :=
  let refused : Fault := .type ("cannot convert '" ++ d.typeName ++ "' object to bytes")
  match d with
  | .data (.bytes bs) => .ok bs
  | .data (.scalar _) => .error refused
  | d =>
    match iterate? d with
    | none => .error refused
    | some vs => vs.mapM fun v => do
      let n ← wholeArgument (.data v)
      if 0 ≤ n && n < 256 then return n.toNat else throw (.value "bytes must be in range(0, 256)")

/-- the whole number of bytes -/
def intOfBytes (bytes order signed : Option Datum) : Outcome Datum := do
  match bytes with
  | none => throw (.type "from_bytes() missing required argument 'bytes' (pos 1)")
  | some d =>
    let order ← orderArgument "from_bytes" order
    let bs ← bytesArgument d
    let high := match order with | .big => bs | .little => bs.reverse
    let n : Int := (high.foldl (fun n b => 256 * n + b) 0 : Nat)
    let limit : Int := Int.pow 256 bs.length
    return .ofInt (if signArgument signed && limit ≤ 2 * n then n - limit else n)

/-- what the methods of whole numbers take -/
def intTakes (name : String) : Takes :=
  match name with
  | "to_bytes" => .byName ["length", "byteorder", "signed"] 2
  | "from_bytes" => .byName ["bytes", "byteorder", "signed"] 2
  | _ => .nothing

/-- a method of a whole number -/
def intMethod (name : String) (n : Int) (args : List (Option Datum)) : Outcome Datum :=
  match name, args with
  | "bit_length", _ => .ok (.ofInt (if n = 0 then 0 else Nat.log2 n.natAbs + 1))
  | "bit_count", _ => .ok (.ofInt (countOnes n.natAbs))
  | "as_integer_ratio", _ => .ok (.data (.tuple [.ofInt n, .ofInt 1]))
  | "to_bytes", [length, order, signed] => bytesOfInt n length order signed
  | "from_bytes", [bytes, order, signed] => intOfBytes bytes order signed
  | _, _ => .ok (.ofInt n)

/-- a double as a quotient in lowest terms -/
def ratioOf (x : Float) : Outcome Datum :=
  match parts x with
  | .nan => .error (.value "cannot convert NaN to integer ratio")
  | .inf _ => .error (.overflow "cannot convert Infinity to integer ratio")
  | .finite neg m e =>
    let (num, den) := scaled m e
    let g := Nat.gcd num den
    let n : Int := (num / g : Nat)
    .ok (.data (.tuple [.ofInt (if neg then -n else n), .ofInt (den / g : Nat)]))

/-- the double that an argument shows in base 16 -/
def floatOfHex (d : Datum) : Outcome Datum :=
  match d.text? with
  | none => .error (.type "bad argument type for built-in operation")
  | some s =>
    match readHexFloat s.toList with
    | .ok x => .ok (.ofFloat x)
    | .error .malformed => .error (.value "invalid hexadecimal floating-point string")
    | .error .tooLarge => .error (.overflow "hexadecimal value too large to represent as a float")

def floatMethod (name : String) (x : Float) (args : List (Option Datum)) : Outcome Datum :=
  match name, args with
  | "is_integer", _ => .ok (.ofBool (isWhole x))
  | "as_integer_ratio", _ => ratioOf x
  | "hex", _ => .ok (.ofText (hexFloatText x))
  | "fromhex", [some d] => floatOfHex d
  | _, _ => .ok (.ofFloat x)

/-! ## Lists and mappings -/

def itemsArgument (d : Datum) : Outcome (List Value) :=
  match iterate? d with
  | some vs => .ok vs
  | none => .error (.type ("'" ++ d.typeName ++ "' object is not iterable"))

/-- where a search among a number of items begins or ends -/
def searchBound (len : Nat) (otherwise : Int) (d : Option Datum) : Outcome Int :=
  match d with
  | none => .ok otherwise
  | some d =>
    match d.int? with
    | some n => .ok (max 0 (if n < 0 then n + len else n))
    | none => .error (.type "slice indices must be integers or have an __index__ method")

/-- where an item first stands, from a position on and before another -/
def indexIn (owner : String) (vs : List Value) (d : Datum) (start stop : Option Datum) : Outcome Datum := do
  let start ← searchBound vs.length 0 start
  let stop ← searchBound vs.length vs.length stop
  let part := (vs.take stop.toNat).drop start.toNat
  match part.findIdx? fun v => (Datum.data v).same d with
  | some i => return .ofInt (start + i)
  | none =>
    if owner = "list" then throw (.value ((← d.shown) ++ " is not in list"))
    else throw (.value "tuple.index(x): x not in tuple")

/-- whether all neighbours can be put in order -/
def checkSorted : List Value → Outcome Datum
  | v :: w :: vs => do
    let _ ← compareValues .lt w v
    checkSorted (w :: vs)
  | _ => .ok .null

def listMethod (owner name : String) (vs : List Value) (args : List (Option Datum)) : Outcome Datum := do
  match name, args with
  | "count", [some d] => return .ofInt (vs.countP fun v => (Datum.data v).same d)
  | "index", [some d, start, stop] => indexIn owner vs d start stop
  | "copy", _ => return .data (.list vs)
  | "extend", [some d] => do
    let _ ← itemsArgument d
    return .null
  | "insert", [some i, _] => do
    let _ ← sizeArgument i
    return .null
  | "pop", [i] => do
    let n ← match i with | some d => sizeArgument d | none => pure (-1)
    if vs.isEmpty then throw (.index "pop from empty list")
    match (position? vs.length n).bind (vs[·]?) with
    | some v => return .data v
    | none => throw (.index "pop index out of range")
  | "remove", [some d] =>
    if vs.any fun v => (Datum.data v).same d then return .null
    else throw (.value "list.remove(x): x not in list")
  | "sort", _ => checkSorted vs
  | _, _ => return .null

/-- checks the items that a mapping is brought up to date with: pairs, of which the first is a key -/
def checkPairs : Nat → List Value → Outcome Unit
  | _, [] => .ok ()
  | i, v :: vs => do
    match v.items? with
    | none => throw (.type ("cannot convert dictionary update sequence element #" ++ toString i ++ " to a sequence"))
    | some [k, _] => do
      let _ ← (Datum.data k).asKey
      checkPairs (i + 1) vs
    | some pair =>
      throw (.value ("dictionary update sequence element #" ++ toString i ++ " has length " ++ toString pair.length
        ++ "; 2 is required"))

/-- a mapping with one value for all of some keys; what is no value is not kept -/
def mappingOf (keys : List Value) (d : Option Datum) : Outcome Datum := do
  let v : Value := match d with | some (.data v) => v | _ => .null
  let es ← keys.foldlM (fun es k => do
    let _ ← (Datum.data k).asKey
    return joinEntries es [(k, v)]) []
  return .data (.dict es)

def missingKey (d : Datum) : Fault := d.shown?.elim .unshownKey .key

def mappingMethod (name : String) (es : List (Value × Value)) (args : List (Option Datum)) : Outcome Datum := do
  match name, args with
  | "get", [some d, otherwise] =>
    match Datum.entry? es (← d.asKey) with
    | some v => return .data v
    | none => return otherwise.getD .null
  | "keys", _ => return .view .keys es
  | "values", _ => return .view .values es
  | "items", _ => return .view .items es
  | "copy", _ => return .data (.dict es)
  | "fromkeys", [some d, v] => do mappingOf (← itemsArgument d) v
  | "pop", [some d, otherwise] =>
    match Datum.entry? es (← d.asKey), otherwise with
    | some v, _ => return .data v
    | none, some d => return d
    | none, none => throw (missingKey d)
  | "popitem", _ =>
    match es.getLast? with
    | some (k, v) => return .data (.tuple [k, v])
    | none => throw (.key (quoted "popitem(): dictionary is empty"))
  | "setdefault", [some d, otherwise] =>
    match Datum.entry? es (← d.asKey) with
    | some v => return .data v
    | none => return otherwise.getD .null
  | "update", [some d] =>
    match entries? d with
    | some _ => return .null
    | none => do
      checkPairs 0 (← itemsArgument d)
      return .null
  | _, _ => return .null

def containerTakes (owner : Datum) (name : String) : Takes :=
  match owner, name with
  | .data (.list _), "pop" => .between 0 1
  | .data (.list _), "sort" => .byName ["key", "reverse"] 0
  | _, "get" | _, "pop" | _, "setdefault" | _, "fromkeys" => .between 1 2
  | _, "count" | _, "append" | _, "extend" | _, "remove" => .one
  | _, "index" => .between 1 3
  | _, "insert" => .between 2 2
  | _, _ => .nothing

/-- the arguments of a method of a mapping; one that brings it up to date takes any names -/
def arrangeMapping (owner : Datum) (name : String) (g : Given) : Outcome (List (Option Datum)) :=
  match owner, name with
  | .data (.dict _), "update" => arrange owner.typeName name (.between 0 1) ⟨g.args, []⟩
  | _, _ => arrange owner.typeName name (containerTakes owner name) g

/-! ## Calls -/

def callMethod (owner : Datum) (name : String) (g : Given) : Outcome Datum := do
  let type := owner.typeName
  match owner with
  | .data (.scalar (.text s)) => textMethod name s (← arrange type name (textTakes name) g)
  | .data (.scalar (.float x)) => do
    floatMethod name x (← arrange type name (if name = "fromhex" then .one else .nothing) g)
  | .data (.scalar _) => do intMethod name (owner.int?.getD 0) (← arrange type name (intTakes name) g)
  | .complex re im => do
    let _ ← arrange type name .nothing g
    return .complex re (-im)
  | .data (.list vs) | .data (.tuple vs) => do
    listMethod type name vs (← arrange type name (containerTakes owner name) g)
  | .data (.dict es) | .mapping es => do mappingMethod name es (← arrangeMapping owner name g)
  | .view kind es => do
    match ← arrange type name .one g with
    | [some d] => return .ofBool (!((← itemsArgument d).any fun v => (Datum.viewItems kind es).any v.same))
    | _ => return .null
  | _ => throw (.type ("'" ++ type ++ "' object is not callable"))

/-- whether a method takes all its arguments as they come, so that the kind of their names goes unseen -/
def takesAnyNames (owner : Datum) (name : String) : Bool :=
  match owner with
  | .data (.scalar (.text _)) => match textTakes name with | .search => true | _ => false
  | _ => false

end BadgeEngine.Condition
