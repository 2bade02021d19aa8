/-
Parts of values: items by position or key, ranges of items, and attributes.
-/
import BadgeEngine.Condition.Order

namespace BadgeEngine.Condition

open BadgeEngine BadgeEngine.Number BadgeEngine.Text

/-- a position in a list of a length, counted from the end when negative -/
def position? (len : Nat) (n : Int) : Option Nat :=
  let i := if n < 0 then n + len else n
  if 0 ≤ i ∧ i < len then some i.toNat else none

def fitsPosition (n : Int) : Bool :=
  -Int.pow 2 63 ≤ n && n < Int.pow 2 63

/-- an end of a range, brought between `low` and `high` -/
def clampEnd (len : Nat) (low high : Int) (n : Int) : Int :=
  let i := if n < 0 then n + len else n
  if i < low then low else if high < i then high else i

def boundOf (d : Datum) : Outcome (Option Int) :=
  match d with
  | .data .null => .ok none
  | d =>
    match d.int? with
    | some n => .ok (some n)
    | none => .error (.type "slice indices must be integers or None or have an __index__ method")

/-- the items from a position on by steps, as long as the end is not reached -/
def stepItems {α : Type} (xs : Array α) (step stop : Int) : Nat → Int → List α
  | 0, _ => []
  | left + 1, i =>
    if (0 < step ∧ stop ≤ i) ∨ (step < 0 ∧ i ≤ stop) then []
    else
      match xs[i.toNat]? with
      | some x => x :: stepItems xs step stop left (i + step)
      | none => []

def sliceItems {α : Type} (xs : List α) (low high step : Datum) : Outcome (List α) := do
  let step ← boundOf step
  let step := step.getD 1
  if step = 0 then throw (.value "slice step cannot be zero")
  let low ← boundOf low
  let high ← boundOf high
  let len := xs.length
  if 0 < step then
    let i := (low.map (clampEnd len 0 len)).getD 0
    let j := (high.map (clampEnd len 0 len)).getD len
    return stepItems xs.toArray step j len i
  else
    let i := (low.map (clampEnd len (-1) (len - 1))).getD (len - 1)
    let j := (high.map (clampEnd len (-1) (len - 1))).getD (-1)
    return stepItems xs.toArray step j len i

/-- the faults of a list that is asked for an item -/
structure ItemFaults where
  outOfRange : String
  wrongType : String → String

def pickItem {α : Type} (xs : List α) (faults : ItemFaults) (key : Datum) : Outcome (α ⊕ List α) :=
  match key with
  | .slice a b c => do return .inr (← sliceItems xs a b c)
  | key =>
    match key.int? with
    | some n =>
      if !fitsPosition n then .error (.index "cannot fit 'int' into an index-sized integer")
      else
        match (position? xs.length n).bind (xs[·]?) with
        | some x => .ok (.inl x)
        | none => .error (.index faults.outOfRange)
    | none => .error (.type (faults.wrongType key.typeName))

def itemOf (container key : Datum) : Outcome Datum :=
  match container with
  | .data (.scalar (.text s)) => do
    match ← pickItem s.toList ⟨"string index out of range",
        fun t => "string indices must be integers, not '" ++ t ++ "'"⟩ key with
    | .inl c => return .ofText c.toString
    | .inr cs => return .ofText (String.ofList cs)
  | .data (.list vs) => do
    match ← pickItem vs ⟨"list index out of range",
        fun t => "list indices must be integers or slices, not " ++ t⟩ key with
    | .inl v => return .data v
    | .inr vs => return .data (.list vs)
  | .data (.tuple vs) => do
    match ← pickItem vs ⟨"tuple index out of range",
        fun t => "tuple indices must be integers or slices, not " ++ t⟩ key with
    | .inl v => return .data v
    | .inr vs => return .data (.tuple vs)
  | .data (.bytes bs) => do
    match ← pickItem bs ⟨"index out of range",
        fun t => "byte indices must be integers or slices, not " ++ t⟩ key with
    | .inl b => return .ofInt b
    | .inr bs => return .data (.bytes bs)
  | .data (.dict es) | .mapping es => do
    match Datum.entry? es (← key.asKey) with
    | some v => return .data v
    | none => throw (key.shown?.elim .unshownKey .key)
  | c => .error (.type ("'" ++ c.typeName ++ "' object is not subscriptable"))

/-! ## Attributes -/

def textMethods : List String :=
  ["capitalize", "casefold", "center", "count", "encode", "endswith", "expandtabs", "find", "index", "isalnum",
    "isalpha", "isascii", "isdecimal", "isdigit", "isidentifier", "islower", "isnumeric", "isprintable",
    "isspace", "istitle", "isupper", "join", "ljust", "lower", "lstrip", "maketrans", "partition",
    "removeprefix", "removesuffix", "replace", "rfind", "rindex", "rjust", "rpartition", "rsplit", "rstrip",
    "split", "splitlines", "startswith", "strip", "swapcase", "title", "translate", "upper", "zfill"]

def intMethods : List String :=
  ["as_integer_ratio", "bit_count", "bit_length", "conjugate", "from_bytes", "to_bytes"]

def floatMethods : List String := ["as_integer_ratio", "conjugate", "fromhex", "hex", "is_integer"]

def listMethods : List String :=
  ["append", "clear", "copy", "count", "extend", "index", "insert", "pop", "remove", "reverse", "sort"]

def dictMethods : List String :=
  ["clear", "copy", "fromkeys", "get", "items", "keys", "pop", "popitem", "setdefault", "update", "values"]

def mappingMethods : List String := ["copy", "get", "items", "keys", "values"]

/-- an attribute that something at an address has of its own -/
def attribute? (address : String) (d : Datum) (name : String) : Option Datum :=
  let oneOf (names : List String) : Option Datum :=
    if names.contains name then some (.method address d name) else none
  match d with
  | .data (.scalar (.text _)) => oneOf textMethods
  | .data (.scalar (.float x)) =>
    if name = "real" then some (.ofFloat x) else if name = "imag" then some (.ofFloat 0) else oneOf floatMethods
  | .data (.scalar _) =>
    match d.int? with
    | none => none
    | some n =>
      if name = "real" ∨ name = "numerator" then some (.ofInt n)
      else if name = "imag" then some (.ofInt 0)
      else if name = "denominator" then some (.ofInt 1)
      else oneOf intMethods
  | .complex re im =>
    if name = "real" then some (.ofFloat re)
    else if name = "imag" then some (.ofFloat im)
    else oneOf ["conjugate"]
  | .data (.list _) => oneOf listMethods
  | .data (.tuple _) => oneOf ["count", "index"]
  | .data (.dict _) => oneOf dictMethods
  | .mapping _ => oneOf mappingMethods
  | .view .values _ => if name = "mapping" then viewMapping d else none
  | .view _ _ => if name = "mapping" then viewMapping d else oneOf ["isdisjoint"]
  | .slice a b c =>
    if name = "start" then some a else if name = "stop" then some b else if name = "step" then some c else none
  | _ => none
where
  /-- the mapping behind a view -/
  viewMapping : Datum → Option Datum
    | .view _ es => some (.mapping es)
    | _ => none

/-- names of methods that are never given out -/
def bannedMethods : List String :=
  ["format", "format_map", "mro", "tb_frame", "gi_frame", "ag_frame", "cr_frame", "exec"]

/-- refuses the names of attributes that are never given out -/
def checkAttribute (name : String) : Outcome Unit :=
  if name.startsWith "_" || name.startsWith "func_" then .error (.hiddenAttribute name)
  else if bannedMethods.contains name then .error (.bannedMethod name)
  else .ok ()

/-- an attribute of something, or else its entry of that name -/
def attributeOf (address : String) (d : Datum) (name : String) : Outcome Datum :=
  match attribute? address d name with
  | some a => .ok a
  | none =>
    match (entries? d).bind fun es => Datum.entry? es (some (.ofText name)) with
    | some v => .ok (.data v)
    | none => .error (.unknownAttribute name)

end BadgeEngine.Condition
