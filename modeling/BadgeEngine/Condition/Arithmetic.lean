/-
Arithmetic of conditions. Whole numbers are unbounded, a whole number beside a double is brought to the
nearest double, division is rounded from the exact quotient, and remainders take the sign of the divisor.
Powers, shifts and texts that would grow too large are refused.
-/
import BadgeEngine.Condition.Expr
import BadgeEngine.Condition.Interpolate
import BadgeEngine.Number.Bits

namespace BadgeEngine.Condition

open BadgeEngine BadgeEngine.Number BadgeEngine.Text

/-- the sign of an operation in a message -/
def BinaryOp.sign : BinaryOp → String
  | .add => "+"
  | .sub => "-"
  | .mul => "*"
  | .matMul => "@"
  | .div => "/"
  | .floorDiv => "//"
  | .mod => "%"
  | .pow => "** or pow()"
  | .shiftLeft => "<<"
  | .shiftRight => ">>"
  | .and => "&"
  | .or => "|"
  | .xor => "^"

/-- the fault of an operation two types do not share -/
def unsupported (op : BinaryOp) (a b : Datum) : Fault :=
  .type ("unsupported operand type(s) for " ++ op.sign ++ ": '" ++ a.typeName ++ "' and '" ++ b.typeName ++ "'")

/-! ## Limits -/

/-- the longest text an operation may make -/
def lengthLimit : Nat := 100000

/-- the highest base and exponent of a power -/
def powerLimit : Nat := 4000000

/-- the most places a shift may move -/
def shiftLimit : Nat := 10000

/-- the highest number a shift may start from: the largest double -/
def shiftBaseLimit : Nat := (Nat.pow 2 53 - 1) * Nat.pow 2 971

/-! ## Complex numbers -/

/-- the quotient of complex numbers, scaled by the larger part of the divisor -/
def complexDiv (a b c d : Float) : Outcome Datum :=
  if c == 0 && d == 0 then .error (.zeroDivision "complex division by zero")
  else if d.abs ≤ c.abs then
    let ratio := d / c
    let denom := c + d * ratio
    .ok (.complex ((a + b * ratio) / denom) ((b - a * ratio) / denom))
  else if c.abs ≤ d.abs then
    let ratio := c / d
    let denom := c * ratio + d
    .ok (.complex ((a * ratio + b) / denom) ((b * ratio - a) / denom))
  else .ok (.complex notANumber notANumber)

/-- the size of a complex number -/
def modulus (re im : Float) : Float :=
  if re == 0 then im.abs else if im == 0 then re.abs else (re * re + im * im).sqrt

/-- a complex number times itself, by squaring -/
def complexPower (a b : Float) : Nat → Nat → Float × Float → Float × Float
  | 0, _, r => r
  | left + 1, n, (re, im) =>
    if n = 0 then (re, im)
    else
      let (re', im') := if n % 2 = 1 then (re * a - im * b, re * b + im * a) else (re, im)
      complexPower (a * a - b * b) (a * b + b * a) left (n / 2) (re', im')

def complexPow (a b c d : Float) : Outcome Datum :=
  let whole := if d == 0 && c.floor == c && c.abs ≤ 100 then truncate? c else none
  match whole with
  | some n =>
    let (re, im) := complexPower a b 8 n.natAbs (1, 0)
    if 0 ≤ n then .ok (.complex re im)
    else if re == 0 && im == 0 then .error (.zeroDivision "0.0 to a negative or complex power")
    else complexDiv 1 0 re im
  | none =>
    if c == 0 && d == 0 then .ok (.complex 1 0)
    else if a == 0 && b == 0 then
      if d != 0 || c < 0 then .error (.zeroDivision "0.0 to a negative or complex power")
      else .ok (.complex 0 0)
    else
      let size := modulus a b
      let angle := Float.atan2 b a
      let len := Float.pow size c
      let phase := angle * c
      if d == 0 then .ok (.complex (len * phase.cos) (len * phase.sin))
      else
        let len := len * Float.exp (-angle * d)
        let phase := phase + d * size.log
        .ok (.complex (len * phase.cos) (len * phase.sin))

/-! ## Powers and shifts -/

def floatPow (x y : Float) : Outcome Datum :=
  if x == 0 && y < 0 then .error (.zeroDivision "0.0 cannot be raised to a negative power")
  else if x < 0 && x.isFinite && y.isFinite && !isWhole y then complexPow x 0 y 0
  else
    let r := Float.pow x y
    if r.isInf && x.isFinite && y.isFinite then .error (.overflow "(34, 'Numerical result out of range')")
    else .ok (.ofFloat r)

def intPow (a b : Int) : Outcome Datum :=
  if 0 ≤ b then .ok (.ofInt (Int.pow a b.toNat)) else do floatPow (← floatOfInt a) (← floatOfInt b)

/-- whether a number is too high for a power; texts and the like have no size -/
def tooHighForPower (d : Datum) : Outcome Bool :=
  match d.num? with
  | some (.int n) => .ok (powerLimit < n.natAbs)
  | some (.float x) => .ok (x.abs > Float.ofNat powerLimit)
  | some (.complex re im) => .ok (modulus re im > Float.ofNat powerLimit)
  | none => .error (.type ("bad operand type for abs(): '" ++ d.typeName ++ "'"))

/-- whether a number is greater in size than a limit -/
def exceeds (limit : Nat) (d : Datum) : Outcome Bool :=
  match d.num? with
  | some (.int n) => .ok (limit < n.natAbs)
  | some (.float x) => .ok (compareInt x.abs limit = some .gt)
  | some (.complex re im) => .ok (compareInt (modulus re im) limit = some .gt)
  | none => .error (.type ("bad operand type for abs(): '" ++ d.typeName ++ "'"))

/-- the text of an operation that is refused -/
def refused (a : Datum) (sign : String) (b : Datum) : Outcome Datum := do
  throw (.tooHigh ((← a.written) ++ " " ++ sign ++ " " ++ (← b.written)))

def power (a b : Datum) : Outcome Datum := do
  if (← tooHighForPower a) || (← tooHighForPower b) then refused a "**" b
  else
    match a.num?, b.num? with
    | some (.int n), some (.int m) => intPow n m
    | some (.complex p q), some y =>
      match y with
      | .int m => do complexPow p q (← floatOfInt m) 0
      | .float y => complexPow p q y 0
      | .complex r s => complexPow p q r s
    | some x, some (.complex r s) =>
      match x with
      | .int n => do complexPow (← floatOfInt n) 0 r s
      | .float x => complexPow x 0 r s
      | .complex p q => complexPow p q r s
    | some (.int n), some (.float y) => do floatPow (← floatOfInt n) y
    | some (.float x), some (.int m) => do floatPow x (← floatOfInt m)
    | some (.float x), some (.float y) => floatPow x y
    | _, _ => throw (unsupported .pow a b)

def shift (op : BinaryOp) (a b : Datum) : Outcome Datum := do
  if (← exceeds shiftLimit b) || (← exceeds shiftBaseLimit a) then refused a op.sign b
  else
    match a.int?, b.int? with
    | some n, some m =>
      if m < 0 then throw (.value "negative shift count")
      else if op = .shiftLeft then return .ofInt (n * Int.pow 2 m.toNat)
      else return .ofInt (n.fdiv (Int.pow 2 m.toNat))
    | _, _ => throw (unsupported op a b)

/-! ## Texts and lists -/

/-- the fault of a comparison two types do not share -/
def incomparable (sign : String) (a b : String) : Fault :=
  .type ("'" ++ sign ++ "' not supported between instances of '" ++ a ++ "' and '" ++ b ++ "'")

def repetitions (n : Int) : Outcome Nat :=
  if -Int.pow 2 63 ≤ n ∧ n < Int.pow 2 63 then .ok n.toNat
  else .error (.overflow "cannot fit 'int' into an index-sized integer")

/-- a list several times over -/
def repeated {α : Type} (n : Nat) (xs : List α) : List α :=
  if xs.isEmpty then [] else (List.replicate n xs).flatten

/-- something that can be repeated, several times over; none for other things -/
def repeatDatum? (d : Datum) (n : Int) : Option (Outcome Datum) :=
  match d with
  | .data (.scalar (.text s)) => some do
    return .ofText (String.ofList (repeated (← repetitions n) s.toList))
  | .data (.list vs) => some do return .data (.list (repeated (← repetitions n) vs))
  | .data (.tuple vs) => some do return .data (.tuple (repeated (← repetitions n) vs))
  | .data (.bytes bs) => some do return .data (.bytes (repeated (← repetitions n) bs))
  | _ => none

def isSequence : Datum → Bool
  | .data (.scalar (.text _)) | .data (.list _) | .data (.tuple _) | .data (.bytes _) => true
  | _ => false

/-- refuses a repetition of something `len` long that would grow too long -/
def checkRepetition (count : Datum) (len : Nat) : Outcome Unit := do
  match count.num? with
  | some (.int n) => if (lengthLimit : Int) < n * len then throw (.tooLong .repetition)
  | some (.float x) => if x * Float.ofNat len > Float.ofNat lengthLimit then throw (.tooLong .repetition)
  | some (.complex ..) => throw (incomparable ">" "complex" "int")
  | none =>
    if isSequence count then throw (incomparable ">" count.typeName "int")
    else throw (unsupported .mul count (.ofInt len))

/-! ## Operations on numbers -/

/-- a remainder or quotient of whole numbers, rounded down -/
def intDiv (op : BinaryOp) (n m : Int) : Outcome Datum :=
  if m = 0 then
    .error (.zeroDivision (if op = .mod then "integer modulo by zero" else "integer division or modulo by zero"))
  else .ok (.ofInt (if op = .mod then n.fmod m else n.fdiv m))

/-- an operation on whole numbers -/
def intOp (op : BinaryOp) (n m : Int) : Option (Outcome Datum) :=
  match op with
  | .add => some (.ok (.ofInt (n + m)))
  | .sub => some (.ok (.ofInt (n - m)))
  | .mul => some (.ok (.ofInt (n * m)))
  | .div => some (
    if m = 0 then .error (.zeroDivision "division by zero")
    else match ofQuotient? n m with
      | some x => .ok (.ofFloat x)
      | none => .error (.overflow "integer division result too large for a float"))
  | .floorDiv | .mod => some (intDiv op n m)
  | .and => some (.ok (.ofInt (bitAnd n m)))
  | .or => some (.ok (.ofInt (bitOr n m)))
  | .xor => some (.ok (.ofInt (bitXor n m)))
  | _ => none

/-- an operation on doubles -/
def floatOp (op : BinaryOp) (x y : Float) : Option (Outcome Datum) :=
  match op with
  | .add => some (.ok (.ofFloat (x + y)))
  | .sub => some (.ok (.ofFloat (x - y)))
  | .mul => some (.ok (.ofFloat (x * y)))
  | .div => some (if y == 0 then .error (.zeroDivision "float division by zero") else .ok (.ofFloat (x / y)))
  | .floorDiv => some (
    if y == 0 then .error (.zeroDivision "float floor division by zero") else .ok (.ofFloat (floorDiv x y)))
  | .mod => some (if y == 0 then .error (.zeroDivision "float modulo") else .ok (.ofFloat (floorMod x y)))
  | _ => none

/-- an operation on complex numbers -/
def complexOp (op : BinaryOp) (a b c d : Float) : Option (Outcome Datum) :=
  match op with
  | .add => some (.ok (.complex (a + c) (b + d)))
  | .sub => some (.ok (.complex (a - c) (b - d)))
  | .mul => some (.ok (.complex (a * c - b * d) (a * d + b * c)))
  | .div => some (complexDiv a b c d)
  | _ => none

/-- whether an operation is defined on doubles -/
def BinaryOp.onFloats (op : BinaryOp) : Bool :=
  op = .add || op = .sub || op = .mul || op = .div || op = .floorDiv || op = .mod

/-- whether an operation is defined on complex numbers -/
def BinaryOp.onComplex (op : BinaryOp) : Bool :=
  op = .add || op = .sub || op = .mul || op = .div

/-- an operation on two numbers; none when it is not defined on them -/
def numOp? (op : BinaryOp) (a b : Num) : Option (Outcome Datum) :=
  let lift2 (a b : Num) : Option (Outcome Datum) :=
    let parts (n : Num) : Outcome (Float × Float) :=
      match n with
      | .int n => do return (← floatOfInt n, 0)
      | .float x => .ok (x, 0)
      | .complex re im => .ok (re, im)
    if !op.onComplex then none
    else some do
      let (p, q) ← parts a
      let (r, s) ← parts b
      (complexOp op p q r s).getD (.error .noMatrixProduct)
  match a, b with
  | .int n, .int m => intOp op n m
  | .float x, .float y => floatOp op x y
  | .int n, .float y =>
    if op.onFloats then some do (floatOp op (← floatOfInt n) y).getD (.error .noMatrixProduct) else none
  | .float x, .int m =>
    if op.onFloats then some do (floatOp op x (← floatOfInt m)).getD (.error .noMatrixProduct) else none
  | .complex p q, b => lift2 (.complex p q) b
  | a, .complex r s => lift2 a (.complex r s)

/-! ## Operators -/

/-- two mappings joined: the later value of a key wins and keeps the earlier place -/
def joinEntries (es fs : List (Value × Value)) : List (Value × Value) :=
  fs.foldl (fun es f =>
    if es.any (fun e => e.1.same f.1) then es.map fun e => if e.1.same f.1 then (e.1, f.2) else e
    else es ++ [f]) es

def entries? : Datum → Option (List (Value × Value))
  | .data (.dict es) | .mapping es => some es
  | _ => none

/-- the name of a type, a read-only mapping going by the name of a mapping -/
def mappingName (d : Datum) : String :=
  match d with
  | .mapping _ => "dict"
  | d => d.typeName

/-- a sum of two things that are not both numbers -/
def concatenate (a b : Datum) : Outcome Datum := do
  match a.length?, b.length? with
  | some n, some m => if lengthLimit < n + m then throw (.tooLong .concatenation)
  | _, _ => pure ()
  let only (name : String) : Fault :=
    .type ("can only concatenate " ++ name ++ " (not \"" ++ b.typeName ++ "\") to " ++ name)
  match a, b with
  | .data (.scalar (.text s)), .data (.scalar (.text t)) => return .ofText (s ++ t)
  | .data (.list xs), .data (.list ys) => return .data (.list (xs ++ ys))
  | .data (.tuple xs), .data (.tuple ys) => return .data (.tuple (xs ++ ys))
  | .data (.bytes xs), .data (.bytes ys) => return .data (.bytes (xs ++ ys))
  | .data (.scalar (.text _)), _ => throw (only "str")
  | .data (.list _), _ => throw (only "list")
  | .data (.tuple _), _ => throw (only "tuple")
  | .data (.bytes _), _ => throw (.type ("can't concat " ++ b.typeName ++ " to bytes"))
  | _, _ => throw (unsupported .add a b)

/-- a product of two things that are not both numbers -/
def multiply (a b : Datum) : Outcome Datum := do
  match a.length? with
  | some n => checkRepetition b n
  | none => pure ()
  match b.length? with
  | some n => checkRepetition a n
  | none => pure ()
  if isSequence a then
    match b.int? with
    | some n => (repeatDatum? a n).getD (throw (unsupported .mul a b))
    | none => throw (.type ("can't multiply sequence by non-int of type '" ++ b.typeName ++ "'"))
  else if isSequence b then
    match a.int? with
    | some n => (repeatDatum? b n).getD (throw (unsupported .mul a b))
    | none => throw (.type ("can't multiply sequence by non-int of type '" ++ a.typeName ++ "'"))
  else throw (unsupported .mul a b)

/-- an operator between two values -/
def applyBinary (op : BinaryOp) (a b : Datum) : Outcome Datum :=
  match op with
  | .matMul => .error .noMatrixProduct
  | .pow => power a b
  | .shiftLeft | .shiftRight => shift op a b
  | _ =>
    match op, a, b with
    | .and, .data (.scalar (.bool p)), .data (.scalar (.bool q)) => .ok (.ofBool (p && q))
    | .or, .data (.scalar (.bool p)), .data (.scalar (.bool q)) => .ok (.ofBool (p || q))
    | .xor, .data (.scalar (.bool p)), .data (.scalar (.bool q)) => .ok (.ofBool (p != q))
    | _, _, _ =>
      match a.num?.bind fun x => b.num?.bind fun y => numOp? op x y with
      | some r => r
      | none =>
        match op, a with
        | .add, _ => concatenate a b
        | .mul, _ => multiply a b
        | .mod, .data (.scalar (.text s)) => do return .ofText (← interpolate s b)
        | .or, _ =>
          match entries? a, entries? b with
          | some es, some fs => .ok (.data (.dict (joinEntries es fs)))
          | _, _ => .error (.type ("unsupported operand type(s) for |: '" ++ mappingName a ++ "' and '"
              ++ mappingName b ++ "'"))
        | _, _ => .error (unsupported op a b)

/-- an operator before a value -/
def applyUnary (op : UnaryOp) (d : Datum) : Outcome Datum :=
  let bad (sign : String) : Outcome Datum :=
    .error (.type ("bad operand type for unary " ++ sign ++ ": '" ++ d.typeName ++ "'"))
  match op, d.num? with
  | .not, _ => .ok (.ofBool (!d.truthy))
  | .minus, some (.int n) => .ok (.ofInt (-n))
  | .minus, some (.float x) => .ok (.ofFloat (-x))
  | .minus, some (.complex re im) => .ok (.complex (-re) (-im))
  | .minus, none => bad "-"
  | .plus, some n => .ok (.ofNum n)
  | .plus, none => bad "+"
  | .invert, some (.int n) => .ok (.ofInt (-n - 1))
  | .invert, _ => bad "~"

end BadgeEngine.Condition
