/-
Exact arithmetic on double-precision numbers: a finite one is taken apart into a sign, a whole number and
a power of two, and a quotient of whole numbers is rounded to the nearest double, ties to even. Order
against whole numbers, whole parts, remainders and powers rest on these two.
-/

namespace BadgeEngine.Number

/-- a double taken apart; a finite one is `± m · 2 ^ e` -/
inductive Parts where
  | nan
  | inf (neg : Bool)
  | finite (neg : Bool) (m : Nat) (e : Int)
  deriving DecidableEq, Repr

/-- takes a double apart -/
def parts (x : Float) : Parts :=
  let bits : Nat := x.toBits.toNat
  let neg : Bool := bits / Nat.pow 2 63 = 1
  let ex : Nat := bits / Nat.pow 2 52 % 2048
  let frac : Nat := bits % Nat.pow 2 52
  if ex = 2047 then if frac = 0 then .inf neg else .nan
  else if ex = 0 then .finite neg frac (-1074)
  else .finite neg (Nat.pow 2 52 + frac) ((ex : Int) - 1075)

def signBit (x : Float) : Bool :=
  x.toBits.toNat / Nat.pow 2 63 = 1

def ofFields (neg : Bool) (ex frac : Nat) : Float :=
  Float.ofBits (UInt64.ofNat ((if neg then Nat.pow 2 63 else 0) + ex * Nat.pow 2 52 + frac))

/-- infinity of either sign -/
def infinity (neg : Bool) : Float := ofFields neg 2047 0

/-- the not-a-number this library writes -/
def notANumber : Float := ofFields false 2047 (Nat.pow 2 51)

/-- zero of either sign -/
def zero (neg : Bool) : Float := ofFields neg 0 0

/-- a quotient rounded to the nearest whole number, a half to the even neighbour -/
def roundDiv (num den : Nat) : Nat :=
  let q := num / den
  let r := num % den
  if 2 * r < den then q else if den < 2 * r then q + 1 else if q % 2 = 0 then q else q + 1

/-- the power of two below a positive quotient: `2 ^ k ≤ num / den < 2 ^ (k + 1)` -/
def binaryOrder (num den : Nat) : Int :=
  let k : Int := (Nat.log2 num : Int) - (Nat.log2 den : Int)
  let below := if 0 ≤ k then num < den * Nat.pow 2 k.toNat else num * Nat.pow 2 (-k).toNat < den
  if below then k - 1 else k

/-- the double nearest to a quotient, ties to even; `none` when it lies beyond the largest -/
def nearest? (neg : Bool) (num den : Nat) : Option Float :=
  if num = 0 then some (zero neg)
  else
    let k := binaryOrder num den
    let e : Int := if k - 52 < -1074 then -1074 else k - 52
    let m := if 0 ≤ e then roundDiv num (den * Nat.pow 2 e.toNat) else roundDiv (num * Nat.pow 2 (-e).toNat) den
    -- a carry into the next power of two is absorbed by the exponent field
    let field : Nat := if m < Nat.pow 2 52 then m else (e + 1075).toNat * Nat.pow 2 52 + (m - Nat.pow 2 52)
    if field < 2047 * Nat.pow 2 52 then some (ofFields neg 0 field) else none

/-- a double nearest to a quotient; infinity beyond the largest -/
def nearest (neg : Bool) (num den : Nat) : Float :=
  (nearest? neg num den).getD (infinity neg)

/-- the double nearest to a whole number; `none` beyond the largest -/
def ofInt? (n : Int) : Option Float :=
  nearest? (n < 0) n.natAbs 1

/-- the double nearest to a quotient of whole numbers; `none` beyond the largest -/
def ofQuotient? (a b : Int) : Option Float :=
  nearest? ((a < 0) != (b < 0)) a.natAbs b.natAbs

/-- the numerator and the power of two below it of `m · 2 ^ e` -/
def scaled (m : Nat) (e : Int) : Nat × Nat :=
  if 0 ≤ e then (m * Nat.pow 2 e.toNat, 1) else (m, Nat.pow 2 (-e).toNat)

/-- the whole part of a finite double, towards zero -/
def truncate? (x : Float) : Option Int :=
  match parts x with
  | .finite neg m e =>
    let (num, den) := scaled m e
    let q : Int := num / den
    some (if neg then -q else q)
  | _ => none

/-- order of a double against a whole number; `none` for a not-a-number -/
def compareInt (x : Float) (n : Int) : Option Ordering :=
  match parts x with
  | .nan => none
  | .inf neg => some (if neg then .lt else .gt)
  | .finite neg m e =>
    let (num, den) := scaled m e
    let v : Int := if neg then -(num : Int) else num
    some (compare v (n * den))

/-- whether a double is a whole number -/
def isWhole (x : Float) : Bool :=
  match parts x with
  | .finite _ m e => let (num, den) := scaled m e; num % den = 0
  | _ => false

/-- a double with the sign of another -/
def withSign (x : Float) (neg : Bool) : Float :=
  match parts x with
  | .nan => x
  | _ => if signBit x = neg then x else -x

/-- the remainder of the division towards zero; it has the sign of the dividend -/
def remainder (x y : Float) : Float :=
  match parts x, parts y with
  | .finite neg m e, .finite _ k f =>
    if k = 0 then notANumber
    else
      let low := min e f
      let a := m * Nat.pow 2 (e - low).toNat
      let b := k * Nat.pow 2 (f - low).toNat
      let (num, den) := scaled (a % b) low
      nearest neg num den
  | .finite .., .inf _ => x
  | _, _ => notANumber

/-- the remainder with the sign of the divisor -/
def floorMod (x y : Float) : Float :=
  let r := remainder x y
  if r == 0 then zero (signBit y)
  else if (y < 0) != (r < 0) then r + y else r

/-- the quotient rounded down -/
def floorDiv (x y : Float) : Float :=
  let r := remainder x y
  let q := (x - r) / y
  let q := if r != 0 && (y < 0) != (r < 0) then q - 1 else q
  if q == 0 then zero (signBit (x / y))
  else
    let f := q.floor
    if q - f > 0.5 then f + 1 else f

end BadgeEngine.Number
