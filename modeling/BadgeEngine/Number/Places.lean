/-
Decimals with a given number of places or of digits, rounded from the exact value of a double with ties to
even, and the layouts built on them: fixed point, exponent, and the shorter of the two.
-/
import BadgeEngine.Number.FloatText

namespace BadgeEngine.Number

/-- the digits of a number, at least `width` of them -/
def digitsTo (width n : Nat) : List Char :=
  let ds := (toString n).toList
  List.replicate (width - ds.length) '0' ++ ds

/-- the power of ten at or below a positive quotient -/
def decimalOrder (num den : Nat) : Int :=
  let k : Int := ((toString num).length : Int) - (toString den).length
  let reaches := if 0 ≤ k then den * Nat.pow 10 k.toNat ≤ num else den ≤ num * Nat.pow 10 (-k).toNat
  if reaches then k else k - 1

/-- a positive `m · 2 ^ e` rounded to `n` digits: the digits, and the power of ten of the first -/
def toDigits (m : Nat) (e : Int) (n : Nat) : Nat × Int :=
  if m = 0 then (0, 0)
  else
    let (num, den) := scaled m e
    let k := decimalOrder num den
    let s : Int := (n : Int) - 1 - k
    let d := if 0 ≤ s then roundDiv (num * Nat.pow 10 s.toNat) den else roundDiv num (den * Nat.pow 10 (-s).toNat)
    if d = Nat.pow 10 n then (d / 10, k + 1) else (d, k)

/-- digits with a point after the first `whole` of them; the point falls away when nothing follows it,
unless it is kept -/
def withPoint (keep : Bool) (ds : List Char) (whole : Nat) : List Char :=
  if ds.length ≤ whole then ds ++ (if keep then ['.'] else []) else ds.take whole ++ '.' :: ds.drop whole

/-- fixed point: `m · 2 ^ e` rounded to places after the point -/
def fixedPoint (keep : Bool) (places m : Nat) (e : Int) : List Char :=
  let (num, den) := scaled m e
  let ds := digitsTo (places + 1) (roundDiv (num * Nat.pow 10 places) den)
  withPoint keep ds (ds.length - places)

/-- exponent form: `m · 2 ^ e` rounded to places after the first digit -/
def exponentForm (keep : Bool) (places m : Nat) (e : Int) : List Char :=
  let (d, k) := toDigits m e (places + 1)
  withPoint keep (digitsTo (places + 1) d) 1 ++ exponentText 2 'e' k

/-- the shorter form with a number of digits. Zeros at the end fall away unless they are kept; with `point`
a whole number keeps one place, and one digit less is written without an exponent. -/
def shorterForm (keep point : Bool) (digits m : Nat) (e : Int) : List Char :=
  let p := max digits 1
  let (d, k) := toDigits m e p
  let all := digitsTo p d
  let ds := if keep then all else if m = 0 then ['0'] else (dropZeros all).1
  if k < -4 ∨ (p : Int) - (if point then 1 else 0) ≤ k then
    withPoint keep ds 1 ++ exponentText 2 'e' k
  else if k < 0 then '0' :: '.' :: (List.replicate (-k - 1).toNat '0' ++ ds)
  else
    let whole := k.toNat + 1
    let ds := ds ++ List.replicate ((if point then whole + 1 else whole) - ds.length) '0'
    withPoint keep ds whole

end BadgeEngine.Number
