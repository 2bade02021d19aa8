/-
The shortest decimal that reads back as a given double. For one, two, ... seventeen digits the two
neighbours of the value on that decimal grid are tried; the first grid with a neighbour inside the interval
of numbers that round to the double wins, and of two hits the nearer one.
-/
import BadgeEngine.Number.Double

namespace BadgeEngine.Number

/-- a positive decimal `digits · 10 ^ scale` -/
structure Decimal where
  digits : Nat
  scale : Int
  deriving DecidableEq, Repr

/-- the numbers that round to a double, over a common denominator: `low < v < high`, ends included when
`closed` -/
structure Interval where
  low : Nat
  value : Nat
  high : Nat
  den : Nat
  closed : Bool

/-- the interval of `m · 2 ^ e`; the lower half is narrower at a power of two -/
def interval (m : Nat) (e : Int) : Interval :=
  let narrow := m = Nat.pow 2 52 ∧ -1074 < e
  -- in quarters of the last place
  let (lo, v, hi) := if narrow then (4 * m - 1, 4 * m, 4 * m + 2) else (4 * m - 2, 4 * m, 4 * m + 2)
  let closed := m % 2 = 0
  if 0 ≤ e then ⟨lo * Nat.pow 2 e.toNat, v * Nat.pow 2 e.toNat, hi * Nat.pow 2 e.toNat, 4, closed⟩
  else ⟨lo, v, hi, 4 * Nat.pow 2 (-e).toNat, closed⟩

/-- whether `d · 10 ^ s` lies in the interval -/
def Interval.holds (i : Interval) (d : Nat) (s : Int) : Bool :=
  let num := if 0 ≤ s then d * Nat.pow 10 s.toNat * i.den else d * i.den
  let den := if 0 ≤ s then 1 else Nat.pow 10 (-s).toNat
  if i.closed then i.low * den ≤ num && num ≤ i.high * den else i.low * den < num && num < i.high * den

/-- the value divided by `10 ^ s`: whole part, remainder and divisor -/
def Interval.atScale (i : Interval) (s : Int) : Nat × Nat × Nat :=
  let num := if 0 ≤ s then i.value else i.value * Nat.pow 10 (-s).toNat
  let den := if 0 ≤ s then i.den * Nat.pow 10 s.toNat else i.den
  (num / den, num % den, den)

/-- the better neighbour on the grid of `10 ^ s`, if one lies in the interval -/
def Interval.gridPoint? (i : Interval) (s : Int) : Option Nat :=
  let (q, r, den) := i.atScale s
  let down := q ≠ 0 && i.holds q s
  let up := i.holds (q + 1) s
  if down && up then some (if 2 * r < den ∨ (2 * r = den ∧ q % 2 = 0) then q else q + 1)
  else if down then some q
  else if up then some (q + 1)
  else none

/-- the power of ten at or below the value -/
def Interval.order (i : Interval) : Int :=
  let guess : Int := ((Nat.log2 i.value : Int) - (Nat.log2 i.den : Int)) * 30103 / 100000 - 1
  let reaches (k : Int) : Bool :=
    if 0 ≤ k then i.den * Nat.pow 10 k.toNat ≤ i.value else i.den ≤ i.value * Nat.pow 10 (-k).toNat
  if reaches (guess + 3) then guess + 3
  else if reaches (guess + 2) then guess + 2
  else if reaches (guess + 1) then guess + 1
  else guess

/-- tries finer and finer grids -/
def Interval.refine (i : Interval) (s : Int) : Nat → Decimal
  | 0 => ⟨(i.atScale s).1, s⟩
  | fuel + 1 =>
    match i.gridPoint? s with
    | some d => ⟨d, s⟩
    | none => i.refine (s - 1) fuel

/-- the shortest decimal that reads back as `m · 2 ^ e`, for positive `m` -/
def shortest (m : Nat) (e : Int) : Decimal :=
  let i := interval m e
  i.refine i.order 17

end BadgeEngine.Number
