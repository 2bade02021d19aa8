/-
Names as conditions write them: a letter or an underscore, then letters, digits, marks. Two spellings
with the same compatibility normal form are one name.
-/
import BadgeEngine.Text.IdentifierTable
import BadgeEngine.Text.CompatibilityTable

namespace BadgeEngine.Text

def isNameStart (c : Char) : Bool :=
  if c.toNat < 128 then c.isAlpha || c = '_' else nameStarts.hasChar c

def isNamePart (c : Char) : Bool :=
  if c.toNat < 128 then c.isAlphanum || c = '_' else nameParts.hasChar c

def isName : List Char → Bool
  | [] => false
  | c :: cs => isNameStart c && cs.all isNamePart

/-! ## Normal form -/

/-- a range of code points with a number attached -/
structure Mapped where
  first : Nat
  last : Nat
  value : Nat

/-- reads `300-314:e6` -/
def Mapped.ofRow (row : List Char) : Mapped :=
  match splitChars ':' row with
  | range :: v :: _ =>
    match splitChars '-' range with
    | [a] => ⟨hexNat a, hexNat a, hexNat v⟩
    | a :: b :: _ => ⟨hexNat a, hexNat b, hexNat v⟩
    | [] => ⟨1, 0, 0⟩
  | _ => ⟨1, 0, 0⟩

def singleDecompositions : Array Mapped :=
  ((tableRows decompositionRuns).map Mapped.ofRow).toArray

/-- decompositions by several code points -/
def longDecompositions : Array (Nat × List Nat) :=
  ((tableRows decompositionSpecial).map fun row =>
    match splitChars ':' row with
    | a :: b :: _ => (hexNat a, (splitChars '.' b).map hexNat)
    | _ => (0, [])).toArray

def combiningRanges : Array Mapped :=
  ((tableRows combiningClasses).map Mapped.ofRow).toArray

/-- canonical pairs with what they compose to -/
def pairs : Array (Nat × Nat × Nat) :=
  ((tableRows canonicalPairs).map fun row =>
    match splitChars ':' row with
    | ab :: c :: _ =>
      match splitChars '.' ab with
      | a :: b :: _ => (hexNat a, hexNat b, hexNat c)
      | _ => (0, 0, 0)
    | _ => (0, 0, 0)).toArray

/-- the full compatibility decomposition of a code point -/
def decompose (n : Nat) : List Nat :=
  if 0xac00 ≤ n ∧ n < 0xac00 + 11172 then
    let s := n - 0xac00
    let lead := 0x1100 + s / 588
    let vowel := 0x1161 + s % 588 / 28
    if s % 28 = 0 then [lead, vowel] else [lead, vowel, 0x11a7 + s % 28]
  else
    match longDecompositions.find? (·.1 == n) with
    | some (_, ns) => ns
    | none =>
      match singleDecompositions.find? fun m => m.first ≤ n && n ≤ m.last with
      | some m => [m.value + (n - m.first)]
      | none => [n]

/-- the canonical combining class of a code point -/
def combiningClass (n : Nat) : Nat :=
  match combiningRanges.find? fun m => m.first ≤ n && n ≤ m.last with
  | some m => m.value
  | none => 0

/-- puts a mark behind the marks of no higher class that precede it (nearest first) -/
def placeMark (k n : Nat) : List Nat → List Nat
  | [] => [n]
  | m :: ms => if combiningClass m > k then m :: placeMark k n ms else n :: m :: ms

def orderMarks (ns : List Nat) : List Nat :=
  (ns.foldl (fun done n =>
    let k := combiningClass n
    if k = 0 then n :: done else placeMark k n done) []).reverse

/-- the composition of two code points -/
def compose? (a b : Nat) : Option Nat :=
  if 0x1100 ≤ a ∧ a < 0x1113 ∧ 0x1161 ≤ b ∧ b < 0x1176 then
    some (0xac00 + ((a - 0x1100) * 21 + (b - 0x1161)) * 28)
  else if 0xac00 ≤ a ∧ a < 0xac00 + 11172 ∧ (a - 0xac00) % 28 = 0 ∧ 0x11a7 < b ∧ b < 0x11c3 then
    some (a + (b - 0x11a7))
  else (pairs.find? fun p => p.1 == a && p.2.1 == b).map fun p => p.2.2

/-- composes marks with the last starter; `marks` holds what stands after it, nearest first -/
def composeFrom (starter : Option Nat) (marks done : List Nat) : List Nat → List Nat
  | [] => (marks ++ starter.toList ++ done).reverse
  | n :: ns =>
    let k := combiningClass n
    let open? := match marks with | [] => true | m :: _ => combiningClass m < k
    match starter with
    | none => if k = 0 then composeFrom (some n) [] done ns else composeFrom none [] (n :: done) ns
    | some s =>
      match (if open? then compose? s n else none) with
      | some c => composeFrom (some c) marks done ns
      | none =>
        if k = 0 then composeFrom (some n) [] (marks ++ s :: done) ns
        else composeFrom (some s) (n :: marks) done ns

def nameForm (cs : List Char) : List Char :=
  if cs.all (·.toNat < 128) then cs
  else (composeFrom none [] [] (orderMarks (cs.flatMap fun c => decompose c.toNat))).map Char.ofNat

end BadgeEngine.Text
