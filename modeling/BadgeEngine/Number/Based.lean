/-
Whole numbers in bases other than ten: read in a base from 2 to 36, with or without the mark of the base in
front, and written in a base that is a power of two. A number is written half by half, so that a very long one
does not take long.
-/
import BadgeEngine.Number.Numeral

namespace BadgeEngine.Number

/-- the value of a digit in bases up to 36 -/
def digitIn? (base : Nat) (c : Char) : Option Nat :=
  let v :=
    if c.isDigit then c.toNat - 48
    else if 'a' ≤ c ∧ c ≤ 'z' then c.toNat - 87
    else if 'A' ≤ c ∧ c ≤ 'Z' then c.toNat - 55
    else base
  if v < base then some v else none

/-- the mark of a base in front of digits: the base it stands for and the rest -/
def takeBaseMark (cs : List Char) : Option (Nat × List Char) :=
  match cs with
  | '0' :: m :: rest =>
    if m = 'x' ∨ m = 'X' then some (16, rest)
    else if m = 'o' ∨ m = 'O' then some (8, rest)
    else if m = 'b' ∨ m = 'B' then some (2, rest)
    else none
  | _ => none

/-- reads a whole number in a base; base 0 goes by the mark in front of the digits -/
def readBased (base : Nat) (cs : List Char) : Except NumeralError Int :=
  let (neg, body) := takeSign (plainDigits (cs.dropWhile isNumeralBlank))
  let (base', marked, body) :=
    match takeBaseMark body with
    | some (b, rest) =>
      if base = 0 ∨ base = b then (b, true, match rest with | '_' :: r => r | r => r)
      else (if base = 0 then 10 else base, false, body)
    | none => (if base = 0 then 10 else base, false, body)
  match takeDigits (fun c => (digitIn? base' c).isSome) body with
  | none => .error .malformed
  | some (ds, rest) =>
    if base = 0 && !marked && ds.head? == some '0' && ds.any (· ≠ '0') then .error .malformed
    else if digitLimit < ds.length && !([2, 4, 8, 16, 32].contains base') then .error (.tooManyDigits ds.length)
    else if rest.all isNumeralBlank then
      let n : Int := ds.foldl (fun n c => n * base' + ((digitIn? base' c).getD 0 : Nat)) (0 : Nat)
      .ok (if neg then -n else n)
    else .error .malformed

/-- what a message says about a text, as a message shows it, that is no whole number; long texts are cut -/
def NumeralError.message (base : Nat) (shown : String) : NumeralError → String
  | .malformed =>
    "invalid literal for int() with base " ++ toString base ++ ": " ++ String.ofList (shown.toList.take 200)
  | .tooManyDigits n => tooLongToRead n

/-! ## Writing -/

/-- the lowest `2 ^ level` digits of a number in base `2 ^ bits`, the highest first -/
def lowDigits (bits : Nat) : Nat → Nat → List Char
  | 0, n => [Nat.digitChar (n % Nat.pow 2 bits)]
  | level + 1, n =>
    let half := bits * Nat.pow 2 level
    lowDigits bits level (n >>> half) ++ lowDigits bits level (n % Nat.pow 2 half)

/-- the digits of a number in base `2 ^ bits`, for one to four bits -/
def bitDigits (bits n : Nat) : List Char :=
  match (lowDigits bits (Nat.log2 (Nat.log2 n / bits + 1) + 1) n).dropWhile (· = '0') with
  | [] => ['0']
  | ds => ds

/-- the number of ones among the binary digits of a number -/
def countOnes (n : Nat) : Nat :=
  (bitDigits 1 n).count '1'

end BadgeEngine.Number
