/-
Doubles in base 16: a digit, a point, thirteen more digits and a power of two.
-/
import BadgeEngine.Number.FloatText
import BadgeEngine.Text.Quoted

namespace BadgeEngine.Number

open BadgeEngine.Text

/-- a double written in base 16 -/
def hexFloatText (x : Float) : String :=
  match parts x with
  | .nan => "nan"
  | .inf neg => if neg then "-inf" else "inf"
  | .finite neg m e =>
    let sign := if neg then "-" else ""
    if m = 0 then sign ++ "0x0.0p+0"
    else
      let place := e + 52
      let whole := toString (m / Nat.pow 2 52)
      let fraction := String.ofList (hexDigits 13 m)
      sign ++ "0x" ++ whole ++ "." ++ fraction ++ "p" ++ (if place < 0 then "" else "+") ++ toString place

/-- why a text in base 16 is no double -/
inductive HexFloatError where
  | malformed
  | tooLarge

/-- the value of a digit in base 16 -/
def hexValue? (c : Char) : Option Nat :=
  if c.isDigit then some (c.toNat - '0'.toNat)
  else if 'a' ≤ c.toLower && c.toLower ≤ 'f' then some (c.toLower.toNat - 'a'.toNat + 10)
  else none

/-- the number of some digits in base 16 -/
def hexNumber (cs : List Char) : Nat :=
  cs.foldl (fun n c => 16 * n + (hexValue? c).getD 0) 0

/-- the double nearest to a number in base 16 times a power of two -/
def scaledHex (neg : Bool) (cs : List Char) (power : Int) : Except HexFloatError Float :=
  let n := hexNumber cs
  -- a power that is out of reach of every double need not be worked out
  let top := power + Nat.log2 n
  if n = 0 then .ok (zero neg)
  else if 1024 ≤ top then .error .tooLarge
  else if top < -1100 then .ok (zero neg)
  else
    let (num, den) := scaled n power
    match nearest? neg num den with
    | some x => .ok x
    | none => .error .tooLarge

/-- reads a double in base 16 -/
def readHexFloat (cs : List Char) : Except HexFloatError Float := do
  let (neg, body) := takeSign (trimNumeral cs)
  let word := String.ofList (body.map Char.toLower)
  if word = "inf" ∨ word = "infinity" then return infinity neg
  if word = "nan" then return withSign notANumber neg
  let body := if word.startsWith "0x" then body.drop 2 else body
  let whole := body.takeWhile fun c => (hexValue? c).isSome
  let rest := body.drop whole.length
  let (fraction, rest) :=
    match rest with
    | '.' :: rest => let f := rest.takeWhile fun c => (hexValue? c).isSome; (f, rest.drop f.length)
    | rest => ([], rest)
  if whole.isEmpty && fraction.isEmpty then throw .malformed
  let power ←
    match rest with
    | [] => pure 0
    | c :: rest =>
      let (eneg, ds) := takeSign rest
      if c.toLower ≠ 'p' || ds.isEmpty || !ds.all Char.isDigit then throw .malformed
      else pure (exponentValue eneg ds)
  scaledHex neg (whole ++ fraction) (power - 4 * fraction.length)

end BadgeEngine.Number
