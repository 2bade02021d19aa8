/-
Letters and digits. A decimal digit has a value from 0 to 9 in whatever script it stands.
-/
import BadgeEngine.Text.LetterTable

namespace BadgeEngine.Text

def isLetter (c : Char) : Bool :=
  if c.toNat < 128 then c.isAlpha else letters.hasChar c

/-- the zeros of the decimal digits beyond ASCII -/
def zeros : Array Nat :=
  ((tableRows decimalZeros).map hexNat).toArray

def decimalValue? (c : Char) : Option Nat :=
  let n := c.toNat
  if n < 128 then if 48 ≤ n ∧ n ≤ 57 then some (n - 48) else none
  else (zeros.find? fun z => z ≤ n && n < z + 10).map fun z => n - z

/-- whether a character has a digit value; superscripts count -/
def isDigit (c : Char) : Bool :=
  if c.toNat < 128 then c.isDigit else digits.hasChar c

/-- whether a character has a numeric value; fractions count -/
def isNumeric (c : Char) : Bool :=
  if c.toNat < 128 then c.isDigit else numerics.hasChar c

end BadgeEngine.Text
