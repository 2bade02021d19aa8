/-
Decimal numerals of whole numbers, read and written. A numeral may have blanks around it, a sign, single
underscores between digits and digits of any script; one of more than 4300 digits is refused both ways.
-/
import BadgeEngine.Text.Blank
import BadgeEngine.Text.Letter

namespace BadgeEngine.Number

open BadgeEngine.Text

def digitLimit : Nat := 4300

/-- why a text is no numeral -/
inductive NumeralError where
  | malformed
  | tooManyDigits (count : Nat)
  deriving DecidableEq, Repr

/-- the message about a number that has too many digits to be written -/
def tooLongToWrite : String :=
  "Exceeds the limit (4300 digits) for integer string conversion; use sys.set_int_max_str_digits() to increase the limit"

/-- the message about a numeral that has too many digits to be read -/
def tooLongToRead (count : Nat) : String :=
  "Exceeds the limit (4300 digits) for integer string conversion: value has " ++ toString count
    ++ " digits; use sys.set_int_max_str_digits() to increase the limit"

def isNumeralBlank (c : Char) : Bool :=
  isBlank c && !(28 ≤ c.toNat && c.toNat ≤ 31)

/-- decimal digits brought to ASCII, other characters kept -/
def plainDigits (cs : List Char) : List Char :=
  cs.map fun c => if c.toNat < 128 then c else match decimalValue? c with | some d => Nat.digitChar d | none => c

def trimNumeral (cs : List Char) : List Char :=
  ((cs.dropWhile isNumeralBlank).reverse.dropWhile isNumeralBlank).reverse

/-- an optional sign: whether it is a minus, and the rest -/
def takeSign : List Char → Bool × List Char
  | '-' :: cs => (true, cs)
  | '+' :: cs => (false, cs)
  | cs => (false, cs)

/-- digits with single underscores between them, read up to the first other character: the digits, and
the rest. `none` when there is no digit, or an underscore does not stand between two. -/
def takeDigits (ok : Char → Bool) (cs : List Char) : Option (List Char × List Char) :=
  let run := cs.takeWhile fun c => ok c || c = '_'
  let rest := cs.drop run.length
  let groups := splitChars '_' run
  if groups.any (·.isEmpty) then none else some (groups.flatten, rest)

/-- the number an ASCII digit string stands for -/
def natOfDigits (cs : List Char) : Nat :=
  Nat.ofDigitChars 10 cs 0

/-- reads a whole number -/
def readInt (cs : List Char) : Except NumeralError Int :=
  let (neg, body) := takeSign (plainDigits (cs.dropWhile isNumeralBlank))
  match takeDigits Char.isDigit body with
  | none => .error .malformed
  | some (ds, rest) =>
    if digitLimit < ds.length then .error (.tooManyDigits ds.length)
    else if rest.all isNumeralBlank then
      .ok (if neg then -(natOfDigits ds : Int) else (natOfDigits ds : Int))
    else .error .malformed

/-- whether the numeral of a number keeps within the limit -/
def fitsNumeral (n : Int) : Bool :=
  n.natAbs < Nat.pow 10 digitLimit

/-- the numeral of a number, without regard to the limit -/
def intText (n : Int) : String :=
  toString n

/-- the numeral of a number; `none` when it would be too long -/
def writeInt? (n : Int) : Option String :=
  if fitsNumeral n then some (intText n) else none

def zeroFilled (width : Nat) (n : Int) : List Char :=
  let ds := (toString n.natAbs).toList
  let signed := if n < 0 then 1 else 0
  let fill := List.replicate (width - signed - ds.length) '0'
  if n < 0 then '-' :: (fill ++ ds) else fill ++ ds

end BadgeEngine.Number
