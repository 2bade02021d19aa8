/-
Text of doubles. Written with the fewest digits that read back: in plain places when the leading digit
stands between the fourth place after the point and the sixteenth before it, else with an exponent of at
least two digits. Read with blanks around, underscores between digits, and the words for infinity and
not-a-number in any letter case.
-/
import BadgeEngine.Number.Numeral
import BadgeEngine.Number.Shortest

namespace BadgeEngine.Number

/-- how doubles are laid out: the places of the leading digit that are written without an exponent, and
the least width of an exponent -/
structure FloatLayout where
  lowest : Int
  highest : Int
  exponentWidth : Nat
  /-- whether a whole number gets a point and a zero -/
  point : Bool

/-- the layout of every double this library writes by default -/
def plainLayout : FloatLayout := ⟨-3, 16, 2, true⟩

/-- digits without the zeros at the end, and how many were dropped -/
def dropZeros (ds : List Char) : List Char × Nat :=
  let kept := (ds.reverse.dropWhile (· = '0')).reverse
  (kept, ds.length - kept.length)

/-- the exponent part: mark, sign and digits -/
def exponentText (width : Nat) (mark : Char) (e : Int) : List Char :=
  let ds := (toString e.natAbs).toList
  mark :: (if e < 0 then '-' else '+') :: (List.replicate (width - ds.length) '0' ++ ds)

/-- lays out `0.d₁d₂… · 10 ^ place` -/
def FloatLayout.place (l : FloatLayout) (ds : List Char) (place : Int) : List Char :=
  if l.lowest ≤ place ∧ place ≤ l.highest then
    if place ≤ 0 then '0' :: '.' :: (List.replicate (-place).toNat '0' ++ ds)
    else
      let k := place.toNat
      if ds.length ≤ k then
        ds ++ List.replicate (k - ds.length) '0' ++ (if l.point then ['.', '0'] else [])
      else ds.take k ++ '.' :: ds.drop k
  else
    let mantissa := match ds with
      | d :: r :: rs => d :: '.' :: r :: rs
      | ds => ds
    mantissa ++ exponentText l.exponentWidth 'e' (place - 1)

/-- the text of a double's size -/
def FloatLayout.magnitude (l : FloatLayout) (m : Nat) (e : Int) : List Char :=
  if m = 0 then l.place ['0'] 1
  else
    let d := shortest m e
    let (ds, _) := dropZeros (toString d.digits).toList
    l.place ds ((toString d.digits).length + d.scale)

def FloatLayout.write (l : FloatLayout) (x : Float) : String :=
  match parts x with
  | .nan => "nan"
  | .inf neg => if neg then "-inf" else "inf"
  | .finite neg m e => String.ofList ((if neg then ['-'] else []) ++ l.magnitude m e)

def floatText (x : Float) : String :=
  plainLayout.write x

/-! ## Reading -/

/-- the double nearest to `± digits · 10 ^ scale`; a scale far out of range is answered at once -/
def ofDecimal (neg : Bool) (ds : List Char) (scale : Int) : Float :=
  let ds := ds.dropWhile (· = '0')
  if ds.isEmpty then zero neg
  else if 400 < (ds.length : Int) + scale then infinity neg
  else if (ds.length : Int) + scale < -400 then zero neg
  else
    let n := natOfDigits ds
    if 0 ≤ scale then nearest neg (n * Nat.pow 10 scale.toNat) 1 else nearest neg n (Nat.pow 10 (-scale).toNat)

/-- whether every underscore stands between two digits -/
def underscoresBetween : Option Char → List Char → Bool
  | _, [] => true
  | before, '_' :: rest =>
    (before.any Char.isDigit) && (rest.head?.any Char.isDigit) && underscoresBetween (some '_') rest
  | _, c :: rest => underscoresBetween (some c) rest

/-- the value of a signed run of digits, bounded so that it can be added to lengths -/
def exponentValue (neg : Bool) (ds : List Char) : Int :=
  let ds := ds.dropWhile (· = '0')
  let n : Int := if 7 < ds.length then 10000000 else natOfDigits ds
  if neg then -n else n

/-- reads digits, a point, digits and an exponent, to the end of the text -/
def readDecimal? (neg : Bool) (cs : List Char) : Option Float :=
  let whole := cs.takeWhile Char.isDigit
  let rest := cs.drop whole.length
  let (fraction, rest) := match rest with
    | '.' :: r => let f := r.takeWhile Char.isDigit; (f, r.drop f.length)
    | r => ([], r)
  if whole.isEmpty && fraction.isEmpty then none
  else
    let scale : Int := -(fraction.length : Int)
    match rest with
    | [] => some (ofDecimal neg (whole ++ fraction) scale)
    | c :: r =>
      if c = 'e' ∨ c = 'E' then
        let (eneg, ds) := takeSign r
        if ds.isEmpty || !ds.all Char.isDigit then none
        else some (ofDecimal neg (whole ++ fraction) (scale + exponentValue eneg ds))
      else none

def readFloat? (cs : List Char) : Option Float :=
  let body := plainDigits (trimNumeral cs)
  if !underscoresBetween none body then none
  else
    let (neg, body) := takeSign (body.filter (· ≠ '_'))
    let word := String.ofList (body.map Char.toLower)
    if word = "inf" ∨ word = "infinity" then some (infinity neg)
    else if word = "nan" then some (withSign notANumber neg)
    else readDecimal? neg body

end BadgeEngine.Number
