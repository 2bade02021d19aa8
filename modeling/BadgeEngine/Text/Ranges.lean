/-
Sets of characters given by closed ranges of code points, as the tables of a character property write
them: `41-5a aa b5` in hexadecimal, in rising order. Membership is a binary search; tables of numbers
in the same writing are read here too.
-/

namespace BadgeEngine.Text

def hexDigit? (c : Char) : Option Nat :=
  if '0' ≤ c ∧ c ≤ '9' then some (c.toNat - 48)
  else if 'a' ≤ c ∧ c ≤ 'f' then some (c.toNat - 87)
  else if 'A' ≤ c ∧ c ≤ 'F' then some (c.toNat - 55)
  else none

/-- a hexadecimal number; characters that are no digits are passed over -/
def hexNat (cs : List Char) : Nat :=
  cs.foldl (fun n c => match hexDigit? c with | some d => n * 16 + d | none => n) 0

/-- the pieces between occurrences of a separator -/
def splitChars (sep : Char) (cs : List Char) : List (List Char) :=
  let (piece, done) := cs.foldl
    (fun (p : List Char × List (List Char)) c =>
      if c = sep then ([], p.1.reverse :: p.2) else (c :: p.1, p.2))
    ([], [])
  (piece.reverse :: done).reverse

/-- the rows of a table: pieces between blanks and line ends, none of them empty -/
def tableRows (text : String) : List (List Char) :=
  (splitChars ' ' (text.toList.map fun c => if c = '\n' then ' ' else c)).filter (!·.isEmpty)

/-- closed ranges of code points in rising order -/
structure Ranges where
  bounds : Array (Nat × Nat)

namespace Ranges

/-- reads `41-5a aa b5` -/
def ofHex (text : String) : Ranges :=
  ⟨(tableRows text |>.map fun row =>
    match splitChars '-' row with
    | [a] => (hexNat a, hexNat a)
    | a :: b :: _ => (hexNat a, hexNat b)
    | [] => (1, 0)).toArray⟩

/-- binary search between two positions; the lower bounds rise -/
def search (bounds : Array (Nat × Nat)) (n lo hi : Nat) : Bool :=
  if lo < hi then
    let mid := (lo + hi) / 2
    match bounds[mid]? with
    | none => false
    | some (a, b) =>
      if n < a then search bounds n lo mid
      else if b < n then search bounds n (mid + 1) hi
      else true
  else false
termination_by hi - lo

/-- whether a code point lies in one of the ranges -/
def has (r : Ranges) (n : Nat) : Bool :=
  search r.bounds n 0 r.bounds.size

def hasChar (r : Ranges) (c : Char) : Bool :=
  r.has c.toNat

end Ranges

end BadgeEngine.Text
