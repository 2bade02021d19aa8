/-
Blank characters and trimming. Besides the ASCII blanks, the separators U+001C to U+001F, NEL, the
no-break space and the Unicode space separators are blank; zero-width characters are not.
-/

namespace BadgeEngine.Text

def isBlank (c : Char) : Bool :=
  let n := c.toNat
  (9 ≤ n ∧ n ≤ 13) ∨ (28 ≤ n ∧ n ≤ 32) ∨ n = 0x85 ∨ n = 0xa0 ∨ n = 0x1680 ∨ (0x2000 ≤ n ∧ n ≤ 0x200a)
    ∨ n = 0x2028 ∨ n = 0x2029 ∨ n = 0x202f ∨ n = 0x205f ∨ n = 0x3000

def trimStart (cs : List Char) : List Char :=
  cs.dropWhile isBlank

def trimEnd (cs : List Char) : List Char :=
  (cs.reverse.dropWhile isBlank).reverse

def trim (cs : List Char) : List Char :=
  trimEnd (trimStart cs)

/-- whether a text holds nothing but blanks -/
def allBlank (s : String) : Bool :=
  s.toList.all isBlank

end BadgeEngine.Text
