/-
Upper, lower and title case of texts, and texts without case. Letters map by the full tables, so one letter may become
several; a capital sigma that ends a word becomes a final small one.
-/
import BadgeEngine.Text.CaseTable

namespace BadgeEngine.Text

/-- one row of a run table: first, last, step and signed distance -/
structure CaseRun where
  first : Nat
  last : Nat
  step : Nat
  up : Bool
  distance : Nat

/-- reads `61-7a/1:-20` -/
def CaseRun.ofRow (row : List Char) : CaseRun :=
  match splitChars ':' row with
  | range :: move :: _ =>
    match splitChars '/' range with
    | bounds :: step :: _ =>
      match splitChars '-' bounds with
      | a :: b :: _ => ⟨hexNat a, hexNat b, hexNat step, move.head? == some '+', hexNat move⟩
      | _ => ⟨1, 0, 1, true, 0⟩
    | _ => ⟨1, 0, 1, true, 0⟩
  | _ => ⟨1, 0, 1, true, 0⟩

/-- the image of a code point under a run, if the run holds it -/
def CaseRun.image? (r : CaseRun) (n : Nat) : Option Nat :=
  if r.first ≤ n ∧ n ≤ r.last ∧ (n - r.first) % r.step = 0 then
    some (if r.up then n + r.distance else n - r.distance)
  else none

/-- reads `df:53.53` -/
def imageOfRow (row : List Char) : Nat × List Char :=
  match splitChars ':' row with
  | a :: b :: _ => (hexNat a, (splitChars '.' b).map fun d => Char.ofNat (hexNat d))
  | _ => (0, [])

/-- a case mapping: runs, and rows with several images -/
structure CaseMap where
  runs : Array CaseRun
  special : Array (Nat × List Char)

/-- reads the two halves of a case mapping -/
def CaseMap.ofTables (runs special : String) : CaseMap :=
  ⟨((tableRows runs).map CaseRun.ofRow).toArray, ((tableRows special).map imageOfRow).toArray⟩

def CaseMap.has (m : CaseMap) (c : Char) : Bool :=
  m.special.any (·.1 == c.toNat) || m.runs.any fun r => (r.image? c.toNat).isSome

/-- the image of a character; a character without a row stays -/
def CaseMap.image (m : CaseMap) (c : Char) : List Char :=
  let n := c.toNat
  match m.special.find? (·.1 == n) with
  | some (_, cs) => cs
  | none =>
    match m.runs.findSome? (·.image? n) with
    | some k => [Char.ofNat k]
    | none => [c]

def upperMap : CaseMap := .ofTables upperRuns upperSpecial

def lowerMap : CaseMap := .ofTables lowerRuns lowerSpecial

/-- the rows of title case that differ from upper case -/
def titleMap : CaseMap := .ofTables "" titleSpecial

/-- the rows of texts without case that differ from lower case -/
def foldMap : CaseMap := .ofTables foldRuns foldSpecial

def upperChar (c : Char) : List Char :=
  if c.toNat < 128 then [c.toUpper] else upperMap.image c

/-- lower case of one character, the sigma rule aside -/
def lowerChar (c : Char) : List Char :=
  if c.toNat < 128 then [c.toLower] else lowerMap.image c

def titleChar (c : Char) : List Char :=
  if c.toNat < 128 then [c.toUpper]
  else if titleMap.special.any (·.1 == c.toNat) then titleMap.image c else upperMap.image c

def foldChar (c : Char) : List Char :=
  if c.toNat < 128 then [c.toLower] else if foldMap.has c then foldMap.image c else lowerMap.image c

def isCased (c : Char) : Bool :=
  if c.toNat < 128 then c.isAlpha else casedLetters.hasChar c

/-- whether a cased character comes first after those that are passed over -/
def casedNext (cs : List Char) : Bool :=
  match cs.dropWhile caseIgnorable.hasChar with
  | [] => false
  | c :: _ => isCased c

def upper (s : String) : String :=
  String.ofList (s.toList.flatMap upperChar)

def caseless (s : String) : String :=
  String.ofList (s.toList.flatMap foldChar)

/-- lower case of one character with what stands before it (nearest first) and after it -/
def lowerAt (before : List Char) (c : Char) (after : List Char) : List Char :=
  if c = 'Σ' then (if casedNext before && !casedNext after then ['ς'] else ['σ']) else lowerChar c

def lowerFrom (before done : List Char) : List Char → List Char
  | [] => done.reverse
  | c :: cs => lowerFrom (c :: before) ((lowerAt before c cs).reverse ++ done) cs

def lower (s : String) : String :=
  String.ofList (lowerFrom [] [] s.toList)

/-- title case with the text before it at hand: a letter after a cased character is small -/
def titleFrom (before done : List Char) : List Char → List Char
  | [] => done.reverse
  | c :: cs =>
    let inWord := match before with | [] => false | b :: _ => isCased b
    let image := if inWord then lowerAt before c cs else titleChar c
    titleFrom (c :: before) (image.reverse ++ done) cs

def title (s : String) : String :=
  String.ofList (titleFrom [] [] s.toList)

end BadgeEngine.Text
