/-
Values laid out by a format: `*>+12,.2f` asks for a fill, an alignment, a sign, a width, separators between
groups of digits, a precision and a type.
-/
import BadgeEngine.Condition.Datum
import BadgeEngine.Number.Based
import BadgeEngine.Number.Places

namespace BadgeEngine.Condition

open BadgeEngine BadgeEngine.Number BadgeEngine.Text

/-- a layout asked for; what is not given is left open -/
structure Layout where
  fill : Char := ' '
  align : Option Char := none
  sign : Option Char := none
  noNegativeZero : Bool := false
  alternate : Bool := false
  width : Nat := 0
  separator : Option Char := none
  precision : Option Nat := none
  type : Option Char := none

/-- the largest number a format may hold -/
def sizeLimit : Nat := Nat.pow 2 63 - 1

def isAlign (c : Char) : Bool :=
  c = '<' ∨ c = '>' ∨ c = '=' ∨ c = '^'

def codeShown (c : Char) : String :=
  if 32 < c.toNat ∧ c.toNat < 128 then c.toString else "\\x" ++ String.ofList (Nat.toDigits 16 c.toNat)

/-- a decimal number at the front, if there is one -/
def takeSize (cs : List Char) : Outcome (Option Nat × List Char) :=
  let ds := cs.takeWhile fun c => (decimalValue? c).isSome
  if ds.isEmpty then .ok (none, cs)
  else
    let n := natOfDigits (plainDigits ds)
    if sizeLimit < n then .error (.value "Too many decimal digits in format string")
    else .ok (some n, cs.drop ds.length)

/-- whether a type of number may have a separator between its groups -/
def separatorAllowed (sep : Char) : Option Char → Bool
  | none => true
  | some t => "defgEG%F".contains t || ("boxX".contains t && sep = '_')

/-- reads a layout for a type of thing whose own type letter and alignment are given -/
def readLayout (typeName : String) (ownType : Option Char) (rightAligned : Bool) (cs : List Char) :
    Outcome Layout := do
  let (l, filled, cs) := match cs with
    | f :: a :: rest => if isAlign a then ({ fill := f, align := some a : Layout }, true, rest)
      else if isAlign f then ({ align := some f }, false, a :: rest) else ({}, false, cs)
    | [a] => if isAlign a then ({ align := some a }, false, []) else ({}, false, cs)
    | [] => ({}, false, [])
  let (l, cs) := match cs with
    | c :: rest => if c = ' ' ∨ c = '+' ∨ c = '-' then ({ l with sign := some c }, rest) else (l, cs)
    | [] => (l, [])
  let (l, cs) := match cs with
    | 'z' :: rest => ({ l with noNegativeZero := true }, rest)
    | _ => (l, cs)
  let (l, cs) := match cs with
    | '#' :: rest => ({ l with alternate := true }, rest)
    | _ => (l, cs)
  let (l, cs) := match cs with
    | '0' :: rest =>
      if filled then (l, cs)
      else
        let align := if l.align.isNone && rightAligned then some '=' else l.align
        ({ l with fill := '0', align }, rest)
    | _ => (l, cs)
  let (width, cs) ← takeSize cs
  let l := { l with width := width.getD 0 }
  let both : Fault := .value "Cannot specify both ',' and '_'."
  let (l, cs) := match cs with
    | ',' :: rest => ({ l with separator := some ',' }, rest)
    | _ => (l, cs)
  let (l, cs) ← match cs with
    | '_' :: rest => if l.separator.isSome then throw both else pure ({ l with separator := some '_' }, rest)
    | _ => pure (l, cs)
  if cs.head? == some ',' && l.separator == some '_' then throw both
  let (l, cs) ← match cs with
    | '.' :: rest => do
      let (p, rest) ← takeSize rest
      match p with
      | none => throw (.value "Format specifier missing precision")
      | some p => pure ({ l with precision := some p }, rest)
    | _ => pure (l, cs)
  let l ← match cs with
    | [] => pure { l with type := ownType }
    | [t] => pure { l with type := some t }
    | _ => throw (.value ("Invalid format specifier '" ++ String.ofList whole ++ "' for object of type '"
        ++ typeName ++ "'"))
  match l.separator with
  | some sep =>
    if separatorAllowed sep l.type then pure l
    else
      let shown := match l.type with | some t => codeShown t | none => ""
      throw (.value ("Cannot specify '" ++ sep.toString ++ "' with '" ++ shown ++ "'."))
  | none => pure l
where whole := cs

def pad (fill : Char) (align : Char) (width : Nat) (cs : List Char) : List Char :=
  let n := width - cs.length
  if align = '>' then List.replicate n fill ++ cs
  else if align = '^' then List.replicate (n / 2) fill ++ cs ++ List.replicate (n - n / 2) fill
  else cs ++ List.replicate n fill

/-- puts a separator between groups of digits, given from the last to the first. Zeros are added in front
until the whole has a least width. -/
def groupDigits (sep : Char) (size : Nat) : Nat → List Char → Int → List Char → List Char
  | 0, _, _, done => done
  | left + 1, ds, least, done =>
    let want := max (max (ds.length : Int) least) 1
    let len := min size want.toNat
    let taken := ds.take len
    let done := List.replicate (len - taken.length) '0' ++ taken.reverse ++ done
    let ds := ds.drop len
    let least := least - len
    if ds.isEmpty && least ≤ 0 then done else groupDigits sep size left ds (least - 1) (sep :: done)

/-- a number in parts: its sign, the mark of its base, its whole digits and what follows them -/
structure NumberParts where
  negative : Bool
  mark : List Char
  digits : List Char
  rest : List Char

def Layout.number (l : Layout) (p : NumberParts) : String :=
  let sign := if p.negative then ['-'] else
    match l.sign with
    | some '+' => ['+']
    | some ' ' => [' ']
    | _ => []
  let align := l.align.getD '>'
  let fixedPart := sign.length + p.mark.length + p.rest.length
  let zeros := l.fill = '0' && align = '='
  let least : Int := if zeros then (l.width : Int) - fixedPart else 0
  let digits := if p.digits.isEmpty then [] else
    match l.separator with
    | some sep =>
      let size := if (l.type.any fun t => "boxX".contains t) then 4 else 3
      groupDigits sep size (p.digits.length + l.width + 1) p.digits.reverse least []
    | none => List.replicate (least.toNat - p.digits.length) '0' ++ p.digits
  if align = '=' then
    let n := l.width - (fixedPart + digits.length)
    String.ofList (sign ++ p.mark ++ List.replicate n l.fill ++ digits ++ p.rest)
  else String.ofList (pad l.fill align l.width (sign ++ p.mark ++ digits ++ p.rest))

def unknownCode (t : Char) (typeName : String) : Fault :=
  .value ("Unknown format code '" ++ codeShown t ++ "' for object of type '" ++ typeName ++ "'")

/-- capital letters when asked for -/
def raised (big : Bool) (cs : List Char) : List Char :=
  if big then cs.map Char.toUpper else cs

/-- lays out a double -/
def Layout.float (l : Layout) (typeName : String) (x : Float) : Outcome String := do
  let t := l.type
  match t with
  | some c => if "eEfFgGn%".contains c then pure () else throw (unknownCode c typeName)
  | none => pure ()
  if l.precision.any fun p => Nat.pow 2 31 ≤ p then throw (.value "precision too big")
  let big := t.any fun c => c = 'E' ∨ c = 'F' ∨ c = 'G'
  let percent := t = some '%'
  let x := if percent then x * 100 else x
  let tail := if percent then ['%'] else []
  match parts x with
  | .nan => return l.number ⟨false, [], [], raised big "nan".toList ++ tail⟩
  | .inf neg => return l.number ⟨neg, [], [], raised big "inf".toList ++ tail⟩
  | .finite neg m e =>
    let p := l.precision.getD 6
    let body := match t with
      | some 'e' | some 'E' => exponentForm l.alternate p m e
      | some 'g' | some 'G' | some 'n' => shorterForm l.alternate false p m e
      | some _ => fixedPoint l.alternate p m e
      | none =>
        match l.precision with
        | none =>
          let cs := plainLayout.magnitude m e
          if l.alternate && !cs.contains '.' then cs.take 1 ++ '.' :: cs.drop 1 else cs
        | some p => shorterForm l.alternate true p m e
    let isZero := (body.takeWhile fun c => c ≠ 'e').all fun c => c = '0' ∨ c = '.'
    let digits := body.takeWhile Char.isDigit
    return l.number ⟨neg && !(l.noNegativeZero && isZero), [], digits, raised big (body.drop digits.length) ++ tail⟩

/-- the double of a whole number -/
def floatOfInt (n : Int) : Outcome Float :=
  match ofInt? n with
  | some x => .ok x
  | none => .error (.overflow "int too large to convert to float")

def charOfInt (n : Int) : Outcome Char :=
  if -Int.pow 2 63 ≤ n ∧ n < Int.pow 2 63 then
    if 0 ≤ n ∧ n < 0x110000 then .ok (if 0xd800 ≤ n ∧ n < 0xe000 then '\ufffd' else Char.ofNat n.toNat)
    else .error (.overflow "%c arg not in range(0x110000)")
  else .error (.overflow "Python int too large to convert to C long")

/-- the digits of a number in a base, with its mark -/
def basedDigits (type : Char) (n : Nat) : List Char × List Char :=
  if type = 'b' then (['0', 'b'], bitDigits 1 n)
  else if type = 'o' then (['0', 'o'], bitDigits 3 n)
  else if type = 'x' then (['0', 'x'], bitDigits 4 n)
  else (['0', 'X'], (bitDigits 4 n).map Char.toUpper)

/-- lays out a whole number -/
def Layout.int (l : Layout) (typeName : String) (n : Int) : Outcome String := do
  let t := l.type.getD 'd'
  if "eEfFgG%".contains t then
    l.float typeName (← floatOfInt n)
  else if !"bcdoxXn".contains t then throw (unknownCode t typeName)
  else if l.precision.isSome then throw (.value "Precision not allowed in integer format specifier")
  else if l.noNegativeZero then
    throw (.value "Negative zero coercion (z) not allowed in integer format specifier")
  else if t = 'c' then
    if l.sign.isSome then throw (.value "Sign not allowed with integer format specifier 'c'")
    else if l.alternate then throw (.value "Alternate form (#) not allowed with integer format specifier 'c'")
    else return l.number ⟨false, [], [], [← charOfInt n]⟩
  else if t = 'd' ∨ t = 'n' then
    match writeInt? n.natAbs with
    | some s => return l.number ⟨n < 0, [], s.toList, []⟩
    | none => throw (.value tooLongToWrite)
  else
    let (mark, digits) := basedDigits t n.natAbs
    return l.number ⟨n < 0, if l.alternate then mark else [], digits, []⟩

def Layout.text (l : Layout) (s : String) : Outcome String := do
  match l.type with
  | some 's' | none => pure ()
  | some t => throw (unknownCode t "str")
  match l.sign with
  | some ' ' => throw (.value "Space not allowed in string format specifier")
  | some _ => throw (.value "Sign not allowed in string format specifier")
  | none => pure ()
  if l.noNegativeZero then throw (.value "Negative zero coercion (z) not allowed in string format specifier")
  if l.alternate then throw (.value "Alternate form (#) not allowed in string format specifier")
  if l.align = some '=' then throw (.value "'=' alignment not allowed in string format specifier")
  let cs := s.toList
  let cs := match l.precision with | some p => cs.take p | none => cs
  return String.ofList (pad l.fill (l.align.getD '<') l.width cs)

/-- lays out anything by a format -/
def formatDatum (spec : List Char) (d : Datum) : Outcome String := do
  if spec.isEmpty then d.written
  else
    match d with
    | .data (.scalar (.text s)) => (← readLayout "str" (some 's') false spec).text s
    | .data (.scalar (.int n)) => (← readLayout "int" (some 'd') true spec).int "int" n
    | .data (.scalar (.bool b)) =>
      (← readLayout "bool" (some 'd') true spec).int "bool" (if b then 1 else 0)
    | .data (.scalar (.float x)) => (← readLayout "float" none true spec).float "float" x
    | d => throw (.type ("unsupported format string passed to " ++ d.typeName ++ ".__format__"))

/-! ## Formats with braces in them -/

/-- where the closing brace of a field stands: what comes before it, if there is one -/
def beforeClosing : Nat → List Char → List Char → Option (List Char × List Char)
  | _, _, [] => none
  | depth, done, c :: cs =>
    if c = '\x7b' then beforeClosing (depth + 1) (c :: done) cs
    else if c = '\x7d' then
      if depth = 0 then some (done.reverse, cs) else beforeClosing (depth - 1) (c :: done) cs
    else beforeClosing depth (c :: done) cs

/-- braces inside a format name further values, of which there are none -/
def expandFormat : List Char → Outcome (List Char)
  | [] => .ok []
  | '\x7b' :: '\x7b' :: cs => do return '\x7b' :: (← expandFormat cs)
  | '\x7d' :: '\x7d' :: cs => do return '\x7d' :: (← expandFormat cs)
  | '\x7d' :: _ => .error (.value "Single '\x7d' encountered in format string")
  | '\x7b' :: cs =>
    let name := cs.takeWhile fun c => !(c = '\x7d' ∨ c = '.' ∨ c = '[' ∨ c = ':' ∨ c = '!')
    if name.isEmpty then .error (.index "Replacement index 1 out of range for positional args tuple")
    else if name.all Char.isDigit then
      .error (.value "cannot switch from automatic field numbering to manual field specification")
    else .error (.key (quoted (String.ofList name)))
  | c :: cs => do return c :: (← expandFormat cs)

/-- lays out anything by a format that was itself computed -/
def formatComputed (spec : String) (d : Datum) : Outcome String := do
  let cs := spec.toList
  if !cs.any fun c => c = '\x7b' ∨ c = '\x7d' then formatDatum cs d
  else
    match beforeClosing 0 [] (cs ++ ['\x7d']) with
    | none => throw (.value "unmatched '\x7b' in format spec")
    | some (inner, rest) =>
      let inner ← if inner.contains '\x7b' then expandFormat inner else pure inner
      let s ← formatDatum inner d
      if rest.isEmpty then return s else throw (.value "Single '\x7d' encountered in format string")

end BadgeEngine.Condition
