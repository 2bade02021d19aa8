/-
Values put into a text at its percent marks: `%05.1f of %(name)s`. A mark may name an entry of a mapping, and
has flags, a width, a precision and a letter that says how the value is written.
-/
import BadgeEngine.Condition.Format

namespace BadgeEngine.Condition

open BadgeEngine BadgeEngine.Number BadgeEngine.Text

/-- the whole part of a finite double, or why there is none -/
def wholePart (x : Float) : Outcome Int :=
  match truncate? x, parts x with
  | some n, _ => .ok n
  | none, .nan => .error (.value "cannot convert float NaN to integer")
  | none, _ => .error (.overflow "cannot convert float infinity to integer")

/-- a percent mark taken apart -/
structure Mark where
  key : Option (List Char) := none
  left : Bool := false
  plus : Bool := false
  blank : Bool := false
  alternate : Bool := false
  zero : Bool := false
  width : Nat := 0
  precision : Option Nat := none

/-- the values still to be put in; `entries` are there when they may be named -/
structure Supply where
  items : List Datum
  entries : Option (List (Value × Value))
  /-- whether values that are left over are passed over in silence -/
  lenient : Bool

def Supply.next (s : Supply) : Outcome (Datum × Supply) :=
  match s.items with
  | d :: ds => .ok (d, { s with items := ds })
  | [] => .error (.type "not enough arguments for format string")

/-- the values a right-hand side supplies -/
def Supply.ofDatum : Datum → Supply
  | .data (.tuple vs) => ⟨vs.map .data, none, false⟩
  | .data (.dict es) => ⟨[.data (.dict es)], some es, true⟩
  | .mapping es => ⟨[.mapping es], some es, true⟩
  | .data (.list vs) => ⟨[.data (.list vs)], none, true⟩
  | .data (.bytes bs) => ⟨[.data (.bytes bs)], none, true⟩
  | d => ⟨[d], none, false⟩

/-- the name in brackets of a mark, brackets inside it counted -/
def takeKey : Nat → List Char → List Char → Option (List Char × List Char)
  | _, _, [] => none
  | depth, done, c :: cs =>
    if c = ')' then if depth = 0 then some (done.reverse, cs) else takeKey (depth - 1) (c :: done) cs
    else if c = '(' then takeKey (depth + 1) (c :: done) cs
    else takeKey depth (c :: done) cs

def takeFlags (m : Mark) : List Char → Mark × List Char
  | '-' :: cs => takeFlags { m with left := true } cs
  | '+' :: cs => takeFlags { m with plus := true } cs
  | ' ' :: cs => takeFlags { m with blank := true } cs
  | '#' :: cs => takeFlags { m with alternate := true } cs
  | '0' :: cs => takeFlags { m with zero := true } cs
  | cs => (m, cs)

/-- a width or precision, written or supplied -/
def takeCount (what : String) (limit : Nat) (s : Supply) (cs : List Char) :
    Outcome (Option Int × Supply × List Char) := do
  match cs with
  | '*' :: rest =>
    let (d, s) ← s.next
    match d.int? with
    | some n => return (some n, s, rest)
    | none => throw (.type "* wants int")
  | _ =>
    let ds := cs.takeWhile Char.isDigit
    if ds.isEmpty then return (none, s, cs)
    else
      let n := natOfDigits ds
      if limit < n then throw (.value (what ++ " too big")) else return (some n, s, cs.drop ds.length)

def markShown (c : Char) : String :=
  (if 31 ≤ c.toNat ∧ c.toNat < 128 then c.toString else "?") ++ "' (0x" ++ String.ofList (Nat.toDigits 16 c.toNat)

/-- fills a written value up to the width of its mark -/
def Mark.fill (m : Mark) (sign mark digits : List Char) (zeros : Bool) : List Char :=
  let n := m.width - (sign.length + mark.length + digits.length)
  if m.left then sign ++ mark ++ digits ++ List.replicate n ' '
  else if zeros then sign ++ mark ++ List.replicate n '0' ++ digits
  else List.replicate n ' ' ++ sign ++ mark ++ digits

def Mark.signOf (m : Mark) (negative : Bool) : List Char :=
  if negative then ['-'] else if m.plus then ['+'] else if m.blank then [' '] else []

/-- a whole number at a mark -/
def Mark.int (m : Mark) (letter : Char) (n : Int) : Outcome (List Char) := do
  let (mark, digits) ←
    if "diu".contains letter then
      match writeInt? n.natAbs with
      | some s => pure ([], s.toList)
      | none => throw (.value tooLongToWrite)
    else pure (basedDigits letter n.natAbs)
  let digits := List.replicate (m.precision.getD 0 - digits.length) '0' ++ digits
  return m.fill (m.signOf (n < 0)) (if m.alternate then mark else []) digits m.zero

def Mark.float (m : Mark) (letter : Char) (x : Float) : Outcome (List Char) := do
  let l : Layout := { alternate := m.alternate, precision := some (m.precision.getD 6), type := some letter }
  let cs := (← l.float "float" x).toList
  let (neg, digits) := match cs with | '-' :: ds => (true, ds) | ds => (false, ds)
  return m.fill (m.signOf neg) [] digits m.zero

/-- a double something is, or why it is none -/
def realOf (d : Datum) : Outcome Float :=
  match d.num? with
  | some (.int n) => floatOfInt n
  | some (.float x) => .ok x
  | _ => .error (.type ("must be real number, not " ++ d.typeName))

/-- a text with other than ASCII characters escaped -/
def asciiOnly (s : String) : String :=
  String.ofList (s.toList.flatMap fun c => if c.toNat < 128 then [c] else escapeCode c)

def Mark.write (m : Mark) (letter : Char) (position : Nat) (d : Datum) : Outcome (List Char) := do
  let cut (s : String) : List Char := match m.precision with | some p => s.toList.take p | none => s.toList
  match letter with
  | 's' => return m.fill [] [] (cut (← d.written)) false
  | 'r' => return m.fill [] [] (cut (← d.shown)) false
  | 'a' => return m.fill [] [] (cut (asciiOnly (← d.shown))) false
  | 'd' | 'i' | 'u' =>
    match d.num? with
    | some (.int n) => m.int letter n
    | some (.float x) => do m.int letter (← wholePart x)
    | _ => throw (.type ("%" ++ letter.toString ++ " format: a real number is required, not " ++ d.typeName))
  | 'o' | 'x' | 'X' =>
    match d.int? with
    | some n => m.int letter n
    | none => throw (.type ("%" ++ letter.toString ++ " format: an integer is required, not " ++ d.typeName))
  | 'e' | 'E' | 'f' | 'F' | 'g' | 'G' => do m.float letter (← realOf d)
  | 'c' =>
    match d.int?, d.text? with
    | some n, _ =>
      if 0 ≤ n ∧ n < 0x110000 then return m.fill [] [] [← charOfInt n] false
      else throw (.overflow "%c arg not in range(0x110000)")
    | _, some s =>
      if s.length = 1 then return m.fill [] [] s.toList false else throw (.type "%c requires int or char")
    | _, _ => throw (.type "%c requires int or char")
  | c =>
    throw (.value ("unsupported format character '" ++ markShown c ++ ") at index " ++ toString position))

/-- fills in the marks of a text; `total` is its length and `left` bounds the steps -/
def fillMarks (total : Nat) : Nat → Supply → List Char → List Char → Outcome (List Char)
  | 0, _, done, _ => .ok done.reverse
  | left + 1, s, done, cs => do
    match cs with
    | [] =>
      if s.items.isEmpty || s.lenient then return done.reverse
      else throw (.type "not all arguments converted during string formatting")
    | '%' :: '%' :: rest => fillMarks total left s ('%' :: done) rest
    | '%' :: rest =>
      let (m, s, rest) ← match rest with
        | '(' :: r => do
          match s.entries with
          | none => throw (.type "format requires a mapping")
          | some es =>
            match takeKey 0 [] r with
            | none => throw (.value "incomplete format key")
            | some (k, r) =>
              match Datum.entry? es (some (.ofText (String.ofList k))) with
              | some v => pure ({ key := some k : Mark }, { s with items := [.data v] }, r)
              | none => throw (.key (quoted (String.ofList k)))
        | r => pure ({}, s, r)
      let (m, rest) := takeFlags m rest
      let (w, s, rest) ← takeCount "width" sizeLimit s rest
      let m := match w with
        | some n => { m with left := m.left || n < 0, width := n.natAbs }
        | none => m
      let (m, s, rest) ← match rest with
        | '.' :: r => do
          let (p, s, r) ← takeCount "precision" (Nat.pow 2 31 - 1) s r
          pure ({ m with precision := some ((p.getD 0).toNat) }, s, r)
        | r => pure (m, s, r)
      let rest := match rest with
        | c :: r => if c = 'h' ∨ c = 'l' ∨ c = 'L' then r else rest
        | [] => []
      match rest with
      | [] => throw (.value "incomplete format")
      | '%' :: rest' => do
        -- a mark with flags still takes a value
        let (_, s) ← s.next
        fillMarks total left s ('%' :: done) rest'
      | c :: rest' => do
        let (d, s) ← s.next
        let written ← m.write c (total - rest.length) d
        fillMarks total left s (written.reverse ++ done) rest'
    | c :: rest => fillMarks total left s (c :: done) rest

def interpolate (text : String) (d : Datum) : Outcome String := do
  let cs := text.toList
  return String.ofList (← fillMarks cs.length (cs.length + 1) (.ofDatum d) [] cs)

end BadgeEngine.Condition
