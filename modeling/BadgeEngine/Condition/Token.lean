/-
Tokens of a condition. Besides names, numbers, quoted texts and signs there are line ends and the steps of
indentation, which matter only when a condition is written as a block. Lines inside brackets are joined,
and a backslash at the end of a line joins it to the next.
-/
import BadgeEngine.Number.FloatText
import BadgeEngine.Text.Identifier

namespace BadgeEngine.Condition

open BadgeEngine.Number BadgeEngine.Text

/-- a number as written -/
inductive NumberToken where
  | int (n : Nat)
  | float (x : Float)
  | imaginary (x : Float)

/-- a quoted text as written: what the letters before the quote say, and what stands between the quotes -/
structure QuoteToken where
  raw : Bool := false
  bytes : Bool := false
  format : Bool := false
  body : List Char := []

/-- a token -/
inductive Token where
  | keyword (s : String)
  /-- a name in normal form, and whether it was written in ASCII -/
  | name (s : String) (ascii : Bool)
  | number (n : NumberToken)
  | quote (q : QuoteToken)
  | sign (s : String)
  | newline
  | indent
  | dedent

/-- words that are never names -/
def keywords : List String :=
  ["False", "None", "True", "and", "as", "assert", "async", "await", "break", "class", "continue", "def",
    "del", "elif", "else", "except", "finally", "for", "from", "global", "if", "import", "in", "is",
    "lambda", "nonlocal", "not", "or", "pass", "raise", "return", "try", "while", "with", "yield"]

def signs : List (List Char) :=
  ["**=", "//=", ">>=", "<<=", "...", "!=", "%=", "&=", "**", "*=", "+=", "-=", "->", "//", "/=", ":=", "<<",
    "<=", "<>", "==", ">=", ">>", "@=", "^=", "|=", "%", "&", "(", ")", "*", "+", ",", "-", ".", "/", ":",
    ";", "<", "=", ">", "@", "[", "]", "^", "\x7b", "|", "\x7d", "~"].map String.toList

/-- characters a name may be made of before it is looked at closely -/
def mayBeName (c : Char) : Bool :=
  c.isAlphanum || c = '_' || 128 ≤ c.toNat

/-! ## Numbers -/

/-- words that may follow a number without a blank -/
def wordsAfterNumber : List (List Char) :=
  ["and", "else", "for", "if", "in", "is", "or", "not"].map String.toList

def numberEnds (cs : List Char) : Bool :=
  wordsAfterNumber.any (·.isPrefixOf cs) || !(cs.head?.any mayBeName)

def isDigitOf (base : Nat) (c : Char) : Bool :=
  c.toNat < 128 && (hexDigit? c).any (· < base)

/-- reads digits of a base after their mark -/
def takeBased? (base : Nat) (cs : List Char) : Option (NumberToken × List Char) := do
  let cs := match cs with | '_' :: r => r | r => r
  let (ds, rest) ← takeDigits (isDigitOf base) cs
  if rest.head?.any Char.isDigit || !numberEnds rest then none
  else some (.int (ds.foldl (fun n c => n * base + (hexDigit? c).getD 0) 0), rest)

/-- reads an exponent: its value and the rest; an `e` that begins a word is none -/
def takeExponent? (cs : List Char) : Option (Option Int × List Char) :=
  match cs with
  | c :: r =>
    if c = 'e' ∨ c = 'E' then
      let (neg, ds) := takeSign r
      match ds with
      | d :: _ =>
        if d.isDigit then do
          let (ds, rest) ← takeDigits Char.isDigit ds
          return (some (exponentValue neg ds), rest)
        else if ds.length = r.length && numberEnds cs then some (none, cs)
        else none
      | [] => none
    else some (none, cs)
  | [] => some (none, cs)

def finishDecimal? (whole : Bool) (ds : List Char) (scale : Int) (cs : List Char) :
    Option (NumberToken × List Char) :=
  let value := ofDecimal false ds scale
  match cs with
  | c :: r =>
    if c = 'j' ∨ c = 'J' then if numberEnds r then some (.imaginary value, r) else none
    else if !numberEnds cs then none
    else if !whole then some (.float value, cs)
    else if digitLimit < ds.length then none
    else some (.int (natOfDigits ds), cs)
  | [] =>
    if !whole then some (.float value, cs)
    else if digitLimit < ds.length then none
    else some (.int (natOfDigits ds), cs)

/-- reads what follows the whole part of a decimal number -/
def takeFraction? (whole : List Char) (cs : List Char) : Option (NumberToken × List Char) := do
  let (point, fraction, cs) ← match cs with
    | '.' :: r =>
      if r.head?.any Char.isDigit then do
        let (f, r) ← takeDigits Char.isDigit r
        pure (true, f, r)
      else pure (true, [], r)
    | r => pure (false, [], r)
  let (exponent, cs) ← takeExponent? cs
  let isWhole := !point && exponent.isNone
  -- a whole number other than zero has no zeros in front
  let imaginary := cs.head?.any fun c => c = 'j' ∨ c = 'J'
  if isWhole && !imaginary && whole.head? == some '0' && whole.any (· ≠ '0') then none
  else finishDecimal? isWhole (whole ++ fraction) (exponent.getD 0 - (fraction.length : Int)) cs

/-- reads a number that begins with a digit, or with a point before a digit -/
def takeNumber? (cs : List Char) : Option (NumberToken × List Char) :=
  match cs with
  | '0' :: m :: rest =>
    if m = 'x' ∨ m = 'X' then takeBased? 16 rest
    else if m = 'o' ∨ m = 'O' then takeBased? 8 rest
    else if m = 'b' ∨ m = 'B' then takeBased? 2 rest
    else do
      let (ds, rest) ← takeDigits Char.isDigit cs
      takeFraction? ds rest
  | '.' :: _ => takeFraction? [] cs
  | _ => do
    let (ds, rest) ← takeDigits Char.isDigit cs
    takeFraction? ds rest

/-! ## Quoted texts -/

/-- reads up to three closing quotes in a row: what stands before them, and the rest -/
def takeLong (q : Char) : List Char → List Char → Option (List Char × List Char)
  | _, [] => none
  | done, '\\' :: c :: cs => takeLong q (c :: '\\' :: done) cs
  | done, c :: cs =>
    if c = q && [q, q].isPrefixOf cs then some (done.reverse, cs.drop 2) else takeLong q (c :: done) cs

/-- reads up to one closing quote on the same line -/
def takeShort (q : Char) : List Char → List Char → Option (List Char × List Char)
  | _, [] => none
  | done, '\\' :: c :: cs => takeShort q (c :: '\\' :: done) cs
  | done, c :: cs =>
    if c = q then some (done.reverse, cs)
    else if c = '\n' then none
    else takeShort q (c :: done) cs

/-- reads a text after its first quote -/
def takeQuoted? (q : Char) (cs : List Char) : Option (List Char × List Char) :=
  if [q, q].isPrefixOf cs then takeLong q [] (cs.drop 2) else takeShort q [] cs

/-- reads the letters before a quote and the text, if a quote follows them -/
def quoteStart? (t : QuoteToken) (u : Bool) : List Char → Option (QuoteToken × Char × List Char)
  | [] => none
  | c :: cs =>
    if c = '\'' ∨ c = '"' then some (t, c, cs)
    else
      let l := c.toLower
      if l = 'b' && !(t.bytes || u || t.format) then quoteStart? { t with bytes := true } u cs
      else if l = 'u' && !(t.bytes || u || t.raw || t.format) then quoteStart? t true cs
      else if l = 'r' && !(t.raw || u) then quoteStart? { t with raw := true } u cs
      else if l = 'f' && !(t.format || t.bytes || u) then quoteStart? { t with format := true } u cs
      else none

/-! ## The token list -/

/-- where the reader stands: open brackets by what closes them, indentations by width with tabs of eight and
of one, tokens read so far, last first, and whether a line begins -/
structure Lexer where
  closers : List Char := []
  indents : List (Nat × Nat) := []
  tokens : List Token := []
  lineStart : Bool := true

def Lexer.push (l : Lexer) (t : Token) : Lexer :=
  { l with tokens := t :: l.tokens }

/-- a backslash must end its line, and another line must follow -/
def joinLines? : List Char → Option (List Char)
  | '\n' :: c :: cs => some (c :: cs)
  | _ => none

/-- measures the blanks at the start of a line: both widths, the width before the first joined line, and
the rest -/
def measure (col alt : Nat) (joined : Nat) : List Char → Option (Nat × Nat × Nat × List Char)
  | ' ' :: cs => measure (col + 1) (alt + 1) joined cs
  | '\t' :: cs => measure ((col / 8 + 1) * 8) (alt + 1) joined cs
  | '\x0c' :: cs => measure 0 0 joined cs
  | '\\' :: '\n' :: c :: cs => measure col alt (if joined ≠ 0 then joined else col) (c :: cs)
  | '\\' :: _ => none
  | cs => some (col, alt, joined, cs)

/-- closes indentations down to a width -/
def closeIndents (col alt : Nat) (l : Lexer) : List (Nat × Nat) → Option Lexer
  | [] => if col = 0 then if alt = 0 then some { l with indents := [] } else none else none
  | (c, a) :: more =>
    if col < c then closeIndents col alt (l.push .dedent) more
    else if col = c then if alt = a then some { l with indents := (c, a) :: more } else none
    else none

def indentLimit : Nat := 98

/-- opens or closes indentations for a line of the given widths -/
def Lexer.indentTo (l : Lexer) (col alt : Nat) : Option Lexer :=
  let (top, topAlt) := l.indents.headD (0, 0)
  if col = top then if alt = topAlt then some l else none
  else if top < col then
    if alt ≤ topAlt ∨ indentLimit < l.indents.length then none
    else some { l.push .indent with indents := (col, alt) :: l.indents }
  else closeIndents col alt l l.indents

def closerOf? (c : Char) : Option Char :=
  if c = '(' then some ')' else if c = '[' then some ']' else if c = '\x7b' then some '\x7d' else none

def bracketLimit : Nat := 200

/-- adds a sign and keeps track of brackets -/
def Lexer.pushSign (l : Lexer) (cs : List Char) : Option Lexer :=
  let l' := l.push (.sign (String.ofList cs))
  match cs with
  | [c] =>
    match closerOf? c with
    | some d => if bracketLimit ≤ l.closers.length then none else some { l' with closers := d :: l.closers }
    | none =>
      if c = ')' ∨ c = ']' ∨ c = '\x7d' then
        match l.closers with
        | d :: ds => if c = d then some { l' with closers := ds } else none
        | [] => none
      else some l'
  | _ => some l'

def Lexer.pushWord (l : Lexer) (cs : List Char) : Option Lexer :=
  let s := String.ofList cs
  if keywords.contains s then some (l.push (.keyword s))
  else if isName cs then some (l.push (.name (String.ofList (nameForm cs)) (cs.all fun c => c.toNat < 128)))
  else none

/-- reads the start of a line: an empty line is passed over, another one sets the indentation -/
def Lexer.beginLine (l : Lexer) (cs : List Char) : Option (Lexer × List Char) := do
  let (col, alt, joined, rest) ← measure 0 0 0 cs
  match rest with
  | '\n' :: r => return (l, r)
  | '#' :: r => return (l, (r.dropWhile (· ≠ '\n')).drop 1)
  | _ =>
    let l ← if joined ≠ 0 then l.indentTo joined joined else l.indentTo col alt
    return ({ l with lineStart := false }, rest)

/-- reads one token inside a line -/
def Lexer.step (l : Lexer) (c : Char) (cs : List Char) : Option (Lexer × List Char) :=
  if c = ' ' ∨ c = '\t' ∨ c = '\x0c' then some (l, cs)
  else if c = '#' then some (l, cs.dropWhile (· ≠ '\n'))
  else if c = '\n' then
    if l.closers.isEmpty then some ({ l.push .newline with lineStart := true }, cs) else some (l, cs)
  else if c = '\\' then do return (l, ← joinLines? cs)
  else
    match quoteStart? {} false (c :: cs) with
    | some (t, q, rest) => do
      let (body, rest) ← takeQuoted? q rest
      return (l.push (.quote { t with body }), rest)
    | none =>
      if c.isDigit || (c = '.' && cs.head?.any Char.isDigit) then do
        let (n, rest) ← takeNumber? (c :: cs)
        return (l.push (.number n), rest)
      else if mayBeName c then do
        let word := (c :: cs).takeWhile mayBeName
        return (← l.pushWord word, cs.drop (word.length - 1))
      else do
        let s ← signs.find? (·.isPrefixOf (c :: cs))
        return (← l.pushSign s, cs.drop (s.length - 1))

/-- what is left to read: every character counts twice, the start of a line once -/
def Lexer.left (l : Lexer) (cs : List Char) : Nat :=
  2 * cs.length + l.lineStart.toNat

/-- reads tokens to the end of the text -/
def Lexer.run (l : Lexer) (cs : List Char) : Option (List Token) :=
  match cs with
  | [] => if l.closers.isEmpty then some (l.indents.foldl (fun l _ => l.push .dedent) l).tokens.reverse else none
  | c :: rest =>
    match (if l.lineStart then l.beginLine (c :: rest) else l.step c rest) with
    | none => none
    | some (l', cs') => if l'.left cs' < l.left (c :: rest) then l'.run cs' else none
termination_by l.left cs

/-- line ends brought to one form, and one at the end -/
def plainLines : List Char → List Char
  | [] => ['\n']
  | ['\n'] => ['\n']
  | '\r' :: '\n' :: cs => '\n' :: (if cs.isEmpty then [] else plainLines cs)
  | '\r' :: cs => '\n' :: (if cs.isEmpty then [] else plainLines cs)
  | c :: cs => c :: plainLines cs

def tokens? (cs : List Char) : Option (List Token) :=
  if cs.any (·.toNat = 0) then none else Lexer.run {} (plainLines cs)

end BadgeEngine.Condition
