/-
Quoted texts decoded: escapes, and texts with fields. A field holds the characters of an expression and may
have a format, which may hold fields of its own; those may have formats without fields.
-/
import BadgeEngine.Condition.Token

namespace BadgeEngine.Condition

open BadgeEngine.Number BadgeEngine.Text

/-! ## Escapes -/

/-- the character of a code point; a lone surrogate has none and is replaced -/
def charOf (n : Nat) : Char :=
  if 0xd800 ≤ n ∧ n < 0xe000 then '\ufffd' else Char.ofNat n

/-- the value of exactly `width` hexadecimal digits, and the rest -/
def takeHex? (width : Nat) (cs : List Char) : Option (Nat × List Char) :=
  let ds := cs.take width
  if ds.length = width && ds.all (isDigitOf 16) then some (hexNat ds, cs.drop width) else none

/-- one letter after a backslash that stands for a character of its own -/
def simpleEscape? (c : Char) : Option Char :=
  match c with
  | '\\' | '\'' | '"' => some c
  | 'a' => some '\x07'
  | 'b' => some '\x08'
  | 'f' => some '\x0c'
  | 'n' => some '\n'
  | 'r' => some '\r'
  | 't' => some '\t'
  | 'v' => some '\x0b'
  | _ => none

/-- the code of an escape that begins after a backslash: none for a joined line, two for one that is kept
as it stands -/
def takeEscape? (bytes : Bool) (c : Char) (cs : List Char) : Option (List Nat × List Char) :=
  if c = '\n' then some ([], cs)
  else
    match simpleEscape? c with
    | some d => some ([d.toNat], cs)
    | none =>
      if isDigitOf 8 c then
        let ds := (c :: cs.take 2).takeWhile (isDigitOf 8)
        some ([ds.foldl (fun n d => n * 8 + (d.toNat - 48)) 0], cs.drop (ds.length - 1))
      else if c = 'x' then do
        let (n, rest) ← takeHex? 2 cs
        return ([n], rest)
      else if !bytes && c = 'u' then do
        let (n, rest) ← takeHex? 4 cs
        return ([n], rest)
      else if !bytes && c = 'U' then do
        let (n, rest) ← takeHex? 8 cs
        if n < 0x110000 then some ([n], rest) else none
      else if !bytes && c = 'N' then none
      else some ([92, c.toNat], cs)

/-- the codes of a text with its escapes resolved; `left` bounds the number of steps -/
def unescape? (bytes : Bool) : Nat → List Nat → List Char → Option (List Nat)
  | 0, done, _ => some done.reverse
  | left + 1, done, cs =>
    match cs with
    | [] => some done.reverse
    | '\\' :: c :: rest =>
      match takeEscape? bytes c rest with
      | some (ns, rest) => unescape? bytes left (ns.reverse ++ done) rest
      | none => none
    | c :: rest => unescape? bytes left (c.toNat :: done) rest

def decodeText? (raw : Bool) (cs : List Char) : Option (List Char) :=
  if raw || !cs.contains '\\' then some cs
  else (unescape? false (cs.length + 1) [] cs).map (·.map charOf)

/-- the bytes of the characters between quotes, all of them ASCII -/
def decodeBytes? (raw : Bool) (cs : List Char) : Option (List Nat) :=
  if cs.any fun c => 128 ≤ c.toNat then none
  else if raw then some (cs.map Char.toNat)
  else (unescape? true (cs.length + 1) [] cs).map (·.map (· % 256))

/-! ## Fields -/

/-- a part of a text with fields -/
inductive FormatPart where
  | text (cs : List Char)
  | field (expr : List Char) (spec : Option (List FormatPart))

/-- finds where the literal part of a text ends: its characters, whether a doubled brace ended it, and the
rest, which begins with the brace unless it was doubled -/
def takeLiteral? (raw nested : Bool) : Nat → List Char → List Char → Option (List Char × Bool × List Char)
  | 0, _, _ => none
  | left + 1, done, cs =>
    let atBrace (done : List Char) (c : Char) (rest : List Char) :=
      if nested then some (done.reverse, false, c :: rest)
      else
        match rest with
        | d :: rest' =>
          if d = c then some ((c :: done).reverse, true, rest')
          else if c = '\x7d' then none
          else some (done.reverse, false, c :: rest)
        | [] => if c = '\x7d' then none else some (done.reverse, false, [c])
    match cs with
    | [] => some (done.reverse, false, [])
    | c :: rest =>
      if !raw && c = '\\' then
        match rest with
        | [] => takeLiteral? raw nested left (c :: done) []
        | 'N' :: rest' =>
          match rest' with
          | '\x7b' :: more =>
            let name := more.takeWhile (· ≠ '\x7d')
            let after := more.drop name.length
            takeLiteral? raw nested left
              ((after.take 1).reverse ++ name.reverse ++ '\x7b' :: 'N' :: '\\' :: done) (after.drop 1)
          | d :: more => takeLiteral? raw nested left (d :: 'N' :: '\\' :: done) more
          | [] => takeLiteral? raw nested left ('N' :: '\\' :: done) []
        | d :: rest' =>
          if d = '\x7b' ∨ d = '\x7d' then atBrace ('\\' :: done) d rest'
          else takeLiteral? raw nested left (d :: '\\' :: done) rest'
      else if c = '\x7b' ∨ c = '\x7d' then atBrace done c rest
      else takeLiteral? raw nested left (c :: done) rest

/-- finds where the expression of a field ends: brackets must match, and outside them `!`, `:`, `=` and the
closing brace end it unless they are part of a comparison -/
def takeFieldExpr? : Nat → List Char → List Char → List Char → Option (List Char × List Char)
  | 0, _, _, _ => none
  | _, _, _, [] => none
  | left + 1, closers, done, c :: cs =>
    if c = '\\' ∨ c = '#' then none
    else if c = '\'' ∨ c = '"' then do
      let (body, rest) ← fieldQuote? c cs
      takeFieldExpr? left closers (body.reverse ++ c :: done) rest
    else
      match closerOf? c with
      | some d =>
        if bracketLimit ≤ closers.length then none else takeFieldExpr? left (d :: closers) (c :: done) cs
      | none =>
        if closers.isEmpty && (c = '!' ∨ c = ':' ∨ c = '\x7d' ∨ c = '=' ∨ c = '>' ∨ c = '<') then
          if (c = '!' ∨ c = '=' ∨ c = '<' ∨ c = '>') && cs.head? == some '=' then
            takeFieldExpr? left closers ('=' :: c :: done) (cs.drop 1)
          else if c = '>' ∨ c = '<' then takeFieldExpr? left closers (c :: done) cs
          else some (done.reverse, c :: cs)
        else if c = ')' ∨ c = ']' ∨ c = '\x7d' then
          match closers with
          | d :: ds => if c = d then takeFieldExpr? left ds (c :: done) cs else none
          | [] => none
        else takeFieldExpr? left closers (c :: done) cs
where
  /-- the rest of a text inside a field, with its closing quotes -/
  fieldQuote? (q : Char) (cs : List Char) : Option (List Char × List Char) :=
    if [q, q].isPrefixOf cs then
      match takeLongPlain q [] (cs.drop 2) with
      | some (body, rest) => some (q :: q :: body ++ [q, q, q], rest)
      | none => none
    else
      let body := cs.takeWhile (· ≠ q)
      if cs.length ≤ body.length || body.contains '\\' then none
      else some (body ++ [q], cs.drop (body.length + 1))
  /-- reads up to three closing quotes in a row, without escapes -/
  takeLongPlain (q : Char) : List Char → List Char → Option (List Char × List Char)
    | _, [] => none
    | done, c :: cs =>
      if c = '\\' then none
      else if c = q && [q, q].isPrefixOf cs then some (done.reverse, cs.drop 2)
      else takeLongPlain q (c :: done) cs

def isFieldBlank (c : Char) : Bool :=
  c = ' ' ∨ c = '\t' ∨ c = '\n' ∨ c = '\x0c'

/-- blanks that may follow the equals sign of a field -/
def isAsciiBlank (c : Char) : Bool :=
  c = ' ' ∨ (9 ≤ c.toNat ∧ c.toNat ≤ 13)

mutual

/-- the parts of a text with fields, down to a depth of nesting; stops before a closing brace when nested -/
def takeParts? (raw : Bool) (depth : Nat) : Nat → List FormatPart → List Char →
    Option (List FormatPart × List Char)
  | 0, _, _ => none
  | left + 1, done, cs => do
    let (lit, doubled, rest) ← takeLiteral? raw (depth ≠ 0) (cs.length + 1) [] cs
    let done ← if lit.isEmpty then pure done else do pure (.text (← decodeText? raw lit) :: done)
    if doubled then takeParts? raw depth left done rest
    else
      match rest with
      | [] => return (done.reverse, [])
      | '\x7d' :: _ => return (done.reverse, rest)
      | _ :: rest =>
        let (shown, field, rest) ← takeField? raw depth left rest
        takeParts? raw depth left (field :: (if shown.isEmpty then done else .text shown :: done)) rest

/-- one field after its opening brace: the text it shows before its value, and the field -/
def takeField? (raw : Bool) (depth : Nat) : Nat → List Char → Option (List Char × FormatPart × List Char)
  | 0, _ => none
  | left + 1, cs => do
    if 2 ≤ depth then none
    else
      let (expr, rest) ← takeFieldExpr? (cs.length + 1) [] [] cs
      if expr.all isFieldBlank then none
      else
        let (shown, rest) := match rest with
          | '=' :: r =>
            let after := r.dropWhile isAsciiBlank
            (expr ++ '=' :: r.take (r.length - after.length), after)
          | r => ([], r)
        let rest ← match rest with
          | '!' :: c :: r => if c = 's' ∨ c = 'r' ∨ c = 'a' then some r else none
          | '!' :: [] => none
          | r => some r
        let (spec, rest) ← match rest with
          | ':' :: r => do
            let (parts, r) ← takeParts? raw (depth + 1) left [] r
            pure (some parts, r)
          | r => pure (none, r)
        match rest with
        | '\x7d' :: r => return (shown, .field expr spec, r)
        | _ => none

end

def formatParts? (raw : Bool) (cs : List Char) : Option (List FormatPart) := do
  let (parts, rest) ← takeParts? raw 0 (2 * cs.length + 4) [] cs
  if rest.isEmpty then some parts else none

end BadgeEngine.Condition
