/-
Scalars as they are written: plain, in quotes, or as a block of lines. Lines are folded: a single line end
becomes a space, and of several the first goes. A text comes with the place after it.
-/
import BadgeEngine.Document.Cursor
import BadgeEngine.Problem
import BadgeEngine.Text.Ranges

namespace BadgeEngine.Document

open BadgeEngine.Text

abbrev Scanned := Except Problem (List Char × Cursor)

/-- folds a line end and those after it -/
def fold (first more : List Char) : List Char :=
  if first ≠ ['\n'] then first ++ more else if more.isEmpty then [' '] else more

def isTabOrSpace (c : Char) : Bool := c = ' ' || c = '\t'

/-! ## Quotes -/

def escaped? (c : Char) : Option Char :=
  match c with
  | '0' => some '\x00'
  | 'a' => some '\x07'
  | 'b' => some '\x08'
  | 't' | '\t' => some '\t'
  | 'n' => some '\n'
  | 'v' => some '\x0b'
  | 'f' => some '\x0c'
  | 'r' => some '\r'
  | 'e' => some '\x1b'
  | ' ' | '"' | '\\' | '/' => some c
  | 'N' => some '\u0085'
  | '_' => some '\u00a0'
  | 'L' => some '\u2028'
  | 'P' => some '\u2029'
  | _ => none

/-- the number of digits of a numeric escape -/
def escapeWidth? (c : Char) : Option Nat :=
  match c with
  | 'x' => some 2
  | 'u' => some 4
  | 'U' => some 8
  | _ => none

/-- a number of hexadecimal digits from here on -/
def hexDigits? (c : Cursor) (width : Nat) : Option Nat :=
  let ds := c.rest.take width
  if ds.length = width && ds.all (fun d => (hexDigit? d).isSome) then some (hexNat ds) else none

/-- the low half of a pair of surrogates, escaped from here on -/
def lowSurrogate? (c : Cursor) : Option Nat :=
  match c.rest.take 2 with
  | ['\\', 'u'] => (hexDigits? (c.skip 2) 4).filter fun n => 0xdc00 ≤ n && n < 0xe000
  | _ => none

/-- the character of a numeric escape, and the place after it; two surrogates make one character, and one
alone has none -/
def numericEscape (code : Nat) (c : Cursor) : Except Problem (Char × Cursor) :=
  if 0x80000000 ≤ code then .error (.overflow "Python int too large to convert to C int")
  else if 0x110000 ≤ code then .error (.badValue "chr() arg not in range(0x110000)")
  else if 0xd800 ≤ code && code < 0xe000 then
    match (if code < 0xdc00 then lowSurrogate? c else none) with
    | some low => .ok (Char.ofNat (0x10000 + (code - 0xd800) * 1024 + (low - 0xdc00)), c.skip 6)
    | none => .ok ('\ufffd', c)
  else .ok (Char.ofNat code, c)

/-- line ends inside quotes, with the blanks around them -/
def quotedBreaks : Nat → Cursor → Scanned
  | 0, _ => .error .document
  | fuel + 1, c => do
    if c.atMark then throw .document
    let c := c.skipWhile isTabOrSpace
    match c.lineBreak with
    | ([], _) => return ([], c)
    | (b, c) =>
      let (more, c) ← quotedBreaks fuel c
      return (b ++ more, c)

/-- blanks inside quotes, folded when a line ends in them -/
def quotedBlanks (fuel : Nat) (c : Cursor) : Scanned := do
  let (blanks, c) := c.span isTabOrSpace
  if c.here.isNone then throw .document
  match c.lineBreak with
  | ([], _) => return (blanks, c)
  | (b, c) =>
    let (more, c) ← quotedBreaks fuel c
    return (fold b more, c)

/-- a character that stands for itself inside quotes -/
def isQuotedPlain (c : Char) : Bool :=
  c ≠ '\'' && c ≠ '"' && c ≠ '\\' && !isTabOrSpace c && !isBreak c

/-- an escape in double quotes, from the character after the backslash on -/
def escape (fuel : Nat) (c : Cursor) : Scanned := do
  match c.here with
  | none => throw .document
  | some ch =>
    match escaped? ch, escapeWidth? ch with
    | some e, _ => return ([e], c.next)
    | none, some width =>
      match hexDigits? c.next width with
      | none => throw .document
      | some code =>
        let (e, c) ← numericEscape code (c.next.skip width)
        return ([e], c)
    | none, none =>
      if isBreak ch then quotedBreaks fuel c.lineBreak.2 else throw .document

/-- what stands inside quotes up to the next blank or the end quote -/
def quotedWord (double : Bool) : Nat → Cursor → Scanned
  | 0, _ => .error .document
  | fuel + 1, c => do
    let (run, c) := c.span isQuotedPlain
    let piece ← match c.here with
      | some '\'' =>
        if double then pure (some (['\''], c.next))
        else if c.peek 1 = some '\'' then pure (some (['\''], c.skip 2))
        else pure none
      | some '"' => pure (if double then none else some (['"'], c.next))
      | some '\\' => if double then some <$> escape fuel c.next else pure (some (['\\'], c.next))
      | _ => pure none
    match piece with
    | none => return (run, c)
    | some (piece, c) =>
      let (more, c) ← quotedWord double fuel c
      return (run ++ piece ++ more, c)

/-- blanks and words inside quotes up to the end quote -/
def quotedWords (double : Bool) : Nat → Cursor → Scanned
  | 0, _ => .error .document
  | fuel + 1, c => do
    if c.here = some (if double then '"' else '\'') then return ([], c.next)
    let (blanks, c) ← quotedBlanks fuel c
    let (word, c) ← quotedWord double fuel c
    let (more, c) ← quotedWords double fuel c
    return (blanks ++ word ++ more, c)

def quotedScalar (double : Bool) (c : Cursor) : Scanned := do
  let fuel := c.rest.length + 1
  let (word, c) ← quotedWord double fuel c.next
  let (more, c) ← quotedWords double fuel c
  return (word ++ more, c)

/-! ## Plain texts -/

/-- a character that sets items of a collection in brackets apart -/
def isFlowMark (c : Char) : Bool :=
  c = ',' || c = '[' || c = ']' || c = '\x7b' || c = '\x7d'

/-- the characters of a plain text up to a blank, a colon that ends a key, or a mark of a collection -/
def plainWord (flow : Bool) : List Char → List Char
  | [] => []
  | c :: rest =>
    let ends := isTabOrSpace c || isBreak c
      || (c = ':' && (atBlank rest.head? || (flow && rest.head?.any isFlowMark)))
      || (flow && (isFlowMark c || c = '?'))
    if ends then [] else c :: plainWord flow rest

/-- blank lines and spaces after a line end in a plain text; none before a mark that begins or ends a
document -/
def plainBreaks : Nat → Cursor → Option (List Char) × Cursor
  | 0, c => (some [], c)
  | fuel + 1, c =>
    match c.here with
    | some ' ' => plainBreaks fuel c.next
    | _ =>
      match c.lineBreak with
      | ([], _) => (some [], c)
      | (b, c) =>
        if c.atMark then (none, c)
        else
          let (more, c) := plainBreaks fuel c
          (more.map (b ++ ·), c)

/-- spaces in a plain text, folded when a line ends in them: what they stand for, whether a line ended, and
the place after them -/
def plainSpaces (c : Cursor) : List Char × Bool × Cursor :=
  let (spaces, c) := c.span (· = ' ')
  match c.lineBreak with
  | ([], _) => (spaces, false, c)
  | (b, c) =>
    if c.atMark then ([], true, c)
    else
      match plainBreaks (c.rest.length + 1) c with
      | (none, c) => ([], true, c)
      | (some more, c) => (fold b more, true, c)

/-- a plain text: its characters, whether a line ended after it, and the place after it. `spaces` stand in
front of the next word; outside brackets a word stands at `indent` or further in. -/
def plainWords (flow : Bool) (indent : Int) : Nat → List Char → Bool → Cursor → List Char × Bool × Cursor
  | 0, _, ended, c => ([], ended, c)
  | fuel + 1, spaces, ended, c =>
    let word := plainWord flow c.rest
    if c.here = some '#' || word.isEmpty then ([], ended, c)
    else
      let (after, ended, c) := plainSpaces (c.skip word.length)
      if after.isEmpty || c.here = some '#' || (!flow && c.column < indent) then (spaces ++ word, ended, c)
      else
        let (more, ended, c) := plainWords flow indent fuel after ended c
        (spaces ++ word ++ more, ended, c)

/-- a plain text inside collections of an indent -/
def plainScalar (flow : Bool) (indent : Int) (c : Cursor) : List Char × Bool × Cursor :=
  plainWords flow (indent + 1) (c.rest.length + 1) [] false c

/-! ## Blocks -/

/-- what becomes of the line ends after a block -/
inductive Chomp where
  | strip
  | clip
  | keep
  deriving DecidableEq, Repr

/-- the mark that says what becomes of the last line ends -/
def chomp? (c : Cursor) : Option Chomp :=
  match c.here with
  | some '+' => some .keep
  | some '-' => some .strip
  | _ => none

def indentDigit? (c : Cursor) : Option Nat :=
  (c.here.filter Char.isDigit).map fun d => d.toNat - 48

/-- the marks of a block's first line, in either order -/
def blockHeader (c : Cursor) : Except Problem (Chomp × Option Nat × Cursor) := do
  let (mark, c) := match chomp? c with | some m => (some m, c.next) | none => (none, c)
  let (digit, c) := match indentDigit? c with | some d => (some d, c.next) | none => (none, c)
  let (mark, c) :=
    match mark, digit, chomp? c with
    | none, some _, some m => (some m, c.next)
    | m, _, _ => (m, c)
  if digit = some 0 || !atSpace c.here then throw .document
  return (mark.getD .clip, digit, c)

def restOfLine (c : Cursor) : Except Problem Cursor :=
  let c := c.skipSpaces.skipComment
  if atLineEnd c.here then .ok c.lineBreak.2 else .error .document

def skipIndent (indent : Nat) : Nat → Cursor → Cursor
  | 0, c => c
  | fuel + 1, c => if c.column < indent && c.here = some ' ' then skipIndent indent fuel c.next else c

/-- blank lines of a block, and the place where its next line begins -/
def blockBreaks (indent : Nat) : Nat → Cursor → List Char × Cursor
  | 0, c => ([], c)
  | fuel + 1, c =>
    let c := skipIndent indent c.rest.length c
    match c.lineBreak with
    | ([], _) => ([], c)
    | (b, c) =>
      let (more, c) := blockBreaks indent fuel c
      (b ++ more, c)

/-- blank lines at the start of a block, the furthest column reached by their spaces, and the place after
them -/
def leadingBreaks : Nat → Nat → Cursor → List Char × Nat × Cursor
  | 0, widest, c => ([], widest, c)
  | fuel + 1, widest, c =>
    if c.here = some ' ' then leadingBreaks fuel (max widest c.next.column) c.next
    else
      match c.lineBreak with
      | ([], _) => ([], widest, c)
      | (b, c) =>
        let (more, widest, c) := leadingBreaks fuel widest c
        (b ++ more, widest, c)

/-- the lines of a block from one that begins at its indent on: their text up to the last line's end, that
line end, the blank lines after it, and the place after them. `before` are the blank lines in front. -/
def blockLines (folded : Bool) (indent : Nat) :
    Nat → List Char → List Char → Cursor → List Char × List Char × List Char × Cursor
  | 0, ended, before, c => ([], ended, before, c)
  | fuel + 1, ended, before, c =>
    if c.column ≠ indent || c.here.isNone then ([], ended, before, c)
    else
      let blankFirst := c.here.any isTabOrSpace
      let (line, c) := c.span fun ch => !isBreak ch
      let (b, c) := c.lineBreak
      let (breaks, c) := blockBreaks indent (c.rest.length + 1) c
      if c.column ≠ indent || c.here.isNone then (before ++ line, b, breaks, c)
      else
        let join :=
          if folded && b = ['\n'] && !blankFirst && !c.here.any isTabOrSpace then
            if breaks.isEmpty then [' '] else []
          else b
        let (more, b, breaks, c) := blockLines folded indent fuel b breaks c
        (before ++ line ++ join ++ more, b, breaks, c)

/-- a block inside collections of an indent, from its first mark on -/
def blockScalar (folded : Bool) (indent : Int) (c : Cursor) : Scanned := do
  let (mark, digit, c) ← blockHeader c.next
  let c ← restOfLine c
  let least := (max (indent + 1) 1).toNat
  let fuel := c.rest.length + 1
  let (indent, before, c) :=
    match digit with
    | some d =>
      let indent := least + d - 1
      let (before, c) := blockBreaks indent fuel c
      (indent, before, c)
    | none =>
      let (before, widest, c) := leadingBreaks fuel 0 c
      (max least widest, before, c)
  let (text, ended, after, c) := blockLines folded indent fuel [] before c
  return (text ++ (if mark = .strip then [] else ended) ++ (if mark = .keep then after else []), c)

end BadgeEngine.Document
