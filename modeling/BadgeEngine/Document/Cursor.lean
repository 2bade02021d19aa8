/-
Places in the text of a document. A place knows what is left, how far it is into the text, and its line and
column. A line ends at a line feed, a next-line, or a line or paragraph separator; the end of the text counts as
whatever may end a thing.
-/

namespace BadgeEngine.Document

/-- a place in a text -/
structure Cursor where
  rest : List Char
  index : Nat := 0
  line : Nat := 0
  column : Nat := 0

def isBreak (c : Char) : Bool :=
  c = '\n' || c = '\u0085' || c = '\u2028' || c = '\u2029'

def atLineEnd (c : Option Char) : Bool :=
  c.all isBreak

/-- a space, or the end of a line or of the text -/
def atSpace (c : Option Char) : Bool :=
  c.all fun c => c = ' ' || isBreak c

/-- a space or tab, or the end of a line or of the text -/
def atBlank (c : Option Char) : Bool :=
  c.all fun c => c = ' ' || c = '\t' || isBreak c

/-- a character of a name: an ASCII letter or digit, a hyphen or an underscore -/
def isNameChar (c : Char) : Bool :=
  c.isAlphanum || c = '-' || c = '_'

def isAllowed (c : Char) : Bool :=
  c = '\t' || c = '\n' || c = '\r' || c = '\u0085' || (' ' ≤ c && c ≤ '~')
    || ('\u00a0' ≤ c && c ≤ '\ufffd') || '\uffff' < c

namespace Cursor

/-- the character a number of places ahead -/
def peek (c : Cursor) (n : Nat) : Option Char :=
  (c.rest.drop n).head?

def here (c : Cursor) : Option Char := c.rest.head?

/-- the place after a character; a byte order mark takes no column -/
def next (c : Cursor) : Cursor :=
  match c.rest with
  | [] => c
  | ch :: rest =>
    if isBreak ch then ⟨rest, c.index + 1, c.line + 1, 0⟩
    else ⟨rest, c.index + 1, c.line, if ch = '\ufeff' then c.column else c.column + 1⟩

/-- the place a number of characters on -/
def skip (c : Cursor) : Nat → Cursor
  | 0 => c
  | n + 1 => c.next.skip n

/-- the characters from here on that are of a kind, and the place after them -/
def span (c : Cursor) (p : Char → Bool) : List Char × Cursor :=
  let run := c.rest.takeWhile p
  (run, c.skip run.length)

/-- the place after the characters of a kind -/
def skipWhile (c : Cursor) (p : Char → Bool) : Cursor :=
  (c.span p).2

def skipSpaces (c : Cursor) : Cursor :=
  c.skipWhile (· = ' ')

def skipComment (c : Cursor) : Cursor :=
  if c.here = some '#' then c.skipWhile fun ch => !isBreak ch else c

/-- the end of a line, if one is here, as it is kept in texts -/
def lineBreak (c : Cursor) : List Char × Cursor :=
  match c.here with
  | none => ([], c)
  | some ch =>
    if ch = '\n' || ch = '\u0085' then (['\n'], c.next)
    else if isBreak ch then ([ch], c.next)
    else ([], c)

/-- whether a mark that begins or ends a document stands here, for its three characters -/
def hasMark (c : Cursor) (mark : Char) : Bool :=
  c.rest.take 3 = [mark, mark, mark] && atBlank (c.peek 3)

/-- whether a mark that begins or ends a document stands here -/
def atMark (c : Cursor) : Bool :=
  c.hasMark '-' || c.hasMark '.'

end Cursor

end BadgeEngine.Document
