/-
The layout of a document: how its text divides into tokens. Outside brackets, collections begin and end by their
columns. A key may be known only by the colon after it, so places where a key may have begun are kept until the
colon comes, the line ends, or the key grows too long.
-/
import BadgeEngine.Document.Token

namespace BadgeEngine.Document

/-- a place where a key may have begun -/
structure KeyPlace where
  /-- how many brackets are open there -/
  level : Nat
  /-- the number of tokens in front of it -/
  position : Nat
  /-- whether it must turn out a key -/
  required : Bool
  index : Nat
  line : Nat
  column : Nat

/-- the longest key known by its colon alone -/
def keyLimit : Nat := 1024

/-- how far a text has been divided -/
structure Layout where
  cursor : Cursor
  /-- how many brackets are open -/
  level : Nat := 0
  /-- the column of the innermost block collection, and those of the ones around it -/
  indent : Int := -1
  outer : List Int := []
  /-- whether a key may begin here -/
  keyAllowed : Bool := true
  keys : List KeyPlace := []
  /-- the tokens, the last in front, and their number -/
  tokens : List Token := []
  count : Nat := 0

namespace Layout

def push (l : Layout) (t : Token) : Layout :=
  { l with tokens := t :: l.tokens, count := l.count + 1 }

/-- puts a token in front of those that follow the first `position` -/
def insert (l : Layout) (position : Nat) (t : Token) : Layout :=
  let behind := l.count - position
  { l with tokens := l.tokens.take behind ++ t :: l.tokens.drop behind, count := l.count + 1 }

def moveTo (l : Layout) (c : Cursor) : Layout := { l with cursor := c }

def flow (l : Layout) : Bool := l.level ≠ 0

/-! ## Columns -/

/-- ends the block collections whose column lies beyond another -/
def unwind (column : Int) : Layout → List Int → Layout
  | l, [] => l
  | l, i :: outer =>
    if column < l.indent then unwind column ({ l with indent := i, outer }.push .blockEnd) outer else l

/-- ends the block collections whose column lies beyond another; inside brackets there are none to end -/
def unwindTo (l : Layout) (column : Int) : Layout :=
  if l.flow then l else unwind column l l.outer

/-- whether a column begins a new block collection -/
def isDeeper (l : Layout) (column : Nat) : Bool := l.indent < column

/-- begins a block collection at a column -/
def indentTo (l : Layout) (column : Nat) : Layout :=
  { l with indent := column, outer := l.indent :: l.outer }

/-! ## Keys -/

/-- forgets places where no key can have begun any more -/
def dropStale (l : Layout) : Except Problem Layout :=
  let (stale, kept) := l.keys.partition fun k =>
    k.line ≠ l.cursor.line || keyLimit < l.cursor.index - k.index
  if stale.any (·.required) then .error .document else .ok { l with keys := kept }

/-- forgets the place at the present level -/
def dropKey (l : Layout) : Except Problem Layout :=
  let (here, others) := l.keys.partition fun k => k.level = l.level
  if here.any (·.required) then .error .document else .ok { l with keys := others }

/-- notes that a key may begin here -/
def saveKey (l : Layout) : Except Problem Layout :=
  if l.keyAllowed then do
    let required := !l.flow && l.indent = l.cursor.column
    let l ← l.dropKey
    let k : KeyPlace :=
      ⟨l.level, l.count, required, l.cursor.index, l.cursor.line, l.cursor.column⟩
    return { l with keys := k :: l.keys }
  else return l

/-! ## Tokens -/

/-- the place of the next token; a line end outside brackets lets a key begin -/
def skipToToken : Nat → Layout → Layout
  | 0, l => l
  | fuel + 1, l =>
    let c := l.cursor.skipSpaces.skipComment
    match c.lineBreak with
    | ([], _) => l.moveTo c
    | (_, c) => skipToToken fuel { l with cursor := c, keyAllowed := l.keyAllowed || !l.flow }

/-- ends every block collection, in front of a mark of the whole document -/
def clear (l : Layout) : Except Problem Layout := do
  let l ← (l.unwindTo (-1)).dropKey
  return { l with keyAllowed := false }

def documentMark (l : Layout) (t : Token) : Except Problem Layout := do
  let l ← l.clear
  return (l.moveTo (l.cursor.skip 3)).push t

def openBracket (l : Layout) (t : Token) : Except Problem Layout := do
  let l ← l.saveKey
  return { l with level := l.level + 1, keyAllowed := true, cursor := l.cursor.next }.push t

def closeBracket (l : Layout) (t : Token) : Except Problem Layout := do
  let l ← l.dropKey
  return { l with level := l.level - 1, keyAllowed := false, cursor := l.cursor.next }.push t

def flowEntry (l : Layout) : Except Problem Layout := do
  let l ← l.dropKey
  return { l with keyAllowed := true, cursor := l.cursor.next }.push .flowEntry

/-- begins a block collection here if this column is a new one; outside brackets this must be a place for a
key -/
def blockStart (l : Layout) (t : Token) : Except Problem Layout :=
  if l.flow then .ok l
  else if !l.keyAllowed then .error .document
  else if l.isDeeper l.cursor.column then .ok ((l.indentTo l.cursor.column).push t)
  else .ok l

def blockEntry (l : Layout) : Except Problem Layout := do
  let l ← (← l.blockStart .blockSequenceStart).dropKey
  return { l with keyAllowed := true, cursor := l.cursor.next }.push .blockEntry

def explicitKey (l : Layout) : Except Problem Layout := do
  let l ← (← l.blockStart .blockMappingStart).dropKey
  return { l with keyAllowed := !l.flow, cursor := l.cursor.next }.push .key

/-- the colon of a value; what began at a place kept for it was a key -/
def value (l : Layout) : Except Problem Layout := do
  match l.keys.find? fun k => k.level = l.level with
  | some k =>
    let l := { l with keys := l.keys.filter fun k => k.level ≠ l.level, keyAllowed := false }
    let l := l.insert k.position .key
    let l :=
      if !l.flow && l.isDeeper k.column then (l.indentTo k.column).insert k.position .blockMappingStart else l
    return (l.moveTo l.cursor.next).push .value
  | none =>
    let l ← (← l.blockStart .blockMappingStart).dropKey
    return { l with keyAllowed := !l.flow, cursor := l.cursor.next }.push .value

def keyToken (l : Layout) (scan : Cursor → Except Problem (Token × Cursor)) : Except Problem Layout := do
  let l ← l.saveKey
  let (t, c) ← scan l.cursor
  return { l with keyAllowed := false, cursor := c }.push t

def name (l : Layout) (t : String → Token) : Except Problem Layout :=
  l.keyToken fun c => do
    let (n, c) ← scanAnchor c
    return (t n, c)

def quoted (l : Layout) (double : Bool) : Except Problem Layout :=
  l.keyToken fun c => do
    let (text, c) ← quotedScalar double c
    return (.scalar (String.ofList text) false, c)

/-- a plain text; a line end after it lets a key begin -/
def plain (l : Layout) : Except Problem Layout := do
  let l ← l.saveKey
  let (text, ended, c) := plainScalar l.flow l.indent l.cursor
  return { l with keyAllowed := ended, cursor := c }.push (.scalar (String.ofList text) true)

def block (l : Layout) (folded : Bool) : Except Problem Layout := do
  let l ← l.dropKey
  let (text, c) ← blockScalar folded l.indent l.cursor
  return { l with keyAllowed := true, cursor := c }.push (.scalar (String.ofList text) false)

def directive (l : Layout) : Except Problem Layout := do
  let l ← l.clear
  let (t, c) ← scanDirective l.cursor
  return (l.moveTo c).push t

/-- whether a plain text may begin with a character before another -/
def beginsPlain (l : Layout) (ch : Char) (after : Option Char) : Bool :=
  if ch = '-' then !atBlank after
  else if ch = '?' || ch = ':' then !l.flow && !atBlank after
  else !(isTabOrSpace ch || isBreak ch || isFlowMark ch || "#&*!|>'\"%@\x60".toList.contains ch)

def token (l : Layout) (ch : Char) : Except Problem Layout :=
  let c := l.cursor
  let after := c.peek 1
  if ch = '%' && c.column = 0 then l.directive
  else if c.column = 0 && c.hasMark '-' then l.documentMark .documentStart
  else if c.column = 0 && c.hasMark '.' then l.documentMark .documentEnd
  else if ch = '[' then l.openBracket .flowSequenceStart
  else if ch = '\x7b' then l.openBracket .flowMappingStart
  else if ch = ']' then l.closeBracket .flowSequenceEnd
  else if ch = '\x7d' then l.closeBracket .flowMappingEnd
  else if ch = ',' then l.flowEntry
  else if ch = '-' && atBlank after then l.blockEntry
  else if ch = '?' && (l.flow || atBlank after) then l.explicitKey
  else if ch = ':' && (l.flow || atBlank after) then l.value
  else if ch = '*' then l.name .reference
  else if ch = '&' then l.name .anchor
  else if ch = '!' then l.keyToken scanTag
  else if ch = '|' && !l.flow then l.block false
  else if ch = '>' && !l.flow then l.block true
  else if ch = '\'' then l.quoted false
  else if ch = '"' then l.quoted true
  else if l.beginsPlain ch after then l.plain
  else .error .document

/-- divides the rest of a text -/
def run : Nat → Layout → Except Problem Layout
  | 0, _ => .error .document
  | fuel + 1, l => do
    let l := skipToToken (l.cursor.rest.length + 1) l
    let l := (← l.dropStale)
    let l := l.unwindTo l.cursor.column
    match l.cursor.here with
    | none => l.clear
    | some ch => run fuel (← l.token ch)

end Layout

/-- the tokens of a text; a byte order mark in front is passed over -/
def tokensOf (text : List Char) : Except Problem (List Token) := do
  let start : Cursor := { rest := text }
  let start := if start.here = some '\ufeff' then start.next else start
  let l ← Layout.run (text.length + 1) { cursor := start }
  return l.tokens.reverse

end BadgeEngine.Document
