/-
Tokens of a document, and the ones that are read by themselves: names, tags and directives.
-/
import BadgeEngine.Document.Text

namespace BadgeEngine.Document

open BadgeEngine.Text

/-- a line in front of a document -/
inductive Directive where
  /-- the version of the format, by its first number -/
  | version (major : Nat)
  /-- what a handle of tags stands for -/
  | handle (name expansion : String)
  | unknown
  deriving DecidableEq, Repr

/-- a token -/
inductive Token where
  | directive (d : Directive)
  | documentStart
  | documentEnd
  | blockSequenceStart
  | blockMappingStart
  | blockEnd
  | flowSequenceStart
  | flowSequenceEnd
  | flowMappingStart
  | flowMappingEnd
  | blockEntry
  | flowEntry
  | key
  | value
  /-- stands for what an anchor names -/
  | reference (name : String)
  | anchor (name : String)
  /-- a tag by its handle, if it has one, and the rest -/
  | tag (handle : Option String) (rest : String)
  | scalar (text : String) (plain : Bool)
  deriving DecidableEq, Repr

/-! ## Names -/

def scanName (c : Cursor) : Scanned :=
  match c.span isNameChar with
  | ([], _) => .error .document
  | r => .ok r

def mayFollowAnchor (c : Option Char) : Bool :=
  atBlank c || c.any fun c => "?:,]\x7d%@\x60".toList.contains c

/-- the name of an anchor or reference, after its mark -/
def scanAnchor (c : Cursor) : Except Problem (String × Cursor) := do
  let (name, c) ← scanName c.next
  if mayFollowAnchor c.here then return (String.ofList name, c) else throw .document

/-! ## Tags -/

def isTagChar (c : Char) : Bool :=
  isNameChar c || ";/?:@&=+$,.!~*'()[]".toList.contains c

/-- bytes written as a percent sign and two digits each -/
def scanBytes : Nat → Cursor → Except Problem (List Nat × Cursor)
  | 0, _ => .error .document
  | fuel + 1, c =>
    if c.here = some '%' then
      match hexDigits? c.next 2 with
      | none => .error .document
      | some b => do
        let (more, c) ← scanBytes fuel (c.skip 3)
        return (b :: more, c)
    else .ok ([], c)

/-- the text that bytes encode -/
def textOfBytes (bs : List Nat) : Except Problem (List Char) :=
  match String.fromUTF8? (ByteArray.mk (bs.map UInt8.ofNat).toArray) with
  | some s => .ok s.toList
  | none => .error .document

/-- the rest of a tag, escapes read -/
def scanTagText : Nat → Cursor → Scanned
  | 0, _ => .error .document
  | fuel + 1, c => do
    let (run, c) := c.span isTagChar
    if c.here = some '%' then
      let (bytes, c) ← scanBytes fuel c
      let chars ← textOfBytes bytes
      let (more, c) ← scanTagText fuel c
      return (run ++ chars ++ more, c)
    else return (run, c)

def scanTagRest (c : Cursor) : Except Problem (String × Cursor) := do
  let (text, after) ← scanTagText (c.rest.length + 1) c
  if after.index = c.index then throw .document
  return (String.ofList text, after)

/-- a handle: an exclamation mark, or a name between two -/
def scanHandle (c : Cursor) : Except Problem (String × Cursor) :=
  if c.here ≠ some '!' then .error .document
  else if c.peek 1 = some ' ' then .ok ("!", c.next)
  else
    let (name, d) := c.next.span isNameChar
    if d.here = some '!' then .ok (String.ofList ('!' :: name ++ ['!']), d.next) else .error .document

/-- whether a second exclamation mark stands in a tag -/
def hasSecondMark (c : Cursor) : Bool :=
  let word := c.rest.takeWhile fun ch => ch ≠ ' ' && !isBreak ch
  (word.drop 1).contains '!'

def scanTag (c : Cursor) : Except Problem (Token × Cursor) := do
  let (t, c) ←
    if c.peek 1 = some '<' then do
      let (rest, c) ← scanTagRest (c.skip 2)
      if c.here ≠ some '>' then throw .document
      pure (Token.tag none rest, c.next)
    else if atBlank (c.peek 1) then pure (Token.tag none "!", c.next)
    else do
      let (handle, c) ← if hasSecondMark c then scanHandle c else pure ("!", c.next)
      let (rest, c) ← scanTagRest c
      pure (Token.tag (some handle) rest, c)
  if atSpace c.here then return (t, c) else throw .document

/-! ## Directives -/

def scanNumber (c : Cursor) : Except Problem (Nat × Cursor) :=
  match c.span Char.isDigit with
  | ([], _) => .error .document
  | (ds, c) => .ok (Nat.ofDigitChars 10 ds 0, c)

def scanVersion (c : Cursor) : Except Problem (Directive × Cursor) := do
  let (major, c) ← scanNumber c.skipSpaces
  if c.here ≠ some '.' then throw .document
  let (_, c) ← scanNumber c.next
  if atSpace c.here then return (.version major, c) else throw .document

def scanExpansion (c : Cursor) : Except Problem (Directive × Cursor) := do
  let (name, c) ← scanHandle c.skipSpaces
  if c.here ≠ some ' ' then throw .document
  let (expansion, c) ← scanTagRest c.skipSpaces
  if atSpace c.here then return (.handle name expansion, c) else throw .document

/-- a directive, from its percent sign to the next line -/
def scanDirective (c : Cursor) : Except Problem (Token × Cursor) := do
  let (name, c) ← scanName c.next
  if !atSpace c.here then throw .document
  let (d, c) ←
    if name = "YAML".toList then scanVersion c
    else if name = "TAG".toList then scanExpansion c
    else pure (.unknown, c.skipWhile fun ch => !isBreak ch)
  return (.directive d, ← restOfLine c)

end BadgeEngine.Document
