/-
The values of scalars by their tags: words, numbers, bytes, dates and times.
-/
import BadgeEngine.Document.Kind
import BadgeEngine.Number.Based
import BadgeEngine.Problem
import BadgeEngine.Text.Case

namespace BadgeEngine.Document

open BadgeEngine.Number BadgeEngine.Text BadgeEngine.Time

/-- the truth value of a word in any letter case -/
def boolOf (text : String) : Except Problem Value :=
  let word := lower text
  if ["yes", "true", "on"].contains word then .ok (.ofBool true)
  else if ["no", "false", "off"].contains word then .ok (.ofBool false)
  else .error (.noKey (quoted word))

/-! ## Numbers -/

/-- the sign in front of a number and the rest; there is at least one character -/
def signOf (cs : List Char) : Except Problem (Bool × List Char) :=
  match cs with
  | [] => .error .noCharacter
  | '-' :: rest => .ok (true, rest)
  | '+' :: rest => .ok (false, rest)
  | cs => .ok (false, cs)

def wholeIn (base : Nat) (cs : List Char) : Except Problem Int :=
  match (if base = 10 then readInt cs else readBased base cs) with
  | .ok n => .ok n
  | .error e => .error (.badValue (e.message base (quoted (String.ofList cs))))

def ofSixtieths (places : List Int) : Int :=
  places.foldl (fun n p => n * 60 + p) 0

def intOf (text : String) : Except Problem Value := do
  let (neg, cs) ← signOf (text.toList.filter (· ≠ '_'))
  let n : Int ←
    if cs = ['0'] then pure 0
    else if ['0', 'b'].isPrefixOf cs then wholeIn 2 (cs.drop 2)
    else if ['0', 'x'].isPrefixOf cs then wholeIn 16 (cs.drop 2)
    else
      match cs with
      | [] => throw .noCharacter
      | '0' :: _ => wholeIn 8 cs
      | cs => if cs.contains ':' then ofSixtieths <$> (splitChars ':' cs).mapM (wholeIn 10) else wholeIn 10 cs
  return .ofInt (if neg then -n else n)

def doubleIn (cs : List Char) : Except Problem Float :=
  match readFloat? cs with
  | some x => .ok x
  | none => .error (.badValue ("could not convert string to float: " ++ quoted (String.ofList cs)))

/-- the sum of places in base sixty, the last first; `base` is what the next one counts -/
def sumSixtieths (sum : Float) (base : Int) : List Float → Except Problem Float
  | [] => .ok sum
  | p :: ps =>
    match ofInt? base with
    | none => .error (.overflow "int too large to convert to float")
    | some b => sumSixtieths (sum + p * b) (base * 60) ps

def floatOf (text : String) : Except Problem Value := do
  let (neg, cs) ← signOf (lower (String.ofList (text.toList.filter (· ≠ '_')))).toList
  if cs = ".nan".toList then return .scalar (.float notANumber)
  let x ←
    if cs = ".inf".toList then pure (infinity false)
    else if cs.contains ':' then do sumSixtieths 0 1 (← (splitChars ':' cs).mapM doubleIn).reverse
    else doubleIn cs
  return .scalar (.float (if neg then -x else x))

/-! ## Bytes -/

/-- the six bits of a character -/
def sextet? (c : Char) : Option Nat :=
  if 'A' ≤ c && c ≤ 'Z' then some (c.toNat - 65)
  else if 'a' ≤ c && c ≤ 'z' then some (c.toNat - 71)
  else if c.isDigit then some (c.toNat + 4)
  else if c = '+' then some 62
  else if c = '/' then some 63
  else none

/-- reads bytes, four characters for three. `place` counts the characters of a group, `left` holds bits not yet
used, `pads` counts the padding since; other characters are passed over. -/
def readSextets (place left pads : Nat) : List Char → Except Problem (List Nat)
  | [] => if place = 0 then .ok [] else .error .document
  | c :: cs =>
    if c = '=' then
      if 2 ≤ place then if 4 ≤ place + pads + 1 then .ok [] else readSextets place left (pads + 1) cs
      else readSextets place left pads cs
    else
      match sextet? c with
      | none => readSextets place left pads cs
      | some v =>
        match place with
        | 0 => readSextets 1 v 0 cs
        | 1 => do return (left * 4 + v / 16) :: (← readSextets 2 (v % 16) 0 cs)
        | 2 => do return (left * 16 + v / 4) :: (← readSextets 3 (v % 4) 0 cs)
        | _ => do return (left * 64 + v) :: (← readSextets 0 0 0 cs)

def bytesOf (text : String) : Except Problem Value := do
  if text.toList.any fun c => 128 ≤ c.toNat then throw .document
  return .bytes (← readSextets 0 0 0 text.toList)

/-! ## Dates and times -/

/-- a number of digits between two bounds, and the rest -/
def number? (least most : Nat) (cs : List Char) : Option (Nat × List Char) :=
  let ds := (cs.take most).takeWhile Char.isDigit
  if ds.length < least then none else some (natOfDigits ds, cs.drop ds.length)

def after? (c : Char) : List Char → Option (List Char)
  | d :: cs => if d = c then some cs else none
  | [] => none

/-- a date and perhaps a time with its offset in seconds as they are written -/
structure WrittenTime where
  date : Date
  clock : Option (Clock × Option Int) := none

/-- reads an offset to the end of the text -/
def readOffset (cs : List Char) : Option (Option Int) :=
  match cs, cs.dropWhile fun c => c = ' ' || c = '\t' with
  | [], _ => some none
  | _, ['Z'] => some (some 0)
  | _, sign :: cs =>
    if sign = '-' || sign = '+' then do
      let (h, cs) ← number? 1 2 cs
      let (m, cs) ← match cs with | [] => some (0, []) | cs => number? 2 2 (← after? ':' cs)
      let o : Int := h * 3600 + m * 60
      if cs.isEmpty then return some (if sign = '-' then -o else o) else none
    else none
  | _, [] => none

/-- reads a time to the end of the text -/
def readClock (cs : List Char) : Option (Clock × Option Int) := do
  let (hour, cs) ← number? 1 2 cs
  let (minute, cs) ← number? 2 2 (← after? ':' cs)
  let (second, cs) ← number? 2 2 (← after? ':' cs)
  let (ds, cs) := match cs with
    | '.' :: cs => (cs.takeWhile Char.isDigit, cs.dropWhile Char.isDigit)
    | cs => ([], cs)
  let micro := natOfDigits ((ds ++ List.replicate 6 '0').take 6)
  return ({ hour, minute, second, micro }, ← readOffset cs)

def readWritten (cs : List Char) : Option WrittenTime := do
  let (year, cs) ← number? 4 4 cs
  let (month, cs) ← number? 1 2 (← after? '-' cs)
  let (day, cs) ← number? 1 2 (← after? '-' cs)
  let date : Date := ⟨year, month, day⟩
  match cs with
  | [] => return { date }
  | c :: rest =>
    let start ←
      if c = 'T' || c = 't' then some rest
      else if c = ' ' || c = '\t' then some (rest.dropWhile fun c => c = ' ' || c = '\t')
      else none
    return { date, clock := some (← readClock start) }

def timeOf (text : String) : Except Problem Value := do
  let cs := text.toList
  let cs := if cs.getLast? = some '\n' then cs.dropLast else cs
  let fromTime {α : Type} (r : Except TimeError α) : Except Problem α :=
    r.mapError (Problem.time text)
  match readWritten cs with
  | none => throw (.noAttribute "NoneType" "groupdict")
  | some ⟨date, none⟩ =>
    let _ ← fromTime (momentOf date {})
    return .date date
  | some ⟨date, some (clock, offset)⟩ =>
    let offset ← fromTime (checkOffset (offset.map (·, 0)))
    return .moment ⟨← fromTime (momentOf date clock), offset⟩

/-- the value of a scalar; collections have none here, and tags of no value are refused -/
def scalarValue (tag : Tag) (text : String) : Except Problem Value :=
  match tag with
  | .null => .ok .null
  | .bool => boolOf text
  | .int => intOf text
  | .float => floatOf text
  | .text => .ok (.ofText text)
  | .bytes => bytesOf text
  | .time => timeOf text
  | _ => .error .document

end BadgeEngine.Document
