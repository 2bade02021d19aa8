/-
Methods of texts.
-/
import BadgeEngine.Condition.Arguments
import BadgeEngine.Text.Blank
import BadgeEngine.Text.Case
import BadgeEngine.Text.Encoding
import BadgeEngine.Text.Identifier

namespace BadgeEngine.Condition

open BadgeEngine BadgeEngine.Number BadgeEngine.Text

/-- the part of a text that a search is limited to: where it begins, and its characters; none when it would
begin behind the end -/
def searchPart (cs : List Char) (start stop : Option Datum) : Outcome (Option (Nat × List Char)) := do
  let len : Int := cs.length
  let i ← boundOf (start.getD .null)
  let j ← boundOf (stop.getD .null)
  let i := (i.map fun n => max 0 (if n < 0 then n + len else n)).getD 0
  let j := (j.map (clampEnd cs.length 0 len)).getD len
  if i ≤ j then return some (i.toNat, (cs.drop i.toNat).take (j - i).toNat) else return none

/-- where a text first occurs in another -/
def findFrom (needle : List Char) : Nat → List Char → Option Nat
  | i, [] => if needle.isEmpty then some i else none
  | i, c :: cs => if needle.isPrefixOf (c :: cs) then some i else findFrom needle (i + 1) cs

def findLast (needle cs : List Char) : Option Nat :=
  (findFrom needle.reverse 0 cs.reverse).map fun i => cs.length - i - needle.length

/-- how often a text occurs in another, occurrences not overlapping -/
def countIn (needle : List Char) : Nat → List Char → Nat
  | 0, _ => 0
  | left + 1, cs =>
    match findFrom needle 0 cs with
    | some i => 1 + countIn needle left (cs.drop (i + needle.length))
    | none => 0

/-- a text with occurrences of another replaced, `left` of them at most -/
def replaceIn (old new : List Char) : Nat → List Char → List Char
  | 0, cs => cs
  | left + 1, cs =>
    match findFrom old 0 cs with
    | some i => cs.take i ++ new ++ replaceIn old new left (cs.drop (i + old.length))
    | none => cs

/-- a text with another put before every character and at the end, `left` of them at most -/
def interleave (new : List Char) : Nat → List Char → List Char
  | 0, cs => cs
  | _ + 1, [] => new
  | left + 1, c :: cs => new ++ c :: interleave new left cs

/-- the pieces between occurrences of a text, `left` of which are looked for -/
def splitBy (sep : List Char) : Nat → List Char → List (List Char)
  | 0, cs => [cs]
  | left + 1, cs =>
    match findFrom sep 0 cs with
    | some i => cs.take i :: splitBy sep left (cs.drop (i + sep.length))
    | none => [cs]

/-- the pieces between blanks, `left` of which are cut off one by one; `fuel` bounds the steps -/
def splitBlanks : Nat → Nat → List Char → List (List Char)
  | 0, _, _ => []
  | fuel + 1, left, cs =>
    let cs := trimStart cs
    if cs.isEmpty then []
    else if left = 0 then [cs]
    else
      let piece := cs.takeWhile fun c => !isBlank c
      piece :: splitBlanks fuel (left - 1) (cs.drop piece.length)

def endsLine (c : Char) : Bool :=
  let n := c.toNat
  (10 ≤ n ∧ n ≤ 13) ∨ (28 ≤ n ∧ n ≤ 30) ∨ n = 0x85 ∨ n = 0x2028 ∨ n = 0x2029

def linesOf (keep : Bool) (line : List Char) : List Char → List (List Char)
  | [] => if line.isEmpty then [] else [line.reverse]
  | '\r' :: '\n' :: cs => ((if keep then '\n' :: '\r' :: line else line).reverse) :: linesOf keep [] cs
  | c :: cs =>
    if endsLine c then ((if keep then c :: line else line).reverse) :: linesOf keep [] cs
    else linesOf keep (c :: line) cs

def expandTabs (width : Nat) : Nat → List Char → List Char
  | _, [] => []
  | col, '\t' :: cs =>
    if width = 0 then expandTabs width col cs
    else
      let n := width - col % width
      List.replicate n ' ' ++ expandTabs width (col + n) cs
  | col, c :: cs => c :: expandTabs width (if c = '\n' ∨ c = '\r' then 0 else col + 1) cs

/-- whether a letter is one of the few with a case between small and capital -/
def isTitleLetter (c : Char) : Bool :=
  titleMap.special.any (fun r => r.1 == c.toNat) && titleChar c == [c] && !lowerLetters.hasChar c

/-- whether the words of a text begin with capitals and go on in small letters -/
def isTitle : Bool → Bool → List Char → Bool
  | _, any, [] => any
  | inWord, any, c :: cs =>
    if upperLetters.hasChar c || isTitleLetter c then !inWord && isTitle true true cs
    else if lowerLetters.hasChar c then inWord && isTitle true true cs
    else isTitle false any cs

/-- a text with small letters and capitals exchanged -/
def swapFrom (before : List Char) : List Char → List Char
  | [] => []
  | c :: cs =>
    let image :=
      if upperLetters.hasChar c then lowerAt before c cs
      else if lowerLetters.hasChar c then upperChar c
      else [c]
    image ++ swapFrom (c :: before) cs

/-! ## Methods -/

def allOf (p : Char → Bool) (cs : List Char) : Datum :=
  .ofBool (!cs.isEmpty && cs.all p)

/-- a text with the given characters taken off its ends -/
def stripped (start stop : Bool) (gone : Char → Bool) (cs : List Char) : List Char :=
  let cs := if start then cs.dropWhile gone else cs
  if stop then (cs.reverse.dropWhile gone).reverse else cs

def stripSet (name : String) (d : Option Datum) : Outcome (Char → Bool) :=
  match d with
  | none | some (.data .null) => .ok isBlank
  | some d =>
    match d.text? with
    | some s => .ok fun c => s.toList.contains c
    | none => .error (.type (name ++ " arg must be None or str"))

def textList (css : List (List Char)) : Datum :=
  .data (.list (css.map fun cs => .ofText (String.ofList cs)))

def endMatches (name : String) (atEnd : Bool) (part : Option (Nat × List Char)) (d : Datum) : Outcome Datum := do
  let hit (s : String) : Bool :=
    match part with
    | some (_, cs) => if atEnd then s.toList.isSuffixOf cs else s.toList.isPrefixOf cs
    | none => false
  match d with
  | .data (.scalar (.text s)) => return .ofBool (hit s)
  | .data (.tuple vs) =>
    let rec go : List Value → Outcome Datum
      | [] => .ok (.ofBool false)
      | .scalar (.text s) :: vs => if hit s then .ok (.ofBool true) else go vs
      | v :: _ => .error (.type ("tuple for " ++ name ++ " must only contain str, not " ++ v.typeName))
    go vs
  | d => throw (.type (name ++ " first arg must be str or a tuple of str, not " ++ d.typeName))

/-- pieces of a text, `max` of which are cut off from one of its ends -/
def splitText (fromEnd : Bool) (cs : List Char) (sep max : Option Datum) : Outcome Datum := do
  let max ← match max with | some d => sizeArgument d | none => pure (-1)
  let count := if max < 0 then cs.length + 1 else min max.toNat (cs.length + 1)
  let turned := if fromEnd then cs.reverse else cs
  let back (css : List (List Char)) := textList (if fromEnd then (css.map List.reverse).reverse else css)
  match sep with
  | none | some (.data .null) => return back (splitBlanks (cs.length + 1) count turned)
  | some d =>
    match d.text? with
    | some s =>
      if s.isEmpty then throw (.value "empty separator")
      else return back (splitBy (if fromEnd then s.toList.reverse else s.toList) count turned)
    | none => throw (.type ("must be str or None, not " ++ d.typeName))

/-- a text aligned in a width -/
def aligned (align : Char) (cs : List Char) (width : Datum) (fill : Option Datum) : Outcome Datum := do
  let w ← sizeArgument width
  let f ← match fill with
    | none => pure ' '
    | some d =>
      match d.text? with
      | some s =>
        match s.toList with
        | [c] => pure c
        | _ => throw (.type "The fill character must be exactly one character long")
      | none => throw (.type ("The fill character must be a unicode character, not " ++ d.typeName))
  let n := w.toNat - cs.length
  if align = '^' then
    -- the odd place goes to the left when the width is odd
    let left := n / 2 + (if n % 2 = 1 && w.toNat % 2 = 1 then 1 else 0)
    return .ofText (String.ofList (List.replicate left f ++ cs ++ List.replicate (n - left) f))
  else return .ofText (String.ofList (pad f align w.toNat cs))

def joinTexts? (sep : List Char) (vs : List Value) : Outcome Datum := do
  let rec go : Nat → List Value → Outcome (List (List Char))
    | _, [] => .ok []
    | i, .scalar (.text s) :: vs => do return s.toList :: (← go (i + 1) vs)
    | i, v :: _ =>
      .error (.type ("sequence item " ++ toString i ++ ": expected str instance, " ++ v.typeName ++ " found"))
  return .ofText (String.ofList (sep.intercalate (← go 0 vs)))

def encoded (s : String) (encoding errors : Option Datum) : Outcome Datum := do
  let argument (what otherwise : String) (d : Option Datum) : Outcome String :=
    match d with
    | none => .ok otherwise
    | some d => do
      let fault (d : Datum) : String := "encode() argument '" ++ what ++ "' must be str, not " ++ argumentType d
      return String.ofList (← textOr fault d)
  let encoding ← argument "encoding" "utf-8" encoding
  let handler ← argument "errors" "strict" errors
  match Encoding.ofName? encoding with
  | none => throw (.lookup ("unknown encoding: " ++ encoding))
  | some e =>
    match encode e handler s with
    | .ok bs => return .data (.bytes bs)
    | .error (.lacking text) => throw (.encoding text)
    | .error (.noSuchHandler text) => throw (.lookup text)

def putPoint (table : List (Value × Value)) (c : Char) (v : Value) : List (Value × Value) :=
  joinEntries table [(.ofInt c.toNat, v)]

/-- a table for characters from a mapping, or from characters, those in their places, and those that are left out -/
def translation (x : Datum) (y z : Option Datum) : Outcome (List (Value × Value)) := do
  let fault (i : Nat) (d : Datum) : String :=
    "maketrans() argument " ++ toString i ++ " must be str, not " ++ argumentType d
  match y with
  | none =>
    match x with
    | .data (.dict es) =>
      es.foldlM (fun table e =>
        match e.1 with
        | .scalar (.text s) =>
          match s.toList with
          | [c] => .ok (putPoint table c e.2)
          | _ => .error (.value "string keys in translate table must be of length 1")
        | .scalar (.int _) | .scalar (.bool _) => .ok (joinEntries table [e])
        | _ => .error (.type "keys in translate table must be strings or integers")) []
    | _ => throw (.type "if you give only one argument to maketrans it must be a dict")
  | some y => do
    let images ← textOr (fault 2) y
    let gone ← match z with | some z => textOr (fault 3) z | none => pure []
    let cs ← textOr (fun _ => "first maketrans argument must be a string if there is a second argument") x
    if cs.length ≠ images.length then
      throw (.value "the first two maketrans arguments must have equal length")
    let table := (cs.zip images).foldl (fun table e => putPoint table e.1 (.ofInt e.2.toNat)) []
    return gone.foldl (fun table c => putPoint table c .null) table

/-- what a table makes of a character, which stays if the table lacks it -/
def translateChar (table : Datum) (c : Char) : Outcome (List Char) :=
  match itemOf table (.ofInt c.toNat) with
  | .error (.index _) | .error (.key _) | .error .unshownKey => .ok [c]
  | .error e => .error e
  | .ok (.data .null) => .ok []
  | .ok d =>
    match d.text?, d.int? with
    | some s, _ => .ok s.toList
    | none, some n =>
      if 0 ≤ n && n < 0x110000 then .ok [Char.ofNat n.toNat]
      else .error (.value "character mapping must be in range(0x110000)")
    | none, none => .error (.type "character mapping must return integer, None or str")

def translated (table : Datum) (cs : List Char) : Outcome (List Char) := do
  return (← cs.mapM (translateChar table)).flatten

def textTakes (name : String) : Takes :=
  if ["strip", "lstrip", "rstrip"].contains name then .between 0 1
  else if ["startswith", "endswith", "find", "rfind", "index", "rindex", "count"].contains name then .search
  else if name = "replace" then .between 2 3
  else if ["center", "ljust", "rjust"].contains name then .between 1 2
  else if ["split", "rsplit"].contains name then .byName ["sep", "maxsplit"] 2
  else if name = "splitlines" then .byName ["keepends"] 1
  else if name = "expandtabs" then .byName ["tabsize"] 1
  else if name = "encode" then .byName ["encoding", "errors"] 2
  else if name = "maketrans" then .between 1 3
  else if ["join", "partition", "rpartition", "removeprefix", "removesuffix", "zfill", "translate"].contains name
  then .one
  else .nothing

def plainTextMethod (name s : String) : Datum :=
  let cs := s.toList
  match name with
  | "upper" => .ofText (upper s)
  | "lower" => .ofText (lower s)
  | "casefold" => .ofText (caseless s)
  | "title" => .ofText (title s)
  | "capitalize" =>
    match cs with
    | [] => .ofText ""
    | c :: rest => .ofText (String.ofList (titleChar c ++ lowerFrom [c] [] rest))
  | "swapcase" => .ofText (String.ofList (swapFrom [] cs))
  | "isalpha" => allOf isLetter cs
  | "isdigit" => allOf isDigit cs
  | "isdecimal" => allOf (fun c => (decimalValue? c).isSome) cs
  | "isnumeric" => allOf isNumeric cs
  | "isalnum" => allOf (fun c => isLetter c || isDigit c || isNumeric c) cs
  | "isspace" => allOf isBlank cs
  | "isupper" => .ofBool (cs.any upperLetters.hasChar && cs.all fun c => !lowerLetters.hasChar c && !isTitleLetter c)
  | "islower" => .ofBool (cs.any lowerLetters.hasChar && cs.all fun c => !upperLetters.hasChar c && !isTitleLetter c)
  | "istitle" => .ofBool (isTitle false false cs)
  | "isascii" => .ofBool (cs.all fun c => c.toNat < 128)
  | "isidentifier" => .ofBool (isName cs)
  | "isprintable" => .ofBool (cs.all isPrintable)
  | _ => .ofText s

def textMethod (name s : String) (args : List (Option Datum)) : Outcome Datum := do
  let cs := s.toList
  let text (cs : List Char) : Datum := .ofText (String.ofList cs)
  match name, args with
  | "strip", [d] => return text (stripped true true (← stripSet name d) cs)
  | "lstrip", [d] => return text (stripped true false (← stripSet name d) cs)
  | "rstrip", [d] => return text (stripped false true (← stripSet name d) cs)
  | "startswith", [some d, i, j] => do endMatches name false (← searchPart cs i j) d
  | "endswith", [some d, i, j] => do endMatches name true (← searchPart cs i j) d
  | "replace", [some old, some new, count] => do
    let must (i : Nat) (d : Datum) : String :=
      "replace() argument " ++ toString i ++ " must be str, not " ++ argumentType d
    let old ← textOr (must 1) old
    let new ← textOr (must 2) new
    let count ← match count with | some d => sizeArgument d | none => pure (-1)
    let count := if count < 0 then cs.length + 1 else min count.toNat (cs.length + 1)
    return text (if old.isEmpty then interleave new count cs else replaceIn old new count cs)
  | "split", [sep, max] => splitText false cs sep max
  | "rsplit", [sep, max] => splitText true cs sep max
  | "splitlines", [keep] => do
    let keep ← match keep with | some d => wholeArgument d | none => pure 0
    return textList (linesOf (keep ≠ 0) [] cs)
  | "expandtabs", [width] => do
    let width ← match width with | some d => wholeArgument d | none => pure 8
    return text (expandTabs width.toNat 0 cs)
  | "center", [some w, f] => aligned '^' cs w f
  | "ljust", [some w, f] => aligned '<' cs w f
  | "rjust", [some w, f] => aligned '>' cs w f
  | "zfill", [some w] => do
    let w ← sizeArgument w
    let fill := List.replicate (w.toNat - cs.length) '0'
    match cs with
    | c :: rest => return text (if c = '+' ∨ c = '-' then c :: (fill ++ rest) else fill ++ cs)
    | [] => return text fill
  | "partition", [some d] => do
    let sep ← textOr (fun d => "must be str, not " ++ d.typeName) d
    if sep.isEmpty then throw (.value "empty separator")
    let piece (cs : List Char) : Value := .ofText (String.ofList cs)
    match findFrom sep 0 cs with
    | some i => return .data (.tuple [piece (cs.take i), piece sep, piece (cs.drop (i + sep.length))])
    | none => return .data (.tuple [piece cs, piece [], piece []])
  | "rpartition", [some d] => do
    let sep ← textOr (fun d => "must be str, not " ++ d.typeName) d
    if sep.isEmpty then throw (.value "empty separator")
    let piece (cs : List Char) : Value := .ofText (String.ofList cs)
    match findLast sep cs with
    | some i => return .data (.tuple [piece (cs.take i), piece sep, piece (cs.drop (i + sep.length))])
    | none => return .data (.tuple [piece [], piece [], piece cs])
  | "removeprefix", [some d] => do
    let p ← textOr (fun d => "removeprefix() argument must be str, not " ++ argumentType d) d
    return text (if p.isPrefixOf cs then cs.drop p.length else cs)
  | "removesuffix", [some d] => do
    let p ← textOr (fun d => "removesuffix() argument must be str, not " ++ argumentType d) d
    return text (if p.isSuffixOf cs then cs.take (cs.length - p.length) else cs)
  | "join", [some d] =>
    match iterate? d with
    | some vs => joinTexts? cs vs
    | none => throw (.type "can only join an iterable")
  | "encode", [encoding, errors] => encoded s encoding errors
  | "translate", [some table] => return text (← translated table cs)
  | "maketrans", [some x, y, z] => return .data (.dict (← translation x y z))
  | _, [some d, i, j] => do
    let needle ← textOr (fun d => "must be str, not " ++ d.typeName) d
    let part ← searchPart cs i j
    let first : Option Nat := do
      let (i, cs) ← part
      return i + (← findFrom needle 0 cs)
    let last : Option Nat := do
      let (i, cs) ← part
      return i + (← findLast needle cs)
    let number (r : Option Nat) : Datum := .ofInt (match r with | some i => i | none => -1)
    match name with
    | "find" => return number first
    | "rfind" => return number last
    | "count" =>
      match part with
      | none => return .ofInt 0
      | some (_, cs) =>
        return .ofInt (if needle.isEmpty then cs.length + 1 else countIn needle (cs.length + 1) cs)
    | _ =>
      match (if name = "index" then first else last) with
      | some i => return .ofInt i
      | none => throw (.value "substring not found")
  | _, _ => return plainTextMethod name s

end BadgeEngine.Condition
