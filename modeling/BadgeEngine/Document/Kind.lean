/-
Tags, and the tag a plain text has by its look. Numbers may hold underscores, be binary, octal or hexadecimal, or
be written in base sixty; a double has a point; dates and times have fixed places.
-/

namespace BadgeEngine.Document

/-- the tags of this library's values, and any other -/
inductive Tag where
  | null
  | bool
  | int
  | float
  | text
  | bytes
  | time
  | list
  | mapping
  | set
  /-- a list of pairs written as mappings of one entry -/
  | pairs
  /-- the key that takes in the entries of other mappings -/
  | merge
  /-- the key of a mapping's own value -/
  | own
  | other (name : String)
  deriving DecidableEq, Repr

def commonTags : String := "tag:yaml.org,2002:"

def Tag.ofName (name : String) : Tag :=
  let common :=
    [("null", null), ("bool", bool), ("int", int), ("float", float), ("str", text), ("binary", bytes),
      ("timestamp", time), ("seq", list), ("map", mapping), ("set", set), ("omap", pairs), ("pairs", pairs),
      ("merge", merge), ("value", own)]
  match common.find? fun t => commonTags ++ t.1 = name with
  | some t => t.2
  | none => other name

/-! ## Shapes of texts -/

/-- takes a text apart from the front: a shape gives every rest it can leave -/
abbrev Shape := List Char → List (List Char)

namespace Shape

def one (p : Char → Bool) : Shape
  | [] => []
  | c :: cs => if p c then [cs] else []

def lit (s : String) : Shape := fun cs =>
  if s.toList.isPrefixOf cs then [cs.drop s.length] else []

def seq (ss : List Shape) : Shape := fun cs =>
  ss.foldl (fun rests s => rests.flatMap s) [cs]

def any (ss : List Shape) : Shape := fun cs =>
  ss.flatMap fun s => s cs

def opt (s : Shape) : Shape := fun cs => s cs ++ [cs]

def run (p : Char → Bool) : Shape := fun cs => [cs.dropWhile p]

def run1 (p : Char → Bool) : Shape := seq [one p, run p]

/-- whether a text is of a shape from end to end -/
def fits (s : Shape) (cs : List Char) : Bool :=
  (s cs).any (·.isEmpty)

/-- a repetition of a shape that takes something, as often as it goes, once at least -/
def many1 (s : Shape) : Shape := fun cs => go cs.length cs
where
  go : Nat → List Char → List (List Char)
    | 0, _ => []
    | fuel + 1, cs => (s cs).flatMap fun rest => rest :: go fuel rest

end Shape

open Shape

def isDigit (c : Char) : Bool := c.isDigit

def isDigitMark (c : Char) : Bool := c.isDigit || c = '_'

def isSign (c : Char) : Bool := c = '-' || c = '+'

/-- a later place of a number in base sixty -/
def sixtieth : Shape :=
  seq [lit ":", any [seq [one fun c => '0' ≤ c && c ≤ '5', one isDigit], one isDigit]]

/-- a whole number -/
def intShape : Shape :=
  seq [opt (one isSign), any
    [seq [lit "0b", run1 fun c => c = '0' || c = '1' || c = '_'],
      seq [lit "0", run1 fun c => ('0' ≤ c && c ≤ '7') || c = '_'],
      lit "0",
      seq [one fun c => '1' ≤ c && c ≤ '9', run isDigitMark],
      seq [lit "0x", run1 fun c => c.isDigit || ('a' ≤ c && c ≤ 'f') || ('A' ≤ c && c ≤ 'F') || c = '_'],
      seq [one fun c => '1' ≤ c && c ≤ '9', run isDigitMark, many1 sixtieth]]]

/-- an exponent; its sign must be written -/
def exponentShape : Shape :=
  opt (seq [one fun c => c = 'e' || c = 'E', one isSign, run1 isDigit])

def floatShape : Shape :=
  any
    [seq [opt (one isSign), one isDigit, run isDigitMark, lit ".", run isDigitMark, exponentShape],
      seq [lit ".", one isDigit, run isDigitMark, exponentShape],
      seq [opt (one isSign), one isDigit, run isDigitMark, many1 sixtieth, lit ".", run isDigitMark],
      seq [opt (one isSign), any [lit ".inf", lit ".Inf", lit ".INF"]],
      any [lit ".nan", lit ".NaN", lit ".NAN"]]

def digits12 : Shape := seq [one isDigit, opt (one isDigit)]

def digits2 : Shape := seq [one isDigit, one isDigit]

/-- a date with a time, or a date alone with all its places -/
def timeShape : Shape :=
  any
    [seq [digits2, digits2, lit "-", digits2, lit "-", digits2],
      seq [digits2, digits2, lit "-", digits12, lit "-", digits12,
        any [one fun c => c = 'T' || c = 't', run1 fun c => c = ' ' || c = '\t'],
        digits12, lit ":", digits2, lit ":", digits2, opt (seq [lit ".", run isDigit]),
        opt (seq [run fun c => c = ' ' || c = '\t',
          any [lit "Z", seq [one isSign, digits12, opt (seq [lit ":", digits2])]]])]]

def boolWords : List String :=
  ["yes", "Yes", "YES", "no", "No", "NO", "true", "True", "TRUE", "false", "False", "FALSE", "on", "On", "ON",
    "off", "Off", "OFF"]

def nullWords : List String := ["~", "null", "Null", "NULL", ""]

/-- the tag of a plain text; a line end after it does not count -/
def tagOfPlain (text : String) : Tag :=
  let cs := text.toList
  let cs := if cs.getLast? = some '\n' then cs.dropLast else cs
  let word := String.ofList cs
  if boolWords.contains word then .bool
  else if floatShape.fits cs then .float
  else if intShape.fits cs then .int
  else if word = "<<" then .merge
  else if nullWords.contains word && (text.isEmpty || !word.isEmpty) then .null
  else if timeShape.fits cs then .time
  else if word = "=" then .own
  else .text

end BadgeEngine.Document
