/-
Problems: what a caller of the library is told when something cannot be done. A problem has a kind and a
message.
-/
import BadgeEngine.Time.Zone
import BadgeEngine.Value

namespace BadgeEngine

open BadgeEngine.Text BadgeEngine.Time

/-- what is wrong with a rule definition; values are given as a message shows them -/
inductive RuleFault where
  | noId (shownDefinition : String)
  | noCondition (id : String)
  | unknownPeriod (id shown : String)
  | badMax (id shown : String)
  | badActive (id shown : String)
  | duplicate (id : String)
  /-- a file does not hold a list of rules -/
  | noList (file : String)
  /-- an entry of a file is no definition -/
  | noDefinition (file shown : String)
  deriving DecidableEq, Repr

def RuleFault.message : RuleFault → String
  | noId shown => "Rule is missing a string 'id': " ++ shown
  | noCondition id => "Rule " ++ quoted id ++ " is missing a 'condition'"
  | unknownPeriod id shown => "Rule " ++ quoted id ++ " has unknown updatePeriod " ++ shown
  | badMax id shown => "Rule " ++ quoted id ++ " has invalid max " ++ shown ++ " (expected int >= 1)"
  | badActive id shown =>
    "Rule " ++ quoted id ++ " has invalid active " ++ shown ++ " (expected true or false)"
  | duplicate id => "Duplicate rule id " ++ quoted id
  | noList file => file ++ ": expected a list of rules"
  | noDefinition file shown => file ++ ": rule entries must be mappings, got " ++ shown

/-- a problem -/
inductive Problem where
  | rule (f : RuleFault)
  /-- a text is no instant -/
  | time (text : String) (e : TimeError)
  /-- an instant lies outside the years 1 to 9999 -/
  | outOfRange
  /-- a number in a message or a key has too many digits -/
  | digitLimit
  /-- the text of a number has too many digits -/
  | digitCount (count : Nat)
  | wrongType (message : String)
  | noAttribute (typeName name : String)
  | badValue (message : String)
  /-- a key that is missing, as a message shows it -/
  | noKey (shown : String)
  /-- a text has no character at a place -/
  | noCharacter
  | overflow (message : String)
  /-- an operation was asked for while another one runs -/
  | reentrant (operation : String)
  /-- a condition failed -/
  | condition (message : String)
  | zone (name : String) (e : ZoneNameError)
  /-- something stands where a zone should -/
  | notAZone (typeName : String)
  /-- host code failed -/
  | host (message : String)
  | noFile (message : String)
  /-- a path leads to a directory, or through a file -/
  | unreadable (isDirectory : Bool)
  /-- a document is not well formed -/
  | document
  /-- a state cannot be stored -/
  | unstorable
  deriving DecidableEq, Repr

namespace Problem

def kind : Problem → String
  | rule _ => "RuleDefinitionError"
  | time _ .outOfRange | outOfRange | overflow _ => "OverflowError"
  | time .. | digitLimit | digitCount _ | badValue _ => "ValueError"
  | wrongType _ | notAZone _ => "TypeError"
  | noAttribute .. => "AttributeError"
  | noKey _ => "KeyError"
  | noCharacter => "IndexError"
  | reentrant _ => "ReentrantCallError"
  | condition _ => "ConditionError"
  | zone _ .unknown => "ZoneInfoNotFoundError"
  | zone _ .region => "IsADirectoryError"
  | zone .. => "ValueError"
  | host _ => "RuntimeError"
  | noFile _ => "FileNotFoundError"
  | unreadable true => "IsADirectoryError"
  | unreadable false => "NotADirectoryError"
  | document => "YAMLError"
  | unstorable => "StatementError"

def message? : Problem → Option String
  | rule f => some f.message
  | time text e => some (e.message text)
  | outOfRange => some "date value out of range"
  | digitLimit => some Number.tooLongToWrite
  | digitCount n => some (Number.tooLongToRead n)
  | wrongType m | badValue m | overflow m | condition m | host m | noFile m => some m
  | noKey shown => some shown
  | noCharacter => some "string index out of range"
  | noAttribute t a => some ("'" ++ t ++ "' object has no attribute '" ++ a ++ "'")
  | reentrant op => some (op ++ "() cannot be called from a notification hook")
  | zone name .absolute => some ("ZoneInfo keys may not be absolute paths, got: " ++ name)
  | zone name .notNormal => some ("ZoneInfo keys must be normalized relative paths, got: " ++ name)
  | zone name .outside => some ("ZoneInfo keys must refer to subdirectories of TZPATH, got: " ++ name)
  | zone name .unknown => some (quoted ("No time zone found with key " ++ name))
  | zone _ .region => none
  | notAZone t => some ("tzinfo argument must be None or of a tzinfo subclass, not type '" ++ t ++ "'")
  | unreadable _ | document | unstorable => none

/-- a text that may not exist because a numeral in it is too long -/
def ofText? : Option String → Except Problem String
  | some s => .ok s
  | none => .error .digitLimit

end Problem

/-! ## Warnings -/

/-- an answer, with the warnings given on the way to it; they stay when it fails -/
abbrev Warned := ExceptT Problem (StateM (List String))

def warn (text : String) : Warned Unit :=
  modify (· ++ [text])

def Warned.answer {α : Type} (w : Warned α) : Except Problem α × List String :=
  w.run.run []

/-! ## Values -/

def Value.shown (v : Value) : Except Problem String := Problem.ofText? v.shown?

def Value.written (v : Value) : Except Problem String := Problem.ofText? v.text?

/-- the zone a value stands for: a name, or null for UTC; anything else fails when it is used -/
def zoneOfValue : Value → Except Problem Zone
  | .scalar (.text name) =>
    match Zone.ofName name with
    | .ok z => .ok z
    | .error e => .error (.zone name e)
  | .null => .ok (.fixed 0)
  | v => .ok (.unusable v.typeName)

def localTime (z : Zone) (i : Instant) : Except Problem Moment :=
  match z.localTime i with
  | .ok t => .ok t
  | .error .outOfRange => .error .outOfRange
  | .error (.notAZone t) => .error (.notAZone t)

def instantOf (r : Reading) : Except Problem Instant :=
  match r.toInstant? with
  | some t => .ok t
  | none => .error .outOfRange

def instantOfText (text : String) : Except Problem Instant :=
  match readInstant text with
  | .ok t => .ok t
  | .error e => .error (.time text e)

def instantOfValue : Value → Except Problem Instant
  | .scalar (.text s) => instantOfText s
  | _ => .error (.wrongType "fromisoformat: argument must be str")

end BadgeEngine
