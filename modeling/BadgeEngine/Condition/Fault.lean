/-
What goes wrong with a condition. A fault has a kind and a text; some texts show the condition they came
from.
-/
import BadgeEngine.Problem

namespace BadgeEngine.Condition

open BadgeEngine.Text

/-- where a text would become too long -/
inductive Growth where
  | repetition
  | concatenation
  | filling
  | literal (length : Nat)
  deriving DecidableEq, Repr

/-- a reason why a condition has no value -/
inductive Fault where
  /-- the condition is not well formed -/
  | malformed
  | empty
  | construct (label : String)
  | importing
  | hiddenAttribute (name : String)
  | bannedMethod (name : String)
  | indirectCall
  | unknownFunction (name : String)
  | unknownAttribute (name : String)
  | noMatrixProduct
  /-- an operation on numbers too high, with its text -/
  | tooHigh (operation : String)
  | tooLong (growth : Growth)
  | type (text : String)
  | value (text : String)
  | zeroDivision (text : String)
  | overflow (text : String)
  | index (text : String)
  | lookup (text : String)
  | encoding (text : String)
  /-- a key that is missing, as a message shows it -/
  | key (shown : String)
  /-- a key that is missing, with a number that is too long for any message -/
  | unshownKey
  deriving DecidableEq, Repr

namespace Fault

def kind : Fault → String
  | malformed => "SyntaxError"
  | empty => "InvalidExpression"
  | construct _ | importing | hiddenAttribute _ | bannedMethod _ | indirectCall => "FeatureNotAvailable"
  | unknownFunction _ => "FunctionNotDefined"
  | unknownAttribute _ => "AttributeDoesNotExist"
  | noMatrixProduct => "OperatorNotDefined"
  | tooHigh _ => "NumberTooHigh"
  | tooLong _ => "IterableTooLong"
  | type _ => "TypeError"
  | value _ => "ValueError"
  | zeroDivision _ => "ZeroDivisionError"
  | overflow _ => "OverflowError"
  | index _ => "IndexError"
  | lookup _ => "LookupError"
  | encoding _ => "UnicodeEncodeError"
  | key _ | unshownKey => "KeyError"

def text (condition : String) : Fault → String
  | malformed => ""
  | empty => "Sorry, cannot evaluate empty string"
  | construct label => "Sorry, " ++ label ++ " is not available in this evaluator"
  | importing => "Sorry, 'import' is not allowed."
  | hiddenAttribute name =>
    "Sorry, access to __attributes  or func_ attributes is not available. (" ++ name ++ ")"
  | bannedMethod name => "Sorry, this method is not available. (" ++ name ++ ")"
  | indirectCall => "Lambda Functions not implemented"
  | unknownFunction name =>
    "Function '" ++ name ++ "' not defined, for expression '" ++ condition ++ "'."
  | unknownAttribute name =>
    "Attribute '" ++ name ++ "' does not exist in expression '" ++ condition ++ "'"
  | noMatrixProduct =>
    "Operator '<ast.MatMult object at 0x>' does not exist in expression '" ++ condition ++ "'"
  | tooHigh operation => "Sorry! I don't want to evaluate " ++ operation
  | tooLong .repetition => "Sorry, I will not evaluate something that long."
  | tooLong .concatenation => "Sorry, adding those two together would make something too long."
  | tooLong .filling => "Sorry, I will not evaluate something this long."
  | tooLong (.literal n) =>
    "Literal in statement is too long! (" ++ toString n ++ ", when 100000 is max)"
  | type t | value t | zeroDivision t | overflow t | index t | lookup t | encoding t => t
  | key shown => shown
  | unshownKey => ""

/-- the kind and the text of a fault in a condition, as a message shows them; a condition that is not well formed has no
text, and a number that is too long cannot be written -/
def shown (condition : String) : Fault → Except Problem String
  | malformed => .ok malformed.kind
  | unshownKey => .error .digitLimit
  | f => .ok (f.kind ++ ": " ++ f.text condition)

end Fault

/-- a value, or what goes wrong -/
abbrev Outcome := Except Fault

/-- a text that may not exist because a numeral in it is too long -/
def Outcome.ofText? : Option String → Outcome String
  | some s => .ok s
  | none => .error (.value Number.tooLongToWrite)

end BadgeEngine.Condition
