/-
Expressions of conditions. Constructs that are recognised but have no value in a condition are kept by
their label alone, apart from those that can stand where something is assigned to.
-/
import BadgeEngine.Number.FloatText

namespace BadgeEngine.Condition

/-- a constant -/
inductive Constant where
  | null
  | ellipsis
  | bool (b : Bool)
  | int (n : Nat)
  | float (x : Float)
  | imaginary (x : Float)
  | text (s : String)
  | bytes (bs : List Nat)

/-- an operation on one value -/
inductive UnaryOp where
  | not
  | minus
  | plus
  | invert
  deriving DecidableEq, Repr

/-- an operation on two values -/
inductive BinaryOp where
  | add
  | sub
  | mul
  | matMul
  | div
  | floorDiv
  | mod
  | pow
  | shiftLeft
  | shiftRight
  | and
  | or
  | xor
  deriving DecidableEq, Repr

/-- a comparison -/
inductive CompareOp where
  | eq
  | ne
  | lt
  | le
  | gt
  | ge
  | is
  | isNot
  | isIn
  | notIn
  deriving DecidableEq, Repr

/-- an expression -/
inductive Expr where
  | const (c : Constant)
  | name (n : String)
  | unary (op : UnaryOp) (e : Expr)
  | binary (op : BinaryOp) (a b : Expr)
  /-- all of, or one of -/
  | junction (all : Bool) (es : List Expr)
  | compare (first : Expr) (links : List (CompareOp × Expr))
  | choose (test yes no : Expr)
  /-- a call; `site` tells calls of one condition apart -/
  | call (site : Nat) (f : Expr) (args : List Expr) (named : List (Option String × Expr))
  | subscript (e key : Expr)
  | slice (low high step : Option Expr)
  | member (e : Expr) (name : String)
  /-- a text with values in it -/
  | joined (parts : List Expr)
  | formatted (e : Expr) (spec : Option Expr)
  | tuple (es : List Expr)
  | list (es : List Expr)
  | starred (e : Expr)
  | other (label : String)

/-- what the first statement of a condition asks for -/
inductive Statement where
  | value (e : Expr)
  | import
  | other (label : String)

mutual

/-- whether an expression can be assigned to, alone or as part of a list -/
def Expr.isTarget : Expr → Bool
  | .name _ | .member .. | .subscript .. => true
  | .tuple es | .list es => targetItems es
  | _ => false

/-- whether every item can be assigned to; an item may take the rest of a list -/
def targetItems : List Expr → Bool
  | [] => true
  | .starred e :: es => e.isTarget && targetItems es
  | e :: es => e.isTarget && targetItems es

end

def Expr.isSingleTarget : Expr → Bool
  | .name _ | .member .. | .subscript .. => true
  | _ => false

mutual

def Expr.isDeletable : Expr → Bool
  | .name _ | .member .. | .subscript .. => true
  | .tuple es | .list es => deletableItems es
  | _ => false

def deletableItems : List Expr → Bool
  | [] => true
  | e :: es => e.isDeletable && deletableItems es

end

/-- whether an expression can stand left of an equals sign -/
def Expr.isAssignable : Expr → Bool
  | .starred e => e.isTarget
  | e => e.isTarget

end BadgeEngine.Condition
