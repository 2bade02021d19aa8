/-
Evaluating conditions. The work is done by a library of expressions. What is laid out here is what a condition can see:
the properties and the words, the system properties under their name, the functions it may call, and what becomes of an
exception.

A library is no part of the engine: values, functions and exceptions are its own, and it is given as a parameter.
-/
import BadgeEngine.Host

namespace BadgeEngine

open BadgeEngine.Text

variable {V F X A D : Type}

/-- names that stand for values; any other name stands for one value too -/
structure Names (V : Type) where
  entries : List (String × V)
  missing : V

/-- the value a name stands for -/
def Names.get (t : Names V) (n : String) : V :=
  (t.entries.lookup n).getD t.missing

/-- a library of expressions with values `V`, functions `F` and exceptions `X`; an `A` tells where the objects that it
makes come to stand, and random numbers are drawn from a `D` -/
structure Library (V F X A D : Type) where
  value : Value → V
  /-- a read-only view of a mapping -/
  view : A → List (String × V) → V
  /-- the functions that every condition may call -/
  common : D → List (String × F)
  /-- the functions of an engine that look into its ledger -/
  hasEarned : Ledger → F
  badgeCount : Ledger → F
  /-- why a function may not be offered to conditions, if it may not -/
  refusal : F → Option Problem
  /-- the value of an expression, or an exception -/
  eval : A → Names V → List (String × F) → String → Except X V
  truth : V → Except X Bool
  /-- the type and the text of an exception; there may be no text -/
  shown : X → Except Problem String

/-- what a condition can see: values under names, and functions -/
structure Sight (V F : Type) where
  names : List (String × V)
  functions : List (String × F)

namespace Library

variable (L : Library V F X A D)

/-- what a condition can see of properties and of a view of the system properties -/
def sight (a : A) (props system : List (String × V)) (hasEarned badgeCount : F) : Sight V F where
  names := Entries.put "system" (L.view a system) props
  functions := [("hasEarnedBadge", hasEarned), ("badgeCount", badgeCount)]

/-- the words for truth values and null -/
def words : List (String × V) :=
  [("true", L.value (.ofBool true)), ("false", L.value (.ofBool false)), ("null", L.value .null)]

/-- the names of a condition: the words, in whose place what can be seen may come; every other name is 0 -/
def names (c : Sight V F) : Names V where
  entries := Entries.putAll c.names L.words
  missing := L.value (.ofInt 0)

/-- the functions of a condition: the common ones, in whose place those of the host come, and then those in sight -/
def functions (extra : List (String × F)) (d : D) (c : Sight V F) : List (String × F) :=
  Entries.putAll c.functions (Entries.putAll extra (L.common d))

/-- why functions may not be offered, the first of them that may not -/
def refusal? (fs : List (String × F)) : Option Problem :=
  fs.findSome? fun f => L.refusal f.2

/-- evaluates a condition: whether it holds, or the message of the exception. What cannot be written in a message is a
problem, and so is a function that may not be offered. -/
def evaluate (extra : List (String × F)) (d : D) (a : A) (c : Sight V F) (condition : String) :
    Except Problem (Except String Bool) :=
  let functions := L.functions extra d c
  match L.refusal? functions with
  | some e => .error e
  | none =>
    match (L.eval a (L.names c) functions condition).bind L.truth with
    | .ok b => .ok (.ok b)
    | .error x => (L.shown x).map fun text => .error (text ++ " (condition: " ++ quoted condition ++ ")")

def entries (p : Props) : List (String × V) :=
  p.entries.map fun e => (e.1, L.value (.scalar e.2))

/-- evaluates a condition in the context of an engine -/
def judge (extra : List (String × F)) (d : D) (a : A) (c : Context) : String → Except Problem (Except String Bool) :=
  L.evaluate extra d a (L.sight a (L.entries c.props) (L.entries c.system) (L.hasEarned c.ledger) (L.badgeCount c.ledger))

end Library

end BadgeEngine
