/-
The value of a condition. Names are looked up, constants stand for themselves, `and`, `or` and chains of
comparisons stop as soon as the outcome is settled, and a condition holds when the value of its first
statement counts as true.
-/
import BadgeEngine.Condition.Function
import BadgeEngine.Condition.Statement

namespace BadgeEngine.Condition

open BadgeEngine BadgeEngine.Number BadgeEngine.Text

def Constant.datum : Constant → Datum
  | .null => .null
  | .ellipsis => .ellipsis
  | .bool b => .ofBool b
  | .int n => .ofInt n
  | .float x => .ofFloat x
  | .imaginary x => .complex 0 x
  | .text s => .ofText s
  | .bytes bs => .data (.bytes bs)

def evalConstant (c : Constant) : Outcome Datum :=
  let d := c.datum
  match d.length? with
  | some n => if lengthLimit < n then .error (.tooLong (.literal n)) else .ok d
  | none => .ok d

/-- named arguments with the last value of each name in the first place of the name -/
def lastNamed (named : List (String × Datum)) : List (String × Datum) :=
  named.foldl (fun done k =>
    if done.any (·.1 = k.1) then done.map fun d => if d.1 = k.1 then k else d else done ++ [k]) []

/-- the arguments of a call, once every name is known to be one -/
def checkNames (anyName : Bool) (method : String) (args : List Datum) (named : List (Option String × Datum)) :
    Outcome Given :=
  if named.any (·.1.isNone) then
    .error (.type (if anyName then method ++ "() takes no keyword arguments" else "keywords must be strings"))
  else .ok ⟨args, lastNamed (named.filterMap fun k => k.1.map (·, k.2))⟩

mutual

def eval (env : Env) : Expr → Outcome Datum
  | .const c => evalConstant c
  | .name n => .ok (env.name n)
  | .unary op e => do applyUnary op (← eval env e)
  | .binary op a b =>
    if op = .matMul then .error .noMatrixProduct
    else do
      let x ← eval env a
      let y ← eval env b
      applyBinary op x y
  | .junction all es => evalJunction env all (.ofBool false) es
  | .compare first links => do evalLinks env first (← eval env first) (.ofBool true) links
  | .choose test yes no => do
    if (← eval env test).truthy then eval env yes else eval env no
  | .call site f args named => do
    match f with
    | .member e name =>
      checkAttribute name
      let found ← attributeOf env.address (← eval env e) name
      let args ← evalList env args
      let named ← evalNamed env named
      match found with
      | .method _ owner m => callMethod owner m (← checkNames (takesAnyNames owner m) m args named)
      | d => throw (.type ("'" ++ d.typeName ++ "' object is not callable"))
    | .name n =>
      match env.function? n with
      | none => throw (.unknownFunction n)
      | some f =>
        let args ← evalList env args
        let named ← evalNamed env named
        f site (← checkNames false "" args named)
    | _ => throw .indirectCall
  | .subscript e key => do
    let container ← eval env e
    itemOf container (← eval env key)
  | .slice low high step => do
    let low ← evalOption env low
    let high ← evalOption env high
    let step ← evalOption env step
    return .slice low high step
  | .member e name => do
    checkAttribute name
    attributeOf env.address (← eval env e) name
  | .joined parts => do return .ofText (String.ofList (← evalParts env 0 parts).flatten)
  | .formatted e spec =>
    match spec with
    | none => eval env e
    | some s => do
      let spec ← eval env s
      let value ← eval env e
      return .ofText (← formatComputed (spec.text?.getD "") value)
  | .tuple _ => .error (.construct "Tuple")
  | .list _ => .error (.construct "List")
  | .starred _ => .error (.construct "Starred")
  | .other label => .error (.construct label)

/-- the last value looked at of a row joined by `and` or by `or` -/
def evalJunction (env : Env) (all : Bool) (last : Datum) : List Expr → Outcome Datum
  | [] => .ok last
  | e :: es => do
    let d ← eval env e
    if d.truthy = all then evalJunction env all d es else return d

/-- a chain of comparisons, up to the first that fails -/
def evalLinks (env : Env) (place : Expr) (left result : Datum) : List (CompareOp × Expr) → Outcome Datum
  | [] => .ok result
  | (op, e) :: links =>
    if result.truthy then do
      let right ← eval env e
      let r ← applyCompare op place e left right
      evalLinks env e right (.ofBool r) links
    else .ok result

/-- the values of expressions from left to right -/
def evalList (env : Env) : List Expr → Outcome (List Datum)
  | [] => .ok []
  | e :: es => do
    let d ← eval env e
    return d :: (← evalList env es)

/-- the values of named arguments from left to right -/
def evalNamed (env : Env) : List (Option String × Expr) → Outcome (List (Option String × Datum))
  | [] => .ok []
  | (k, e) :: es => do
    let d ← eval env e
    return (k, d) :: (← evalNamed env es)

def evalOption (env : Env) : Option Expr → Outcome Datum
  | none => .ok .null
  | some e => eval env e

/-- the texts of the parts of a text with values in it -/
def evalParts (env : Env) (length : Nat) : List Expr → Outcome (List (List Char))
  | [] => .ok []
  | e :: es => do
    let d ← eval env e
    let cs := (← d.written).toList
    if lengthLimit < length + cs.length then throw (.tooLong .filling)
    else return cs :: (← evalParts env (length + cs.length) es)

end

def evalCondition (env : Env) (condition : String) : Outcome Datum :=
  match readCondition condition with
  | .error .malformed => .error .malformed
  | .error .empty => .error .empty
  | .ok (.value e) => eval env e
  | .ok .import => .error .importing
  | .ok (.other label) => .error (.construct label)

end BadgeEngine.Condition
