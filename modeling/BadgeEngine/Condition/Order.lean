/-
Comparisons of conditions. Numbers compare by what they stand for, texts by code points, lists by the first
items that differ; other things have no order. Membership looks into texts, lists, mappings and views.
-/
import BadgeEngine.Condition.Arithmetic

namespace BadgeEngine.Condition

open BadgeEngine BadgeEngine.Number BadgeEngine.Text

/-- one of the four comparisons by order -/
inductive Side where
  | lt
  | le
  | gt
  | ge
  deriving DecidableEq, Repr

namespace Side

def sign : Side → String
  | lt => "<"
  | le => "<="
  | gt => ">"
  | ge => ">="

/-- the comparison seen from the other side -/
def swap : Side → Side
  | lt => gt
  | le => ge
  | gt => lt
  | ge => le

/-- whether an order meets a comparison; nothing meets the lack of one -/
def meets (s : Side) : Option Ordering → Bool
  | some .lt => s = lt || s = le
  | some .eq => s = le || s = ge
  | some .gt => s = gt || s = ge
  | none => false

end Side

/-- the order of doubles; a not-a-number has none -/
def floatOrder (x y : Float) : Option Ordering :=
  if x < y then some .lt else if x > y then some .gt else if x == y then some .eq else none

/-- the order of scalars of types that share one; the outer option tells whether they do -/
def scalarOrder (a b : Scalar) : Option (Option Ordering) :=
  match a, b with
  | .text s, .text t => some (some (if s < t then .lt else if s = t then .eq else .gt))
  | .text _, _ | _, .text _ => none
  | .float x, .float y => some (floatOrder x y)
  | .float x, b => some (b.int?.bind (compareInt x))
  | a, .float y => some (a.int?.bind fun n => (compareInt y n).map Ordering.swap)
  | a, b =>
    match a.int?, b.int? with
    | some n, some m => some (some (compare n m))
    | _, _ => none

mutual

def compareValues (s : Side) : Value → Value → Outcome Bool
  | .scalar a, .scalar b =>
    match scalarOrder a b with
    | some o => .ok (s.meets o)
    | none => .error (incomparable s.sign a.typeName b.typeName)
  | .list xs, .list ys => compareItems s xs ys
  | .tuple xs, .tuple ys => compareItems s xs ys
  | .bytes bs, .bytes cs => .ok (s.meets (some (compareOfLessAndEq bs cs)))
  | .date a, .date b => .ok (s.meets (some (compare a.toDay b.toDay)))
  | a, b => .error (incomparable s.sign a.typeName b.typeName)

/-- a comparison by the first items that differ -/
def compareItems (s : Side) : List Value → List Value → Outcome Bool
  | [], [] => .ok (s.meets (some .eq))
  | [], _ :: _ => .ok (s.meets (some .lt))
  | _ :: _, [] => .ok (s.meets (some .gt))
  | x :: xs, y :: ys => if x.same y then compareItems s xs ys else compareValues s x y

end

/-- whether every item of one list equals one of another -/
def allIn (xs ys : List Value) : Bool :=
  xs.all fun x => ys.any x.same

def compareBy (s : Side) (a b : Datum) : Outcome Bool :=
  match a, b with
  | .data v, .data w => compareValues s v w
  | .mapping _, .mapping _ => .error (incomparable s.swap.sign "dict" "dict")
  | .mapping _, b => .error (incomparable s.sign "dict" b.typeName)
  | a, .mapping _ => .error (incomparable s.swap.sign "dict" a.typeName)
  | .view j es, .view k fs =>
    if j = .values ∨ k = .values then .error (incomparable s.sign a.typeName b.typeName)
    else
      let xs := Datum.viewItems j es
      let ys := Datum.viewItems k fs
      .ok (match s with
        | .lt => xs.length < ys.length && allIn xs ys
        | .le => xs.length ≤ ys.length && allIn xs ys
        | .gt => ys.length < xs.length && allIn ys xs
        | .ge => ys.length ≤ xs.length && allIn ys xs)
  | a, b => .error (incomparable s.sign a.typeName b.typeName)

def occursIn (needle : List Char) : List Char → Bool
  | [] => needle.isEmpty
  | c :: cs => needle.isPrefixOf (c :: cs) || occursIn needle cs

def bytesOccur (needle : List Nat) : List Nat → Bool
  | [] => needle.isEmpty
  | b :: bs => needle.isPrefixOf (b :: bs) || bytesOccur needle bs

/-- whether something is in something else -/
def isMember (x container : Datum) : Outcome Bool :=
  let among (vs : List Value) : Bool := vs.any fun v => (Datum.data v).same x
  match container with
  | .data (.scalar (.text s)) =>
    match x.text? with
    | some t => .ok (occursIn t.toList s.toList)
    | none => .error (.type ("'in <string>' requires string as left operand, not " ++ x.typeName))
  | .data (.list vs) | .data (.tuple vs) => .ok (among vs)
  | .data (.set vs) => do
    let k ← x.asKey
    return k.any fun k => vs.any k.same
  | .data (.dict es) | .mapping es | .view .keys es => do return (Datum.entry? es (← x.asKey)).isSome
  | .view kind es => .ok (among (Datum.viewItems kind es))
  | .data (.bytes bs) =>
    match x.int?, x with
    | some n, _ =>
      if 0 ≤ n ∧ n < 256 then .ok (bs.contains n.toNat)
      else .error (.value "byte must be in range(0, 256)")
    | none, .data (.bytes cs) => .ok (bytesOccur cs bs)
    | none, _ => .error (.type ("a bytes-like object is required, not '" ++ x.typeName ++ "'"))
  | c => .error (.type ("argument of type '" ++ c.typeName ++ "' is not iterable"))

/-- whether something is one of a kind: two that are equal are then the same thing -/
def isUnique : Datum → Bool
  | .data .null | .data (.scalar (.bool _)) | .ellipsis => true
  | .data (.scalar (.int n)) => -5 ≤ n && n ≤ 256
  | .data (.scalar (.text s)) => s.isEmpty || (s.length = 1 && s.toList.all fun c => c.toNat < 256)
  | .data (.tuple vs) => vs.isEmpty
  | .data (.bytes bs) => bs.length ≤ 1
  | _ => false

/-- whether two expressions name the same place -/
def samePlace : Expr → Expr → Bool
  | .name a, .name b => a = b
  | .member e a, .member f b => a = b && samePlace e f
  | .subscript e (.const (.text a)), .subscript f (.const (.text b)) => a = b && samePlace e f
  | _, _ => false

/-- whether two things, found at two places, are the same thing -/
def isSame (p q : Expr) (a b : Datum) : Bool :=
  if isUnique a || isUnique b then a.typeName = b.typeName && a.same b else samePlace p q

/-- a comparison of two things, with the expressions they came from -/
def applyCompare (op : CompareOp) (p q : Expr) (a b : Datum) : Outcome Bool :=
  match op with
  | .eq => .ok (a.same b)
  | .ne => .ok (!a.same b)
  | .lt => compareBy .lt a b
  | .le => compareBy .le a b
  | .gt => compareBy .gt a b
  | .ge => compareBy .ge a b
  | .is => .ok (isSame p q a b)
  | .isNot => .ok (!isSame p q a b)
  | .isIn => isMember a b
  | .notIn => do return !(← isMember a b)

end BadgeEngine.Condition
