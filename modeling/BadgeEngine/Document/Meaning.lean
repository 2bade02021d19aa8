/-
The values of nodes. A mapping takes in the entries of those it merges, in front of its own; a later entry of an
equal key gives the value and an earlier one the place. What is wrong is found level by level, from the root on.
-/
import BadgeEngine.Document.Node
import BadgeEngine.Document.ScalarValue

namespace BadgeEngine.Document

open BadgeEngine.Number

namespace Node

def tag : Node → Tag
  | scalar t _ => t
  | list t _ => t
  | mapping t _ => t

/-- the text a node stands for where one is asked for: its own, or that of a mapping's own value -/
def text? : Node → Option String
  | scalar _ s => some s
  | list _ _ => none
  | mapping _ es => ownText? es
where
  /-- the text of the value of a mapping's own key -/
  ownText? : List (Node × Node) → Option String
    | [] => none
    | (k, v) :: es => if k.tag = .own then text? v else ownText? es

/-! ## Merging -/

def entries? : Node → Option (List (Node × Node))
  | mapping _ es => some es
  | _ => none

/-- the entries a merge takes in: of one mapping, or of a list of them, the last first -/
def mergedFrom? : Node → Option (List (Node × Node))
  | mapping _ es => some es
  | list _ items => (items.mapM entries?).map fun all => all.reverse.flatten
  | scalar .. => none

def asKey (k : Node) : Node :=
  if k.tag = .own then
    match k with
    | scalar _ s => scalar .text s
    | list _ items => list .text items
    | mapping _ es => mapping .text es
  else k

/-- the entries of a mapping after its merges; one that cannot be done comes first and stays -/
def merge (es : List (Node × Node)) : List (Node × Node) :=
  let merges := es.filter fun e => e.1.tag = .merge
  match merges.find? fun e => (mergedFrom? e.2).isNone with
  | some bad => [bad]
  | none =>
    merges.flatMap (fun e => (mergedFrom? e.2).getD [])
      ++ (es.filter fun e => e.1.tag ≠ .merge).map fun e => (asKey e.1, e.2)

def doesMerge : Tag → Bool
  | .mapping | .set | .other _ => true
  | _ => false

mutual

def merged : Node → Node
  | scalar t s => scalar t s
  | list t items => list t (if t = .pairs then mergedPairs items else mergedItems items)
  | mapping t es =>
    let es := mergedEntries es
    mapping t (if doesMerge t then merge es else es)

def mergedItems : List Node → List Node
  | [] => []
  | n :: ns => n.merged :: mergedItems ns

/-- merges done inside the mappings of a list of pairs, but not in themselves -/
def mergedPairs : List Node → List Node
  | [] => []
  | n :: ns =>
    (match n with
      | mapping t es => mapping t (mergedEntries es)
      | n => n.merged) :: mergedPairs ns

/-- merges done in the keys and values of entries -/
def mergedEntries : List (Node × Node) → List (Node × Node)
  | [] => []
  | (k, v) :: es => (k.merged, v.merged) :: mergedEntries es

end

/-! ## Faults -/

/-- the value of a node that is no collection; a collection has none yet -/
def shell (n : Node) : Except Problem (Option Value) :=
  match n.tag with
  | .list | .mapping | .set | .pairs => .ok none
  | t =>
    match n.text? with
    | some s => some <$> scalarValue t s
    | none => .error .document

/-- the nodes of a list that are collections; the others must have values -/
def collections : List Node → Except Problem (List Node)
  | [] => .ok []
  | n :: ns => do
    match ← n.shell with
    | some _ => collections ns
    | none => return n :: (← collections ns)

/-- the values of entries that are collections; a key must have a value, and so must the others -/
def valueCollections : List (Node × Node) → Except Problem (List Node)
  | [] => .ok []
  | (k, v) :: es => do
    if (← k.shell).isNone then throw .document
    match ← v.shell with
    | some _ => valueCollections es
    | none => return v :: (← valueCollections es)

/-- the keys and values of mappings of one entry each -/
def pairsOf : List Node → Except Problem (List Node)
  | [] => .ok []
  | mapping _ [(k, v)] :: ns => do
    let here ← collections [k, v]
    return here ++ (← pairsOf ns)
  | _ :: _ => .error .document

/-- the collections in a collection; its kind must be that of its tag -/
def inner (n : Node) : Except Problem (List Node) :=
  match n with
  | list .list items => collections items
  | list .pairs items => pairsOf items
  | mapping .mapping es | mapping .set es => valueCollections es
  | _ => .error .document

/-- checks collections level by level -/
def check : Nat → List Node → Except Problem Unit
  | 0, _ => .ok ()
  | fuel + 1, ns => do
    let next ← ns.mapM inner
    if ns.isEmpty then return () else check fuel next.flatten

mutual

/-- how many levels a node has -/
def depth : Node → Nat
  | scalar .. => 1
  | list _ items => depthItems items + 1
  | mapping _ es => depthEntries es + 1

def depthItems : List Node → Nat
  | [] => 0
  | n :: ns => max n.depth (depthItems ns)

/-- the most levels of some keys and values -/
def depthEntries : List (Node × Node) → Nat
  | [] => 0
  | (k, v) :: es => max (max k.depth v.depth) (depthEntries es)

end

/-! ## Values -/

/-- whether two keys are one: they stand for the same, or are both not-a-number -/
def sameKey (a b : Value) : Bool :=
  a.same b ||
    match a, b with
    | .scalar (.float x), .scalar (.float y) => x != x && y != y
    | _, _ => false

/-- puts an entry in the place of an equal key, or at the end -/
def putEntry (k v : Value) : List (Value × Value) → List (Value × Value)
  | [] => [(k, v)]
  | (a, b) :: es => if sameKey a k then (a, v) :: es else (a, b) :: putEntry k v es

/-- entries with equal keys brought together -/
def gather (es : List (Value × Value)) : List (Value × Value) :=
  es.foldl (fun done e => putEntry e.1 e.2 done) []

mutual

def value : Node → Except Problem Value
  | scalar t s => scalarValue t s
  | list t items => do
    match t with
    | .list => return .list (← values items)
    | .pairs => return .list (← pairValues items)
    | _ => throw .document
  | mapping t es => do
    match t with
    | .mapping => return .dict (gather (← entryValues es))
    | .set => return .set ((gather (← entryValues es)).map (·.1))
    | t =>
      match text? (mapping t es) with
      | some s => scalarValue t s
      | none => throw .document

def values : List Node → Except Problem (List Value)
  | [] => .ok []
  | n :: ns => do return (← n.value) :: (← values ns)

def pairValues : List Node → Except Problem (List Value)
  | [] => .ok []
  | n :: ns => do
    match n with
    | mapping _ es =>
      let pair ← entryValues es
      return pair.map (fun e => Value.tuple [e.1, e.2]) ++ (← pairValues ns)
    | _ => throw .document

def entryValues : List (Node × Node) → Except Problem (List (Value × Value))
  | [] => .ok []
  | (k, v) :: es => do return (← k.value, ← v.value) :: (← entryValues es)

end

/-- the value of a node with its merges done, or the first fault found -/
def meaning (n : Node) : Except Problem Value := do
  let n := n.merged
  match ← n.shell with
  | some v => return v
  | none =>
    check (n.depth + 1) [n]
    n.value

end Node

end BadgeEngine.Document
