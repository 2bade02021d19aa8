/-
The nodes of a document: scalars, lists and mappings with their tags, made of tokens. An anchor names a node, and
a reference to it stands for that node. A document is one node; others after it are refused.
-/
import BadgeEngine.Document.Kind
import BadgeEngine.Document.Layout

namespace BadgeEngine.Document

/-- a node -/
inductive Node where
  | scalar (tag : Tag) (text : String)
  | list (tag : Tag) (items : List Node)
  | mapping (tag : Tag) (entries : List (Node × Node))

instance : Inhabited Node := ⟨.scalar .null ""⟩

def Node.empty : Node := .scalar .null ""

/-! ## Reading tokens -/

/-- the tokens that are left, and the nodes of anchors; none while a node is not complete -/
structure Reader where
  tokens : List Token
  anchors : List (String × Option Node) := []

abbrev Read := StateT Reader (Except Problem)

namespace Read

def peek : Read (Option Token) := do
  return (← get).tokens.head?

def pass : Read Unit :=
  modify fun r => { r with tokens := r.tokens.drop 1 }

/-- passes the next token if it is a given one -/
def accept (t : Token) : Read Bool := do
  if (← peek) = some t then
    pass
    return true
  else return false

/-- whether the next token is one of some; the end of the text counts as one that is not -/
def isNext (ts : List Token) : Read Bool := do
  return (← peek).any ts.contains

def beginAnchor (name : Option String) : Read Unit := do
  match name with
  | none => return ()
  | some n =>
    if ((← get).anchors.lookup n).isSome then throw .document
    modify fun r => { r with anchors := (n, none) :: r.anchors }

def endAnchor (name : Option String) (node : Node) : Read Node := do
  match name with
  | none => return node
  | some n =>
    modify fun r => { r with anchors := (n, some node) :: r.anchors }
    return node

/-- the node a reference stands for, which is complete -/
def refer (name : String) : Read Node := do
  match (← get).anchors.lookup name with
  | some (some node) => return node
  | _ => throw .document

end Read

open Read

abbrev Handles := List (String × String)

def tagName (handles : Handles) (handle : Option String) (rest : String) : Except Problem String :=
  match handle with
  | none => .ok rest
  | some h =>
    match handles.lookup h with
    | some expansion => .ok (expansion ++ rest)
    | none => .error .document

/-- an anchor and the full name of a tag, in either order -/
structure Properties where
  anchor : Option String := none
  tag : Option String := none

def readAnchor : Read (Option String) := do
  match ← peek with
  | some (.anchor n) =>
    pass
    return some n
  | _ => return none

def readTag (handles : Handles) : Read (Option String) := do
  match ← peek with
  | some (.tag h rest) =>
    pass
    return some (← tagName handles h rest)
  | _ => return none

def properties (handles : Handles) : Read Properties := do
  match ← readAnchor with
  | some n => return ⟨some n, ← readTag handles⟩
  | none =>
    match ← readTag handles with
    | some t => return ⟨← readAnchor, some t⟩
    | none => return {}

namespace Properties

/-- whether a node with these properties has the tag its look gives it -/
def isUntagged (p : Properties) : Bool :=
  p.tag.all (· = "!")

def tagOr (p : Properties) (t : Tag) : Tag :=
  match p.tag with
  | some "!" | none => t
  | some name => Tag.ofName name

def scalar (p : Properties) (text : String) (plain : Bool) : Node :=
  match p.tag with
  | none => .scalar (if plain then tagOfPlain text else .text) text
  | some "!" => .scalar (tagOfPlain text) text
  | some name => .scalar (Tag.ofName name) text

end Properties

mutual

/-- reads a node; `block` allows collections without brackets, `hanging` entries without a column of their
own -/
def node (handles : Handles) : Nat → Bool → Bool → Read Node
  | 0, _, _ => throw .document
  | fuel + 1, block, hanging => do
    match ← peek with
    | some (.reference n) =>
      pass
      refer n
    | _ =>
      let p ← properties handles
      beginAnchor p.anchor
      let n ← content handles fuel block hanging p
      endAnchor p.anchor n

def content (handles : Handles) : Nat → Bool → Bool → Properties → Read Node
  | 0, _, _, _ => throw .document
  | fuel + 1, block, hanging, p => do
    let next ← peek
    if hanging && next = some .blockEntry then
      return .list (p.tagOr .list) (← hangingEntries handles fuel)
    match next, block with
    | some (.scalar text plain), _ =>
      pass
      return p.scalar text plain
    | some .flowSequenceStart, _ =>
      pass
      return .list (p.tagOr .list) (← flowItems handles fuel true)
    | some .flowMappingStart, _ =>
      pass
      return .mapping (p.tagOr .mapping) (← flowEntries handles fuel true)
    | some .blockSequenceStart, true =>
      pass
      return .list (p.tagOr .list) (← blockEntries handles fuel)
    | some .blockMappingStart, true =>
      pass
      return .mapping (p.tagOr .mapping) (← blockPairs handles fuel)
    | _, _ =>
      if p.anchor.isSome || p.tag.isSome then return p.scalar "" p.isUntagged else throw .document

def blockEntries (handles : Handles) : Nat → Read (List Node)
  | 0 => throw .document
  | fuel + 1 => do
    if ← accept .blockEntry then
      let n ← if ← isNext [.blockEntry, .blockEnd] then pure .empty else node handles fuel true false
      return n :: (← blockEntries handles fuel)
    else if ← accept .blockEnd then return []
    else throw .document

/-- reads the entries of a list without a column of its own -/
def hangingEntries (handles : Handles) : Nat → Read (List Node)
  | 0 => throw .document
  | fuel + 1 => do
    if ← accept .blockEntry then
      let n ←
        if ← isNext [.blockEntry, .key, .value, .blockEnd] then pure .empty else node handles fuel true false
      return n :: (← hangingEntries handles fuel)
    else return []

/-- reads the entries of a mapping by its column -/
def blockPairs (handles : Handles) : Nat → Read (List (Node × Node))
  | 0 => throw .document
  | fuel + 1 => do
    if ← accept .key then
      let k ← if ← isNext [.key, .value, .blockEnd] then pure .empty else node handles fuel true true
      let v ←
        if ← accept .value then
          if ← isNext [.key, .value, .blockEnd] then pure .empty else node handles fuel true true
        else pure .empty
      return (k, v) :: (← blockPairs handles fuel)
    else if ← accept .blockEnd then return []
    else throw .document

/-- reads the items of a list in brackets; a key makes a mapping of one entry -/
def flowItems (handles : Handles) : Nat → Bool → Read (List Node)
  | 0, _ => throw .document
  | fuel + 1, first => do
    if ← accept .flowSequenceEnd then return []
    else
      if !first then
        if !(← accept .flowEntry) then throw .document
      if ← accept .key then
        let k ← if ← isNext [.value, .flowEntry, .flowSequenceEnd] then pure .empty else node handles fuel false false
        let v ←
          if ← accept .value then
            if ← isNext [.flowEntry, .flowSequenceEnd] then pure .empty else node handles fuel false false
          else pure .empty
        return .mapping .mapping [(k, v)] :: (← flowItems handles fuel false)
      else if ← accept .flowSequenceEnd then return []
      else
        let n ← node handles fuel false false
        return n :: (← flowItems handles fuel false)

def flowEntries (handles : Handles) : Nat → Bool → Read (List (Node × Node))
  | 0, _ => throw .document
  | fuel + 1, first => do
    if ← accept .flowMappingEnd then return []
    else
      if !first then
        if !(← accept .flowEntry) then throw .document
      if ← accept .key then
        let k ← if ← isNext [.value, .flowEntry, .flowMappingEnd] then pure .empty else node handles fuel false false
        let v ←
          if ← accept .value then
            if ← isNext [.flowEntry, .flowMappingEnd] then pure .empty else node handles fuel false false
          else pure .empty
        return (k, v) :: (← flowEntries handles fuel false)
      else if ← accept .flowMappingEnd then return []
      else
        let k ← node handles fuel false false
        return (k, .empty) :: (← flowEntries handles fuel false)

end

/-! ## Documents -/

def commonHandles : Handles := [("!", "!"), ("!!", commonTags)]

/-- reads the directives in front of a document; the version comes once and is the first, and no handle comes
twice -/
def directives : Nat → Bool → Handles → Read Handles
  | 0, _, _ => throw .document
  | fuel + 1, versioned, handles => do
    match ← peek with
    | some (.directive d) =>
      pass
      match d with
      | .version major =>
        if versioned || major ≠ 1 then throw .document
        directives fuel true handles
      | .handle name expansion =>
        if (handles.lookup name).isSome then throw .document
        directives fuel versioned ((name, expansion) :: handles)
      | .unknown => directives fuel versioned handles
    | _ => return handles ++ commonHandles

def passEnds : Nat → Read Unit
  | 0 => return ()
  | fuel + 1 => do
    if ← accept .documentEnd then passEnds fuel

def document : Read (Option Node) := do
  let size := (← get).tokens.length
  let fuel := 4 * size + 8
  match ← peek with
  | none => return none
  | some t =>
    let root ←
      match t with
      | .directive _ | .documentStart => do
        let handles ← directives fuel false []
        if !(← accept .documentStart) then throw .document
        match ← peek with
        | none | some (.directive _) | some .documentStart | some .documentEnd => pure .empty
        | _ => node handles fuel true false
      | _ => node commonHandles fuel true false
    passEnds size
    if (← peek).isSome then throw .document
    return some root

def nodeOf (text : List Char) : Except Problem (Option Node) := do
  return (← document.run { tokens := ← tokensOf text }).1

end BadgeEngine.Document
