/-
Profiles: states of engines, stored under ids. The work on a database is done by a library that is given as a parameter.
What is laid out here is what is asked of it in a session, and how a session ends: one that writes is committed, also
where the work ends early, and rolled back when something fails.
-/
import BadgeEngine.Host

namespace BadgeEngine

variable {B S α σ : Type}

/-! ## Sessions -/

/-- work in a session, which may have changed it also when it fails -/
abbrev Work (S : Type) := ExceptT Problem (StateM S)

/-- what work comes to, and the session then -/
def Work.on (work : Work S α) (s : S) : Except Problem α × S :=
  work.run.run s

/-- a library that works on rows, each with an id and a state: a database holds a `B`, and a session is an `S` -/
structure Database (B S : Type) where
  enter : B → S
  /-- the state in the row of an id, if there is one -/
  find : String → Work S (Option Value)
  insert : String → Value → Work S Unit
  /-- puts a state into the row of an id -/
  assign : String → Value → Work S Unit
  delete : String → Work S Unit
  /-- the ids of the rows, in rising order if that is asked for -/
  ids : Bool → Work S (List String)
  commit : Work S Unit
  rollback : Work S Unit
  leave : S → B

namespace Database

variable (D : Database B S)

/-- work in a session that is only left -/
def looking (work : Work S α) (b : B) : Except Problem α × B :=
  let (r, s) := work.on (D.enter b)
  (r, D.leave s)

/-- work in a session that is committed, or rolled back if something fails, and then left -/
def writing (work : Work S α) : B → Except Problem α × B :=
  D.looking (tryCatch (do let x ← work; D.commit; return x) fun e => do D.rollback; throw e)

/-- inserts a row, or puts a state into the one that is there -/
def saving (id : String) (state : Value) : Work S Unit := do
  match ← D.find id with
  | none => D.insert id state
  | some _ => D.assign id state

/-- stores a state under an id -/
def save (id : String) (state : Value) : B → Except Problem Unit × B := D.writing (D.saving id state)

/-- the state under an id -/
def stored (id : String) : B → Except Problem (Option Value) × B := D.looking (D.find id)

/-- deletes a row, or ends early if there is none -/
def removing (id : String) : Work S Bool := do
  match ← D.find id with
  | none => return false
  | some _ =>
    D.delete id
    return true

/-- takes an id away; tells whether it was there -/
def remove (id : String) : B → Except Problem Bool × B := D.writing (D.removing id)

/-- the ids in rising order -/
def list : B → Except Problem (List String) × B := D.looking (D.ids true)

end Database

/-! ## Calls -/

/-- a call of the store -/
inductive Call where
  /-- the state of the engine is put under an id -/
  | save (id : String)
  /-- the engine loads the state under an id -/
  | load (id : String)
  | delete (id : String)
  | list

/-- what a call answers -/
inductive Returned where
  | nothing
  | found (b : Bool)
  | ids (ids : List String)

/-- a host that keeps a database -/
structure Keeper (σ B : Type) where
  get : σ → B
  set : B → σ → σ
  get_set : ∀ b h, get (set b h) = b

/-- the program of a call -/
def Call.script (c : Call) (D : Database B S) (K : Keeper σ B) (h : σ) : Script σ Returned :=
  match c with
  | save id => .look fun st =>
    let (r, b) := D.save id st.toValue (K.get h)
    .finish (K.set b h) (r.map fun _ => .nothing)
  | load id =>
    match D.stored id (K.get h) with
    | (.error e, b) => .finish (K.set b h) (.error e)
    | (.ok none, b) => .finish (K.set b h) (.ok (.found false))
    | (.ok (some v), b) => .ask (K.set b h) (.operate (.load v)) fun h a => .finish h (a.map fun _ => .found true)
  | delete id =>
    let (r, b) := D.remove id (K.get h)
    .finish (K.set b h) (r.map .found)
  | list =>
    let (r, b) := D.list (K.get h)
    .finish (K.set b h) (r.map .ids)

/-! ## Rows -/

/-- stored states, one under an id -/
structure Profiles where
  entries : List (String × Value)
  distinct : Entries.Distinct entries

/-- whether every number in a value can be written -/
def Value.isWritable (v : Value) : Bool := v.shown?.isSome

namespace Profiles

/-- nothing is stored -/
def empty : Profiles := ⟨[], .nil⟩

def get? (p : Profiles) (id : String) : Option Value :=
  p.entries.lookup id

/-- a state put under an id -/
def put (id : String) (v : Value) (p : Profiles) : Profiles :=
  ⟨Entries.put id v p.entries, p.distinct.put id v⟩

/-- an id taken away -/
def remove (id : String) (p : Profiles) : Profiles :=
  ⟨Entries.remove id p.entries, p.distinct.remove id⟩

/-- a session: the rows that were committed, and those seen in it -/
structure Session where
  base : Profiles
  rows : Profiles

/-- changes the rows seen in a session -/
def Session.change (f : Profiles → Profiles) : Work Session Unit :=
  modify fun s => { s with rows := f s.rows }

/-- whether the states seen in a session can be written -/
def Session.isWritable (s : Session) : Bool :=
  s.rows.entries.all fun e => e.2.isWritable

/-- rows of entries. An assigned state is written unless it counts as the same as the old one. -/
def database (same : Value → Value → Bool) : Database Profiles Session where
  enter p := ⟨p, p⟩
  find id := return (← get).rows.get? id
  insert id v := Session.change (put id v)
  assign id v := Session.change fun p => if (p.get? id).any fun old => same old v then p else put id v p
  delete id := Session.change (remove id)
  ids ordered := do
    let ids := (← get).rows.entries.map (·.1)
    return if ordered then ids.mergeSort fun a b => decide (a ≤ b) else ids
  commit := do
    let s ← get
    if s.isWritable then set ({ s with base := s.rows } : Session) else throw .unstorable
  rollback := modify fun s => { s with rows := s.base }
  leave s := s.base

end Profiles

end BadgeEngine
