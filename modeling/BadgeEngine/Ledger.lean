/-
The ledger: which badges were earned, how often, and when last. A badge is earned again only when the window
of its rule's period began after it was last earned, and only up to the rule's limit. Entries are never
taken away. An index beside the entries tells where the entry of a badge stands; every ledger carries the proof
that it tells this rightly, and that no badge has two entries.
-/
import BadgeEngine.Rule

namespace BadgeEngine

open BadgeEngine.Text BadgeEngine.Time

/-- a badge that was earned -/
structure Earned where
  id : String
  count : Int
  lastEarned : Instant

namespace Ledger

/-- where entries stand, by the ids of their badges -/
def positions (es : List Earned) : List (String × Nat) := es.zipIdx.map fun p => (p.1.id, p.2)

def entryFor? (id : String) (es : List Earned) : Option Earned := es.find? fun e => e.id = id

theorem lookup_positionsFrom (es : List Earned) (n : Nat) (id : String) :
    ((es.zipIdx n).map fun p => (p.1.id, p.2)).lookup id = (es.findIdx? fun e => e.id = id).map (· + n) := by
  induction es generalizing n with
  | nil => rfl
  | cons e es ih =>
    rw [List.zipIdx_cons, List.map_cons, List.lookup_cons, List.findIdx?_cons]
    by_cases h : e.id = id
    · simp [h]
    · rw [beq_eq_false_iff_ne.2 (Ne.symm h), ih, decide_eq_false h]
      cases es.findIdx? fun e => e.id = id <;> simp [Nat.add_assoc, Nat.add_comm 1]

theorem lookup_positions (es : List Earned) (id : String) :
    (positions es).lookup id = es.findIdx? fun e => e.id = id := by
  unfold positions
  rw [lookup_positionsFrom]
  cases es.findIdx? fun e => e.id = id <;> rfl

theorem positions_ids (es : List Earned) : (positions es).map (·.1) = es.map (·.id) :=
  List.ext_getElem (by simp [positions]) fun _ _ _ => by simp [positions]

theorem positions_append (es : List Earned) (e : Earned) :
    positions (es ++ [e]) = positions es ++ [(e.id, es.length)] := by
  simp [positions, List.zipIdx_append]

/-- an entry that takes the place of the one of its badge leaves the positions as they are -/
theorem positions_set {es : List Earned} {e : Earned} {i : Nat} (h : (positions es).lookup e.id = some i) :
    positions (es.set i e) = positions es := by
  rw [lookup_positions] at h
  obtain ⟨hi, hid, -⟩ := List.findIdx?_eq_some_iff_getElem.1 h
  unfold positions
  refine List.ext_getElem (by simp) fun j hj hj' => ?_
  simp only [List.getElem_map, List.getElem_zipIdx, List.getElem_set]
  split
  case isTrue hij =>
    subst hij
    simpa using (of_decide_eq_true hid).symm
  case isFalse => rfl

end Ledger

/-- earned badges in the order in which they were first earned, and where the entry of each badge stands -/
structure Ledger where
  entries : List Earned
  index : List (String × Nat)
  distinct : (entries.map (·.id)).Nodup
  indexed : index = Ledger.positions entries

namespace Ledger

/-- a ledger before anything was earned -/
def empty : Ledger := ⟨[], [], List.nodup_nil, rfl⟩

def get? (l : Ledger) (id : String) : Option Earned :=
  (l.index.lookup id).bind fun i => l.entries[i]?

def hasEarned (l : Ledger) (id : String) : Bool :=
  (l.index.lookup id).isSome

/-- how often a badge was earned -/
def count (l : Ledger) (id : String) : Int :=
  match l.get? id with
  | some e => e.count
  | none => 0

/-- the badges last earned at an instant or later -/
def since (l : Ledger) (t : Instant) : List Earned :=
  l.entries.filter fun e => t ≤ e.lastEarned

/-- an entry put in place of the one with its id, or at the end of a list -/
def put (e : Earned) : List Earned → List Earned
  | [] => [e]
  | f :: es => if f.id = e.id then e :: es else f :: put e es

/-- whether a badge that was earned before is held back: its window has not begun since, or its limit is
reached -/
def isHeld (r : Rule) (windowStart : Instant) (e : Earned) : Bool :=
  !(e.lastEarned < windowStart) || r.max.any fun m => m ≤ e.count

/-- the entry that a match of a rule makes, if it is not held back -/
def next? (l : Ledger) (r : Rule) (windowStart now : Instant) : Option Earned :=
  match l.get? r.id with
  | none => some ⟨r.id, 1, now⟩
  | some e => if isHeld r windowStart e then none else some ⟨r.id, e.count + 1, now.later e.lastEarned⟩

theorem notMem_of_lookup {l : Ledger} {id : String} (h : l.index.lookup id = none) : id ∉ l.entries.map (·.id) := by
  rw [l.indexed, lookup_positions, List.findIdx?_eq_none_iff] at h
  intro hm
  obtain ⟨e, he, hid⟩ := List.mem_map.1 hm
  simpa [hid] using h e he

/-- the ledger with the first entry of a badge at its end -/
def append (l : Ledger) (e : Earned) (h : l.index.lookup e.id = none) : Ledger where
  entries := l.entries ++ [e]
  index := l.index ++ [(e.id, l.entries.length)]
  distinct := by
    rw [List.map_append, List.nodup_append]
    refine ⟨l.distinct, by simp, fun a ha b hb hab => notMem_of_lookup h ?_⟩
    rw [hab, List.mem_singleton.1 hb] at ha
    exact ha
  indexed := by rw [positions_append, l.indexed]

/-- the ledger with a new entry of a badge in the place of the one it had -/
def replace (l : Ledger) (i : Nat) (e : Earned) (h : l.index.lookup e.id = some i) : Ledger where
  entries := l.entries.set i e
  index := l.index
  distinct := by
    rw [l.indexed] at h
    rw [← positions_ids, positions_set h, positions_ids]
    exact l.distinct
  indexed := by rw [positions_set (l.indexed ▸ h), l.indexed]

/-- an entry taken into a ledger, in its badge's place or at the end -/
def enter (l : Ledger) (e : Earned) : Ledger :=
  match h : l.index.lookup e.id with
  | none => l.append e h
  | some i => l.replace i e h

/-- records a match of a rule: the entry it makes, if any, and the ledger -/
def record (l : Ledger) (r : Rule) (windowStart now : Instant) : Option Earned × Ledger :=
  match l.next? r windowStart now with
  | none => (none, l)
  | some e => (some e, l.enter e)

/-- an entry taken up at the end of a ledger unless its id came before; with the ids that came again, the last in
front -/
def takeUp (p : Ledger × List String) (e : Earned) : Ledger × List String :=
  match h : p.1.index.lookup e.id with
  | none => (p.1.append e h, p.2)
  | some _ => (p.1, e.id :: p.2)

/-- a ledger of entries, the first of each id, and the ids that came again -/
def ofEntries (es : List Earned) : Ledger × List String :=
  let (ledger, again) := es.foldl takeUp (empty, [])
  (ledger, again.reverse)

end Ledger

/-- the warning about an entry whose id came before -/
def duplicateWarning (id : String) : String :=
  "Duplicate ledger entry for " ++ quoted id ++ " ignored"

end BadgeEngine
