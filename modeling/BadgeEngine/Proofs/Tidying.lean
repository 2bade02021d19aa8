/-
What is wrong with a state stays where it is. A state that can be read is read as the tidied one is, from which unknown
fields, parts of the wrong shape and all entries that were warned about are taken away (`tidied`), and the tidied one is
read without a warning.

Result, over all mappings under texts and everything that counts as false (`read_locally`): the reading of a state that
can be read warns of what is wrong, one by one, and comes to the same as that of the tidied state. What is left is taken
over: properties as they are, the first entry of each id, the last window of each period, and every bookmark.
-/
import Mathlib.Data.List.Induction
import BadgeEngine.Proofs.Warnings

namespace BadgeEngine

open Warned

/-! ## Tidied states -/

def stateParts : List String := ["props", "systemProps", "periods", "earned", "bookmarks"]

/-- whether an entry can be read; none when entries are not what a field has -/
def legibleIn? (part : String) : Option (Value × Value → Bool) :=
  if part = "props" ∨ part = "systemProps" then some fun e => (propertyOf? e).isSome
  else if part = "periods" then some fun e => (windowOf? e).isSome
  else if part = "bookmarks" then some fun e => (bookmarkOf? e).isSome
  else none

/-- what is left of a field: nothing if it is unknown or has the wrong shape, else what was not warned about -/
def tidyPart (part : String) : Value → Option Value
  | .null => if part ∈ stateParts then some .null else none
  | .dict es => (legibleIn? part).map fun ok => .dict (es.filter ok)
  | .list vs => if part = "earned" then some (.list (firstOfEach [] vs)) else none
  | _ => none

/-- a field without what was warned about -/
def tidyField (e : Value × Value) : Option (Value × Value) := do
  let part ← e.1.key?
  let v ← tidyPart part e.2
  return (e.1, v)

/-- a state without unknown fields, parts of the wrong shape, and entries that were warned about -/
def tidied (raw : List (Value × Value)) : List (Value × Value) := raw.filterMap tidyField

theorem tidyField_text (part : String) (v : Value) :
    tidyField (.ofText part, v) = (tidyPart part v).map fun w => (.ofText part, w) := by
  cases h : tidyPart part v <;> simp [tidyField, Value.key?, h]

theorem tidyField_eq {e d : Value × Value} (h : tidyField e = some d) :
    ∃ part v, tidyPart part e.2 = some v ∧ d = (e.1, v) := by
  unfold tidyField at h
  simp only [bind, Option.bind_eq_some_iff] at h
  obtain ⟨part, -, v, hv, hd⟩ := h
  cases hd
  exact ⟨part, v, hv, rfl⟩

theorem tidyField_key {e d : Value × Value} (h : tidyField e = some d) : d.1 = e.1 := by
  obtain ⟨_, _, -, rfl⟩ := tidyField_eq h
  rfl

section

variable {raw : List (Value × Value)}

theorem tidied_keys {part : String} (h : ∀ e ∈ raw, e.1.key? ≠ some part) :
    ∀ d ∈ tidied raw, d.1.key? ≠ some part := by
  intro d hd
  obtain ⟨e, he, hed⟩ := List.mem_filterMap.1 hd
  rw [tidyField_key hed]
  exact h e he

/-- what is left of each field is left on its own -/
theorem lookup_tidied (h : IsMapping raw) (part : String) :
    Value.lookup part (tidied raw) = (Value.lookup part raw).bind (tidyPart part) := by
  induction raw with
  | nil => rfl
  | cons e es ih =>
    obtain ⟨k, v⟩ := e
    obtain ⟨name, hk⟩ := h.text List.mem_cons_self
    obtain rfl : k = .ofText name := hk
    have apart : ∀ d ∈ es, d.1.key? ≠ some name := fun d hd => Ne.symm ((List.pairwise_cons.1 h.distinct).1 d hd)
    rw [lookup_cons]
    by_cases hn : name = part
    · subst hn
      rw [if_pos rfl, Option.bind_some]
      unfold tidied
      cases ht : tidyPart name v with
      | none =>
        rw [List.filterMap_cons_none (by rw [tidyField_text, ht]; rfl)]
        exact lookup_of_notMem (tidied_keys apart)
      | some w =>
        rw [List.filterMap_cons_some (by rw [tidyField_text, ht]; rfl), lookup_cons, if_pos rfl]
    · rw [if_neg hn, ← ih h.of_cons]
      unfold tidied
      cases ht : tidyPart name v with
      | none => rw [List.filterMap_cons_none (by rw [tidyField_text, ht]; rfl)]
      | some w => rw [List.filterMap_cons_some (by rw [tidyField_text, ht]; rfl), lookup_cons, if_neg hn]

/-- a field that is left is null, a mapping with fewer entries, or a list of which the first of each are left -/
theorem tidyPart_cases {part : String} {v w : Value} (h : tidyPart part v = some w) :
    w = .null ∨ (∃ ok es, legibleIn? part = some ok ∧ v = .dict es ∧ w = .dict (es.filter ok)) ∨
      part = "earned" ∧ ∃ vs, w = .list (firstOfEach [] vs) := by
  cases v with
  | null =>
    rw [tidyPart] at h
    split at h
    · cases h
      exact .inl rfl
    · cases h
  | dict es =>
    rw [tidyPart] at h
    obtain ⟨ok, hok, hw⟩ := Option.map_eq_some_iff.1 h
    exact .inr (.inl ⟨ok, es, hok, rfl, hw.symm⟩)
  | list vs =>
    rw [tidyPart] at h
    split at h
    case isTrue hp =>
      cases h
      exact .inr (.inr ⟨hp, vs, rfl⟩)
    case isFalse => cases h
  | _ => cases h

theorem entriesOf_tidied (h : IsMapping raw) {part : String} {ok : Value × Value → Bool}
    (hp : legibleIn? part = some ok) : entriesOf (tidied raw) part = (entriesOf raw part).filter ok := by
  unfold entriesOf
  rw [lookup_tidied h]
  cases Value.lookup part raw with
  | none => rfl
  | some v =>
    rw [Option.bind_some]
    by_cases hv : ∃ es, v = .dict es
    · obtain ⟨es, rfl⟩ := hv
      rw [tidyPart, hp]
      rfl
    · have gone : ∀ es, tidyPart part v ≠ some (.dict es) := by
        intro es ht
        obtain hn | ⟨_, ds, -, hd, -⟩ | ⟨-, vs, hl⟩ := tidyPart_cases ht
        · cases hn
        · exact hv ⟨ds, hd⟩
        · cases hl
      split
      case h_1 es he => exact absurd he (gone es)
      case h_2 =>
        split
        case h_1 es he =>
          cases he
          exact absurd ⟨es, rfl⟩ hv
        case h_2 => rfl

theorem itemsOf_tidied (h : IsMapping raw) : itemsOf (tidied raw) = firstOfEach [] (itemsOf raw) := by
  unfold itemsOf
  rw [lookup_tidied h]
  cases Value.lookup "earned" raw with
  | none => rfl
  | some v => cases v <;> rfl

theorem shapeReport_tidied (h : IsMapping raw) {part : String} (hp : part ≠ "earned") :
    shapeReport (tidied raw) part = [] := by
  unfold shapeReport
  rw [lookup_tidied h]
  cases ht : (Value.lookup part raw).bind (tidyPart part) with
  | none => rfl
  | some w =>
    obtain ⟨v, -, hw⟩ := Option.bind_eq_some_iff.1 ht
    obtain rfl | ⟨ok, es, -, -, rfl⟩ | ⟨he, -⟩ := tidyPart_cases hw
    · rfl
    · rfl
    · exact absurd he hp

/-- the first of each are a ledger by themselves, and nothing is warned about -/
theorem ofEntries_firstOfEach (vs : List Value) : Ledger.ofEntries ((firstOfEach [] vs).filterMap earnedOf?) =
    ((Ledger.ofEntries (vs.filterMap earnedOf?)).1, []) := by
  rw [← (Ledger.ofEntries_items vs).1]
  exact Ledger.ofEntries_entries _

theorem repeatedIds_firstOfEach (vs : List Value) : repeatedIds [] (firstOfEach [] vs) = [] := by
  rw [← (Ledger.ofEntries_items (firstOfEach [] vs)).2, ofEntries_firstOfEach]

theorem ledgerReport_tidied (h : IsMapping raw) : ledgerReport (tidied raw) = [] := by
  unfold ledgerReport
  rw [lookup_tidied h]
  cases Value.lookup "earned" raw with
  | none => rfl
  | some v =>
    cases v with
    | list vs =>
      have left : tidyPart "earned" (.list vs) = some (.list (firstOfEach [] vs)) := rfl
      rw [Option.bind_some, left]
      dsimp only
      rw [(legible_firstOfEach [] vs).complaints, repeatedIds_firstOfEach]
      rfl
    | _ => rfl

/-- what is left is a mapping under texts, and so are its parts -/
theorem IsMapping.tidied (h : IsMapping raw) : IsMapping (tidied raw) where
  texts d hd := by
    obtain ⟨e, he, hed⟩ := List.mem_filterMap.1 hd
    rw [tidyField_key hed]
    exact h.texts e he
  distinct := by
    unfold BadgeEngine.tidied
    rw [List.pairwise_filterMap]
    refine h.distinct.imp ?_
    intro d e apart d' hd e' he
    rwa [tidyField_key hd, tidyField_key he]

theorem IsBlob.tidied (h : IsBlob raw) : IsBlob (tidied raw) where
  fields := h.fields.tidied
  parts d hd := by
    obtain ⟨e, he, hed⟩ := List.mem_filterMap.1 hd
    obtain ⟨part, v, hv, rfl⟩ := tidyField_eq hed
    obtain rfl | ⟨ok, es, -, hes, rfl⟩ | ⟨-, vs, rfl⟩ := tidyPart_cases hv
    · exact ⟨nofun, .nil⟩
    · have mapping := h.parts e he
      rw [hes] at mapping
      exact mapping.sublist List.filter_sublist
    · exact ⟨nofun, .nil⟩

/-- nothing that is left is wrong -/
theorem legible_tidied (h : IsMapping raw) : LegibleState (tidied raw) where
  props := by
    rw [entriesOf_tidied h rfl]
    exact legible_legibleOnes _ _
  system := by
    rw [entriesOf_tidied h rfl]
    exact legible_legibleOnes _ _
  periods := by
    rw [entriesOf_tidied h rfl]
    exact legible_legibleOnes _ _
  earned := by
    rw [itemsOf_tidied h]
    exact legible_firstOfEach [] _
  bookmarks := by
    rw [entriesOf_tidied h rfl]
    exact legible_legibleOnes _ _

theorem reports_tidied (h : IsMapping raw) : reports (tidied raw) = [] := by
  have legible := legible_tidied h
  unfold reports
  rw [shapeReport_tidied h (by decide), shapeReport_tidied h (by decide), shapeReport_tidied h (by decide),
    shapeReport_tidied h (by decide), legible.props.complaints, legible.system.complaints, legible.periods.complaints,
    legible.bookmarks.complaints, ledgerReport_tidied h]
  rfl

/-- what is left tells the same state -/
theorem forgiven_tidied (h : IsMapping raw) : forgiven (tidied raw) = forgiven raw := by
  have read : ∀ {γ} {part} {f : Value × Value → Option γ}, legibleIn? part = some (fun e => (f e).isSome) →
      (entriesOf (tidied raw) part).filterMap f = (entriesOf raw part).filterMap f := by
    intro γ part f hp
    rw [entriesOf_tidied h hp]
    exact filterMap_legibleOnes f _
  unfold forgiven
  rw [read rfl, read rfl, read rfl, read rfl, itemsOf_tidied h, ofEntries_firstOfEach]

end

/-! ## What is taken over -/

theorem Props.toEntries_legibleOnes {es : List (Value × Value)} (h : IsMapping es) :
    (Props.setAll {} (es.filterMap propertyOf?)).toEntries = legibleOnes propertyOf? es := by
  have named : ∀ name v x, propertyOf? (.ofText name, v) = some x → x.1 = name := by
    intro name v x hx
    cases propertyOf?_eq hx
    rfl
  have put : Props.setAll {} (es.filterMap propertyOf?) = ⟨es.filterMap propertyOf?⟩ := by
    have kept := @Entries.foldl_put _ [] _ (h.names_distinct named)
    calc Props.setAll {} (es.filterMap propertyOf?)
        = ⟨(es.filterMap propertyOf?).foldl (fun es e => Entries.put e.1 e.2 es) []⟩ :=
          List.foldl_hom Props.mk fun _ _ => rfl
      _ = ⟨es.filterMap propertyOf?⟩ := by rw [kept, List.nil_append]
  have verbatim : ∀ e ∈ legibleOnes propertyOf? es,
      (propertyOf? e).map (fun x => (Value.ofText x.1, Value.scalar x.2)) = some e := by
    intro e he
    obtain ⟨x, hx⟩ := Option.isSome_iff_exists.1 (legible_legibleOnes propertyOf? es e he)
    rw [hx, propertyOf?_eq hx]
    rfl
  rw [put, ← filterMap_legibleOnes]
  unfold Props.toEntries
  rw [List.map_filterMap]
  exact (List.filterMap_congr verbatim).trans List.filterMap_some

theorem Bookmarks.entries_foldl {es : List (Value × Value)} (h : IsMapping es) :
    ((es.filterMap bookmarkOf?).foldl (fun b e => b.set e.1 e.2) ({} : Bookmarks)).entries =
      es.filterMap bookmarkOf? := by
  have named : ∀ name v x, bookmarkOf? (.ofText name, v) = some x → x.1 = name := by
    intro name v x hx
    unfold bookmarkOf? at hx
    simp only [bind, Option.bind_eq_some_iff] at hx
    obtain ⟨n, hn, t, -, he⟩ := hx
    cases he
    cases hn
    rfl
  have kept := @Entries.foldl_put _ [] _ (h.names_distinct named)
  calc ((es.filterMap bookmarkOf?).foldl (fun b e => b.set e.1 e.2) ({} : Bookmarks)).entries
      = (es.filterMap bookmarkOf?).foldl (fun es e => Entries.put e.1 e.2 es) [] :=
        congrArg Bookmarks.entries (List.foldl_hom Bookmarks.mk fun _ _ => rfl)
    _ = es.filterMap bookmarkOf? := kept

/-- of several windows of a period the last one stays -/
theorem Windows.get_foldl_set (es : List (Period × Window)) (w : Windows) (p : Period) :
    (es.foldl (fun w e => w.set e.1 e.2) w).get p =
      ((es.reverse.find? fun e => e.1 = p).map (·.2)).getD (w.get p) := by
  induction es using List.reverseRecOn with
  | nil => rfl
  | append_singleton es e ih =>
    rw [List.foldl_append, List.foldl_cons, List.foldl_nil, List.reverse_append, List.reverse_singleton,
      List.singleton_append]
    by_cases hp : e.1 = p
    · rw [List.find?_cons_of_pos (by simpa using hp), ← hp, get_set_self]
      rfl
    · rw [List.find?_cons_of_neg (by simpa using hp), get_set_of_ne (Ne.symm hp), ih]

theorem earnedOf?_count {v : Value} {e : Earned} (h : earnedOf? v = some e) : 1 ≤ e.count := by
  unfold earnedOf? at h
  split at h
  · simp only [bind, Option.bind_eq_some_iff] at h
    obtain ⟨n, -, id, -, t, -, he⟩ := h
    cases he
    exact Int.le_max_right n 1
  · cases h

/-! ## Local readings -/

/-- a state is read as what is left of it is, which is read without a warning -/
structure ReadLocally (raw : List (Value × Value)) (s : EngineState) (log : List String) : Prop where
  /-- every wrong entry is warned about, and nothing else -/
  warned : log = reports raw
  alike : (EngineState.ofValue (.dict (tidied raw))).answer = (.ok s, [])
  props : s.props.toEntries = entriesOf (tidied raw) "props"
  system : s.system.toEntries = entriesOf (tidied raw) "systemProps"
  /-- the last window of a period counts, and a period without one has the initial one -/
  windows : ∀ p, s.windows.get p =
    ((((entriesOf raw "periods").filterMap windowOf?).reverse.find? fun e => e.1 = p).map (·.2)).getD (initialWindow p)
  /-- each item that is left is an entry of the ledger -/
  earned : s.ledger.entries.map some = (itemsOf (tidied raw)).map earnedOf?
  /-- the first entry of an id counts -/
  first : ∀ id, s.ledger.get? id = ((itemsOf raw).filterMap earnedOf?).find? fun e => e.id = id
  bookmarks : s.bookmarks.entries.map some = (entriesOf (tidied raw) "bookmarks").map bookmarkOf?
  orderly : s.ledger.Orderly

/-- the state that the entries tell is what is left of them -/
theorem forgiven_local {raw : List (Value × Value)} (h : IsBlob raw) :
    ReadLocally raw (forgiven raw) (reports raw) where
  warned := rfl
  alike := by
    have read := (ofValue_yields h.tidied).answer_of_legible (legible_tidied h.fields)
    rwa [forgiven_tidied h.fields, reports_tidied h.fields] at read
  props := by
    rw [entriesOf_tidied h.fields rfl]
    exact Props.toEntries_legibleOnes (h.entriesOf "props")
  system := by
    rw [entriesOf_tidied h.fields rfl]
    exact Props.toEntries_legibleOnes (h.entriesOf "systemProps")
  windows p := (Windows.get_foldl_set _ .initial p).trans (by rw [Windows.initial_get])
  earned := by
    have taken : (forgiven raw).ledger.entries = (firstOfEach [] (itemsOf raw)).filterMap earnedOf? :=
      (Ledger.ofEntries_items (itemsOf raw)).1
    rw [taken, itemsOf_tidied h.fields]
    exact (legible_firstOfEach [] (itemsOf raw)).map_some
  first id := by
    rw [Ledger.get?_eq, show (forgiven raw).ledger.entries = _ from (Ledger.ofEntries_items (itemsOf raw)).1]
    exact find?_firstOfEach (List.not_mem_nil (a := id)) (itemsOf raw)
  bookmarks := by
    have set : (forgiven raw).bookmarks.entries = (entriesOf raw "bookmarks").filterMap bookmarkOf? :=
      Bookmarks.entries_foldl (h.entriesOf "bookmarks")
    rw [set, entriesOf_tidied h.fields rfl, ← filterMap_legibleOnes]
    exact (legible_legibleOnes bookmarkOf? (entriesOf raw "bookmarks")).map_some
  orderly := by
    apply Ledger.ofEntries_orderly
    intro e he
    obtain ⟨v, -, hv⟩ := List.mem_filterMap.1 he
    exact earnedOf?_count hv

theorem stateEntries_ok {v : Value} {raw : List (Value × Value)} (h : stateEntries v = .ok raw) :
    raw = stateFields v := by
  unfold stateEntries at h
  by_cases ht : v.truthy
  · rw [if_neg (by simp [ht])] at h
    split at h
    · cases h
      rfl
    · split at h
      · cases h
      · split at h <;> cases h
  · rw [if_pos (by simpa using ht)] at h
    cases h
    cases v with
    | dict es => cases es with
      | nil => rfl
      | cons => exact absurd rfl ht
    | _ => rfl

/-- **Locality.** Whenever a state is read, the reading warns of what is wrong in it, comes to the same as that of what
is left, and takes over what is left. -/
theorem read_locally {v : Value} {s : EngineState} {log : List String} (hv : IsBlob (stateFields v))
    (h : (EngineState.ofValue v).answer = (.ok s, log)) : ReadLocally (stateFields v) s log := by
  cases hs : stateEntries v with
  | error e =>
    unfold EngineState.ofValue at h
    rw [hs] at h
    cases h
  | ok raw =>
    have same : EngineState.ofValue v = EngineState.ofValue (.dict (stateFields v)) := by
      cases stateEntries_ok hs
      unfold EngineState.ofValue
      rw [hs, stateEntries_dict]
    rw [same] at h
    obtain ⟨rfl, rfl⟩ := (ofValue_yields hv).answer h
    exact forgiven_local hv

/-- a state with wrong entries before, between and after those that are right -/
def cluttered : Value := .dict [
  (.ofText "bookmarks", .dict [(.ofText "now", .ofText "2022-07-04T15:30:00+02:00"), (.ofText "soon", .ofText "soon")]),
  (.ofText "earned", .list [
    .dict [(.ofText "count", .ofInt 9), (.ofText "id", .ofText "a")],
    .dict [(.ofText "count", .ofText "2"), (.ofText "id", .ofText "a"), (.ofText "lastEarned", .ofText "2022-07-04")],
    .ofInt 7,
    .dict [(.ofText "id", .ofText "a"), (.ofText "lastEarned", .ofText "2022-07-05")],
    .dict [(.ofText "count", .ofInt (-3)), (.ofText "id", .ofText "b"), (.ofText "lastEarned", .ofText "2022-07-06")]]),
  (.ofText "periods", .dict [
    (.ofText "DAY", .dict [(.ofText "key", .ofText "2022-07-04"), (.ofText "lastTimestamp", .ofText "2022-07-04")]),
    (.ofText "Day", .dict [(.ofText "key", .ofText "2022-07-05"), (.ofText "lastTimestamp", .ofText "2022-07-05")]),
    (.ofText "day", .null)]),
  (.ofText "props", .dict [(.ofText "bag", .list []), (.ofText "coins", .ofInt 5)]),
  (.ofText "systemProps", .ofInt 3), (.ofText "unknown", .ofBool true)]

/-- the warnings about it -/
def clutter : List String := [
  "Skipping props entry 'bag' with unsupported value []",
  "State field 'systemProps' is not a mapping; resetting it",
  "Skipping malformed period window 'day': None",
  "Skipping malformed earned entry: \x7b'count': 9, 'id': 'a'\x7d",
  "Skipping malformed earned entry: 7",
  "Duplicate ledger entry for 'a' ignored",
  "Skipping malformed bookmark 'soon': 'soon'"]

theorem cluttered_read :
    IsBlob (stateFields cluttered) ∧ ∃ s, (EngineState.ofValue cluttered).answer = (.ok s, clutter) ∧
      ReadLocally (stateFields cluttered) s clutter ∧
      s.ledger.entries.map (fun e => (e.id, e.count)) = [("a", 2), ("b", 1)] ∧
      (s.windows.get (.calendar .day)).key = "2022-07-05" ∧ s.bookmarks.entries.map (·.1) = ["now"] := by
  have blob : IsBlob (stateFields cluttered) := by decide
  have told : (EngineState.ofValue cluttered).answer.1.toOption.map (fun s =>
      (s.ledger.entries.map (fun e => (e.id, e.count)), (s.windows.get (.calendar .day)).key,
        s.bookmarks.entries.map (·.1))) = some ([("a", 2), ("b", 1)], "2022-07-05", ["now"]) := by
    decide +kernel
  have texts : (EngineState.ofValue cluttered).answer.2 = clutter := by decide +kernel
  rcases hr : (EngineState.ofValue cluttered).answer with ⟨e | s, log⟩
  · rw [hr] at told
    cases told
  · rw [hr] at told texts
    obtain rfl : log = clutter := texts
    have parts := Prod.mk.inj (Option.some.inj told)
    exact ⟨blob, s, rfl, read_locally blob hr, parts.1, Prod.mk.inj parts.2⟩

end BadgeEngine
