/-
What is read of a state that came from elsewhere. Each part is read entry by entry, and an entry that is wrong is left
out: what is read of a part is told by a reading of one entry (`propertyOf?`, `windowOf?`, `earnedOf?`, `bookmarkOf?`)
and by the order of the entries. Two things are not forgiven, and stop the reading: an instant that lies outside the
years 1 to 9999, and a count that is infinite (`Overflows`).

Results, over null and every JSON object:
- `read_forgiving`: the reading comes to what its entries tell exactly when no entry overflows, and else fails with an
  overflow;
- `dawn_unread`: one bookmark that lies before the year 1 in UTC keeps everything else from being read.
-/
import BadgeEngine.Proofs.RoundTrip

namespace BadgeEngine

open BadgeEngine.Number BadgeEngine.Time

variable {α β : Type}

/-! ## JSON -/

mutual

def Value.isJson : Value → Bool
  | .null | .scalar _ => true
  | .list vs => jsonItems vs
  | .dict es => jsonEntries es
  | _ => false

def jsonItems : List Value → Bool
  | [] => true
  | v :: vs => v.isJson && jsonItems vs

/-- whether the entries of a mapping are JSON: the keys are texts -/
def jsonEntries : List (Value × Value) → Bool
  | [] => true
  | (k, v) :: es => k.key?.isSome && v.isJson && jsonEntries es

end

theorem jsonEntries_cons {e : Value × Value} {es : List (Value × Value)} (h : jsonEntries (e :: es)) :
    (∃ name, e.1 = .ofText name) ∧ e.2.isJson ∧ jsonEntries es := by
  obtain ⟨k, v⟩ := e
  simp only [jsonEntries, Bool.and_eq_true] at h
  refine ⟨?_, h.1.2, h.2⟩
  unfold Value.key? at h
  split at h
  case h_1 name => exact ⟨name, rfl⟩
  case h_2 => simp at h

theorem isJson_lookup {name : String} {es : List (Value × Value)} {v : Value} (h : jsonEntries es)
    (hv : Value.lookup name es = some v) : v.isJson := by
  induction es with
  | nil => cases hv
  | cons e es ih =>
    obtain ⟨-, he, hs⟩ := jsonEntries_cons h
    unfold Value.lookup at hv ih
    rw [List.find?_cons] at hv
    split at hv
    · cases hv
      exact he
    · exact ih hs hv

/-! ## Entries that are read -/

/-- the entries of a part; what is no mapping has none -/
def entriesOf (raw : List (Value × Value)) (part : String) : List (Value × Value) :=
  match Value.lookup part raw with
  | some (.dict es) => es
  | _ => []

/-- the items of the ledger; what is no list has none -/
def itemsOf (raw : List (Value × Value)) : List Value :=
  match Value.lookup "earned" raw with
  | some (.list vs) => vs
  | _ => []

/-- the instant a value names, if it is a text that names one -/
def instant? : Value → Option Instant
  | .scalar (.text s) => (readInstant s).toOption
  | _ => none

/-- a property: a name with a scalar -/
def propertyOf? : Value × Value → Option (String × Scalar)
  | (.scalar (.text name), .scalar x) => some (name, x)
  | _ => none

/-- a window: a period in any letter case, with a key and an instant -/
def windowOf? (e : Value × Value) : Option (Period × Window) := do
  let p ← e.1.text?.bind Period.ofAnyCase?
  let key ← (entryOf? e.2 "key").bind Value.text?
  let since ← (entryOf? e.2 "lastTimestamp").bind instant?
  return (p, ⟨key, since⟩)

/-- the count a value stands for, if it is a finite number or the text of a whole one -/
def count? : Value → Option Int
  | .scalar (.bool b) => some (if b then 1 else 0)
  | .scalar (.int n) => some n
  | .scalar (.text s) => (readInt s.toList).toOption
  | .scalar (.float x) => truncate? x
  | _ => none

def entryCount? (es : List (Value × Value)) : Option Int :=
  match Value.lookup "count" es with
  | none => some 1
  | some v => count? v

/-- a ledger entry: an id and an instant, with a count that is raised to 1 -/
def earnedOf? : Value → Option Earned
  | .dict es => do
    let count ← entryCount? es
    let id ← (Value.lookup "id" es).bind Value.text?
    let last ← (Value.lookup "lastEarned" es).bind instant?
    return ⟨id, max count 1, last⟩
  | _ => none

/-- a bookmark: a name with an instant -/
def bookmarkOf? (e : Value × Value) : Option (String × Instant) := do
  let name ← e.1.text?
  let t ← instant? e.2
  return (name, t)

/-- the state that the entries of its parts tell -/
def forgiven (raw : List (Value × Value)) : EngineState where
  props := Props.setAll {} ((entriesOf raw "props").filterMap propertyOf?)
  system := Props.setAll {} ((entriesOf raw "systemProps").filterMap propertyOf?)
  windows := ((entriesOf raw "periods").filterMap windowOf?).foldl (fun w e => w.set e.1 e.2) .initial
  ledger := (Ledger.ofEntries ((itemsOf raw).filterMap earnedOf?)).1
  bookmarks := ((entriesOf raw "bookmarks").filterMap bookmarkOf?).foldl (fun b e => b.set e.1 e.2) {}

/-! ## Entries that overflow -/

/-- a text that names an instant outside the years 1 to 9999 -/
def OutOfRange (v : Value) : Prop := ∃ text, v = .ofText text ∧ readInstant text = .error .outOfRange

def Infinite (v : Value) : Prop := ∃ x : Float, v = .scalar (.float x) ∧ truncate? x = none ∧ x == x

/-- a window that is right but for its instant, which is out of range -/
def WindowOverflows (e : Value × Value) : Prop :=
  (∃ p, e.1.text?.bind Period.ofAnyCase? = some p) ∧ (∃ key, (entryOf? e.2 "key").bind Value.text? = some key) ∧
    ∃ v, entryOf? e.2 "lastTimestamp" = some v ∧ OutOfRange v

/-- a ledger entry whose count is infinite, or that is right but for its instant, which is out of range -/
def EarnedOverflows (v : Value) : Prop :=
  ∃ es, v = .dict es ∧ ((∃ c, Value.lookup "count" es = some c ∧ Infinite c) ∨
    ((∃ n, entryCount? es = some n) ∧ (∃ id, (Value.lookup "id" es).bind Value.text? = some id) ∧
      ∃ t, Value.lookup "lastEarned" es = some t ∧ OutOfRange t))

/-- something in a state is not forgiven -/
def Overflows (raw : List (Value × Value)) : Prop :=
  (∃ e ∈ entriesOf raw "periods", WindowOverflows e) ∨ (∃ v ∈ itemsOf raw, EarnedOverflows v) ∨
    ∃ e ∈ entriesOf raw "bookmarks", OutOfRange e.2

/-! ## Readings that forgive -/

/-- a reading comes to an end, whatever warnings came before -/
def Warned.comesTo (a : Warned α) (r : Except Problem α) : Prop := ∀ log, ∃ log', a.run.run log = (r, log')

/-- a reading comes to an answer unless something overflows, and then it fails with an overflow -/
structure Warned.Forgives (a : Warned α) (bad : Prop) (x : α) : Prop where
  good : ¬ bad → a.comesTo (.ok x)
  bad : bad → ∃ e : Problem, e.kind = "OverflowError" ∧ a.comesTo (.error e)

namespace Warned

theorem comesTo.bind {a : Warned α} {f : α → Warned β} {x : α} {r : Except Problem β} (ha : a.comesTo (.ok x))
    (hf : (f x).comesTo r) : comesTo (a >>= f) r := by
  intro log
  obtain ⟨log₁, h⟩ := ha log
  obtain ⟨log₂, h'⟩ := hf log₁
  exact ⟨log₂, by rw [run_bind, h]; exact h'⟩

theorem comesTo.bind_error {a : Warned α} {f : α → Warned β} {e : Problem} (ha : a.comesTo (.error e)) :
    comesTo (a >>= f) (.error e) := by
  intro log
  obtain ⟨log₁, h⟩ := ha log
  exact ⟨log₁, by rw [run_bind, h]⟩

theorem comesTo_pure (x : α) : comesTo (pure x) (.ok x) := fun log => ⟨log, rfl⟩

theorem comesTo_ofExcept (r : Except Problem α) : comesTo (liftM r) r := by
  intro log
  cases r <;> exact ⟨log, rfl⟩

theorem comesTo_warn (text : String) : comesTo (warn text) (.ok ()) := fun log => ⟨log ++ [text], rfl⟩

theorem comesTo.answer {a : Warned α} {r : Except Problem α} (h : a.comesTo r) : a.answer.1 = r := by
  obtain ⟨log, h⟩ := h []
  unfold Warned.answer
  rw [h]

theorem Forgives.of_result {r : Except Problem α} {bad : Prop} {x : α} (good : ¬ bad → r = .ok x)
    (hbad : bad → ∃ e : Problem, r = .error e ∧ e.kind = "OverflowError") : Forgives (liftM r) bad x where
  good h := good h ▸ comesTo_ofExcept r
  bad h := by
    obtain ⟨e, hr, he⟩ := hbad h
    exact ⟨e, he, hr ▸ comesTo_ofExcept r⟩

theorem comesTo.forgives {a : Warned α} {x : α} (h : a.comesTo (.ok x)) : a.Forgives False x :=
  ⟨fun _ => h, False.elim⟩

theorem Forgives.bind {a : Warned α} {f : α → Warned β} {bad bad' : Prop} {x : α} {y : β} (ha : a.Forgives bad x)
    (hf : (f x).Forgives bad' y) : Forgives (a >>= f) (bad ∨ bad') y where
  good h := (ha.good fun hb => h (.inl hb)).bind (hf.good fun hb => h (.inr hb))
  bad h := by
    by_cases hb : bad
    · obtain ⟨e, he, h⟩ := ha.bad hb
      exact ⟨e, he, h.bind_error⟩
    · obtain ⟨e, he, h'⟩ := hf.bad (h.resolve_left hb)
      exact ⟨e, he, (ha.good hb).bind h'⟩

theorem Forgives.congr {a : Warned α} {bad bad' : Prop} {x : α} (h : a.Forgives bad x) (hb : bad ↔ bad') :
    a.Forgives bad' x :=
  ⟨fun hn => h.good (mt hb.1 hn), fun hbad => h.bad (hb.2 hbad)⟩

theorem Forgives.map {a : Warned α} {bad : Prop} {x : α} (h : a.Forgives bad x) (f : α → β) :
    Forgives (a >>= fun x => pure (f x)) bad (f x) :=
  (h.bind (f := fun x => pure (f x)) (comesTo_pure (f x)).forgives).congr (by rw [or_false])

/-- a step that forgives everything goes first -/
theorem comesTo.then {a : Warned α} {f : α → Warned β} {bad : Prop} {x : α} {y : β} (ha : a.comesTo (.ok x))
    (hf : (f x).Forgives bad y) : Forgives (a >>= f) bad y :=
  (ha.forgives.bind hf).congr (by rw [false_or])

end Warned

open Warned

/-! ## Entries -/

theorem outOfRange_ofText {text : String} : OutOfRange (.ofText text) ↔ readInstant text = .error .outOfRange := by
  constructor
  · rintro ⟨_, ⟨⟩, h⟩
    exact h
  · exact fun h => ⟨text, rfl, h⟩

/-- an instant is read, is out of range, or is wrong in a way that is forgiven -/
theorem instantOfValue_cases (v : Value) :
    (∃ t, instant? v = some t ∧ ¬ OutOfRange v ∧ instantOfValue v = .ok t) ∨
      (OutOfRange v ∧ ∃ e, instantOfValue v = .error e ∧ e.kind = "OverflowError") ∨
      (instant? v = none ∧ ¬ OutOfRange v ∧ ∃ e, instantOfValue v = .error e ∧ e.kind ≠ "OverflowError") := by
  by_cases hv : ∃ text, v = .ofText text
  · obtain ⟨text, rfl⟩ := hv
    rw [outOfRange_ofText]
    simp only [instant?, instantOfValue, instantOfText]
    cases readInstant text with
    | ok t => exact .inl ⟨t, rfl, by simp, rfl⟩
    | error e =>
      by_cases he : e = .outOfRange
      · subst he
        exact .inr (.inl ⟨rfl, _, rfl, rfl⟩)
      · refine .inr (.inr ⟨rfl, by simpa using he, _, rfl, ?_⟩)
        cases e with
        | outOfRange => exact absurd rfl he
        | _ => simp only [Problem.kind]; decide
  · have inRange : ¬ OutOfRange v := by
      rintro ⟨text, h, -⟩
      exact hv ⟨text, h⟩
    have unread : instant? v = none := by
      unfold instant?
      split
      · exact absurd ⟨_, rfl⟩ hv
      · rfl
    have fails : instantOfValue v = .error (.wrongType "fromisoformat: argument must be str") := by
      unfold instantOfValue
      split
      · exact absurd ⟨_, rfl⟩ hv
      · rfl
    exact .inr (.inr ⟨unread, inRange, _, fails, by simp only [Problem.kind]; decide⟩)

theorem readWindow_forgives (e : Value × Value) :
    Forgives (liftM (readWindow e.1 e.2)) (WindowOverflows e) (windowOf? e) := by
  have result : (¬ WindowOverflows e → readWindow e.1 e.2 = .ok (windowOf? e)) ∧
      (WindowOverflows e → ∃ p : Problem, readWindow e.1 e.2 = .error p ∧ p.kind = "OverflowError") := by
    unfold readWindow windowOf? WindowOverflows
    cases e.1.text?.bind Period.ofAnyCase? with
    | none => simp
    | some p =>
      cases (entryOf? e.2 "key").bind Value.text? with
      | none => simp
      | some key =>
        cases entryOf? e.2 "lastTimestamp" with
        | none => simp
        | some v =>
          obtain ⟨t, ht, ho, hi⟩ | ⟨ho, p, hi, hk⟩ | ⟨ht, ho, p, hi, hk⟩ := instantOfValue_cases v
          · simp [ht, ho, hi]
          · simp [ho, hi, hk]
          · simp [ht, ho, hi, hk]
  exact .of_result result.1 result.2

theorem infinite_float {x : Float} : Infinite (.scalar (.float x)) ↔ truncate? x = none ∧ x == x := by
  constructor
  · rintro ⟨_, ⟨⟩, h⟩
    exact h
  · exact fun h => ⟨x, rfl, h⟩

/-- a count is read, or is infinite -/
theorem readCount_cases (v : Value) :
    (¬ Infinite v ∧ readCount v = .ok (count? v)) ∨
      (Infinite v ∧ ∃ e, readCount v = .error e ∧ e.kind = "OverflowError") := by
  have finite : (∀ x, v ≠ .scalar (.float x)) → ¬ Infinite v := by
    rintro h ⟨x, hx, -⟩
    exact h x hx
  cases v with
  | scalar x =>
    cases x with
    | float x =>
      rw [infinite_float]
      simp only [readCount, count?]
      cases truncate? x with
      | some n => exact .inl ⟨by simp, rfl⟩
      | none =>
        by_cases hnan : x == x
        · exact .inr ⟨⟨rfl, hnan⟩, _, if_pos hnan, rfl⟩
        · exact .inl ⟨fun h => hnan h.2, if_neg hnan⟩
    | text s =>
      refine .inl ⟨finite (by simp), ?_⟩
      simp only [readCount, count?]
      cases readInt s.toList <;> rfl
    | bool | int => exact .inl ⟨finite (by simp), rfl⟩
  | _ => exact .inl ⟨finite (by simp), rfl⟩

/-- the count of an entry is read, or is infinite -/
theorem countOf_cases (es : List (Value × Value)) :
    ((¬ ∃ c, Value.lookup "count" es = some c ∧ Infinite c) ∧ countOf es = .ok (entryCount? es)) ∨
      ((∃ c, Value.lookup "count" es = some c ∧ Infinite c) ∧
        ∃ e, countOf es = .error e ∧ e.kind = "OverflowError") := by
  unfold countOf entryCount?
  cases Value.lookup "count" es with
  | none => exact .inl ⟨by simp, rfl⟩
  | some c => simpa using readCount_cases c

theorem readEarned_forgives (v : Value) : Forgives (liftM (readEarned v)) (EarnedOverflows v) (earnedOf? v) := by
  have result : (¬ EarnedOverflows v → readEarned v = .ok (earnedOf? v)) ∧
      (EarnedOverflows v → ∃ p : Problem, readEarned v = .error p ∧ p.kind = "OverflowError") := by
    unfold readEarned earnedOf? EarnedOverflows
    cases v with
    | dict es =>
      obtain ⟨hc, hcount⟩ | ⟨hc, e, hcount, hk⟩ := countOf_cases es
      · simp only [hcount, bind, Except.bind, Value.dict.injEq, exists_eq_left', hc, false_or]
        cases entryCount? es with
        | none => simp
        | some n =>
          cases (Value.lookup "id" es).bind Value.text? with
          | none => simp
          | some id =>
            cases Value.lookup "lastEarned" es with
            | none => simp
            | some v =>
              obtain ⟨t, ht, ho, hi⟩ | ⟨ho, p, hi, hk⟩ | ⟨ht, ho, p, hi, hk⟩ := instantOfValue_cases v
              · simp [ht, ho, hi]
              · simp [ho, hi, hk]
              · simp [ht, ho, hi, hk]
      · simp [hcount, hc, hk, bind, Except.bind]
    | _ =>
      refine ⟨fun _ => rfl, ?_⟩
      rintro ⟨es, ⟨⟩, -⟩
  exact .of_result result.1 result.2

/-! ## Parts -/

/-- entry by entry: a part overflows when one of its entries does -/
theorem forgives_cons {a : Warned α} {ε : Type} {bad : ε → Prop} {e : ε} {es : List ε} {x : α}
    (h : a.Forgives (bad e ∨ ∃ e ∈ es, bad e) x) : a.Forgives (∃ f ∈ e :: es, bad f) x :=
  h.congr (by simp)

theorem partEntries_comesTo (raw : List (Value × Value)) (name : String) :
    (partEntries raw name).comesTo (.ok (entriesOf raw name)) := by
  unfold partEntries entriesOf
  match Value.lookup name raw with
  | none | some .null => exact comesTo_pure []
  | some (.dict es) => exact comesTo_pure es
  | some (.scalar _) | some (.list _) | some (.tuple _) | some (.set _) | some (.date _) | some (.moment _)
  | some (.bytes _) => exact (comesTo_warn _).bind (comesTo_pure [])

theorem readProps_comesTo (part : String) (p : Props) {es : List (Value × Value)} (hes : jsonEntries es) :
    (readProps part p es).comesTo (.ok (p.setAll (es.filterMap propertyOf?))) := by
  induction es generalizing p with
  | nil => exact comesTo_pure p
  | cons e es ih =>
    obtain ⟨k, v⟩ := e
    obtain ⟨⟨name, hk⟩, -, hs⟩ := jsonEntries_cons hes
    obtain rfl : k = .ofText name := hk
    refine (comesTo_ofExcept (.ok name)).bind ?_
    match v with
    | .scalar x => exact ih (p.set name x) hs
    | .null | .list _ | .tuple _ | .set _ | .dict _ | .date _ | .moment _ | .bytes _ =>
      exact (comesTo_warn _).bind (ih p hs)

theorem readWindows_forgives (w : Windows) (es : List (Value × Value)) :
    (readWindows w es).Forgives (∃ e ∈ es, WindowOverflows e)
      ((es.filterMap windowOf?).foldl (fun w e => w.set e.1 e.2) w) := by
  induction es generalizing w with
  | nil => exact (comesTo_pure w).forgives.congr (by simp)
  | cons e es ih =>
    rw [readWindows]
    refine forgives_cons ((readWindow_forgives e).bind ?_)
    cases h : windowOf? e with
    | none =>
      rw [List.filterMap_cons_none h]
      exact (comesTo_warn _).then (ih w)
    | some x =>
      rw [List.filterMap_cons_some h]
      exact ih (w.set x.1 x.2)

theorem readEarnedList_forgives (vs : List Value) :
    (readEarnedList vs).Forgives (∃ v ∈ vs, EarnedOverflows v) (vs.filterMap earnedOf?) := by
  induction vs with
  | nil => exact (comesTo_pure []).forgives.congr (by simp)
  | cons v vs ih =>
    rw [readEarnedList]
    refine forgives_cons ((readEarned_forgives v).bind ?_)
    cases h : earnedOf? v with
    | none =>
      rw [List.filterMap_cons_none h]
      exact (comesTo_warn _).then ih
    | some e =>
      rw [List.filterMap_cons_some h]
      exact ih.map fun es => e :: es

theorem warnings_comesTo (texts : List String) (f : String → String) :
    (texts.forM fun text => warn (f text)).comesTo (.ok ()) := by
  induction texts with
  | nil => exact comesTo_pure ()
  | cons text texts ih => exact (comesTo_warn (f text)).bind ih

theorem readLedger_forgives (raw : List (Value × Value)) :
    (readLedger raw).Forgives (∃ v ∈ itemsOf raw, EarnedOverflows v)
      (Ledger.ofEntries ((itemsOf raw).filterMap earnedOf?)).1 := by
  unfold readLedger itemsOf
  have made : ∀ es, (makeLedger es).comesTo (.ok (Ledger.ofEntries es).1) := fun es =>
    (warnings_comesTo (Ledger.ofEntries es).2 duplicateWarning).bind (comesTo_pure _)
  have reset : ∀ (c : Bool) text, Forgives (do
      if c then warn text
      return Ledger.empty) (∃ v ∈ ([] : List Value), EarnedOverflows v) Ledger.empty := by
    intro c text
    refine Forgives.congr (comesTo.forgives ?_) (by simp)
    cases c with
    | true => exact (comesTo_warn text).bind (comesTo_pure _)
    | false => exact comesTo_pure _
  match Value.lookup "earned" raw with
  | some (.list vs) => exact ((readEarnedList_forgives vs).bind (made _).forgives).congr (by rw [or_false])
  | none | some .null | some (.scalar _) | some (.dict _) | some (.tuple _) | some (.set _) | some (.date _)
  | some (.moment _) | some (.bytes _) => exact reset _ _

theorem readBookmarks_forgives (b : Bookmarks) (es : List (Value × Value)) :
    (readBookmarks b es).Forgives (∃ e ∈ es, OutOfRange e.2)
      ((es.filterMap bookmarkOf?).foldl (fun b e => b.set e.1 e.2) b) := by
  induction es generalizing b with
  | nil => exact (comesTo_pure b).forgives.congr (by simp)
  | cons e es ih =>
    obtain ⟨k, v⟩ := e
    rw [readBookmarks]
    refine forgives_cons ?_
    obtain ⟨t, ht, ho, hi⟩ | ⟨ho, p, hi, hk⟩ | ⟨ht, ho, p, hi, hk⟩ := instantOfValue_cases v
    · refine Forgives.congr ?_ (or_iff_right ho).symm
      cases hn : k.text? with
      | none =>
        simp only [hi]
        rw [List.filterMap_cons_none (by simp [bookmarkOf?, hn])]
        exact (comesTo_warn _).then (ih b)
      | some name =>
        have hb : bookmarkOf? (k, v) = some (name, t) := by simp [bookmarkOf?, hn, ht]
        simp only [hi]
        rw [List.filterMap_cons_some hb]
        exact ih (b.set name t)
    · simp only [hi, hk, if_true]
      exact ⟨fun hn => absurd (.inl ho) hn, fun _ => ⟨p, hk, comesTo_ofExcept (.error p)⟩⟩
    · refine Forgives.congr ?_ (or_iff_right ho).symm
      simp only [hi, if_neg hk]
      rw [List.filterMap_cons_none (by simp [bookmarkOf?, ht])]
      exact (comesTo_warn _).then (ih b)

/-! ## States -/

theorem stateEntries_dict (raw : List (Value × Value)) : stateEntries (.dict raw) = .ok raw := by
  cases raw <;> rfl

theorem jsonEntries_entriesOf {raw : List (Value × Value)} (h : jsonEntries raw) (part : String) :
    jsonEntries (entriesOf raw part) := by
  unfold entriesOf
  split
  case h_1 es he => simpa [Value.isJson] using isJson_lookup h he
  case h_2 => rfl

theorem ofValue_forgives {raw : List (Value × Value)} (h : jsonEntries raw) :
    (EngineState.ofValue (.dict raw)).Forgives (Overflows raw) (forgiven raw) := by
  have parts := jsonEntries_entriesOf h
  unfold EngineState.ofValue
  rw [stateEntries_dict]
  refine (comesTo_ofExcept (.ok raw)).then ?_
  refine (partEntries_comesTo raw "props").then ((readProps_comesTo _ {} (parts _)).then ?_)
  refine (partEntries_comesTo raw "systemProps").then ((readProps_comesTo _ {} (parts _)).then ?_)
  refine (partEntries_comesTo raw "periods").then ((readWindows_forgives .initial _).bind ?_)
  refine (readLedger_forgives raw).bind ((partEntries_comesTo raw "bookmarks").then ?_)
  exact (readBookmarks_forgives {} _).map fun bookmarks => { forgiven raw with bookmarks }

/-- the entries of a state; null has none -/
def stateFields : Value → List (Value × Value)
  | .dict raw => raw
  | _ => []

/-- **Forgiving.** The reading of null or of a JSON object comes to the state that its entries tell, each that is wrong
left out, unless something overflows; then it fails with an overflow. -/
theorem read_forgiving {v : Value} (hj : v.isJson) (hv : v = .null ∨ ∃ raw, v = .dict raw) :
    (¬ Overflows (stateFields v) → (EngineState.ofValue v).answer.1 = .ok (forgiven (stateFields v))) ∧
      (Overflows (stateFields v) →
        ∃ e, (EngineState.ofValue v).answer.1 = .error e ∧ e.kind = "OverflowError") := by
  have read : (EngineState.ofValue v).Forgives (Overflows (stateFields v)) (forgiven (stateFields v)) := by
    rcases hv with rfl | ⟨raw, rfl⟩
    · have none : jsonEntries [] := rfl
      exact ofValue_forgives none
    · exact ofValue_forgives (by simpa [Value.isJson] using hj)
  refine ⟨fun hn => (read.good hn).answer, fun hb => ?_⟩
  obtain ⟨e, he, h⟩ := read.bad hb
  exact ⟨e, h.answer, he⟩

/-- a state in which most is wrong -/
def untidy : Value := .dict [
  (.ofText "bookmarks", .dict [(.ofText "now", .ofText "2022-07-04T15:30:00Z"), (.ofText "soon", .ofText "soon")]),
  (.ofText "earned", .list [.ofInt 7, .dict [(.ofText "id", .ofText "a")],
    .dict [(.ofText "count", .ofInt (-2)), (.ofText "id", .ofText "b"), (.ofText "lastEarned", .ofText "2022-07-04")]]),
  (.ofText "periods", .dict [(.ofText "EON", .null), (.ofText "day", .list [.null])]),
  (.ofText "props", .dict [(.ofText "bag", .list []), (.ofText "coins", .ofInt 5)]),
  (.ofText "systemProps", .ofInt 3), (.ofText "unknown", .ofBool true)]

theorem untidy_read :
    untidy.isJson ∧ ¬ Overflows (stateFields untidy) ∧
      (EngineState.ofValue untidy).answer.1 = .ok (forgiven (stateFields untidy)) ∧
      (forgiven (stateFields untidy)).props.names = ["coins"] ∧
      (forgiven (stateFields untidy)).ledger.entries.map (fun e => (e.id, e.count)) = [("b", 1)] ∧
      (forgiven (stateFields untidy)).bookmarks.entries.map Prod.fst = ["now"] := by
  have json : untidy.isJson := by decide +kernel
  obtain ⟨good, bad⟩ := read_forgiving json (.inr ⟨_, rfl⟩)
  have fine : ¬ Overflows (stateFields untidy) := by
    have ok : (EngineState.ofValue untidy).answer.1.isOk := by decide +kernel
    intro hb
    obtain ⟨e, he, -⟩ := bad hb
    rw [he] at ok
    cases ok
  exact ⟨json, fine, good fine, by decide +kernel⟩

/-- a state with a property, and a bookmark before the year 1 in UTC -/
def dawn : Value := .dict [
  (.ofText "bookmarks", .dict [(.ofText "dawn", .ofText "0001-01-01T00:00:00+01:00")]),
  (.ofText "props", .dict [(.ofText "coins", .ofInt 5)])]

theorem dawn_unread :
    dawn.isJson ∧ ∃ e, (EngineState.ofValue dawn).answer.1 = .error e ∧ e.kind = "OverflowError" :=
  ⟨by decide, _, rfl, rfl⟩

end BadgeEngine
