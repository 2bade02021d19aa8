/-
States are read back as they were written (`ofValue_toValue`): properties, system properties, windows, ledger and
bookmarks, each in its order, and without a warning.

This asks of a state what every engine keeps to (`Orderly`): no name and no id comes twice, and every count is at
least 1. A reading `gives` an answer when it comes to it without a warning, whatever warnings came before; the reading
of a state is put together from those of its parts.
-/
import BadgeEngine.Proofs.Entries
import BadgeEngine.Proofs.InstantText
import BadgeEngine.Proofs.Ledger
import BadgeEngine.Proofs.Windows
import BadgeEngine.State

namespace BadgeEngine

open BadgeEngine.Time

variable {α β : Type}

/-! ## Readings without warnings -/

/-- a reading comes to an answer, and gives no warning on the way -/
def Warned.gives (a : Warned α) (x : α) : Prop := ∀ log, a.run.run log = (.ok x, log)

namespace Warned

theorem gives_pure (x : α) : gives (pure x) x := fun _ => rfl

theorem gives_ofExcept (x : α) : gives (liftM (.ok x : Except Problem α)) x := fun _ => rfl

/-- a reading followed by another goes on with its answer and its warnings -/
theorem run_bind (a : Warned α) (f : α → Warned β) (log : List String) :
    (a >>= f).run.run log = match a.run.run log with
      | (.ok x, log) => (f x).run.run log
      | (.error e, log) => (.error e, log) := by
  simp only [ExceptT.run, Bind.bind, ExceptT.bind, ExceptT.mk, StateT.run, StateT.bind]
  rcases (a : StateM (List String) _) log with ⟨_ | _, log'⟩ <;> rfl

theorem gives.bind {a : Warned α} {f : α → Warned β} {x : α} {y : β} (ha : a.gives x) (hf : (f x).gives y) :
    gives (a >>= f) y := by
  intro log
  rw [run_bind, ha log]
  exact hf log

theorem gives.answer {a : Warned α} {x : α} (h : a.gives x) : a.answer = (.ok x, []) := h []

end Warned

open Warned

/-! ## Properties -/

namespace Props

theorem toEntries_cons (n : String) (x : Scalar) (es : List (String × Scalar)) :
    toEntries ⟨(n, x) :: es⟩ = (.ofText n, .scalar x) :: toEntries ⟨es⟩ := rfl

end Props

theorem readProps_gives (part : String) (p : Props) (es : List (String × Scalar)) :
    (readProps part p (Props.toEntries ⟨es⟩)).gives ⟨es.foldl (fun es e => Entries.put e.1 e.2 es) p.entries⟩ := by
  induction es generalizing p with
  | nil => exact gives_pure p
  | cons e es ih =>
    obtain ⟨n, x⟩ := e
    rw [Props.toEntries_cons, List.foldl_cons]
    exact (gives_ofExcept n).bind (ih (p.set n x))

/-- properties with distinct names are read back -/
theorem readProps_toEntries (part : String) {p : Props} (hp : Entries.Distinct p.entries) :
    (readProps part {} p.toEntries).gives p := by
  have hf : p.entries.foldl (fun es e => Entries.put e.1 e.2 es) [] = p.entries := @Entries.foldl_put _ [] _ hp
  have h := readProps_gives part {} p.entries
  rw [hf] at h
  exact h

/-! ## Instants -/

theorem instantOfValue_text (t : Instant) : instantOfValue (.ofText (instantText t)) = .ok t := by
  simp only [instantOfValue, instantOfText, readInstant_instantText]

/-! ## Windows -/

theorem Period.mem_all (p : Period) : p ∈ Period.all := by
  rcases p with _ | (_ | _ | _ | _ | _) | (_ | _) <;> decide

theorem Period.ofAnyCase?_name (p : Period) : Period.ofAnyCase? p.name = some p := by
  have h : ∀ p ∈ Period.all, Period.ofAnyCase? p.name = some p := by decide +kernel
  exact h p p.mem_all

theorem readWindow_gives (p : Period) (x : Window) :
    readWindow (.ofText p.name)
      (.dict [(.ofText "key", .ofText x.key), (.ofText "lastTimestamp", .ofText (instantText x.since))]) =
      .ok (some (p, x)) := by
  have hname : (Value.ofText p.name).text?.bind Period.ofAnyCase? = some p := p.ofAnyCase?_name
  have hkey : (entryOf? (.dict [(.ofText "key", .ofText x.key),
      (.ofText "lastTimestamp", .ofText (instantText x.since))]) "key").bind Value.text? = some x.key := rfl
  have hstamp : entryOf? (.dict [(.ofText "key", .ofText x.key),
      (.ofText "lastTimestamp", .ofText (instantText x.since))]) "lastTimestamp" =
        some (.ofText (instantText x.since)) := rfl
  unfold readWindow
  simp only [hname, hkey, hstamp, instantOfValue_text]

theorem readWindows_gives (ps : List Period) (w v : Windows) :
    (readWindows v (ps.map fun p => (.ofText p.name, .dict [(.ofText "key", .ofText (w.get p).key),
      (.ofText "lastTimestamp", .ofText (instantText (w.get p).since))]))).gives
        (ps.foldl (fun v p => v.set p (w.get p)) v) := by
  induction ps generalizing v with
  | nil => exact gives_pure v
  | cons p ps ih =>
    rw [List.map_cons, readWindows, readWindow_gives, List.foldl_cons]
    exact (gives_ofExcept _).bind (ih (v.set p (w.get p)))

theorem foldl_set_get (ps : List Period) (w v : Windows) (q : Period) :
    (ps.foldl (fun v p => v.set p (w.get p)) v).get q = if q ∈ ps then w.get q else v.get q := by
  induction ps generalizing v with
  | nil => rfl
  | cons p ps ih =>
    rw [List.foldl_cons, ih]
    by_cases hq : q = p
    · simp [hq]
    · simp [hq, Windows.get_set_of_ne hq]

/-- windows are read back -/
theorem readWindows_toEntries (w : Windows) : (readWindows .initial w.toEntries).gives w := by
  have hw : Period.all.foldl (fun v p => v.set p (w.get p)) .initial = w :=
    Windows.ext_get fun q => (foldl_set_get _ w _ q).trans (if_pos q.mem_all)
  have h := readWindows_gives Period.all w .initial
  rw [hw] at h
  unfold Windows.toEntries
  exact h

/-! ## Ledgers -/

namespace Ledger

/-- no id comes twice -/
def Distinct (es : List Earned) : Prop := (es.map (·.id)).Nodup

/-- no id comes twice, and every count is at least 1 -/
structure Orderly (l : Ledger) : Prop where
  distinct : Distinct l.entries
  counts : ∀ e ∈ l.entries, 1 ≤ e.count

/-- entries with distinct ids are all taken up -/
theorem foldl_takeUp {l : Ledger} {fs : List Earned} (h : Distinct (l.entries ++ fs)) :
    ∃ l', l'.entries = l.entries ++ fs ∧ fs.foldl takeUp (l, []) = (l', []) := by
  induction fs generalizing l with
  | nil => exact ⟨l, (List.append_nil _).symm, rfl⟩
  | cons f fs ih =>
    have hf : f.id ∉ l.entries.map (·.id) := fun hm => by
      rw [Distinct, List.map_append, List.map_cons] at h
      exact List.disjoint_of_nodup_append h hm List.mem_cons_self
    obtain ⟨l', hl', htake⟩ := takeUp_new hf []
    have hs : l.entries ++ f :: fs = l'.entries ++ fs := by rw [hl', List.append_assoc]; rfl
    rw [List.foldl_cons, htake, hs]
    exact ih (hs ▸ h)

theorem ofEntries_distinct {es : List Earned} (h : Distinct es) : ∃ l, l.entries = es ∧ ofEntries es = (l, []) := by
  obtain ⟨l, hl, hf⟩ := foldl_takeUp (l := empty) h
  refine ⟨l, hl, ?_⟩
  unfold ofEntries
  rw [hf]
  rfl

/-- a ledger is made of its entries again -/
theorem ofEntries_entries (l : Ledger) : ofEntries l.entries = (l, []) := by
  obtain ⟨l', hl', h⟩ := ofEntries_distinct l.distinct
  rw [h, ext hl']

end Ledger

theorem readEarned_gives {e : Earned} (he : 1 ≤ e.count) : readEarned e.toValue = .ok (some e) := by
  have hid : (Value.lookup "id" [(.ofText "id", .ofText e.id),
      (.ofText "lastEarned", .ofText (instantText e.lastEarned)), (.ofText "count", .ofInt e.count)]).bind
      Value.text? = some e.id := rfl
  have hstamp : Value.lookup "lastEarned" [(.ofText "id", .ofText e.id),
      (.ofText "lastEarned", .ofText (instantText e.lastEarned)), (.ofText "count", .ofInt e.count)] =
        some (.ofText (instantText e.lastEarned)) := rfl
  have hcount : countOf [(.ofText "id", .ofText e.id), (.ofText "lastEarned", .ofText (instantText e.lastEarned)),
      (.ofText "count", .ofInt e.count)] = .ok (some e.count) := rfl
  unfold readEarned Earned.toValue
  simp only [hcount, bind, Except.bind, hid, hstamp, instantOfValue_text, Int.max_eq_left he]

theorem readEarnedList_gives {es : List Earned} (h : ∀ e ∈ es, 1 ≤ e.count) :
    (readEarnedList (es.map Earned.toValue)).gives es := by
  induction es with
  | nil => exact gives_pure []
  | cons e es ih =>
    rw [List.map_cons, readEarnedList, readEarned_gives (h e List.mem_cons_self)]
    refine (gives_ofExcept _).bind ?_
    exact (ih fun f hf => h f (List.mem_cons_of_mem _ hf)).bind (gives_pure _)

/-! ## Bookmarks -/

theorem readBookmarks_gives (b : Bookmarks) (es : List (String × Instant)) :
    (readBookmarks b (es.map fun e => (.ofText e.1, .ofText (instantText e.2)))).gives
      ⟨es.foldl (fun es e => Entries.put e.1 e.2 es) b.entries⟩ := by
  induction es generalizing b with
  | nil => exact gives_pure b
  | cons e es ih =>
    have hn : (Value.ofText e.1).text? = some e.1 := rfl
    rw [List.map_cons, readBookmarks, List.foldl_cons]
    simp only [hn, instantOfValue_text]
    exact ih (b.set e.1 e.2)

/-- bookmarks with distinct names are read back -/
theorem readBookmarks_toEntries {b : Bookmarks} (hb : Entries.Distinct b.entries) :
    (readBookmarks {} (b.entries.map fun e => (.ofText e.1, .ofText (instantText e.2)))).gives b := by
  have hf : b.entries.foldl (fun es e => Entries.put e.1 e.2 es) [] = b.entries := @Entries.foldl_put _ [] _ hb
  have h := readBookmarks_gives {} b.entries
  rw [hf] at h
  exact h

/-! ## States -/

namespace EngineState

/-- no name and no id comes twice, and every count is at least 1 -/
structure Orderly (s : EngineState) : Prop where
  props : Entries.Distinct s.props.entries
  system : Entries.Distinct s.system.entries
  ledger : s.ledger.Orderly
  bookmarks : Entries.Distinct s.bookmarks.entries

def parts (s : EngineState) : List (Value × Value) :=
  [(.ofText "props", s.props.toValue), (.ofText "systemProps", s.system.toValue),
    (.ofText "periods", s.windows.toValue), (.ofText "earned", .list (s.ledger.entries.map Earned.toValue)),
    (.ofText "bookmarks", s.bookmarks.toValue)]

theorem partEntries_dict {raw es : List (Value × Value)} {name : String} (h : Value.lookup name raw = some (.dict es)) :
    (partEntries raw name).gives es := by
  unfold partEntries
  rw [h]
  exact gives_pure es

theorem readLedger_gives {s : EngineState} (h : s.ledger.Orderly) : (readLedger s.parts).gives s.ledger := by
  have hl : (Value.lookup "earned" s.parts).getD .null = .list (s.ledger.entries.map Earned.toValue) := rfl
  unfold readLedger
  dsimp only
  rw [hl]
  refine (readEarnedList_gives h.counts).bind ?_
  unfold makeLedger
  rw [Ledger.ofEntries_entries]
  exact gives_pure _

/-- **Save and read.** A state in order is read back as it was written, without a warning. -/
theorem ofValue_toValue {s : EngineState} (h : s.Orderly) : (ofValue s.toValue).gives s := by
  have hparts : stateEntries s.toValue = .ok s.parts := rfl
  unfold ofValue
  rw [hparts]
  refine (gives_ofExcept _).bind ?_
  refine (partEntries_dict rfl).bind ((readProps_toEntries _ h.props).bind ?_)
  refine (partEntries_dict rfl).bind ((readProps_toEntries _ h.system).bind ?_)
  refine (partEntries_dict rfl).bind ((readWindows_toEntries _).bind ?_)
  refine (readLedger_gives h.ledger).bind ?_
  refine (partEntries_dict rfl).bind ((readBookmarks_toEntries h.bookmarks).bind ?_)
  exact gives_pure _

end EngineState

end BadgeEngine
