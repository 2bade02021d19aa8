/-
Engines keep to order. Whatever a host does, and whatever state it loads, no name and no id comes twice in a state,
every count is at least 1, and every system property that an engine starts with has a value (`Reach.kept`). So a state
that is written can be read back (`Reach.reads_back`), also when it came from elsewhere.
-/
import BadgeEngine.Proofs.History
import BadgeEngine.Proofs.RoundTrip

namespace BadgeEngine

open BadgeEngine.Time Relation Run Setup

variable {σ α β : Type} {s : Setup σ} {w w' : World σ}

/-! ## What readings ensure -/

/-- what holds of the answer of a reading, if it comes to one -/
def Warned.ensures (a : Warned α) (P : α → Prop) : Prop := ∀ log x log', a.run.run log = (.ok x, log') → P x

namespace Warned

variable {P : α → Prop} {Q : β → Prop}

theorem ensures_pure {x : α} (h : P x) : ensures (pure x) P := by
  intro log y log' hy
  cases hy
  exact h

theorem ensures.bind {a : Warned α} {f : α → Warned β} (ha : a.ensures P) (hf : ∀ x, P x → (f x).ensures Q) :
    ensures (a >>= f) Q := by
  intro log y log' h
  rw [run_bind] at h
  rcases hx : a.run.run log with ⟨e | x, log₁⟩ <;> rw [hx] at h
  · cases h
  · exact hf x (ha log x log₁ hx) log₁ y log' h

theorem ensures_true (a : Warned α) : a.ensures fun _ => True := fun _ _ _ _ => trivial

/-- what a reading ensures after a step whose answer does not matter -/
theorem ensures.after {a : Warned α} {f : α → Warned β} (hf : ∀ x, (f x).ensures Q) : ensures (a >>= f) Q :=
  (ensures_true a).bind fun x _ => hf x

theorem ensures.answer {a : Warned α} (h : a.ensures P) {x : α} (hx : a.answer.1 = .ok x) : P x := by
  unfold Warned.answer at hx
  rcases hr : a.run.run [] with ⟨r, log⟩
  rw [hr] at hx
  exact h [] x log (hx ▸ hr)

end Warned

open Warned

theorem readProps_distinct (part : String) {p : Props} (hp : Entries.Distinct p.entries) (es : List (Value × Value)) :
    (readProps part p es).ensures fun q => Entries.Distinct q.entries := by
  induction es generalizing p with
  | nil => exact ensures_pure hp
  | cons e es ih =>
    unfold readProps
    refine ensures.after fun name => ?_
    cases hs : p.setValue name e.2 with
    | error => exact ensures.after fun _ => ih hp
    | ok q =>
      unfold Props.setValue at hs
      obtain ⟨x, -, hx⟩ := bind_ok hs
      cases hx
      exact ih (hp.put name x)

theorem readBookmarks_distinct {b : Bookmarks} (hb : Entries.Distinct b.entries) (es : List (Value × Value)) :
    (readBookmarks b es).ensures fun c => Entries.Distinct c.entries := by
  induction es generalizing b with
  | nil => exact ensures_pure hb
  | cons e es ih =>
    unfold readBookmarks
    split
    case h_1 name t _ _ => exact ih (hb.put name t)
    case h_2 e _ =>
      dsimp only
      split
      · exact ensures.after fun _ => ensures.after fun _ => ih hb
      · exact ensures.after fun _ => ih hb
    case h_3 => exact ensures.after fun _ => ih hb

theorem readEarned_count {v : Value} {e : Earned} (h : readEarned v = .ok (some e)) : 1 ≤ e.count := by
  unfold readEarned at h
  split at h
  · obtain ⟨count, -, h⟩ := bind_ok h
    split at h
    · split at h
      · cases h
        exact Int.le_max_right ..
      · split at h <;> cases h
    · cases h
  · cases h

theorem readEarnedList_counts (vs : List Value) : (readEarnedList vs).ensures fun es => ∀ e ∈ es, 1 ≤ e.count := by
  induction vs with
  | nil => exact ensures_pure nofun
  | cons v vs ih =>
    unfold readEarnedList
    refine ensures.bind (P := fun e => ∀ f, e = some f → 1 ≤ f.count) ?_ fun e he => ?_
    · intro log x log' h f hf
      cases hr : readEarned v with
      | error => rw [hr] at h; cases h
      | ok y =>
        rw [hr] at h
        cases h
        exact readEarned_count (hf ▸ hr)
    · cases e with
      | none => exact ensures.after fun _ => ih
      | some f =>
        refine ih.bind fun es hes => ensures_pure fun g hg => ?_
        rcases List.mem_cons.1 hg with rfl | hg
        · exact he g rfl
        · exact hes g hg

namespace Ledger

theorem foldl_takeUp_all {P : Earned → Prop} {p : Ledger × List String} (hp : ∀ e ∈ p.1.entries, P e)
    {es : List Earned} (hes : ∀ e ∈ es, P e) : ∀ e ∈ (es.foldl takeUp p).1.entries, P e := by
  induction es generalizing p with
  | nil => exact hp
  | cons e es ih =>
    obtain ⟨l, again⟩ := p
    rw [List.foldl_cons]
    refine ih ?_ fun f hf => hes f (List.mem_cons_of_mem _ hf)
    by_cases h : e.id ∈ l.entries.map (·.id)
    · rw [takeUp_old h]
      exact hp
    · obtain ⟨l', hl', htake⟩ := takeUp_new h again
      rw [htake, hl']
      intro f hf
      rcases List.mem_append.1 hf with hf | hf
      · exact hp f hf
      · rw [List.mem_singleton.1 hf]
        exact hes e List.mem_cons_self

theorem Orderly.empty : Orderly .empty := ⟨List.nodup_nil, nofun⟩

theorem ofEntries_orderly {es : List Earned} (h : ∀ e ∈ es, 1 ≤ e.count) : Orderly (ofEntries es).1 where
  distinct := (ofEntries es).1.distinct
  counts := foldl_takeUp_all (p := (.empty, [])) nofun h

end Ledger

theorem makeLedger_orderly {es : List Earned} (h : ∀ e ∈ es, 1 ≤ e.count) :
    (makeLedger es).ensures Ledger.Orderly := by
  unfold makeLedger
  exact ensures.after fun _ => ensures_pure (Ledger.ofEntries_orderly h)

theorem readLedger_orderly (raw : List (Value × Value)) : (readLedger raw).ensures Ledger.Orderly := by
  unfold readLedger
  dsimp only
  split
  · exact (readEarnedList_counts _).bind fun es hes => makeLedger_orderly hes
  · split
    · exact ensures.after fun _ => ensures_pure .empty
    · exact ensures_pure .empty

/-! ## States -/

namespace EngineState

theorem ofValue_orderly (v : Value) : (ofValue v).ensures Orderly := by
  unfold ofValue
  refine ensures.after fun raw => ensures.after fun ps => ?_
  refine (readProps_distinct "props" .nil ps).bind fun props hprops => ensures.after fun ss => ?_
  refine (readProps_distinct "systemProps" .nil ss).bind fun system hsystem => ensures.after fun ws => ?_
  refine ensures.after fun windows => (readLedger_orderly raw).bind fun ledger hledger => ensures.after fun bs => ?_
  refine (readBookmarks_distinct .nil bs).bind fun bookmarks hbookmarks => ensures_pure ?_
  exact ⟨hprops, hsystem, hledger, hbookmarks⟩

/-- every system property that an engine starts with has a value -/
def Prepared (s : EngineState) : Prop := ∀ d ∈ systemDefaults, d.1 ∈ s.system.entries.map (·.1)

theorem withDefaults_of_mem {p : Props} {es : List (String × Scalar)} (h : ∀ d ∈ es, d.1 ∈ p.entries.map (·.1)) :
    p.withDefaults es = p := by
  unfold Props.withDefaults
  induction es with
  | nil => rfl
  | cons d es ih =>
    have hd : p.contains d.1 = true := Entries.lookup_isSome_iff.2 (h d List.mem_cons_self)
    rw [List.foldl_cons, hd]
    exact ih fun d' hd' => h d' (List.mem_cons_of_mem _ hd')

theorem mem_withDefaults (p : Props) (es : List (String × Scalar)) (name : String) :
    name ∈ (p.withDefaults es).entries.map (·.1) ↔ name ∈ p.entries.map (·.1) ∨ name ∈ es.map (·.1) := by
  unfold Props.withDefaults
  induction es generalizing p with
  | nil => simp
  | cons d es ih =>
    rw [List.foldl_cons, ih, List.map_cons, List.mem_cons]
    split
    case isTrue h =>
      have hd : d.1 ∈ p.entries.map (·.1) := Entries.lookup_isSome_iff.1 h
      exact ⟨fun hn => hn.imp_right .inr, fun hn => hn.elim .inl fun hn => hn.elim (fun he => .inl (he ▸ hd)) .inr⟩
    case isFalse =>
      unfold Props.set
      rw [Entries.mem_names_put, or_assoc, or_left_comm]

/-- a state that has every default stays as it is -/
theorem Prepared.eq {s : EngineState} (h : s.Prepared) : s.prepared = s := by
  unfold prepared
  rw [withDefaults_of_mem h]

theorem prepared_prepared (s : EngineState) : s.prepared.Prepared := fun _ hd =>
  (mem_withDefaults _ _ _).2 (.inr (List.mem_map_of_mem hd))

theorem withDefaults_distinct {p : Props} (hp : Entries.Distinct p.entries) (es : List (String × Scalar)) :
    Entries.Distinct (p.withDefaults es).entries := by
  unfold Props.withDefaults
  induction es generalizing p with
  | nil => exact hp
  | cons d es ih =>
    rw [List.foldl_cons]
    split
    · exact ih hp
    · exact ih (hp.put d.1 d.2)

theorem Orderly.prepared {s : EngineState} (h : s.Orderly) : s.prepared.Orderly := by
  have hs := withDefaults_distinct h.system systemDefaults
  unfold EngineState.prepared
  exact ⟨h.props, hs, h.ledger, h.bookmarks⟩

/-- a state that an engine keeps to: in order, with every default -/
structure Kept (s : EngineState) : Prop where
  orderly : s.Orderly
  prepared : s.Prepared

theorem Kept.new : Kept .fresh where
  orderly := Orderly.prepared ⟨.nil, .nil, .empty, .nil⟩
  prepared := prepared_prepared {}

theorem Kept.withProps {s : EngineState} (h : s.Kept) {props : Props} (hp : Entries.Distinct props.entries) :
    Kept { s with props } :=
  { h with orderly := { h.orderly with props := hp } }

theorem Kept.withBookmarks {s : EngineState} (h : s.Kept) {bookmarks : Bookmarks}
    (hb : Entries.Distinct bookmarks.entries) : Kept { s with bookmarks } :=
  { h with orderly := { h.orderly with bookmarks := hb } }

theorem Kept.withLedger {s : EngineState} (h : s.Kept) {ledger : Ledger} (hl : ledger.Orderly) :
    Kept { s with ledger } :=
  { h with orderly := { h.orderly with ledger := hl } }

theorem Kept.set {s : EngineState} (h : s.Kept) (name : String) (x : Scalar) :
    Kept { s with system := s.system.set name x } where
  orderly := { h.orderly with system := h.orderly.system.put _ _ }
  prepared d hd := Entries.mem_names_put.2 (.inr (h.prepared d hd))

theorem Kept.setAll {s : EngineState} (h : s.Kept) (es : List (String × Scalar)) :
    Kept { s with system := s.system.setAll es } := by
  unfold Props.setAll
  induction es generalizing s with
  | nil => exact h
  | cons e es ih => exact ih (h.set e.1 e.2)

theorem Kept.withWindows {s : EngineState} (h : s.Kept) (windows : Windows) :
    Kept { s with windows } :=
  { h with orderly := { h.orderly with } }

end EngineState

/-! ## Moves -/

open EngineState

namespace Ledger

theorem mem_ids_put {e : Earned} {es : List Earned} {id : String} (h : id ∈ (put e es).map (·.id)) :
    id = e.id ∨ id ∈ es.map (·.id) := by
  obtain ⟨f, hf, rfl⟩ := List.mem_map.1 h
  exact (mem_put hf).imp (congrArg _) fun hm => List.mem_map_of_mem hm

theorem Distinct.put {es : List Earned} (h : Distinct es) (e : Earned) : Distinct (put e es) := by
  induction es with
  | nil => exact List.nodup_singleton _
  | cons f es ih =>
    unfold Distinct at h
    obtain ⟨hf, hs⟩ := List.nodup_cons.1 h
    unfold Distinct Ledger.put
    split
    case isTrue he =>
      rw [List.map_cons, ← he]
      exact h
    case isFalse he => exact List.nodup_cons.2 ⟨fun hm => (mem_ids_put hm).elim he hf, ih hs⟩

/-- a record keeps a ledger in order -/
theorem Orderly.record {l l' : Ledger} {r : Rule} {since now : Instant} {e : Earned} (h : l.Orderly)
    (hr : l.record r since now = (some e, l')) : l'.Orderly := by
  obtain ⟨rfl, he⟩ := record_earned hr
  refine ⟨(l.enter e).distinct, fun f hf => ?_⟩
  rcases mem_enter hf with rfl | hf
  · obtain ⟨-, rfl⟩ | ⟨old, ho, -, -, rfl⟩ := he
    · exact Int.le_refl 1
    · have := h.counts old (get?_mem ho)
      show 1 ≤ old.count + 1
      omega
  · exact h.counts f hf

end Ledger

theorem Write.apply_sets {q : Write} {p p' : Props} (h : q.apply p = .ok p') : ∃ name x, p' = p.set name x := by
  cases q with
  | set name v | subtract name v =>
    obtain ⟨x, -, hx⟩ := bind_ok h
    cases hx
    exact ⟨name, x, rfl⟩
  | add name v =>
    obtain ⟨x, hx⟩ := addValue_sets h
    exact ⟨name, x, hx⟩

theorem HookMove.kept (h : HookMove w w') (hw : w.engine.state.Kept) : w'.engine.state.Kept := by
  cases h with
  | wrote q props hq =>
    obtain ⟨name, x, rfl⟩ := Write.apply_sets hq
    exact hw.withProps (hw.orderly.props.put name x)
  | marked name t => exact hw.withBookmarks (hw.orderly.bookmarks.put name t)
  | cleared name => exact hw.withBookmarks (hw.orderly.bookmarks.remove name)
  | _ => exact hw

theorem Move.kept (h : Move s w w') (hw : w.engine.state.Kept) : w'.engine.state.Kept := by
  cases h with
  | rule h =>
    cases h with
    | hook h => exact h.kept hw
    | earned r hr t e l hl => exact hw.withLedger (hw.orderly.ledger.record hl)
    | _ => exact hw
  | system name x => exact hw.set name x
  | refreshed t l =>
    have hs := ((hw.setAll (w.engine.rolled.merge (w.engine.state.windows.refresh t l).2).toProps).setAll
      (calendarProps l)).withWindows (w.engine.state.windows.refresh t l).1
    simp only [World.refreshing, World.noting, World.withEngine, Engine.refresh]
    exact hs
  | counted a t ht n windows => exact (hw.set a.startsProp (.int n)).withWindows windows
  | entered | left => exact hw

/-! ## Loads -/

/-- a move of a request, or a state loaded -/
inductive Turn (s : Setup σ) : World σ → World σ → Prop where
  | moved {w w' : World σ} (h : Move s w w') : Turn s w w'
  | loaded (w : World σ) (v : Value) (st : EngineState) (h : (ofValue v).answer.1 = .ok st) :
      Turn s w (w.withState st.prepared)

/-- requests, one turn after another -/
abbrev Turns (s : Setup σ) : World σ → World σ → Prop := ReflTransGen (Turn s)

theorem Turn.kept (h : Turn s w w') (hw : w.engine.state.Kept) : w'.engine.state.Kept := by
  cases h with
  | moved h => exact h.kept hw
  | loaded v st h => exact ⟨((ofValue_orderly v).answer h).prepared, prepared_prepared st⟩

theorem Turns.kept (h : Turns s w w') (hw : w.engine.state.Kept) : w'.engine.state.Kept := by
  induction h with
  | refl => exact hw
  | tail _ h ih => exact h.kept ih

theorem Moves.turns (h : Moves s w w') : Turns s w w' :=
  ReflTransGen.mono (fun _ _ h => .moved h) _ _ h

theorem perform_load (v : Value) : (s.perform (.load v)).within (Busy (Turns s)) := by
  intro w
  simp only [perform, leads_bind, leads_ofWarned, leads_change]
  rcases hv : (ofValue v).answer with ⟨_ | st, texts⟩
  all_goals
    have hw : Turns s w (w.warning texts) := (warning_moves w texts).rules.moves.turns
    have he : (w.warning texts).engine = w.engine := w.warning_engine texts
  · exact fun hb => ⟨hw, he ▸ hb⟩
  · exact fun hb => ⟨hw.tail (.loaded _ v st (congrArg Prod.fst hv)), he ▸ hb⟩

theorem operation_turns (op : Operation) : (operation op (s.perform op)).within (Idle (Turns s)) := by
  cases hop : op.isLoad with
  | false => exact (operation_moves op hop).mono fun _ _ h => h.mono fun _ _ => Moves.turns
  | true =>
    cases op with
    | load v => exact operation_idle (fun w => .moved (.entered w _)) (fun w => .moved (.left w)) (perform_load v)
    | _ => cases hop

/-- every request is a chain of turns -/
theorem answer_turns (q : Request) : (s.answer q).within (Idle (Turns s)) :=
  answerWith_within Idle.refl Idle.trans (fun _ _ h => .single (.moved (.rule (.hook h))) h.busy) fun op _ =>
    operation_turns op

/-! ## Runs -/

/-- the worlds a host comes to by requests of any kind -/
abbrev Reached (s : Setup σ) : World σ → Prop := Reach s fun _ => True

theorem Reach.idle {may : Request → Prop} (hw : Reach s may w) : w.engine.busy = false := by
  induction hw with
  | new => rfl
  | host hw h ih => exact ih
  | asked hw q hq ih => exact (leads_const.1 (answer_turns q _) ih).2

/-- **Order.** In every world a host comes to, whatever it loads, the state is in order and has every default. -/
theorem Reach.kept {may : Request → Prop} (hw : Reach s may w) : w.engine.state.Kept := by
  induction hw with
  | new => exact .new
  | host hw h ih => exact ih
  | asked hw q hq ih => exact (leads_const.1 (answer_turns q _) (Reach.idle hw)).1.kept ih

/-- the state of an engine is read back as it was written -/
theorem Reach.reads_back {may : Request → Prop} (hw : Reach s may w) :
    (ofValue w.engine.state.toValue).gives w.engine.state :=
  ofValue_toValue hw.kept.orderly

end BadgeEngine
