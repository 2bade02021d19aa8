/-
Where stamps come from. A badge was last earned at an instant that the clock has shown since the state was new or was
loaded, or at one that the loaded state gives for a badge; and the global window stays as it began, or as the loaded
state has it (`SourcedSince`). So the questions that go back to the epoch leave out badges that were last earned before
it, and no others: all are answered just when neither the clock nor the loaded state is at fault
(`unset_goes_back_to_epoch`).
-/
import BadgeEngine.Proofs.Queries
import BadgeEngine.Proofs.SavedStarts
import BadgeEngine.Proofs.Tidying

namespace BadgeEngine

open BadgeEngine.Time Relation Run Setup

variable {σ : Type} {s : Setup σ} {u w w' : World σ} {b : Option Value} {v : Value}

/-! ## What a state gives that is read -/

namespace Value

/-- a state gives an instant as the one at which some badge was last earned -/
def Stamps (v : Value) (t : Instant) : Prop :=
  ∃ item ∈ itemsOf (stateFields v), ∃ e, readEarned item = .ok (some e) ∧ e.lastEarned = t

def Supplies (v : Value) (p : Period) : Prop :=
  ∃ e ∈ entriesOf (stateFields v) "periods", ∃ x, readWindow e.1 e.2 = .ok (some (p, x))

end Value

namespace Warned

variable {α : Type} {P : α → Prop}

theorem ensures_ofExcept {r : Except Problem α} (h : ∀ x, r = .ok x → P x) : ensures (liftM r) P := by
  intro log x log' hx
  cases r with
  | error e => cases hx
  | ok y =>
    cases hx
    exact h x rfl

theorem partEntries_ensures (raw : List (Value × Value)) (part : String) :
    (partEntries raw part).ensures fun es => es = entriesOf raw part := by
  unfold partEntries entriesOf
  cases hv : Value.lookup part raw with
  | none => exact ensures_pure rfl
  | some v =>
    cases v with
    | null | dict => exact ensures_pure rfl
    | _ => exact ensures.after fun _ => ensures_pure rfl

theorem readWindows_ensures {p : Period} {es : List (Value × Value)} (ws : Windows)
    (h : ∀ e ∈ es, ∀ x, readWindow e.1 e.2 ≠ .ok (some (p, x))) :
    (readWindows ws es).ensures fun ws' => ws'.get p = ws.get p := by
  induction es generalizing ws with
  | nil => exact ensures_pure rfl
  | cons e es ih =>
    obtain ⟨name, data⟩ := e
    obtain ⟨he, hes⟩ := List.forall_mem_cons.1 h
    unfold readWindows
    refine ensures.bind (P := fun r => readWindow name data = .ok r) (ensures_ofExcept fun _ hr => hr) fun r hr => ?_
    rcases r with _ | ⟨q, x⟩
    · exact ensures.after fun _ => ih ws hes
    · have other : p ≠ q := fun hp => he x (hp ▸ hr)
      have set : (ws.set q x).get p = ws.get p := Windows.get_set_of_ne other ws x
      exact set ▸ ih (ws.set q x) hes

theorem readEarnedList_ensures (vs : List Value) :
    (readEarnedList vs).ensures fun es => ∀ e ∈ es, ∃ v ∈ vs, readEarned v = .ok (some e) := by
  induction vs with
  | nil => exact ensures_pure nofun
  | cons v vs ih =>
    have later : (readEarnedList vs).ensures fun es => ∀ e ∈ es, ∃ u ∈ v :: vs, readEarned u = .ok (some e) :=
      fun log es log' h e he => (ih log es log' h e he).imp fun _ hu => ⟨List.mem_cons_of_mem _ hu.1, hu.2⟩
    unfold readEarnedList
    refine ensures.bind (P := fun r => readEarned v = .ok r) (ensures_ofExcept fun _ hr => hr) fun r hr => ?_
    cases r with
    | none => exact ensures.after fun _ => later
    | some f =>
      refine later.bind fun es hes => ensures_pure fun e he => ?_
      rcases List.mem_cons.1 he with rfl | he
      · exact ⟨v, List.mem_cons_self, hr⟩
      · exact hes e he

theorem readLedger_ensures (raw : List (Value × Value)) :
    (readLedger raw).ensures fun l => ∀ e ∈ l.entries, ∃ v ∈ itemsOf raw, readEarned v = .ok (some e) := by
  have made : ∀ es : List Earned, (makeLedger es).ensures fun l => ∀ e ∈ l.entries, e ∈ es := by
    intro es
    unfold makeLedger
    exact ensures.after fun _ => ensures_pure (Ledger.foldl_takeUp_all (p := (.empty, [])) nofun fun _ h => h)
  have empty : ∀ v : Value, (do
      if v.truthy then warn "State field 'earned' is not a list; resetting it"
      return .empty : Warned Ledger).ensures fun l => ∀ e ∈ l.entries, ∃ v ∈ itemsOf raw, readEarned v = .ok (some e) := by
    intro v
    split
    · exact ensures.after fun _ => ensures_pure nofun
    · exact ensures_pure nofun
  unfold readLedger
  cases hv : Value.lookup "earned" raw with
  | none => exact empty .null
  | some v =>
    cases v with
    | list vs =>
      have items : itemsOf raw = vs := by rw [itemsOf, hv]
      rw [items]
      exact (readEarnedList_ensures vs).bind fun es hes =>
        fun log l log' h e he => hes e (made es log l log' h e he)
    | _ => exact empty _

theorem ofValue_ensures (v : Value) : (EngineState.ofValue v).ensures fun st =>
    (∀ e ∈ st.ledger.entries, v.Stamps e.lastEarned) ∧ ∀ p, ¬ v.Supplies p → st.windows.get p = initialWindow p := by
  unfold EngineState.ofValue
  refine ensures.bind (P := fun raw => raw = stateFields v) (ensures_ofExcept fun _ => stateEntries_ok) ?_
  rintro raw rfl
  refine ensures.after fun _ => ensures.after fun _ => ensures.after fun _ => ensures.after fun _ => ?_
  refine (partEntries_ensures _ "periods").bind ?_
  rintro ws rfl
  have windows : (readWindows .initial (entriesOf (stateFields v) "periods")).ensures fun ws =>
      ∀ p, ¬ v.Supplies p → ws.get p = initialWindow p := by
    intro log ws log' h p hp
    have none : ∀ e ∈ entriesOf (stateFields v) "periods", ∀ x, readWindow e.1 e.2 ≠ .ok (some (p, x)) :=
      fun e he x hx => hp ⟨e, he, x, hx⟩
    rw [readWindows_ensures .initial none log ws log' h, Windows.initial_get]
  refine windows.bind fun ws hws => (readLedger_ensures _).bind fun l hl => ?_
  refine ensures.after fun _ => ensures.after fun _ => ?_
  exact ensures_pure ⟨fun e he => (hl e he).imp fun item hi => ⟨hi.1, e, hi.2, rfl⟩, hws⟩

end Warned

/-! ## Notes since a world -/

/-- a note taken since the world was another one -/
def TakenSince (u w : World σ) (x : Noted) : Prop := ∃ ns, w.trace = ns ++ u.trace ∧ x ∈ ns

def ShownSince (u w : World σ) (t : Instant) : Prop := ∃ x, TakenSince u w x ∧ x.shows t

/-- the state of an engine now, or at a note taken since -/
def StateSince (u w : World σ) (st : EngineState) : Prop :=
  st = w.engine.state ∨ ∃ x, TakenSince u w x ∧ st = x.engine.state

theorem TakenSince.mono {x : Noted} (h : TakenSince u w x) (hs : w.trace <:+ w'.trace) : TakenSince u w' x := by
  obtain ⟨ns, hns, hx⟩ := h
  obtain ⟨ms, hms⟩ := hs
  exact ⟨ms ++ ns, by rw [← hms, hns, List.append_assoc], List.mem_append_right _ hx⟩

theorem TakenSince.newest {x : Noted} {older : List Noted} (h : w.trace = x :: older) (hu : u.trace <:+ older) :
    TakenSince u w x := by
  obtain ⟨ns, rfl⟩ := hu
  exact ⟨x :: ns, h, List.mem_cons_self⟩

theorem ShownSince.mono {t : Instant} (h : ShownSince u w t) (hs : w.trace <:+ w'.trace) : ShownSince u w' t :=
  h.imp fun _ hx => ⟨hx.1.mono hs, hx.2⟩

/-- a note that is new at a step, or was taken before it -/
theorem TakenSince.split {x : Noted} {ns : List Noted} (h : TakenSince u w' x) (hu : u.trace <:+ w.trace)
    (hns : w'.trace = ns ++ w.trace) : x ∈ ns ∨ TakenSince u w x := by
  obtain ⟨ms, hms, hx⟩ := h
  obtain ⟨older, hold⟩ := hu
  have all : ms = ns ++ older := by
    have same : ms ++ u.trace = ns ++ older ++ u.trace := by rw [← hms, hns, ← hold, List.append_assoc]
    exact List.append_cancel_right same
  rcases List.mem_append.1 (all ▸ hx) with hx | hx
  · exact .inl hx
  · exact .inr ⟨older, hold.symm, hx⟩

/-! ## The invariant -/

/-- where a state has its stamps from, since a world that was new or had loaded a state -/
structure SourcedSince (b : Option Value) (u w : World σ) (st : EngineState) : Prop where
  earned : ∀ e ∈ st.ledger.entries, ShownSince u w e.lastEarned ∨ ∃ v, b = some v ∧ v.Stamps e.lastEarned
  global : (∀ v, b = some v → ¬ v.Supplies .global) → st.windows.get .global = initialWindow .global

/-- every state since a world has its stamps from there -/
structure Traced (b : Option Value) (u w : World σ) : Prop where
  later : u.trace <:+ w.trace
  states : ∀ st, StateSince u w st → SourcedSince b u w st

theorem SourcedSince.congr {st st' : EngineState} (h : SourcedSince b u w st) (hs : w.trace <:+ w'.trace)
    (hl : st'.ledger = st.ledger) (hg : st'.windows.get .global = st.windows.get .global) :
    SourcedSince b u w' st' where
  earned e he := (h.earned e (hl ▸ he)).imp_left fun ht => ht.mono hs
  global hb := hg.trans (h.global hb)

theorem SourcedSince.mono {st : EngineState} (h : SourcedSince b u w st) (hs : w.trace <:+ w'.trace) :
    SourcedSince b u w' st :=
  h.congr hs rfl rfl

/-- a badge is earned at an instant shown just before, or was last earned later than that -/
theorem SourcedSince.earning {r : Rule} {t : Instant} {e : Earned} {l : Ledger} (h : SourcedSince b u w w.engine.state)
    (hu : u.trace <:+ w.trace) (hs : w.trace <:+ (w.earning r t e l).trace)
    (hl : w.engine.state.ledger.record r (w.sinceOf r) t = (some e, l)) :
    SourcedSince b u (w.earning r t e l) (w.earning r t e l).engine.state where
  global := h.global
  earned f hf := by
    have read : ShownSince u (w.earning r t e l) t := by
      have shown := TakenSince.newest (w.matching_trace r.id t) (hu.trans (List.suffix_cons _ _))
      exact ⟨_, shown.mono (World.earning_trace w r t e l ▸ List.suffix_cons _ _), rfl⟩
    have old : ∀ f ∈ w.engine.state.ledger.entries,
        ShownSince u (w.earning r t e l) f.lastEarned ∨ ∃ v, b = some v ∧ v.Stamps f.lastEarned :=
      fun f hf => (h.earned f hf).imp_left fun ht => ht.mono hs
    obtain ⟨rfl, he⟩ := Ledger.record_earned hl
    have stamp : e.lastEarned = t ∨ ∃ last ∈ w.engine.state.ledger.entries, e.lastEarned = last.lastEarned := by
      rcases he with ⟨-, rfl⟩ | ⟨last, hlast, -, -, rfl⟩
      · exact .inl rfl
      · exact (Moment.later_eq t last.lastEarned).imp_right fun ht => ⟨last, Ledger.get?_mem hlast, ht⟩
    rcases Ledger.mem_enter hf with rfl | hf
    · rcases stamp with ht | ⟨last, hlast, ht⟩ <;> rw [ht]
      · exact .inl read
      · exact old last hlast
    · exact old f hf

/-- what one move makes of a state has its stamps from there, too -/
theorem SourcedSince.move (h : SourcedSince b u w w.engine.state) (hu : u.trace <:+ w.trace) (hm : Move s w w') :
    SourcedSince b u w' w'.engine.state := by
  have hs := hm.suffix
  cases hm.change with
  | still hwin hled _ => exact h.congr hs hled (by rw [hwin])
  | unread id e hw => subst hw; exact h.congr hs rfl rfl
  | held r hr t l hl hw => subst hw; exact h.congr hs rfl rfl
  | earned r hr t e l hl hw => subst hw; exact h.earning hu hs hl
  | refreshed t l ht hw =>
    subst hw
    exact h.congr hs (w.refreshing_ledger t l) (by rw [World.refreshing_windows, Windows.refresh_get])
  | counted a t ht n key hw =>
    subst hw
    have other : Period.global ≠ .counter a := nofun
    exact h.congr hs rfl (by rw [World.counting_windows, Windows.get_set_of_ne other])

theorem Traced.move (h : Traced b u w) (hm : Move s w w') : Traced b u w' where
  later := h.later.trans hm.suffix
  states := by
    have before := h.states _ (.inl rfl)
    have after := before.move h.later hm
    obtain ⟨ns, hns, tells⟩ := hm.notes
    rintro st (rfl | ⟨x, hx, rfl⟩)
    · exact after
    · rcases hx.split h.later hns with hx | hx
      · rcases tells x hx with he | he <;> rw [he]
        · exact before.mono hm.suffix
        · exact after
      · exact (h.states _ (.inr ⟨x, hx, rfl⟩)).mono hm.suffix

theorem Traced.moves (h : Traced b u w) (hm : Moves s w w') : Traced b u w' := by
  induction hm with
  | refl => exact h
  | tail _ hm ih => exact ih.move hm

/-! ## Loads -/

/-- a request that loads nothing: it does not ask to, or for what cannot be read -/
def Request.LoadsNothing (q : Request) : Prop :=
  ∀ v, q = .operate (.load v) → ∀ st, (EngineState.ofValue v).answer.1 ≠ .ok st

theorem perform_unread (hv : ∀ st, (EngineState.ofValue v).answer.1 ≠ .ok st) :
    (s.perform (.load v)).within (Busy (Moves s)) := by
  intro w
  simp only [perform, leads_bind, leads_ofWarned, leads_change]
  rcases hr : (EngineState.ofValue v).answer with ⟨e | st, texts⟩
  · exact fun hb => ⟨(warning_moves w texts).rules.moves, (w.warning_engine texts).symm ▸ hb⟩
  · exact absurd (congrArg Prod.fst hr) (hv st)

theorem answer_moves_of_loadsNothing {q : Request} (hq : q.LoadsNothing) : (s.answer q).within (Idle (Moves s)) := by
  cases hl : q.isLoad with
  | false => exact answer_moves hl
  | true =>
    obtain ⟨v, rfl⟩ : ∃ v, q = .operate (.load v) := by
      cases q with
      | operate op => cases op <;> first | exact ⟨_, rfl⟩ | cases hl
      | _ => cases hl
    exact operation_idle (.entered · _) .left (perform_unread (hq v rfl))

/-- a load comes to an end just when the state can be read, which is in place then -/
theorem load_leads (v : Value) (hb : w.engine.busy = false) :
    (s.answer (.operate (.load v))).leads w
      (fun a w' => a = .done ∧ w'.engine.busy = false ∧
        ∃ st, (EngineState.ofValue v).answer.1 = .ok st ∧ w'.engine.state = st.prepared)
      (fun _ _ => ∀ st, (EngineState.ofValue v).answer.1 ≠ .ok st) := by
  unfold answer answerWith operation
  simp only [leads_bind, leads_engine, hb, Bool.false_eq_true, if_false, leads_pure, leads_changeEngine, leads_ensuring,
    perform, leads_ofWarned, leads_change]
  rcases hr : (EngineState.ofValue v).answer with ⟨e | st, texts⟩
  · intro st h
    cases h
  · exact ⟨rfl, rfl, st, rfl, rfl⟩

theorem load_done {st : EngineState} (hst : (EngineState.ofValue v).answer.1 = .ok st) (hb : w.engine.busy = false) :
    ∃ u, (s.answer (.operate (.load v))).exec w = (.ok .done, u) := by
  obtain ⟨done, fails⟩ := leads_iff.1 (load_leads (s := s) v hb)
  rcases hx : (s.answer (.operate (.load v))).exec w with ⟨e | a, u⟩
  · rw [hx] at fails
    exact absurd hst (fails e rfl st)
  · rw [hx] at done
    exact ⟨u, by rw [(done a rfl).1]⟩

/-- a world at a beginning: its engine is new, or has just loaded a state -/
inductive Begins (s : Setup σ) : Option Value → World σ → Prop where
  | new (h : σ) : Begins s none { host := h }
  | loaded {w u : World σ} (hw : Reached s w) {v : Value}
      (h : (s.answer (.operate (.load v))).exec w = (.ok .done, u)) : Begins s (some v) u

/-- the worlds a host comes to from a beginning, without loading another state -/
abbrev Continues (s : Setup σ) : World σ → World σ → Prop := Ahead s Request.LoadsNothing

/-- whatever a host comes to goes back to the last beginning -/
theorem Reached.begins (hw : Reached s w) : ∃ b u, Begins s b u ∧ Continues s u w := by
  induction hw with
  | new h => exact ⟨none, _, .new h, .here⟩
  | host hw h ih =>
    obtain ⟨b, u, hu, ho⟩ := ih
    exact ⟨b, u, hu, .host ho h⟩
  | @asked w hw q hq ih =>
    obtain ⟨b, u, hu, ho⟩ := ih
    by_cases hl : q.LoadsNothing
    · exact ⟨b, u, hu, .asked ho q hl⟩
    · obtain ⟨v, hv⟩ := not_forall.1 hl
      obtain ⟨rfl, hread⟩ := Classical.not_imp.1 hv
      obtain ⟨st, hst⟩ := not_forall_not.1 hread
      obtain ⟨u, hu⟩ := load_done (s := s) hst hw.idle
      exact ⟨some v, u, .loaded hw hu, hu ▸ .here⟩

/-! ## Runs -/

theorem Begins.traced (hu : Begins s b u) : Traced b u u ∧ u.engine.busy = false := by
  -- no note was taken yet, so there is only the state it begins with
  have only : SourcedSince b u u u.engine.state → Traced b u u := by
    refine fun h => ⟨List.suffix_rfl, ?_⟩
    rintro st (rfl | ⟨x, ⟨ns, hns, hx⟩, -⟩)
    · exact h
    · cases List.append_left_eq_self.1 hns.symm
      cases hx
  cases hu with
  | new h => exact ⟨only ⟨fun e he => absurd he List.not_mem_nil, fun _ => Windows.initial_get .global⟩, rfl⟩
  | @loaded w _ hw v h =>
    have done := (leads_iff.1 (load_leads (s := s) v hw.idle)).1
    rw [h] at done
    obtain ⟨-, idle, st, hst, he⟩ := done .done rfl
    obtain ⟨stamps, windows⟩ := (Warned.ofValue_ensures v).answer hst
    -- what a load fills in are system properties
    have ledger : st.prepared.ledger = st.ledger := by unfold EngineState.prepared; rfl
    have kept : st.prepared.windows = st.windows := by unfold EngineState.prepared; rfl
    refine ⟨only ⟨fun e hm => .inr ⟨v, rfl, stamps e ?_⟩, fun hb => ?_⟩, idle⟩
    · rwa [he, ledger] at hm
    · rw [he, kept, windows .global (hb v rfl)]

theorem Continues.traced (hw : Continues s u w) (hu : Traced b u u) (hb : u.engine.busy = false) :
    Traced b u w ∧ w.engine.busy = false := by
  induction hw with
  | here => exact ⟨hu, hb⟩
  | host h x ih => exact ⟨ih.1.move (s := s) (.rule (.hook (.host _ x))), ih.2⟩
  | asked h q hq ih =>
    obtain ⟨moves, idle⟩ := leads_const.1 (answer_moves_of_loadsNothing (s := s) hq _) ih.2
    exact ⟨ih.1.moves moves, idle⟩

/-- **What is not set goes back to the epoch.** Whatever a host comes to goes back to an engine that is new or has just
loaded a state. From there on, what is answered for a bookmark that is not set, and for the global period unless the
loaded state gives it a window, are the badges last earned at the epoch or later. They are all badges just if none was
last earned before; and each was last earned at an instant that the clock has shown since, or that the loaded state
gives for a badge. So they are all as long as no such instant lies before the epoch. -/
theorem unset_goes_back_to_epoch (s : Setup σ) :
    (∀ w, Reached s w → ∃ b u, Begins s b u ∧ Continues s u w) ∧
    ∀ b u w st, Begins s b u → Continues s u w → StateSince u w st →
      (∀ name, st.bookmarks.get? name = none → st.earnedSinceBookmark name = st.ledger.since epoch) ∧
      ((∀ v, b = some v → ¬ v.Supplies .global) →
        ∀ v, v.period? = some .global → st.earnedIn v = .ok (st.ledger.since epoch)) ∧
      (st.ledger.since epoch = st.ledger.entries ↔ ∀ e ∈ st.ledger.entries, epoch ≤ e.lastEarned) ∧
      (∀ e ∈ st.ledger.entries, ShownSince u w e.lastEarned ∨ ∃ v, b = some v ∧ v.Stamps e.lastEarned) ∧
      ((∀ t, ShownSince u w t → epoch ≤ t) → (∀ v t, b = some v → v.Stamps t → epoch ≤ t) →
        st.ledger.since epoch = st.ledger.entries) := by
  refine ⟨fun w hw => hw.begins, fun b u w st hu hw hst => ?_⟩
  obtain ⟨begun, idle⟩ := hu.traced
  have sourced := (hw.traced begun idle).1.states st hst
  have whole : st.ledger.since epoch = st.ledger.entries ↔ ∀ e ∈ st.ledger.entries, epoch ≤ e.lastEarned := by
    simp only [Ledger.since, List.filter_eq_self, decide_eq_true_iff]
  refine ⟨fun name hn => ?_, fun hb v hv => ?_, whole, sourced.earned, fun shown stamped => whole.2 fun e he => ?_⟩
  · rw [EngineState.earnedSinceBookmark, hn, Option.getD_none]
  · rw [earnedIn_of_period hv, sourced.global hb]
    rfl
  · rcases sourced.earned e he with ht | ⟨v, hv, ht⟩
    · exact shown _ ht
    · exact stamped v _ hv ht

/-- a time before the epoch: 1969-07-20T20:17 -/
def landing : Moment := ⟨62121413820000000, by decide⟩

/-- a state with a badge that was last earned then -/
def landedState : Value := .dict [(.ofText "earned",
  .list [.dict [(.ofText "id", .ofText "a"), (.ofText "lastEarned", .ofText "1969-07-20T20:17:00Z")]])]

def landed : World (List Moment) :=
  (((clockwork sessionRule).answer (.operate (.load landedState))).exec { host := [july 930, july 931] }).2

/-- such an engine, when another badge was earned -/
def landedLater : World (List Moment) := World.after (clockwork sessionRule) landed [.operate .evaluate]

/-- neither a bookmark that is not set nor the global period tells of the badge that came with the state -/
theorem landed_unset :
    (landedLater.engine.state.ledger.entries.map (·.id) = ["a", "s"] ∧
      landedLater.engine.state.earnedSinceBookmark "x" = landedLater.engine.state.ledger.since epoch ∧
      landedLater.engine.state.earnedIn (.ofText "Global") = .ok (landedLater.engine.state.ledger.since epoch)) ∧
    (landedLater.engine.state.ledger.since epoch).map (·.id) = ["s"] ∧
    ∀ e ∈ landedLater.engine.state.ledger.entries, ShownSince landed landedLater e.lastEarned ∨
      ∃ v, some landedState = some v ∧ v.Stamps e.lastEarned := by
  have read : (EngineState.ofValue landedState).answer.1.toBool = true := by decide +kernel
  obtain ⟨st, hst⟩ : ∃ st, (EngineState.ofValue landedState).answer.1 = .ok st := by
    cases h : (EngineState.ofValue landedState).answer.1 with
    | ok st => exact ⟨st, rfl⟩
    | error e => rw [h] at read; cases read
  have new : Reached (clockwork sessionRule) { host := [july 930, july 931] } := .new _
  obtain ⟨u, hu⟩ := load_done (s := clockwork sessionRule) hst new.idle
  have begins : Begins (clockwork sessionRule) (some landedState) landed := by
    unfold landed
    rw [hu]
    exact .loaded new hu
  have continues : Continues (clockwork sessionRule) landed landedLater := .asked .here (.operate .evaluate) nofun
  obtain ⟨unset, global, -, sources, -⟩ :=
    (unset_goes_back_to_epoch (clockwork sessionRule)).2 _ _ _ _ begins continues (.inl rfl)
  have no_window : ∀ v, some landedState = some v → ¬ v.Supplies .global := by
    rintro v ⟨⟩ ⟨e, he, -⟩
    exact absurd he List.not_mem_nil
  refine ⟨⟨by decide +kernel, unset "x" (by decide +kernel), global no_window _ (by decide +kernel)⟩, ?_, sources⟩
  decide +kernel

/-- an engine that earns a badge before the epoch, by its clock -/
def earlyBadge : World (List Moment) :=
  World.after (clockwork { id := "a", condition := "true" }) { host := [landing, landing] } [.operate .evaluate]

/-- no state was loaded and no bookmark is set, and the badge is left out of both answers -/
theorem early_left_out : Reached (clockwork { id := "a", condition := "true" }) earlyBadge ∧
    earlyBadge.engine.state.bookmarks.get? "x" = none ∧
    earlyBadge.engine.state.ledger.entries.map (·.id) = ["a"] ∧
    earlyBadge.engine.state.earnedSinceBookmark "x" = [] ∧
    earlyBadge.engine.state.earnedIn (.ofText "GLOBAL") = .ok [] := by
  have reached : Reached (clockwork { id := "a", condition := "true" }) earlyBadge :=
    Reach.after (.new _) fun _ _ => trivial
  have global : earlyBadge.engine.state.earnedIn (.ofText "GLOBAL") =
      .ok (earlyBadge.engine.state.ledger.since (earlyBadge.engine.state.windows.get .global).since) :=
    earnedIn_of_period (by decide +kernel)
  have none_later :
      (earlyBadge.engine.state.ledger.since (earlyBadge.engine.state.windows.get .global).since).isEmpty = true := by
    decide +kernel
  have none_marked : (earlyBadge.engine.state.earnedSinceBookmark "x").isEmpty = true := by decide +kernel
  exact ⟨reached, by decide +kernel, by decide +kernel, List.isEmpty_iff.1 none_marked,
    global.trans (congrArg _ (List.isEmpty_iff.1 none_later))⟩

end BadgeEngine
