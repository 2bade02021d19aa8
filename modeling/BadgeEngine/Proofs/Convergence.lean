/-
Evaluating again and again while the clock stands still. No hook is installed, and what judging a condition comes to, be
it a verdict or a failure, is told by what the condition can see (`Determined`). Then an evaluation is a function of the
state (`evalState`). A second one finds no window to begin and no flag to set, so from then on only entries change the
state. Whatever conditions ask for, an entry closes the gate of its rule for good (`Spent`): each active rule makes one
entry at most, and the first evaluation after the first that makes none is followed by others like it.

Result: `evaluations_converge`: with n active rules, all evaluations from the (n+2)-th on come to the same, award
nothing and leave the same state. The bound is met by rules that wait for each other (`chain_converges`).
-/
import Mathlib.Data.List.Perm.Subperm
import BadgeEngine.Proofs.Outline
import BadgeEngine.Proofs.Repetition
import BadgeEngine.Proofs.Reload
import BadgeEngine.Proofs.Rollovers

namespace BadgeEngine

open BadgeEngine.Time Run Setup Ledger

variable {σ : Type} {s s₀ : Setup σ} {u v w w' : World σ} {t : Instant} {l : Moment} {st : EngineState} {r : Rule}
  {rules : List Rule} {es fs : List Earned} {f : Context → String → Except Problem (Except String Bool)}

/-! ## Refreshes of what was refreshed -/

theorem Entries.put_of_lookup {α : Type} {name : String} {x : α} {es : List (String × α)}
    (h : es.lookup name = some x) : Entries.put name x es = es := by
  induction es with
  | nil => cases h
  | cons e es ih =>
    obtain ⟨n, y⟩ := e
    rw [List.lookup_cons] at h
    unfold Entries.put
    by_cases hn : n = name
    · subst hn
      obtain rfl : y = x := by simpa using h
      exact if_pos rfl
    · rw [if_neg hn, ih (by simpa [beq_eq_false_iff_ne.2 (Ne.symm hn)] using h)]

/-- setting values that stand there already changes nothing -/
theorem Props.setAll_of_get? {p : Props} {es : List (String × Scalar)} (h : ∀ e ∈ es, p.get? e.1 = some e.2) :
    p.setAll es = p := by
  induction es with
  | nil => rfl
  | cons e es ih =>
    have first : p.set e.1 e.2 = p := congrArg Props.mk (Entries.put_of_lookup (h e List.mem_cons_self))
    show (p.set e.1 e.2).setAll es = p
    rw [first]
    exact ih fun e he => h e (List.mem_cons_of_mem _ he)

/-- a state refreshed at an instant with its local time, at the beginning of an operation -/
def EngineState.refreshed (st : EngineState) (t : Instant) (l : Moment) : EngineState :=
  (({ state := st } : Engine).refresh t l).1.state

attribute [local irreducible] Windows.refresh

theorem EngineState.refreshed_windows (st : EngineState) (t : Instant) (l : Moment) :
    (st.refreshed t l).windows = (st.windows.refresh t l).1 := by
  simp only [refreshed, Engine.refresh]

theorem InTime.not_stale {g : Rollover} (h : InTime l g st) (c : CalendarPeriod) : st.windows.isStale l c = false := by
  simp [Windows.isStale, h.keys c]

/-- no window begins when a state that shows a local time is refreshed at it -/
theorem InTime.windows {g : Rollover} (h : InTime l g st) : (st.windows.refresh t l).1 = st.windows := by
  refine Windows.ext_get fun p => ?_
  rw [Windows.refresh_get]
  cases p with
  | calendar c => simp [h.not_stale c]
  | _ => rfl

/-- a state that shows a local time and no rollover is refreshed already -/
theorem InTime.refreshed (h : InTime l {} st) : st.refreshed t l = st := by
  have none : (st.windows.refresh t l).2 = {} := Rollover.eq_empty fun c => by rw [Windows.refresh_rolled, h.not_stale]
  have system : (st.system.setAll (Rollover.toProps {})).setAll (calendarProps l) = st.system := by
    rw [Props.setAll_of_get? h.flags, Props.setAll_of_get? h.calendar]
  unfold EngineState.refreshed Engine.refresh
  dsimp only
  rw [h.windows, none]
  exact congrArg (fun system => { st with system }) system

/-- nothing rolls over when a state that shows a local time is refreshed at it -/
theorem InTime.again {g : Rollover} (h : InTime l g st) : InTime l {} (st.refreshed t l) := by
  have shown := refresh_inTime { state := st } t l
  have none : (({ state := st } : Engine).refresh t l).1.rolled = {} := by
    refine Rollover.eq_empty fun c => ?_
    rw [Bool.eq_false_iff, Ne, refresh_rolled_get]
    rintro (h | hne)
    · cases c <;> cases h
    · exact hne (h.keys c).symm
  exact none ▸ shown

theorem EngineState.refreshed_inTime (st : EngineState) (t : Instant) (l : Moment) : ∃ g, InTime l g (st.refreshed t l) :=
  ⟨_, refresh_inTime { state := st } t l⟩

theorem EngineState.refreshed_ledger (st : EngineState) (t : Instant) (l : Moment) :
    (st.refreshed t l).ledger = st.ledger := by
  simp only [refreshed, Engine.refresh]

/-! ## Evaluations of a state -/

/-- a state with entries put into its ledger -/
def EngineState.putting (st : EngineState) (es : List Earned) : EngineState :=
  { st with ledger := enterAll es st.ledger }

section

variable (f : Context → String → Except Problem (Except String Bool)) (t : Instant)

/-- the entry that considering a rule makes, if any, unless judging its condition fails -/
def EngineState.award? (st : EngineState) (r : Rule) : Except Problem (Option Earned) :=
  if r.active then
    match f ⟨st.props, st.system, st.ledger⟩ r.condition with
    | .error e => .error e
    | .ok (.ok true) => .ok (st.ledger.record r (st.windows.get r.period).since t).1
    | .ok _ => .ok none
  else .ok none

/-- what passing over rules comes to, and the entries it makes -/
def sweep (st : EngineState) : List Rule → Except Problem Unit × List Earned
  | [] => (.ok (), [])
  | r :: rules =>
    match st.award? f t r with
    | .error e => (.error e, [])
    | .ok e => ((sweep (st.putting e.toList) rules).1, e.toList ++ (sweep (st.putting e.toList) rules).2)

/-- what an evaluation comes to in a state: its end, the entries it makes and the state it leaves -/
def evalState (zone : Zone) (rules : List Rule) (st : EngineState) : Except Problem Unit × List Earned × EngineState :=
  match localTime zone t with
  | .error e => (.error e, [], st)
  | .ok l =>
    let (x, es) := sweep f t (st.refreshed t l) rules
    (x, es, (st.refreshed t l).putting es)

end

theorem evalState_of_local {zone : Zone} (hl : localTime zone t = .ok l) (st : EngineState) :
    evalState f t zone rules st = ((sweep f t (st.refreshed t l) rules).1, (sweep f t (st.refreshed t l) rules).2,
      (st.refreshed t l).putting (sweep f t (st.refreshed t l) rules).2) := by
  unfold evalState
  rw [hl]

theorem evalState_of_none {zone : Zone} {e : Problem} (hl : localTime zone t = .error e) (st : EngineState) :
    evalState f t zone rules st = (.error e, [], st) := by
  unfold evalState
  rw [hl]

/-! ## Evaluations of a world -/

/-- a host without hooks whose clock stands still, and where what judging a condition comes to is told by what the
condition can see -/
structure Determined (s : Setup σ) (t : Instant) (f : Context → String → Except Problem (Except String Bool)) : Prop
    extends Still s t where
  judge : ∀ h c, ∀ r ∈ s.rules, (s.judge h c r.condition).1 = f c r.condition

/-- a world after entries were made: of the engine only the ledger and the badges of the operation changed -/
structure Sweeps (es : List Earned) (w v : World σ) : Prop where
  engine : v.engine = { w.engine with state := w.engine.state.putting es, news := putAll es w.engine.news }
  trace : ∃ ns, v.trace = ns ++ w.trace ∧ madeIn ns = es

theorem Sweeps.trans (h : Sweeps es u w) (h' : Sweeps fs w v) : Sweeps (es ++ fs) u v where
  engine := by
    rw [h'.engine, h.engine]
    simp only [EngineState.putting, putAll_append, enterAll_append]
  trace := by
    obtain ⟨ns, hns, rfl⟩ := h.trace
    obtain ⟨ms, hms, rfl⟩ := h'.trace
    exact ⟨ms ++ ns, by rw [hms, hns, List.append_assoc], madeIn_append ..⟩

theorem World.refreshing_state (state : w.engine.state = st) (rolled : w.engine.rolled = {}) :
    (w.refreshing t l).engine.state = st.refreshed t l := by
  subst state
  simp only [World.refreshing, World.withEngine, Engine.refresh, EngineState.refreshed, rolled]
  rfl

/-- what entries made after the clock was read and the windows were refreshed leave -/
theorem Sweeps.after_refresh {y : World σ} {c : Noted} (state : y.engine.state = w.engine.state)
    (news : y.engine.news = []) (rolled : y.engine.rolled = {}) (trace : y.trace = c :: w.trace)
    (read : c.note = .clock (.ok t)) (h : Sweeps es (y.refreshing t l).passing v) :
    v.engine.state = (w.engine.state.refreshed t l).putting es ∧ v.engine.news = putAll es [] ∧
      ∃ ns, v.trace = ns ++ w.trace ∧ madeIn ns = es := by
  have ready : Ready t l w (y.refreshing t l).passing := .passing state trace read
  obtain ⟨ms, hms, none, -⟩ := ready.trace
  obtain ⟨ns, hns, made⟩ := h.trace
  refine ⟨?_, ?_, ns ++ ms, by rw [hns, hms, List.append_assoc], by rw [madeIn_append, none, made]; rfl⟩
  · rw [h.engine, ← World.refreshing_state state rolled]
    rfl
  · rw [h.engine]
    simp only [World.passing, World.refreshing, World.noting, World.withEngine, Engine.refresh, news]

/-- notes that tell of no entry, while the engine stays -/
theorem Sweeps.aside (engine : v.engine = w.engine) (ns : List Noted) (trace : v.trace = ns ++ w.trace)
    (made : madeIn ns = []) : Sweeps [] w v :=
  ⟨engine, ns, trace, made⟩

namespace Determined

/-- what considering a rule makes of a world is told by the state -/
theorem considers (hs : Determined s t f) (hr : r ∈ s.rules) (w : World σ) :
    (s.consider w.engine.state.props w.engine.state.system r).leads w
      (fun _ v => ∃ e, w.engine.state.award? f t r = .ok e ∧ Sweeps e.toList w v)
      (fun p v => w.engine.state.award? f t r = .error p ∧ Sweeps [] w v) := by
  have verdict := hs.judge w.host ⟨w.engine.state.props, w.engine.state.system, w.engine.state.ledger⟩ r hr
  rcases hj : s.judge w.host ⟨w.engine.state.props, w.engine.state.system, w.engine.state.ledger⟩ r.condition with ⟨x, h⟩
  rw [hj] at verdict
  obtain rfl : x = _ := verdict
  unfold consider EngineState.award?
  cases r.active with
  | false => exact (leads_pure ()).2 ⟨none, rfl, .aside rfl [] rfl rfl⟩
  | true =>
    simp only [Bool.not_true, Bool.false_eq_true, if_false, if_true, leads_bind, leads_host, leads_state, hj]
    simp only [leads_setHost, leads_note, leads_ofExcept]
    rcases f ⟨w.engine.state.props, w.engine.state.system, w.engine.state.ledger⟩ r.condition with e | message | _ | _
    · exact ⟨rfl, .aside rfl [_] rfl rfl⟩
    · simp only [reportFailure, leads_bind, leads_note, hs.toStill.leads_tell]
      exact ⟨none, rfl, .aside rfl [_, _] rfl rfl⟩
    · exact (leads_pure ()).2 ⟨none, rfl, .aside rfl [_] rfl rfl⟩
    · unfold award
      simp only [leads_bind, leads_state, hs.toStill.leads_now]
      split
      case _ l' hl =>
        exact (leads_note _).2 ⟨none, congrArg (fun p => Except.ok p.1) hl, .aside rfl [_, _, _] rfl rfl⟩
      case _ e l' hl =>
        simp only [leads_bind, leads_change, leads_changeEngine, leads_note, hs.toStill.leads_tell]
        refine ⟨some e, congrArg (fun p => Except.ok p.1) hl, ?_, [_, _, _], rfl, rfl⟩
        obtain ⟨rfl, -⟩ := record_earned hl
        rfl

/-- so is what a pass makes of it -/
theorem passes_over (hs : Determined s t f) (hr : rules ⊆ s.rules) (w : World σ) :
    (rules.forM (s.consider w.engine.state.props w.engine.state.system)).leads w
      (fun _ v => (sweep f t w.engine.state rules).1 = .ok () ∧ Sweeps (sweep f t w.engine.state rules).2 w v)
      (fun p v => (sweep f t w.engine.state rules).1 = .error p ∧ Sweeps (sweep f t w.engine.state rules).2 w v) := by
  induction rules generalizing w with
  | nil => exact (leads_pure ()).2 ⟨rfl, .aside rfl [] rfl rfl⟩
  | cons r rules ih =>
    obtain ⟨hr, hrs⟩ := List.cons_subset.1 hr
    show Run.leads (s.consider _ _ r >>= fun _ => rules.forM (s.consider _ _)) w _ _
    rw [leads_bind]
    unfold sweep
    refine (hs.considers hr w).mono (fun _ v hv => ?_) fun p v hv => ?_
    · obtain ⟨e, award, swept⟩ := hv
      have state : v.engine.state = w.engine.state.putting e.toList := by rw [swept.engine]
      have rest := ih hrs v
      rw [state] at rest
      rw [award]
      exact rest.mono (fun _ u hu => ⟨hu.1, swept.trans hu.2⟩) fun _ u hu => ⟨hu.1, swept.trans hu.2⟩
    · rw [hv.1]
      exact ⟨rfl, hv.2⟩

/-- the rules are run in one pass -/
theorem runs (hs : Determined s t f) (w : World σ) :
    s.runRules.leads w
      (fun _ v => (sweep f t w.engine.state s.rules).1 = .ok () ∧ Sweeps (sweep f t w.engine.state s.rules).2 w.passing v)
      (fun p v => (sweep f t w.engine.state s.rules).1 = .error p ∧
        Sweeps (sweep f t w.engine.state s.rules).2 w.passing v) := by
  show Run.leads (s.pass >>= fun again => if again then s.passes (passLimit - 1) else pure ()) w _ _
  unfold Setup.pass
  simp only [leads_bind, leads_changeEngine, leads_note, leads_state, leads_engine, leads_pure]
  refine (hs.passes_over (List.Subset.refl _) w.passing).mono (fun _ v hv => ?_) fun _ v hv => hv
  have settled : v.engine.pending = false := by
    rw [hv.2.engine]
    rfl
  simp only [settled, Bool.false_eq_true, if_false, leads_pure]
  exact hv

end Determined

/-- an evaluation of a world came to what it comes to in its state -/
structure Evaluates (f : Context → String → Except Problem (Except String Bool)) (t : Instant) (s : Setup σ)
    (w : World σ) (x : Except Problem Answer) (v : World σ) : Prop where
  answer : x = (evalState f t s.zone s.rules w.engine.state).1.map fun _ =>
    .badges (putAll (evalState f t s.zone s.rules w.engine.state).2.1 [])
  state : v.engine.state = (evalState f t s.zone s.rules w.engine.state).2.2
  settled : v.engine.Settled
  trace : ∃ ns, v.trace = ns ++ w.trace ∧ madeIn ns = (evalState f t s.zone s.rules w.engine.state).2.1

theorem Determined.evaluates (hs : Determined s t f) (hw : w.engine.Settled) :
    Evaluates f t s w ((s.answer (.operate .evaluate)).exec w).1 ((s.answer (.operate .evaluate)).exec w).2 := by
  suffices h : (s.answer (.operate .evaluate)).leads w (fun a v => Evaluates f t s w (.ok a) v)
      fun e v => Evaluates f t s w (.error e) v by
    obtain ⟨hok, herror⟩ := leads_iff.1 h
    cases hx : ((s.answer (.operate .evaluate)).exec w).1 with
    | ok a => exact hok a hx
    | error e => exact herror e hx
  simp only [answer, answerWith, operation, perform, leads_bind, leads_engine, hw.busy, Bool.false_eq_true, if_false,
    leads_pure, leads_changeEngine, leads_ensuring, hs.toStill.leads_now]
  unfold refresh
  simp only [leads_bind, leads_ofExcept]
  cases hl : localTime s.zone t with
  | error e =>
    refine ⟨?_, ?_, ⟨rfl, rfl⟩, [_], rfl, ?_⟩ <;> rw [evalState_of_none hl] <;> rfl
  | ok l =>
    simp only [leads_engine, leads_changeEngine, leads_note, leads_ite, tellSnapshot, leads_bind, leads_state,
      hs.toStill.leads_tell, leads_pure, ite_self]
    -- the clock was read, and the windows were refreshed
    let y := ((w.entering .evaluate).withHost (s.clock w.host).2).noting (.clock (.ok t))
    have state : (y.refreshing t l).engine.state = w.engine.state.refreshed t l := World.refreshing_state rfl rfl
    have runs := hs.runs (y.refreshing t l)
    rw [state] at runs
    refine runs.mono (fun _ v hv => ?_) fun p v hv => ?_
    all_goals
      obtain ⟨fate, h⟩ := hv
      obtain ⟨left, news, notes⟩ := Sweeps.after_refresh (w := w) (y := y) rfl rfl rfl rfl rfl h
    · refine ⟨?_, ?_, ⟨rfl, rfl⟩, ?_⟩ <;> rw [evalState_of_local hl]
      · rw [fate]
        exact congrArg (fun es => Except.ok (Answer.badges es)) news
      · exact left
      · exact notes
    · refine ⟨?_, ?_, ⟨rfl, rfl⟩, ?_⟩ <;> rw [evalState_of_local hl]
      · rw [fate]
        rfl
      · exact left
      · exact notes

/-! ## Entries are used up -/

@[simp] theorem EngineState.putting_nil (st : EngineState) : st.putting [] = st := rfl

theorem EngineState.putting_putting (st : EngineState) (es fs : List Earned) :
    (st.putting es).putting fs = st.putting (es ++ fs) := by
  simp only [putting, enterAll_append]

theorem InTime.putting {g : Rollover} (h : InTime l g st) (es : List Earned) : InTime l g (st.putting es) :=
  ⟨h.keys, h.calendar, h.flags⟩

/-- a state after entries were made: they bear the ids of active rules, none of which comes twice, and the gates of
those rules are closed -/
structure Spent (rules : List Rule) (t : Instant) (es : List Earned) (st : EngineState) : Prop where
  since : ∀ p, (st.windows.get p).since ≤ t
  nodup : (es.map (·.id)).Nodup
  active : ∀ e ∈ es, ∃ r ∈ rules, r.active = true ∧ r.id = e.id
  shut : ∀ r ∈ rules, r.id ∈ es.map (·.id) → Shut r st

namespace Spent

/-- an entry is made by a rule that made none before, and closes its gate -/
theorem earned (hd : DistinctRules rules) (h : Spent rules t es st) (hr : r ∈ rules) (ha : r.active = true) {e : Earned}
    {l' : Ledger} (hl : st.ledger.record r (st.windows.get r.period).since t = (some e, l')) :
    Spent rules t (es ++ [e]) (st.putting [e]) := by
  let w : World Unit := { engine := { state := st }, host := () }
  have hid := record_id hl
  have new : e.id ∉ es.map (·.id) := fun hm => not_shut_of_earned (w := w) hl (h.shut r hr (hid ▸ hm))
  have shut : Shut r (st.putting [e]) := by
    have := shut_of_earned (w := w) (h.since r.period) hl
    obtain ⟨rfl, -⟩ := record_earned hl
    exact this
  refine ⟨h.since, ?_, fun e' he' => ?_, fun r' hr' hm => ?_⟩
  · rw [List.map_append]
    exact h.nodup.append (List.nodup_singleton _) (List.disjoint_singleton.2 new)
  · rcases List.mem_append.1 he' with he' | he'
    · exact h.active e' he'
    · obtain rfl := List.mem_singleton.1 he'
      exact ⟨r, hr, ha, hid.symm⟩
  · by_cases hid' : r'.id = r.id
    · obtain rfl := hd.eq_of_id hr hr' hid'
      exact shut
    · rw [List.map_append, List.mem_append, List.map_singleton, List.mem_singleton, hid] at hm
      obtain ⟨old, hold, held⟩ := h.shut r' hr' (hm.resolve_right hid')
      obtain ⟨rfl, -⟩ := record_earned hl
      exact ⟨old, (get?_enter_of_ne (hid.symm ▸ hid') _).trans hold, held⟩

theorem award (hd : DistinctRules rules) (h : Spent rules t es st) (hr : r ∈ rules) {e : Option Earned}
    (ha : st.award? f t r = .ok e) : Spent rules t (es ++ e.toList) (st.putting e.toList) := by
  cases e with
  | none => simpa using h
  | some e =>
    unfold EngineState.award? at ha
    split at ha
    case isTrue hact =>
      split at ha
      case h_2 => exact h.earned hd hr hact (Prod.ext (Except.ok.inj ha) rfl)
      all_goals cases ha
    case isFalse => cases ha

theorem sweep (hd : DistinctRules rules) {rules' : List Rule} (hr : rules' ⊆ rules) (h : Spent rules t es st) :
    Spent rules t (es ++ (sweep f t st rules').2) (st.putting (sweep f t st rules').2) := by
  induction rules' generalizing es st with
  | nil => simpa [BadgeEngine.sweep] using h
  | cons r rules' ih =>
    obtain ⟨hr, hrs⟩ := List.cons_subset.1 hr
    unfold BadgeEngine.sweep
    split
    case h_1 => simpa using h
    case h_2 e he =>
      have next := ih hrs (h.award hd hr he)
      rwa [EngineState.putting_putting, List.append_assoc] at next

theorem refreshed {g : Rollover} (h : Spent rules t es st) (hst : InTime l g st) :
    Spent rules t es (st.refreshed t l) where
  since p := by
    rw [st.refreshed_windows, hst.windows]
    exact h.since p
  nodup := h.nodup
  active := h.active
  shut r hr hm := by
    refine (Shut.congr (st.refreshed_ledger t l) ?_).2 (h.shut r hr hm)
    rw [st.refreshed_windows, hst.windows]

/-- there are no more entries than active rules -/
theorem length_le (h : Spent rules t es st) : es.length ≤ rules.countP (·.active) := by
  have listed : es.map (·.id) ⊆ (rules.filter (·.active)).map (·.id) := by
    intro id hid
    obtain ⟨e, he, rfl⟩ := List.mem_map.1 hid
    obtain ⟨r, hr, ha, hre⟩ := h.active e he
    exact List.mem_map.2 ⟨r, List.mem_filter.2 ⟨hr, ha⟩, hre⟩
  have := (List.subperm_of_subset h.nodup listed).length_le
  rwa [List.length_map, List.length_map, ← List.countP_eq_length_filter] at this

end Spent

/-! ## One evaluation after another -/

section

variable (f : Context → String → Except Problem (Except String Bool)) (t : Instant) (zone : Zone) (rules : List Rule)
  (st : EngineState)

def stateAfter : Nat → EngineState
  | 0 => st
  | k + 1 => (evalState f t zone rules (stateAfter k)).2.2

def madeBy : Nat → List Earned
  | 0 => []
  | k + 1 => madeBy k ++ (evalState f t zone rules (stateAfter f t zone rules st k)).2.1

end

variable {zone : Zone}

theorem stateAfter_succ (k : Nat) : stateAfter f t zone rules st (k + 1) =
    (evalState f t zone rules (stateAfter f t zone rules st k)).2.2 := rfl

theorem madeBy_succ (k : Nat) : madeBy f t zone rules st (k + 1) =
    madeBy f t zone rules st k ++ (evalState f t zone rules (stateAfter f t zone rules st k)).2.1 := rfl

attribute [local irreducible] EngineState.refreshed

/-- after an evaluation the state shows the local time -/
theorem stateAfter_inTime (rules : List Rule) (st : EngineState) (hl : localTime zone t = .ok l) (k : Nat) :
    ∃ g, InTime l g (stateAfter f t zone rules st (k + 1)) := by
  obtain ⟨g, shown⟩ := (stateAfter f t zone rules st k).refreshed_inTime t l
  rw [stateAfter_succ, evalState_of_local hl]
  exact ⟨g, shown.putting _⟩

/-- evaluations make entries by rules that made none before -/
theorem spent_of_local (hd : DistinctRules rules) (hl : localTime zone t = .ok l)
    (hst : ∀ p, (st.windows.get p).since ≤ t) (k : Nat) :
    Spent rules t (madeBy f t zone rules st k) ((stateAfter f t zone rules st k).refreshed t l) := by
  induction k with
  | zero =>
    refine ⟨fun p => ?_, List.nodup_nil, nofun, nofun⟩
    rw [EngineState.refreshed_windows]
    exact Windows.refresh_since_le hst p
  | succ k ih =>
    obtain ⟨g, shown⟩ := stateAfter_inTime (f := f) rules st hl k
    have next := ih.sweep (f := f) hd (List.Subset.refl rules)
    rw [stateAfter_succ, evalState_of_local hl] at shown ⊢
    rw [madeBy_succ, evalState_of_local hl]
    exact next.refreshed shown

/-- there are no more entries than active rules, no two of one rule -/
theorem madeBy_active (zone : Zone) (hd : DistinctRules rules) (hst : ∀ p, (st.windows.get p).since ≤ t) (k : Nat) :
    ((madeBy f t zone rules st k).map (·.id)).Nodup ∧
      (∀ e ∈ madeBy f t zone rules st k, ∃ r ∈ rules, r.active = true ∧ r.id = e.id) ∧
      (madeBy f t zone rules st k).length ≤ rules.countP (·.active) := by
  cases hl : localTime zone t with
  | ok l =>
    have spent := spent_of_local (f := f) hd hl hst k
    exact ⟨spent.nodup, spent.active, spent.length_le⟩
  | error e =>
    have none : madeBy f t zone rules st k = [] := by
      induction k with
      | zero => rfl
      | succ k ih => rw [madeBy_succ, ih, evalState_of_none hl]; rfl
    rw [none]
    exact ⟨List.nodup_nil, nofun, Nat.zero_le _⟩

/-- an evaluation after the first that makes no entry is followed by one like it -/
theorem evalState_again {k : Nat} (hk : 0 < k)
    (none : (evalState f t zone rules (stateAfter f t zone rules st k)).2.1 = []) :
    evalState f t zone rules (stateAfter f t zone rules st (k + 1)) =
      evalState f t zone rules (stateAfter f t zone rules st k) := by
  obtain ⟨k, rfl⟩ := Nat.exists_eq_succ_of_ne_zero (Nat.ne_of_gt hk)
  rw [stateAfter_succ]
  cases hl : localTime zone t with
  | error e => rw [evalState_of_none hl, evalState_of_none hl]
  | ok l =>
    obtain ⟨g, shown⟩ := stateAfter_inTime (f := f) rules st hl k
    generalize stateAfter f t zone rules st k.succ = y at none shown ⊢
    rw [evalState_of_local hl] at none
    -- nothing rolls over, so the state that is left is refreshed already
    have left : (evalState f t zone rules y).2.2 = y.refreshed t l := by
      rw [evalState_of_local hl]
      exact congrArg (y.refreshed t l).putting none
    rw [left, evalState_of_local hl, evalState_of_local hl, shown.again.refreshed]

/-- from then on all evaluations are like it -/
theorem evalState_settled {k : Nat} (hk : 0 < k)
    (none : (evalState f t zone rules (stateAfter f t zone rules st k)).2.1 = []) {j : Nat} (hj : k ≤ j) :
    evalState f t zone rules (stateAfter f t zone rules st j) =
      evalState f t zone rules (stateAfter f t zone rules st k) := by
  induction j, hj using Nat.le_induction with
  | base => rfl
  | succ j hj ih => rw [evalState_again (Nat.lt_of_lt_of_le hk hj) (by rw [ih, none]), ih]

/-- one evaluation among the second and as many after it as there are active rules makes no entry -/
theorem exists_idle (zone : Zone) (hd : DistinctRules rules) (hst : ∀ p, (st.windows.get p).since ≤ t) :
    ∃ k, 0 < k ∧ k ≤ rules.countP (·.active) + 1 ∧
      (evalState f t zone rules (stateAfter f t zone rules st k)).2.1 = [] := by
  by_contra hn
  have hn : ∀ k, 0 < k → k ≤ rules.countP (·.active) + 1 →
      (evalState f t zone rules (stateAfter f t zone rules st k)).2.1 ≠ [] := fun k hk hle h => hn ⟨k, hk, hle, h⟩
  -- each of them makes one at least
  have made : ∀ m ≤ rules.countP (·.active) + 1, m ≤ (madeBy f t zone rules st (m + 1)).length := by
    intro m hm
    induction m with
    | zero => exact Nat.zero_le _
    | succ m ih =>
      have one := List.length_pos_of_ne_nil (hn (m + 1) (Nat.succ_pos m) hm)
      have before := ih (Nat.le_of_succ_le hm)
      rw [madeBy_succ, List.length_append]
      omega
  have many := made _ (Nat.le_refl _)
  have few := (madeBy_active (f := f) zone hd hst (rules.countP (·.active) + 1 + 1)).2.2
  omega

/-- a pass that makes no entry fails only where judging a condition does -/
theorem sweep_fails {e : Problem} (hx : (sweep f t st rules).1 = .error e) (none : (sweep f t st rules).2 = []) :
    ∃ r ∈ rules, r.active = true ∧ f ⟨st.props, st.system, st.ledger⟩ r.condition = .error e := by
  induction rules with
  | nil => cases hx
  | cons r rules ih =>
    unfold sweep at hx none
    split at hx
    case h_1 e' he =>
      cases hx
      unfold EngineState.award? at he
      split at he
      case isFalse => cases he
      case isTrue ha =>
        split at he
        case h_1 hf =>
          cases he
          exact ⟨r, List.mem_cons_self, ha, hf⟩
        all_goals cases he
    case h_2 made he =>
      rw [he] at none
      obtain ⟨hmade, rest⟩ := List.append_eq_nil_iff.1 none
      rw [hmade, EngineState.putting_nil] at hx rest
      obtain ⟨r', hr', h⟩ := ih hx rest
      exact ⟨r', List.mem_cons_of_mem _ hr', h⟩

/-! ## Results -/

def World.evaluated (s : Setup σ) (w : World σ) (k : Nat) : World σ :=
  w.after s (List.replicate k (.operate .evaluate))

theorem World.evaluated_succ (s : Setup σ) (w : World σ) (k : Nat) :
    w.evaluated s (k + 1) = ((s.answer (.operate .evaluate)).exec (w.evaluated s k)).2 := by
  unfold evaluated
  rw [List.replicate_succ', World.after_concat]

/-- evaluations of a world are told by the state -/
theorem Determined.evaluated (hs : Determined s t f) (hw : w.engine.Settled) (k : Nat) :
    (w.evaluated s k).engine.Settled ∧
      (w.evaluated s k).engine.state = stateAfter f t s.zone s.rules w.engine.state k ∧
      ∃ ns, (w.evaluated s k).trace = ns ++ w.trace ∧ madeIn ns = madeBy f t s.zone s.rules w.engine.state k := by
  induction k with
  | zero => exact ⟨hw, rfl, [], rfl, rfl⟩
  | succ k ih =>
    obtain ⟨settled, state, ns, hns, made⟩ := ih
    have next := hs.evaluates settled
    obtain ⟨ms, hms, made'⟩ := next.trace
    rw [World.evaluated_succ]
    refine ⟨next.settled, ?_, ms ++ ns, by rw [hms, hns, List.append_assoc], ?_⟩
    · rw [next.state, state, stateAfter_succ]
    · rw [madeIn_append, made, made', state, madeBy_succ]

/-- **Convergence.** While the clock stands still, at an instant at or after all it has shown, evaluations make one
entry at most for each active rule, and none for others, whatever the conditions ask for. With n active rules all
evaluations from the (n+2)-th on leave the same state and come to the same: to no badge, or to one failure, which is
that of the local time or of judging a condition in that state. -/
theorem evaluations_converge (hd : DistinctRules s.rules) (hw : Unloaded s₀ w) (he : epoch ≤ t)
    (ht : ∀ u, Shown w u → u ≤ t) (hs : Determined s t f) :
    (∀ k, ∃ ns, (w.evaluated s k).trace = ns ++ w.trace ∧ ((madeIn ns).map (·.id)).Nodup ∧
      ∀ e ∈ madeIn ns, ∃ r ∈ s.rules, r.active = true ∧ r.id = e.id) ∧
    ∃ st x, (∀ k, s.rules.countP (·.active) < k →
        ((s.answer (.operate .evaluate)).exec (w.evaluated s k)).1 = x ∧ (w.evaluated s (k + 1)).engine.state = st) ∧
      (x = .ok (.badges []) ∨ ∃ e, x = .error e ∧ (localTime s.zone t = .error e ∨
        ∃ r ∈ s.rules, r.active = true ∧ f ⟨st.props, st.system, st.ledger⟩ r.condition = .error e)) := by
  have settled : w.engine.Settled := Reach.settled hw
  have since := hw.since_le he ht
  refine ⟨fun k => ?_, ?_⟩
  · obtain ⟨-, -, ns, hns, made⟩ := hs.evaluated settled k
    obtain ⟨nodup, active, -⟩ := madeBy_active (f := f) s.zone hd since k
    exact ⟨ns, hns, made ▸ nodup, made ▸ active⟩
  · obtain ⟨k, hk, hle, none⟩ := exists_idle (f := f) s.zone hd since
    let y := stateAfter f t s.zone s.rules w.engine.state k
    have same : ∀ j, s.rules.countP (·.active) < j →
        ((s.answer (.operate .evaluate)).exec (w.evaluated s j)).1 =
          (evalState f t s.zone s.rules y).1.map (fun _ => .badges []) ∧
        (w.evaluated s (j + 1)).engine.state = (evalState f t s.zone s.rules y).2.2 := by
      intro j hj
      obtain ⟨settled', state, -⟩ := hs.evaluated settled j
      have next := hs.evaluates settled'
      have like := evalState_settled hk none (Nat.le_trans hle hj)
      rw [World.evaluated_succ, next.state, next.answer, state, like, none]
      exact ⟨rfl, rfl⟩
    refine ⟨_, _, same, ?_⟩
    cases hx : (evalState f t s.zone s.rules y).1 with
    | ok => exact .inl rfl
    | error e =>
      refine .inr ⟨e, rfl, ?_⟩
      cases hl : localTime s.zone t with
      | error e' =>
        rw [evalState_of_none hl] at hx
        cases hx
        exact .inl rfl
      | ok l =>
        rw [evalState_of_local hl] at hx none ⊢
        refine .inr ?_
        have left : (y.refreshed t l).putting (sweep f t (y.refreshed t l) s.rules).2 = y.refreshed t l :=
          congrArg (y.refreshed t l).putting none
        dsimp only
        rw [left]
        exact sweep_fails hx none

/-- an engine without hooks whose clock stands still, and that evaluates conditions -/
def still (rules : List Rule) : Setup Unit where
  rules
  zone := .fixed 0
  clock h := (.ok ⟨july 930, none⟩, h)
  judge h c condition := (judgement [] (fun _ => 0) c condition, h)
  hook _ _ _ := none

theorem still_determined (rules : List Rule) :
    Determined (still rules) (july 930) (judgement [] fun _ => 0) where
  clock _ := by rfl
  judge _ _ _ _ := rfl
  hook _ _ _ := rfl

/-- two rules, of which one waits for the flags to settle and the other, before it, for its badge -/
def chain : List Rule :=
  [{ id := "second", condition := "hasEarnedBadge('first')" }, { id := "first", condition := "not system.isNewDay" }]

/-- the badges that an evaluation after others lists -/
def chainLists (k : Nat) : Option (List String) :=
  listedIds (((still chain).answer (.operate .evaluate)).exec (World.evaluated (still chain) { host := () } k)).1

/-- the third evaluation of two rules still awards a badge, and the fourth and all after it award none -/
theorem chain_converges :
    (List.range 4).map chainLists = [some [], some ["first"], some ["second"], some []] ∧
      ∀ k, 2 < k → chainLists k = some [] := by
  have lists : (List.range 4).map chainLists = [some [], some ["first"], some ["second"], some []] := by decide +kernel
  have new : ∀ u, Shown ({ host := () } : World Unit) u → u ≤ july 930 := fun u hu => by
    obtain ⟨x, hx, -⟩ := hu
    cases hx
  have begun : Unloaded (still chain) { host := () } := .new ()
  have hd : DistinctRules (still chain).rules := by
    unfold DistinctRules
    decide
  obtain ⟨-, st, x, same, -⟩ := evaluations_converge hd begun (by decide) new (still_determined chain)
  refine ⟨lists, fun k hk => ?_⟩
  have last : chainLists 3 = some [] := congrArg (·.getD 3 none) lists
  have alike : chainLists k = chainLists 3 := by
    unfold chainLists
    rw [(same k hk).1, (same 3 (by decide)).1]
  exact alike.trans last

/-- evaluations of a rule whose evaluation breaks off never come to an answer -/
theorem longKey_never_answers : [longKeyRule].countP (·.active) = 1 ∧ Determined (still [longKeyRule]) (july 930)
      (judgement [] fun _ => 0) ∧
    listedIds (((still [longKeyRule]).answer (.operate .evaluate)).exec
      (World.evaluated (still [longKeyRule]) { host := () } 2)).1 = none :=
  ⟨by decide, still_determined _, by decide +kernel⟩

end BadgeEngine
