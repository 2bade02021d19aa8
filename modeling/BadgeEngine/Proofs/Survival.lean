/-
Calls survive whatever state was loaded, with one exception (`calls_survive`).

The clock, a local time, a judgement and a hook may fail, unless the host is `Steady`, and each failure is noted: a step
of the engine that fails has such a note to blame (`Sound`). What an operation reads back from the state, the status of
an axis, the counts of ends and the key of a counted window, it takes as it comes. Only the highest count that can be
written cannot be counted up (`CounterFull`); then a start breaks off half-way (`BrokeOff`).
-/
import BadgeEngine.Proofs.Expression
import BadgeEngine.Proofs.LifecycleRuns

namespace BadgeEngine

open BadgeEngine.Number BadgeEngine.Time Relation Run Setup

variable {σ α β : Type} {s : Setup σ} {u v w w' : World σ} {a : Axis} {st : EngineState}

/-! ## What can fail -/

/-- a note tells that the host failed, or showed an instant that has no local time -/
def Noted.isTrouble (s : Setup σ) (x : Noted) : Bool :=
  match x.note with
  | .clock (.ok t) => !(localTime s.zone t).isOk
  | .clock (.error _) | .judged _ (.error _) | .turn (.finish (some _)) => true
  | _ => false

/-- the evaluator that engines run with fails only where a condition asks for a missing number with too many digits -/
theorem judgement_fails {extra : List (String × Value)} {draw : Nat → Float} {c : Context} {condition : String}
    {e : Problem} (h : judgement extra draw c condition = .error e) :
    e = .digitLimit ∧ ∃ env, Condition.evalCondition env condition = .error .unshownKey := by
  rcases Library.evaluate_error.1 h with refused | ⟨-, ⟨text, f⟩, raised, unshown⟩
  · obtain ⟨_, -, hf⟩ := List.exists_of_findSome?_eq_some refused
    cases hf
  · obtain ⟨env, raised⟩ : ∃ env, ((Condition.evalCondition env condition).mapError (condition, ·)).bind
        (fun d => .ok d.truthy) = Except.error (text, f) := ⟨_, raised⟩
    rcases hv : Condition.evalCondition env condition with g | d <;> rw [hv] at raised <;> cases raised
    cases f <;> cases unshown
    exact ⟨rfl, env, hv⟩

/-- a program that comes to a good end, whatever it sees and whatever it is answered -/
def Script.Finishes : Script σ α → Prop
  | .finish _ r => r.isOk = true
  | .look next => ∀ st, (next st).Finishes
  | .ask _ _ next => ∀ h a, (next h a).Finishes

/-- a host that never fails, with a clock that shows only instants that have a local time -/
structure Steady (s : Setup σ) : Prop where
  clock : ∀ h, ∃ t l, (s.clock h).1.bind instantOf = .ok t ∧ localTime s.zone t = .ok l
  judge : ∀ h c condition, ∃ verdict, (s.judge h c condition).1 = .ok verdict
  hooks : ∀ h k p script, s.hook h k p = some script → script.Finishes

/-- the host can fail, and has failed since -/
def Blamed (s : Setup σ) (w w' : World σ) : Prop :=
  ¬ Steady s ∧ ∃ ns, w'.trace = ns ++ w.trace ∧ ∃ x ∈ ns, x.isTrouble s = true

/-- an operation still runs -/
structure Later (w w' : World σ) : Prop where
  trace : w.trace <:+ w'.trace
  busy : w'.engine.busy = true

theorem Later.trans (h : Later u w) (h' : Later w w') : Later u w' := ⟨h.trace.trans h'.trace, h'.busy⟩

theorem Blamed.after (h : w.trace <:+ u.trace) (hu : Blamed s u w') : Blamed s w w' := by
  obtain ⟨ms, hms⟩ := h
  obtain ⟨host, ns, hns, x, hx, ht⟩ := hu
  exact ⟨host, ns ++ ms, by rw [hns, ← hms, List.append_assoc], x, List.mem_append_left _ hx, ht⟩

/-- a note of trouble is to blame -/
theorem Blamed.noting (host : ¬ Steady s) (w : World σ) {n : Note} (hn : Noted.isTrouble s ⟨n, w.engine⟩ = true) :
    Blamed s w (w.noting n) :=
  ⟨host, [⟨n, w.engine⟩], rfl, _, List.mem_singleton_self _, hn⟩

/-- a steady clock is never read in vain -/
theorem Steady.not_unread {h : σ} {e : Problem} (he : (s.clock h).1.bind instantOf = .error e) : ¬ Steady s := by
  intro hs
  obtain ⟨t, l, ht, -⟩ := hs.clock h
  cases he.symm.trans ht

/-- a program that fails only when the host does -/
def Sound (s : Setup σ) (r : Run σ α) : Prop :=
  ∀ w, w.engine.busy = true → r.leads w (fun _ => Later w) (fun _ => Blamed s w)

theorem Sound.bind {r : Run σ β} {f : β → Run σ α} (hr : Sound s r) (hf : ∀ b, Sound s (f b)) :
    Sound s (r >>= f) := by
  intro w hb
  rw [leads_bind]
  refine (hr w hb).mono (fun b v hv => ?_) fun _ _ hv => hv
  exact (hf b v hv.busy).mono (fun _ _ hu => hv.trans hu) fun _ _ hu => hu.after hv.trace

theorem pure_sound (x : α) : Sound s (pure x : Run σ α) := fun _ hb => (leads_pure x).2 ⟨List.suffix_rfl, hb⟩

theorem note_sound (n : Note) : Sound s (note n : Run σ Unit) :=
  fun _ hb => (leads_note n).2 ⟨List.suffix_cons _ _, hb⟩

theorem change_sound (f : EngineState → EngineState) : Sound s (change f : Run σ Unit) :=
  fun _ hb => (leads_change f).2 ⟨List.suffix_rfl, hb⟩

theorem now_sound : Sound s s.now := by
  intro w hb
  rw [leads_now]
  split
  case h_1 t _ => exact ⟨List.suffix_cons _ _, hb⟩
  case h_2 e he => exact Blamed.noting (Steady.not_unread he) (w.withHost (s.clock w.host).2) (n := .clock (.error e)) rfl

/-- one is added to whatever is there -/
theorem addValue_one_ok (p : Props) (name : String) : ∃ x, p.addValue name (.ofInt 1) = .ok (p.set name x) := by
  obtain ⟨y, hy⟩ : ∃ y, ofInt? 1 = some y := ⟨_, rfl⟩
  have sum : ∀ a : Scalar, ∃ x, addNumbers a (.int 1) = .ok x := by
    intro a
    cases a with
    | float x => exact ⟨.float (x + y), by simp only [addNumbers, hy]; rfl⟩
    | _ => exact ⟨_, rfl⟩
  obtain ⟨x, hsum⟩ : ∃ x, p.sumWith name (asNumber (.ofInt 1)) = .ok x := by
    unfold Props.sumWith
    exact sum _
  exact ⟨x, by rw [Props.addValue, hsum]; rfl⟩

/-- a system property is counted up, whatever its value was -/
theorem leads_bump_ok {name : String} {P : World σ → Prop}
    (h : ∀ x, P (w.withState (w.engine.state.telling [(name, x)]))) :
    (bump name).leads w (fun _ => P) (fun _ _ => False) := by
  obtain ⟨x, hx⟩ := addValue_one_ok w.engine.state.system name
  simp only [bump, leads_bind, leads_state, leads_ofExcept, hx, leads_changeSystem]
  exact h x

/-- a program of a hook fails only in its end: what it asks for is answered, also by a problem -/
theorem ofScript_sound (p : Script σ α) (hp : Steady s → p.Finishes) : Sound s (ofScript s.answerHook p) := by
  induction p with
  | finish h r =>
    intro w hb
    simp only [ofScript, leads_bind, leads_note, leads_setHost, leads_ofExcept]
    cases r with
    | ok x => exact ⟨List.suffix_cons _ _, hb⟩
    | error e =>
      have fails : ¬ Steady s := fun hs => nomatch (hp hs : (Except.error e : Except Problem α).isOk = true)
      exact Blamed.noting fails w (n := .turn (.finish (some e))) rfl
  | look next ih =>
    refine (note_sound _).bind fun _ w hb => ?_
    rw [leads_bind, leads_state]
    exact ih _ (fun hs => hp hs _) w hb
  | ask h q next ih =>
    refine (note_sound _).bind fun _ w hb => ?_
    simp only [leads_bind, leads_setHost, leads_attempt, leads_host]
    have asked : (s.answerHook q).leads (w.withHost h) (fun _ => Later w) (fun _ => Later w) := by
      refine (answerHook_moves q (w.withHost h)).imp fun v hv => ?_
      obtain ⟨moves, busy⟩ := hv hb
      exact ⟨(HookMoves.rules (s := s) moves).moves.suffix, busy⟩
    have next : ∀ {x : Except Problem Answer} {v : World σ}, Later w v →
        (ofScript s.answerHook (next v.host x)).leads v (fun _ => Later w) (fun _ => Blamed s w) := by
      intro x v hv
      exact (ih _ _ (fun hs => hp hs _ _) v hv.busy).mono (fun _ _ hu => hv.trans hu) fun _ _ hu => hu.after hv.trace
    exact asked.mono (fun _ _ hv => next hv) fun _ _ hv => next hv

theorem tell_sound (h : Hook) (p : Payload) : Sound s (s.tell h p) := by
  intro w hb
  simp only [Setup.tell, leads_bind, leads_host]
  cases hk : s.hook w.host h p with
  | none => exact pure_sound () w hb
  | some script =>
    exact (note_sound (.told h p)).bind (fun _ => ofScript_sound script fun hs => hs.hooks _ _ _ _ hk) w hb

theorem tellSnapshot_sound (h : Hook) : Sound s (s.tellSnapshot h) := by
  intro w hb
  unfold tellSnapshot
  rw [leads_bind, leads_state]
  exact tell_sound h _ w hb

theorem award_sound (r : Rule) : Sound s (s.award r) := by
  intro w hb
  unfold award
  rw [leads_bind, leads_state]
  refine now_sound.bind (fun t v hv => ?_) w hb
  rw [leads_bind, leads_state]
  split
  · exact note_sound _ v hv
  case _ e l _ =>
    have news : Sound s (changeEngine fun g => { g with news := Ledger.put e g.news } : Run σ Unit) :=
      fun _ hb => (leads_changeEngine _).2 ⟨List.suffix_rfl, hb⟩
    exact (change_sound _).bind (fun _ => news.bind fun _ => (note_sound _).bind fun _ => tell_sound _ _) v hv

theorem consider_sound (props system : Props) (r : Rule) : Sound s (s.consider props system r) := by
  intro w hb
  rcases hj : s.judge w.host ⟨props, system, w.engine.state.ledger⟩ r.condition with ⟨verdict, h⟩
  unfold consider
  cases r.active with
  | false => exact pure_sound () w hb
  | true =>
    simp only [Bool.not_true, Bool.false_eq_true, if_false, leads_bind, leads_host, leads_state, hj]
    simp only [leads_setHost, leads_note, leads_ofExcept]
    let judged := (w.withHost h).noting (.judged r.id verdict)
    have later : Later w judged := ⟨List.suffix_cons _ _, hb⟩
    have after : ∀ {f : Run σ Unit}, Sound s f → f.leads judged (fun _ => Later w) (fun _ => Blamed s w) :=
      fun hf => (hf judged hb).mono (fun _ _ hv => later.trans hv) fun _ _ hv => hv.after later.trace
    rcases verdict with e | text | _ | _
    · have unjudged : ¬ Steady s := by
        intro hs
        obtain ⟨verdict, hv⟩ := hs.judge w.host ⟨props, system, w.engine.state.ledger⟩ r.condition
        rw [hj] at hv
        cases hv
      exact Blamed.noting unjudged (w.withHost h) (n := .judged r.id (.error e)) rfl
    · exact after ((note_sound _).bind fun _ => tell_sound _ _)
    · exact after (pure_sound ())
    · exact after (award_sound r)

theorem pass_sound : Sound s s.pass := by
  have rules : ∀ props system, ∀ rules : List Rule, Sound s (rules.forM (s.consider props system)) := by
    intro props system rules
    induction rules with
    | nil => exact pure_sound ()
    | cons r rules ih => exact Sound.bind (consider_sound props system r) fun _ => ih
  have settle : Sound s (changeEngine fun e => { e with pending := false } : Run σ Unit) :=
    fun _ hb => (leads_changeEngine _).2 ⟨List.suffix_rfl, hb⟩
  unfold Setup.pass
  refine settle.bind fun _ => (note_sound _).bind fun _ w hb => ?_
  rw [leads_bind, leads_state]
  refine (rules _ _ s.rules).bind (fun _ v hv => ?_) w hb
  rw [leads_bind, leads_engine]
  exact pure_sound _ v hv

theorem passes_sound (n : Nat) : Sound s (s.passes n) := by
  induction n with
  | zero =>
    refine pass_sound.bind fun again w hb => ?_
    cases again with
    | false => exact pure_sound () w hb
    | true =>
      simp only [if_true, leads_bind, leads_note, leads_changeEngine]
      exact ⟨List.suffix_cons _ _, hb⟩
  | succ n ih =>
    refine pass_sound.bind fun again w hb => ?_
    cases again with
    | false => exact pure_sound () w hb
    | true => exact ih w hb

theorem runRules_sound : Sound s s.runRules := passes_sound passLimit

/-! ## Counts -/

/-- an axis has the highest count that can be written -/
def CounterFull (a : Axis) (st : EngineState) : Prop :=
  readCounter (st.windows.get (.counter a)).key = .ok (10 ^ digitLimit - 1 : Nat)

/-- any other key of an axis is followed by one, also a key that is no count -/
theorem advance_full (a : Axis) (t : Instant) (st : EngineState) : ∃ n texts,
    (st.windows.advance a (.ok t)).answer = (st.windows.counted a t n, texts) ∧
      (counterKey? n = none ↔ CounterFull a st) := by
  cases hk : readCounter (st.windows.get (.counter a)).key with
  | ok m =>
    refine ⟨m + 1, [], Windows.advance_of_count hk, ?_⟩
    rw [counterKey_next (readInt_fits hk), CounterFull, hk, Except.ok.injEq]
  | error e =>
    obtain ⟨text, ht⟩ := Windows.advance_of_no_count t hk
    obtain ⟨key, hkey⟩ := exists_counterKey (n := 1) (Nat.one_lt_pow (by decide) (by decide))
    refine ⟨1, [text], ht, ?_⟩
    rw [CounterFull, hk]
    exact ⟨fun h => (nomatch hkey.symm.trans h), nofun⟩

/-- the system properties that tell where an axis is -/
def Axis.flagProps (a : Axis) : List String := [a.newProp, a.endedProp, a.statusProp]

theorem Axis.flagProps_life (a : Axis) : a.flagProps ⊆ lifeNames := by
  cases a <;> decide

theorem Axis.startsProp_notMem (a : Axis) : a.startsProp ∉ a.flagProps := by
  cases a <;> decide

/-- what is told of an axis that starts, before it is counted up -/
def Axis.starting (a : Axis) : List (String × Scalar) :=
  [(a.newProp, .bool true), (a.endedProp, .bool false), (a.statusProp, .text Status.started.name)]

/-- what is told of an axis that ends, before its end is counted -/
def Axis.ending (a : Axis) : List (String × Scalar) :=
  [(a.endedProp, .bool true), (a.statusProp, .text Status.ended.name)]

/-- what a state shows of an axis -/
structure Flags (a : Axis) (new ended : Bool) (x : Status) (st : EngineState) : Prop where
  new : st.system.get? a.newProp = some (.bool new)
  ended : st.system.get? a.endedProp = some (.bool ended)
  status : st.system.get? a.statusProp = some (.text x.name)

namespace Flags

variable {new ended : Bool} {x : Status} {st' : EngineState}

theorem congr (h : Flags a new ended x st)
    (hp : ∀ name ∈ a.flagProps, st'.system.get? name = st.system.get? name) :
    Flags a new ended x st' where
  new := (hp _ (by simp [Axis.flagProps])).trans h.new
  ended := (hp _ (by simp [Axis.flagProps])).trans h.ended
  status := (hp _ (by simp [Axis.flagProps])).trans h.status

theorem sameLife {e e' : Engine} (hf : Flags a new ended x e.state) (h : SameLife e e') :
    Flags a new ended x e'.state :=
  hf.congr fun name hn => h.system name (a.flagProps_life hn)

/-- an axis is told to start -/
theorem started (a : Axis) (st : EngineState) : Flags a true false .started
    (st.telling a.starting) := by
  cases a <;> refine ⟨?_, ?_, ?_⟩ <;> simp [EngineState.telling, Axis.starting, Props.setAll, Props.get?_set,
    Axis.newProp, Axis.endedProp, Axis.statusProp]

/-- an axis that was told to start is in progress from then on -/
theorem present (h : Flags a true false .started st) : Flags a false false .inProgress (st.telling a.presenting) := by
  obtain ⟨-, hended, -⟩ := h
  cases a
  all_goals
    simp only [Axis.endedProp] at hended
    refine ⟨?_, ?_, ?_⟩ <;> simp [EngineState.telling, Axis.presenting, Props.setAll, Props.get?_set, Axis.newProp,
      Axis.endedProp, Axis.statusProp, hended]

end Flags

attribute [local irreducible] counterKey?

/-- an axis is counted up unless it has the highest count; then nothing changes -/
theorem count_goes {new ended : Bool} {x : Status} (t : Instant) (hb : w.engine.busy = true)
    (hf : Flags a new ended x w.engine.state) :
    (count a t).leads w
      (fun _ v => Later w v ∧ ¬ CounterFull a w.engine.state ∧ Flags a new ended x v.engine.state)
      (fun e v => Later w v ∧ CounterFull a w.engine.state ∧ e = .digitLimit ∧ Flags a new ended x v.engine.state) := by
  obtain ⟨n, texts, ha, hfull⟩ := advance_full a t w.engine.state
  have same : (w.warning texts).engine = w.engine := w.warning_engine texts
  have later : Later w (w.warning texts) := ⟨w.warning_trace texts ▸ List.suffix_append _ _, same ▸ hb⟩
  unfold count
  rw [leads_bind, leads_state, leads_bind, leads_ofWarned, ha]
  unfold Windows.counted
  cases hkey : counterKey? n with
  | none => exact ⟨later, hfull.1 hkey, rfl, same ▸ hf⟩
  | some key =>
    have counted : Later (w.warning texts) ((w.warning texts).counting a n
        (w.engine.state.windows.set (.counter a) ⟨key, t.later (w.engine.state.windows.get (.counter a)).since⟩)) :=
      ⟨List.suffix_cons _ _, later.busy⟩
    simp only [leads_bind, leads_change, leads_note]
    refine ⟨later.trans counted, fun h => ?_, hf.congr fun name hn => ?_⟩
    · cases hkey.symm.trans (hfull.2 h)
    · have other : name ≠ a.startsProp := fun h => a.startsProp_notMem (h ▸ hn)
      dsimp only
      rw [Props.get?_set, if_neg other, same]

/-! ## Starts and ends -/

/-- steps that fail only when the host does, and leave sessions and games alone -/
theorem Sound.apart {r : Run σ α} (hs : Sound s r) (ha : Apart r) (hb : w.engine.busy = true) :
    r.leads w (fun _ v => Later w v ∧ SameLife w.engine v.engine)
      (fun _ v => Blamed s w v ∧ SameLife w.engine v.engine) :=
  ((hs w hb).and (ha w)).mono (fun _ _ hv => ⟨hv.1, (Beside.of_chain (hv.2 hb).1).engine⟩)
    fun _ _ hv => ⟨hv.1, (Beside.of_chain (hv.2 hb).1).engine⟩

attribute [local irreducible] Engine.refresh

/-- the clock is read, and the windows are refreshed at the instant it shows -/
theorem atNow_sound {f : Instant → Run σ α} (hf : ∀ t, Sound s (f t)) : Sound s (do let t ← s.now; s.refresh t; f t) := by
  intro w hb
  rw [leads_bind, leads_now]
  split
  case h_2 e he => exact Blamed.noting (Steady.not_unread he) (w.withHost (s.clock w.host).2) (n := .clock (.error e)) rfl
  case h_1 t ht =>
    let u := (w.withHost (s.clock w.host).2).noting (.clock (.ok t))
    have later : w.trace <:+ u.trace := List.suffix_cons _ _
    unfold refresh
    simp only [leads_bind, leads_ofExcept]
    cases hl : localTime s.zone t with
    | error e =>
      have nowhere : (!(localTime s.zone t).isOk) = true := by rw [hl]; rfl
      have lost : ¬ Steady s := by
        intro hs
        obtain ⟨t', l, ht', hl'⟩ := hs.clock w.host
        obtain rfl : t = t' := Except.ok.inj (ht.symm.trans ht')
        cases hl.symm.trans hl'
      exact Blamed.noting lost (w.withHost (s.clock w.host).2) (n := .clock (.ok t)) nowhere
    | ok l =>
      simp only [leads_engine, leads_changeEngine, leads_note, leads_ite, leads_pure]
      have refreshed : Later w (u.refreshing t l) := by
        refine ⟨later.trans ?_, (u.refreshing_busy t l).trans hb⟩
        rw [u.refreshing_trace]
        exact List.suffix_cons _ _
      have after : ∀ {v : World σ}, Later w v → (f t).leads v (fun _ => Later w) (fun _ => Blamed s w) :=
        fun hv => (hf t _ hv.busy).mono (fun _ _ hu => hv.trans hu) fun _ _ hu => hu.after hv.trace
      split
      · refine (tellSnapshot_sound .newTimePeriod _ refreshed.busy).mono (fun _ v hv => ?_) fun _ v hv => ?_
        · exact after (refreshed.trans hv)
        · exact hv.after refreshed.trace
      · exact after refreshed

theorem refreshAndRun_sound : Sound s (do s.refresh (← s.now); s.runRules) := atNow_sound fun _ => runRules_sound

/-- engines whose axes have the same counts -/
def SameCounts (e e' : Engine) : Prop :=
  ∀ a, CounterFull a e'.state ↔ CounterFull a e.state

theorem SameLife.counts {e e' : Engine} (h : SameLife e e') : SameCounts e e' := by
  intro a
  unfold CounterFull
  rw [h.keys a]

/-- an axis that was counted up is presented -/
theorem present_goes (hb : w.engine.busy = true) (hf : Flags a true false .started w.engine.state) :
    (s.present a).leads w (fun _ v => Later w v ∧ Flags a false false .inProgress v.engine.state)
      (fun _ => Blamed s w) := by
  have told : Sound s (do s.tellSnapshot (.started a); s.runRules) :=
    (tellSnapshot_sound _).bind fun _ => runRules_sound
  have apart : Apart (do s.tellSnapshot (.started a); s.runRules : Run σ Unit) :=
    (tellSnapshot_apart _).bind Busy.trans fun _ => runRules_apart
  unfold present
  rw [leads_ensuring]
  refine (told.apart apart hb).mono (fun _ v hv => ?_) fun _ _ hv => hv.1
  exact ⟨⟨hv.1.trace, hv.1.busy⟩, (hf.sameLife hv.2).present⟩

/-- a start broke off: its axis had the highest count, and is shown as started from then on -/
structure BrokeOff (a : Axis) (e : Problem) (st st' : EngineState) : Prop where
  full : CounterFull a st
  problem : e = .digitLimit
  flags : Flags a true false .started st'

theorem begin_goes (a : Axis) (hb : w.engine.busy = true) :
    (s.begin a).leads w
      (fun _ v => Later w v ∧ ¬ CounterFull a w.engine.state ∧ Flags a false false .inProgress v.engine.state)
      (fun e v => Blamed s w v ∨ Later w v ∧ BrokeOff a e w.engine.state v.engine.state) := by
  have refreshed : Sound s (do let t ← s.now; s.refresh t; pure t) := atNow_sound fun t => pure_sound t
  have apart : Apart (do let t ← s.now; s.refresh t; pure t : Run σ Instant) :=
    now_apart.bind Busy.trans fun t => (refresh_apart t).bind Busy.trans fun _ w => (leads_pure t).2 (Busy.refl w)
  have front := refreshed.apart apart hb
  simp only [leads_bind, leads_pure] at front
  unfold begin
  simp only [leads_bind]
  refine front.mono (fun t v hv => hv.mono (fun _ u hu => ?_) fun _ u hu => .inl hu.1) fun _ v hv => .inl hv.1
  obtain ⟨later, same⟩ := hu
  rw [leads_changeSystem]
  let x := u.withState (u.engine.state.telling a.starting)
  have shown : Later w x := ⟨later.trace, later.busy⟩
  have full : CounterFull a x.engine.state ↔ CounterFull a w.engine.state := same.counts a
  refine (count_goes (w := x) t later.busy (.started a _)).mono (fun _ y hy => ?_) fun e y hy => ?_
  · obtain ⟨hxy, hn, hf⟩ := hy
    refine (present_goes hxy.busy hf).mono (fun _ z hz => ?_) fun _ z hz => .inl ?_
    · exact ⟨shown.trans (hxy.trans hz.1), fun h => hn (full.2 h), hz.2⟩
    · exact hz.after (shown.trans hxy).trace
  · obtain ⟨hxy, hfull, he, hf⟩ := hy
    exact .inr ⟨shown.trans hxy, full.1 hfull, he, hf⟩

/-- an axis has ended when its end was counted -/
theorem status_closing (a : Axis) (st : EngineState) (x : Scalar) :
    ((st.telling a.ending).telling [(a.endsProp, x)]).status a = .ended := by
  have shown : ((st.telling a.ending).telling [(a.endsProp, x)]).system.get? a.statusProp =
      some (.text Status.ended.name) := by
    cases a <;> simp [EngineState.telling, Axis.ending, Props.setAll, Props.get?_set, Axis.endedProp, Axis.statusProp,
      Axis.endsProp]
  unfold EngineState.status
  rw [shown]
  rfl

/-- an axis is ended, whatever its count of ends was -/
theorem close_goes (a : Axis) (hb : w.engine.busy = true) :
    (s.close a).leads w
      (fun _ v => Later w v ∧ SameCounts w.engine v.engine ∧ v.engine.state.status a = .ended)
      (fun _ => Blamed s w) := by
  have rest : Sound s (do s.tellSnapshot (.ended a); s.refresh (← s.now); s.runRules) :=
    (tellSnapshot_sound _).bind fun _ => refreshAndRun_sound
  have apart : Apart (do s.tellSnapshot (.ended a); s.refresh (← s.now); s.runRules : Run σ Unit) :=
    (tellSnapshot_apart _).bind Busy.trans fun _ => refreshAndRun_apart
  let u := w.withState (w.engine.state.telling a.ending)
  unfold close
  rw [leads_bind, leads_changeSystem, leads_bind]
  refine (leads_bump_ok (w := u) fun x => ?_).mono (fun _ _ hv => hv) fun _ _ hv => hv.elim
  let v := u.withState (u.engine.state.telling [(a.endsProp, x)])
  refine (rest.apart apart (w := v) hb).mono (fun _ z hz => ?_) fun _ z hz => hz.1
  exact ⟨⟨hz.1.trace, hz.1.busy⟩, hz.2.counts, (hz.2.status a).trans (status_closing a _ x)⟩

/-- a game is ended, whatever the count of its reason was -/
theorem closeGame_goes (r : EndReason) (hb : w.engine.busy = true) :
    (s.closeGame r).leads w
      (fun _ v => Later w v ∧ SameCounts w.engine v.engine ∧ v.engine.state.status .game = .ended)
      (fun _ => Blamed s w) := by
  let u := w.withState (w.engine.state.telling [(endReasonProp, .text r.name)])
  unfold closeGame
  rw [leads_bind, leads_changeSystem, leads_bind]
  refine (leads_bump_ok (w := u) fun x => ?_).mono (fun _ _ hv => hv) fun _ _ hv => hv.elim
  refine (close_goes (w := u.withState (u.engine.state.telling [(r.countProp, x)])) .game hb).mono (fun _ v hv => ?_)
    fun _ _ hv => hv
  exact ⟨⟨hv.1.trace, hv.1.busy⟩, hv.2⟩

theorem closeBeforeStart_goes (a : Axis) (hb : w.engine.busy = true) :
    (s.closeBeforeStart a).leads w (fun _ v => Later w v ∧ SameCounts w.engine v.engine) (fun _ => Blamed s w) := by
  cases a with
  | session => exact (close_goes .session hb).mono (fun _ _ hv => ⟨hv.1, hv.2.1⟩) fun _ _ hv => hv
  | game => exact (closeGame_goes .implicitRestart hb).mono (fun _ _ hv => ⟨hv.1, hv.2.1⟩) fun _ _ hv => hv

/-! ## Calls -/

/-- the starts of an axis that cannot be counted -/
def Operation.Full : Operation → EngineState → Prop
  | .start a, st => CounterFull a st
  | _, _ => False

/-- what a state shows after an operation -/
def Operation.Done : Operation → EngineState → Prop
  | .start a, st => Flags a false false .inProgress st
  | .endSession, st => (st.status .session).isOpen = false
  | .endGame _, st => (st.status .game).isOpen = false
  | _, _ => True

theorem perform_goes {op : Operation} (hop : op.isLoad = false) (hb : w.engine.busy = true) :
    (s.perform op).leads w
      (fun _ v => Later w v ∧ ¬ op.Full w.engine.state ∧ op.Done v.engine.state)
      (fun e v => Blamed s w v ∨
        Later w v ∧ ∃ a, op = .start a ∧ BrokeOff a e w.engine.state v.engine.state) := by
  have here : Later w w := ⟨List.suffix_rfl, hb⟩
  cases op with
  | evaluate => exact (refreshAndRun_sound w hb).mono (fun _ _ hv => ⟨hv, id, trivial⟩) fun _ _ hv => .inl hv
  | start a =>
    simp only [perform, leads_bind, leads_state, leads_ite]
    split
    case isTrue =>
      refine (closeBeforeStart_goes a hb).mono (fun _ u hu => ?_) fun _ _ hv => .inl hv
      obtain ⟨later, same⟩ := hu
      refine (begin_goes a later.busy).mono (fun _ v hv => ?_) fun e v hv => ?_
      · exact ⟨later.trans hv.1, fun h => hv.2.1 ((same a).2 h), hv.2.2⟩
      · refine hv.imp (fun hv => hv.after later.trace) fun hv => ?_
        exact ⟨later.trans hv.1, a, rfl, (same a).1 hv.2.full, hv.2.problem, hv.2.flags⟩
    case isFalse =>
      exact (begin_goes a hb).mono (fun _ _ hv => hv) fun _ _ hv => hv.imp id fun hv => ⟨hv.1, a, rfl, hv.2⟩
  | endSession =>
    simp only [perform, leads_bind, leads_state, leads_ite]
    split
    case isTrue =>
      refine (close_goes .session hb).mono (fun _ v hv => ⟨hv.1, id, ?_⟩) fun _ _ hv => .inl hv
      exact congrArg Status.isOpen hv.2.2
    case isFalse ho => exact (leads_pure ()).2 ⟨here, id, eq_false_of_ne_true ho⟩
  | endGame r =>
    simp only [perform, leads_bind, leads_state, leads_ite]
    split
    case isTrue =>
      refine (closeGame_goes r hb).mono (fun _ v hv => ⟨hv.1, id, ?_⟩) fun _ _ hv => .inl hv
      exact congrArg Status.isOpen hv.2.2
    case isFalse ho => exact (leads_pure ()).2 ⟨here, id, eq_false_of_ne_true ho⟩
  | load v => cases hop

/-- how an operation goes from a state to a state: it comes to an answer, but for a start that cannot be counted, which
breaks off and leaves its axis started -/
structure Operation.Goes (op : Operation) (st : EngineState) (r : Except Problem Answer) (st' : EngineState) : Prop where
  survives : ¬ op.Full st → (∃ answer, r = .ok answer) ∧ op.Done st'
  breaks : ∀ a, op = .start a → CounterFull a st → r = .error .digitLimit ∧ Flags a true false .started st'

/-- what a request comes to when the host does not fail, as it never does or as the notes tell -/
def Survives (s : Setup σ) (op : Operation) (w : World σ) (r : Except Problem Answer) (w' : World σ) : Prop :=
  ∃ ns, w'.trace = ns ++ w.trace ∧
    (Steady s ∨ (∀ x ∈ ns, x.isTrouble s = false) → op.Goes w.engine.state r w'.engine.state)

theorem operation_goes {op : Operation} (hop : op.isLoad = false) (hb : w.engine.busy = false) :
    (operation op (s.perform op)).leads w (fun a => Survives s op w (.ok a)) (fun e => Survives s op w (.error e)) := by
  unfold operation
  simp only [leads_bind, leads_engine, hb, Bool.false_eq_true, if_false, leads_pure, leads_changeEngine, leads_ensuring]
  let u := w.withEngine (enter op w.engine)
  refine (perform_goes (w := u) hop rfl).mono (fun _ v hv => ?_) fun e v hv => ?_
  · obtain ⟨later, full, done⟩ := hv
    obtain ⟨ns, hns⟩ := later.trace
    refine ⟨ns, hns.symm, fun _ => ⟨fun _ => ⟨⟨_, rfl⟩, done⟩, ?_⟩⟩
    rintro a rfl h
    exact absurd h full
  · rcases hv with ⟨host, ns, hns, x, hx, ht⟩ | ⟨later, a, rfl, broke⟩
    · exact ⟨ns, hns, fun calm => calm.elim (absurd · host) fun quiet => Bool.noConfusion (ht.symm.trans (quiet x hx))⟩
    · obtain ⟨ns, hns⟩ := later.trace
      refine ⟨ns, hns.symm, fun _ => ⟨fun h => absurd broke.full h, ?_⟩⟩
      rintro b ⟨⟩ -
      exact ⟨congrArg Except.error broke.problem, broke.flags⟩

/-- a request for an operation other than a load, with a reason that there is -/
def Request.Calls : Request → Operation → Prop
  | .operate o, op => op = o ∧ o.isLoad = false
  | .endGameFor v, op => ∃ r, EndReason.ofValue v = .ok r ∧ op = .endGame r
  | _, _ => False

theorem answer_goes {q : Request} {op : Operation} (hq : q.Calls op) (hb : w.engine.busy = false) :
    (s.answer q).leads w (fun a => Survives s op w (.ok a)) (fun e => Survives s op w (.error e)) := by
  cases q with
  | operate o =>
    obtain ⟨rfl, ho⟩ := hq
    exact operation_goes ho hb
  | endGameFor v =>
    obtain ⟨r, hr, rfl⟩ := hq
    simp only [answer, answerWith, leads_bind, leads_ofExcept, hr]
    exact operation_goes rfl hb
  | _ => cases hq

theorem answer_survives (s : Setup σ) (hb : w.engine.busy = false) {q : Request} {op : Operation} (hq : q.Calls op) :
    Survives s op w ((s.answer q).exec w).1 ((s.answer q).exec w).2 := by
  have goes := leads_iff.1 (answer_goes (s := s) hq hb)
  cases hr : ((s.answer q).exec w).1 with
  | ok a => exact goes.1 a hr
  | error e => exact goes.2 e hr

theorem after_idle (qs : List Request) (hb : w.engine.busy = false) : (w.after s qs).engine.busy = false := by
  induction qs generalizing w with
  | nil => exact hb
  | cons q qs ih => exact ih (leads_const.1 (answer_turns q w) hb).2

/-- **Survival.** From any state, after any requests and loads, an evaluation, a start or an end comes to an answer if
the host is steady, or at least does not fail meanwhile; a start leaves its axis in progress and told of as neither new
nor ended, and an end leaves its axis ended or never begun. Only a start that would count its axis up from the highest
count breaks off: its axis stays told of as new and started. -/
theorem calls_survive (s : Setup σ) (hb : w.engine.busy = false) (qs : List Request) {q : Request} {op : Operation}
    (hq : q.Calls op) :
    ∃ ns, ((s.answer q).exec (w.after s qs)).2.trace = ns ++ (w.after s qs).trace ∧
      (Steady s ∨ (∀ x ∈ ns, x.isTrouble s = false) →
        op.Goes (w.after s qs).engine.state ((s.answer q).exec (w.after s qs)).1
          ((s.answer q).exec (w.after s qs)).2.engine.state) :=
  answer_survives s (after_idle qs hb) hq

/-- a clock that stands still, and no hooks -/
theorem standstill_steady (rules : List Rule) : Steady (standstill rules none) where
  clock _ := by
    have ok : (localTime (.fixed 0) (july 930)).isOk = true := by decide +kernel
    cases hl : localTime (.fixed 0) (july 930) with
    | ok l => exact ⟨july 930, l, rfl, hl⟩
    | error e => rw [hl] at ok; cases ok
  judge _ _ _ := ⟨_, rfl⟩
  hooks _ _ _ _ h := by
    have none : none = some _ := (ite_self none).symm.trans h
    cases none

/-- a state from elsewhere: a game that was started though its window is no count, and ends that are no number -/
def muddled : Value :=
  .dict [
    (.ofText "periods", .dict [(.ofText "GAME",
      .dict [(.ofText "key", .ofText "lots"), (.ofText "lastTimestamp", .ofText "20220704T0915Z")])]),
    (.ofText "systemProps", .dict [(.ofText "gameStatus", .ofText "started"),
      (.ofText "isNewGame", .ofText "yes"), (.ofText "lifetimeGamesEnded", .ofText "many")])]

/-- an engine that loaded the state -/
def loadedMuddle : World Unit :=
  World.after (standstill [] none) { host := () } [.operate (.load muddled)]

/-- the game is ended and another is started -/
theorem loadedMuddle_survives :
    loadedMuddle.engine.state.status .game = .started ∧
    (loadedMuddle.engine.state.windows.get (.counter .game)).key = "lots" ∧
    (∃ answer, (((standstill [] none).answer (.operate (.start .game))).exec loadedMuddle).1 = .ok answer) ∧
    Flags .game false false .inProgress
      (((standstill [] none).answer (.operate (.start .game))).exec loadedMuddle).2.engine.state := by
  have key : (loadedMuddle.engine.state.windows.get (.counter .game)).key = "lots" := by decide +kernel
  have uncounted : ¬ Operation.Full (.start .game) loadedMuddle.engine.state := by
    have unread : (readCounter "lots").isOk = false := by decide +kernel
    intro full
    have read : readCounter (loadedMuddle.engine.state.windows.get (.counter .game)).key = .ok _ := full
    rw [key] at read
    rw [read] at unread
    cases unread
  obtain ⟨ns, -, goes⟩ := calls_survive (standstill [] none) (w := { host := () }) rfl [.operate (.load muddled)]
    (q := .operate (.start .game)) ⟨rfl, rfl⟩
  exact ⟨by decide +kernel, key, (goes (.inl (standstill_steady []))).survives uncounted⟩

def highestKey : String := String.ofList (List.replicate digitLimit '9')

theorem ofDigitChars_nines (n m : Nat) :
    Nat.ofDigitChars 10 (List.replicate n '9') m = (m + 1) * 10 ^ n - 1 := by
  induction n generalizing m with
  | zero => simp
  | succ n ih =>
    rw [List.replicate_succ, Nat.ofDigitChars_cons, ih, Nat.pow_succ']
    have nine : '9'.toNat - '0'.toNat = 9 := rfl
    rw [nine, ← Nat.mul_assoc]
    congr 2
    omega

theorem readCounter_highestKey : readCounter highestKey = .ok (10 ^ digitLimit - 1 : Nat) := by
  have nines : ∀ c ∈ List.replicate digitLimit '9', c.isDigit := by
    intro c hc
    rw [List.eq_of_mem_replicate hc]
    rfl
  have nonempty : List.replicate digitLimit '9' ≠ [] := mt (List.replicate_eq_nil_iff '9').1 (by decide)
  have read := readInt_digits nines nonempty (Nat.le_of_eq List.length_replicate)
  rw [ofDigitChars_nines, Nat.zero_add, Nat.one_mul] at read
  unfold readCounter highestKey
  rw [String.toList_ofList]
  exact read

def keyed (key : String) : EngineState :=
  { EngineState.fresh with windows := Windows.initial.set (.counter .session) ⟨key, epoch⟩ }

theorem keyed_orderly (key : String) : (keyed key).Orderly := { EngineState.Kept.new.orderly with }

theorem keyed_prepared (key : String) : (keyed key).prepared = keyed key := by
  have fresh : EngineState.fresh.prepared.system = EngineState.fresh.system :=
    congrArg EngineState.system EngineState.Kept.new.prepared.eq
  have system : (keyed key).prepared.system = (keyed key).system := fresh
  unfold EngineState.prepared at system ⊢
  dsimp only at system
  rw [system]

/-- the host is steady and the key of the highest count is loaded; then a session can be started in part only -/
theorem highestKey_breaks_off : Steady (standstill [] none) ∧ ∃ loaded : World Unit,
    ((standstill [] none).answer (.operate (.load (keyed highestKey).toValue))).exec { host := () } = (.ok .done, loaded) ∧
    (((standstill [] none).answer (.operate (.start .session))).exec loaded).1 = .error .digitLimit ∧
    Flags .session true false .started
      (((standstill [] none).answer (.operate (.start .session))).exec loaded).2.engine.state := by
  let loaded : World Unit := { engine := { state := keyed highestKey }, host := () }
  have full : CounterFull .session loaded.engine.state := readCounter_highestKey
  refine ⟨standstill_steady [], loaded, ?_, ?_⟩
  · exact exec_load (EngineState.ofValue_toValue (keyed_orderly _)) (keyed_prepared _) ⟨rfl, rfl⟩
  · obtain ⟨ns, -, goes⟩ := answer_survives (standstill [] none) (w := loaded) rfl (q := .operate (.start .session))
      ⟨rfl, rfl⟩
    exact (goes (.inl (standstill_steady []))).breaks .session rfl full

end BadgeEngine
