/-
Sessions and games keep to their lifecycle, at every point where the host can look (`lifecycle_holds`).

Hooks, rules and refreshes leave sessions and games where they stand (`Beside`). Where they change, in a close, in a
count and in a presentation, several properties change one after another, but no code of the host runs in between: the
notes are taken before and after. So the invariant holds in every note, and however an operation ends.
-/
import BadgeEngine.Proofs.Reload
import BadgeEngine.Proofs.Standing

namespace BadgeEngine

open BadgeEngine.Number BadgeEngine.Time Relation Run Setup

variable {σ α : Type} {s : Setup σ} {w w' : World σ} {n m : Nat}

/-- both axes stand somewhere after at most `n` starts of each; one is started only while a start of it runs -/
def Axes (n : Nat) (e : Engine) : Prop :=
  ∀ a, ∃ x m, Standing a x m e.state ∧ m ≤ n ∧ (x = .started → e.running = some (.start a))

/-- where sessions and games stand in an engine after at most `n` starts of each; every game that ended has ended for
one reason -/
structure Lifecycle (n : Nat) (e : Engine) : Prop where
  axes : Axes n e
  games : Balanced 0 e.state

/-! ## What leaves sessions and games alone -/

/-- the system properties of sessions and games -/
def lifeNames : List String := Axis.session.names ++ Axis.game.names ++ balanceNames

theorem Axis.names_life (a : Axis) : a.names ⊆ lifeNames := by
  cases a <;> decide

theorem balanceNames_life : balanceNames ⊆ lifeNames := by
  decide

/-- an engine in which sessions and games stand as in another -/
structure SameLife (e e' : Engine) : Prop where
  system : ∀ name ∈ lifeNames, e'.state.system.get? name = e.state.system.get? name
  keys : ∀ a, (e'.state.windows.get (.counter a)).key = (e.state.windows.get (.counter a)).key
  running : e'.running = e.running

namespace SameLife

variable {e e' e'' : Engine}

theorem refl (e : Engine) : SameLife e e := ⟨fun _ _ => rfl, fun _ => rfl, rfl⟩

theorem trans (h : SameLife e e') (h' : SameLife e' e'') : SameLife e e'' :=
  ⟨fun m hm => (h'.system m hm).trans (h.system m hm), fun a => (h'.keys a).trans (h.keys a),
    h'.running.trans h.running⟩

theorem standing (h : SameLife e e') {a : Axis} {x : Status} (hs : Standing a x n e.state) : Standing a x n e'.state :=
  hs.congr (fun m hm => h.system m (a.names_life hm)) (h.keys a)

theorem status (h : SameLife e e') (a : Axis) : e'.state.status a = e.state.status a := by
  unfold EngineState.status
  rw [h.system a.statusProp (a.names_life (by simp [Axis.names]))]

theorem balanced (h : SameLife e e') {owed : Int} (hb : Balanced owed e.state) : Balanced owed e'.state :=
  hb.congr fun m hm => h.system m (balanceNames_life hm)

theorem lifecycle (h : SameLife e e') (hl : Lifecycle n e) : Lifecycle n e' where
  axes a := by
    obtain ⟨x, m, hs, hm, hx⟩ := hl.axes a
    exact ⟨x, m, h.standing hs, hm, fun he => h.running.trans (hx he)⟩
  games := h.balanced hl.games

/-- a refresh leaves sessions and games alone -/
theorem refresh (e : Engine) (t : Instant) (l : Moment) : SameLife e (e.refresh t l).1 := by
  have rolled : ∀ f : Rollover, ∀ name ∈ lifeNames, name ∉ f.toProps.map (·.1) := by
    have h : ∀ name ∈ lifeNames, name ∉ (Rollover.toProps {}).map (·.1) := by decide
    exact fun f => h
  have calendar : ∀ name ∈ lifeNames, name ∉ (calendarProps l).map (·.1) := by
    have h : ∀ name ∈ lifeNames, name ∉ ["year", "month", "day", "hour", "minute", "weekday", "isWeekDay", "isWeekEnd",
      "date", "time"] := by decide
    exact h
  unfold Engine.refresh
  refine ⟨fun name hname => ?_, fun a => ?_, rfl⟩
  · dsimp only
    rw [Props.get?_setAll_of_notMem (calendar name hname), Props.get?_setAll_of_notMem (rolled _ name hname)]
  · dsimp only
    rw [Windows.refresh_get]

end SameLife

attribute [local irreducible] Engine.refresh

/-- a world after steps that left sessions and games alone, also in the notes taken -/
structure Beside (w w' : World σ) : Prop where
  engine : SameLife w.engine w'.engine
  trace : ∃ ns : List Noted, w'.trace = ns ++ w.trace ∧ ∀ x ∈ ns, SameLife w.engine x.engine

namespace Beside

theorem refl (w : World σ) : Beside w w := ⟨.refl _, [], rfl, fun _ hx => absurd hx List.not_mem_nil⟩

theorem trans {u : World σ} (h : Beside w u) (h' : Beside u w') : Beside w w' := by
  obtain ⟨ns, hns, hsame⟩ := h.trace
  obtain ⟨ms, hms, hsame'⟩ := h'.trace
  refine ⟨h.engine.trans h'.engine, ms ++ ns, by rw [hms, hns, List.append_assoc], fun x hx => ?_⟩
  rcases List.mem_append.1 hx with hx | hx
  · exact h.engine.trans (hsame' x hx)
  · exact hsame x hx

theorem still (he : SameLife w.engine w'.engine) (ht : w'.trace = w.trace) : Beside w w' :=
  ⟨he, [], ht, fun _ hx => absurd hx List.not_mem_nil⟩

theorem noted (w : World σ) (n : Note) : Beside w (w.noting n) :=
  ⟨.refl _, [⟨n, w.engine⟩], rfl, fun x hx => by rw [List.mem_singleton.1 hx]; exact .refl _⟩

theorem of_chain (h : ReflTransGen Beside w w') : Beside w w' := by
  induction h with
  | refl => exact .refl _
  | tail _ h ih => exact ih.trans h

end Beside

theorem HookMove.beside (h : HookMove w w') : Beside w w' := by
  cases h with
  | remarked n => exact .noted w n
  | _ => exact .still ⟨fun _ _ => rfl, fun _ => rfl, rfl⟩ rfl

theorem RuleMove.beside (h : RuleMove s w w') : Beside w w' := by
  have matching : ∀ id t, Beside w (w.matching id t) := fun id t => (Beside.noted w _).trans (.noted _ _)
  cases h with
  | hook h => exact h.beside
  | settled => exact .still ⟨fun _ _ => rfl, fun _ => rfl, rfl⟩ rfl
  | passed | judged => exact .noted w _
  | unread id e => exact (Beside.noted w _).trans (.noted _ _)
  | held r hr t l hl => exact (matching r.id t).trans (.noted _ _)
  | earned r hr t e l hl =>
    let u := (w.matching r.id t).withEngine { w.engine with
      state := { w.engine.state with ledger := l }, news := Ledger.put e w.engine.news }
    have hu : Beside (w.matching r.id t) u := .still ⟨fun _ _ => rfl, fun _ => rfl, rfl⟩ rfl
    exact ((matching r.id t).trans hu).trans (.noted u _)

/-! ### Steps -/

/-- steps that leave sessions and games alone while an operation runs -/
abbrev Apart (r : Run σ α) : Prop := r.within (Busy (ReflTransGen Beside))

theorem HookMoves.besides (h : HookMoves w w') : ReflTransGen Beside w w' :=
  ReflTransGen.mono (fun _ _ h => h.beside) _ _ h

theorem RuleMoves.besides (h : RuleMoves s w w') : ReflTransGen Beside w w' :=
  ReflTransGen.mono (fun _ _ h => h.beside) _ _ h

theorem tellSnapshot_apart (h : Hook) : Apart (s.tellSnapshot h) :=
  (tellSnapshot_moves h).mono fun _ _ h => h.mono fun _ _ => HookMoves.besides

theorem runRules_apart : Apart s.runRules :=
  runRules_moves.mono fun _ _ h => h.mono fun _ _ => RuleMoves.besides

theorem now_apart : Apart s.now := by
  intro w
  refine (now_moves w).imp fun v hv hb => ?_
  exact ⟨hv.1.besides, hv.2 ▸ hb⟩

theorem refresh_apart (t : Instant) : Apart (s.refresh t) := by
  have refreshed : ∀ {w w' : World σ}, Refreshed s t w w' → ReflTransGen Beside w w' := by
    rintro w w' (rfl | ⟨l, -, h⟩)
    · exact .refl
    · let u := w.withEngine (w.engine.refresh t l).1
      have hu : Beside w u := .still (SameLife.refresh w.engine t l) rfl
      have hw : Beside w (w.refreshing t l) := hu.trans (.noted u _)
      exact .head hw h.besides
  exact fun w => (refresh_does w t).imp fun _ h => h.mono fun _ _ => refreshed

theorem refreshAndRun_apart : Apart (do s.refresh (← s.now); s.runRules : Run σ Unit) :=
  now_apart.bind Busy.trans fun t => (refresh_apart t).bind Busy.trans fun _ => runRules_apart

/-! ## What changes where they stand -/

/-- the lifecycle holds in a world, and in all that was noted -/
structure Good (n : Nat) (w : World σ) : Prop where
  engine : Lifecycle n w.engine
  trace : ∀ x ∈ w.trace, Lifecycle n x.engine

theorem Lifecycle.mono {e : Engine} (h : Lifecycle n e) (hn : n ≤ m) : Lifecycle m e where
  axes a := by
    obtain ⟨x, k, hs, hk, hx⟩ := h.axes a
    exact ⟨x, k, hs, Nat.le_trans hk hn, hx⟩
  games := h.games

namespace Good

theorem mono (h : Good n w) (hn : n ≤ m) : Good m w := ⟨h.engine.mono hn, fun x hx => (h.trace x hx).mono hn⟩

theorem beside (h : Good n w) (hb : Beside w w') : Good n w' := by
  refine ⟨hb.engine.lifecycle h.engine, fun x hx => ?_⟩
  obtain ⟨ns, hns, hsame⟩ := hb.trace
  rw [hns] at hx
  rcases List.mem_append.1 hx with hx | hx
  · exact (hsame x hx).lifecycle h.engine
  · exact h.trace x hx

end Good

/-- the lifecycle holds, and an axis stands somewhere while an operation runs -/
structure Held (n : Nat) (op : Operation) (a : Axis) (x : Status) (k : Nat) (w : World σ) : Prop where
  good : Good n w
  running : w.engine.running = some op
  standing : Standing a x k w.engine.state

namespace Held

variable {op : Operation} {a : Axis} {x : Status} {k : Nat}

theorem busy (h : Held n op a x k w) : w.engine.busy = true := by
  rw [Engine.busy, h.running]
  rfl

theorem beside (h : Held n op a x k w) (hb : Beside w w') : Held n op a x k w' :=
  ⟨h.good.beside hb, hb.engine.running.trans h.running, hb.engine.standing h.standing⟩

/-- steps that leave sessions and games alone keep where an axis stands -/
theorem apart (h : Held n op a x k w) {r : Run σ α} (hr : Apart r) :
    r.leads w (fun _ => Held n op a x k) (fun _ => Held n op a x k) :=
  (hr w).imp fun _ hb => h.beside (.of_chain (hb h.busy).1)

end Held

/-- when one axis is told of something, the other stands where it stood -/
theorem Axes.telling {e : Engine} (h : Axes n e) {a : Axis} {x : Status} {k : Nat} {es : List (String × Scalar)}
    (hes : es.map (·.1) ⊆ a.names) (hs : Standing a x k (e.state.telling es)) (hk : k ≤ n)
    (hx : x = .started → e.running = some (.start a)) : Axes n { e with state := e.state.telling es } := by
  intro b
  by_cases hb : b = a
  · subst hb
    exact ⟨x, k, hs, hk, hx⟩
  · obtain ⟨y, m, hy, hm, hr⟩ := h b
    exact ⟨y, m, hy.other hb hes, hm, hr⟩

theorem leads_bump {name : String} {m : Int} (h : w.engine.state.system.get? name = some (.int m))
    {Q : Unit → World σ → Prop} {F : Problem → World σ → Prop} : (bump name).leads w Q F ↔
      Q () (w.withState (w.engine.state.telling [(name, .int (m + 1))])) := by
  unfold bump
  simp only [leads_bind, leads_state, leads_ofExcept, Props.addValue_one h, leads_changeSystem]
  rfl

/-- the ends of games that are owed when an axis is about to be closed: the reason of a game is counted first -/
def Axis.owed : Axis → Int
  | .session => 0
  | .game => 1

theorem Balanced.close {a : Axis} {k : Nat} {st : EngineState} (h : Balanced a.owed st)
    (hs : Standing a .inProgress k st) : Balanced 0 (st.telling (a.closing (k - 1 + 1))) := by
  cases a with
  | session =>
    refine h.other ?_
    have hnames : ∀ m ∈ balanceNames, m ∉ [Axis.session.endedProp, Axis.session.statusProp, Axis.session.endsProp] := by
      decide
    exact hnames
  | game => exact h.countEnd hs.ends

/-- an axis in progress is ended, and what follows leaves it so -/
theorem close_held {op : Operation} {a : Axis} {k : Nat} (hw : ∀ x ∈ w.trace, Lifecycle n x.engine)
    (ha : Axes n w.engine) (hb : Balanced a.owed w.engine.state) (hr : w.engine.running = some op)
    (hs : Standing a .inProgress k w.engine.state) (hk : k ≤ n) :
    (s.close a).leads w (fun _ => Held n op a .ended k) (fun _ => Held n op a .ended k) := by
  let flags : List (String × Scalar) := [(a.endedProp, .bool true), (a.statusProp, .text Status.ended.name)]
  have hends : (w.engine.state.telling flags).system.get? a.endsProp = some (.int (k - 1)) := by
    have hn : a.endsProp ∉ flags.map (·.1) := by cases a <;> decide
    exact (EngineState.telling_get?_of_notMem hn).trans hs.ends
  let u := w.withState (w.engine.state.telling (a.closing (k - 1 + 1)))
  have hu : Held n op a .ended k u := by
    refine { good := ⟨?_, hw⟩, running := hr, standing := hs.close }
    exact ⟨ha.telling (a.closing_names _) hs.close hk nofun, hb.close hs⟩
  have rest : Apart (do s.tellSnapshot (.ended a); s.refresh (← s.now); s.runRules : Run σ Unit) :=
    (tellSnapshot_apart _).bind Busy.trans fun _ => refreshAndRun_apart
  unfold close
  rw [leads_bind, leads_changeSystem, leads_bind]
  refine (leads_bump (w := w.withState (w.engine.state.telling flags)) hends).2 ?_
  exact hu.apart rest

/-- a game in progress is ended for a reason -/
theorem closeGame_held {op : Operation} {k : Nat} (hg : Good n w) (hr : w.engine.running = some op)
    (hs : Standing .game .inProgress k w.engine.state) (hk : k ≤ n) (r : EndReason) :
    (s.closeGame r).leads w (fun _ => Held n op .game .ended k) (fun _ => Held n op .game .ended k) := by
  -- the reason is counted before the end is, so one end is owed until the close has counted it
  obtain ⟨m, hm, hb⟩ := hg.engine.games.countReason r
  let reason : List (String × Scalar) := [(endReasonProp, .text r.name)]
  have hcount : (w.engine.state.telling reason).system.get? r.countProp = some (.int m) := by
    have hn : r.countProp ∉ reason.map (·.1) := by cases r <;> decide
    exact (EngineState.telling_get?_of_notMem hn).trans hm
  let told : List (String × Scalar) := [(endReasonProp, .text r.name), (r.countProp, .int (m + 1))]
  have hnames : ∀ a : Axis, ∀ name ∈ a.names, name ∉ [endReasonProp, r.countProp] := by
    intro a
    cases a <;> cases r <;> decide
  have htold : ∀ {a : Axis} {x : Status} {k : Nat}, Standing a x k w.engine.state →
      Standing a x k (w.engine.state.telling told) := by
    intro a x k hs
    exact hs.congr (fun name hn => EngineState.telling_get?_of_notMem (hnames a name hn)) rfl
  have ha : Axes n { w.engine with state := w.engine.state.telling told } := by
    intro a
    obtain ⟨x, m, hs, hx⟩ := hg.engine.axes a
    exact ⟨x, m, htold hs, hx⟩
  unfold closeGame
  rw [leads_bind, leads_changeSystem, leads_bind]
  refine (leads_bump (w := w.withState (w.engine.state.telling reason)) hcount).2 ?_
  exact close_held (w := w.withState (w.engine.state.telling told)) hg.trace ha (hb r.name) hr (htold hs) hk

theorem closeBeforeStart_held {op : Operation} {a : Axis} {k : Nat} (hg : Good n w) (hr : w.engine.running = some op)
    (hs : Standing a .inProgress k w.engine.state) (hk : k ≤ n) :
    (s.closeBeforeStart a).leads w (fun _ => Held n op a .ended k) (fun _ => Held n op a .ended k) := by
  cases a with
  | session => exact close_held hg.trace hg.engine.axes hg.engine.games hr hs hk
  | game => exact closeGame_held hg hr hs hk .implicitRestart

/-- what is told of an axis that starts is no end of a game -/
theorem Axis.opening_balance (a : Axis) (m : Int) : ∀ name ∈ balanceNames, name ∉ (a.opening m).map (·.1) := by
  have h : ∀ a : Axis, ∀ name ∈ balanceNames, name ∉ [a.newProp, a.endedProp, a.statusProp, a.startsProp] := by
    rintro (_ | _) <;> decide
  exact h a

theorem Axis.presenting_balance (a : Axis) : ∀ name ∈ balanceNames, name ∉ a.presenting.map (·.1) := by
  cases a <;> decide

/-- an axis that was counted up is presented, and in progress from then on, however that ends -/
theorem present_held {a : Axis} {k : Nat} (hw : Held n (.start a) a .started k w) (hk : k ≤ n) :
    (s.present a).leads w (fun _ => Held n (.start a) a .inProgress k)
      (fun _ => Held n (.start a) a .inProgress k) := by
  have told : Apart (do s.tellSnapshot (.started a); s.runRules : Run σ Unit) :=
    (tellSnapshot_apart _).bind Busy.trans fun _ => runRules_apart
  have shown : ∀ v : World σ, Held n (.start a) a .started k v → Held n (.start a) a .inProgress k
      (v.withState (v.engine.state.telling a.presenting)) := by
    intro v hv
    refine { good := ⟨⟨?_, ?_⟩, hv.good.trace⟩, running := hv.running, standing := hv.standing.present }
    · exact hv.good.engine.axes.telling a.presenting_names hv.standing.present hk nofun
    · exact hv.good.engine.games.other a.presenting_balance
  unfold present
  rw [leads_ensuring]
  exact (hw.apart told).imp shown

theorem leads_count {a : Axis} {k : Nat} {key : String} {t : Instant}
    (hk : readCounter (w.engine.state.windows.get (.counter a)).key = .ok k)
    (hkey : counterKey? (k + 1 : Nat) = some key)
    {Q : Unit → World σ → Prop} {F : Problem → World σ → Prop} : (count a t).leads w Q F ↔
      Q () (w.counting a (k + 1 : Nat) (w.engine.state.windows.set (.counter a)
        ⟨key, t.later (w.engine.state.windows.get (.counter a)).since⟩)) := by
  have hc : (w.engine.state.windows.advance a (.ok t)).answer =
      (.ok ((k + 1 : Nat), w.engine.state.windows.set (.counter a)
        ⟨key, t.later (w.engine.state.windows.get (.counter a)).since⟩), []) := by
    rw [Windows.advance_of_count hk]
    unfold Windows.counted
    rw [← Int.natCast_succ, hkey]
  unfold count
  simp only [leads_bind, leads_state, leads_ofWarned, hc, leads_change, leads_note]
  rfl

/-- an axis that is told to start is counted up -/
theorem count_held {a : Axis} {x : Status} {k : Nat} {t : Instant} (hw : Held n (.start a) a x k w)
    (hx : x.isOpen = false) (hk : k ≤ n) (hn : n + 1 < 10 ^ digitLimit) :
    (count a t).leads (w.withState (w.engine.state.telling [(a.newProp, .bool true), (a.endedProp, .bool false),
        (a.statusProp, .text Status.started.name)]))
      (fun _ => Held (n + 1) (.start a) a .started (k + 1)) fun _ _ => False := by
  obtain ⟨key, hkey⟩ := exists_counterKey (n := k + 1) (Nat.lt_of_le_of_lt (Nat.succ_le_succ hk) hn)
  let u := w.withState (w.engine.state.telling [(a.newProp, .bool true), (a.endedProp, .bool false),
    (a.statusProp, .text Status.started.name)])
  have hcount : readCounter (u.engine.state.windows.get (.counter a)).key = .ok k := hw.standing.key
  refine (leads_count hcount hkey).2 ?_
  let y : Window := ⟨key, t.later (w.engine.state.windows.get (.counter a)).since⟩
  let st : EngineState := { w.engine.state.telling (a.opening (k + 1 : Nat)) with
    windows := w.engine.state.windows.set (.counter a) y }
  have hs : Standing a .started (k + 1) st := hw.standing.start hx (readCounter_key hkey)
  have ha : Axes (n + 1) { w.engine with state := st } := by
    intro b
    by_cases hb : b = a
    · subst hb
      exact ⟨_, _, hs, Nat.succ_le_succ hk, fun _ => hw.running⟩
    · obtain ⟨z, m, hz, hm, hr⟩ := hw.good.engine.axes b
      have hwin : st.windows.get (.counter b) = w.engine.state.windows.get (.counter b) :=
        Windows.get_set_of_ne (fun h => hb (Period.counter.inj h)) _ _
      exact ⟨z, m, (hz.other hb (a.opening_names (k + 1 : Nat))).congr (fun _ _ => rfl) (congrArg Window.key hwin),
        Nat.le_succ_of_le hm, hr⟩
  have hl : Lifecycle (n + 1) { w.engine with state := st } :=
    ⟨ha, (hw.good.engine.games.other (a.opening_balance (k + 1 : Nat))).congr fun _ _ => rfl⟩
  refine ⟨⟨hl, fun x hx => ?_⟩, hw.running, hs⟩
  rcases List.mem_cons.1 hx with rfl | hx
  · exact hl
  · exact (hw.good.trace x hx).mono (Nat.le_succ n)

/-- an axis that is not open is started; whether that fails or not, it is not told to start any more -/
theorem begin_held {a : Axis} {x : Status} {k : Nat} (hw : Held n (.start a) a x k w) (hx : x.isOpen = false)
    (hk : k ≤ n) (hn : n + 1 < 10 ^ digitLimit) :
    (s.begin a).leads w (fun _ w' => ∃ y m, y ≠ .started ∧ Held (n + 1) (.start a) a y m w')
      (fun _ w' => ∃ y m, y ≠ .started ∧ Held (n + 1) (.start a) a y m w') := by
  have hne : x ≠ .started := by
    rintro rfl
    cases hx
  -- until the axis is told to start, a clock or a hook that fails leaves it where it stood
  have left : ∀ v : World σ, Held n (.start a) a x k v → ∃ y m, y ≠ .started ∧ Held (n + 1) (.start a) a y m v :=
    fun v hv => ⟨x, k, hne, hv.good.mono (Nat.le_succ n), hv.running, hv.standing⟩
  unfold begin
  rw [leads_bind]
  refine (hw.apart now_apart).mono (fun t u hu => ?_) fun _ u hu => left u hu
  rw [leads_bind]
  refine (hu.apart (refresh_apart t)).mono (fun _ v hv => ?_) fun _ v hv => left v hv
  rw [leads_bind, leads_changeSystem, leads_bind]
  refine (count_held hv hx hk hn).mono (fun _ z hz => ?_) fun _ z hz => hz.elim
  exact (present_held hz (Nat.succ_le_succ hk)).imp fun z hz => ⟨.inProgress, k + 1, nofun, hz⟩

/-! ## Requests -/

/-- how many starts an operation is -/
def Operation.starts : Operation → Nat
  | .start _ => 1
  | _ => 0

/-- how many starts a request asks for -/
def Request.starts : Request → Nat
  | .operate op => op.starts
  | _ => 0

/-- the lifecycle holds while an operation runs, and no axis is told to start -/
structure Calm (n : Nat) (op : Operation) (w : World σ) : Prop where
  good : Good n w
  running : w.engine.running = some op
  calm : ∀ a, w.engine.state.status a ≠ .started

/-- an axis that is told to start is the one whose start runs -/
theorem Good.calm {op : Operation} (hg : Good n w) (hr : w.engine.running = some op)
    (h : ∀ a, op = .start a → w.engine.state.status a ≠ .started) : Calm n op w := by
  refine ⟨hg, hr, fun a hs => ?_⟩
  obtain ⟨x, m, hx, -, hrun⟩ := hg.engine.axes a
  have hop : some op = some (.start a) := hr.symm.trans (hrun (hx.status_eq.symm.trans hs))
  exact h a (Option.some.inj hop) hs

theorem Held.calm {op : Operation} {a : Axis} {x : Status} {k : Nat} (h : Held n op a x k w) (hx : x ≠ .started)
    (hop : ∀ b, op = .start b → b = a) : Calm n op w :=
  h.good.calm h.running fun b hb => by rw [hop b hb, h.standing.status_eq]; exact hx

namespace Calm

variable {op : Operation}

theorem beside (h : Calm n op w) (hb : Beside w w') : Calm n op w' := by
  refine ⟨h.good.beside hb, hb.engine.running.trans h.running, fun a => ?_⟩
  rw [hb.engine.status a]
  exact h.calm a

theorem apart (h : Calm n op w) {r : Run σ α} (hr : Apart r) : r.leads w (fun _ => Calm n op) (fun _ => Calm n op) := by
  have hb : w.engine.busy = true := by rw [Engine.busy, h.running]; rfl
  exact (hr w).imp fun _ hw => h.beside (.of_chain (hw hb).1)

/-- where an axis stands that is told neither to start nor to be open -/
theorem standing (h : Calm n op w) (a : Axis) :
    ∃ x k, Held n op a x k w ∧ k ≤ n ∧
      (if (w.engine.state.status a).isOpen then x = .inProgress else x.isOpen = false) := by
  obtain ⟨x, k, hs, hk, -⟩ := h.good.engine.axes a
  refine ⟨x, k, ⟨h.good, h.running, hs⟩, hk, ?_⟩
  have hne := h.calm a
  rw [hs.status_eq] at hne ⊢
  cases x <;> first | rfl | exact absurd rfl hne

end Calm

/-- what an operation does keeps the lifecycle -/
theorem perform_calm {op : Operation} (hop : op.isLoad = false) (hw : Calm n op w)
    (hn : n + op.starts < 10 ^ digitLimit) :
    (s.perform op).leads w (fun _ => Calm (n + op.starts) op) (fun _ => Calm (n + op.starts) op) := by
  cases op with
  | evaluate => exact hw.apart refreshAndRun_apart
  | start a =>
    have started : ∀ {v : World σ}, (∃ y m, y ≠ .started ∧ Held (n + 1) (.start a) a y m v) →
        Calm (n + 1) (.start a) v := by
      rintro v ⟨_, _, hy, hv⟩
      exact hv.calm hy fun b hb => (Operation.start.inj hb).symm
    obtain ⟨x, k, hs, hk, hx⟩ := hw.standing a
    simp only [perform, leads_bind, leads_state, leads_ite]
    split
    case isTrue ho =>
      rw [if_pos ho] at hx
      subst hx
      refine (closeBeforeStart_held hw.good hw.running hs.standing hk).mono (fun _ v hv => ?_) fun _ v hv => ?_
      · exact (begin_held hv rfl hk hn).imp fun _ => started
      · exact started ⟨.ended, k, by decide, hv.good.mono (Nat.le_succ n), hv.running, hv.standing⟩
    case isFalse ho =>
      rw [if_neg ho] at hx
      exact (begin_held hs hx hk hn).imp fun _ => started
  | endSession =>
    obtain ⟨x, k, hs, hk, hx⟩ := hw.standing .session
    simp only [perform, leads_bind, leads_state, leads_ite]
    split
    case isTrue ho =>
      rw [if_pos ho] at hx
      subst hx
      have hb : Balanced Axis.session.owed w.engine.state := hw.good.engine.games
      exact (close_held hw.good.trace hw.good.engine.axes hb hw.running hs.standing hk).imp
        fun _ hv => hv.calm (by decide) (by simp)
    case isFalse => exact (leads_pure ()).2 hw
  | endGame r =>
    obtain ⟨x, k, hs, hk, hx⟩ := hw.standing .game
    simp only [perform, leads_bind, leads_state, leads_ite]
    split
    case isTrue ho =>
      rw [if_pos ho] at hx
      subst hx
      exact (closeGame_held hw.good hw.running hs.standing hk r).imp fun _ hv => hv.calm (by decide) (by simp)
    case isFalse => exact (leads_pure ()).2 hw
  | load v => cases hop

/-- the lifecycle holds, and no operation runs -/
structure Resting (n : Nat) (w : World σ) : Prop where
  good : Good n w
  idle : w.engine.running = none

theorem Resting.beside (h : Resting n w) (hb : Beside w w') : Resting n w' :=
  ⟨h.good.beside hb, hb.engine.running.trans h.idle⟩

theorem Resting.busy (h : Resting n w) : w.engine.busy = false := by
  rw [Engine.busy, h.idle]
  rfl

/-- nothing is told to start while no operation runs -/
theorem Resting.calm (h : Resting n w) (a : Axis) : w.engine.state.status a ≠ .started := by
  intro hs
  obtain ⟨x, m, hx, -, hr⟩ := h.good.engine.axes a
  cases h.idle.symm.trans (hr (hx.status_eq.symm.trans hs))

/-- where nothing is told to start, the lifecycle does not depend on what runs -/
theorem Lifecycle.of_calm {e e' : Engine} (h : Lifecycle n e) (calm : ∀ a, e.state.status a ≠ .started)
    (he : e'.state = e.state) : Lifecycle n e' := by
  refine ⟨fun a => ?_, he ▸ h.games⟩
  obtain ⟨x, m, hx, hm, -⟩ := h.axes a
  exact ⟨x, m, he ▸ hx, hm, fun hs => absurd (hx.status_eq.trans hs) (calm a)⟩

/-- an operation keeps the lifecycle -/
theorem operation_rests (op : Operation) (hop : op.isLoad = false) (hw : Resting n w)
    (hn : n + op.starts < 10 ^ digitLimit) :
    (operation op (s.perform op)).leads w (fun _ => Resting (n + op.starts)) (fun _ => Resting (n + op.starts)) := by
  have hb := hw.busy
  have entered : Calm n op (w.withEngine (enter op w.engine)) :=
    ⟨⟨hw.good.engine.of_calm hw.calm rfl, hw.good.trace⟩, rfl, hw.calm⟩
  have left : ∀ v : World σ, Calm (n + op.starts) op v →
      Resting (n + op.starts) (v.withEngine { v.engine with running := none, pending := false }) :=
    fun v hv => ⟨⟨hv.good.engine.of_calm hv.calm rfl, hv.good.trace⟩, rfl⟩
  unfold operation
  simp only [leads_bind, leads_engine, hb, Bool.false_eq_true, if_false, leads_pure, leads_changeEngine, leads_ensuring]
  exact (perform_calm hop entered hn).imp left

theorem Request.Asks.starts_eq {q : Request} {op : Operation} (h : q.Asks op) : op.starts = q.starts := by
  cases q with
  | write => cases h; rfl
  | operate => cases h; rfl
  | endGameFor => obtain ⟨r, rfl⟩ := h; rfl
  | _ => cases h

/-- a request that loads no state keeps the lifecycle -/
theorem answer_rests {q : Request} (hq : q.isLoad = false) (hw : Resting n w) (hn : n + q.starts < 10 ^ digitLimit) :
    (s.answer q).leads w (fun _ => Resting (n + q.starts)) (fun _ => Resting (n + q.starts)) := by
  refine answerWith_leads (P := Resting n) (fun v v' h hv => hv.beside h.beside) (fun v hv => ?_) ?_ hw
  · exact ⟨hv.good.mono (Nat.le_add_right _ _), hv.idle⟩
  · intro op hop v hv
    rw [← hop.starts_eq] at hn ⊢
    exact operation_rests op (hop.not_load hq) hv hn

/-! ## Runs -/

/-- the worlds a host comes to from a new engine, by changes of its own, by requests, and by loads of states that
engines wrote between operations; with the starts asked for on the way -/
inductive Life : {σ : Type} → Setup σ → Nat → World σ → Prop where
  | new {σ : Type} (s : Setup σ) (h : σ) : Life s 0 { host := h }
  | host {σ : Type} {s : Setup σ} {n : Nat} {w : World σ} (hw : Life s n w) (h : σ) : Life s n (w.withHost h)
  | asked {σ : Type} {s : Setup σ} {n : Nat} {w : World σ} (hw : Life s n w) (q : Request) (hq : q.isLoad = false) :
      Life s (n + q.starts) ((s.answer q).exec w).2
  | loaded {σ τ : Type} {s : Setup σ} {s' : Setup τ} {n m : Nat} {w : World σ} {v : World τ} (hw : Life s n w)
      (hv : Life s' m v) : Life s (max n m) ((s.answer (.operate (.load v.engine.state.toValue))).exec w).2

theorem Life.reached (h : Life s n w) : Reached s w := by
  induction h with
  | new s h => exact .new h
  | host hw h ih => exact .host ih h
  | asked hw q hq ih => exact .asked ih q trivial
  | loaded hw hv ih ihv => exact .asked ih _ trivial

theorem Standing.fresh (a : Axis) : Standing a .none 0 .fresh := by
  cases a <;> exact ⟨by decide, by decide, by decide, by decide, by decide, by decide⟩

theorem Balanced.fresh : Balanced 0 .fresh := by
  refine ⟨fun _ => 0, 0, fun r => ?_, by decide, rfl⟩
  cases r <;> decide

theorem Resting.new (h : σ) : Resting 0 ({ host := h } : World σ) := by
  refine { good := ⟨⟨fun a => ?_, .fresh⟩, fun _ hx => absurd hx List.not_mem_nil⟩, idle := rfl }
  exact ⟨.none, 0, .fresh a, Nat.le_refl 0, nofun⟩

/-- **Lifecycle.** In every world a host comes to, and at every point on the way where its code could look, sessions
and games are none, started, in progress or ended, with flags, counts and windows that fit; one is started only while a
start of it runs, and games ended as often as there were reasons for it. -/
theorem lifecycle_holds (hw : Life s n w) (hn : n < 10 ^ digitLimit) :
    Lifecycle n w.engine ∧ ∀ x ∈ w.trace, Lifecycle n x.engine := by
  have rests : Resting n w := by
    induction hw with
    | new s h => exact .new h
    | host hw h ih =>
      have hr := ih hn
      exact ⟨⟨hr.good.engine, hr.good.trace⟩, hr.idle⟩
    | asked hw q hq ih =>
      exact leads_const.1 (answer_rests hq (ih (Nat.lt_of_le_of_lt (Nat.le_add_right _ _) hn)) hn)
    | loaded hw hv ih ihv =>
      have hr := ih (Nat.lt_of_le_of_lt (Nat.le_max_left _ _) hn)
      have hv' := ihv (Nat.lt_of_le_of_lt (Nat.le_max_right _ _) hn)
      rw [exec_load hv.reached.reads_back hv.reached.kept.prepared.eq hw.reached.settled]
      refine ⟨⟨Lifecycle.mono ?_ (Nat.le_max_right _ _), (hr.good.mono (Nat.le_max_left _ _)).trace⟩, rfl⟩
      -- the engine that wrote the state was at rest, so nothing was started in it
      exact hv'.good.engine.of_calm hv'.calm rfl
  exact ⟨rests.good.engine, rests.good.trace⟩

/-- a game that was started again, but the clock failed after its end and the second start never happened -/
def interrupted : World (List Moment) :=
  World.after (clockwork sessionRule) { host := [july 930, july 931, july 932] }
    [.operate (.start .game), .operate (.start .game)]

/-- an engine that loaded the state the interrupted one left, and started a game -/
def resumed : World (List Moment) :=
  World.after (clockwork sessionRule) { host := [july 940, july 941] }
    [.operate (.load interrupted.engine.state.toValue), .operate (.start .game)]

/-- one game was ended to be restarted, and a second is in progress -/
theorem resumed_lifecycle : Life (clockwork sessionRule) 3 resumed ∧
    interrupted.engine.state.status .game = .ended ∧ resumed.engine.state.status .game = .inProgress ∧
    resumed.engine.state.system.get? "lifetimeGames" = some (.int 2) ∧
    resumed.engine.state.system.get? "lifetimeGameRestarts" = some (.int 1) ∧
    Lifecycle 3 resumed.engine ∧ ∀ x ∈ resumed.trace, Lifecycle 3 x.engine := by
  have hi : Life (clockwork sessionRule) 2 interrupted :=
    .asked (.asked (.new _ _) (.operate (.start .game)) rfl) (.operate (.start .game)) rfl
  have hr : Life (clockwork sessionRule) 3 resumed :=
    .asked (.loaded (.new _ _) hi) (.operate (.start .game)) rfl
  have hn : 3 < 10 ^ digitLimit :=
    Nat.lt_of_lt_of_le (by decide : 3 < 10 ^ 1) (Nat.pow_le_pow_right (by decide) (by decide))
  refine ⟨hr, ?_, ?_, ?_, ?_, lifecycle_holds hr hn⟩
  · decide +kernel
  · decide +kernel
  · decide +kernel
  · decide +kernel

end BadgeEngine
