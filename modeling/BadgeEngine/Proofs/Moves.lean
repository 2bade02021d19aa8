/-
What a request may do to a world, move by move.

A hook moves the host, the properties and the bookmarks and takes notes (`HookMove`). The rules move the ledger too
(`RuleMove`): a match that is recorded is one move, from the verdict to the entry. Operations move the system
properties and the windows (`Move`). Every request but a load is a chain of moves (`answer_moves`), also when it
fails on the way.
-/
import Mathlib.Logic.Relation
import Mathlib.Tactic.Set
import BadgeEngine.Proofs.Run

namespace BadgeEngine

open BadgeEngine.Time Relation

variable {σ α : Type} {s : Setup σ} {w w' : World σ}

/-! ## Moves -/

/-- a note that tells of no rule and no window -/
def Note.isRemark : Note → Bool
  | .clock _ | .told .. | .turn _ | .warned _ => true
  | _ => false

namespace World

def withEngine (w : World σ) (e : Engine) : World σ := { w with engine := e }

/-- a world whose engine is in another state -/
def withState (w : World σ) (st : EngineState) : World σ := w.withEngine { w.engine with state := st }

def withHost (w : World σ) (h : σ) : World σ := { w with host := h }

/-- when the window of a rule began -/
def sinceOf (w : World σ) (r : Rule) : Instant := (w.engine.state.windows.get r.period).since

/-- a world in which a condition was just found to hold, and the clock shows an instant -/
def matching (w : World σ) (id : String) (t : Instant) : World σ :=
  (w.noting (.judged id (.ok (.ok true)))).noting (.clock (.ok t))

/-- what a match of a rule that earns its badge makes of a world -/
def earning (w : World σ) (r : Rule) (t : Instant) (e : Earned) (ledger : Ledger) : World σ :=
  ((w.matching r.id t).withEngine { w.engine with
    state := { w.engine.state with ledger }, news := Ledger.put e w.engine.news }).noting
      (.recorded r.id (w.sinceOf r) t (some e))

@[simp] theorem matching_engine (w : World σ) (id : String) (t : Instant) : (w.matching id t).engine = w.engine := rfl

@[simp] theorem matching_trace (w : World σ) (id : String) (t : Instant) : (w.matching id t).trace =
    ⟨.clock (.ok t), w.engine⟩ :: ⟨.judged id (.ok (.ok true)), w.engine⟩ :: w.trace := rfl

@[simp] theorem earning_trace (w : World σ) (r : Rule) (t : Instant) (e : Earned) (l : Ledger) :
    (w.earning r t e l).trace =
      ⟨.recorded r.id (w.sinceOf r) t (some e), (w.earning r t e l).engine⟩ :: (w.matching r.id t).trace := rfl

/-- what a refresh at an instant, with its local time, makes of a world -/
def refreshing (w : World σ) (t : Instant) (l : Moment) : World σ :=
  (w.withEngine (w.engine.refresh t l).1).noting (.refreshed t l (w.engine.refresh t l).2)

@[simp] theorem refreshing_running (w : World σ) (t : Instant) (l : Moment) :
    (w.refreshing t l).engine.running = w.engine.running := by
  simp only [refreshing, noting, withEngine, Engine.refresh]

@[simp] theorem refreshing_ledger (w : World σ) (t : Instant) (l : Moment) :
    (w.refreshing t l).engine.state.ledger = w.engine.state.ledger := by
  simp only [refreshing, noting, withEngine, Engine.refresh]

@[simp] theorem refreshing_props (w : World σ) (t : Instant) (l : Moment) :
    (w.refreshing t l).engine.state.props = w.engine.state.props := by
  simp only [refreshing, noting, withEngine, Engine.refresh]

@[simp] theorem refreshing_windows (w : World σ) (t : Instant) (l : Moment) :
    (w.refreshing t l).engine.state.windows = (w.engine.state.windows.refresh t l).1 := by
  simp only [refreshing, noting, withEngine, Engine.refresh]

@[simp] theorem refreshing_trace (w : World σ) (t : Instant) (l : Moment) : (w.refreshing t l).trace =
    ⟨.refreshed t l (w.engine.state.windows.refresh t l).2, (w.refreshing t l).engine⟩ :: w.trace := by
  simp only [refreshing, noting, withEngine, Engine.refresh]

theorem refreshing_busy (w : World σ) (t : Instant) (l : Moment) :
    (w.refreshing t l).engine.busy = w.engine.busy := by
  rw [Engine.busy, refreshing_running, Engine.busy]

def counting (w : World σ) (a : Axis) (n : Int) (windows : Windows) : World σ :=
  (w.withState { w.engine.state with windows, system := w.engine.state.system.set a.startsProp (.int n) }).noting
    (.counted a n)

@[simp] theorem counting_windows (w : World σ) (a : Axis) (n : Int) (windows : Windows) :
    (w.counting a n windows).engine.state.windows = windows := rfl

@[simp] theorem counting_trace (w : World σ) (a : Axis) (n : Int) (windows : Windows) :
    (w.counting a n windows).trace = ⟨.counted a n, (w.counting a n windows).engine⟩ :: w.trace := rfl

/-- the clock has shown an instant, and the ledger is as it was then -/
def hasRead (w : World σ) (t : Instant) : Prop :=
  ∃ x ∈ w.trace, x.note = .clock (.ok t) ∧ x.engine.state.ledger = w.engine.state.ledger

end World

/-- a move of a hook -/
inductive HookMove : World σ → World σ → Prop where
  | host (w : World σ) (h : σ) : HookMove w (w.withHost h)
  | remarked (w : World σ) (n : Note) (hn : n.isRemark) : HookMove w (w.noting n)
  | wrote (w : World σ) (q : Write) (props : Props) (hq : q.apply w.engine.state.props = .ok props) :
      HookMove w (w.withState { w.engine.state with props })
  | hinted (w : World σ) : HookMove w (w.withEngine { w.engine with pending := true })
  | marked (w : World σ) (name : String) (t : Instant) :
      HookMove w (w.withState { w.engine.state with bookmarks := w.engine.state.bookmarks.set name t })
  | cleared (w : World σ) (name : String) :
      HookMove w (w.withState { w.engine.state with bookmarks := w.engine.state.bookmarks.clear name })

/-- a move of the rules -/
inductive RuleMove (s : Setup σ) : World σ → World σ → Prop where
  | hook {w w' : World σ} (h : HookMove w w') : RuleMove s w w'
  | settled (w : World σ) : RuleMove s w (w.withEngine { w.engine with pending := false })
  | passed (w : World σ) : RuleMove s w (w.noting .pass)
  /-- a condition was judged, and does not hold -/
  | judged (w : World σ) (id : String) (v : Except Problem (Except String Bool)) (hv : v ≠ .ok (.ok true)) :
      RuleMove s w (w.noting (.judged id v))
  /-- a condition holds, but the clock fails -/
  | unread (w : World σ) (id : String) (e : Problem) :
      RuleMove s w ((w.noting (.judged id (.ok (.ok true)))).noting (.clock (.error e)))
  | held (w : World σ) (r : Rule) (hr : r ∈ s.rules) (t : Instant) (l : Ledger)
      (h : w.engine.state.ledger.record r (w.sinceOf r) t = (none, l)) :
      RuleMove s w ((w.matching r.id t).noting (.recorded r.id (w.sinceOf r) t none))
  | earned (w : World σ) (r : Rule) (hr : r ∈ s.rules) (t : Instant) (e : Earned) (l : Ledger)
      (h : w.engine.state.ledger.record r (w.sinceOf r) t = (some e, l)) : RuleMove s w (w.earning r t e l)

/-- a move of a request -/
inductive Move (s : Setup σ) : World σ → World σ → Prop where
  | rule {w w' : World σ} (h : RuleMove s w w') : Move s w w'
  | system (w : World σ) (name : String) (x : Scalar) :
      Move s w (w.withState { w.engine.state with system := w.engine.state.system.set name x })
  | refreshed (w : World σ) (t : Instant) (l : Moment) (ht : w.hasRead t) (hl : localTime s.zone t = .ok l) :
      Move s w (w.refreshing t l)
  | counted (w : World σ) (a : Axis) (t : Instant) (ht : w.hasRead t) (n : Int) (windows : Windows)
      (texts : List String)
      (ha : (w.engine.state.windows.advance a (.ok t)).answer = (.ok (n, windows), texts)) :
      Move s w (w.counting a n windows)
  | entered (w : World σ) (op : Operation) :
      Move s w (w.withEngine { w.engine with running := some op, news := [], rolled := {} })
  | left (w : World σ) : Move s w (w.withEngine { w.engine with running := none, pending := false })

/-- what hooks do, one move after another -/
abbrev HookMoves : World σ → World σ → Prop := ReflTransGen HookMove

/-- what the rules do, one move after another -/
abbrev RuleMoves (s : Setup σ) : World σ → World σ → Prop := ReflTransGen (RuleMove s)

/-- what requests do, one move after another -/
abbrev Moves (s : Setup σ) : World σ → World σ → Prop := ReflTransGen (Move s)

theorem HookMoves.rules (h : HookMoves w w') : RuleMoves s w w' :=
  ReflTransGen.mono (fun _ _ h => .hook h) _ _ h

theorem RuleMoves.moves (h : RuleMoves s w w') : Moves s w w' :=
  ReflTransGen.mono (fun _ _ h => .rule h) _ _ h

/-! ## Requests are chains of moves -/

/-- a relation that a step keeps to while an operation runs, and the operation goes on running -/
def Busy (R : World σ → World σ → Prop) (w w' : World σ) : Prop :=
  w.engine.busy → R w w' ∧ w'.engine.busy

namespace Busy

variable {R R' : World σ → World σ → Prop}

theorem refl (w : World σ) : Busy (ReflTransGen R) w w := fun hb => ⟨.refl, hb⟩

theorem trans ⦃u v w : World σ⦄ (h : Busy (ReflTransGen R) u v) (h' : Busy (ReflTransGen R) v w) :
    Busy (ReflTransGen R) u w := by
  intro hb
  obtain ⟨huv, hv⟩ := h hb
  obtain ⟨hvw, hw⟩ := h' hv
  exact ⟨huv.trans hvw, hw⟩

theorem mono (hR : ∀ w w', R w w' → R' w w') (h : Busy R w w') : Busy R' w w' := by
  intro hb
  obtain ⟨hw, hb'⟩ := h hb
  exact ⟨hR w w' hw, hb'⟩

theorem intro {r : Run σ α} (h : w.engine.busy → r.leads w (fun _ w' => R w w' ∧ w'.engine.busy)
    (fun _ w' => R w w' ∧ w'.engine.busy)) : r.leads w (fun _ => Busy R w) (fun _ => Busy R w) :=
  Run.leads_const.2 fun hb => Run.leads_const.1 (h hb)

theorem single (h : R w w') (hb : w'.engine.busy = w.engine.busy) : Busy (ReflTransGen R) w w' := fun hw =>
  ⟨.single h, hb.trans hw⟩

end Busy

open Run Setup

theorem leads_now {Q : Instant → World σ → Prop} {F : Problem → World σ → Prop} :
    s.now.leads w Q F ↔
      match (s.clock w.host).1.bind instantOf with
      | .ok t => Q t ((w.withHost (s.clock w.host).2).noting (.clock (.ok t)))
      | .error e => F e ((w.withHost (s.clock w.host).2).noting (.clock (.error e))) := by
  unfold now
  simp only [leads_bind, leads_host, leads_setHost, leads_note, leads_ofExcept]
  cases (s.clock w.host).1.bind instantOf <;> rfl

/-- nothing is done where there is no hook -/
theorem leads_tell {k : Hook} {p : Payload} (hook : s.hook w.host k p = none) {Q : Unit → World σ → Prop}
    {F : Problem → World σ → Prop} : (s.tell k p).leads w Q F ↔ Q () w := by
  simp only [Setup.tell, leads_bind, leads_host, hook, leads_pure]

/-- the clock is read by a move of the host and a remark; the engine stays -/
theorem now_moves (w : World σ) :
    s.now.leads w (fun _ w' => HookMoves w w' ∧ w'.engine = w.engine)
      (fun _ w' => HookMoves w w' ∧ w'.engine = w.engine) := by
  rw [leads_now]
  have h : ∀ r, HookMoves w ((w.withHost (s.clock w.host).2).noting (.clock r)) := by
    intro r
    exact .head (.host w _) (.single (.remarked _ _ rfl))
  split <;> exact ⟨h _, rfl⟩

/-- while an operation runs, another is refused and nothing changes -/
theorem leads_operation_busy {op : Operation} {body : Run σ Unit} (hb : w.engine.busy) {Q : Answer → World σ → Prop}
    {F : Problem → World σ → Prop} : (operation op body).leads w Q F ↔ F (.reentrant op.name) w := by
  unfold operation
  simp only [leads_bind, leads_engine, hb, if_true, leads_throw]

def Request.Asks : Request → Operation → Prop
  | .write .., op => op = .evaluate
  | .operate o, op => op = o
  | .endGameFor _, op => ∃ r, op = .endGame r
  | _, _ => False

/-- what moves of hooks keep is kept by a request, up to the operation it runs -/
theorem answerWith_leads {P P' : World σ → Prop} {body : Operation → Run σ Unit} {q : Request}
    (step : ∀ ⦃v v'⦄, HookMove v v' → P v → P v') (still : ∀ v, P v → P' v)
    (run : ∀ op, q.Asks op → ∀ v, P v → (operation op (body op)).leads v (fun _ => P') (fun _ => P')) (hw : P w) :
    (s.answerWith body q).leads w (fun _ => P') (fun _ => P') := by
  cases q with
  | write q skip =>
    simp only [answerWith, leads_bind, leads_state, leads_ofExcept, leads_change]
    cases hq : q.apply w.engine.state.props with
    | error e => exact still w hw
    | ok props =>
      have hv := step (.wrote w q props hq) hw
      cases skip with
      | true => exact (leads_pure _).2 (still _ hv)
      | false =>
        simp only [Bool.false_eq_true, if_false, leads_bind, leads_engine, leads_ite, leads_changeEngine, leads_pure]
        split
        case isTrue => exact still _ (step (.hinted _) hv)
        case isFalse => exact run .evaluate rfl _ hv
  | operate op => exact run op rfl w hw
  | endGameFor v =>
    simp only [answerWith, leads_bind, leads_ofExcept]
    cases EndReason.ofValue v with
    | error e => exact still w hw
    | ok r => exact run (.endGame r) ⟨r, rfl⟩ w hw
  | setBookmark name =>
    have read : ∀ {u}, HookMoves w u → P u := by
      intro u hu
      induction hu with
      | refl => exact hw
      | tail _ h ih => exact step h ih
    simp only [answerWith, leads_bind, leads_change, leads_pure]
    refine (now_moves w).mono (fun t u hu => ?_) fun _ u hu => still u (read hu.1)
    exact still _ (step (.marked u name t) (read hu.1))
  | clearBookmark name =>
    simp only [answerWith, leads_bind, leads_change, leads_pure]
    exact still _ (step (.cleared w name) hw)

theorem answerWith_within {R : World σ → World σ → Prop} {body : Operation → Run σ Unit} {q : Request}
    (refl : ∀ w, R w w) (trans : ∀ ⦃u v w⦄, R u v → R v w → R u w) (step : ∀ ⦃v v'⦄, HookMove v v' → R v v')
    (run : ∀ op, q.Asks op → (operation op (body op)).within R) : (s.answerWith body q).within R := by
  intro w
  refine answerWith_leads (P := R w) (fun v v' h hv => trans hv (step h)) (fun _ hv => hv) ?_ (refl w)
  exact fun op hop v hv => (run op hop v).imp fun _ hu => trans hv hu

theorem HookMove.busy (h : HookMove w w') : w'.engine.busy = w.engine.busy := by
  cases h <;> rfl

theorem answerHook_moves (q : Request) : (s.answerHook q).within (Busy HookMoves) := by
  refine answerWith_within Busy.refl Busy.trans (fun v v' h => .single h h.busy) fun op _ v => ?_
  exact Busy.intro fun hb => (leads_operation_busy hb).2 ⟨.refl, hb⟩

theorem tell_moves (h : Hook) (p : Payload) : (s.tell h p).within (Busy HookMoves) := by
  intro w
  simp only [Setup.tell, leads_bind, leads_host]
  cases s.hook w.host h p with
  | none => exact (leads_pure ()).2 (Busy.refl w)
  | some script =>
    have remark : ∀ n : Note, n.isRemark → (note n : Run σ Unit).within (Busy HookMoves) := by
      intro n hn v
      exact (leads_note n).2 (.single (.remarked v n hn) rfl)
    have host : ∀ h : σ, (setHost h).within (Busy HookMoves) := by
      intro h v
      exact (leads_setHost h).2 (.single (.host v h) rfl)
    refine (remark _ rfl).bind Busy.trans (fun _ => ?_) w
    exact within_ofScript Busy.trans (fun _ => remark _ rfl) host answerHook_moves script

theorem tellSnapshot_moves (h : Hook) : (s.tellSnapshot h).within (Busy HookMoves) := by
  intro w
  unfold tellSnapshot
  rw [leads_bind, leads_state]
  exact tell_moves h _ w

theorem tell_rules (h : Hook) (p : Payload) : (s.tell h p).within (Busy (RuleMoves s)) :=
  (tell_moves h p).mono fun _ _ hu => hu.mono fun _ _ => HookMoves.rules

/-- a match of a rule, once its condition was judged to hold -/
theorem award_moves {r : Rule} (hr : r ∈ s.rules) (h : σ) :
    (s.award r).leads ((w.withHost h).noting (.judged r.id (.ok (.ok true))))
      (fun _ => Busy (RuleMoves s) w) (fun _ => Busy (RuleMoves s) w) := by
  unfold award
  simp only [leads_bind, leads_state, leads_now]
  split
  case _ t ht =>
    -- the host moves first: no note tells of it
    generalize hv : (s.clock _).2 = h'
    have hw : RuleMoves s w (w.withHost h') := .single (.hook (.host w h'))
    split
    case _ l hl => exact (leads_note _).2 fun hb => ⟨hw.tail (.held (w.withHost h') r hr t l hl), hb⟩
    case _ e l hl =>
      simp only [leads_bind, leads_change, leads_changeEngine, leads_note]
      have he : RuleMoves s w ((w.withHost h').earning r t e l) := hw.tail (.earned _ r hr t e l hl)
      exact (tell_rules _ _ _).imp fun v hv hb => ⟨he.trans (hv hb).1, (hv hb).2⟩
  case _ e he =>
    exact fun hb => ⟨.head (.hook (.host w _)) (.single (.unread _ r.id e)), hb⟩

theorem reportFailure_moves (r : Rule) (text : String) : (s.reportFailure r text).within (Busy (RuleMoves s)) := by
  intro w
  unfold reportFailure
  refine within.bind Busy.trans (fun v => ?_) (fun _ => tell_rules _ _) w
  exact (leads_note _).2 (Busy.single (.hook (.remarked v _ rfl)) rfl)

theorem consider_moves {r : Rule} (hr : r ∈ s.rules) (props system : Props) :
    (s.consider props system r).within (Busy (RuleMoves s)) := by
  intro w
  rcases hj : s.judge w.host ⟨props, system, w.engine.state.ledger⟩ r.condition with ⟨verdict, h⟩
  unfold consider
  cases r.active with
  | false => exact (leads_pure ()).2 (Busy.refl w)
  | true =>
    simp only [Bool.not_true, Bool.false_eq_true, if_false, leads_bind, leads_host, leads_state, hj]
    simp only [leads_setHost, leads_note, leads_ofExcept]
    have hw : RuleMoves s w (w.withHost h) := .single (.hook (.host w h))
    have other : ∀ v, v ≠ .ok (.ok true) → Busy (RuleMoves s) w ((w.withHost h).noting (.judged r.id v)) := by
      intro v hv hb
      exact ⟨hw.tail (.judged _ r.id v hv), hb⟩
    rcases verdict with e | text | _ | _
    · exact other _ (by simp)
    · exact (reportFailure_moves r text _).imp fun _ hu => Busy.trans (other (.ok (.error text)) (by simp)) hu
    · exact (leads_pure ()).2 (other (.ok (.ok false)) (by simp))
    · exact award_moves hr h

theorem pass_moves : s.pass.within (Busy (RuleMoves s)) := by
  have settle : (changeEngine fun e => { e with pending := false } : Run σ Unit).within (Busy (RuleMoves s)) := by
    intro w
    exact (leads_changeEngine _).2 (Busy.single (.settled w) rfl)
  have passed : (note .pass : Run σ Unit).within (Busy (RuleMoves s)) := by
    intro w
    exact (leads_note _).2 (Busy.single (.passed w) rfl)
  unfold Setup.pass
  refine settle.bind Busy.trans fun _ => passed.bind Busy.trans fun _ w => ?_
  simp only [leads_bind, leads_state, leads_engine, leads_pure]
  exact within_forM Busy.refl Busy.trans s.rules (fun r hr => consider_moves hr _ _) w

theorem passes_moves (n : Nat) : (s.passes n).within (Busy (RuleMoves s)) := by
  induction n with
  | zero =>
    refine pass_moves.bind Busy.trans fun again w => ?_
    rcases again with _ | _
    · exact (leads_pure ()).2 (Busy.refl w)
    · simp only [if_true, leads_bind, leads_note, leads_changeEngine]
      exact Busy.trans (.single (.hook (.remarked w (.warned passWarning) rfl)) rfl) (.single (.settled _) rfl)
  | succ n ih =>
    refine pass_moves.bind Busy.trans fun again w => ?_
    rcases again with _ | _
    · exact (leads_pure ()).2 (Busy.refl w)
    · exact ih w

theorem runRules_moves : s.runRules.within (Busy (RuleMoves s)) := passes_moves passLimit

/-! ### Operations -/

attribute [local irreducible] Engine.refresh

theorem HookMove.keeps_reading (h : HookMove w w') {t : Instant} (ht : w.hasRead t) : w'.hasRead t := by
  obtain ⟨x, hx, hn, hl⟩ := ht
  cases h with
  | remarked => exact ⟨x, List.mem_cons_of_mem _ hx, hn, hl⟩
  | _ => exact ⟨x, hx, hn, hl⟩

theorem HookMoves.keeps_reading (h : HookMoves w w') {t : Instant} (ht : w.hasRead t) : w'.hasRead t := by
  induction h with
  | refl => exact ht
  | tail _ h ih => exact h.keeps_reading ih

/-- what a refresh does: nothing when the instant has no local time, else the hook is called after it -/
def Refreshed (s : Setup σ) (t : Instant) (w w' : World σ) : Prop :=
  w' = w ∨ ∃ l, localTime s.zone t = .ok l ∧ HookMoves (w.refreshing t l) w'

theorem refresh_does (w : World σ) (t : Instant) :
    (s.refresh t).leads w (fun _ => Busy (Refreshed s t) w) (fun _ => Busy (Refreshed s t) w) := by
  refine Busy.intro fun hb => ?_
  unfold refresh
  simp only [leads_bind, leads_ofExcept]
  cases hl : localTime s.zone t with
  | error e => exact ⟨.inl rfl, hb⟩
  | ok l =>
    simp only [leads_engine, leads_changeEngine, leads_note, leads_ite, leads_pure]
    have hb' := (w.refreshing_busy t l).trans hb
    split
    · refine (tellSnapshot_moves .newTimePeriod (w.refreshing t l)).imp fun v hv => ?_
      exact ⟨.inr ⟨l, hl, (hv hb').1⟩, (hv hb').2⟩
    · exact ⟨.inr ⟨l, hl, .refl⟩, hb'⟩

theorem Refreshed.moves {t : Instant} (h : Refreshed s t w w') (ht : w.hasRead t) : Moves s w w' := by
  obtain rfl | ⟨l, hl, h⟩ := h
  · exact .refl
  · exact .head (.refreshed w t l ht hl) h.rules.moves

theorem Refreshed.keeps_reading {t : Instant} (h : Refreshed s t w w') (ht : w.hasRead t) : w'.hasRead t := by
  obtain rfl | ⟨l, hl, h⟩ := h
  · exact ht
  · obtain ⟨x, hx, hn, hx'⟩ := ht
    exact h.keeps_reading ⟨x, List.mem_cons_of_mem _ hx, hn, hx'.trans (w.refreshing_ledger t l).symm⟩

theorem runRules_quiet : s.runRules.within (Busy (Moves s)) :=
  runRules_moves.mono fun _ _ h => h.mono fun _ _ => RuleMoves.moves

theorem tell_quiet (h : Hook) (p : Payload) : (s.tell h p).within (Busy (Moves s)) :=
  (tell_rules h p).mono fun _ _ h => h.mono fun _ _ => RuleMoves.moves

theorem tellSnapshot_quiet (h : Hook) : (s.tellSnapshot h).within (Busy (Moves s)) := by
  intro w
  unfold tellSnapshot
  rw [leads_bind, leads_state]
  exact tell_quiet h _ w

/-- the clock is read, and a program goes on that moves when the clock was read -/
theorem afterNow_moves {f : Instant → Run σ α} (hf : ∀ t (u : World σ), u.hasRead t →
    (f t).leads u (fun _ => Busy (Moves s) u) (fun _ => Busy (Moves s) u)) : (s.now >>= f).within (Busy (Moves s)) := by
  intro w
  rw [leads_bind, leads_now]
  have read : ∀ r, Busy (Moves s) w ((w.withHost (s.clock w.host).2).noting (.clock r)) := by
    intro r hb
    exact ⟨.head (.rule (.hook (.host w _))) (.single (.rule (.hook (.remarked _ _ rfl)))), hb⟩
  split
  case _ t _ => exact (hf t _ ⟨_, List.mem_cons_self, rfl, rfl⟩).imp fun v hv => Busy.trans (read _) hv
  case _ e _ => exact read _

/-- the windows are refreshed, and a program goes on that moves when the clock was read -/
theorem afterRefresh_moves {t : Instant} {r : Run σ α} (ht : w.hasRead t) (hr : ∀ u : World σ, u.hasRead t →
    r.leads u (fun _ => Busy (Moves s) u) (fun _ => Busy (Moves s) u)) :
    (do s.refresh t; r).leads w (fun _ => Busy (Moves s) w) (fun _ => Busy (Moves s) w) := by
  have moved : ∀ {v}, Busy (Refreshed s t) w v → Busy (Moves s) w v := by
    intro v hv hb
    exact ⟨(hv hb).1.moves ht, (hv hb).2⟩
  refine Busy.intro fun hb => ?_
  rw [leads_bind]
  refine (refresh_does w t).mono (fun _ v hv => ?_) fun _ v hv => moved hv hb
  exact (hr v ((hv hb).1.keeps_reading ht)).imp fun u hu => Busy.trans (moved hv) hu hb

/-- the clock is read, the windows are refreshed at the instant it shows, and the rules run -/
theorem refreshAndRun_moves : (do s.refresh (← s.now); s.runRules : Run σ Unit).within (Busy (Moves s)) :=
  afterNow_moves fun _ _ ht => afterRefresh_moves ht fun u _ => runRules_quiet u

theorem addValue_sets {p p' : Props} {name : String} {v : Value} (h : p.addValue name v = .ok p') :
    ∃ x, p' = p.set name x := by
  unfold Props.addValue at h
  cases hx : p.sumWith name (asNumber v) with
  | error e => rw [hx] at h; cases h
  | ok x => rw [hx] at h; cases h; exact ⟨x, rfl⟩

theorem bump_moves (name : String) : (bump name).within (Busy (Moves s)) := by
  intro w
  simp only [bump, leads_bind, leads_state, leads_ofExcept, leads_changeSystem]
  cases hp : w.engine.state.system.addValue name (.ofInt 1) with
  | error e => exact Busy.refl w
  | ok p =>
    obtain ⟨x, rfl⟩ := addValue_sets hp
    exact Busy.single (.system w name x) rfl

theorem close_moves (a : Axis) : (s.close a).within (Busy (Moves s)) := by
  have shown : (changeSystem fun p => (p.set a.endedProp (.bool true)).set a.statusProp (.text Status.ended.name) :
      Run σ Unit).within (Busy (Moves s)) := by
    intro w
    exact (leads_changeSystem _).2 fun hb => ⟨.head (.system w _ _) (.single (.system _ _ _)), hb⟩
  unfold close
  refine shown.bind Busy.trans fun _ => (bump_moves _).bind Busy.trans fun _ => ?_
  exact (tellSnapshot_quiet _).bind Busy.trans fun _ => refreshAndRun_moves

theorem closeGame_moves (r : EndReason) : (s.closeGame r).within (Busy (Moves s)) := by
  have shown : (changeSystem fun p => p.set endReasonProp (.text r.name) : Run σ Unit).within (Busy (Moves s)) := by
    intro w
    exact (leads_changeSystem _).2 (Busy.single (.system w _ _) rfl)
  unfold closeGame
  exact shown.bind Busy.trans fun _ => (bump_moves _).bind Busy.trans fun _ => close_moves .game

theorem closeBeforeStart_moves (a : Axis) : (s.closeBeforeStart a).within (Busy (Moves s)) := by
  cases a with
  | session => exact close_moves .session
  | game => exact closeGame_moves .implicitRestart

@[simp] theorem World.warning_engine (w : World σ) (texts : List String) : (w.warning texts).engine = w.engine := by
  induction texts generalizing w with
  | nil => rfl
  | cons text texts ih => exact ih _

theorem World.warning_trace (w : World σ) (texts : List String) :
    (w.warning texts).trace = texts.reverse.map (fun text => ⟨.warned text, w.engine⟩) ++ w.trace := by
  induction texts generalizing w with
  | nil => rfl
  | cons text texts ih =>
    refine (ih (w.noting (.warned text))).trans ?_
    rw [World.noting_trace, List.reverse_cons, List.map_append, List.append_assoc]
    rfl

theorem warning_moves (w : World σ) (texts : List String) : HookMoves w (w.warning texts) := by
  induction texts generalizing w with
  | nil => exact .refl
  | cons text texts ih => exact .head (.remarked w (.warned text) rfl) (ih _)

theorem count_moves (a : Axis) {t : Instant} (ht : w.hasRead t) :
    (count a t).leads w (fun _ => Busy (Moves s) w) (fun _ => Busy (Moves s) w) := by
  unfold count
  simp only [leads_bind, leads_state, leads_ofWarned]
  rcases ha : (w.engine.state.windows.advance a (.ok t)).answer with ⟨_ | ⟨n, windows⟩, texts⟩
  all_goals
    have hw : HookMoves w (w.warning texts) := warning_moves w texts
    have he : (w.warning texts).engine = w.engine := w.warning_engine texts
  · exact fun hb => ⟨hw.rules.moves, he ▸ hb⟩
  · have hx : (w.warning texts).hasRead t := hw.keeps_reading ht
    simp only [leads_change, leads_note]
    exact fun hb => ⟨hw.rules.moves.tail (.counted _ a t hx n windows texts (he ▸ ha)), he ▸ hb⟩

theorem present_moves (a : Axis) : (s.present a).within (Busy (Moves s)) := by
  intro w
  have told : (do s.tellSnapshot (.started a); s.runRules : Run σ Unit).within (Busy (Moves s)) :=
    (tellSnapshot_quiet _).bind Busy.trans fun _ => runRules_quiet
  have shown : ∀ v : World σ, Moves s w v →
      Moves s w (v.withState { v.engine.state with
        system := (v.engine.state.system.set a.newProp (.bool false)).set a.statusProp
          (.text Status.inProgress.name) }) := by
    intro v hv
    exact (hv.tail (.system v _ _)).tail (.system _ _ _)
  unfold present
  rw [leads_ensuring]
  refine (told w).mono (fun _ v hv hb => ?_) fun _ v hv hb => ?_
  all_goals exact ⟨shown v (hv hb).1, (hv hb).2⟩

/-- an axis is shown as started, counted up and presented; the clock was read before -/
theorem open_moves (a : Axis) {t : Instant} (ht : w.hasRead t) :
    (do
      changeSystem fun p =>
        ((p.set a.newProp (.bool true)).set a.endedProp (.bool false)).set a.statusProp (.text Status.started.name)
      count a t
      s.present a : Run σ Unit).leads w (fun _ => Busy (Moves s) w) (fun _ => Busy (Moves s) w) := by
  let x := w.withState { w.engine.state with
    system := ((w.engine.state.system.set a.newProp (.bool true)).set a.endedProp (.bool false)).set a.statusProp
      (.text Status.started.name) }
  have hwx : Busy (Moves s) w x := by
    intro hb
    exact ⟨((ReflTransGen.single (.system w _ _)).tail (.system _ _ _)).tail (.system _ _ _), hb⟩
  have htx : x.hasRead t := ht
  rw [leads_bind, leads_changeSystem, leads_bind]
  refine (count_moves (s := s) a htx).mono (fun _ y hy => ?_) fun _ y hy => Busy.trans hwx hy
  exact (present_moves a y).imp fun z hz => Busy.trans hwx (Busy.trans hy hz)

theorem begin_moves (a : Axis) : (s.begin a).within (Busy (Moves s)) :=
  afterNow_moves fun _ _ ht => afterRefresh_moves ht fun _ ht' => open_moves a ht'

def Operation.isLoad : Operation → Bool
  | .load _ => true
  | _ => false

theorem perform_moves {op : Operation} (hop : op.isLoad = false) : (s.perform op).within (Busy (Moves s)) := by
  intro w
  cases op with
  | evaluate => exact refreshAndRun_moves w
  | start a =>
    simp only [perform, leads_bind, leads_state, leads_ite]
    split
    · rw [← leads_bind]
      exact (closeBeforeStart_moves a).bind Busy.trans (fun _ => begin_moves a) w
    · exact begin_moves a w
  | endSession =>
    simp only [perform, leads_bind, leads_state, leads_ite]
    split
    · exact close_moves .session w
    · exact (leads_pure ()).2 (Busy.refl w)
  | endGame r =>
    simp only [perform, leads_bind, leads_state, leads_ite]
    split
    · exact closeGame_moves r w
    · exact (leads_pure ()).2 (Busy.refl w)
  | load v => cases hop

def Request.isLoad : Request → Bool
  | .operate op => op.isLoad
  | _ => false

/-- a relation that a step keeps to while no operation runs, and none runs after it -/
def Idle (R : World σ → World σ → Prop) (w w' : World σ) : Prop :=
  w.engine.busy = false → R w w' ∧ w'.engine.busy = false

namespace Idle

variable {R R' : World σ → World σ → Prop}

theorem refl (w : World σ) : Idle (ReflTransGen R) w w := fun hb => ⟨.refl, hb⟩

theorem trans ⦃u v w : World σ⦄ (h : Idle (ReflTransGen R) u v) (h' : Idle (ReflTransGen R) v w) :
    Idle (ReflTransGen R) u w := by
  intro hb
  obtain ⟨huv, hv⟩ := h hb
  obtain ⟨hvw, hw⟩ := h' hv
  exact ⟨huv.trans hvw, hw⟩

theorem intro {r : Run σ α} (h : w.engine.busy = false →
    r.leads w (fun _ w' => R w w' ∧ w'.engine.busy = false) (fun _ w' => R w w' ∧ w'.engine.busy = false)) :
    r.leads w (fun _ => Idle R w) (fun _ => Idle R w) :=
  leads_const.2 fun hb => leads_const.1 (h hb)

theorem single (h : R w w') (hb : w'.engine.busy = w.engine.busy) : Idle (ReflTransGen R) w w' := fun hw =>
  ⟨.single h, hb.trans hw⟩

theorem mono (hR : ∀ w w', R w w' → R' w w') (h : Idle R w w') : Idle R' w w' := by
  intro hb
  obtain ⟨hw, hb'⟩ := h hb
  exact ⟨hR w w' hw, hb'⟩

end Idle

/-- an operation does what its body does, between an entry and a leave -/
theorem operation_idle {R : World σ → World σ → Prop} {op : Operation} {body : Run σ Unit}
    (entered : ∀ w : World σ, R w (w.withEngine { w.engine with running := some op, news := [], rolled := {} }))
    (left : ∀ w : World σ, R w (w.withEngine { w.engine with running := none, pending := false }))
    (hbody : body.within (Busy (ReflTransGen R))) : (operation op body).within (Idle (ReflTransGen R)) := by
  intro w
  refine Idle.intro fun hb => ?_
  unfold operation
  simp only [leads_bind, leads_engine, hb, Bool.false_eq_true, if_false, leads_pure, leads_changeEngine, leads_ensuring]
  let v := w.withEngine { w.engine with running := some op, news := [], rolled := {} }
  refine (hbody v).mono (fun _ u hu => ?_) fun _ u hu => ?_
  all_goals exact ⟨((ReflTransGen.single (entered w)).trans (hu rfl).1).tail (left u), rfl⟩

theorem operation_moves (op : Operation) (hop : op.isLoad = false) :
    (operation op (s.perform op)).within (Idle (Moves s)) :=
  operation_idle (.entered · op) .left (perform_moves hop)

/-- a request that loads no state asks for no operation that does -/
theorem Request.Asks.not_load {q : Request} {op : Operation} (h : q.Asks op) (hq : q.isLoad = false) :
    op.isLoad = false := by
  cases q with
  | write => cases h; rfl
  | operate => cases h; exact hq
  | endGameFor => obtain ⟨r, rfl⟩ := h; rfl
  | _ => cases h

/-- **Requests.** A request that loads no state is a chain of moves, whether it comes to an answer or fails. -/
theorem answer_moves {q : Request} (hq : q.isLoad = false) : (s.answer q).within (Idle (Moves s)) :=
  answerWith_within Idle.refl Idle.trans (fun _ _ h => .single (.rule (.hook h)) h.busy) fun op hop =>
    operation_moves op (hop.not_load hq)

end BadgeEngine
