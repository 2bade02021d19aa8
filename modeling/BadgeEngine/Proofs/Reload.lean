/-
Saving and loading a state goes unnoticed (`reload_agrees`).

What a step does depends on the engine and on the host, and not on the notes that were taken before (`Blind`). Between
operations it depends on less: the badges and the rollovers of the last operation are forgotten when the next begins.
So two worlds with the same host and the same state, in none of which an operation runs, are `Alike`: whatever program
the host plays, it comes to the same in both, and the same is seen to happen (`play_agrees`). An engine that loads the
state of another is like it, since a state is read back as it was written.
-/
import BadgeEngine.Proofs.Order
import BadgeEngine.Proofs.Twins

namespace BadgeEngine

open BadgeEngine.Time

variable {σ α β : Type} {s : Setup σ} {w v : World σ}

namespace Run

/-! ## Steps that do not look back -/

/-- what a step comes to, and the notes it takes, do not depend on the notes that were taken before -/
def Blind (r : Run σ α) : Prop :=
  ∀ e h, ∃ x e' h' notes, ∀ trace, r.exec ⟨e, h, trace⟩ = (x, ⟨e', h', notes ++ trace⟩)

namespace Blind

theorem pure (a : α) : Blind (Pure.pure a : Run σ α) := fun e h => ⟨.ok a, e, h, [], fun _ => rfl⟩

theorem throw (p : Problem) : Blind (throw p : Run σ α) := fun e h => ⟨.error p, e, h, [], fun _ => rfl⟩

theorem ofExcept (x : Except Problem α) : Blind (liftM x : Run σ α) := fun e h =>
  ⟨x, e, h, [], fun _ => by cases x <;> rfl⟩

theorem bind {r : Run σ β} {f : β → Run σ α} (hr : r.Blind) (hf : ∀ b, (f b).Blind) : Blind (r >>= f) := by
  intro e h
  obtain ⟨x, e₁, h₁, ns, hx⟩ := hr e h
  cases x with
  | error p => exact ⟨.error p, e₁, h₁, ns, fun trace => by rw [exec_bind, hx]⟩
  | ok b =>
    obtain ⟨y, e₂, h₂, ms, hy⟩ := hf b e₁ h₁
    refine ⟨y, e₂, h₂, ms ++ ns, fun trace => ?_⟩
    rw [exec_bind, hx, List.append_assoc]
    exact hy _

theorem engine : Blind (Run.engine : Run σ Engine) := fun e h => ⟨.ok e, e, h, [], fun _ => rfl⟩

theorem state : Blind (Run.state : Run σ EngineState) := fun e h => ⟨.ok e.state, e, h, [], fun _ => rfl⟩

theorem host : Blind (Run.host : Run σ σ) := fun e h => ⟨.ok h, e, h, [], fun _ => rfl⟩

theorem changeEngine (f : Engine → Engine) : Blind (Run.changeEngine f : Run σ Unit) := fun e h =>
  ⟨.ok (), f e, h, [], fun _ => rfl⟩

theorem setHost (h : σ) : Blind (Run.setHost h) := fun e _ => ⟨.ok (), e, h, [], fun _ => rfl⟩

theorem note (n : Note) : Blind (Run.note n : Run σ Unit) := fun e h => ⟨.ok (), e, h, [⟨n, e⟩], fun _ => rfl⟩

theorem attempt {r : Run σ α} (hr : r.Blind) : Blind (Run.attempt r) := by
  intro e h
  obtain ⟨x, e₁, h₁, ns, hx⟩ := hr e h
  exact ⟨.ok x, e₁, h₁, ns, fun trace => by rw [exec_attempt, hx]⟩

theorem ensuring {r : Run σ α} (hr : r.Blind) (f : Engine → Engine) : Blind (Run.ensuring r f) := by
  intro e h
  obtain ⟨x, e₁, h₁, ns, hx⟩ := hr e h
  exact ⟨x, f e₁, h₁, ns, fun trace => by rw [exec_ensuring, hx]⟩

/-- the steps of an engine do not look back -/
theorem closed : Closed (σ := σ) Blind where
  pure := pure
  bind := bind
  engine := engine
  changeEngine f _ := changeEngine f
  ofExcept _ := ofExcept _
  note n _ := note n
  ensuring f _ hr := hr.ensuring f

theorem ofScript {answer : Request → Run σ Answer} (ha : ∀ q, (answer q).Blind) (p : Script σ α) :
    Blind (Run.ofScript answer p) := by
  induction p with
  | finish h r => exact (note _).bind fun _ => (setHost h).bind fun _ => ofExcept r
  | look next ih => exact (note _).bind fun _ => state.bind fun st => ih st
  | ask h q next ih =>
    exact (note _).bind fun _ => (setHost h).bind fun _ => (ha q).attempt.bind fun a => host.bind fun h' => ih h' a

end Blind

end Run

open Run

namespace Setup

theorem now_blind : s.now.Blind := by
  unfold now
  refine Blind.host.bind fun h => ?_
  split
  exact (Blind.setHost _).bind fun _ => (Blind.note _).bind fun _ => Blind.ofExcept _

theorem operation_blind {op : Operation} {body : Run σ Unit} (hb : body.Blind) : (operation op body).Blind := by
  unfold operation
  refine Blind.engine.bind fun e => ?_
  have rest : Blind (do
      changeEngine fun e => { e with running := some op, news := [], rolled := {} }
      ensuring body fun e => { e with running := none, pending := false }
      return op.answer (← engine).news : Run σ Answer) :=
    (Blind.changeEngine _).bind fun _ => (hb.ensuring _).bind fun _ => Blind.engine.bind fun _ => .pure _
  split
  · exact (Blind.throw _).bind fun _ => rest
  · exact rest

theorem tell_blind (h : Hook) (p : Payload) : (s.tell h p).Blind := by
  unfold tell
  refine Blind.host.bind fun host => ?_
  split
  · exact .pure _
  · exact (Blind.note _).bind fun _ =>
      Blind.ofScript (Blind.closed.answerWith now_blind fun _ => operation_blind (.pure ())) _

theorem consider_blind (props system : Props) (r : Rule) : (s.consider props system r).Blind := by
  unfold consider
  split
  · exact .pure _
  · refine Blind.host.bind fun h => Blind.state.bind fun st => ?_
    split
    refine (Blind.setHost _).bind fun _ => (Blind.note _).bind fun _ => (Blind.ofExcept _).bind fun verdict => ?_
    split
    · exact Blind.closed.award now_blind tell_blind r
    · exact .pure _
    · exact Blind.closed.reportFailure tell_blind r _

theorem perform_blind (op : Operation) : (s.perform op).Blind :=
  Blind.closed.perform now_blind tell_blind consider_blind op

end Setup

/-! ## Alike worlds -/

/-- no operation runs, and none was asked for by a hook -/
def Engine.Settled (e : Engine) : Prop := e.running = none ∧ e.pending = false

theorem Engine.Settled.busy {e : Engine} (h : e.Settled) : e.busy = false := by
  rw [Engine.busy, h.1]
  rfl

/-- the same host and the same state, and no operation runs -/
structure Alike (w v : World σ) : Prop where
  host : w.host = v.host
  state : w.engine.state = v.engine.state
  left : w.engine.Settled
  right : v.engine.Settled

/-- what is seen of a note: what happened, and the state then -/
def Noted.seen (x : Noted) : Note × EngineState := (x.note, x.engine.state)

namespace Run

/-- a step goes the same way from two worlds: it comes to the same and leads to alike worlds, and the same is seen to
happen on the way -/
structure Agrees (r : Run σ α) (w v : World σ) : Prop where
  answer : (r.exec w).1 = (r.exec v).1
  alike : Alike (r.exec w).2 (r.exec v).2
  seen : ∃ ns ms : List Noted, (r.exec w).2.trace = ns ++ w.trace ∧ (r.exec v).2.trace = ms ++ v.trace ∧
    ns.map Noted.seen = ms.map Noted.seen

namespace Agrees

theorem pure (a : α) (h : Alike w v) : Agrees (Pure.pure a) w v := ⟨rfl, h, [], [], rfl, rfl, rfl⟩

theorem ofExcept (x : Except Problem α) (h : Alike w v) : Agrees (liftM x) w v := by
  cases x <;> exact ⟨rfl, h, [], [], rfl, rfl, rfl⟩

theorem bind {r : Run σ β} {f : β → Run σ α} (hr : r.Agrees w v) (hf : ∀ b w' v', Alike w' v' → (f b).Agrees w' v') :
    Agrees (r >>= f) w v := by
  obtain ⟨hx, ha, ns, ms, hns, hms, hs⟩ := hr
  rcases hw : r.exec w with ⟨x, w'⟩
  rcases hv : r.exec v with ⟨y, v'⟩
  rw [hw, hv] at hx ha
  rw [hw] at hns
  rw [hv] at hms
  cases hx
  cases x with
  | error e =>
    have hw' : exec (r >>= f) w = (.error e, w') := by rw [exec_bind, hw]
    have hv' : exec (r >>= f) v = (.error e, v') := by rw [exec_bind, hv]
    refine ⟨by rw [hw', hv'], by rw [hw', hv']; exact ha, ns, ms, by rw [hw']; exact hns, by rw [hv']; exact hms, hs⟩
  | ok b =>
    have hw' : exec (r >>= f) w = (f b).exec w' := by rw [exec_bind, hw]
    have hv' : exec (r >>= f) v = (f b).exec v' := by rw [exec_bind, hv]
    obtain ⟨hy, hb, ns', ms', hns', hms', hs'⟩ := hf b w' v' ha
    refine ⟨by rw [hw', hv', hy], by rw [hw', hv']; exact hb, ns' ++ ns, ms' ++ ms, ?_, ?_, ?_⟩
    · rw [hw', hns', hns, List.append_assoc]
    · rw [hv', hms', hms, List.append_assoc]
    · rw [List.map_append, List.map_append, hs', hs]

theorem state (h : Alike w v) : Agrees state w v := ⟨congrArg Except.ok h.state, h, [], [], rfl, rfl, rfl⟩

theorem host (h : Alike w v) : Agrees host w v := ⟨congrArg Except.ok h.host, h, [], [], rfl, rfl, rfl⟩

theorem setHost (x : σ) (h : Alike w v) : Agrees (setHost x) w v :=
  ⟨rfl, ⟨rfl, h.state, h.left, h.right⟩, [], [], rfl, rfl, rfl⟩

theorem change (f : EngineState → EngineState) (h : Alike w v) : Agrees (change f) w v :=
  ⟨rfl, ⟨h.host, congrArg f h.state, h.left, h.right⟩, [], [], rfl, rfl, rfl⟩

theorem note (n : Note) (h : Alike w v) : Agrees (note n) w v :=
  ⟨rfl, ⟨h.host, h.state, h.left, h.right⟩, [⟨n, w.engine⟩], [⟨n, v.engine⟩], rfl, rfl, by simp [Noted.seen, h.state]⟩

theorem congr {r r' : Run σ α} (hw : r.exec w = r'.exec w) (hv : r.exec v = r'.exec v) (h : r'.Agrees w v) :
    r.Agrees w v := by
  obtain ⟨ha, hl, hs⟩ := h
  rw [← hw, ← hv] at ha hl hs
  exact ⟨ha, hl, hs⟩

theorem attempt {r : Run σ α} (h : r.Agrees w v) : Agrees (attempt r) w v :=
  ⟨congrArg Except.ok h.answer, h.alike, h.seen⟩

end Agrees

end Run

namespace Setup

theorem now_agrees (h : Alike w v) : s.now.Agrees w v := by
  unfold now
  refine (Agrees.host h).bind fun x w' v' h => ?_
  split
  exact (Agrees.setHost _ h).bind fun _ _ _ h => (Agrees.note _ h).bind fun _ _ _ h => .ofExcept _ h

def enter (op : Operation) (e : Engine) : Engine := { e with running := some op, news := [], rolled := {} }

/-- what an operation does once it has begun -/
def underway (op : Operation) (body : Run σ Unit) : Run σ Answer := do
  ensuring body fun e => { e with running := none, pending := false }
  return op.answer (← engine).news

theorem exec_operation (op : Operation) (body : Run σ Unit) (hw : w.engine.Settled) :
    (operation op body).exec w = (underway op body).exec (w.withEngine (enter op w.engine)) := by
  have hbusy := hw.busy
  unfold operation
  rw [exec_bind]
  show (exec (if w.engine.busy then _ else _) w) = _
  rw [hbusy]
  rfl

theorem underway_blind {op : Operation} {body : Run σ Unit} (hb : body.Blind) : (underway op body).Blind :=
  (hb.ensuring _).bind fun _ => Blind.engine.bind fun _ => .pure _

theorem underway_settled (op : Operation) (body : Run σ Unit) (w : World σ) :
    ((underway op body).exec w).2.engine.Settled := by
  refine (leads_const (P := fun u => u.engine.Settled)).1 ?_
  simp only [underway, leads_bind, leads_ensuring, leads_engine, leads_pure]
  exact leads_const.2 ⟨rfl, rfl⟩

/-- an operation begins by forgetting what two alike worlds may differ in -/
theorem operation_agrees {op : Operation} {body : Run σ Unit} (hb : body.Blind) (h : Alike w v) :
    (operation op body).Agrees w v := by
  have same : enter op w.engine = enter op v.engine := by
    unfold enter
    rw [h.state, h.left.2, h.right.2]
  -- both enter the same engine, and from there only the older notes differ
  obtain ⟨x, e, x', ns, hx⟩ := underway_blind hb (enter op v.engine) v.host
  have hw : (operation op body).exec w = (x, ⟨e, x', ns ++ w.trace⟩) := by
    rw [exec_operation op body h.left, ← hx w.trace, ← same, ← h.host]
    rfl
  have hv : (operation op body).exec v = (x, ⟨e, x', ns ++ v.trace⟩) :=
    (exec_operation op body h.right).trans (hx v.trace)
  have he : e.Settled := by
    have hs := underway_settled op body (v.withEngine (enter op v.engine))
    rw [← exec_operation op body h.right, hv] at hs
    exact hs
  exact ⟨by rw [hw, hv], by rw [hw, hv]; exact ⟨rfl, rfl, he, he⟩, ns, ns, by rw [hw], by rw [hv], rfl⟩

/-- what depends on whether an operation runs, when none does -/
theorem exec_idle (r r' : Run σ α) (hw : w.engine.Settled) :
    exec (do if (← engine).busy then r else r') w = r'.exec w := by
  have hbusy := hw.busy
  rw [exec_bind]
  show exec (if w.engine.busy then r else r') w = r'.exec w
  rw [hbusy]
  rfl

theorem answer_agrees (q : Request) (h : Alike w v) : (s.answer q).Agrees w v := by
  have operation : ∀ (op : Operation) {w v : World σ}, Alike w v → (operation op (s.perform op)).Agrees w v :=
    fun op _ _ h => operation_agrees (perform_blind op) h
  unfold answer
  cases q with
  | write q skip =>
    refine (Agrees.state h).bind fun st _ _ h => (Agrees.ofExcept _ h).bind fun props _ _ h =>
      (Agrees.change _ h).bind fun _ w v h => ?_
    cases skip with
    | true => exact .pure _ h
    | false =>
      exact .congr (exec_idle _ _ h.left) (exec_idle _ _ h.right) (operation .evaluate h)
  | operate op => exact operation op h
  | endGameFor v => exact (Agrees.ofExcept _ h).bind fun r _ _ h => operation _ h
  | setBookmark name =>
    exact (now_agrees h).bind fun t _ _ h => (Agrees.change _ h).bind fun _ _ _ h => .pure _ h
  | clearBookmark name => exact (Agrees.change _ h).bind fun _ _ _ h => .pure _ h

/-- **Alike worlds.** A program of the host goes the same way from worlds that are alike. -/
theorem play_agrees (p : Script σ α) (h : Alike w v) : (s.play p).Agrees w v := by
  unfold play
  induction p generalizing w v with
  | finish x r =>
    exact (Agrees.note _ h).bind fun _ _ _ h => (Agrees.setHost x h).bind fun _ _ _ h => .ofExcept r h
  | look next ih => exact (Agrees.note _ h).bind fun _ _ _ h => (Agrees.state h).bind fun st _ _ h => ih st h
  | ask x q next ih =>
    exact (Agrees.note _ h).bind fun _ _ _ h => (Agrees.setHost x h).bind fun _ _ _ h =>
      (answer_agrees q h).attempt.bind fun a _ _ h => (Agrees.host h).bind fun x' _ _ h => ih x' a h

end Setup

/-! ## Loads -/

/-- no operation runs in a world a host comes to -/
theorem Reach.settled {may : Request → Prop} (hw : Reach s may w) : w.engine.Settled := by
  induction hw with
  | new => exact ⟨rfl, rfl⟩
  | host hw h ih => exact ih
  | asked hw q hq ih => exact (Setup.answer_agrees q ⟨rfl, rfl, ih, ih⟩).alike.left

/-- loading a state that is read without a warning puts it in place, and takes no note -/
theorem exec_load {st : EngineState} (hst : (EngineState.ofValue st.toValue).gives st) (hp : st.prepared = st)
    (hv : v.engine.Settled) :
    (s.answer (.operate (.load st.toValue))).exec v = (.ok .done, v.withEngine { state := st }) := by
  have body : ∀ u : World σ, (s.perform (.load st.toValue)).exec u = (.ok (), u.withState st) := by
    intro u
    have read : exec (ofWarned (EngineState.ofValue st.toValue)) u = (.ok st, u) := by
      unfold ofWarned
      rw [hst.answer]
      rfl
    unfold Setup.perform
    rw [exec_bind, read]
    show (Except.ok (), u.withState st.prepared) = _
    rw [hp]
  refine (Setup.exec_operation _ _ hv).trans ?_
  unfold Setup.underway
  rw [exec_bind, exec_ensuring, body]
  rfl

/-- **Save and reload.** The state of an engine, written and read, is what it was, and nothing is wrong with it. A
second engine with the same host that loads it is then like the first: whatever program the host plays comes to the
same on both, and the same is seen to happen. -/
theorem reload_agrees {w v : World σ} (hw : Reached s w) (hv : Reached s v) (hh : v.host = w.host) :
    (EngineState.ofValue w.engine.state.toValue).answer = (.ok w.engine.state, []) ∧
    ∃ u, (s.answer (.operate (.load w.engine.state.toValue))).exec v = (.ok .done, u) ∧
      u.engine.state = w.engine.state ∧ ∀ {α : Type} (p : Script σ α), (s.play p).Agrees w u := by
  refine ⟨hw.reads_back.answer, _, exec_load hw.reads_back hw.kept.prepared.eq hv.settled, rfl, fun p => ?_⟩
  exact Setup.play_agrees p ⟨hh.symm, rfl, hw.settled, rfl, rfl⟩

/-- a state from elsewhere: a badge that was never counted, and one without an id -/
def foreignState : Value :=
  .dict [(.ofText "earned", .list [
    .dict [(.ofText "id", .ofText "old"), (.ofText "count", .ofInt 0),
      (.ofText "lastEarned", .ofText "20220704T0915Z")],
    .dict [(.ofText "count", .ofInt 3), (.ofText "lastEarned", .ofText "20220704T0915Z")]])]

/-- an engine that loaded a state from elsewhere, and earned a badge in a session since -/
def wellTravelled : World (List Moment) :=
  World.after (clockwork sessionRule) { host := [july 930, july 931, july 932, july 933, july 934] }
    [.operate (.load foreignState), .operate (.start .session)]

/-- both badges are kept by an engine that loads the state, and another session goes the same way on both -/
theorem wellTravelled_reloads :
    wellTravelled.engine.state.ledger.entries.map (fun e => (e.id, e.count)) = [("old", 1), ("s", 1)] ∧
    (EngineState.ofValue wellTravelled.engine.state.toValue).answer = (.ok wellTravelled.engine.state, []) ∧
    ∃ u, ((clockwork sessionRule).answer (.operate (.load wellTravelled.engine.state.toValue))).exec
        { host := wellTravelled.host } = (.ok .done, u) ∧
      u.engine.state = wellTravelled.engine.state ∧ ∀ {α : Type} (p : Script (List Moment) α),
        ((clockwork sessionRule).play p).Agrees wellTravelled u := by
  have hw : Reached (clockwork sessionRule) wellTravelled := Reach.after (.new _) fun _ _ => trivial
  have hv : Reached (clockwork sessionRule) { host := wellTravelled.host } := .new _
  have hh : ({ host := wellTravelled.host } : World (List Moment)).host = wellTravelled.host := by dsimp only
  exact ⟨by decide +kernel, reload_agrees hw hv hh⟩

end BadgeEngine
