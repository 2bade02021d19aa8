/-
Two engines side by side.

A relation between programs may be passed on from their parts to the whole (`Composable`, `Compatible`). Two engines in
the same zone differ in how they read the clock, tell the host and pass over the rules; if these are related
(`Parallel`), so are their operations (`Parallel.perform`). One such relation is that two programs come to the same from
the same engine and host, with notes that match (`Mirrors`): then whatever program the host plays, it comes to the same
on both engines (`Mirrors.play`).
-/
import BadgeEngine.Proofs.Outline

namespace BadgeEngine

open BadgeEngine.Time Run Setup

variable {σ α β : Type} {s s' : Setup σ}

/-! ## Relations between programs -/

/-- a relation between programs that is passed on from their parts to the whole, and holds between a step of an engine
and itself; no such step begins or ends an operation, and none of the problems it may fail with is a refusal -/
structure Composable (P : ∀ {α : Type}, Run σ α → Run σ α → Prop) : Prop where
  pure : ∀ {α : Type} (x : α), P (pure x) (pure x)
  bind : ∀ {α β : Type} {r r' : Run σ β} {f f' : β → Run σ α}, P r r' → (∀ b, P (f b) (f' b)) → P (r >>= f) (r' >>= f')
  engine : P Run.engine Run.engine
  changeEngine : ∀ f : Engine → Engine, (∀ e, (f e).busy = e.busy) → P (Run.changeEngine f) (Run.changeEngine f)
  ofExcept : ∀ {α : Type} {x : Except Problem α}, NoRefusal x → P (liftM x) (liftM x)

/-- such a relation to which the notes of an engine and the end of a start make no difference -/
structure Compatible (P : ∀ {α : Type}, Run σ α → Run σ α → Prop) : Prop extends Composable P where
  note : ∀ n : Note, n.isTurn = false → P (Run.note n) (Run.note n)
  ensuring : ∀ {α : Type} {r r' : Run σ α} (f : Engine → Engine), (∀ e, (f e).busy = e.busy) → P r r' →
    P (Run.ensuring r f) (Run.ensuring r' f)

variable {P : ∀ {α : Type}, Run σ α → Run σ α → Prop}

namespace Composable

theorem state (hP : Composable P) : P Run.state Run.state := hP.bind hP.engine fun _ => hP.pure _

theorem change (hP : Composable P) (f : EngineState → EngineState) : P (Run.change f) (Run.change f) :=
  hP.changeEngine _ fun _ => rfl

/-- what holds between any step of an engine and itself holds between steps that see and change its outline -/
theorem seeing (hP : Composable P) : Seeing P where
  pure := hP.pure
  bind := hP.bind
  see _ := hP.bind hP.engine fun _ => hP.pure _
  redraw f hf := hP.changeEngine f hf.busy
  ofExcept := hP.ofExcept

theorem forM (hP : Composable P) {f f' : β → Run σ PUnit} (l : List β) (hf : ∀ b, P (f b) (f' b)) :
    P (l.forM f) (l.forM f') :=
  hP.seeing.forM l hf

/-- engines that read the clock and run operations in related ways answer in related ways -/
theorem answerWith (hP : Composable P) (now : P s.now s'.now) {body body' : Operation → Run σ Unit}
    (run : ∀ op, P (operation op (body op)) (operation op (body' op))) (q : Request) :
    P (s.answerWith body q) (s'.answerWith body' q) :=
  hP.seeing.answerWith id hP.bind now (fun _ => hP.change _) fun op _ => run op

end Composable

namespace Compatible

theorem outlined (hP : Compatible P) : Outlined P where
  toSeeing := hP.seeing
  note := hP.note
  ensuring f hf h := hP.ensuring f hf.busy h

theorem award (hP : Compatible P) (now : P s.now s'.now) (tell : ∀ h p, P (s.tell h p) (s'.tell h p)) (r : Rule) :
    P (s.award r) (s'.award r) := by
  unfold Setup.award
  refine hP.bind hP.state fun _ => hP.bind now fun _ => hP.bind hP.state fun _ => ?_
  split
  · exact hP.note _ rfl
  · exact hP.bind (hP.change _) fun _ => hP.bind (hP.changeEngine _ fun _ => rfl) fun _ =>
      hP.bind (hP.note _ rfl) fun _ => tell _ _

theorem reportFailure (hP : Compatible P) (tell : ∀ h p, P (s.tell h p) (s'.tell h p)) (r : Rule) (message : String) :
    P (s.reportFailure r message) (s'.reportFailure r message) :=
  hP.bind (hP.note _ rfl) fun _ => tell _ _

theorem pass (hP : Compatible P) (rules : ∀ props system,
    P (s.rules.forM (s.consider props system)) (s'.rules.forM (s'.consider props system))) : P s.pass s'.pass :=
  hP.outlined.pass rules

end Compatible

/-- engines that differ in related ways do the same for an operation, up to the relation -/
theorem Parallel.perform (hP : Compatible P) (h : Parallel P s s') (op : Operation) :
    P (s.perform op) (s'.perform op) := by
  cases op with
  | load v => exact hP.bind (hP.outlined.ofWarned (.ofValue v)) fun _ => hP.change _
  | _ => exact h.unloading hP.outlined rfl

/-! ### One engine -/

/-- a property of programs that is passed on from their parts to the whole, and that the steps of an engine have -/
abbrev Closed (Q : ∀ {α : Type}, Run σ α → Prop) : Prop := Compatible (σ := σ) fun r _ => Q r

namespace Closed

variable {Q : ∀ {α : Type}, Run σ α → Prop}

theorem award (hQ : Closed Q) (now : Q s.now) (tell : ∀ h p, Q (s.tell h p)) (r : Rule) : Q (s.award r) :=
  @Compatible.award σ s s _ hQ now tell r

theorem reportFailure (hQ : Closed Q) (tell : ∀ h p, Q (s.tell h p)) (r : Rule) (message : String) :
    Q (s.reportFailure r message) :=
  @Compatible.reportFailure σ s s _ hQ tell r message

theorem perform (hQ : Closed Q) (now : Q s.now) (tell : ∀ h p, Q (s.tell h p))
    (consider : ∀ props system r, Q (s.consider props system r)) (op : Operation) : Q (s.perform op) := by
  have rules : ∀ props system, Q (s.rules.forM (s.consider props system)) := fun props system =>
    @Composable.forM σ Rule _ hQ.toComposable _ (s.consider props system) s.rules (consider props system)
  have pass : Q s.pass := @Compatible.pass σ s s _ hQ rules
  exact @Parallel.perform σ s s _ hQ ⟨rfl, now, tell, pass⟩ op

theorem answerWith (hQ : Closed Q) (now : Q s.now) {body : Operation → Run σ Unit}
    (run : ∀ op, Q (operation op (body op))) (q : Request) : Q (s.answerWith body q) :=
  @Composable.answerWith σ s s _ hQ.toComposable now body body run q

end Closed

/-! ## Runs that come to the same -/

/-- whatever notes were taken before, a program goes from an engine and a host to an engine and a host, and takes
notes on the way -/
def Run.Goes (r : Run σ α) (e : Engine) (h : σ) (x : Except Problem α) (e' : Engine) (h' : σ) (ns : List Noted) : Prop :=
  ∀ older, r.exec ⟨e, h, older⟩ = (x, ⟨e', h', ns ++ older⟩)

namespace Run.Goes

variable {e e' e'' : Engine} {h h' h'' : σ} {ns ms : List Noted} {b : β} {p : Problem} {x : Except Problem α}
  {r : Run σ β} {f : β → Run σ α}

theorem bind (hr : r.Goes e h (.ok b) e' h' ns) (hf : (f b).Goes e' h' x e'' h'' ms) :
    Goes (r >>= f) e h x e'' h'' (ms ++ ns) := by
  intro older
  rw [exec_bind, hr, List.append_assoc]
  exact hf _

theorem bind_error (hr : r.Goes e h (.error p) e' h' ns) : Goes (r >>= f) e h (.error p) e' h' ns := by
  intro older
  rw [exec_bind, hr]

/-- the notes taken on a way are those that are found then -/
theorem notes_eq {x' : Except Problem β} {x : Except Problem β} (hr : r.Goes e h x e' h' ns)
    (hr' : r.Goes e h x' e'' h'' ms) : ns = ms := by
  have same := (hr []).symm.trans (hr' [])
  simpa using congrArg (fun p => p.2.trace) same

variable {answer : Request → Run σ Answer}

theorem finish (e : Engine) (h l : σ) (x : Except Problem α) :
    Goes (ofScript answer (.finish l x)) e h x e l [⟨.turn (.ending x), e⟩] := fun _ => exec_finish ..

theorem look {next : EngineState → Script σ α} (hn : Goes (ofScript answer (next e.state)) e h x e' h' ns) :
    Goes (ofScript answer (.look next)) e h x e' h' (ns ++ [⟨.turn .look, e⟩]) := by
  intro older
  rw [exec_look, List.append_assoc]
  exact hn _

theorem ask {l : σ} {q : Request} {a : Except Problem Answer} {next : σ → Except Problem Answer → Script σ α}
    (ha : (answer q).Goes e l a e' h' ns) (hn : Goes (ofScript answer (next h' a)) e' h' x e'' h'' ms) :
    Goes (ofScript answer (.ask l q next)) e h x e'' h'' (ms ++ ns ++ [⟨.turn (.ask q), e⟩]) := by
  intro older
  let u : World σ := ⟨e, l, ⟨.turn (.ask q), e⟩ :: older⟩
  have asked : exec (answer q) u = (a, ⟨e', h', ns ++ u.trace⟩) := ha _
  have turned : exec (ofScript answer (.ask l q next)) ⟨e, h, older⟩ =
      exec (ofScript answer (next (exec (answer q) u).2.host (exec (answer q) u).1)) (exec (answer q) u).2 :=
    exec_ask ..
  rw [turned, asked, List.append_assoc, List.append_assoc]
  exact hn _

end Run.Goes

/-- a way to match the notes of a run with those of another one; a note that is no turn is matched by itself -/
structure Matching (m : List Noted → List Noted → Prop) : Prop where
  nil : m [] []
  append : ∀ {ns ms ns' ms' : List Noted}, m ns ms → m ns' ms' → m (ns' ++ ns) (ms' ++ ms)
  note : ∀ x : Noted, x.note.isTurn = false → m [x] [x]

/-- from an engine, in which an operation runs or not, a program goes some way; and if it takes only notes of a kind,
then another one comes to the same, with notes that match -/
def Mirrors (fine : Noted → Prop) (m : List Noted → List Noted → Prop) (busy : Bool) {α : Type} (r r' : Run σ α) :
    Prop :=
  ∀ e h, e.busy = busy → ∃ x e' h' ns, e'.busy = busy ∧ r.Goes e h x e' h' ns ∧
    ((∀ y ∈ ns, fine y) → ∃ ms, m ns ms ∧ r'.Goes e h x e' h' ms)

namespace Mirrors

variable {fine : Noted → Prop} {m : List Noted → List Noted → Prop} {busy : Bool}

theorem ofExcept (hm : Matching m) (x : Except Problem α) : Mirrors fine m busy (liftM x : Run σ α) (liftM x) := by
  intro e h hb
  have goes : Goes (liftM x : Run σ α) e h x e h [] := by
    intro older
    cases x <;> rfl
  exact ⟨x, e, h, [], hb, goes, fun _ => ⟨[], hm.nil, goes⟩⟩

theorem bind (hm : Matching m) {r r' : Run σ β} {f f' : β → Run σ α} (hr : Mirrors fine m busy r r')
    (hf : ∀ b, Mirrors fine m busy (f b) (f' b)) : Mirrors fine m busy (r >>= f) (r' >>= f') := by
  intro e h hb
  obtain ⟨x, e₁, h₁, ns, hb₁, goes, same⟩ := hr e h hb
  cases x with
  | error p =>
    refine ⟨.error p, e₁, h₁, ns, hb₁, goes.bind_error, fun hn => ?_⟩
    obtain ⟨ms, hms, goes'⟩ := same hn
    exact ⟨ms, hms, goes'.bind_error⟩
  | ok b =>
    obtain ⟨y, e₂, h₂, ns', hb₂, next, same'⟩ := hf b e₁ h₁ hb₁
    refine ⟨y, e₂, h₂, ns' ++ ns, hb₂, goes.bind next, fun hn => ?_⟩
    obtain ⟨ms, hms, goes'⟩ := same fun x hx => hn x (List.mem_append_right _ hx)
    obtain ⟨ms', hms', next'⟩ := same' fun x hx => hn x (List.mem_append_left _ hx)
    exact ⟨ms' ++ ms, hm.append hms hms', goes'.bind next'⟩

/-- a step of an engine mirrors itself -/
theorem compatible (hm : Matching m) : Compatible (σ := σ) (Mirrors fine m busy) where
  pure x e h hb := ⟨.ok x, e, h, [], hb, fun _ => rfl, fun _ => ⟨[], hm.nil, fun _ => rfl⟩⟩
  bind := bind hm
  engine e h hb := ⟨.ok e, e, h, [], hb, fun _ => rfl, fun _ => ⟨[], hm.nil, fun _ => rfl⟩⟩
  changeEngine f hf e h hb :=
    ⟨.ok (), f e, h, [], (hf e).trans hb, fun _ => rfl, fun _ => ⟨[], hm.nil, fun _ => rfl⟩⟩
  note n hn e h hb := ⟨.ok (), e, h, [⟨n, e⟩], hb, fun _ => rfl, fun _ => ⟨_, hm.note ⟨n, e⟩ hn, fun _ => rfl⟩⟩
  ofExcept _ := ofExcept hm _
  ensuring f hf hr e h hb := by
    obtain ⟨x, e', h', ns, hb', goes, same⟩ := hr e h hb
    refine ⟨x, f e', h', ns, (hf e').trans hb', fun older => by rw [exec_ensuring, goes], fun hn => ?_⟩
    obtain ⟨ms, hms, goes'⟩ := same hn
    exact ⟨ms, hms, fun older => by rw [exec_ensuring, goes']⟩

theorem setHost (hm : Matching m) (h : σ) : Mirrors fine m busy (Run.setHost h) (Run.setHost h) :=
  fun e _ hb => ⟨.ok (), e, h, [], hb, fun _ => rfl, fun _ => ⟨[], hm.nil, fun _ => rfl⟩⟩

theorem host (hm : Matching m) : Mirrors fine m busy (Run.host : Run σ σ) Run.host :=
  fun e h hb => ⟨.ok h, e, h, [], hb, fun _ => rfl, fun _ => ⟨[], hm.nil, fun _ => rfl⟩⟩

theorem attempt {r r' : Run σ α} (hr : Mirrors fine m busy r r') :
    Mirrors fine m busy (Run.attempt r) (Run.attempt r') := by
  intro e h hb
  obtain ⟨x, e', h', ns, hb', goes, same⟩ := hr e h hb
  refine ⟨.ok x, e', h', ns, hb', fun older => by rw [exec_attempt, goes], fun hn => ?_⟩
  obtain ⟨ms, hms, goes'⟩ := same hn
  exact ⟨ms, hms, fun older => by rw [exec_attempt, goes']⟩

theorem now (hm : Matching m) : Mirrors fine m busy s.now s.now := by
  unfold Setup.now
  refine bind hm (host hm) fun h => ?_
  split
  exact bind hm (setHost hm _) fun _ => bind hm ((compatible hm).note _ rfl) fun _ => ofExcept hm _

/-- an operation is refused, or does what its body does -/
theorem operation (hm : Matching m) {op : Operation} {body body' : Run σ Unit}
    (hr : Mirrors fine m true body body') : Mirrors fine m busy (operation op body) (operation op body') := by
  intro e h hb
  cases busy with
  | true =>
    have refused : ∀ body : Run σ Unit, Goes (Setup.operation op body) e h (.error (.reentrant op.name)) e h [] := by
      intro body older
      unfold Setup.operation
      rw [exec_bind]
      show exec (if e.busy then _ else _) _ = _
      rw [hb]
      rfl
    exact ⟨_, e, h, [], hb, refused _, fun _ => ⟨[], hm.nil, refused _⟩⟩
  | false =>
    obtain ⟨x, e', h', ns, -, goes, same⟩ := hr { e with running := some op, news := [], rolled := {} } h rfl
    have entered : ∀ (body : Run σ Unit) older, exec (Setup.operation op body) ⟨e, h, older⟩ =
        exec (do
          ensuring body fun e => { e with running := none, pending := false }
          return op.answer (← Run.engine).news)
          ⟨{ e with running := some op, news := [], rolled := {} }, h, older⟩ := by
      intro body older
      unfold Setup.operation
      rw [exec_bind]
      show exec (if e.busy then _ else _) _ = _
      rw [hb]
      rfl
    have run : ∀ {body : Run σ Unit} {ns},
        Goes body { e with running := some op, news := [], rolled := {} } h x e' h' ns →
        Goes (Setup.operation op body) e h (x.map fun _ => op.answer e'.news)
          { e' with running := none, pending := false } h' ns := by
      intro body ns goes older
      rw [entered, exec_bind, exec_ensuring, goes]
      cases x <;> rfl
    refine ⟨_, _, h', ns, rfl, run goes, fun hn => ?_⟩
    obtain ⟨ms, hms, goes'⟩ := same hn
    exact ⟨ms, hms, run goes'⟩

/-- a program that is answered in two ways which mirror each other -/
theorem ofScript (hm : Matching m) (turn : ∀ d e, e.busy = busy → m [⟨.turn d, e⟩] [⟨.turn d, e⟩])
    {answer answer' : Request → Run σ Answer} (ha : ∀ q, Mirrors fine m busy (answer q) (answer' q)) (p : Script σ α) :
    Mirrors fine m busy (Run.ofScript answer p) (Run.ofScript answer' p) := by
  have turned : ∀ d, Mirrors fine m busy (Run.note (.turn d) : Run σ Unit) (Run.note (.turn d)) :=
    fun d e h hb => ⟨.ok (), e, h, [⟨.turn d, e⟩], hb, fun _ => rfl, fun _ => ⟨_, turn d e hb, fun _ => rfl⟩⟩
  induction p with
  | finish h r => exact bind hm (turned _) fun _ => bind hm (setHost hm h) fun _ => ofExcept hm r
  | look next ih => exact bind hm (turned _) fun _ => bind hm (compatible hm).state fun st => ih st
  | ask h q next ih =>
    exact bind hm (turned _) fun _ => bind hm (setHost hm h) fun _ => bind hm (ha q).attempt fun a =>
      bind hm (host hm) fun h' => ih h' a

/-- the answers to a hook mirror themselves -/
theorem answerHook (hm : Matching m) (q : Request) : Mirrors fine m busy (s.answerHook q) (s.answerHook q) :=
  (compatible hm).answerWith (now hm) (fun _ => operation hm ((compatible hm).pure ())) q

/-- hooks are told in ways that mirror each other if their programs do -/
theorem tell (hm : Matching m) {f : Script σ Unit → Script σ Unit} (hooks : ∀ h k p, s'.hook h k p = (s.hook h k p).map f)
    (scripts : ∀ q, Mirrors fine m busy (Run.ofScript s.answerHook q) (Run.ofScript s'.answerHook (f q))) (k : Hook)
    (p : Payload) : Mirrors fine m busy (s.tell k p) (s'.tell k p) := by
  unfold Setup.tell
  refine bind hm (host hm) fun h => ?_
  rw [hooks]
  cases s.hook h k p with
  | none => exact (compatible hm).pure ()
  | some q => exact bind hm ((compatible hm).note _ rfl) fun _ => scripts q

end Mirrors

namespace Setup

/-- what follows on a verdict about a rule -/
def heed (s : Setup σ) (r : Rule) (verdict : Except Problem (Except String Bool)) : Run σ Unit := do
  match ← verdict with
  | .ok true => s.award r
  | .ok false => return ()
  | .error message => s.reportFailure r message

/-- a rule that is not active does nothing -/
theorem consider_of_inactive {r : Rule} (hr : r.active = false) (props system : Props) :
    s.consider props system r = pure () := by
  unfold consider
  rw [hr]
  rfl

variable {r : Rule} {w : World σ} {verdict : Except Problem (Except String Bool)} {h : σ} {props system : Props}

/-- a rule that is active is judged, and the verdict is heeded -/
theorem exec_consider (hr : r.active = true)
    (judged : s.judge w.host ⟨props, system, w.engine.state.ledger⟩ r.condition = (verdict, h)) :
    (s.consider props system r).exec w = (s.heed r verdict).exec ((w.withHost h).noting (.judged r.id verdict)) := by
  let j := s.judge w.host ⟨props, system, w.engine.state.ledger⟩ r.condition
  have considered : (s.consider props system r).exec w =
      (s.heed r j.1).exec ((w.withHost j.2).noting (.judged r.id j.1)) := by
    unfold consider
    rw [hr]
    rfl
  have same : j = (verdict, h) := judged
  rw [considered, same]

theorem leads_consider (hr : r.active = true)
    (judged : s.judge w.host ⟨props, system, w.engine.state.ledger⟩ r.condition = (verdict, h))
    {Q : Unit → World σ → Prop} {F : Problem → World σ → Prop} :
    (s.consider props system r).leads w Q F ↔
      (s.heed r verdict).leads ((w.withHost h).noting (.judged r.id verdict)) Q F := by
  simp only [leads_iff, exec_consider hr judged]

end Setup

namespace Mirrors

variable {fine : Noted → Prop} {m : List Noted → List Noted → Prop} {busy : Bool}

/-- what a rule comes to, with the note of the verdict -/
theorem considered {r : Rule} (hr : r.active = true) {e e' : Engine} {h h' h₁ : σ} {x : Except Problem Unit}
    {ns : List Noted} {props system : Props} {verdict : Except Problem (Except String Bool)}
    (judged : s.judge h ⟨props, system, e.state.ledger⟩ r.condition = (verdict, h₁))
    (goes : Goes (s.heed r verdict) e h₁ x e' h' ns) :
    Goes (s.consider props system r) e h x e' h' (ns ++ [⟨.judged r.id verdict, e⟩]) := by
  intro older
  rw [exec_consider (w := ⟨e, h, older⟩) hr judged, List.append_assoc]
  exact goes _

/-- a verdict is heeded in ways that mirror each other -/
theorem heed (hm : Matching m) (now : Mirrors fine m busy s.now s'.now)
    (tell : ∀ k p, Mirrors fine m busy (s.tell k p) (s'.tell k p)) (r : Rule)
    (verdict : Except Problem (Except String Bool)) : Mirrors fine m busy (s.heed r verdict) (s'.heed r verdict) := by
  refine bind hm (ofExcept hm verdict) fun v => ?_
  rcases v with message | _ | _
  · exact (compatible hm).reportFailure tell r message
  · exact (compatible hm).pure ()
  · exact (compatible hm).award now tell r

/-- engines that are told the same verdicts consider a rule in ways that mirror each other -/
theorem consider (hm : Matching m) (judge : s'.judge = s.judge) (now : Mirrors fine m busy s.now s'.now)
    (tell : ∀ k p, Mirrors fine m busy (s.tell k p) (s'.tell k p)) (props system : Props) (r : Rule) :
    Mirrors fine m busy (s.consider props system r) (s'.consider props system r) := by
  cases hr : r.active with
  | false =>
    rw [consider_of_inactive hr, consider_of_inactive hr]
    exact (compatible hm).pure ()
  | true =>
    intro e h hb
    rcases judged : s.judge h ⟨props, system, e.state.ledger⟩ r.condition with ⟨verdict, h₁⟩
    have judged' := judged
    rw [← judge] at judged'
    obtain ⟨x, e', h', ns, hb', goes, same⟩ := heed hm now tell r verdict e h₁ hb
    refine ⟨x, e', h', ns ++ [⟨.judged r.id verdict, e⟩], hb', considered hr judged goes, fun hn => ?_⟩
    obtain ⟨ms, hms, goes'⟩ := same fun y hy => hn y (List.mem_append_left _ hy)
    exact ⟨ms ++ [⟨.judged r.id verdict, e⟩], hm.append (hm.note _ rfl) hms, considered hr judged' goes'⟩

/-- **Twins.** Engines whose operations mirror each other, with the same clock, answer a program of the host in ways
that mirror each other. -/
theorem play (hm : Matching m) (h : Parallel (Mirrors fine m true) s s') (clock : s'.clock = s.clock)
    (turn : ∀ d e, e.busy = false → m [⟨.turn d, e⟩] [⟨.turn d, e⟩]) (p : Script σ α) :
    Mirrors fine m false (s.play p) (s'.play p) := by
  have read : s'.now = s.now := by
    unfold Setup.now
    rw [clock]
  have reads : Mirrors fine m false s.now s'.now := read ▸ now hm
  have answers : ∀ q, Mirrors fine m false (s.answer q) (s'.answer q) :=
    (compatible hm).answerWith reads fun op => operation hm (h.perform (compatible hm) op)
  exact ofScript hm turn answers p

end Mirrors

end BadgeEngine
