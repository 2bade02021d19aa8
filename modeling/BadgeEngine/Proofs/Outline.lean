/-
The outline of an engine: all of it but the ledger and the badges of the operation that runs. Apart from what the rules
and the hooks do, an operation sees and changes the outline only. So a relation between programs that is passed on from
parts to the whole, and holds between a step of this kind and itself (`Outlined`), holds between the operations of two
engines if it holds between how they read the clock, tell the host and pass over the rules (`Parallel.unloading`).

One such relation is that two programs, from worlds that are coupled in some way, come to the same and leave worlds that
are coupled, unless the first takes a note after which nothing is said (`Couples`).
-/
import BadgeEngine.Proofs.Refusals

namespace BadgeEngine

open BadgeEngine.Time Run Setup

variable {σ α β : Type} {s s' : Setup σ}

/-! ## Outlines -/

/-- an engine but for its ledger, which operation runs and the badges of it -/
structure Outline where
  props : Props
  system : Props
  windows : Windows
  bookmarks : Bookmarks
  busy : Bool
  pending : Bool
  rolled : Rollover

def Engine.outline (e : Engine) : Outline :=
  ⟨e.state.props, e.state.system, e.state.windows, e.state.bookmarks, e.busy, e.pending, e.rolled⟩

/-- a change of an engine that is a change of its outline, and leaves the rest as it is -/
structure Outward (f : Engine → Engine) : Prop where
  outline : ∃ g : Outline → Outline, ∀ e, (f e).outline = g e.outline
  ledger : ∀ e, (f e).state.ledger = e.state.ledger
  busy : ∀ e, (f e).busy = e.busy

/-- such a change that an operation makes of its own: bookmarks are set and cleared by hosts only -/
structure Routine (f : Engine → Engine) : Prop extends Outward f where
  bookmarks : ∀ e, (f e).state.bookmarks = e.state.bookmarks

namespace Routine

theorem changeProps (props : Props) : Routine fun e => { e with state := { e.state with props } } :=
  ⟨⟨⟨fun o => { o with props }, fun _ => rfl⟩, fun _ => rfl, fun _ => rfl⟩, fun _ => rfl⟩

theorem changeSystem (f : Props → Props) :
    Routine fun e => { e with state := { e.state with system := f e.state.system } } :=
  ⟨⟨⟨fun o => { o with system := f o.system }, fun _ => rfl⟩, fun _ => rfl, fun _ => rfl⟩, fun _ => rfl⟩

theorem changeWindows (windows : Windows) (f : Props → Props) :
    Routine fun e => { e with state := { e.state with windows, system := f e.state.system } } :=
  ⟨⟨⟨fun o => { o with windows, system := f o.system }, fun _ => rfl⟩, fun _ => rfl, fun _ => rfl⟩, fun _ => rfl⟩

theorem pend (b : Bool) : Routine fun e => { e with pending := b } :=
  ⟨⟨⟨fun o => { o with pending := b }, fun _ => rfl⟩, fun _ => rfl, fun _ => rfl⟩, fun _ => rfl⟩

attribute [local irreducible] Windows.refresh Props.setAll

theorem refresh (t : Instant) (l : Moment) : Routine fun e => (e.refresh t l).1 := by
  refine ⟨⟨⟨fun o => { o with
    windows := (o.windows.refresh t l).1
    system := (o.system.setAll (o.rolled.merge (o.windows.refresh t l).2).toProps).setAll (calendarProps l)
    rolled := o.rolled.merge (o.windows.refresh t l).2 }, fun e => ?_⟩, fun e => ?_, fun e => ?_⟩, fun e => ?_⟩
  all_goals
    simp only [Engine.outline, Engine.refresh, Engine.busy]

end Routine

namespace Outward

theorem changeBookmarks (f : Bookmarks → Bookmarks) :
    Outward fun e => { e with state := { e.state with bookmarks := f e.state.bookmarks } } :=
  ⟨⟨fun o => { o with bookmarks := f o.bookmarks }, fun _ => rfl⟩, fun _ => rfl, fun _ => rfl⟩

/-- engines of the same outline are changed alike -/
theorem congr {f : Engine → Engine} (hf : Outward f) {e e' : Engine} (h : e.outline = e'.outline) :
    (f e).outline = (f e').outline := by
  obtain ⟨g, hg⟩ := hf.outline
  rw [hg, hg, h]

end Outward

def Run.see (f : Outline → α) : Run σ α := do
  return f (← engine).outline

/-! ## Relations between programs -/

/-- whether a note tells of a turn of a host's program -/
def Note.isTurn : Note → Bool
  | .turn _ => true
  | _ => false

def Request.isMark : Request → Bool
  | .setBookmark _ | .clearBookmark _ => true
  | _ => false

/-- a relation between programs that is passed on from their parts to the whole, and holds between itself and a step
that sees the outline of an engine or changes it as operations do -/
structure Seeing (P : ∀ {α : Type}, Run σ α → Run σ α → Prop) : Prop where
  pure : ∀ {α : Type} (x : α), P (pure x) (pure x)
  bind : ∀ {α β : Type} {r r' : Run σ β} {f f' : β → Run σ α}, P r r' → (∀ b, P (f b) (f' b)) → P (r >>= f) (r' >>= f')
  see : ∀ {α : Type} (f : Outline → α), P (Run.see f) (Run.see f)
  redraw : ∀ f : Engine → Engine, Routine f → P (Run.changeEngine f) (Run.changeEngine f)
  ofExcept : ∀ {α : Type} {x : Except Problem α}, NoRefusal x → P (liftM x) (liftM x)

/-- such a relation to which the notes of an engine and the end of a start make no difference -/
structure Outlined (P : ∀ {α : Type}, Run σ α → Run σ α → Prop) : Prop extends Seeing P where
  note : ∀ n : Note, n.isTurn = false → P (Run.note n) (Run.note n)
  ensuring : ∀ {α : Type} {r r' : Run σ α} (f : Engine → Engine), Routine f → P r r' →
    P (Run.ensuring r f) (Run.ensuring r' f)

/-- engines in the same zone that read the clock, tell the host and pass over the rules in related ways -/
structure Parallel (P : ∀ {α : Type}, Run σ α → Run σ α → Prop) (s s' : Setup σ) : Prop where
  zone : s'.zone = s.zone
  now : P s.now s'.now
  tell : ∀ h p, P (s.tell h p) (s'.tell h p)
  pass : P s.pass s'.pass

variable {P : ∀ {α : Type}, Run σ α → Run σ α → Prop}

namespace Seeing

theorem forM (hP : Seeing P) {f f' : β → Run σ PUnit} (l : List β) (hf : ∀ b, P (f b) (f' b)) :
    P (l.forM f) (l.forM f') := by
  induction l with
  | nil => exact hP.pure _
  | cons b l ih => exact hP.bind (hf b) fun _ => ih

/-- engines that run operations in related ways answer requests that are about no bookmark in related ways; answers may
be related more loosely than what leads to them -/
theorem answerUnmarked (hP : Seeing P) {L : Run σ Answer → Run σ Answer → Prop} (of : ∀ {r r'}, P r r' → L r r')
    (bind : ∀ {β : Type} {r r' : Run σ β} {f f' : β → Run σ Answer}, P r r' → (∀ b, L (f b) (f' b)) →
      L (r >>= f) (r' >>= f'))
    {body body' : Operation → Run σ Unit} {q : Request} (hq : q.isMark = false)
    (run : ∀ op, q.Asks op → L (operation op (body op)) (operation op (body' op))) :
    L (s.answerWith body q) (s'.answerWith body' q) := by
  cases q with
  | write q skip =>
    have seen : ∀ (s : Setup σ) body, s.answerWith body (.write q skip) = (do
        let props ← q.apply (← Run.see (·.props))
        Run.change fun s => { s with props }
        if skip then return .badges []
        else if ← Run.see (·.busy) then
          Run.changeEngine fun e => { e with pending := true }
          return .badges []
        else operation .evaluate (body .evaluate)) := fun _ _ => by cases skip <;> rfl
    rw [seen, seen]
    refine bind (hP.see _) fun _ => bind (hP.ofExcept (.write _ _)) fun props => ?_
    refine bind (hP.redraw _ (.changeProps props)) fun _ => ?_
    cases skip with
    | true => exact of (hP.pure _)
    | false =>
      refine bind (hP.see _) fun busy => ?_
      split
      · exact of (hP.bind (hP.redraw _ (.pend true)) fun _ => hP.pure _)
      · exact run _ rfl
  | operate op => exact run op rfl
  | endGameFor v => exact bind (hP.ofExcept (.reason v)) fun r => run _ ⟨r, rfl⟩
  | setBookmark name => cases hq
  | clearBookmark name => cases hq

/-- engines that read the clock, change bookmarks and run operations in related ways answer in related ways -/
theorem answerWith (hP : Seeing P) {L : Run σ Answer → Run σ Answer → Prop} (of : ∀ {r r'}, P r r' → L r r')
    (bind : ∀ {β : Type} {r r' : Run σ β} {f f' : β → Run σ Answer}, P r r' → (∀ b, L (f b) (f' b)) →
      L (r >>= f) (r' >>= f'))
    (now : P s.now s'.now)
    (marks : ∀ f : Bookmarks → Bookmarks, P (Run.change fun s => { s with bookmarks := f s.bookmarks })
      (Run.change fun s => { s with bookmarks := f s.bookmarks }))
    {body body' : Operation → Run σ Unit} {q : Request}
    (run : ∀ op, q.Asks op → L (operation op (body op)) (operation op (body' op))) :
    L (s.answerWith body q) (s'.answerWith body' q) := by
  cases q with
  | setBookmark name => exact of (hP.bind now fun t => hP.bind (marks fun b => b.set name t) fun _ => hP.pure _)
  | clearBookmark name => exact of (hP.bind (marks fun b => b.clear name) fun _ => hP.pure _)
  | _ => exact hP.answerUnmarked of bind rfl run

end Seeing

namespace Outlined

theorem ofWarned (hP : Outlined P) {a : Warned α} (ha : a.NoRefusal) : P (Run.ofWarned a) (Run.ofWarned a) := by
  have own : NoRefusal a.answer.1 := ha []
  unfold Run.ofWarned
  rcases ha : a.answer with ⟨r, texts⟩
  rw [ha] at own
  exact hP.bind (hP.forM texts fun _ => hP.note _ rfl) fun _ => hP.ofExcept own

theorem changeSystem (hP : Outlined P) (f : Props → Props) : P (Run.changeSystem f) (Run.changeSystem f) :=
  hP.redraw _ (.changeSystem f)

theorem bump (hP : Outlined P) (name : String) : P (bump name) (bump name) := by
  have seen : (Run.bump name : Run σ Unit) = (do
      let system ← (← Run.see (·.system)).addValue name (.ofInt 1)
      Run.changeSystem fun _ => system) := rfl
  rw [seen]
  exact hP.bind (hP.see _) fun _ => hP.bind (hP.ofExcept (.addValue _ _ _)) fun _ => hP.changeSystem _

theorem count (hP : Outlined P) (a : Axis) (t : Instant) : P (count a t) (count a t) := by
  have seen : (Setup.count a t : Run σ Unit) = (do
      let p ← Run.ofWarned ((← Run.see (·.windows)).advance a (.ok t))
      Run.change fun s => { s with windows := p.2, system := s.system.set a.startsProp (.int p.1) }
      Run.note (.counted a p.1)) := rfl
  rw [seen]
  refine hP.bind (hP.see _) fun _ => hP.bind (hP.ofWarned (.advance _ _ _)) fun p => ?_
  exact hP.bind (hP.redraw _ (.changeWindows p.2 fun q => q.set a.startsProp (.int p.1))) fun _ => hP.note _ rfl

/-- whether an axis is open is seen in the outline -/
theorem ifOpen (hP : Outlined P) (a : Axis) {r r' u u' : Run σ Unit} (hr : P r r') (hu : P u u') :
    P (do if ((← Run.state).status a).isOpen then r else u) (do if ((← Run.state).status a).isOpen then r' else u') := by
  have seen : ∀ r u : Run σ Unit, (do if ((← Run.state).status a).isOpen then r else u) = (do
      if ((← Run.see fun o => ({ system := o.system } : EngineState)).status a).isOpen then r else u) := fun _ _ => rfl
  rw [seen, seen]
  refine hP.bind (hP.see _) fun st => ?_
  split
  · exact hr
  · exact hu

theorem pass (hP : Outlined P) (rules : ∀ props system,
    P (s.rules.forM (s.consider props system)) (s'.rules.forM (s'.consider props system))) : P s.pass s'.pass := by
  have seen : ∀ s : Setup σ, s.pass = (do
      Run.changeEngine fun e => { e with pending := false }
      Run.note .pass
      let o ← Run.see fun o => o
      s.rules.forM (s.consider o.props o.system)
      Run.see (·.pending)) := fun _ => rfl
  rw [seen, seen]
  exact hP.bind (hP.redraw _ (.pend false)) fun _ => hP.bind (hP.note _ rfl) fun _ => hP.bind (hP.see _) fun _ =>
    hP.bind (rules _ _) fun _ => hP.see _

end Outlined

namespace Parallel

theorem passes (hP : Outlined P) (h : Parallel P s s') (n : Nat) : P (s.passes n) (s'.passes n) := by
  induction n with
  | zero =>
    refine hP.bind h.pass fun again => ?_
    split
    · exact hP.bind (hP.note _ rfl) fun _ => hP.redraw _ (.pend false)
    · exact hP.pure _
  | succ n ih =>
    refine hP.bind h.pass fun again => ?_
    split
    · exact ih
    · exact hP.pure _

theorem runRules (hP : Outlined P) (h : Parallel P s s') : P s.runRules s'.runRules := h.passes hP passLimit

theorem tellSnapshot (hP : Outlined P) (h : Parallel P s s') (k : Hook) : P (s.tellSnapshot k) (s'.tellSnapshot k) := by
  have seen : ∀ s : Setup σ, s.tellSnapshot k = (do
      let o ← Run.see fun o => o
      s.tell k (.snapshot o.props o.system)) := fun _ => rfl
  rw [seen, seen]
  exact hP.bind (hP.see _) fun _ => h.tell _ _

attribute [local irreducible] Windows.refresh

theorem refresh (hP : Outlined P) (h : Parallel P s s') (t : Instant) : P (s.refresh t) (s'.refresh t) := by
  -- what rolls over is seen in the outline before the engine is put
  have seen : ∀ s : Setup σ, s.refresh t = (do
      let l ← localTime s.zone t
      let rolled ← Run.see fun o => (o.windows.refresh t l).2
      Run.changeEngine fun e => (e.refresh t l).1
      Run.note (.refreshed t l rolled)
      if rolled.any then s.tellSnapshot .newTimePeriod) := fun _ => rfl
  rw [seen, seen, h.zone]
  refine hP.bind (hP.ofExcept (.localTime _ _)) fun l => hP.bind (hP.see _) fun rolled => ?_
  refine hP.bind (hP.redraw _ (.refresh t l)) fun _ => hP.bind (hP.note _ rfl) fun _ => ?_
  split
  · exact h.tellSnapshot hP _
  · exact hP.pure _

theorem refreshAndRun (hP : Outlined P) (h : Parallel P s s') :
    P (do s.refresh (← s.now); s.runRules) (do s'.refresh (← s'.now); s'.runRules) :=
  hP.bind h.now fun t => hP.bind (h.refresh hP t) fun _ => h.runRules hP

theorem close (hP : Outlined P) (h : Parallel P s s') (a : Axis) : P (s.close a) (s'.close a) :=
  hP.bind (hP.changeSystem _) fun _ => hP.bind (hP.bump _) fun _ => hP.bind (h.tellSnapshot hP _) fun _ =>
    h.refreshAndRun hP

theorem closeGame (hP : Outlined P) (h : Parallel P s s') (r : EndReason) : P (s.closeGame r) (s'.closeGame r) :=
  hP.bind (hP.changeSystem _) fun _ => hP.bind (hP.bump _) fun _ => h.close hP .game

theorem closeBeforeStart (hP : Outlined P) (h : Parallel P s s') (a : Axis) :
    P (s.closeBeforeStart a) (s'.closeBeforeStart a) := by
  cases a with
  | session => exact h.close hP .session
  | game => exact h.closeGame hP .implicitRestart

theorem present (hP : Outlined P) (h : Parallel P s s') (a : Axis) : P (s.present a) (s'.present a) :=
  hP.ensuring _ (.changeSystem fun p => (p.set a.newProp (.bool false)).set a.statusProp (.text Status.inProgress.name))
    (hP.bind (h.tellSnapshot hP _) fun _ => h.runRules hP)

theorem begin (hP : Outlined P) (h : Parallel P s s') (a : Axis) : P (s.begin a) (s'.begin a) :=
  hP.bind h.now fun t => hP.bind (h.refresh hP t) fun _ => hP.bind (hP.changeSystem _) fun _ =>
    hP.bind (hP.count a t) fun _ => h.present hP a

/-- engines that differ in related ways do the same for an operation that loads no state, up to the relation -/
theorem unloading (hP : Outlined P) (h : Parallel P s s') {op : Operation} (hop : op.isLoad = false) :
    P (s.perform op) (s'.perform op) := by
  cases op with
  | evaluate => exact h.refreshAndRun hP
  | start a =>
    have begun := h.begin hP a
    exact hP.ifOpen a (hP.bind (h.closeBeforeStart hP a) fun _ => begun) begun
  | endSession => exact hP.ifOpen .session (h.close hP .session) (hP.pure ())
  | endGame r => exact hP.ifOpen .game (h.closeGame hP r) (hP.pure ())
  | load v => cases hop

end Parallel

/-! ## Operations from outside -/

namespace World

def entering (w : World σ) (op : Operation) : World σ :=
  w.withEngine { w.engine with running := some op, news := [], rolled := {} }

/-- a world in which an operation is over -/
def leaving (w : World σ) : World σ := w.withEngine { w.engine with running := none, pending := false }

end World

section

variable {w v : World σ}

theorem exec_bind_ok {r : Run σ β} {f : β → Run σ α} {b : β} (h : r.exec w = (.ok b, v)) :
    exec (r >>= f) w = (f b).exec v := by
  rw [exec_bind, h]

theorem exec_bind_error {r : Run σ β} {f : β → Run σ α} {e : Problem} (h : r.exec w = (.error e, v)) :
    exec (r >>= f) w = (.error e, v) := by
  rw [exec_bind, h]

/-- a step comes to something exactly when it leads to that and to nothing else -/
theorem exec_of_leads {r : Run σ α} {x : Except Problem α}
    (h : r.leads w (fun a u => x = .ok a ∧ u = v) fun e u => x = .error e ∧ u = v) : r.exec w = (x, v) := by
  obtain ⟨hok, herror⟩ := leads_iff.1 h
  rcases hr : r.exec w with ⟨_ | a, u⟩ <;> rw [hr] at hok herror
  · obtain ⟨rfl, rfl⟩ := herror _ rfl
    rfl
  · obtain ⟨rfl, rfl⟩ := hok a rfl
    rfl

/-- the clock is read, and noted -/
theorem exec_now (s : Setup σ) (w : World σ) : s.now.exec w = ((s.clock w.host).1.bind instantOf,
    (w.withHost (s.clock w.host).2).noting (.clock ((s.clock w.host).1.bind instantOf))) := by
  refine exec_of_leads (leads_now.2 ?_)
  cases (s.clock w.host).1.bind instantOf <;> exact ⟨rfl, rfl⟩

/-- an operation is refused while another one runs -/
theorem exec_operation_busy {op : Operation} {body : Run σ Unit} (hb : w.engine.busy = true) :
    (operation op body).exec w = (.error (.reentrant op.name), w) := by
  unfold operation
  rw [exec_bind]
  show exec (if w.engine.busy then _ else _) w = _
  rw [hb]
  rfl

/-- an operation that is not refused enters, does what it does and leaves, and answers the badges of it -/
theorem exec_operation_idle {op : Operation} {body : Run σ Unit} (hb : w.engine.busy = false) {x : Except Problem Unit}
    (h : body.exec (w.entering op) = (x, v)) :
    (operation op body).exec w = (x.map fun _ => op.answer v.engine.news, v.leaving) := by
  have entered : (operation op body).exec w = exec (do
      ensuring body fun e => { e with running := none, pending := false }
      return op.answer (← Run.engine).news) (w.entering op) := by
    unfold operation
    rw [exec_bind]
    show exec (if w.engine.busy then _ else _) w = _
    rw [hb]
    rfl
  rw [entered, exec_bind, exec_ensuring, h]
  cases x <;> rfl

end

/-! ## Coupled worlds -/

/-- a relation between worlds of the same outline that is kept when both take a note, and when both outlines change -/
structure Coupling (R : World σ → World σ → Prop) : Prop where
  outline : ∀ {w v : World σ}, R w v → w.engine.outline = v.engine.outline
  redraw : ∀ {w v : World σ} {f : Engine → Engine}, Outward f → R w v →
    R (w.withEngine (f w.engine)) (v.withEngine (f v.engine))
  note : ∀ {w v : World σ} {n : Note}, n.isTurn = false → R w v → R (w.noting n) (v.noting n)

/-- from coupled worlds two programs come to much the same and to coupled worlds, unless the first finds a note after
which nothing is said -/
structure CouplesUpTo (same : Except Problem α → Except Problem α → Prop) (R : World σ → World σ → Prop)
    (lost : Noted → Prop) (r r' : Run σ α) : Prop where
  grows : ∀ w, w.trace <:+ (r.exec w).2.trace
  coupled : ∀ w v, R w v → (∀ x ∈ (r.exec w).2.trace, ¬ lost x) →
    same (r.exec w).1 (r'.exec v).1 ∧ R (r.exec w).2 (r'.exec v).2

/-- such programs that come to the same -/
abbrev Couples (R : World σ → World σ → Prop) (lost : Noted → Prop) (r r' : Run σ α) : Prop :=
  CouplesUpTo Eq R lost r r'

namespace Couples

variable {R : World σ → World σ → Prop} {lost : Noted → Prop}

theorem bindUpTo {same : Except Problem α → Except Problem α → Prop} (failed : ∀ e, same (.error e) (.error e))
    {r r' : Run σ β} {f f' : β → Run σ α} (hr : Couples R lost r r') (hf : ∀ b, CouplesUpTo same R lost (f b) (f' b)) :
    CouplesUpTo same R lost (r >>= f) (r' >>= f') where
  grows w := by
    have grown := hr.grows w
    rw [exec_bind]
    rcases hw : r.exec w with ⟨_ | b, w'⟩ <;> rw [hw] at grown
    · exact grown
    · exact grown.trans ((hf b).grows w')
  coupled w v h hl := by
    have same := hr.coupled w v h
    rw [exec_bind] at hl ⊢
    rw [exec_bind]
    rcases hw : r.exec w with ⟨_ | b, w'⟩ <;> rw [hw] at same hl
    · obtain ⟨hx, hR⟩ := same hl
      rcases hv : r'.exec v with ⟨_ | _, v'⟩ <;> rw [hv] at hx hR <;> cases hx
      exact ⟨failed _, hR⟩
    · -- what is found on the way is found at the end
      obtain ⟨hx, hR⟩ := same fun x hx => hl x (((hf b).grows w').subset hx)
      rcases hv : r'.exec v with ⟨_ | _, v'⟩ <;> rw [hv] at hx hR <;> cases hx
      exact (hf b).coupled w' v' hR hl

theorem bind {r r' : Run σ β} {f f' : β → Run σ α} (hr : Couples R lost r r') (hf : ∀ b, Couples R lost (f b) (f' b)) :
    Couples R lost (r >>= f) (r' >>= f') :=
  hr.bindUpTo (fun _ => rfl) hf

theorem attempt {r r' : Run σ α} (hr : Couples R lost r r') : Couples R lost (Run.attempt r) (Run.attempt r') where
  grows := hr.grows
  coupled w v h hl := (hr.coupled w v h hl).imp_left (congrArg Except.ok)

/-- coupled worlds stay coupled when the bookmarks of both change -/
theorem marks (hR : Coupling R) (f : Bookmarks → Bookmarks) :
    Couples R lost (Run.change fun s => { s with bookmarks := f s.bookmarks })
      (Run.change fun s => { s with bookmarks := f s.bookmarks }) :=
  ⟨fun _ => List.suffix_rfl, fun _ _ h _ => ⟨rfl, hR.redraw (.changeBookmarks f) h⟩⟩

/-- a relation between worlds is passed on along a program from its steps -/
theorem outlined (hR : Coupling R) : Outlined (σ := σ) (Couples R lost) where
  pure _ := ⟨fun _ => List.suffix_rfl, fun _ _ h _ => ⟨rfl, h⟩⟩
  bind := bind
  see f := ⟨fun _ => List.suffix_rfl, fun w v h _ => ⟨congrArg (fun o => Except.ok (f o)) (hR.outline h), h⟩⟩
  redraw f hf := ⟨fun _ => List.suffix_rfl, fun _ _ h _ => ⟨rfl, hR.redraw hf.toOutward h⟩⟩
  ofExcept {_ x} _ := by cases x <;> exact ⟨fun _ => List.suffix_rfl, fun _ _ h _ => ⟨rfl, h⟩⟩
  note n hn := ⟨fun _ => List.suffix_cons .., fun _ _ h _ => ⟨rfl, hR.note hn h⟩⟩
  ensuring f hf h := ⟨h.grows, fun w v hw hl => (h.coupled w v hw hl).imp_right (hR.redraw hf.toOutward)⟩

end Couples

end BadgeEngine
