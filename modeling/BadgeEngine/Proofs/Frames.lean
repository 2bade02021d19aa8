/-
What requests leave alone. The properties of sessions, games and the calendar lie side by side under names, and so do
those of a host; operations write to them by name. A view of the state is retained by a request (`Retains`) if it is
the same afterwards and at every note that the request leaves, unless a hook asked meanwhile for what may change it.

A view that shows neither the ledger nor the calendar (`Oblivious`) is retained whatever rules and hooks do, and an
operation on an axis changes nothing but that axis besides (`ObliviousTo`). So sessions and games keep apart, and
properties and bookmarks change for requests about them only (`requests_keep_apart`).
-/
import BadgeEngine.Proofs.PropertySums
import BadgeEngine.Proofs.Rollovers
import BadgeEngine.Proofs.Twins

namespace BadgeEngine

open BadgeEngine.Time Run Setup

variable {σ α β γ : Type} {s : Setup σ} {w w' : World σ} {view : EngineState → γ} {but : Request → Bool}

/-! ## Parts of the state -/

/-- the system properties that tell of an axis -/
def Axis.properties : Axis → List String
  | session => Axis.session.names
  | game => Axis.game.names ++ endReasonProp :: EndReason.all.map EndReason.countProp

/-- what a state shows of an axis: its system properties and its window -/
def Axis.shownIn (a : Axis) (st : EngineState) : List (Option Scalar) × Window :=
  (a.properties.map st.system.get?, st.windows.get (.counter a))

/-- the system properties of a new state tell of an axis or of rollovers -/
theorem systemDefaults_parts :
    ∀ name ∈ systemDefaults.map (·.1), name ∈ rolloverNames ∨ ∃ a : Axis, name ∈ a.properties := by
  have parts : ∀ name ∈ systemDefaults.map (·.1),
      name ∈ rolloverNames ∨ name ∈ Axis.session.properties ∨ name ∈ Axis.game.properties := by decide
  exact fun name h => (parts name h).imp_right fun h => h.elim (⟨_, ·⟩) (⟨_, ·⟩)

theorem EndReason.countProp_properties (r : EndReason) : r.countProp ∈ Axis.game.properties := by
  cases r <;> decide

theorem Axis.properties_disjoint : ∀ a b : Axis, b ≠ a → ∀ m ∈ b.properties, m ∉ a.properties := by
  rintro (_ | _) (_ | _) h <;> first | exact absurd rfl h | decide

theorem Axis.properties_calendar (a : Axis) : ∀ m ∈ a.properties, m ∉ calendarNames := by
  cases a <;> decide

def Request.writes (name : String) : Request → Bool
  | .write q _ => q.name = name
  | _ => false

def Operation.ends? : Operation → Option Axis
  | .endSession => some .session
  | .endGame _ => some .game
  | _ => none

def Operation.axis? : Operation → Option Axis
  | .start a => some a
  | op => op.ends?

/-! ## Views that are kept -/

/-- a request of a kind was made by a program of the host -/
def Noted.asks (but : Request → Bool) (x : Noted) : Bool :=
  match x.note with
  | .turn (.ask q) => but q
  | _ => false

/-- what is seen of the state is the same now and at every note since, unless a request of a kind was noted -/
def Retains (view : EngineState → γ) (but : Request → Bool) (w w' : World σ) : Prop :=
  ∃ ns, w'.trace = ns ++ w.trace ∧ ((∀ x ∈ ns, x.asks but = false) →
    view w'.engine.state = view w.engine.state ∧ ∀ x ∈ ns, view x.engine.state = view w.engine.state)

namespace Retains

theorem still (hv : view w'.engine.state = view w.engine.state) (ht : w'.trace = w.trace) : Retains view but w w' :=
  ⟨[], ht, fun _ => ⟨hv, fun _ hx => absurd hx List.not_mem_nil⟩⟩

theorem refl (w : World σ) : Retains view but w w := still rfl rfl

theorem trans ⦃u v w : World σ⦄ (h : Retains view but u v) (h' : Retains view but v w) : Retains view but u w := by
  obtain ⟨ns, hns, same⟩ := h
  obtain ⟨ms, hms, same'⟩ := h'
  refine ⟨ms ++ ns, by rw [hms, hns, List.append_assoc], fun quiet => ?_⟩
  obtain ⟨hv, hx⟩ := same fun x hx => quiet x (List.mem_append_right _ hx)
  obtain ⟨hw, hy⟩ := same' fun x hx => quiet x (List.mem_append_left _ hx)
  refine ⟨hw.trans hv, fun x hmem => ?_⟩
  rcases List.mem_append.1 hmem with hmem | hmem
  · exact (hy x hmem).trans hv
  · exact hx x hmem

theorem noted (w : World σ) (n : Note) : Retains view but w (w.noting n) :=
  ⟨[⟨n, w.engine⟩], rfl, fun _ => ⟨rfl, fun x hx => by rw [List.mem_singleton.1 hx]⟩⟩

theorem warning (w : World σ) (texts : List String) : Retains view but w (w.warning texts) := by
  induction texts generalizing w with
  | nil => exact .refl w
  | cons text texts ih => exact (noted w (.warned text)).trans (ih _)

/-- nothing is said once a request of the kind was noted -/
theorem excepted {q : Request} (hq : but q = true) {ns : List Noted}
    (h : w'.trace = ns ++ (w.noting (.turn (.ask q))).trace) : Retains view but w w' := by
  refine ⟨ns ++ [⟨.turn (.ask q), w.engine⟩], by rw [h, List.append_assoc]; rfl, fun quiet => ?_⟩
  have asked : Noted.asks but ⟨.turn (.ask q), w.engine⟩ = false :=
    quiet _ (List.mem_append_right _ (List.mem_singleton_self _))
  exact absurd (hq.symm.trans asked) nofun

end Retains

/-- a program that keeps a view -/
abbrev Spares (view : EngineState → γ) (but : Request → Bool) (r : Run σ α) : Prop := r.within (Retains view but)

namespace Spares

theorem bind {r : Run σ β} {f : β → Run σ α} (hr : Spares view but r) (hf : ∀ b, Spares view but (f b)) :
    Spares view but (r >>= f) :=
  within.bind Retains.trans hr hf

theorem pure (a : α) : Spares view but (Pure.pure a : Run σ α) := fun w => (leads_pure a).2 (.refl w)

theorem ofExcept (x : Except Problem α) : Spares view but (liftM x : Run σ α) := by
  intro w
  rw [leads_ofExcept]
  cases x <;> exact .refl w

theorem ofState : Spares view but (Run.state : Run σ EngineState) := fun w => leads_state.2 (.refl w)

theorem note (n : Note) : Spares view but (Run.note n : Run σ Unit) := fun w => (leads_note n).2 (.noted w n)

theorem host (h : σ) : Spares view but (Run.setHost h) := fun _ => (leads_setHost h).2 (.still rfl rfl)

theorem changeEngine {f : Engine → Engine} (hf : ∀ e, view (f e).state = view e.state) :
    Spares view but (Run.changeEngine f : Run σ Unit) :=
  fun w => (leads_changeEngine f).2 (.still (hf w.engine) rfl)

theorem pend (b : Bool) : Spares view but (Run.changeEngine fun e => { e with pending := b } : Run σ Unit) :=
  changeEngine fun _ => rfl

theorem change {f : EngineState → EngineState} (hf : ∀ st, view (f st) = view st) :
    Spares view but (Run.change f : Run σ Unit) :=
  fun w => (leads_change f).2 (.still (hf w.engine.state) rfl)

theorem ensuring {r : Run σ α} {f : Engine → Engine} (hr : Spares view but r)
    (hf : ∀ e, view (f e).state = view e.state) : Spares view but (Run.ensuring r f) := by
  intro w
  rw [leads_ensuring]
  exact (hr w).imp fun v hv => hv.trans (.still (hf v.engine) rfl)

theorem attempt {r : Run σ α} (hr : Spares view but r) : Spares view but (Run.attempt r) := by
  intro w
  rw [leads_attempt]
  exact hr w

theorem now : Spares view but s.now := by
  intro w
  rw [leads_now]
  have read : ∀ r, Retains view but w ((w.withHost (s.clock w.host).2).noting (.clock r)) := by
    intro r
    have moved : Retains view but w (w.withHost (s.clock w.host).2) := .still rfl rfl
    exact moved.trans (.noted _ _)
  split <;> exact read _

theorem operation {op : Operation} {body : Run σ Unit} (hr : Spares view but body) :
    Spares view but (operation op body) := by
  intro w
  cases hb : w.engine.busy with
  | true => exact (leads_operation_busy hb).2 (.refl w)
  | false =>
    unfold Setup.operation
    simp only [leads_bind, leads_engine, hb, Bool.false_eq_true, if_false, leads_pure, leads_changeEngine,
      leads_ensuring]
    have entered : Retains view but w (w.entering op) := .still rfl rfl
    exact (hr (w.entering op)).imp fun v hv => (entered.trans hv).trans (.still rfl rfl)

end Spares

/-! ## What a view does not show -/

/-- a view that shows nothing of the ledger or the calendar, nor what requests of other kinds change at once -/
structure Oblivious (view : EngineState → γ) (but : Request → Bool) : Prop where
  ledger : ∀ st ledger, view { st with ledger } = view st
  calendar : ∀ (e : Engine) t l, view (e.refresh t l).1.state = view e.state
  wrote : ∀ st q skip props, but (.write q skip) = false → q.apply st.props = .ok props →
    view { st with props } = view st
  marked : ∀ st name t, but (.setBookmark name) = false →
    view { st with bookmarks := st.bookmarks.set name t } = view st
  cleared : ∀ st name, but (.clearBookmark name) = false →
    view { st with bookmarks := st.bookmarks.clear name } = view st

/-- a view that shows nothing of an axis -/
structure ObliviousTo (a : Axis) (view : EngineState → γ) : Prop where
  system : ∀ st x, ∀ name ∈ a.properties, view { st with system := st.system.set name x } = view st
  window : ∀ st y, view { st with windows := st.windows.set (.counter a) y } = view st

/-- what a refresh sets is of the calendar -/
theorem refresh_system (e : Engine) (t : Instant) (l : Moment) {name : String} (h : name ∉ calendarNames) :
    (e.refresh t l).1.state.system.get? name = e.state.system.get? name := by
  rw [calendarNames, List.mem_append, not_or] at h
  unfold Engine.refresh
  exact (Props.get?_setAll_of_notMem h.2).trans (Props.get?_setAll_of_notMem h.1)

namespace Oblivious

/-- who looks at an axis alone -/
theorem axis (b : Axis) : Oblivious b.shownIn fun _ => false where
  ledger _ _ := rfl
  calendar e t l := by
    have system : ∀ m ∈ b.properties, (e.refresh t l).1.state.system.get? m = e.state.system.get? m := fun m hm =>
      refresh_system e t l (b.properties_calendar m hm)
    have window : (e.refresh t l).1.state.windows.get (.counter b) = e.state.windows.get (.counter b) := by
      simp only [Engine.refresh, Windows.refresh_get]
    exact Prod.ext (List.map_congr_left system) window
  wrote _ _ _ _ _ _ := rfl
  marked _ _ _ _ := rfl
  cleared _ _ _ := rfl

/-- who looks at one property of a host -/
theorem prop (name : String) : Oblivious (·.props.get? name) (Request.writes name) where
  ledger _ _ := rfl
  calendar e t l := by simp only [Engine.refresh]
  wrote st q skip props hq h := by
    obtain ⟨x, rfl⟩ := Write.apply_sets_name h
    have other : q.name ≠ name := of_decide_eq_false hq
    rw [Props.get?_set, if_neg other.symm]
  marked _ _ _ _ := rfl
  cleared _ _ _ := rfl

/-- who looks at bookmarks -/
theorem bookmarks : Oblivious (·.bookmarks) Request.isMark where
  ledger _ _ := rfl
  calendar e t l := by simp only [Engine.refresh]
  wrote _ _ _ _ _ _ := rfl
  marked _ _ _ h := nomatch h
  cleared _ _ h := nomatch h

end Oblivious

theorem ObliviousTo.axis {a b : Axis} (h : b ≠ a) : ObliviousTo a b.shownIn where
  system st x name hname := by
    have other : ∀ m ∈ b.properties, (st.system.set name x).get? m = st.system.get? m := by
      intro m hm
      have apart : m ≠ name := fun he => Axis.properties_disjoint a b h m hm (he ▸ hname)
      rw [Props.get?_set, if_neg apart]
    exact Prod.ext (List.map_congr_left other) rfl
  window st y := by
    have apart : Period.counter b ≠ .counter a := fun he => h (Period.counter.inj he)
    exact Prod.ext rfl (Windows.get_set_of_ne apart st.windows y)

theorem ObliviousTo.prop (a : Axis) (name : String) : ObliviousTo a (·.props.get? name) :=
  ⟨fun _ _ _ _ => rfl, fun _ _ => rfl⟩

theorem ObliviousTo.bookmarks (a : Axis) : ObliviousTo a (·.bookmarks) := ⟨fun _ _ _ _ => rfl, fun _ _ => rfl⟩

namespace ObliviousTo

variable {a : Axis} (ha : ObliviousTo a view)
include ha

theorem telling (st : EngineState) (es : List (String × Scalar)) (h : es.map (·.1) ⊆ a.properties) :
    view { st with system := st.system.setAll es } = view st := by
  induction es generalizing st with
  | nil => rfl
  | cons e es ih =>
    have first := ha.system st e.2 e.1 (h List.mem_cons_self)
    exact (ih { st with system := st.system.set e.1 e.2 } fun _ hm => h (List.mem_cons_of_mem _ hm)).trans first

theorem changeSystem (es : List (String × Scalar)) (h : es.map (·.1) ⊆ a.properties) :
    Spares view but (Run.changeSystem fun p => p.setAll es : Run σ Unit) :=
  .change fun st => ha.telling st es h

theorem bump {name : String} (h : name ∈ a.properties) : Spares view but (Run.bump name : Run σ Unit) := by
  intro w
  simp only [Run.bump, leads_bind, leads_state, leads_ofExcept]
  cases hp : w.engine.state.system.addValue name (.ofInt 1) with
  | error e => exact .refl w
  | ok p =>
    obtain ⟨x, rfl⟩ := addValue_sets hp
    exact (leads_changeSystem _).2 (.still (ha.system w.engine.state x name h) rfl)

theorem count (t : Instant) : Spares view but (Setup.count a t : Run σ Unit) := by
  intro w
  simp only [Setup.count, leads_bind, leads_state, leads_ofWarned]
  rcases h : (w.engine.state.windows.advance a (.ok t)).answer with ⟨_ | ⟨n, windows⟩, texts⟩
  all_goals have warned : Retains view but w (w.warning texts) := .warning w texts
  · exact warned
  -- the windows to be put were made before the warnings were noted
  · obtain ⟨key, -, rfl⟩ := Windows.advance_ok h
    simp only [leads_change, leads_note]
    let y : Window := ⟨key, t.later (w.engine.state.windows.get (.counter a)).since⟩
    have windowed := ha.window w.engine.state y
    have counted := ha.system { w.engine.state with windows := w.engine.state.windows.set (.counter a) y } (.int n)
      a.startsProp (by cases a <;> decide)
    have same : Retains view but (w.warning texts) ((w.warning texts).withState { (w.warning texts).engine.state with
        windows := w.engine.state.windows.set (.counter a) y
        system := (w.warning texts).engine.state.system.set a.startsProp (.int n) }) := by
      refine .still ?_ rfl
      rw [World.warning_engine]
      exact counted.trans windowed
    exact (warned.trans same).trans (.noted _ _)

end ObliviousTo

/-! ## Rules and hooks -/

namespace Oblivious

variable (hv : Oblivious view but)
include hv

/-- a request of another kind, up to the operation that it begins -/
theorem answerWith {body : Operation → Run σ Unit} {q : Request} (hq : but q = false)
    (run : ∀ op, q.Asks op → Spares view but (body op)) : Spares view but (s.answerWith body q) := by
  cases q with
  | write q skip =>
    intro w
    simp only [Setup.answerWith, leads_bind, leads_state, leads_ofExcept, leads_change]
    cases h : q.apply w.engine.state.props with
    | error e => exact .refl w
    | ok props =>
      have written : Retains view but w (w.withState { w.engine.state with props }) :=
        .still (hv.wrote _ q skip props hq h) rfl
      have rest : Spares view but (σ := σ) (do
          if skip then return .badges []
          else if (← engine).busy then
            Run.changeEngine fun e => { e with pending := true }
            return .badges []
          else Setup.operation .evaluate (body .evaluate)) := by
        cases skip with
        | true => exact .pure _
        | false =>
          intro u
          simp only [Bool.false_eq_true, if_false, leads_bind, leads_engine]
          cases u.engine.busy with
          | true => exact ((Spares.pend true).bind fun _ => .pure _) u
          | false => exact Spares.operation (run _ rfl) u
      exact (rest _).imp fun _ hu => written.trans hu
  | operate op => exact .operation (run op rfl)
  | endGameFor v => exact (Spares.ofExcept _).bind fun r => .operation (run _ ⟨r, rfl⟩)
  | setBookmark name =>
    exact Spares.now.bind fun t => (Spares.change fun st => hv.marked st name t hq).bind fun _ => .pure _
  | clearBookmark name => exact (Spares.change fun st => hv.cleared st name hq).bind fun _ => .pure _

theorem tell (k : Hook) (p : Payload) : Spares view but (s.tell k p) := by
  -- a hook begins no operation of its own
  have answered : ∀ {γ : Type} {view : EngineState → γ} {but : Request → Bool}, Oblivious view but →
      ∀ q, but q = false → Spares view but (s.answerHook q) := fun hv q hq => hv.answerWith hq fun _ _ => .pure ()
  have nothing : Oblivious (fun _ => ()) fun _ => false :=
    ⟨fun _ _ => rfl, fun _ _ _ => rfl, fun _ _ _ _ _ _ => rfl, fun _ _ _ _ => rfl, fun _ _ _ => rfl⟩
  have ask : ∀ (h : σ) (q : Request), Spares view but (do
      Run.note (.turn (.ask q)); Run.setHost h; Run.attempt (s.answerHook q)) := by
    intro h q
    cases hq : but q with
    | false => exact (Spares.note _).bind fun _ => (Spares.host h).bind fun _ => .attempt (answered hv q hq)
    | true =>
      -- the note of the request excuses what it changes, so all there is to know is that notes are added to
      intro w
      simp only [leads_bind, leads_note, leads_setHost, leads_attempt]
      refine (answered nothing q rfl _).imp fun v hu => ?_
      obtain ⟨ns, hns, -⟩ := hu
      exact .excepted hq hns
  intro w
  simp only [Setup.tell, leads_bind, leads_host]
  cases s.hook w.host k p with
  | none => exact Spares.pure () w
  | some script =>
    refine ((Spares.note _).bind fun _ => within_script Retains.trans (Spares.note _) ask (fun h r => ?_) script) w
    exact (Spares.note _).bind fun _ => (Spares.host h).bind fun _ => .ofExcept r

theorem tellSnapshot (k : Hook) : Spares view but (s.tellSnapshot k) :=
  Spares.ofState.bind fun _ => hv.tell k _

theorem award (r : Rule) : Spares view but (s.award r) := by
  unfold Setup.award
  refine Spares.ofState.bind fun _ => Spares.now.bind fun t => Spares.ofState.bind fun st => ?_
  split
  case h_1 => exact .note _
  case h_2 e ledger _ =>
    have added : Spares view but (Run.changeEngine fun g => { g with news := Ledger.put e g.news } : Run σ Unit) :=
      .changeEngine fun _ => rfl
    exact (Spares.change fun st => hv.ledger st ledger).bind fun _ => added.bind fun _ =>
      (Spares.note _).bind fun _ => hv.tell _ _

theorem consider (props system : Props) (r : Rule) : Spares view but (s.consider props system r) := by
  intro w
  cases active : r.active with
  | false =>
    rw [consider_of_inactive active]
    exact Spares.pure () w
  | true =>
    rcases judged : s.judge w.host ⟨props, system, w.engine.state.ledger⟩ r.condition with ⟨verdict, h⟩
    rw [leads_consider active judged]
    have heeded : Spares view but (s.heed r verdict) := by
      refine (Spares.ofExcept verdict).bind fun v => ?_
      rcases v with message | _ | _
      · exact (Spares.note _).bind fun _ => hv.tell _ _
      · exact .pure ()
      · exact hv.award r
    have moved : Retains view but w (w.withHost h) := .still rfl rfl
    exact (heeded _).imp fun _ hu => (moved.trans (.noted _ _)).trans hu

theorem pass : Spares view but s.pass := by
  unfold Setup.pass
  refine (Spares.pend false).bind fun _ => (Spares.note _).bind fun _ => Spares.ofState.bind fun st => ?_
  have rules : Spares view but (s.rules.forM (s.consider st.props st.system)) :=
    within_forM Retains.refl Retains.trans s.rules fun r _ => hv.consider _ _ r
  refine rules.bind fun _ w => ?_
  rw [leads_bind, leads_engine]
  exact Spares.pure _ w

theorem passes (n : Nat) : Spares view but (s.passes n) := by
  induction n with
  | zero =>
    refine hv.pass.bind fun again => ?_
    cases again with
    | false => exact .pure ()
    | true => exact (Spares.note _).bind fun _ => .pend false
  | succ n ih =>
    refine hv.pass.bind fun again => ?_
    cases again with
    | false => exact .pure ()
    | true => exact ih

/-! ## Operations -/

attribute [local irreducible] Engine.refresh

theorem refresh (t : Instant) : Spares view but (s.refresh t) := by
  intro w
  unfold Setup.refresh
  simp only [leads_bind, leads_ofExcept]
  cases localTime s.zone t with
  | error e => exact .refl w
  | ok l =>
    simp only [leads_engine, leads_changeEngine, leads_note, leads_ite, leads_pure]
    have put : Retains view but w (w.withEngine (w.engine.refresh t l).1) := .still (hv.calendar w.engine t l) rfl
    have refreshed : Retains view but w (w.refreshing t l) := put.trans (.noted _ _)
    split
    · exact (hv.tellSnapshot .newTimePeriod (w.refreshing t l)).imp fun _ hu => refreshed.trans hu
    · exact refreshed

theorem refreshAndRun : Spares view but (do s.refresh (← s.now); s.runRules) :=
  Spares.now.bind fun t => (hv.refresh t).bind fun _ => hv.passes passLimit

/-! ### On an axis -/

variable {a : Axis} (ha : ObliviousTo a view)
include ha

theorem close : Spares view but (s.close a) := by
  unfold Setup.close
  have shown : Spares view but (changeSystem fun p =>
      (p.set a.endedProp (.bool true)).set a.statusProp (.text Status.ended.name) : Run σ Unit) :=
    ha.changeSystem [(a.endedProp, _), (a.statusProp, _)] (by cases a <;> decide)
  refine shown.bind fun _ => (ha.bump (by cases a <;> decide)).bind fun _ => ?_
  exact (hv.tellSnapshot _).bind fun _ => hv.refreshAndRun

theorem begin : Spares view but (s.begin a) := by
  unfold Setup.begin
  have started : Spares view but (changeSystem fun p =>
      ((p.set a.newProp (.bool true)).set a.endedProp (.bool false)).set a.statusProp (.text Status.started.name) :
      Run σ Unit) :=
    ha.changeSystem [(a.newProp, _), (a.endedProp, _), (a.statusProp, _)] (by cases a <;> decide)
  have presented : Spares view but (s.present a) :=
    ((hv.tellSnapshot _).bind fun _ => hv.passes passLimit).ensuring fun e =>
      ha.telling e.state [(a.newProp, .bool false), (a.statusProp, _)] (by cases a <;> decide)
  exact Spares.now.bind fun t => (hv.refresh t).bind fun _ => started.bind fun _ => (ha.count t).bind fun _ => presented

omit ha in
theorem closeGame (ha : ObliviousTo .game view) (r : EndReason) : Spares view but (s.closeGame r) := by
  unfold Setup.closeGame
  have shown : Spares view but (changeSystem fun p => p.set endReasonProp (.text r.name) : Run σ Unit) :=
    ha.changeSystem [(endReasonProp, _)] (by cases r <;> decide)
  exact shown.bind fun _ => (ha.bump r.countProp_properties).bind fun _ => hv.close ha

theorem closeBeforeStart : Spares view but (s.closeBeforeStart a) := by
  cases a with
  | session => exact hv.close ha
  | game => exact hv.closeGame ha .implicitRestart

omit ha in
/-- an operation can change nothing but its axis besides -/
theorem perform {op : Operation} (hop : op.isLoad = false) (ha : ∀ a, op.axis? = some a → ObliviousTo a view) :
    Spares view but (s.perform op) := by
  have ifOpen : ∀ {a} {r r' : Run σ Unit}, Spares view but r → Spares view but r' →
      Spares view but (do if ((← Run.state).status a).isOpen then r else r') := by
    intro a r r' hr hr'
    refine Spares.ofState.bind fun st => ?_
    split
    · exact hr
    · exact hr'
  cases op with
  | evaluate => exact hv.refreshAndRun
  | start a =>
    have begun := hv.begin (s := s) (ha a rfl)
    exact ifOpen ((hv.closeBeforeStart (ha a rfl)).bind fun _ => begun) begun
  | endSession => exact ifOpen (hv.close (ha .session rfl)) (.pure ())
  | endGame r => exact ifOpen (hv.closeGame (ha .game rfl) r) (.pure ())
  | load v => cases hop

omit ha in
theorem answer {q : Request} (hq : but q = false) (hl : q.isLoad = false)
    (ha : ∀ op a, q.Asks op → op.axis? = some a → ObliviousTo a view) : Spares view but (s.answer q) :=
  hv.answerWith hq fun op hop => hv.perform (hop.not_load hl) fun a => ha op a hop

end Oblivious

/-! ## Ends of what is not open -/

/-- nothing changes in a state and its host, and nothing is noted: no clock is read, and no hook is called -/
structure Unmoved (w w' : World σ) : Prop where
  state : w'.engine.state = w.engine.state
  host : w'.host = w.host
  trace : w'.trace = w.trace

/-- the end of an axis that is not open does nothing -/
theorem perform_unopened {op : Operation} {a : Axis} (ha : op.ends? = some a)
    (closed : (w.engine.state.status a).isOpen = false) : (s.perform op).exec w = (.ok (), w) := by
  refine exec_of_leads ?_
  cases op with
  | endSession | endGame r =>
    cases ha
    simp only [Setup.perform, leads_bind, leads_state, closed, Bool.false_eq_true, if_false, leads_pure, and_self]
  | _ => cases ha

theorem operation_unopened {op : Operation} {a : Axis} (ha : op.ends? = some a)
    (closed : (w.engine.state.status a).isOpen = false) :
    (operation op (s.perform op)).leads w (fun _ => Unmoved w) fun _ => Unmoved w := by
  refine leads_const.2 ?_
  cases hb : w.engine.busy with
  | true => rw [exec_operation_busy hb]; exact ⟨rfl, rfl, rfl⟩
  | false =>
    have still : (s.perform op).exec (w.entering op) = (.ok (), w.entering op) := perform_unopened ha closed
    rw [exec_operation_idle hb still]
    exact ⟨rfl, rfl, rfl⟩

theorem answer_unopened {q : Request} {op : Operation} {a : Axis} (hq : q.Asks op) (ha : op.ends? = some a)
    (closed : (w.engine.state.status a).isOpen = false) :
    (s.answer q).leads w (fun _ => Unmoved w) fun _ => Unmoved w := by
  cases q with
  | operate _ => cases hq; exact operation_unopened ha closed
  | endGameFor v =>
    obtain ⟨_, rfl⟩ := hq
    cases ha
    simp only [answer, answerWith, leads_bind, leads_ofExcept]
    cases EndReason.ofValue v with
    | error e => exact ⟨rfl, rfl, rfl⟩
    | ok r =>
      have ends : (Operation.endGame r).ends? = some .game := rfl
      exact operation_unopened ends closed
  | write _ _ => cases hq; cases ha
  | _ => cases hq

/-! ## Requests -/

/-- **Frames.** A request that loads no state retains, however it ends, what the state shows of an axis that it is not
about, whatever hooks do. It retains the property of a name unless it or a hook writes under it, and bookmarks unless it
or a hook sets or clears one. The end of an axis that is not open changes nothing, reads no clock and calls no hook. -/
theorem requests_keep_apart (s : Setup σ) (w : World σ) {q : Request} (hq : q.isLoad = false) :
    let w' := ((s.answer q).exec w).2
    (∀ b : Axis, (∀ op, q.Asks op → op.axis? ≠ some b) → Retains b.shownIn (fun _ => false) w w') ∧
    (∀ name, q.writes name = false → Retains (·.props.get? name) (Request.writes name) w w') ∧
    (q.isMark = false → Retains (·.bookmarks) Request.isMark w w') ∧
    ∀ op a, q.Asks op → op.ends? = some a → (w.engine.state.status a).isOpen = false → Unmoved w w' := by
  refine ⟨fun b hb => ?_, fun name hname => ?_, fun hm => ?_, fun op a hop ha closed => ?_⟩
  · have other : ∀ op a, q.Asks op → op.axis? = some a → ObliviousTo a b.shownIn := by
      intro op a hop ha
      exact .axis fun hab => hb op hop (hab ▸ ha)
    exact leads_const.1 ((Oblivious.axis b).answer rfl hq other w)
  · exact leads_const.1 ((Oblivious.prop name).answer hname hq (fun _ a _ _ => .prop a name) w)
  · exact leads_const.1 (Oblivious.bookmarks.answer hm hq (fun _ a _ _ => .bookmarks a) w)
  · exact leads_const.1 (answer_unopened hop ha closed)

/-- an engine with a badge for every session, whose hook for badges tries to end the game -/
def meddling : Setup Unit :=
  standstill [sessionRule] (some (.ask () (.operate (.endGame .win)) fun _ _ => .finish () (.ok ())))

/-- a game was started, after a host had set a property of its own under a name that tells of games, and a bookmark -/
def midgame : World Unit :=
  World.after meddling { host := () }
    [.write (.set Axis.game.statusProp (.ofInt 7)) true, .setBookmark "b", .operate (.start .game)]

/-- a session was started during the game -/
def joined : World Unit := ((meddling.answer (.operate (.start .session))).exec midgame).2

/-- the start of the session leaves all else as it was, and so does the end of one when there is none -/
theorem joined_kept :
    midgame.engine.state.status .game = .inProgress ∧ (midgame.engine.state.status .session).isOpen = false ∧
    joined.engine.state.status .session = .inProgress ∧ midgame.trace.length < joined.trace.length ∧
    Axis.game.shownIn joined.engine.state = Axis.game.shownIn midgame.engine.state ∧
    joined.engine.state.props.get? Axis.game.statusProp = some (.int 7) ∧
    joined.engine.state.bookmarks = midgame.engine.state.bookmarks ∧
    Unmoved midgame ((meddling.answer (.operate .endSession)).exec midgame).2 := by
  have closed : (midgame.engine.state.status .session).isOpen = false := by decide +kernel
  have set : midgame.engine.state.props.get? Axis.game.statusProp = some (.int 7) := by decide +kernel
  -- the hook asks for the game to be ended, and for nothing else
  have asked : ∀ x ∈ joined.trace,
      x.asks (Request.writes Axis.game.statusProp) = false ∧ x.asks Request.isMark = false := by decide +kernel
  have notGame : ∀ op, Request.Asks (.operate (.start .session)) op → op.axis? ≠ some .game := by
    rintro op rfl
    decide
  obtain ⟨axes, props, marks, -⟩ := requests_keep_apart meddling midgame (q := Request.operate (.start .session)) rfl
  obtain ⟨-, -, -, unopened⟩ := requests_keep_apart meddling midgame (q := Request.operate .endSession) rfl
  refine ⟨by decide +kernel, closed, by decide +kernel, by decide +kernel, ?_, ?_, ?_, ?_⟩
  · have kept : Retains Axis.game.shownIn (fun _ => false) midgame joined := axes .game notGame
    obtain ⟨ns, -, same⟩ := kept
    exact (same fun x _ => by unfold Noted.asks; split <;> rfl).1
  · have kept : Retains _ _ midgame joined := props Axis.game.statusProp rfl
    obtain ⟨ns, hns, same⟩ := kept
    exact (same fun x hx => (asked x (hns ▸ List.mem_append_left _ hx)).1).1.trans set
  · have kept : Retains _ _ midgame joined := marks rfl
    obtain ⟨ns, hns, same⟩ := kept
    exact (same fun x hx => (asked x (hns ▸ List.mem_append_left _ hx)).2).1
  · exact unopened .endSession .session rfl rfl closed

end BadgeEngine
