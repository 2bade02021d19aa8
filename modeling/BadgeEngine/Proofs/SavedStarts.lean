/-
What a saved state tells of starts (`saved_starts`).

An axis is told of as new and started while a start of it runs; whenever no start of it runs it is `Level`. Nothing but
a start of an axis can tell that it is new or started (`Unstarted`), and a start takes both back however it ends, unless
it breaks off since the count of the axis is full. But a hook can look at the state during a start, and save it: an
engine that loads this state tells of a start that it never made, until the axis is started again (`start_leaks`).
-/
import BadgeEngine.Proofs.Survival

namespace BadgeEngine

open BadgeEngine.Time Relation Run Setup

variable {σ τ α β : Type} {s : Setup σ} {u v w w' : World σ} {a b : Axis} {st st' : EngineState} {op : Operation}

/-! ## What is told of an axis -/

/-- an axis is told of as neither new nor started -/
structure Down (a : Axis) (st : EngineState) : Prop where
  new : st.system.get? a.newProp = some (.bool false)
  status : st.status a ≠ .started

/-- an axis is told of as neither new nor started, or it has the highest count -/
def Level (a : Axis) (st : EngineState) : Prop := Down a st ∨ CounterFull a st

theorem Flags.down {ended : Bool} (h : Flags a false ended .inProgress st) : Down a st := by
  refine ⟨h.new, ?_⟩
  unfold EngineState.status
  rw [h.status]
  decide

theorem Down.fresh (a : Axis) : Down a .fresh := by
  cases a <;> exact ⟨by decide, by decide⟩

/-- a state in which an axis is told of as in another one, or as ended -/
structure Unstarted (a : Axis) (st st' : EngineState) : Prop where
  new : st'.system.get? a.newProp = st.system.get? a.newProp
  status : st'.status a = st.status a ∨ st'.status a = .ended
  key : (st'.windows.get (.counter a)).key = (st.windows.get (.counter a)).key

namespace Unstarted

variable {st'' : EngineState}

theorem refl (a : Axis) (st : EngineState) : Unstarted a st st := ⟨rfl, .inl rfl, rfl⟩

theorem trans (h : Unstarted a st st') (h' : Unstarted a st' st'') : Unstarted a st st'' := by
  refine ⟨h'.new.trans h.new, ?_, h'.key.trans h.key⟩
  rcases h'.status with he | he
  · rw [he]
    exact h.status
  · exact .inr he

theorem level (h : Unstarted a st st') (hl : Level a st) : Level a st' := by
  rcases hl with hd | hf
  · refine .inl ⟨h.new.trans hd.new, fun hs => ?_⟩
    rcases h.status with he | he
    · exact hd.status (he.symm.trans hs)
    · cases he.symm.trans hs
  · refine .inr ?_
    unfold CounterFull
    rw [h.key]
    exact hf

/-- other properties tell nothing of an axis -/
theorem telling {es : List (String × Scalar)} (hn : a.newProp ∉ es.map (·.1)) (hs : a.statusProp ∉ es.map (·.1)) :
    Unstarted a st (st.telling es) := by
  refine ⟨EngineState.telling_get?_of_notMem hn, .inl ?_, rfl⟩
  unfold EngineState.status
  rw [EngineState.telling_get?_of_notMem hs]

/-- nor do the properties of the other axis -/
theorem other (hb : b ≠ a) {es : List (String × Scalar)} (hes : es.map (·.1) ⊆ b.names) :
    Unstarted a st (st.telling es) := by
  have apart : ∀ name ∈ a.names, name ∉ es.map (·.1) := fun name hn he => Axis.names_disjoint b a hb.symm name hn (hes he)
  exact telling (apart _ (by simp [Axis.names])) (apart _ (by simp [Axis.names]))

/-- an axis is told of as ended -/
theorem ending (a b : Axis) (st : EngineState) : Unstarted a st (st.telling b.ending) := by
  by_cases hb : b = a
  · subst hb
    have hn : b.newProp ∉ b.ending.map (·.1) := by cases b <;> decide
    refine ⟨EngineState.telling_get?_of_notMem hn, .inr ?_, rfl⟩
    unfold EngineState.status EngineState.telling
    cases b <;> simp [Axis.ending, Props.setAll, Props.get?_set, Axis.statusProp] <;> rfl
  · exact other hb (by simp [Axis.ending, Axis.names])

end Unstarted

theorem SameLife.unstarted {e e' : Engine} (h : SameLife e e') (a : Axis) : Unstarted a e.state e'.state where
  new := h.system a.newProp (a.names_life (by simp [Axis.names]))
  status := .inl (h.status a)
  key := h.keys a

/-! ## Worlds -/

/-- a world after steps: the engine now, and whenever a note was taken, is one that the engine may become -/
structure Along (R : Engine → Engine → Prop) (w w' : World σ) : Prop where
  engine : R w.engine w'.engine
  trace : ∃ ns : List Noted, w'.trace = ns ++ w.trace ∧ ∀ x ∈ ns, R w.engine x.engine

namespace Along

variable {R R' : Engine → Engine → Prop}

theorem still (h : R w.engine w'.engine) (ht : w'.trace = w.trace) : Along R w w' :=
  ⟨h, [], ht, fun _ hx => absurd hx List.not_mem_nil⟩

theorem trans (hR : ∀ ⦃e e' e''⦄, R e e' → R e' e'' → R e e'') (h : Along R u w) (h' : Along R w w') :
    Along R u w' := by
  obtain ⟨ns, hns, hx⟩ := h.trace
  obtain ⟨ms, hms, hx'⟩ := h'.trace
  refine ⟨hR h.engine h'.engine, ms ++ ns, by rw [hms, hns, List.append_assoc], fun x hm => ?_⟩
  rcases List.mem_append.1 hm with hm | hm
  · exact hR h.engine (hx' x hm)
  · exact hx x hm

theorem mono (hR : ∀ e e', R e e' → R' e e') (h : Along R w w') : Along R' w w' := by
  obtain ⟨ns, hns, hx⟩ := h.trace
  exact ⟨hR _ _ h.engine, ns, hns, fun x hm => hR _ _ (hx x hm)⟩

end Along

theorem Beside.along (h : Beside w w') : Along SameLife w w' := ⟨h.engine, h.trace⟩

/-- an engine in which the same operation runs, in a state that its state may become -/
structure During (P : EngineState → EngineState → Prop) (e e' : Engine) : Prop where
  running : e'.running = e.running
  state : P e.state e'.state

/-- a relation between states that leads from each state to itself, is passed on from step to step, and allows for all
that leaves sessions and games alone -/
structure Lenient (P : EngineState → EngineState → Prop) : Prop where
  trans : ∀ ⦃st st' st''⦄, P st st' → P st' st'' → P st st''
  same : ∀ ⦃e e' : Engine⦄, SameLife e e' → P e.state e'.state

theorem Unstarted.lenient (a : Axis) : Lenient (Unstarted a) := ⟨fun _ _ _ => .trans, fun _ _ h => h.unstarted a⟩

/-- a program that keeps to a relation between states, and in which the same operation runs throughout -/
def Passes (P : EngineState → EngineState → Prop) (r : Run σ α) : Prop :=
  ∀ w, w.engine.busy = true → r.leads w (fun _ => Along (During P) w) (fun _ => Along (During P) w)

namespace Passes

variable {P : EngineState → EngineState → Prop}

theorem changeSystem {f : Props → Props} (hf : ∀ st : EngineState, P st { st with system := f st.system }) :
    Passes P (changeSystem f : Run σ Unit) :=
  fun w _ => (leads_changeSystem f).2 (.still ⟨rfl, hf w.engine.state⟩ rfl)

theorem bump {name : String} (hf : ∀ (st : EngineState) x, P st (st.telling [(name, x)])) :
    Passes P (bump name : Run σ Unit) := by
  intro w _
  refine (leads_bump_ok fun x => ?_).mono (fun _ _ hv => hv) fun _ _ hv => hv.elim
  exact .still ⟨rfl, hf w.engine.state x⟩ rfl

theorem ensuring {r : Run σ α} (hr : Passes P r) (trans : ∀ ⦃st st' st''⦄, P st st' → P st' st'' → P st st'')
    {es : List (String × Scalar)} (hf : ∀ st : EngineState, P st (st.telling es)) :
    Passes P (ensuring r fun e => { e with state := e.state.telling es }) := by
  intro w hb
  rw [leads_ensuring]
  refine (hr w hb).imp fun v hv => ⟨⟨hv.engine.running, ?_⟩, hv.trace⟩
  exact trans hv.engine.state (hf v.engine.state)

end Passes

namespace Lenient

variable {P : EngineState → EngineState → Prop}

theorem along_trans (h : Lenient P) (hu : Along (During P) u w) (hw : Along (During P) w w') :
    Along (During P) u w' :=
  hu.trans (fun _ _ _ h₁ h₂ => ⟨h₂.running.trans h₁.running, h.trans h₁.state h₂.state⟩) hw

theorem bind (h : Lenient P) {r : Run σ β} {f : β → Run σ α} (hr : Passes P r) (hf : ∀ b, Passes P (f b)) :
    Passes P (r >>= f) := by
  intro w hb
  rw [leads_bind]
  refine (hr w hb).mono (fun b v hv => ?_) fun _ _ hv => hv
  have busy : v.engine.busy = true := by rw [Engine.busy, hv.engine.running]; exact hb
  exact (hf b v busy).imp fun _ hu => h.along_trans hv hu

theorem apart (h : Lenient P) {r : Run σ α} (hr : Apart r) : Passes P r := by
  intro w hb
  refine (hr w).imp fun v hv => ?_
  exact (Beside.of_chain (hv hb).1).along.mono fun _ _ hs => ⟨hs.running, h.same hs⟩

/-- counting up an axis: warnings are noted, and then the count -/
theorem count (h : Lenient P) (a : Axis) (t : Instant)
    (hf : ∀ (st : EngineState) (n : Int) (x : Window),
      P st { st.telling [(a.startsProp, .int n)] with windows := st.windows.set (.counter a) x }) :
    Passes P (count a t : Run σ Unit) := by
  intro w _
  have warned : ∀ texts, Along (During P) w (w.warning texts) := by
    intro texts
    have here : During P w.engine w.engine := ⟨rfl, h.same (.refl w.engine)⟩
    refine ⟨by rw [World.warning_engine]; exact here, _, w.warning_trace texts, fun x hx => ?_⟩
    obtain ⟨text, -, rfl⟩ := List.mem_map.1 hx
    exact here
  unfold BadgeEngine.Setup.count
  rw [leads_bind, leads_state, leads_bind, leads_ofWarned]
  rcases ha : (w.engine.state.windows.advance a (.ok t)).answer with ⟨_ | ⟨n, windows⟩, texts⟩
  · exact warned texts
  · obtain ⟨key, -, rfl⟩ := Windows.advance_ok ha
    simp only [leads_bind, leads_change, leads_note]
    let v := w.warning texts
    have same : v.engine = w.engine := w.warning_engine texts
    refine h.along_trans (warned texts) ?_
    have counted : ∀ x, During P v.engine { v.engine with
        state := { v.engine.state.telling [(a.startsProp, .int n)] with
          windows := v.engine.state.windows.set (.counter a) x } } := fun x => ⟨rfl, hf v.engine.state n x⟩
    rw [← same]
    exact ⟨counted _, [_], rfl, fun x hx => by rw [List.mem_singleton.1 hx]; exact counted _⟩

end Lenient

/-! ## Starts and ends -/

theorem Axis.endsProp_other (a b : Axis) : a.newProp ≠ b.endsProp ∧ a.statusProp ≠ b.endsProp := by
  cases a <;> cases b <;> decide

theorem Axis.reason_other (a : Axis) (r : EndReason) : a.newProp ∉ [endReasonProp, r.countProp] ∧
    a.statusProp ∉ [endReasonProp, r.countProp] := by
  cases a <;> cases r <;> decide

/-- an axis that ends is told of as ended, and of the other nothing is told -/
theorem close_passes (a b : Axis) : Passes (Unstarted a) (s.close b) := by
  have h := Unstarted.lenient a
  obtain ⟨hn, hs⟩ := a.endsProp_other b
  have counted : ∀ (st : EngineState) x, Unstarted a st (st.telling [(b.endsProp, x)]) := fun st x =>
    .telling (by simpa using hn) (by simpa using hs)
  unfold close
  refine h.bind (.changeSystem (Unstarted.ending a b)) fun _ => h.bind (.bump counted) fun _ => ?_
  exact h.apart ((tellSnapshot_apart _).bind Busy.trans fun _ => refreshAndRun_apart)

theorem closeGame_passes (a : Axis) (r : EndReason) : Passes (Unstarted a) (s.closeGame r) := by
  have h := Unstarted.lenient a
  obtain ⟨hn, hs⟩ := a.reason_other r
  rw [List.mem_pair, not_or] at hn hs
  have reason : ∀ st : EngineState, Unstarted a st (st.telling [(endReasonProp, .text r.name)]) := fun st =>
    .telling (by simpa using hn.1) (by simpa using hs.1)
  have counted : ∀ (st : EngineState) x, Unstarted a st (st.telling [(r.countProp, x)]) := fun st x =>
    .telling (by simpa using hn.2) (by simpa using hs.2)
  unfold closeGame
  exact h.bind (.changeSystem reason) fun _ => h.bind (.bump counted) fun _ => close_passes a .game

theorem closeBeforeStart_passes (a b : Axis) : Passes (Unstarted a) (s.closeBeforeStart b) := by
  cases b with
  | session => exact close_passes a .session
  | game => exact closeGame_passes a .implicitRestart

/-- a start keeps to what its telling, its counting and its presentation keep to -/
theorem begin_passes {P : EngineState → EngineState → Prop} (h : Lenient P) (b : Axis)
    (told : ∀ st : EngineState, P st (st.telling b.starting))
    (counted : ∀ (st : EngineState) (n : Int) (x : Window),
      P st { st.telling [(b.startsProp, .int n)] with windows := st.windows.set (.counter b) x })
    (presented : ∀ st : EngineState, P st (st.telling b.presenting)) : Passes P (s.begin b) := by
  have shown : Passes P (do s.tellSnapshot (.started b); s.runRules : Run σ Unit) :=
    h.apart ((tellSnapshot_apart _).bind Busy.trans fun _ => runRules_apart)
  unfold begin
  refine h.bind (h.apart now_apart) fun t => h.bind (h.apart (refresh_apart t)) fun _ => ?_
  refine h.bind (.changeSystem told) fun _ => h.bind (h.count b t counted) fun _ => ?_
  exact shown.ensuring h.trans presented

/-- of an axis nothing is told while the other one starts -/
theorem begin_other (hb : b ≠ a) : Passes (Unstarted a) (s.begin b) := by
  refine begin_passes (Unstarted.lenient a) b (fun st => .other hb ?_) (fun st n x => ?_) fun st =>
    .other hb b.presenting_names
  · simp [Axis.starting, Axis.names]
  · have told : Unstarted a st (st.telling [(b.startsProp, .int n)]) := .other hb (by simp [Axis.names])
    have window : (st.windows.set (.counter b) x).get (.counter a) = st.windows.get (.counter a) :=
      Windows.get_set_of_ne (fun h => hb (Period.counter.inj h).symm) _ _
    exact ⟨told.new, told.status, congrArg Window.key window⟩

/-- an axis that starts is level when the start comes to its end, and stays level when it fails -/
theorem begin_level (hb : w.engine.busy = true) :
    (s.begin a).leads w (fun _ v => Down a v.engine.state)
      (fun _ v => Level a w.engine.state → Level a v.engine.state) := by
  have counts : ∀ t (x : World σ), x.engine.busy = true → Flags a true false .started x.engine.state →
      (count a t).leads x (fun _ y => y.engine.busy = true ∧ Flags a true false .started y.engine.state)
        (fun _ y => Level a y.engine.state) := by
    intro t x hx hf
    have still : (count a t).leads x (fun _ _ => True) (fun _ y => y.engine = x.engine) := by
      unfold count
      rw [leads_bind, leads_state, leads_bind, leads_ofWarned]
      split
      · simp only [leads_bind, leads_change, leads_note]
      · exact x.warning_engine _
    refine ((count_goes t hx hf).and still).mono (fun _ y hy => ⟨hy.1.1.busy, hy.1.2.2⟩) fun _ y hy => ?_
    rw [hy.2]
    exact .inr hy.1.2.1
  have presents : ∀ y : World σ, y.engine.busy = true → Flags a true false .started y.engine.state →
      (s.present a).leads y (fun _ v => Down a v.engine.state) (fun _ v => Down a v.engine.state) := by
    intro y hy hf
    have shown : Apart (do s.tellSnapshot (.started a); s.runRules : Run σ Unit) :=
      (tellSnapshot_apart _).bind Busy.trans fun _ => runRules_apart
    unfold present
    rw [leads_ensuring]
    refine (shown y).imp fun v hv => ?_
    exact (hf.sameLife (Beside.of_chain (hv hy).1).engine).present.down
  have passed : ∀ {x : World σ}, Along (During (Unstarted a)) w x → Level a w.engine.state → Level a x.engine.state :=
    fun hx => hx.engine.state.level
  have busy : ∀ {x : World σ}, Along (During (Unstarted a)) w x → x.engine.busy = true := by
    intro x hx
    rw [Engine.busy, hx.engine.running]
    exact hb
  have front : Passes (Unstarted a) (do let t ← s.now; s.refresh t; pure t : Run σ Instant) :=
    (Unstarted.lenient a).apart (now_apart.bind Busy.trans fun t => (refresh_apart t).bind Busy.trans fun _ v =>
      (leads_pure t).2 (Busy.refl v))
  have before := front w hb
  simp only [leads_bind, leads_pure] at before
  unfold begin
  simp only [leads_bind]
  refine before.mono (fun t _ hv => hv.mono (fun _ x hx => ?_) fun _ _ hx => passed hx) fun _ _ hv => passed hv
  rw [leads_changeSystem]
  let y := x.withState (x.engine.state.telling a.starting)
  have here : y.engine.busy = true := (busy hx : x.engine.busy = true)
  refine (counts t y here (.started a _)).mono (fun _ z hz => ?_) fun _ _ hz _ => hz
  exact (presents z hz.1 hz.2).mono (fun _ _ hv => hv) fun _ _ hv _ => .inl hv

/-! ## Requests -/

/-- nothing is told of an axis by an operation that does not start it -/
theorem perform_other (hop : op.isLoad = false) (ha : op ≠ .start a) : Passes (Unstarted a) (s.perform op) := by
  have h := Unstarted.lenient a
  intro w hb
  have still : Along (During (Unstarted a)) w w := .still ⟨rfl, .refl a _⟩ rfl
  cases op with
  | evaluate => exact h.apart refreshAndRun_apart w hb
  | start b =>
    have hba : b ≠ a := fun hba => ha (hba ▸ rfl)
    simp only [perform, leads_bind, leads_state, leads_ite]
    split
    · rw [← leads_bind]
      exact h.bind (closeBeforeStart_passes a b) (fun _ => begin_other hba) w hb
    · exact begin_other hba w hb
  | endSession =>
    simp only [perform, leads_bind, leads_state, leads_ite]
    split
    · exact close_passes a .session w hb
    · exact (leads_pure ()).2 still
  | endGame r =>
    simp only [perform, leads_bind, leads_state, leads_ite]
    split
    · exact closeGame_passes a r w hb
    · exact (leads_pure ()).2 still
  | load v => cases hop

/-- a start of an axis runs throughout, and leaves the axis level -/
theorem perform_own (hb : w.engine.busy = true) :
    (s.perform (.start a)).leads w
      (fun _ v => Along (During fun _ _ => True) w v ∧ Down a v.engine.state)
      (fun _ v => Along (During fun _ _ => True) w v ∧ (Level a w.engine.state → Level a v.engine.state)) := by
  have any : Lenient fun _ _ => True := ⟨fun _ _ _ _ _ => trivial, fun _ _ _ => trivial⟩
  have begins : Passes (fun _ _ => True) (s.begin a) :=
    begin_passes any a (fun _ => trivial) (fun _ _ _ => trivial) fun _ => trivial
  simp only [perform, leads_bind, leads_state, leads_ite]
  split
  · refine (closeBeforeStart_passes a a w hb).mono (fun _ u hu => ?_) fun _ v hv => ?_
    · have busy : u.engine.busy = true := by rw [Engine.busy, hu.engine.running]; exact hb
      have closed : Along (During fun _ _ => True) w u := hu.mono fun _ _ h => ⟨h.running, trivial⟩
      refine ((begins u busy).and (begin_level busy)).mono (fun _ v hv => ?_) fun _ v hv => ?_
      · exact ⟨any.along_trans closed hv.1, hv.2⟩
      · exact ⟨any.along_trans closed hv.1, fun hl => hv.2 (hu.engine.state.level hl)⟩
    · exact ⟨hv.mono fun _ _ h => ⟨h.running, trivial⟩, hv.engine.state.level⟩
  · exact (begins w hb).and (begin_level hb)

/-- an axis is level again after steps from a world where it was, and was level in between unless a start of it ran -/
structure Levels (a : Axis) (w w' : World σ) : Prop where
  level : Level a w.engine.state → Level a w'.engine.state
  trace : ∃ ns : List Noted, w'.trace = ns ++ w.trace ∧
    ∀ x ∈ ns, x.engine.running = some (.start a) ∨ (Level a w.engine.state → Level a x.engine.state)

theorem Levels.trans (h : Levels a u w) (h' : Levels a w w') : Levels a u w' := by
  obtain ⟨ns, hns, hx⟩ := h.trace
  obtain ⟨ms, hms, hx'⟩ := h'.trace
  refine ⟨fun hl => h'.level (h.level hl), ms ++ ns, by rw [hms, hns, List.append_assoc], fun x hm => ?_⟩
  rcases List.mem_append.1 hm with hm | hm
  · exact (hx' x hm).imp_right fun hl hu => hl (h.level hu)
  · exact hx x hm

/-- engines in which nothing is told of an axis -/
abbrev Silent (a : Axis) (e e' : Engine) : Prop := Unstarted a e.state e'.state

theorem Along.levels (h : Along (Silent a) w w') : Levels a w w' := by
  obtain ⟨ns, hns, hx⟩ := h.trace
  exact ⟨h.engine.level, ns, hns, fun x hm => .inr (hx x hm).level⟩

theorem Along.silent_trans (h : Along (Silent a) u w) (h' : Along (Silent a) w w') : Along (Silent a) u w' :=
  h.trans (fun _ _ _ => Unstarted.trans) h'

theorem HookMove.silent (h : HookMove w w') (a : Axis) : Along (Silent a) w w' :=
  h.beside.along.mono fun _ _ hs => hs.unstarted a

/-- an operation that does not start an axis tells nothing of it -/
theorem operation_other (hop : op.isLoad = false) (ha : op ≠ .start a) (hb : w.engine.busy = false) :
    (operation op (s.perform op)).leads w (fun _ v => Along (Silent a) w v ∧ v.engine.busy = false)
      (fun _ v => Along (Silent a) w v ∧ v.engine.busy = false) := by
  unfold operation
  simp only [leads_bind, leads_engine, hb, Bool.false_eq_true, if_false, leads_pure, leads_changeEngine, leads_ensuring]
  let u := w.withEngine (enter op w.engine)
  refine (perform_other hop ha u rfl).imp fun v hv => ?_
  obtain ⟨ns, hns, hx⟩ := hv.trace
  exact ⟨⟨hv.engine.state, ns, hns, fun x hm => (hx x hm).state⟩, rfl⟩

/-- an operation keeps an axis level, and a start of it that comes to its end makes it level -/
theorem operation_levels (op : Operation) (hop : op.isLoad = false) (hb : w.engine.busy = false) :
    (operation op (s.perform op)).leads w
      (fun _ v => (Levels a w v ∧ v.engine.busy = false) ∧ (op = .start a → Down a v.engine.state))
      (fun _ v => Levels a w v ∧ v.engine.busy = false) := by
  by_cases ha : op = .start a
  · subst ha
    unfold operation
    simp only [leads_bind, leads_engine, hb, Bool.false_eq_true, if_false, leads_pure, leads_changeEngine, leads_ensuring]
    let u := w.withEngine (enter (.start a) w.engine)
    have runs : ∀ {v : World σ}, Along (During fun _ _ => True) u v →
        ∃ ns : List Noted, v.trace = ns ++ w.trace ∧
          ∀ x ∈ ns, x.engine.running = some (.start a) ∨ (Level a w.engine.state → Level a x.engine.state) := by
      intro v hv
      obtain ⟨ns, hns, hx⟩ := hv.trace
      exact ⟨ns, hns, fun x hm => .inl (hx x hm).running⟩
    refine (perform_own (w := u) rfl).mono (fun _ v hv => ?_) fun _ v hv => ?_
    · exact ⟨⟨⟨fun _ => .inl hv.2, runs (v := v) hv.1⟩, rfl⟩, fun _ => hv.2⟩
    · exact ⟨⟨hv.2, runs (v := v) hv.1⟩, rfl⟩
  · exact (operation_other hop ha hb).mono (fun _ v hv => ⟨⟨hv.1.levels, hv.2⟩, fun h => absurd h ha⟩)
      fun _ v hv => ⟨hv.1.levels, hv.2⟩

/-- a request that starts no axis tells nothing of it -/
theorem answer_other {q : Request} (hq : q.isLoad = false) (ha : q ≠ .operate (.start a)) (hb : w.engine.busy = false) :
    (s.answer q).leads w (fun _ v => Along (Silent a) w v ∧ v.engine.busy = false)
      (fun _ v => Along (Silent a) w v ∧ v.engine.busy = false) := by
  refine answerWith_leads (P := fun v => Along (Silent a) w v ∧ v.engine.busy = false) (fun v v' h hv => ?_)
    (fun _ hv => hv) (fun op hop v hv => ?_) ⟨.still (.refl a _) rfl, hb⟩
  · exact ⟨hv.1.silent_trans (h.silent a), h.busy.trans hv.2⟩
  · have hother : op ≠ .start a := by
      rintro rfl
      cases q with
      | operate => exact ha (congrArg Request.operate hop.symm)
      | endGameFor => obtain ⟨r, hr⟩ := hop; cases hr
      | _ => cases hop
    exact (operation_other (hop.not_load hq) hother hv.2).imp fun u hu => ⟨hv.1.silent_trans hu.1, hu.2⟩

/-- a request keeps an axis level -/
theorem answer_levels {q : Request} (hq : q.isLoad = false) (hb : w.engine.busy = false) :
    (s.answer q).leads w (fun _ v => Levels a w v ∧ v.engine.busy = false)
      (fun _ v => Levels a w v ∧ v.engine.busy = false) := by
  by_cases ha : q = .operate (.start a)
  · subst ha
    exact (operation_levels (.start a) rfl hb).mono (fun _ _ hv => hv.1) fun _ _ hv => hv
  · exact (answer_other hq ha hb).imp fun v hv => ⟨hv.1.levels, hv.2⟩

/-! ## Histories -/

/-- the worlds a host comes to from another one, by changes of its own and by requests of a kind -/
inductive Ahead (s : Setup σ) (may : Request → Prop) (w : World σ) : World σ → Prop where
  | here : Ahead s may w w
  | host {w' : World σ} (h : Ahead s may w w') (x : σ) : Ahead s may w (w'.withHost x)
  | asked {w' : World σ} (h : Ahead s may w w') (q : Request) (hq : may q) : Ahead s may w ((s.answer q).exec w').2

theorem Ahead.levels (h : Ahead s (fun q => q.isLoad = false) w w') (hb : w.engine.busy = false) :
    Levels a w w' ∧ w'.engine.busy = false := by
  induction h with
  | here => exact ⟨(Along.still (.refl a _) rfl).levels, hb⟩
  | @host u h x ih =>
    have moved : Along (Silent a) u (u.withHost x) := .still (.refl a _) rfl
    exact ⟨ih.1.trans moved.levels, ih.2⟩
  | asked h q hq ih =>
    have asked := leads_const.1 (answer_levels (s := s) (a := a) hq ih.2)
    exact ⟨ih.1.trans asked.1, asked.2⟩

theorem Ahead.silent (h : Ahead s (fun q => q.isLoad = false ∧ q ≠ .operate (.start a)) w w')
    (hb : w.engine.busy = false) : Along (Silent a) w w' ∧ w'.engine.busy = false := by
  induction h with
  | here => exact ⟨.still (.refl a _) rfl, hb⟩
  | host h x ih => exact ⟨ih.1.silent_trans (.still (.refl a _) rfl), ih.2⟩
  | asked h q hq ih =>
    have asked := leads_const.1 (answer_other (s := s) hq.1 hq.2 ih.2)
    exact ⟨ih.1.silent_trans asked.1, asked.2⟩

/-- an engine as it is now, or as it was when a note was taken -/
def World.Shows (w : World σ) (e : Engine) : Prop := e = w.engine ∨ e ∈ w.trace.map (·.engine)

/-- the worlds a host comes to from a new engine, by changes of its own, by requests, and by loads of states that
engines wrote at any moment but during a start of an axis -/
inductive Guarded (a : Axis) : {σ : Type} → Setup σ → World σ → Prop where
  | new {σ : Type} (s : Setup σ) (h : σ) : Guarded a s { host := h }
  | host {σ : Type} {s : Setup σ} {w : World σ} (hw : Guarded a s w) (h : σ) : Guarded a s (w.withHost h)
  | asked {σ : Type} {s : Setup σ} {w : World σ} (hw : Guarded a s w) (q : Request) (hq : q.isLoad = false) :
      Guarded a s ((s.answer q).exec w).2
  | loaded {σ τ : Type} {s : Setup σ} {s' : Setup τ} {w : World σ} {v : World τ} (hw : Guarded a s w)
      (hv : Guarded a s' v) {e : Engine} (he : v.Shows e) (hr : e.running ≠ some (.start a)) :
      Guarded a s ((s.answer (.operate (.load e.state.toValue))).exec w).2

/-! ### What was noted is in order -/

/-- every note of a move tells of the state before or after it -/
theorem Move.notes (h : Move s w w') : ∃ ns, w'.trace = ns ++ w.trace ∧
    ∀ x ∈ ns, x.engine.state = w.engine.state ∨ x.engine.state = w'.engine.state := by
  cases h.change with
  | still _ _ trace =>
    rcases trace with ht | ⟨n, -, ht⟩
    · exact ⟨[], ht, fun _ hx => absurd hx List.not_mem_nil⟩
    · exact ⟨[⟨n, w.engine⟩], ht, List.forall_mem_singleton.2 (.inl rfl)⟩
  | unread id e h =>
    subst h
    refine ⟨[⟨.clock (.error e), w.engine⟩, ⟨.judged id (.ok (.ok true)), w.engine⟩], rfl, ?_⟩
    exact List.forall_mem_cons.2 ⟨.inl rfl, List.forall_mem_singleton.2 (.inl rfl)⟩
  | held r hr t l hl h =>
    subst h
    rw [World.noting_trace, World.matching_trace, World.matching_engine]
    refine ⟨[_, _, _], rfl, ?_⟩
    exact List.forall_mem_cons.2 ⟨.inl rfl, List.forall_mem_cons.2 ⟨.inl rfl, List.forall_mem_singleton.2 (.inl rfl)⟩⟩
  | earned r hr t e l hl h =>
    subst h
    rw [World.earning_trace, World.matching_trace]
    refine ⟨[_, _, _], rfl, ?_⟩
    exact List.forall_mem_cons.2 ⟨.inr rfl, List.forall_mem_cons.2 ⟨.inl rfl, List.forall_mem_singleton.2 (.inl rfl)⟩⟩
  | refreshed t l ht h =>
    subst h
    rw [World.refreshing_trace]
    exact ⟨[_], rfl, List.forall_mem_singleton.2 (.inr rfl)⟩
  | counted a t ht n key h =>
    subst h
    rw [World.counting_trace]
    exact ⟨[_], rfl, List.forall_mem_singleton.2 (.inr rfl)⟩

theorem Move.noted (h : Move s w w') :
    ∀ x ∈ w'.trace, x ∈ w.trace ∨ x.engine.state = w.engine.state ∨ x.engine.state = w'.engine.state := by
  obtain ⟨ns, hns, hx⟩ := h.notes
  intro x hm
  rw [hns] at hm
  exact (List.mem_append.1 hm).symm.imp_right (hx x)

theorem Turns.notes_kept (h : Turns s w w') (hw : w.engine.state.Kept) (hn : ∀ x ∈ w.trace, x.engine.state.Kept) :
    ∀ x ∈ w'.trace, x.engine.state.Kept := by
  induction h with
  | refl => exact hn
  | @tail u v hu h ih =>
    have before : u.engine.state.Kept := Turns.kept hu hw
    have after : v.engine.state.Kept := h.kept before
    intro x hx
    cases h with
    | moved h =>
      rcases h.noted x hx with hx | he | he
      · exact ih x hx
      · exact he ▸ before
      · exact he ▸ after
    | loaded v st hv => exact ih x hx

/-- whatever a hook sees of a state is in order, too -/
theorem Reached.shows_kept (hw : Reached s w) {e : Engine} (he : w.Shows e) : e.state.Kept := by
  have notes : ∀ x ∈ w.trace, x.engine.state.Kept := by
    clear he
    induction hw with
    | new h => exact fun _ hx => absurd hx List.not_mem_nil
    | host hw h ih => exact ih
    | asked hw q hq ih => exact Turns.notes_kept (leads_const.1 (answer_turns q _) hw.idle).1 hw.kept ih
  rcases he with rfl | he
  · exact hw.kept
  · obtain ⟨x, hx, rfl⟩ := List.mem_map.1 he
    exact notes x hx

theorem Guarded.reached (h : Guarded a s w) : Reached s w := by
  induction h with
  | new s h => exact .new h
  | host hw h ih => exact .host ih h
  | asked hw q hq ih => exact .asked ih q trivial
  | loaded hw hv he hr ih ihv => exact .asked ih _ trivial

/-- an axis is level whenever no start of it runs -/
theorem Guarded.level (h : Guarded a s w) {e : Engine} (he : w.Shows e) (hr : e.running ≠ some (.start a)) :
    Level a e.state := by
  have all : Level a w.engine.state ∧ ∀ x ∈ w.trace, x.engine.running ≠ some (.start a) → Level a x.engine.state := by
    clear he hr
    induction h with
    | new s h => exact ⟨.inl (.fresh a), fun _ hx => absurd hx List.not_mem_nil⟩
    | host hw h ih => exact ih
    | @asked σ s u hw q hq ih =>
      obtain ⟨level, notes⟩ := ih
      have asked := (leads_const.1 (answer_levels (s := s) (a := a) hq hw.reached.idle)).1
      obtain ⟨ns, hns, hx⟩ := asked.trace
      refine ⟨asked.level level, fun x hm hrun => ?_⟩
      rw [hns] at hm
      rcases List.mem_append.1 hm with hm | hm
      · exact (hx x hm).elim (fun h => absurd h hrun) fun hl => hl level
      · exact notes x hm hrun
    | @loaded σ τ s s' u v hw hv e' he' hr' ih ihv =>
      obtain ⟨-, notes⟩ := ih
      have kept := hv.reached.shows_kept he'
      rw [exec_load (EngineState.ofValue_toValue kept.orderly) kept.prepared.eq hw.reached.settled]
      refine ⟨?_, notes⟩
      obtain ⟨level, before⟩ := ihv
      rcases he' with rfl | he'
      · exact level
      · obtain ⟨x, hx, rfl⟩ := List.mem_map.1 he'
        exact before x hx hr'
  rcases he with rfl | he
  · exact all.1
  · obtain ⟨x, hx, rfl⟩ := List.mem_map.1 he
    exact all.2 x hx hr

/-- **Saved starts.** A state that an engine wrote at any moment, also during an operation, is loaded as it is. If an
axis was level in it, as it is whenever no start of the axis ran, the axis is level at all later times but during its
starts. Else what it tells of the start stays, through all that is not a start of the axis; a start that comes to its
end takes it back. -/
theorem saved_starts (a : Axis) (hw : Reached s w) {e : Engine} (he : w.Shows e) {s' : Setup τ} {v : World τ}
    (hv : Reached s' v) :
    (Guarded a s w → e.running ≠ some (.start a) → Level a e.state) ∧
    ∃ u, (s'.answer (.operate (.load e.state.toValue))).exec v = (.ok .done, u) ∧ u.engine.state = e.state ∧
      (Level a e.state → ∀ u', Ahead s' (fun q => q.isLoad = false) u u' → Level a u'.engine.state ∧
        ∃ ns, u'.trace = ns ++ u.trace ∧
          ∀ x ∈ ns, x.engine.running = some (.start a) ∨ Level a x.engine.state) ∧
      (∀ u', Ahead s' (fun q => q.isLoad = false ∧ q ≠ .operate (.start a)) u u' →
        u'.engine.state.system.get? a.newProp = e.state.system.get? a.newProp ∧
        ∃ ns, u'.trace = ns ++ u.trace ∧
          ∀ x ∈ ns, x.engine.state.system.get? a.newProp = e.state.system.get? a.newProp) ∧
      ∀ u', Ahead s' (fun q => q.isLoad = false) u u' → ∀ badges u'',
        (s'.answer (.operate (.start a))).exec u' = (.ok badges, u'') → Down a u''.engine.state := by
  have kept := hw.shows_kept he
  have loaded := exec_load (s := s') (EngineState.ofValue_toValue kept.orderly) kept.prepared.eq hv.settled
  refine ⟨fun hg hr => hg.level he hr, _, loaded, rfl, fun hl u' hu => ?_, fun u' hu => ?_, fun u' hu badges u'' h => ?_⟩
  · obtain ⟨levels, -⟩ := hu.levels (a := a) rfl
    obtain ⟨ns, hns, hx⟩ := levels.trace
    exact ⟨levels.level hl, ns, hns, fun x hm => (hx x hm).imp_right fun h => h hl⟩
  · obtain ⟨silent, -⟩ := hu.silent rfl
    obtain ⟨ns, hns, hx⟩ := silent.trace
    exact ⟨silent.engine.new, ns, hns, fun x hm => (hx x hm).new⟩
  · have idle := (hu.levels (a := a) rfl).2
    have started := (leads_iff.1 (operation_levels (s := s') (a := a) (.start a) rfl idle)).1 badges
    have run : (operation (.start a) (s'.perform (.start a))).exec u' = (.ok badges, u'') := h
    rw [run] at started
    exact (started rfl).2 rfl

/-- an engine with a rule that holds while a game starts -/
def newcomer : Setup Unit := standstill [{ id := "n", condition := "system.isNewGame" }] none

/-- such an engine, whose hook for a start of a game looks at the state -/
def onlooker : Setup Unit where
  __ := newcomer
  hook _ h _ := if h = .started .game then some (.look fun _ => .finish () (.ok ())) else none

/-- a game was started, and the hook looked at it -/
def lookedAt : World Unit := World.after onlooker { host := () } [.operate (.start .game)]

/-- the engine as the hook saw it -/
def seenStarting : Engine := ((lookedAt.trace.find? fun x => x.note matches .turn .look).map (·.engine)).getD {}

theorem lookedAt_reached : Reached onlooker lookedAt := Reach.after (.new _) fun _ _ => trivial

theorem seenStarting_shown : lookedAt.Shows seenStarting := by
  have found : (lookedAt.trace.find? fun x => x.note matches .turn .look).isSome = true := by decide +kernel
  obtain ⟨x, hx⟩ := Option.isSome_iff_exists.1 found
  refine .inr (List.mem_map.2 ⟨x, List.mem_of_find?_eq_some hx, ?_⟩)
  unfold seenStarting
  rw [hx]
  rfl

theorem seenStarting_new : seenStarting.state.system.get? Axis.game.newProp = some (.bool true) := by decide +kernel

/-- an engine that loads what the hook saw tells of a new game until a game is started -/
theorem seenStarting_stays :
    ∃ u, (newcomer.answer (.operate (.load seenStarting.state.toValue))).exec { host := () } = (.ok .done, u) ∧
      (∀ u', Ahead newcomer (fun q => q.isLoad = false ∧ q ≠ .operate (.start .game)) u u' →
        u'.engine.state.system.get? Axis.game.newProp = some (.bool true)) ∧
      ∀ u', Ahead newcomer (fun q => q.isLoad = false) u u' → ∀ badges u'',
        (newcomer.answer (.operate (.start .game))).exec u' = (.ok badges, u'') → Down .game u''.engine.state := by
  have new : Reached newcomer { host := () } := .new ()
  obtain ⟨-, u, loaded, -, -, stays, ends⟩ := saved_starts .game lookedAt_reached seenStarting_shown new
  exact ⟨u, loaded, fun u' hu => (stays u' hu).1.trans seenStarting_new, ends⟩

/-- such an engine, when it has run its rules -/
def misled : World Unit :=
  World.after newcomer { host := () } [.operate (.load seenStarting.state.toValue), .operate .evaluate]

/-- no game was started by it, and it tells of a new game; and the rule held -/
theorem start_leaks : Reached onlooker lookedAt ∧ lookedAt.Shows seenStarting ∧ misled.engine.busy = false ∧
    misled.engine.state.system.get? Axis.game.newProp = some (.bool true) ∧
    misled.engine.state.status .game = .started ∧ misled.engine.state.ledger.entries.map (·.id) = ["n"] :=
  ⟨lookedAt_reached, seenStarting_shown, by decide +kernel⟩

end BadgeEngine
