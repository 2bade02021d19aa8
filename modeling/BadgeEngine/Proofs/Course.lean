/-
The course of an operation. An operation passes over the rules, once or several times; before, between and after
the passes it takes steps aside (`Aside`): it reads the clock, refreshes and counts windows, sets system properties
and calls hooks other than that of an earned badge, and leaves the ledger and the badges of the operation alone. So
what is to be shown of a whole operation has to be shown of steps aside and of one pass: every operation that loads no
state is a chain of these (`perform_course`).
-/
import BadgeEngine.Proofs.Moves

namespace BadgeEngine

open BadgeEngine.Time Relation Run Setup

variable {σ α β : Type} {s : Setup σ} {u w w' : World σ}

/-! ## Steps aside -/

/-- a note that tells neither of a pass over the rules nor of an earned badge -/
def Note.isAside : Note → Bool
  | .pass | .judged .. | .recorded .. | .told .badgeEarned _ => false
  | _ => true

/-- a world after steps that left the rules, the ledger and the badges of the operation alone -/
structure Aside (w w' : World σ) : Prop where
  running : w'.engine.running = w.engine.running
  ledger : w'.engine.state.ledger = w.engine.state.ledger
  news : w'.engine.news = w.engine.news
  trace : ∃ ns : List Noted, w'.trace = ns ++ w.trace ∧ ∀ x ∈ ns, x.note.isAside

namespace Aside

theorem refl (w : World σ) : Aside w w := ⟨rfl, rfl, rfl, [], rfl, fun _ hx => absurd hx List.not_mem_nil⟩

theorem trans (h : Aside u w) (h' : Aside w w') : Aside u w' := by
  obtain ⟨ns, hns, hs⟩ := h.trace
  obtain ⟨ms, hms, hs'⟩ := h'.trace
  refine ⟨h'.running.trans h.running, h'.ledger.trans h.ledger, h'.news.trans h.news, ms ++ ns, ?_, fun x hx => ?_⟩
  · rw [hms, hns, List.append_assoc]
  · exact (List.mem_append.1 hx).elim (hs' x) (hs x)

theorem busy (h : Aside w w') : w'.engine.busy = w.engine.busy := by
  rw [Engine.busy, h.running, Engine.busy]

theorem noted (w : World σ) (n : Note) (hn : n.isAside) : Aside w (w.noting n) :=
  ⟨rfl, rfl, rfl, [⟨n, w.engine⟩], rfl, fun x hx => by rw [List.mem_singleton.1 hx]; exact hn⟩

/-- a host that changes takes no note -/
theorem host (w : World σ) (h : σ) : Aside w (w.withHost h) := { refl w with }

/-- a state that changes beside its ledger is a step aside -/
theorem withState (w : World σ) {st : EngineState} (h : st.ledger = w.engine.state.ledger) : Aside w (w.withState st) :=
  { refl w with ledger := h }

theorem of_chain (h : ReflTransGen Aside w w') : Aside w w' := by
  induction h with
  | refl => exact .refl _
  | tail _ h ih => exact ih.trans h

end Aside

/-- a program that takes steps aside while an operation runs -/
abbrev Strays (r : Run σ α) : Prop := r.within (Busy (ReflTransGen Aside))

theorem Aside.busily (h : Aside w w') : Busy (ReflTransGen Aside) w w' := .single h h.busy

/-! ### Programs aside -/

theorem note_strays {n : Note} (hn : n.isAside) : Strays (note n : Run σ Unit) := by
  intro w
  exact (leads_note n).2 (Aside.noted w n hn).busily

theorem now_aside (w : World σ) : s.now.leads w (fun _ => Aside w) (fun _ => Aside w) := by
  rw [leads_now]
  have read : ∀ r, Aside w ((w.withHost (s.clock w.host).2).noting (.clock r)) := by
    intro r
    exact (Aside.host w _).trans (.noted _ _ rfl)
  split <;> exact read _

theorem now_strays : Strays s.now := fun w => (now_aside w).imp fun _ hv => hv.busily

theorem change_strays {f : EngineState → EngineState} (hf : ∀ st, (f st).ledger = st.ledger) :
    Strays (change f : Run σ Unit) := by
  intro w
  have changed : Aside w (w.withState (f w.engine.state)) := .withState w (hf _)
  exact (leads_change f).2 changed.busily

theorem changeSystem_strays (f : Props → Props) : Strays (changeSystem f : Run σ Unit) := change_strays fun _ => rfl

theorem bump_strays (name : String) : Strays (bump name : Run σ Unit) := by
  intro w
  simp only [bump, leads_bind, leads_state, leads_ofExcept]
  cases w.engine.state.system.addValue name (.ofInt 1) with
  | error e => exact Busy.refl w
  | ok system => exact changeSystem_strays _ w

/-- while an operation runs, a hook can change properties and bookmarks and read the clock, and is refused the rest -/
theorem answerHook_strays (q : Request) : Strays (s.answerHook q) := by
  intro w
  refine Busy.intro fun hb => ?_
  have stray : ∀ {v : World σ}, Aside w v → ReflTransGen Aside w v ∧ v.engine.busy := fun h => ⟨.single h, h.busy.trans hb⟩
  cases q with
  | write q skip =>
    simp only [answerHook, answerWith, leads_bind, leads_state, leads_ofExcept, leads_change]
    cases q.apply w.engine.state.props with
    | error e => exact stray (.refl w)
    | ok props =>
      cases skip with
      | true => exact (leads_pure _).2 (stray (.withState w rfl))
      | false =>
        have busy : ({ w.engine with state := { w.engine.state with props } } : Engine).busy := hb
        simp only [Bool.false_eq_true, if_false, leads_bind, leads_engine, busy, if_true, leads_changeEngine, leads_pure]
        exact stray { Aside.refl w with }
  | operate op => exact (leads_operation_busy hb).2 (stray (.refl w))
  | endGameFor v =>
    simp only [answerHook, answerWith, leads_bind, leads_ofExcept]
    cases EndReason.ofValue v with
    | error e => exact stray (.refl w)
    | ok r => exact (leads_operation_busy hb).2 (stray (.refl w))
  | setBookmark name =>
    simp only [answerHook, answerWith, leads_bind, leads_change, leads_pure]
    refine (now_strays w).mono (fun t v hv => ?_) fun _ v hv => hv hb
    exact stray ((Aside.of_chain (hv hb).1).trans (.withState v rfl))
  | clearBookmark name =>
    simp only [answerHook, answerWith, leads_bind, leads_change, leads_pure]
    exact stray (.withState w rfl)

/-- a program of a hook takes steps aside -/
theorem ofScript_strays (p : Script σ α) : Strays (ofScript s.answerHook p) :=
  within_ofScript Busy.trans (fun _ => note_strays rfl)
    (fun h w => (leads_setHost h).2 (Aside.host w h).busily) answerHook_strays p

theorem tell_strays {h : Hook} (hh : h ≠ .badgeEarned) (p : Payload) : Strays (s.tell h p) := by
  intro w
  simp only [Setup.tell, leads_bind, leads_host]
  cases s.hook w.host h p with
  | none => exact (leads_pure ()).2 (Busy.refl w)
  | some script =>
    have told : (Note.told h p).isAside := by cases h <;> first | rfl | exact absurd rfl hh
    exact (note_strays told).bind Busy.trans (fun _ => ofScript_strays script) w

theorem tellSnapshot_strays {h : Hook} (hh : h ≠ .badgeEarned) : Strays (s.tellSnapshot h) := by
  intro w
  unfold tellSnapshot
  rw [leads_bind, leads_state]
  exact tell_strays hh _ w

theorem Aside.refreshing (w : World σ) (t : Instant) (l : Moment) : Aside w (w.refreshing t l) where
  running := w.refreshing_running t l
  ledger := w.refreshing_ledger t l
  news := by simp only [World.refreshing, World.noting, World.withEngine, Engine.refresh]
  trace := ⟨[_], w.refreshing_trace t l, fun x hx => by rw [List.mem_singleton.1 hx]; rfl⟩

attribute [local irreducible] Engine.refresh

theorem refresh_strays (t : Instant) : Strays (s.refresh t) := by
  intro w
  unfold refresh
  simp only [leads_bind, leads_ofExcept]
  cases localTime s.zone t with
  | error e => exact Busy.refl w
  | ok l =>
    simp only [leads_engine, leads_changeEngine, leads_note, leads_ite, leads_pure]
    have refreshed : Busy (ReflTransGen Aside) w (w.refreshing t l) := (Aside.refreshing w t l).busily
    split
    · exact (tellSnapshot_strays (by simp) (w.refreshing t l)).imp fun _ hv => Busy.trans refreshed hv
    · exact refreshed

theorem Aside.warning (w : World σ) (texts : List String) : Aside w (w.warning texts) := by
  induction texts generalizing w with
  | nil => exact .refl w
  | cons text texts ih => exact (Aside.noted w _ rfl).trans (ih _)

theorem count_strays (a : Axis) (t : Instant) : Strays (count a t : Run σ Unit) := by
  intro w
  unfold count
  simp only [leads_bind, leads_state, leads_ofWarned]
  rcases (w.engine.state.windows.advance a (.ok t)).answer with ⟨_ | ⟨n, windows⟩, texts⟩
  · exact (Aside.warning w texts).busily
  · have counted : Strays (do
        change fun s => { s with windows, system := s.system.set a.startsProp (.int n) }
        note (.counted a n) : Run σ Unit) := by
      refine within.bind Busy.trans (change_strays fun _ => ?_) fun _ => note_strays ?_
      all_goals rfl
    exact (leads_bind _ _).1 ((counted (w.warning texts)).imp fun _ hv => Busy.trans (Aside.warning w texts).busily hv)

/-! ## Operations -/

/-- a stage of an operation that runs: a step aside, or a pass over the rules, however it ends -/
inductive Stage (s : Setup σ) : World σ → World σ → Prop where
  | aside {w w' : World σ} (h : Aside w w') : Stage s w w'
  | pass {w : World σ} (hb : w.engine.busy) : Stage s w (s.pass.exec w).2

/-- stages, one after another -/
abbrev Course (s : Setup σ) : World σ → World σ → Prop := ReflTransGen (Stage s)

/-- a program that goes through stages while an operation runs -/
abbrev Proceeds (s : Setup σ) (r : Run σ α) : Prop := r.within (Busy (Course s))

theorem Strays.proceeds {r : Run σ α} (h : Strays r) : Proceeds s r :=
  h.mono fun _ _ h => h.mono fun _ _ => ReflTransGen.mono (fun _ _ h => .aside h) _ _

theorem Proceeds.bind {r : Run σ β} {f : β → Run σ α} (hr : Proceeds s r) (hf : ∀ b, Proceeds s (f b)) :
    Proceeds s (r >>= f) :=
  within.bind Busy.trans hr hf

theorem pass_proceeds : Proceeds s s.pass := by
  intro w
  refine leads_const.2 fun hb => ⟨.single (.pass hb), ?_⟩
  exact (leads_const.1 (pass_moves w) hb).2

theorem passes_proceeds (n : Nat) : Proceeds s (s.passes n) := by
  induction n with
  | zero =>
    refine pass_proceeds.bind fun again w => ?_
    rcases again with _ | _
    · exact (leads_pure ()).2 (Busy.refl w)
    · simp only [if_true, leads_bind, leads_note, leads_changeEngine]
      have warned : Aside w (w.noting (.warned passWarning)) := .noted w _ rfl
      have settled : Aside w ((w.noting (.warned passWarning)).withEngine { w.engine with pending := false }) :=
        warned.trans { Aside.refl _ with }
      exact .single (.aside settled) rfl
  | succ n ih =>
    refine pass_proceeds.bind fun again w => ?_
    rcases again with _ | _
    · exact (leads_pure ()).2 (Busy.refl w)
    · exact ih w

theorem runRules_proceeds : Proceeds s s.runRules := passes_proceeds passLimit

/-- the windows are refreshed at the instant the clock shows, and the rules run -/
theorem refreshAndRun_proceeds : Proceeds s (do s.refresh (← s.now); s.runRules) :=
  now_strays.proceeds.bind fun t => (refresh_strays t).proceeds.bind fun _ => runRules_proceeds

theorem close_proceeds (a : Axis) : Proceeds s (s.close a) := by
  unfold close
  refine (changeSystem_strays _).proceeds.bind fun _ => (bump_strays _).proceeds.bind fun _ => ?_
  exact (tellSnapshot_strays (by simp)).proceeds.bind fun _ => refreshAndRun_proceeds

theorem closeGame_proceeds (r : EndReason) : Proceeds s (s.closeGame r) := by
  unfold closeGame
  exact (changeSystem_strays _).proceeds.bind fun _ => (bump_strays _).proceeds.bind fun _ => close_proceeds .game

theorem closeBeforeStart_proceeds (a : Axis) : Proceeds s (s.closeBeforeStart a) := by
  cases a with
  | session => exact close_proceeds .session
  | game => exact closeGame_proceeds .implicitRestart

theorem present_proceeds (a : Axis) : Proceeds s (s.present a) := by
  intro w
  have told : Proceeds s (do s.tellSnapshot (.started a); s.runRules) :=
    (tellSnapshot_strays (by simp)).proceeds.bind fun _ => runRules_proceeds
  unfold present
  rw [leads_ensuring]
  refine (told w).mono (fun _ v hv hb => ?_) fun _ v hv hb => ?_
  all_goals exact ⟨(hv hb).1.tail (.aside (.withState v rfl)), (hv hb).2⟩

theorem begin_proceeds (a : Axis) : Proceeds s (s.begin a) := by
  unfold begin
  refine now_strays.proceeds.bind fun t => (refresh_strays t).proceeds.bind fun _ => ?_
  refine (changeSystem_strays _).proceeds.bind fun _ => (count_strays a t).proceeds.bind fun _ => ?_
  exact present_proceeds a

/-- **Operations.** An operation that loads no state is a chain of passes over the rules and steps aside, whether it
comes to its end or fails. -/
theorem perform_course {op : Operation} (hop : op.isLoad = false) : Proceeds s (s.perform op) := by
  intro w
  cases op with
  | evaluate => exact refreshAndRun_proceeds w
  | start a =>
    simp only [perform, leads_bind, leads_state, leads_ite]
    split
    · rw [← leads_bind]
      exact (closeBeforeStart_proceeds a).bind (fun _ => begin_proceeds a) w
    · exact begin_proceeds a w
  | endSession =>
    simp only [perform, leads_bind, leads_state, leads_ite]
    split
    · exact close_proceeds .session w
    · exact (leads_pure ()).2 (Busy.refl w)
  | endGame r =>
    simp only [perform, leads_bind, leads_state, leads_ite]
    split
    · exact closeGame_proceeds r w
    · exact (leads_pure ()).2 (Busy.refl w)
  | load v => cases hop

end BadgeEngine
