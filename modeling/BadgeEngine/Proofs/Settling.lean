/-
Writes of hooks settle (`writes_settle`).

A hook that writes a property tells the engine that the rules have to run again, unless it asks not to
(`Noted.skips`). So after steps of hooks and rules either the properties are as before, or the engine knows that they
are not (`Heeded`). The rules run until a pass ends without such a hint, or until a warning; then the last pass has seen
all that was written.
-/
import Mathlib.Data.List.Forall2
import BadgeEngine.Proofs.Repetition
import BadgeEngine.Proofs.Rollovers

namespace BadgeEngine

open BadgeEngine.Time Relation Run Setup

variable {σ α β : Type} {s : Setup σ} {u w w' : World σ} {ms ns : List Noted} {st : EngineState} {rules rules' : List Rule}

/-! ## What notes tell of writes and verdicts -/

namespace Noted

/-- a hook asks for a write, and not to run the rules for it -/
def skips (x : Noted) : Bool :=
  match x.note with
  | .turn (.ask (.write _ skip)) => skip
  | _ => false

/-- a condition was judged -/
def isJudged (x : Noted) : Bool :=
  match x.note with
  | .judged .. => true
  | _ => false

/-- a hook was called -/
def isTold (x : Noted) : Bool :=
  match x.note with
  | .told .. => true
  | _ => false

end Noted

/-- the verdicts among notes, in the order in which they were given -/
def verdictsIn (ns : List Noted) : List Noted := (ns.filter Noted.isJudged).reverse

theorem verdictsIn_append (ms ns : List Noted) : verdictsIn (ms ++ ns) = verdictsIn ns ++ verdictsIn ms := by
  rw [verdictsIn, List.filter_append, List.reverse_append, verdictsIn, verdictsIn]

theorem verdictsIn_of_none (h : ∀ x ∈ ns, x.isJudged = false) : verdictsIn ns = [] := by
  rw [verdictsIn, List.filter_eq_nil_iff.2 fun x hx => by simp [h x hx], List.reverse_nil]

/-- a note tells what a host judged of a rule by the properties of a state, and by the ledger as it was -/
def Rule.JudgedBy (s : Setup σ) (st : EngineState) (r : Rule) (x : Noted) : Prop :=
  ∃ h, x.note = .judged r.id (s.judge h ⟨st.props, st.system, x.engine.state.ledger⟩ r.condition).1

/-! ## Steps of hooks and rules -/

/-- a world after rules were judged by the properties of a state; if hooks wrote anything meanwhile, the engine knows
that the rules have to run again -/
structure Heeded (s : Setup σ) (st : EngineState) (rules : List Rule) (w w' : World σ) : Prop where
  running : w'.engine.running = w.engine.running
  system : w'.engine.state.system = w.engine.state.system
  trace : ∃ ns, w'.trace = ns ++ w.trace ∧ (∀ x ∈ ns, x.isPass = false) ∧
    List.Forall₂ (Rule.JudgedBy s st) rules (verdictsIn ns) ∧
    ((∀ x ∈ ns, x.skips = false) → w'.engine.pending = false →
      w.engine.pending = false ∧ w'.engine.state.props = w.engine.state.props)

namespace Heeded

theorem trans (h : Heeded s st rules u w) (h' : Heeded s st rules' w w') : Heeded s st (rules ++ rules') u w' := by
  obtain ⟨ns, hns, hp, hv, hw⟩ := h.trace
  obtain ⟨ms, hms, hp', hv', hw'⟩ := h'.trace
  refine ⟨h'.running.trans h.running, h'.system.trans h.system, ms ++ ns, ?_, fun x hx => ?_, ?_, fun hs hq => ?_⟩
  · rw [hms, hns, List.append_assoc]
  · exact (List.mem_append.1 hx).elim (hp' x) (hp x)
  · rw [verdictsIn_append]
    exact List.rel_append hv hv'
  · obtain ⟨hq', hprops'⟩ := hw' (fun x hx => hs x (List.mem_append_left _ hx)) hq
    obtain ⟨hq'', hprops⟩ := hw (fun x hx => hs x (List.mem_append_right _ hx)) hq'
    exact ⟨hq'', hprops'.trans hprops⟩

/-- steps that write nothing and judge nothing -/
theorem quiet (running : w'.engine.running = w.engine.running)
    (system : w'.engine.state.system = w.engine.state.system) (props : w'.engine.state.props = w.engine.state.props)
    (pending : w'.engine.pending = w.engine.pending) (trace : w'.trace = ns ++ w.trace)
    (hns : ∀ x ∈ ns, x.isPass = false ∧ x.isJudged = false) : Heeded s st [] w w' where
  running := running
  system := system
  trace := ⟨ns, trace, fun x hx => (hns x hx).1, by rw [verdictsIn_of_none fun x hx => (hns x hx).2]; exact .nil,
    fun _ hq => ⟨pending.symm.trans hq, props⟩⟩

theorem refl (w : World σ) : Heeded s st [] w w :=
  quiet rfl rfl rfl rfl rfl fun _ hx => absurd hx List.not_mem_nil

/-- a remark is noted, and the host may change -/
theorem remarked (w : World σ) (h : σ) {n : Note} (hn : n.isRemark) : Heeded s st [] w ((w.withHost h).noting n) := by
  have still : ∀ x ∈ [(⟨n, w.engine⟩ : Noted)], x.isPass = false ∧ x.isJudged = false := by
    intro x hx
    rw [List.mem_singleton.1 hx]
    cases n <;> first | exact ⟨rfl, rfl⟩ | cases hn
  exact quiet rfl rfl rfl rfl rfl still

end Heeded

/-- what holds while an operation runs -/
def Heeds (s : Setup σ) (st : EngineState) (rules : List Rule) (w w' : World σ) : Prop :=
  w.engine.busy = true → Heeded s st rules w w'

theorem Heeds.trans (h : Heeds s st rules u w) (h' : Heeds s st rules' w w') : Heeds s st (rules ++ rules') u w' := by
  intro hb
  have hw := h hb
  exact hw.trans (h' (by rw [Engine.busy, hw.running]; exact hb))

theorem now_heeds : s.now.within (Heeds s st []) := by
  intro w
  rw [leads_now]
  split <;> exact fun _ => .remarked w _ rfl

/-- what a hook asks for, with the note of it: a write is hinted at, or the hook asked not to -/
theorem ask_heeds (h : σ) (q : Request) :
    within (Heeds s st []) (do note (.turn (.ask q)); setHost h; attempt (s.answerHook q)) := by
  intro w
  refine leads_const.2 fun hb => leads_const.1 ?_
  simp only [leads_bind, leads_note, leads_setHost, leads_attempt]
  let v := (w.noting (.turn (.ask q))).withHost h
  have hv : Heeded s st [] w v := .remarked w h rfl
  have busy : v.engine.busy = true := hb
  have refused : ∀ op, (operation op (pure ()) : Run σ Answer).leads v (fun _ => Heeded s st [] w)
      (fun _ => Heeded s st [] w) := fun op => (leads_operation_busy busy).2 hv
  cases q with
  | write q skip =>
    simp only [answerHook, answerWith, leads_bind, leads_state, leads_ofExcept, leads_change]
    cases q.apply w.engine.state.props with
    | error e => exact hv
    | ok props =>
      have notes : ∀ x ∈ [(⟨.turn (.ask (.write q skip)), w.engine⟩ : Noted)], x.isPass = false := by simp [Noted.isPass]
      cases skip with
      | true =>
        exact (leads_pure _).2 ⟨rfl, rfl, [_], rfl, notes, .nil, fun hs => Bool.noConfusion (hs _ List.mem_cons_self)⟩
      | false =>
        have busy : ({ w.engine with state := { w.engine.state with props } } : Engine).busy := hb
        simp only [Bool.false_eq_true, if_false, leads_bind, leads_engine, busy, if_true, leads_changeEngine, leads_pure]
        exact ⟨rfl, rfl, [_], rfl, notes, .nil, fun _ hp => by cases hp⟩
  | operate op => exact refused op
  | endGameFor reason =>
    simp only [answerHook, answerWith, leads_bind, leads_ofExcept]
    cases EndReason.ofValue reason with
    | error e => exact hv
    | ok r => exact refused _
  | setBookmark name =>
    simp only [answerHook, answerWith, leads_bind, leads_change, leads_pure]
    have read : s.now.leads v (fun _ => Heeds s st [] v) (fun _ => Heeds s st [] v) := now_heeds v
    refine read.mono (fun t x hx => ?_) fun _ x hx => hv.trans (hx hb)
    exact (hv.trans (hx hb)).trans { Heeded.refl x with }
  | clearBookmark name =>
    simp only [answerHook, answerWith, leads_bind, leads_change, leads_pure]
    exact hv.trans { Heeded.refl v with }

theorem tell_heeds (h : Hook) (p : Payload) : (s.tell h p).within (Heeds s st []) := by
  intro w
  simp only [Setup.tell, leads_bind, leads_host]
  cases s.hook w.host h p with
  | none => exact (leads_pure ()).2 fun _ => .refl w
  | some script =>
    simp only [leads_bind, leads_note]
    have trans : ∀ ⦃u v w : World σ⦄, Heeds s st [] u v → Heeds s st [] v w → Heeds s st [] u w :=
      fun _ _ _ h h' => h.trans h'
    have told : Heeds s st [] w (w.noting (.told h p)) := fun _ => .remarked w w.host rfl
    have look : (note (.turn .look) : Run σ Unit).within (Heeds s st []) :=
      fun v => (leads_note _).2 fun _ => .remarked v v.host rfl
    have finish : ∀ (h : σ) (r : Except Problem Unit),
        within (Heeds s st []) (do note (.turn (.ending r)); setHost h; r : Run σ Unit) := by
      intro h r v
      simp only [leads_bind, leads_note, leads_setHost, leads_ofExcept]
      have ended : Heeds s st [] v ((v.withHost h).noting (.turn (.ending r))) := fun _ => .remarked v h rfl
      cases r <;> exact ended
    exact (within_script trans look ask_heeds finish script _).imp fun _ hv => trans told hv

theorem award_heeds (r : Rule) : (s.award r).within (Heeds s st []) := by
  intro w
  unfold award
  rw [leads_bind, leads_state, leads_bind]
  generalize (w.engine.state.windows.get r.period).since = since
  have read : s.now.leads w (fun _ => Heeds s st [] w) (fun _ => Heeds s st [] w) := now_heeds w
  refine read.mono (fun t v hv => ?_) fun _ v hv => hv
  rw [leads_bind, leads_state]
  have recorded : ∀ entry, ∀ x ∈ [(⟨.recorded r.id since t entry, v.engine⟩ : Noted)],
      x.isPass = false ∧ x.isJudged = false := by simp [Noted.isPass, Noted.isJudged]
  split
  case _ l h =>
    have held : Heeded s st [] v (v.noting (.recorded r.id since t none)) := .quiet rfl rfl rfl rfl rfl (recorded none)
    exact (leads_note _).2 (Heeds.trans hv fun _ => held)
  case _ e l h =>
    simp only [leads_bind, leads_change, leads_changeEngine, leads_note]
    let x := v.withEngine { v.engine with
      state := { v.engine.state with ledger := l }, news := Ledger.put e v.engine.news }
    have noted : ∀ y ∈ [(⟨.recorded r.id since t (some e), x.engine⟩ : Noted)],
        y.isPass = false ∧ y.isJudged = false := by simp [Noted.isPass, Noted.isJudged]
    have earned : Heeded s st [] v (x.noting (.recorded r.id since t (some e))) := .quiet rfl rfl rfl rfl rfl noted
    have after : Heeds s st [] w (x.noting (.recorded r.id since t (some e))) := hv.trans fun _ => earned
    exact (tell_heeds _ _ _).imp fun _ hu => after.trans hu

theorem reportFailure_heeds (r : Rule) (text : String) : (s.reportFailure r text).within (Heeds s st []) := by
  intro w
  unfold reportFailure
  rw [leads_bind, leads_note]
  have warned : ∀ text, Heeds s st [] w (w.noting (.warned text)) := fun text _ => .remarked w w.host rfl
  exact (tell_heeds _ _ _).imp fun _ hu => (warned _).trans hu

/-- a rule that is active is judged by the properties of its pass -/
theorem consider_heeds (st : EngineState) (r : Rule) (w : World σ) :
    (s.consider st.props st.system r).leads w (fun _ => Heeds s st ([r].filter (·.active)) w) (fun _ _ => True) := by
  rcases hj : s.judge w.host ⟨st.props, st.system, w.engine.state.ledger⟩ r.condition with ⟨verdict, h⟩
  unfold consider
  cases hr : r.active with
  | false =>
    rw [List.filter_cons_of_neg (by simp [hr])]
    exact (leads_pure ()).2 fun _ => .refl w
  | true =>
    rw [List.filter_cons_of_pos (by simpa using hr)]
    simp only [Bool.not_true, Bool.false_eq_true, if_false, leads_bind, leads_host, leads_state, hj]
    simp only [leads_setHost, leads_note, leads_ofExcept]
    have judged : ∀ v, v = verdict → Heeds s st [r] w ((w.withHost h).noting (.judged r.id v)) := by
      rintro v rfl -
      have told : Rule.JudgedBy s st r ⟨.judged r.id v, w.engine⟩ := ⟨w.host, by rw [hj]⟩
      exact ⟨rfl, rfl, [_], rfl, by simp [Noted.isPass], .cons told .nil, fun _ hq => ⟨hq, rfl⟩⟩
    have after : ∀ {u v}, Heeds s st [r] w u → Heeds s st [] u v → Heeds s st [r] w v := fun hu hv => hu.trans hv
    rcases verdict with e | text | _ | _
    · trivial
    · exact (reportFailure_heeds r text _).mono (fun _ _ hv => after (judged _ rfl) hv) fun _ _ _ => trivial
    · exact (leads_pure ()).2 (judged _ rfl)
    · exact (award_heeds r _).mono (fun _ _ hv => after (judged _ rfl) hv) fun _ _ _ => trivial

theorem rules_heed (st : EngineState) (rules : List Rule) (w : World σ) :
    (rules.forM (s.consider st.props st.system)).leads w (fun _ => Heeds s st (rules.filter (·.active)) w)
      (fun _ _ => True) := by
  induction rules generalizing w with
  | nil => exact (leads_pure ()).2 fun _ => .refl w
  | cons r rules ih =>
    have split : (r :: rules).filter (·.active) = [r].filter (·.active) ++ rules.filter (·.active) :=
      List.filter_append [r] rules
    have loop : (r :: rules).forM (s.consider st.props st.system) =
        s.consider st.props st.system r >>= fun _ => rules.forM (s.consider st.props st.system) := rfl
    rw [loop, split, leads_bind]
    refine (consider_heeds st r w).mono (fun _ v hv => ?_) fun _ _ _ => trivial
    exact (ih v).mono (fun _ u hu => Heeds.trans hv hu) fun _ _ _ => trivial

/-! ## Passes -/

/-- the last pass among notes, its engine, and the notes after it, as a state shows it: every rule that is active was
judged by the properties at its start, and these are still the properties unless there was a warning or a hook asked
not to run the rules -/
structure LastPass (s : Setup σ) (ns : List Noted) (e : Engine) (final : List Noted) (st : EngineState) : Prop where
  notes : ∃ older, ns = final ++ ⟨.pass, e⟩ :: older
  last : ∀ x ∈ final, x.isPass = false
  judged : List.Forall₂ (Rule.JudgedBy s e.state) (s.rules.filter (·.active)) (verdictsIn final)
  settled : (∀ x ∈ final, x.note ≠ .warned passWarning ∧ x.skips = false) →
    st.props = e.state.props ∧ ∀ name ∈ calendarNames, st.system.get? name = e.state.system.get? name

/-- the rules ran from one world to another, and the last pass was settled -/
def Settles (s : Setup σ) (w w' : World σ) : Prop :=
  ∃ ns e final, w'.trace = ns ++ w.trace ∧ LastPass s ns e final w'.engine.state

/-- what came before does not matter to the last pass -/
theorem Settles.after (h : w.trace <:+ u.trace) (hu : Settles s u w') : Settles s w w' := by
  obtain ⟨ms, hms⟩ := h
  obtain ⟨ns, e, final, hns, last⟩ := hu
  obtain ⟨older, holder⟩ := last.notes
  refine ⟨ns ++ ms, e, final, by rw [hns, ← hms, List.append_assoc], { last with notes := ⟨older ++ ms, ?_⟩ }⟩
  rw [holder, List.append_assoc, List.cons_append]

/-- nor does what is set afterwards that no refresh sets -/
theorem Settles.telling {es : List (String × Scalar)} (hes : ∀ name ∈ es.map (·.1), name ∉ calendarNames)
    (h : Settles s w w') : Settles s w (w'.withState (w'.engine.state.telling es)) := by
  obtain ⟨ns, e, final, hns, last⟩ := h
  refine ⟨ns, e, final, hns, { last with settled := fun hf => ⟨(last.settled hf).1, fun name hn => ?_⟩ }⟩
  exact ((SameCalendar.telling hes w'.engine).system name hn).trans ((last.settled hf).2 name hn)

theorem Course.suffix (h : Course s w w') : w.trace <:+ w'.trace := by
  induction h with
  | refl => exact List.suffix_rfl
  | tail _ h ih =>
    refine ih.trans ?_
    cases h with
    | aside h =>
      obtain ⟨ns, hns, -⟩ := h.trace
      exact ⟨ns, hns.symm⟩
    | pass hb =>
      obtain ⟨e, ms, awards, -⟩ := pass_awards (s := s) hb
      exact ⟨_, awards.trace.symm⟩

/-- a pass that comes to its end judged every rule that is active, and tells whether a hook has written meanwhile -/
theorem pass_heeds (hb : w.engine.busy = true) :
    s.pass.leads w (fun again v => again = v.engine.pending ∧
      Heeded s w.engine.state (s.rules.filter (·.active)) w.passing v) (fun _ _ => True) := by
  unfold Setup.pass
  simp only [leads_bind, leads_changeEngine, leads_note, leads_state, leads_engine, leads_pure]
  exact (rules_heed w.engine.state s.rules w.passing).mono (fun _ _ hv => ⟨trivial, hv hb⟩) fun _ _ _ => trivial

/-- a pass after which no hook has hinted at a write is settled -/
theorem Heeded.settles (h : Heeded s w.engine.state (s.rules.filter (·.active)) w.passing w')
    (hp : w'.engine.pending = false) : Settles s w w' := by
  obtain ⟨ms, hms, last, judged, heeded⟩ := h.trace
  let e : Engine := { w.engine with pending := false }
  refine ⟨ms ++ [⟨.pass, e⟩], e, ms, ?_, ⟨[], rfl⟩, last, judged, fun hf => ⟨?_, ?_⟩⟩
  · rw [hms, List.append_assoc]
    rfl
  · exact (heeded (fun x hx => (hf x hx).2) hp).2
  · intro name _
    rw [h.system]
    rfl

/-- so is one that is followed by the warning -/
theorem Heeded.warned (h : Heeded s w.engine.state (s.rules.filter (·.active)) w.passing w') :
    Settles s w ((w'.noting (.warned passWarning)).withEngine { w'.engine with pending := false }) := by
  obtain ⟨ms, hms, last, judged, -⟩ := h.trace
  let warning : Noted := ⟨.warned passWarning, w'.engine⟩
  let e : Engine := { w.engine with pending := false }
  have noted : verdictsIn (warning :: ms) = verdictsIn ms := by
    rw [verdictsIn, verdictsIn, List.filter_cons_of_neg Bool.false_ne_true]
  refine ⟨warning :: ms ++ [⟨.pass, e⟩], e, warning :: ms, ?_, ⟨[], rfl⟩, fun x hx => ?_, noted.symm ▸ judged,
    fun hf => absurd rfl (hf warning List.mem_cons_self).1⟩
  · show warning :: w'.trace = _
    rw [hms, List.append_assoc]
    rfl
  · rcases List.mem_cons.1 hx with rfl | hx
    · rfl
    · exact last x hx

/-- a program that ends with a run of the rules -/
def SettlesIn (s : Setup σ) (r : Run σ α) : Prop :=
  ∀ w, w.engine.busy = true → r.leads w (fun _ => Settles s w) (fun _ _ => True)

theorem passes_settle (n : Nat) : SettlesIn s (s.passes n) := by
  -- with no pass left the warning is given, and this too makes the pass the last one
  induction n with
  | zero =>
    intro w hb
    unfold passes
    rw [leads_bind]
    refine (pass_heeds hb).mono (fun again v hv => ?_) fun _ _ _ => trivial
    obtain ⟨rfl, heeded⟩ := hv
    cases hp : v.engine.pending with
    | false => exact (leads_pure ()).2 (heeded.settles hp)
    | true =>
      simp only [if_true, leads_bind, leads_note, leads_changeEngine]
      exact heeded.warned
  | succ n ih =>
    intro w hb
    unfold passes
    rw [leads_bind]
    refine (pass_heeds hb).mono (fun again v hv => ?_) fun _ _ _ => trivial
    obtain ⟨rfl, heeded⟩ := hv
    cases hp : v.engine.pending with
    | false => exact (leads_pure ()).2 (heeded.settles hp)
    | true =>
      obtain ⟨ms, hms, -⟩ := heeded.trace
      have busy : v.engine.busy = true := by rw [Engine.busy, heeded.running]; exact hb
      have later : w.trace <:+ v.trace := hms ▸ (List.suffix_cons _ _).trans (List.suffix_append _ _)
      exact (ih v busy).mono (fun _ u hu => hu.after later) fun _ _ _ => trivial

/-- the rules run a number of times at most, however that ends -/
theorem passes_bounded (n : Nat) (hb : w.engine.busy = true) :
    ∃ ns, ((s.passes n).exec w).2.trace = ns ++ w.trace ∧ ns.countP Noted.isPass ≤ n + 1 := by
  let Bounded (k : Nat) (w v : World σ) : Prop := ∃ ns, v.trace = ns ++ w.trace ∧ ns.countP Noted.isPass ≤ k
  have once : ∀ {w : World σ}, w.engine.busy = true →
      s.pass.leads w (fun _ v => Bounded 1 w v ∧ v.engine.busy = true) (fun _ => Bounded 1 w) := by
    intro w hb
    obtain ⟨e, ms, awards, -, hms⟩ := pass_awards (s := s) hb
    have bounded : Bounded 1 w (s.pass.exec w).2 := by
      refine ⟨_, awards.trace, ?_⟩
      rw [List.countP_append, List.countP_eq_zero.2 fun x hx => by simp [hms x hx], Nat.zero_add]
      exact List.countP_le_length
    have busy := leads_const.1 (pass_moves (s := s) w)
    exact (leads_const (P := fun v => Bounded 1 w v ∧ v.engine.busy = true).2 ⟨bounded, (busy hb).2⟩).mono
      (fun _ _ hv => hv) fun _ _ hv => hv.1
  have more : ∀ {w : World σ} (n : Nat), w.engine.busy = true →
      (s.passes n).leads w (fun _ => Bounded (n + 1) w) (fun _ => Bounded (n + 1) w) := by
    intro w n hb
    induction n generalizing w with
    | zero =>
      unfold passes
      rw [leads_bind]
      refine (once hb).mono (fun again v hv => ?_) fun _ _ hv => hv
      obtain ⟨ns, hns, hle⟩ := hv.1
      cases again with
      | false => exact (leads_pure ()).2 hv.1
      | true =>
        simp only [if_true, leads_bind, leads_note, leads_changeEngine]
        refine ⟨⟨.warned passWarning, v.engine⟩ :: ns, by rw [hns]; rfl, ?_⟩
        rwa [List.countP_cons_of_neg Bool.false_ne_true]
    | succ n ih =>
      unfold passes
      rw [leads_bind]
      refine (once hb).mono (fun again v hv => ?_) fun _ v hv => ?_
      · obtain ⟨⟨ns, hns, hle⟩, busy⟩ := hv
        cases again with
        | false => exact (leads_pure ()).2 ⟨ns, hns, by omega⟩
        | true =>
          refine (ih busy).imp fun u hu => ?_
          obtain ⟨ms, hms, hle'⟩ := hu
          refine ⟨ms ++ ns, by rw [hms, hns, List.append_assoc], ?_⟩
          rw [List.countP_append]
          omega
      · obtain ⟨ns, hns, hle⟩ := hv
        exact ⟨ns, hns, by omega⟩
  exact leads_const.1 (more n hb)

/-! ## Operations -/

theorem Proceeds.settles {r : Run σ β} {f : β → Run σ α} (hr : Proceeds s r) (hf : ∀ b, SettlesIn s (f b)) :
    SettlesIn s (r >>= f) := by
  intro w hb
  rw [leads_bind]
  refine (hr w).mono (fun b v hv => ?_) fun _ _ _ => trivial
  obtain ⟨course, busy⟩ := hv hb
  exact (hf b v busy).mono (fun _ u hu => hu.after course.suffix) fun _ _ _ => trivial

theorem runRules_settles : SettlesIn s s.runRules := passes_settle passLimit

theorem refreshAndRun_settles : SettlesIn s (do s.refresh (← s.now); s.runRules) :=
  now_strays.proceeds.settles fun t => (refresh_strays t).proceeds.settles fun _ => runRules_settles

theorem close_settles (a : Axis) : SettlesIn s (s.close a) := by
  unfold close
  refine (changeSystem_strays _).proceeds.settles fun _ => (bump_strays _).proceeds.settles fun _ => ?_
  exact (tellSnapshot_strays (by simp)).proceeds.settles fun _ => refreshAndRun_settles

theorem closeGame_settles (r : EndReason) : SettlesIn s (s.closeGame r) := by
  unfold closeGame
  exact (changeSystem_strays _).proceeds.settles fun _ => (bump_strays _).proceeds.settles fun _ => close_settles .game

theorem present_settles (a : Axis) : SettlesIn s (s.present a) := by
  have names : ∀ name ∈ a.presenting.map (·.1), name ∉ calendarNames := by cases a <;> decide
  have told : SettlesIn s (do s.tellSnapshot (.started a); s.runRules) :=
    (tellSnapshot_strays (by simp)).proceeds.settles fun _ => runRules_settles
  intro w hb
  unfold present
  rw [leads_ensuring]
  exact (told w hb).mono (fun _ v hv => hv.telling names) fun _ _ _ => trivial

theorem begin_settles (a : Axis) : SettlesIn s (s.begin a) := by
  unfold begin
  refine now_strays.proceeds.settles fun t => (refresh_strays t).proceeds.settles fun _ => ?_
  refine (changeSystem_strays _).proceeds.settles fun _ => (count_strays a t).proceeds.settles fun _ => ?_
  exact present_settles a

/-- no pass was made and no hook was called, or the rules ran and their last pass was settled -/
def Quieted (s : Setup σ) (w w' : World σ) : Prop :=
  ∃ ns, w'.trace = ns ++ w.trace ∧
    ((∀ x ∈ ns, x.isPass = false ∧ x.isTold = false) ∨ ∃ e final, LastPass s ns e final w'.engine.state)

theorem Settles.quieted (h : Settles s w w') : Quieted s w w' := by
  obtain ⟨ns, e, final, hns, last⟩ := h
  exact ⟨ns, hns, .inr ⟨e, final, last⟩⟩

theorem Quieted.silent (h : w'.trace = w.trace) : Quieted s w w' := ⟨[], h, .inl fun _ hx => absurd hx List.not_mem_nil⟩

/-- an operation that comes to its end -/
theorem perform_quieted (op : Operation) (hb : w.engine.busy = true) :
    (s.perform op).leads w (fun _ => Quieted s w) (fun _ _ => True) := by
  have ended : ∀ {r : Run σ Unit}, SettlesIn s r → r.leads w (fun _ => Quieted s w) (fun _ _ => True) :=
    fun hr => (hr w hb).mono (fun _ _ hv => hv.quieted) fun _ _ _ => trivial
  cases op with
  | evaluate => exact ended refreshAndRun_settles
  | start a =>
    simp only [perform, leads_bind, leads_state, leads_ite]
    split
    · rw [← leads_bind]
      exact ended ((closeBeforeStart_proceeds a).settles fun _ => begin_settles a)
    · exact ended (begin_settles a)
  | endSession =>
    simp only [perform, leads_bind, leads_state, leads_ite]
    split
    · exact ended (close_settles .session)
    · exact (leads_pure ()).2 (.silent rfl)
  | endGame r =>
    simp only [perform, leads_bind, leads_state, leads_ite]
    split
    · exact ended (closeGame_settles r)
    · exact (leads_pure ()).2 (.silent rfl)
  | load v =>
    simp only [perform, leads_bind, leads_ofWarned, leads_change]
    rcases (EngineState.ofValue v).answer with ⟨_ | st, texts⟩
    · trivial
    · refine ⟨_, w.warning_trace texts, .inl fun x hx => ?_⟩
      obtain ⟨text, -, rfl⟩ := List.mem_map.1 hx
      exact ⟨rfl, rfl⟩

theorem operation_quieted (op : Operation) (hb : w.engine.busy = false) :
    (operation op (s.perform op)).leads w (fun _ => Quieted s w) (fun _ _ => True) := by
  unfold operation
  simp only [leads_bind, leads_engine, hb, Bool.false_eq_true, if_false, leads_pure, leads_changeEngine, leads_ensuring]
  let v := w.withEngine { w.engine with running := some op, news := [], rolled := {} }
  exact (perform_quieted (w := v) op rfl).mono (fun _ u hu => hu) fun _ _ _ => trivial

/-- **Writes settle.** Whenever the rules run they pass at most nine times. When a request that came outside hooks is
answered, either no pass was made and no hook was called, or the last pass judged every rule that is active by the
properties as they are in the end, and by the calendar as it is, unless there was the warning or a hook asked not to run
the rules. -/
theorem writes_settle (hb : w.engine.busy = false) (q : Request) {a : Answer}
    (ha : ((s.answer q).exec w).1 = .ok a) :
    (∀ u : World σ, u.engine.busy = true →
      ∃ ns, (s.runRules.exec u).2.trace = ns ++ u.trace ∧ ns.countP Noted.isPass ≤ passLimit + 1) ∧
    ∃ ns, ((s.answer q).exec w).2.trace = ns ++ w.trace ∧ ((∀ x ∈ ns, x.isPass = false ∧ x.isTold = false) ∨
      ∃ e final, LastPass s ns e final ((s.answer q).exec w).2.engine.state) := by
  refine ⟨fun u hu => passes_bounded passLimit hu, ?_⟩
  have quieted : (s.answer q).leads w (fun _ => Quieted s w) (fun _ _ => True) := by
    cases q with
    | write q skip =>
      simp only [answer, answerWith, leads_bind, leads_state, leads_ofExcept, leads_change]
      cases q.apply w.engine.state.props with
      | error e => trivial
      | ok props =>
        let v := w.withState { w.engine.state with props }
        have idle : v.engine.busy = false := hb
        cases skip with
        | true => exact (leads_pure _).2 (.silent rfl)
        | false =>
          simp only [Bool.false_eq_true, if_false, leads_bind, leads_engine, leads_ite]
          split
          case isTrue busy => cases idle.symm.trans busy
          case isFalse => exact operation_quieted (w := v) .evaluate idle
    | operate op => exact operation_quieted op hb
    | endGameFor v =>
      simp only [answer, answerWith, leads_bind, leads_ofExcept]
      cases EndReason.ofValue v with
      | error e => trivial
      | ok r => exact operation_quieted (.endGame r) hb
    | setBookmark name =>
      simp only [answer, answerWith, leads_bind, leads_change, leads_pure, leads_now]
      split
      · exact ⟨[⟨.clock _, w.engine⟩], rfl, .inl fun x hx => by rw [List.mem_singleton.1 hx]; exact ⟨rfl, rfl⟩⟩
      · trivial
    | clearBookmark name =>
      simp only [answer, answerWith, leads_bind, leads_change, leads_pure]
      exact .silent rfl
  exact (leads_iff.1 quieted).1 a ha

/-- what the hook wrote in the first pass was there in the second, which judged both rules -/
theorem levelling_settles : ∃ ns e final,
    ((levelling.answer (.operate .evaluate)).exec { host := () }).2.trace = ns ++ [] ∧
      LastPass levelling ns e final ((levelling.answer (.operate .evaluate)).exec { host := () }).2.engine.state ∧
      (verdictsIn final).length = 2 ∧ e.state.props.get? "level" = some (.int 1) := by
  let later := ((levelling.answer (.operate .evaluate)).exec { host := () }).2
  have ids : listedIds ((levelling.answer (.operate .evaluate)).exec { host := () }).1 = some ["first", "second"] := by
    decide +kernel
  obtain ⟨es, ha, -⟩ := listed_of_ids ids
  obtain ⟨-, ns, hns, last⟩ := writes_settle (w := { host := () }) rfl (.operate .evaluate) ha
  have told : later.trace.any Noted.isTold = true := by decide +kernel
  have calm : later.trace.all (fun x => !(x.note matches .warned _) && !x.skips) = true := by decide +kernel
  have level : later.engine.state.props.get? "level" = some (.int 1) := by decide +kernel
  have trace : later.trace = ns := hns.trans (List.append_nil ns)
  rcases last with silent | ⟨e, final, last⟩
  · obtain ⟨x, hx, hold⟩ := List.any_eq_true.1 told
    rw [trace] at hx
    cases hold.symm.trans (silent x hx).2
  · have settled := last.settled fun x hx => by
      obtain ⟨older, holder⟩ := last.notes
      have quiet := List.all_eq_true.1 calm x (by rw [trace, holder]; exact List.mem_append_left _ hx)
      refine ⟨fun hw => ?_, ?_⟩
      · simp [hw] at quiet
      · simpa using (Bool.and_eq_true_iff.1 quiet).2
    refine ⟨ns, e, final, hns, last, ?_, settled.1 ▸ level⟩
    exact last.judged.length_eq.symm.trans (by decide)

end BadgeEngine
