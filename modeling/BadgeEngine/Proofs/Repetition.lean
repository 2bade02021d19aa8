/-
Evaluating twice while the clock stands still and no hook is installed (`Still`). However conditions are judged, and
also when judging one fails, an evaluation is a chain of a few moves (`StillMove`), and it closes the gate of every rule
that it finds to hold (`Shut`): a second one can award the badges of other rules only.

Results:
- `second_evaluation`: a second evaluation leaves windows and properties as they are, and awards a badge exactly where a
  condition holds whose gate the first left open; if there is none, it awards nothing and leaves the ledger too;
- `late_badge`: it does award a badge when a condition asks for a badge of a later rule.
-/
import BadgeEngine.Proofs.Awards
import BadgeEngine.Verdict

namespace BadgeEngine

open BadgeEngine.Time Relation Run Setup Ledger

variable {σ α : Type} {s s₀ : Setup σ} {u v w w' : World σ} {t : Instant} {l : Moment}

/-! ## Windows -/

namespace Windows

/-- windows refreshed at a local time are not stale then -/
theorem refresh_refresh (w : Windows) (t : Instant) (l : Moment) :
    ((w.refresh t l).1.refresh t l).1 = (w.refresh t l).1 := by
  refine ext_get fun p => ?_
  rw [refresh_get]
  cases p with
  | calendar c =>
    have fresh : (w.refresh t l).1.isStale l c = false := by
      unfold isStale
      rw [refresh_get]
      dsimp only
      split
      case isTrue => simp
      case isFalse h => simpa [isStale] using h
    simp only [fresh, Bool.false_eq_true, if_false]
  | _ => rfl

theorem refresh_since_le {w : Windows} (h : ∀ p, (w.get p).since ≤ t) (p : Period) :
    ((w.refresh t l).1.get p).since ≤ t := by
  rw [refresh_get]
  cases p with
  | calendar c =>
    dsimp only
    split
    · rw [Moment.le_iff, Moment.later_micros]
      exact Nat.max_le.2 ⟨Nat.le_refl _, h _⟩
    · exact h _
  | _ => exact h _

end Windows

/-! ## Moves while the clock stands still -/

/-- a host without hooks whose clock stands still -/
structure Still (s : Setup σ) (t : Instant) : Prop where
  clock : ∀ h, (s.clock h).1.bind instantOf = .ok t
  hook : ∀ h k p, s.hook h k p = none

/-- a move of the rules while the clock stands still -/
inductive StillMove (s : Setup σ) (t : Instant) : World σ → World σ → Prop where
  | host (w : World σ) (h : σ) : StillMove s t w (w.withHost h)
  | warned (w : World σ) (text : String) : StillMove s t w (w.noting (.warned text))
  | judged (w : World σ) (id : String) (v : Except Problem (Except String Bool)) (hv : v ≠ .ok (.ok true)) :
      StillMove s t w (w.noting (.judged id v))
  | held (w : World σ) (r : Rule) (hr : r ∈ s.rules) (l : Ledger)
      (h : w.engine.state.ledger.record r (w.sinceOf r) t = (none, l)) :
      StillMove s t w ((w.matching r.id t).noting (.recorded r.id (w.sinceOf r) t none))
  | earned (w : World σ) (r : Rule) (hr : r ∈ s.rules) (e : Earned) (l : Ledger)
      (h : w.engine.state.ledger.record r (w.sinceOf r) t = (some e, l)) : StillMove s t w (w.earning r t e l)

/-- moves of the rules while the clock stands still, one after another -/
abbrev StillMoves (s : Setup σ) (t : Instant) : World σ → World σ → Prop := ReflTransGen (StillMove s t)

/-- the note taken last tells that judging the condition of an active rule failed -/
def CutShort (s : Setup σ) (e : Problem) (w : World σ) : Prop :=
  ∃ r ∈ s.rules, r.active = true ∧ ∃ x, w.trace.head? = some x ∧ x.note = .judged r.id (.error e)

/-- a world in which a pass over the rules began -/
def World.passing (w : World σ) : World σ := (w.withEngine { w.engine with pending := false }).noting .pass

namespace Still

theorem leads_now (hs : Still s t) {Q : Instant → World σ → Prop} {F : Problem → World σ → Prop} :
    s.now.leads w Q F ↔ Q t ((w.withHost (s.clock w.host).2).noting (.clock (.ok t))) := by
  rw [BadgeEngine.leads_now, hs.clock]

theorem leads_tell (hs : Still s t) {k : Hook} {p : Payload} {Q : Unit → World σ → Prop}
    {F : Problem → World σ → Prop} : (s.tell k p).leads w Q F ↔ Q () w :=
  BadgeEngine.leads_tell (hs.hook ..)

/-- a match is held back, or earns its badge -/
theorem award_moves (hs : Still s t) {r : Rule} (hr : r ∈ s.rules) (h : σ) :
    (s.award r).leads ((w.withHost h).noting (.judged r.id (.ok (.ok true)))) (fun _ => StillMoves s t w)
      fun _ _ => False := by
  unfold award
  simp only [leads_bind, leads_state, hs.leads_now]
  -- the host moves first: no note tells of it
  generalize (s.clock _).2 = h'
  have hw : StillMoves s t w (w.withHost h') := .single (.host w h')
  split
  case _ l hl => exact (leads_note _).2 (hw.tail (.held (w.withHost h') r hr l hl))
  case _ e l hl =>
    simp only [leads_bind, leads_change, leads_changeEngine, leads_note, hs.leads_tell]
    exact hw.tail (.earned (w.withHost h') r hr e l hl)

/-- considering a rule is a chain of moves, which ends early if its condition cannot be judged -/
theorem consider_moves (hs : Still s t) {r : Rule} (hr : r ∈ s.rules) (props system : Props) (w : World σ) :
    (s.consider props system r).leads w (fun _ => StillMoves s t w) fun e v => StillMoves s t w v ∧ CutShort s e v := by
  rcases hj : s.judge w.host ⟨props, system, w.engine.state.ledger⟩ r.condition with ⟨verdict, h⟩
  unfold consider
  cases ha : r.active with
  | false => exact (leads_pure ()).2 .refl
  | true =>
    simp only [Bool.not_true, Bool.false_eq_true, if_false, leads_bind, leads_host, leads_state, hj]
    simp only [leads_setHost, leads_note, leads_ofExcept]
    have hw : StillMoves s t w (w.withHost h) := .single (.host w h)
    rcases verdict with e | text | _ | _
    · exact ⟨hw.tail (.judged _ r.id (.error e) (by simp)), r, hr, ha, _, rfl, rfl⟩
    · simp only [reportFailure, leads_bind, leads_note, hs.leads_tell]
      exact (hw.tail (.judged _ r.id (.ok (.error text)) (by simp))).tail (.warned _ _)
    · exact (leads_pure ()).2 (hw.tail (.judged _ r.id (.ok (.ok false)) (by simp)))
    · exact (hs.award_moves hr h).mono (fun _ _ hv => hv) fun _ _ hv => hv.elim

theorem rules_moves (hs : Still s t) (props system : Props) {rules : List Rule} (hr : rules ⊆ s.rules)
    (w : World σ) : (rules.forM (s.consider props system)).leads w (fun _ => StillMoves s t w)
      fun e v => StillMoves s t w v ∧ CutShort s e v := by
  induction rules generalizing w with
  | nil => exact (leads_pure ()).2 .refl
  | cons r rules ih =>
    obtain ⟨hr, hs'⟩ := List.cons_subset.1 hr
    show Run.leads (s.consider props system r >>= fun _ => rules.forM (s.consider props system)) w _ _
    rw [leads_bind]
    refine (hs.consider_moves hr props system w).mono (fun _ v hv => ?_) fun _ _ hv => hv
    exact (ih hs' v).mono (fun _ u hu => hv.trans hu) fun _ _ hu => ⟨hv.trans hu.1, hu.2⟩

/-- a pass is a chain of moves, and is not followed by another -/
theorem pass_moves (hs : Still s t) (w : World σ) :
    s.pass.leads w (fun again v => StillMoves s t w.passing v ∧ again = v.engine.pending)
      fun e v => StillMoves s t w.passing v ∧ CutShort s e v := by
  unfold Setup.pass
  simp only [leads_bind, leads_changeEngine, leads_note, leads_state, leads_engine, leads_pure]
  exact (hs.rules_moves _ _ (List.Subset.refl _) w.passing).mono (fun _ v hv => ⟨hv, trivial⟩) fun _ _ h => h

end Still

/-! ## What moves leave -/

/-- the gate of a rule is closed: its badge was earned, and the next match is held back -/
def Shut (r : Rule) (st : EngineState) : Prop :=
  ∃ e, st.ledger.get? r.id = some e ∧ isHeld r (st.windows.get r.period).since e

/-- a gate is told by the ledger and the windows -/
theorem Shut.congr {r : Rule} {st st' : EngineState} (hl : st'.ledger = st.ledger) (hw : st'.windows = st.windows) :
    Shut r st' ↔ Shut r st := by
  unfold Shut
  rw [hl, hw]

/-- the condition of a rule was found to hold -/
def Found (r : Rule) (ns : List Noted) : Prop := ∃ x ∈ ns, x.matched r.id

/-- a world after moves of the rules: of the engine only the ledger and the badges of the operation changed; rules that
were found to hold are held back from then on; an entry was made for each rule that is held back only since, and for no
other -/
structure Swept (s : Setup σ) (ns : List Noted) (w w' : World σ) : Prop where
  trace : w'.trace = ns ++ w.trace
  engine : w'.engine = { w.engine with
    state := { w.engine.state with ledger := w'.engine.state.ledger }, news := w'.engine.news }
  shut : ∀ r ∈ s.rules, Shut r w.engine.state ∨ Found r ns → Shut r w'.engine.state
  closed : ∀ r ∈ s.rules, Shut r w'.engine.state → Shut r w.engine.state ∨ r.id ∈ (madeIn ns).map (·.id)
  made : ∀ e ∈ madeIn ns, ∃ r ∈ s.rules, r.id = e.id ∧ Found r ns ∧ ¬ Shut r w.engine.state

/-- a match that makes an entry is not held back before -/
theorem not_shut_of_earned {r : Rule} {e : Earned} {l : Ledger}
    (h : w.engine.state.ledger.record r (w.sinceOf r) t = (some e, l)) : ¬ Shut r w.engine.state := by
  rintro ⟨old, hold, hshut⟩
  obtain ⟨-, ⟨hnone, -⟩ | ⟨old', hold', hlt, hlim, -⟩⟩ := record_earned h
  · cases hnone.symm.trans hold
  · obtain rfl := Option.some.inj (hold.symm.trans hold')
    exact (isHeld_iff.1 hshut).elim (fun hle => Moment.not_lt.2 hle hlt) hlim

/-- a match that makes an entry is held back after, if the clock shows the start of the window or later -/
theorem shut_of_earned {r : Rule} {e : Earned} {l : Ledger} (hw : w.sinceOf r ≤ t)
    (h : w.engine.state.ledger.record r (w.sinceOf r) t = (some e, l)) : Shut r (w.earning r t e l).engine.state := by
  refine ⟨e, record_get?_self h, isHeld_iff.2 (.inl (Nat.le_trans hw ?_))⟩
  obtain ⟨-, ⟨-, rfl⟩ | ⟨old, -, -, -, rfl⟩⟩ := record_earned h
  · exact Nat.le_refl _
  · exact Moment.le_later_left t old.lastEarned

def matchNotes (w : World σ) (r : Rule) (t : Instant) (e : Option Earned) (g : Engine) : List Noted :=
  [⟨.recorded r.id (w.sinceOf r) t e, g⟩, ⟨.clock (.ok t), w.engine⟩, ⟨.judged r.id (.ok (.ok true)), w.engine⟩]

theorem found_matchNotes {w : World σ} {r r' : Rule} {e : Option Earned} {g : Engine} :
    Found r' (matchNotes w r t e g) ↔ r.id = r'.id := by
  simp [Found, matchNotes, Noted.matched]

theorem madeIn_matchNotes (w : World σ) (r : Rule) (t : Instant) (e : Option Earned) (g : Engine) :
    madeIn (matchNotes w r t e g) = e.toList := by
  cases e <;> rfl

theorem found_append {r : Rule} {ms ns : List Noted} : Found r (ms ++ ns) ↔ Found r ms ∨ Found r ns := by
  simp [Found, or_and_right, exists_or]

namespace Swept

variable {ns ms : List Noted}

theorem refl (w : World σ) : Swept s [] w w where
  trace := rfl
  engine := rfl
  shut r _ h := by
    rcases h with h | ⟨x, hx, -⟩
    · exact h
    · cases hx
  closed _ _ h := .inl h
  made e he := by cases he

theorem since (h : Swept s ns w w') (r : Rule) : w'.sinceOf r = w.sinceOf r := by
  unfold World.sinceOf
  rw [h.engine]

/-- moves that leave the engine as it is and find only rules to hold that are held back -/
theorem rest (h : Swept s ns w v) {v' : World σ} (ht : v'.trace = ms ++ v.trace) (he : v'.engine = v.engine)
    (hm : madeIn ms = []) (hf : ∀ r ∈ s.rules, Found r ms → Shut r v.engine.state) : Swept s (ms ++ ns) w v' where
  trace := by rw [ht, h.trace, List.append_assoc]
  engine := by rw [he, ← h.engine]
  shut r hr hh := by
    rw [he]
    rw [found_append] at hh
    rcases hh with hh | hh | hh
    · exact h.shut r hr (.inl hh)
    · exact hf r hr hh
    · exact h.shut r hr (.inr hh)
  closed r hr hh := by
    rw [he] at hh
    rw [madeIn_append, hm, List.append_nil]
    exact h.closed r hr hh
  made e he' := by
    rw [madeIn_append, hm, List.append_nil] at he'
    obtain ⟨r, hr, hid, hfound, hn⟩ := h.made e he'
    exact ⟨r, hr, hid, found_append.2 (.inr hfound), hn⟩

/-- a move that earns a badge: its rule was not held back, and is from then on -/
theorem earned (hd : DistinctRules s.rules) (h : Swept s ns w v) {r : Rule} (hr : r ∈ s.rules) (hw : v.sinceOf r ≤ t)
    {e : Earned} {l : Ledger} (hl : v.engine.state.ledger.record r (v.sinceOf r) t = (some e, l)) :
    Swept s (matchNotes v r t (some e) (v.earning r t e l).engine ++ ns) w (v.earning r t e l) where
  trace := by
    rw [List.append_assoc, ← h.trace]
    rfl
  engine := by
    have hv : (v.earning r t e l).engine = { v.engine with
      state := { v.engine.state with ledger := l }, news := put e v.engine.news } := rfl
    rw [hv, h.engine]
  shut r' hr' hh := by
    by_cases hid : r.id = r'.id
    · obtain rfl := hd.eq_of_id hr' hr hid
      exact shut_of_earned hw hl
    · have hv : Shut r' v.engine.state := by
        rw [found_append, found_matchNotes] at hh
        exact h.shut r' hr' (hh.imp_right fun hf => hf.resolve_left hid)
      obtain ⟨old, hold, hshut⟩ := hv
      exact ⟨old, (record_get?_of_ne (Ne.symm hid) hl).trans hold, hshut⟩
  closed r' hr' hh := by
    rw [madeIn_append, madeIn_matchNotes, List.map_append, List.mem_append]
    by_cases hid : r.id = r'.id
    · exact .inr (.inr (by simp [record_id hl, hid]))
    · obtain ⟨old, hold, hshut⟩ := hh
      have hv : Shut r' v.engine.state := ⟨old, (record_get?_of_ne (Ne.symm hid) hl).symm.trans hold, hshut⟩
      exact (h.closed r' hr' hv).imp_right .inl
  made e' he := by
    rw [madeIn_append, madeIn_matchNotes, List.mem_append] at he
    rcases he with he | he
    · obtain ⟨r', hr', hid, hf, hn⟩ := h.made e' he
      exact ⟨r', hr', hid, found_append.2 (.inr hf), hn⟩
    · obtain rfl : e' = e := by simpa using he
      refine ⟨r, hr, (record_id hl).symm, found_append.2 (.inl (found_matchNotes.2 rfl)), fun hshut => ?_⟩
      exact not_shut_of_earned hl (h.shut r hr (.inl hshut))

theorem step (hd : DistinctRules s.rules) (h : Swept s ns w v) (hw : ∀ r, v.sinceOf r ≤ t) {v' : World σ}
    (hm : StillMove s t v v') : ∃ ms, Swept s ms w v' := by
  cases hm with
  | host =>
    refine ⟨[] ++ ns, h.rest rfl rfl rfl fun r _ hf => ?_⟩
    simp [Found] at hf
  | warned text =>
    refine ⟨[⟨.warned text, v.engine⟩] ++ ns, h.rest rfl rfl rfl fun r _ hf => ?_⟩
    simp [Found, Noted.matched] at hf
  | judged id verdict hv =>
    refine ⟨[⟨.judged id verdict, v.engine⟩] ++ ns, h.rest rfl rfl rfl fun r _ ⟨x, hx, hxr⟩ => ?_⟩
    rw [List.mem_singleton.1 hx] at hxr
    rcases verdict with _ | _ | _ | _
    · cases hxr
    · cases hxr
    · cases hxr
    · exact absurd rfl hv
  | held r hr l hl =>
    refine ⟨matchNotes v r t none v.engine ++ ns, h.rest rfl rfl (madeIn_matchNotes ..) fun r' hr' hf => ?_⟩
    obtain rfl := hd.eq_of_id hr' hr (found_matchNotes.1 hf)
    obtain ⟨-, e, hg, hshut⟩ := record_held hl
    exact ⟨e, hg, isHeld_iff.2 hshut⟩
  | earned r hr e l hl => exact ⟨_, h.earned hd hr (hw r) hl⟩

theorem of_moves (hd : DistinctRules s.rules) (hw : ∀ r, w.sinceOf r ≤ t) (h : StillMoves s t w v) :
    ∃ ns, Swept s ns w v := by
  induction h with
  | refl => exact ⟨[], .refl w⟩
  | tail _ hm ih =>
    obtain ⟨ns, ih⟩ := ih
    exact ih.step hd (fun r => by rw [ih.since]; exact hw r) hm

end Swept

/-! ## Evaluations -/

theorem StillMove.pending (h : StillMoves s t w v) : v.engine.pending = w.engine.pending := by
  induction h with
  | refl => rfl
  | tail _ h ih =>
    rw [← ih]
    cases h <;> rfl

namespace Still

theorem leads_refresh (hs : Still s t) {Q : Unit → World σ → Prop} {F : Problem → World σ → Prop} :
    (s.refresh t).leads w Q F ↔
      match localTime s.zone t with
      | .ok l => Q () (w.refreshing t l)
      | .error e => F e w := by
  unfold refresh
  simp only [leads_bind, leads_ofExcept]
  cases localTime s.zone t with
  | error e => rfl
  | ok l =>
    simp only [leads_engine, leads_changeEngine, leads_note, leads_ite, tellSnapshot, leads_bind, leads_state,
      hs.leads_tell, leads_pure, ite_self]
    rfl

/-- the rules are run in one pass -/
theorem runRules_moves (hs : Still s t) (w : World σ) : s.runRules.leads w (fun _ => StillMoves s t w.passing)
    fun e v => StillMoves s t w.passing v ∧ CutShort s e v := by
  show Run.leads (s.pass >>= fun again => if again then s.passes (passLimit - 1) else pure ()) w _ _
  rw [leads_bind]
  refine (hs.pass_moves w).mono (fun again v hv => ?_) fun _ _ h => h
  obtain ⟨hv, rfl⟩ := hv
  have settled : v.engine.pending = false := StillMove.pending hv
  simp only [settled, Bool.false_eq_true, if_false, leads_pure]
  exact hv

end Still

/-- what an evaluation does while the clock stands still, with a local time: it refreshes the windows, closes the gates
of the rules it finds to hold, and makes entries for those that were open -/
structure Evaluated (s : Setup σ) (t : Instant) (l : Moment) (ns : List Noted) (w w' : World σ) : Prop where
  idle : w'.engine.busy = false
  trace : w'.trace = ns ++ w.trace
  props : w'.engine.state.props = w.engine.state.props
  windows : w'.engine.state.windows = (w.engine.state.windows.refresh t l).1
  shut : ∀ r ∈ s.rules, Found r ns → Shut r w'.engine.state
  closed : ∀ r ∈ s.rules, Shut r w'.engine.state →
    Shut r { w.engine.state with windows := (w.engine.state.windows.refresh t l).1 } ∨ r.id ∈ (madeIn ns).map (·.id)
  made : ∀ e ∈ madeIn ns, ∃ r ∈ s.rules, r.id = e.id ∧ Found r ns ∧
    ¬ Shut r { w.engine.state with windows := (w.engine.state.windows.refresh t l).1 }

attribute [local irreducible] Windows.refresh

/-- a world in which an evaluation comes to its pass: the clock was read, and the windows were refreshed -/
structure Ready (t : Instant) (l : Moment) (w y : World σ) : Prop where
  trace : ∃ ns, y.trace = ns ++ w.trace ∧ madeIn ns = [] ∧ ∀ r, ¬ Found r ns
  props : y.engine.state.props = w.engine.state.props
  ledger : y.engine.state.ledger = w.engine.state.ledger
  windows : y.engine.state.windows = (w.engine.state.windows.refresh t l).1

theorem Ready.passing (hv : v.engine.state = w.engine.state) {c : Noted} (ht : v.trace = c :: w.trace)
    (hc : c.note = .clock (.ok t)) : Ready t l w (v.refreshing t l).passing where
  trace := by
    refine ⟨[⟨.pass, { (v.refreshing t l).engine with pending := false }⟩,
      ⟨.refreshed t l (v.engine.state.windows.refresh t l).2, (v.refreshing t l).engine⟩, c], ?_, ?_, fun r => ?_⟩
    · show _ :: (v.refreshing t l).trace = _
      rw [World.refreshing_trace, ht]
      rfl
    · simp [madeIn, Noted.made?, hc]
    · simp [Found, Noted.matched, hc]
  props := by
    rw [← hv]
    exact v.refreshing_props t l
  ledger := by
    rw [← hv]
    exact v.refreshing_ledger t l
  windows := by
    rw [← hv]
    exact v.refreshing_windows t l

theorem Ready.evaluated {ns : List Noted} (hw : Ready t l w u) (h : Swept s ns u v) :
    ∃ ns, Evaluated s t l ns w (v.withEngine { v.engine with running := none, pending := false }) := by
  obtain ⟨ms, ht, hm, hf⟩ := hw.trace
  have engine := h.engine
  have before : ∀ r, Shut r u.engine.state ↔
      Shut r { w.engine.state with windows := (w.engine.state.windows.refresh t l).1 } := fun r =>
    Shut.congr hw.ledger hw.windows
  refine ⟨ns ++ ms, rfl, ?_, ?_, ?_, fun r hr hfound => ?_, fun r hr hh => ?_, fun e he => ?_⟩
  · show v.trace = _
    rw [h.trace, ht, List.append_assoc]
  · show v.engine.state.props = _
    rw [engine, ← hw.props]
  · show v.engine.state.windows = _
    rw [engine, ← hw.windows]
  · exact h.shut r hr (.inr ((found_append.1 hfound).resolve_right (hf r)))
  · rw [madeIn_append, hm, List.nil_append, ← before]
    exact h.closed r hr hh
  · rw [madeIn_append, hm, List.nil_append] at he
    obtain ⟨r, hr, hid, hfound, hn⟩ := h.made e he
    exact ⟨r, hr, hid, found_append.2 (.inl hfound), fun hh => hn ((before r).2 hh)⟩

theorem Still.evaluates (hs : Still s t) (hd : DistinctRules s.rules) (hb : w.engine.busy = false)
    (hw : ∀ p, (w.engine.state.windows.get p).since ≤ t) (hl : localTime s.zone t = .ok l) :
    (s.answer (.operate .evaluate)).leads w (fun _ w' => ∃ ns, Evaluated s t l ns w w')
      fun e w' => (∃ ns, Evaluated s t l ns w w') ∧ CutShort s e w' := by
  simp only [answer, answerWith, operation, perform, leads_bind, leads_engine, hb, Bool.false_eq_true, if_false,
    leads_pure, leads_changeEngine, leads_ensuring, hs.leads_now, hs.leads_refresh, hl]
  let u := ((w.withEngine { w.engine with running := some .evaluate, news := [], rolled := {} }).withHost
    (s.clock w.host).2).noting (.clock (.ok t))
  have ready : Ready t l w (u.refreshing t l).passing := .passing rfl rfl rfl
  have since : ∀ r, (u.refreshing t l).passing.sinceOf r ≤ t := by
    intro r
    unfold World.sinceOf
    rw [ready.windows]
    exact Windows.refresh_since_le hw r.period
  have evaluated : ∀ {v}, StillMoves s t (u.refreshing t l).passing v →
      ∃ ns, Evaluated s t l ns w (v.withEngine { v.engine with running := none, pending := false }) := fun hv => by
    obtain ⟨ns, hns⟩ := Swept.of_moves hd since hv
    exact ready.evaluated hns
  exact (hs.runRules_moves _).mono (fun _ _ hv => evaluated hv) fun _ _ hv => ⟨evaluated hv.1, hv.2⟩

/-- an evaluation fails when the clock stands at an instant that has no local time -/
theorem Still.fails (hs : Still s t) {e : Problem} (hl : localTime s.zone t = .error e) :
    (s.answer (.operate .evaluate)).leads w (fun _ _ => False) fun _ _ => True := by
  simp only [answer, answerWith, operation, perform, leads_bind, leads_engine, leads_ite, leads_throw, leads_pure,
    leads_changeEngine, leads_ensuring, hs.leads_now, hs.leads_refresh, hl, ite_self]

/-! ## Results -/

/-- windows began no later than the clock has shown -/
theorem Unloaded.since_le (hw : Unloaded s₀ w) (he : epoch ≤ t) (ht : ∀ u, Shown w u → u ≤ t) (p : Period) :
    (w.engine.state.windows.get p).since ≤ t := by
  have stamped : Stamped w := hw.invariant .new fun hv hm => hv.kept hm
  rcases stamped.windows p with h | h
  · rw [h]
    exact he
  · exact ht _ h

/-- the notes of an evaluation tell what it does to the ledger, and what it answers if it comes to an answer -/
theorem Evaluated.answers {ns : List Noted} (hb : w.engine.busy = false)
    (h : Evaluated s t l ns w ((s.answer (.operate .evaluate)).exec w).2) :
    ((s.answer (.operate .evaluate)).exec w).2.engine.state.ledger.entries =
        putAll (madeIn ns) w.engine.state.ledger.entries ∧
      ∀ a, ((s.answer (.operate .evaluate)).exec w).1 = .ok a → a = .badges (putAll (madeIn ns) []) := by
  obtain ⟨ms, hms, -, hlist⟩ := answer_reports (s := s) (q := .operate .evaluate) rfl hb
  obtain rfl : ms = ns := List.append_cancel_right (hms.trace.symm.trans h.trace)
  refine ⟨hms.ledger, fun a ha => ?_⟩
  obtain ⟨es, rfl⟩ := (leads_iff.1 (answer_lists (s := s) (q := .operate .evaluate) rfl rfl)).1 a ha
  rw [hlist es ha]

/-- an evaluation that came to an answer had a local time -/
theorem Still.localTime_ok (hs : Still s t) {a : Answer} (h : ((s.answer (.operate .evaluate)).exec w).1 = .ok a) :
    ∃ l, localTime s.zone t = .ok l := by
  cases hl : localTime s.zone t with
  | error e => exact ((leads_iff.1 (hs.fails hl)).1 a h).elim
  | ok l => exact ⟨l, rfl⟩

/-- an evaluation comes to an answer, or judging a condition fails -/
theorem Still.evaluated (hs : Still s t) (hd : DistinctRules s.rules) (hb : w.engine.busy = false)
    (hw : ∀ p, (w.engine.state.windows.get p).since ≤ t) (hl : localTime s.zone t = .ok l) :
    ∃ ns, Evaluated s t l ns w ((s.answer (.operate .evaluate)).exec w).2 ∧
      (((s.answer (.operate .evaluate)).exec w).1 = .ok (.badges (putAll (madeIn ns) [])) ∨
        ∃ e, ((s.answer (.operate .evaluate)).exec w).1 = .error e ∧
          CutShort s e ((s.answer (.operate .evaluate)).exec w).2) := by
  obtain ⟨hok, hfail⟩ := leads_iff.1 (hs.evaluates hd hb hw hl)
  cases hx : ((s.answer (.operate .evaluate)).exec w).1 with
  | ok a =>
    obtain ⟨ns, h⟩ := hok a hx
    exact ⟨ns, h, .inl (congrArg Except.ok ((h.answers hb).2 a hx))⟩
  | error e =>
    obtain ⟨⟨ns, h⟩, broke⟩ := hfail e hx
    exact ⟨ns, h, .inr ⟨e, rfl, broke⟩⟩

/-- **Evaluating twice.** While the clock stands still, an evaluation that follows another leaves windows and properties
as they are, and awards the badge of a rule exactly if it finds its condition to hold and the first left its gate open;
it left none open whose condition it found to hold. If the second finds no rule to hold that the first did not, it
awards nothing and leaves the ledger as it is. It lists what it awarded, unless judging a condition fails. -/
theorem second_evaluation (hd : DistinctRules s.rules) (hw : Unloaded s₀ w) (he : epoch ≤ t)
    (ht : ∀ u, Shown w u → u ≤ t) (hs : Still s t) {a : Answer} {w₁ : World σ}
    (h₁ : (s.answer (.operate .evaluate)).exec w = (.ok a, w₁)) :
    ∃ x w₂ ns₁ ns₂, (s.answer (.operate .evaluate)).exec w₁ = (x, w₂) ∧
      w₁.trace = ns₁ ++ w.trace ∧ w₂.trace = ns₂ ++ w₁.trace ∧
      w₂.engine.state.windows = w₁.engine.state.windows ∧ w₂.engine.state.props = w₁.engine.state.props ∧
      w₂.engine.state.ledger.entries = putAll (madeIn ns₂) w₁.engine.state.ledger.entries ∧
      (∀ r ∈ s.rules, r.id ∈ (madeIn ns₂).map (·.id) ↔ Found r ns₂ ∧ ¬ Shut r w₁.engine.state) ∧
      (∀ r ∈ s.rules, Found r ns₁ → Shut r w₁.engine.state) ∧
      ((∀ r ∈ s.rules, Found r ns₂ → Found r ns₁) →
        madeIn ns₂ = [] ∧ w₂.engine.state.ledger = w₁.engine.state.ledger) ∧
      (x = .ok (.badges (putAll (madeIn ns₂) [])) ∨ ∃ e, x = .error e ∧ CutShort s e w₂) := by
  have since := hw.since_le he ht
  have hfirst : ((s.answer (.operate .evaluate)).exec w).1 = .ok a := by rw [h₁]
  obtain ⟨l, hl⟩ := hs.localTime_ok hfirst
  obtain ⟨ns₁, first, -⟩ := hs.evaluated hd (Reach.idle hw) since hl
  rw [h₁] at first
  dsimp only at first
  have windows : (w₁.engine.state.windows.refresh t l).1 = w₁.engine.state.windows := by
    rw [first.windows, Windows.refresh_refresh]
  have since₁ : ∀ p, (w₁.engine.state.windows.get p).since ≤ t := by
    rw [first.windows]
    exact Windows.refresh_since_le since
  obtain ⟨ns₂, second, answer⟩ := hs.evaluated hd first.idle since₁ hl
  have ledger := (second.answers first.idle).1
  have closed := second.closed
  have made := second.made
  rw [windows] at closed made
  have awarded : ∀ r ∈ s.rules, r.id ∈ (madeIn ns₂).map (·.id) ↔ Found r ns₂ ∧ ¬ Shut r w₁.engine.state := by
    intro r hr
    constructor
    · intro hm
      obtain ⟨e, hem, hid⟩ := List.mem_map.1 hm
      obtain ⟨r', hr', hid', hf, hn⟩ := made e hem
      obtain rfl := hd.eq_of_id hr hr' (hid'.trans hid)
      exact ⟨hf, hn⟩
    · rintro ⟨hf, hn⟩
      exact (closed r hr (second.shut r hr hf)).resolve_left hn
  refine ⟨_, _, ns₁, ns₂, rfl, first.trace, second.trace, second.windows.trans windows, second.props, ledger, awarded,
    first.shut, fun hsame => ?_, answer⟩
  have nothing : madeIn ns₂ = [] := by
    refine List.eq_nil_iff_forall_not_mem.2 fun e he => ?_
    obtain ⟨r, hr, -, hf, hn⟩ := made e he
    exact hn (first.shut r hr (hsame r hr hf))
  refine ⟨nothing, Ledger.ext (ledger.trans ?_)⟩
  rw [nothing]
  rfl

/-- a rule that asks for the badge of a rule after it -/
def lateRules : List Rule :=
  [{ id := "a", condition := "hasEarnedBadge('b')" }, { id := "b", condition := "true" }]

/-- an engine with such rules, whose clock stands still -/
def patient : Setup Unit where
  rules := lateRules
  zone := .fixed 0
  clock h := (.ok ⟨july 930, none⟩, h)
  judge h c condition := (judgement [] (fun _ => 0) c condition, h)
  hook _ _ _ := none

/-- a world in which the clock was read -/
def marked : World Unit := World.after patient { host := () } [.setBookmark "start"]

theorem patient_still : Still patient (july 930) where
  clock _ := by rfl
  hook _ _ _ := rfl

theorem marked_unloaded : Unloaded patient marked ∧ ∀ u, Shown marked u → u ≤ july 930 := by
  refine ⟨Reach.after (.new _) (by decide), ?_⟩
  rintro u ⟨x, hx, hu⟩
  obtain rfl := List.mem_singleton.1 (show x ∈ [_] from hx)
  cases hu
  exact Nat.le_refl _

theorem patient_ids : listedIds ((patient.answer (.operate .evaluate)).exec marked).1 = some ["b"] ∧
    listedIds ((patient.answer (.operate .evaluate)).exec (World.after patient marked [.operate .evaluate])).1 =
      some ["a"] := by
  decide +kernel

/-- the second evaluation awards the badge that the first found no reason for, and only this one -/
theorem patient_second : Unloaded patient marked ∧ Still patient (july 930) ∧ ∃ w₂ ns₂,
    (patient.answer (.operate .evaluate)).exec (World.after patient marked [.operate .evaluate]) =
      (.ok (.badges (putAll (madeIn ns₂) [])), w₂) ∧ (putAll (madeIn ns₂) []).map (·.id) = ["a"] ∧
      ∀ r ∈ lateRules, r.id ∈ (madeIn ns₂).map (·.id) ↔
        Found r ns₂ ∧ ¬ Shut r (World.after patient marked [.operate .evaluate]).engine.state := by
  have distinct : DistinctRules patient.rules := show (lateRules.map (·.id)).Nodup by decide
  obtain ⟨unloaded, shown⟩ := marked_unloaded
  obtain ⟨first, second⟩ := patient_ids
  obtain ⟨fs, h₁, -⟩ := listed_of_ids first
  obtain ⟨gs, h₂, hids⟩ := listed_of_ids second
  obtain ⟨x, w₂, ns₁, ns₂, hx, -, -, -, -, -, awarded, -, -, answer⟩ :=
    second_evaluation distinct unloaded (by decide) shown patient_still (Prod.ext h₁ rfl)
  obtain rfl : x = .ok (.badges gs) := (congrArg Prod.fst hx).symm.trans h₂
  rcases answer with answer | ⟨e, he, -⟩
  · cases answer
    exact ⟨unloaded, patient_still, w₂, ns₂, hx, hids, awarded⟩
  · cases he

/-- evaluating twice while the clock stands still answers a badge the second time, too -/
theorem late_badge : Unloaded patient marked ∧ (∀ u, Shown marked u → u ≤ july 930) ∧ Still patient (july 930) ∧
    (∃ fs, ((patient.answer (.operate .evaluate)).exec marked).1 = .ok (.badges fs) ∧ fs.map (·.id) = ["b"]) ∧
    ∃ es, ((patient.answer (.operate .evaluate)).exec (World.after patient marked [.operate .evaluate])).1 =
      .ok (.badges es) ∧ es.map (·.id) = ["a"] :=
  ⟨marked_unloaded.1, marked_unloaded.2, patient_still, listed_of_ids patient_ids.1, listed_of_ids patient_ids.2⟩

end BadgeEngine
