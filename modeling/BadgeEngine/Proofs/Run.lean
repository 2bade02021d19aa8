/-
Where steps lead. `r.leads w Q F` says of a step `r` taken from a world `w`: if it comes to an answer, `Q` holds of
the answer and of the world then; if it fails, `F` holds of the problem and of the world then. What the step changed
before it failed stays changed, so `F` has as much to say as `Q`.

The lemmas below take a program apart from the front. A loop or a program of the host is taken apart by
`within_forM` and `within_ofScript`, which ask for a relation between worlds that every round keeps.
-/
import BadgeEngine.Engine

namespace BadgeEngine

variable {σ α β : Type}

namespace World

def noting (w : World σ) (n : Note) : World σ := { w with trace := ⟨n, w.engine⟩ :: w.trace }

@[simp] theorem noting_trace (w : World σ) (n : Note) : (w.noting n).trace = ⟨n, w.engine⟩ :: w.trace := rfl

def warning (w : World σ) (texts : List String) : World σ :=
  texts.foldl (fun w text => w.noting (.warned text)) w

end World

namespace Run

/-- takes a step from a world: what it comes to, and the world then -/
def exec (r : Run σ α) (w : World σ) : Except Problem α × World σ :=
  StateT.run (ExceptT.run r) w

theorem exec_bind (r : Run σ β) (f : β → Run σ α) (w : World σ) :
    exec (r >>= f) w = match r.exec w with
      | (.ok a, w') => (f a).exec w'
      | (.error e, w') => (.error e, w') := by
  unfold exec
  simp only [ExceptT.run, bind, ExceptT.bind, ExceptT.mk, StateT.run, StateT.bind]
  rcases hr : (r : StateM (World σ) _) w with ⟨_ | _, w'⟩ <;> rfl

theorem exec_attempt (r : Run σ α) (w : World σ) : exec (attempt r) w = (.ok (r.exec w).1, (r.exec w).2) := rfl

theorem exec_ensuring (r : Run σ α) (f : Engine → Engine) (w : World σ) :
    exec (ensuring r f) w = ((r.exec w).1, { (r.exec w).2 with engine := f (r.exec w).2.engine }) := rfl

/-- what holds after a step from a world: `Q` if it comes to an answer, `F` if it fails -/
def leads (r : Run σ α) (w : World σ) (Q : α → World σ → Prop) (F : Problem → World σ → Prop) : Prop :=
  match r.exec w with
  | (.ok a, w') => Q a w'
  | (.error e, w') => F e w'

variable {w : World σ} {Q Q' : α → World σ → Prop} {F F' : Problem → World σ → Prop}

/-- what holds however the step ends holds of the world then -/
theorem leads_const {r : Run σ α} {P : World σ → Prop} : r.leads w (fun _ => P) (fun _ => P) ↔ P (r.exec w).2 := by
  unfold leads
  rcases r.exec w with ⟨_ | _, w'⟩ <;> rfl

theorem leads.mono {r : Run σ α} (h : r.leads w Q F) (hQ : ∀ a w', Q a w' → Q' a w')
    (hF : ∀ e w', F e w' → F' e w') : r.leads w Q' F' := by
  unfold leads at h ⊢
  rcases hr : r.exec w with ⟨e | a, w'⟩ <;> rw [hr] at h
  · exact hF e w' h
  · exact hQ a w' h

/-- what a step leads to however it ends may be weakened once for both ends -/
theorem leads.imp {r : Run σ α} {P P' : World σ → Prop} (h : r.leads w (fun _ => P) (fun _ => P))
    (hP : ∀ v, P v → P' v) : r.leads w (fun _ => P') (fun _ => P') :=
  h.mono (fun _ => hP) fun _ => hP

/-- what a step leads to, said of what it comes to -/
theorem leads_iff {r : Run σ α} : r.leads w Q F ↔
    (∀ a, (r.exec w).1 = .ok a → Q a (r.exec w).2) ∧ ∀ e, (r.exec w).1 = .error e → F e (r.exec w).2 := by
  unfold leads
  rcases r.exec w with ⟨_ | _, w'⟩ <;> simp

/-- what a step leads to, found in two ways -/
theorem leads.and {r : Run σ α} (h : r.leads w Q F) (h' : r.leads w Q' F') :
    r.leads w (fun a v => Q a v ∧ Q' a v) (fun e v => F e v ∧ F' e v) := by
  rw [leads_iff] at *
  exact ⟨fun a ha => ⟨h.1 a ha, h'.1 a ha⟩, fun e he => ⟨h.2 e he, h'.2 e he⟩⟩

/-! ## Taking programs apart -/

@[simp] theorem leads_pure (a : α) : leads (pure a : Run σ α) w Q F ↔ Q a w := Iff.rfl

@[simp] theorem leads_throw (e : Problem) : leads (throw e : Run σ α) w Q F ↔ F e w := Iff.rfl

@[simp] theorem leads_bind (r : Run σ β) (f : β → Run σ α) :
    leads (r >>= f) w Q F ↔ r.leads w (fun a w' => (f a).leads w' Q F) F := by
  unfold leads
  rw [exec_bind]
  rcases r.exec w with ⟨_ | _, w'⟩ <;> rfl

@[simp] theorem leads_ite {p : Prop} [Decidable p] (r r' : Run σ α) :
    leads (if p then r else r') w Q F ↔ if p then r.leads w Q F else r'.leads w Q F := by
  split <;> rfl

@[simp] theorem leads_engine {Q : Engine → World σ → Prop} : leads engine w Q F ↔ Q w.engine w := Iff.rfl

@[simp] theorem leads_state {Q : EngineState → World σ → Prop} : leads state w Q F ↔ Q w.engine.state w := Iff.rfl

@[simp] theorem leads_host {Q : σ → World σ → Prop} : leads host w Q F ↔ Q w.host w := Iff.rfl

variable {Q : Unit → World σ → Prop}

@[simp] theorem leads_changeEngine (f : Engine → Engine) :
    leads (changeEngine f) w Q F ↔ Q () { w with engine := f w.engine } := Iff.rfl

@[simp] theorem leads_change (f : EngineState → EngineState) :
    leads (change f) w Q F ↔ Q () { w with engine := { w.engine with state := f w.engine.state } } := Iff.rfl

@[simp] theorem leads_changeSystem (f : Props → Props) :
    leads (changeSystem f) w Q F ↔
      Q () { w with engine := { w.engine with state := { w.engine.state with system := f w.engine.state.system } } } :=
  Iff.rfl

@[simp] theorem leads_setHost (h : σ) : leads (setHost h) w Q F ↔ Q () { w with host := h } := Iff.rfl

@[simp] theorem leads_note (n : Note) :
    leads (note n) w Q F ↔ Q () { w with trace := ⟨n, w.engine⟩ :: w.trace } := Iff.rfl

variable {Q : α → World σ → Prop}

@[simp] theorem leads_ofExcept (x : Except Problem α) :
    leads (liftM x : Run σ α) w Q F ↔ match x with | .ok a => Q a w | .error e => F e w := by
  cases x <;> rfl

@[simp] theorem leads_attempt (r : Run σ α) {Q : Except Problem α → World σ → Prop} :
    leads (attempt r) w Q F ↔ r.leads w (fun a w' => Q (.ok a) w') (fun e w' => Q (.error e) w') := by
  unfold leads
  rw [exec_attempt]
  rcases r.exec w with ⟨_ | _, w'⟩ <;> rfl

@[simp] theorem leads_ensuring (r : Run σ α) (f : Engine → Engine) :
    leads (ensuring r f) w Q F ↔
      r.leads w (fun a w' => Q a { w' with engine := f w'.engine })
        (fun e w' => F e { w' with engine := f w'.engine }) := by
  unfold leads
  rw [exec_ensuring]
  rcases r.exec w with ⟨_ | _, w'⟩ <;> rfl

@[simp] theorem leads_ofWarned (a : Warned α) :
    leads (ofWarned a) w Q F ↔
      match a.answer.1 with
      | .ok x => Q x (w.warning a.answer.2)
      | .error e => F e (w.warning a.answer.2) := by
  have warn : ∀ (texts : List String) (w : World σ) (Q : Unit → World σ → Prop),
      (texts.forM fun text => note (.warned text) : Run σ Unit).leads w Q F ↔ Q () (w.warning texts) := by
    intro texts
    induction texts with
    | nil => exact fun w Q => Iff.rfl
    | cons text texts ih => exact fun w Q => ih (w.noting (.warned text)) Q
  unfold ofWarned
  rcases a.answer with ⟨r, texts⟩
  rw [leads_bind, warn]
  cases r <;> rfl

/-! ## Loops and programs of the host -/

/-- a step keeps to a relation between worlds, however it ends -/
def within (R : World σ → World σ → Prop) (r : Run σ α) : Prop :=
  ∀ w, r.leads w (fun _ => R w) (fun _ => R w)

theorem within.mono {R R' : World σ → World σ → Prop} {r : Run σ α} (h : r.within R) (hR : ∀ v w, R v w → R' v w) :
    r.within R' :=
  fun w => (h w).imp fun _ => hR w _

theorem within.bind {R : World σ → World σ → Prop} (trans : ∀ ⦃u v w⦄, R u v → R v w → R u w) {r : Run σ β}
    {f : β → Run σ α} (hr : r.within R) (hf : ∀ b, (f b).within R) : within R (r >>= f) := by
  intro w
  rw [leads_bind]
  refine (hr w).mono (fun b v hv => ?_) (fun _ _ hv => hv)
  exact (hf b v).imp fun _ h => trans hv h

/-- a loop keeps to a relation that its rounds keep to -/
theorem within_forM {R : World σ → World σ → Prop} (refl : ∀ w, R w w) (trans : ∀ ⦃u v w⦄, R u v → R v w → R u w)
    {f : β → Run σ PUnit} (l : List β) (hf : ∀ b ∈ l, (f b).within R) : within R (l.forM f) := by
  induction l with
  | nil => exact fun w => refl w
  | cons b l ih =>
    have h : (b :: l).forM f = f b >>= fun _ => l.forM f := rfl
    rw [h]
    exact (hf b List.mem_cons_self).bind trans fun _ => ih fun c hc => hf c (List.mem_cons_of_mem _ hc)

/-- a program keeps to a relation that its looks, its requests and its end keep to, each with the note of its turn -/
theorem within_script {R : World σ → World σ → Prop} (trans : ∀ ⦃u v w⦄, R u v → R v w → R u w)
    {answer : Request → Run σ Answer} (look : (note (.turn .look) : Run σ Unit).within R)
    (ask : ∀ h q, within R (do note (.turn (.ask q)); setHost h; attempt (answer q)))
    (finish : ∀ (h : σ) (r : Except Problem α), within R (do note (.turn (.ending r)); setHost h; r : Run σ α))
    (p : Script σ α) : within R (ofScript answer p) := by
  induction p with
  | finish h r => exact finish h r
  | look next ih =>
    refine look.bind trans fun _ w => ?_
    rw [leads_bind, leads_state]
    exact ih _ w
  | ask h q next ih =>
    intro w
    have asked := ask h q w
    simp only [ofScript, leads_bind, leads_note, leads_setHost, leads_host] at asked ⊢
    exact asked.mono (fun a v hv => (ih _ _ v).imp fun _ hu => trans hv hu) fun _ _ hv => hv

/-- a program keeps to a relation that its turns, its changes of the host and its requests keep to -/
theorem within_ofScript {R : World σ → World σ → Prop} (trans : ∀ ⦃u v w⦄, R u v → R v w → R u w)
    (turn : ∀ d, (note (.turn d) : Run σ Unit).within R) (setHost : ∀ h : σ, (Run.setHost h).within R)
    {answer : Request → Run σ Answer} (ha : ∀ q, (answer q).within R) (p : Script σ α) :
    within R (ofScript answer p) := by
  refine within_script trans (turn .look) (fun h q => ?_) (fun h r => ?_) p
  · refine (turn _).bind trans fun _ => (setHost h).bind trans fun _ w => ?_
    rw [leads_attempt]
    exact ha q w
  · refine (turn _).bind trans fun _ w => ?_
    have ended : R w { w with host := h } := (leads_setHost h).1 (setHost h w)
    simp only [leads_bind, leads_setHost, leads_ofExcept]
    cases r <;> exact ended

/-! ### Turn by turn -/

theorem exec_finish (answer : Request → Run σ Answer) (h : σ) (r : Except Problem α) (w : World σ) :
    exec (ofScript answer (.finish h r)) w = (r, { w.noting (.turn (.ending r)) with host := h }) := by
  cases r <;> rfl

theorem exec_look (answer : Request → Run σ Answer) (next : EngineState → Script σ α) (w : World σ) :
    exec (ofScript answer (.look next)) w = exec (ofScript answer (next w.engine.state)) (w.noting (.turn .look)) :=
  rfl

theorem exec_ask (answer : Request → Run σ Answer) (h : σ) (q : Request)
    (next : σ → Except Problem Answer → Script σ α) (w : World σ) :
    exec (ofScript answer (.ask h q next)) w =
      match (answer q).exec { w.noting (.turn (.ask q)) with host := h } with
      | (r, v) => exec (ofScript answer (next v.host r)) v :=
  rfl

-- from here on a step is taken apart by the lemmas above, and never run
attribute [irreducible] leads

end Run

end BadgeEngine
