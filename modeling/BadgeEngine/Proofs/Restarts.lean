/-
A start of what is open ends it first. That is as if it had been ended by a request of its own before it was started
(`restart_splits`), when no calendar key changes at the end: what changes then is shown as new until the operation is
over, and so to the rules of the start as well.

The operations differ in their name, and the one of the restart has the badges of both. Neither is seen while they run:
worlds that differ in this only cast the same shadow (`Shadow`), and every step keeps them so.
-/
import BadgeEngine.Proofs.Awards
import BadgeEngine.Proofs.Reload
import BadgeEngine.Proofs.Rollovers
import BadgeEngine.Proofs.Survival

namespace BadgeEngine

open BadgeEngine.Time Run Setup Ledger

variable {σ α β : Type} {s : Setup σ} {u v w : World σ} {a : Axis}

/-! ## Shadows -/

/-- worlds in which operations run, with the same host, where the same was seen to happen: their engines differ in which
operation runs and in the badges of it -/
structure Shadow (w v : World σ) : Prop where
  host : w.host = v.host
  state : w.engine.state = v.engine.state
  pending : w.engine.pending = v.engine.pending
  rolled : w.engine.rolled = v.engine.rolled
  busy : w.engine.busy = true ∧ v.engine.busy = true
  seen : w.trace.map Noted.seen = v.trace.map Noted.seen

namespace Shadow

theorem outline (h : Shadow w v) : w.engine.outline = v.engine.outline := by
  unfold Engine.outline
  rw [h.state, h.pending, h.rolled, h.busy.1, h.busy.2]

theorem noting (h : Shadow w v) (n : Note) : Shadow (w.noting n) (v.noting n) where
  host := h.host
  state := h.state
  pending := h.pending
  rolled := h.rolled
  busy := h.busy
  seen := by simp only [World.noting_trace, List.map_cons, Noted.seen, h.state, h.seen]

theorem redraw (h : Shadow w v) {f : Engine → Engine} (hf : Outward f) :
    Shadow (w.withEngine (f w.engine)) (v.withEngine (f v.engine)) := by
  have same := hf.congr h.outline
  have ledger : (f w.engine).state.ledger = (f v.engine).state.ledger := by rw [hf.ledger, hf.ledger, h.state]
  simp only [Engine.outline, Outline.mk.injEq] at same
  obtain ⟨props, system, windows, bookmarks, -, pending, rolled⟩ := same
  refine ⟨h.host, ?_, pending, rolled, ⟨(hf.busy _).trans h.busy.1, (hf.busy _).trans h.busy.2⟩, h.seen⟩
  show (f w.engine).state = (f v.engine).state
  cases hw : (f w.engine).state
  cases hv : (f v.engine).state
  rw [hw, hv] at props system windows bookmarks ledger
  simp_all

theorem coupling : Coupling (σ := σ) Shadow := ⟨outline, fun hf h => h.redraw hf, fun _ h => h.noting _⟩

end Shadow

/-- two programs do the same in worlds that cast the same shadow -/
abbrev Shadows (r r' : Run σ α) : Prop := Couples Shadow (fun _ => False) r r'

namespace Shadows

theorem outlined : Outlined (σ := σ) Shadows := Couples.outlined Shadow.coupling

/-- from worlds that cast the same shadow they come to the same, and to such worlds -/
theorem runs {r r' : Run σ α} (hr : Shadows r r') (h : Shadow w v) :
    ∃ x w' v', r.exec w = (x, w') ∧ r'.exec v = (x, v') ∧ Shadow w' v' := by
  obtain ⟨same, shadow⟩ := hr.coupled w v h fun _ _ => id
  exact ⟨(r.exec w).1, (r.exec w).2, (r'.exec v).2, rfl, Prod.ext same.symm rfl, shadow⟩

theorem state : Shadows (Run.state : Run σ EngineState) Run.state :=
  ⟨fun _ => List.suffix_rfl, fun _ _ h _ => ⟨congrArg Except.ok h.state, h⟩⟩

theorem host : Shadows (Run.host : Run σ σ) Run.host :=
  ⟨fun _ => List.suffix_rfl, fun _ _ h _ => ⟨congrArg Except.ok h.host, h⟩⟩

theorem setHost (x : σ) : Shadows (Run.setHost x) (Run.setHost x) :=
  ⟨fun _ => List.suffix_rfl, fun _ _ h _ => ⟨rfl, { h with host := rfl }⟩⟩

theorem note (n : Note) : Shadows (Run.note n : Run σ Unit) (Run.note n) :=
  ⟨fun _ => List.suffix_cons .., fun _ _ h _ => ⟨rfl, h.noting n⟩⟩

theorem change (f : EngineState → EngineState) : Shadows (Run.change f : Run σ Unit) (Run.change f) :=
  ⟨fun _ => List.suffix_rfl, fun _ _ h _ => ⟨rfl, { h with state := congrArg f h.state }⟩⟩

theorem changeNews (f : List Earned → List Earned) : Shadows
    (changeEngine fun g => { g with news := f g.news } : Run σ Unit) (changeEngine fun g => { g with news := f g.news }) :=
  ⟨fun _ => List.suffix_rfl, fun _ _ h _ => ⟨rfl, { h with }⟩⟩

theorem ofExcept (x : Except Problem α) : Shadows (liftM x : Run σ α) (liftM x) := by
  cases x <;> exact ⟨fun _ => List.suffix_rfl, fun _ _ h _ => ⟨rfl, h⟩⟩

theorem now : Shadows s.now s.now := by
  unfold Setup.now
  refine host.bind fun h => ?_
  split
  exact (setHost _).bind fun _ => (note _).bind fun _ => ofExcept _

/-- while an operation runs, another is refused -/
theorem refused (op : Operation) : Shadows (operation op (pure ()) : Run σ Answer) (operation op (pure ())) where
  grows w := by
    cases hb : w.engine.busy with
    | true =>
      simp only [exec_operation_busy hb]
      exact List.suffix_rfl
    | false =>
      have idle : exec (pure ()) (w.entering op) = (.ok (), w.entering op) := rfl
      simp only [exec_operation_idle hb idle]
      exact List.suffix_rfl
  coupled w v h _ := by
    rw [exec_operation_busy h.busy.1, exec_operation_busy h.busy.2]
    exact ⟨rfl, h⟩

theorem ofScript (p : Script σ α) : Shadows (Run.ofScript s.answerHook p) (Run.ofScript s.answerHook p) := by
  have answers : ∀ q, Shadows (s.answerHook q) (s.answerHook q) :=
    fun q => outlined.answerWith id Couples.bind now (Couples.marks Shadow.coupling) fun op _ => refused op
  induction p with
  | finish h r => exact (note _).bind fun _ => (setHost h).bind fun _ => ofExcept r
  | look next ih => exact (note _).bind fun _ => state.bind fun st => ih st
  | ask h q next ih =>
    exact (note _).bind fun _ => (setHost h).bind fun _ => (answers q).attempt.bind fun a => host.bind fun h' => ih h' a

theorem tell (h : Hook) (p : Payload) : Shadows (s.tell h p) (s.tell h p) := by
  unfold Setup.tell
  refine host.bind fun x => ?_
  split
  · exact outlined.pure ()
  · exact (note _).bind fun _ => ofScript _

theorem award (r : Rule) : Shadows (s.award r) (s.award r) := by
  unfold Setup.award
  refine state.bind fun st => now.bind fun t => state.bind fun st' => ?_
  split
  · exact note _
  · exact (change _).bind fun _ => (changeNews _).bind fun _ => (note _).bind fun _ => tell _ _

theorem consider (props system : Props) (r : Rule) : Shadows (s.consider props system r) (s.consider props system r) := by
  unfold Setup.consider
  split
  · exact outlined.pure ()
  · refine host.bind fun h => state.bind fun st => ?_
    split
    refine (setHost _).bind fun _ => (note _).bind fun _ => (ofExcept _).bind fun verdict => ?_
    split
    · exact award r
    · exact outlined.pure ()
    · exact (note _).bind fun _ => tell _ _

theorem parallel : Parallel Shadows s s :=
  ⟨rfl, now, tell, outlined.pass fun props system => outlined.forM s.rules (consider props system)⟩

end Shadows

/-! ## Between the end and the start -/

/-- a program after which no pass is pending, if it comes to its end -/
def Spends (r : Run σ α) : Prop := ∀ w, r.leads w (fun _ v => v.engine.pending = false) fun _ _ => True

theorem Spends.after {r : Run σ β} {f : β → Run σ α} (hf : ∀ b, Spends (f b)) : Spends (r >>= f) := by
  intro w
  rw [leads_bind]
  exact leads_iff.2 ⟨fun b _ => hf b _, fun _ _ => trivial⟩

theorem passes_spends (n : Nat) : Spends (s.passes n) := by
  have pass : ∀ w : World σ, s.pass.leads w (fun again v => again = v.engine.pending) fun _ _ => True := by
    intro w
    unfold Setup.pass
    simp only [leads_bind, leads_changeEngine, leads_note, leads_state, leads_engine, leads_pure]
    exact leads_const.2 trivial
  induction n with
  | zero =>
    intro w
    unfold Setup.passes
    simp only [leads_bind, leads_ite, leads_note, leads_changeEngine, leads_pure]
    refine (pass w).mono (fun again v h => ?_) fun _ _ h => h
    split <;> simp_all
  | succ n ih =>
    intro w
    unfold Setup.passes
    simp only [leads_bind, leads_ite, leads_pure]
    refine (pass w).mono (fun again v h => ?_) fun _ _ h => h
    split
    · exact ih v
    · simp_all

theorem close_spends (a : Axis) : Spends (s.close a) :=
  .after fun _ => .after fun _ => .after fun _ => .after fun _ => .after fun _ => passes_spends passLimit

/-- what rolled over in an operation is told by the notes -/
theorem Moves.rolled (h : Moves s u w) (hu : u.engine.rolled = {}) : ∃ ns, w.trace = ns ++ u.trace ∧
    ((∀ x ∈ ns, ∀ c, x.changes (.calendar c) = false) → w.engine.rolled = {}) := by
  induction h with
  | refl => exact ⟨[], rfl, fun _ => hu⟩
  | @tail v w' _ h ih =>
    obtain ⟨ns, hns, ih⟩ := ih
    obtain ⟨ms, hms⟩ := h.suffix
    refine ⟨ms ++ ns, by rw [← hms, hns, List.append_assoc], fun quiet => ?_⟩
    have before := ih fun x hx => quiet x (List.mem_append_right _ hx)
    cases h with
    | rule h =>
      cases h with
      | hook h => cases h <;> exact before
      | _ => exact before
    | refreshed t l ht hl =>
      rw [World.refreshing_trace] at hms
      obtain rfl := List.append_cancel_right (hms.trans (List.singleton_append ..).symm)
      have none : (v.engine.state.windows.refresh t l).2 = {} :=
        Rollover.eq_empty fun c => quiet _ (List.mem_append_left _ List.mem_cons_self) c
      have merged : (v.refreshing t l).engine.rolled =
          v.engine.rolled.merge (v.engine.state.windows.refresh t l).2 := by
        simp only [World.refreshing, World.noting, World.withEngine, Engine.refresh]
      rw [merged, before, none]
      rfl
    | entered op => rfl
    | _ => exact before

/-! ## Badges of both -/

namespace Ledger

/-- entries, with the ones of another list in place of those of the same id, and the rest of them at the end -/
def merged (es fs : List Earned) : List Earned :=
  es.map (fun e => (fs.find? fun f => f.id = e.id).getD e) ++ fs.filter fun f => f.id ∉ es.map (·.id)

variable {e : Earned} {es fs l : List Earned}

theorem put_append_of_mem (h : e.id ∈ es.map (·.id)) (fs : List Earned) : put e (es ++ fs) = put e es ++ fs := by
  induction es with
  | nil => cases h
  | cons f es ih =>
    rw [List.cons_append, put, put]
    split
    · rfl
    case isFalse hf =>
      rw [List.map_cons, List.mem_cons] at h
      rw [ih (h.resolve_left fun he => hf he.symm), List.cons_append]

theorem put_append_of_notMem (h : e.id ∉ es.map (·.id)) (fs : List Earned) : put e (es ++ fs) = es ++ put e fs := by
  induction es with
  | nil => rfl
  | cons f es ih =>
    rw [List.map_cons, List.mem_cons, not_or] at h
    rw [List.cons_append, put, if_neg fun hf => h.1 hf.symm, ih h.2, List.cons_append]

/-- an entry put in place among others that were replaced by entries of the same ids -/
theorem put_map (hd : Distinct l) {g : Earned → Earned} (hg : ∀ f, (g f).id = f.id) (h : e.id ∈ l.map (·.id)) :
    put e (l.map g) = l.map fun f => if f.id = e.id then e else g f := by
  induction l with
  | nil => cases h
  | cons f l ih =>
    obtain ⟨hf, hl⟩ := List.nodup_cons.1 hd
    rw [List.map_cons, List.map_cons, put, hg]
    split
    case isTrue hid =>
      congr 1
      refine List.map_congr_left fun f' hf' => (if_neg fun he => hf ?_).symm
      exact List.mem_map.2 ⟨f', hf', he.trans hid.symm⟩
    case isFalse hid =>
      rw [List.map_cons, List.mem_cons] at h
      rw [ih hl (h.resolve_left fun he => hid he.symm)]

theorem filter_put (p : String → Bool) (e : Earned) (l : List Earned) : (put e l).filter (fun f => p f.id) =
    if p e.id then put e (l.filter fun f => p f.id) else l.filter fun f => p f.id := by
  induction l with
  | nil => rw [put, List.filter_singleton]; split <;> simp_all [put]
  | cons f l ih =>
    rw [put]
    split
    case isTrue hid =>
      rw [List.filter_cons, List.filter_cons, hid]
      split
      · rw [put, if_pos hid]
      · rfl
    case isFalse hid =>
      rw [List.filter_cons, List.filter_cons, ih]
      split <;> split <;> simp_all [put]

theorem merged_put (hl : Distinct l) (e : Earned) (fs : List Earned) : put e (merged l fs) = merged l (put e fs) := by
  unfold merged
  have found : ∀ id, (put e fs).find? (fun f => f.id = id) =
      if id = e.id then some e else fs.find? fun f => f.id = id := by
    intro id
    split
    case isTrue hid => rw [hid]; exact entryFor?_put_self e fs
    case isFalse hid => exact entryFor?_put_of_ne hid fs
  have same : ∀ f : Earned, ((fs.find? fun f' => f'.id = f.id).getD f).id = f.id := by
    intro f
    cases hf : fs.find? fun f' => f'.id = f.id with
    | none => rfl
    | some f' => simpa using List.find?_some hf
  by_cases h : e.id ∈ l.map (·.id)
  · rw [put_append_of_mem (by simpa [same, Function.comp_def] using h), put_map hl same h,
      filter_put (fun id => id ∉ l.map (·.id)), if_neg (by simpa using h)]
    congr 1
    refine List.map_congr_left fun f _ => ?_
    rw [found]
    split <;> rfl
  · rw [put_append_of_notMem (by simpa [same, Function.comp_def] using h),
      filter_put (fun id => id ∉ l.map (·.id)), if_pos (by simpa using h)]
    congr 1
    refine List.map_congr_left fun f hf => ?_
    rw [found, if_neg fun he : f.id = e.id => h (he ▸ List.mem_map_of_mem hf)]

/-- entries put one after another among distinct ones, told by what they come to on their own -/
theorem putAll_eq_merged (hl : Distinct l) (es : List Earned) : putAll es l = merged l (putAll es []) := by
  induction es using List.reverseRecOn with
  | nil => simp [putAll, merged]
  | append_singleton es e ih => rw [putAll_concat, putAll_concat, ih, merged_put hl]

end Ledger

/-! ## Requests -/

def Axis.endRequest : Axis → Request
  | .session => .operate .endSession
  | .game => .endGameFor (.ofText EndReason.implicitRestart.name)

def Axis.endOperation : Axis → Operation
  | .session => .endSession
  | .game => .endGame .implicitRestart

/-- an answer that lists badges, with those of a later answer put in -/
def Answer.followedBy : Answer → Answer → Answer
  | .badges es, .badges fs => .badges (merged es fs)
  | _, later => later

/-- ends an axis and then starts it, by two requests -/
def Setup.endThenStart (s : Setup σ) (a : Axis) : Run σ Answer := do
  let ended ← s.answer a.endRequest
  let started ← s.answer (.operate (.start a))
  return ended.followedBy started

/-- worlds that are alike, in which the same was seen to happen -/
structure Indistinct (w v : World σ) : Prop extends Alike w v where
  seen : w.trace.map Noted.seen = v.trace.map Noted.seen

theorem exec_endRequest (s : Setup σ) (a : Axis) (w : World σ) :
    (s.answer a.endRequest).exec w = (operation a.endOperation (s.perform a.endOperation)).exec w := by
  cases a with
  | session => rfl
  | game =>
    have named : EndReason.ofValue (.ofText EndReason.implicitRestart.name) = .ok .implicitRestart := by decide
    show exec (do let op := Operation.endGame (← EndReason.ofValue _); operation op (s.perform op)) w = _
    rw [named]
    rfl

/-- what an open axis is ended and started by -/
theorem exec_perform_of_open (ho : (w.engine.state.status a).isOpen = true) :
    (s.perform a.endOperation).exec w = (s.closeBeforeStart a).exec w ∧
      (s.perform (.start a)).exec w = (do s.closeBeforeStart a; s.begin a : Run σ Unit).exec w := by
  have taken : ∀ r u : Run σ Unit, exec (do if ((← Run.state).status a).isOpen then r else u) w = r.exec w := by
    intro r u
    show exec (if (w.engine.state.status a).isOpen then r else u) w = _
    rw [ho]
    rfl
  refine ⟨?_, taken _ _⟩
  cases a <;> exact taken _ _

theorem exec_start_of_ended (he : w.engine.state.status a = .ended) :
    (s.perform (.start a)).exec w = (s.begin a).exec w := by
  show exec (if (w.engine.state.status a).isOpen then _ else _) w = _
  rw [he]
  rfl

/-! ## Result -/

/-- between its end and its start an axis is ended, and nothing of the end is left over but what it rolled over -/
theorem closeBeforeStart_leaves (hb : u.engine.busy = true) (hr : u.engine.rolled = {}) :
    (s.closeBeforeStart a).leads u (fun _ v => v.engine.busy = true ∧ v.engine.state.status a = .ended ∧
      v.engine.pending = false ∧ ∃ ns, v.trace = ns ++ u.trace ∧
        ((∀ x ∈ ns, ∀ c, x.changes (.calendar c) = false) → v.engine.rolled = {})) fun _ _ => True := by
  have moved := (closeBeforeStart_moves (s := s) a u).mono (fun _ v hv => (hv hb).1.rolled hr) fun _ _ _ => trivial
  have busy := (closeBeforeStart_moves (s := s) a u).mono (fun _ v hv => (hv hb).2) fun _ _ _ => trivial
  have spent : (s.closeBeforeStart a).leads u (fun _ v => v.engine.pending = false) fun _ _ => True := by
    cases a with
    | session => exact close_spends .session u
    | game => exact Spends.after (fun _ => .after fun _ => close_spends .game) u
  have ended : (s.closeBeforeStart a).leads u (fun _ v => v.engine.state.status a = .ended) fun _ _ => True := by
    cases a with
    | session => exact (close_goes .session hb).mono (fun _ _ hv => hv.2.2) fun _ _ _ => trivial
    | game => exact (closeGame_goes .implicitRestart hb).mono (fun _ _ hv => hv.2.2) fun _ _ _ => trivial
  refine (((busy.and ended).and spent).and moved).mono (fun _ v hv => ?_) fun _ _ _ => trivial
  exact ⟨hv.1.1.1, hv.1.1.2, hv.1.2, hv.2⟩

/-- worlds that cast the same shadow are alike once the operations are over -/
theorem Shadow.leaving (h : Shadow w v) : Indistinct w.leaving v.leaving :=
  ⟨⟨h.host, h.state, ⟨rfl, rfl⟩, ⟨rfl, rfl⟩⟩, h.seen⟩

/-- entries made are told by what is seen -/
theorem madeIn_of_seen {ms ns : List Noted} (h : ms.map Noted.seen = ns.map Noted.seen) : madeIn ms = madeIn ns := by
  have told : ∀ ns : List Noted, ns.filterMap Noted.made? = (ns.map Noted.seen).filterMap fun x =>
      Noted.made? ⟨x.1, {}⟩ := fun ns => by
    rw [List.filterMap_map]
    rfl
  unfold madeIn
  rw [told, told, h]

/-- badges of an operation that goes as two others do, one after the other -/
theorem badges_merged {ns ns₁ ns₂ : List Noted} (h : ns.map Noted.seen = (ns₂ ++ ns₁).map Noted.seen) :
    putAll (madeIn ns) [] = merged (putAll (madeIn ns₁) []) (putAll (madeIn ns₂) []) := by
  have distinct : Distinct (putAll (madeIn ns₁) []) := Distinct.putAll (show Distinct [] from List.nodup_nil) _
  rw [madeIn_of_seen h, madeIn_append, putAll_append, putAll_eq_merged distinct]

/-- what requests answer, one after the other, when a third one goes as they do -/
theorem answers_merged {q q₁ q₂ : Request} (hq : q.isLoad = false ∧ q₁.isLoad = false ∧ q₂.isLoad = false)
    {w₁ w₂ v : World σ} {es es₁ es₂ : List Earned} (hw : w.engine.busy = false) (hw₁ : w₁.engine.busy = false)
    (h : (s.answer q).exec w = (.ok (.badges es), v)) (h₁ : (s.answer q₁).exec w = (.ok (.badges es₁), w₁))
    (h₂ : (s.answer q₂).exec w₁ = (.ok (.badges es₂), w₂)) (hs : v.trace.map Noted.seen = w₂.trace.map Noted.seen) :
    es = merged es₁ es₂ := by
  obtain ⟨ns, hns, -, hes⟩ := answer_reports (s := s) hq.1 hw
  obtain ⟨ns₁, hns₁, -, hes₁⟩ := answer_reports (s := s) hq.2.1 hw
  obtain ⟨ns₂, hns₂, -, hes₂⟩ := answer_reports (s := s) hq.2.2 hw₁
  have trace := hns.trace
  have trace₁ := hns₁.trace
  have trace₂ := hns₂.trace
  rw [h] at hes trace
  rw [h₁] at hes₁ trace₁
  rw [h₂] at hes₂ trace₂
  rw [hes es rfl, hes₁ es₁ rfl, hes₂ es₂ rfl]
  have same : ns.map Noted.seen ++ w.trace.map Noted.seen = (ns₂ ++ ns₁).map Noted.seen ++ w.trace.map Noted.seen := by
    rw [← List.map_append, ← List.map_append, List.append_assoc, ← trace, ← trace₁, ← trace₂, hs]
  exact badges_merged (List.append_cancel_right same)

/-- **A restart.** A start of what is open comes to the same as a request to end it and one to start it, if no calendar
key changes at the end: it fails as they do, or lists the badges of the end with those of the start put in; the host and
the state are the same then, and the same was seen to happen, be it the clock that was read, a hook that was called or a
request that a hook made. -/
theorem restart_splits (hw : Reached s w) (ho : (w.engine.state.status a).isOpen = true)
    (hkeys : ∀ ns, ((s.answer a.endRequest).exec w).2.trace = ns ++ w.trace →
      ∀ x ∈ ns, ∀ c, x.changes (.calendar c) = false) :
    ((s.answer (.operate (.start a))).exec w).1 = ((s.endThenStart a).exec w).1 ∧
      Indistinct ((s.answer (.operate (.start a))).exec w).2 ((s.endThenStart a).exec w).2 := by
  have settled := hw.settled
  -- both close the axis, and cast the same shadow
  obtain ⟨x, v, v₁, hv, hv₁, shadow⟩ := ((Shadows.parallel (s := s)).closeBeforeStart Shadows.outlined a).runs
    (w := w.entering (.start a)) (v := w.entering a.endOperation) ⟨rfl, rfl, rfl, rfl, ⟨rfl, rfl⟩, rfl⟩
  have left := leads_iff.1 (closeBeforeStart_leaves (s := s) (a := a) (u := w.entering a.endOperation) rfl rfl)
  rw [hv₁] at left
  have open₀ := exec_perform_of_open (s := s) (w := w.entering (.start a)) ho
  have open₁ := exec_perform_of_open (s := s) (w := w.entering a.endOperation) ho
  have ended : (s.answer a.endRequest).exec w = (x.map fun _ => a.endOperation.answer v₁.engine.news, v₁.leaving) :=
    (exec_endRequest s a w).trans (exec_operation_idle settled.busy (open₁.1.trans hv₁))
  cases x with
  | error e =>
    have restarted : (s.answer (.operate (.start a))).exec w = (.error e, v.leaving) :=
      exec_operation_idle settled.busy (x := .error e) (open₀.2.trans (exec_bind_error hv))
    have both : (s.endThenStart a).exec w = (.error e, v₁.leaving) := exec_bind_error ended
    rw [restarted, both]
    exact ⟨rfl, shadow.leaving⟩
  | ok =>
    obtain ⟨-, status, pending, ns, hns, quiet⟩ := left.1 () rfl
    have rolled : v₁.engine.rolled = {} := quiet (hkeys ns (by rw [ended]; exact hns))
    -- the start begins where the end left off
    let u₁ := v₁.leaving.entering (.start a)
    have next : Shadow v u₁ :=
      ⟨shadow.host, shadow.state, shadow.pending.trans pending, shadow.rolled.trans rolled, ⟨shadow.busy.1, rfl⟩,
        shadow.seen⟩
    obtain ⟨y, z, z₁, hz, hz₁, shadow₁⟩ := ((Shadows.parallel (s := s)).begin Shadows.outlined a).runs next
    have restarted : (s.answer (.operate (.start a))).exec w = (y.map fun _ => .badges z.engine.news, z.leaving) :=
      exec_operation_idle settled.busy (open₀.2.trans ((exec_bind_ok hv).trans hz))
    have started : (s.answer (.operate (.start a))).exec v₁.leaving =
        (y.map fun _ => .badges z₁.engine.news, z₁.leaving) :=
      exec_operation_idle rfl ((exec_start_of_ended (w := u₁) status).trans hz₁)
    cases y with
    | error e =>
      have both : (s.endThenStart a).exec w = (.error e, z₁.leaving) :=
        (exec_bind_ok ended).trans (exec_bind_error started)
      rw [restarted, both]
      exact ⟨rfl, shadow₁.leaving⟩
    | ok =>
      have both : (s.endThenStart a).exec w =
          (.ok ((a.endOperation.answer v₁.engine.news).followedBy (.badges z₁.engine.news)), z₁.leaving) :=
        (exec_bind_ok ended).trans (exec_bind_ok started)
      have lists : a.endOperation.answer v₁.engine.news = .badges v₁.engine.news := by cases a <;> rfl
      have loads : a.endRequest.isLoad = false := by cases a <;> rfl
      rw [lists] at ended both
      have merged : z.engine.news = merged v₁.engine.news z₁.engine.news :=
        answers_merged ⟨rfl, loads, rfl⟩ settled.busy rfl restarted ended started shadow₁.leaving.seen
      rw [restarted, both]
      exact ⟨congrArg (fun es => Except.ok (Answer.badges es)) merged, shadow₁.leaving⟩

/-- an engine under a clock that ticks every minute, with a hook that sets a property when a game ends; one rule asks
for it, and can be earned once in a game -/
def relay : Setup (List Moment) where
  rules := [{ id := "again", condition := "x == 1", period := .counter .game },
    { id := "over", condition := "system.isGameEnded" }]
  zone := .fixed 0
  clock
    | [] => (.error .outOfRange, [])
    | t :: ts => (.ok ⟨t, none⟩, ts)
  judge h c condition := (judgement [] (fun _ => 0) c condition, h)
  hook h k _ := if k = .ended .game then
    some (.ask h (.write (.set "x" (.ofInt 1)) false) fun h _ => .finish h (.ok ())) else none

/-- the badges that a request answered, with their counts -/
def listedCounts : Except Problem Answer → Option (List (String × Int))
  | .ok (.badges es) => some (es.map fun e => (e.id, e.count))
  | _ => none

theorem listed_of_counts {r : Except Problem Answer} {counts : List (String × Int)} (h : listedCounts r = some counts) :
    ∃ es, r = .ok (.badges es) ∧ es.map (fun e => (e.id, e.count)) = counts := by
  unfold listedCounts at h
  split at h
  case h_1 es => exact ⟨es, rfl, Option.some.inj h⟩
  case h_2 => cases h

def firstGame : World (List Moment) :=
  World.after relay { host := (List.range 9).map fun n => july (930 + n) } [.operate (.start .game)]

/-- a badge earned at the end is earned again at the start that follows, and a restart lists it where it came first and
as it was earned last -/
theorem firstGame_restarts : Reached relay firstGame ∧ (firstGame.engine.state.status .game).isOpen = true ∧
    (∃ es, ((relay.answer Axis.game.endRequest).exec firstGame).1 = .ok (.badges es) ∧
      es.map (fun e => (e.id, e.count)) = [("again", 1), ("over", 1)]) ∧
    ∃ es, ((relay.answer (.operate (.start .game))).exec firstGame).1 = .ok (.badges es) ∧
      es.map (fun e => (e.id, e.count)) = [("again", 2), ("over", 1)] ∧
      ((relay.endThenStart .game).exec firstGame).1 = .ok (.badges es) ∧
      Indistinct ((relay.answer (.operate (.start .game))).exec firstGame).2
        ((relay.endThenStart .game).exec firstGame).2 := by
  have hw : Reached relay firstGame := Reach.after (.new _) fun _ _ => trivial
  have ho : (firstGame.engine.state.status .game).isOpen = true := by decide +kernel
  have quiet : ∀ ns, ((relay.answer Axis.game.endRequest).exec firstGame).2.trace = ns ++ firstGame.trace →
      ∀ x ∈ ns, ∀ c, x.changes (.calendar c) = false := by
    intro ns hns
    have taken : ns = ((relay.answer Axis.game.endRequest).exec firstGame).2.trace.take
        (((relay.answer Axis.game.endRequest).exec firstGame).2.trace.length - firstGame.trace.length) := by
      rw [hns]
      simp
    have all : ∀ x ∈ ns, ∀ c ∈ CalendarPeriod.all, x.changes (.calendar c) = false := by
      rw [taken]
      decide +kernel
    exact fun x hx c => all x hx c (by cases c <;> decide)
  obtain ⟨same, indistinct⟩ := restart_splits hw ho quiet
  have listed : listedCounts ((relay.answer (.operate (.start .game))).exec firstGame).1 =
      some [("again", 2), ("over", 1)] := by decide +kernel
  obtain ⟨es, restarted, hes⟩ := listed_of_counts listed
  exact ⟨hw, ho, listed_of_counts (by decide +kernel), es, restarted, hes, same ▸ restarted, indistinct⟩

end BadgeEngine
