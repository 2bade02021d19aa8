/-
Bookmarks by the notes. A host sets a bookmark by a request, after which the clock is read and shows an instant, and
clears it by another; an engine sets and clears none of its own. So whether a bookmark is set, and to which instant, can
be told from the notes that were taken before (`sinceMark`), at every note of a run that loads no state (`play_marked`).
-/
import BadgeEngine.Proofs.Reentrancy

namespace BadgeEngine

open BadgeEngine.Time Relation Run Setup

variable {σ α β : Type} {s : Setup σ} {w w' : World σ} {q : Request} {trace older : List Noted} {x : Noted}

/-! ## Bookmarks in notes -/

namespace Noted

def marks (name : String) (x : Noted) : Bool :=
  match x.note with
  | .turn (.ask (.setBookmark n)) => n = name
  | _ => false

def clears (name : String) (x : Noted) : Bool :=
  match x.note with
  | .turn (.ask (.clearBookmark n)) => n = name
  | _ => false

/-- the clock was read, and has shown an instant -/
def isShowing (x : Noted) : Bool :=
  match x.note with
  | .clock (.ok _) => true
  | _ => false

end Noted

/-- the notes since a bookmark was set: since the clock has shown an instant for the last request to set it that came to
one; none when it was never set, or was cleared since -/
def sinceMark (name : String) : List Noted → Option (List Noted)
  | [] => none
  | x :: older =>
    if x.clears name then none
    else if x.isShowing && older.head?.any (Noted.marks name) then some []
    else (sinceMark name older).map (x :: ·)

/-- bookmarks are as the notes tell: those that are set are at the instants that were shown when they were set -/
def MarkedBy (b : Bookmarks) (trace : List Noted) : Prop :=
  ∀ name, match sinceMark name trace with
    | none => b.get? name = none
    | some ns => ∃ x older t, trace = ns ++ x :: older ∧ x.shows t ∧ b.get? name = some t

theorem sinceMark_cons {name : String} (hc : x.clears name = false)
    (hs : (x.isShowing && older.head?.any (Noted.marks name)) = false) :
    sinceMark name (x :: older) = (sinceMark name older).map (x :: ·) := by
  rw [sinceMark, hc, hs]
  rfl

/-- a note that sets and clears no bookmark leaves them as they are told -/
theorem MarkedBy.cons_name {b b' : Bookmarks} {name : String} (h : MarkedBy b older) (hc : x.clears name = false)
    (hs : (x.isShowing && older.head?.any (Noted.marks name)) = false) (hb : b'.get? name = b.get? name) :
    match sinceMark name (x :: older) with
    | none => b'.get? name = none
    | some ns => ∃ y oldest t, x :: older = ns ++ y :: oldest ∧ y.shows t ∧ b'.get? name = some t := by
  have told := h name
  rw [sinceMark_cons hc hs, hb]
  cases hn : sinceMark name older with
  | none =>
    rw [hn] at told
    exact told
  | some ns =>
    rw [hn] at told
    obtain ⟨y, oldest, t, rfl, hy, hget⟩ := told
    exact ⟨y, oldest, t, rfl, hy, hget⟩

theorem MarkedBy.cons {b : Bookmarks} (h : MarkedBy b older) (hc : ∀ name, x.clears name = false)
    (hs : ∀ name, (x.isShowing && older.head?.any (Noted.marks name)) = false) : MarkedBy b (x :: older) :=
  fun name => h.cons_name (hc name) (hs name) rfl

theorem MarkedBy.clear {b : Bookmarks} {name : String} (h : MarkedBy b older) (e : Engine) :
    MarkedBy (b.clear name) (⟨.turn (.ask (.clearBookmark name)), e⟩ :: older) := by
  intro other
  by_cases ho : other = name
  · subst ho
    simp [sinceMark, Noted.clears, Bookmarks.clear, Bookmarks.get?, Entries.lookup_remove]
  · refine h.cons_name (by simpa [Noted.clears] using Ne.symm ho) rfl ?_
    simp [Bookmarks.clear, Bookmarks.get?, Entries.lookup_remove, ho]

theorem MarkedBy.set {b : Bookmarks} {name : String} {t : Instant} {e e' : Engine} (h : MarkedBy b older) :
    MarkedBy (b.set name t) (⟨.clock (.ok t), e⟩ :: ⟨.turn (.ask (.setBookmark name)), e'⟩ :: older) := by
  have asked : MarkedBy b (⟨.turn (.ask (.setBookmark name)), e'⟩ :: older) := h.cons (fun _ => rfl) fun _ => rfl
  intro other
  by_cases ho : other = name
  · subst ho
    have set : sinceMark other (⟨.clock (.ok t), e⟩ :: ⟨.turn (.ask (.setBookmark other)), e'⟩ :: older) = some [] := by
      simp [sinceMark, Noted.clears, Noted.marks, Noted.isShowing]
    rw [set]
    exact ⟨_, _, t, rfl, rfl, Entries.lookup_put_self ..⟩
  · refine asked.cons_name rfl ?_ (Entries.lookup_put_of_ne ho ..)
    simpa [Noted.marks, Noted.isShowing] using Ne.symm ho

/-! ## Worlds -/

/-- bookmarks are as the notes tell, now and at every note; no request for a bookmark waits for the clock -/
structure Marked (w : World σ) : Prop where
  now : MarkedBy w.engine.state.bookmarks w.trace
  always : Throughout (fun x older => MarkedBy x.engine.state.bookmarks older) w.trace
  settled : ∀ name, w.trace.head?.any (Noted.marks name) = false

namespace Marked

theorem new (h : σ) : Marked ({ host := h } : World σ) where
  now _ := rfl
  always := .nil
  settled _ := rfl

theorem withEngine (hw : Marked w) {e : Engine} (he : e.state.bookmarks = w.engine.state.bookmarks) :
    Marked (w.withEngine e) :=
  ⟨he ▸ hw.now, hw.always, hw.settled⟩

theorem withHost (hw : Marked w) (h : σ) : Marked (w.withHost h) := ⟨hw.now, hw.always, hw.settled⟩

theorem noting (hw : Marked w) {n : Note} (hc : ∀ name, (⟨n, w.engine⟩ : Noted).clears name = false)
    (hm : ∀ name, (⟨n, w.engine⟩ : Noted).marks name = false) : Marked (w.noting n) where
  now := hw.now.cons hc fun name => by rw [hw.settled name, Bool.and_false]
  always := hw.always.cons hw.now
  settled := hm

/-- a bookmark is cleared -/
theorem clear (hw : Marked w) (name : String) : Marked ((w.noting (.turn (.ask (.clearBookmark name)))).withState
    { w.engine.state with bookmarks := w.engine.state.bookmarks.clear name }) where
  now := hw.now.clear w.engine
  always := hw.always.cons hw.now
  settled _ := rfl

/-- a bookmark is set to the instant that the clock shows -/
theorem set (hw : Marked w) (name : String) (t : Instant) :
    Marked (((w.noting (.turn (.ask (.setBookmark name)))).noting (.clock (.ok t))).withState
      { w.engine.state with bookmarks := w.engine.state.bookmarks.set name t }) where
  now := hw.now.set
  always := (hw.always.cons hw.now).cons (hw.now.cons (fun _ => rfl) fun _ => rfl)
  settled _ := rfl

/-- the clock fails when a bookmark is to be set -/
theorem unset (hw : Marked w) (name : String) (e : Problem) :
    Marked ((w.noting (.turn (.ask (.setBookmark name)))).noting (.clock (.error e))) where
  now := (hw.now.cons (fun _ => rfl) fun _ => rfl).cons (fun _ => rfl) fun _ => rfl
  always := (hw.always.cons hw.now).cons (hw.now.cons (fun _ => rfl) fun _ => rfl)
  settled _ := rfl

end Marked

/-! ## Programs -/

/-- a program that leaves bookmarks as the notes tell -/
def KeepsMarks (r : Run σ α) : Prop := r.within fun w w' => Marked w → Marked w'

namespace KeepsMarks

theorem bind {r : Run σ β} {f : β → Run σ α} (hr : KeepsMarks r) (hf : ∀ b, KeepsMarks (f b)) : KeepsMarks (r >>= f) :=
  within.bind (fun _ _ _ h h' hw => h' (h hw)) hr hf

/-- a note of no request for a bookmark -/
theorem note {n : Note} (h : ∀ e name, (⟨n, e⟩ : Noted).clears name = false ∧ (⟨n, e⟩ : Noted).marks name = false) :
    KeepsMarks (Run.note n : Run σ Unit) :=
  fun w => (leads_note n).2 fun hw => hw.noting (fun name => (h w.engine name).1) fun name => (h w.engine name).2

theorem host (h : σ) : KeepsMarks (Run.setHost h) := fun _ => (leads_setHost h).2 fun hw => hw.withHost h

theorem ofExcept (x : Except Problem α) : KeepsMarks (liftM x : Run σ α) := by
  intro w
  rw [leads_ofExcept]
  cases x <;> exact id

/-- an operation leaves bookmarks alone, and takes no note of a request -/
theorem outlined : Outlined (σ := σ) fun r _ => KeepsMarks r where
  pure x w := (leads_pure x).2 id
  bind := bind
  see f w := by
    unfold Run.see
    rw [leads_bind, leads_engine, leads_pure]
    exact id
  redraw f hf w := (leads_changeEngine f).2 fun hw => hw.withEngine (hf.bookmarks w.engine)
  ofExcept {_ x} _ := ofExcept x
  note n hn := note fun e name => by
    cases n with
    | turn d => cases hn
    | _ => exact ⟨rfl, rfl⟩
  ensuring f hf hr w := by
    rw [leads_ensuring]
    exact (hr w).imp fun v hv hw => (hv hw).withEngine (hf.bookmarks v.engine)

theorem now : KeepsMarks s.now := by
  intro w
  rw [leads_now]
  have read : ∀ r, Marked w → Marked ((w.withHost (s.clock w.host).2).noting (.clock r)) := fun r hw =>
    (hw.withHost _).noting (fun _ => rfl) fun _ => rfl
  split <;> exact read _

/-- a host makes a request: a bookmark that it asks for is set or cleared before anything else is noted -/
theorem ask {body : Operation → Run σ Unit} (h : σ) (q : Request)
    (unmarked : q.isMark = false → KeepsMarks (s.answerWith body q)) :
    KeepsMarks (do Run.note (.turn (.ask q)); Run.setHost h; attempt (s.answerWith body q)) := by
  have other : (∀ e name, (⟨.turn (.ask q), e⟩ : Noted).clears name = false ∧
      (⟨.turn (.ask q), e⟩ : Noted).marks name = false) → q.isMark = false →
      KeepsMarks (do Run.note (.turn (.ask q)); Run.setHost h; attempt (s.answerWith body q)) := by
    refine fun hn hq => (note hn).bind fun _ => (host h).bind fun _ w => ?_
    rw [leads_attempt]
    exact unmarked hq w
  cases q with
  | setBookmark name =>
    intro w
    simp only [leads_bind, leads_note, leads_setHost, leads_attempt, answerWith, leads_now, leads_change, leads_pure]
    split
    case _ t _ => exact fun hw => (hw.set name t).withHost _
    case _ e _ => exact fun hw => (hw.unset name e).withHost _
  | clearBookmark name =>
    intro w
    simp only [leads_bind, leads_note, leads_setHost, leads_attempt, answerWith, leads_change, leads_pure]
    exact fun hw => (hw.clear name).withHost h
  | _ => exact other (fun _ _ => ⟨rfl, rfl⟩) rfl

/-- a program of the host is answered -/
theorem ofScript {body : Operation → Run σ Unit} (unmarked : ∀ q, q.isMark = false → KeepsMarks (s.answerWith body q))
    (p : Script σ α) : KeepsMarks (Run.ofScript (s.answerWith body) p) := by
  refine within_script (fun _ _ _ h h' hw => h' (h hw)) (note fun _ _ => ⟨rfl, rfl⟩) (fun h q => ask h q (unmarked q))
    (fun h r => (note fun _ _ => ?_).bind fun _ => (host h).bind fun _ => ofExcept r) p
  cases r <;> exact ⟨rfl, rfl⟩

theorem operation {op : Operation} {body : Run σ Unit} (hr : KeepsMarks body) : KeepsMarks (operation op body) := by
  intro w
  cases hb : w.engine.busy with
  | true => exact (leads_operation_busy hb).2 id
  | false =>
    unfold Setup.operation
    simp only [leads_bind, leads_engine, hb, Bool.false_eq_true, if_false, leads_pure, leads_changeEngine, leads_ensuring]
    have entered : Marked w → Marked (w.entering op) := fun hw => hw.withEngine rfl
    exact (hr (w.entering op)).imp fun v hv hw => (hv (entered hw)).withEngine rfl

/-- a request about no bookmark, up to the operation that it begins -/
theorem unmarked {body : Operation → Run σ Unit} (hq : q.isMark = false)
    (run : ∀ op, q.Asks op → KeepsMarks (body op)) : KeepsMarks (s.answerWith body q) :=
  @Seeing.answerUnmarked σ s s _ outlined.toSeeing (fun r _ => KeepsMarks r) id bind body body q hq
    fun op hop => operation (run op hop)

theorem tell (k : Hook) (p : Payload) : KeepsMarks (s.tell k p) := by
  intro w
  simp only [Setup.tell, leads_bind, leads_host]
  cases s.hook w.host k p with
  | none => exact outlined.pure () w
  | some script =>
    refine (note (n := .told k p) fun _ _ => ⟨rfl, rfl⟩).bind (fun _ => ofScript (fun q hq => ?_) script) w
    exact unmarked hq fun _ _ => outlined.pure ()

theorem award (r : Rule) : KeepsMarks (s.award r) := by
  unfold Setup.award
  refine bind (fun w => (leads_state).2 id) fun st => now.bind fun t => bind (fun w => (leads_state).2 id) fun st' => ?_
  split
  · exact note fun _ _ => ⟨rfl, rfl⟩
  · refine bind (fun w => (leads_change _).2 fun hw => hw.withEngine rfl) fun _ => ?_
    refine bind (fun w => (leads_changeEngine _).2 fun hw => hw.withEngine rfl) fun _ => ?_
    exact (note fun _ _ => ⟨rfl, rfl⟩).bind fun _ => tell _ _

theorem consider (props system : Props) (r : Rule) : KeepsMarks (s.consider props system r) := by
  intro w
  cases hr : r.active with
  | false =>
    rw [consider_of_inactive hr]
    exact outlined.pure () w
  | true =>
    rcases judged : s.judge w.host ⟨props, system, w.engine.state.ledger⟩ r.condition with ⟨verdict, h⟩
    rw [leads_consider hr judged]
    have heeded : KeepsMarks (s.heed r verdict) := by
      refine bind (ofExcept verdict) fun v => ?_
      rcases v with message | _ | _
      · exact (note fun _ _ => ⟨rfl, rfl⟩).bind fun _ => tell _ _
      · exact outlined.pure ()
      · exact award r
    exact (heeded _).imp fun v hv hw => hv ((hw.withHost h).noting (fun _ => rfl) fun _ => rfl)

/-- an operation that loads no state -/
theorem perform {op : Operation} (hop : op.isLoad = false) : KeepsMarks (s.perform op) := by
  have rules : ∀ props system, KeepsMarks (s.rules.forM (s.consider props system)) := fun props system =>
    @Seeing.forM σ Rule _ outlined.toSeeing (s.consider props system) (s.consider props system) s.rules
      (consider props system)
  have pass : KeepsMarks s.pass := @Outlined.pass σ s s _ outlined rules
  exact @Parallel.unloading σ s s _ outlined ⟨rfl, now, tell, pass⟩ op hop

/-- a request outside hooks that loads no state, with its note -/
theorem asked (h : σ) {q : Request} (hq : q.isLoad = false) :
    KeepsMarks (do Run.note (.turn (.ask q)); Run.setHost h; attempt (s.answer q)) :=
  ask h q fun hm => unmarked hm fun _ hop => perform (hop.not_load hq)

end KeepsMarks

/-! ## Runs without a load -/

/-- a host asks outside hooks for a state to be loaded -/
def Noted.loads (x : Noted) : Bool :=
  match x.note with
  | .turn (.ask q) => q.isLoad && !x.engine.busy
  | _ => false

/-- what a program of the host does outside hooks: no operation runs after it, and unless it loads a state, it goes by
moves and leaves bookmarks as the notes tell -/
def Played (s : Setup σ) (w w' : World σ) : Prop :=
  w.engine.busy = false → w'.engine.busy = false ∧ ∃ ns, w'.trace = ns ++ w.trace ∧
    ((∀ x ∈ ns, x.loads = false) → Moves s w w' ∧ (Marked w → Marked w'))

namespace Played

theorem trans ⦃u v w : World σ⦄ (h : Played s u v) (h' : Played s v w) : Played s u w := by
  intro hu
  obtain ⟨hv, ns, hns, kept⟩ := h hu
  obtain ⟨hw, ms, hms, kept'⟩ := h' hv
  refine ⟨hw, ms ++ ns, by rw [hms, hns, List.append_assoc], fun hl => ?_⟩
  obtain ⟨moves, marked⟩ := kept fun x hx => hl x (List.mem_append_right _ hx)
  obtain ⟨moves', marked'⟩ := kept' fun x hx => hl x (List.mem_append_left _ hx)
  exact ⟨moves.trans moves', fun hm => marked' (marked hm)⟩

/-- a turn that asks for nothing -/
theorem turn {d : Deed} (hc : ∀ e name, (⟨.turn d, e⟩ : Noted).clears name = false ∧
    (⟨.turn d, e⟩ : Noted).marks name = false) (w : World σ) (h : σ) : Played s w ((w.noting (.turn d)).withHost h) := by
  refine fun hb => ⟨hb, [⟨.turn d, w.engine⟩], rfl, fun _ => ⟨?_, fun hm => ?_⟩⟩
  · exact .head (.rule (.hook (.remarked w (.turn d) rfl))) (.single (.rule (.hook (.host _ h))))
  · exact (hm.noting (fun name => (hc _ name).1) fun name => (hc _ name).2).withHost h

/-- a request outside hooks, with its note -/
theorem ask (h : σ) (q : Request) :
    (do Run.note (.turn (.ask q)); Run.setHost h; attempt (s.answer q) : Run σ _).within (Played s) := by
  intro w
  let u := (w.noting (.turn (.ask q))).withHost h
  have shape : exec (do Run.note (.turn (.ask q)); Run.setHost h; attempt (s.answer q)) w =
      (.ok ((s.answer q).exec u).1, ((s.answer q).exec u).2) := rfl
  refine leads_const.2 fun hb => ?_
  rw [shape]
  cases hq : q.isLoad with
  | false =>
    obtain ⟨moves, idle⟩ := leads_const.1 (answer_moves (s := s) hq u) hb
    have all : Moves s w ((s.answer q).exec u).2 :=
      .head (.rule (.hook (.remarked w (.turn (.ask q)) rfl))) (.head (.rule (.hook (.host _ h))) moves)
    have marked := leads_const.1 (KeepsMarks.asked (s := s) h hq w)
    rw [shape] at marked
    obtain ⟨ns, hns⟩ := Moves.suffix all
    exact ⟨idle, ns, hns.symm, fun _ => ⟨all, marked⟩⟩
  | true =>
    have seen : (s.answer q).leads u (fun _ v => v.engine.busy = false ∧ ∃ ns, v.trace = ns ++ u.trace)
        fun _ v => v.engine.busy = false ∧ ∃ ns, v.trace = ns ++ u.trace :=
      (Accounts.answer (s := s) q u hb).mono (fun _ v hv => ⟨hv.busy, hv.notes.imp fun _ hn => hn.1⟩)
        fun _ v hv => ⟨hv.busy, hv.notes.imp fun _ hn => hn.1⟩
    obtain ⟨idle, ns, hns⟩ := leads_const.1 seen
    refine ⟨idle, ns ++ [⟨.turn (.ask q), w.engine⟩], by rw [hns, List.append_assoc]; rfl, fun hl => ?_⟩
    have loaded : (⟨.turn (.ask q), w.engine⟩ : Noted).loads = true := by simp [Noted.loads, hq, hb]
    exact absurd loaded (by rw [hl _ (List.mem_append_right _ (List.mem_singleton_self _))]; nofun)

theorem play (p : Script σ α) : (s.play p).within (Played s) := by
  refine within_script trans (fun w => ?_) ask (fun h r w => ?_) p
  · exact (leads_note _).2 (turn (fun _ _ => ⟨rfl, rfl⟩) w w.host)
  · have ended : Played s w ((w.noting (.turn (.ending r))).withHost h) :=
      turn (fun _ _ => by cases r <;> exact ⟨rfl, rfl⟩) w h
    simp only [leads_bind, leads_note, leads_setHost, leads_ofExcept]
    cases r <;> exact ended

end Played

/-- **Bookmarks.** A program that a host plays on a new engine, and that loads no state, goes by moves, and at every
note of it bookmarks are as the notes before it tell. -/
theorem play_marked (p : Script σ α) (h : σ)
    (hl : ∀ x ∈ ((s.play p).exec { host := h }).2.trace, x.loads = false) :
    Moves s { host := h } ((s.play p).exec { host := h }).2 ∧ Marked ((s.play p).exec { host := h }).2 := by
  obtain ⟨-, ns, hns, kept⟩ := leads_const.1 (Played.play (s := s) p { host := h }) rfl
  rw [List.append_nil] at hns
  exact (kept fun x hx => hl x (hns ▸ hx)).imp_right fun marked => marked (.new h)

end BadgeEngine
