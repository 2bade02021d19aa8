/-
Calls that a hook may not make go unseen (`refusals_unseen`).

While an operation runs, whatever would begin another one is refused, before anything is changed. So a host whose hooks
leave out such calls, and go on as if they had been refused (`Setup.discreet`), sees the same in the same world. Hooks
are called only while an operation runs, and outside them nothing is ever refused: an operation that fails in this way
passes on what its host failed with (`Noted.failure?`).
-/
import BadgeEngine.Proofs.Order
import BadgeEngine.Proofs.Twins
import BadgeEngine.Rehearsal.Run

namespace BadgeEngine

open BadgeEngine.Rehearsal BadgeEngine.Time Run Setup

variable {σ α β : Type} {s : Setup σ} {u v w w' : World σ} {q : Request} {name : String} {busy : Bool}

/-! ## Refused calls -/

/-- the operation that a request would begin whatever the state is, by name; there is none when the reason for an end is
no reason -/
def Request.refusal? : Request → Option String
  | .operate op => some op.name
  | .endGameFor v =>
    match EndReason.ofValue v with
    | .ok r => some (Operation.endGame r).name
    | .error _ => none
  | _ => none

/-- while an operation runs, a call that would begin another one is refused, and changes nothing -/
theorem answerHook_refused {e : Engine} (hb : e.busy = true) (hq : q.refusal? = some name) (h : σ) :
    (s.answerHook q).Goes e h (.error (.reentrant name)) e h [] := by
  have refused : ∀ op, Goes (operation op (pure ()) : Run σ Answer) e h (.error (.reentrant op.name)) e h [] := by
    intro op older
    unfold operation
    rw [exec_bind]
    show exec (if e.busy then _ else _) _ = _
    rw [hb]
    rfl
  cases q with
  | operate op =>
    cases hq
    exact refused op
  | endGameFor v =>
    unfold Request.refusal? at hq
    cases hr : EndReason.ofValue v with
    | error e =>
      simp only [hr] at hq
      cases hq
    | ok r =>
      simp only [hr, Option.some.injEq] at hq
      subst hq
      have asked : s.answerHook (.endGameFor v) =
          (liftM (EndReason.ofValue v) : Run σ _) >>= fun r => operation (.endGame r) (pure ()) := rfl
      rw [asked, hr]
      exact refused _
  | _ => cases hq

/-- nor is a profile loaded that is there -/
theorem loadProfile_refused {s : Setup Desk} {e : Engine} (hb : e.busy = true) (rules : List Rule) {d : Desk} {id : String}
    {v : Value} (hv : d.profiles.get? id = some v) :
    ∃ ns, Goes (ofScript s.answerHook ((Command.loadProfile id).script rules d)) e d (.error (.reentrant "load_state"))
      e d ns := by
  have stored : (Profiles.database Value.same).stored id d.profiles = (.ok (some v), d.profiles) :=
    congrArg (fun x => (Except.ok x, d.profiles)) hv
  have script : (Command.loadProfile id).script rules d = .ask d (.operate (.load v)) fun d a =>
      .finish d ((a.map fun _ => Returned.found true).map Reply.ofReturned) := by
    simp only [Command.script, calling, Call.script, Desk.keeper, stored, Script.andThen]
  have refused : (s.answerHook (.operate (.load v))).Goes e d (.error (.reentrant "load_state")) e d [] :=
    answerHook_refused hb rfl d
  rw [script]
  exact ⟨_, .ask refused (.finish e d d _)⟩

/-! ## Discreet hosts -/

/-- a program without calls that are refused in a hook, which goes on as if they had been -/
def Script.discreet : Script σ α → Script σ α
  | .finish h r => .finish h r
  | .look next => .look fun st => (next st).discreet
  | .ask h q next =>
    match q.refusal? with
    | some name => (next h (.error (.reentrant name))).discreet
    | none => .ask h q fun h' a => (next h' a).discreet

/-- a host whose hooks make no call that is refused -/
def Setup.discreet (s : Setup σ) : Setup σ :=
  { s with hook := fun h k p => (s.hook h k p).map Script.discreet }

/-- a hook made a call that is refused -/
def Noted.isRefused (x : Noted) : Bool :=
  match x.note with
  | .turn (.ask q) => x.engine.busy && q.refusal?.isSome
  | _ => false

/-- notes without those of calls that were refused -/
def withoutRefused (ns : List Noted) : List Noted := ns.filter fun x => !x.isRefused

theorem withoutRefused_matching : Matching fun ns ms => ms = withoutRefused ns where
  nil := rfl
  append := by
    rintro ns _ ns' _ rfl rfl
    exact (List.filter_append ..).symm
  note x hx := by
    have seen : x.isRefused = false := by
      unfold Noted.isRefused
      unfold Note.isTurn at hx
      split
      case h_1 q hn => simp [hn] at hx
      case h_2 => rfl
    simp [withoutRefused, seen]

/-- programs that come to the same, the second with the notes of the first but for refused calls -/
abbrev Unseen (busy : Bool) (r r' : Run σ α) : Prop :=
  Mirrors (fun _ => True) (fun ns ms => ms = withoutRefused ns) busy r r'

/-- what a program of a hook comes to, it comes to without the calls that are refused, from any host: the first turn
that matters puts the host -/
theorem Script.discreet_goes (p : Script σ α) (e : Engine) (hb : e.busy = true) (h k : σ) :
    ∃ x e' h' ns, e'.busy = true ∧ Goes (ofScript s.answerHook p) e h x e' h' ns ∧
      Goes (ofScript s.answerHook p.discreet) e k x e' h' (withoutRefused ns) := by
  induction p generalizing e h k with
  | finish l x =>
    have kept : withoutRefused [⟨.turn (.ending x), e⟩] = [⟨.turn (.ending x), e⟩] := by cases x <;> rfl
    refine ⟨x, e, l, _, hb, .finish e h l x, ?_⟩
    rw [kept]
    exact .finish e k l x
  | look next ih =>
    obtain ⟨x, e', h', ns, hb', goes, goes'⟩ := ih e.state e hb h k
    have kept : withoutRefused (ns ++ [⟨.turn .look, e⟩]) = withoutRefused ns ++ [⟨.turn .look, e⟩] :=
      List.filter_append ..
    refine ⟨x, e', h', _, hb', goes.look, ?_⟩
    rw [kept]
    exact goes'.look
  | ask l q next ih =>
    cases hq : q.refusal? with
    | some name =>
      -- the call is refused, and the other program goes on at once
      obtain ⟨x, e', h', ns, hb', goes, goes'⟩ := ih l (.error (.reentrant name)) e hb l k
      have dropped : withoutRefused (ns ++ [] ++ [⟨.turn (.ask q), e⟩]) = withoutRefused ns := by
        simp [withoutRefused, Noted.isRefused, hb, hq]
      refine ⟨x, e', h', _, hb', .ask (answerHook_refused hb hq l) goes, ?_⟩
      rw [dropped]
      simp only [Script.discreet, hq]
      exact goes'
    | none =>
      have mirrors : Unseen true (s.answerHook q) (s.answerHook q) := Mirrors.answerHook withoutRefused_matching q
      obtain ⟨a, e₁, h₁, ns, hb₁, answered, same⟩ := mirrors e l hb
      obtain ⟨ms, hms, answered'⟩ := same fun _ _ => trivial
      obtain rfl := answered.notes_eq answered'
      obtain ⟨x, e', h', ns', hb', goes, goes'⟩ := ih h₁ a e₁ hb₁ h₁ h₁
      have kept : withoutRefused (ns' ++ ns ++ [⟨.turn (.ask q), e⟩]) =
          withoutRefused ns' ++ ns ++ [⟨.turn (.ask q), e⟩] := by
        unfold withoutRefused at hms ⊢
        rw [List.filter_append, List.filter_append, ← hms]
        simp [Noted.isRefused, hq]
      refine ⟨x, e', h', _, hb', .ask answered goes, ?_⟩
      rw [kept]
      simp only [Script.discreet, hq]
      exact .ask answered goes'

/-- an engine goes the same way under a discreet host -/
theorem discreet_unseen (s : Setup σ) (p : Script σ α) : Unseen false (s.play p) (s.discreet.play p) := by
  have hm := withoutRefused_matching
  have tell : ∀ k p, Unseen true (s.tell k p) (s.discreet.tell k p) := by
    refine Mirrors.tell hm (fun _ _ _ => rfl) fun q e h hb => ?_
    obtain ⟨x, e', h', ns, hb', goes, goes'⟩ := q.discreet_goes (s := s) e hb h h
    exact ⟨x, e', h', ns, hb', goes, fun _ => ⟨_, rfl, goes'⟩⟩
  have now : Unseen true s.now s.discreet.now := Mirrors.now hm
  have consider : ∀ props system r, Unseen true (s.consider props system r) (s.discreet.consider props system r) :=
    Mirrors.consider hm rfl now tell
  have pass : Unseen true s.pass s.discreet.pass :=
    (Mirrors.compatible hm).pass fun props system => (Mirrors.compatible hm).forM s.rules (consider props system)
  have parallel : Parallel (Unseen true) s s.discreet := ⟨rfl, now, tell, pass⟩
  refine Mirrors.play hm parallel rfl (fun d e hb => ?_) p
  have seen : (⟨.turn d, e⟩ : Noted).isRefused = false := by
    unfold Noted.isRefused
    split
    · simp [hb]
    · rfl
  simp [withoutRefused, seen]

/-! ## Outside hooks -/

/-- the problem that a note tells a host failed with -/
def Noted.failure? (x : Noted) : Option Problem :=
  match x.note with
  | .clock (.error p) | .judged _ (.error p) | .turn (.finish (some p)) => some p
  | _ => none

/-- since a world notes were taken, those of turns while an operation ran; what is said of a failure by way of a refusal
is that the host failed like this -/
structure Overseen (busy : Bool) (failed : Option Problem) (w w' : World σ) : Prop where
  busy : w'.engine.busy = busy
  notes : ∃ ns, w'.trace = ns ++ w.trace ∧ (∀ x ∈ ns, x.note.isTurn = true → x.engine.busy = true) ∧
    ∀ p, failed = some p → p.isRefusal = true → ∃ x ∈ ns, x.failure? = some p

namespace Overseen

variable {failed : Option Problem}

theorem trans (h : Overseen busy none u w) (h' : Overseen busy failed w w') : Overseen busy failed u w' := by
  obtain ⟨ns, hns, turns, -⟩ := h.notes
  obtain ⟨ms, hms, turns', blamed⟩ := h'.notes
  refine ⟨h'.busy, ms ++ ns, by rw [hms, hns, List.append_assoc], fun x hx => ?_, fun p hp hr => ?_⟩
  · exact (List.mem_append.1 hx).elim (turns' x) (turns x)
  · obtain ⟨x, hx, hf⟩ := blamed p hp hr
    exact ⟨x, List.mem_append_left _ hx, hf⟩

/-- nothing is noted, and nothing is refused -/
theorem still (hb : w'.engine.busy = busy) (ht : w'.trace = w.trace) (hf : ∀ p, failed = some p → p.isRefusal = false) :
    Overseen busy failed w w' := by
  refine ⟨hb, [], ht, fun x hx => absurd hx List.not_mem_nil, fun p hp hr => ?_⟩
  rw [hf p hp] at hr
  cases hr

theorem here (hb : w.engine.busy = busy) : Overseen busy none w w := still hb rfl nofun

/-- the host changes and a note is taken, of a turn only while an operation runs -/
theorem noted (hb : w.engine.busy = busy) (h : σ) {n : Note} (hn : n.isTurn = true → busy = true) :
    Overseen busy none w ((w.withHost h).noting n) := by
  refine ⟨hb, [⟨n, w.engine⟩], rfl, fun x hx ht => ?_, nofun⟩
  obtain rfl := List.mem_singleton.1 hx
  exact hb.trans (hn ht)

/-- the host changes and fails, and a note tells so -/
theorem blamed (hb : w.engine.busy = busy) (h : σ) {n : Note} (hn : n.isTurn = true → busy = true) {p : Problem}
    (hf : Noted.failure? ⟨n, w.engine⟩ = some p) : Overseen busy (some p) w ((w.withHost h).noting n) := by
  refine ⟨hb, [⟨n, w.engine⟩], rfl, fun x hx ht => ?_, ?_⟩
  · obtain rfl := List.mem_singleton.1 hx
    exact hb.trans (hn ht)
  · rintro _ ⟨⟩ -
    exact ⟨_, List.mem_singleton_self _, hf⟩

end Overseen

/-- notes without turns -/
theorem noTurn_matching : Matching fun ns _ => ∀ x ∈ ns, x.note.isTurn = false where
  nil x hx := absurd hx List.not_mem_nil
  append h h' x hx := (List.mem_append.1 hx).elim (h' x) (h x)
  note x hx y hy := by
    obtain rfl := List.mem_singleton.1 hy
    exact hx

/-- a program that fails by way of a refusal only when the host does -/
def Accounts (busy : Bool) (r : Run σ α) : Prop :=
  ∀ w, w.engine.busy = busy → r.leads w (fun _ => Overseen busy none w) (fun p => Overseen busy (some p) w)

namespace Accounts

theorem bind {r : Run σ β} {f : β → Run σ α} (hr : Accounts busy r) (hf : ∀ b, Accounts busy (f b)) :
    Accounts busy (r >>= f) := by
  intro w hb
  rw [leads_bind]
  refine (hr w hb).mono (fun b v hv => ?_) fun _ _ hv => hv
  exact (hf b v hv.busy).mono (fun _ _ hu => hv.trans hu) fun _ _ hu => hv.trans hu

/-- a step of an engine is none that is refused -/
theorem closed : Closed (σ := σ) (Accounts busy) where
  pure x w hb := (leads_pure x).2 (.here hb)
  bind := bind
  engine w hb := leads_engine.2 (.here hb)
  changeEngine f hf w hb := (leads_changeEngine f).2 (.still ((hf w.engine).trans hb) rfl nofun)
  note n hn w hb := (leads_note n).2 (.noted hb w.host fun h => nomatch hn.symm.trans h)
  ofExcept {_ x} hx w hb := by
    rw [leads_ofExcept]
    cases x with
    | ok a => exact .here hb
    | error e =>
      refine .still hb rfl ?_
      rintro _ ⟨⟩
      exact hx e rfl
  ensuring f hf hr w hb := by
    rw [leads_ensuring]
    exact (hr w hb).mono (fun _ v hv => ⟨(hf v.engine).trans hv.busy, hv.notes⟩)
      fun _ v hv => ⟨(hf v.engine).trans hv.busy, hv.notes⟩

theorem now : Accounts busy s.now := by
  intro w hb
  rw [leads_now]
  split
  · exact .noted hb _ (by nofun)
  · exact .blamed hb _ (by nofun) rfl

/-- a hook's program fails in its end only -/
theorem hookScript (p : Script σ α) : Accounts true (ofScript s.answerHook p) := by
  have turned : ∀ d, Accounts true (Run.note (.turn d) : Run σ Unit) :=
    fun d w hb => (leads_note _).2 (.noted hb w.host fun _ => rfl)
  induction p with
  | finish h x =>
    intro w hb
    simp only [ofScript, leads_bind, leads_note, leads_setHost, leads_ofExcept]
    cases x with
    | ok a => exact .noted hb h fun _ => rfl
    | error e => exact .blamed hb h (fun _ => rfl) rfl
  | look next ih => exact (turned _).bind fun _ => closed.state.bind fun st => ih st
  | ask h q next ih =>
    refine (turned _).bind fun _ w hb => ?_
    simp only [leads_bind, leads_setHost, leads_attempt, leads_host]
    have answered : (s.answerHook q).leads (w.withHost h) (fun _ => Overseen true none w)
        (fun _ => Overseen true none w) := by
      obtain ⟨x, e', h', ns, hb', goes, plain⟩ := (Mirrors.answerHook noTurn_matching q : Mirrors (fun _ => True) _ true
        (s.answerHook q) (s.answerHook q)) w.engine h hb
      obtain ⟨-, plain, -⟩ := plain fun _ _ => trivial
      refine leads_const.2 ⟨?_, ns, ?_, fun y hy ht => ?_, fun _ hp => by cases hp⟩
      · exact (congrArg (fun p => p.2.engine.busy) (goes w.trace)).trans hb'
      · exact congrArg (fun p => p.2.trace) (goes w.trace)
      · rw [plain y hy] at ht
        cases ht
    have next : ∀ {x : Except Problem Answer} {v : World σ}, Overseen true none w v →
        (ofScript s.answerHook (next v.host x)).leads v (fun _ => Overseen true none w)
          (fun p => Overseen true (some p) w) :=
      fun hv => (ih _ _ _ hv.busy).mono (fun _ _ hu => hv.trans hu) fun _ _ hu => hv.trans hu
    exact answered.mono (fun _ _ hv => next hv) fun _ _ hv => next hv

theorem tell (k : Hook) (p : Payload) : Accounts true (s.tell k p) := by
  intro w hb
  simp only [Setup.tell, leads_bind, leads_host]
  cases s.hook w.host k p with
  | none => exact closed.pure () w hb
  | some script => exact (closed.note (.told k p) rfl).bind (fun _ => hookScript script) w hb

theorem consider (props system : Props) (r : Rule) : Accounts true (s.consider props system r) := by
  intro w hb
  cases hr : r.active with
  | false =>
    unfold Setup.consider
    rw [hr]
    exact (leads_pure ()).2 (.here hb)
  | true =>
    rcases judged : s.judge w.host ⟨props, system, w.engine.state.ledger⟩ r.condition with ⟨verdict, h⟩
    rw [leads_consider hr judged]
    unfold heed
    rw [leads_bind, leads_ofExcept]
    let v := (w.withHost h).noting (.judged r.id verdict)
    have noted : Overseen true none w v := .noted hb h (by nofun)
    have after : ∀ {f : Run σ Unit}, Accounts true f →
        f.leads v (fun _ => Overseen true none w) (fun p => Overseen true (some p) w) :=
      fun hf => (hf v hb).mono (fun _ _ hu => noted.trans hu) fun _ _ hu => noted.trans hu
    rcases verdict with p | message | _ | _
    · exact .blamed hb h (by nofun) rfl
    · exact after (closed.reportFailure tell r message)
    · exact after (closed.pure ())
    · exact after (closed.award now tell r)

theorem perform (op : Operation) : Accounts true (s.perform op) := closed.perform now tell consider op

/-- an operation is begun when none runs -/
theorem operation {op : Operation} {body : Run σ Unit} (hr : Accounts true body) : Accounts false (operation op body) := by
  intro w hb
  unfold Setup.operation
  simp only [leads_bind, leads_engine, hb, Bool.false_eq_true, if_false, leads_pure, leads_changeEngine, leads_ensuring]
  let v := w.withEngine { w.engine with running := some op, news := [], rolled := {} }
  exact (hr v rfl).mono (fun _ u hu => ⟨rfl, hu.notes⟩) fun _ u hu => ⟨rfl, hu.notes⟩

theorem answer (q : Request) : Accounts false (s.answer q) :=
  closed.answerWith now (fun op => operation (perform op)) q

end Accounts

/-- **Refused calls.** While an operation runs, a call that would begin another one is refused and changes nothing, and
so is the load of a profile that is there. Outside hooks no call is refused: none runs then, hooks go on only while one
does, and a call that fails by way of a refusal passes on what the host failed with. So an engine goes the same way,
and the same is noted, if hooks leave out the calls that are refused. -/
theorem refusals_unseen (s : Setup σ) :
    (∀ (w : World σ) q name, w.engine.busy = true → q.refusal? = some name →
      (s.answerHook q).exec w = (.error (.reentrant name), w)) ∧
    (∀ (s : Setup Desk) (w : World Desk) rules id v, w.engine.busy = true → w.host.profiles.get? id = some v →
      ∃ ns, exec (ofScript s.answerHook ((Command.loadProfile id).script rules w.host)) w =
        (.error (.reentrant "load_state"), { w with trace := ns ++ w.trace })) ∧
    (∀ (w : World σ) q, w.engine.busy = false → ((s.answer q).exec w).2.engine.busy = false ∧
      ∃ ns, ((s.answer q).exec w).2.trace = ns ++ w.trace ∧
        (∀ x ∈ ns, x.note.isTurn = true → x.engine.busy = true) ∧
        ∀ p, ((s.answer q).exec w).1 = .error p → p.isRefusal = true → ∃ x ∈ ns, x.failure? = some p) ∧
    ∀ w : World σ, w.engine.busy = false → ∀ {α : Type} (p : Script σ α), ∃ x e h ns,
      (s.play p).exec w = (x, ⟨e, h, ns ++ w.trace⟩) ∧
        (s.discreet.play p).exec w = (x, ⟨e, h, withoutRefused ns ++ w.trace⟩) := by
  refine ⟨fun w q name hb hq => ?_, fun s w rules id v hb hv => ?_, fun w q hb => ?_, fun w hb α p => ?_⟩
  · exact answerHook_refused hb hq w.host w.trace
  · obtain ⟨ns, goes⟩ := loadProfile_refused (s := s) hb rules hv
    exact ⟨ns, goes w.trace⟩
  · have accounts := leads_iff.1 (Accounts.answer (s := s) q w hb)
    cases hx : ((s.answer q).exec w).1 with
    | ok a =>
      obtain ⟨idle, ns, hns, turns, -⟩ := accounts.1 a hx
      exact ⟨idle, ns, hns, turns, nofun⟩
    | error e =>
      obtain ⟨idle, ns, hns, turns, blamed⟩ := accounts.2 e hx
      refine ⟨idle, ns, hns, turns, ?_⟩
      rintro _ ⟨⟩
      exact blamed e rfl
  · obtain ⟨x, e, h, ns, -, goes, same⟩ := discreet_unseen s p w.engine w.host hb
    obtain ⟨_, rfl, goes'⟩ := same fun _ _ => trivial
    exact ⟨x, e, h, ns, goes w.trace, goes' w.trace⟩

/-- an engine with a badge that is earned at once -/
def eager : Setup Desk := setupOf [{ id := "a", condition := "true" }] (.fixed 0) []

/-- a desk whose hook for badges asks for an evaluation and for a profile, and passes over the problems -/
def meddlingDesk : Desk where
  clock := { now := ⟨july 930, none⟩ }
  hooks := [⟨.badgeEarned, { actions := [(.request (.operate .evaluate), true), (.loadProfile "p", true)] }, 0⟩]
  profiles := .put "p" .null .empty

def evaluating : Script Desk Answer := .ask meddlingDesk (.operate .evaluate) fun d a => .finish d a

/-- the badge is earned while two calls are refused, and as well when they are not made -/
theorem meddling_unseen :
    (eager.answerHook (.operate .evaluate)).exec { engine := { running := some .evaluate }, host := meddlingDesk } =
      (.error (.reentrant "evaluate"), { engine := { running := some .evaluate }, host := meddlingDesk }) ∧
    ∃ x e h ns, (eager.play evaluating).exec { host := meddlingDesk } = (x, ⟨e, h, ns ++ []⟩) ∧
      (eager.discreet.play evaluating).exec { host := meddlingDesk } = (x, ⟨e, h, withoutRefused ns ++ []⟩) ∧
      (ns.filter Noted.isRefused).length = 2 ∧ e.state.ledger.entries.map (·.id) = ["a"] := by
  obtain ⟨refused, -, -, unseen⟩ := refusals_unseen eager
  obtain ⟨x, e, h, ns, run, run'⟩ := unseen { host := meddlingDesk } rfl evaluating
  have calls : (((eager.play evaluating).exec { host := meddlingDesk }).2.trace.filter Noted.isRefused).length = 2 := by
    decide +kernel
  have earned : ((eager.play evaluating).exec { host := meddlingDesk }).2.engine.state.ledger.entries.map (·.id) =
      ["a"] := by decide +kernel
  rw [run] at calls earned
  rw [List.append_nil] at calls
  exact ⟨refused _ _ _ rfl rfl, x, e, h, ns, run, run', calls, earned⟩

end BadgeEngine
