/-
Rules that ask neither for badges nor for chance may stand in any order (`any_order`).

A match reads the clock once, whether it makes an entry or is held back. So where the conditions do not look into the
ledger, what an engine does but for its ledger does not depend on the order of the rules (`Abreast`): the clock is read
as often, and in the same windows the same rules were found to hold. Under a clock that ticks this tells what the ledger
counts (`Tally`), though each entry bears another instant.
-/
import BadgeEngine.Proofs.AwardCap
import BadgeEngine.Proofs.Awards
import BadgeEngine.Proofs.Evolution
import BadgeEngine.Proofs.Expression
import BadgeEngine.Proofs.OncePerWindow
import BadgeEngine.Proofs.Reload

namespace BadgeEngine

open BadgeEngine.Time Run Setup Ledger
open scoped List

variable {σ α β : Type} {s : Setup σ} {props system : Props} {u v w w' : World σ} {r : Rule} {rules rules' : List Rule}
  {trace trace' : List Noted}

/-! ## Hosts -/

/-- a host without hooks whose clock shows what stands at its place in a sequence and moves on by one -/
structure Sequenced (s : Setup σ) (place : σ → Nat) (shown : Nat → Except Problem Reading) : Prop where
  clock : ∀ h, (s.clock h).1 = shown (place h)
  moves : ∀ h, place (s.clock h).2 = place h + 1
  stays : ∀ h c condition, place (s.judge h c condition).2 = place h
  hook : ∀ h k p, s.hook h k p = none

/-- what a verdict tells but for the text of a message: nothing if judging breaks off, and neither true nor false if the
condition fails -/
def gist : Except Problem (Except String Bool) → Option (Option Bool)
  | .error _ => none
  | .ok (.error _) => some none
  | .ok (.ok b) => some (some b)

/-- verdicts on some rules, by the properties of a pass, whatever the ledger -/
def Rulings (s : Setup σ) (props system : Props) (rules : List Rule) (ruling : Rule → Option (Option Bool)) : Prop :=
  ∀ r ∈ rules, ∀ h ledger, gist (s.judge h ⟨props, system, ledger⟩ r.condition).1 = ruling r

/-- an engine with its rules in another order -/
def Setup.ordered (s : Setup σ) (rules : List Rule) : Setup σ := { s with rules }

/-- an evaluation broke off, or the clock failed -/
def Noted.breaks (x : Noted) : Bool :=
  match x.note with
  | .judged _ (.error _) | .clock (.error _) => true
  | _ => false

/-! ## One pass -/

section Pass

variable (place : σ → Nat) (shown : Nat → Except Problem Reading) (ruling : Rule → Option (Option Bool))

/-- what the clock shows at a place -/
def readAt (k : Nat) : Except Problem Instant := (shown k).bind instantOf

/-- a rule is active, and its condition holds -/
def hits (r : Rule) : Bool :=
  r.active && ruling r = some (some true)

/-- rules can be passed over from a place on: no evaluation breaks off, and the clock shows an instant to each match -/
structure Passable (rules : List Rule) (k : Nat) : Prop where
  judged : ∀ r ∈ rules, r.active = true → ruling r ≠ none
  read : ∀ j ∈ List.range' k (rules.countP (hits ruling)), ∀ e, readAt shown j ≠ .error e

/-- a world after rules were passed over: the clock was read for each match, and where one was the first of its window,
this counts one more -/
structure Passed (rules : List Rule) (w w' : World σ) : Prop where
  outline : w'.engine.outline = w.engine.outline
  moved : place w'.host = place w.host + rules.countP (hits ruling)
  readings : readings w'.trace =
    ((List.range' (place w.host) (rules.countP (hits ruling))).map (readAt shown)).reverse ++ readings w.trace
  matched : ∀ r, matchedWindows r w'.trace = matchedWindows r w.trace +
    if (rules.any fun r' => hits ruling r' && r'.id = r.id) && !inWindow r w.trace then 1 else 0
  found : ∀ r, inWindow r w'.trace =
    (inWindow r w.trace || rules.any fun r' => hits ruling r' && r'.id = r.id)

variable {place shown ruling}

theorem Passed.perm (h : Passed place shown ruling rules w w') (hp : rules' ~ rules) :
    Passed place shown ruling rules' w w' where
  outline := h.outline
  moved := by rw [hp.countP_eq, h.moved]
  readings := by rw [hp.countP_eq, h.readings]
  matched r := by rw [hp.any_eq, h.matched]
  found r := by rw [hp.any_eq, h.found]

theorem Passable.perm {k : Nat} (h : Passable shown ruling rules k) (hp : rules' ~ rules) :
    Passable shown ruling rules' k where
  judged r hr := h.judged r (hp.mem_iff.1 hr)
  read := by
    rw [hp.countP_eq]
    exact h.read

theorem Passed.nil (w : World σ) : Passed place shown ruling [] w w := by
  constructor <;> simp

theorem Passed.append (h : Passed place shown ruling rules u w)
    (h' : Passed place shown ruling rules' w w') :
    Passed place shown ruling (rules ++ rules') u w' where
  outline := h'.outline.trans h.outline
  moved := by rw [h'.moved, h.moved, List.countP_append, Nat.add_assoc]
  readings := by
    rw [h'.readings, h.readings, h.moved, List.countP_append, ← List.range'_append_1, List.map_append, List.reverse_append,
      List.append_assoc]
  matched r := by
    rw [h'.matched, h.matched, h.found, List.any_append]
    cases inWindow r u.trace <;> cases rules.any fun r' => hits ruling r' && r'.id = r.id <;> simp
  found r := by rw [h'.found, h.found, List.any_append, Bool.or_assoc]

theorem passable_append {k : Nat} : Passable shown ruling (rules ++ rules') k ↔
    Passable shown ruling rules k ∧
      Passable shown ruling rules' (k + rules.countP (hits ruling)) := by
  constructor
  · intro h
    refine ⟨⟨fun r hr => h.judged r (List.mem_append_left _ hr), fun j hj => h.read j ?_⟩,
      ⟨fun r hr => h.judged r (List.mem_append_right _ hr), fun j hj => h.read j ?_⟩⟩
    all_goals
      rw [List.countP_append, ← List.range'_append_1]
    · exact List.mem_append_left _ hj
    · exact List.mem_append_right _ hj
  · rintro ⟨h, h'⟩
    refine ⟨fun r hr => (List.mem_append.1 hr).elim (h.judged r) (h'.judged r), fun j hj => ?_⟩
    rw [List.countP_append, ← List.range'_append_1] at hj
    exact (List.mem_append.1 hj).elim (h.read j) (h'.read j)

end Pass

namespace Sequenced

variable {place : σ → Nat} {shown : Nat → Except Problem Reading} {ruling : Rule → Option (Option Bool)}

theorem exec_now (hs : Sequenced s place shown) (w : World σ) : s.now.exec w =
    (readAt shown (place w.host), (w.withHost (s.clock w.host).2).noting (.clock (readAt shown (place w.host)))) := by
  rw [BadgeEngine.exec_now, hs.clock]
  rfl

theorem leads_tell (hs : Sequenced s place shown) {k : Hook} {p : Payload} {Q : Unit → World σ → Prop}
    {F : Problem → World σ → Prop} : (s.tell k p).leads w Q F ↔ Q () w :=
  BadgeEngine.leads_tell (hs.hook ..)

/-- a world after a match was recorded, with or without an entry -/
theorem passed_match (hit : hits ruling r = true) {t : Instant} (ht : readAt shown (place w.host) = .ok t)
    {since : Instant} {e : Option Earned} {g : Engine} (outline : w'.engine.outline = w.engine.outline)
    (moved : place w'.host = place w.host + 1)
    (trace : w'.trace = ⟨.recorded r.id since t e, g⟩ :: (w.matching r.id t).trace) :
    Passed place shown ruling [r] w w' := by
  have one : [r].countP (hits ruling) = 1 := by simp [hit]
  have only : ∀ r' : Rule, ([r].any fun r' => hits ruling r' && r'.id = r'.id) = true := by simp [hit]
  refine ⟨outline, by rw [one, moved], ?_, fun r' => ?_, fun r' => ?_⟩
  · rw [one, List.range'_one, List.map_singleton, ht, trace]
    rfl
  all_goals
    rw [trace]
    by_cases hid : r.id = r'.id
  · rw [hid, (matched_trace r' w t e since g).1]
    simp [hit, hid]
  · rw [(unmatched_trace hid w t e since g).1]
    simp [hid]
  · rw [hid, (matched_trace r' w t e since g).2]
    simp [hit, hid]
  · rw [(unmatched_trace hid w t e since g).2]
    simp [hid]

/-- a match is recorded unless the clock fails -/
theorem recorded (hs : Sequenced s place shown) (hit : hits ruling r = true) {h : σ}
    (hh : place h = place w.host) :
    (s.award r).leads ((w.withHost h).noting (.judged r.id (.ok (.ok true))))
      (fun _ w' => Passed place shown ruling [r] w w' ∧ ∀ e, readAt shown (place w.host) ≠ .error e)
      (fun _ w' => (∃ e, readAt shown (place w.host) = .error e) ∧ ∃ x ∈ w'.trace, x.breaks) := by
  let u := (w.withHost h).noting (.judged r.id (.ok (.ok true)))
  have reading : (s.clock u.host).1.bind instantOf = readAt shown (place w.host) := by
    rw [← hh]
    exact congrArg (·.bind instantOf) (hs.clock h)
  have moved : place (s.clock u.host).2 = place w.host + 1 := by
    rw [← hh]
    exact hs.moves h
  unfold award
  rw [leads_bind, leads_state, leads_bind, leads_now, reading]
  cases ht : readAt shown (place w.host) with
  | error e => exact ⟨⟨e, rfl⟩, _, List.mem_cons_self, rfl⟩
  | ok t =>
    simp only [leads_bind, leads_state]
    split
    case _ l hl => exact (leads_note _).2 ⟨passed_match hit ht rfl moved rfl, by simp⟩
    case _ e l hl =>
      simp only [leads_bind, leads_change, leads_changeEngine, leads_note, hs.leads_tell]
      exact ⟨passed_match hit ht rfl moved rfl, by simp⟩

/-- nothing is counted where the host stays at its place -/
theorem passed_withHost {h : σ} (hh : place h = place w.host) :
    Passed place shown ruling [] w (w.withHost h) :=
  have nil : Passed place shown ruling [] w w := .nil w
  ⟨rfl, hh, nil.readings, nil.matched, nil.found⟩

/-- nothing is counted by a note of no match, no window and no reading -/
theorem passed_noting {n : Note} (hn : n.isNeutral) (hc : ∀ c, n ≠ .clock c) :
    Passed place shown ruling [] w (w.noting n) := by
  have quiet := fun r : Rule => quiet_of_neutral hn w.engine r.period r.id
  refine ⟨rfl, rfl, ?_, fun r => ?_, fun r => ?_⟩
  · rw [World.noting_trace, readings, List.filterMap_cons_none]
    · rfl
    · cases n <;> first | rfl | exact absurd rfl (hc _)
  · simpa using (matchedWindows_neutral (quiet r).1 (quiet r).2.1).1
  · simpa using (matchedWindows_neutral (quiet r).1 (quiet r).2.1).2

/-- a rule that was not found to hold counts nothing -/
theorem passed_miss (hit : hits ruling r = false)
    (h : Passed place shown ruling [] w w') : Passed place shown ruling [r] w w' := by
  have none : ∀ r' : Rule, ([r].any fun r'' => hits ruling r'' && r''.id = r'.id) = false := by simp [hit]
  refine ⟨h.outline, by simpa [hit] using h.moved, by simpa [hit] using h.readings, fun r' => ?_, fun r' => ?_⟩
  · rw [none, h.matched]
    rfl
  · rw [none, h.found]
    rfl

/-- a rule that was not found to hold can be passed over, unless its evaluation breaks off -/
theorem passable_miss (hit : hits ruling r = false) {k : Nat}
    (h : r.active = true → ruling r ≠ none) : Passable shown ruling [r] k := by
  refine ⟨?_, ?_⟩
  · simpa using h
  · simp [hit]

/-- a rule is passed over, unless its evaluation breaks off or the clock fails -/
theorem considered (hs : Sequenced s place shown) (hr : Rulings s props system [r] ruling) (w : World σ) :
    (s.consider props system r).leads w
      (fun _ w' => Passed place shown ruling [r] w w' ∧ Passable shown ruling [r] (place w.host))
      (fun _ w' => ¬ Passable shown ruling [r] (place w.host) ∧ ∃ x ∈ w'.trace, x.breaks) := by
  unfold consider
  rw [leads_ite]
  split
  case isTrue hin =>
    have hit : hits ruling r = false := by
      unfold hits
      simp_all
    exact (leads_pure ()).2 ⟨passed_miss hit (.nil w), passable_miss hit fun hact => by simp_all⟩
  case isFalse hact =>
    replace hact : r.active = true := by simpa using hact
    have verdict := hr r (List.mem_singleton_self r) w.host w.engine.state.ledger
    have stays := hs.stays w.host ⟨props, system, w.engine.state.ledger⟩ r.condition
    rcases hj : s.judge w.host ⟨props, system, w.engine.state.ledger⟩ r.condition with ⟨v, h⟩
    rw [hj] at verdict stays
    replace stays : place h = place w.host := stays
    simp only [leads_bind, leads_host, leads_state, hj]
    simp only [leads_setHost, leads_note, leads_ofExcept]
    -- the note of the verdict counts nothing, unless it is a match
    have judged : ∀ v, v ≠ .ok (.ok true) →
        Passed place shown ruling [] w ((w.withHost h).noting (.judged r.id v)) := by
      intro v hv
      refine (passed_withHost stays).append (passed_noting ?_ fun _ => Note.noConfusion)
      rcases v with _ | _ | _ | _ <;> simp_all [Note.isNeutral]
    rcases v with e | message | _ | _ <;> replace verdict : _ = ruling r := verdict
    case error =>
      exact ⟨fun hp => hp.judged r (List.mem_singleton_self r) hact verdict.symm, _, List.mem_cons_self, by rfl⟩
    case ok.error =>
      have hit : hits ruling r = false := by simp [hits, ← verdict, gist]
      simp only [reportFailure, leads_bind, leads_note, hs.leads_tell]
      refine ⟨passed_miss hit ((judged (.ok (.error message)) (by simp)).append (passed_noting rfl ?_)),
        passable_miss hit fun _ => by simp [← verdict, gist]⟩
      exact fun _ => Note.noConfusion
    case ok.ok.false =>
      have hit : hits ruling r = false := by simp [hits, ← verdict, gist]
      exact (leads_pure ()).2 ⟨passed_miss hit (judged (.ok (.ok false)) (by simp)),
        passable_miss hit fun _ => by simp [← verdict, gist]⟩
    case ok.ok.true =>
      have hit : hits ruling r = true := by simp [hits, hact, ← verdict, gist]
      have one : List.range' (place w.host) ([r].countP (hits ruling)) = [place w.host] := by simp [hit]
      refine (hs.recorded hit stays).mono (fun _ w' h => ⟨h.1, ?_, ?_⟩) fun _ w' h => ⟨fun hp => ?_, h.2⟩
      · simp [← verdict, gist]
      · rw [one]
        simpa using h.2
      · obtain ⟨⟨e, he⟩, -⟩ := h
        exact hp.read _ (one ▸ List.mem_singleton_self _) e he

/-- rules are passed over if they can be, and else something breaks -/
theorem passed (hs : Sequenced s place shown) (hr : Rulings s props system rules ruling) (w : World σ) :
    (rules.forM (s.consider props system)).leads w
      (fun _ w' => Passed place shown ruling rules w w' ∧ Passable shown ruling rules (place w.host))
      (fun _ w' => ¬ Passable shown ruling rules (place w.host) ∧ ∃ x ∈ w'.trace, x.breaks) := by
  induction rules generalizing w with
  | nil => exact (leads_pure ()).2 ⟨.nil w, by constructor <;> simp⟩
  | cons r rules ih =>
    show Run.leads (s.consider props system r >>= fun _ => rules.forM (s.consider props system)) w _ _
    have split : ∀ k, Passable shown ruling ([r] ++ rules) k ↔ _ := fun _ => passable_append
    have first : Rulings s props system [r] ruling := fun r' hr' =>
      hr r' (List.mem_cons.2 (.inl (List.mem_singleton.1 hr')))
    have rest : Rulings s props system rules ruling := fun r' hr' => hr r' (List.mem_cons_of_mem _ hr')
    rw [leads_bind]
    refine (hs.considered first w).mono (fun _ v hv => ?_) fun _ v hv => ?_
    · refine (ih rest v).mono (fun _ u hu => ?_) fun _ u hu => ?_
      · exact ⟨hv.1.append hu.1, (split _).2 ⟨hv.2, hv.1.moved ▸ hu.2⟩⟩
      · exact ⟨fun hp => hu.1 (hv.1.moved ▸ ((split _).1 hp).2), hu.2⟩
    · exact ⟨fun hp => hv.1 ((split _).1 hp).1, hv.2⟩

end Sequenced

/-! ## Two orders -/

/-- verdicts on the rules of an engine are told by the properties of a pass -/
def Indifferent (s : Setup σ) : Prop :=
  ∀ props system, ∃ ruling, Rulings s props system s.rules ruling

/-- worlds of the same outline whose hosts are at the same place, and where the clock showed the same and the same rules
were found to hold in the same windows -/
structure Abreast (place : σ → Nat) (w v : World σ) : Prop where
  outline : w.engine.outline = v.engine.outline
  place : place w.host = place v.host
  readings : readings w.trace = readings v.trace
  matched : ∀ r, matchedWindows r w.trace = matchedWindows r v.trace
  found : ∀ r, inWindow r w.trace = inWindow r v.trace

namespace Abreast

variable {place : σ → Nat}

theorem busy (h : Abreast place w v) : w.engine.busy = v.engine.busy := congrArg Outline.busy h.outline

theorem redraw (h : Abreast place w v) {e e' : Engine} (he : e.outline = e'.outline) :
    Abreast place (w.withEngine e) (v.withEngine e') :=
  ⟨he, h.place, h.readings, h.matched, h.found⟩

theorem withHost (h : Abreast place w v) {a b : σ} (hab : place a = place b) :
    Abreast place (w.withHost a) (v.withHost b) :=
  ⟨h.outline, hab, h.readings, h.matched, h.found⟩

theorem noting (h : Abreast place w v) (n : Note) : Abreast place (w.noting n) (v.noting n) := by
  refine ⟨h.outline, h.place, ?_, fun r => ?_, fun r => ?_⟩
  · show BadgeEngine.readings ([_] ++ w.trace) = BadgeEngine.readings ([_] ++ v.trace)
    rw [BadgeEngine.readings, BadgeEngine.readings, List.filterMap_append, List.filterMap_append]
    exact congrArg₂ (· ++ ·) rfl h.readings
  all_goals
    have same : (⟨n, w.engine⟩ : Noted).changes r.period = (⟨n, v.engine⟩ : Noted).changes r.period := rfl
    rw [World.noting_trace, World.noting_trace]
    cases hc : (⟨n, w.engine⟩ : Noted).changes r.period with
    | true =>
      have hw : _ = matchedWindows r w.trace ∧ _ := matchedWindows_change hc
      have hv : _ = matchedWindows r v.trace ∧ _ := matchedWindows_change (same ▸ hc)
      simp only [hw, hv, h.matched]
    | false =>
      have hc' : (⟨n, v.engine⟩ : Noted).changes r.period = false := same ▸ hc
      simp only [matchedWindows_cons hc, matchedWindows_cons hc', inWindow_cons hc, inWindow_cons hc', h.matched, h.found]
      rfl

theorem coupling : Coupling (Abreast place) :=
  ⟨outline, fun hf h => h.redraw (hf.congr h.outline), fun _ h => h.noting _⟩

end Abreast

section

variable {place : σ → Nat} {shown : Nat → Except Problem Reading}

/-- programs that keep worlds abreast, unless something breaks in the first -/
abbrev Abreasts (place : σ → Nat) (r r' : Run σ α) : Prop := Couples (Abreast place) (fun x => x.breaks = true) r r'

theorem Run.Blind.grows {r : Run σ α} (hr : r.Blind) (w : World σ) : w.trace <:+ (r.exec w).2.trace := by
  obtain ⟨x, e, h, ns, hx⟩ := hr w.engine w.host
  exact ⟨ns, by rw [hx w.trace]⟩

/-- answers are the same, or both list badges -/
def SameKind (x y : Except Problem Answer) : Prop :=
  x = y ∨ ∃ es es', x = .ok (.badges es) ∧ y = .ok (.badges es')

namespace Sequenced

theorem ordered (hs : Sequenced s place shown) (rules : List Rule) :
    Sequenced (s.ordered rules) place shown :=
  ⟨hs.clock, hs.moves, hs.stays, hs.hook⟩

theorem now (hs : Sequenced s place shown) (rules : List Rule) :
    Abreasts place s.now (s.ordered rules).now where
  grows := now_blind.grows
  coupled w v h _ := by
    rw [hs.exec_now, (hs.ordered rules).exec_now, h.place]
    refine ⟨rfl, (h.withHost ?_).noting _⟩
    rw [hs.moves, (hs.ordered rules).moves, h.place]

theorem tell (hs : Sequenced s place shown) (rules : List Rule) (k : Hook) (p : Payload) :
    Abreasts place (s.tell k p) ((s.ordered rules).tell k p) where
  grows := (tell_blind k p).grows
  coupled w v h _ := by
    rw [exec_of_leads (hs.leads_tell.2 ⟨rfl, rfl⟩), exec_of_leads ((hs.ordered rules).leads_tell.2 ⟨rfl, rfl⟩)]
    exact ⟨rfl, h⟩

/-- what is found in passing over rules does not depend on their order -/
theorem loop (hs : Sequenced s place shown) (hi : Indifferent s) (hp : rules' ~ s.rules)
    (props system : Props) : Abreasts place (s.rules.forM (s.consider props system))
      (rules'.forM ((s.ordered rules').consider props system)) where
  grows :=
    have blind : (s.rules.forM (s.consider props system)).Blind :=
      @Composable.forM _ _ _ Blind.closed.toComposable _ (s.consider props system) s.rules (consider_blind props system)
    blind.grows
  coupled w v h hl := by
    obtain ⟨ruling, told⟩ := hi props system
    have told' : Rulings (s.ordered rules') props system rules' ruling := fun r hr => told r (hp.mem_iff.1 hr)
    have passed := leads_iff.1 (hs.passed told w)
    have passed' := leads_iff.1 ((hs.ordered rules').passed told' v)
    rcases hx : (s.rules.forM (s.consider props system)).exec w with ⟨e | ⟨⟩, w'⟩ <;> rw [hx] at passed hl
    · obtain ⟨-, x, hx, breaks⟩ := passed.2 e rfl
      exact absurd breaks (hl x hx)
    · obtain ⟨hw, passable⟩ := passed.1 () rfl
      rcases hy : (rules'.forM ((s.ordered rules').consider props system)).exec v with ⟨e | ⟨⟩, v'⟩ <;> rw [hy] at passed'
      · exact absurd (h.place ▸ passable.perm hp) (passed'.2 e rfl).1
      · have hv := (passed'.1 () rfl).1.perm hp.symm
        refine ⟨rfl, ?_, ?_, ?_, fun r => ?_, fun r => ?_⟩
        · rw [hw.outline, hv.outline, h.outline]
        · rw [hw.moved, hv.moved, h.place]
        · rw [hw.readings, hv.readings, h.place, h.readings]
        · rw [hw.matched, hv.matched, h.matched, h.found]
        · rw [hw.found, hv.found, h.found]

theorem parallel (hs : Sequenced s place shown) (hi : Indifferent s) (hp : rules' ~ s.rules) :
    Parallel (Abreasts (σ := σ) place) s (s.ordered rules') where
  zone := rfl
  now := hs.now rules'
  tell := hs.tell rules'
  pass := (Couples.outlined Abreast.coupling).pass (hs.loop hi hp)

/-- requests to engines with their rules in two orders keep worlds abreast -/
theorem answer (hs : Sequenced s place shown) (hi : Indifferent s) (hp : rules' ~ s.rules) {q : Request}
    (hq : q.isLoad = false) :
    CouplesUpTo SameKind (Abreast place) (fun x => x.breaks = true) (s.answer q) ((s.ordered rules').answer q) := by
  have outlined : Outlined (Abreasts (σ := σ) place) := Couples.outlined Abreast.coupling
  refine outlined.answerWith (fun h => ⟨h.grows, fun w v hw hl => (h.coupled w v hw hl).imp_left .inl⟩)
    (Couples.bindUpTo fun _ => .inl rfl) (hs.now rules') (Couples.marks Abreast.coupling) fun op hop => ?_
  have body := (hs.parallel hi hp).unloading outlined (hop.not_load hq)
  refine ⟨(operation_blind (perform_blind op)).grows, fun w v h hl => ?_⟩
  cases hb : w.engine.busy with
  | true =>
    rw [exec_operation_busy hb, exec_operation_busy (h.busy ▸ hb)]
    exact ⟨.inl rfl, h⟩
  | false =>
    have entered : Abreast place (w.entering op) (v.entering op) :=
      h.redraw (congrArg (fun o : Outline => { o with busy := true, rolled := {} }) h.outline)
    have coupled := body.coupled _ _ entered
    rcases hx : (s.perform op).exec (w.entering op) with ⟨x, w'⟩
    rcases hy : ((s.ordered rules').perform op).exec (v.entering op) with ⟨y, v'⟩
    rw [exec_operation_idle hb hx] at hl ⊢
    rw [exec_operation_idle (h.busy ▸ hb) hy]
    rw [hx, hy] at coupled
    obtain ⟨rfl, abreast⟩ := coupled hl
    have left := congrArg (fun o : Outline => { o with busy := false, pending := false }) abreast.outline
    refine ⟨?_, abreast.redraw left⟩
    cases x with
    | error e => exact .inl rfl
    | ok =>
      cases op with
      | load => cases hop.not_load hq
      | _ => exact .inr ⟨_, _, rfl, rfl⟩

/-- so do requests one after another -/
theorem after (hs : Sequenced s place shown) (hi : Indifferent s) (hp : rules' ~ s.rules)
    (hwv : Abreast place w v) {qs : List Request} (hqs : ∀ q ∈ qs, q.isLoad = false)
    (hl : ∀ x ∈ (w.after s qs).trace, x.breaks = false) :
    Abreast place (w.after s qs) (v.after (s.ordered rules') qs) := by
  induction qs using List.reverseRecOn with
  | nil => exact hwv
  | append_singleton qs q ih =>
    have step := hs.answer hi hp (hqs q (by simp))
    rw [World.after_concat] at hl ⊢
    rw [World.after_concat]
    have before := ih (fun q hq => hqs q (by simp [hq])) fun x hx => hl x ((step.grows _).subset hx)
    exact (step.coupled _ _ before fun x hx => by simp [hl x hx]).2

end Sequenced

end

/-! ## Counts -/

theorem shows_of_reading {x : Noted} {t : Instant}
    (h : (match x.note with | .clock c => some c | _ => none) = some (Except.ok t)) : x.shows t := by
  unfold Noted.shows
  split at h
  case h_1 c hc => rw [hc, Option.some.inj h]
  case h_2 => cases h

/-- whether a clock ticks is told by what it showed -/
theorem Ticking.congr (h : Ticking trace) (hr : readings trace' = readings trace) : Ticking trace' where
  read x hx c hc := by
    have hm : c ∈ readings trace' := List.mem_filterMap.2 ⟨x, hx, by rw [hc]⟩
    rw [hr] at hm
    obtain ⟨y, hy, hyc⟩ := List.mem_filterMap.1 hm
    refine h.read y hy c ?_
    rcases y with ⟨_ | _, e⟩ <;> cases hyc
    rfl
  rising := by
    have rises : (readings trace).Pairwise fun c d => ∀ t u, c = .ok t → d = .ok u → u < t := by
      refine List.pairwise_filterMap.2 (h.rising.imp fun hxy c hc d hd t u ht hu => ?_)
      subst ht hu
      exact hxy t u (shows_of_reading hc) (shows_of_reading hd)
    rw [← hr] at rises
    refine (List.pairwise_filterMap.1 rises).imp fun hxy t u hx hy => ?_
    exact hxy (.ok t) (by rw [hx]) (.ok u) (by rw [hy]) t u rfl rfl

/-- entries, and the notes of matches that made them, bear the ids of rules -/
structure Ruled (s : Setup σ) (w : World σ) : Prop where
  ledger : ∀ e ∈ w.engine.state.ledger.entries, ∃ r ∈ s.rules, r.id = e.id
  made : ∀ x ∈ w.trace, ∀ e, x.made? = some e → x.raises e.id = true ∧ ∃ r ∈ s.rules, r.id = e.id

theorem Ruled.new (h : σ) : Ruled s ({ host := h } : World σ) where
  ledger e he := by
    rw [World.new_ledger] at he
    cases he
  made x hx := absurd hx List.not_mem_nil

/-- one more note keeps it if it makes no entry -/
theorem Ruled.noted (hw : Ruled s w) (ledger : w'.engine.state.ledger = w.engine.state.ledger) {x : Noted}
    (trace : w'.trace = x :: w.trace) (hx : x.made? = none) : Ruled s w' where
  ledger := ledger ▸ hw.ledger
  made y hy e he := by
    rcases List.mem_cons.1 (trace ▸ hy) with rfl | hy
    · cases hx.symm.trans he
    · exact hw.made y hy e he

theorem Ruled.kept (hw : Ruled s w) (h : Move s w w') : Ruled s w' := by
  have judged : ∀ id, Ruled s (w.noting (.judged id (.ok (.ok true)))) := fun _ => hw.noted rfl rfl rfl
  have matching : ∀ id t, Ruled s (w.matching id t) := fun id _ => (judged id).noted rfl rfl rfl
  cases h.change with
  | still windows ledger trace =>
    rcases trace with trace | ⟨n, hn, trace⟩
    · exact ⟨ledger ▸ hw.ledger, trace ▸ hw.made⟩
    · refine hw.noted ledger trace ?_
      cases n <;> first | rfl | cases hn
  | unread id e h =>
    subst h
    exact (judged id).noted rfl rfl rfl
  | held r hr t l hl h => subst h; exact (matching r.id t).noted rfl rfl rfl
  | earned r hr t e l hl h =>
    subst h
    have hid := record_id hl
    obtain ⟨rfl, -⟩ := record_earned hl
    refine ⟨fun f hf => ?_, fun x hx f hf => ?_⟩
    · rcases mem_enter hf with rfl | hf
      · exact ⟨r, hr, hid.symm⟩
      · exact hw.ledger f hf
    · rcases List.mem_cons.1 hx with rfl | hx
      · cases hf
        exact ⟨by simp [Noted.raises, hid], r, hr, hid.symm⟩
      · exact (matching r.id t).made x hx f hf
  | refreshed t l ht h => subst h; exact hw.noted (w.refreshing_ledger t l) (w.refreshing_trace t l) rfl
  | counted a t ht n key h => subst h; exact hw.noted rfl rfl rfl

theorem Unloaded.ruled (hw : Unloaded s w) : Ruled s w := hw.invariant .new Ruled.kept

theorem exists_made {x : Noted} {id : String} (h : x.raises id = true) : ∃ e, x.made? = some e := by
  unfold Noted.raises at h
  unfold Noted.made?
  split at h
  case h_1 hx => exact ⟨_, by rw [hx]⟩
  case h_2 => cases h

theorem raises_unique {x : Noted} {id id' : String} (h : x.raises id = true) (h' : x.raises id' = true) : id = id' := by
  unfold Noted.raises at h h'
  split at h
  case h_1 hx =>
    rw [hx] at h'
    exact (of_decide_eq_true h).symm.trans (of_decide_eq_true h')
  case h_2 => cases h

/-- the badges of a ledger, with their counts -/
def Ledger.counts (l : Ledger) : List (String × Int) := l.entries.map fun e => (e.id, e.count)

theorem Ledger.count_of_mem {l : Ledger} {e : Earned} (he : e ∈ l.entries) : l.count e.id = e.count := by
  unfold Ledger.count
  rw [get?_of_mem he]

/-- a ledger in order has a badge with a count if it counts so -/
theorem Ledger.Orderly.mem_counts {l : Ledger} (hl : l.Orderly) {id : String} {n : Int} :
    (id, n) ∈ l.counts ↔ l.count id = n ∧ 1 ≤ n := by
  constructor
  · intro h
    obtain ⟨e, he, heq⟩ := List.mem_map.1 h
    cases heq
    exact ⟨Ledger.count_of_mem he, hl.counts e he⟩
  · rintro ⟨rfl, hn⟩
    obtain ⟨e, he, rfl⟩ := List.mem_map.1 (((hl.earned_tfae id).out 1 3).1 hn)
    exact List.mem_map.2 ⟨e, he, by rw [Ledger.count_of_mem he]⟩

theorem Ledger.nodup_counts (l : Ledger) : l.counts.Nodup := by
  refine List.Nodup.of_map Prod.fst ?_
  rw [Ledger.counts, List.map_map]
  exact l.distinct

theorem Unloaded.orderly (hw : Unloaded s w) : w.engine.state.ledger.Orderly := by
  obtain ⟨h, hm, -⟩ := hw.moves
  exact (hm.written.tidy ⟨.empty, fun _ hx => absurd hx List.not_mem_nil⟩).ledger

/-- what is no rule's is not counted -/
theorem Unloaded.count_of_no_rule (hw : Unloaded s w) {id : String} (hid : ∀ r ∈ s.rules, r.id ≠ id) :
    w.engine.state.ledger.count id = 0 := by
  have none : w.engine.state.ledger.get? id = none := by
    refine Ledger.get?_none_iff.2 fun h => ?_
    obtain ⟨e, he, rfl⟩ := List.mem_map.1 h
    obtain ⟨r, hr, hre⟩ := hw.ruled.ledger e he
    exact hid r hr hre
  unfold Ledger.count
  rw [none]

/-- a request lists each badge once, and those whose counts it raises -/
theorem Unloaded.listed (hd : DistinctRules s.rules) (hw : Unloaded s w) {q : Request} (hq : q.isLoad = false)
    {es : List Earned} (ha : ((s.answer q).exec w).1 = .ok (.badges es)) : (es.map (·.id)).Nodup ∧ ∀ id,
      id ∈ es.map (·.id) ↔
        ((s.answer q).exec w).2.engine.state.ledger.count id ≠ w.engine.state.ledger.count id := by
  have hw' : Unloaded s ((s.answer q).exec w).2 := .asked hw q hq
  obtain ⟨ns, reports, -, lists⟩ := answer_reports (s := s) hq hw.idle
  have new : ∀ x ∈ ns, x ∈ ((s.answer q).exec w).2.trace := fun x hx => by
    rw [reports.trace]
    exact List.mem_append_left _ hx
  have ids : es.map (·.id) = ((madeIn ns).map (·.id)).eraseDups := by rw [lists es ha, ids_putAll]
  have made : ∀ id, id ∈ es.map (·.id) ↔ ∃ x ∈ ns, ∃ e, x.made? = some e ∧ e.id = id := by
    intro id
    rw [ids, List.mem_eraseDups]
    simp only [madeIn, List.mem_map, List.mem_reverse, List.mem_filterMap]
    constructor
    · rintro ⟨e, ⟨x, hx, he⟩, hid⟩
      exact ⟨x, hx, e, he, hid⟩
    · rintro ⟨x, hx, e, he, hid⟩
      exact ⟨e, ⟨x, hx, he⟩, hid⟩
  refine ⟨lists es ha ▸ Distinct.putAll (l := []) List.nodup_nil _, fun id => ?_⟩
  rw [made]
  by_cases hid : ∃ r ∈ s.rules, r.id = id
  · obtain ⟨r, hr, rfl⟩ := hid
    have counts := (hw'.gate hd hr).count
    rw [reports.trace, List.countP_append, Int.natCast_add, ← (hw.gate hd hr).count] at counts
    have raised : (∃ x ∈ ns, ∃ e, x.made? = some e ∧ e.id = r.id) ↔ 0 < ns.countP (Noted.raises r.id) := by
      rw [List.countP_pos_iff]
      refine exists_congr fun x => and_congr_right fun hx => ⟨?_, fun h => ?_⟩
      · rintro ⟨e, he, hid⟩
        exact hid ▸ (hw'.ruled.made x (new x hx) e he).1
      · obtain ⟨e, he⟩ := exists_made h
        exact ⟨e, he, raises_unique (hw'.ruled.made x (new x hx) e he).1 h⟩
    rw [raised, counts]
    omega
  · have none : ∀ r ∈ s.rules, r.id ≠ id := fun r hr he => hid ⟨r, hr, he⟩
    rw [hw.count_of_no_rule none, hw'.count_of_no_rule none]
    refine iff_of_false ?_ fun h => h rfl
    rintro ⟨x, hx, e, he, rfl⟩
    obtain ⟨-, r, hr, hre⟩ := hw'.ruled.made x (new x hx) e he
    exact none r hr hre

def SameBadges (x y : Except Problem Answer) : Prop :=
  x = y ∨ ∃ es es', x = .ok (.badges es) ∧ y = .ok (.badges es') ∧ es.map (·.id) ~ es'.map (·.id)

/-- engines are in the same state but for the order and the instants of their badges, and their clocks showed the
same -/
structure Tied (w v : World σ) : Prop where
  props : w.engine.state.props = v.engine.state.props
  system : w.engine.state.system = v.engine.state.system
  windows : w.engine.state.windows = v.engine.state.windows
  bookmarks : w.engine.state.bookmarks = v.engine.state.bookmarks
  counts : w.engine.state.ledger.counts ~ v.engine.state.ledger.counts
  readings : readings w.trace = readings v.trace

section

variable {place : σ → Nat} {s' : Setup σ}

/-- worlds abreast count the same -/
theorem Abreast.count (h : Abreast place w v) (hd : DistinctRules s.rules) (hp : s'.rules ~ s.rules)
    (hw : Unloaded s w) (hv : Unloaded s' v) (ht : Ticking w.trace) (id : String) :
    w.engine.state.ledger.count id = v.engine.state.ledger.count id := by
  by_cases hid : ∃ r ∈ s.rules, r.id = id
  · obtain ⟨r, hr, rfl⟩ := hid
    have hd' : DistinctRules s'.rules := (hp.map _).nodup_iff.2 hd
    have tw := (hw.ticked hd hr ht).tally
    have tv := (hv.ticked hd' (hp.mem_iff.2 hr) (ht.congr h.readings.symm)).tally
    rw [tw.counts, tv.counts, h.matched]
  · rw [hw.count_of_no_rule fun r hr he => hid ⟨r, hr, he⟩,
      hv.count_of_no_rule fun r hr he => hid ⟨r, hp.mem_iff.1 hr, he⟩]

/-- worlds abreast are tied -/
theorem Abreast.tied (h : Abreast place w v) (hd : DistinctRules s.rules) (hp : s'.rules ~ s.rules)
    (hw : Unloaded s w) (hv : Unloaded s' v) (ht : Ticking w.trace) : Tied w v where
  props := congrArg Outline.props h.outline
  system := congrArg Outline.system h.outline
  windows := congrArg Outline.windows h.outline
  bookmarks := congrArg Outline.bookmarks h.outline
  readings := h.readings
  counts := by
    refine (List.perm_ext_iff_of_nodup (Ledger.nodup_counts _) (Ledger.nodup_counts _)).2 fun (id, n) => ?_
    rw [hw.orderly.mem_counts, hv.orderly.mem_counts, h.count hd hp hw hv ht]

end

variable {place : σ → Nat} {shown : Nat → Except Problem Reading}

/-! ## Conditions that do not look into the ledger -/

section

variable {V F X A D : Type} {L : Library V F X A D} {reads calls : String → List String} {extra : List (String × F)}

/-- a host evaluates conditions with a library; numbers are drawn and things come to stand as it likes -/
def JudgesBy (s : Setup σ) (L : Library V F X A D) (extra : List (String × F)) : Prop :=
  ∀ h c condition, ∃ d a, (s.judge h c condition).1 = L.judge extra d a c condition

/-- no condition asks for badges or for chance -/
def Independent (calls : String → List String) (rules : List Rule) : Prop :=
  ∀ r ∈ rules, ∀ n ∈ calls r.condition, drawing n = false ∧ lookingUp n = false

/-- no verdict on a rule tells where things stand -/
def Placeless (L : Library V F X A D) (extra : List (String × F)) (rules : List Rule) : Prop :=
  ∀ r ∈ rules, ∀ d a a' c, gist (L.judge extra d a' c r.condition) = gist (L.judge extra d a c r.condition)

/-- a condition that asks neither for badges nor for chance is judged by the properties alone -/
theorem Library.Lawful.judge_aside (hL : L.Lawful reads calls) {condition : String}
    (hc : ∀ n ∈ calls condition, drawing n = false ∧ lookingUp n = false) (props system : Props) (l l' : Ledger)
    (d d' : D) (a : A) :
    L.judge extra d' a ⟨props, system, l'⟩ condition = L.judge extra d a ⟨props, system, l⟩ condition := by
  have asking := hL.asking l
  have asking' := hL.asking l'
  have free : ∀ n, drawing n = true → (drawing n || lookingUp n) = true := fun n hn => by simp [hn]
  refine hL.evaluate_eq free (fun _ _ => rfl) ?_ fun n hn => by simp [hc n hn]
  exact .cons ⟨rfl, .inr ⟨rfl, asking.1, asking'.1⟩⟩ (.cons ⟨rfl, .inr ⟨rfl, asking.2, asking'.2⟩⟩ .nil)

theorem Independent.indifferent (hi : Independent calls s.rules) (hL : L.Lawful reads calls) (he : JudgesBy s L extra)
    (hpl : Placeless L extra s.rules) (h : σ) : Indifferent s := by
  intro props system
  refine ⟨fun r => gist (s.judge h ⟨props, system, .empty⟩ r.condition).1, fun r hr h' ledger => ?_⟩
  obtain ⟨d, a, judged⟩ := he h ⟨props, system, .empty⟩ r.condition
  obtain ⟨d', a', judged'⟩ := he h' ⟨props, system, ledger⟩ r.condition
  dsimp only
  rw [judged, judged', hpl r hr d' a a' _]
  exact congrArg gist (hL.judge_aside (hi r hr) ..)

/-- **Any order.** Rules none of which asks for badges or for chance are put in another order, and the same requests are
made to both engines, under clocks that show the same. Then both keep the same state but for the order and the instants
of their badges, read their clocks as often and list the same badges, if the clock ticks and no evaluation breaks
off. -/
theorem any_order (hL : L.Lawful reads calls) (he : JudgesBy s L extra) (hs : Sequenced s place shown)
    (hi : Independent calls s.rules) (hpl : Placeless L extra s.rules) (hd : DistinctRules s.rules)
    (hp : rules' ~ s.rules) {h h' : σ} (hh : place h' = place h)
    {qs : List Request} (hqs : ∀ q ∈ qs, q.isLoad = false) {q : Request} (hq : q.isLoad = false)
    (ht : Ticking (World.after s { host := h } (qs ++ [q])).trace)
    (hl : ∀ x ∈ (World.after s { host := h } (qs ++ [q])).trace, ∀ id e, x.note ≠ .judged id (.error e)) :
    Tied (World.after s { host := h } (qs ++ [q])) (World.after (s.ordered rules') { host := h' } (qs ++ [q])) ∧
      SameBadges ((s.answer q).exec (World.after s { host := h } qs)).1
        (((s.ordered rules').answer q).exec (World.after (s.ordered rules') { host := h' } qs)).1 := by
  have indifferent : Indifferent s := hi.indifferent hL he hpl h
  have whole : ∀ x ∈ (World.after s { host := h } (qs ++ [q])).trace, x.breaks = false := by
    intro x hx
    unfold Noted.breaks
    split
    case h_1 hn => exact absurd hn (hl x hx _ _)
    case h_2 hn => exact absurd hn (ht.not_failed hx)
    case h_3 => rfl
  rw [World.after_concat] at whole ht ⊢
  rw [World.after_concat]
  have step := hs.answer indifferent hp hq
  have begin : Abreast place ({ host := h } : World σ) { host := h' } := ⟨rfl, hh.symm, rfl, fun _ => rfl, fun _ => rfl⟩
  have before := hs.after indifferent hp begin hqs fun x hx => whole x ((step.grows _).subset hx)
  have ticking := ht.of_suffix (step.grows _)
  have hw : Unloaded s (World.after s { host := h } qs) := Reach.after (.new h) hqs
  have hv : Unloaded (s.ordered rules') (World.after (s.ordered rules') { host := h' } qs) := Reach.after (.new h') hqs
  obtain ⟨kind, after⟩ := step.coupled _ _ before fun x hx => by simp [whole x hx]
  have hw' : Unloaded s ((s.answer q).exec _).2 := .asked hw q hq
  have hv' : Unloaded (s.ordered rules') (((s.ordered rules').answer q).exec _).2 := .asked hv q hq
  refine ⟨after.tied hd hp hw' hv' ht, ?_⟩
  rcases kind with same | ⟨es, es', hes, hes'⟩
  · exact .inl same
  · -- a badge is listed if its count was raised, and the counts are the same before and after
    have hd' : DistinctRules (s.ordered rules').rules := (hp.map _).nodup_iff.2 hd
    obtain ⟨nodup, listed⟩ := hw.listed hd hq hes
    obtain ⟨nodup', listed'⟩ := hv.listed hd' hq hes'
    refine .inr ⟨es, es', hes, hes', (List.perm_ext_iff_of_nodup nodup nodup').2 fun id => ?_⟩
    rw [listed, listed', before.count hd hp hw hv ticking, after.count hd hp hw' hv' ht]

end

/-- an engine whose clock shows the next minute each time it is read -/
def minutely (rules : List Rule) : Setup Nat where
  rules
  zone := .fixed 0
  clock k := (.ok ⟨july (930 + k), none⟩, k + 1)
  judge k c condition := (judgement [] (fun _ => 0) c condition, k)
  hook _ _ _ := none

theorem minutely_sequenced (rules : List Rule) :
    Sequenced (minutely rules) id fun k => .ok ⟨july (930 + k), none⟩ where
  clock _ := rfl
  moves _ := rfl
  stays _ _ _ := rfl
  hook _ _ _ := rfl

/-- where no condition asks for a method, no verdict tells where things stand -/
theorem Placeless.of_uses {extra : List (String × Condition.Function)} (h : ∀ r ∈ rules, .address ∉ usesOf r.condition) :
    Placeless expressions extra rules := by
  intro r hr d a a' c
  have value (t : Names Condition.Datum) (fs : List (String × Condition.Function)) :
      expressions.eval a' t fs r.condition = expressions.eval a t fs r.condition :=
    congrArg (Except.mapError (r.condition, ·)) (evalCondition_address (h r hr) ..)
  unfold Library.judge Library.evaluate
  dsimp only
  rw [value]
  rfl

theorem minutely_judges (rules : List Rule) : JudgesBy (minutely rules) expressions [] :=
  fun _ _ _ => ⟨fun _ => 0, "", rfl⟩

/-- a badge for each game, one for each session and one to be earned once -/
def assorted : List Rule :=
  [{ id := "game", condition := "system.lifetimeGames >= 1", period := .counter .game },
    { id := "session", condition := "system.sessionStatus == 'inProgress'", period := .counter .session },
    { id := "once", condition := "true", max := some 1 }]

/-- the world after a game in a session, and then another one, with rules that are considered in an order -/
def twoGames (rules : List Rule) : World Nat :=
  World.after (minutely rules) { host := 0 }
    ([.operate (.start .session), .operate (.start .game), .operate .evaluate] ++ [.operate (.start .game)])

/-- three rules count the same in two orders, though each match reads the clock at another instant -/
theorem assorted_any_order : Tied (twoGames assorted) (twoGames assorted.reverse) ∧
    (twoGames assorted).engine.state.ledger.counts = [("once", 1), ("game", 2), ("session", 1)] ∧
    (readings (twoGames assorted).trace).length = 18 := by
  have hr : readings (twoGames assorted).trace = ((List.range 18).reverse.map fun k => july (930 + k)).map .ok := by
    decide +kernel
  have hs := minutely_sequenced assorted
  have he := minutely_judges assorted
  have hi : Independent conditionCalls assorted := by
    unfold Independent
    decide +kernel
  have hl : ((twoGames assorted).trace.all fun x => !x.breaks) = true := by decide +kernel
  have hq : ∀ q ∈ ([.operate (.start .session), .operate (.start .game), .operate .evaluate] : List Request),
      q.isLoad = false := by decide
  have hpl : Placeless expressions [] assorted := by
    apply Placeless.of_uses
    unfold assorted
    decide +kernel
  have hd : DistinctRules assorted := by
    unfold DistinctRules
    decide
  have ht : Ticking (twoGames assorted).trace := .of_readings _ hr (by decide) (by decide)
  refine ⟨(any_order (q := .operate (.start .game)) expressions_lawful he hs hi hpl hd (List.reverse_perm assorted) rfl
    hq rfl ht fun x hx id e hn => ?_).1, by decide +kernel, by rw [hr]; rfl⟩
  have := List.all_eq_true.1 hl x hx
  simp [Noted.breaks, hn] at this

/-- a rule whose evaluation breaks off, and one that always holds -/
def brittle : List Rule := [longKeyRule, { id := "true", condition := "true" }]

/-- an evaluation that breaks off ends the pass, so that it depends on the order of the rules which badges are earned -/
theorem brittle_order : (∀ r ∈ brittle, conditionCalls r.condition = []) ∧
    (World.after (minutely brittle) { host := 0 } [.operate .evaluate]).engine.state.ledger.counts = [] ∧
    (World.after (minutely brittle.reverse) { host := 0 } [.operate .evaluate]).engine.state.ledger.counts =
      [("true", 1)] := by
  decide +kernel

end BadgeEngine
