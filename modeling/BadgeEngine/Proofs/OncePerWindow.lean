/-
Under a clock that ticks, the ledger counts windows.

The ledger holds a match back when the window began no later than the badge was last earned. Under a clock whose
readings rise, none before the epoch, that is the same as asking whether the condition was found to hold in this
window before: the timestamps stand for one flag per window. The invariant is `Tally`.

Result: `count_eq_windows`: in every unloaded history under such a clock, and at every moment of it but between a
verdict and its record, the count of a rule's badge is the number of windows in which its condition was found to
hold, up to the limit of the rule.
-/
import BadgeEngine.Proofs.History

namespace BadgeEngine

open BadgeEngine.Time Relation

variable {σ : Type} {s : Setup σ} {w w' : World σ} {r : Rule} {x y : Noted} {trace older : List Noted}

/-! ## Clocks that tick -/

/-- every instant shown is the epoch or later, and later than those shown before it; the clock may fail in between -/
structure Rising (trace : List Noted) : Prop where
  start : ∀ x ∈ trace, ∀ t, x.shows t → epoch ≤ t
  rising : trace.Pairwise fun x y => ∀ t u, x.shows t → y.shows u → u < t

theorem Rising.of_suffix (h : Rising trace) (hs : older <:+ trace) : Rising older :=
  ⟨fun x hx => h.start x (hs.subset hx), h.rising.sublist hs.sublist⟩

/-- a reading is later than every instant shown before it -/
theorem Rising.lt {t u : Instant} (h : Rising (y :: older)) (hy : y.shows t) (hx : x ∈ older) (hu : x.shows u) :
    u < t :=
  (List.pairwise_cons.1 h.rising).1 x hx t u hy hu

/-- every reading is an instant, the epoch or later, and later than the readings before it -/
structure Ticking (trace : List Noted) : Prop where
  read : ∀ x ∈ trace, ∀ c, x.note = .clock c → ∃ t, c = .ok t ∧ epoch ≤ t
  rising : trace.Pairwise fun x y => ∀ t u, x.shows t → y.shows u → u < t

theorem Ticking.of_suffix (h : Ticking trace) (hs : older <:+ trace) : Ticking older :=
  ⟨fun x hx => h.read x (hs.subset hx), h.rising.sublist hs.sublist⟩

theorem Ticking.rises (h : Ticking trace) : Rising trace := by
  refine ⟨fun x hx t hs => ?_, h.rising⟩
  obtain ⟨u, hu, hle⟩ := h.read x hx _ hs
  exact Except.ok.inj hu ▸ hle

theorem Ticking.not_failed {e : Problem} (h : Ticking trace) (hx : x ∈ trace) : x.note ≠ .clock (.error e) := by
  intro hn
  obtain ⟨t, ht, -⟩ := h.read x hx _ hn
  cases ht

/-! ## Windows with a match -/

/-- the condition of a rule was found to hold in the running window -/
def inWindow (r : Rule) (trace : List Noted) : Bool :=
  (stretch r.period trace).any (Noted.matched r.id)

/-- in how many windows of its period the condition of a rule was found to hold -/
def matchedWindows (r : Rule) (trace : List Noted) : Nat :=
  (trace.splitOnP (Noted.changes r.period)).countP fun window => window.any (Noted.matched r.id)

/-- a number up to the limit of a rule; a limit below 1, which no rule is read with, counts as 1 -/
def Rule.capped (r : Rule) (n : Nat) : Int :=
  match r.max with
  | some m => min (Max.max m 1) n
  | none => n

theorem Rule.capped_zero (r : Rule) : r.capped 0 = 0 := by
  unfold capped
  cases r.max with
  | none => rfl
  | some m =>
    dsimp only
    omega

/-- the first window counts, whatever the limit -/
theorem Rule.capped_one (r : Rule) : r.capped 1 = 1 := by
  unfold capped
  cases r.max with
  | none => rfl
  | some m =>
    dsimp only
    omega

/-- below the limit one more window counts -/
theorem Rule.capped_succ {e : Earned} {n : Nat} (hc : e.count = r.capped n) (h : ¬ Ledger.AtLimit r e) :
    e.count + 1 = r.capped (n + 1) := by
  unfold capped at hc ⊢
  cases hm : r.max with
  | none =>
    rw [hm] at hc
    simp only at hc ⊢
    omega
  | some m =>
    have hlt : ¬ m ≤ e.count := fun hle => h ⟨m, hm, hle⟩
    rw [hm] at hc
    simp only at hc ⊢
    omega

/-- at the limit one more window does not count, once a window was counted -/
theorem Rule.capped_succ_atLimit {e : Earned} {n : Nat} (hc : e.count = r.capped n) (h : Ledger.AtLimit r e)
    (hn : 0 < n) : r.capped (n + 1) = r.capped n := by
  obtain ⟨m, hm, hle⟩ := h
  unfold capped at hc ⊢
  rw [hm] at hc ⊢
  simp only at hc ⊢
  omega

/-- the first of the windows of a trace is the running one -/
theorem splitOnP_head {α : Type} (p : α → Bool) (l : List α) :
    ∃ rest, l.splitOnP p = l.takeWhile (fun x => !p x) :: rest := by
  induction l with
  | nil => exact ⟨[], rfl⟩
  | cons x l ih =>
    obtain ⟨rest, hr⟩ := ih
    rw [List.splitOnP_cons_eq_if_modifyHead, hr, List.takeWhile_cons]
    cases p x with
    | true => exact ⟨_, rfl⟩
    | false => exact ⟨rest, rfl⟩

theorem matchedWindows_change (h : y.changes r.period) :
    matchedWindows r (y :: older) = matchedWindows r older ∧ inWindow r (y :: older) = false := by
  unfold matchedWindows inWindow
  rw [List.splitOnP_cons_eq_if_modifyHead, if_pos h, stretch_change h]
  exact ⟨rfl, rfl⟩

theorem inWindow_cons (h : y.changes r.period = false) :
    inWindow r (y :: older) = (y.matched r.id || inWindow r older) := by
  unfold inWindow
  rw [stretch_cons h, List.any_cons]

/-- a match counts its window unless the window has been counted before -/
theorem matchedWindows_cons (h : y.changes r.period = false) : matchedWindows r (y :: older) =
    matchedWindows r older + if y.matched r.id ∧ inWindow r older = false then 1 else 0 := by
  unfold matchedWindows inWindow stretch
  obtain ⟨rest, hr⟩ := splitOnP_head (Noted.changes r.period) older
  rw [List.splitOnP_cons_eq_if_modifyHead, if_neg (by rw [h]; simp), hr, List.modifyHead_cons]
  cases hm : y.matched r.id <;> cases hi : (older.takeWhile fun x => !x.changes r.period).any (Noted.matched r.id) <;>
    simp [hm, hi]

theorem matchedWindows_pos (h : inWindow r trace) : 0 < matchedWindows r trace := by
  unfold matchedWindows
  obtain ⟨rest, hr⟩ := splitOnP_head (Noted.changes r.period) trace
  rw [hr]
  exact List.countP_pos_iff.2 ⟨_, List.mem_cons_self, h⟩

/-- a note of no match and no window counts nothing -/
theorem matchedWindows_neutral (hc : y.changes r.period = false) (hm : y.matched r.id = false) :
    matchedWindows r (y :: older) = matchedWindows r older ∧ inWindow r (y :: older) = inWindow r older := by
  rw [matchedWindows_cons hc, inWindow_cons hc, hm]
  simp

/-! ## The invariant -/

/-- when the clock was read, every badge had last been earned before what it showed -/
def Fresh (trace : List Noted) : Prop :=
  ∀ x ∈ trace, ∀ t, x.shows t → ∀ e ∈ x.engine.state.ledger.entries, e.lastEarned < t

/-- the ledger counts windows: no entry while none had a match, and else an entry whose stamp tells whether the
running window has been counted -/
structure Tally (r : Rule) (w : World σ) : Prop where
  unearned : w.engine.state.ledger.get? r.id = none → matchedWindows r w.trace = 0
  count : ∀ e, w.engine.state.ledger.get? r.id = some e → e.count = r.capped (matchedWindows r w.trace)
  pos : ∀ e, w.engine.state.ledger.get? r.id = some e → 0 < matchedWindows r w.trace
  closed : ∀ e, w.engine.state.ledger.get? r.id = some e → inWindow r w.trace →
    w.sinceOf r ≤ e.lastEarned ∨ Ledger.AtLimit r e
  opened : ∀ e, w.engine.state.ledger.get? r.id = some e → inWindow r w.trace = false → e.lastEarned < w.sinceOf r

theorem Tally.new (h : σ) : Tally r ({ host := h } : World σ) where
  unearned _ := rfl
  count e he := by rw [World.new_ledger] at he; cases he
  pos e he := by rw [World.new_ledger] at he; cases he
  closed e he := by rw [World.new_ledger] at he; cases he
  opened e he := by rw [World.new_ledger] at he; cases he

/-- what was counted -/
theorem Tally.counts (h : Tally r w) : w.engine.state.ledger.count r.id = r.capped (matchedWindows r w.trace) := by
  unfold Ledger.count
  cases hg : w.engine.state.ledger.get? r.id with
  | some e => exact h.count e hg
  | none =>
    rw [h.unearned hg, Rule.capped_zero]

/-- the tally sees the entry of the badge, the windows with a match and the start of the running one -/
theorem Tally.congr (h : Tally r w) (hg : w'.engine.state.ledger.get? r.id = w.engine.state.ledger.get? r.id)
    (hs : w'.sinceOf r = w.sinceOf r)
    (hm : matchedWindows r w'.trace = matchedWindows r w.trace ∧ inWindow r w'.trace = inWindow r w.trace) :
    Tally r w' where
  unearned he := by rw [hm.1]; exact h.unearned (hg ▸ he)
  count e he := by rw [hm.1]; exact h.count e (hg ▸ he)
  pos e he := by rw [hm.1]; exact h.pos e (hg ▸ he)
  closed e he hi := by rw [hs]; exact h.closed e (hg ▸ he) (hm.2 ▸ hi)
  opened e he hi := by rw [hs]; exact h.opened e (hg ▸ he) (hm.2 ▸ hi)

/-- a window that changes begins after every badge was last earned -/
theorem Tally.change (h : Tally r w) (hg : w'.engine.state.ledger.get? r.id = w.engine.state.ledger.get? r.id)
    (ht : w'.trace = y :: w.trace) (hy : y.changes r.period)
    (hlt : ∀ e ∈ w.engine.state.ledger.entries, e.lastEarned < w'.sinceOf r) : Tally r w' := by
  have hm : matchedWindows r w'.trace = matchedWindows r w.trace ∧ inWindow r w'.trace = false :=
    ht ▸ matchedWindows_change hy
  refine ⟨fun he => ?_, fun e he => ?_, fun e he => ?_, fun e he hi => ?_, fun e he _ => ?_⟩
  · rw [hm.1]; exact h.unearned (hg ▸ he)
  · rw [hm.1]; exact h.count e (hg ▸ he)
  · rw [hm.1]; exact h.pos e (hg ▸ he)
  · rw [hm.2] at hi; cases hi
  · exact hlt e (Ledger.get?_mem (hg ▸ he))

theorem World.hasRead.lt {t : Instant} (h : w.hasRead t) (hf : Fresh w.trace) {e : Earned}
    (he : e ∈ w.engine.state.ledger.entries) : e.lastEarned < t := by
  obtain ⟨x, hx, hn, hl⟩ := h
  exact hf x hx t hn e (hl ▸ he)

/-- the notes of a match, once recorded, count its window -/
theorem matched_trace (r : Rule) (w : World σ) (t : Instant) (e : Option Earned) (since : Instant) (g : Engine) :
    matchedWindows r (⟨.recorded r.id since t e, g⟩ :: (w.matching r.id t).trace) =
        matchedWindows r w.trace + (if inWindow r w.trace = false then 1 else 0) ∧
      inWindow r (⟨.recorded r.id since t e, g⟩ :: (w.matching r.id t).trace) := by
  have hm : (⟨.judged r.id (.ok (.ok true)), w.engine⟩ : Noted).matched r.id := by
    simp [Noted.matched]
  rw [(matchedWindows_neutral rfl rfl).1, (matchedWindows_neutral rfl rfl).2, World.matching_trace,
    (matchedWindows_neutral rfl rfl).1, (matchedWindows_neutral rfl rfl).2, matchedWindows_cons rfl, inWindow_cons rfl]
  simp [hm]

/-- the notes of a match of another rule count nothing -/
theorem unmatched_trace {id : String} (hid : id ≠ r.id) (w : World σ) (t : Instant) (e : Option Earned)
    (since : Instant) (g : Engine) :
    matchedWindows r (⟨.recorded id since t e, g⟩ :: (w.matching id t).trace) = matchedWindows r w.trace ∧
      inWindow r (⟨.recorded id since t e, g⟩ :: (w.matching id t).trace) = inWindow r w.trace := by
  have hm : (⟨.judged id (.ok (.ok true)), w.engine⟩ : Noted).matched r.id = false := by
    simp [Noted.matched, hid]
  rw [(matchedWindows_neutral rfl rfl).1, (matchedWindows_neutral rfl rfl).2, World.matching_trace,
    (matchedWindows_neutral rfl rfl).1, (matchedWindows_neutral rfl rfl).2]
  exact matchedWindows_neutral rfl hm

/-! ## Moves keep the invariant -/

/-- windows began no later than the clock shows -/
theorem Stamped.since_le (hst : Stamped w) {id : String} {t : Instant} (ht : Rising (w.matching id t).trace)
    (p : Period) : (w.engine.state.windows.get p).since ≤ t := by
  rcases hst.windows p with he | ⟨x, hx, hs⟩
  · exact le_of_eq_of_le he (ht.start _ List.mem_cons_self t rfl)
  · exact Nat.le_of_lt (ht.lt rfl (List.mem_cons_of_mem _ hx) hs)

/-- a match that is held back is the second of its window, or meets the limit -/
theorem Tally.held (h : Tally r w) {t : Instant} {l : Ledger}
    (hl : w.engine.state.ledger.record r (w.sinceOf r) t = (none, l)) :
    Tally r ((w.matching r.id t).noting (.recorded r.id (w.sinceOf r) t none)) := by
  obtain ⟨-, e, hg, hheld⟩ := Ledger.record_held hl
  obtain ⟨hk, hi⟩ := matched_trace r w t none (w.sinceOf r) (w.matching r.id t).engine
  have hcount : r.capped (matchedWindows r w.trace + if inWindow r w.trace = false then 1 else 0) =
      r.capped (matchedWindows r w.trace) := by
    cases hin : inWindow r w.trace with
    | true => rfl
    | false =>
      -- the gate is open, so the limit is reached, and one more window does not count
      have atLimit := hheld.resolve_left (Moment.not_le.2 (h.opened e hg hin))
      exact Rule.capped_succ_atLimit (h.count e hg) atLimit (h.pos e hg)
  refine ⟨fun he => ?_, fun e' he => ?_, fun e' _ => ?_, fun e' he _ => ?_, fun e' he hin => ?_⟩
  · cases hg.symm.trans he
  · rw [World.noting_trace, hk, hcount]
    exact h.count e' he
  · rw [World.noting_trace, hk]
    exact Nat.lt_of_lt_of_le (h.pos e hg) (Nat.le_add_right _ _)
  · obtain rfl : e = e' := Option.some.inj (hg.symm.trans he)
    exact hheld
  · rw [World.noting_trace, hi] at hin
    cases hin

/-- a match that earns its badge is the first of its window, below the limit -/
theorem Tally.earned (h : Tally r w) {t : Instant} {e : Earned} {l : Ledger}
    (hl : w.engine.state.ledger.record r (w.sinceOf r) t = (some e, l)) (hsince : w.sinceOf r ≤ t) :
    Tally r (w.earning r t e l) := by
  have hg := Ledger.record_get?_self hl
  obtain ⟨-, hmade⟩ := Ledger.record_earned hl
  obtain ⟨hk, hi⟩ := matched_trace r w t (some e) (w.sinceOf r) (w.earning r t e l).engine
  have hcount : e.count = r.capped (matchedWindows r w.trace + if inWindow r w.trace = false then 1 else 0) := by
    rcases hmade with ⟨hnone, rfl⟩ | ⟨old, hold, hlt, hlim, rfl⟩
    · have hk := h.unearned hnone
      have hin : inWindow r w.trace = false := by
        by_contra hin
        have := matchedWindows_pos (by simpa using hin)
        omega
      rw [hk, if_pos hin, Nat.zero_add, Rule.capped_one]
    · have hin : inWindow r w.trace = false := by
        by_contra hin
        rcases h.closed old hold (by simpa using hin) with hle | hle
        · exact absurd hlt (Moment.not_lt.2 hle)
        · exact hlim hle
      rw [if_pos hin]
      exact Rule.capped_succ (h.count old hold) hlim
  have hlast : w.sinceOf r ≤ e.lastEarned := by
    rcases hmade with ⟨-, rfl⟩ | ⟨old, -, -, -, rfl⟩
    · exact hsince
    · exact Nat.le_trans hsince (Moment.le_later_left t old.lastEarned)
  refine ⟨fun he => ?_, fun e' he => ?_, fun e' _ => ?_, fun e' he _ => ?_, fun e' he hin => ?_⟩
  · cases hg.symm.trans he
  · obtain rfl : e = e' := Option.some.inj (hg.symm.trans he)
    rw [World.earning_trace, hk, hcount]
  · rw [World.earning_trace]
    exact matchedWindows_pos hi
  · obtain rfl : e = e' := Option.some.inj (hg.symm.trans he)
    exact .inl hlast
  · rw [World.earning_trace, hi] at hin
    cases hin

/-- the entries of the ledger were last earned at instants shown before a note -/
theorem Fresh.cons (hf : Fresh older) (ht : Rising (y :: older))
    (hs : ∀ e ∈ y.engine.state.ledger.entries, ∃ x ∈ older, x.shows e.lastEarned) : Fresh (y :: older) := by
  intro x hx t hxt e he
  rcases List.mem_cons.1 hx with rfl | hx
  · obtain ⟨z, hz, hzs⟩ := hs e he
    exact ht.lt hxt hz hzs
  · exact hf x hx t hxt e he

theorem Fresh.cons_remark (hf : Fresh older) (hy : ∀ t, ¬ y.shows t) : Fresh (y :: older) := by
  intro x hx t hxt e he
  rcases List.mem_cons.1 hx with rfl | hx
  · exact absurd hxt (hy t)
  · exact hf x hx t hxt e he

theorem Fresh.matching (hf : Fresh w.trace) (hst : Stamped w) {id : String} {t : Instant}
    (ht : Rising (w.matching id t).trace) : Fresh (w.matching id t).trace := by
  have hj : Fresh (w.noting (.judged id (.ok (.ok true)))).trace := hf.cons_remark fun _ h => by cases h
  refine hj.cons ht fun e he => ?_
  obtain ⟨x, hx, hs⟩ := hst.ledger e he
  exact ⟨x, List.mem_cons_of_mem _ hx, hs⟩

theorem Fresh.kept (hf : Fresh w.trace) (hst : Stamped w) (h : Move s w w') (ht : Rising w'.trace) :
    Fresh w'.trace := by
  cases h.change with
  | still _ _ trace =>
    rcases trace with trace | ⟨n, -, trace⟩
    · rw [trace]
      exact hf
    · rw [trace] at ht ⊢
      exact hf.cons ht fun e he => hst.ledger e he
  | unread id e h => subst h; exact (hf.cons_remark fun _ h => by cases h).cons_remark fun _ h => by cases h
  | held r hr t l hl h =>
    subst h
    exact (hf.matching hst (ht.of_suffix (List.suffix_cons ..))).cons_remark fun _ h => by cases h
  | earned r hr t e l hl h =>
    subst h
    exact (hf.matching hst (ht.of_suffix (List.suffix_cons ..))).cons_remark fun _ h => by cases h
  | refreshed t l ht h =>
    subst h
    rw [World.refreshing_trace]
    exact hf.cons_remark fun _ h => by cases h
  | counted a t ht n key h => subst h; exact hf.cons_remark fun _ h => by cases h

theorem Tally.refreshed (hw : Tally r w) (hf : Fresh w.trace) {t : Instant} (hread : w.hasRead t) (l : Moment) :
    Tally r (w.refreshing t l) := by
  have hg : (w.refreshing t l).engine.state.ledger.get? r.id = w.engine.state.ledger.get? r.id := by
    rw [World.refreshing_ledger]
  have htr := w.refreshing_trace t l
  have hs := w.refreshing_since t l r
  cases hc : (⟨.refreshed t l (w.engine.state.windows.refresh t l).2, (w.refreshing t l).engine⟩ : Noted).changes
    r.period with
  | true =>
    refine hw.change hg htr hc fun e he => ?_
    rw [hs, if_pos hc]
    exact Nat.lt_of_lt_of_le (hread.lt hf he) (Moment.le_later_left t _)
  | false =>
    refine hw.congr hg (by rw [hs, hc]; rfl) ?_
    rw [htr]
    exact matchedWindows_neutral hc rfl

theorem Tally.counted (hw : Tally r w) (hf : Fresh w.trace) {t : Instant} (hread : w.hasRead t) (a : Axis) (n : Int)
    (key : String) : Tally r (w.counting a n (w.engine.state.windows.set (.counter a)
      ⟨key, t.later (w.engine.state.windows.get (.counter a)).since⟩)) := by
  have hs := w.counting_since a n key t r
  by_cases hp : r.period = .counter a
  · refine hw.change rfl rfl (changes_counted.trans (decide_eq_true hp)) fun e he => ?_
    rw [hs, if_pos hp]
    exact Nat.lt_of_lt_of_le (hread.lt hf he) (Moment.le_later_left t _)
  · refine hw.congr rfl (by rw [hs, if_neg hp]) ?_
    exact matchedWindows_neutral (changes_counted.trans (decide_eq_false hp)) rfl

theorem Tally.kept (hd : DistinctRules s.rules) (hr : r ∈ s.rules) (hw : Tally r w) (hf : Fresh w.trace)
    (hst : Stamped w) (h : Move s w w') (ht : Ticking w'.trace) : Tally r w' := by
  cases h.change with
  | still windows ledger trace =>
    have hsince : w'.sinceOf r = w.sinceOf r := by
      unfold World.sinceOf
      rw [windows]
    refine hw.congr (by rw [ledger]) hsince ?_
    rcases trace with trace | ⟨n, hn, trace⟩ <;> rw [trace]
    · exact ⟨rfl, rfl⟩
    · have hy := quiet_of_neutral hn w.engine r.period r.id
      exact matchedWindows_neutral hy.1 hy.2.1
  | unread id e h => subst h; exact absurd rfl (ht.not_failed List.mem_cons_self)
  | held r' hr' t l hl h =>
    subst h
    by_cases hid : r'.id = r.id
    · obtain rfl := hd.eq_of_id hr hr' hid
      exact hw.held hl
    · exact hw.congr rfl rfl (unmatched_trace hid w t none _ _)
  | earned r' hr' t e l hl h =>
    subst h
    by_cases hid : r'.id = r.id
    · obtain rfl := hd.eq_of_id hr hr' hid
      exact hw.earned hl (hst.since_le (ht.rises.of_suffix (List.suffix_cons ..)) r'.period)
    · exact hw.congr (Ledger.record_get?_of_ne (Ne.symm hid) hl) rfl (unmatched_trace hid w t (some e) _ _)
  | refreshed t l hread h => subst h; exact hw.refreshed hf hread l
  | counted a t hread n key h => subst h; exact hw.counted hf hread a n key

/-! ## Moments -/

namespace Noted

/-- a condition was found to hold -/
def holds (x : Noted) : Bool :=
  match x.note with
  | .judged _ (.ok (.ok true)) => true
  | _ => false

def reads (x : Noted) : Bool :=
  match x.note with
  | .clock _ => true
  | _ => false

end Noted

/-- a match is being recorded: its condition was found to hold last, or the clock was read for it since -/
def recording : List Noted → Bool
  | [] => false
  | x :: past => x.holds || (x.reads && past.head?.any Noted.holds)

/-- at every moment but while a match is recorded, the count of a rule's badge was the number of windows with a match
so far -/
def Counted (r : Rule) (trace : List Noted) : Prop :=
  ∀ x past, x :: past <:+ trace → recording (x :: past) = false →
    x.engine.state.ledger.count r.id = r.capped (matchedWindows r (x :: past))

theorem Counted.cons (h : Counted r older) (hy : recording (y :: older) = false →
    y.engine.state.ledger.count r.id = r.capped (matchedWindows r (y :: older))) : Counted r (y :: older) := by
  intro x past hs hrec
  rcases List.suffix_cons_iff.1 hs with heq | hs
  · obtain ⟨rfl, rfl⟩ := List.cons.inj heq
    exact hy hrec
  · exact h x past hs hrec

theorem Counted.matching (h : Counted r w.trace) (id : String) (t : Instant) : Counted r (w.matching id t).trace :=
  (h.cons fun hrec => by cases hrec).cons fun hrec => by cases hrec

theorem Counted.kept (hc : Counted r w.trace) (h : Move s w w') (hw : Tally r w') : Counted r w'.trace := by
  have counts := hw.counts
  cases h.change with
  | still windows ledger trace =>
    rcases trace with trace | ⟨n, hn, trace⟩
    · rw [trace]
      exact hc
    · rw [ledger] at counts
      rw [trace] at counts ⊢
      exact hc.cons fun _ => counts
  | unread id e h => subst h; exact (hc.cons fun hrec => by cases hrec).cons fun hrec => by cases hrec
  | held r' hr' t l hl h => subst h; exact (hc.matching r'.id t).cons fun _ => counts
  | earned r' hr' t e l hl h => subst h; exact (hc.matching r'.id t).cons fun _ => counts
  | refreshed t l hread h =>
    subst h
    rw [World.refreshing_trace] at counts ⊢
    exact hc.cons fun _ => counts
  | counted a t hread n key h => subst h; exact hc.cons fun _ => counts

/-- the invariant of a history under a clock that ticks -/
structure Ticked (r : Rule) (w : World σ) : Prop where
  stamped : Stamped w
  fresh : Fresh w.trace
  tally : Tally r w
  counted : Counted r w.trace

theorem Ticked.new (h : σ) : Ticked r ({ host := h } : World σ) where
  stamped := .new h
  fresh x hx := by cases hx
  tally := .new h
  counted x past hs := absurd (List.suffix_nil.1 hs) (List.cons_ne_nil x past)

theorem Ticked.kept (hd : DistinctRules s.rules) (hr : r ∈ s.rules) (hw : Ticked r w) (h : Move s w w')
    (ht : Ticking w'.trace) : Ticked r w' :=
  have tally := hw.tally.kept hd hr hw.fresh hw.stamped h ht
  ⟨hw.stamped.kept h, hw.fresh.kept hw.stamped h ht.rises, tally, hw.counted.kept h tally⟩

/-- the invariant holds in every unloaded history under a clock that ticks -/
theorem Unloaded.ticked (hd : DistinctRules s.rules) (hr : r ∈ s.rules) (hw : Unloaded s w) (ht : Ticking w.trace) :
    Ticked r w :=
  hw.invariant (P := fun w => Ticking w.trace → Ticked r w) (fun h _ => .new h) (fun hv hm ht =>
    (hv (ht.of_suffix hm.suffix)).kept hd hr hm ht) ht

/-! ## Result -/

/-- **Once per window.** Under a clock that ticks, the count of a rule's badge is, after any requests and at every
moment but while a match is recorded, the number of windows in which its condition was found to hold, up to its
limit; a limit below one holds back no first award. -/
theorem count_eq_windows (hd : DistinctRules s.rules) (hr : r ∈ s.rules) (hw : Unloaded s w) (ht : Ticking w.trace) :
    w.engine.state.ledger.count r.id = r.capped (matchedWindows r w.trace) ∧
      ∀ x past, x :: past <:+ w.trace → recording (x :: past) = false →
        x.engine.state.ledger.count r.id = r.capped (matchedWindows r (x :: past)) := by
  have h := hw.ticked hd hr ht
  exact ⟨h.tally.counts, h.counted⟩

/-- what the clock showed, the last in front -/
def readings (trace : List Noted) : List (Except Problem Instant) :=
  trace.filterMap fun x => match x.note with | .clock c => some c | _ => none

theorem pairwise_of_readings
    (h : (readings trace).Pairwise fun c d => ∀ t u, c = .ok t → d = .ok u → u < t) :
    trace.Pairwise fun x y => ∀ t u, x.shows t → y.shows u → u < t := by
  refine (List.pairwise_filterMap.1 h).imp fun hxy t u hx hy => ?_
  exact hxy (.ok t) (by rw [hx]) (.ok u) (by rw [hy]) t u rfl rfl

theorem Rising.of_readings (start : ∀ c ∈ readings trace, ∀ t, c = .ok t → epoch ≤ t)
    (h : (readings trace).Pairwise fun c d => ∀ t u, c = .ok t → d = .ok u → u < t) : Rising trace where
  start x hx t ht := start (.ok t) (List.mem_filterMap.2 ⟨x, hx, by rw [show x.note = _ from ht]⟩) t rfl
  rising := pairwise_of_readings h

theorem Ticking.of_readings (ts : List Instant) (h : readings trace = ts.map .ok)
    (hr : ts.Pairwise fun t u => u < t) (he : ∀ t ∈ ts, epoch ≤ t) : Ticking trace where
  read x hx c hc := by
    have hm : c ∈ readings trace := List.mem_filterMap.2 ⟨x, hx, by rw [hc]⟩
    rw [h] at hm
    obtain ⟨t, ht, rfl⟩ := List.mem_map.1 hm
    exact ⟨t, rfl, he t ht⟩
  rising := by
    refine pairwise_of_readings ?_
    rw [h, List.pairwise_map]
    refine hr.imp fun hlt t u ht hu => ?_
    cases ht
    cases hu
    exact hlt

/-- two sessions, the first with two matches, under a clock that ticks every minute -/
def twoSessions : World (List Moment) :=
  World.after (clockwork sessionRule) { host := [july 930, july 931, july 932, july 933, july 934, july 935, july 936,
    july 937] } [.operate (.start .session), .operate .evaluate, .operate (.start .session)]

/-- two windows with matches are counted -/
theorem twoSessions_count : Unloaded (clockwork sessionRule) twoSessions ∧ Ticking twoSessions.trace ∧
    matchedWindows sessionRule twoSessions.trace = 2 ∧ twoSessions.engine.state.ledger.count sessionRule.id = 2 := by
  have hw : Unloaded (clockwork sessionRule) twoSessions := Reach.after (.new _) (by decide)
  have ht : Ticking twoSessions.trace := by
    refine .of_readings [july 937, july 936, july 935, july 934, july 933, july 932, july 931, july 930] ?_
      (by decide) (by decide)
    decide +kernel
  have hk : matchedWindows sessionRule twoSessions.trace = 2 := by decide +kernel
  have hd : DistinctRules (clockwork sessionRule).rules := List.nodup_singleton _
  have hr : sessionRule ∈ (clockwork sessionRule).rules := List.mem_singleton_self _
  have h := count_eq_windows hd hr hw ht
  refine ⟨hw, ht, hk, ?_⟩
  rw [h.1, hk]
  rfl

/-- an evaluation during which the clock fails, after it was read for the windows and before it is read for the match -/
def stoppedRun : World (List Moment) :=
  World.after (clockwork sessionRule) { host := [july 930] } [.operate .evaluate]

/-- a count is above its limit when the limit is zero, and it misses a window with a match when the clock fails -/
theorem count_ne_windows :
    (Unloaded (clockwork neverRule) neverRun ∧ Ticking neverRun.trace ∧ matchedWindows neverRule neverRun.trace = 1 ∧
      neverRule.max = some 0 ∧ neverRun.engine.state.ledger.count neverRule.id = 1) ∧
    Unloaded (clockwork sessionRule) stoppedRun ∧ Rising stoppedRun.trace ∧
      matchedWindows sessionRule stoppedRun.trace = 1 ∧ sessionRule.max = none ∧
      stoppedRun.engine.state.ledger.count sessionRule.id = 0 := by
  have ticking : Ticking neverRun.trace := by
    refine .of_readings [july 931, july 930] ?_ (by decide) (by decide)
    decide +kernel
  have rising : Rising stoppedRun.trace := by
    have read : readings stoppedRun.trace = [.error .outOfRange, .ok (july 930)] := by rfl
    refine .of_readings ?_ ?_ <;> rw [read]
    · intro c hc t ht
      obtain rfl | rfl : c = _ ∨ c = .ok (july 930) := by simpa using hc
      · cases ht
      · cases ht
        decide
    · simp
  refine ⟨⟨Reach.after (.new _) (by decide), ticking, ?_, rfl, ?_⟩, Reach.after (.new _) (by decide), rising, ?_, rfl,
    ?_⟩ <;> decide +kernel

end BadgeEngine
