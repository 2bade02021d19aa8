/-
How often a badge is earned within one window of its period, under any clock.

The ledger raises a count when the window began after the badge was last earned. That closes the gate for the rest
of the window only if the clock shows the window's start or later when the badge is earned. A clock that stepped back
meanwhile, or that stands before the epoch, leaves the gate open, and the next match raises the count again.

Results, over every unloaded history and every clock:
- `raised_once_iff`: between two changes of the window the count is raised at most once exactly when no badge earned
  early is followed by a match below the limit (`Reopens`); a count is the number of its raises;
- `raised_twice`: it is raised twice in one session when the clock steps back by a minute;
- `raised_once_of_forward`: under a clock that starts at the epoch or later and never steps back it is raised at most
  once.
-/
import BadgeEngine.Proofs.History

namespace BadgeEngine

open BadgeEngine.Time Relation

variable {σ : Type} {s : Setup σ} {w w' : World σ} {r : Rule} {x y : Noted} {seg trace older : List Noted}

/-! ## Early raises -/

namespace Noted

/-- the count of a badge was raised at an instant before the window of its rule began -/
def early (id : String) (x : Noted) : Bool :=
  match x.note with
  | .recorded rule since t (some _) => rule = id && t < since
  | _ => false

/-- a match of a rule was recorded below its limit: it raised the count, or was held back all the same -/
def below (r : Rule) (x : Noted) : Bool :=
  match x.note with
  | .recorded rule _ _ (some _) => rule = r.id
  | .recorded rule _ _ none => rule = r.id && !(r.max.any fun m => m ≤ x.engine.state.ledger.count r.id)
  | _ => false

theorem raises_of_early {id : String} (h : x.early id) : x.raises id := by
  unfold early at h
  unfold raises
  split at h
  · simp_all
  · cases h

theorem below_of_raises (h : x.raises r.id) : x.below r := by
  unfold raises at h
  unfold below
  split at h
  · simp_all
  · cases h

end Noted

/-- within notes, the last in front, a badge was earned early and a match below the limit followed -/
def Reopens (r : Rule) (seg : List Noted) : Prop :=
  ∃ newer x older, seg = newer ++ x :: older ∧ x.early r.id ∧ ∃ y ∈ newer, y.below r

/-- the last raise of a rule's badge in the running window -/
def lastRaise (r : Rule) (trace : List Noted) : Option Noted :=
  (stretch r.period trace).find? (Noted.raises r.id)

/-- each match of a rule met the gate as the raise before it in its window had left it -/
def Gated (r : Rule) : List Noted → Prop
  | [] => True
  | y :: older => Gated r older ∧ ∀ x, lastRaise r older = some x →
      (y.raises r.id → x.early r.id) ∧ (x.early r.id → y.below r → y.raises r.id)

/-! ## Stretches -/

theorem stretch_append (h : ∀ x ∈ seg, x.changes r.period = false) (rest : List Noted) :
    stretch r.period (seg ++ rest) = seg ++ stretch r.period rest :=
  List.takeWhile_append_of_pos fun x hx => by rw [h x hx]; rfl

theorem lastRaise_cons (h : y.changes r.period = false) :
    lastRaise r (y :: older) = if y.raises r.id then some y else lastRaise r older := by
  unfold lastRaise
  rw [stretch_cons h, List.find?_cons]
  cases y.raises r.id <;> rfl

theorem lastRaise_change (h : y.changes r.period) : lastRaise r (y :: older) = none := by
  unfold lastRaise
  rw [stretch_change h]
  rfl

theorem reopens_cons : Reopens r (y :: seg) ↔ Reopens r seg ∨ (y.below r ∧ ∃ x ∈ seg, x.early r.id) := by
  constructor
  · rintro ⟨newer, x, older, he, hx, z, hz, hb⟩
    cases newer with
    | nil => cases hz
    | cons y' newer =>
      obtain ⟨rfl, rfl⟩ := List.cons.inj he
      rcases List.mem_cons.1 hz with rfl | hz
      · exact .inr ⟨hb, x, by simp, hx⟩
      · exact .inl ⟨newer, x, older, rfl, hx, z, hz, hb⟩
  · rintro (⟨newer, x, older, rfl, hx, z, hz, hb⟩ | ⟨hb, x, hx, he⟩)
    · exact ⟨y :: newer, x, older, rfl, hx, z, List.mem_cons_of_mem _ hz, hb⟩
    · obtain ⟨newer, older, rfl⟩ := List.append_of_mem hx
      exact ⟨y :: newer, x, older, rfl, he, y, List.mem_cons_self, hb⟩

theorem eq_of_countP_le_one {α : Type} {p : α → Bool} {l : List α} (h : l.countP p ≤ 1) {a b : α} (ha : a ∈ l)
    (hpa : p a) (hb : b ∈ l) (hpb : p b) : a = b := by
  rw [List.countP_eq_length_filter] at h
  have ha := List.mem_filter.2 ⟨ha, hpa⟩
  have hb := List.mem_filter.2 ⟨hb, hpb⟩
  generalize l.filter p = k at h ha hb
  rcases k with _ | ⟨c, _ | ⟨d, k⟩⟩
  · cases ha
  · rw [List.mem_singleton.1 ha, List.mem_singleton.1 hb]
  · simp at h

/-- within one window, a gated history raises a count twice exactly when it reopens the gate -/
theorem Gated.countP_le_one_iff (hseg : ∀ x ∈ seg, x.changes r.period = false) {rest : List Noted}
    (hg : Gated r (seg ++ rest)) : seg.countP (Noted.raises r.id) ≤ 1 ↔ ¬ Reopens r seg := by
  induction seg with
  | nil =>
    refine iff_of_true (by simp) ?_
    rintro ⟨newer, x, older, he, -⟩
    cases newer <;> cases he
  | cons y seg ih =>
    have hin : ∀ x ∈ seg, x.changes r.period = false := fun x hx => hseg x (List.mem_cons_of_mem _ hx)
    have ih := ih hin hg.1
    have last : ∀ x, seg.find? (Noted.raises r.id) = some x → lastRaise r (seg ++ rest) = some x := by
      intro x hx
      rw [lastRaise, stretch_append hin, List.find?_append, hx]
      rfl
    rw [reopens_cons]
    by_cases hy : y.raises r.id
    · -- a raise: at most one only if it is the first, and then nothing early came before
      rw [List.countP_cons_of_pos hy]
      cases hf : seg.find? (Noted.raises r.id) with
      | none =>
        have hn : ∀ x ∈ seg, ¬ x.raises r.id := by simpa using hf
        have h0 : seg.countP (Noted.raises r.id) = 0 := List.countP_eq_zero.2 hn
        refine iff_of_true (by omega) ?_
        rintro (h | ⟨-, x, hx, he⟩)
        · exact ih.1 (by omega) h
        · exact hn x hx (Noted.raises_of_early he)
      | some x =>
        have hx := List.mem_of_find?_eq_some hf
        have h1 : 0 < seg.countP (Noted.raises r.id) := List.countP_pos_iff.2 ⟨x, hx, List.find?_some hf⟩
        have he : x.early r.id := (hg.2 x (last x hf)).1 hy
        refine iff_of_false (by omega) (not_not.2 (.inr ⟨Noted.below_of_raises hy, x, hx, he⟩))
    · rw [List.countP_cons_of_neg hy, ih]
      refine not_congr ⟨.inl, ?_⟩
      rintro (h | ⟨hb, x, hx, he⟩)
      · exact h
      · by_contra hn
        obtain ⟨x', hf⟩ := Option.isSome_iff_exists.1 (List.find?_isSome.2 ⟨x, hx, Noted.raises_of_early he⟩)
        have hxx : x = x' := eq_of_countP_le_one (ih.2 hn) hx (Noted.raises_of_early he) (List.mem_of_find?_eq_some hf)
          (List.find?_some hf)
        subst hxx
        exact hy ((hg.2 x (last x hf)).2 he hb)

/-! ## The gate -/

/-- what a history of a rule says of its gate: a count is the number of its raises; after a raise in the running
window the gate is open exactly if the raise was early; and each match so far met the gate as it was left -/
structure Gate (r : Rule) (w : World σ) : Prop where
  count : w.engine.state.ledger.count r.id = w.trace.countP (Noted.raises r.id)
  last : ∀ x, lastRaise r w.trace = some x → ∃ t e f, x.note = .recorded r.id (w.sinceOf r) t (some f) ∧
    w.engine.state.ledger.get? r.id = some e ∧ (e.lastEarned < w.sinceOf r ↔ t < w.sinceOf r)
  gated : Gated r w.trace

theorem early_iff {since t : Instant} {f : Earned} (h : x.note = .recorded r.id since t (some f)) :
    x.early r.id ↔ t < since := by
  simp [Noted.early, h]

theorem Gate.new (h : σ) : Gate r ({ host := h } : World σ) where
  count := by rw [World.new_ledger]; rfl
  last _ hx := by cases hx
  gated := trivial

/-- a note that raises no count of the rule keeps the gate, if it says so when the window changes and is no match
below the limit after an early raise -/
theorem Gate.cons (hw : Gate r w) (ht : w'.trace = y :: w.trace)
    (hl : w'.engine.state.ledger.get? r.id = w.engine.state.ledger.get? r.id)
    (hs : y.changes r.period = false → w'.sinceOf r = w.sinceOf r) (hy : y.raises r.id = false)
    (hb : ∀ x, lastRaise r w.trace = some x → x.early r.id → y.below r = false) : Gate r w' where
  count := by
    have hc : w'.engine.state.ledger.count r.id = w.engine.state.ledger.count r.id := by
      unfold Ledger.count
      rw [hl]
    rw [hc, hw.count, ht, List.countP_cons_of_neg (by rw [hy]; simp)]
  last x hx := by
    rw [ht] at hx
    cases hc : y.changes r.period with
    | true => rw [lastRaise_change hc] at hx; cases hx
    | false =>
      rw [lastRaise_cons hc, hy] at hx
      rw [hl, hs hc]
      exact hw.last x hx
  gated := by
    rw [ht]
    refine ⟨hw.gated, fun x hx => ⟨fun h => ?_, fun he h => ?_⟩⟩
    · rw [hy] at h; cases h
    · rw [hb x hx he] at h; cases h

/-- a note of no match keeps the gate -/
theorem Gate.noting (hw : Gate r w) {n : Note}
    (hy : (⟨n, w.engine⟩ : Noted).raises r.id = false) (hb : (⟨n, w.engine⟩ : Noted).below r = false) :
    Gate r (w.noting n) :=
  hw.cons rfl rfl (fun _ => rfl) hy fun _ _ _ => hb

theorem Gate.matching (hw : Gate r w) (id : String) (t : Instant) : Gate r (w.matching id t) :=
  (hw.noting rfl rfl).noting rfl rfl

theorem Gate.held (hw : Gate r w) {t : Instant} {l : Ledger}
    (hl : w.engine.state.ledger.record r (w.sinceOf r) t = (none, l)) :
    Gate r ((w.matching r.id t).noting (.recorded r.id (w.sinceOf r) t none)) := by
  have hm := hw.matching r.id t
  refine hm.cons rfl rfl (fun _ => rfl) rfl fun x hx he => ?_
  -- the gate was left open, so only the limit holds the match back
  obtain ⟨u, old, f, hn, hg, hopen⟩ := hm.last x hx
  obtain ⟨-, e, hg', hheld⟩ := Ledger.record_held hl
  obtain rfl : old = e := Option.some.inj (hg.symm.trans hg')
  rcases hheld with hclosed | ⟨m, hmax, hle⟩
  · exact absurd (hopen.2 ((early_iff hn).1 he)) (Moment.not_lt.2 hclosed)
  · have hc : w.engine.state.ledger.count r.id = old.count := by
      simp only [Ledger.count, hg']
    simp [Noted.below, hmax, hc, hle]

theorem Gate.earned (hw : Gate r w) {t : Instant} {e : Earned} {l : Ledger}
    (hl : w.engine.state.ledger.record r (w.sinceOf r) t = (some e, l)) : Gate r (w.earning r t e l) := by
  have hm := hw.matching r.id t
  have hc : (⟨.recorded r.id (w.sinceOf r) t (some e), (w.earning r t e l).engine⟩ : Noted).changes r.period = false :=
    rfl
  have hy : (⟨.recorded r.id (w.sinceOf r) t (some e), (w.earning r t e l).engine⟩ : Noted).raises r.id := by
    simp [Noted.raises]
  obtain ⟨-, hmade⟩ := Ledger.record_earned hl
  refine ⟨?_, fun x hx => ?_, hm.gated, fun x hx => ⟨fun _ => ?_, fun _ _ => hy⟩⟩
  · rw [World.earning_trace, List.countP_cons_of_pos hy, Int.natCast_succ, ← hm.count]
    exact Ledger.record_count hl
  · rw [World.earning_trace, lastRaise_cons hc, if_pos hy] at hx
    obtain rfl := Option.some.inj hx
    refine ⟨t, e, e, rfl, Ledger.record_get?_self hl, ?_⟩
    rcases hmade with ⟨-, rfl⟩ | ⟨old, -, hopen, -, rfl⟩
    · exact Iff.rfl
    · exact Moment.later_lt.trans (and_iff_left hopen)
  · obtain ⟨u, old, f, hn, hg, hopen⟩ := hm.last x hx
    rcases hmade with ⟨hnone, -⟩ | ⟨old', hold, hlt, -, -⟩
    · exact nomatch hg.symm.trans hnone
    · obtain rfl : old = old' := Option.some.inj (hg.symm.trans hold)
      exact (early_iff hn).2 (hopen.1 hlt)

theorem Gate.refreshed (hw : Gate r w) (t : Instant) (l : Moment) : Gate r (w.refreshing t l) := by
  refine hw.cons (w.refreshing_trace t l) (by rw [World.refreshing_ledger]) (fun hc => ?_) rfl fun _ _ _ => rfl
  rw [World.refreshing_since, if_neg (by rw [hc]; simp)]

theorem Gate.counted (hw : Gate r w) (a : Axis) (n : Int) (key : String) (t : Instant) :
    Gate r (w.counting a n (w.engine.state.windows.set (.counter a)
      ⟨key, t.later (w.engine.state.windows.get (.counter a)).since⟩)) := by
  refine hw.cons rfl rfl (fun hc => ?_) rfl fun _ _ _ => rfl
  rw [changes_counted] at hc
  rw [World.counting_since, if_neg (of_decide_eq_false hc)]

theorem below_of_neutral {n : Note} (hn : n.isNeutral) (e : Engine) : (⟨n, e⟩ : Noted).below r = false := by
  cases n <;> first | rfl | exact absurd hn (by simp [Note.isNeutral])

theorem Gate.kept (hd : DistinctRules s.rules) (hr : r ∈ s.rules) (hw : Gate r w) (h : Move s w w') : Gate r w' := by
  cases h.change with
  | still windows ledger trace =>
    have hsince : w'.sinceOf r = w.sinceOf r := by
      unfold World.sinceOf
      rw [windows]
    rcases trace with trace | ⟨n, hn, trace⟩
    · refine ⟨?_, ?_, trace ▸ hw.gated⟩
      · rw [ledger, trace]
        exact hw.count
      · rw [ledger, trace, hsince]
        exact hw.last
    · have hy := (quiet_of_neutral hn w.engine r.period r.id).2.2
      exact hw.cons trace (by rw [ledger]) (fun _ => hsince) hy fun _ _ _ => below_of_neutral hn w.engine
  | unread id e h => subst h; exact (hw.noting rfl rfl).noting rfl rfl
  | held r' hr' t l hl h =>
    subst h
    by_cases hid : r'.id = r.id
    · obtain rfl := hd.eq_of_id hr hr' hid
      exact hw.held hl
    · exact (hw.matching r'.id t).cons rfl rfl (fun _ => rfl) rfl fun _ _ _ => by simp [Noted.below, hid]
  | earned r' hr' t e l hl h =>
    subst h
    by_cases hid : r'.id = r.id
    · obtain rfl := hd.eq_of_id hr hr' hid
      exact hw.earned hl
    · have hget := Ledger.record_get?_of_ne (Ne.symm hid) hl
      refine (hw.matching r'.id t).cons rfl hget (fun _ => rfl) ?_ fun _ _ _ => ?_
      · simp [Noted.raises, hid]
      · simp [Noted.below, hid]
  | refreshed t l ht h => subst h; exact hw.refreshed t l
  | counted a t ht n key h => subst h; exact hw.counted a n key t

/-- the gate of a rule holds in every world that a host comes to without loading a state -/
theorem Unloaded.gate (hd : DistinctRules s.rules) (hr : r ∈ s.rules) (hw : Unloaded s w) : Gate r w :=
  hw.invariant .new fun hv hm => hv.kept hd hr hm

theorem Gated.of_append {newer : List Noted} (h : Gated r (newer ++ trace)) : Gated r trace := by
  induction newer with
  | nil => exact h
  | cons y newer ih => exact ih h.1

theorem Unloaded.countP_le_one_iff (hd : DistinctRules s.rules) (hr : r ∈ s.rules) (hw : Unloaded s w)
    (hseg : seg <:+: w.trace) (hc : ∀ x ∈ seg, x.changes r.period = false) :
    seg.countP (Noted.raises r.id) ≤ 1 ↔ ¬ Reopens r seg := by
  obtain ⟨newer, older, ht⟩ := hseg
  have hg : Gated r (newer ++ (seg ++ older)) := by
    rw [← List.append_assoc, ht]
    exact (hw.gate hd hr).gated
  exact hg.of_append.countP_le_one_iff hc

/-- **Raises in one window.** The count of a badge is the number of its raises; and within notes that tell of no
change of its rule's window, it is raised at most once exactly when the gate is not reopened. -/
theorem raised_once_iff (hd : DistinctRules s.rules) (hr : r ∈ s.rules) (hw : Unloaded s w) :
    w.engine.state.ledger.count r.id = w.trace.countP (Noted.raises r.id) ∧
      ∀ seg, seg <:+: w.trace → (∀ x ∈ seg, x.changes r.period = false) →
        (seg.countP (Noted.raises r.id) ≤ 1 ↔ ¬ Reopens r seg) :=
  ⟨(hw.gate hd hr).count, fun _ hseg hc => hw.countP_le_one_iff hd hr hseg hc⟩

/-! ## A clock that steps back -/

/-- a session that starts at 15:30, and an evaluation; the clock steps back to 15:29 right after the start -/
def steppedBack : World (List Moment) :=
  World.after (clockwork sessionRule) { host := [july 930, july 929, july 929, july 929] }
    [.operate (.start .session), .operate .evaluate]

theorem steppedBack_unloaded : Unloaded (clockwork sessionRule) steppedBack :=
  Reach.after (.new _) (by decide)

/-- in one session a count is raised twice when the clock steps back -/
theorem raised_twice : ∃ seg, seg <:+: steppedBack.trace ∧ (∀ x ∈ seg, x.changes sessionRule.period = false) ∧
    seg.countP (Noted.raises sessionRule.id) = 2 := by
  refine ⟨_, infix_of_stretch sessionRule.period _, fun _ => changes_of_mem_stretch, ?_⟩
  decide +kernel

/-- the gate of that session is reopened -/
theorem steppedBack_reopens :
    sessionRule ∈ (clockwork sessionRule).rules ∧ Unloaded (clockwork sessionRule) steppedBack ∧
      Reopens sessionRule (stretch sessionRule.period steppedBack.trace) := by
  have hr : sessionRule ∈ (clockwork sessionRule).rules := List.mem_singleton_self _
  refine ⟨hr, steppedBack_unloaded, ?_⟩
  have hd : DistinctRules (clockwork sessionRule).rules := List.nodup_singleton _
  have hiff := (raised_once_iff hd hr steppedBack_unloaded).2 _ (infix_of_stretch sessionRule.period _)
    fun _ => changes_of_mem_stretch
  refine not_not.1 fun hn => absurd (hiff.2 hn) ?_
  decide +kernel

/-! ## Clocks that never step back -/

/-- a clock that shows the epoch or later, and never an instant before one it has shown -/
structure Forward (trace : List Noted) : Prop where
  start : ∀ x ∈ trace, ∀ t, x.shows t → epoch ≤ t
  rising : trace.Pairwise fun x y => ∀ t u, x.shows t → y.shows u → u ≤ t

theorem Forward.of_cons (h : Forward (y :: older)) : Forward older :=
  ⟨fun x hx => h.start x (List.mem_cons_of_mem _ hx), (List.pairwise_cons.1 h.rising).2⟩

/-- a match is recorded at the instant shown last, in a window that began at the epoch or at an instant shown -/
def Dated : List Noted → Prop
  | [] => True
  | y :: older => Dated older ∧ ∀ id since t e, y.note = .recorded id since t e →
      (since = epoch ∨ ∃ x ∈ older, x.shows since) ∧ ∃ x rest, older = x :: rest ∧ x.shows t

/-- whether a note tells of a recorded match -/
def Note.isRecord : Note → Bool
  | .recorded .. => true
  | _ => false

theorem Dated.cons (h : Dated trace) (hy : y.note.isRecord = false) : Dated (y :: trace) := by
  refine ⟨h, fun id since t e he => ?_⟩
  rw [he] at hy
  cases hy

theorem Dated.kept (hd : Dated w.trace) (hst : Stamped w) (h : Move s w w') : Dated w'.trace := by
  have matching : ∀ id t, Dated (w.matching id t).trace := fun id t => (hd.cons rfl).cons rfl
  have recorded : ∀ (r : Rule) t e g, Dated (⟨.recorded r.id (w.sinceOf r) t e, g⟩ :: (w.matching r.id t).trace) := by
    refine fun r t e g => ⟨matching r.id t, fun id since u f he => ?_⟩
    cases he
    refine ⟨(hst.windows r.period).imp_right fun ⟨x, hx, ht⟩ => ⟨x, ?_, ht⟩, _, _, rfl, rfl⟩
    exact List.mem_cons_of_mem _ (List.mem_cons_of_mem _ hx)
  cases h.change with
  | still _ _ trace =>
    rcases trace with trace | ⟨n, hn, trace⟩ <;> rw [trace]
    · exact hd
    · refine hd.cons ?_
      cases n <;> first | rfl | cases hn
  | unread id e h => subst h; exact (hd.cons rfl).cons rfl
  | held r hr t l hl h => subst h; exact recorded r t none _
  | earned r hr t e l hl h => subst h; exact recorded r t (some e) _
  | refreshed t l ht h => subst h; rw [World.refreshing_trace]; exact hd.cons rfl
  | counted a t ht n key h => subst h; exact hd.cons rfl

theorem Dated.not_early (hd : Dated trace) (hf : Forward trace) {id : String} (hx : x ∈ trace) : ¬ x.early id := by
  induction trace with
  | nil => cases hx
  | cons y older ih =>
    have hold : Forward older := hf.of_cons
    rcases List.mem_cons.1 hx with rfl | hx
    · intro he
      unfold Noted.early at he
      split at he
      case h_2 => cases he
      case h_1 rule since t e hn =>
        obtain ⟨hsince, z, rest, rfl, hz⟩ := hd.2 _ _ _ _ hn
        have hlt : t < since := (by simpa using he : rule = id ∧ t < since).2
        have hle : since ≤ t := by
          rcases hsince with rfl | ⟨v, hv, hvs⟩
          · exact hold.start z List.mem_cons_self t hz
          · rcases List.mem_cons.1 hv with rfl | hv
            · rw [Noted.shows] at hz hvs
              rw [hz] at hvs
              cases hvs
              exact Nat.le_refl _
            · exact (List.pairwise_cons.1 hold.rising).1 v hv t since hz hvs
        exact absurd hlt (Moment.not_lt.2 hle)
    · exact ih hd.1 hold hx

/-- under a clock that never steps back, a count is raised at most once in one window -/
theorem raised_once_of_forward (hd : DistinctRules s.rules) (hr : r ∈ s.rules) (hw : Unloaded s w)
    (hf : Forward w.trace) (hseg : seg <:+: w.trace) (hc : ∀ x ∈ seg, x.changes r.period = false) :
    seg.countP (Noted.raises r.id) ≤ 1 := by
  have hdated : Stamped w ∧ Dated w.trace :=
    hw.invariant (P := fun w => Stamped w ∧ Dated w.trace) (fun h => ⟨.new h, trivial⟩) fun hv hm =>
      ⟨hv.1.kept hm, hv.2.kept hv.1 hm⟩
  refine (hw.countP_le_one_iff hd hr hseg hc).2 ?_
  rintro ⟨newer, x, older, rfl, hx, -⟩
  exact hdated.2.not_early hf (hseg.subset (by simp)) hx

end BadgeEngine
