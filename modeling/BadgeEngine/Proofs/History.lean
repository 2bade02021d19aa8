/-
Histories: the worlds a host can come to without loading a state, and what a trace tells about windows and rules.

A move changes windows, the ledger or what was noted of matches in one of six ways (`Change`); the invariants of
histories are shown for each of them once. `Stamped` is the first: every window began at the epoch or at an instant
that the clock has shown, and every badge was last earned at one.
-/
import Mathlib.Data.List.TakeWhile
import BadgeEngine.Proofs.Ledger
import BadgeEngine.Proofs.Moves
import BadgeEngine.Verdict

namespace BadgeEngine

open BadgeEngine.Time Relation

variable {σ : Type} {s : Setup σ} {w w' : World σ}

/-! ## Rules of an engine -/

theorem bind_ok {α β : Type} {x : Except Problem α} {f : α → Except Problem β} {b : β} (h : (x >>= f) = .ok b) :
    ∃ a, x = .ok a ∧ f a = .ok b := by
  cases x with
  | error e => cases h
  | ok a => exact ⟨a, rfl, h⟩

/-- a result that is only carried on is a problem exactly when it was one before -/
theorem map_error_iff {α β : Type} {x : Except Problem α} {f : α → β} {e : Problem} :
    (do return f (← x)) = (.error e : Except Problem β) ↔ x = .error e := by
  cases x with
  | error e' => exact ⟨fun h => congrArg _ (Except.error.inj h), fun h => congrArg _ (Except.error.inj h)⟩
  | ok a => exact ⟨nofun, nofun⟩

/-- no id of a rule occurs twice; this is checked when rules are read -/
def DistinctRules (rules : List Rule) : Prop := (rules.map (·.id)).Nodup

theorem DistinctRules.eq_of_id {rules : List Rule} (h : DistinctRules rules) {r r' : Rule} (hr : r ∈ rules)
    (hr' : r' ∈ rules) (hid : r'.id = r.id) : r' = r :=
  List.inj_on_of_nodup_map h hr' hr hid

/-- a limit below one is refused when a rule is read -/
theorem readMax_pos {id : String} {es : List (Value × Value)} {max : Option Int} (h : Rule.readMax id es = .ok max) :
    ∀ m, max = some m → 1 ≤ m := by
  unfold Rule.readMax at h
  split at h
  · cases h; nofun
  · cases h; nofun
  · split at h
    · split at h
      case isTrue hn =>
        cases h
        rintro m ⟨⟩
        exact hn
      case isFalse => obtain ⟨_, _, h⟩ := bind_ok h; cases h
    · obtain ⟨_, _, h⟩ := bind_ok h; cases h

theorem ofValue_max_pos {v : Value} {r : Rule} (h : Rule.ofValue v = .ok r) : ∀ m, r.max = some m → 1 ≤ m := by
  unfold Rule.ofValue at h
  obtain ⟨es, -, h⟩ := bind_ok h
  obtain ⟨id, -, h⟩ := bind_ok h
  obtain ⟨condition, -, h⟩ := bind_ok h
  obtain ⟨period, -, h⟩ := bind_ok h
  obtain ⟨max, hm, h⟩ := bind_ok h
  obtain ⟨active, -, h⟩ := bind_ok h
  cases h
  exact readMax_pos hm

/-- the rules read have distinct ids and limits of one or more -/
theorem readRules_checked {vs : List Value} {seen : List String} {rules : List Rule}
    (h : readRules seen vs = .ok rules) : DistinctRules rules ∧ ∀ r ∈ rules, r.id ∉ seen ∧ ∀ m, r.max = some m → 1 ≤ m := by
  induction vs generalizing seen rules with
  | nil => cases h; exact ⟨List.nodup_nil, nofun⟩
  | cons v vs ih =>
    unfold readRules at h
    obtain ⟨r, hr, h⟩ := bind_ok h
    split at h
    · cases h
    case isFalse hs =>
      obtain ⟨rest, hrest, h⟩ := bind_ok h
      cases h
      obtain ⟨hd, hrest⟩ := ih hrest
      refine ⟨List.nodup_cons.2 ⟨fun hm => ?_, hd⟩, fun r' hr' => ?_⟩
      · obtain ⟨r', hr', hid⟩ := List.mem_map.1 hm
        exact (hrest r' hr').1 (hid ▸ List.mem_cons_self)
      · rcases List.mem_cons.1 hr' with rfl | hr'
        · exact ⟨by simpa using hs, ofValue_max_pos hr⟩
        · exact ⟨fun hm => (hrest r' hr').1 (List.mem_cons_of_mem _ hm), (hrest r' hr').2⟩

/-- **Rules as they are read.** Their ids are distinct, and no limit is below one. -/
theorem rulesOfValue_checked {v : Value} {rules : List Rule} (h : rulesOfValue v = .ok rules) :
    DistinctRules rules ∧ ∀ r ∈ rules, ∀ m, r.max = some m → 1 ≤ m := by
  unfold rulesOfValue at h
  split at h
  · have hc := readRules_checked h
    exact ⟨hc.1, fun r hr => (hc.2 r hr).2⟩
  · cases h

/-! ## What notes tell -/

namespace Noted

def changes (p : Period) (x : Noted) : Bool :=
  match x.note, p with
  | .refreshed _ _ rolled, .calendar c => rolled.get c
  | .counted a _, .counter b => a = b
  | _, _ => false

/-- the condition of a rule was found to hold -/
def matched (id : String) (x : Noted) : Bool :=
  match x.note with
  | .judged rule (.ok (.ok true)) => rule = id
  | _ => false

/-- the count of a badge was raised -/
def raises (id : String) (x : Noted) : Bool :=
  match x.note with
  | .recorded rule _ _ (some _) => rule = id
  | _ => false

/-- the clock has shown an instant -/
def shows (t : Instant) (x : Noted) : Prop := x.note = .clock (.ok t)

end Noted

/-! ## Stretches of one window -/

variable {p : Period} {x y : Noted} {trace older : List Noted}

/-- the notes since the window of a period changed -/
def stretch (p : Period) (trace : List Noted) : List Noted :=
  trace.takeWhile fun x => !x.changes p

theorem infix_of_stretch (p : Period) (trace : List Noted) : stretch p trace <:+: trace :=
  (List.takeWhile_prefix _).isInfix

theorem changes_of_mem_stretch (h : x ∈ stretch p trace) : x.changes p = false := by
  simpa using List.mem_takeWhile_imp h

theorem stretch_cons (h : y.changes p = false) : stretch p (y :: older) = y :: stretch p older := by
  unfold stretch
  rw [List.takeWhile_cons, if_pos (by rw [h]; rfl)]

theorem stretch_change (h : y.changes p) : stretch p (y :: older) = [] := by
  unfold stretch
  rw [List.takeWhile_cons, if_neg (by rw [h]; simp)]

/-- something holds at every note, given the notes before it -/
def Throughout (P : Noted → List Noted → Prop) (trace : List Noted) : Prop :=
  ∀ x older, x :: older <:+ trace → P x older

theorem Throughout.nil {P : Noted → List Noted → Prop} : Throughout P [] :=
  fun x older hs => absurd (List.suffix_nil.1 hs) (List.cons_ne_nil x older)

theorem Throughout.cons {P : Noted → List Noted → Prop} (h : Throughout P older) (hx : P x older) :
    Throughout P (x :: older) := by
  intro y oldest hs
  rcases List.suffix_cons_iff.1 hs with heq | hs
  · obtain ⟨rfl, rfl⟩ := List.cons.inj heq
    exact hx
  · exact h y oldest hs

/-! ## Reachable worlds -/

/-- the worlds a host comes to: from a new engine, by changes of its own and by requests of a kind -/
inductive Reach (s : Setup σ) (may : Request → Prop) : World σ → Prop where
  | new (h : σ) : Reach s may { host := h }
  | host {w : World σ} (hw : Reach s may w) (h : σ) : Reach s may (w.withHost h)
  | asked {w : World σ} (hw : Reach s may w) (q : Request) (hq : may q) : Reach s may ((s.answer q).exec w).2

/-- a world a host comes to without loading a state -/
abbrev Unloaded (s : Setup σ) : World σ → Prop := Reach s fun q => q.isLoad = false

theorem Unloaded.moves (hw : Unloaded s w) : ∃ h : σ, Moves s { host := h } w ∧ w.engine.busy = false := by
  induction hw with
  | new h => exact ⟨h, .refl, rfl⟩
  | host hw h ih =>
    obtain ⟨h₀, hm, hb⟩ := ih
    exact ⟨h₀, hm.tail (.rule (.hook (.host _ h))), hb⟩
  | asked hw q hq ih =>
    obtain ⟨h₀, hm, hb⟩ := ih
    have hi := Run.leads_const.1 (answer_moves (s := s) hq _) hb
    exact ⟨h₀, hm.trans hi.1, hi.2⟩

theorem World.new_windows (h : σ) : ({ host := h } : World σ).engine.state.windows = .initial := rfl

theorem World.new_ledger (h : σ) : ({ host := h } : World σ).engine.state.ledger = .empty := rfl

/-- what holds of new worlds and is kept by moves holds of the worlds a host comes to without loading a state -/
theorem Unloaded.invariant {P : World σ → Prop} (new : ∀ h : σ, P { host := h })
    (kept : ∀ {w w' : World σ}, P w → Move s w w' → P w') (hw : Unloaded s w) : P w := by
  obtain ⟨h, hm, -⟩ := hw.moves
  clear hw
  induction hm with
  | refl => exact new h
  | tail _ hs ih => exact kept ih hs

/-! ## Kinds of moves -/

/-- a note of no match, no record and no window -/
def Note.isNeutral : Note → Bool
  | .refreshed .. | .counted .. | .recorded .. | .judged _ (.ok (.ok true)) => false
  | _ => true

theorem quiet_of_neutral {n : Note} (hn : n.isNeutral) (e : Engine) (p : Period) (id : String) :
    (⟨n, e⟩ : Noted).changes p = false ∧ (⟨n, e⟩ : Noted).matched id = false ∧ (⟨n, e⟩ : Noted).raises id = false := by
  cases n with
  | judged rule v =>
    rcases v with _ | _ | _ | _
    · exact ⟨rfl, rfl, rfl⟩
    · exact ⟨rfl, rfl, rfl⟩
    · exact ⟨rfl, rfl, rfl⟩
    · cases hn
  | refreshed | counted | recorded => cases hn
  | _ => exact ⟨rfl, rfl, rfl⟩

/-- what a move does to windows, the ledger and what was noted of matches -/
inductive Change (s : Setup σ) (w w' : World σ) : Prop where
  /-- windows and the ledger stay, and at most one note is taken, a neutral one -/
  | still (windows : w'.engine.state.windows = w.engine.state.windows)
      (ledger : w'.engine.state.ledger = w.engine.state.ledger)
      (trace : w'.trace = w.trace ∨ ∃ n : Note, n.isNeutral ∧ w'.trace = ⟨n, w.engine⟩ :: w.trace)
  /-- a condition holds, but the clock fails -/
  | unread (id : String) (e : Problem)
      (h : w' = (w.noting (.judged id (.ok (.ok true)))).noting (.clock (.error e)))
  | held (r : Rule) (hr : r ∈ s.rules) (t : Instant) (l : Ledger)
      (hl : w.engine.state.ledger.record r (w.sinceOf r) t = (none, l))
      (h : w' = (w.matching r.id t).noting (.recorded r.id (w.sinceOf r) t none))
  | earned (r : Rule) (hr : r ∈ s.rules) (t : Instant) (e : Earned) (l : Ledger)
      (hl : w.engine.state.ledger.record r (w.sinceOf r) t = (some e, l)) (h : w' = w.earning r t e l)
  | refreshed (t : Instant) (l : Moment) (ht : w.hasRead t) (h : w' = w.refreshing t l)
  | counted (a : Axis) (t : Instant) (ht : w.hasRead t) (n : Int) (key : String)
      (h : w' = w.counting a n (w.engine.state.windows.set (.counter a)
        ⟨key, t.later (w.engine.state.windows.get (.counter a)).since⟩))

theorem HookMove.change (h : HookMove w w') : Change s w w' := by
  cases h with
  | remarked n hn =>
    refine .still rfl rfl (.inr ⟨n, ?_, rfl⟩)
    cases n <;> first | rfl | cases hn
  | _ => exact .still rfl rfl (.inl rfl)

theorem Move.change (h : Move s w w') : Change s w w' := by
  cases h with
  | rule h =>
    cases h with
    | hook h => exact h.change
    | settled => exact .still rfl rfl (.inl rfl)
    | passed => exact .still rfl rfl (.inr ⟨.pass, rfl, rfl⟩)
    | judged id v hv =>
      refine .still rfl rfl (.inr ⟨.judged id v, ?_, rfl⟩)
      rcases v with _ | _ | _ | _
      · rfl
      · rfl
      · rfl
      · exact absurd rfl hv
    | unread id e => exact .unread id e rfl
    | held r hr t l hl => exact .held r hr t l hl rfl
    | earned r hr t e l hl => exact .earned r hr t e l hl rfl
  | system name x => exact .still rfl rfl (.inl rfl)
  | refreshed t l ht hl => exact .refreshed t l ht rfl
  | counted a t ht n windows texts ha =>
    obtain ⟨key, -, rfl⟩ := Windows.advance_ok ha
    exact .counted a t ht n key rfl
  | entered op => exact .still rfl rfl (.inl rfl)
  | left => exact .still rfl rfl (.inl rfl)

/-! ## When windows begin -/

/-- a refresh begins a window anew exactly when its note says so -/
theorem World.refreshing_begun (w : World σ) (t : Instant) (l : Moment) (p : Period) :
    ((w.refreshing t l).engine.state.windows.get p).since =
      if (⟨.refreshed t l (w.engine.state.windows.refresh t l).2, (w.refreshing t l).engine⟩ : Noted).changes p
      then t.later (w.engine.state.windows.get p).since else (w.engine.state.windows.get p).since := by
  rw [refreshing_windows, Windows.refresh_get]
  cases p with
  | calendar c =>
    simp only [Noted.changes, Windows.refresh_rolled]
    split <;> rfl
  | _ => rfl

theorem World.refreshing_since (w : World σ) (t : Instant) (l : Moment) (r : Rule) :
    (w.refreshing t l).sinceOf r =
      if (⟨.refreshed t l (w.engine.state.windows.refresh t l).2, (w.refreshing t l).engine⟩ : Noted).changes r.period
      then t.later (w.sinceOf r) else w.sinceOf r :=
  w.refreshing_begun t l r.period

/-- a start begins a window anew exactly when it is the window of its axis -/
theorem World.counting_begun (w : World σ) (a : Axis) (n : Int) (key : String) (t : Instant) (p : Period) :
    ((w.counting a n (w.engine.state.windows.set (.counter a)
        ⟨key, t.later (w.engine.state.windows.get (.counter a)).since⟩)).engine.state.windows.get p).since =
      if p = .counter a then t.later (w.engine.state.windows.get p).since
      else (w.engine.state.windows.get p).since := by
  rw [counting_windows]
  split
  case isTrue hp => rw [hp, Windows.get_set_self]
  case isFalse hp => rw [Windows.get_set_of_ne hp]

theorem World.counting_since (w : World σ) (a : Axis) (n : Int) (key : String) (t : Instant) (r : Rule) :
    (w.counting a n (w.engine.state.windows.set (.counter a)
        ⟨key, t.later (w.engine.state.windows.get (.counter a)).since⟩)).sinceOf r =
      if r.period = .counter a then t.later (w.sinceOf r) else w.sinceOf r :=
  w.counting_begun a n key t r.period

theorem changes_counted {a : Axis} {n : Int} {e : Engine} {p : Period} :
    (⟨.counted a n, e⟩ : Noted).changes p = decide (p = .counter a) := by
  cases p with
  | counter b => simp [Noted.changes, eq_comm]
  | _ => rfl

/-- a trace is only added to -/
theorem Move.suffix (h : Move s w w') : w.trace <:+ w'.trace := by
  cases h.change with
  | still _ _ trace =>
    rcases trace with ht | ⟨n, -, ht⟩
    · exact ht.symm ▸ List.suffix_rfl
    · exact ht.symm ▸ List.suffix_cons ..
  | unread id e h => subst h; exact (List.suffix_cons ..).trans (List.suffix_cons ..)
  | held r hr t l hl h => subst h; exact ((List.suffix_cons ..).trans (List.suffix_cons ..)).trans (List.suffix_cons ..)
  | earned r hr t e l hl h =>
    subst h; exact ((List.suffix_cons ..).trans (List.suffix_cons ..)).trans (List.suffix_cons ..)
  | refreshed t l ht h => subst h; simp
  | counted a t ht n key h => subst h; simp

theorem Moves.suffix (h : Moves s w w') : w.trace <:+ w'.trace := by
  induction h with
  | refl => exact List.suffix_rfl
  | tail _ h ih => exact ih.trans h.suffix

/-! ## Stamps -/

/-- a stamp of a world: the clock has shown it -/
def Shown (w : World σ) (t : Instant) : Prop := ∃ x ∈ w.trace, x.shows t

theorem Shown.mono {t : Instant} (h : w.trace <:+ w'.trace) (ht : Shown w t) : Shown w' t := by
  obtain ⟨x, hx, ht⟩ := ht
  exact ⟨x, h.subset hx, ht⟩

theorem Shown.later {t u : Instant} (ht : Shown w t) (hu : Shown w u) : Shown w (t.later u) := by
  rcases Moment.later_eq t u with h | h <;> rw [h]
  · exact ht
  · exact hu

theorem World.hasRead.shown {t : Instant} (h : w.hasRead t) : Shown w t := by
  obtain ⟨x, hx, hn, -⟩ := h
  exact ⟨x, hx, hn⟩

/-- windows began at the epoch or at an instant the clock has shown, and badges were last earned at one -/
structure Stamped (w : World σ) : Prop where
  windows : ∀ p, (w.engine.state.windows.get p).since = epoch ∨ Shown w (w.engine.state.windows.get p).since
  ledger : ∀ e ∈ w.engine.state.ledger.entries, Shown w e.lastEarned

theorem Stamped.new (h : σ) : Stamped ({ host := h } : World σ) where
  windows p := .inl (by rw [World.new_windows, Windows.initial_get]; rfl)
  ledger e he := by rw [World.new_ledger] at he; cases he

/-- stamps are kept when windows and ledger are left as they were -/
theorem Stamped.congr (hw : Stamped w) (hs : w.trace <:+ w'.trace)
    (hwin : w'.engine.state.windows = w.engine.state.windows)
    (hled : w'.engine.state.ledger = w.engine.state.ledger) : Stamped w' where
  windows p := by
    rw [hwin]
    exact (hw.windows p).imp_right (Shown.mono hs)
  ledger e he := by
    rw [hled] at he
    exact (hw.ledger e he).mono hs

/-- a window that changes begins at an instant that was shown, or when it last did -/
theorem Stamped.later (hw : Stamped w) (hs : w.trace <:+ w'.trace) {t : Instant} (ht : Shown w' t) (p : Period) :
    t.later (w.engine.state.windows.get p).since = epoch ∨
      Shown w' (t.later (w.engine.state.windows.get p).since) := by
  rcases Moment.later_eq t (w.engine.state.windows.get p).since with h | h <;> rw [h]
  · exact .inr ht
  · exact (hw.windows p).imp_right (Shown.mono hs)

theorem Stamped.earned (hw : Stamped w) {t : Instant} {e : Earned} {l : Ledger}
    (hs : w.trace <:+ (w.earning r t e l).trace)
    (hl : w.engine.state.ledger.record r (w.sinceOf r) t = (some e, l)) : Stamped (w.earning r t e l) where
  windows p := (hw.windows p).imp_right (Shown.mono hs)
  ledger f hf := by
    have ht : Shown (w.earning r t e l) t := ⟨_, List.mem_cons_of_mem _ List.mem_cons_self, rfl⟩
    obtain ⟨rfl, he⟩ := Ledger.record_earned hl
    rcases Ledger.mem_enter hf with rfl | hf
    · rcases he with ⟨-, rfl⟩ | ⟨old, ho, -, -, rfl⟩
      · exact ht
      · exact ht.later ((hw.ledger old (Ledger.get?_mem ho)).mono hs)
    · exact (hw.ledger f hf).mono hs

theorem Stamped.refreshed (hw : Stamped w) {t : Instant} (ht : w.hasRead t) (l : Moment)
    (hs : w.trace <:+ (w.refreshing t l).trace) : Stamped (w.refreshing t l) where
  windows p := by
    have old := fun p => (hw.windows p).imp_right (Shown.mono hs)
    rw [World.refreshing_windows, Windows.refresh_get]
    cases p with
    | calendar c =>
      dsimp only
      split
      case isTrue => exact hw.later hs (ht.shown.mono hs) _
      case isFalse => exact old _
    | _ => exact old _
  ledger e he := by
    rw [World.refreshing_ledger] at he
    exact (hw.ledger e he).mono hs

theorem Stamped.counted (hw : Stamped w) {t : Instant} (ht : w.hasRead t) (a : Axis) (n : Int) (key : String)
    {windows : Windows} (hs : w.trace <:+ (w.counting a n windows).trace)
    (hwin : windows = w.engine.state.windows.set (.counter a)
      ⟨key, t.later (w.engine.state.windows.get (.counter a)).since⟩) : Stamped (w.counting a n windows) where
  windows p := by
    subst hwin
    rw [World.counting_windows]
    by_cases hp : p = .counter a
    · subst hp
      rw [Windows.get_set_self]
      exact hw.later hs (ht.shown.mono hs) _
    · rw [Windows.get_set_of_ne hp]
      exact (hw.windows p).imp_right (Shown.mono hs)
  ledger e he := (hw.ledger e he).mono hs

theorem Stamped.kept (hw : Stamped w) (h : Move s w w') : Stamped w' := by
  have hs := h.suffix
  cases h.change with
  | still hwin hled _ => exact hw.congr hs hwin hled
  | unread id e h => subst h; exact hw.congr hs rfl rfl
  | held r hr t l hl h => subst h; exact hw.congr hs rfl rfl
  | earned r hr t e l hl h => subst h; exact hw.earned hs hl
  | refreshed t l ht h => subst h; exact hw.refreshed ht l hs
  | counted a t ht n key h => subst h; exact hw.counted ht a n key hs rfl

/-! ## Clockworks -/

/-- a time on 2022-07-04 -/
def july (minutes : Nat) : Moment :=
  ⟨63792489600000000 + minutes % 1440 * 60000000, by unfold momentEnd dayMicros; omega⟩

/-- an engine with one rule, whose condition always holds, and a clock that shows given times -/
def clockwork (r : Rule) : Setup (List Moment) where
  rules := [r]
  zone := .fixed 0
  clock
    | [] => (.error .outOfRange, [])
    | t :: ts => (.ok ⟨t, none⟩, ts)
  judge h _ _ := (.ok (.ok true), h)
  hook _ _ _ := none

/-- the verdict on a condition; a message that cannot be written is left out -/
def verdict (c : Context) (condition : String) : Except String Bool :=
  match judgement [] (fun _ => 0) c condition with
  | .ok v => v
  | .error _ => .error ""

/-- an engine with rules whose conditions are evaluated, a hook for badges, and a clock that stands still -/
def standstill (rules : List Rule) (onBadge : Option (Script Unit Unit)) : Setup Unit where
  rules
  zone := .fixed 0
  clock h := (.ok ⟨july 930, none⟩, h)
  judge h c condition := (.ok (verdict c condition), h)
  hook _ h _ := if h = .badgeEarned then onBadge else none

def World.after (s : Setup σ) (w : World σ) (qs : List Request) : World σ :=
  qs.foldl (fun w q => ((s.answer q).exec w).2) w

theorem World.after_concat (s : Setup σ) (w : World σ) (qs : List Request) (q : Request) :
    w.after s (qs ++ [q]) = ((s.answer q).exec (w.after s qs)).2 := by
  simp only [World.after, List.foldl_append, List.foldl_cons, List.foldl_nil]

theorem Reach.after {may : Request → Prop} (hw : Reach s may w) {qs : List Request} (hq : ∀ q ∈ qs, may q) :
    Reach s may (w.after s qs) := by
  induction qs generalizing w with
  | nil => exact hw
  | cons q qs ih =>
    exact ih (.asked hw q (hq q List.mem_cons_self)) fun q' hq' => hq q' (List.mem_cons_of_mem _ hq')

/-- a badge that can be earned once in a session -/
def sessionRule : Rule := { id := "s", condition := "true", period := .counter .session }

/-- a badge that may never be earned, as its limit says -/
def neverRule : Rule := { id := "s", condition := "true", max := some 0 }

/-- an evaluation for such a badge -/
def neverRun : World (List Moment) :=
  World.after (clockwork neverRule) { host := [july 930, july 931] } [.operate .evaluate]

/-- a rule that asks for a number that is missing, and has too many digits for the message that says so -/
def longKeyRule : Rule := { id := "long", condition := "system[10**5000]" }

end BadgeEngine
