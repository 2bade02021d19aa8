/-
How often a badge is awarded for the keys of a calendar period (`awarded_per_stay`).

A window comes to a key, stays there over any number of refreshes, and leaves it for another (`stays`). In one stay a
badge is awarded at most once (`Keyed.awarded_once`), so every award uses up a stay under its key (`Charged`). A key
that was left may be come back to, and then the badge is awarded under it anew: a zone set its clocks back over
midnight (`fallBack_awards`). In a zone where local time never comes back to a period it has left, no key has two stays.

The notes of a history say all this: a refresh follows the reading of the clock, matches are recorded after a refresh
(`Sourced`), and each note shows the key that the last refresh gave the window (`Keyed`).
-/
import Mathlib.Data.List.Destutter
import Mathlib.Data.List.Perm.Subperm
import BadgeEngine.Proofs.AwardCap
import BadgeEngine.Proofs.Buckets
import BadgeEngine.Proofs.OncePerWindow
import BadgeEngine.Proofs.Rollovers

namespace BadgeEngine

open BadgeEngine.Time Relation

variable {σ : Type} {s : Setup σ} {w w' : World σ} {r : Rule} {c : CalendarPeriod} {x : Noted}
  {trace older ns : List Noted}

/-! ## Keys and stays -/

/-- the keys that refreshes left in the window of a period, the last in front -/
def held (c : CalendarPeriod) (trace : List Noted) : List String :=
  (trace.filter (·.note.isRefresh)).map (·.key c)

/-- the keys that the window of a period came to by refreshes, the last in front; a key that is kept is not come to
anew, a key that was left is -/
def stays (c : CalendarPeriod) (trace : List Noted) : List String := (held c trace).destutter (· ≠ ·)

/-- the keys under which the badge of a rule was awarded, the last in front -/
def awardKeys (r : Rule) (c : CalendarPeriod) (trace : List Noted) : List String :=
  (trace.filter (·.raises r.id)).map (·.key c)

theorem destutter_ne_cons (k : String) (ks : List String) : (k :: ks).destutter (· ≠ ·) =
    if ks.head? = some k then ks.destutter (· ≠ ·) else k :: ks.destutter (· ≠ ·) := by
  cases ks with
  | nil => rfl
  | cons k' ks =>
    rw [List.destutter_cons_cons, List.head?_cons]
    by_cases hk : k = k'
    · rw [hk, if_neg (not_not.2 rfl), if_pos rfl]
      rfl
    · rw [if_pos hk, if_neg fun h => hk (Option.some.inj h).symm]
      rfl

theorem held_cons : held c (x :: older) = if x.note.isRefresh then x.key c :: held c older else held c older := by
  unfold held
  rw [List.filter_cons]
  split <;> rfl

theorem stays_refresh (hx : x.note.isRefresh) : stays c (x :: older) =
    if (held c older).head? = some (x.key c) then stays c older else x.key c :: stays c older := by
  unfold stays
  rw [held_cons, if_pos hx, destutter_ne_cons]

theorem stays_other (hx : x.note.isRefresh = false) : stays c (x :: older) = stays c older := by
  unfold stays
  rw [held_cons, if_neg (by rw [hx]; nofun)]

theorem stays_subset (c : CalendarPeriod) (trace : List Noted) : stays c trace ⊆ held c trace :=
  (List.destutter_sublist _ _).subset

theorem awardKeys_cons : awardKeys r c (x :: older) =
    if x.raises r.id then x.key c :: awardKeys r c older else awardKeys r c older := by
  unfold awardKeys
  rw [List.filter_cons]
  split <;> rfl

/-! ## What notes show of a window -/

/-- the key that a window had last: that of the last note, or of the epoch -/
def lastKey (c : CalendarPeriod) : List Noted → String
  | [] => c.key epoch
  | x :: _ => x.key c

/-- notes show a key as it was before, but for refreshes: these give the window the key of their local time, and say so
when it is another -/
def Keyed (c : CalendarPeriod) : List Noted → Prop
  | [] => True
  | x :: older => Keyed c older ∧ (x.changes (.calendar c) ↔ x.key c ≠ lastKey c older) ∧
      ∀ t l f, x.note = .refreshed t l f → x.key c = c.key l

/-- a world whose window has the key that the last note shows -/
structure Keeps (c : CalendarPeriod) (w : World σ) : Prop where
  keyed : Keyed c w.trace
  latest : (w.engine.state.windows.get (.calendar c)).key = lastKey c w.trace

/-- nothing but a refresh changes the window of a calendar period -/
theorem changes_of_not_refresh (hx : x.note.isRefresh = false) : x.changes (.calendar c) = false := by
  obtain ⟨n, e⟩ := x
  cases n <;> first | rfl | cases hx

namespace Keeps

theorem new (h : σ) : Keeps c ({ host := h } : World σ) where
  keyed := trivial
  latest := by rw [World.new_windows, Windows.initial_get]; rfl

/-- a note of something else that leaves the window as it was -/
theorem cons (hw : Keeps c w) {n : Note} (hn : n.isRefresh = false) {e : Engine} (ht : w'.trace = ⟨n, e⟩ :: w.trace)
    (he : (e.state.windows.get (.calendar c)).key = (w.engine.state.windows.get (.calendar c)).key)
    (hk : (w'.engine.state.windows.get (.calendar c)).key = (w.engine.state.windows.get (.calendar c)).key) :
    Keeps c w' where
  keyed := by
    rw [ht]
    refine ⟨hw.keyed, ?_, fun t l f h => ?_⟩
    · rw [changes_of_not_refresh hn]
      exact iff_of_false nofun (not_not.2 (he.trans hw.latest))
    · cases h
      cases hn
  latest := by
    rw [ht, hk, ← he]
    rfl

/-- a note that is taken while the engine is left as it is -/
theorem noting (hw : Keeps c w) {n : Note} (hn : n.isRefresh = false) : Keeps c (w.noting n) := hw.cons hn rfl rfl rfl

theorem matching (hw : Keeps c w) (id : String) (t : Instant) : Keeps c (w.matching id t) :=
  (hw.noting (n := .judged id (.ok (.ok true))) rfl).noting rfl

theorem kept (hw : Keeps c w) (h : Move s w w') : Keeps c w' := by
  cases h.change with
  | still windows _ trace =>
    rcases trace with trace | ⟨n, hn, trace⟩
    · exact ⟨trace ▸ hw.keyed, by rw [windows, trace]; exact hw.latest⟩
    · have other : n.isRefresh = false := by cases n <;> first | rfl | cases hn
      exact hw.cons other trace rfl (by rw [windows])
  | unread id e h =>
    subst h
    exact (hw.noting (n := .judged id (.ok (.ok true))) rfl).noting rfl
  | held r hr t l hl h =>
    subst h
    exact (hw.matching r.id t).noting rfl
  | earned r hr t e l hl h =>
    subst h
    exact (hw.matching r.id t).cons rfl rfl rfl rfl
  | refreshed t l ht h =>
    subst h
    have shown : ((w.refreshing t l).engine.state.windows.get (.calendar c)).key = c.key l :=
      (refresh_inTime w.engine t l).keys c
    refine ⟨?_, by rw [World.refreshing_trace]; rfl⟩
    rw [World.refreshing_trace]
    refine ⟨hw.keyed, ?_, fun t' l' f he => ?_⟩
    · show (w.engine.state.windows.refresh t l).2.get c = true ↔ _
      rw [Windows.refresh_rolled, Windows.isStale, decide_eq_true_eq, Noted.key, shown, hw.latest]
    · cases he
      exact shown
  | counted a t ht n key h =>
    subst h
    have other : Period.calendar c ≠ .counter a := Period.noConfusion
    have same := fun x => congrArg Window.key (Windows.get_set_of_ne other w.engine.state.windows x)
    exact hw.cons rfl rfl (same _) (same _)

end Keeps

/-- in worlds that a host comes to without loading a state -/
theorem Unloaded.keyed (hw : Unloaded s w) : Keyed c w.trace :=
  (hw.invariant (P := Keeps c) .new fun hv hm => hv.kept hm).keyed

theorem Keyed.same (h : Keyed c (x :: older)) (hx : x.changes (.calendar c) = false) : x.key c = lastKey c older := by
  by_contra hne
  rw [h.2.1.2 hne] at hx
  cases hx

theorem refresh_of_held {k : String} (h : (held c trace).head? = some k) : ∃ y ∈ trace, y.note.isRefresh := by
  obtain ⟨y, hy, -⟩ := List.mem_map.1 (List.mem_of_head? h)
  exact ⟨y, List.mem_filter.1 hy⟩

/-- once there was a refresh, the window has the key it left -/
theorem Keyed.held_head (h : Keyed c trace) (hr : ∃ y ∈ trace, y.note.isRefresh) :
    (held c trace).head? = some (lastKey c trace) := by
  induction trace with
  | nil => obtain ⟨y, hy, -⟩ := hr; cases hy
  | cons x older ih =>
    rw [held_cons]
    split
    case isTrue => rfl
    case isFalse hx =>
      obtain ⟨y, hy, hyr⟩ := hr
      have before : y ∈ older := (List.mem_cons.1 hy).resolve_left fun h => hx (h ▸ hyr)
      rw [ih h.1 ⟨y, before, hyr⟩, ← h.same (changes_of_not_refresh (Bool.eq_false_iff.2 hx))]
      rfl

/-! ## Where notes come from -/

/-- a match is recorded after a refresh, and a refresh is made at the instant that was read right before -/
def Sourced (s : Setup σ) : List Noted → Prop
  | [] => True
  | x :: older => Sourced s older ∧ (x.note.isRuling → ∃ y ∈ older, y.note.isRefresh) ∧
      ∀ t l f, x.note = .refreshed t l f → localTime s.zone t = .ok l ∧ ∃ y, older.head? = some y ∧ y.shows t

theorem lastRefresh_some {t : Instant} {l : Moment} (h : lastRefresh ns = some (t, l)) :
    ∃ y ∈ ns, y.note.isRefresh := by
  obtain ⟨y, hy, hn⟩ := List.exists_of_findSome?_eq_some h
  refine ⟨y, hy, ?_⟩
  split at hn
  case h_1 he => rw [he]; rfl
  case h_2 => cases hn

theorem Timely.sourced (h : Timely s ns) (ht : Sourced s trace) : Sourced s (ns ++ trace) := by
  induction ns with
  | nil => exact ht
  | cons x ns ih =>
    obtain ⟨hns, hruling, hrefresh⟩ := h
    refine ⟨ih hns, fun hr => ?_, fun t l f he => ?_⟩
    · obtain ⟨t, l, f, hlast, -⟩ := hruling hr
      obtain ⟨y, hy, hyr⟩ := lastRefresh_some hlast
      exact ⟨y, List.mem_append_left _ hy, hyr⟩
    · obtain ⟨hl, y, hy, hshows⟩ := hrefresh t l f he
      refine ⟨hl, y, ?_, hshows⟩
      show (ns ++ trace).head? = some y
      rw [List.head?_append, hy]
      rfl

theorem Unloaded.sourced (hw : Unloaded s w) : Sourced s w.trace := by
  induction hw with
  | new h => trivial
  | host hw h ih => exact ih
  | @asked w hw q hq ih =>
    obtain ⟨ns, hns, timely⟩ := answer_on_time s w q
    rw [hns]
    exact timely.sourced ih

/-! ## Awards -/

/-- every award is charged to a stay under its key, and the running stay has not been used up as long as nothing was
awarded in it -/
structure Charged (r : Rule) (c : CalendarPeriod) (trace : List Noted) : Prop where
  awards : ∀ k, (awardKeys r c trace).count k ≤ (stays c trace).count k
  spare : ∀ k, (held c trace).head? = some k → (∀ x ∈ stretch (.calendar c) trace, ¬ x.raises r.id) →
    (awardKeys r c trace).count k < (stays c trace).count k

theorem raises_ruling (hx : x.raises r.id) : x.note.isRuling := by
  obtain ⟨n, e⟩ := x
  cases n <;> first | rfl | cases hx

namespace Charged

/-- a refresh that gives the window another key begins a stay -/
theorem came (h : Charged r c older) (hx : x.note.isRefresh) (hk : (held c older).head? ≠ some (x.key c)) :
    Charged r c (x :: older) := by
  have quiet : ¬ x.raises r.id := fun hr => by
    rw [ruling_not_refresh (raises_ruling hr)] at hx
    cases hx
  have awards : awardKeys r c (x :: older) = awardKeys r c older := by rw [awardKeys_cons, if_neg quiet]
  have came : stays c (x :: older) = x.key c :: stays c older := by rw [stays_refresh hx, if_neg hk]
  refine ⟨fun k => ?_, fun k hhead _ => ?_⟩ <;> rw [awards, came]
  · exact Nat.le_trans (h.awards k) (List.count_le_count_cons ..)
  · rw [held_cons, if_pos hx] at hhead
    obtain rfl : x.key c = k := Option.some.inj hhead
    rw [List.count_cons_self]
    exact Nat.lt_succ_of_le (h.awards _)

/-- a note of no award and of no change leaves the stay as it is -/
theorem stayed (h : Charged r c older) (hc : x.changes (.calendar c) = false) (hr : ¬ x.raises r.id)
    (hs : stays c (x :: older) = stays c older) (hh : (held c (x :: older)).head? = (held c older).head?) :
    Charged r c (x :: older) := by
  have awards : awardKeys r c (x :: older) = awardKeys r c older := by rw [awardKeys_cons, if_neg hr]
  refine ⟨fun k => ?_, fun k hhead hquiet => ?_⟩ <;> rw [awards, hs]
  · exact h.awards k
  · rw [hh] at hhead
    refine h.spare k hhead fun y hy => hquiet y ?_
    rw [stretch_cons hc]
    exact List.mem_cons_of_mem _ hy

/-- an award, the first of the stay, uses it up -/
theorem used (h : Charged r c older) (hr : x.raises r.id) (hhead : (held c older).head? = some (x.key c))
    (hc : x.changes (.calendar c) = false) (hfirst : ∀ y ∈ stretch (.calendar c) older, ¬ y.raises r.id) :
    Charged r c (x :: older) := by
  have other := ruling_not_refresh (raises_ruling hr)
  have awards : awardKeys r c (x :: older) = x.key c :: awardKeys r c older := by rw [awardKeys_cons, if_pos hr]
  refine ⟨fun k => ?_, fun k _ hquiet => ?_⟩
  · rw [awards, stays_other other, List.count_cons]
    split
    case isTrue hk =>
      obtain rfl : x.key c = k := by simpa using hk
      exact h.spare _ hhead hfirst
    case isFalse => exact h.awards k
  · refine absurd hr (hquiet x ?_)
    rw [stretch_cons hc]
    exact List.mem_cons_self

end Charged

/-- in every history in which a badge is awarded at most once between two changes of the window, awards are charged to
stays -/
theorem charged (hk : Keyed c trace) (hs : Sourced s trace)
    (once : ∀ seg, seg <:+: trace → (∀ x ∈ seg, x.changes (.calendar c) = false) → seg.countP (Noted.raises r.id) ≤ 1) :
    Charged r c trace := by
  induction trace with
  | nil => exact ⟨fun _ => Nat.le_refl _, nofun⟩
  | cons x older ih =>
    have before : Charged r c older := ih hk.1 hs.1 fun seg hseg => once seg (hseg.trans (List.suffix_cons ..).isInfix)
    cases hx : x.note.isRefresh with
    | true =>
      by_cases hhead : (held c older).head? = some (x.key c)
      · -- the key is kept
        have same : x.key c = lastKey c older := by
          rw [hk.1.held_head (refresh_of_held hhead)] at hhead
          exact (Option.some.inj hhead).symm
        have unchanged : x.changes (.calendar c) = false := by
          rw [Bool.eq_false_iff]
          exact fun h => hk.2.1.1 h same
        have quiet : ¬ x.raises r.id := fun hr => by
          rw [ruling_not_refresh (raises_ruling hr)] at hx
          cases hx
        refine before.stayed unchanged quiet ?_ ?_
        · rw [stays_refresh hx, if_pos hhead]
        · rw [held_cons, if_pos hx, hhead]
          rfl
      · exact before.came hx hhead
    | false =>
      have unchanged : x.changes (.calendar c) = false := changes_of_not_refresh hx
      by_cases hr : x.raises r.id
      · -- an award comes after a refresh, and no other one is in the stretch
        have hhead := hk.1.held_head (hs.2.1 (raises_ruling hr))
        rw [← hk.same unchanged] at hhead
        have few := once _ (infix_of_stretch (.calendar c) _) fun _ => changes_of_mem_stretch
        rw [stretch_cons unchanged, List.countP_cons_of_pos hr] at few
        exact before.used hr hhead unchanged (List.countP_eq_zero.1 (by omega))
      · refine before.stayed unchanged hr (stays_other hx) ?_
        rw [held_cons, if_neg (by rw [hx]; nofun)]

/-! ## Where keys do not come back -/

/-- the refreshes that notes tell of, the last in front -/
def refreshes (trace : List Noted) : List (Instant × Moment) :=
  trace.filterMap fun x => match x.note with | .refreshed t l _ => some (t, l) | _ => none

theorem Keyed.held_eq (h : Keyed c trace) : held c trace = (refreshes trace).map (c.key ·.2) := by
  induction trace with
  | nil => rfl
  | cons x older ih =>
    have before := ih h.1
    have key := h.2.2
    obtain ⟨n, e⟩ := x
    cases n with
    | refreshed t l f =>
      show Noted.key _ c :: held c older = c.key l :: (refreshes older).map _
      rw [key t l f rfl, before]
    | _ => exact before

theorem Sourced.shown (h : Sourced s trace) {a : Instant × Moment} (ha : a ∈ refreshes trace) :
    localTime s.zone a.1 = .ok a.2 ∧ ∃ y ∈ trace, y.shows a.1 := by
  induction trace with
  | nil => cases ha
  | cons x older ih =>
    have earlier : a ∈ refreshes older → localTime s.zone a.1 = .ok a.2 ∧ ∃ y ∈ x :: older, y.shows a.1 := fun ha => by
      obtain ⟨hl, y, hy, hshows⟩ := ih h.1 ha
      exact ⟨hl, y, List.mem_cons_of_mem _ hy, hshows⟩
    have source := h.2.2
    obtain ⟨n, e⟩ := x
    cases n with
    | refreshed t l f =>
      rcases List.mem_cons.1 (show a ∈ (t, l) :: refreshes older from ha) with rfl | ha
      · obtain ⟨hl, y, hy, hshows⟩ := source t l f rfl
        exact ⟨hl, y, List.mem_cons_of_mem _ (List.mem_of_head? hy), hshows⟩
      · exact earlier ha
    | _ => exact earlier ha

/-- under a clock that never steps back, refreshes are made one after another -/
theorem Sourced.rising (h : Sourced s trace) (hf : Forward trace) :
    (refreshes trace).Pairwise fun a b => b.1 ≤ a.1 := by
  induction trace with
  | nil => exact .nil
  | cons x older ih =>
    have before : Forward older := hf.of_cons
    have earlier := ih h.1 before
    have source := h.2.2
    obtain ⟨n, e⟩ := x
    cases n with
    | refreshed t l f =>
      refine List.pairwise_cons.2 ⟨fun b hb => ?_, earlier⟩
      obtain ⟨-, y, hy, hshows⟩ := source t l f rfl
      obtain ⟨-, z, hz, hzshows⟩ := h.1.shown hb
      cases older with
      | nil => cases hy
      | cons y' rest =>
        obtain rfl : y' = y := Option.some.inj hy
        rcases List.mem_cons.1 hz with rfl | hz
        · rw [Noted.shows] at hshows hzshows
          rw [hshows] at hzshows
          cases hzshows
          exact Nat.le_refl _
        · exact (List.pairwise_cons.1 before.rising).1 z hz t b.1 hshows hzshows
    | _ => exact earlier

/-- keys that do not come back once they were left have one stay each -/
theorem nodup_destutter {β : Type} {key : β → String} {l : List β}
    (h : ∀ a b d, [a, b, d].Sublist l → key d = key a → key b = key a) :
    ((l.map key).destutter (· ≠ ·)).Nodup := by
  induction l with
  | nil => exact .nil
  | cons a l ih =>
    have before := ih fun b d e hs => h b d e (hs.cons a)
    rw [List.map_cons, destutter_ne_cons]
    split
    case isTrue => exact before
    case isFalse hhead =>
      refine List.nodup_cons.2 ⟨fun hmem => ?_, before⟩
      obtain ⟨d, hd, hkey⟩ := List.mem_map.1 ((List.destutter_sublist _ _).subset hmem)
      cases l with
      | nil => cases hd
      | cons b l =>
        refine hhead (congrArg some ?_)
        rcases List.mem_cons.1 hd with rfl | hd
        · exact hkey
        · exact h a b d ((List.Sublist.cons_cons a (List.Sublist.cons_cons b (List.singleton_sublist.2 hd)))) hkey

theorem stays_nodup (ho : OneWay s.zone c) (hk : Keyed c trace) (hs : Sourced s trace) (hf : Forward trace) :
    (stays c trace).Nodup := by
  unfold stays
  rw [hk.held_eq]
  refine nodup_destutter fun a b d hsub hkey => ?_
  have rising := (hs.rising hf).sublist hsub
  simp only [List.pairwise_cons, List.mem_cons, List.not_mem_nil, or_false, forall_eq_or_imp, forall_eq] at rising
  have local_ := fun {e} (he : e ∈ [a, b, d]) => hs.shown (hsub.subset he)
  obtain ⟨hd, y, hy, hshows⟩ := local_ (e := d) (by simp)
  exact ho d.1 b.1 a.1 d.2 b.2 a.2 (hf.start y hy d.1 hshows) rising.2.1 rising.1.1 hd (local_ (by simp)).1
    (local_ (by simp)).1 hkey

theorem Keyed.of_append {newer : List Noted} (h : Keyed c (newer ++ trace)) : Keyed c trace := by
  induction newer with
  | nil => exact h
  | cons y newer ih => exact ih h.1

/-- while a key is kept, no note but the oldest can tell of a change -/
theorem Keyed.unchanged {k : String} {seg : List Noted} (h : Keyed c (seg ++ older)) (hkey : ∀ x ∈ seg, x.key c = k)
    (hx : x ∈ seg.dropLast) : x.changes (.calendar c) = false := by
  induction seg with
  | nil => cases hx
  | cons y seg ih =>
    cases seg with
    | nil => cases hx
    | cons z seg =>
      rcases List.mem_cons.1 hx with rfl | hx
      · have same : x.key c = z.key c := by rw [hkey x (by simp), hkey z (by simp)]
        rw [Bool.eq_false_iff]
        exact fun changes => h.2.1.1 changes same
      · exact ih h.1 (fun y hy => hkey y (List.mem_cons_of_mem _ hy)) hx

/-- in a stay, that is while a key is kept, a badge is awarded at most once if it is awarded at most once between two
changes: a change begins the stay and is no award -/
theorem Keyed.awarded_once {k : String} {seg : List Noted} (h : Keyed c trace) (hseg : seg <:+: trace)
    (hkey : ∀ x ∈ seg, x.key c = k)
    (once : ∀ seg, seg <:+: trace → (∀ x ∈ seg, x.changes (.calendar c) = false) → seg.countP (Noted.raises r.id) ≤ 1) :
    seg.countP (Noted.raises r.id) ≤ 1 := by
  have unchanged : ∀ x ∈ seg.dropLast, x.changes (.calendar c) = false := by
    obtain ⟨newer, older, rfl⟩ := hseg
    rw [List.append_assoc] at h
    exact fun x => h.of_append.unchanged hkey
  rcases List.eq_nil_or_concat' seg with rfl | ⟨init, first, rfl⟩
  · exact Nat.zero_le 1
  · rw [List.dropLast_concat] at unchanged
    cases hfirst : first.changes (.calendar c) with
    | false =>
      refine once _ hseg fun x hx => ?_
      rcases List.mem_append.1 hx with hx | hx
      · exact unchanged x hx
      · rwa [List.mem_singleton.1 hx]
    | true =>
      have other : ¬ first.raises r.id := fun hr => by
        rw [changes_of_not_refresh (ruling_not_refresh (raises_ruling hr))] at hfirst
        cases hfirst
      rw [List.countP_append, List.countP_cons_of_neg other, List.countP_nil]
      exact once _ ((List.prefix_append _ _).isInfix.trans hseg) unchanged

/-- **Once per stay.** Under a clock that never steps back, a badge is awarded at most once while its rule's window
keeps a key, and so no more often under any key than the window came to it. In a zone where local time does not come
back to a period it has left, it is awarded at most once under any key, and no more often than there were keys. -/
theorem awarded_per_stay (hd : DistinctRules s.rules) (hr : r ∈ s.rules) (hp : r.period = .calendar c)
    (hw : Unloaded s w) (hf : Forward w.trace) :
    w.engine.state.ledger.count r.id = (awardKeys r c w.trace).length ∧
      (∀ k seg, seg <:+: w.trace → (∀ x ∈ seg, x.key c = k) → seg.countP (Noted.raises r.id) ≤ 1) ∧
      (awardKeys r c w.trace).Subperm (stays c w.trace) ∧
      (OneWay s.zone c → (awardKeys r c w.trace).Nodup ∧
        w.engine.state.ledger.count r.id ≤ (held c w.trace).dedup.length) := by
  have count : w.engine.state.ledger.count r.id = (awardKeys r c w.trace).length := by
    rw [(hw.gate hd hr).count, List.countP_eq_length_filter, awardKeys, List.length_map]
  have once : ∀ seg, seg <:+: w.trace → (∀ x ∈ seg, x.changes (.calendar c) = false) →
      seg.countP (Noted.raises r.id) ≤ 1 := fun seg hseg hc => raised_once_of_forward hd hr hw hf hseg (hp ▸ hc)
  have charges : Charged r c w.trace := charged hw.keyed hw.sourced once
  have used : (awardKeys r c w.trace).Subperm (stays c w.trace) := List.subperm_ext_iff.2 fun k _ => charges.awards k
  refine ⟨count, fun k seg hseg hkey => hw.keyed.awarded_once hseg hkey once, used, fun ho => ?_⟩
  have single := stays_nodup ho hw.keyed hw.sourced hf
  refine ⟨List.nodup_iff_count_le_one.2 fun k => ?_, ?_⟩
  · exact Nat.le_trans (charges.awards k) (List.nodup_iff_count_le_one.1 single k)
  · have keys : (stays c w.trace).Subperm (held c w.trace).dedup :=
      single.subperm fun k hk => List.mem_dedup.2 (stays_subset c _ hk)
    rw [count]
    exact Int.ofNat_le.2 (used.trans keys).length_le

/-! ## Clocks that were set back -/

/-- a moment by its seconds since 1970 -/
def sinceEpoch (seconds : Nat) : Moment :=
  ⟨(62135596800 + seconds) * 1000000 % momentEnd, Nat.mod_lt _ (by decide)⟩

/-- a badge for every calendar period of a kind -/
def everyRule (c : CalendarPeriod) : Rule := { id := "every", condition := "true", period := .calendar c }

/-- an engine with such a badge in a zone -/
def clockworkIn (zone : Zone) (c : CalendarPeriod) : Setup (List Moment) := { clockwork (everyRule c) with zone }

/-- three evaluations; in each the clock is read for the refresh, and a second later for the match -/
def thrice (zone : Zone) (c : CalendarPeriod) (t u v : Nat) : World (List Moment) :=
  World.after (clockworkIn zone c) { host := [t, t + 1, u, u + 1, v, v + 1].map sinceEpoch }
    [.operate .evaluate, .operate .evaluate, .operate .evaluate]

theorem thrice_unloaded (zone : Zone) (c : CalendarPeriod) (t u v : Nat) :
    Unloaded (clockworkIn zone c) (thrice zone c t u v) :=
  Reach.after (.new _) (by decide)

/-- a clock that ticks never steps back -/
theorem Ticking.forward (h : Ticking trace) : Forward trace where
  start x hx t ht := by
    obtain ⟨u, hu, hle⟩ := h.read x hx _ ht
    cases hu
    exact hle
  rising := h.rising.imp fun hxy t u hx hy => Nat.le_of_lt (hxy t u hx hy)

/-- the clocks of New York, which in November are set back at two, to one o'clock -/
def newYork : Zone := .named "America/New_York" (historyOf "America/New_York").rules

/-- evaluations at half past one, an hour later, when it is half past one again, and another hour later -/
def setBack : World (List Moment) := thrice newYork .hour 1667712600 1667716200 1667719800

set_option maxRecDepth 20000 in
theorem setBack_keys : readings setBack.trace =
      ([1667719801, 1667719800, 1667716201, 1667716200, 1667712601, 1667712600].map sinceEpoch).map .ok ∧
    held .hour setBack.trace = ["2022-11-06-H02", "2022-11-06-H01", "2022-11-06-H01"] ∧
    awardKeys (everyRule .hour) .hour setBack.trace = ["2022-11-06-H02", "2022-11-06-H01"] := by
  unfold setBack newYork
  refine ZoneHistory.on_rows (P := fun rules => readings (thrice (.named _ rules) _ _ _ _).trace = _ ∧
    held _ (thrice (.named _ rules) _ _ _ _).trace = _ ∧
    awardKeys _ _ (thrice (.named _ rules) _ _ _ _).trace = _) rfl ?_
  decide +kernel

/-- in the hour that clocks show twice a badge is awarded once -/
theorem setBack_awards : Unloaded (clockworkIn newYork .hour) setBack ∧ Forward setBack.trace ∧
    held .hour setBack.trace = ["2022-11-06-H02", "2022-11-06-H01", "2022-11-06-H01"] ∧
    setBack.engine.state.ledger.count (everyRule .hour).id = 2 ∧
    (awardKeys (everyRule .hour) .hour setBack.trace).Nodup := by
  have hw : Unloaded (clockworkIn newYork .hour) setBack := thrice_unloaded ..
  obtain ⟨hreadings, hheld, hawards⟩ := setBack_keys
  have hf : Forward setBack.trace := (Ticking.of_readings _ hreadings (by decide) (by decide)).forward
  have hd : DistinctRules (clockworkIn newYork .hour).rules := List.nodup_singleton _
  have hr : everyRule .hour ∈ (clockworkIn newYork .hour).rules := List.mem_singleton_self _
  obtain ⟨count, -, -, single⟩ := awarded_per_stay hd hr rfl hw hf
  have forth : OneWay newYork .hour := by
    have named : Zone.ofName "America/New_York" = .ok newYork := rfl
    have kept : newYork.KeepsHours := keepsHours_ofName named (by decide)
    exact kept.oneWay .hour
  refine ⟨hw, hf, hheld, ?_, (single forth).1⟩
  rw [count, hawards]
  rfl

/-- the clocks of St. John's, which in 1987 were set back a minute past midnight, to a minute past eleven -/
def stJohns : Zone := .named "America/St_Johns" (historyOf "America/St_Johns").rules

/-- evaluations half a minute past midnight, a minute later, when it is the day before again, and another hour later -/
def fallBack : World (List Moment) := thrice stJohns .day 562127430 562127490 562131090

set_option maxRecDepth 20000 in
theorem fallBack_keys : readings fallBack.trace =
      ([562131091, 562131090, 562127491, 562127490, 562127431, 562127430].map sinceEpoch).map .ok ∧
    held .day fallBack.trace = ["1987-10-25", "1987-10-24", "1987-10-25"] ∧
    fallBack.engine.state.ledger.count (everyRule .day).id = 3 := by
  unfold fallBack stJohns
  refine ZoneHistory.on_rows (P := fun rules => readings (thrice (.named _ rules) _ _ _ _).trace = _ ∧
    held _ (thrice (.named _ rules) _ _ _ _).trace = _ ∧
    (thrice (.named _ rules) _ _ _ _).engine.state.ledger.count _ = _) rfl ?_
  decide +kernel

/-- a badge for every day is awarded three times though the window held the keys of two days only -/
theorem fallBack_awards : Zone.ofName "America/St_Johns" = .ok stJohns ∧
    Unloaded (clockworkIn stJohns .day) fallBack ∧ Forward fallBack.trace ∧
    DistinctRules (clockworkIn stJohns .day).rules ∧ everyRule .day ∈ (clockworkIn stJohns .day).rules ∧
    (held .day fallBack.trace).dedup.length = 2 ∧ fallBack.engine.state.ledger.count (everyRule .day).id = 3 := by
  obtain ⟨hreadings, hheld, hcount⟩ := fallBack_keys
  have hf : Forward fallBack.trace := (Ticking.of_readings _ hreadings (by decide) (by decide)).forward
  refine ⟨rfl, thrice_unloaded .., hf, List.nodup_singleton _, List.mem_singleton_self _, ?_, hcount⟩
  rw [hheld]
  decide

end BadgeEngine
