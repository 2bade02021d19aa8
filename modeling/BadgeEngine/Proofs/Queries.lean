/-
Questions about badges agree with what happened (`queries_tell_history`).

The questions compare stamps: a badge was last earned at an instant, a window began at one, a bookmark is set to one.
Where every instant the clock shows is later than those before, the stamps stand for the order of what happened. A badge
was last earned at some instant shown or later just when its count was raised after the clock has shown that instant
(`Ledger.SplitsAt`), and that is kept by every move, for all instants shown and for the windows of all periods
(`Faithful`).
-/
import BadgeEngine.Proofs.Awards
import BadgeEngine.Proofs.Marks
import BadgeEngine.Proofs.OncePerWindow

namespace BadgeEngine

open BadgeEngine.Text BadgeEngine.Time Relation

variable {σ α : Type} {s : Setup σ} {w w' : World σ} {r : Rule} {x y : Noted} {trace older ns : List Noted}

/-! ## Instants and notes -/

namespace Ledger

variable {l l' : Ledger} {t now : Instant}

/-- the badges last earned at an instant or later are those whose count was raised in some notes -/
def SplitsAt (l : Ledger) (t : Instant) (ns : List Noted) : Prop :=
  ∀ id e, l.get? id = some e → (t ≤ e.lastEarned ↔ ns.any (Noted.raises id))

theorem SplitsAt.quiet (h : l.SplitsAt t ns) (hx : ∀ id, x.raises id = false) : l.SplitsAt t (x :: ns) := by
  intro id e he
  rw [List.any_cons, hx, Bool.false_or]
  exact h id e he

/-- after every badge was last earned, an instant begins without notes -/
theorem SplitsAt.begins (h : ∀ e ∈ l.entries, e.lastEarned < t) : l.SplitsAt t [] := fun _ _ he =>
  iff_of_false (Moment.not_le.2 (h _ (get?_mem he))) nofun

/-- a badge that is earned is last earned then, and the note of it tells so -/
theorem SplitsAt.earned {since : Instant} {e : Earned} (h : l.SplitsAt t ns)
    (hr : l.record r since now = (some e, l')) (ht : t ≤ now) (hx : ∀ id, x.raises id = decide (r.id = id)) :
    l'.SplitsAt t (x :: ns) := by
  intro id f hf
  rw [List.any_cons, hx]
  by_cases hid : r.id = id
  · subst hid
    obtain rfl : e = f := Option.some.inj ((record_get?_self hr).symm.trans hf)
    refine iff_of_true ?_ (by simp)
    obtain ⟨-, ⟨-, rfl⟩ | ⟨old, -, -, -, rfl⟩⟩ := record_earned hr
    · exact ht
    · exact Nat.le_trans ht (Moment.le_later_left now old.lastEarned)
  · rw [record_get?_of_ne (Ne.symm hid) hr] at hf
    rw [decide_eq_false hid, Bool.false_or]
    exact h id f hf

/-- so what the ledger tells of an instant is what the notes tell -/
theorem SplitsAt.since_eq (h : l.SplitsAt t ns) :
    l.since t = l.entries.filter fun e => ns.any (Noted.raises e.id) := by
  refine List.filter_congr fun e he => ?_
  rw [Bool.eq_iff_iff, decide_eq_true_iff]
  exact h e.id e (get?_of_mem he)

end Ledger

/-! ## The invariant -/

/-- the stamps of windows and of badges tell what the notes tell -/
structure Faithful (st : EngineState) (trace : List Noted) : Prop where
  old : ∀ e ∈ st.ledger.entries, epoch ≤ e.lastEarned
  all : st.ledger.SplitsAt epoch trace
  windows : ∀ p, st.ledger.SplitsAt (st.windows.get p).since (stretch p trace)
  readings : ∀ newer x older t, trace = newer ++ x :: older → x.shows t → st.ledger.SplitsAt t newer

namespace Faithful

variable {st st' : EngineState} {t : Instant}

theorem new : Faithful .fresh [] where
  old _ he := absurd he List.not_mem_nil
  all _ _ he := by cases he
  windows _ _ _ he := by cases he
  readings _ _ _ _ _ _ _ _ he := by cases he

theorem congr (h : Faithful st trace) (hw : st'.windows = st.windows) (hl : st'.ledger = st.ledger) :
    Faithful st' trace where
  old := hl ▸ h.old
  all := hl ▸ h.all
  windows p := by rw [hl, hw]; exact h.windows p
  readings newer x older t := by rw [hl]; exact h.readings newer x older t

/-- where a note is taken, a reading is the note or one that was there -/
theorem readings_cons (h : Faithful st trace) (hr : ∀ id, x.raises id = false)
    (hs : ∀ t, x.shows t → ∀ e ∈ st.ledger.entries, e.lastEarned < t) (newer : List Noted) (y : Noted)
    (older : List Noted) (t : Instant) (ht : x :: trace = newer ++ y :: older) (hy : y.shows t) :
    st.ledger.SplitsAt t newer := by
  rcases List.cons_eq_append_iff.1 ht with ⟨rfl, hx⟩ | ⟨rest, rfl, htrace⟩
  · obtain ⟨rfl, -⟩ := List.cons.inj hx
    exact .begins (hs t hy)
  · exact (h.readings rest y older t htrace hy).quiet hr

/-- a note of no window and no badge; an instant shown is later than every badge was last earned -/
theorem remark (h : Faithful st trace) (hc : ∀ p, x.changes p = false) (hr : ∀ id, x.raises id = false)
    (hs : ∀ t, x.shows t → ∀ e ∈ st.ledger.entries, e.lastEarned < t) : Faithful st (x :: trace) where
  old := h.old
  all := h.all.quiet hr
  windows p := by rw [stretch_cons (hc p)]; exact (h.windows p).quiet hr
  readings := h.readings_cons hr hs

/-- windows begin at an instant after every badge was last earned, and the note of it tells which -/
theorem change (h : Faithful st trace) (hl : st'.ledger = st.ledger) (hr : ∀ id, x.raises id = false)
    (hs : ∀ t, ¬ x.shows t) (hlt : ∀ e ∈ st.ledger.entries, e.lastEarned < t)
    (hw : ∀ p, (st'.windows.get p).since =
      if x.changes p then t.later (st.windows.get p).since else (st.windows.get p).since) :
    Faithful st' (x :: trace) where
  old := hl ▸ h.old
  all := by rw [hl]; exact h.all.quiet hr
  windows p := by
    rw [hl, hw]
    cases hc : x.changes p with
    | true =>
      rw [stretch_change hc]
      exact .begins fun e he => Nat.lt_of_lt_of_le (hlt e he) (Moment.le_later_left t _)
    | false =>
      rw [stretch_cons hc]
      exact (h.windows p).quiet hr
  readings := by rw [hl]; exact h.readings_cons hr fun t ht => absurd ht (hs t)

/-- a badge is earned at the last reading -/
theorem earned {l : Ledger} {e : Earned} {since : Instant} (h : Faithful st trace)
    (hr : st.ledger.record r since t = (some e, l)) (hx : x.note = .recorded r.id since t (some e)) (he : epoch ≤ t)
    (hw : ∀ p, (st.windows.get p).since ≤ t) (hs : ∀ y ∈ trace, ∀ u, y.shows u → u ≤ t) :
    Faithful { st with ledger := l } (x :: trace) := by
  have raised : ∀ id, x.raises id = decide (r.id = id) := fun id => by rw [Noted.raises, hx]
  have fixed : ∀ p, x.changes p = false := fun p => by simp [Noted.changes, hx]
  refine ⟨fun f hf => ?_, h.all.earned hr he raised, fun p => ?_, fun newer y older u hu hy => ?_⟩
  · obtain ⟨rfl, made⟩ := Ledger.record_earned hr
    rcases Ledger.mem_enter hf with rfl | hf
    · obtain ⟨-, rfl⟩ | ⟨old, -, -, -, rfl⟩ := made
      · exact he
      · exact Nat.le_trans he (Moment.le_later_left t old.lastEarned)
    · exact h.old f hf
  · rw [stretch_cons (fixed p)]
    exact (h.windows p).earned hr (hw p) raised
  · rcases List.cons_eq_append_iff.1 hu with ⟨rfl, hxy⟩ | ⟨rest, rfl, htrace⟩
    · obtain ⟨rfl, -⟩ := List.cons.inj hxy
      rw [Noted.shows, hx] at hy
      cases hy
    · refine (h.readings rest y older u htrace hy).earned hr (hs y ?_ u hy) raised
      rw [htrace]
      exact List.mem_append_right _ List.mem_cons_self

end Faithful

/-! ## Moves keep it -/

/-- stamps tell what the notes tell, now and at every note -/
structure Told (w : World σ) : Prop where
  now : Faithful w.engine.state w.trace
  always : Throughout (fun x older => Faithful x.engine.state (x :: older)) w.trace

theorem Told.new (h : σ) : Told ({ host := h } : World σ) := ⟨.new, .nil⟩

theorem Told.noting (hw : Told w) {n : Note} (hc : ∀ p, (⟨n, w.engine⟩ : Noted).changes p = false)
    (hr : ∀ id, (⟨n, w.engine⟩ : Noted).raises id = false)
    (hs : ∀ t, n = .clock (.ok t) → ∀ e ∈ w.engine.state.ledger.entries, e.lastEarned < t) : Told (w.noting n) := by
  have now := hw.now.remark hc hr hs
  exact ⟨now, hw.always.cons now⟩

/-- badges were last earned before the instant that the clock shows -/
theorem Stamped.lt {t : Instant} {g : Engine} (hst : Stamped w) (hs : w.trace <:+ older)
    (ht : Rising (⟨.clock (.ok t), g⟩ :: older)) {e : Earned} (he : e ∈ w.engine.state.ledger.entries) :
    e.lastEarned < t := by
  obtain ⟨x, hx, hshown⟩ := hst.ledger e he
  exact ht.lt rfl (hs.subset hx) hshown

theorem Told.matching (hw : Told w) (hst : Stamped w) {id : String} {t : Instant}
    (ht : Rising (w.matching id t).trace) : Told (w.matching id t) := by
  have judged : Told (w.noting (.judged id (.ok (.ok true)))) := hw.noting (fun _ => rfl) (fun _ => rfl) nofun
  refine judged.noting (fun _ => rfl) (fun _ => rfl) ?_
  rintro _ ⟨⟩ e he
  exact hst.lt (List.suffix_cons ..) ht he

/-- windows begin at an instant that was read while the ledger was as it is -/
theorem Told.change {t : Instant} {n : Note} (hw : Told w) (hf : Fresh w.trace) (hread : w.hasRead t)
    (hl : w'.engine.state.ledger = w.engine.state.ledger) (ht : w'.trace = ⟨n, w'.engine⟩ :: w.trace)
    (hr : ∀ id, (⟨n, w'.engine⟩ : Noted).raises id = false) (hs : ∀ t, ¬ (⟨n, w'.engine⟩ : Noted).shows t)
    (hb : ∀ p, (w'.engine.state.windows.get p).since = if (⟨n, w'.engine⟩ : Noted).changes p
      then t.later (w.engine.state.windows.get p).since else (w.engine.state.windows.get p).since) : Told w' := by
  have now := hw.now.change hl hr hs (fun _ => hread.lt hf) hb
  exact ⟨ht ▸ now, ht ▸ hw.always.cons now⟩

theorem Told.kept (hw : Told w) (hst : Stamped w) (hf : Fresh w.trace) (h : Move s w w') (ht : Rising w'.trace) :
    Told w' := by
  cases h.change with
  | still windows ledger trace =>
    rcases trace with trace | ⟨n, hn, trace⟩
    · exact ⟨trace ▸ hw.now.congr windows ledger, trace ▸ hw.always⟩
    · rw [trace] at ht
      have quiet := fun p id => quiet_of_neutral hn w.engine p id
      have noted : Told (w.noting n) := hw.noting (fun p => (quiet p "").1) (fun id => (quiet .global id).2.2) (by
        rintro t rfl e he
        exact hst.lt List.suffix_rfl ht he)
      exact ⟨trace ▸ noted.now.congr windows ledger, trace ▸ noted.always⟩
  | unread id e h =>
    subst h
    have judged : Told (w.noting (.judged id (.ok (.ok true)))) := hw.noting (fun _ => rfl) (fun _ => rfl) nofun
    exact judged.noting (fun _ => rfl) (fun _ => rfl) fun _ h => by cases h
  | held r hr t l hl h =>
    subst h
    have matched := hw.matching hst (ht.of_suffix (List.suffix_cons ..))
    exact matched.noting (fun _ => rfl) (fun _ => rfl) nofun
  | earned r hr t e l hl h =>
    subst h
    have rising : Rising (w.matching r.id t).trace := ht.of_suffix (List.suffix_cons ..)
    have matched := hw.matching hst rising
    have now : Faithful (w.earning r t e l).engine.state (w.earning r t e l).trace := by
      refine matched.now.earned hl rfl (rising.start _ List.mem_cons_self t rfl) (hst.since_le rising) ?_
      intro y hy u hu
      rcases List.mem_cons.1 hy with rfl | hy
      · cases hu
        exact Nat.le_refl _
      · exact Nat.le_of_lt (rising.lt rfl hy hu)
    exact ⟨now, matched.always.cons now⟩
  | refreshed t l hread h =>
    subst h
    exact hw.change hf hread (w.refreshing_ledger t l) (w.refreshing_trace t l) (fun _ => rfl) nofun
      (w.refreshing_begun t l)
  | counted a t hread n key h =>
    subst h
    refine hw.change hf hread rfl (w.counting_trace a n _) (fun _ => rfl) nofun fun p => ?_
    rw [w.counting_begun a n key t p]
    simp only [changes_counted, decide_eq_true_iff]

/-- in a run whose instants rise, stamps tell what the notes tell -/
theorem Moves.told {h : σ} (hm : Moves s { host := h } w) (ht : Rising w.trace) : Told w := by
  have kept : Stamped w ∧ (Rising w.trace → Fresh w.trace ∧ Told w) := by
    clear ht
    induction hm with
    | refl => exact ⟨.new h, fun _ => ⟨fun _ hx => absurd hx List.not_mem_nil, .new h⟩⟩
    | tail _ hv ih =>
      obtain ⟨stamped, told⟩ := ih
      refine ⟨stamped.kept hv, fun ht => ?_⟩
      obtain ⟨fresh, told⟩ := told (ht.of_suffix hv.suffix)
      exact ⟨fresh.kept stamped hv ht, told.kept stamped fresh hv ht⟩
  exact (kept.2 ht).2

/-! ## Questions -/

/-- the period a value names, in any letter case -/
def Value.period? (v : Value) : Option Period :=
  match v with
  | .null => none
  | v =>
    match v.written with
    | .ok text => Period.ofAnyCase? text
    | .error _ => none

/-- the entries of badges whose count was raised in some notes, in the order of the ledger -/
def Ledger.raisedIn (l : Ledger) (ns : List Noted) : List Earned :=
  l.entries.filter fun e => ns.any (Noted.raises e.id)

theorem earnedIn_of_period {st : EngineState} {v : Value} {p : Period} (hv : v.period? = some p) :
    st.earnedIn v = .ok (st.ledger.since (st.windows.get p).since) := by
  have named : v ≠ .null ∧ ∃ text, v.written = .ok text ∧ Period.ofName? (upper text) = some p := by
    unfold Value.period? at hv
    split at hv
    case h_1 => cases hv
    case h_2 hn =>
      split at hv
      case h_1 text ht => exact ⟨hn, text, ht, hv⟩
      case h_2 => cases hv
  obtain ⟨hn, text, ht, hp⟩ := named
  unfold EngineState.earnedIn
  split
  case h_1 => exact absurd rfl hn
  case h_2 =>
    simp only [ht, bind, Except.bind, hp]
    rfl

namespace Faithful

variable {st : EngineState}

theorem earnedIn_eq (h : Faithful st trace) {v : Value} {p : Period} (hv : v.period? = some p) :
    st.earnedIn v = .ok (st.ledger.raisedIn (stretch p trace)) := by
  rw [earnedIn_of_period hv, (h.windows p).since_eq]
  rfl

/-- every entry was made in a run that began without any -/
theorem raisedIn_all (h : Faithful st trace) : st.ledger.raisedIn trace = st.ledger.entries :=
  List.filter_eq_self.2 fun e he => (h.all e.id e (Ledger.get?_of_mem he)).1 (h.old e he)

/-- a bookmark that is set to an instant stands for the notes since it was shown -/
theorem earnedSinceBookmark_eq (h : Faithful st (x :: older)) (hm : MarkedBy st.bookmarks older) (name : String) :
    st.earnedSinceBookmark name =
      match sinceMark name older with
      | none => st.ledger.entries
      | some ns => st.ledger.raisedIn (x :: ns) := by
  have told := hm name
  unfold EngineState.earnedSinceBookmark
  cases hn : sinceMark name older with
  | none =>
    rw [hn] at told
    rw [told, Option.getD_none, h.all.since_eq]
    exact h.raisedIn_all
  | some ns =>
    rw [hn] at told
    obtain ⟨y, oldest, t, rfl, hy, hget⟩ := told
    rw [hget, Option.getD_some, (h.readings (x :: ns) y oldest t rfl hy).since_eq]
    rfl

end Faithful

/-- **Questions.** A host plays a program on a new engine. It loads no state, and the instants its clock shows are the
epoch or later and rise. Then whenever a note is taken, in a hook or outside, the badges earned in a period are those
whose count was raised since its window changed last, and all if it never changed; and the badges earned since a
bookmark are those whose count was raised since it was set last, and all if it is not set. -/
theorem queries_tell_history (s : Setup σ) (program : Script σ α) (h : σ)
    (hl : ∀ x ∈ ((s.play program).exec { host := h }).2.trace, x.loads = false)
    (ht : Rising ((s.play program).exec { host := h }).2.trace) {x : Noted} {older : List Noted}
    (hx : x :: older <:+ ((s.play program).exec { host := h }).2.trace) :
    (∀ v p, v.period? = some p →
      x.engine.state.earnedIn v = .ok (x.engine.state.ledger.raisedIn (stretch p (x :: older))) ∧
        ((∀ y ∈ x :: older, y.changes p = false) → x.engine.state.earnedIn v = .ok x.engine.state.ledger.entries)) ∧
      ∀ name, x.engine.state.earnedSinceBookmark name =
        match sinceMark name older with
        | none => x.engine.state.ledger.entries
        | some ns => x.engine.state.ledger.raisedIn (x :: ns) := by
  obtain ⟨moves, marked⟩ := play_marked program h hl
  have faithful : Faithful x.engine.state (x :: older) := (moves.told ht).always x older hx
  refine ⟨fun v p hv => ⟨faithful.earnedIn_eq hv, fun hc => ?_⟩,
    faithful.earnedSinceBookmark_eq (marked.always x older hx)⟩
  have whole : stretch p (x :: older) = x :: older :=
    List.takeWhile_eq_self_iff.2 fun y hy => by rw [hc y hy]; rfl
  rw [faithful.earnedIn_eq hv, whole, faithful.raisedIn_all]

/-- a badge of every session and one that is earned once, under a clock that ticks every minute; when a session has
started, a hook sets a bookmark -/
def bookkeeping : Setup (List Moment) :=
  { clockwork sessionRule with
    rules := [sessionRule, { id := "a", condition := "true" }]
    hook := fun h k _ =>
      if k = .started .session then
        some (.ask h (.setBookmark "start") fun h _ => .look fun _ => .finish h (.ok ()))
      else none }

/-- two sessions, after which the host looks at the engine and clears the bookmark -/
def twoStarts : Script (List Moment) Unit :=
  .ask ((List.range 11).map july) (.operate (.start .session)) fun h _ =>
    .ask h (.operate (.start .session)) fun h _ =>
      .look fun _ => .ask h (.clearBookmark "start") fun h _ => .finish h (.ok ())

/-- the world after them -/
def bookkept : World (List Moment) := ((bookkeeping.play twoStarts).exec { host := [] }).2

/-- where the host looks, both badges were earned, but one of them not in this session and not since its bookmark -/
theorem bookkept_told : ∃ x older, bookkept.trace.drop 2 = x :: older ∧
    x.engine.state.ledger.entries.map Earned.id = ["s", "a"] ∧
    (∃ es, x.engine.state.earnedIn (.ofText "Session") = .ok es ∧ es.map Earned.id = ["s"]) ∧
    (x.engine.state.earnedSinceBookmark "start").map Earned.id = ["s"] := by
  have unloaded : ∀ x ∈ bookkept.trace, x.loads = false := by
    have none_loads : bookkept.trace.all (fun x => !x.loads) = true := by decide +kernel
    simpa using none_loads
  have ticking : Ticking bookkept.trace := by
    refine .of_readings ((List.range 11).reverse.map july) ?_ (by decide) (by decide)
    decide +kernel
  -- what the notes tell at the look
  have ids : (bookkept.trace.drop 2).head?.map (fun x => (x.engine.state.ledger.entries.map Earned.id,
      (x.engine.state.ledger.raisedIn (stretch (.counter .session) (bookkept.trace.drop 2))).map Earned.id,
      (match sinceMark "start" (bookkept.trace.drop 2).tail with
        | none => x.engine.state.ledger.entries
        | some ns => x.engine.state.ledger.raisedIn (x :: ns)).map Earned.id)) =
      some (["s", "a"], ["s"], ["s"]) := by decide +kernel
  cases hx : bookkept.trace.drop 2 with
  | nil =>
    rw [hx] at ids
    cases ids
  | cons x older =>
    rw [hx] at ids
    simp only [List.head?_cons, Option.map_some, Option.some.injEq, Prod.mk.injEq] at ids
    have hs : x :: older <:+ bookkept.trace := hx ▸ List.drop_suffix 2 bookkept.trace
    unfold bookkept at unloaded ticking hs
    have told := queries_tell_history bookkeeping twoStarts [] unloaded ticking.rises hs
    have session : (Value.ofText "Session").period? = some (.counter .session) := by decide +kernel
    refine ⟨x, older, rfl, ids.1, ⟨_, (told.1 _ _ session).1, ids.2.1⟩, ?_⟩
    rw [told.2 "start"]
    exact ids.2.2

end BadgeEngine
