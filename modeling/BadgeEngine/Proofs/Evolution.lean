/-
How the ledger evolves between loads. A write either makes the first entry of a badge or counts one entry up
(`Ledger.Writes`), and only a rule that is active writes: an engine answers as if the other rules were not there
(`answer_active`). From one write follows what many do: entries keep their order, counts and instants never go back,
and a limit is never passed (`Ledger.Evolves`).
-/
import Mathlib.Data.List.Chain
import Mathlib.Tactic.TFAE
import BadgeEngine.Proofs.Awards
import BadgeEngine.Proofs.Twins

namespace BadgeEngine

open BadgeEngine.Time Relation Run Setup

variable {σ α : Type} {s : Setup σ} {w w' : World σ}

/-! ## Rules that are not active -/

namespace Setup

def active (s : Setup σ) : Setup σ := { s with rules := s.rules.filter (·.active) }

variable (s)

/-- in a loop over rules, those that are not active do nothing -/
theorem forM_active (props system : Props) (rules : List Rule) :
    (rules.filter (·.active)).forM (s.consider props system) = rules.forM (s.consider props system) := by
  induction rules with
  | nil => rfl
  | cons r rules ih =>
    have hcons : (r :: rules).forM (s.consider props system) =
        s.consider props system r >>= fun _ => rules.forM (s.consider props system) := rfl
    rw [hcons, ← ih]
    cases hr : r.active with
    | true =>
      rw [List.filter_cons_of_pos (by simpa using hr)]
      rfl
    | false =>
      rw [List.filter_cons_of_neg (by simp [hr]), consider_of_inactive hr]
      rfl

theorem pass_active : s.active.pass = s.pass := by
  have rules : ∀ props system, s.active.rules.forM (s.active.consider props system) =
      s.rules.forM (s.consider props system) := fun props system => s.forM_active props system s.rules
  unfold pass
  simp only [rules]

theorem eq_compatible : Compatible (σ := σ) fun r r' => r = r' where
  pure _ := rfl
  bind h hf := by rw [h, funext hf]
  engine := rfl
  changeEngine _ _ := rfl
  ofExcept _ := rfl
  note _ _ := rfl
  ensuring f _ h := by rw [h]

/-- **Rules that are not active.** An engine answers as if they were not there. -/
theorem answer_active (q : Request) : s.active.answer q = s.answer q := by
  have parallel : Parallel (fun r r' => r = r') s.active s := ⟨rfl, rfl, fun _ _ => rfl, s.pass_active⟩
  have perform : s.active.perform = s.perform := funext fun op => parallel.perform eq_compatible op
  unfold answer
  rw [perform]
  rfl

end Setup

/-! ## Writes -/

namespace Ledger

/-- a ledger before and after one write for a rule of a list: the first entry of its badge, or its entry counted up
while the limit is not reached -/
inductive Writes (rules : List Rule) (l l' : Ledger) : Prop where
  | first (r : Rule) (hr : r ∈ rules) (hn : r.id ∉ l.entries.map (·.id)) (t : Instant)
      (he' : l'.entries = l.entries ++ [⟨r.id, 1, t⟩]) : Writes rules l l'
  | again (r : Rule) (hr : r ∈ rules) (older newer : List Earned) (e : Earned) (he : l.entries = older ++ e :: newer)
      (hid : e.id = r.id) (hn : r.id ∉ older.map (·.id)) (hm : ∀ m, r.max = some m → e.count < m) (t : Instant)
      (he' : l'.entries = older ++ ⟨r.id, e.count + 1, t.later e.lastEarned⟩ :: newer) : Writes rules l l'

variable {rules : List Rule} {r : Rule} {l l' l'' : Ledger} {e old : Earned} {es older newer : List Earned}
  {since t : Instant} {id : String}

/-- the first entry of a badge is its entry; other badges are looked up beside it -/
theorem entryFor?_split (h : e.id ∉ older.map (·.id)) : entryFor? id (older ++ e :: newer) =
    if e.id = id then some e else entryFor? id (older ++ newer) := by
  have hnone : entryFor? e.id older = none := entryFor?_none_iff.2 h
  unfold entryFor? at hnone ⊢
  rw [List.find?_append, List.find?_append, List.find?_cons]
  by_cases hid : e.id = id
  · rw [← hid, hnone]
    simp
  · simp [hid]

/-- an entry put among others is a new one at the end, or takes the place of the entry of its badge -/
theorem put_cases (e : Earned) (es : List Earned) :
    (entryFor? e.id es = none ∧ put e es = es ++ [e]) ∨
      ∃ old older newer, entryFor? e.id es = some old ∧ old.id = e.id ∧ e.id ∉ older.map (·.id) ∧
        es = older ++ old :: newer ∧ put e es = older ++ e :: newer := by
  induction es with
  | nil => exact .inl ⟨rfl, rfl⟩
  | cons f es ih =>
    unfold put
    by_cases hf : f.id = e.id
    · refine .inr ⟨f, [], es, ?_, hf, List.not_mem_nil, rfl, if_pos hf⟩
      simp [entryFor?, hf]
    · have hget : entryFor? e.id (f :: es) = entryFor? e.id es := by simp [entryFor?, hf]
      rw [hget, if_neg hf]
      obtain ⟨hg, hput⟩ | ⟨old, older, newer, hg, hid, hn, hes, hput⟩ := ih
      · exact .inl ⟨hg, by rw [hput, List.cons_append]⟩
      · have hn' : e.id ∉ (f :: older).map (·.id) := by
          rw [List.map_cons, List.mem_cons]
          exact fun h => h.elim (fun he => hf he.symm) hn
        exact .inr ⟨old, f :: older, newer, hg, hid, hn', by rw [hes, List.cons_append], by rw [hput, List.cons_append]⟩

/-- a match that earns its badge is one write -/
theorem record_writes (hr : r ∈ rules) (h : l.record r since t = (some e, l')) : Writes rules l l' := by
  obtain ⟨rfl, ⟨hg, rfl⟩ | ⟨old, hg, -, hm, rfl⟩⟩ := record_earned h <;> rw [get?_eq] at hg
  · obtain ⟨-, hput⟩ | ⟨_, _, _, hsome, -⟩ := put_cases ⟨r.id, 1, t⟩ l.entries
    · exact .first r hr (entryFor?_none_iff.1 hg) t ((enter_entries ..).trans hput)
    · cases hg.symm.trans hsome
  · obtain ⟨hnone, -⟩ | ⟨_, older, newer, hsome, hid, hn, hl, hput⟩ :=
      put_cases ⟨r.id, old.count + 1, t.later old.lastEarned⟩ l.entries
    · cases hg.symm.trans hnone
    · obtain rfl := Option.some.inj (hg.symm.trans hsome)
      have below : ∀ m, r.max = some m → old.count < m := by
        intro m hmax
        exact Int.not_le.1 fun hle => hm ⟨m, hmax, hle⟩
      exact .again r hr older newer old hl hid hn below t ((enter_entries ..).trans hput)

/-! ### What follows from writes -/

/-- what any number of writes for rules of a list make of a ledger -/
structure Evolves (rules : List Rule) (l l' : Ledger) : Prop where
  /-- entries stay in their order, and new ones come at the end -/
  ids : l.entries.map (·.id) <+: l'.entries.map (·.id)
  /-- counts and instants never go back -/
  kept : ∀ id e, l.get? id = some e → ∃ e', l'.get? id = some e' ∧ e.count ≤ e'.count ∧ e.lastEarned ≤ e'.lastEarned
  /-- badges of no rule stay as they are -/
  others : ∀ id, (∀ r ∈ rules, r.id ≠ id) → l'.get? id = l.get? id
  /-- no count is raised above a limit, and above one if the limit is lower -/
  capped : ∀ r ∈ rules, ∀ m, r.max = some m → l'.count r.id ≤ max (max m 1) (l.count r.id)

theorem Evolves.refl (rules : List Rule) (l : Ledger) : Evolves rules l l where
  ids := List.prefix_rfl
  kept _ e he := ⟨e, he, Int.le_refl _, Nat.le_refl _⟩
  others _ _ := rfl
  capped _ _ _ _ := Int.le_max_right ..

theorem Evolves.trans (h : Evolves rules l l') (h' : Evolves rules l' l'') : Evolves rules l l'' where
  ids := h.ids.trans h'.ids
  kept id e he := by
    obtain ⟨e', he', hcount, hlast⟩ := h.kept id e he
    obtain ⟨e'', he'', hcount', hlast'⟩ := h'.kept id e' he'
    exact ⟨e'', he'', Int.le_trans hcount hcount', Nat.le_trans hlast hlast'⟩
  others id hid := (h'.others id hid).trans (h.others id hid)
  capped r hr m hm := by
    have hl := h.capped r hr m hm
    have hl' := h'.capped r hr m hm
    omega

/-- a write changes one entry, the one of a badge of a rule: it makes it, or counts it up by one -/
theorem Writes.entry (h : Writes rules l l') : ∃ r ∈ rules, (∀ id, id ≠ r.id → l'.get? id = l.get? id) ∧
    ((l.get? r.id = none ∧ ∃ t, l'.get? r.id = some ⟨r.id, 1, t⟩) ∨
      ∃ (e : Earned) (t : Instant), l.get? r.id = some e ∧
        l'.get? r.id = some ⟨r.id, e.count + 1, t.later e.lastEarned⟩ ∧ ∀ m, r.max = some m → e.count < m) := by
  cases h with
  | first r hr hn t he' =>
    have hget : ∀ id, l'.get? id = if r.id = id then some ⟨r.id, 1, t⟩ else l.get? id := by
      intro id
      have last : entryFor? id (l.entries ++ [⟨r.id, 1, t⟩]) =
          if r.id = id then some ⟨r.id, 1, t⟩ else entryFor? id (l.entries ++ []) := entryFor?_split hn
      rwa [List.append_nil, ← he', ← get?_eq, ← get?_eq] at last
    refine ⟨r, hr, fun id hid => ?_, .inl ⟨get?_none_iff.2 hn, t, ?_⟩⟩
    · rw [hget, if_neg (Ne.symm hid)]
    · rw [hget, if_pos rfl]
  | again r hr older newer e he hid hn hm t he' =>
    have hget : ∀ f : Earned, f.id = r.id → ∀ id, entryFor? id (older ++ f :: newer) =
        if r.id = id then some f else entryFor? id (older ++ newer) := by
      intro f hf id
      rw [entryFor?_split (hf ▸ hn), hf]
    simp only [get?_eq, he, he']
    refine ⟨r, hr, fun id hne => ?_, .inr ⟨e, t, ?_, ?_, hm⟩⟩
    · rw [hget _ rfl, hget e hid, if_neg (Ne.symm hne), if_neg (Ne.symm hne)]
    · rw [hget e hid, if_pos rfl]
    · rw [hget _ rfl, if_pos rfl]

theorem Writes.ids (h : Writes rules l l') : l.entries.map (·.id) <+: l'.entries.map (·.id) := by
  cases h with
  | first r hr hn t he' =>
    rw [he', List.map_append]
    exact List.prefix_append ..
  | again r hr older newer e he hid hn hm t he' =>
    have same : l'.entries.map (·.id) = l.entries.map (·.id) := by
      rw [he', he, List.map_append, List.map_append, List.map_cons, List.map_cons, hid]
    exact same ▸ List.prefix_rfl

/-- one write is a step of the evolution -/
theorem Writes.evolves (hd : DistinctRules rules) (h : Writes rules l l') : Evolves rules l l' := by
  obtain ⟨r, hr, other, self⟩ := h.entry
  refine ⟨h.ids, fun id f hf => ?_, fun id hid => other id fun h => hid r hr h.symm, fun r' hr' m hm => ?_⟩
  · by_cases hid : id = r.id
    · subst hid
      obtain ⟨hg, -⟩ | ⟨e, t, hg, hg', -⟩ := self
      · cases hg.symm.trans hf
      · obtain rfl := Option.some.inj (hg.symm.trans hf)
        refine ⟨_, hg', by dsimp only; omega, ?_⟩
        rw [Moment.le_iff, Moment.later_micros]
        exact Nat.le_max_right ..
    · exact ⟨f, (other id hid).trans hf, Int.le_refl _, Nat.le_refl _⟩
  · by_cases hid : r'.id = r.id
    · obtain rfl := hd.eq_of_id hr hr' hid
      obtain ⟨hg, t, hg'⟩ | ⟨e, t, hg, hg', below⟩ := self
      · -- the first entry counts 1, whatever the limit
        simp only [count, hg, hg']
        omega
      · have hlt := below m hm
        simp only [count, hg, hg']
        omega
    · rw [count, other r'.id hid]
      exact Int.le_max_right ..

/-- a write keeps a ledger in order -/
theorem Writes.orderly (h : Writes rules l l') (ho : l.Orderly) : l'.Orderly := by
  refine ⟨l'.distinct, fun f hf => ?_⟩
  cases h with
  | first r hr hn t he' =>
    rw [he'] at hf
    rcases List.mem_append.1 hf with hf | hf
    · exact ho.counts f hf
    · obtain rfl := List.mem_singleton.1 hf
      exact Int.le_refl 1
  | again r hr older newer e he hid hn hm t he' =>
    have hmem : ∀ {f}, f ∈ older ++ e :: newer → f ∈ l.entries := fun hf => he ▸ hf
    rw [he'] at hf
    rcases List.mem_append.1 hf with hf | hf
    · exact ho.counts f (hmem (List.mem_append_left _ hf))
    · rcases List.mem_cons.1 hf with rfl | hf
      · have := ho.counts e (hmem (List.mem_append_right _ List.mem_cons_self))
        dsimp only
        omega
      · exact ho.counts f (hmem (List.mem_append_right _ (List.mem_cons_of_mem _ hf)))

/-- four ways to ask whether a badge was earned come to the same -/
theorem Orderly.earned_tfae (h : l.Orderly) (id : String) :
    List.TFAE [l.hasEarned id = true, 1 ≤ l.count id, l.get? id ≠ none, id ∈ l.entries.map (·.id)] := by
  tfae_have 1 ↔ 3 := by rw [hasEarned_eq, Option.isSome_iff_ne_none]
  tfae_have 3 ↔ 4 := by rw [Ne, get?_none_iff, not_not]
  tfae_have 2 ↔ 3 := by
    unfold count
    cases hg : l.get? id with
    | none => simp
    | some e => simpa using h.counts e (get?_mem hg)
  tfae_finish

end Ledger

/-! ## Worlds -/

def World.ledger (w : World σ) : Ledger := w.engine.state.ledger

/-- the ledger when a note was taken -/
def Noted.ledger (x : Noted) : Ledger := x.engine.state.ledger

/-- a ledger is another one, or the other one after one write -/
def Ledger.Steps (rules : List Rule) (l' l : Ledger) : Prop := l' = l ∨ l.Writes rules l'

/-- a world after writes for rules of a list, all of which show in the notes taken: from one note to the next, the
ledger is the same or was written once -/
def Written (rules : List Rule) (w w' : World σ) : Prop :=
  ∃ ns, w'.trace = ns ++ w.trace ∧ ∃ older, ns.map (·.ledger) ++ [w.ledger] = w'.ledger :: older ∧
    List.IsChain (Ledger.Steps rules) (w'.ledger :: older)

namespace Written

variable {rules : List Rule} {u : World σ}

theorem still (hl : w'.ledger = w.ledger) (ht : w'.trace = w.trace) : Written rules w w' :=
  ⟨[], ht, [], by rw [hl]; rfl, List.isChain_singleton _⟩

/-- a note is taken after at most one write -/
theorem noted {x : Noted} (ht : w'.trace = x :: w.trace) (hx : x.ledger = w'.ledger)
    (h : w'.ledger.Steps rules w.ledger) : Written rules w w' :=
  ⟨[x], ht, [w.ledger], by rw [← hx]; rfl, List.isChain_cons_cons.2 ⟨h, List.isChain_singleton _⟩⟩

theorem noting (w : World σ) (n : Note) : Written rules w (w.noting n) := noted rfl rfl (.inl rfl)

theorem trans (h : Written rules u w) (h' : Written rules w w') : Written rules u w' := by
  obtain ⟨ns, hns, older, hl, hc⟩ := h
  obtain ⟨ms, hms, newer, hl', hc'⟩ := h'
  have joined : (ms ++ ns).map (·.ledger) ++ [u.ledger] = ms.map (·.ledger) ++ w.ledger :: older := by
    rw [List.map_append, List.append_assoc, hl]
  have front : ms.map (·.ledger) ++ w.ledger :: older = w'.ledger :: (newer ++ older) := by
    rw [← List.cons_append, ← hl', List.append_assoc]
    rfl
  have chain : List.IsChain (Ledger.Steps rules) (ms.map (·.ledger) ++ w.ledger :: older) :=
    List.isChain_split.2 ⟨hl'.symm ▸ hc', hc⟩
  exact ⟨ms ++ ns, by rw [hms, hns, List.append_assoc], newer ++ older, joined.trans front, front ▸ chain⟩

/-- what holds of the ledger and is kept by a write holds whenever a note was taken -/
theorem all {P : Ledger → Prop} (h : Written rules w w') (hP : ∀ {l l' : Ledger}, l.Writes rules l' → P l → P l')
    (hw : P w.ledger) : P w'.ledger ∧ ∀ x ∈ w'.trace, x ∈ w.trace ∨ P x.ledger := by
  obtain ⟨ns, hns, older, hl, hc⟩ := h
  have last : ∀ hne, P ((w'.ledger :: older).getLast hne) := by
    intro hne
    simpa only [← hl, List.getLast_append_singleton] using hw
  have every : ∀ l ∈ w'.ledger :: older, P l := by
    refine hc.backwards_induction P _ (fun l' l hs hl => ?_) last
    rcases hs with rfl | hs
    · exact hl
    · exact hP hs hl
  refine ⟨every _ List.mem_cons_self, fun x hx => ?_⟩
  rw [hns] at hx
  rcases List.mem_append.1 hx with hx | hx
  · exact .inr (every _ (hl ▸ List.mem_append_left _ (List.mem_map_of_mem hx)))
  · exact .inl hx

/-- what was written makes the ledger evolve -/
theorem evolves (h : Written rules w w') (hd : DistinctRules rules) : w.ledger.Evolves rules w'.ledger :=
  (h.all (P := w.ledger.Evolves rules) (fun hs hl => hl.trans (hs.evolves hd)) (.refl rules w.ledger)).1

end Written

/-- a change writes the ledger once, for a rule of the engine, or leaves it as it is -/
theorem Change.written (h : Change s w w') : Written s.rules w w' := by
  have matching : ∀ id t, Written s.rules w (w.matching id t) := fun id t => (Written.noting w _).trans (.noting _ _)
  cases h with
  | still windows ledger trace =>
    rcases trace with ht | ⟨n, -, ht⟩
    · exact .still ledger ht
    · exact .noted ht ledger.symm (.inl ledger)
  | unread id e h => exact h ▸ (Written.noting w _).trans (.noting _ _)
  | held r hr t l hl h => exact h ▸ (matching r.id t).trans (.noting _ _)
  | earned r hr t e l hl h =>
    subst h
    exact (matching r.id t).trans (.noted (w.earning_trace r t e l) rfl (.inr (Ledger.record_writes hr hl)))
  | refreshed t l ht h =>
    subst h
    exact .noted (w.refreshing_trace t l) rfl (.inl (w.refreshing_ledger t l))
  | counted a t ht n key h =>
    subst h
    exact .noted (w.counting_trace a n _) rfl (.inl rfl)

theorem Moves.written (h : Moves s w w') : Written s.rules w w' := by
  induction h with
  | refl => exact .still rfl rfl
  | tail _ h ih => exact ih.trans h.change.written

/-! ## Runs -/

/-- the worlds a host comes to from another one, by changes of its own and by requests that load no state -/
inductive Onward (s : Setup σ) (w : World σ) : World σ → Prop where
  | here : Onward s w w
  | host {w' : World σ} (h : Onward s w w') (x : σ) : Onward s w (w'.withHost x)
  | asked {w' : World σ} (h : Onward s w w') (q : Request) (hq : q.isLoad = false) :
      Onward s w ((s.answer q).exec w').2

/-- what a host does without loading a state is a chain of moves, of rules that are active -/
theorem Onward.moves (h : Onward s w w') (hb : w.engine.busy = false) :
    Moves s.active w w' ∧ w'.engine.busy = false := by
  induction h with
  | here => exact ⟨.refl, hb⟩
  | host h x ih => exact ⟨ih.1.tail (.rule (.hook (.host _ x))), ih.2⟩
  | asked h q hq ih =>
    obtain ⟨hm, hi⟩ := ih
    have asked := leads_const.1 (answer_moves (s := s.active) hq _) hi
    rw [s.answer_active] at asked
    exact ⟨hm.trans asked.1, asked.2⟩

/-- the ledger is in order, and it was whenever a note was taken -/
structure Tidy (w : World σ) : Prop where
  ledger : w.ledger.Orderly
  trace : ∀ x ∈ w.trace, x.ledger.Orderly

theorem Written.tidy {rules : List Rule} (h : Written rules w w') (hw : Tidy w) : Tidy w' := by
  obtain ⟨ledger, trace⟩ := h.all Ledger.Writes.orderly hw.ledger
  exact ⟨ledger, fun x hx => (trace x hx).elim (hw.trace x) id⟩

/-- a state that is loaded has a ledger in order, whatever it was read from -/
theorem Turns.tidy (h : Turns s w w') (hw : Tidy w) : Tidy w' := by
  induction h with
  | refl => exact hw
  | tail _ h ih =>
    cases h with
    | moved h => exact h.change.written.tidy ih
    | loaded v st hv => exact ⟨((EngineState.ofValue_orderly v).answer hv).prepared.ledger, ih.trace⟩

theorem Reached.tidy (hw : Reached s w) : Tidy w := by
  induction hw with
  | new h => exact ⟨.empty, fun _ hx => absurd hx List.not_mem_nil⟩
  | host hw h ih => exact ⟨ih.ledger, ih.trace⟩
  | asked hw q hq ih => exact Turns.tidy (leads_const.1 (answer_turns q _) (Reach.idle hw)).1 ih

/-- **Evolution.** From a world that a host came to by requests of any kind, also by loads, it goes on without loading
a state. Then only rules that are active write the ledger, one entry at a time; entries keep their order, counts and
instants never go back, no count is raised above a limit of one or more, and none above one by a lower limit. At every
point before and after, a badge has an entry, a place in the index, a count and an answer to whether it was earned, or
none of them. -/
theorem ledger_evolves (hd : DistinctRules s.rules) (hw : Reached s w) (h : Onward s w w') :
    Written (s.rules.filter (·.active)) w w' ∧ w.ledger.Evolves (s.rules.filter (·.active)) w'.ledger ∧
      ∀ l : Ledger, l = w'.ledger ∨ l ∈ w'.trace.map (·.ledger) → Ledger.Distinct l.entries ∧
        ∀ id, List.TFAE [l.hasEarned id = true, 1 ≤ l.count id, l.get? id ≠ none, id ∈ l.entries.map (·.id)] := by
  obtain ⟨moves, -⟩ := h.moves (Reach.idle hw)
  have written : Written (s.rules.filter (·.active)) w w' := moves.written
  have distinct : DistinctRules (s.rules.filter (·.active)) := hd.sublist (List.filter_sublist.map _)
  have tidy := written.tidy (Reached.tidy hw)
  refine ⟨written, written.evolves distinct, fun l hl => ?_⟩
  have orderly : l.Orderly := by
    rcases hl with rfl | hl
    · exact tidy.ledger
    · obtain ⟨x, hx, rfl⟩ := List.mem_map.1 hl
      exact tidy.trace x hx
  exact ⟨orderly.distinct, orderly.earned_tfae⟩

/-- a badge that can be earned once in a session, and twice in all -/
def twiceRule : Rule := { id := "twice", condition := "true", period := .counter .session, max := some 2 }

/-- a state from elsewhere, in which one badge comes twice, and counts are zero and below -/
def heapedState : Value :=
  .dict [(.ofText "earned", .list [
    .dict [(.ofText "id", .ofText "other"), (.ofText "count", .ofInt (-3)),
      (.ofText "lastEarned", .ofText "20220704T0915Z")],
    .dict [(.ofText "id", .ofText "twice"), (.ofText "count", .ofInt 0),
      (.ofText "lastEarned", .ofText "20220704T0915Z")],
    .dict [(.ofText "id", .ofText "other"), (.ofText "count", .ofInt 7),
      (.ofText "lastEarned", .ofText "20220704T0915Z")]])]

def heaped : World (List Moment) :=
  World.after (clockwork twiceRule) { host := [july 930, july 931, july 932, july 933, july 934, july 935] }
    [.operate (.load heapedState)]

/-- the engine after two sessions: the badge is counted up in the first and held back in the second -/
def heapedLater : World (List Moment) :=
  World.after (clockwork twiceRule) heaped [.operate (.start .session), .operate (.start .session)]

theorem heaped_evolves :
    heaped.ledger.entries.map (fun e => (e.id, e.count)) = [("other", 1), ("twice", 1)] ∧
      heapedLater.ledger.entries.map (fun e => (e.id, e.count)) = [("other", 1), ("twice", 2)] ∧
      Written [twiceRule] heaped heapedLater ∧ heaped.ledger.Evolves [twiceRule] heapedLater.ledger := by
  have hd : DistinctRules (clockwork twiceRule).rules := List.nodup_singleton _
  have hw : Reached (clockwork twiceRule) heaped := Reach.after (.new _) fun _ _ => trivial
  have later : Onward (clockwork twiceRule) heaped heapedLater := .asked (.asked .here _ rfl) _ rfl
  obtain ⟨written, evolves, -⟩ := ledger_evolves hd hw later
  exact ⟨by decide +kernel, by decide +kernel, written, evolves⟩

/-- a count is raised above a limit of zero; and a ledger of entries takes a count of zero as it is, so that a badge was
earned and yet has no count -/
theorem limit_passed :
    (Onward (clockwork neverRule) { host := [july 930, july 931] } neverRun ∧ neverRule.max = some 0 ∧
      neverRun.ledger.count neverRule.id = 1) ∧
    (Ledger.ofEntries [⟨"a", 0, july 930⟩]).1.hasEarned "a" = true ∧
      (Ledger.ofEntries [⟨"a", 0, july 930⟩]).1.count "a" = 0 :=
  ⟨⟨.asked .here (.operate .evaluate) rfl, rfl, by decide +kernel⟩, by decide +kernel, by decide +kernel⟩

end BadgeEngine
