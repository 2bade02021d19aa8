/-
The store of profiles is a map from ids to states (`profiles_kept`).

Of the library that works on a database only this is known (`Database.Faithful`): work sees the rows that it should and
leaves those of the database as they are, and a commit that comes to its end has written what was seen. So each function
of the store changes one row or none, and if it fails, none (`Faithful.save`, `Faithful.remove`). What a database holds
can be told from the calls alone: each id that was saved and not taken away since, and under it the state that was saved
last (`Stored`).
-/
import Mathlib.Logic.Function.Basic
import BadgeEngine.Profiles
import BadgeEngine.Proofs.Entries
import BadgeEngine.Proofs.Reload

namespace BadgeEngine

open Run Setup

variable {B S α β σ : Type}

/-! ## Work -/

theorem Work.on_bind (work : Work S α) (f : α → Work S β) (s : S) : Work.on (work >>= f) s =
    match work.on s with
    | (.ok x, s') => (f x).on s'
    | (.error e, s') => (.error e, s') := by
  unfold Work.on
  simp only [bind, ExceptT.bind, ExceptT.mk, ExceptT.run, StateT.bind, StateT.run]
  rcases (work : StateM S _) s with ⟨_ | _, s'⟩ <;> rfl

theorem Work.on_bind_ok {work : Work S α} {x : α} {s : S} (h : (work.on s).1 = .ok x) (f : α → Work S β) :
    Work.on (work >>= f) s = (f x).on (work.on s).2 := by
  rw [Work.on_bind]
  rcases hw : work.on s with ⟨_, s'⟩
  rw [hw] at h
  obtain rfl : _ = Except.ok x := h
  rfl

theorem Work.on_tryCatch (work : Work S α) (f : Problem → Work S α) (s : S) : Work.on (tryCatch work f) s =
    match work.on s with
    | (.ok x, s') => (.ok x, s')
    | (.error e, s') => (f e).on s' := by
  unfold Work.on
  simp only [tryCatch, MonadExcept.tryCatch, tryCatchThe, MonadExceptOf.tryCatch, ExceptT.tryCatch, ExceptT.run,
    ExceptT.mk, bind, StateT.bind, StateT.run]
  rcases (work : StateM S _) s with ⟨_ | _, s'⟩ <;> rfl

/-! ## What is promised -/

/-- something holds of each state -/
def Each (P : Value → Prop) (rows : String → Option Value) : Prop := ∀ id v, rows id = some v → P v

theorem Each.update {P : Value → Prop} {rows : String → Option Value} (h : Each P rows) (id : String) {x : Option Value}
    (hx : ∀ v, x = some v → P v) : Each P (Function.update rows id x) := by
  intro other v hv
  by_cases ho : other = id
  · rw [ho, Function.update_self] at hv
    exact hx v hv
  · rw [Function.update_of_ne ho] at hv
    exact h other v hv

namespace Database

/-- work leaves the rows of the database as they are; and unless it fails, something holds of what it comes to and of
the rows that are seen then -/
def Works (D : Database B S) (rows : B → String → Option Value) (seen : S → String → Option Value) (work : Work S α)
    (s : S) (Q : α → (String → Option Value) → Prop) : Prop :=
  rows (D.leave (work.on s).2) = rows (D.leave s) ∧ ∀ x, (work.on s).1 = .ok x → Q x (seen (work.on s).2)

/-- what is promised of the rows of a database and of those seen in a session: in a new session the rows of the database
are found by their ids, and every id is listed once; a row is inserted, assigned and deleted by its id; and nothing is
written but by a commit -/
structure Faithful (D : Database B S) (rows : B → String → Option Value) (seen : S → String → Option Value) : Prop where
  enter : ∀ b, rows (D.leave (D.enter b)) = rows b
  find : ∀ b id, D.Works rows seen (D.find id) (D.enter b) fun x now => x = rows b id ∧ now = rows b
  insert : ∀ s id v, seen s id = none →
    D.Works rows seen (D.insert id v) s fun _ now => now = Function.update (seen s) id (some v)
  assign : ∀ s id v, (seen s id).isSome →
    D.Works rows seen (D.assign id v) s fun _ now => now = Function.update (seen s) id (some v)
  delete : ∀ s id, (seen s id).isSome → D.Works rows seen (D.delete id) s fun _ now =>
    now = Function.update (seen s) id none
  ids : ∀ b ordered, D.Works rows seen (D.ids ordered) (D.enter b) fun ids _ =>
    ids.Nodup ∧ (∀ id, id ∈ ids ↔ (rows b id).isSome) ∧ (ordered = true → ids.Pairwise (· ≤ ·))
  committed : ∀ s x, (D.commit.on s).1 = .ok x → rows (D.leave (D.commit.on s).2) = seen s
  uncommitted : ∀ s e, (D.commit.on s).1 = .error e → rows (D.leave (D.commit.on s).2) = rows (D.leave s)
  rollback : ∀ s, rows (D.leave (D.rollback.on s).2) = rows (D.leave s)

/-- nothing fails but a commit where a state cannot be written -/
structure Sound (D : Database B S) (seen : S → String → Option Value) : Prop where
  find : ∀ b id, ∃ x, ((D.find id).on (D.enter b)).1 = .ok x
  insert : ∀ s id v, ∃ x, ((D.insert id v).on s).1 = .ok x
  assign : ∀ s id v, ∃ x, ((D.assign id v).on s).1 = .ok x
  delete : ∀ s id, ∃ x, ((D.delete id).on s).1 = .ok x
  ids : ∀ b ordered, ∃ x, ((D.ids ordered).on (D.enter b)).1 = .ok x
  commit : ∀ s, (∃ x, (D.commit.on s).1 = .ok x) ↔ Each (·.isWritable) (seen s)

variable {D : Database B S} {rows : B → String → Option Value} {seen : S → String → Option Value} {work : Work S α}
  {s : S} {b : B} {id : String} {v : Value} {Q : α → (String → Option Value) → Prop}
  {R : β → (String → Option Value) → Prop}

theorem Works.pure {x : α} (h : Q x (seen s)) : D.Works rows seen (pure x) s Q := by
  refine ⟨rfl, fun y hy => ?_⟩
  cases hy
  exact h

theorem Works.bind {f : α → Work S β} (h : D.Works rows seen work s Q)
    (hf : ∀ x s', Q x (seen s') → rows (D.leave s') = rows (D.leave s) → D.Works rows seen (f x) s' R) :
    D.Works rows seen (work >>= f) s R := by
  unfold Works at h ⊢
  rw [Work.on_bind]
  rcases hw : work.on s with ⟨e | x, s'⟩ <;> rw [hw] at h
  · exact ⟨h.1, nofun⟩
  · obtain ⟨kept, tells⟩ := hf x s' (h.2 x rfl) h.1
    exact ⟨kept.trans h.1, tells⟩

/-! ## Sessions -/

namespace Faithful

variable (hD : D.Faithful rows seen)

include hD

/-- a session that is only left tells what it saw, and changes no row -/
theorem looking (h : D.Works rows seen work (D.enter b) Q) :
    rows (D.looking work b).2 = rows b ∧ ∀ x, (D.looking work b).1 = .ok x → ∃ now, Q x now :=
  ⟨h.1.trans (hD.enter b), fun x hx => ⟨_, h.2 x hx⟩⟩

/-- how a session that writes ends: with its work done and committed, or with something failed and no row changed -/
theorem writing_cases (h : D.Works rows seen work (D.enter b) Q) :
    (∃ x s t, work.on (D.enter b) = (.ok x, s) ∧ D.commit.on s = (.ok (), t) ∧
        D.writing work b = (.ok x, D.leave t)) ∨
      ∃ e t, D.writing work b = (.error e, D.leave t) ∧ rows (D.leave t) = rows b ∧
        ∀ x s, work.on (D.enter b) = (.ok x, s) → ∃ e', (D.commit.on s).1 = .error e' := by
  -- what is left after a rollback
  have undone : ∀ s e, rows (D.leave s) = rows b →
      ∃ e' t, Work.on (do D.rollback; throw e : Work S α) s = (.error e', t) ∧ rows (D.leave t) = rows b := by
    intro s e hs
    rw [Work.on_bind]
    have kept := (hD.rollback s).trans hs
    rcases hr : D.rollback.on s with ⟨e' | ⟨⟩, t⟩ <;> rw [hr] at kept
    · exact ⟨e', t, rfl, kept⟩
    · exact ⟨e, t, rfl, kept⟩
  unfold Database.writing Database.looking
  rw [Work.on_tryCatch, Work.on_bind]
  have kept := h.1.trans (hD.enter b)
  rcases hw : work.on (D.enter b) with ⟨e | x, s⟩ <;> rw [hw] at kept <;> dsimp only
  · obtain ⟨e', t, ended, unchanged⟩ := undone s e kept
    rw [ended]
    exact .inr ⟨e', t, rfl, unchanged, fun _ _ h => nomatch h⟩
  · rw [Work.on_bind]
    have uncommitted := hD.uncommitted s
    rcases hc : D.commit.on s with ⟨e | ⟨⟩, s'⟩ <;> dsimp only
    · rw [hc] at uncommitted
      obtain ⟨e', t, ended, unchanged⟩ := undone s' e ((uncommitted e rfl).trans kept)
      rw [ended]
      refine .inr ⟨e', t, rfl, unchanged, fun y s'' h => ?_⟩
      cases h
      exact ⟨e, by rw [hc]⟩
    · exact .inl ⟨x, s, s', rfl, hc, rfl⟩

/-- a session that is committed has written what was seen at its end, and one that fails has written nothing -/
theorem writing (h : D.Works rows seen work (D.enter b) Q) :
    (∀ x, (D.writing work b).1 = .ok x → Q x (rows (D.writing work b).2)) ∧
      ∀ e, (D.writing work b).1 = .error e → rows (D.writing work b).2 = rows b := by
  obtain ⟨x, s, t, hw, hc, hr⟩ | ⟨e, t, hr, unchanged, -⟩ := hD.writing_cases h <;> rw [hr]
  · refine ⟨fun y hy => ?_, nofun⟩
    cases hy
    have committed := hD.committed s ()
    have tells := h.2 x
    rw [hc] at committed
    rw [hw] at tells
    rw [committed rfl]
    exact tells rfl
  · exact ⟨nofun, fun _ _ => unchanged⟩

/-- a session comes to its end if its work does and what is seen then can be written -/
theorem writing_ends (hs : D.Sound seen) (h : D.Works rows seen work (D.enter b) Q)
    (hok : ∃ x, (work.on (D.enter b)).1 = .ok x)
    (hw : ∀ x now, Q x now → Each (·.isWritable) now) : ∃ x, (D.writing work b).1 = .ok x := by
  obtain ⟨x, s, t, -, -, hr⟩ | ⟨-, -, -, -, failed⟩ := hD.writing_cases h
  · exact ⟨x, by rw [hr]⟩
  · obtain ⟨x, hx⟩ := hok
    obtain ⟨e, he⟩ := failed x _ (Prod.ext hx rfl)
    obtain ⟨y, hy⟩ := (hs.commit _).2 (hw x _ (h.2 x hx))
    rw [he] at hy
    cases hy

/-- what a session has written can be written -/
theorem writing_writable (hs : D.Sound seen) (h : D.Works rows seen work (D.enter b) Q) {x : α}
    (hok : (D.writing work b).1 = .ok x) : Each (·.isWritable) (rows (D.writing work b).2) := by
  obtain ⟨y, s, t, -, hc, hr⟩ | ⟨e, t, hr, -, -⟩ := hD.writing_cases h <;> rw [hr] at hok ⊢
  · have committed := hD.committed s ()
    rw [hc] at committed
    rw [committed rfl]
    exact (hs.commit s).1 ⟨(), by rw [hc]⟩
  · cases hok

/-! ## Functions of the store -/

theorem saving (id : String) (v : Value) (b : B) :
    D.Works rows seen (D.saving id v) (D.enter b) fun _ now => now = Function.update (rows b) id (some v) := by
  refine (hD.find b id).bind fun x s hs _ => ?_
  obtain ⟨rfl, same⟩ := hs
  rw [← same]
  cases hr : seen s id with
  | none => exact hD.insert s id v hr
  | some old => exact hD.assign s id v (by rw [hr]; rfl)

theorem removing (id : String) (b : B) : D.Works rows seen (D.removing id) (D.enter b) fun found now =>
    found = (rows b id).isSome ∧ now = Function.update (rows b) id none := by
  refine (hD.find b id).bind fun x s hs _ => ?_
  obtain ⟨rfl, same⟩ := hs
  rw [← same]
  cases hr : seen s id with
  | none =>
    -- the work ends early, and the rows stay as they are
    refine .pure ⟨rfl, ?_⟩
    rw [← hr, Function.update_eq_self]
  | some old => exact (hD.delete s id (by rw [hr]; rfl)).bind fun _ _ h _ => .pure ⟨rfl, h⟩

theorem save (id : String) (v : Value) (b : B) :
    (∀ x, (D.save id v b).1 = .ok x → rows (D.save id v b).2 = Function.update (rows b) id (some v)) ∧
      ∀ e, (D.save id v b).1 = .error e → rows (D.save id v b).2 = rows b :=
  hD.writing (hD.saving id v b)

theorem stored (id : String) (b : B) :
    rows (D.stored id b).2 = rows b ∧ ∀ x, (D.stored id b).1 = .ok x → x = rows b id := by
  obtain ⟨kept, tells⟩ := hD.looking (hD.find b id)
  refine ⟨kept, fun x hx => ?_⟩
  obtain ⟨_, found, -⟩ := tells x hx
  exact found

theorem remove (id : String) (b : B) :
    (∀ x, (D.remove id b).1 = .ok x →
      x = (rows b id).isSome ∧ rows (D.remove id b).2 = Function.update (rows b) id none) ∧
      ∀ e, (D.remove id b).1 = .error e → rows (D.remove id b).2 = rows b :=
  hD.writing (hD.removing id b)

theorem list (b : B) :
    rows (D.list b).2 = rows b ∧ ∀ ids, (D.list b).1 = .ok ids →
      ids.Pairwise (· < ·) ∧ ∀ id, id ∈ ids ↔ (rows b id).isSome := by
  obtain ⟨kept, tells⟩ := hD.looking (hD.ids b true)
  refine ⟨kept, fun ids hids => ?_⟩
  obtain ⟨_, distinct, present, sorted⟩ := tells ids hids
  refine ⟨((sorted rfl).and distinct).imp fun {x y} hxy => ?_, present⟩
  by_contra lt
  exact hxy.2 (String.le_antisymm hxy.1 (String.not_lt.1 lt))

/-! ## What does not fail -/

theorem save_ends (hs : D.Sound seen) (hb : Each (·.isWritable) (rows b))
    (hv : v.isWritable = true) (id : String) : ∃ x, (D.save id v b).1 = .ok x := by
  refine hD.writing_ends hs (hD.saving id v b) ?_ fun _ now hnow => ?_
  · obtain ⟨x, hx⟩ := hs.find b id
    unfold Database.saving
    rw [Work.on_bind_ok hx]
    cases x with
    | none => exact hs.insert _ id v
    | some old => exact hs.assign _ id v
  · rw [hnow]
    exact hb.update id fun u hu => Option.some.inj hu ▸ hv

theorem save_writable (hs : D.Sound seen) {x : Unit} (h : (D.save id v b).1 = .ok x) : v.isWritable = true := by
  refine hD.writing_writable hs (hD.saving id v b) h id v ?_
  show rows (D.save id v b).2 id = _
  rw [(hD.save id v b).1 x h, Function.update_self]

theorem remove_ends (hs : D.Sound seen) (hb : Each (·.isWritable) (rows b)) (id : String) :
    ∃ x, (D.remove id b).1 = .ok x := by
  refine hD.writing_ends hs (hD.removing id b) ?_ fun _ now hnow => ?_
  · obtain ⟨x, hx⟩ := hs.find b id
    unfold Database.removing
    rw [Work.on_bind_ok hx]
    cases x with
    | none => exact ⟨false, rfl⟩
    | some old =>
      obtain ⟨⟨⟩, hd⟩ := hs.delete ((D.find id).on (D.enter b)).2 id
      dsimp only
      rw [Work.on_bind_ok hd]
      exact ⟨true, rfl⟩
  · rw [hnow.2]
    exact hb.update id nofun

end Faithful

end Database

/-! ## Rows of entries -/

namespace Profiles

theorem get?_empty : empty.get? = fun _ => none := rfl

theorem get?_put (id : String) (v : Value) (p : Profiles) : (put id v p).get? = Function.update p.get? id (some v) := by
  funext other
  unfold get? put
  by_cases h : other = id
  · rw [h, Entries.lookup_put_self, Function.update_self]
  · rw [Entries.lookup_put_of_ne h, Function.update_of_ne h]

theorem get?_remove (id : String) (p : Profiles) : (remove id p).get? = Function.update p.get? id none := by
  funext other
  unfold get? remove
  rw [Entries.lookup_remove]
  by_cases h : other = id
  · rw [if_pos h, h, Function.update_self]
  · rw [if_neg h, Function.update_of_ne h]

variable {same : Value → Value → Bool}

theorem commit_on (s : Session) : (database same).commit.on s =
    if s.isWritable then (.ok (), { s with base := s.rows }) else (.error .unstorable, s) := by
  show Work.on (if s.isWritable then set ({ s with base := s.rows } : Session) else throw .unstorable) s = _
  split <;> rfl

theorem isWritable_iff (s : Session) : s.isWritable = true ↔ Each (·.isWritable) s.rows.get? := by
  refine List.all_eq_true.trans ⟨fun h id v hv => ?_, fun h e he => h e.1 e.2 (s.rows.distinct.lookup_of_mem he)⟩
  obtain ⟨_, _, split, -⟩ := List.lookup_eq_some_iff.1 hv
  exact h (id, v) (by rw [split]; simp)

theorem assign_get? (h : ∀ old v, same old v = true → old = v) (id : String) (v : Value) (p : Profiles) :
    (if (p.get? id).any fun old => same old v then p else put id v p).get? = Function.update p.get? id (some v) := by
  split
  case isTrue found =>
    obtain ⟨old, hold, hsame⟩ := (Option.any_eq_true ..).1 found
    rw [← h old v hsame, ← hold, Function.update_eq_self]
  case isFalse => exact get?_put ..

/-- rows of entries are written as they are assigned if no other state counts as the same -/
theorem database_faithful (h : ∀ old v, same old v = true → old = v) :
    (database same).Faithful get? fun s => s.rows.get? where
  enter _ := rfl
  find _ _ := ⟨rfl, fun _ hx => ⟨(Except.ok.inj hx).symm, rfl⟩⟩
  insert _ _ _ _ := ⟨rfl, fun _ _ => get?_put ..⟩
  assign _ _ _ _ := ⟨rfl, fun _ _ => assign_get? h ..⟩
  delete _ _ _ := ⟨rfl, fun _ _ => get?_remove ..⟩
  ids p ordered := by
    refine ⟨rfl, fun ids hids => ?_⟩
    obtain rfl := Except.ok.inj hids
    have mem (id : String) : id ∈ p.entries.map (·.1) ↔ (p.get? id).isSome := Entries.lookup_isSome_iff.symm
    cases ordered with
    | false => exact ⟨p.distinct, mem, nofun⟩
    | true =>
      refine ⟨(List.mergeSort_perm _ _).nodup_iff.2 p.distinct, fun id => List.mem_mergeSort.trans (mem id), ?_⟩
      have sorted : ((p.entries.map (·.1)).mergeSort fun a b => decide (a ≤ b)).Pairwise fun a b => decide (a ≤ b) := by
        refine List.pairwise_mergeSort (fun a b c hab hbc => ?_) (fun a b => ?_) _
        · exact decide_eq_true (String.le_trans (of_decide_eq_true hab) (of_decide_eq_true hbc))
        · rcases String.le_total a b with h | h <;> simp [h]
      exact fun _ => sorted.imp of_decide_eq_true
  committed s x hx := by
    rw [commit_on] at hx ⊢
    split at hx
    case isTrue hs => rw [if_pos hs]; rfl
    case isFalse => cases hx
  uncommitted s e he := by
    rw [commit_on] at he ⊢
    split at he
    case isTrue => cases he
    case isFalse hs => rw [if_neg hs]
  rollback _ := rfl

theorem database_sound (same : Value → Value → Bool) : (database same).Sound fun s => s.rows.get? where
  find _ _ := ⟨_, rfl⟩
  insert _ _ _ := ⟨_, rfl⟩
  assign _ _ _ := ⟨_, rfl⟩
  delete _ _ := ⟨_, rfl⟩
  ids _ _ := ⟨_, rfl⟩
  commit s := by
    rw [← isWritable_iff, commit_on]
    split
    case isTrue hs => exact ⟨fun _ => hs, fun _ => ⟨(), rfl⟩⟩
    case isFalse hs => exact ⟨nofun, fun h => absurd h hs⟩

end Profiles

/-! ## Calls -/

namespace Call

variable {K : Keeper σ B}

/-- a call made outside hooks: what it comes to, and the world then -/
def make (c : Call) (D : Database B S) (K : Keeper σ B) (s : Setup σ) (w : World σ) :
    Except Problem Returned × World σ :=
  (s.play (c.script D K w.host)).exec w

/-- the states last saved, after a call that came to something while an engine was in a state -/
def saved (c : Call) (r : Except Problem Returned) (st : EngineState) (last : String → Option Value) :
    String → Option Value :=
  match c, r with
  | save id, .ok _ => Function.update last id (some st.toValue)
  | delete id, .ok _ => Function.update last id none
  | _, _ => last

variable (D : Database B S) (K : Keeper σ B) (s : Setup σ) (w : World σ) (id : String)

/-- the world in which a program has looked at the state and come to an end -/
def looked (w : World σ) (r : Except Problem Returned) (h : σ) : World σ :=
  ((w.noting (.turn .look)).noting (.turn (.ending r))).withHost h

theorem make_save : (save id).make D K s w =
    (((D.save id w.engine.state.toValue (K.get w.host)).1.map fun _ => .nothing),
      looked w ((D.save id w.engine.state.toValue (K.get w.host)).1.map fun _ => .nothing)
        (K.set (D.save id w.engine.state.toValue (K.get w.host)).2 w.host)) := by
  unfold make play Call.script
  rw [exec_look]
  exact exec_finish ..

theorem make_delete : (delete id).make D K s w =
    ((D.remove id (K.get w.host)).1.map .found,
      (w.noting (.turn (.ending ((D.remove id (K.get w.host)).1.map Returned.found)))).withHost
        (K.set (D.remove id (K.get w.host)).2 w.host)) :=
  exec_finish ..

theorem make_list : list.make D K s w =
    ((D.list (K.get w.host)).1.map .ids,
      (w.noting (.turn (.ending ((D.list (K.get w.host)).1.map Returned.ids)))).withHost
        (K.set (D.list (K.get w.host)).2 w.host)) :=
  exec_finish ..

variable {D K s w id} {b : B} {e : Problem}

theorem make_load_failed (h : D.stored id (K.get w.host) = (.error e, b)) : (load id).make D K s w =
    (.error e, (w.noting (.turn (.ending (.error e : Except Problem Returned)))).withHost (K.set b w.host)) := by
  simp only [make, play, Call.script, h]
  exact exec_finish ..

theorem make_load_absent (h : D.stored id (K.get w.host) = (.ok none, b)) : (load id).make D K s w =
    (.ok (.found false), (w.noting (.turn (.finish none))).withHost (K.set b w.host)) := by
  simp only [make, play, Call.script, h]
  exact exec_finish ..

/-- an engine that loads what another one wrote has the state of that one -/
theorem make_load {st : EngineState} (h : D.stored id (K.get w.host) = (.ok (some st.toValue), b)) (hst : st.Kept)
    (hw : w.engine.Settled) : ∃ v, (load id).make D K s w = (.ok (.found true), v) ∧ v.host = K.set b w.host ∧
      v.engine.state = st := by
  let u : World σ := { w.noting (.turn (.ask (.operate (.load st.toValue)))) with host := K.set b w.host }
  have loaded : (s.answer (.operate (.load st.toValue))).exec u = (.ok .done, u.withEngine { state := st }) :=
    exec_load (EngineState.ofValue_toValue hst.orderly) hst.prepared.eq hw
  have asked : (load id).make D K s w = (.ok (.found true),
      ((u.withEngine { state := st }).noting (.turn (.finish none))).withHost (K.set b w.host)) := by
    simp only [make, play, Call.script, h]
    refine (exec_ask ..).trans ?_
    rw [loaded]
    exact exec_finish ..
  exact ⟨_, asked, rfl, rfl⟩

end Call

/-! ## Histories -/

/-- what a database holds, and the states last saved under each id, after calls made outside hooks by any engines that
share it -/
inductive Stored (D : Database B S) (rows : B → String → Option Value) : B → (String → Option Value) → Prop where
  | new {b : B} (hb : rows b = fun _ => none) : Stored D rows b fun _ => none
  | called {b : B} {last : String → Option Value} (h : Stored D rows b last) {σ : Type} {K : Keeper σ B} {s : Setup σ}
      {u w : World σ} (hu : Reached s u) (he : w.engine = u.engine) (hb : K.get w.host = b) (c : Call) :
      Stored D rows (K.get (c.make D K s w).2.host) (c.saved (c.make D K s w).1 w.engine.state last)

/-- whether an engine that keeps to its states wrote a state -/
def FromEngine (v : Value) : Prop := ∃ st : EngineState, st.Kept ∧ v = st.toValue

section

variable {D : Database B S} {rows : B → String → Option Value} {seen : S → String → Option Value} {b : B}
  {last : String → Option Value} {K : Keeper σ B} {s : Setup σ} {w : World σ}

theorem Call.saved_each {P : Value → Prop} (h : Each P last) {st : EngineState} {c : Call} {r : Except Problem Returned}
    (hst : ∀ id x, c = .save id → r = .ok x → P st.toValue) : Each P (c.saved r st last) := by
  unfold Call.saved
  split
  case h_1 id x => exact h.update id fun v hv => Option.some.inj hv ▸ hst id x rfl rfl
  case h_2 => exact h.update _ nofun
  case h_3 => exact h

/-- what calls of the store come to in a world, when some states were saved last: what each of them answers, what it
does to the engine and what the rows are then; and which of them fail -/
structure Serves (D : Database B S) (rows : B → String → Option Value) (seen : S → String → Option Value)
    (K : Keeper σ B) (s : Setup σ) (w : World σ) (last : String → Option Value) : Prop where
  save : ∀ id r, ((Call.save id).make D K s w).1 = .ok r → r = .nothing ∧
    ((Call.save id).make D K s w).2.engine = w.engine ∧
    rows (K.get ((Call.save id).make D K s w).2.host) = Function.update last id (some w.engine.state.toValue)
  /-- a state that was saved is loaded, whatever the engine held and whatever its rules are -/
  load : ∀ id r, ((Call.load id).make D K s w).1 = .ok r → r = .found (last id).isSome ∧
    (last id = none → ((Call.load id).make D K s w).2.engine = w.engine) ∧
    (∀ x, last id = some x → ((Call.load id).make D K s w).2.engine.state.toValue = x) ∧
    rows (K.get ((Call.load id).make D K s w).2.host) = last
  delete : ∀ id r, ((Call.delete id).make D K s w).1 = .ok r → r = .found (last id).isSome ∧
    ((Call.delete id).make D K s w).2.engine = w.engine ∧
    rows (K.get ((Call.delete id).make D K s w).2.host) = Function.update last id none
  list : ∀ r, (Call.list.make D K s w).1 = .ok r →
    (∃ ids, r = .ids ids ∧ ids.Pairwise (· < ·) ∧ ∀ id, id ∈ ids ↔ (last id).isSome) ∧
    (Call.list.make D K s w).2.engine = w.engine ∧ rows (K.get (Call.list.make D K s w).2.host) = last
  /-- a call that fails changes nothing -/
  failed : ∀ (c : Call) e, (c.make D K s w).1 = .error e → (c.make D K s w).2.engine = w.engine ∧
    rows (K.get (c.make D K s w).2.host) = last
  /-- where nothing fails in the database but what must, only the save of a state that cannot be written fails -/
  ends : D.Sound seen → ∀ c : Call, (∀ id, c = .save id → w.engine.state.toValue.isWritable = true) →
    ∃ r, (c.make D K s w).1 = .ok r

theorem map_ok {x : Except Problem α} {f : α → β} {y : β} (h : x.map f = .ok y) : ∃ z, x = .ok z ∧ f z = y := by
  cases x with
  | error => cases h
  | ok z => exact ⟨z, rfl, Except.ok.inj h⟩

theorem map_error {x : Except Problem α} {f : α → β} {e : Problem} (h : x.map f = .error e) : x = .error e := by
  cases x with
  | error => cases h; rfl
  | ok => cases h

/-- a load answers by the rows, or fails with the database -/
theorem Database.Faithful.loads (hD : D.Faithful rows seen) (hlast : rows (K.get w.host) = last)
    (hwr : Each FromEngine last) (hw : w.engine.Settled) (id : String) :
    rows (K.get ((Call.load id).make D K s w).2.host) = last ∧
      (((Call.load id).make D K s w).1 = .ok (.found (last id).isSome) ∧
          (last id = none → ((Call.load id).make D K s w).2.engine = w.engine) ∧
          (∀ x, last id = some x → ((Call.load id).make D K s w).2.engine.state.toValue = x) ∨
        ∃ e, (D.stored id (K.get w.host)).1 = .error e ∧ ((Call.load id).make D K s w).1 = .error e ∧
          ((Call.load id).make D K s w).2.engine = w.engine) := by
  obtain ⟨kept, tells⟩ := hD.stored id (K.get w.host)
  rw [hlast] at kept tells
  rcases hst : D.stored id (K.get w.host) with ⟨e | x, b⟩ <;> rw [hst] at kept tells
  · rw [Call.make_load_failed hst]
    refine ⟨?_, .inr ⟨e, rfl, rfl, rfl⟩⟩
    show rows (K.get (K.set b w.host)) = last
    rw [K.get_set, kept]
  · obtain rfl := tells x rfl
    cases hx : last id with
    | none =>
      rw [hx] at hst
      rw [Call.make_load_absent hst]
      refine ⟨?_, .inl ⟨rfl, fun _ => rfl, nofun⟩⟩
      show rows (K.get (K.set b w.host)) = last
      rw [K.get_set, kept]
    | some v =>
      rw [hx] at hst
      obtain ⟨st, hk, rfl⟩ := hwr id v hx
      obtain ⟨z, hz, hhost, rfl⟩ := Call.make_load (s := s) hst hk hw
      rw [hz, hhost, K.get_set]
      exact ⟨kept, .inl ⟨rfl, nofun, fun x hx => Option.some.inj hx⟩⟩

/-- a call that fails leaves the engine and the rows as they were -/
theorem Database.Faithful.fails (hD : D.Faithful rows seen) (hlast : rows (K.get w.host) = last)
    (hwr : Each FromEngine last) (hw : w.engine.Settled) (c : Call) {e : Problem} (he : (c.make D K s w).1 = .error e) :
    (c.make D K s w).2.engine = w.engine ∧ rows (K.get (c.make D K s w).2.host) = last := by
  cases c with
  | save id =>
    rw [Call.make_save] at he ⊢
    refine ⟨rfl, ?_⟩
    show rows (K.get (K.set _ w.host)) = last
    rw [K.get_set, (hD.save ..).2 e (map_error he), hlast]
  | load id =>
    obtain ⟨kept, ⟨hok, -⟩ | ⟨-, -, -, still⟩⟩ := hD.loads (s := s) hlast hwr hw id
    · rw [hok] at he
      cases he
    · exact ⟨still, kept⟩
  | delete id =>
    rw [Call.make_delete] at he ⊢
    refine ⟨rfl, ?_⟩
    show rows (K.get (K.set _ w.host)) = last
    rw [K.get_set, (hD.remove ..).2 e (map_error he), hlast]
  | list =>
    rw [Call.make_list] at he ⊢
    refine ⟨rfl, ?_⟩
    show rows (K.get (K.set _ w.host)) = last
    rw [K.get_set, (hD.list ..).1, hlast]

/-- a call comes to an answer if nothing fails in the database but what must, and the state of the engine can be
written -/
theorem Database.Faithful.ends (hD : D.Faithful rows seen) (hlast : rows (K.get w.host) = last)
    (hwr : Each FromEngine last) (hw : w.engine.Settled) (hs : D.Sound seen) (hws : Each (·.isWritable) last) (c : Call)
    (hc : ∀ id, c = .save id → w.engine.state.toValue.isWritable = true) : ∃ r, (c.make D K s w).1 = .ok r := by
  cases c with
  | save id =>
    obtain ⟨x, hx⟩ := hD.save_ends hs (hlast ▸ hws) (hc id rfl) id
    rw [Call.make_save, hx]
    exact ⟨_, rfl⟩
  | load id =>
    obtain ⟨-, ⟨hok, -⟩ | ⟨e, he, -⟩⟩ := hD.loads (s := s) hlast hwr hw id
    · exact ⟨_, hok⟩
    · obtain ⟨x, hx⟩ : ∃ x, (D.stored id (K.get w.host)).1 = .ok x := hs.find _ id
      rw [hx] at he
      cases he
  | delete id =>
    obtain ⟨x, hx⟩ := hD.remove_ends hs (hlast ▸ hws) id
    rw [Call.make_delete, hx]
    exact ⟨_, rfl⟩
  | list =>
    obtain ⟨x, hx⟩ : ∃ x, (D.list (K.get w.host)).1 = .ok x := hs.ids _ true
    rw [Call.make_list, hx]
    exact ⟨_, rfl⟩

/-- the store serves an engine at rest by the rows that the database holds -/
theorem Database.Faithful.serves (hD : D.Faithful rows seen) (hlast : rows (K.get w.host) = last)
    (hwr : Each FromEngine last) (hws : D.Sound seen → Each (·.isWritable) last) (hw : w.engine.Settled) :
    Serves D rows seen K s w last where
  save id r hr := by
    rw [Call.make_save] at hr ⊢
    obtain ⟨⟨⟩, hx, rfl⟩ := map_ok hr
    refine ⟨rfl, rfl, ?_⟩
    show rows (K.get (K.set _ w.host)) = _
    rw [K.get_set, (hD.save ..).1 () hx, hlast]
  load id r hr := by
    obtain ⟨kept, ⟨hok, absent, present⟩ | ⟨e, -, he, -⟩⟩ := hD.loads (s := s) hlast hwr hw id
    · rw [hok] at hr
      exact ⟨(Except.ok.inj hr).symm, absent, present, kept⟩
    · rw [he] at hr
      cases hr
  delete id r hr := by
    rw [Call.make_delete] at hr ⊢
    obtain ⟨found, hx, rfl⟩ := map_ok hr
    obtain ⟨rfl, gone⟩ := (hD.remove ..).1 found hx
    rw [hlast] at gone ⊢
    refine ⟨rfl, rfl, ?_⟩
    show rows (K.get (K.set _ w.host)) = _
    rw [K.get_set, gone]
  list r hr := by
    obtain ⟨kept, tells⟩ := hD.list (K.get w.host)
    rw [Call.make_list] at hr ⊢
    obtain ⟨ids, hx, rfl⟩ := map_ok hr
    refine ⟨⟨ids, rfl, hlast ▸ tells ids hx⟩, rfl, ?_⟩
    show rows (K.get (K.set _ w.host)) = last
    rw [K.get_set, kept, hlast]
  failed c _ he := hD.fails hlast hwr hw c he
  ends hs c hc := hD.ends hlast hwr hw hs (hws hs) c hc

/-- what a database holds are the states that were saved last -/
theorem Stored.rows_eq (hD : D.Faithful rows seen) (h : Stored D rows b last) :
    rows b = last ∧ Each FromEngine last ∧ (D.Sound seen → Each (·.isWritable) last) := by
  induction h with
  | new hb => exact ⟨hb, nofun, fun _ => nofun⟩
  | @called b last h σ K s u w hu he hb c ih =>
    obtain ⟨hlast, hwr, hws⟩ := ih
    subst hb
    have kept : w.engine.state.Kept := he ▸ hu.kept
    have serves : Serves D rows seen K s w last := hD.serves hlast hwr hws (he ▸ hu.settled)
    refine ⟨?_, Call.saved_each hwr fun _ _ _ _ => ⟨_, kept, rfl⟩, fun hs => Call.saved_each (hws hs) ?_⟩
    · rcases hr : (c.make D K s w).1 with e | r
      · rw [(serves.failed c e hr).2]
        cases c <;> rfl
      · cases c with
        | save id => exact (serves.save id r hr).2.2
        | load id => exact (serves.load id r hr).2.2.2
        | delete id => exact (serves.delete id r hr).2.2
        | list => exact (serves.list r hr).2.2
    · rintro id x rfl hx
      rw [Call.make_save] at hx
      obtain ⟨y, hy, -⟩ := map_ok hx
      exact hD.save_writable hs hy

/-- **Profiles.** Engines that share a database find in it what was saved last and not taken away since: it is loaded
into any engine as it was written, taken away and listed by its id. A call that fails changes nothing. -/
theorem profiles_kept {u : World σ} (hD : D.Faithful rows seen) (h : Stored D rows (K.get w.host) last)
    (hu : Reached s u) (he : w.engine = u.engine) :
    rows (K.get w.host) = last ∧ Serves D rows seen K s w last := by
  obtain ⟨hlast, hwr, hws⟩ := h.rows_eq hD
  exact ⟨hlast, hD.serves hlast hwr hws (he ▸ hu.settled)⟩

end

/-- an engine with rules whose conditions always hold, and with a shelf of profiles -/
def shelved (rules : List Rule) : Setup Profiles where
  rules
  zone := .fixed 0
  clock p := (.ok ⟨july 930, none⟩, p)
  judge p _ _ := (.ok (.ok true), p)
  hook _ _ _ := none

/-- the shelf that the host of an engine is -/
def shelf : Keeper Profiles Profiles := ⟨id, fun p _ => p, fun _ _ => rfl⟩

/-- an engine that has earned a badge -/
def earner : World Profiles :=
  (World.after (shelved [sessionRule]) { host := .empty } [.operate .evaluate]).withHost .empty

/-- an engine without rules finds a state that another engine has saved -/
theorem saved_serves : ∃ p last, Stored (Profiles.database fun _ _ => false) Profiles.get? p last ∧
    last "p" = some earner.engine.state.toValue ∧
    Serves (Profiles.database fun _ _ => false) Profiles.get? (fun s => s.rows.get?) shelf (shelved []) { host := p }
      last := by
  have faithful : (Profiles.database fun _ _ => false).Faithful Profiles.get? fun s => s.rows.get? :=
    Profiles.database_faithful fun _ _ h => nomatch h
  have reached : Reached (shelved [sessionRule]) earner := .host (Reach.after (.new _) fun _ _ => trivial) _
  have writable : earner.engine.state.toValue.isWritable = true := by decide +kernel
  have serves : Serves (Profiles.database fun _ _ => false) Profiles.get? (fun s => s.rows.get?) shelf
      (shelved [sessionRule]) earner fun _ => none :=
    faithful.serves Profiles.get?_empty nofun (fun _ => nofun) reached.settled
  obtain ⟨r, hr⟩ := serves.ends (Profiles.database_sound _) (.save "p") fun _ _ => writable
  have stored := Stored.called (D := Profiles.database fun _ _ => false) (.new Profiles.get?_empty) reached rfl
    (K := shelf) rfl (.save "p")
  obtain rfl := (serves.save "p" r hr).1
  rw [hr] at stored
  generalize shelf.get ((Call.save "p").make _ shelf _ earner).2.host = p at stored
  exact ⟨p, _, stored, by simp [Call.saved],
    (profiles_kept (K := shelf) (w := { host := p }) faithful stored (.new p) rfl).2⟩

end BadgeEngine
