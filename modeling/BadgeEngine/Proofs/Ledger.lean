/-
What recording a match does to the ledger: it is held back, or it makes an entry (`record_held`, `record_earned`).
Entries of other badges stay as they are.
-/
import BadgeEngine.Ledger
import BadgeEngine.Proofs.Windows

namespace BadgeEngine

open BadgeEngine.Time

namespace Ledger

variable {l l' : Ledger} {e : Earned} {r : Rule} {since now : Instant}

/-! ## Entries and the index -/

/-- a ledger is told by its entries, for the index says nothing else -/
theorem ext (h : l.entries = l'.entries) : l = l' := by
  obtain ⟨es, index, _, hi⟩ := l
  obtain ⟨es', index', _, hi'⟩ := l'
  obtain rfl : es = es' := h
  obtain rfl : index = index' := hi.trans hi'.symm
  rfl

/-- to look in the index, and then at the position, is to look through the entries -/
theorem get?_eq (l : Ledger) (id : String) : l.get? id = entryFor? id l.entries := by
  unfold get? entryFor?
  rw [l.indexed, lookup_positions, List.find?_eq_bind_findIdx?_getElem?]

/-- the index has the badges that have entries -/
theorem hasEarned_eq (l : Ledger) (id : String) : l.hasEarned id = (l.get? id).isSome := by
  unfold hasEarned
  rw [get?_eq, entryFor?, l.indexed, lookup_positions, List.findIdx?_isSome, Bool.eq_iff_iff, List.find?_isSome,
    List.any_eq_true]

theorem entryFor?_none_iff {id : String} {es : List Earned} : entryFor? id es = none ↔ id ∉ es.map (·.id) := by
  unfold entryFor?
  simp

theorem get?_none_iff {id : String} : l.get? id = none ↔ id ∉ l.entries.map (·.id) := by
  rw [get?_eq, entryFor?_none_iff]

@[simp] theorem entryFor?_put_self (e : Earned) (es : List Earned) : entryFor? e.id (put e es) = some e := by
  unfold entryFor?
  induction es with
  | nil => simp [put]
  | cons f es ih =>
    unfold put
    split
    · simp
    case isFalse h => simpa [List.find?_cons, h] using ih

theorem entryFor?_put_of_ne {id : String} (h : id ≠ e.id) (es : List Earned) :
    entryFor? id (put e es) = entryFor? id es := by
  unfold entryFor?
  induction es with
  | nil => simp [put, Ne.symm h]
  | cons f es ih =>
    unfold put
    split
    case isTrue hf => simp [hf, Ne.symm h]
    case isFalse hf =>
      rw [List.find?_cons, List.find?_cons]
      split
      · rfl
      · exact ih

/-- an entry put among others comes at the end if its badge had none -/
theorem put_of_notMem {es : List Earned} (h : e.id ∉ es.map (·.id)) : put e es = es ++ [e] := by
  induction es with
  | nil => rfl
  | cons f es ih =>
    rw [List.map_cons, List.mem_cons] at h
    obtain ⟨hf, hes⟩ := not_or.1 h
    rw [put, if_neg (Ne.symm hf), ih hes]
    rfl

/-- an entry put among others takes the first position of its badge -/
theorem put_of_findIdx? {es : List Earned} {i : Nat} (h : (es.findIdx? fun f => f.id = e.id) = some i) :
    put e es = es.set i e := by
  induction es generalizing i with
  | nil => cases h
  | cons f es ih =>
    rw [List.findIdx?_cons] at h
    unfold put
    by_cases hf : f.id = e.id
    · rw [decide_eq_true hf, if_pos rfl] at h
      obtain rfl := Option.some.inj h
      rw [if_pos hf]
      rfl
    · rw [decide_eq_false hf, if_neg Bool.false_ne_true] at h
      obtain ⟨j, hj, rfl⟩ := Option.map_eq_some_iff.1 h
      rw [if_neg hf, ih hj]
      rfl

/-- list and index are written apart, and what comes of it is the list with the entry put into it -/
theorem enter_entries (l : Ledger) (e : Earned) : (l.enter e).entries = put e l.entries := by
  unfold enter
  split
  case h_1 h => exact (put_of_notMem (notMem_of_lookup h)).symm
  case h_2 i h =>
    rw [l.indexed, lookup_positions] at h
    exact (put_of_findIdx? h).symm

@[simp] theorem get?_enter_self (l : Ledger) (e : Earned) : (l.enter e).get? e.id = some e := by
  rw [get?_eq, enter_entries, entryFor?_put_self]

theorem get?_enter_of_ne {id : String} (h : id ≠ e.id) (l : Ledger) : (l.enter e).get? id = l.get? id := by
  rw [get?_eq, get?_eq, enter_entries, entryFor?_put_of_ne h]

theorem get?_mem {id : String} (h : l.get? id = some e) : e ∈ l.entries := by
  rw [get?_eq] at h
  exact List.mem_of_find?_eq_some h

/-- every entry of a ledger after a put was there before, or is the one put in -/
theorem mem_put {f : Earned} {es : List Earned} (h : f ∈ put e es) : f = e ∨ f ∈ es := by
  induction es with
  | nil => exact .inl (List.mem_singleton.1 h)
  | cons g es ih =>
    unfold put at h
    split at h
    · rcases List.mem_cons.1 h with rfl | h
      · exact .inl rfl
      · exact .inr (List.mem_cons_of_mem _ h)
    · rcases List.mem_cons.1 h with rfl | h
      · exact .inr List.mem_cons_self
      · exact (ih h).imp_right (List.mem_cons_of_mem _)

theorem mem_enter {f : Earned} (h : f ∈ (l.enter e).entries) : f = e ∨ f ∈ l.entries :=
  mem_put (enter_entries l e ▸ h)

/-! ## Taking up -/

theorem takeUp_old (h : e.id ∈ l.entries.map (·.id)) (again : List String) :
    takeUp (l, again) e = (l, e.id :: again) := by
  unfold takeUp
  split
  case h_1 hn => exact absurd h (notMem_of_lookup hn)
  case h_2 => rfl

theorem takeUp_new (h : e.id ∉ l.entries.map (·.id)) (again : List String) :
    ∃ l', l'.entries = l.entries ++ [e] ∧ takeUp (l, again) e = (l', again) := by
  unfold takeUp
  split
  case h_1 hn => exact ⟨l.append e hn, rfl, rfl⟩
  case h_2 i hi =>
    have earned : l.hasEarned e.id := Option.isSome_iff_exists.2 ⟨i, hi⟩
    rw [hasEarned_eq, get?_eq, entryFor?_none_iff.2 h] at earned
    cases earned

/-! ## Records -/

def AtLimit (r : Rule) (e : Earned) : Prop := ∃ m, r.max = some m ∧ m ≤ e.count

theorem isHeld_iff : isHeld r since e ↔ since ≤ e.lastEarned ∨ AtLimit r e := by
  unfold isHeld AtLimit
  cases r.max <;> simp [Moment.not_lt]

/-- a match that is held back meets an entry, and changes nothing -/
theorem record_held (h : l.record r since now = (none, l')) :
    l' = l ∧ ∃ e, l.get? r.id = some e ∧ (since ≤ e.lastEarned ∨ AtLimit r e) := by
  unfold record next? at h
  cases hg : l.get? r.id with
  | none => simp [hg] at h
  | some e =>
    by_cases hh : isHeld r since e
    · simp only [hg, hh, if_true, Prod.mk.injEq, true_and] at h
      exact ⟨h.symm, e, rfl, isHeld_iff.1 hh⟩
    · simp [hg, hh] at h

/-- a match that earns its badge makes the first entry of it, or the next when the window began after the last one
and the limit is not reached -/
theorem record_earned (h : l.record r since now = (some e, l')) :
    l' = l.enter e ∧
      ((l.get? r.id = none ∧ e = ⟨r.id, 1, now⟩) ∨
        ∃ old, l.get? r.id = some old ∧ old.lastEarned < since ∧ ¬ AtLimit r old ∧
          e = ⟨r.id, old.count + 1, now.later old.lastEarned⟩) := by
  unfold record next? at h
  cases hg : l.get? r.id with
  | none =>
    simp only [hg, Prod.mk.injEq, Option.some.injEq] at h
    obtain ⟨rfl, rfl⟩ := h
    exact ⟨rfl, .inl ⟨rfl, rfl⟩⟩
  | some old =>
    by_cases hh : isHeld r since old
    · simp [hg, hh] at h
    · simp only [hg, hh] at h
      obtain ⟨rfl, rfl⟩ := h
      have hn := not_or.1 (mt isHeld_iff.2 hh)
      exact ⟨rfl, .inr ⟨old, rfl, Nat.not_le.1 hn.1, hn.2, rfl⟩⟩

/-- the entry made bears the id of the rule -/
theorem record_id (h : l.record r since now = (some e, l')) : e.id = r.id := by
  obtain ⟨-, ⟨-, rfl⟩ | ⟨_, -, -, -, rfl⟩⟩ := record_earned h <;> rfl

/-- the entry made is the entry of the badge from then on -/
theorem record_get?_self (h : l.record r since now = (some e, l')) : l'.get? r.id = some e := by
  obtain ⟨rfl, -⟩ := record_earned h
  exact record_id h ▸ get?_enter_self l e

/-- entries of other badges stay as they are -/
theorem record_get?_of_ne {id : String} (hid : id ≠ r.id) (h : l.record r since now = (some e, l')) :
    l'.get? id = l.get? id := by
  have he := record_id h
  obtain ⟨rfl, -⟩ := record_earned h
  exact get?_enter_of_ne (he ▸ hid) l

/-- the entry made counts one more -/
theorem record_count (h : l.record r since now = (some e, l')) : l'.count r.id = l.count r.id + 1 := by
  have hs := record_get?_self h
  obtain ⟨-, ⟨hg, rfl⟩ | ⟨old, hg, -, -, rfl⟩⟩ := record_earned h
  · simp only [count, hs, hg]
    rfl
  · simp only [count, hs, hg]

end Ledger

end BadgeEngine
