/-
Entries under names: the value of a name after a put, and the names, none of which comes twice. Entries whose names
are distinct are what putting them one after another makes (`foldl_put`).
-/
import Mathlib.Data.List.Nodup
import BadgeEngine.Entries

namespace BadgeEngine.Entries

variable {α : Type} {name other : String} {x : α} {es fs : List (String × α)}

/-! ## Values -/

theorem lookup_cons_of_ne {e : String × α} (h : name ≠ e.1) : (e :: es).lookup name = es.lookup name := by
  rw [List.lookup_cons, beq_eq_false_iff_ne.2 h]

@[simp] theorem lookup_put_self (name : String) (x : α) (es : List (String × α)) :
    (put name x es).lookup name = some x := by
  induction es with
  | nil => simp [put]
  | cons e es ih =>
    obtain ⟨n, y⟩ := e
    unfold put
    split
    case isTrue h => simp [h]
    case isFalse h => simpa [List.lookup_cons, beq_eq_false_iff_ne.2 (Ne.symm h)] using ih

theorem lookup_put_of_ne (h : other ≠ name) (x : α) (es : List (String × α)) :
    (put name x es).lookup other = es.lookup other := by
  induction es with
  | nil => simp [put, List.lookup_cons, beq_eq_false_iff_ne.2 h]
  | cons e es ih =>
    obtain ⟨n, y⟩ := e
    unfold put
    split
    case isTrue hn => simp [List.lookup_cons, hn, beq_eq_false_iff_ne.2 h]
    case isFalse => rw [List.lookup_cons, List.lookup_cons, ih]

theorem lookup_putAll_of_notMem (h : name ∉ es.map (·.1)) : (putAll es fs).lookup name = fs.lookup name := by
  induction es generalizing fs with
  | nil => rfl
  | cons e es ih =>
    rw [List.map_cons, List.mem_cons, not_or] at h
    exact (ih h.2).trans (lookup_put_of_ne h.1 e.2 fs)

/-- what entries with distinct names are put over shows where they have none -/
theorem lookup_putAll (h : Distinct es) : (putAll es fs).lookup name = (es.lookup name).or (fs.lookup name) := by
  induction es generalizing fs with
  | nil => rfl
  | cons e es ih =>
    obtain ⟨fresh, distinct⟩ := List.nodup_cons.1 h
    rw [List.lookup_cons]
    by_cases hn : name = e.1
    · have last : (putAll es (put e.1 e.2 fs)).lookup e.1 = (put e.1 e.2 fs).lookup e.1 :=
        lookup_putAll_of_notMem fresh
      rw [hn, beq_self_eq_true]
      exact last.trans (lookup_put_self ..)
    · rw [beq_eq_false_iff_ne.2 hn]
      exact (ih distinct).trans (by rw [lookup_put_of_ne hn])

theorem lookup_isSome_iff : (es.lookup name).isSome ↔ name ∈ es.map (·.1) := by
  induction es with
  | nil => simp
  | cons e es ih =>
    rw [List.lookup_cons, List.map_cons, List.mem_cons]
    by_cases h : name = e.1
    · simp [h]
    · simp [beq_eq_false_iff_ne.2 h, h, ih]

theorem Distinct.lookup_of_mem (h : Distinct es) {e : String × α} (he : e ∈ es) : es.lookup e.1 = some e.2 := by
  induction es with
  | nil => cases he
  | cons f es ih =>
    obtain ⟨fresh, distinct⟩ := List.nodup_cons.1 h
    rw [List.lookup_cons]
    rcases List.mem_cons.1 he with rfl | he
    · rw [beq_self_eq_true]
    · have later : e.1 ≠ f.1 := fun same => fresh (List.mem_map.2 ⟨e, he, same⟩)
      rw [beq_eq_false_iff_ne.2 later]
      exact ih distinct he

theorem lookup_remove (name other : String) (es : List (String × α)) :
    (remove name es).lookup other = if other = name then none else es.lookup other := by
  induction es with
  | nil => exact (ite_self none).symm
  | cons e es ih =>
    obtain ⟨n, y⟩ := e
    unfold remove at ih ⊢
    by_cases hn : n = name
    · rw [List.filter_cons_of_neg (by simpa using hn), ih, List.lookup_cons]
      by_cases ho : other = name
      · rw [if_pos ho, if_pos ho]
      · rw [if_neg ho, if_neg ho, beq_eq_false_iff_ne.2 fun h => ho (h.trans hn)]
    · rw [List.filter_cons_of_pos (by simpa using hn), List.lookup_cons, List.lookup_cons, ih]
      by_cases ho : other = n
      · rw [ho, if_neg hn, beq_self_eq_true, if_neg hn]
      · rw [beq_eq_false_iff_ne.2 ho]

/-! ## Names -/

theorem mem_names_put : other ∈ (put name x es).map (·.1) ↔ other = name ∨ other ∈ es.map (·.1) := by
  by_cases h : name ∈ es.map (·.1)
  · rw [names_put_of_mem h]
    exact ⟨.inr, fun ho => ho.elim (fun he => he ▸ h) id⟩
  · rw [put_of_notMem h, List.map_append, List.mem_append, List.map_singleton, List.mem_singleton, or_comm]

/-- entries with distinct names, put one after another, come to stand one after another -/
theorem foldl_put (h : Distinct (es ++ fs)) : fs.foldl (fun es e => put e.1 e.2 es) es = es ++ fs := by
  induction fs generalizing es with
  | nil => exact (List.append_nil es).symm
  | cons f fs ih =>
    have hf : f.1 ∉ es.map (·.1) := by
      intro hm
      rw [Distinct, List.map_append, List.map_cons] at h
      exact List.disjoint_of_nodup_append h hm List.mem_cons_self
    have hs : es ++ f :: fs = es ++ [f] ++ fs := (List.append_assoc es [f] fs).symm
    rw [List.foldl_cons, put_of_notMem hf, ih (hs ▸ h), hs]

end BadgeEngine.Entries
