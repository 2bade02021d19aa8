/-
Entries: things under names, in the order in which the names first came. Names that are distinct stay so.
-/

namespace BadgeEngine.Entries

variable {α : Type}

def put (name : String) (x : α) : List (String × α) → List (String × α)
  | [] => [(name, x)]
  | (n, y) :: es => if n = name then (n, x) :: es else (n, y) :: put name x es

/-- no name comes twice -/
def Distinct (es : List (String × α)) : Prop := (es.map (·.1)).Nodup

variable {name : String} {x : α} {es : List (String × α)}

theorem Distinct.nil : Distinct ([] : List (String × α)) := List.nodup_nil

/-- a name that comes first is put at the end -/
theorem put_of_notMem (h : name ∉ es.map (·.1)) : put name x es = es ++ [(name, x)] := by
  induction es with
  | nil => rfl
  | cons e es ih =>
    rw [List.map_cons, List.mem_cons] at h
    obtain ⟨hn, hs⟩ := not_or.1 h
    rw [put, if_neg (Ne.symm hn), ih hs]
    rfl

/-- a name that came before keeps its place -/
theorem names_put_of_mem (h : name ∈ es.map (·.1)) : (put name x es).map (·.1) = es.map (·.1) := by
  induction es with
  | nil => cases h
  | cons e es ih =>
    obtain ⟨n, y⟩ := e
    unfold put
    split
    case isTrue => rfl
    case isFalse hn =>
      rw [List.map_cons, List.map_cons, ih ((List.mem_cons.1 h).resolve_left (Ne.symm hn))]

theorem Distinct.put (h : Distinct es) (name : String) (x : α) : Distinct (put name x es) := by
  unfold Distinct at *
  by_cases hn : name ∈ es.map (·.1)
  · rwa [names_put_of_mem hn]
  · rw [put_of_notMem hn, List.map_append, List.nodup_append]
    refine ⟨h, by simp, fun a ha b hb hab => hn ?_⟩
    rw [hab, List.mem_singleton.1 hb] at ha
    exact ha

def putAll (es fs : List (String × α)) : List (String × α) :=
  es.foldl (fun fs e => put e.1 e.2 fs) fs

def remove (name : String) (es : List (String × α)) : List (String × α) :=
  es.filter fun e => e.1 ≠ name

theorem Distinct.remove (h : Distinct es) (name : String) : Distinct (remove name es) :=
  h.sublist (List.filter_sublist.map _)

end BadgeEngine.Entries
