/-
Where sessions and games stand in a state. `Standing` says of an axis that its flags, its status, its counts and its
window tell the same; `Balanced` says of games that the counts of reasons add up to the count of ends. Each change of
a system property that a start or an end makes leads from one standing to the next: a close from in progress to ended
(`Standing.close`), a start from none or ended to started (`Standing.open`) and on to in progress
(`Standing.present`). Changes of other properties leave both as they are.
-/
import BadgeEngine.Lifecycle
import BadgeEngine.Proofs.CounterKey
import BadgeEngine.Proofs.Entries
import BadgeEngine.Proofs.Windows

namespace BadgeEngine

open BadgeEngine.Number BadgeEngine.Time

/-! ## System properties -/

namespace Props

variable {p : Props} {name other : String} {x : Scalar}

theorem get?_set (p : Props) (name : String) (x : Scalar) (other : String) :
    (p.set name x).get? other = if other = name then some x else p.get? other := by
  unfold set get?
  split
  case isTrue h => rw [h, Entries.lookup_put_self]
  case isFalse h => exact Entries.lookup_put_of_ne h x p.entries

theorem get?_setAll_of_notMem {es : List (String × Scalar)} (h : name ∉ es.map (·.1)) :
    (p.setAll es).get? name = p.get? name := by
  unfold setAll
  induction es generalizing p with
  | nil => rfl
  | cons e es ih =>
    rw [List.map_cons, List.mem_cons] at h
    obtain ⟨he, hs⟩ := not_or.1 h
    rw [List.foldl_cons, ih hs, get?_set, if_neg he]

theorem addValue_one {m : Int} (h : p.get? name = some (.int m)) :
    p.addValue name (.ofInt 1) = .ok (p.set name (.int (m + 1))) := by
  unfold addValue sumWith
  rw [h]
  rfl

end Props

def EngineState.telling (st : EngineState) (es : List (String × Scalar)) : EngineState :=
  { st with system := st.system.setAll es }

theorem EngineState.telling_get?_of_notMem {st : EngineState} {es : List (String × Scalar)} {name : String}
    (h : name ∉ es.map (·.1)) : (st.telling es).system.get? name = st.system.get? name :=
  Props.get?_setAll_of_notMem h

namespace Axis

/-- the system properties of an axis -/
def names (a : Axis) : List String := [a.newProp, a.endedProp, a.statusProp, a.startsProp, a.endsProp]

/-- what is told of an axis that ends, with the count of ends -/
def closing (a : Axis) (ends : Int) : List (String × Scalar) :=
  [(a.endedProp, .bool true), (a.statusProp, .text Status.ended.name), (a.endsProp, .int ends)]

/-- what is told of an axis that starts, with the count of starts -/
def opening (a : Axis) (starts : Int) : List (String × Scalar) :=
  [(a.newProp, .bool true), (a.endedProp, .bool false), (a.statusProp, .text Status.started.name),
    (a.startsProp, .int starts)]

/-- what is told of an axis whose start was presented -/
def presenting (a : Axis) : List (String × Scalar) :=
  [(a.newProp, .bool false), (a.statusProp, .text Status.inProgress.name)]

theorem names_disjoint : ∀ a b : Axis, b ≠ a → ∀ m ∈ b.names, m ∉ a.names := by
  rintro (_ | _) (_ | _) h <;> first | exact absurd rfl h | decide

variable (a : Axis)

theorem closing_names (ends : Int) : (a.closing ends).map (·.1) ⊆ a.names := by
  cases a <;> simp [closing, names]

theorem opening_names (starts : Int) : (a.opening starts).map (·.1) ⊆ a.names := by
  cases a <;> simp [opening, names]

theorem presenting_names : a.presenting.map (·.1) ⊆ a.names := by
  cases a <;> simp [presenting, names]

end Axis

/-! ## Standing -/

/-- where an axis stands in a state after a number of starts: its flags, its status, its counts and the key of its
window tell the same -/
structure Standing (a : Axis) (x : Status) (n : Nat) (st : EngineState) : Prop where
  new : st.system.get? a.newProp = some (.bool (x = .started))
  ended : st.system.get? a.endedProp = some (.bool (x = .ended))
  status : st.system.get? a.statusProp = some (.text x.name)
  starts : st.system.get? a.startsProp = some (.int n)
  ends : st.system.get? a.endsProp = some (.int (n - if x.isOpen then 1 else 0))
  key : readCounter (st.windows.get (.counter a)).key = .ok n

namespace Standing

variable {a b : Axis} {x : Status} {n : Nat} {st st' : EngineState}

theorem status_eq (h : Standing a x n st) : st.status a = x := by
  unfold EngineState.status
  rw [h.status]
  cases x <;> rfl

/-- a standing is told by the properties of its axis and the key of its window -/
theorem congr (h : Standing a x n st) (hp : ∀ m ∈ a.names, st'.system.get? m = st.system.get? m)
    (hk : (st'.windows.get (.counter a)).key = (st.windows.get (.counter a)).key) : Standing a x n st' where
  new := (hp _ (by simp [Axis.names])).trans h.new
  ended := (hp _ (by simp [Axis.names])).trans h.ended
  status := (hp _ (by simp [Axis.names])).trans h.status
  starts := (hp _ (by simp [Axis.names])).trans h.starts
  ends := (hp _ (by simp [Axis.names])).trans h.ends
  key := hk ▸ h.key

/-- what is told of one axis does not change where the other stands -/
theorem other (h : Standing b x n st) (hb : b ≠ a) {es : List (String × Scalar)} (hes : es.map (·.1) ⊆ a.names) :
    Standing b x n (st.telling es) :=
  h.congr (fun m hm => st.telling_get?_of_notMem fun he => Axis.names_disjoint a b hb m hm (hes he)) rfl

/-- an axis in progress is ended, and the end is counted -/
theorem close (h : Standing a .inProgress n st) : Standing a .ended n (st.telling (a.closing (n - 1 + 1))) := by
  obtain ⟨hnew, -, -, hstarts, -, hkey⟩ := h
  cases a
  all_goals
    refine ⟨?_, ?_, ?_, ?_, ?_, hkey⟩
    all_goals
      simp only [EngineState.telling, Axis.closing, Props.setAll, List.foldl, Props.get?_set, Axis.newProp,
        Axis.endedProp, Axis.statusProp, Axis.startsProp, Axis.endsProp] at *
      simp [hnew, hstarts, Status.isOpen]

/-- an axis that is not open is started, and the start is counted -/
theorem start (h : Standing a x n st) (hx : x.isOpen = false) {y : Window}
    (hkey : readCounter y.key = .ok (n + 1 : Nat)) : Standing a .started (n + 1)
      { st.telling (a.opening (n + 1 : Nat)) with windows := st.windows.set (.counter a) y } := by
  obtain ⟨-, -, -, -, hends, -⟩ := h
  rw [hx] at hends
  have hk : readCounter ((st.windows.set (.counter a) y).get (.counter a)).key = .ok (n + 1 : Nat) := by
    rwa [Windows.get_set_self]
  cases a
  all_goals
    refine ⟨?_, ?_, ?_, ?_, ?_, hk⟩
    all_goals
      simp only [EngineState.telling, Axis.opening, Props.setAll, List.foldl, Props.get?_set, Axis.newProp,
        Axis.endedProp, Axis.statusProp, Axis.startsProp, Axis.endsProp] at *
      simp [hends, Status.isOpen]

/-- an axis that was started is in progress from then on -/
theorem present (h : Standing a .started n st) : Standing a .inProgress n (st.telling a.presenting) := by
  obtain ⟨-, hended, -, hstarts, hends, hkey⟩ := h
  cases a
  all_goals
    refine ⟨?_, ?_, ?_, ?_, ?_, hkey⟩
    all_goals
      simp only [EngineState.telling, Axis.presenting, Props.setAll, List.foldl, Props.get?_set, Axis.newProp,
        Axis.endedProp, Axis.statusProp, Axis.startsProp, Axis.endsProp] at *
      simp [hended, hstarts, hends, Status.isOpen]

end Standing

/-! ## Balances -/

def balanceNames : List String := Axis.game.endsProp :: EndReason.all.map EndReason.countProp

theorem EndReason.countProp_mem (r : EndReason) : r.countProp ∈ balanceNames := by
  cases r <;> decide

/-- the counts of the reasons that games ended for add up to the count of ends, but for `owed` ends still to be
counted -/
def Balanced (owed : Int) (st : EngineState) : Prop :=
  ∃ (f : EndReason → Int) (ends : Int), (∀ r, st.system.get? (EndReason.countProp r) = some (.int (f r))) ∧
    st.system.get? Axis.game.endsProp = some (.int ends) ∧
    f .win + f .lose + f .cancel + f .implicitRestart = ends + owed

namespace Balanced

variable {owed : Int} {st st' : EngineState}

/-- a balance is told by the counts of reasons and ends -/
theorem congr (h : Balanced owed st) (hp : ∀ m ∈ balanceNames, st'.system.get? m = st.system.get? m) :
    Balanced owed st' := by
  obtain ⟨f, ends, hf, hends, hsum⟩ := h
  exact ⟨f, ends, fun r => (hp _ r.countProp_mem).trans (hf r), (hp _ List.mem_cons_self).trans hends, hsum⟩

/-- what is told of other things does not change a balance -/
theorem other (h : Balanced owed st) {es : List (String × Scalar)} (hes : ∀ m ∈ balanceNames, m ∉ es.map (·.1)) :
    Balanced owed (st.telling es) :=
  h.congr fun m hm => st.telling_get?_of_notMem (hes m hm)

/-- a reason that is counted leaves one more end to be counted -/
theorem countReason (h : Balanced owed st) (r : EndReason) : ∃ m : Int, st.system.get? r.countProp = some (.int m) ∧
    ∀ text, Balanced (owed + 1) (st.telling [(endReasonProp, .text text), (r.countProp, .int (m + 1))]) := by
  obtain ⟨f, ends, hf, hends, hsum⟩ := h
  refine ⟨f r, hf r, fun text => ⟨fun r' => if r' = r then f r + 1 else f r', ends, fun r' => ?_, ?_, ?_⟩⟩
  · have hname : r'.countProp ≠ endReasonProp := by cases r' <;> decide
    have hsame : r'.countProp = r.countProp ↔ r' = r := by cases r <;> cases r' <;> decide
    simp only [EngineState.telling, Props.setAll, List.foldl, Props.get?_set, hname, hsame, if_false]
    split
    · rfl
    · exact hf r'
  · have hname : Axis.game.endsProp ∉ [endReasonProp, r.countProp] := by cases r <;> decide
    exact (st.telling_get?_of_notMem hname).trans hends
  · cases r <;> simp <;> omega

/-- the end of a game that is counted is no longer owed -/
theorem countEnd (h : Balanced 1 st) {m : Int} (hm : st.system.get? Axis.game.endsProp = some (.int m)) :
    Balanced 0 (st.telling (Axis.game.closing (m + 1))) := by
  obtain ⟨f, ends, hf, hends, hsum⟩ := h
  obtain rfl : ends = m := by simpa using hends.symm.trans hm
  refine ⟨f, ends + 1, fun r => ?_, ?_, by omega⟩
  · have hname : r.countProp ∉ [Axis.game.endedProp, Axis.game.statusProp, Axis.game.endsProp] := by cases r <;> decide
    exact (st.telling_get?_of_notMem hname).trans (hf r)
  · simp [EngineState.telling, Axis.closing, Props.setAll, Props.get?_set]

end Balanced

end BadgeEngine
