/-
An engine by itself never fails as an operation does that is refused (`NoRefusal`): not when it reads a state, nor when
it writes a property or counts. Where a problem of this kind comes from is another question: a host may fail in any way.
-/
import BadgeEngine.Proofs.Moves

namespace BadgeEngine

open BadgeEngine.Number BadgeEngine.Time

variable {α β : Type}

/-- whether a problem is that an operation was asked for while another one ran -/
def Problem.isRefusal : Problem → Bool
  | .reentrant _ => true
  | _ => false

/-- what comes to an answer, or fails with a problem that is no refusal -/
def NoRefusal (x : Except Problem α) : Prop := ∀ e, x = .error e → e.isRefusal = false

theorem Problem.isRefusal_of_kind {e : Problem} (h : e.kind = "OverflowError") : e.isRefusal = false := by
  cases e with
  | reentrant op =>
    have other : "ReentrantCallError" ≠ "OverflowError" := by decide
    exact absurd h other
  | _ => rfl

namespace NoRefusal

theorem ok (x : α) : NoRefusal (.ok x) := nofun

theorem error {e : Problem} (h : e.isRefusal = false) : NoRefusal (.error e : Except Problem α) := by
  rintro _ ⟨⟩
  exact h

theorem bind {x : Except Problem β} {f : β → Except Problem α} (hx : NoRefusal x) (hf : ∀ b, NoRefusal (f b)) :
    NoRefusal (x >>= f) := by
  cases x with
  | ok b => exact hf b
  | error e => exact .error (hx e rfl)

theorem ofText? (t : Option String) : NoRefusal (Problem.ofText? t) := by
  cases t with
  | some text => exact .ok text
  | none => exact .error rfl

theorem localTime (z : Zone) (t : Instant) : NoRefusal (BadgeEngine.localTime z t) := by
  unfold BadgeEngine.localTime
  split
  · exact .ok _
  · exact .error rfl
  · exact .error rfl

theorem setValue (p : Props) (name : String) (v : Value) : NoRefusal (p.setValue name v) := by
  have checked : NoRefusal (checkScalar name v) := by
    unfold checkScalar
    split
    · exact .ok _
    · exact .error rfl
  exact checked.bind fun _ => .ok _

theorem sumWith (p : Props) (name : String) (x : Scalar) : NoRefusal (p.sumWith name x) := by
  unfold Props.sumWith addNumbers
  split
  · exact .ok _
  · exact .ok _
  · refine bind ?_ fun _ => .ok _
    dsimp only
    split
    · exact .ok _
    · exact .error rfl
  · refine bind ?_ fun _ => .ok _
    dsimp only
    split
    · exact .ok _
    · exact .error rfl
  · exact .ok _

theorem addValue (p : Props) (name : String) (v : Value) : NoRefusal (p.addValue name v) :=
  (sumWith p name _).bind fun _ => .ok _

theorem write (q : Write) (p : Props) : NoRefusal (q.apply p) := by
  cases q with
  | set name v => exact setValue p name v
  | add name v => exact addValue p name v
  | subtract name v => exact (sumWith p name _).bind fun _ => .ok _

theorem reason (v : Value) : NoRefusal (EndReason.ofValue v) := by
  unfold EndReason.ofValue
  split
  · exact .ok _
  · exact (ofText? _).bind fun _ => .error rfl

end NoRefusal

/-- what reads or counts, with warnings, and fails with no refusal -/
def Warned.NoRefusal (a : Warned α) : Prop := ∀ log, BadgeEngine.NoRefusal (a.run.run log).1

namespace Warned.NoRefusal

theorem pure (x : α) : Warned.NoRefusal (Pure.pure x) := fun _ => .ok x

theorem throw {e : Problem} (h : e.isRefusal = false) : Warned.NoRefusal (throw e : Warned α) := fun _ => .error h

theorem warn (text : String) : Warned.NoRefusal (BadgeEngine.warn text) := fun _ => .ok ()

theorem ofExcept {x : Except Problem α} (h : BadgeEngine.NoRefusal x) : Warned.NoRefusal (liftM x : Warned α) := by
  intro log
  cases x with
  | ok a => exact .ok a
  | error e => exact .error (h e rfl)

theorem bind {a : Warned β} {f : β → Warned α} (ha : a.NoRefusal) (hf : ∀ b, (f b).NoRefusal) :
    Warned.NoRefusal (a >>= f) := by
  intro log
  have first := ha log
  show BadgeEngine.NoRefusal (ExceptT.bindCont f ((a.run.run log).1) (a.run.run log).2).1
  cases hx : (a.run.run log).1 with
  | ok b => exact hf b _
  | error e => exact .error (first e hx)

theorem forM (f : β → Warned PUnit) (l : List β) (hf : ∀ b, (f b).NoRefusal) : Warned.NoRefusal (l.forM f) := by
  induction l with
  | nil => exact pure _
  | cons b l ih => exact (hf b).bind fun _ => ih

/-! ### Windows -/

theorem advance (w : Windows) (a : Axis) (t : Instant) : (w.advance a (.ok t)).NoRefusal := by
  have next : (w.nextCount a).NoRefusal := by
    unfold Windows.nextCount
    dsimp only
    split
    · exact pure _
    · exact (warn _).bind fun _ => pure _
  unfold Windows.advance
  refine next.bind fun n => (ofExcept (.ok t)).bind fun now => ?_
  split
  · exact throw rfl
  · exact pure _

/-! ### States -/

theorem partEntries (raw : List (Value × Value)) (name : String) : (BadgeEngine.partEntries raw name).NoRefusal := by
  unfold BadgeEngine.partEntries
  split
  · exact pure _
  · exact pure _
  · exact pure _
  · exact (warn _).bind fun _ => pure _

theorem readProps (part : String) (p : Props) (es : List (Value × Value)) :
    (BadgeEngine.readProps part p es).NoRefusal := by
  induction es generalizing p with
  | nil => exact pure _
  | cons e es ih =>
    unfold BadgeEngine.readProps
    refine (ofExcept (.ofText? _)).bind fun name => ?_
    split
    · exact ih _
    · exact (warn _).bind fun _ => ih _

theorem readWindows (w : Windows) (es : List (Value × Value)) : (BadgeEngine.readWindows w es).NoRefusal := by
  have window : ∀ name data, BadgeEngine.NoRefusal (readWindow name data) := by
    intro name data
    unfold readWindow
    split
    · split
      · exact .ok _
      · split
        case isTrue h => exact .error (Problem.isRefusal_of_kind h)
        case isFalse => exact .ok _
    · exact .ok _
  induction es generalizing w with
  | nil => exact pure _
  | cons e es ih =>
    unfold BadgeEngine.readWindows
    refine (ofExcept (window _ _)).bind fun x => ?_
    split
    · exact ih _
    · exact (warn _).bind fun _ => ih _

theorem readLedger (raw : List (Value × Value)) : (BadgeEngine.readLedger raw).NoRefusal := by
  have count : ∀ v, BadgeEngine.NoRefusal (readCount v) := by
    intro v
    unfold readCount
    split
    · exact .ok _
    · exact .ok _
    · split <;> exact .ok _
    · split
      · exact .ok _
      · split
        · exact .error rfl
        · exact .ok _
    · exact .ok _
  have counts : ∀ es, BadgeEngine.NoRefusal (countOf es) := by
    intro es
    unfold countOf
    split
    · exact .ok _
    · exact count _
  have entry : ∀ v, BadgeEngine.NoRefusal (readEarned v) := by
    intro v
    unfold readEarned
    split
    · refine (counts _).bind fun n => ?_
      split
      · split
        · exact .ok _
        · split
          case isTrue h => exact .error (Problem.isRefusal_of_kind h)
          case isFalse => exact .ok _
      · exact .ok _
    · exact .ok _
  have entries : ∀ vs, (readEarnedList vs).NoRefusal := by
    intro vs
    induction vs with
    | nil => exact pure _
    | cons v vs ih =>
      unfold readEarnedList
      refine (ofExcept (entry v)).bind fun e => ?_
      split
      · exact ih.bind fun _ => pure _
      · exact (warn _).bind fun _ => ih
  unfold BadgeEngine.readLedger
  dsimp only
  split
  · refine (entries _).bind fun es => ?_
    unfold makeLedger
    exact (forM _ _ fun _ => warn _).bind fun _ => pure _
  · split
    · exact (warn _).bind fun _ => pure _
    · exact pure _

theorem readBookmarks (b : Bookmarks) (es : List (Value × Value)) : (BadgeEngine.readBookmarks b es).NoRefusal := by
  induction es generalizing b with
  | nil => exact pure _
  | cons e es ih =>
    unfold BadgeEngine.readBookmarks
    split
    · exact ih _
    · split
      case isTrue h => exact (throw (Problem.isRefusal_of_kind h)).bind fun _ => (warn _).bind fun _ => ih _
      case isFalse => exact (warn _).bind fun _ => ih _
    · exact (warn _).bind fun _ => ih _

/-- whatever is read as a state, the reading does not fail as an operation that is refused -/
theorem ofValue (v : Value) : (EngineState.ofValue v).NoRefusal := by
  have entries : BadgeEngine.NoRefusal (stateEntries v) := by
    unfold stateEntries
    split
    · exact .ok _
    · split
      · exact .ok _
      · split
        · exact .error rfl
        · split <;> exact .error rfl
  unfold EngineState.ofValue
  refine (ofExcept entries).bind fun raw => (partEntries raw _).bind fun es => (readProps _ _ es).bind fun props => ?_
  refine (partEntries raw _).bind fun es => (readProps _ _ es).bind fun system => ?_
  refine (partEntries raw _).bind fun es => (readWindows _ es).bind fun windows => (readLedger raw).bind fun ledger => ?_
  exact (partEntries raw _).bind fun es => (readBookmarks _ es).bind fun _ => pure _

end Warned.NoRefusal

end BadgeEngine
