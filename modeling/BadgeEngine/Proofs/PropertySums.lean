/-
Sums of properties. A write changes the property it names and no other; it is refused only when it sets a value that
no property may hold, or adds a double to a whole number too large for one, and then everything stays as it was
(`Write.apply_error_iff`). So a run of writes comes apart by names: as long as no double is set or added under a name,
its number is the one it began with and the sum of what was added, in whatever order and whatever happens to other
names (`sums_of_writes`).
-/
import Mathlib.Algebra.BigOperators.Group.List.Basic
import Mathlib.Algebra.Ring.Int.Defs
import BadgeEngine.Proofs.Order
import BadgeEngine.Proofs.Standing

namespace BadgeEngine

open BadgeEngine.Number BadgeEngine.Text Run Setup

variable {σ : Type} {s : Setup σ} {w : World σ} {p p' : Props} {q : Write} {e : Problem}

/-! ## Sums of two numbers -/

/-- the number that a value under a name counts as, or the lack of one -/
def numberOf : Option Scalar → Scalar
  | none => .int 0
  | some x => asNumber (.scalar x)

/-- a sum without a result: a double and a whole number beyond all doubles -/
def NoSum (a b : Scalar) : Prop :=
  ∃ n x, ofInt? n = none ∧ (a = .int n ∧ b = .float x ∨ a = .float x ∧ b = .int n)

def noSum : Problem := .overflow "int too large to convert to float"

theorem addNumbers_error_iff {a b : Scalar} : addNumbers a b = .error e ↔ NoSum a b ∧ e = noSum := by
  -- only a double beside a whole number can be without a sum
  have alike : ∀ {a b x : Scalar}, addNumbers a b = .ok x →
      (∀ n y, ¬(a = .int n ∧ b = .float y ∨ a = .float y ∧ b = .int n)) →
      (addNumbers a b = .error e ↔ NoSum a b ∧ e = noSum) := by
    intro a b x h no
    rw [h]
    exact ⟨nofun, fun ⟨⟨n, y, _, hab⟩, _⟩ => absurd hab (no n y)⟩
  cases a <;> cases b
  case int.float n y =>
    have sum : NoSum (.int n) (.float y) ↔ ofInt? n = none := by simp [NoSum]
    rw [sum, addNumbers]
    dsimp only
    cases ofInt? n with
    | none => exact ⟨fun h => ⟨rfl, (Except.error.inj h).symm⟩, fun h => h.2 ▸ rfl⟩
    | some _ => exact ⟨nofun, nofun⟩
  case float.int x m =>
    have sum : NoSum (.float x) (.int m) ↔ ofInt? m = none := by simp [NoSum]
    rw [sum, addNumbers]
    dsimp only
    cases ofInt? m with
    | none => exact ⟨fun h => ⟨rfl, (Except.error.inj h).symm⟩, fun h => h.2 ▸ rfl⟩
    | some _ => exact ⟨nofun, nofun⟩
  all_goals exact alike rfl (by simp)

theorem sumWith_eq (p : Props) (name : String) (d : Scalar) :
    p.sumWith name d = addNumbers (numberOf (p.get? name)) d := by
  unfold Props.sumWith numberOf
  cases p.get? name <;> rfl

/-! ## One write -/

theorem checkScalar_error_iff {name : String} {v : Value} :
    checkScalar name v = .error e ↔ (∀ x, v ≠ .scalar x) ∧
      e = .wrongType ("Property " ++ quoted name ++ " must be str, int, float or bool, got " ++ v.typeName) := by
  cases v with
  | scalar x => exact ⟨nofun, fun h => absurd rfl (h.1 x)⟩
  | _ => exact ⟨fun h => ⟨nofun, (Except.error.inj h).symm⟩, fun h => h.2 ▸ rfl⟩

namespace Write

def name : Write → String
  | .set n _ | .add n _ | .subtract n _ => n

def Refused (p : Props) (e : Problem) : Write → Prop
  | .set n v => (∀ x, v ≠ .scalar x) ∧
      e = .wrongType ("Property " ++ quoted n ++ " must be str, int, float or bool, got " ++ v.typeName)
  | .add n d => NoSum (numberOf (p.get? n)) (asNumber d) ∧ e = noSum
  | .subtract n d => NoSum (numberOf (p.get? n)) (negate (asNumber d)) ∧ e = noSum

/-- a write is refused exactly for a value that no property may hold and for a sum that has no result -/
theorem apply_error_iff : q.apply p = .error e ↔ q.Refused p e := by
  cases q with
  | set n v => exact map_error_iff.trans checkScalar_error_iff
  | add n d => exact map_error_iff.trans (sumWith_eq p n _ ▸ addNumbers_error_iff)
  | subtract n d => exact map_error_iff.trans (sumWith_eq p n _ ▸ addNumbers_error_iff)

/-- a write changes the property it names -/
theorem apply_sets_name (h : q.apply p = .ok p') : ∃ x, p' = p.set q.name x := by
  cases q with
  | set n v | add n v | subtract n v =>
    obtain ⟨x, -, hx⟩ := bind_ok h
    cases hx
    exact ⟨x, rfl⟩

/-- properties after a write, which a refusal leaves as they are -/
def outcome (q : Write) (p : Props) : Props :=
  match q.apply p with
  | .ok p' => p'
  | .error _ => p

theorem outcome_of_refused (h : q.Refused p e) : q.outcome p = p := by
  rw [outcome, apply_error_iff.2 h]

theorem outcome_other {other : String} (h : q.name ≠ other) : (q.outcome p).get? other = p.get? other := by
  unfold outcome
  cases hp : q.apply p with
  | error e => rfl
  | ok p' =>
    obtain ⟨x, rfl⟩ := apply_sets_name hp
    rw [Props.get?_set, if_neg (Ne.symm h)]

/-! ## What a write adds -/

/-- a write that adds no double under its name: nor does it set a value, unless none that a property may hold -/
def AddsWhole : Write → Prop
  | .set _ v => ∀ x, v ≠ .scalar x
  | .add _ d | .subtract _ d => ∀ x, d ≠ .scalar (.float x)

/-- the whole number a write adds under its name; what is no number counts as zero -/
def amount? : Write → Option Int
  | .set _ _ => none
  | .add _ (.scalar (.int n)) => some n
  | .subtract _ (.scalar (.int n)) => some (-n)
  | .add _ _ | .subtract _ _ => some 0

theorem asNumber_whole {d : Value} (h : ∀ x, d ≠ .scalar (.float x)) (n : String) :
    ∃ m, asNumber d = .int m ∧ (Write.add n d).amount? = some m ∧ (Write.subtract n d).amount? = some (-m) := by
  cases d with
  | scalar x =>
    cases x with
    | int m => exact ⟨m, rfl, rfl, rfl⟩
    | float x => exact absurd rfl (h x)
    | _ => exact ⟨0, rfl, rfl, rfl⟩
  | _ => exact ⟨0, rfl, rfl, rfl⟩

/-- what one write makes of the number under its name -/
theorem outcome_self (h : q.AddsWhole) {b : Int} (hb : numberOf (p.get? q.name) = .int b) :
    (q.outcome p).get? q.name = q.amount?.elim (p.get? q.name) fun d => some (.int (b + d)) := by
  have added : ∀ {n : String} {m : Int}, numberOf (p.get? n) = .int b →
      (do return p.set n (← p.sumWith n (.int m)) : Except Problem Props) = .ok (p.set n (.int (b + m))) := by
    intro n m hn
    rw [sumWith_eq, hn]
    rfl
  cases q with
  | set n v =>
    have hr : (Write.set n v).Refused p _ := ⟨h, rfl⟩
    rw [outcome_of_refused hr]
    rfl
  | add n d =>
    obtain ⟨m, hm, ha, -⟩ := asNumber_whole h n
    have hp : (Write.add n d).apply p = .ok (p.set n (.int (b + m))) := by
      rw [apply, Props.addValue, hm]; exact added hb
    rw [outcome, hp, ha, name, Props.get?_set, if_pos rfl]
    rfl
  | subtract n d =>
    obtain ⟨m, hm, -, ha⟩ := asNumber_whole h n
    have hp : (Write.subtract n d).apply p = .ok (p.set n (.int (b + -m))) := by
      rw [apply, Props.subtractValue, hm]; exact added hb
    rw [outcome, hp, ha, name, Props.get?_set, if_pos rfl]
    rfl

end Write

/-! ## Runs of writes -/

def Props.after (p : Props) (qs : List Write) : Props := qs.foldl (fun p q => q.outcome p) p

/-- what writes add under a name, one after another -/
def amounts (name : String) (qs : List Write) : List Int :=
  qs.filterMap fun q => if q.name = name then q.amount? else none

variable {name : String} {qs later : List Write}

theorem Props.after_append (p : Props) (qs rs : List Write) : p.after (qs ++ rs) = (p.after qs).after rs :=
  List.foldl_append

theorem Props.after_cons (p : Props) (q : Write) (qs : List Write) : p.after (q :: qs) = (q.outcome p).after qs := rfl

/-- a name keeps its value if every write of it is refused in its turn -/
theorem Props.after_unwritten
    (h : ∀ before q later, qs = before ++ q :: later → q.name = name → ∃ e, q.Refused (p.after before) e) :
    (p.after qs).get? name = p.get? name := by
  induction qs generalizing p with
  | nil => rfl
  | cons q qs ih =>
    have first : (q.outcome p).get? name = p.get? name := by
      by_cases hn : q.name = name
      · obtain ⟨e, he⟩ := h [] q qs rfl hn
        exact congrArg (·.get? name) (Write.outcome_of_refused he)
      · exact Write.outcome_other hn
    rw [after_cons, ih, first]
    intro before r later hqs hr
    exact h (q :: before) r later (congrArg (q :: ·) hqs) hr

/-- the number under a name after writes that add whole numbers to it -/
theorem Props.after_sum {b : Int} (hb : numberOf (p.get? name) = .int b)
    (h : ∀ q ∈ later, q.name = name → q.AddsWhole) :
    (p.after later).get? name =
      if amounts name later = [] then p.get? name else some (.int (b + (amounts name later).sum)) := by
  induction later generalizing p b with
  | nil => rfl
  | cons q qs ih =>
    have rest : ∀ r ∈ qs, r.name = name → r.AddsWhole := fun r hr => h r (List.mem_cons_of_mem q hr)
    rw [after_cons]
    by_cases hn : q.name = name
    · subst hn
      have self := Write.outcome_self (h q List.mem_cons_self rfl) hb
      cases hd : q.amount? with
      | none =>
        have same : amounts q.name (q :: qs) = amounts q.name qs := by simp [amounts, hd]
        rw [hd] at self
        rw [same, ih (by rwa [self]) rest, self]
        rfl
      | some d =>
        have more : amounts q.name (q :: qs) = d :: amounts q.name qs := by simp [amounts, hd]
        rw [hd] at self
        rw [more, if_neg (List.cons_ne_nil _ _), ih (by rw [self]; rfl) rest, self, List.sum_cons, ← Int.add_assoc]
        -- the first sum stands for both cases, as nothing more adds nothing
        split
        case isTrue hnil => rw [hnil, List.sum_nil, Int.add_zero]; rfl
        case isFalse => rfl
    · have same : amounts name (q :: qs) = amounts name qs := by simp [amounts, hn]
      have other := Write.outcome_other (p := p) hn
      rw [same, ih (by rwa [other]) rest, other]

/-- the writes after a value of a name was set, and that value: all of them and the first value, if none was set -/
def SinceBase (p : Props) (name : String) (qs : List Write) (base : Option Scalar) (later : List Write) : Prop :=
  (qs = later ∧ base = p.get? name) ∨
    ∃ before x, qs = before ++ .set name (.scalar x) :: later ∧ base = some x

/-- a name has its base when the later writes begin -/
theorem SinceBase.split {base : Option Scalar} (h : SinceBase p name qs base later) :
    ∃ p' : Props, p.after qs = p'.after later ∧ p'.get? name = base := by
  rcases h with ⟨rfl, rfl⟩ | ⟨before, x, rfl, rfl⟩
  · exact ⟨p, rfl, rfl⟩
  · refine ⟨(p.after before).set name x, ?_, ?_⟩
    · rw [Props.after_append, Props.after_cons]
      rfl
    · rw [Props.get?_set, if_pos rfl]

theorem numberOf_whole {base : Option Scalar} (h : ∀ x, base ≠ some (.float x)) : ∃ b, numberOf base = .int b := by
  rcases base with _ | _ | n | x | _
  case some.int => exact ⟨n, rfl⟩
  case some.float => exact absurd rfl (h x)
  all_goals exact ⟨0, rfl⟩

/-! ## Writes to an engine -/

def World.withProps (w : World σ) (props : Props) : World σ := w.withState { w.engine.state with props }

theorem exec_write (q : Write) (w : World σ) : (s.answer (.write q true)).exec w =
    match q.apply w.engine.state.props with
    | .ok props => (.ok (.badges []), w.withProps props)
    | .error e => (.error e, w) := by
  show exec ((q.apply w.engine.state.props : Run σ Props) >>= fun props => do
    change fun st => { st with props }
    return Answer.badges []) w = _
  rw [exec_bind]
  cases q.apply w.engine.state.props <;> rfl

/-- a write that runs no rules comes to its outcome, and a refused one changes nothing at all -/
theorem write_outcome (q : Write) (w : World σ) :
    ((s.answer (.write q true)).exec w).2 = w.withProps (q.outcome w.engine.state.props) := by
  rw [exec_write, Write.outcome]
  cases q.apply w.engine.state.props <;> rfl

theorem after_writes (s : Setup σ) (w : World σ) (qs : List Write) :
    w.after s (qs.map (.write · true)) = w.withProps (w.engine.state.props.after qs) := by
  induction qs generalizing w with
  | nil => rfl
  | cons q qs ih =>
    show World.after s ((s.answer (.write q true)).exec w).2 (qs.map (.write · true)) = _
    rw [write_outcome, ih]
    rfl

/-- a write is refused for the reason its properties give, and then changes nothing at all -/
theorem write_refused_iff (q : Write) (w : World σ) :
    (((s.answer (.write q true)).exec w).1 = .error e ↔ q.Refused w.engine.state.props e) ∧
    (((s.answer (.write q true)).exec w).1 = .error e → ((s.answer (.write q true)).exec w).2 = w) := by
  rw [exec_write, ← Write.apply_error_iff]
  cases q.apply w.engine.state.props with
  | error e' =>
    exact ⟨⟨fun h => congrArg _ (Except.error.inj h), fun h => congrArg _ (Except.error.inj h)⟩, fun _ => rfl⟩
  | ok props => exact ⟨⟨nofun, nofun⟩, nofun⟩

/-- **Sums of properties.** Writes made of an engine one after another change its properties alone. One is refused
exactly when its value may not be held or its sum has no result, and then changes nothing. A name that no write
changes keeps its value. A name that was last given no double, and to which no double was added since, has its base
and the sum of what was added; what happens to other names, and the order, make no difference. -/
theorem sums_of_writes (s : Setup σ) (w : World σ) (qs : List Write) :
    w.after s (qs.map (.write · true)) = w.withProps (w.engine.state.props.after qs) ∧
    (∀ before q later, qs = before ++ q :: later → ∀ v, v = w.after s (before.map (.write · true)) → ∀ e,
      (((s.answer (.write q true)).exec v).1 = .error e ↔ q.Refused (w.engine.state.props.after before) e) ∧
      (((s.answer (.write q true)).exec v).1 = .error e → ((s.answer (.write q true)).exec v).2 = v)) ∧
    ∀ (p : Props) (name : String),
      ((∀ before q later, qs = before ++ q :: later → q.name = name → ∃ e, q.Refused (p.after before) e) →
        (p.after qs).get? name = p.get? name) ∧
      ∀ base later, SinceBase p name qs base later → (∀ x, base ≠ some (.float x)) →
        (∀ q ∈ later, q.name = name → q.AddsWhole) → amounts name later ≠ [] →
        (∃ b, numberOf base = .int b ∧ (p.after qs).get? name = some (.int (b + (amounts name later).sum))) ∧
        ∀ (p' : Props) (qs' later' : List Write), SinceBase p' name qs' base later' →
          (∀ q ∈ later', q.name = name → q.AddsWhole) → (amounts name later').Perm (amounts name later) →
          (p'.after qs').get? name = (p.after qs).get? name := by
  -- a name has its base and the sum, wherever the writes begin
  have total : ∀ {p : Props} {name : String} {qs later : List Write} {base : Option Scalar} {b : Int},
      SinceBase p name qs base later → numberOf base = .int b → (∀ q ∈ later, q.name = name → q.AddsWhole) →
      amounts name later ≠ [] → (p.after qs).get? name = some (.int (b + (amounts name later).sum)) := by
    intro p name qs later base b hs hb whole added
    obtain ⟨p', hp, rfl⟩ := hs.split
    rw [hp, Props.after_sum hb whole, if_neg added]
  refine ⟨after_writes s w qs, ?_, fun p name => ⟨Props.after_unwritten, ?_⟩⟩
  · rintro before q later - v rfl e
    rw [after_writes]
    exact write_refused_iff q _
  · intro base later hs hbase whole added
    obtain ⟨b, hb⟩ := numberOf_whole hbase
    refine ⟨⟨b, hb, total hs hb whole added⟩, fun p' qs' later' hs' whole' same => ?_⟩
    have added' : amounts name later' ≠ [] := fun h => added (h ▸ same).nil_eq.symm
    rw [total hs hb whole added, total hs' hb whole' added', same.sum_eq]

/-- a whole number beyond all doubles -/
def beyondDoubles : Int := 10 ^ 400

/-- writes to two names after a truth value was set under one of them; a value and a sum among them are refused -/
def mixedWrites : List Write :=
  [.add "n" (.ofInt 3), .set "m" (.ofInt beyondDoubles), .set "n" .null, .add "m" (.scalar (.float 1)),
    .subtract "n" (.ofText "two"), .add "n" (.ofInt beyondDoubles), .subtract "m" (.ofBool true)]

/-- writes that add the same in another order -/
def sortedWrites : List Write :=
  [.subtract "n" (.ofText "two"), .add "n" (.ofInt beyondDoubles), .add "n" (.ofInt 3)]

theorem sums_of_mixed_writes :
    amounts "n" mixedWrites = [3, 0, beyondDoubles] ∧ amounts "n" sortedWrites = [0, beyondDoubles, 3] ∧
    (Write.add "m" (.scalar (.float 1))).Refused ⟨[("m", .int beyondDoubles)]⟩ noSum ∧
    (Props.after {} (.set "n" (.ofBool true) :: mixedWrites)).get? "n" = some (.int (beyondDoubles + 3)) ∧
    (Props.after ⟨[("n", .bool true)]⟩ sortedWrites).get? "n" =
      (Props.after {} (.set "n" (.ofBool true) :: mixedWrites)).get? "n" := by
  have mixed : amounts "n" mixedWrites = [3, 0, beyondDoubles] := by decide +kernel
  have sorted : amounts "n" sortedWrites = [0, beyondDoubles, 3] := by decide +kernel
  have set : SinceBase {} "n" (.set "n" (.ofBool true) :: mixedWrites) (some (.bool true)) mixedWrites :=
    .inr ⟨[], .bool true, rfl, rfl⟩
  have had : SinceBase ⟨[("n", .bool true)]⟩ "n" sortedWrites (some (.bool true)) sortedWrites := .inl ⟨rfl, rfl⟩
  obtain ⟨⟨b, hb, sum⟩, same⟩ :=
    ((sums_of_writes (standstill [] none) { host := () } (.set "n" (.ofBool true) :: mixedWrites)).2.2 {} "n").2 _ _ set
      nofun (by simp [mixedWrites, Write.name, Write.AddsWhole]) (by rw [mixed]; exact List.cons_ne_nil _ _)
  refine ⟨mixed, sorted, ⟨⟨beyondDoubles, 1, by decide +kernel, .inl ⟨rfl, rfl⟩⟩, rfl⟩, ?_, ?_⟩
  · cases hb
    rw [sum, mixed]
    decide +kernel
  · refine same _ _ _ had (by simp [sortedWrites, Write.name, Write.AddsWhole]) ?_
    rw [mixed, sorted]
    decide +kernel

end BadgeEngine
