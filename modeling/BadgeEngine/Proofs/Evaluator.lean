/-
Conditions are told by what they read and call. A library of expressions looks up the names and the functions that stand
in a condition and nothing else (`Library.Lawful`); so a condition comes to the same wherever the names that it reads
mean the same, and the functions that it calls are the same (`Lawful.evaluate_eq`).

Only some functions may differ from one evaluation to another: those that draw random numbers and those that look into
the ledger. No evaluation is refused because of them (`Alike.refusal?`).
-/
import Mathlib.Data.List.Forall2
import BadgeEngine.Evaluator
import BadgeEngine.Proofs.Entries

namespace BadgeEngine

/-- the functions that draw a number -/
def drawing (n : String) : Bool := n = "rand" || n = "randint"

/-- the functions that look into the ledger -/
def lookingUp (n : String) : Bool := n = "hasEarnedBadge" || n = "badgeCount"

variable {V F X A D : Type}

namespace Library

variable {L : Library V F X A D} {free free' : String → Bool} {fs fs' gs gs' : List (String × F)} {n : String} {x x' : F}

/-- the same function, or functions under a free name that may both be offered -/
def Free (L : Library V F X A D) (free : String → Bool) (n : String) (x x' : F) : Prop :=
  x' = x ∨ free n = true ∧ L.refusal x = none ∧ L.refusal x' = none

/-- the same functions but for those under free names, which may all be offered -/
def Alike (L : Library V F X A D) (free : String → Bool) : List (String × F) → List (String × F) → Prop :=
  List.Forall₂ fun e e' => e'.1 = e.1 ∧ L.Free free e.1 e.2 e'.2

/-- what is known of a library, the names that a condition reads and those that it calls:
names are looked up, and only those that a condition reads; functions are looked up, and only those that it calls;
`rand` and `randint` alone draw random numbers; the common functions and those of the ledger may be offered -/
structure Lawful (L : Library V F X A D) (reads calls : String → List String) : Prop where
  names : ∀ a fs condition t t', (∀ n ∈ reads condition, t'.get n = t.get n) →
    L.eval a t' fs condition = L.eval a t fs condition
  functions : ∀ a t condition fs fs', (∀ n ∈ calls condition, fs'.lookup n = fs.lookup n) →
    L.eval a t fs' condition = L.eval a t fs condition
  common : ∀ d d', L.Alike drawing (L.common d) (L.common d')
  asking : ∀ l, L.refusal (L.hasEarned l) = none ∧ L.refusal (L.badgeCount l) = none

/-! ## Functions that differ under free names -/

theorem Free.refl (x : F) : L.Free free n x x := .inl rfl

theorem Free.mono (h : L.Free free n x x') (hf : ∀ n, free n = true → free' n = true) : L.Free free' n x x' :=
  h.imp_right fun h => ⟨hf n h.1, h.2⟩

theorem Alike.mono (h : L.Alike free fs fs') (hf : ∀ n, free n = true → free' n = true) : L.Alike free' fs fs' :=
  h.imp fun _ _ h => ⟨h.1, h.2.mono hf⟩

theorem Alike.put (h : L.Alike free fs fs') (hx : L.Free free n x x') :
    L.Alike free (Entries.put n x fs) (Entries.put n x' fs') := by
  induction h with
  | nil => exact .cons ⟨rfl, hx⟩ .nil
  | @cons e e' es es' he hes ih =>
    obtain ⟨m, y⟩ := e
    obtain ⟨m', y'⟩ := e'
    obtain ⟨rfl, hy⟩ := he
    unfold Entries.put
    split
    case isTrue hm => exact .cons ⟨rfl, hm ▸ hx⟩ hes
    case isFalse => exact .cons ⟨rfl, hy⟩ ih

theorem Alike.putAll (h : L.Alike free fs fs') (hg : L.Alike free gs gs') :
    L.Alike free (Entries.putAll gs fs) (Entries.putAll gs' fs') := by
  induction hg generalizing fs fs' with
  | nil => exact h
  | @cons e e' _ _ he _ ih =>
    have first : L.Alike free (Entries.put e.1 e.2 fs) (Entries.put e'.1 e'.2 fs') := by
      rw [he.1]
      exact h.put he.2
    exact ih first

theorem Alike.refl (fs : List (String × F)) : L.Alike free fs fs :=
  List.forall₂_same.2 fun _ _ => ⟨rfl, .refl _⟩

theorem Alike.lookup (h : L.Alike free fs fs') (hn : free n = false) : fs'.lookup n = fs.lookup n := by
  induction h with
  | nil => rfl
  | @cons e e' es es' he _ ih =>
    obtain ⟨same, hx⟩ := he
    rw [List.lookup_cons, List.lookup_cons, same]
    by_cases hm : n = e.1
    · rw [hm, beq_self_eq_true]
      exact congrArg some (hx.resolve_right fun h => by simp [← hm, hn] at h)
    · rw [beq_eq_false_iff_ne.2 hm]
      exact ih

theorem Alike.refusal? (h : L.Alike free fs fs') : L.refusal? fs' = L.refusal? fs := by
  induction h with
  | nil => rfl
  | @cons e e' es es' he _ ih =>
    unfold Library.refusal? at ih ⊢
    have first : L.refusal e'.2 = L.refusal e.2 := by
      rcases he.2 with same | ⟨-, hx, hx'⟩
      · rw [same]
      · rw [hx, hx']
    rw [List.findSome?_cons, List.findSome?_cons, first, ih]

/-! ## Conditions -/

variable {reads calls : String → List String} {extra : List (String × F)} {d d' : D} {a : A} {c c' : Sight V F}
  {condition : String}

/-- the functions of a condition are alike if those in sight are -/
theorem Lawful.alike (h : L.Lawful reads calls) (hf : ∀ n, drawing n = true → free n = true)
    (hc : L.Alike free c.functions c'.functions) : L.Alike free (L.functions extra d c) (L.functions extra d' c') :=
  (((h.common d d').mono hf).putAll (.refl extra)).putAll hc

/-- a condition comes to the same wherever the names that it reads mean the same, and it calls no function under a free
name -/
theorem Lawful.evaluate_eq (h : L.Lawful reads calls) (hf : ∀ n, drawing n = true → free n = true)
    (hn : ∀ n ∈ reads condition, (L.names c').get n = (L.names c).get n)
    (hc : L.Alike free c.functions c'.functions) (called : ∀ n ∈ calls condition, free n = false) :
    L.evaluate extra d' a c' condition = L.evaluate extra d a c condition := by
  have alike : L.Alike free (L.functions extra d c) (L.functions extra d' c') := h.alike hf hc
  have value : L.eval a (L.names c') (L.functions extra d' c') condition =
      L.eval a (L.names c) (L.functions extra d c) condition :=
    (h.names _ _ _ _ _ hn).trans (h.functions _ _ _ _ _ fun n hn => alike.lookup (called n hn))
  unfold evaluate
  dsimp only
  rw [alike.refusal?, value]

/-- when a condition has no outcome: a function may not be offered, or an exception cannot be shown -/
theorem evaluate_error {e : Problem} : L.evaluate extra d a c condition = .error e ↔
    L.refusal? (L.functions extra d c) = some e ∨
      L.refusal? (L.functions extra d c) = none ∧
        ∃ x, (L.eval a (L.names c) (L.functions extra d c) condition).bind L.truth = .error x ∧ L.shown x = .error e := by
  unfold evaluate
  dsimp only
  cases L.refusal? (L.functions extra d c) with
  | some p => simp
  | none =>
    rcases (L.eval a (L.names c) (L.functions extra d c) condition).bind L.truth with x | b
    · dsimp only
      cases hx : L.shown x <;> simp [Except.map, hx]
    · simp

end Library

end BadgeEngine
