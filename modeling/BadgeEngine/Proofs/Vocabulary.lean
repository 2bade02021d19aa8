/-
What names mean in conditions. `system` always means the system properties; any other name means the property that
stands under it, else the word of the vocabulary that it is, else 0 (`names_sight`).

Results, for any library of expressions that looks names and functions up, and for conditions that do not draw:
- `zero_unseen`: a property that is absent is a property that is 0. What neither can change is what happens to a
  condition that raises an exception whose text cannot be written: no verdict is given (`longKey_unjudged`).
- `vocabulary_kept`: what stands under `system`, and under words that a condition does not read, is never seen. But a
  property under `true`, `false` or `null` takes the place of the word (`word_shadowed`).

A text may show where an object stands, as that of a method of the system properties does. So objects come to stand
alike in what is compared.
-/
import BadgeEngine.Proofs.Expression

namespace BadgeEngine

open BadgeEngine.Condition

/-- the words that are no names of properties to a condition: the system properties, truth values and null -/
def reserved : List String := ["system", "true", "false", "null"]

namespace Library

variable {V F X A D : Type} {L : Library V F X A D} {reads calls : String → List String}
  {props props' system : List (String × V)} {a : A} {extra : List (String × F)} {d d' : D} {hasEarned badgeCount : F}
  {condition n : String}

/-! ## What names mean -/

/-- what a name other than `system` means: its property, else the word it is, else 0 -/
def meaning (L : Library V F X A D) (props : List (String × V)) (n : String) : V :=
  ((props.lookup n).or (L.words.lookup n)).getD (L.value (.ofInt 0))

theorem names_sight (hp : Entries.Distinct props) (n : String) :
    (L.names (L.sight a props system hasEarned badgeCount)).get n =
      if n = "system" then L.view a system else L.meaning props n := by
  unfold names sight Names.get meaning
  dsimp only
  rw [Entries.lookup_putAll (hp.put ..)]
  by_cases hs : n = "system"
  · rw [if_pos hs, hs, Entries.lookup_put_self]
    rfl
  · rw [if_neg hs, Entries.lookup_put_of_ne hs]

theorem words_of_not_reserved (hn : n ∉ reserved) : L.words.lookup n = none := by
  unfold reserved at hn
  simp only [List.mem_cons, List.not_mem_nil, or_false, not_or] at hn
  unfold words
  rw [Entries.lookup_cons_of_ne hn.2.1, Entries.lookup_cons_of_ne hn.2.2.1, Entries.lookup_cons_of_ne hn.2.2.2,
    List.lookup_nil]

/-- a condition that does not draw comes to the same wherever the names that it reads mean the same -/
theorem Lawful.evaluate_of_meanings (hL : L.Lawful reads calls) (hp : Entries.Distinct props)
    (hp' : Entries.Distinct props') (hc : ∀ m ∈ calls condition, drawing m = false)
    (h : ∀ m ∈ reads condition, m ≠ "system" → L.meaning props' m = L.meaning props m) :
    L.evaluate extra d' a (L.sight a props' system hasEarned badgeCount) condition =
      L.evaluate extra d a (L.sight a props system hasEarned badgeCount) condition := by
  refine hL.evaluate_eq (fun _ => id) (fun m hm => ?_) (.refl _) hc
  rw [names_sight hp, names_sight hp']
  split
  · rfl
  · exact h m hm ‹_›

/-! ## Properties that are 0 -/

/-- a name that is no word means 0 where no property stands under it -/
theorem meaning_put (absent : n ∉ props.map (·.1)) (hn : n ∉ reserved) (m : String) :
    L.meaning (Entries.put n (L.value (.ofInt 0)) props) m = L.meaning props m := by
  unfold meaning
  by_cases hm : m = n
  · have missing : props.lookup n = none := by
      rw [← Option.not_isSome_iff_eq_none, Entries.lookup_isSome_iff]
      exact absent
    rw [hm, Entries.lookup_put_self, missing, words_of_not_reserved hn]
    rfl
  · rw [Entries.lookup_put_of_ne hm]

/-- **Absent is 0.** A condition that does not draw comes to the same, whether there is no property under a name or one
that is 0, unless the name is a word: the same verdict, the same message or the same problem. There is a problem only if
a function may not be offered to conditions, or the text of an exception cannot be written. -/
theorem zero_unseen (hL : L.Lawful reads calls) (hp : Entries.Distinct props) (absent : n ∉ props.map (·.1))
    (hn : n ∉ reserved) (hc : ∀ m ∈ calls condition, drawing m = false) :
    L.evaluate extra d' a (L.sight a (Entries.put n (L.value (.ofInt 0)) props) system hasEarned badgeCount) condition =
      L.evaluate extra d a (L.sight a props system hasEarned badgeCount) condition ∧
    ∀ e, L.evaluate extra d a (L.sight a props system hasEarned badgeCount) condition = .error e →
      L.refusal? (L.functions extra d (L.sight a props system hasEarned badgeCount)) = some e ∨
        ∃ x, L.shown x = .error e ∧
          (L.eval a (L.names (L.sight a props system hasEarned badgeCount))
            (L.functions extra d (L.sight a props system hasEarned badgeCount)) condition).bind L.truth = .error x := by
  constructor
  · exact hL.evaluate_of_meanings hp (hp.put ..) hc fun m _ _ => meaning_put absent hn m
  · intro e he
    rcases evaluate_error.1 he with refused | ⟨-, x, raised, unshown⟩
    · exact .inl refused
    · exact .inr ⟨x, unshown, raised⟩

/-! ## Words -/

/-- **Vocabulary.** What a host writes under `system`, and under those of the words `true`, `false` and `null` that a
condition does not read, is not seen by the condition. It reads the system properties under `system`, always; and it
reads the truth value or null that a word stands for exactly if the host has written nothing else under the word. -/
theorem vocabulary_kept (hL : L.Lawful reads calls) (hp : Entries.Distinct props) (hp' : Entries.Distinct props')
    (hc : ∀ m ∈ calls condition, drawing m = false) (differ : ∀ n, n ∉ reserved → props'.lookup n = props.lookup n)
    (words : ∀ w ∈ reads condition, w ≠ "system" → w ∈ reserved → L.meaning props' w = L.meaning props w) :
    L.evaluate extra d' a (L.sight a props' system hasEarned badgeCount) condition =
      L.evaluate extra d a (L.sight a props system hasEarned badgeCount) condition ∧
    (L.names (L.sight a props system hasEarned badgeCount)).get "system" = L.view a system ∧
    ∀ w literal, L.words.lookup w = some literal →
      ((L.names (L.sight a props system hasEarned badgeCount)).get w = literal ↔
        ∀ v, props.lookup w = some v → v = literal) := by
  refine ⟨?_, names_sight hp _, ?_⟩
  · refine hL.evaluate_of_meanings hp hp' hc fun n hn hs => ?_
    by_cases hr : n ∈ reserved
    · exact words n hn hs hr
    · unfold meaning
      rw [differ n hr]
  · intro w literal hw
    have other : w ≠ "system" := by
      rintro rfl
      cases hw
    rw [names_sight hp, if_neg other]
    unfold meaning
    cases props.lookup w with
    | none => simp [hw]
    | some v => simp

end Library

/-- what a condition comes to for a player in the first game -/
def inFirstGame (props : List (String × Datum)) : String → Except Problem (Except String Bool) :=
  expressions.evaluate [] (fun _ => 0) ""
    (expressions.sight "" props [("games", .ofInt 1)] (expressions.hasEarned .empty) (expressions.badgeCount .empty))

/-- the player has 5 coins -/
def coins : List (String × Datum) := [("coins", .ofInt 5)]

/-- asks for a medal that the player does not have -/
def medalCheck : String := "coins[medals] if system.games > medals else 0"

theorem medals_unseen :
    inFirstGame (Entries.put "medals" (.ofInt 0) coins) medalCheck = inFirstGame coins medalCheck ∧
      inFirstGame coins medalCheck =
        .ok (.error ("TypeError: 'int' object is not subscriptable " ++
          "(condition: 'coins[medals] if system.games > medals else 0')")) := by
  have calls : conditionCalls medalCheck = [] := by decide +kernel
  have drawless : ∀ m ∈ conditionCalls medalCheck, drawing m = false := by simp [calls]
  have distinct : Entries.Distinct coins := List.nodup_singleton _
  have word : "medals" ∉ reserved := by decide
  refine ⟨?_, by decide +kernel⟩
  exact (Library.zero_unseen expressions_lawful distinct (by decide) word drawless).1

/-- a condition that asks for a missing number with too many digits has no verdict, with a property of 0 or without -/
theorem longKey_unjudged :
    (∀ m ∈ conditionCalls "system[10**5000]", drawing m = false) ∧ "medals" ∉ coins.map (·.1) ∧ "medals" ∉ reserved ∧
      inFirstGame coins "system[10**5000]" = .error .digitLimit ∧
      inFirstGame (Entries.put "medals" (.ofInt 0) coins) "system[10**5000]" = .error .digitLimit := by
  decide +kernel

/-- 5 coins, and properties under `system` and `false` -/
def meddled : List (String × Datum) := ("system", .data (.dict [])) :: ("false", .ofInt 1) :: coins

/-- reads two of the words -/
def wordCheck : String := "coins > 3 and system.games == true and null"

theorem meddled_unseen :
    inFirstGame meddled wordCheck = inFirstGame coins wordCheck ∧ inFirstGame coins wordCheck = .ok (.ok false) := by
  have calls : conditionCalls wordCheck = [] := by decide +kernel
  have read : conditionNames wordCheck = ["coins", "system", "true", "null"] := by decide +kernel
  have drawless : ∀ m ∈ conditionCalls wordCheck, drawing m = false := by simp [calls]
  have differ : ∀ n, n ∉ reserved → meddled.lookup n = coins.lookup n := by
    intro n hn
    unfold reserved at hn
    simp only [List.mem_cons, List.not_mem_nil, or_false, not_or] at hn
    exact (Entries.lookup_cons_of_ne hn.1).trans (Entries.lookup_cons_of_ne hn.2.2.1)
  have words : ∀ w ∈ conditionNames wordCheck, w ≠ "system" → w ∈ reserved →
      expressions.meaning meddled w = expressions.meaning coins w := by
    rw [read]
    intro w hw hs _
    rcases List.mem_cons.1 hw with rfl | hw
    · rfl
    rcases List.mem_cons.1 hw with rfl | hw
    · exact absurd rfl hs
    rcases List.mem_cons.1 hw with rfl | hw
    · rfl
    · rw [List.mem_singleton.1 hw]
      rfl
  have distinct : Entries.Distinct coins := List.nodup_singleton _
  have distinct' : Entries.Distinct meddled := by
    unfold Entries.Distinct
    decide
  refine ⟨?_, by decide +kernel⟩
  exact (Library.vocabulary_kept expressions_lawful distinct distinct' drawless differ words).1

/-- a property under `true` takes the place of the word -/
theorem word_shadowed :
    (∀ m ∈ conditionCalls "true", drawing m = false) ∧
      (∀ n, n ∉ reserved → (Entries.put "true" (.ofInt 0) coins).lookup n = coins.lookup n) ∧
      inFirstGame (Entries.put "true" (.ofInt 0) coins) "true" = .ok (.ok false) ∧
      inFirstGame coins "true" = .ok (.ok true) := by
  refine ⟨by decide +kernel, ?_, by decide +kernel, by decide +kernel⟩
  intro n hn
  apply Entries.lookup_put_of_ne
  rintro rfl
  exact hn (by decide)

end BadgeEngine
