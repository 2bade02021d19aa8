/-
Verdicts on rules: the library of expressions that engines run with. All of its objects stand at one address, of which
the digits are given; in the verdicts of a run they are left out.
-/
import BadgeEngine.Condition.Eval
import BadgeEngine.Evaluator

namespace BadgeEngine

open BadgeEngine.Condition

/-- the expressions of conditions; what is no value is not seen in a mapping -/
def expressions : Library Datum Function (String × Fault) String (Nat → Float) where
  value := .data
  view _ es := .mapping (es.filterMap fun e => match e.2 with | .data v => some (.ofText e.1, v) | _ => none)
  common draw :=
    [("rand", callDraw draw), ("randint", callDrawBelow draw), ("int", fun _ => callInt), ("float", fun _ => callFloat),
      ("str", fun _ => callText)]
  hasEarned l := findsEarned "Badges.has_earned_badge()" fun id => (l.get? id).map (·.count)
  badgeCount l := countsEarned "Badges.badge_count()" fun id => (l.get? id).map (·.count)
  refusal _ := none
  eval address names functions condition :=
    (evalCondition ⟨address, names.get, (functions.lookup ·)⟩ condition).mapError (condition, ·)
  truth d := .ok d.truthy
  shown x := x.2.shown x.1

/-- what judging a condition comes to, with constants under names and random numbers given by the host -/
def judgement (extra : List (String × Value)) (draw : Nat → Float) :
    Context → String → Except Problem (Except String Bool) :=
  expressions.judge (extra.map fun e => (e.1, constantly e.2)) draw ""

end BadgeEngine
