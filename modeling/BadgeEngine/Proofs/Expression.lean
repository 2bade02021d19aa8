/-
Expressions are told by the names that they read, the functions that they call, and where methods stand that they ask
for (`eval_uses`). So the library that engines run with does no more than look names up (`expressions_lawful`), and it
tells by methods alone where things stand (`evalCondition_address`).
-/
import BadgeEngine.Proofs.Evaluator
import BadgeEngine.Verdict

namespace BadgeEngine.Condition

/-! ## What an expression uses -/

/-- what an expression uses: the value of a name, the function under it, or the address of a method -/
inductive Use where
  | read (n : String)
  | call (n : String)
  | address
  deriving DecidableEq

/-- the names of methods -/
def methodNames : List String :=
  textMethods ++ intMethods ++ floatMethods ++ listMethods ++ dictMethods ++ mappingMethods ++
    ["conjugate", "count", "index", "isdisjoint"]

/-- what an attribute of a name uses: an address if it may be a method -/
def usesOfPart (part : String) : List Use :=
  if part ∈ methodNames then [.address] else []

mutual

/-- what may be used in an expression -/
def Expr.uses : Expr → List Use
  | .name n => [.read n]
  | .unary _ e => e.uses
  | .member e part => e.uses ++ usesOfPart part
  | .binary _ a b | .subscript a b => a.uses ++ b.uses
  | .junction _ es | .joined es => usesOfAll es
  | .compare first links => first.uses ++ usesOfLinks links
  | .choose test yes no => test.uses ++ yes.uses ++ no.uses
  | .call _ (.name n) args named => .call n :: (usesOfAll args ++ usesOfNamed named)
  | .call _ f args named => f.uses ++ usesOfAll args ++ usesOfNamed named
  | .slice low high step => usesOfOption low ++ usesOfOption high ++ usesOfOption step
  | .formatted e spec => e.uses ++ usesOfOption spec
  | _ => []

/-- what may be used in a row of expressions -/
def usesOfAll : List Expr → List Use
  | [] => []
  | e :: es => e.uses ++ usesOfAll es

/-- what may be used in a chain of comparisons -/
def usesOfLinks : List (CompareOp × Expr) → List Use
  | [] => []
  | (_, e) :: links => e.uses ++ usesOfLinks links

/-- what may be used in named arguments -/
def usesOfNamed : List (Option String × Expr) → List Use
  | [] => []
  | (_, e) :: es => e.uses ++ usesOfNamed es

/-- what may be used in an expression that may be left out -/
def usesOfOption : Option Expr → List Use
  | none => []
  | some e => e.uses

end

/-- what is used is the same in both -/
def Env.Agree (env env' : Env) : Use → Prop
  | .read n => env'.name n = env.name n
  | .call n => env'.function? n = env.function? n
  | .address => env'.address = env.address

/-- nothing but a method tells where it stands -/
theorem attribute?_address {part : String} (h : part ∉ methodNames) (a a' : String) (d : Datum) :
    attribute? a' d part = attribute? a d part := by
  unfold methodNames at h
  simp only [List.mem_append, List.mem_cons, List.not_mem_nil, or_false, not_or] at h
  obtain ⟨⟨⟨⟨⟨⟨text, int⟩, float⟩, list⟩, dict⟩, mapping⟩, conjugate, count, index, isdisjoint⟩ := h
  unfold attribute?
  simp only [List.contains_eq_mem, text, int, float, list, dict, mapping, conjugate, count, index, isdisjoint,
    List.mem_cons, List.not_mem_nil, or_false, decide_false, Bool.false_eq_true, if_false]

variable {env env' : Env}

theorem attributeOf_uses {part : String} (h : ∀ u ∈ usesOfPart part, env.Agree env' u) (d : Datum) :
    attributeOf env'.address d part = attributeOf env.address d part := by
  unfold usesOfPart at h
  unfold attributeOf
  by_cases hp : part ∈ methodNames
  · rw [if_pos hp] at h
    have same : env'.address = env.address := h .address (List.mem_singleton_self _)
    rw [same]
  · rw [attribute?_address hp env.address env'.address]

mutual

theorem eval_uses (e : Expr) (h : ∀ u ∈ e.uses, env.Agree env' u) : eval env' e = eval env e := by
  match e with
  | .const _ | .tuple _ | .list _ | .starred _ | .other _ => simp only [eval]
  | .name n =>
    have same : env'.name n = env.name n := h (.read n) (List.mem_singleton_self _)
    simp only [eval, same]
  | .unary op e => simp only [eval, eval_uses e h]
  | .member e part =>
    simp only [Expr.uses, List.forall_mem_append] at h
    simp only [eval, eval_uses e h.1, attributeOf_uses h.2]
  | .binary op a b =>
    simp only [Expr.uses, List.forall_mem_append] at h
    simp only [eval, eval_uses a h.1, eval_uses b h.2]
  | .subscript a b =>
    simp only [Expr.uses, List.forall_mem_append] at h
    simp only [eval, eval_uses a h.1, eval_uses b h.2]
  | .junction all es => simp only [eval, evalJunction_uses all _ es h]
  | .joined es => simp only [eval, evalParts_uses 0 es h]
  | .compare first links =>
    simp only [Expr.uses, List.forall_mem_append] at h
    simp only [eval, eval_uses first h.1, fun left => evalLinks_uses first left (.ofBool true) links h.2]
  | .choose test yes no =>
    simp only [Expr.uses, List.forall_mem_append] at h
    simp only [eval, eval_uses test h.1.1, eval_uses yes h.1.2, eval_uses no h.2]
  | .slice low high step =>
    simp only [Expr.uses, List.forall_mem_append] at h
    simp only [eval, evalOption_uses low h.1.1, evalOption_uses high h.1.2, evalOption_uses step h.2]
  | .formatted e none =>
    simp only [Expr.uses, List.forall_mem_append] at h
    simp only [eval, eval_uses e h.1]
  | .formatted e (some spec) =>
    simp only [Expr.uses, usesOfOption, List.forall_mem_append] at h
    simp only [eval, eval_uses e h.1, eval_uses spec h.2]
  | .call site f args named =>
    cases f with
    | name n =>
      simp only [Expr.uses, List.forall_mem_cons, List.forall_mem_append] at h
      have same : env'.function? n = env.function? n := h.1
      simp only [eval, same, evalList_uses args h.2.1, evalNamed_uses named h.2.2]
    | member e part =>
      simp only [Expr.uses, List.forall_mem_append] at h
      obtain ⟨⟨⟨owner, asked⟩, given⟩, names⟩ := h
      simp only [eval, eval_uses e owner, attributeOf_uses asked, evalList_uses args given, evalNamed_uses named names]
    | _ => simp only [eval]

theorem evalJunction_uses (all : Bool) (last : Datum) (es : List Expr) (h : ∀ u ∈ usesOfAll es, env.Agree env' u) :
    evalJunction env' all last es = evalJunction env all last es := by
  match es with
  | [] => simp only [evalJunction]
  | e :: es =>
    simp only [usesOfAll, List.forall_mem_append] at h
    simp only [evalJunction, eval_uses e h.1, fun last => evalJunction_uses all last es h.2]

theorem evalLinks_uses (place : Expr) (left result : Datum) (links : List (CompareOp × Expr))
    (h : ∀ u ∈ usesOfLinks links, env.Agree env' u) :
    evalLinks env' place left result links = evalLinks env place left result links := by
  match links with
  | [] => simp only [evalLinks]
  | (op, e) :: links =>
    simp only [usesOfLinks, List.forall_mem_append] at h
    simp only [evalLinks, eval_uses e h.1, fun left result => evalLinks_uses e left result links h.2]

theorem evalList_uses (es : List Expr) (h : ∀ u ∈ usesOfAll es, env.Agree env' u) :
    evalList env' es = evalList env es := by
  match es with
  | [] => simp only [evalList]
  | e :: es =>
    simp only [usesOfAll, List.forall_mem_append] at h
    simp only [evalList, eval_uses e h.1, evalList_uses es h.2]

theorem evalNamed_uses (es : List (Option String × Expr)) (h : ∀ u ∈ usesOfNamed es, env.Agree env' u) :
    evalNamed env' es = evalNamed env es := by
  match es with
  | [] => simp only [evalNamed]
  | (k, e) :: es =>
    simp only [usesOfNamed, List.forall_mem_append] at h
    simp only [evalNamed, eval_uses e h.1, evalNamed_uses es h.2]

theorem evalOption_uses (e : Option Expr) (h : ∀ u ∈ usesOfOption e, env.Agree env' u) :
    evalOption env' e = evalOption env e := by
  match e with
  | none => simp only [evalOption]
  | some e => simp only [evalOption, eval_uses e h]

theorem evalParts_uses (length : Nat) (es : List Expr) (h : ∀ u ∈ usesOfAll es, env.Agree env' u) :
    evalParts env' length es = evalParts env length es := by
  match es with
  | [] => simp only [evalParts]
  | e :: es =>
    simp only [usesOfAll, List.forall_mem_append] at h
    simp only [evalParts, eval_uses e h.1, fun length => evalParts_uses length es h.2]

end

end BadgeEngine.Condition

namespace BadgeEngine

open BadgeEngine.Condition

/-! ## Conditions -/

def usesOf (condition : String) : List Use :=
  match readCondition condition with
  | .ok (.value e) => e.uses
  | _ => []

/-- the names whose values a condition may read -/
def conditionNames (condition : String) : List String :=
  (usesOf condition).filterMap fun | .read n => some n | _ => none

/-- the names of the functions that a condition may call -/
def conditionCalls (condition : String) : List String :=
  (usesOf condition).filterMap fun | .call n => some n | _ => none

theorem evalCondition_uses {env env' : Env} {condition : String} (h : ∀ u ∈ usesOf condition, env.Agree env' u) :
    evalCondition env' condition = evalCondition env condition := by
  unfold usesOf at h
  unfold evalCondition
  split at h
  case h_1 e he =>
    rw [he]
    exact eval_uses e h
  case h_2 none =>
    split
    case h_3 e he => exact absurd he (none e)
    all_goals rfl

/-- a condition that asks for no method comes to the same wherever things stand -/
theorem evalCondition_address {condition : String} (h : .address ∉ usesOf condition) (a a' : String)
    (name : String → Datum) (function? : String → Option Function) :
    evalCondition ⟨a', name, function?⟩ condition = evalCondition ⟨a, name, function?⟩ condition := by
  apply evalCondition_uses
  rintro (n | n | _) hu
  · rfl
  · rfl
  · exact absurd hu h

/-- the library that engines run with looks up what a condition uses, and nothing else -/
theorem expressions_lawful : expressions.Lawful conditionNames conditionCalls where
  names a fs condition t t' h := by
    have same : evalCondition ⟨a, t'.get, (fs.lookup ·)⟩ condition =
        evalCondition ⟨a, t.get, (fs.lookup ·)⟩ condition := by
      apply evalCondition_uses
      rintro (n | n | _) hu
      · exact h n (List.mem_filterMap.2 ⟨_, hu, rfl⟩)
      · rfl
      · rfl
    exact congrArg (Except.mapError (condition, ·)) same
  functions a t condition fs fs' h := by
    have same : evalCondition ⟨a, t.get, (fs'.lookup ·)⟩ condition =
        evalCondition ⟨a, t.get, (fs.lookup ·)⟩ condition := by
      apply evalCondition_uses
      rintro (n | n | _) hu
      · rfl
      · exact h n (List.mem_filterMap.2 ⟨_, hu, rfl⟩)
      · rfl
    exact congrArg (Except.mapError (condition, ·)) same
  common d d' := by
    refine .cons ⟨rfl, .inr ⟨rfl, rfl, rfl⟩⟩ (.cons ⟨rfl, .inr ⟨rfl, rfl, rfl⟩⟩ ?_)
    exact .cons ⟨rfl, .inl rfl⟩ (.cons ⟨rfl, .inl rfl⟩ (.cons ⟨rfl, .inl rfl⟩ .nil))
  asking _ := ⟨rfl, rfl⟩

end BadgeEngine
