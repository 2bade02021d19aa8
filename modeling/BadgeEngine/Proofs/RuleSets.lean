/-
Rule sets as they are read and written. A definition is accepted exactly when it describes a rule
(`Rule.ofValue_ok_iff`), and what is written of a rule describes it again (`Rule.ofValue_toValue`). Definitions make a
rule set exactly when each is accepted and no id comes twice; otherwise the first one that is rejected, or repeats an
id, is to blame (`rule_sets_exact`).
-/
import BadgeEngine.Proofs.History
import BadgeEngine.Proofs.RoundTrip

namespace BadgeEngine

open BadgeEngine.Text

variable {v : Value} {vs : List Value} {es : List (Value × Value)} {r : Rule} {rs : List Rule} {seen : List String}
  {e : Problem}

/-! ## Equality as written -/

namespace Value

variable {eq : Scalar → Scalar → Bool}

mutual

theorem sameBy_self (h : ∀ x, eq x x = true) : ∀ v : Value, v.sameBy eq v = true
  | .null => by rw [sameBy]
  | .scalar x => by rw [sameBy, h x]
  | .list xs => by rw [sameBy, itemsSame_self h xs]
  | .tuple xs => by rw [sameBy, itemsSame_self h xs]
  | .set xs => by simp [sameBy, itemsIn_of_subset h xs xs (List.Subset.refl xs)]
  | .dict es => by simp [sameBy, entriesIn_of_subset h es es (List.Subset.refl es)]
  | .date d => by simp [sameBy]
  | .moment r => by simp [sameBy]
  | .bytes bs => by simp [sameBy]

theorem itemsSame_self (h : ∀ x, eq x x = true) : ∀ xs : List Value, itemsSame eq xs xs = true
  | [] => by rw [itemsSame]
  | x :: xs => by rw [itemsSame, sameBy_self h x, itemsSame_self h xs]; rfl

theorem itemsIn_of_subset (h : ∀ x, eq x x = true) : ∀ xs ys : List Value, xs ⊆ ys → itemsIn eq xs ys = true
  | [], _, _ => by rw [itemsIn]
  | x :: xs, ys, hs => by
    obtain ⟨hx, hxs⟩ := List.cons_subset.1 hs
    rw [itemsIn, itemsIn_of_subset h xs ys hxs, Bool.and_true]
    exact List.any_eq_true.2 ⟨x, hx, sameBy_self h x⟩

theorem entriesIn_of_subset (h : ∀ x, eq x x = true) :
    ∀ es fs : List (Value × Value), es ⊆ fs → entriesIn eq es fs = true
  | [], _, _ => by rw [entriesIn]
  | (k, v) :: es, fs, hs => by
    obtain ⟨he, hes⟩ := List.cons_subset.1 hs
    rw [entriesIn, entriesIn_of_subset h es fs hes, Bool.and_true]
    exact List.any_eq_true.2 ⟨(k, v), he, by rw [sameBy_self h k, sameBy_self h v]; rfl⟩

end

theorem identical_self (v : Value) : v.identical v = true :=
  sameBy_self (fun x => decide_eq_true (Eq.refl x)) v

end Value

/-! ## Definitions -/

namespace Rule

/-- a definition describes a rule: it has the id and the condition, neither empty, and the period, the limit and the
flag, or leaves out what the rule has by itself. The period goes by either of two names, in any letter case. -/
structure Describes (es : List (Value × Value)) (r : Rule) : Prop where
  id : Value.lookup "id" es = some (.ofText r.id) ∧ r.id ≠ ""
  condition : Value.lookup "condition" es = some (.ofText r.condition) ∧ allBlank r.condition = false
  period : match (Value.lookup "updatePeriod" es).or (Value.lookup "update_period" es) with
    | none => r.period = .global
    | some v => v.text?.bind Period.ofAnyCase? = some r.period
  max : (Value.lookup "max" es = none ∨ Value.lookup "max" es = some .null) ∧ r.max = none ∨
    ∃ n : Int, Value.lookup "max" es = some (.ofInt n) ∧ 1 ≤ n ∧ r.max = some n
  active : Value.lookup "active" es = none ∧ r.active = true ∨ Value.lookup "active" es = some (.ofBool r.active)
  description : r.description = (Value.lookup "description" es).getD .null

theorem entriesOf_ok_iff : entriesOf v = .ok es ↔ v = .dict es := by
  cases v with
  | dict fs => exact ⟨fun h => congrArg _ (Except.ok.inj h), fun h => congrArg _ (Value.dict.inj h)⟩
  | _ => exact ⟨nofun, nofun⟩

/-- what throws, after its message was made or could not be, gives no result -/
theorem throw_ne_ok {α β : Type} {x : Except Problem β} {f : β → Problem} {a : α} :
    (do throw (f (← x)) : Except Problem α) ≠ .ok a := by
  intro h
  obtain ⟨_, _, h⟩ := bind_ok h
  cases h

theorem readId_ok_iff {id : String} : readId es = .ok id ↔ Value.lookup "id" es = some (.ofText id) ∧ id ≠ "" := by
  unfold readId
  split
  case h_1 s hs =>
    rw [hs]
    split
    case isTrue h =>
      have empty : s = "" := String.isEmpty_iff.1 h
      exact ⟨fun hx => absurd hx throw_ne_ok, fun ⟨ht, hn⟩ => by cases ht; exact absurd empty hn⟩
    case isFalse h =>
      have named : s ≠ "" := fun hs => h (String.isEmpty_iff.2 hs)
      exact ⟨fun hx => by cases hx; exact ⟨rfl, named⟩, fun ⟨ht, _⟩ => by cases ht; rfl⟩
  case h_2 other =>
    exact ⟨fun hx => absurd hx throw_ne_ok, fun h => absurd h.1 (other id)⟩

theorem readCondition_ok_iff {id c : String} :
    readCondition id es = .ok c ↔ Value.lookup "condition" es = some (.ofText c) ∧ allBlank c = false := by
  unfold readCondition
  split
  case h_1 s hs =>
    rw [hs]
    split
    case isTrue h => exact ⟨nofun, fun ⟨ht, hb⟩ => by cases ht; rw [h] at hb; cases hb⟩
    case isFalse h => exact ⟨fun hx => by cases hx; exact ⟨rfl, Bool.eq_false_iff.2 h⟩, fun ⟨ht, _⟩ => by cases ht; rfl⟩
  case h_2 other => exact ⟨nofun, fun h => absurd h.1 (other c)⟩

theorem readPeriod_ok_iff {id : String} {p : Period} : readPeriod id es = .ok p ↔
    match (Value.lookup "updatePeriod" es).or (Value.lookup "update_period" es) with
    | none => p = .global
    | some v => v.text?.bind Period.ofAnyCase? = some p := by
  unfold readPeriod
  rw [Option.orElse_eq_or]
  cases (Value.lookup "updatePeriod" es).or (Value.lookup "update_period" es) with
  | none => exact ⟨fun h => (Except.ok.inj h).symm, fun h => congrArg _ h.symm⟩
  | some v =>
    dsimp only
    cases v.text?.bind Period.ofAnyCase? with
    | none => exact ⟨fun hx => absurd hx throw_ne_ok, nofun⟩
    | some q => exact ⟨fun h => congrArg _ (Except.ok.inj h), fun h => congrArg _ (Option.some.inj h)⟩

theorem readMax_ok_iff {id : String} {max : Option Int} : readMax id es = .ok max ↔
    (Value.lookup "max" es = none ∨ Value.lookup "max" es = some .null) ∧ max = none ∨
      ∃ n : Int, Value.lookup "max" es = some (.ofInt n) ∧ 1 ≤ n ∧ max = some n := by
  unfold readMax
  split
  case h_1 hm => rw [hm]; simp [eq_comm]
  case h_2 hm => rw [hm]; simp [eq_comm]
  case h_3 v hv hm =>
    rw [hm]
    split
    case h_1 n =>
      split
      case isTrue h => simp [h, eq_comm]
      case isFalse h => simp [h, throw_ne_ok]
    case h_2 _ other =>
      have no_number : ∀ n : Int, v ≠ .ofInt n := other
      have no_null : v ≠ .null := hv
      simp [throw_ne_ok, no_number, no_null]

theorem readActive_ok_iff {id : String} {b : Bool} : readActive id es = .ok b ↔
    Value.lookup "active" es = none ∧ b = true ∨ Value.lookup "active" es = some (.ofBool b) := by
  unfold readActive
  split
  case h_1 ha => rw [ha]; simp [eq_comm]
  case h_2 c ha => rw [ha]; simp [eq_comm]
  case h_3 v other ha =>
    have no_flag : ∀ c : Bool, v ≠ .ofBool c := other
    rw [ha]
    simp [throw_ne_ok, no_flag]

/-- a definition is accepted exactly when it describes a rule, and that rule is read -/
theorem ofValue_ok_iff : ofValue v = .ok r ↔ ∃ es, v = .dict es ∧ r.Describes es := by
  unfold ofValue
  constructor
  · intro h
    obtain ⟨es, hes, h⟩ := bind_ok h
    obtain ⟨id, hid, h⟩ := bind_ok h
    obtain ⟨condition, hcondition, h⟩ := bind_ok h
    obtain ⟨period, hperiod, h⟩ := bind_ok h
    obtain ⟨max, hmax, h⟩ := bind_ok h
    obtain ⟨active, hactive, h⟩ := bind_ok h
    cases h
    exact ⟨es, entriesOf_ok_iff.1 hes, readId_ok_iff.1 hid, readCondition_ok_iff.1 hcondition,
      readPeriod_ok_iff.1 hperiod, readMax_ok_iff.1 hmax, readActive_ok_iff.1 hactive, rfl⟩
  · rintro ⟨es, rfl, h⟩
    have hid := readId_ok_iff.2 h.id
    have hcondition : readCondition r.id es = .ok r.condition := readCondition_ok_iff.2 h.condition
    have hperiod : readPeriod r.id es = .ok r.period := readPeriod_ok_iff.2 h.period
    have hmax : readMax r.id es = .ok r.max := readMax_ok_iff.2 h.max
    have hactive : readActive r.id es = .ok r.active := readActive_ok_iff.2 h.active
    simp only [entriesOf, hid, hcondition, hperiod, hmax, hactive, ← h.description, bind, Except.bind]
    rfl

/-! ## Definitions written -/

/-- what is written of a rule describes it -/
theorem describes_toValue (hid : r.id ≠ "") (hcondition : allBlank r.condition = false)
    (hmax : ∀ m, r.max = some m → 1 ≤ m) : ∃ es, r.toValue = .dict es ∧ r.Describes es := by
  refine ⟨_, rfl, ⟨rfl, hid⟩, ⟨rfl, hcondition⟩, r.period.ofAnyCase?_name, ?_, .inr rfl, ?_⟩
  -- the description and the limit are written only if there is one
  all_goals obtain ⟨id, condition, period, active, max, description⟩ := r
  · cases max with
    | none => cases description <;> exact .inl ⟨.inl rfl, rfl⟩
    | some n =>
      cases description <;> exact .inr ⟨n, rfl, hmax n rfl, rfl⟩
  · cases description <;> cases max <;> rfl

/-- **Rules are read back.** The definition written of a rule that was read is accepted, and gives the rule again. -/
theorem ofValue_toValue (h : ofValue v = .ok r) : ofValue r.toValue = .ok r := by
  obtain ⟨es, -, hr⟩ := ofValue_ok_iff.1 h
  exact ofValue_ok_iff.2 (describes_toValue hr.id.2 hr.condition.2 (ofValue_max_pos h))

/-- a definition that cannot join rules with some ids, and the problem with it: it is rejected, or it repeats an id -/
def CannotJoin (ids : List String) (v : Value) (e : Problem) : Prop :=
  ofValue v = .error e ∨ ∃ r, ofValue v = .ok r ∧ r.id ∈ ids ∧ e = .rule (.duplicate r.id)

theorem CannotJoin.mono {ids ids' : List String} (h : CannotJoin ids v e) (hs : ids ⊆ ids') : CannotJoin ids' v e :=
  h.imp_right fun ⟨r, hr, hid, he⟩ => ⟨r, hr, hs hid, he⟩

end Rule

/-! ## Rule sets -/

/-- reading goes on after a definition that is accepted and has a new id -/
theorem readRules_cons (hr : Rule.ofValue v = .ok r) (hn : r.id ∉ seen) :
    readRules seen (v :: vs) = (do return r :: (← readRules (r.id :: seen) vs)) := by
  rw [readRules, hr]
  show (if seen.contains r.id then _ else _) = _
  rw [if_neg (by simpa using hn)]

/-- reading ends with a definition that cannot join -/
theorem readRules_stop (h : Rule.CannotJoin seen v e) (later : List Value) :
    readRules seen (v :: later) = .error e := by
  rcases h with h | ⟨r, hr, hid, rfl⟩
  · rw [readRules, h]
    rfl
  · rw [readRules, hr]
    show (if seen.contains r.id then _ else _) = _
    rw [if_pos (by simpa using hid)]
    rfl

theorem readRules_accepted (h : readRules seen vs = .ok rs) : vs.map Rule.ofValue = rs.map .ok := by
  induction vs generalizing seen rs with
  | nil => cases h; rfl
  | cons v vs ih =>
    unfold readRules at h
    obtain ⟨r, hr, h⟩ := bind_ok h
    split at h
    · cases h
    · obtain ⟨rest, hrest, h⟩ := bind_ok h
      cases h
      rw [List.map_cons, List.map_cons, hr, ih hrest]

theorem readRules_of_accepted (accepted : vs.map Rule.ofValue = rs.map .ok) (distinct : DistinctRules rs)
    (new : ∀ r ∈ rs, r.id ∉ seen) : readRules seen vs = .ok rs := by
  induction rs generalizing vs seen with
  | nil =>
    cases List.map_eq_nil_iff.1 accepted
    rfl
  | cons r rs ih =>
    obtain ⟨v, later, rfl, hr, hlater⟩ := List.map_eq_cons_iff.1 accepted
    obtain ⟨hnot, hdistinct⟩ := List.nodup_cons.1 distinct
    have rest : readRules (r.id :: seen) later = .ok rs := by
      refine ih hlater hdistinct fun r' hr' hs => ?_
      rcases List.mem_cons.1 hs with hid | hs
      · exact hnot (List.mem_map.2 ⟨r', hr', hid⟩)
      · exact new r' (List.mem_cons_of_mem _ hr') hs
    rw [readRules_cons hr (new r List.mem_cons_self), rest]
    rfl

/-- rules are read exactly when every definition is accepted and every id is new -/
theorem readRules_ok_iff : readRules seen vs = .ok rs ↔
    vs.map Rule.ofValue = rs.map .ok ∧ DistinctRules rs ∧ ∀ r ∈ rs, r.id ∉ seen :=
  ⟨fun h => ⟨readRules_accepted h, (readRules_checked h).1, fun r hr => ((readRules_checked h).2 r hr).1⟩,
    fun ⟨accepted, distinct, new⟩ => readRules_of_accepted accepted distinct new⟩

/-- a definition joins or it does not -/
theorem joins_or_not (seen : List String) (v : Value) :
    (∃ r, Rule.ofValue v = .ok r ∧ r.id ∉ seen) ∨ ∃ e, Rule.CannotJoin seen v e := by
  cases hv : Rule.ofValue v with
  | error e => exact .inr ⟨e, .inl hv⟩
  | ok r =>
    by_cases h : r.id ∈ seen
    · exact .inr ⟨_, .inr ⟨r, hv, h, rfl⟩⟩
    · exact .inl ⟨r, rfl, h⟩

/-- reading fails exactly at the first definition that cannot join the rules before it -/
theorem readRules_error_iff : readRules seen vs = .error e ↔
    ∃ before v later rs, vs = before ++ v :: later ∧ readRules seen before = .ok rs ∧
      Rule.CannotJoin (rs.map (·.id) ++ seen) v e := by
  induction vs generalizing seen with
  | nil => exact ⟨nofun, fun ⟨before, v, later, _, h, _⟩ => by cases before <;> cases h⟩
  | cons v vs ih =>
    rcases joins_or_not seen v with ⟨r, hr, hn⟩ | ⟨e', he'⟩
    · rw [readRules_cons hr hn, map_error_iff, ih]
      constructor
      · rintro ⟨before, u, later, rs, rfl, hrs, hu⟩
        refine ⟨v :: before, u, later, r :: rs, rfl, ?_, hu.mono ?_⟩
        · rw [readRules_cons hr hn, hrs]
          rfl
        · exact fun i hi => by simpa [or_left_comm] using hi
      · rintro ⟨before, u, later, rs, h, hrs, hu⟩
        cases before with
        | nil =>
          cases h
          cases hrs
          rcases hu with hu | ⟨r', hr', hid, -⟩
          · rw [hr] at hu; cases hu
          · rw [hr] at hr'; cases hr'; exact absurd hid hn
        | cons v' before =>
          cases h
          rw [readRules_cons hr hn] at hrs
          obtain ⟨rest, hrest, h⟩ := bind_ok hrs
          cases h
          exact ⟨before, u, later, rest, rfl, hrest, hu.mono fun i hi => by simpa [or_left_comm] using hi⟩
    · rw [readRules_stop he']
      constructor
      · intro h
        cases h
        exact ⟨[], v, vs, [], rfl, rfl, he'⟩
      · rintro ⟨before, u, later, rs, h, hrs, hu⟩
        cases before with
        | nil =>
          cases h
          cases hrs
          exact (readRules_stop he' vs).symm.trans (readRules_stop hu vs)
        | cons v' before =>
          cases h
          rw [readRules_stop he'] at hrs
          cases hrs

/-- **Rule sets.** A definition is accepted exactly when it describes a rule. Definitions are read as rules, in their
order, exactly when each is accepted and no id comes twice; otherwise the problem is that of the first one that is
rejected or repeats an id. What is written of a rule that was read is read as that rule, and so is a whole set. -/
theorem rule_sets_exact (vs : List Value) :
    (∀ v r, Rule.ofValue v = .ok r ↔ ∃ es, v = .dict es ∧ r.Describes es) ∧
    (∀ rs, rulesOfValue (.list vs) = .ok rs ↔ vs.map Rule.ofValue = rs.map .ok ∧ (rs.map (·.id)).Nodup) ∧
    (∀ e, rulesOfValue (.list vs) = .error e ↔
      ∃ before v later, ∃ rs : List Rule, vs = before ++ v :: later ∧
        (before.map Rule.ofValue = rs.map .ok ∧ (rs.map (·.id)).Nodup) ∧
        (Rule.ofValue v = .error e ∨
          ∃ r, Rule.ofValue v = .ok r ∧ r.id ∈ rs.map (·.id) ∧ e = .rule (.duplicate r.id))) ∧
    (∀ v r, Rule.ofValue v = .ok r → Rule.ofValue r.toValue = .ok r ∧ r.readsBack = true) ∧
    ∀ rs, rulesOfValue (.list vs) = .ok rs → rulesOfValue (.list (rs.map Rule.toValue)) = .ok rs := by
  have read : ∀ {vs : List Value} {rs : List Rule},
      readRules [] vs = .ok rs ↔ vs.map Rule.ofValue = rs.map .ok ∧ (rs.map (·.id)).Nodup := by
    intro vs rs
    rw [readRules_ok_iff, DistinctRules]
    exact and_congr_right fun _ => and_iff_left fun _ _ => List.not_mem_nil
  refine ⟨fun v r => Rule.ofValue_ok_iff, fun rs => read, fun e => ?_, fun v r h => ⟨Rule.ofValue_toValue h, ?_⟩, ?_⟩
  · show readRules [] vs = .error e ↔ _
    simp only [readRules_error_iff, read, List.append_nil, Rule.CannotJoin]
  · rw [Rule.readsBack, Rule.ofValue_toValue h]
    exact Value.identical_self _
  · intro rs h
    obtain ⟨accepted, distinct⟩ := read.1 h
    refine read.2 ⟨?_, distinct⟩
    rw [List.map_map]
    refine List.map_congr_left fun r hr => ?_
    have hm : Except.ok r ∈ vs.map Rule.ofValue := accepted ▸ List.mem_map_of_mem hr
    obtain ⟨v, -, hv⟩ := List.mem_map.1 hm
    exact Rule.ofValue_toValue hv

/-- a definition that says everything, its period twice -/
def fullDefinition : List (Value × Value) :=
  [(.ofText "id", .ofText "a"), (.ofText "condition", .ofText "x > 1"), (.ofText "update_period", .ofInt 3),
    (.ofText "updatePeriod", .ofText "dAy"), (.ofText "active", .ofBool false), (.ofText "max", .ofInt 2),
    (.ofText "description", .list [.null, .ofInt 1])]

/-- a definition that says little -/
def shortDefinition : List (Value × Value) :=
  [(.ofText "id", .ofText "b"), (.ofText "update_period", .ofText "game"), (.ofText "condition", .ofText "x"),
    (.ofText "max", .null)]

/-- the rules that the two definitions describe -/
def describedRules : List Rule :=
  [{ id := "a", condition := "x > 1", period := .calendar .day, active := false, max := some 2,
     description := .list [.null, .ofInt 1] },
    { id := "b", condition := "x", period := .counter .game }]

theorem rule_sets_exact_described :
    rulesOfValue (.list [.dict fullDefinition, .dict shortDefinition]) = .ok describedRules ∧
    rulesOfValue (.list (describedRules.map Rule.toValue)) = .ok describedRules ∧
    rulesOfValue (.list [.dict fullDefinition, .dict shortDefinition, .dict shortDefinition, .null]) =
      .error (.rule (.duplicate "b")) := by
  obtain ⟨accepted, read, -, -, back⟩ := rule_sets_exact [.dict fullDefinition, .dict shortDefinition]
  have day : Period.ofAnyCase? "dAy" = some (.calendar .day) := by decide +kernel
  have game : Period.ofAnyCase? "game" = some (.counter .game) := by decide +kernel
  have full : Rule.ofValue (.dict fullDefinition) = .ok describedRules[0] :=
    (accepted _ _).2 ⟨_, rfl, ⟨rfl, by decide⟩, ⟨rfl, by decide +kernel⟩, day,
      .inr ⟨2, rfl, by decide, rfl⟩, .inr rfl, rfl⟩
  have short : Rule.ofValue (.dict shortDefinition) = .ok describedRules[1] :=
    (accepted _ _).2 ⟨_, rfl, ⟨rfl, by decide⟩, ⟨rfl, by decide +kernel⟩, game,
      .inl ⟨.inr rfl, rfl⟩, .inl ⟨rfl, rfl⟩, rfl⟩
  have both : [Value.dict fullDefinition, .dict shortDefinition].map Rule.ofValue = describedRules.map .ok ∧
      (describedRules.map (·.id)).Nodup := by
    refine ⟨?_, by decide⟩
    rw [List.map_cons, List.map_cons, full, short]
    rfl
  have all := (read describedRules).2 both
  have repeated := (rule_sets_exact [.dict fullDefinition, .dict shortDefinition, .dict shortDefinition, .null]).2.2.1
  exact ⟨all, back _ all, (repeated _).2
    ⟨[.dict fullDefinition, .dict shortDefinition], .dict shortDefinition, [.null], describedRules, rfl, both,
      .inr ⟨_, short, by decide, rfl⟩⟩⟩

end BadgeEngine
