/-
What the operations on windows do to the window of each period: a refresh renews the calendar windows whose key
changed and leaves the others (`refresh_get`), a start counts the window of its axis up (`advance_ok`). A window
that changes begins at the instant of the change or, if that was later, when it last began.
-/
import Mathlib.Data.List.Nodup
import BadgeEngine.Tracker

namespace BadgeEngine

open BadgeEngine.Time

/-! ## Instants -/

namespace Time.Moment

theorem lt_iff {a b : Moment} : a < b ↔ a.micros < b.micros := Iff.rfl

theorem le_iff {a b : Moment} : a ≤ b ↔ a.micros ≤ b.micros := Iff.rfl

theorem not_lt {a b : Moment} : ¬ a < b ↔ b ≤ a := Nat.not_lt

theorem not_le {a b : Moment} : ¬ a ≤ b ↔ b < a := Nat.not_le

/-- the later of two moments is one of them -/
theorem later_eq (a b : Moment) : a.later b = a ∨ a.later b = b := by
  unfold later
  split
  · exact .inr rfl
  · exact .inl rfl

theorem later_micros (a b : Moment) : (a.later b).micros = max a.micros b.micros := by
  unfold later
  split
  case isTrue h => exact (Nat.max_eq_right (Nat.le_of_lt h)).symm
  case isFalse h => exact (Nat.max_eq_left (Nat.not_lt.1 h)).symm

theorem le_later_left (a b : Moment) : a ≤ a.later b := by
  rw [le_iff, later_micros]
  exact Nat.le_max_left ..

theorem le_later_right (a b : Moment) : b ≤ a.later b := by
  rw [le_iff, later_micros]
  exact Nat.le_max_right ..

theorem later_lt {a b c : Moment} : a.later b < c ↔ a < c ∧ b < c := by
  simp only [lt_iff, later_micros]
  omega

end Time.Moment

namespace Windows

/-! ## Putting windows in place -/

@[simp] theorem get_set_self (w : Windows) (p : Period) (x : Window) : (w.set p x).get p = x := by
  rcases p with _ | (_ | _ | _ | _ | _) | (_ | _) <;> rfl

theorem get_set_of_ne {p q : Period} (h : q ≠ p) (w : Windows) (x : Window) : (w.set p x).get q = w.get q := by
  rcases p with _ | (_ | _ | _ | _ | _) | (_ | _) <;>
    rcases q with _ | (_ | _ | _ | _ | _) | (_ | _) <;> first | rfl | exact absurd rfl h

/-- windows are known by the window of each period -/
theorem ext_get {w v : Windows} (h : ∀ p, w.get p = v.get p) : w = v := by
  have hg := h .global
  have hc := fun c => h (.calendar c)
  have ha := fun a => h (.counter a)
  cases w
  cases v
  congr
  · exact hc .year
  · exact hc .month
  · exact hc .week
  · exact hc .day
  · exact hc .hour
  · exact ha .session
  · exact ha .game

theorem initial_get (p : Period) : initial.get p = initialWindow p := by
  rcases p with _ | (_ | _ | _ | _ | _) | (_ | _) <;> rfl

/-! ## Refreshes -/

variable {now : Instant} {t : Moment}

theorem renew_get (w : Windows) (c : CalendarPeriod) (p : Period) :
    (w.renew now t c).get p =
      if p = .calendar c ∧ w.isStale t c then ⟨c.key t, now.later (w.get p).since⟩ else w.get p := by
  unfold renew
  split
  case isTrue hs =>
    by_cases hp : p = .calendar c
    · subst hp
      simp only [get_set_self, hs, and_self, if_true]
    · rw [get_set_of_ne hp, if_neg fun h => hp h.1]
  case isFalse hs => rw [if_neg fun h => hs h.2]

theorem isStale_congr {w v : Windows} {c : CalendarPeriod} (h : w.get (.calendar c) = v.get (.calendar c)) :
    w.isStale t c = v.isStale t c := by
  unfold isStale
  rw [h]

theorem foldl_renew_get (p : Period) (cs : List CalendarPeriod) (hn : cs.Nodup) (w : Windows) :
    (cs.foldl (fun w c => w.renew now t c) w).get p =
      match p with
      | .calendar c => if c ∈ cs ∧ w.isStale t c then ⟨c.key t, now.later (w.get p).since⟩ else w.get p
      | _ => w.get p := by
  induction cs generalizing w with
  | nil => cases p <;> simp
  | cons d cs ih =>
    have hd := List.nodup_cons.1 hn
    rw [List.foldl_cons, ih hd.2]
    cases p with
    | calendar c =>
      by_cases hc : c = d
      · subst hc
        simp only [hd.1, false_and, if_false, renew_get, true_and, List.mem_cons_self]
      · have hw : (w.renew now t d).get (.calendar c) = w.get (.calendar c) := by
          rw [renew_get, if_neg fun h => hc (Period.calendar.inj h.1)]
        simp only [List.mem_cons, hc, false_or, hw, isStale_congr hw]
    | global => exact (renew_get w d _).trans (if_neg nofun)
    | counter a => exact (renew_get w d _).trans (if_neg nofun)

theorem refresh_get (w : Windows) (p : Period) :
    (w.refresh now t).1.get p =
      match p with
      | .calendar c => if w.isStale t c then ⟨c.key t, now.later (w.get p).since⟩ else w.get p
      | _ => w.get p := by
  unfold refresh
  rw [foldl_renew_get p CalendarPeriod.all (by decide) w]
  cases p with
  | calendar c =>
    have hc : c ∈ CalendarPeriod.all := by cases c <;> decide
    simp only [hc, true_and]
  | _ => rfl

/-- a rollover is known by what it tells of each period -/
theorem rollover_get (stale : CalendarPeriod → Bool) (c : CalendarPeriod) :
    (Rollover.mk (stale .year) (stale .month) (stale .week) (stale .day) (stale .hour)).get c = stale c := by
  cases c <;> rfl

/-- what rolls over is what is stale -/
theorem refresh_rolled (w : Windows) (c : CalendarPeriod) : (w.refresh now t).2.get c = w.isStale t c := by
  rw [refresh, rollover_get]

/-! ## Starts -/

attribute [local irreducible] counterKey?

/-- the windows with an axis counted up to a count, when the count can be written -/
def counted (w : Windows) (a : Axis) (now : Instant) (n : Int) : Except Problem (Int × Windows) :=
  match counterKey? n with
  | none => .error .digitLimit
  | some key => .ok (n, w.set (.counter a) ⟨key, now.later (w.get (.counter a)).since⟩)

/-- after a key that is a count comes the count that follows -/
theorem advance_of_count {w : Windows} {a : Axis} {m : Int} (h : readCounter (w.get (.counter a)).key = .ok m) :
    (w.advance a (.ok now)).answer = (w.counted a now (m + 1), []) := by
  unfold advance nextCount counted
  simp only [h, pure_bind]
  cases counterKey? (m + 1) <;> rfl

/-- after any other key comes a count and a warning -/
theorem advance_of_no_count {w : Windows} {a : Axis} (now : Instant) {e : Number.NumeralError}
    (h : readCounter (w.get (.counter a)).key = .error e) :
    ∃ text, (w.advance a (.ok now)).answer = (w.counted a now 1, [text]) := by
  unfold advance nextCount counted
  simp only [h, bind_assoc, pure_bind]
  cases counterKey? 1 <;> exact ⟨_, rfl⟩

/-- where an axis is counted up, the count is not what its key is read as -/
theorem advance_counted {w v : Windows} {a : Axis} {n : Int} {texts : List String}
    (h : (w.advance a (.ok now)).answer = (.ok (n, v), texts)) :
    w.counted a now n = .ok (n, v) ∧ readCounter (w.get (.counter a)).key ≠ .ok n := by
  have count : ∀ k, w.counted a now k = .ok (n, v) → n = k := fun k hk => by
    unfold counted at hk
    split at hk
    case h_1 => cases hk
    case h_2 => exact (Prod.mk.inj (Except.ok.inj hk)).1.symm
  cases hk : readCounter (w.get (.counter a)).key with
  | ok m =>
    have hc := congrArg Prod.fst ((advance_of_count hk).symm.trans h)
    have hn := count _ hc
    refine ⟨hn ▸ hc, fun same => ?_⟩
    have := Except.ok.inj same
    omega
  | error e =>
    obtain ⟨text, ht⟩ := advance_of_no_count now hk
    have hc := congrArg Prod.fst (ht.symm.trans h)
    exact ⟨count _ hc ▸ hc, nofun⟩

/-- counting up an axis changes its window only -/
theorem advance_ok {w v : Windows} {a : Axis} {n : Int} {texts : List String}
    (h : (w.advance a (.ok now)).answer = (.ok (n, v), texts)) :
    ∃ key, counterKey? n = some key ∧ v = w.set (.counter a) ⟨key, now.later (w.get (.counter a)).since⟩ := by
  have hc := (advance_counted h).1
  unfold counted at hc
  split at hc
  case h_1 => cases hc
  case h_2 key hk =>
    cases hc
    exact ⟨key, hk, rfl⟩

/-- where there is no instant, nothing is counted up -/
theorem advance_error (w : Windows) (a : Axis) (e : Problem) : (w.advance a (.error e)).answer.1 = .error e := by
  unfold advance nextCount
  cases hk : readCounter (w.get (.counter a)).key with
  | ok m =>
    simp only [hk, pure_bind]
    rfl
  | error _ =>
    simp only [hk, bind_assoc, pure_bind]
    rfl

end Windows

end BadgeEngine
