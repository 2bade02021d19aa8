/-
Counts kept as keys, and the starts that count them up.

- `key_iff_digits`: the counts that have a key are those of no more digits than the limit, and the key says all of its
  count (`IsKeyOf`): it is read as that count, below zero as above, it is the key of no other, and it has the least
  width.
- `after_countsUp`: whatever else a tracker is asked for in between, the starts of an axis are answered the counts that
  follow its key, one by one. A start at a reading that is no instant fails and counts nothing.
- `starts_counted`: both together.
-/
import BadgeEngine.Proofs.InstantOrder
import BadgeEngine.Proofs.Trackers

namespace BadgeEngine

open BadgeEngine.Number BadgeEngine.Time
open BadgeEngine.CalendarPeriod (newYear yearsEnd)

/-! ## Keys -/

/-- how many decimal digits a count has, its sign left out -/
def digitCount (n : Int) : Nat := (Nat.toDigits 10 n.natAbs).length

variable {m n : Int} {key : String}

theorem fitsNumeral_iff : fitsNumeral n = true ↔ digitCount n ≤ digitLimit := by
  rw [fitsNumeral, decide_eq_true_iff, digitCount, Nat.pow_eq]
  exact (Nat.length_toDigits_le_iff (by decide) (by decide)).symm

/-- what lies between counts within the limit is within the limit -/
theorem fitsNumeral_between {x y z : Int} (hx : fitsNumeral x = true) (hz : fitsNumeral z = true) (hxy : x ≤ y)
    (hyz : y ≤ z) : fitsNumeral y = true := by
  simp only [fitsNumeral, decide_eq_true_iff, Nat.pow_eq] at hx hz ⊢
  generalize 10 ^ digitLimit = limit at hx hz ⊢
  omega

theorem le_padded_length (width n : Nat) : width ≤ (padded width n).toList.length := by
  rw [padded_toList, List.length_append, List.length_replicate]
  omega

/-- the sign counts towards the width -/
theorem le_zeroFilled_length {width : Nat} (hw : 0 < width) (x : Int) : width ≤ (zeroFilled width x).length := by
  rcases Int.lt_or_le x 0 with neg | pos
  · have digits := le_padded_length (width - 1) x.natAbs
    rw [zeroFilled_of_neg neg, List.length_cons]
    omega
  · have digits := le_padded_length width x.natAbs
    rwa [← zeroFilled_natCast, Int.natAbs_of_nonneg pos] at digits

/-- a text that says all of a count: it is written for it and for no other, it is read as that count, and it has the
least width -/
structure IsKeyOf (key : String) (n : Int) : Prop where
  written : counterKey? n = some key
  read : readCounter key = .ok n
  own : ∀ m, counterKey? m = some key → m = n
  wide : counterWidth ≤ key.length

/-- a key is read as its count, so it is the key of no other -/
theorem counterKey_inj (hm : counterKey? m = some key) (hn : counterKey? n = some key) : m = n :=
  Except.ok.inj ((readCounter_key hm).symm.trans (readCounter_key hn))

theorem counterKey_wide (h : counterKey? n = some key) : counterWidth ≤ key.length := by
  unfold counterKey? at h
  split at h
  case isFalse => cases h
  case isTrue =>
    cases h
    rw [← String.length_toList, String.toList_ofList]
    exact le_zeroFilled_length (by decide) n

theorem IsKeyOf.of_written (h : counterKey? n = some key) : IsKeyOf key n :=
  ⟨h, readCounter_key h, fun _ hm => counterKey_inj hm h, counterKey_wide h⟩

/-- the counts that have a key are those of no more digits than the limit -/
theorem key_iff_digits : (∃ key, IsKeyOf key n) ↔ digitCount n ≤ digitLimit := by
  rw [← fitsNumeral_iff]
  constructor
  · rintro ⟨key, h⟩
    by_contra long
    exact nomatch h.written.symm.trans (if_neg long)
  · intro fits
    exact ⟨_, .of_written (if_pos fits)⟩

/-! ## Starts -/

-- from here on the limit is not to be worked out
attribute [local irreducible] counterKey? fitsNumeral

namespace Tracker

def Call.start? (a : Axis) : Call → Option Reading
  | .advance p now => if p = .counter a ∧ now.IsInstant then some now else none
  | _ => none

def startsOf (a : Axis) (calls : List Call) : List Reading := calls.filterMap (·.start? a)

/-- what a tracker answers to the starts of an axis among calls, each answer with its warnings -/
def startAnswers (t : Tracker) (a : Axis) : List Call → List (Except Problem Int × List String)
  | [] => []
  | x :: calls =>
    match x.start? a with
    | some now => (t.advance (.counter a) now).1 :: (t.call x).startAnswers a calls
    | none => (t.call x).startAnswers a calls

/-- the answers that count up from a count, without a warning -/
def countedUp (c : Int) (k : Nat) : List (Except Problem Int × List String) :=
  (List.range k).map fun j => (.ok (c + (j + 1 : Nat)), [])

variable {t : Tracker} {a : Axis} {c : Int} {x : Call} {now : Reading}

theorem startAnswers_cons_none (hx : x.start? a = none) (calls : List Call) :
    t.startAnswers a (x :: calls) = (t.call x).startAnswers a calls := by
  rw [startAnswers, hx]

theorem startAnswers_cons_some (hx : x.start? a = some now) (calls : List Call) :
    t.startAnswers a (x :: calls) = (t.advance (.counter a) now).1 :: (t.call x).startAnswers a calls := by
  rw [startAnswers, hx]

theorem countedUp_succ (c : Int) (k : Nat) : countedUp c (k + 1) = (.ok (c + 1), []) :: countedUp (c + 1) k := by
  have shift : ∀ j : Nat, c + (j + 1 + 1 : Nat) = c + 1 + (j + 1 : Nat) := by
    intro j
    push_cast
    omega
  simp only [countedUp, List.range_succ_eq_map, List.map_cons, List.map_map, Function.comp_def, Nat.succ_eq_add_one,
    shift]
  rfl

theorem start?_eq_some : x.start? a = some now ↔ x = .advance (.counter a) now ∧ now.IsInstant := by
  cases x with
  | advance p r =>
    simp only [Call.start?, Option.ite_none_right_eq_some, Option.some.injEq, Call.advance.injEq]
    constructor
    · rintro ⟨⟨hp, hr⟩, rfl⟩
      exact ⟨⟨hp, rfl⟩, hr⟩
    · rintro ⟨⟨hp, rfl⟩, hr⟩
      exact ⟨⟨hp, hr⟩, rfl⟩
  | ready => simp [Call.start?]
  | window p => simp [Call.start?]
  | refresh r z => simp [Call.start?]

/-- counting up at a reading that is no instant leaves the windows -/
theorem advance_of_no_instant (t : Tracker) (p : Period) (h : ¬ now.IsInstant) :
    (t.advance p now).2.windows = t.windows := by
  cases p with
  | global => rfl
  | calendar _ => rfl
  | counter a =>
    cases hi : instantOf now with
    | ok i => exact absurd (isInstant_of_ok hi) h
    | error e =>
      unfold advance
      dsimp only
      rw [hi]
      have failed := Windows.advance_error t.windows a e
      rcases hw : (t.windows.advance a (.error e)).answer with ⟨_ | _, _⟩
      · rfl
      · rw [hw] at failed
        cases failed

/-- a call that does not start an axis leaves its window -/
theorem call_window_of_no_start (t : Tracker) (h : x.start? a = none) :
    (t.call x).window (.counter a) = t.window (.counter a) := by
  cases x with
  | ready => rfl
  | window p => rfl
  | refresh r z => exact call_frame t rfl
  | advance p r =>
    by_cases hp : p = .counter a
    · have noInstant : ¬ r.IsInstant := by
        intro hr
        cases h.symm.trans (start?_eq_some.2 ⟨congrArg (Call.advance · r) hp, hr⟩)
      exact congrArg (Windows.get · (.counter a)) (advance_of_no_instant t p noInstant)
    · exact call_frame t (decide_eq_false hp)

/-- a start after a count that is not the highest answers the next count, and leaves its key -/
theorem advance_next {i : Instant} (h : readCounter (t.window (.counter a)).key = .ok c) (hi : instantOf now = .ok i)
    (hkey : counterKey? (c + 1) = some key) :
    (t.advance (.counter a) now).1 = (.ok (c + 1), []) ∧
      ((t.call (.advance (.counter a) now)).window (.counter a)).key = key := by
  have counted : (t.windows.advance a (.ok i)).answer = (t.windows.counted a i (c + 1), []) :=
    Windows.advance_of_count h
  unfold Windows.counted at counted
  rw [← hi, hkey] at counted
  have start : t.advance (.counter a) now =
      ((.ok (c + 1), []), ⟨some (t.windows.set (.counter a) ⟨key, i.later (t.windows.get (.counter a)).since⟩)⟩) := by
    simp only [advance, counted]
  rw [call, start]
  exact ⟨rfl, by rw [window_some, Windows.get_set_self]⟩

/-- calls count an axis up from a count: its starts are answered one by one, and once there was one, or where the key
was that of the count already, the key is that of the last -/
structure CountsUp (t : Tracker) (a : Axis) (c : Int) (calls : List Call) : Prop where
  answers : t.startAnswers a calls = countedUp c (startsOf a calls).length
  key : 0 < (startsOf a calls).length ∨ IsKeyOf (t.window (.counter a)).key c →
    IsKeyOf ((t.after calls).window (.counter a)).key (c + (startsOf a calls).length)

/-- the run of calls, by induction on them: the key is read as the count come to so far -/
theorem after_countsUp (calls : List Call) (h : readCounter (t.window (.counter a)).key = .ok c)
    (fits : fitsNumeral (c + (startsOf a calls).length) = true) : t.CountsUp a c calls := by
  induction calls generalizing t c with
  | nil =>
    refine ⟨rfl, ?_⟩
    simp [startsOf, after]
  | cons x calls ih =>
    cases hx : x.start? a with
    | none =>
      have same := call_window_of_no_start t hx
      have starts : startsOf a (x :: calls) = startsOf a calls := List.filterMap_cons_none hx
      rw [starts] at fits
      have rest := ih (t := t.call x) (by rw [same]; exact h) fits
      constructor
      · rw [starts, startAnswers_cons_none hx]
        exact rest.answers
      · rw [starts, after_cons, ← same]
        exact rest.key
    | some now =>
      have starts : startsOf a (x :: calls) = now :: startsOf a calls := List.filterMap_cons_some hx
      obtain ⟨rfl, instant⟩ := start?_eq_some.1 hx
      have count : c + ((now :: startsOf a calls).length : Nat) = c + 1 + (startsOf a calls).length := by
        rw [List.length_cons]
        push_cast
        omega
      rw [starts, count] at fits
      obtain ⟨i, hi, -⟩ := instantOf_eq instant
      obtain ⟨key, hkey⟩ : ∃ key, IsKeyOf key (c + 1) :=
        key_iff_digits.2 (fitsNumeral_iff.1 (fitsNumeral_between (readInt_fits h) fits (by omega) (by omega)))
      obtain ⟨answer, left⟩ := advance_next h hi hkey.written
      have rest := ih (t := t.call (.advance (.counter a) now)) (by rw [left]; exact hkey.read) fits
      constructor
      · rw [starts, startAnswers_cons_some hx, answer, rest.answers, List.length_cons, countedUp_succ]
      · intro _
        rw [starts, after_cons, count]
        exact rest.key (.inr (by rw [left]; exact hkey))

/-- **Counts in turn.** The counts that have a key are those of no more digits than the limit, below zero as above. The
key is read as its count, is the key of no other and has eight characters at least. So where the key of an axis is read
as a count, whatever the windows of the tracker: the starts of the axis, at any instants, are answered the counts that
follow, one by one and without a warning, and leave the key of the last, as long as its digits keep within the limit.
What else the tracker is asked for before, between and after them makes no difference. -/
theorem starts_counted :
    (∀ n, (∃ key, IsKeyOf key n) ↔ digitCount n ≤ digitLimit) ∧
      ∀ (t : Tracker) (a : Axis) (c : Int) (calls : List Call),
        let k := (startsOf a calls).length
        readCounter (t.window (.counter a)).key = .ok c → digitCount (c + k) ≤ digitLimit →
        t.startAnswers a calls = countedUp c k ∧
          (0 < k → IsKeyOf ((t.after calls).window (.counter a)).key (c + k)) := by
  refine ⟨fun n => key_iff_digits, ?_⟩
  intro t a c calls k h limit
  have run := after_countsUp calls h (fitsNumeral_iff.2 limit)
  exact ⟨run.answers, fun started => run.key (.inl started)⟩

/-- windows with a session's key below zero, in an odd spelling, and a game's key near the end of eight digits -/
def oddCounts : Value := .dict
  [(.ofText "session", .dict [(.ofText "key", .ofText " -0_2"), (.ofText "lastTimestamp", .ofText "2999-01-01")]),
    (.ofText "game", .dict [(.ofText "key", .ofText "99999998"), (.ofText "lastTimestamp", .ofText "2020-12-31")])]

def crossing : Tracker := ⟨(Windows.ofValue oddCounts).answer.1.toOption⟩

/-- starts of sessions and games, the clock stepping back, with other calls in between -/
def crossingCalls : List Call :=
  [.advance (.counter .session) ⟨newYear, none⟩, .advance (.counter .game) ⟨yearsEnd, some 3600000000⟩,
    .refresh ⟨newYear, none⟩ (.fixed 0), .advance (.counter .session) ⟨yearsEnd, none⟩, .window .global,
    .advance (.counter .game) ⟨newYear, none⟩, .advance (.counter .session) ⟨yearsEnd, none⟩]

/-- the sessions are counted from below zero to above, and the games past eight digits -/
theorem crossing_counted :
    (∃ key, IsKeyOf key (-99999999)) ∧
      crossing.startAnswers .session crossingCalls = [(.ok (-1), []), (.ok 0, []), (.ok 1, [])] ∧
      ((crossing.after crossingCalls).window (.counter .session)).key = "00000001" ∧
      crossing.startAnswers .game crossingCalls = [(.ok 99999999, []), (.ok 100000000, [])] ∧
      ((crossing.after crossingCalls).window (.counter .game)).key = "100000000" := by
  obtain ⟨keys, counts⟩ := starts_counted
  obtain ⟨sessions, sessionKey⟩ := counts crossing .session (-2) crossingCalls (by decide +kernel) (by decide +kernel)
  obtain ⟨games, gameKey⟩ := counts crossing .game 99999998 crossingCalls (by decide +kernel) (by decide +kernel)
  refine ⟨(keys _).2 (by decide +kernel), sessions, ?_, games, ?_⟩
  · exact Option.some.inj ((sessionKey (by decide +kernel)).written.symm.trans (by decide +kernel))
  · exact Option.some.inj ((gameKey (by decide +kernel)).written.symm.trans (by decide +kernel))

end Tracker

end BadgeEngine
