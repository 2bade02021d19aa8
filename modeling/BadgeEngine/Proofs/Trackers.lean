/-
Trackers of windows under any calls, with clocks that step back and zones that change from call to call.

- `flags_nest`: the windows of the calendar always have the keys of one local time, since a refresh gives all of them
  the keys of its own. Periods lie in one another, so of the flags a refresh raises the longer period's never stands
  alone.
- `stamps_follow_keys`: whatever windows a tracker was given, no window goes back in time, a window begins anew only
  with another key, and each call changes the windows it is about. `Window.Moves` is what one call may do to a window.
-/
import BadgeEngine.Proofs.CounterKey
import BadgeEngine.Proofs.KeyOrder
import BadgeEngine.Proofs.Windows

namespace BadgeEngine

open BadgeEngine.Time
open BadgeEngine.CalendarPeriod (newYear yearsEnd)

/-! ## Calls -/

namespace Tracker

/-- what a tracker may be asked for -/
inductive Call where
  /-- that its windows be made -/
  | ready
  /-- the window of a period, or when it began -/
  | window (p : Period)
  | refresh (now : Reading) (z : Zone)
  | advance (p : Period) (now : Reading)

def call (t : Tracker) : Call → Tracker
  | .ready => t.ready
  | .window _ => t.ready
  | .refresh now z => (t.refresh now z).1
  | .advance p now => (t.advance p now).2

def after (t : Tracker) (calls : List Call) : Tracker := calls.foldl call t

theorem after_cons (t : Tracker) (x : Call) (calls : List Call) : t.after (x :: calls) = (t.call x).after calls := rfl

def window (t : Tracker) (p : Period) : Window := t.windows.get p

@[simp] theorem windows_some (w : Windows) : (Tracker.mk (some w)).windows = w := rfl

@[simp] theorem window_some (w : Windows) (p : Period) : (Tracker.mk (some w)).window p = w.get p := rfl

variable {t : Tracker} {now : Reading} {z : Zone} {i : Instant} {l : Moment}

theorem refresh_of_local (hi : instantOf now = .ok i) (hl : localTime z i = .ok l) :
    t.refresh now z = (⟨some (t.windows.refresh i l).1⟩, .ok (t.windows.refresh i l).2) := by
  unfold refresh
  rw [hi]
  dsimp only
  rw [hl]

/-- where there is no local time, a refresh fails and leaves the windows -/
theorem refresh_of_none (h : ¬ ∃ i l, instantOf now = .ok i ∧ localTime z i = .ok l) :
    ∃ e, t.refresh now z = (t.ready, .error e) := by
  cases hi : instantOf now with
  | error e => exact ⟨e, by rw [refresh, hi]⟩
  | ok i =>
    cases hl : localTime z i with
    | error e =>
      refine ⟨e, ?_⟩
      rw [refresh, hi]
      dsimp only
      rw [hl]
    | ok l => exact absurd ⟨i, l, hi, hl⟩ h

/-- a refresh answers just where the reading has an instant and this a local time -/
theorem refresh_answers :
    (∃ f, (t.refresh now z).2 = .ok f) ↔ ∃ i l, instantOf now = .ok i ∧ localTime z i = .ok l := by
  refine ⟨fun ⟨f, hf⟩ => Classical.byContradiction fun none => ?_, fun ⟨i, l, hi, hl⟩ => ?_⟩
  · obtain ⟨e, he⟩ := refresh_of_none (t := t) none
    rw [he] at hf
    cases hf
  · exact ⟨_, congrArg Prod.snd (refresh_of_local hi hl)⟩

/-- a refresh leaves the windows, or finds a local time and renews them -/
theorem refresh_cases (t : Tracker) (now : Reading) (z : Zone) :
    (t.refresh now z).1.windows = t.windows ∨ ∃ i l, (t.refresh now z).1.windows = (t.windows.refresh i l).1 := by
  by_cases h : ∃ i l, instantOf now = .ok i ∧ localTime z i = .ok l
  · obtain ⟨i, l, hi, hl⟩ := h
    exact .inr ⟨i, l, by rw [refresh_of_local hi hl, windows_some]⟩
  · obtain ⟨e, he⟩ := refresh_of_none (t := t) h
    exact .inl (by rw [he]; rfl)

/-- counting up fails and leaves the windows, or gives an axis another key -/
theorem advance_cases (t : Tracker) (p : Period) (now : Reading) :
    (t.advance p now).2.windows = t.windows ∨ ∃ a i key, p = .counter a ∧ key ≠ (t.window p).key ∧
      (t.advance p now).2.windows = t.windows.set p ⟨key, Moment.later i (t.window p).since⟩ := by
  cases p with
  | global => exact .inl rfl
  | calendar c => exact .inl rfl
  | counter a =>
    unfold advance
    dsimp only
    rcases ha : (t.windows.advance a (instantOf now)).answer with ⟨_ | ⟨n, w⟩, texts⟩
    · exact .inl rfl
    · cases hi : instantOf now with
      | error e =>
        rw [hi] at ha
        exact nomatch (Windows.advance_error t.windows a e).symm.trans (congrArg Prod.fst ha)
      | ok i =>
        rw [hi] at ha
        obtain ⟨key, hkey, rfl⟩ := Windows.advance_ok ha
        refine .inr ⟨a, i, key, rfl, fun same => (Windows.advance_counted ha).2 ?_, rfl⟩
        rw [← readCounter_key hkey, same]
        rfl

end Tracker

/-! ## Keys of one local time -/

namespace Windows

variable {w : Windows} {i : Instant} {l : Moment} {c : CalendarPeriod}

theorem isStale_iff : w.isStale l c ↔ (w.get (.calendar c)).key ≠ c.key l := by
  rw [isStale, decide_eq_true_iff, ne_comm]

/-- a refresh leaves the keys of its local time -/
theorem refresh_key (w : Windows) (c : CalendarPeriod) : ((w.refresh i l).1.get (.calendar c)).key = c.key l := by
  rw [refresh_get]
  dsimp only
  split
  case isTrue => rfl
  case isFalse fresh => exact Decidable.not_not.1 fun stale => fresh (isStale_iff.2 stale)

/-- the windows of the calendar have the keys of a local time -/
def KeyedAt (w : Windows) (l : Moment) : Prop := ∀ c : CalendarPeriod, (w.get (.calendar c)).key = c.key l

theorem initial_keyedAt : initial.KeyedAt epoch := fun c => congrArg Window.key (initial_get (.calendar c))

end Windows

/-- whether every period of the second kind lies in one of the first -/
def CalendarPeriod.holds : CalendarPeriod → CalendarPeriod → Bool
  | _, .hour => true
  | .year, .month | .year, .day | .month, .day | .week, .day => true
  | c, d => c = d

namespace CalendarPeriod

variable {c d : CalendarPeriod} {l m : Moment}

theorem Shares.of_date (h : c ≠ hour) (same : l.date = m.date) : c.Shares l m := by
  cases c with
  | year => exact congrArg Date.year same
  | month => exact ⟨congrArg Date.year same, congrArg Date.month same⟩
  | week => exact congrArg mondayOf (date_eq_iff.1 same)
  | day => exact same
  | hour => exact absurd rfl h

/-- local times that share a period share every period that holds it -/
theorem Shares.of_holds (h : c.holds d) (same : d.Shares l m) : c.Shares l m := by
  cases d with
  | hour =>
    by_cases hc : c = hour
    · exact hc ▸ same
    · exact .of_date hc same.1
  | day =>
    refine .of_date ?_ same
    rintro rfl
    cases h
  | month =>
    cases c with
    | year => exact same.1
    | month => exact same
    | week | day | hour => cases h
  | week | year =>
    cases c with
    | week | year => first | exact same | cases h
    | month | day | hour => cases h

theorem key_of_holds (h : c.holds d) (same : d.key l = d.key m) : c.key l = c.key m := by
  rw [key_eq_iff_shares] at same ⊢
  exact same.of_holds h

end CalendarPeriod

/-- what a refresh of keys of one local time raises for a period, it raises for every period within -/
theorem Windows.KeyedAt.nests {w : Windows} {i : Instant} {l m : Moment} (h : w.KeyedAt l) {c d : CalendarPeriod}
    (hold : c.holds d) (raised : (w.refresh i m).2.get c) : (w.refresh i m).2.get d := by
  rw [refresh_rolled, isStale_iff, h] at raised ⊢
  exact fun same => raised (CalendarPeriod.key_of_holds hold same)

/-- flags that nest as the periods do: none is raised without those of the periods within -/
structure Rollover.Nested (f : Rollover) : Prop where
  month : f.year → f.month
  day : f.month → f.day
  hour : f.day → f.hour
  week : f.week → f.day
  any : f.any = f.hour

theorem Rollover.Nested.of_holds {f : Rollover} (h : ∀ c d : CalendarPeriod, c.holds d → f.get c → f.get d) :
    f.Nested := by
  have month : f.year → f.month := h .year .month rfl
  have day : f.month → f.day := h .month .day rfl
  have hour : f.day → f.hour := h .day .hour rfl
  have week : f.week → f.day := h .week .day rfl
  refine ⟨month, day, hour, week, ?_⟩
  rw [Rollover.any, Bool.eq_iff_iff]
  simp only [Bool.or_eq_true]
  exact ⟨fun raised => by tauto, .inr⟩

namespace Tracker

variable {t : Tracker}

/-- no call leaves the keys of the calendar without a local time they are of -/
theorem call_keyedAt (x : Call) (h : ∃ l, t.windows.KeyedAt l) : ∃ l, (t.call x).windows.KeyedAt l := by
  cases x with
  | ready => exact h
  | window p => exact h
  | refresh now z =>
    rcases refresh_cases t now z with same | ⟨i, l, hw⟩
    · rw [call, same]
      exact h
    · rw [call, hw]
      exact ⟨l, Windows.refresh_key _⟩
  | advance p now =>
    obtain ⟨l, hl⟩ := h
    refine ⟨l, fun c => ?_⟩
    rcases advance_cases t p now with same | ⟨a, i, key, rfl, -, hw⟩
    · rw [call, same, hl]
    · have other : Period.calendar c ≠ .counter a := nofun
      rw [call, hw, Windows.get_set_of_ne other, hl]

theorem after_keyedAt (calls : List Call) (h : ∃ l, t.windows.KeyedAt l) : ∃ l, (t.after calls).windows.KeyedAt l := by
  induction calls generalizing t with
  | nil => exact h
  | cons x calls ih => exact ih (call_keyedAt x h)

/-- **Flags nest.** Whatever a new tracker was asked for, its windows of the calendar have the keys of one local time.
So a refresh, which answers wherever the reading has an instant and this a local time, raises the flag of a year only
with that of the month, of a month or a week only with that of the day, and any flag only with that of the hour. -/
theorem flags_nest (calls : List Call) (now : Reading) (z : Zone) :
    (∃ l : Moment, ∀ c : CalendarPeriod, ((({} : Tracker).after calls).window (.calendar c)).key = c.key l) ∧
      ((∃ f, ((({} : Tracker).after calls).refresh now z).2 = .ok f) ↔
        ∃ i l, instantOf now = .ok i ∧ localTime z i = .ok l) ∧
      ∀ f, ((({} : Tracker).after calls).refresh now z).2 = .ok f → f.Nested := by
  obtain ⟨l, keyed⟩ := after_keyedAt (t := ⟨none⟩) calls ⟨epoch, Windows.initial_keyedAt⟩
  refine ⟨⟨l, keyed⟩, refresh_answers, fun f hf => .of_holds fun c d hold raised => ?_⟩
  obtain ⟨i, m, hi, hm⟩ := refresh_answers.1 ⟨f, hf⟩
  rw [refresh_of_local hi hm] at hf
  obtain rfl := Except.ok.inj hf
  exact keyed.nests hold raised

/-- a refresh in the new year, a start, and a refresh of the same instant in a zone where it is the old year still -/
def newYearCalls : List Call :=
  [.refresh ⟨newYear, none⟩ (.fixed 0), .advance (.counter .session) ⟨newYear, none⟩,
    .refresh ⟨newYear, none⟩ (.fixed (-18000))]

/-- the new year begins within a week, so the flag of the week stays down and all others rise -/
theorem newYearCalls_nest :
    (((({} : Tracker).after newYearCalls).refresh ⟨newYear, none⟩ (.fixed 0)).2 = .ok ⟨true, true, false, true, true⟩) ∧
      (Rollover.mk true true false true true).Nested := by
  have ran : ((({} : Tracker).after newYearCalls).refresh ⟨newYear, none⟩ (.fixed 0)).2 =
      .ok ⟨true, true, false, true, true⟩ := by decide +kernel
  exact ⟨ran, (flags_nest newYearCalls _ _).2.2 _ ran⟩

end Tracker

/-! ## Stamps -/

/-- what a call may do to a window: it does not go back in time, and begins anew only with another key -/
structure Window.Moves (x y : Window) : Prop where
  forward : x.since ≤ y.since
  keyed : y.since ≠ x.since → y.key ≠ x.key

theorem Window.Moves.refl (x : Window) : x.Moves x := ⟨Nat.le_refl _, fun moved => absurd rfl moved⟩

theorem Window.Moves.rekeyed {x : Window} {key : String} (i : Instant) (h : key ≠ x.key) :
    x.Moves ⟨key, i.later x.since⟩ :=
  ⟨Moment.le_later_right .., fun _ => h⟩

namespace Windows

theorem refresh_moves (w : Windows) (i : Instant) (l : Moment) (p : Period) :
    (w.get p).Moves ((w.refresh i l).1.get p) := by
  rw [refresh_get]
  cases p with
  | calendar c =>
    dsimp only
    split
    case isTrue stale => exact .rekeyed i (isStale_iff.1 stale).symm
    case isFalse => exact .refl _
  | global => exact .refl _
  | counter a => exact .refl _

/-- windows that have the keys of a local time are not renewed for it -/
theorem KeyedAt.refresh_eq {w : Windows} {i : Instant} {l : Moment} (h : w.KeyedAt l) : w.refresh i l = (w, {}) := by
  have fresh : ∀ c : CalendarPeriod, w.isStale l c = false := fun c =>
    Bool.eq_false_iff.2 fun stale => isStale_iff.1 stale (h c)
  refine Prod.ext (ext_get fun p => ?_) ?_
  · rw [refresh_get]
    cases p with
    | calendar c => simp only [fresh, Bool.false_eq_true, if_false]
    | global => rfl
    | counter a => rfl
  · simp only [refresh, fresh]

end Windows

namespace Tracker

variable {t : Tracker}

theorem call_moves (t : Tracker) (x : Call) (p : Period) : (t.window p).Moves ((t.call x).window p) := by
  cases x with
  | ready => exact .refl _
  | window q => exact .refl _
  | refresh now z =>
    rcases refresh_cases t now z with same | ⟨i, l, hw⟩
    · rw [call, window, window, same]
      exact .refl _
    · rw [call, window, window, hw]
      exact Windows.refresh_moves _ i l p
  | advance q now =>
    rcases advance_cases t q now with same | ⟨a, i, key, rfl, hkey, hw⟩
    · rw [call, window, window, same]
      exact .refl _
    · rw [call, window, window, hw]
      by_cases hp : p = .counter a
      · rw [hp, Windows.get_set_self]
        exact .rekeyed i hkey
      · rw [Windows.get_set_of_ne hp]
        exact .refl _

/-- the windows a call is about: those of the calendar for a refresh, that of its axis for a start -/
def Call.isAbout : Call → Period → Bool
  | .refresh _ _, .calendar _ => true
  | .advance p _, .counter a => p = .counter a
  | _, _ => false

/-- a call leaves all other windows as they are -/
theorem call_frame (t : Tracker) {x : Call} {p : Period} (h : x.isAbout p = false) :
    (t.call x).window p = t.window p := by
  cases x with
  | ready => rfl
  | window q => rfl
  | refresh now z =>
    rcases refresh_cases t now z with same | ⟨i, l, hw⟩
    · rw [call, window, same]
      rfl
    · rw [call, window, hw, Windows.refresh_get]
      cases p with
      | calendar c => cases h
      | global => rfl
      | counter a => rfl
  | advance q now =>
    rcases advance_cases t q now with same | ⟨a, i, key, rfl, -, hw⟩
    · rw [call, window, same]
      rfl
    · rw [call, window, hw]
      refine Windows.get_set_of_ne ?_ ..
      rintro rfl
      simp [Call.isAbout] at h

/-- what a refresh at an instant with a local time leaves, and which flags it raises -/
structure Refreshed (t u : Tracker) (i : Instant) (l : Moment) (f : Rollover) : Prop where
  keys : ∀ c : CalendarPeriod, (u.window (.calendar c)).key = c.key l
  flags : ∀ c : CalendarPeriod, f.get c ↔ (u.window (.calendar c)).key ≠ (t.window (.calendar c)).key
  began : ∀ c : CalendarPeriod, f.get c → (u.window (.calendar c)).since = i.later (t.window (.calendar c)).since

theorem refresh_refreshed (t : Tracker) {now : Reading} {z : Zone} {i : Instant} {l : Moment}
    (hi : instantOf now = .ok i) (hl : localTime z i = .ok l) :
    ∃ u f, t.refresh now z = (u, .ok f) ∧ t.Refreshed u i l f ∧ u.refresh now z = (u, .ok {}) := by
  have keys : (t.windows.refresh i l).1.KeyedAt l := Windows.refresh_key _
  have rolled := @Windows.refresh_rolled i l t.windows
  have got := @Windows.refresh_get i l t.windows
  have again := keys.refresh_eq (i := i)
  have ran := refresh_of_local (t := t) hi hl
  -- from here on the renewed windows and the flags are what the facts above tell of them
  generalize t.windows.refresh i l = r at keys rolled got again ran
  obtain ⟨w, f⟩ := r
  refine ⟨⟨some w⟩, f, ran, ⟨keys, fun c => ?_, fun c raised => ?_⟩, ?_⟩
  · rw [rolled, Windows.isStale_iff, window_some, keys c, ne_comm]
    rfl
  · rw [rolled] at raised
    rw [window_some, got]
    exact congrArg Window.since (if_pos raised)
  · rw [refresh_of_local hi hl, windows_some, again]

theorem after_since_le (t : Tracker) (calls : List Call) (p : Period) :
    (t.window p).since ≤ ((t.after calls).window p).since := by
  induction calls generalizing t with
  | nil => exact Nat.le_refl _
  | cons x calls ih => exact Nat.le_trans (call_moves t x p).forward (ih (t.call x))

theorem after_global (t : Tracker) (calls : List Call) : (t.after calls).window .global = t.window .global := by
  induction calls generalizing t with
  | nil => rfl
  | cons x calls ih => exact (ih (t.call x)).trans (call_frame t (by cases x <;> rfl))

/-- **Stamps.** Whatever windows a tracker has, and whatever it is asked for: no window goes back in time, and the
global window never changes. Each call lets a window begin anew only with another key, and changes only the windows it
is about. Where a reading has an instant and this a local time, a refresh leaves the keys of that local time and raises
just the flags of the keys that changed, and the same refresh once more changes nothing and raises no flag. -/
theorem stamps_follow_keys (t : Tracker) (calls : List Call) :
    let u := t.after calls
    (∀ p, (t.window p).since ≤ (u.window p).since) ∧ u.window .global = t.window .global ∧
      (∀ x p, (u.window p).Moves ((u.call x).window p)) ∧
      (∀ x p, x.isAbout p = false → (u.call x).window p = u.window p) ∧
      ∀ now z i l, instantOf now = .ok i → localTime z i = .ok l →
        ∃ v f, u.refresh now z = (v, .ok f) ∧ u.Refreshed v i l f ∧ v.refresh now z = (v, .ok {}) :=
  ⟨after_since_le t calls, after_global t calls, call_moves _, fun _ _ => call_frame _,
    fun _ _ _ _ => refresh_refreshed _⟩

/-- windows with keys that are none, the hour's from far ahead -/
def strayWindows : Value := .dict
  [(.ofText "global", .dict [(.ofText "key", .ofText "elsewhere"), (.ofText "lastTimestamp", .ofText "2001-01-01")]),
    (.ofText "hour", .dict [(.ofText "key", .ofText "late"), (.ofText "lastTimestamp", .ofText "2999-01-01")]),
    (.ofText "session", .dict [(.ofText "key", .ofText "many"), (.ofText "lastTimestamp", .ofText "2020-12-31T12")]),
    (.ofText "fortnight", .ofText "odd")]

def straying : Tracker := ⟨(Windows.ofValue strayWindows).answer.1.toOption⟩

/-- a refresh in the new year, a start before it, and a refresh before it -/
def backwardCalls : List Call :=
  [.refresh ⟨newYear, none⟩ (.fixed 0), .advance (.counter .session) ⟨yearsEnd, none⟩,
    .refresh ⟨yearsEnd, none⟩ (.fixed 0)]

/-- the clock steps back, and keys of windows change while the windows hold their stamps -/
theorem straying_follows :
    ((straying.window .global).key = "elsewhere" ∧
      ((straying.after backwardCalls).window (.calendar .hour)).key = "2020-12-31-H00" ∧
      ((straying.after backwardCalls).window (.calendar .hour)).since = (straying.window (.calendar .hour)).since ∧
      ((straying.after backwardCalls).window (.counter .session)).key = "00000001") ∧
      (straying.after backwardCalls).window .global = straying.window .global ∧
      (straying.window (.counter .session)).since ≤ ((straying.after backwardCalls).window (.counter .session)).since ∧
      ∃ v f, (straying.after backwardCalls).refresh ⟨newYear, none⟩ (.fixed 3600) = (v, .ok f) ∧
        v.refresh ⟨newYear, none⟩ (.fixed 3600) = (v, .ok {}) := by
  obtain ⟨forward, global, -, -, refreshes⟩ := stamps_follow_keys straying backwardCalls
  obtain ⟨v, f, first, -, second⟩ := refreshes ⟨newYear, none⟩ (.fixed 3600) newYear
    ⟨newYear.micros + 3600000000, by decide⟩ (by decide) (by decide)
  exact ⟨by decide +kernel, global, forward _, v, f, first, second⟩

end Tracker

end BadgeEngine
