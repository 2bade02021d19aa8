/-
Instants as texts. What a clock shows is written as an instant of UTC, in one form for all offsets, and nothing is lost
by it: the text names the very microsecond, and texts sort the way instants follow one another (`instants_written`).

The text of an instant is a row of numbers in fixed widths, from the year down to the microsecond, so it compares like
the keys of the calendar do: the first number that differs decides. That no two instants have the same text comes from
reading them back.
-/
import BadgeEngine.Proofs.KeyOrder

namespace BadgeEngine

open BadgeEngine.Time

/-! ## Order -/

namespace Time

variable {s t : Instant}

theorem instantText_mono (h : s ≤ t) : instantText s ≤ instantText t := by
  have micros : s.micros ≤ t.micros := h
  have hour : ∀ u : Moment, u.hour < 10 ^ 2 := by
    intro u
    unfold Moment.hour
    omega
  have minute : ∀ u : Moment, u.minute < 10 ^ 2 := by
    intro u
    unfold Moment.minute
    omega
  have second : ∀ u : Moment, u.second < 10 ^ 2 := by
    intro u
    unfold Moment.second
    omega
  have micro : ∀ u : Moment, u.micro < 10 ^ 6 := by
    intro u
    unfold Moment.micro
    omega
  simp only [instantText, Moment.text, String.append_assoc]
  apply CalendarPeriod.date_append_le (Nat.div_le_div_right micros)
  intro days
  unfold Moment.dayNumber dayMicros at days
  apply append_left_le
  apply padded_append_le (by decide) (hour s) (hour t)
  · unfold Moment.hour
    omega
  intro hours
  unfold Moment.hour at hours
  apply append_left_le
  apply padded_append_le (by decide) (minute s) (minute t)
  · unfold Moment.minute
    omega
  intro minutes
  unfold Moment.minute at minutes
  apply append_left_le
  apply padded_append_le (by decide) (second s) (second t)
  · unfold Moment.second
    omega
  intro seconds
  unfold Moment.second at seconds
  apply append_left_le
  apply padded_append_le (by decide) (micro s) (micro t)
  · unfold Moment.micro
    omega
  · intro _
    exact String.le_refl _

theorem instantText_inj (h : instantText s = instantText t) : s = t := by
  have back := readInstant_instantText s
  rw [h, readInstant_instantText t] at back
  exact (Except.ok.inj back).symm

/-- texts of instants sort in the order of time -/
theorem instantText_lt_iff : instantText s < instantText t ↔ s < t := by
  constructor
  · intro less
    by_contra not
    exact String.not_le.2 less (instantText_mono (Nat.not_lt.1 not))
  · intro less
    by_contra not
    have same := String.le_antisymm (instantText_mono (Nat.le_of_lt less)) (String.not_lt.1 not)
    rw [instantText_inj same] at less
    exact Nat.lt_irrefl _ less

end Time

/-! ## Readings -/

namespace Time.Reading

/-- the microseconds from 0001-01-01T00:00 in UTC; a clock that tells no offset shows UTC -/
def utc (r : Reading) : Int := r.wall.micros - r.offset.getD 0

/-- whether it lies in the years 1 to 9999 of UTC -/
def IsInstant (r : Reading) : Prop := 0 ≤ r.utc ∧ r.utc < momentEnd

instance (r : Reading) : Decidable r.IsInstant := inferInstanceAs (Decidable (_ ∧ _))

end Time.Reading

/-- the text a reading is written as: that of its instant -/
def readingText (r : Reading) : Except Problem String := (instantOf r).map instantText

theorem utc_of_toInstant {r : Reading} {t : Instant} (h : r.toInstant? = some t) : (t.micros : Int) = r.utc := by
  obtain ⟨wall, offset⟩ := r
  cases offset with
  | none =>
    cases h
    simp [Reading.utc]
  | some o =>
    simp only [Reading.toInstant?, Moment.shift?, Moment.ofMicros?] at h
    split at h
    · cases h
      simp only [Reading.utc, Option.getD_some]
      omega
    · cases h

/-- a reading in the years 1 to 9999 of UTC has its instant there -/
theorem instantOf_eq {r : Reading} (h : r.IsInstant) :
    ∃ t : Instant, instantOf r = .ok t ∧ (t.micros : Int) = r.utc := by
  obtain ⟨t, ht⟩ : ∃ t, r.toInstant? = some t := by
    obtain ⟨wall, offset⟩ := r
    cases offset with
    | none => exact ⟨wall, rfl⟩
    | some o =>
      have lies : 0 ≤ (wall.micros : Int) - o ∧ (wall.micros : Int) - o < momentEnd := h
      have inRange : 0 ≤ (wall.micros : Int) + -o ∧ ((wall.micros : Int) + -o).toNat < momentEnd := by omega
      exact ⟨_, dif_pos inRange⟩
  exact ⟨t, by simp only [instantOf, ht], utc_of_toInstant ht⟩

/-- a reading that has an instant lies in the years 1 to 9999 of UTC -/
theorem isInstant_of_ok {r : Reading} {t : Instant} (h : instantOf r = .ok t) : r.IsInstant := by
  unfold instantOf at h
  split at h
  case h_1 u hu =>
    have micros := utc_of_toInstant hu
    have below := u.inRange
    constructor
    · omega
    · omega
  case h_2 => cases h

theorem readingText_eq {r : Reading} (h : r.IsInstant) :
    ∃ t : Instant, readingText r = .ok (instantText t) ∧ (t.micros : Int) = r.utc := by
  obtain ⟨t, ht, same⟩ := instantOf_eq h
  exact ⟨t, by simp only [readingText, ht, Except.map], same⟩

/-- an instant is itself a reading of a clock of UTC -/
theorem readingText_instant (t : Instant) : readingText ⟨t, some 0⟩ = .ok (instantText t) := by
  have here : (⟨t, some 0⟩ : Reading).toInstant? = some t := by
    show t.shift? (-0) = some t
    rw [Moment.shift?, Int.neg_zero, Int.add_zero, t.ofMicros?_micros]
  simp only [readingText, instantOf, here, Except.map]

/-- the text of an instant names that instant -/
theorem instantOfText_instantText (t : Instant) : instantOfText (instantText t) = .ok t := by
  simp only [instantOfText, readInstant_instantText]

/-- what a text names is the instant of the reading that stands in it -/
theorem reading_of_instantOfText {text : String} {t : Instant} (h : instantOfText text = .ok t) :
    ∃ r, readReading text = .ok r ∧ (t.micros : Int) = r.utc := by
  unfold instantOfText readInstant at h
  cases hr : readReading text with
  | error e => simp [hr, bind, Except.bind] at h
  | ok r =>
    cases ht : r.toInstant? with
    | none => simp [hr, ht, bind, Except.bind, throw, throwThe, MonadExceptOf.throw] at h
    | some u =>
      have same : u = t := by simpa [hr, ht, bind, Except.bind, pure, Except.pure] using h
      exact ⟨r, rfl, same ▸ utc_of_toInstant ht⟩

/-- **Instants as texts.** Every reading whose instant lies in the years 1 to 9999 of UTC, whatever its offset, is
written as a text that names the same microsecond; of two readings the one of the earlier instant has the lesser text,
and the other way round; and the instant that is read from any text, that of the reading in it, is written as a text
that is read as that instant again. -/
theorem instants_written {r s : Reading} (hr : r.IsInstant) (hs : s.IsInstant) :
    (∃ x y : String, readingText r = .ok x ∧ readingText s = .ok y ∧
      (∃ t : Instant, instantOfText x = .ok t ∧ (t.micros : Int) = r.utc) ∧ (r.utc < s.utc ↔ x < y)) ∧
    ∀ (text : String) (t : Instant), instantOfText text = .ok t →
      (∃ r, readReading text = .ok r ∧ (t.micros : Int) = r.utc) ∧
        ∃ x : String, readingText ⟨t, some 0⟩ = .ok x ∧ instantOfText x = .ok t := by
  constructor
  · obtain ⟨t, hx, ht⟩ := readingText_eq hr
    obtain ⟨u, hy, hu⟩ := readingText_eq hs
    refine ⟨_, _, hx, hy, ⟨t, instantOfText_instantText t, ht⟩, ?_⟩
    rw [instantText_lt_iff, ← ht, ← hu, Int.ofNat_lt]
    exact Iff.rfl
  · intro text t h
    exact ⟨reading_of_instantOfText h, _, readingText_instant t, instantOfText_instantText t⟩

/-- one in the morning of 0001-01-01, an hour ahead of UTC -/
def firstHour : Reading := ⟨⟨3600000000, by decide⟩, some 3600000000⟩

/-- the last microsecond before 23:00 of 9999-12-31, an hour behind UTC -/
def lastHour : Reading := ⟨⟨momentEnd - 3600000001, by decide⟩, some (-3600000000)⟩

/-- both ends of the years are written, the first before the last -/
theorem ends_written :
    firstHour.IsInstant ∧ lastHour.IsInstant ∧
      readingText firstHour = .ok "0001-01-01T00:00:00.000000Z" ∧
      readingText lastHour = .ok "9999-12-31T23:59:59.999999Z" ∧
      "0001-01-01T00:00:00.000000Z" < "9999-12-31T23:59:59.999999Z" ∧
      instantOfText "1970-W01-4T01+01" = .ok epoch ∧
      ∃ x, readingText ⟨epoch, some 0⟩ = .ok x ∧ instantOfText x = .ok epoch := by
  have first : readingText firstHour = .ok "0001-01-01T00:00:00.000000Z" := by decide +kernel
  have last : readingText lastHour = .ok "9999-12-31T23:59:59.999999Z" := by decide +kernel
  have week : instantOfText "1970-W01-4T01+01" = .ok epoch := by decide +kernel
  obtain ⟨⟨x, y, hx, hy, -, order⟩, back⟩ := instants_written (r := firstHour) (s := lastHour) (by decide) (by decide)
  rw [first] at hx
  rw [last] at hy
  cases hx
  cases hy
  exact ⟨by decide, by decide, first, last, order.1 (by decide), week, (back _ _ week).2⟩

end BadgeEngine
