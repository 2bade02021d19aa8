/-
Moments are known by their dates and times of day. The date of a day in the years 1 to 9999 exists and names that day
(`exists_dateOfDay`, `toDay_dateOfDay`), so a moment is put together again from its parts (`momentOf_parts`).
-/
import BadgeEngine.Time.Text

namespace BadgeEngine.Time

/-! ## Years -/

/-- the parts of a count of days: cycles of 400 years, centuries, cycles of 4 years, years, and the days that are
left -/
theorem yearOfDay_parts (n : Nat) :
    ∃ q c f j d : Nat, yearOfDay n = 400 * q + 100 * c + 4 * f + j + 1 ∧
      n = 146097 * q + 36524 * c + 1461 * f + 365 * j + d ∧ c ≤ 3 ∧ f ≤ 24 ∧ j ≤ 3 ∧ d ≤ 365 ∧
      (d = 365 → j = 3 ∧ (f = 24 → c = 3)) := by
  unfold yearOfDay
  dsimp only
  generalize hc : min (n % 146097 / 36524) 3 = c
  generalize hr : n % 146097 - c * 36524 = r
  generalize hj : min (r % 1461 / 365) 3 = j
  refine ⟨n / 146097, c, r / 1461, j, r % 1461 - 365 * j, rfl, ?_⟩
  omega

theorem daysBeforeYear_parts {q c f j : Nat} (hc : c ≤ 3) (hf : f ≤ 24) (hj : j ≤ 3) :
    daysBeforeYear (400 * q + 100 * c + 4 * f + j + 1) = 146097 * q + 36524 * c + 1461 * f + 365 * j := by
  unfold daysBeforeYear
  omega

theorem one_le_yearOfDay (n : Nat) : 1 ≤ yearOfDay n := Nat.le_add_left ..

/-- a day comes after the first of January of its year -/
theorem daysBeforeYear_le (n : Nat) : daysBeforeYear (yearOfDay n) + dayInYear n = n := by
  obtain ⟨q, c, f, j, d, hy, hn, hc, hf, hj, -⟩ := yearOfDay_parts n
  unfold dayInYear
  rw [hy, daysBeforeYear_parts hc hf hj]
  omega

/-- the length of a year -/
theorem dayInYear_lt (n : Nat) : dayInYear n < if isLeap (yearOfDay n) then 366 else 365 := by
  have hn := daysBeforeYear_le n
  obtain ⟨q, c, f, j, d, hy, hd, hc, hf, hj, hlast, hlong⟩ := yearOfDay_parts n
  rw [hy, daysBeforeYear_parts hc hf hj] at hn
  rw [hy]
  have hdd : dayInYear n = d := by omega
  rw [hdd]
  -- only a leap year has a 366th day
  split
  case isTrue => omega
  case isFalse hl =>
    rcases Nat.lt_or_eq_of_le hlast with h | h
    · exact h
    · refine absurd ?_ hl
      obtain ⟨h3, h24⟩ := hlong h
      simp only [isLeap, Bool.and_eq_true, Bool.or_eq_true, decide_eq_true_eq]
      omega

theorem yearOfDay_le {n : Nat} (hn : n < 3652059) : yearOfDay n ≤ 9999 := by
  have h := daysBeforeYear_le n
  unfold daysBeforeYear at h
  omega

/-! ## Months -/

/-- a day of the year lies in one of twelve months -/
theorem monthOf_spec :
    ∀ leap : Bool, ∀ d < if leap then 366 else 365, 1 ≤ monthOf leap d ∧ monthOf leap d ≤ 12 ∧
      daysBeforeMonth leap (monthOf leap d) ≤ d ∧ d < daysBeforeMonth leap (monthOf leap d + 1) := by
  decide +kernel

theorem Date.exists_iff {d : Date} : d.exists ↔
    1 ≤ d.year ∧ 1 ≤ d.month ∧ d.month ≤ 12 ∧ 1 ≤ d.day ∧ d.day ≤ daysInMonth d.year d.month := by
  simp only [Date.exists, Bool.and_eq_true, decide_eq_true_eq, and_assoc]

theorem Date.day_le {d : Date} (hd : d.exists) : d.day ≤ 31 := by
  have days : ∀ leap : Bool, ∀ m ≤ 12, daysBeforeMonth leap (m + 1) - daysBeforeMonth leap m ≤ 31 := by decide
  obtain ⟨-, -, hm, -, hd⟩ := Date.exists_iff.1 hd
  exact Nat.le_trans hd (days _ _ hm)

theorem exists_dateOfDay (n : Nat) : (dateOfDay n).exists := by
  obtain ⟨hm, hm', hd, hd'⟩ := monthOf_spec _ _ (dayInYear_lt n)
  refine Date.exists_iff.2 ⟨one_le_yearOfDay n, hm, hm', Nat.le_add_left .., ?_⟩
  simp only [dateOfDay, daysInMonth]
  omega

/-- **Dates.** The date of a day names that day. -/
theorem toDay_dateOfDay (n : Nat) : (dateOfDay n).toDay = n := by
  obtain ⟨-, -, hd, -⟩ := monthOf_spec _ _ (dayInYear_lt n)
  have hn := daysBeforeYear_le n
  simp only [Date.toDay, dateOfDay]
  omega

/-! ## Moments -/

namespace Moment

variable (t : Moment)

theorem dayNumber_lt : t.dayNumber < 3652059 := by
  have h := t.inRange
  unfold dayNumber
  unfold momentEnd dayMicros at *
  omega

theorem exists_date : t.date.exists := exists_dateOfDay t.dayNumber

theorem year_le : t.date.year ≤ 9999 := yearOfDay_le t.dayNumber_lt

/-- a moment is its day and its time of day -/
theorem micros_parts :
    t.dayNumber * dayMicros + t.hour * 3600000000 + t.minute * 60000000 + t.second * 1000000 + t.micro = t.micros := by
  unfold dayNumber hour minute second micro dayMicros
  omega

theorem ofMicros?_micros : ofMicros? t.micros = some t := by
  have h : 0 ≤ (t.micros : Int) ∧ (t.micros : Int).toNat < momentEnd := ⟨Int.natCast_nonneg _, t.inRange⟩
  rw [ofMicros?, dif_pos h]
  rfl

end Moment

/-- a date that exists and a time of day make the moment of their microseconds -/
theorem momentOf_ok {d : Date} {c : Clock} {t : Moment} (hd : d.exists) (hy : d.year ≤ 9999) (hh : c.hour < 24)
    (hm : c.minute < 60) (hs : c.second < 60)
    (ht : d.toDay * dayMicros + c.hour * 3600000000 + c.minute * 60000000 + c.second * 1000000 + c.micro = t.micros) :
    momentOf d c = .ok t := by
  obtain ⟨h1, h2, h3, h4, h5⟩ := Date.exists_iff.1 hd
  unfold momentOf
  rw [if_neg (not_or.2 ⟨Nat.not_lt.2 h1, Nat.not_lt.2 hy⟩), if_neg (not_or.2 ⟨Nat.not_lt.2 h2, Nat.not_lt.2 h3⟩),
    if_neg (not_or.2 ⟨Nat.not_lt.2 h4, Nat.not_lt.2 h5⟩), if_neg (Nat.not_lt.2 (Nat.le_of_lt_succ hh)),
    if_neg (Nat.not_lt.2 (Nat.le_of_lt_succ hm)), if_neg (Nat.not_lt.2 (Nat.le_of_lt_succ hs)), ht,
    t.ofMicros?_micros]

/-- **Moments.** A moment is put together again from its date and its time of day. -/
theorem momentOf_parts (t : Moment) (more : Bool) :
    momentOf t.date { hour := t.hour, minute := t.minute, second := t.second, micro := t.micro, more } = .ok t := by
  have hours : t.hour < 24 := Nat.mod_lt _ (by decide)
  have minutes : t.minute < 60 := Nat.mod_lt _ (by decide)
  have seconds : t.second < 60 := Nat.mod_lt _ (by decide)
  have day : t.date.toDay = t.dayNumber := toDay_dateOfDay t.dayNumber
  refine momentOf_ok t.exists_date t.year_le hours minutes seconds ?_
  rw [day]
  exact t.micros_parts

end BadgeEngine.Time
