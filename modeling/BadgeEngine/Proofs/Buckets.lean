/-
The keys of the calendar periods. Local times have the same key exactly when they lie in the same year, month, ISO week,
day or hour (`key_eq_iff`), and these follow one another as hours do (`number_mono`). So a window does not come back to
a key where clocks do not come back to an hour (`Zone.KeepsHours.oneWay`).
-/
import BadgeEngine.Proofs.ClockChanges
import BadgeEngine.Proofs.InstantText

namespace BadgeEngine

open BadgeEngine.Time

/-! ## Numbers in texts -/

/-- numbers that are written in a width at the beginning of texts are read off them -/
theorem padded_append_inj {width m n : Nat} {x y : String} (hw : 0 < width) (hm : m < 10 ^ width) (hn : n < 10 ^ width)
    (h : padded width m ++ x = padded width n ++ y) : m = n ∧ x = y := by
  have first := padded_digits hw hm
  have second := padded_digits hw hn
  have lists := congrArg String.toList h
  rw [String.toList_append, String.toList_append] at lists
  have lengths : (padded width m).toList.length = (padded width n).toList.length := by
    have := first.length.trans second.length.symm
    rwa [List.length_map, List.length_map] at this
  obtain ⟨same, rest⟩ := List.append_inj lists lengths
  have read := first.read []
  rw [same, second.read []] at read
  exact ⟨(Prod.mk.inj (Option.some.inj read)).1.symm, String.toList_inj.1 rest⟩

theorem padded_inj {width m n : Nat} (hw : 0 < width) (hm : m < 10 ^ width) (hn : n < 10 ^ width)
    (h : padded width m = padded width n) : m = n :=
  (padded_append_inj (x := "") (y := "") hw hm hn (by rw [h])).1

theorem append_left_inj {x y z : String} (h : z ++ x = z ++ y) : x = y := by
  have lists := congrArg String.toList h
  rw [String.toList_append, String.toList_append] at lists
  exact String.toList_inj.1 (List.append_cancel_left lists)

theorem parts_inj {y y' m m' : Nat} {between x x' : String} (hy : y < 10 ^ 4) (hy' : y' < 10 ^ 4) (hm : m < 10 ^ 2)
    (hm' : m' < 10 ^ 2)
    (h : padded 4 y ++ between ++ padded 2 m ++ x = padded 4 y' ++ between ++ padded 2 m' ++ x') :
    y = y' ∧ m = m' ∧ x = x' := by
  simp only [String.append_assoc] at h
  have ⟨years, h⟩ := padded_append_inj (by decide) hy hy' h
  exact ⟨years, padded_append_inj (by decide) hm hm' (append_left_inj h)⟩

/-! ## Dates -/

namespace Time

theorem Date.parts_lt {d : Date} (hd : d.exists) : d.month < 10 ^ 2 ∧ d.day < 10 ^ 2 := by
  have := Date.day_le hd
  have := Date.exists_iff.1 hd
  omega

theorem Date.text_append_inj {d d' : Date} {x x' : String} (hd : d.exists) (hd' : d'.exists) (hy : d.year ≤ 9999)
    (hy' : d'.year ≤ 9999) (h : d.text ++ x = d'.text ++ x') : d = d' ∧ x = x' := by
  have split : ∀ (e : Date) (z : String), e.text ++ z =
      padded 4 e.year ++ "-" ++ padded 2 e.month ++ ("-" ++ (padded 2 e.day ++ z)) := fun e z => by
    simp only [text, String.append_assoc]
  rw [split, split] at h
  obtain ⟨hm, hday⟩ := parts_lt hd
  obtain ⟨hm', hday'⟩ := parts_lt hd'
  obtain ⟨years, months, h⟩ := parts_inj (Nat.lt_succ_of_le hy) (Nat.lt_succ_of_le hy') hm hm' h
  obtain ⟨days, rest⟩ := padded_append_inj (by decide) hday hday' (append_left_inj h)
  cases d
  cases d'
  cases years
  cases months
  cases days
  exact ⟨rfl, rest⟩

theorem monthOf_mono (leap : Bool) {d d' : Nat} (h : d ≤ d') : monthOf leap d ≤ monthOf leap d' := by
  unfold monthOf
  refine Nat.add_le_add_left (List.countP_mono_left fun m _ hm => ?_) 1
  rw [decide_eq_true_eq] at hm ⊢
  exact Nat.le_trans hm h

/-- a week is known by its year and its number in the year -/
theorem week_inj {n n' : Nat} (hy : weekYear n = weekYear n') (hw : weekNumber n = weekNumber n') : n / 7 = n' / 7 := by
  unfold weekYear weekNumber at *
  have first := daysBeforeYear_le (thursdayOf n)
  have second := daysBeforeYear_le (thursdayOf n')
  rw [hy] at first
  unfold thursdayOf at *
  omega

end Time

namespace CalendarPeriod

variable {c : CalendarPeriod} {l m : Moment}

/-- the number of the period a local time lies in -/
def number (c : CalendarPeriod) (t : Moment) : Nat :=
  match c with
  | year => t.date.year
  | month => t.date.year * 12 + t.date.month
  | week => t.dayNumber / 7
  | day => t.dayNumber
  | hour => t.hourNumber

theorem dayNumber_eq (t : Moment) : t.dayNumber = t.hourNumber / 24 := by
  unfold Moment.dayNumber Moment.hourNumber dayMicros
  omega

theorem hour_eq (t : Moment) : t.hour = t.hourNumber % 24 := rfl

theorem month_mono (h : l.dayNumber ≤ m.dayNumber) (hy : l.date.year = m.date.year) : l.date.month ≤ m.date.month := by
  replace hy : yearOfDay l.dayNumber = yearOfDay m.dayNumber := hy
  have first := daysBeforeYear_le l.dayNumber
  have second := daysBeforeYear_le m.dayNumber
  show monthOf (isLeap (yearOfDay l.dayNumber)) _ ≤ monthOf (isLeap (yearOfDay m.dayNumber)) _
  rw [hy] at first ⊢
  exact monthOf_mono _ (by omega)

/-- periods follow one another as hours do -/
theorem number_mono (c : CalendarPeriod) (h : l.hourNumber ≤ m.hourNumber) : c.number l ≤ c.number m := by
  have days : l.dayNumber ≤ m.dayNumber := by
    rw [dayNumber_eq, dayNumber_eq]
    exact Nat.div_le_div_right h
  cases c with
  | year => exact yearOfDay_mono days
  | month =>
    have first := Date.exists_iff.1 l.exists_date
    have second := Date.exists_iff.1 m.exists_date
    have years : l.date.year ≤ m.date.year := yearOfDay_mono days
    show l.date.year * 12 + l.date.month ≤ m.date.year * 12 + m.date.month
    rcases Nat.eq_or_lt_of_le years with same | later
    · have months := month_mono days same
      omega
    · omega
  | week => exact Nat.div_le_div_right days
  | day => exact days
  | hour => exact h

theorem date_eq_iff : l.date = m.date ↔ l.dayNumber = m.dayNumber := by
  refine ⟨fun h => ?_, congrArg dateOfDay⟩
  rw [← toDay_dateOfDay l.dayNumber, ← toDay_dateOfDay m.dayNumber]
  exact congrArg Date.toDay h

theorem month_key_iff : key month l = key month m ↔ number month l = number month m := by
  have first := Date.exists_iff.1 l.exists_date
  have second := Date.exists_iff.1 m.exists_date
  show _ ↔ l.date.year * 12 + l.date.month = m.date.year * 12 + m.date.month
  refine ⟨fun h => ?_, fun h => ?_⟩
  · have ⟨years, months, _⟩ := parts_inj (Nat.lt_succ_of_le l.year_le) (Nat.lt_succ_of_le m.year_le) (by omega)
      (by omega) (congrArg (· ++ "") h)
    rw [years, months]
  · obtain ⟨years, months⟩ : l.date.year = m.date.year ∧ l.date.month = m.date.month := by omega
    unfold key
    dsimp only
    rw [years, months]

theorem year_lt (t : Moment) : t.date.year < 10 ^ 4 := Nat.lt_succ_of_le t.year_le

theorem weekYear_lt (t : Moment) : weekYear t.dayNumber < 10 ^ 4 := by
  have := t.dayNumber_lt
  refine Nat.lt_succ_of_le (yearOfDay_le ?_)
  unfold thursdayOf
  omega

theorem weekNumber_lt (t : Moment) : weekNumber t.dayNumber < 10 ^ 2 := by
  have := dayInYear_lt (thursdayOf t.dayNumber)
  unfold weekNumber
  split at this <;> omega

theorem hour_lt (t : Moment) : t.hour < 10 ^ 2 := by
  rw [hour_eq]
  omega

theorem week_key_iff : key week l = key week m ↔ number week l = number week m := by
  show _ ↔ l.dayNumber / 7 = m.dayNumber / 7
  refine ⟨fun h => ?_, fun h => ?_⟩
  · have ⟨hy, hn, _⟩ := parts_inj (weekYear_lt l) (weekYear_lt m) (weekNumber_lt l) (weekNumber_lt m)
      (congrArg (· ++ "") h)
    exact week_inj hy hn
  · have thursdays : thursdayOf l.dayNumber = thursdayOf m.dayNumber := by
      unfold thursdayOf
      omega
    unfold key weekYear weekNumber
    dsimp only
    rw [thursdays]

theorem hour_key_iff : key hour l = key hour m ↔ number hour l = number hour m := by
  have hl := hour_eq l
  have hm := hour_eq m
  have days : l.dayNumber = m.dayNumber ↔ l.hourNumber / 24 = m.hourNumber / 24 := by rw [dayNumber_eq, dayNumber_eq]
  show l.date.text ++ "-H" ++ padded 2 l.hour = m.date.text ++ "-H" ++ padded 2 m.hour ↔ l.hourNumber = m.hourNumber
  rw [String.append_assoc, String.append_assoc]
  refine ⟨fun h => ?_, fun h => ?_⟩
  · obtain ⟨dates, h⟩ := Date.text_append_inj l.exists_date m.exists_date l.year_le m.year_le h
    have hours := padded_inj (by decide) (hour_lt l) (hour_lt m) (append_left_inj h)
    have := days.1 (date_eq_iff.1 dates)
    omega
  · rw [date_eq_iff.2 (days.2 (by rw [h])), hl, hm, h]

/-- **Keys.** Local times have the same key exactly when they lie in the same period. -/
theorem key_eq_iff : c.key l = c.key m ↔ c.number l = c.number m := by
  cases c with
  | year =>
    refine ⟨padded_inj (by decide) (Nat.lt_succ_of_le l.year_le) (Nat.lt_succ_of_le m.year_le), ?_⟩
    exact congrArg (padded 4)
  | month => exact month_key_iff
  | week => exact week_key_iff
  | day =>
    refine ⟨fun h => date_eq_iff.1 ?_, fun h => congrArg Date.text (date_eq_iff.2 h)⟩
    exact (Date.text_append_inj l.exists_date m.exists_date l.year_le m.year_le (congrArg (· ++ "") h)).1
  | hour => exact hour_key_iff

end CalendarPeriod

/-! ## Zones -/

/-- a zone in which the key of a period, as time goes on from the epoch, does not come back once it was left -/
def OneWay (z : Zone) (c : CalendarPeriod) : Prop :=
  ∀ t u v l m n, epoch ≤ t → t ≤ u → u ≤ v → localTime z t = .ok l → localTime z u = .ok m → localTime z v = .ok n →
    c.key l = c.key n → c.key m = c.key n

theorem localTime_ok {z : Zone} {t : Instant} {l : Moment} (h : localTime z t = .ok l) : z.localTime t = .ok l := by
  unfold localTime at h
  split at h
  case h_1 ht => cases h; exact ht
  case h_2 => cases h
  case h_3 => cases h

/-- where clocks do not come back to an hour, keys do not come back -/
theorem Time.Zone.KeepsHours.oneWay {z : Zone} (h : z.KeepsHours) (c : CalendarPeriod) : OneWay z c := by
  intro t u v l m n ht htu huv hl hm hn same
  have first := c.number_mono (h t u l m ht htu (localTime_ok hl) (localTime_ok hm))
  have second := c.number_mono (h u v m n (Nat.le_trans ht htu) huv (localTime_ok hm) (localTime_ok hn))
  rw [CalendarPeriod.key_eq_iff] at same ⊢
  omega

end BadgeEngine
