/-
The keys of the calendar as names. A key names the very stretch of the calendar that people call a year, a month, a week
from Monday to Sunday, a day or an hour, and keys sort as texts in the order of time (`keys_name_buckets`).

Every key is a row of numbers in fixed widths with the same texts between them. Two such rows compare as texts the way
their numbers do, the first number that differs deciding (`padded_append_le`). For weeks that number may be the year of
the week, which is not the year of the day: the days around New Year belong to the year of their Thursday.
-/
import BadgeEngine.Proofs.Buckets
import BadgeEngine.Proofs.CounterKey

namespace BadgeEngine

open BadgeEngine.Time

/-! ## Numbers as texts -/

theorem le_ofDigitChars (cs : List Char) (m : Nat) : m * 10 ^ cs.length ≤ Nat.ofDigitChars 10 cs m := by
  induction cs generalizing m with
  | nil => simp
  | cons c cs ih =>
    rw [Nat.ofDigitChars_cons, List.length_cons]
    calc m * 10 ^ (cs.length + 1) = 10 * m * 10 ^ cs.length := by rw [Nat.pow_succ', ← Nat.mul_assoc, Nat.mul_comm m]
      _ ≤ (10 * m + (c.toNat - '0'.toNat)) * 10 ^ cs.length := Nat.mul_le_mul_right _ (Nat.le_add_right ..)
      _ ≤ Nat.ofDigitChars 10 cs (10 * m + (c.toNat - '0'.toNat)) := ih _

/-- of two numbers with as many digits the one that is less as a text is less -/
theorem ofDigitChars_lt_of_lt {cs ds : List Char} (hc : ∀ c ∈ cs, c.isDigit) (hd : ∀ d ∈ ds, d.isDigit)
    (hl : cs.length = ds.length) (h : cs < ds) {m n : Nat} (hmn : m ≤ n) :
    Nat.ofDigitChars 10 cs m < Nat.ofDigitChars 10 ds n := by
  induction cs generalizing ds m n with
  | nil =>
    rw [List.length_nil, eq_comm, List.length_eq_zero_iff] at hl
    rw [hl] at h
    exact absurd h (List.not_lt_nil _)
  | cons c cs ih =>
    cases ds with
    | nil => cases hl
    | cons d ds =>
      replace hl := Nat.succ.inj hl
      have first := Char.isDigit_iff_toNat.1 (hc c List.mem_cons_self)
      have digits : ∀ c ∈ cs, c.isDigit := fun e he => hc e (List.mem_cons_of_mem _ he)
      rw [Nat.ofDigitChars_cons, Nat.ofDigitChars_cons]
      rcases List.cons_lt_cons_iff.1 h with less | ⟨rfl, less⟩
      · -- the digits that follow are worth less than one of this digit
        have step : c.toNat < d.toNat := UInt32.lt_iff_toNat_lt.1 less
        have zero : '0'.toNat = 48 := rfl
        calc Nat.ofDigitChars 10 cs (10 * m + (c.toNat - '0'.toNat))
            < (10 * m + (c.toNat - '0'.toNat) + 1) * 10 ^ cs.length := ofDigitChars_lt digits _
          _ ≤ (10 * n + (d.toNat - '0'.toNat)) * 10 ^ ds.length := by
            rw [hl]
            exact Nat.mul_le_mul_right _ (by omega)
          _ ≤ Nat.ofDigitChars 10 ds (10 * n + (d.toNat - '0'.toNat)) := le_ofDigitChars ds _
      · exact ih digits (fun e he => hd e (List.mem_cons_of_mem _ he)) hl less (by omega)

theorem append_lt_append {cs ds xs ys : List Char} (hl : cs.length = ds.length) (h : cs < ds) : cs ++ xs < ds ++ ys := by
  induction cs generalizing ds with
  | nil =>
    rw [List.length_nil, eq_comm, List.length_eq_zero_iff] at hl
    rw [hl] at h
    exact absurd h (List.not_lt_nil _)
  | cons c cs ih =>
    cases ds with
    | nil => cases hl
    | cons d ds =>
      rw [List.cons_append, List.cons_append, List.cons_lt_cons_iff]
      exact (List.cons_lt_cons_iff.1 h).imp_right fun ⟨same, less⟩ => ⟨same, ih (Nat.succ.inj hl) less⟩

/-- what is common to the beginning of two texts does not order them -/
theorem append_left_le {x y : String} (z : String) (h : x ≤ y) : z ++ x ≤ z ++ y := by
  rw [← String.not_lt, String.lt_iff] at h ⊢
  rw [String.toList_append, String.toList_append]
  exact List.append_left_le h

variable {width m n : Nat} {x y : String}

theorem padded_length (hw : 0 < width) (hn : n < 10 ^ width) : (padded width n).toList.length = width := by
  rw [← List.length_map (f := Char.toNat)]
  exact (padded_digits hw hn).length

theorem padded_lt (hw : 0 < width) (hm : m < 10 ^ width) (hn : n < 10 ^ width) (h : m < n) :
    (padded width m).toList < (padded width n).toList := by
  refine Decidable.by_contra fun not => ?_
  rcases List.le_iff_lt_or_eq.1 (List.not_lt.1 not) with less | same
  · have back := ofDigitChars_lt_of_lt (fun _ => isDigit_of_mem_padded) (fun _ => isDigit_of_mem_padded)
      ((padded_length hw hn).trans (padded_length hw hm).symm) less (Nat.le_refl 0)
    rw [padded_value, padded_value] at back
    exact Nat.lt_asymm h back
  · rw [← padded_value width m, ← padded_value width n, same] at h
    exact Nat.lt_irrefl _ h

/-- texts that begin with numbers in a width compare as these do, and where these are the same, as what follows -/
theorem padded_append_le (hw : 0 < width) (hm : m < 10 ^ width) (hn : n < 10 ^ width) (h : m ≤ n)
    (hx : m = n → x ≤ y) : padded width m ++ x ≤ padded width n ++ y := by
  rcases Nat.lt_or_eq_of_le h with less | same
  · have row : (padded width m).toList ++ x.toList < (padded width n).toList ++ y.toList :=
      append_lt_append ((padded_length hw hm).trans (padded_length hw hn).symm) (padded_lt hw hm hn less)
    rw [← String.toList_append, ← String.toList_append, ← String.lt_iff] at row
    exact String.not_lt.1 fun back => String.lt_irrefl _ (String.lt_trans row back)
  · rw [same]
    exact append_left_le _ (hx same)

theorem padded_le (hw : 0 < width) (hm : m < 10 ^ width) (hn : n < 10 ^ width) (h : m ≤ n) :
    padded width m ≤ padded width n := by
  rw [← String.append_empty (s := padded width m), ← String.append_empty (s := padded width n)]
  exact padded_append_le hw hm hn h fun _ => String.le_refl _

/-! ## Days -/

namespace Time

/-- the Monday of a day's week -/
def mondayOf (n : Nat) : Nat := n - (weekday n - 1)

theorem weekday_mondayOf (n : Nat) : weekday (mondayOf n) = 1 := by
  unfold mondayOf weekday
  omega

/-- a week is the seven days from its Monday on -/
theorem mondayOf_eq_iff {k n : Nat} (hk : weekday k = 1) : mondayOf n = k ↔ k ≤ n ∧ n < k + 7 := by
  unfold mondayOf weekday at *
  omega

theorem weekYear_mono {k n : Nat} (h : k ≤ n) : weekYear k ≤ weekYear n := by
  refine yearOfDay_mono ?_
  unfold thursdayOf
  omega

theorem weekNumber_mono {k n : Nat} (h : k ≤ n) (hy : weekYear k = weekYear n) : weekNumber k ≤ weekNumber n := by
  have first := daysBeforeYear_le (thursdayOf k)
  have second := daysBeforeYear_le (thursdayOf n)
  unfold weekYear at hy
  unfold weekNumber
  rw [hy] at first
  unfold thursdayOf at *
  omega

theorem Date.text_append_le {d d' : Date} {x x' : String} (hd : d.exists) (hd' : d'.exists) (hy : d.year < 10 ^ 4)
    (hy' : d'.year < 10 ^ 4) (years : d.year ≤ d'.year) (months : d.year = d'.year → d.month ≤ d'.month)
    (days : d.year = d'.year → d.month = d'.month → d.day ≤ d'.day) (hx : d = d' → x ≤ x') :
    d.text ++ x ≤ d'.text ++ x' := by
  obtain ⟨hm, hday⟩ := parts_lt hd
  obtain ⟨hm', hday'⟩ := parts_lt hd'
  simp only [Date.text, String.append_assoc]
  refine padded_append_le (by decide) hy hy' years fun sameYear => append_left_le _ ?_
  refine padded_append_le (by decide) hm hm' (months sameYear) fun sameMonth => append_left_le _ ?_
  refine padded_append_le (by decide) hday hday' (days sameYear sameMonth) fun sameDay => hx ?_
  cases d
  cases d'
  cases sameYear
  cases sameMonth
  cases sameDay
  rfl

end Time

namespace CalendarPeriod

variable {l k : Moment}

theorem day_mono (h : l.dayNumber ≤ k.dayNumber) (hy : l.date.year = k.date.year) (hm : l.date.month = k.date.month) :
    l.date.day ≤ k.date.day := by
  have first : l.date.toDay = l.dayNumber := toDay_dateOfDay l.dayNumber
  have second : k.date.toDay = k.dayNumber := toDay_dateOfDay k.dayNumber
  have := Date.exists_iff.1 l.exists_date
  have := Date.exists_iff.1 k.exists_date
  unfold Date.toDay at first second
  rw [hy, hm] at first
  omega

theorem date_append_le {x y : String} (h : l.dayNumber ≤ k.dayNumber) (hx : l.dayNumber = k.dayNumber → x ≤ y) :
    l.date.text ++ x ≤ k.date.text ++ y :=
  Date.text_append_le l.exists_date k.exists_date (year_lt l) (year_lt k) (yearOfDay_mono h) (month_mono h) (day_mono h)
    fun same => hx (date_eq_iff.1 same)

/-- keys sort as texts in the order of time -/
theorem key_mono (c : CalendarPeriod) (h : l ≤ k) : c.key l ≤ c.key k := by
  have hours : l.hourNumber ≤ k.hourNumber := Nat.div_le_div_right h
  have days : l.dayNumber ≤ k.dayNumber := Nat.div_le_div_right h
  cases c with
  | year => exact padded_le (by decide) (year_lt l) (year_lt k) (yearOfDay_mono days)
  | month =>
    simp only [key, String.append_assoc]
    refine padded_append_le (by decide) (year_lt l) (year_lt k) (yearOfDay_mono days) fun same => append_left_le _ ?_
    exact padded_le (by decide) (Date.parts_lt l.exists_date).1 (Date.parts_lt k.exists_date).1 (month_mono days same)
  | week =>
    simp only [key, String.append_assoc]
    refine padded_append_le (by decide) (weekYear_lt l) (weekYear_lt k) (weekYear_mono days) fun same =>
      append_left_le _ ?_
    exact padded_le (by decide) (weekNumber_lt l) (weekNumber_lt k) (weekNumber_mono days same)
  | day =>
    have texts := date_append_le (x := "") (y := "") days fun _ => String.le_refl _
    rwa [String.append_empty, String.append_empty] at texts
  | hour =>
    simp only [key, String.append_assoc]
    refine date_append_le days fun same => append_left_le _ ?_
    refine padded_le (by decide) (hour_lt l) (hour_lt k) ?_
    rw [dayNumber_eq, dayNumber_eq] at same
    rw [hour_eq, hour_eq]
    omega

/-- whether two local times lie in one year, in one month of one year, in one week from Monday to Sunday, on one date or
in one hour of one date -/
def Shares (c : CalendarPeriod) (l k : Moment) : Prop :=
  match c with
  | year => l.date.year = k.date.year
  | month => l.date.year = k.date.year ∧ l.date.month = k.date.month
  | week => mondayOf l.dayNumber = mondayOf k.dayNumber
  | day => l.date = k.date
  | hour => l.date = k.date ∧ l.hour = k.hour

instance (c : CalendarPeriod) (l k : Moment) : Decidable (c.Shares l k) :=
  match c with
  | year => inferInstanceAs (Decidable (l.date.year = k.date.year))
  | month => inferInstanceAs (Decidable (l.date.year = k.date.year ∧ l.date.month = k.date.month))
  | week => inferInstanceAs (Decidable (mondayOf l.dayNumber = mondayOf k.dayNumber))
  | day => inferInstanceAs (Decidable (l.date = k.date))
  | hour => inferInstanceAs (Decidable (l.date = k.date ∧ l.hour = k.hour))

theorem shares_iff {c : CalendarPeriod} : c.Shares l k ↔ c.number l = c.number k := by
  have first := Date.exists_iff.1 l.exists_date
  have second := Date.exists_iff.1 k.exists_date
  cases c with
  | year => exact Iff.rfl
  | month =>
    show l.date.year = k.date.year ∧ _ ↔ l.date.year * 12 + l.date.month = k.date.year * 12 + k.date.month
    omega
  | week =>
    show mondayOf l.dayNumber = mondayOf k.dayNumber ↔ l.dayNumber / 7 = k.dayNumber / 7
    unfold mondayOf weekday
    omega
  | day => exact date_eq_iff
  | hour =>
    show l.date = k.date ∧ l.hour = k.hour ↔ l.hourNumber = k.hourNumber
    rw [date_eq_iff, dayNumber_eq, dayNumber_eq, hour_eq, hour_eq]
    omega

theorem key_eq_iff_shares {c : CalendarPeriod} : c.key l = c.key k ↔ c.Shares l k := key_eq_iff.trans shares_iff.symm

/-- **Names of buckets.** Two local times have the same key of a period exactly when they lie in the same year, in the
same month of the same year, in the same week from Monday to Sunday, on the same date or in the same hour of the same
date; and of two local times the one that is not later has a key that is not later in the order of texts. -/
theorem keys_name_buckets (c : CalendarPeriod) (l k : Moment) :
    (c.key l = c.key k ↔ c.Shares l k) ∧ (l ≤ k → c.key l ≤ c.key k) :=
  ⟨key_eq_iff_shares, key_mono c⟩

/-- midnight of Thursday, 2020-12-31 -/
def yearsEnd : Moment := ⟨737789 * dayMicros, by decide⟩

/-- midnight of Friday, 2021-01-01 -/
def newYear : Moment := ⟨737790 * dayMicros, by decide⟩

/-- the turn of a year lies within a week, whose key is of the old year -/
theorem newYear_keys :
    week.key yearsEnd = week.key newYear ∧ year.key yearsEnd ≠ year.key newYear ∧ yearsEnd ≤ newYear ∧
      year.key yearsEnd ≤ year.key newYear := by
  refine ⟨(keys_name_buckets week yearsEnd newYear).1.2 (by decide), fun same => ?_, by decide,
    (keys_name_buckets year yearsEnd newYear).2 (by decide)⟩
  exact absurd ((keys_name_buckets year yearsEnd newYear).1.1 same) (by decide)

example : week.key newYear = "2020-W53" := by decide +kernel

end CalendarPeriod

end BadgeEngine
