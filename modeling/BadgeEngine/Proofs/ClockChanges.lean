/-
Zones whose clocks, as time goes on, never come back to an hour they have left (`KeepsHours`).

Clocks may be set back all the same: an hour at two o'clock, and they show an hour that they have not left. Whether the
changes of a zone are all of this kind is seen from its rules (`ZoneRules.keepsHours`), since nothing else moves its
clocks from one second to the next (`hourAt_step`). By that, the clocks of all zones known by name but one keep their
hours from 1970 on (`keepsHours_ofName`).
-/
import Mathlib.Algebra.Order.Ring.Int
import Mathlib.Order.Monotone.Basic
import BadgeEngine.Proofs.Calendar
import BadgeEngine.Proofs.Windows
import BadgeEngine.Time.Zone

namespace BadgeEngine.Time

/-! ## Years -/

/-- the days before a year grow by at least 365 from year to year -/
theorem daysBeforeYear_add_le {y : Nat} (hy : 1 ≤ y) : daysBeforeYear y + 365 ≤ daysBeforeYear (y + 1) := by
  -- the centuries and the cycles of 400 years are counted by the leap years of four
  have centuries : ∀ k, k / 100 = k / 4 / 25 := fun k => (Nat.div_div_eq_div_mul k 4 25).symm
  have cycles : ∀ k, k / 400 = k / 4 / 25 / 4 := fun k => by rw [← centuries, Nat.div_div_eq_div_mul]
  unfold daysBeforeYear
  simp only [centuries, cycles]
  omega

theorem daysBeforeYear_mono {y y' : Nat} (hy : 1 ≤ y) (h : y ≤ y') : daysBeforeYear y ≤ daysBeforeYear y' := by
  induction y', h using Nat.le_induction with
  | base => exact Nat.le_refl _
  | succ z hz ih => have := daysBeforeYear_add_le (Nat.le_trans hy hz); omega

theorem lt_daysBeforeYear (n : Nat) : n < daysBeforeYear (yearOfDay n + 1) := by
  obtain ⟨q, c, f, j, d, hy, hn, hc, hf, hj, hlast, hlong⟩ := yearOfDay_parts n
  rw [hy, hn]
  unfold daysBeforeYear
  omega

theorem yearOfDay_mono {n n' : Nat} (h : n ≤ n') : yearOfDay n ≤ yearOfDay n' := by
  by_contra hlt
  have later := daysBeforeYear_mono (Nat.le_add_left 1 _) (Nat.succ_le_of_lt (Nat.lt_of_not_le hlt))
  have before := daysBeforeYear_le n
  have after := lt_daysBeforeYear n'
  omega

/-- the day after a day lies in the same year, or is the first of the next year -/
theorem yearOfDay_succ (n : Nat) : yearOfDay (n + 1) = yearOfDay n ∨
    yearOfDay (n + 1) = yearOfDay n + 1 ∧ n + 1 = daysBeforeYear (yearOfDay n + 1) := by
  rcases Nat.eq_or_lt_of_le (yearOfDay_mono (Nat.le_add_right n 1)) with h | h
  · exact .inl h.symm
  · replace h : yearOfDay n + 1 ≤ yearOfDay (n + 1) := h
    have after := lt_daysBeforeYear n
    have before := daysBeforeYear_le (n + 1)
    have later := daysBeforeYear_mono (Nat.le_add_left 1 _) h
    refine .inr ⟨?_, by omega⟩
    by_contra hne
    have next := daysBeforeYear_add_le (Nat.le_add_left 1 (yearOfDay n))
    have skipped := daysBeforeYear_mono (Nat.le_add_left 1 _) (Nat.lt_of_le_of_ne h (Ne.symm hne))
    omega

/-! ## Hours -/

/-- the hour that clocks show at a second, under an offset -/
def hourAt (o t : Int) : Int := (t + o) / 3600

/-- clocks that are not set back do not come back to an hour -/
theorem hourAt_ahead {o o' : Int} (h : o ≤ o') (t : Int) : hourAt o t ≤ hourAt o' (t + 1) := by
  unfold hourAt
  omega

/-! ## Changes -/

def offsetAfter (o : Int) (changes : List (Int × Int)) (t : Int) : Int :=
  changes.foldl (fun o c => if c.1 ≤ t then c.2 else o) o

/-- changes in rising order, none of which sets clocks back from 1970 on to before the hour they show -/
def changesKeepHours : Int → List (Int × Int) → Bool
  | _, [] => true
  | o, (a, o') :: changes =>
    (a ≤ 0 || hourAt o (a - 1) ≤ hourAt o' a) && changes.head?.all (a < ·.1) && changesKeepHours o' changes

theorem changesKeepHours_cons {o o' a : Int} {changes : List (Int × Int)} :
    changesKeepHours o ((a, o') :: changes) ↔ (a ≤ 0 ∨ hourAt o (a - 1) ≤ hourAt o' a) ∧
      (∀ c, changes.head? = some c → a < c.1) ∧ changesKeepHours o' changes := by
  simp only [changesKeepHours, Bool.and_eq_true, Bool.or_eq_true, decide_eq_true_eq, Option.all_eq_true, and_assoc]

theorem changes_rise {o : Int} {c : Int × Int} {changes : List (Int × Int)} (h : changesKeepHours o (c :: changes)) :
    ∀ c' ∈ changes, c.1 < c'.1 := by
  induction changes generalizing o c with
  | nil => exact fun _ h => nomatch h
  | cons d changes ih =>
    obtain ⟨-, hd, hrest⟩ := changesKeepHours_cons.1 h
    have next := hd d rfl
    intro c' hc'
    rcases List.mem_cons.1 hc' with rfl | hc'
    · exact next
    · exact Int.lt_trans next (ih hrest c' hc')

theorem offsetAfter_of_lt {o t : Int} {changes : List (Int × Int)} (h : ∀ c ∈ changes, t < c.1) :
    offsetAfter o changes t = o := by
  unfold offsetAfter
  induction changes with
  | nil => rfl
  | cons c changes ih =>
    have hc : ¬ c.1 ≤ t := Int.not_le.2 (h c List.mem_cons_self)
    rw [List.foldl_cons, if_neg hc]
    exact ih fun c hc => h c (List.mem_cons_of_mem _ hc)

theorem changes_step {o t : Int} {changes : List (Int × Int)} (h : changesKeepHours o changes) (ht : 0 ≤ t) :
    hourAt (offsetAfter o changes t) t ≤ hourAt (offsetAfter o changes (t + 1)) (t + 1) := by
  induction changes generalizing o with
  | nil => exact hourAt_ahead (Int.le_refl _) t
  | cons c changes ih =>
    obtain ⟨a, o'⟩ := c
    have hrising := changes_rise h
    obtain ⟨hkeeps, -, hrest⟩ := changesKeepHours_cons.1 h
    have unfolded : ∀ u, offsetAfter o ((a, o') :: changes) u = offsetAfter (if a ≤ u then o' else o) changes u :=
      fun _ => rfl
    rw [unfolded, unfolded]
    rcases Int.lt_trichotomy a (t + 1) with hlt | rfl | hgt
    · -- the change lies behind
      rw [if_pos (by omega), if_pos (by omega)]
      exact ih hrest
    · rw [if_neg (by omega), if_pos (Int.le_refl _), offsetAfter_of_lt fun c hc => ?_, offsetAfter_of_lt hrising]
      · rcases hkeeps with hearly | hkeeps
        · omega
        · rwa [Int.add_sub_cancel] at hkeeps
      · have := hrising c hc
        omega
    · rw [if_neg (by omega), if_neg (by omega), offsetAfter_of_lt fun c hc => ?_, offsetAfter_of_lt fun c hc => ?_]
      · exact hourAt_ahead (Int.le_refl _) t
      all_goals
        have := hrising c hc
        omega

/-! ## Yearly rules -/

/-- the year a second of UTC lies in -/
def yearAt (t : Int) : Nat := yearOfDay ((t + 62135596800).toNat / 86400)

def yearBegins (y : Nat) : Int := ((daysBeforeYear y : Nat) - 719162) * 86400

theorem yearAt_succ {t : Int} (ht : 0 ≤ t) : yearAt (t + 1) = yearAt t ∨
    yearAt (t + 1) = yearAt t + 1 ∧ t + 1 = yearBegins (yearAt t + 1) := by
  unfold yearAt yearBegins
  generalize hn : (t + 62135596800).toNat / 86400 = n
  generalize hm : (t + 1 + 62135596800).toNat / 86400 = m
  rcases Nat.eq_or_lt_of_le (show n ≤ m by omega) with rfl | h
  · exact .inl rfl
  · obtain rfl : m = n + 1 := by omega
    refine (yearOfDay_succ n).imp_right fun ⟨hy, hfirst⟩ => ⟨hy, ?_⟩
    rw [← hfirst]
    omega

/-- a day of a rule that lies within the year, with a time of day -/
def YearDay.isInner (d : YearDay) : Bool := 2 ≤ d.month && d.month ≤ 11 && d.week ≤ 5 && d.seconds ≤ 86400

theorem YearDay.isInner_iff {d : YearDay} :
    d.isInner ↔ 2 ≤ d.month ∧ d.month ≤ 11 ∧ d.week ≤ 5 ∧ d.seconds ≤ 86400 := by
  simp only [isInner, Bool.and_eq_true, decide_eq_true_eq, and_assoc]

/-- a rule of less than a day ahead or behind, by which clocks are set back by an hour at most, and on the hour; it
starts and stops in months that are apart -/
def Daylight.keepsHours (d : Daylight) (standard : Int) : Bool :=
  -86400 ≤ standard && standard ≤ d.offset && d.offset ≤ standard + 3600 && d.offset ≤ 86400 &&
    d.stop.seconds % 3600 = 0 && d.start.isInner && d.stop.isInner &&
    (d.start.month + 2 ≤ d.stop.month || d.stop.month + 2 ≤ d.start.month)

theorem daysBeforeMonth_bounds : ∀ leap : Bool, ∀ m ≤ 11, 2 ≤ m →
    31 ≤ daysBeforeMonth leap m ∧ daysBeforeMonth leap m ≤ 305 := by
  decide

theorem daysBeforeMonth_apart : ∀ leap : Bool, ∀ m ≤ 11, ∀ m' ≤ 11, 2 ≤ m → m + 2 ≤ m' →
    daysBeforeMonth leap m + 59 ≤ daysBeforeMonth leap m' := by
  decide

/-- the second of a rule in a year, from the year's beginning -/
theorem secondIn_bounds {d : YearDay} (hd : d.isInner) (y : Nat) : ∃ day : Nat, day ≤ 34 ∧
    d.secondIn y = yearBegins y + (daysBeforeMonth (isLeap y) d.month + day : Nat) * 86400 + d.seconds := by
  obtain ⟨-, -, hweek, -⟩ := YearDay.isInner_iff.1 hd
  unfold YearDay.secondIn yearBegins
  dsimp only
  generalize hlead : (d.weekday + 7 - (daysBeforeYear y + daysBeforeMonth (isLeap y) d.month + 1) % 7) % 7 = lead
  have few : lead ≤ 6 := by omega
  split
  case isTrue => exact ⟨lead + (d.week - 1) * 7 - 7, by omega, by omega⟩
  case isFalse => exact ⟨lead + (d.week - 1) * 7, by omega, by omega⟩

/-- what holds of a rule whose clocks keep their hours, in numbers -/
theorem Daylight.keepsHours_iff {d : Daylight} {standard : Int} : d.keepsHours standard ↔
    (-86400 ≤ standard ∧ standard ≤ d.offset ∧ d.offset ≤ standard + 3600 ∧ d.offset ≤ 86400) ∧
      d.stop.seconds % 3600 = 0 ∧ d.start.isInner ∧ d.stop.isInner ∧
      (d.start.month + 2 ≤ d.stop.month ∨ d.stop.month + 2 ≤ d.start.month) := by
  simp only [Daylight.keepsHours, Bool.and_eq_true, Bool.or_eq_true, decide_eq_true_eq, and_assoc]

/-- the offset of a rule at a second of a year -/
def Daylight.offsetIn (d : Daylight) (standard : Int) (y : Nat) (t : Int) : Int :=
  if d.holds standard y t then d.offset else standard

theorem Daylight.holds_iff {d : Daylight} {standard t : Int} {y : Nat} {start stop : Int}
    (hstart : d.start.secondIn y - standard = start) (hstop : d.stop.secondIn y - d.offset = stop) :
    d.holds standard y t ↔ start < stop ∧ start ≤ t ∧ t < stop ∨ stop ≤ start ∧ (t < stop ∨ start ≤ t) := by
  unfold holds
  dsimp only
  rw [hstart, hstop]
  split
  case isTrue h =>
    simp only [Bool.and_eq_true, decide_eq_true_eq]
    omega
  case isFalse h =>
    simp only [Bool.not_eq_true', Bool.and_eq_false_iff, decide_eq_false_iff_not]
    omega

/-- within a year -/
theorem Daylight.step {d : Daylight} {standard : Int} (h : d.keepsHours standard) (y : Nat) (t : Int) :
    hourAt (d.offsetIn standard y t) t ≤ hourAt (d.offsetIn standard y (t + 1)) (t + 1) := by
  obtain ⟨⟨-, hahead, hhour, -⟩, hsharp, -, hstop, -⟩ := keepsHours_iff.1 h
  obtain ⟨day, -, hsecond⟩ := secondIn_bounds hstop y
  have sharp : (d.stop.secondIn y) % 3600 = 0 := by
    rw [hsecond]
    unfold yearBegins
    omega
  unfold offsetIn
  by_cases hheld : d.holds standard y t
  · rw [if_pos hheld]
    split
    case isTrue => exact hourAt_ahead (Int.le_refl _) t
    case isFalse hnot =>
      -- clocks are set back at the next second, which is sharp
      have stops : t + 1 + d.offset = d.stop.secondIn y := by
        rw [holds_iff rfl rfl] at hheld hnot
        omega
      unfold hourAt
      omega
  · rw [if_neg hheld]
    split
    case isTrue => exact hourAt_ahead hahead t
    case isFalse => exact hourAt_ahead (Int.le_refl _) t

/-- from the last second of a year to the first of the next -/
theorem Daylight.step_year {d : Daylight} {standard : Int} (h : d.keepsHours standard) {y : Nat} {t : Int} (hy : 1 ≤ y)
    (ht : t + 1 = yearBegins (y + 1)) :
    hourAt (d.offsetIn standard y t) t ≤ hourAt (d.offsetIn standard (y + 1) (t + 1)) (t + 1) := by
  obtain ⟨⟨hstandard, hahead, -, hoffset⟩, -, hstart, hstop, hapart⟩ := keepsHours_iff.1 h
  -- daylight time at the end of a year goes on
  have goes : d.holds standard y t → d.holds standard (y + 1) (t + 1) := by
    have year := daysBeforeYear_add_le hy
    obtain ⟨hm, hm', -, hs⟩ := YearDay.isInner_iff.1 hstart
    obtain ⟨hk, hk', -, hu⟩ := YearDay.isInner_iff.1 hstop
    have months := fun leap => daysBeforeMonth_bounds leap _ hk' hk
    obtain ⟨i, hi, hstart₀⟩ := secondIn_bounds hstart y
    obtain ⟨j, hj, hstop₀⟩ := secondIn_bounds hstop y
    obtain ⟨i', hi', hstart₁⟩ := secondIn_bounds hstart (y + 1)
    obtain ⟨j', hj', hstop₁⟩ := secondIn_bounds hstop (y + 1)
    rw [holds_iff rfl rfl, holds_iff rfl rfl, hstart₀, hstart₁, hstop₀, hstop₁]
    have first := months (isLeap y)
    have second := months (isLeap (y + 1))
    unfold yearBegins at *
    rcases hapart with hapart | hapart
    · have apart := fun leap => daysBeforeMonth_apart leap _ hm' _ hk' hm hapart
      have apart₀ := apart (isLeap y)
      have apart₁ := apart (isLeap (y + 1))
      omega
    · have apart := fun leap => daysBeforeMonth_apart leap _ hk' _ hm' hk hapart
      have apart₀ := apart (isLeap y)
      have apart₁ := apart (isLeap (y + 1))
      omega
  unfold offsetIn
  by_cases hheld : d.holds standard y t
  · rw [if_pos hheld, if_pos (goes hheld)]
    exact hourAt_ahead (Int.le_refl _) t
  · rw [if_neg hheld]
    split
    case isTrue => exact hourAt_ahead hahead t
    case isFalse => exact hourAt_ahead (Int.le_refl _) t

/-! ## Zones -/

namespace ZoneRules

variable {z : ZoneRules}

/-- the offset of rules at a second of UTC -/
def offset (z : ZoneRules) (t : Int) : Int :=
  if z.ruleFrom.all (· ≤ t) then z.ruleOffset (yearAt t) t else offsetAfter z.initial z.changes t

/-- whether a zone's clocks are never set back from 1970 on to before the hour they show, as far as its rules are known
to tell: by the changes, by the yearly rule, and where the rule takes over -/
def keepsHours (z : ZoneRules) : Bool :=
  changesKeepHours z.initial z.changes && z.daylight.all (·.keepsHours z.standard) &&
    z.ruleFrom.all fun a => a ≤ 0 || hourAt (offsetAfter z.initial z.changes (a - 1)) (a - 1) ≤
      hourAt (z.ruleOffset (yearAt a) a) a

theorem ruleOffset_step (h : z.daylight.all (·.keepsHours z.standard)) {t : Int} (ht : 0 ≤ t) :
    hourAt (z.ruleOffset (yearAt t) t) t ≤ hourAt (z.ruleOffset (yearAt (t + 1)) (t + 1)) (t + 1) := by
  unfold ruleOffset
  cases hd : z.daylight with
  | none => exact hourAt_ahead (Int.le_refl _) t
  | some d =>
    rw [hd, Option.all_some] at h
    rcases yearAt_succ ht with hy | ⟨hy, hfirst⟩ <;> rw [hy]
    · exact d.step h (yearAt t) t
    · exact d.step_year h (one_le_yearOfDay _) hfirst

/-- from second to second clocks do not come back to an hour -/
theorem offset_step (h : z.keepsHours) {t : Int} (ht : 0 ≤ t) :
    hourAt (z.offset t) t ≤ hourAt (z.offset (t + 1)) (t + 1) := by
  simp only [keepsHours, Bool.and_eq_true] at h
  obtain ⟨⟨hchanges, hdaylight⟩, hjoint⟩ := h
  unfold offset
  cases hfrom : z.ruleFrom with
  | none => exact ruleOffset_step hdaylight ht
  | some a =>
    rw [hfrom] at hjoint
    simp only [Option.all_some, Bool.or_eq_true, decide_eq_true_eq] at hjoint ⊢
    rcases Int.lt_trichotomy a (t + 1) with hlt | rfl | hgt
    · rw [if_pos (by omega), if_pos (by omega)]
      exact ruleOffset_step hdaylight ht
    · -- the rule takes over
      rw [if_neg (by omega), if_pos (Int.le_refl _)]
      rcases hjoint with hearly | hjoint
      · omega
      · rwa [Int.add_sub_cancel] at hjoint
    · rw [if_neg (by omega), if_neg (by omega)]
      exact changes_step hchanges ht

theorem hourAt_mono (h : z.keepsHours) {t u : Int} (ht : 0 ≤ t) (htu : t ≤ u) :
    hourAt (z.offset t) t ≤ hourAt (z.offset u) u := by
  induction u, htu using Int.leInduction with
  | base => exact Int.le_refl _
  | succ u hu ih => exact Int.le_trans ih (offset_step h (Int.le_trans ht hu))

theorem offsetAt_eq (z : ZoneRules) (i : Instant) : z.offsetAt i = z.offset i.unixSecond := by
  have day : i.dayNumber = (i.unixSecond + 62135596800).toNat / 86400 := by
    unfold Moment.dayNumber Moment.unixSecond dayMicros
    omega
  unfold offsetAt offset yearAt Moment.date
  rw [day]
  rfl

end ZoneRules

theorem Moment.unixSecond_mono {t u : Moment} (h : t ≤ u) : t.unixSecond ≤ u.unixSecond := by
  rw [le_iff] at h
  unfold unixSecond
  omega

theorem Moment.unixSecond_nonneg {t : Moment} (h : epoch ≤ t) : 0 ≤ t.unixSecond := unixSecond_mono h

/-- the hour a moment lies in, counted from the first -/
def Moment.hourNumber (t : Moment) : Nat := t.micros / 3600000000

/-- clocks that from 1970 on, as time goes on, never come back to an hour they have left -/
def Zone.KeepsHours (z : Zone) : Prop :=
  ∀ t u l m, epoch ≤ t → t ≤ u → z.localTime t = .ok l → z.localTime u = .ok m → l.hourNumber ≤ m.hourNumber

theorem Moment.hourNumber_of_shift {t l : Moment} {o : Int} (h : t.shift? (o * 1000000) = some l) :
    (l.hourNumber : Int) = hourAt o t.unixSecond + 17259888 := by
  unfold shift? ofMicros? at h
  split at h
  case isTrue =>
    cases h
    unfold hourNumber hourAt unixSecond
    dsimp only
    omega
  case isFalse => cases h

theorem Zone.localTime_shift {z : Zone} {t : Instant} {l : Moment} (h : z.localTime t = .ok l) :
    ∃ o, z.offsetAt? t = some o ∧ t.shift? (o * 1000000) = some l := by
  cases z with
  | unusable => cases h
  | _ =>
    unfold localTime at h
    dsimp only [offsetAt?, Option.getD_some] at h ⊢
    refine ⟨_, rfl, ?_⟩
    split at h
    case h_1 hs => cases h; exact hs
    case h_2 => cases h

theorem ZoneRules.zone_keepsHours {r : ZoneRules} (h : r.keepsHours) (name : String) :
    (Zone.named name r).KeepsHours := by
  intro t u l m ht htu hl hm
  obtain ⟨o, ho, hl⟩ := Zone.localTime_shift hl
  obtain ⟨p, hp, hm⟩ := Zone.localTime_shift hm
  cases ho
  cases hp
  have hours := hourAt_mono h (Moment.unixSecond_nonneg ht) (Moment.unixSecond_mono htu)
  have first := Moment.hourNumber_of_shift hl
  have second := Moment.hourNumber_of_shift hm
  rw [offsetAt_eq] at first second
  omega

/-- clocks that are never changed keep their hours -/
theorem Zone.fixed_keepsHours (o : Int) : (Zone.fixed o).KeepsHours := by
  intro t u l m _ htu hl hm
  obtain ⟨_, ho, hl⟩ := Zone.localTime_shift hl
  obtain ⟨_, hp, hm⟩ := Zone.localTime_shift hm
  cases ho
  cases hp
  have first := Moment.hourNumber_of_shift hl
  have second := Moment.hourNumber_of_shift hm
  have seconds := Moment.unixSecond_mono htu
  unfold hourAt at first second
  omega

/-! ## Zones known by name -/

def historyOf (name : String) : ZoneHistory :=
  ((zoneHistories.find? (·.1 == name)).map (·.2)).getD ⟨0, "", none, 0, none⟩

/-- the changes that rows of a zone's history tell of -/
def readChanges (text : List Char) : List (Int × Int) :=
  ((Text.splitChars ' ' (text.map fun c => if c = '\n' then ' ' else c)).filter (!·.isEmpty)).map fun row =>
    match Text.splitChars ':' row with
    | a :: b :: _ => (readSigned a, readSigned b)
    | _ => (0, 0)

theorem ZoneHistory.rules_eq (h : ZoneHistory) :
    h.rules = ⟨h.initial, readChanges h.changes.toList, h.ruleFrom, h.standard, h.daylight⟩ := rfl

/-- what holds of the rules that the characters of its rows tell of holds of the rules of a history -/
theorem ZoneHistory.on_rows {P : ZoneRules → Prop} {h : ZoneHistory} {cs : List Char}
    (hc : h.changes = String.ofList cs)
    (hp : P ⟨h.initial, readChanges cs, h.ruleFrom, h.standard, h.daylight⟩) : P h.rules := by
  rw [rules_eq, hc, String.toList_ofList]
  exact hp

theorem ZoneHistory.keepsHours_of {h : ZoneHistory} {cs : List Char} (hc : h.changes = String.ofList cs)
    (hk : ZoneRules.keepsHours ⟨h.initial, readChanges cs, h.ruleFrom, h.standard, h.daylight⟩) : h.rules.keepsHours :=
  on_rows (P := fun z => z.keepsHours) hc hk

set_option maxRecDepth 20000 in
theorem histories_keepHours : ∀ x ∈ zoneHistories, x.1 ≠ "America/St_Johns" → x.2.rules.keepsHours := by
  unfold zoneHistories
  repeat
    first
    | refine List.forall_mem_cons.2 ⟨fun _ => ZoneHistory.keepsHours_of rfl (by decide +kernel), ?_⟩
    | refine List.forall_mem_cons.2 ⟨fun h => absurd rfl h, ?_⟩
  nofun

/-- **Clock changes.** The clocks of a zone known by name keep their hours, but for one zone, which set its clocks back
at a minute past midnight. -/
theorem keepsHours_ofName {name : String} {z : Zone} (h : Zone.ofName name = .ok z) (hn : name ≠ "America/St_Johns") :
    z.KeepsHours := by
  simp only [Zone.ofName] at h
  split at h
  case isTrue => cases h
  split at h
  case isTrue => cases h
  split at h
  case isTrue => cases h
  split at h
  case h_1 x history hfind =>
    cases h
    have known := List.mem_of_find?_eq_some hfind
    have named : x = name := by simpa using List.find?_some hfind
    exact ZoneRules.zone_keepsHours (histories_keepHours _ known (named ▸ hn)) name
  case h_2 => cases h

end BadgeEngine.Time
