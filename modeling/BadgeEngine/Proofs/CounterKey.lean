/-
The key of a counted window is read as the count it was written for (`readCounter_key`), and every count below the
limit on digits has a key (`exists_counterKey`). A numeral of digits alone is read as the number of its digits. What is
read keeps within the limit (`readInt_fits`), so only the highest count has no next one (`counterKey_next`).
-/
import Mathlib.Data.List.TakeWhile
import BadgeEngine.Period
import BadgeEngine.Proofs.InstantText

namespace BadgeEngine

open BadgeEngine.Number BadgeEngine.Text BadgeEngine.Time

variable {cs : List Char} {n : Nat}

/-! ## Digits -/

/-- a digit is no blank, no sign and no separator, and stands for itself -/
theorem digit_plain {c : Char} (hc : c.isDigit) :
    isNumeralBlank c = false ∧ c ≠ '-' ∧ c ≠ '+' ∧ c ≠ '_' ∧ c.toNat < 128 := by
  obtain ⟨hlo, hhi⟩ := Char.isDigit_iff_toNat.1 hc
  have hlo : 48 ≤ c.toNat := hlo
  have hhi : c.toNat ≤ 57 := hhi
  have ne : ∀ d : Char, d.toNat < 48 ∨ 57 < d.toNat → c ≠ d := by
    rintro d hd rfl
    omega
  refine ⟨?_, ne '-' (by decide), ne '+' (by decide), ne '_' (by decide), by omega⟩
  simp only [isNumeralBlank, isBlank, Bool.and_eq_false_iff, decide_eq_false_iff_not]
  omega

theorem splitChars_none {sep : Char} (h : ∀ c ∈ cs, c ≠ sep) : splitChars sep cs = [cs] := by
  have fold : ∀ (cs acc : List Char), (∀ c ∈ cs, c ≠ sep) → cs.foldl
      (fun (p : List Char × List (List Char)) c => if c = sep then ([], p.1.reverse :: p.2) else (c :: p.1, p.2))
      (acc, []) = (cs.reverse ++ acc, []) := by
    intro cs
    induction cs with
    | nil => exact fun acc _ => rfl
    | cons c cs ih =>
      intro acc hcs
      rw [List.foldl_cons, if_neg (hcs c List.mem_cons_self), ih _ fun d hd => hcs d (List.mem_cons_of_mem _ hd),
        List.reverse_cons, List.append_assoc]
      rfl
  unfold splitChars
  rw [fold cs [] h]
  simp

theorem takeDigits_digits (h : ∀ c ∈ cs, c.isDigit) (hne : cs ≠ []) : takeDigits Char.isDigit cs = some (cs, []) := by
  have hrun : cs.takeWhile (fun c => c.isDigit || c = '_') = cs :=
    List.takeWhile_eq_self_iff.2 fun c hc => by rw [h c hc, Bool.true_or]
  unfold takeDigits
  dsimp only
  rw [hrun, splitChars_none fun c hc => (digit_plain (h c hc)).2.2.2.1, List.drop_length]
  cases cs with
  | nil => exact absurd rfl hne
  | cons => simp

theorem plainDigits_digits (h : ∀ c ∈ cs, c.isDigit) : plainDigits cs = cs := by
  unfold plainDigits
  exact (List.map_congr_left fun c hc => if_pos (digit_plain (h c hc)).2.2.2.2).trans (List.map_id cs)

/-- a numeral that is digits after its sign is read as the number they stand for, with that sign -/
theorem readInt_signed {numeral : List Char} {neg : Bool} (h : ∀ c ∈ cs, c.isDigit) (hne : cs ≠ [])
    (hlen : cs.length ≤ digitLimit)
    (hsign : takeSign (plainDigits (numeral.dropWhile isNumeralBlank)) = (neg, cs)) :
    readInt numeral = .ok (if neg then -(Nat.ofDigitChars 10 cs 0 : Int) else (Nat.ofDigitChars 10 cs 0 : Int)) := by
  unfold readInt
  rw [hsign]
  simp only [takeDigits_digits h hne, Nat.not_lt.2 hlen, if_false, List.all_nil, if_true, natOfDigits]

/-- a numeral of digits alone is read as the number they stand for -/
theorem readInt_digits (h : ∀ c ∈ cs, c.isDigit) (hne : cs ≠ []) (hlen : cs.length ≤ digitLimit) :
    readInt cs = .ok (Nat.ofDigitChars 10 cs 0) := by
  have hblank : cs.dropWhile isNumeralBlank = cs := by
    cases cs with
    | nil => rfl
    | cons c cs => rw [List.dropWhile_cons, (digit_plain (h c List.mem_cons_self)).1]; rfl
  have hsign : takeSign cs = (false, cs) := by
    unfold takeSign
    split
    case h_1 => exact absurd rfl (digit_plain (h _ List.mem_cons_self)).2.1
    case h_2 => exact absurd rfl (digit_plain (h _ List.mem_cons_self)).2.2.1
    case h_3 => rfl
  exact readInt_signed h hne hlen (by rw [hblank, plainDigits_digits h, hsign])

/-- a minus before digits is read as a minus -/
theorem readInt_minus (h : ∀ c ∈ cs, c.isDigit) (hne : cs ≠ []) (hlen : cs.length ≤ digitLimit) :
    readInt ('-' :: cs) = .ok (-(Nat.ofDigitChars 10 cs 0 : Int)) := by
  have hblank : ('-' :: cs).dropWhile isNumeralBlank = '-' :: cs := rfl
  have hplain : plainDigits ('-' :: cs) = '-' :: cs := congrArg (List.cons '-') (plainDigits_digits h)
  exact readInt_signed h hne hlen (by rw [hblank, hplain]; rfl)

theorem digit_value {c : Char} (hc : c.isDigit) : c.toNat - '0'.toNat < 10 := by
  have hhi : c.toNat ≤ 57 := (Char.isDigit_iff_toNat.1 hc).2
  have zero : '0'.toNat = 48 := rfl
  omega

/-- the pieces between separators hold nothing but what stood there -/
theorem mem_splitChars {sep c : Char} {piece : List Char} (hp : piece ∈ splitChars sep cs) (hc : c ∈ piece) :
    c ∈ cs ∧ c ≠ sep := by
  let step := fun (p : List Char × List (List Char)) c => if c = sep then ([], p.1.reverse :: p.2) else (c :: p.1, p.2)
  let Clean := fun (p : List Char × List (List Char)) => ∀ piece ∈ p.1.reverse :: p.2, ∀ c ∈ piece, c ∈ cs ∧ c ≠ sep
  have fold : ∀ ds : List Char, ds ⊆ cs → ∀ p, Clean p → Clean (ds.foldl step p) := by
    intro ds
    induction ds with
    | nil => exact fun _ p hp => hp
    | cons d ds ih =>
      intro hds p hp
      obtain ⟨hd, hds⟩ := List.cons_subset.1 hds
      refine ih hds _ fun piece hpiece c hc => ?_
      by_cases hsep : d = sep
      · simp only [step, if_pos hsep, List.reverse_nil, List.mem_cons] at hpiece
        rcases hpiece with rfl | hpiece
        · cases hc
        · exact hp piece (List.mem_cons.2 hpiece) c hc
      · simp only [step, if_neg hsep, List.reverse_cons, List.mem_cons] at hpiece
        rcases hpiece with rfl | hpiece
        · rcases List.mem_append.1 hc with hc | hc
          · exact hp _ List.mem_cons_self c hc
          · rw [List.mem_singleton.1 hc]
            exact ⟨hd, hsep⟩
        · exact hp piece (List.mem_cons_of_mem _ hpiece) c hc
  have clean : Clean (cs.foldl step ([], [])) := by
    refine fold cs (List.Subset.refl cs) _ fun piece hp c hc => ?_
    rw [List.mem_singleton.1 hp] at hc
    cases hc
  exact clean piece (List.mem_reverse.1 hp) c hc

theorem takeDigits_isDigit {ds rest : List Char} (h : takeDigits Char.isDigit cs = some (ds, rest)) :
    ∀ c ∈ ds, c.isDigit := by
  unfold takeDigits at h
  dsimp only at h
  split at h
  case isTrue => cases h
  case isFalse =>
    cases h
    intro c hc
    obtain ⟨piece, hp, hc⟩ := List.mem_flatten.1 hc
    obtain ⟨hrun, hne⟩ := mem_splitChars hp hc
    have run := List.mem_takeWhile_imp hrun
    simpa [hne] using run

theorem ofDigitChars_lt (h : ∀ c ∈ cs, c.isDigit) (m : Nat) :
    Nat.ofDigitChars 10 cs m < (m + 1) * 10 ^ cs.length := by
  induction cs generalizing m with
  | nil => simp
  | cons c cs ih =>
    have hc := digit_value (h c List.mem_cons_self)
    rw [Nat.ofDigitChars_cons, List.length_cons]
    calc Nat.ofDigitChars 10 cs (10 * m + (c.toNat - '0'.toNat))
        < (10 * m + (c.toNat - '0'.toNat) + 1) * 10 ^ cs.length := ih (fun d hd => h d (List.mem_cons_of_mem _ hd)) _
      _ ≤ ((m + 1) * 10) * 10 ^ cs.length := Nat.mul_le_mul_right _ (by omega)
      _ = (m + 1) * 10 ^ (cs.length + 1) := by rw [Nat.mul_assoc, Nat.pow_succ', Nat.mul_comm]

/-! ## Counts -/

/-- a count filled with zeros is the count padded -/
theorem zeroFilled_natCast (width n : Nat) : zeroFilled width n = (padded width n).toList := by
  have hn : ¬ (n : Int) < 0 := Int.not_lt.2 (Int.natCast_nonneg n)
  rw [padded_toList]
  unfold zeroFilled
  simp only [hn, if_false, Int.natAbs_natCast, Nat.toString_eq_repr, Nat.toList_repr, Nat.sub_zero]

theorem padded_length_le {width n : Nat} (hw : width ≤ digitLimit) (hn : n < 10 ^ digitLimit) :
    (padded width n).toList.length ≤ digitLimit := by
  have := (Nat.length_toDigits_le_iff (b := 10) (by decide) (by decide : 0 < digitLimit)).2 hn
  rw [padded_toList, List.length_append, List.length_replicate]
  omega

theorem fitsNumeral_natCast : fitsNumeral n = true ↔ n < 10 ^ digitLimit := by
  rw [fitsNumeral, decide_eq_true_iff, Int.natAbs_natCast, Nat.pow_eq]

/-- every count below the limit has a key -/
theorem exists_counterKey (hn : n < 10 ^ digitLimit) : ∃ key, counterKey? n = some key :=
  ⟨_, if_pos (fitsNumeral_natCast.2 hn)⟩

/-- a number that can be read keeps within the limit -/
theorem readInt_fits {x : Int} (h : readInt cs = .ok x) : fitsNumeral x = true := by
  unfold readInt at h
  generalize takeSign _ = body at h
  dsimp only at h
  split at h
  case h_1 => cases h
  case h_2 ds rest hds =>
    split at h
    case isTrue => cases h
    case isFalse hlen =>
      have hlt : natOfDigits ds < 10 ^ digitLimit := by
        have digits := ofDigitChars_lt (takeDigits_isDigit hds) 0
        rw [Nat.zero_add, Nat.one_mul] at digits
        exact Nat.lt_of_lt_of_le digits (Nat.pow_le_pow_right (by decide) (Nat.not_lt.1 hlen))
      split at h
      case isFalse => cases h
      case isTrue =>
        cases h
        have fits : fitsNumeral (natOfDigits ds) = true := fitsNumeral_natCast.2 hlt
        split
        · rw [fitsNumeral, Int.natAbs_neg]
          exact fits
        · exact fits

/-- the highest count has no next one that can be written -/
theorem counterKey_next {x : Int} (hx : fitsNumeral x = true) :
    counterKey? (x + 1) = none ↔ x = (10 ^ digitLimit - 1 : Nat) := by
  have limit : 0 < 10 ^ digitLimit := Nat.pow_pos (by decide)
  rw [counterKey?, ite_eq_right_iff]
  simp only [fitsNumeral, decide_eq_true_iff, Nat.pow_eq, reduceCtorEq, imp_false, Nat.not_lt] at hx ⊢
  generalize 10 ^ digitLimit = limit at *
  omega

theorem padded_ne_nil (width n : Nat) : (padded width n).toList ≠ [] := by
  rw [padded_toList]
  exact List.append_ne_nil_of_right_ne_nil _ Nat.toDigits_ne_nil

theorem padded_value (width n : Nat) : Nat.ofDigitChars 10 (padded width n).toList 0 = n := by
  rw [padded_toList, Nat.ofDigitChars_append, Nat.ofDigitChars_replicate_zero, Nat.mul_zero,
    Nat.ofDigitChars_ten_toDigits]

/-- a count below zero filled with zeros is a minus before the count padded -/
theorem zeroFilled_of_neg {width : Nat} {x : Int} (hx : x < 0) :
    zeroFilled width x = '-' :: (padded (width - 1) x.natAbs).toList := by
  rw [padded_toList]
  unfold zeroFilled
  simp only [hx, if_true, Nat.toString_eq_repr, Nat.toList_repr]

/-- **Counts.** The key of a count is read as that count. -/
theorem readCounter_key {x : Int} {key : String} (h : counterKey? x = some key) : readCounter key = .ok x := by
  unfold counterKey? at h
  split at h
  case isFalse => cases h
  case isTrue hfit =>
    cases h
    have hn : x.natAbs < 10 ^ digitLimit := fitsNumeral_natCast.1 (by rwa [fitsNumeral, Int.natAbs_natCast])
    have short : ∀ width ≤ digitLimit, (padded width x.natAbs).toList.length ≤ digitLimit := fun _ hw =>
      padded_length_le hw hn
    unfold readCounter
    rw [String.toList_ofList]
    rcases Int.lt_or_le x 0 with neg | pos
    · rw [zeroFilled_of_neg neg, readInt_minus (fun _ => isDigit_of_mem_padded) (padded_ne_nil _ _)
        (short _ (by decide)), padded_value, Int.ofNat_natAbs_of_nonpos (Int.le_of_lt neg), Int.neg_neg]
    · have text : zeroFilled counterWidth x = (padded counterWidth x.natAbs).toList := by
        rw [← zeroFilled_natCast, Int.natAbs_of_nonneg pos]
      rw [text, readInt_digits (fun _ => isDigit_of_mem_padded) (padded_ne_nil _ _) (short _ (by decide)), padded_value,
        Int.natAbs_of_nonneg pos]

end BadgeEngine
