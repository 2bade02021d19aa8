/-
An instant that was written is read back as it was, to the microsecond (`readInstant_instantText`).

The text of an instant is a row of numbers, each of a width of its own, with a byte behind each that is no digit. A
number of a width is read back by `takeNumber` (`Digits`), and the reader meets the pieces one after another.
-/
import Mathlib.Algebra.Group.Nat.Defs
import BadgeEngine.Proofs.Calendar

namespace BadgeEngine.Time

/-! ## Bytes -/

theorem utf8EncodeChar_ascii {c : Char} (hc : c.toNat < 128) :
    (String.utf8EncodeChar c).map UInt8.toNat = [c.toNat] := by
  have hs : c.utf8Size = 1 := by
    rw [Char.utf8Size_eq_one_iff]
    exact UInt32.le_iff_toNat_le.2 (Nat.le_of_lt_succ hc)
  rw [String.utf8EncodeChar_eq_singleton hs, List.map_singleton, UInt32.toNat_toUInt8]
  exact congrArg (fun n => [n]) (Nat.mod_eq_of_lt (Nat.lt_trans hc (by decide)))

/-- a text of low characters, whose numbers are its bytes -/
structure Plain (text : String) (bs : List Nat) : Prop where
  low : ∀ c ∈ text.toList, c.toNat < 128
  bytes : text.toList.map Char.toNat = bs

namespace Plain

variable {text text' : String} {bs bs' : List Nat}

theorem textBytes_eq (h : Plain text bs) : textBytes text = bs := by
  have flat : ∀ cs : List Char, (∀ c ∈ cs, c.toNat < 128) →
      (cs.flatMap String.utf8EncodeChar).map UInt8.toNat = cs.map Char.toNat := by
    intro cs
    induction cs with
    | nil => exact fun _ => rfl
    | cons c cs ih =>
      intro hcs
      rw [List.flatMap_cons, List.map_append, utf8EncodeChar_ascii (hcs c List.mem_cons_self),
        ih fun d hd => hcs d (List.mem_cons_of_mem _ hd)]
      rfl
  unfold textBytes
  rw [String.toUTF8, ← String.utf8Encode_toList, List.utf8Encode, List.toList_data_toByteArray, flat _ h.low, h.bytes]

theorem length_eq (h : Plain text bs) : text.length = bs.length := by
  rw [← h.bytes, List.length_map, String.length_toList]

theorem of_chars {cs : List Char} (h : text.toList = cs) (low : cs.all fun c => c.toNat < 128) :
    Plain text (cs.map Char.toNat) :=
  ⟨fun c hc => of_decide_eq_true (List.all_eq_true.1 low c (h ▸ hc)), h ▸ rfl⟩

theorem append (h : Plain text bs) (h' : Plain text' bs') : Plain (text ++ text') (bs ++ bs') := by
  refine ⟨fun c hc => ?_, by rw [String.toList_append, List.map_append, h.bytes, h'.bytes]⟩
  rw [String.toList_append] at hc
  exact (List.mem_append.1 hc).elim (h.low c) (h'.low c)

end Plain

/-! ## Numbers -/

/-- bytes that write a number in a width -/
structure Digits (width n : Nat) (bs : List Nat) : Prop where
  length : bs.length = width
  digit : ∀ b ∈ bs, 48 ≤ b ∧ b ≤ 57
  read : ∀ rest, takeNumber width 0 (bs ++ rest) = some (n, rest)

theorem byteDigit?_char {c : Char} (hc : c.isDigit) : byteDigit? c.toNat = some (c.toNat - 48) :=
  if_pos (Char.isDigit_iff_toNat.1 hc)

theorem takeNumber_digits {cs : List Char} (h : ∀ c ∈ cs, c.isDigit) (acc : Nat) (rest : List Nat) :
    takeNumber cs.length acc (cs.map Char.toNat ++ rest) = some (Nat.ofDigitChars 10 cs acc, rest) := by
  induction cs generalizing acc with
  | nil => rfl
  | cons c cs ih =>
    have hc := byteDigit?_char (h c List.mem_cons_self)
    rw [List.length_cons, List.map_cons, List.cons_append, takeNumber, hc]
    dsimp only
    rw [ih (fun d hd => h d (List.mem_cons_of_mem _ hd)), Nat.ofDigitChars_cons, Nat.mul_comm]
    rfl

/-- the characters of a number that is written in a width -/
theorem padded_toList (width n : Nat) :
    (padded width n).toList = List.replicate (width - (Nat.toDigits 10 n).length) '0' ++ Nat.toDigits 10 n := by
  unfold padded
  rw [String.toList_append, String.toList_ofList, Nat.toString_eq_repr, Nat.toList_repr, ← String.length_toList,
    Nat.toList_repr]

theorem isDigit_of_mem_padded {width n : Nat} {c : Char} (hc : c ∈ (padded width n).toList) : c.isDigit := by
  rw [padded_toList] at hc
  rcases List.mem_append.1 hc with hc | hc
  · rw [(List.mem_replicate.1 hc).2]
    rfl
  · exact Nat.isDigit_of_mem_toDigits (by decide) (by decide) hc

/-- a number that fits into a width is written with as many digits -/
theorem padded_digits {width n : Nat} (hw : 0 < width) (hn : n < 10 ^ width) :
    Digits width n ((padded width n).toList.map Char.toNat) := by
  have hl : (padded width n).toList.length = width := by
    have := (Nat.length_toDigits_le_iff (b := 10) (by decide) hw).2 hn
    rw [padded_toList, List.length_append, List.length_replicate]
    omega
  refine ⟨by rw [List.length_map, hl], fun b hb => ?_, fun rest => ?_⟩
  · obtain ⟨c, hc, rfl⟩ := List.mem_map.1 hb
    exact Char.isDigit_iff_toNat.1 (isDigit_of_mem_padded hc)
  · have hd : ∀ c ∈ (padded width n).toList, c.isDigit := fun c hc => isDigit_of_mem_padded hc
    have h := takeNumber_digits hd 0 rest
    rw [hl] at h
    rw [h, padded_toList, Nat.ofDigitChars_append, Nat.ofDigitChars_replicate_zero, Nat.mul_zero,
      Nat.ofDigitChars_ten_toDigits]

variable {y m d hr mi sec mic : Nat} {ys ms ds hrs mis secs mics rest : List Nat}

theorem Digits.head_ne {width n b : Nat} {bs : List Nat} (h : Digits width n bs) (hw : 0 < width)
    (hb : b < 48 ∨ 57 < b) (rest : List Nat) : (bs ++ rest).head? ≠ some b := by
  have hl := h.length
  match bs with
  | [] => exact absurd hl (Nat.ne_of_lt hw)
  | c :: bs =>
    have hc := h.digit c List.mem_cons_self
    rw [List.cons_append, List.head?_cons]
    intro he
    have := Option.some.inj he
    omega

/-! ## Dates -/

theorem readDate_digits (hy : Digits 4 y ys) (hm : Digits 2 m ms) (hd : Digits 2 d ds) :
    readDate (ys ++ 45 :: (ms ++ 45 :: ds)) = some (.calendar y m d) := by
  -- after the year a `W` would tell of a week
  have hw : (ms ++ 45 :: ds).head? ≠ some 87 := hm.head_ne (by decide) (.inr (by decide)) _
  have hd' := hd.read []
  rw [List.append_nil] at hd'
  simp only [readDate, hy.read, Option.bind_eq_bind, Option.bind_some, List.head?_cons, beq_self_eq_true, if_true,
    List.drop_succ_cons, List.drop_zero, hw, if_false, hm.read, hd', List.isEmpty_nil, Option.pure_def]

theorem dateLength_digits (hy : Digits 4 y ys) (hm : Digits 2 m ms) (hd : Digits 2 d ds) (rest : List Nat) :
    dateLength (ys ++ 45 :: (ms ++ 45 :: ds) ++ 84 :: rest) = 10 := by
  have hl : (ys ++ 45 :: (ms ++ 45 :: ds) ++ 84 :: rest).length ≠ 7 := by
    simp only [List.length_append, List.length_cons, hy.length, hm.length, hd.length]
    omega
  have h4 : (ys ++ 45 :: (ms ++ 45 :: ds) ++ 84 :: rest)[4]? = some 45 := by
    rw [List.append_assoc, List.getElem?_append_right (Nat.le_of_eq hy.length), hy.length]
    rfl
  have h5 : (ys ++ 45 :: (ms ++ 45 :: ds) ++ 84 :: rest)[5]? ≠ some 87 := by
    rw [List.append_assoc, List.getElem?_append_right (by rw [hy.length]; decide), hy.length]
    simpa [List.head?_eq_getElem?] using hm.head_ne (by decide) (.inr (by decide)) (45 :: (ds ++ 84 :: rest))
  unfold dateLength
  simp only [hl, h4, h5, if_false, if_true]

/-! ## Times -/

theorem readFraction_digits (c : Clock) (hu : Digits 6 mic mics) :
    readFraction c mics = some { c with micro := mic, more := false } := by
  have hu' := hu.read []
  rw [List.append_nil] at hu'
  simp [readFraction, hu.length, hu']

theorem readFields_digits (hh : Digits 2 hr hrs) (hm : Digits 2 mi mis) (hs : Digits 2 sec secs)
    (hu : Digits 6 mic mics) (ended : Bool) :
    readFields ended true 3 {} (hrs ++ 58 :: (mis ++ 58 :: (secs ++ 46 :: mics))) =
      some { hour := hr, minute := mi, second := sec, micro := mic, more := false } := by
  have hne : mics ≠ [] := List.ne_nil_of_length_pos (hu.length ▸ (by decide))
  simp [readFields, hh.read, hm.read, hs.read, hne, Clock.withField, readFraction_digits _ hu]

def timeBytes (hrs mis secs mics : List Nat) : List Nat := hrs ++ 58 :: (mis ++ 58 :: (secs ++ 46 :: mics))

theorem readTime_digits (hh : Digits 2 hr hrs) (hm : Digits 2 mi mis) (hs : Digits 2 sec secs)
    (hu : Digits 6 mic mics) :
    readTime (timeBytes hrs mis secs mics ++ [90]) =
      some ({ hour := hr, minute := mi, second := sec, micro := mic, more := false }, some (0, 0)) := by
  have digit : ∀ {n width : Nat} {bs : List Nat}, Digits width n bs → ∀ b ∈ bs, (!beginsOffset b) = true := by
    intro n width bs h b hb
    have := h.digit b hb
    simp only [beginsOffset, Bool.not_eq_true', decide_eq_false_iff_not]
    omega
  -- the offset is looked for from the first byte that may begin one, and that is the last byte here
  have body : ∀ b ∈ timeBytes hrs mis secs mics, (!beginsOffset b) = true := by
    intro b hb
    simp only [timeBytes, List.mem_append, List.mem_cons] at hb
    rcases hb with hb | rfl | hb | rfl | hb | rfl | hb
    · exact digit hh b hb
    · rfl
    · exact digit hm b hb
    · rfl
    · exact digit hs b hb
    · rfl
    · exact digit hu b hb
  have before : (timeBytes hrs mis secs mics ++ [90]).takeWhile (fun b => !beginsOffset b) =
      timeBytes hrs mis secs mics := by
    rw [List.takeWhile_append_of_pos body]
    exact List.append_nil _
  unfold readTime
  dsimp only
  rw [before, List.drop_left, timeBytes, readFields_digits hh hm hs hu]
  rfl

/-! ## Instants -/

/-- a text that is a date, a byte and a time is read piece by piece -/
theorem readReading_pieces {text : String} {date time : List Nat} {wd : WrittenDate} {dt : Date} {c : Clock}
    {o : Option (Int × Int)} {offset : Option Int} {t : Moment} (htext : textBytes text = date ++ 84 :: time)
    (hlen : 7 ≤ text.length) (hend : dateLength (date ++ 84 :: time) = date.length)
    (hdate : readDate date = some wd) (hdt : wd.toDate? = some dt) (htime : readTime time = some (c, o))
    (ho : checkOffset o = .ok offset) (ht : momentOf dt c = .ok t) : readReading text = .ok ⟨t, offset⟩ := by
  have hmore : ¬ (date ++ 84 :: time).length ≤ date.length := by
    rw [List.length_append, List.length_cons]
    omega
  have hsep : (date ++ 84 :: time)[date.length]? = some 84 := by
    rw [List.getElem?_append_right (Nat.le_refl _), Nat.sub_self]
    rfl
  have hrest : (date ++ 84 :: time).drop (date.length + 1) = time := by
    rw [← List.drop_drop, List.drop_left]
    rfl
  unfold readReading
  simp only [htext, if_neg (Nat.not_lt.2 hlen), hend, List.take_left, hdate, Option.bind_some, hdt, if_neg hmore, hsep,
    Nat.reduceLT, if_true, hrest, htime, pure_bind, ho, ht]
  rfl

theorem plain_padded (width n : Nat) : Plain (padded width n) ((padded width n).toList.map Char.toNat) :=
  ⟨fun _ hc => Nat.lt_of_le_of_lt (Char.isDigit_iff_toNat.1 (isDigit_of_mem_padded hc)).2 (by decide), rfl⟩

theorem plain_instantText (t : Instant) : ∃ ys ms ds hrs mis secs mics : List Nat,
    Digits 4 t.date.year ys ∧ Digits 2 t.date.month ms ∧ Digits 2 t.date.day ds ∧ Digits 2 t.hour hrs ∧
    Digits 2 t.minute mis ∧ Digits 2 t.second secs ∧ Digits 6 t.micro mics ∧
    Plain (instantText t) (ys ++ 45 :: (ms ++ 45 :: ds) ++ 84 :: (timeBytes hrs mis secs mics ++ [90])) := by
  obtain ⟨-, -, hm, -, -⟩ := Date.exists_iff.1 t.exists_date
  have hy := t.year_le
  have hd := Date.day_le t.exists_date
  have hh : t.hour < 24 := Nat.mod_lt _ (by decide)
  have hi : t.minute < 60 := Nat.mod_lt _ (by decide)
  have hs : t.second < 60 := Nat.mod_lt _ (by decide)
  have hu : t.micro < 1000000 := Nat.mod_lt _ (by decide)
  refine ⟨_, _, _, _, _, _, _, padded_digits (by decide) (by omega), padded_digits (by decide) (by omega),
    padded_digits (by decide) (by omega), padded_digits (by decide) (by omega), padded_digits (by decide) (by omega),
    padded_digits (by decide) (by omega), padded_digits (by decide) (by omega), ?_⟩
  have hyphen : Plain "-" [45] := .of_chars rfl rfl
  have letter : Plain "T" [84] := .of_chars rfl rfl
  have colon : Plain ":" [58] := .of_chars rfl rfl
  have point : Plain "." [46] := .of_chars rfl rfl
  have utc : Plain "Z" [90] := .of_chars rfl rfl
  have number := plain_padded
  have date := ((((number 4 t.date.year).append hyphen).append (number 2 t.date.month)).append hyphen).append
    (number 2 t.date.day)
  have hour := (date.append letter).append (number 2 t.hour)
  have minute := (hour.append colon).append (number 2 t.minute)
  have second := (minute.append colon).append (number 2 t.second)
  have instant := ((second.append point).append (number 6 t.micro)).append utc
  simpa only [timeBytes, instantText, Moment.text, Date.text, List.append_assoc, List.cons_append, List.nil_append]
    using instant

/-- **Instants.** An instant that was written is read back as it was. -/
theorem readInstant_instantText (t : Instant) : readInstant (instantText t) = .ok t := by
  obtain ⟨ys, ms, ds, hrs, mis, secs, mics, hy, hm, hd, hh, hi, hs, hu, hb⟩ := plain_instantText t
  have hdate : (ys ++ 45 :: (ms ++ 45 :: ds)).length = 10 := by
    simp only [List.length_append, List.length_cons, hy.length, hm.length, hd.length]
  have hlen : 7 ≤ (instantText t).length := by
    rw [hb.length_eq, List.length_append, hdate]
    omega
  have hr : readReading (instantText t) = .ok ⟨t, some 0⟩ :=
    readReading_pieces hb.textBytes_eq hlen ((dateLength_digits hy hm hd _).trans hdate.symm) (readDate_digits hy hm hd)
      rfl (readTime_digits hh hi hs hu) rfl (momentOf_parts t false)
  have ho : (⟨t, some 0⟩ : Reading).toInstant? = some t := by
    show t.shift? (-0) = some t
    rw [Moment.shift?, Int.neg_zero, Int.add_zero, t.ofMicros?_micros]
  simp only [readInstant, hr, bind, Except.bind, ho]
  rfl

end BadgeEngine.Time
