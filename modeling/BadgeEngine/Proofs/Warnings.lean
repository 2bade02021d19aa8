/-
What the reading of a state warns of. A reading `Yields` an answer and warnings when it can come to nothing else, and
must come to it if what it reads is legible. Every part of a state is read so, entry by entry: one that cannot be read
(`propertyOf?`, `windowOf?`, `earnedOf?`, `bookmarkOf?`) costs a warning, and so does an id of the ledger that comes
again (`firstOfEach`, `repeatedIds`).

Result, over all mappings under texts: the reading of a state yields what its entries tell, the state `forgiven` and the
warnings `reports` (`ofValue_yields`).
-/
import BadgeEngine.Proofs.Forgiving
import BadgeEngine.Proofs.Order

namespace BadgeEngine

open BadgeEngine.Number BadgeEngine.Text BadgeEngine.Time

variable {α β ε : Type}

/-! ## What is legible -/

/-- every entry can be read -/
def Legible (f : ε → Option α) (es : List ε) : Prop := ∀ e ∈ es, (f e).isSome

/-- the entries that can be read -/
def legibleOnes (f : ε → Option α) (es : List ε) : List ε := es.filter fun e => (f e).isSome

/-- the warnings about the entries that cannot be read -/
def complaints (f : ε → Option α) (warning : ε → String) (es : List ε) : List String :=
  (es.filter fun e => (f e).isNone).map warning

section

variable {f : ε → Option α} {warning : ε → String} {e : ε} {es : List ε} {x : α}

theorem Legible.of_cons (h : Legible f (e :: es)) : Legible f es := fun d hd => h d (List.mem_cons_of_mem _ hd)

theorem not_legible_cons (he : f e = none) : ¬ Legible f (e :: es) := by
  intro h
  have some := h e List.mem_cons_self
  rw [he] at some
  cases some

theorem legible_legibleOnes (f : ε → Option α) (es : List ε) : Legible f (legibleOnes f es) := by
  intro e he
  exact (List.mem_filter.1 he).2

theorem filterMap_legibleOnes (f : ε → Option α) (es : List ε) : (legibleOnes f es).filterMap f = es.filterMap f := by
  unfold legibleOnes
  rw [List.filterMap_filter]
  apply List.filterMap_congr
  intro e _
  cases f e <;> rfl

/-- entries that can all be read are read one after another -/
theorem Legible.map_some (h : Legible f es) : (es.filterMap f).map some = es.map f := by
  induction es with
  | nil => rfl
  | cons e es ih =>
    obtain ⟨x, hx⟩ := Option.isSome_iff_exists.1 (h e List.mem_cons_self)
    rw [List.filterMap_cons_some hx, List.map_cons, List.map_cons, ih h.of_cons, hx]

theorem Legible.complaints (h : Legible f es) (warning : ε → String) : complaints f warning es = [] := by
  have none : (es.filter fun e => (f e).isNone) = [] := by
    apply List.filter_eq_nil_iff.2
    intro e he
    rw [Option.isNone_iff_eq_none]
    exact Option.isSome_iff_ne_none.1 (h e he)
  unfold BadgeEngine.complaints
  rw [none, List.map_nil]

theorem complaints_cons_some (he : f e = some x) : complaints f warning (e :: es) = complaints f warning es := by
  unfold complaints
  rw [List.filter_cons_of_neg (by simp [he])]

theorem complaints_cons_none (he : f e = none) :
    complaints f warning (e :: es) = warning e :: complaints f warning es := by
  unfold complaints
  rw [List.filter_cons_of_pos (by simp [he]), List.map_cons]

end

/-! ## Readings that report -/

namespace Warned

/-- a reading comes to an answer, after some warnings; what is not legible may keep it from coming to any -/
def Yields (a : Warned α) (legible : Prop) (x : α) (texts : List String) : Prop :=
  ∀ log, a.run.run log = (.ok x, log ++ texts) ∨ ¬ legible ∧ ∃ e log', a.run.run log = (.error e, log')

variable {a : Warned α} {legible legible' : Prop} {x : α} {y : β} {texts texts' : List String}

theorem gives.yields (h : a.gives x) (legible : Prop) : a.Yields legible x [] := by
  intro log
  rw [List.append_nil]
  exact .inl (h log)

theorem yields_warn (text : String) (legible : Prop) : (warn text).Yields legible () [text] := fun _ => .inl rfl

theorem yields_error (e : Problem) (h : ¬ legible) (x : α) (texts : List String) :
    Yields (liftM (.error e : Except Problem α)) legible x texts :=
  fun log => .inr ⟨h, e, log, rfl⟩

theorem Yields.mono (ha : a.Yields legible x texts) (h : legible' → legible) : a.Yields legible' x texts := by
  intro log
  rcases ha log with done | ⟨hn, failed⟩
  · exact .inl done
  · exact .inr ⟨mt h hn, failed⟩

theorem Yields.bind {f : α → Warned β} (ha : a.Yields legible x texts) (hf : (f x).Yields legible y texts') :
    Yields (a >>= f) legible y (texts ++ texts') := by
  intro log
  rw [run_bind]
  rcases ha log with done | ⟨hn, e, log', failed⟩
  · rw [done, ← List.append_assoc]
    exact hf (log ++ texts)
  · rw [failed]
    exact .inr ⟨hn, e, log', rfl⟩

/-- a step that warns of nothing goes first -/
theorem gives.then {f : α → Warned β} (ha : a.gives x) (hf : (f x).Yields legible y texts) :
    Yields (a >>= f) legible y texts :=
  (ha.yields legible).bind hf

theorem Yields.map (ha : a.Yields legible x texts) (f : α → β) :
    Yields (a >>= fun x => pure (f x)) legible (f x) texts := by
  have h := ha.bind (f := fun x => pure (f x)) ((gives_pure (f x)).yields legible)
  rwa [List.append_nil] at h

/-- a reading that comes to an answer comes to this one -/
theorem Yields.answer {log : List String} {z : α} (ha : a.Yields legible x texts) (h : a.answer = (.ok z, log)) :
    z = x ∧ log = texts := by
  unfold Warned.answer at h
  rcases ha [] with done | ⟨-, e, log', failed⟩
  · rw [done] at h
    cases h
    exact ⟨rfl, rfl⟩
  · rw [failed] at h
    cases h

theorem Yields.answer_of_legible (ha : a.Yields legible x texts) (h : legible) : a.answer = (.ok x, texts) := by
  rcases ha [] with done | ⟨hn, -⟩
  · exact done
  · exact absurd h hn

variable {f : ε → Option β} {warning : ε → String} {e : ε} {es : List ε} {z : β}

/-- an entry that can be read is not warned about -/
theorem Yields.keep (he : f e = some z) (ha : a.Yields (Legible f es) x (complaints f warning es)) :
    a.Yields (Legible f (e :: es)) x (complaints f warning (e :: es)) := by
  rw [complaints_cons_some he]
  exact ha.mono Legible.of_cons

/-- an entry that cannot be read is warned about, and the reading goes on -/
theorem Yields.drop (he : f e = none) (ha : a.Yields (Legible f es) x (complaints f warning es)) :
    Yields (warn (warning e) >>= fun _ => a) (Legible f (e :: es)) x (complaints f warning (e :: es)) := by
  rw [complaints_cons_none he]
  exact (yields_warn (warning e) _).bind (ha.mono Legible.of_cons)

/-- an entry that cannot be read may stop the reading -/
theorem yields_stop (he : f e = none) (p : Problem) {k : Option β → Warned α} :
    Yields (liftM (.error p : Except Problem (Option β)) >>= k) (Legible f (e :: es)) x texts :=
  fun log => .inr ⟨not_legible_cons he, p, log, rfl⟩

end Warned

open Warned

/-! ## Mappings under texts -/

/-- the entries of a mapping stand under texts, and no text comes twice -/
structure IsMapping (es : List (Value × Value)) : Prop where
  texts : ∀ e ∈ es, e.1.key?.isSome
  distinct : es.Pairwise fun d e => d.1.key? ≠ e.1.key?

instance (es : List (Value × Value)) : Decidable (IsMapping es) :=
  decidable_of_iff ((∀ e ∈ es, e.1.key?.isSome) ∧ es.Pairwise fun d e => d.1.key? ≠ e.1.key?)
    ⟨fun h => ⟨h.1, h.2⟩, fun h => ⟨h.texts, h.distinct⟩⟩

theorem Value.key?_eq_some {v : Value} {name : String} : v.key? = some name ↔ v = .ofText name := by
  constructor
  · intro h
    unfold Value.key? at h
    split at h
    · cases h
      rfl
    · cases h
  · rintro rfl
    rfl

theorem IsMapping.text {e : Value × Value} {es : List (Value × Value)} (h : IsMapping es) (he : e ∈ es) :
    ∃ name, e.1 = Value.ofText name := by
  obtain ⟨name, hn⟩ := Option.isSome_iff_exists.1 (h.texts e he)
  exact ⟨name, Value.key?_eq_some.1 hn⟩

theorem IsMapping.of_cons {e : Value × Value} {es : List (Value × Value)} (h : IsMapping (e :: es)) : IsMapping es where
  texts d hd := h.texts d (List.mem_cons_of_mem _ hd)
  distinct := (List.pairwise_cons.1 h.distinct).2

theorem IsMapping.sublist {ds es : List (Value × Value)} (h : IsMapping es) (hs : ds.Sublist es) : IsMapping ds where
  texts d hd := h.texts d (hs.subset hd)
  distinct := h.distinct.sublist hs

/-- what is read of a mapping under the names of its entries has distinct names -/
theorem IsMapping.names_distinct {f : Value × Value → Option (String × α)} {es : List (Value × Value)}
    (h : IsMapping es) (hf : ∀ name v x, f (.ofText name, v) = some x → x.1 = name) :
    Entries.Distinct (es.filterMap f) := by
  unfold Entries.Distinct List.Nodup
  rw [List.pairwise_map, List.pairwise_filterMap]
  refine h.distinct.imp_of_mem ?_
  rintro ⟨k, v⟩ ⟨k', v'⟩ hd he apart x hx y hy same
  obtain ⟨name, rfl⟩ := h.text hd
  obtain ⟨name', rfl⟩ := h.text he
  rw [hf name v x hx, hf name' v' y hy] at same
  exact apart (congrArg some same)

theorem lookup_cons (name n : String) (v : Value) (es : List (Value × Value)) :
    Value.lookup name ((.ofText n, v) :: es) = if n = name then some v else Value.lookup name es := by
  unfold Value.lookup
  rw [List.find?_cons]
  by_cases h : n = name
  · simp [Value.key?, h]
  · have other : ((Value.ofText n).key? == some name) = false := beq_eq_false_iff_ne.2 (mt Option.some.inj h)
    rw [other, if_neg h]

theorem lookup_of_notMem {name : String} {es : List (Value × Value)} (h : ∀ e ∈ es, e.1.key? ≠ some name) :
    Value.lookup name es = none := by
  unfold Value.lookup
  rw [Option.map_eq_none_iff, List.find?_eq_none]
  intro e he hk
  exact h e he (eq_of_beq hk)

theorem mem_of_lookup {name : String} {es : List (Value × Value)} {v : Value} (h : Value.lookup name es = some v) :
    ∃ e ∈ es, e.2 = v := by
  unfold Value.lookup at h
  obtain ⟨e, he, hv⟩ := Option.map_eq_some_iff.1 h
  exact ⟨e, List.mem_of_find?_eq_some he, hv⟩

/-! ## Entries -/

theorem propertyOf?_eq {e : Value × Value} {x : String × Scalar} (h : propertyOf? e = some x) :
    e = (.ofText x.1, .scalar x.2) := by
  unfold propertyOf? at h
  split at h
  · cases h
    rfl
  · cases h

theorem setValue_of_property (p : Props) {name : String} {v : Value} {x : String × Scalar}
    (h : propertyOf? (.ofText name, v) = some x) : p.setValue name v = .ok (p.set x.1 x.2) := by
  cases propertyOf?_eq h
  rfl

theorem setValue_refused (p : Props) {name : String} {v : Value} (h : propertyOf? (.ofText name, v) = none) :
    ∃ e, p.setValue name v = .error e := by
  cases v with
  | scalar => cases h
  | _ => exact ⟨_, rfl⟩

theorem instantOfValue_reads (v : Value) : (instantOfValue v).toOption = instant? v := by
  obtain ⟨t, ht, -, hi⟩ | ⟨⟨text, rfl, ho⟩, e, hi, -⟩ | ⟨ht, -, e, hi, -⟩ := instantOfValue_cases v
  · rw [hi, ht]
    rfl
  · rw [hi, instant?, ho]
    rfl
  · rw [hi, ht]
    rfl

/-- what is made of an instant is read, or skipped, or stops the reading when the instant is out of range -/
theorem stamped_reads (v : Value) (g : Instant → α) :
    (match instantOfValue v with
      | .ok t => Except.ok (some (g t))
      | .error e => if e.kind = "OverflowError" then .error e else .ok none) =
        .ok ((instant? v).bind fun t => some (g t)) ∨
    ((instant? v).bind fun t => some (g t)) = none ∧ ∃ p, (match instantOfValue v with
      | .ok t => Except.ok (some (g t))
      | .error e => if e.kind = "OverflowError" then .error e else .ok none) = .error p := by
  rw [← instantOfValue_reads]
  cases instantOfValue v with
  | ok t => exact .inl rfl
  | error e =>
    by_cases hk : e.kind = "OverflowError"
    · exact .inr ⟨rfl, e, if_pos hk⟩
    · exact .inl (if_neg hk)

/-- a window is read, or skipped, or stops the reading; what stops it cannot be read -/
theorem readWindow_reads (e : Value × Value) :
    readWindow e.1 e.2 = .ok (windowOf? e) ∨ windowOf? e = none ∧ ∃ p, readWindow e.1 e.2 = .error p := by
  unfold readWindow windowOf?
  cases e.1.text?.bind Period.ofAnyCase? with
  | none => exact .inl rfl
  | some p =>
    cases (entryOf? e.2 "key").bind Value.text? with
    | none => exact .inl rfl
    | some key =>
      cases entryOf? e.2 "lastTimestamp" with
      | none => exact .inl rfl
      | some stamp =>
        exact stamped_reads stamp fun t => (p, Window.mk key t)

/-- a ledger entry is read, or skipped, or stops the reading; what stops it cannot be read -/
theorem readEarned_reads (v : Value) :
    readEarned v = .ok (earnedOf? v) ∨ earnedOf? v = none ∧ ∃ p, readEarned v = .error p := by
  unfold readEarned earnedOf?
  cases v with
  | dict es =>
    obtain ⟨-, hcount⟩ | ⟨⟨c, hc, x, rfl, hx, -⟩, e, hcount, -⟩ := countOf_cases es
    · simp only [hcount, bind, Except.bind]
      cases entryCount? es with
      | none => exact .inl rfl
      | some n =>
        cases (Value.lookup "id" es).bind Value.text? with
        | none => exact .inl rfl
        | some id =>
          cases Value.lookup "lastEarned" es with
          | none => exact .inl rfl
          | some stamp =>
            exact stamped_reads stamp fun t => Earned.mk id (max n 1) t
    · refine .inr ⟨?_, e, by simp only [hcount, bind, Except.bind]⟩
      simp [entryCount?, hc, count?, hx]
  | _ => exact .inl rfl

/-! ## Warnings -/

def propertyWarning (part : String) (e : Value × Value) : String :=
  "Skipping " ++ part ++ " entry " ++ shownOrBlank e.1 ++ " with unsupported value " ++ shownOrBlank e.2

def windowWarning (e : Value × Value) : String :=
  "Skipping malformed period window " ++ shownOrBlank e.1 ++ ": " ++ shownOrBlank e.2

def earnedWarning (v : Value) : String := "Skipping malformed earned entry: " ++ shownOrBlank v

def bookmarkWarning (e : Value × Value) : String :=
  "Skipping malformed bookmark " ++ shownOrBlank e.1 ++ ": " ++ shownOrBlank e.2

/-- the warning about a part that is neither a mapping nor null -/
def shapeReport (raw : List (Value × Value)) (part : String) : List String :=
  match Value.lookup part raw with
  | none | some .null | some (.dict _) => []
  | some _ => ["State field " ++ quoted part ++ " is not a mapping; resetting it"]

/-- the items that can be read and whose ids have not come before -/
def firstOfEach (seen : List String) : List Value → List Value
  | [] => []
  | v :: vs =>
    match earnedOf? v with
    | none => firstOfEach seen vs
    | some e => if e.id ∈ seen then firstOfEach seen vs else v :: firstOfEach (e.id :: seen) vs

/-- the ids of the items that can be read, but whose ids have come before -/
def repeatedIds (seen : List String) : List Value → List String
  | [] => []
  | v :: vs =>
    match earnedOf? v with
    | none => repeatedIds seen vs
    | some e => if e.id ∈ seen then e.id :: repeatedIds seen vs else repeatedIds (e.id :: seen) vs

/-- the warnings about the ledger: its shape, else the items that cannot be read, and then those that came again -/
def ledgerReport (raw : List (Value × Value)) : List String :=
  match Value.lookup "earned" raw with
  | some (.list vs) => complaints earnedOf? earnedWarning vs ++ (repeatedIds [] vs).map duplicateWarning
  | some v => if v.truthy then ["State field 'earned' is not a list; resetting it"] else []
  | none => []

/-- all warnings about a state, in order -/
def reports (raw : List (Value × Value)) : List String :=
  shapeReport raw "props" ++ complaints propertyOf? (propertyWarning "props") (entriesOf raw "props") ++
    (shapeReport raw "systemProps" ++
      complaints propertyOf? (propertyWarning "systemProps") (entriesOf raw "systemProps") ++
    (shapeReport raw "periods" ++ complaints windowOf? windowWarning (entriesOf raw "periods") ++
    (ledgerReport raw ++
    (shapeReport raw "bookmarks" ++ complaints bookmarkOf? bookmarkWarning (entriesOf raw "bookmarks")))))

/-- every entry of every part can be read -/
structure LegibleState (raw : List (Value × Value)) : Prop where
  props : Legible propertyOf? (entriesOf raw "props")
  system : Legible propertyOf? (entriesOf raw "systemProps")
  periods : Legible windowOf? (entriesOf raw "periods")
  earned : Legible earnedOf? (itemsOf raw)
  bookmarks : Legible bookmarkOf? (entriesOf raw "bookmarks")

/-! ## Parts -/

theorem partEntries_yields (raw : List (Value × Value)) (part : String) (legible : Prop) :
    (partEntries raw part).Yields legible (entriesOf raw part) (shapeReport raw part) := by
  unfold partEntries entriesOf shapeReport
  match Value.lookup part raw with
  | none | some .null => exact (gives_pure []).yields legible
  | some (.dict es) => exact (gives_pure es).yields legible
  | some (.scalar _) | some (.list _) | some (.tuple _) | some (.set _) | some (.date _) | some (.moment _)
  | some (.bytes _) => exact (yields_warn _ legible).map fun _ => []

theorem readProps_yields (part : String) (p : Props) {es : List (Value × Value)} (hes : IsMapping es) :
    (readProps part p es).Yields (Legible propertyOf? es) (p.setAll (es.filterMap propertyOf?))
      (complaints propertyOf? (propertyWarning part) es) := by
  induction es generalizing p with
  | nil => exact (gives_pure p).yields _
  | cons e es ih =>
    obtain ⟨k, v⟩ := e
    obtain ⟨name, hk⟩ := hes.text List.mem_cons_self
    obtain rfl : k = .ofText name := hk
    refine (gives_ofExcept name).then ?_
    cases he : propertyOf? (.ofText name, v) with
    | none =>
      obtain ⟨_, refused⟩ := setValue_refused p he
      rw [refused, List.filterMap_cons_none he]
      exact (ih p hes.of_cons).drop he
    | some x =>
      rw [setValue_of_property p he, List.filterMap_cons_some he]
      exact (ih (p.set x.1 x.2) hes.of_cons).keep he

theorem readWindows_yields (w : Windows) (es : List (Value × Value)) :
    (readWindows w es).Yields (Legible windowOf? es) ((es.filterMap windowOf?).foldl (fun w e => w.set e.1 e.2) w)
      (complaints windowOf? windowWarning es) := by
  induction es generalizing w with
  | nil => exact (gives_pure w).yields _
  | cons e es ih =>
    rw [readWindows]
    rcases readWindow_reads e with read | ⟨he, p, failed⟩
    · rw [read]
      refine (gives_ofExcept (windowOf? e)).then ?_
      cases he : windowOf? e with
      | none =>
        rw [List.filterMap_cons_none he]
        exact (ih w).drop he
      | some x =>
        rw [List.filterMap_cons_some he]
        exact (ih (w.set x.1 x.2)).keep he
    · rw [failed]
      exact yields_stop he p

theorem readEarnedList_yields (vs : List Value) :
    (readEarnedList vs).Yields (Legible earnedOf? vs) (vs.filterMap earnedOf?)
      (complaints earnedOf? earnedWarning vs) := by
  induction vs with
  | nil => exact (gives_pure []).yields _
  | cons v vs ih =>
    rw [readEarnedList]
    rcases readEarned_reads v with read | ⟨hv, p, failed⟩
    · rw [read]
      refine (gives_ofExcept (earnedOf? v)).then ?_
      cases hv : earnedOf? v with
      | none =>
        rw [List.filterMap_cons_none hv]
        exact ih.drop hv
      | some e =>
        rw [List.filterMap_cons_some hv]
        exact (ih.map fun es => e :: es).keep hv
    · rw [failed]
      exact yields_stop hv p

theorem readBookmarks_yields (b : Bookmarks) (es : List (Value × Value)) :
    (readBookmarks b es).Yields (Legible bookmarkOf? es)
      ((es.filterMap bookmarkOf?).foldl (fun b e => b.set e.1 e.2) b) (complaints bookmarkOf? bookmarkWarning es) := by
  induction es generalizing b with
  | nil => exact (gives_pure b).yields _
  | cons e es ih =>
    obtain ⟨k, v⟩ := e
    have read := instantOfValue_reads v
    rw [readBookmarks]
    cases hi : instantOfValue v with
    | ok t =>
      rw [hi] at read
      cases hn : k.text? with
      | none =>
        have he : bookmarkOf? (k, v) = none := by simp [bookmarkOf?, hn]
        rw [List.filterMap_cons_none he]
        exact (ih b).drop he
      | some name =>
        have he : bookmarkOf? (k, v) = some (name, t) := by simp [bookmarkOf?, hn, ← read, Except.toOption]
        rw [List.filterMap_cons_some he]
        exact (ih (b.set name t)).keep he
    | error p =>
      rw [hi] at read
      have he : bookmarkOf? (k, v) = none := by simp [bookmarkOf?, ← read, Except.toOption]
      rw [List.filterMap_cons_none he]
      by_cases hk : p.kind = "OverflowError"
      · simp only [hk, if_true]
        exact yields_error p (not_legible_cons he) _ _
      · simp only [if_neg hk]
        exact (ih b).drop he

/-! ## The ledger -/

theorem legible_firstOfEach (seen : List String) (vs : List Value) : Legible earnedOf? (firstOfEach seen vs) := by
  induction vs generalizing seen with
  | nil => exact nofun
  | cons v vs ih =>
    unfold firstOfEach
    cases hv : earnedOf? v with
    | none => exact ih seen
    | some e =>
      dsimp only
      split
      · exact ih seen
      · intro u hu
        rcases List.mem_cons.1 hu with rfl | hu
        · rw [hv]
          rfl
        · exact ih _ u hu

/-- the first entry of an id is among the first of each -/
theorem find?_firstOfEach {id : String} {seen : List String} (h : id ∉ seen) (vs : List Value) :
    ((firstOfEach seen vs).filterMap earnedOf?).find? (fun e => e.id = id) =
      (vs.filterMap earnedOf?).find? fun e => e.id = id := by
  induction vs generalizing seen with
  | nil => rfl
  | cons v vs ih =>
    unfold firstOfEach
    cases hv : earnedOf? v with
    | none =>
      rw [List.filterMap_cons_none hv]
      exact ih h
    | some e =>
      rw [List.filterMap_cons_some hv]
      dsimp only
      by_cases hid : e.id = id
      · have new : e.id ∉ seen := hid ▸ h
        rw [if_neg new, List.filterMap_cons_some hv, List.find?_cons_of_pos (by simpa using hid),
          List.find?_cons_of_pos (by simpa using hid)]
      · rw [List.find?_cons_of_neg (by simpa using hid)]
        split
        · exact ih h
        · rw [List.filterMap_cons_some hv, List.find?_cons_of_neg (by simpa using hid)]
          apply ih
          intro hm
          rcases List.mem_cons.1 hm with he | hm
          · exact hid he.symm
          · exact h hm

namespace Ledger

theorem foldl_takeUp_items (l : Ledger) (again seen : List String) (hs : ∀ id, id ∈ seen ↔ id ∈ l.entries.map (·.id))
    (vs : List Value) : ((vs.filterMap earnedOf?).foldl takeUp (l, again)).1.entries =
        l.entries ++ (firstOfEach seen vs).filterMap earnedOf? ∧
      ((vs.filterMap earnedOf?).foldl takeUp (l, again)).2 = (repeatedIds seen vs).reverse ++ again := by
  induction vs generalizing l again seen with
  | nil => exact ⟨(List.append_nil _).symm, rfl⟩
  | cons v vs ih =>
    unfold firstOfEach repeatedIds
    cases hv : earnedOf? v with
    | none =>
      rw [List.filterMap_cons_none hv]
      exact ih l again seen hs
    | some e =>
      rw [List.filterMap_cons_some hv, List.foldl_cons]
      dsimp only
      by_cases he : e.id ∈ seen
      · rw [if_pos he, if_pos he, takeUp_old ((hs e.id).1 he), List.reverse_cons, List.append_assoc]
        exact ih l (e.id :: again) seen hs
      · rw [if_neg he, if_neg he, List.filterMap_cons_some hv]
        obtain ⟨l', hl', htake⟩ := takeUp_new (mt (hs e.id).2 he) again
        rw [htake, List.append_cons, ← hl']
        refine ih l' again (e.id :: seen) fun id => ?_
        rw [hl', List.map_append, List.mem_append, ← hs id, List.map_singleton, List.mem_singleton, List.mem_cons,
          or_comm]

/-- a ledger takes up the first item of each id -/
theorem ofEntries_items (vs : List Value) :
    (ofEntries (vs.filterMap earnedOf?)).1.entries = (firstOfEach [] vs).filterMap earnedOf? ∧
      (ofEntries (vs.filterMap earnedOf?)).2 = repeatedIds [] vs := by
  obtain ⟨entries, again⟩ := foldl_takeUp_items .empty [] [] (fun _ => Iff.rfl) vs
  refine ⟨entries, ?_⟩
  show List.reverse _ = _
  rw [again, List.append_nil, List.reverse_reverse]

end Ledger

theorem warnings_yields (texts : List String) (f : String → String) (legible : Prop) :
    (texts.forM fun text => warn (f text)).Yields legible () (texts.map f) := by
  induction texts with
  | nil => exact (gives_pure ()).yields legible
  | cons text texts ih => exact (yields_warn (f text) legible).bind ih

theorem makeLedger_yields (vs : List Value) (legible : Prop) :
    (makeLedger (vs.filterMap earnedOf?)).Yields legible (Ledger.ofEntries (vs.filterMap earnedOf?)).1
      ((repeatedIds [] vs).map duplicateWarning) := by
  unfold makeLedger
  rw [← (Ledger.ofEntries_items vs).2]
  exact (warnings_yields _ duplicateWarning legible).map fun _ => _

theorem readLedger_yields (raw : List (Value × Value)) :
    (readLedger raw).Yields (Legible earnedOf? (itemsOf raw)) (Ledger.ofEntries ((itemsOf raw).filterMap earnedOf?)).1
      (ledgerReport raw) := by
  unfold readLedger itemsOf ledgerReport
  have reset : ∀ (c : Bool) text legible, Yields (do
      if c then warn text
      return Ledger.empty) legible Ledger.empty (if c then [text] else []) := by
    intro c text legible
    cases c with
    | true => exact (yields_warn text legible).map fun _ => Ledger.empty
    | false => exact (gives_pure _).yields legible
  match Value.lookup "earned" raw with
  | some (.list vs) => exact (readEarnedList_yields vs).bind (makeLedger_yields vs _)
  | none | some .null | some (.scalar _) | some (.dict _) | some (.tuple _) | some (.set _) | some (.date _)
  | some (.moment _) | some (.bytes _) => exact reset _ _ _

/-! ## States -/

/-- what a host can store: a mapping under texts, and what is a mapping in it stands under texts -/
structure IsBlob (raw : List (Value × Value)) : Prop where
  fields : IsMapping raw
  parts : ∀ e ∈ raw, IsMapping (stateFields e.2)

instance (raw : List (Value × Value)) : Decidable (IsBlob raw) :=
  decidable_of_iff (IsMapping raw ∧ ∀ e ∈ raw, IsMapping (stateFields e.2))
    ⟨fun h => ⟨h.1, h.2⟩, fun h => ⟨h.fields, h.parts⟩⟩

theorem IsBlob.entriesOf {raw : List (Value × Value)} (h : IsBlob raw) (part : String) :
    IsMapping (entriesOf raw part) := by
  unfold BadgeEngine.entriesOf
  split
  case h_1 es hl =>
    obtain ⟨e, he, hv⟩ := mem_of_lookup hl
    have mapping := h.parts e he
    rw [hv] at mapping
    exact mapping
  case h_2 => exact ⟨nofun, .nil⟩

/-- **Warnings.** The reading of a state yields the state and the warnings that its entries tell. -/
theorem ofValue_yields {raw : List (Value × Value)} (h : IsBlob raw) :
    (EngineState.ofValue (.dict raw)).Yields (LegibleState raw) (forgiven raw) (reports raw) := by
  unfold EngineState.ofValue reports
  rw [stateEntries_dict]
  refine (gives_ofExcept raw).then ?_
  have earned := readLedger_yields raw
  have props := (readProps_yields "props" {} (h.entriesOf "props")).mono LegibleState.props
  have system := (readProps_yields "systemProps" {} (h.entriesOf "systemProps")).mono LegibleState.system
  have periods := (readWindows_yields .initial (entriesOf raw "periods")).mono LegibleState.periods
  have bookmarks := (readBookmarks_yields {} (entriesOf raw "bookmarks")).mono LegibleState.bookmarks
  simp only [List.append_assoc]
  refine (partEntries_yields raw "props" _).bind (props.bind ?_)
  refine (partEntries_yields raw "systemProps" _).bind (system.bind ?_)
  refine (partEntries_yields raw "periods" _).bind (periods.bind ?_)
  refine (earned.mono LegibleState.earned).bind ((partEntries_yields raw "bookmarks" _).bind ?_)
  exact bookmarks.map fun bookmarks => { forgiven raw with bookmarks }

end BadgeEngine
