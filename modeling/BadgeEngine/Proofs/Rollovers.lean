/-
What a pass over the rules sees of the calendar (`passes_on_time`).

A refresh gives windows and system properties the same local time (`refresh_inTime`), and it is noted right after the
reading of the clock, so two notes tell which keys it changed (`RolledOver`). Nothing else changes these windows and
properties (`SameCalendar`). So what the notes of an operation tell of refreshes (`Diary`) is what its engine shows, and
no pass comes before the first refresh: all that an operation adds is on time (`Timely`, `answer_on_time`).
-/
import BadgeEngine.Proofs.History
import BadgeEngine.Proofs.InstantText
import BadgeEngine.Proofs.Standing

namespace BadgeEngine

open BadgeEngine.Text BadgeEngine.Time Relation Run Setup

variable {σ α β : Type} {s : Setup σ} {w w' : World σ} {l : Moment} {t : Instant} {f : Rollover} {st : EngineState}
  {e e' : Engine} {base ns : List Noted}

/-! ## What a refresh shows -/

theorem Props.get?_setAll_of_mem {p : Props} {es : List (String × Scalar)} (hn : (es.map (·.1)).Nodup)
    {x : String × Scalar} (h : x ∈ es) : (p.setAll es).get? x.1 = some x.2 := by
  unfold setAll
  induction es generalizing p with
  | nil => cases h
  | cons y es ih =>
    obtain ⟨hy, hes⟩ := List.nodup_cons.1 hn
    rw [List.foldl_cons]
    rcases List.mem_cons.1 h with rfl | h
    · exact (get?_setAll_of_notMem hy).trans (by rw [get?_set, if_pos rfl])
    · exact ih hes h

/-- the names of what conditions see of rollovers -/
def rolloverNames : List String := (Rollover.toProps {}).map (·.1)

/-- the names of what conditions see of a local time -/
def clockNames : List String :=
  ["year", "month", "day", "hour", "minute", "weekday", "isWeekDay", "isWeekEnd", "date", "time"]

/-- the names of the system properties that a refresh sets -/
def calendarNames : List String := rolloverNames ++ clockNames

theorem toProps_names (f : Rollover) : f.toProps.map (·.1) = rolloverNames := rfl

theorem calendarProps_names (l : Moment) : (calendarProps l).map (·.1) = clockNames := rfl

/-- a state shows a local time in the keys of its windows and to conditions, and what rolled over -/
structure InTime (l : Moment) (f : Rollover) (st : EngineState) : Prop where
  keys : ∀ c, (st.windows.get (.calendar c)).key = c.key l
  calendar : ∀ p ∈ calendarProps l, st.system.get? p.1 = some p.2
  flags : ∀ p ∈ f.toProps, st.system.get? p.1 = some p.2

/-- a refresh shows the local time it was made at, and what rolled over so far -/
theorem refresh_inTime (e : Engine) (t : Instant) (l : Moment) :
    InTime l (e.refresh t l).1.rolled (e.refresh t l).1.state := by
  unfold Engine.refresh
  refine ⟨fun c => ?_, fun p hp => ?_, fun p hp => ?_⟩
  · dsimp only
    rw [Windows.refresh_get]
    dsimp only
    split
    case isTrue => rfl
    case isFalse h => exact (not_not.1 fun hne => h (decide_eq_true hne)).symm
  · exact Props.get?_setAll_of_mem (by rw [calendarProps_names]; decide) hp
  · have apart : ∀ name ∈ rolloverNames, name ∉ clockNames := by decide
    have hname : p.1 ∈ rolloverNames := List.mem_map_of_mem (f := (·.1)) hp
    dsimp only at hp ⊢
    rw [Props.get?_setAll_of_notMem (apart p.1 hname)]
    exact Props.get?_setAll_of_mem (by rw [toProps_names]; decide) hp

theorem Rollover.merge_get (f g : Rollover) (c : CalendarPeriod) : (f.merge g).get c = (f.get c || g.get c) := by
  cases c <;> rfl

theorem Rollover.eq_empty {f : Rollover} (h : ∀ c, f.get c = false) : f = {} := by
  obtain ⟨year, month, week, day, hour⟩ := f
  obtain rfl : year = false := h .year
  obtain rfl : month = false := h .month
  obtain rfl : week = false := h .week
  obtain rfl : day = false := h .day
  obtain rfl : hour = false := h .hour
  rfl

/-- a period has rolled over after a refresh if it had before, or its key changed -/
theorem refresh_rolled_get (e : Engine) (t : Instant) (l : Moment) (c : CalendarPeriod) :
    (e.refresh t l).1.rolled.get c = true ↔
      e.rolled.get c = true ∨ c.key l ≠ (e.state.windows.get (.calendar c)).key := by
  simp only [Engine.refresh, Rollover.merge_get, Windows.refresh_rolled, Windows.isStale, Bool.or_eq_true,
    decide_eq_true_eq]

/-- the text of the date is the key of the day, and with the hour on the clock it is the key of the hour -/
theorem InTime.date_time (h : InTime l f st) : ∃ date time, st.system.get? "date" = some (.text date) ∧
    st.system.get? "time" = some (.text time) ∧ (st.windows.get (.calendar .day)).key = date ∧
    (st.windows.get (.calendar .hour)).key = date ++ "-H" ++ String.ofList (time.toList.take 2) := by
  let time := padded 2 l.hour ++ ":" ++ padded 2 l.minute
  have hours : (padded 2 l.hour).toList.length = 2 := by
    have hl : l.hour < 10 ^ 2 := by unfold Moment.hour; omega
    simpa using (padded_digits (by decide) hl).length
  have two : String.ofList (time.toList.take 2) = padded 2 l.hour := by
    rw [String.toList_append, String.toList_append, List.append_assoc, List.take_left' hours, String.ofList_toList]
  refine ⟨l.date.text, time, h.calendar ("date", _) ?_, h.calendar ("time", _) ?_, h.keys .day, ?_⟩
  · simp [calendarProps]
  · simp [calendarProps, time]
  · rw [h.keys .hour, two]
    rfl

/-! ## What notes tell of refreshes -/

def Note.isRefresh : Note → Bool
  | .refreshed .. => true
  | _ => false

/-- a note of a pass over the rules, or of a match recorded in one -/
def Note.isRuling : Note → Bool
  | .pass | .recorded .. => true
  | _ => false

/-- a note of neither a refresh nor a pass over the rules nor a match -/
def Note.isAway : Note → Bool
  | .refreshed .. | .pass | .recorded .. => false
  | _ => true

/-- the key of a period when a note was taken -/
def Noted.key (x : Noted) (c : CalendarPeriod) : String := (x.engine.state.windows.get (.calendar c)).key

/-- some refresh changed the key of a period: the key differs from what it was at the note before -/
def RolledOver (c : CalendarPeriod) : List Noted → Prop
  | y :: x :: older => (y.note.isRefresh ∧ y.key c ≠ x.key c) ∨ RolledOver c (x :: older)
  | _ => False

/-- the instant and the local time of the last refresh -/
def lastRefresh (ns : List Noted) : Option (Instant × Moment) :=
  ns.findSome? fun x => match x.note with | .refreshed t l _ => some (t, l) | _ => none

/-- a pass begins in time in a state: it shows the local time of the last refresh, and as new the periods whose keys
some refresh changed -/
def OnTime (s : Setup σ) (older : List Noted) (st : EngineState) : Prop :=
  ∃ t l f, lastRefresh older = some (t, l) ∧ localTime s.zone t = .ok l ∧ InTime l f st ∧
    ∀ c, f.get c = true ↔ RolledOver c older

/-- refreshes are made at the instant read right before, and the rules are passed over and matches recorded in time -/
def Timely (s : Setup σ) : List Noted → Prop
  | [] => True
  | x :: older => Timely s older ∧ (x.note.isRuling → OnTime s older x.engine.state) ∧
      ∀ t l f, x.note = .refreshed t l f → localTime s.zone t = .ok l ∧ ∃ y, older.head? = some y ∧ y.shows t

/-- an engine shows what the notes of its operation tell -/
structure Diary (s : Setup σ) (ns : List Noted) (e : Engine) : Prop where
  rolled : ∀ c, e.rolled.get c = true ↔ RolledOver c ns
  latest : ∀ t l, lastRefresh ns = some (t, l) → localTime s.zone t = .ok l ∧ InTime l e.rolled e.state
  timely : Timely s ns

/-- an engine whose calendar is as in another -/
structure SameCalendar (e e' : Engine) : Prop where
  keys : ∀ c, (e'.state.windows.get (.calendar c)).key = (e.state.windows.get (.calendar c)).key
  system : ∀ name ∈ calendarNames, e'.state.system.get? name = e.state.system.get? name
  rolled : e'.rolled = e.rolled
  running : e'.running = e.running

theorem not_refresh {n : Note} (h : n.isAway) : n.isRefresh = false := by
  cases n <;> first | rfl | cases h

theorem not_ruling {n : Note} (h : n.isAway) : n.isRuling = false := by
  cases n <;> first | rfl | cases h

theorem ruling_not_refresh {n : Note} (h : n.isRuling) : n.isRefresh = false := by
  cases n <;> first | rfl | cases h

theorem rolledOver_cons {c : CalendarPeriod} {x : Noted} (hx : x.note.isRefresh = false) :
    RolledOver c (x :: ns) ↔ RolledOver c ns := by
  cases ns with
  | nil => exact Iff.rfl
  | cons y ns => simp [RolledOver, hx]

theorem lastRefresh_cons {x : Noted} (hx : x.note.isRefresh = false) : lastRefresh (x :: ns) = lastRefresh ns := by
  obtain ⟨n, e⟩ := x
  cases n <;> first | rfl | cases hx

theorem Timely.of_suffix {ms : List Noted} (h : Timely s ns) (hs : ms <:+ ns) : Timely s ms := by
  induction ns with
  | nil => exact List.suffix_nil.1 hs ▸ h
  | cons x ns ih =>
    rcases List.suffix_cons_iff.1 hs with rfl | hs
    · exact h
    · exact ih h.1 hs

/-- notes of other things may be taken -/
theorem Timely.noted (h : Timely s ns) {x : Noted} (hx : x.note.isAway) : Timely s (x :: ns) := by
  refine ⟨h, fun hr => ?_, fun t l f he => ?_⟩
  · rw [not_ruling hx] at hr
    cases hr
  · rw [he] at hx
    cases hx

theorem Timely.of_away (h : ∀ x ∈ ns, x.note.isAway) : Timely s ns := by
  induction ns with
  | nil => trivial
  | cons x ns ih => exact (ih fun y hy => h y (List.mem_cons_of_mem _ hy)).noted (h x List.mem_cons_self)

theorem SameCalendar.refl (e : Engine) : SameCalendar e e := ⟨fun _ => rfl, fun _ _ => rfl, rfl, rfl⟩

theorem SameCalendar.inTime (h : SameCalendar e e') (hl : InTime l f e.state) : InTime l f e'.state where
  keys c := (h.keys c).trans (hl.keys c)
  calendar p hp := by
    have hname : p.1 ∈ clockNames := List.mem_map_of_mem (f := (·.1)) hp
    exact (h.system p.1 (List.mem_append_right _ hname)).trans (hl.calendar p hp)
  flags p hp := by
    have hname : p.1 ∈ rolloverNames := List.mem_map_of_mem (f := (·.1)) hp
    exact (h.system p.1 (List.mem_append_left _ hname)).trans (hl.flags p hp)

/-- properties that no refresh sets may be set -/
theorem SameCalendar.telling {es : List (String × Scalar)} (h : ∀ name ∈ es.map (·.1), name ∉ calendarNames)
    (e : Engine) : SameCalendar e { e with state := e.state.telling es } where
  keys _ := rfl
  system name hn := EngineState.telling_get?_of_notMem fun he => h name he hn
  rolled := rfl
  running := rfl

/-- a property that no refresh sets may be set -/
theorem SameCalendar.set {name : String} (hn : name ∉ calendarNames) (e : Engine) (x : Scalar) :
    SameCalendar e { e with state := { e.state with system := e.state.system.set name x } } :=
  have single : ∀ other ∈ [(name, x)].map (·.1), other ∉ calendarNames := fun _ ho => List.mem_singleton.1 ho ▸ hn
  telling single e

namespace Diary

/-- an operation begins with nothing rolled over -/
theorem start (hns : ∀ x ∈ ns, x.note.isAway) (he : e.rolled = {}) : Diary s ns e := by
  have quiet : (∀ c, ¬ RolledOver c ns) ∧ lastRefresh ns = none := by
    induction ns with
    | nil => exact ⟨fun _ h => h, rfl⟩
    | cons x ns ih =>
      obtain ⟨hroll, hlast⟩ := ih fun y hy => hns y (List.mem_cons_of_mem _ hy)
      have hx := not_refresh (hns x List.mem_cons_self)
      exact ⟨fun c => mt (rolledOver_cons hx).1 (hroll c), (lastRefresh_cons hx).trans hlast⟩
  refine ⟨fun c => ?_, fun t l hl => ?_, ?_⟩
  · rw [he]
    refine iff_of_false (fun h => ?_) (quiet.1 c)
    cases c <;> cases h
  · cases quiet.2.symm.trans hl
  · exact .of_away hns

theorem congr (h : Diary s ns e) (hc : SameCalendar e e') : Diary s ns e' where
  rolled c := by
    rw [hc.rolled]
    exact h.rolled c
  latest t l hl := by
    obtain ⟨hlocal, shown⟩ := h.latest t l hl
    exact ⟨hlocal, hc.rolled ▸ hc.inTime shown⟩
  timely := h.timely

/-- notes of other things may be taken -/
theorem noted (h : Diary s ns e) {x : Noted} (hx : x.note.isAway) : Diary s (x :: ns) e where
  rolled c := (h.rolled c).trans (rolledOver_cons (not_refresh hx)).symm
  latest t l hl := h.latest t l ((lastRefresh_cons (not_refresh hx)).symm.trans hl)
  timely := h.timely.noted hx

/-- a pass begins in time, and a match is recorded in time, once there was a refresh -/
theorem ruled (h : Diary s ns e) (hr : lastRefresh ns ≠ none) {n : Note} (hn : n.isRuling) :
    Diary s (⟨n, e⟩ :: ns) e := by
  have other := ruling_not_refresh hn
  refine ⟨fun c => (h.rolled c).trans (rolledOver_cons other).symm, fun t l hl => ?_, h.timely, fun _ => ?_, ?_⟩
  · exact h.latest t l ((lastRefresh_cons other).symm.trans hl)
  · obtain ⟨⟨t, l⟩, hl⟩ := Option.ne_none_iff_exists'.1 hr
    obtain ⟨hlocal, shown⟩ := h.latest t l hl
    exact ⟨t, l, e.rolled, hl, hlocal, shown, h.rolled⟩
  · intro t l f he
    cases he
    cases hn

attribute [local irreducible] Engine.refresh

/-- a refresh at the instant read right before is told by the two notes -/
theorem refreshed (h : Diary s (⟨.clock (.ok t), e⟩ :: ns) e) (hl : localTime s.zone t = .ok l) :
    Diary s (⟨.refreshed t l f, (e.refresh t l).1⟩ :: ⟨.clock (.ok t), e⟩ :: ns) (e.refresh t l).1 where
  rolled c := by
    have hkey : Noted.key ⟨.refreshed t l f, (e.refresh t l).1⟩ c = c.key l := (refresh_inTime e t l).keys c
    have hold : Noted.key ⟨.clock (.ok t), e⟩ c = (e.state.windows.get (.calendar c)).key := rfl
    rw [refresh_rolled_get, RolledOver, hkey, hold, h.rolled c, or_comm]
    simp [Note.isRefresh]
  latest t' l' hl' := by
    cases hl'
    exact ⟨hl, refresh_inTime e t l⟩
  timely := by
    refine ⟨h.timely, nofun, fun t' l' f' he => ?_⟩
    cases he
    exact ⟨hl, _, rfl, rfl⟩

end Diary

/-! ## Operations -/

/-- a world in which an operation runs that shows what was noted since it began; `b` tells of a refresh -/
structure Timed (s : Setup σ) (base : List Noted) (b : Bool) (w : World σ) : Prop where
  busy : w.engine.busy = true
  notes : ∃ ns, w.trace = ns ++ base ∧ Diary s ns w.engine ∧ (b = true → lastRefresh ns ≠ none)

namespace Timed

variable {b : Bool}

theorem weaken (h : Timed s base b w) : Timed s base false w := by
  obtain ⟨ns, hns, hd, -⟩ := h.notes
  exact ⟨h.busy, ns, hns, hd, nofun⟩

theorem congr (h : Timed s base b w) (hc : SameCalendar w.engine w'.engine) (ht : w'.trace = w.trace) :
    Timed s base b w' := by
  obtain ⟨ns, hns, hd, hr⟩ := h.notes
  exact ⟨by rw [Engine.busy, hc.running]; exact h.busy, ns, ht.trans hns, hd.congr hc, hr⟩

theorem noting (h : Timed s base b w) {n : Note} (hn : n.isAway) : Timed s base b (w.noting n) := by
  obtain ⟨ns, hns, hd, hr⟩ := h.notes
  refine ⟨h.busy, ⟨n, w.engine⟩ :: ns, by rw [World.noting_trace, hns, List.cons_append], hd.noted hn, fun hb => ?_⟩
  rw [lastRefresh_cons (not_refresh hn)]
  exact hr hb

theorem ruled (h : Timed s base true w) {n : Note} (hn : n.isRuling) : Timed s base true (w.noting n) := by
  obtain ⟨ns, hns, hd, hr⟩ := h.notes
  refine ⟨h.busy, ⟨n, w.engine⟩ :: ns, by rw [World.noting_trace, hns, List.cons_append], hd.ruled (hr rfl) hn,
    fun _ => ?_⟩
  rw [lastRefresh_cons (ruling_not_refresh hn)]
  exact hr rfl

/-- the windows are refreshed right after the clock was read -/
theorem refreshing (h : Timed s base b w) (hl : localTime s.zone t = .ok l) :
    Timed s base true ((w.noting (.clock (.ok t))).refreshing t l) := by
  obtain ⟨ns, hns, hd, -⟩ := h.notes
  have read : Diary s (⟨.clock (.ok t), w.engine⟩ :: ns) w.engine := hd.noted rfl
  let u := w.noting (.clock (.ok t))
  let rolled := (u.engine.state.windows.refresh t l).2
  have shown : Diary s (⟨.refreshed t l rolled, (u.refreshing t l).engine⟩ :: ⟨.clock (.ok t), w.engine⟩ :: ns)
      (u.refreshing t l).engine := read.refreshed hl
  refine ⟨(World.refreshing_busy _ t l).trans h.busy, _, ?_, shown, fun _ => nofun⟩
  rw [World.refreshing_trace, World.noting_trace, hns]
  rfl

end Timed

/-! ### Moves -/

theorem isAway_of_isRemark {n : Note} (h : n.isRemark) : n.isAway := by
  cases n <;> first | rfl | cases h

theorem HookMove.timed {b : Bool} (h : HookMove w w') (hw : Timed s base b w) : Timed s base b w' := by
  cases h with
  | remarked n hn => exact hw.noting (isAway_of_isRemark hn)
  | _ => exact hw.congr ⟨fun _ => rfl, fun _ _ => rfl, rfl, rfl⟩ rfl

theorem RuleMove.timed (h : RuleMove s w w') (hw : Timed s base true w) : Timed s base true w' := by
  have matching : ∀ id t, Timed s base true (w.matching id t) := fun id t => (hw.noting rfl).noting rfl
  cases h with
  | hook h => exact h.timed hw
  | settled => exact hw.congr ⟨fun _ => rfl, fun _ _ => rfl, rfl, rfl⟩ rfl
  | passed => exact hw.ruled rfl
  | judged id v hv => exact hw.noting rfl
  | unread id e => exact (hw.noting rfl).noting rfl
  | held r hr t l hl => exact (matching r.id t).ruled rfl
  | earned r hr t e l hl =>
    let u := (w.matching r.id t).withEngine { w.engine with
      state := { w.engine.state with ledger := l }, news := Ledger.put e w.engine.news }
    have hu : Timed s base true u := (matching r.id t).congr ⟨fun _ => rfl, fun _ _ => rfl, rfl, rfl⟩ rfl
    exact hu.ruled rfl

theorem HookMoves.timed {b : Bool} (h : HookMoves w w') (hw : Timed s base b w) : Timed s base b w' := by
  induction h with
  | refl => exact hw
  | tail _ h ih => exact h.timed ih

theorem RuleMoves.timed (h : RuleMoves s w w') (hw : Timed s base true w) : Timed s base true w' := by
  induction h with
  | refl => exact hw
  | tail _ h ih => exact h.timed ih

/-! ### Programs -/

/-- a program in whose passes the calendar is in time; it needs a refresh before if `b`, and there was one after it if
`b'` -/
def Punctual (s : Setup σ) (base : List Noted) (b b' : Bool) (r : Run σ α) : Prop :=
  ∀ w, Timed s base b w → r.leads w (fun _ => Timed s base b') (fun _ => Timed s base false)

section Programs

variable {b b' b'' : Bool}

theorem Punctual.bind {r : Run σ β} {f : β → Run σ α} (hr : Punctual s base b b' r)
    (hf : ∀ x, Punctual s base b' b'' (f x)) : Punctual s base b b'' (r >>= f) := by
  intro w hw
  rw [leads_bind]
  exact (hr w hw).mono (fun x v hv => hf x v hv) fun _ _ hv => hv

theorem Punctual.weaken {r : Run σ α} (h : Punctual s base b b' r) : Punctual s base b false r :=
  fun w hw => (h w hw).mono (fun _ _ hv => hv.weaken) fun _ _ hv => hv

theorem tellSnapshot_punctual (h : Hook) : Punctual s base b b (s.tellSnapshot h) := by
  intro w hw
  refine (tellSnapshot_moves h w).mono (fun _ v hv => ?_) fun _ v hv => ?_
  · exact (hv hw.busy).1.timed hw
  · exact ((hv hw.busy).1.timed hw).weaken

theorem runRules_punctual : Punctual s base true true s.runRules := by
  intro w hw
  refine (runRules_moves w).mono (fun _ v hv => ?_) fun _ v hv => ?_
  · exact (hv hw.busy).1.timed hw
  · exact ((hv hw.busy).1.timed hw).weaken

theorem changeSystem_punctual {f : Props → Props} (es : List (String × Scalar)) (hf : ∀ p, f p = p.setAll es)
    (hn : ∀ name ∈ es.map (·.1), name ∉ calendarNames) : Punctual s base b b (changeSystem f) := by
  intro w hw
  have told : Timed s base b (w.withState (w.engine.state.telling es)) := hw.congr (.telling hn w.engine) rfl
  rw [leads_changeSystem, hf]
  exact told

theorem bump_punctual {name : String} (hn : name ∉ calendarNames) : Punctual s base b b (bump name) := by
  intro w hw
  simp only [bump, leads_bind, leads_state, leads_ofExcept, leads_changeSystem]
  cases hp : w.engine.state.system.addValue name (.ofInt 1) with
  | error e => exact hw.weaken
  | ok p =>
    obtain ⟨x, rfl⟩ := addValue_sets hp
    exact hw.congr (.set hn w.engine x) rfl

theorem count_punctual (a : Axis) (t : Instant) : Punctual s base b b (count a t) := by
  intro w hw
  unfold count
  simp only [leads_bind, leads_state, leads_ofWarned]
  rcases ha : (w.engine.state.windows.advance a (.ok t)).answer with ⟨_ | ⟨n, windows⟩, texts⟩
  all_goals have warned : Timed s base b (w.warning texts) := (warning_moves w texts).timed hw
  · exact warned.weaken
  · obtain ⟨key, -, rfl⟩ := Windows.advance_ok ha
    let stamp := t.later (w.engine.state.windows.get (.counter a)).since
    let st := { w.engine.state with
      windows := w.engine.state.windows.set (.counter a) ⟨key, stamp⟩
      system := w.engine.state.system.set a.startsProp (.int n) }
    have hn : a.startsProp ∉ calendarNames := by cases a <;> decide
    have hne : ∀ c : CalendarPeriod, Period.calendar c ≠ .counter a := fun _ h => by cases h
    have counted : SameCalendar w.engine { w.engine with state := st } :=
      { SameCalendar.set hn w.engine (.int n) with
        keys := fun c => congrArg Window.key (Windows.get_set_of_ne (hne c) _ _) }
    have he : (w.warning texts).engine = w.engine := w.warning_engine texts
    have after : Timed s base b { w.warning texts with engine := { w.engine with state := st } } :=
      warned.congr (he ▸ counted) rfl
    simp only [leads_change, leads_note, he]
    exact after.noting rfl

attribute [local irreducible] Engine.refresh

/-- a refresh that follows the reading of the clock -/
theorem refresh_timed (hw : Timed s base b w) (t : Instant) :
    (s.refresh t).leads (w.noting (.clock (.ok t))) (fun _ => Timed s base true) (fun _ => Timed s base false) := by
  unfold refresh
  simp only [leads_bind, leads_ofExcept]
  cases hl : localTime s.zone t with
  | error e => exact (hw.noting rfl).weaken
  | ok l =>
    have refreshed := hw.refreshing hl
    simp only [leads_engine, leads_changeEngine, leads_note, leads_ite, leads_pure]
    split
    · exact tellSnapshot_punctual .newTimePeriod _ refreshed
    · exact refreshed

/-- the clock is read, and the windows are refreshed at the instant it shows -/
theorem atNow_punctual {f : Instant → Run σ α} (hf : ∀ t, Punctual s base true b' (f t)) :
    Punctual s base b b' (do let t ← s.now; s.refresh t; f t) := by
  intro w hw
  have hw' : Timed s base b (w.withHost (s.clock w.host).2) := hw.congr (.refl _) rfl
  rw [leads_bind, leads_now]
  split
  case h_1 t _ =>
    rw [leads_bind]
    exact (refresh_timed hw' t).mono (fun _ v hv => hf t v hv) fun _ _ hv => hv
  case h_2 e _ => exact (hw'.noting rfl).weaken

theorem close_punctual (a : Axis) : Punctual s base b true (s.close a) := by
  let ended : List (String × Scalar) := [(a.endedProp, .bool true), (a.statusProp, .text Status.ended.name)]
  have names : ∀ name ∈ ended.map (·.1), name ∉ calendarNames := by cases a <;> decide
  have ends : a.endsProp ∉ calendarNames := by cases a <;> decide
  unfold close
  refine (changeSystem_punctual ended (fun _ => rfl) names).bind fun _ => (bump_punctual ends).bind fun _ => ?_
  exact (tellSnapshot_punctual _).bind fun _ => atNow_punctual fun _ => runRules_punctual

theorem closeGame_punctual (r : EndReason) : Punctual s base b true (s.closeGame r) := by
  have reason : ∀ name ∈ [endReasonProp], name ∉ calendarNames := by decide
  have counted : r.countProp ∉ calendarNames := by cases r <;> decide
  unfold closeGame
  refine (changeSystem_punctual [(endReasonProp, .text r.name)] (fun _ => rfl) reason).bind fun _ => ?_
  exact (bump_punctual counted).bind fun _ => close_punctual .game

theorem closeBeforeStart_punctual (a : Axis) : Punctual s base b true (s.closeBeforeStart a) := by
  cases a with
  | session => exact close_punctual .session
  | game => exact closeGame_punctual .implicitRestart

theorem present_punctual (a : Axis) : Punctual s base true true (s.present a) := by
  have names : ∀ name ∈ a.presenting.map (·.1), name ∉ calendarNames := by cases a <;> decide
  have shown : ∀ {c} {v : World σ}, Timed s base c v →
      Timed s base c (v.withState (v.engine.state.telling a.presenting)) :=
    fun hv => hv.congr (.telling names _) rfl
  have told : Punctual s base true true (do s.tellSnapshot (.started a); s.runRules) :=
    (tellSnapshot_punctual _).bind fun _ => runRules_punctual
  intro w hw
  unfold present
  rw [leads_ensuring]
  exact (told w hw).mono (fun _ _ hv => shown hv) fun _ _ hv => shown hv

theorem begin_punctual (a : Axis) : Punctual s base b true (s.begin a) := by
  let started : List (String × Scalar) :=
    [(a.newProp, .bool true), (a.endedProp, .bool false), (a.statusProp, .text Status.started.name)]
  have names : ∀ name ∈ started.map (·.1), name ∉ calendarNames := by cases a <;> decide
  refine atNow_punctual fun t => (changeSystem_punctual started (fun _ => rfl) names).bind fun _ => ?_
  exact (count_punctual a t).bind fun _ => present_punctual a

/-- in an operation that loads no state the calendar is in time in every pass -/
theorem perform_punctual {op : Operation} (hop : op.isLoad = false) : Punctual s base false false (s.perform op) := by
  cases op with
  | evaluate => exact (atNow_punctual fun _ => runRules_punctual).weaken
  | start a =>
    intro w hw
    simp only [perform, leads_bind, leads_state, leads_ite]
    split
    · rw [← leads_bind]
      exact ((closeBeforeStart_punctual a).bind fun _ => begin_punctual a).weaken w hw
    · exact (begin_punctual a).weaken w hw
  | endSession =>
    intro w hw
    simp only [perform, leads_bind, leads_state, leads_ite]
    split
    · exact (close_punctual .session).weaken w hw
    · exact (leads_pure ()).2 hw
  | endGame r =>
    intro w hw
    simp only [perform, leads_bind, leads_state, leads_ite]
    split
    · exact (closeGame_punctual r).weaken w hw
    · exact (leads_pure ()).2 hw
  | load v => cases hop

end Programs

/-! ## Requests -/

/-- no refresh and no pass was noted since -/
def Unpassed (base : List Noted) (w : World σ) : Prop := ∃ ns, w.trace = ns ++ base ∧ ∀ x ∈ ns, x.note.isAway

/-- what was noted since was made in time -/
def PassedOnTime (s : Setup σ) (base : List Noted) (w : World σ) : Prop :=
  ∃ ns, w.trace = ns ++ base ∧ Timely s ns

theorem Timed.onTime {b : Bool} (h : Timed s base b w) : PassedOnTime s base w := by
  obtain ⟨ns, hns, hd, -⟩ := h.notes
  exact ⟨ns, hns, hd.timely⟩

theorem Unpassed.onTime (h : Unpassed base w) : PassedOnTime s base w := by
  obtain ⟨ns, hns, haway⟩ := h
  exact ⟨ns, hns, .of_away haway⟩

theorem HookMove.unpassed (h : HookMove w w') (hw : Unpassed base w) : Unpassed base w' := by
  cases h with
  | remarked n hn =>
    obtain ⟨ns, hns, haway⟩ := hw
    refine ⟨⟨n, w.engine⟩ :: ns, by rw [World.noting_trace, hns, List.cons_append], fun x hx => ?_⟩
    rcases List.mem_cons.1 hx with rfl | hx
    · exact isAway_of_isRemark hn
    · exact haway x hx
  | _ => exact hw

theorem HookMoves.unpassed (h : HookMoves w w') (hw : Unpassed base w) : Unpassed base w' := by
  induction h with
  | refl => exact hw
  | tail _ h ih => exact h.unpassed ih

/-- what an operation does after its entry -/
theorem perform_on_time (op : Operation) (hw : Unpassed base w) (hb : w.engine.busy = true)
    (hr : w.engine.rolled = {}) :
    (s.perform op).leads w (fun _ => PassedOnTime s base) (fun _ => PassedOnTime s base) := by
  cases hop : op.isLoad with
  | false =>
    obtain ⟨ns, hns, haway⟩ := hw
    have timed : Timed s base false w := ⟨hb, ns, hns, .start haway hr, nofun⟩
    exact (perform_punctual hop w timed).mono (fun _ _ hv => hv.onTime) fun _ _ hv => hv.onTime
  | true =>
    cases op with
    | load v =>
      simp only [perform, leads_bind, leads_ofWarned, leads_change]
      rcases (EngineState.ofValue v).answer with ⟨_ | st, texts⟩
      all_goals exact (((warning_moves w texts).unpassed hw).onTime : PassedOnTime s base (w.warning texts))
    | _ => cases hop

theorem operation_on_time (op : Operation) (hw : Unpassed base w) :
    (operation op (s.perform op)).leads w (fun _ => PassedOnTime s base) (fun _ => PassedOnTime s base) := by
  cases hb : w.engine.busy with
  | true => exact (leads_operation_busy hb).2 hw.onTime
  | false =>
    unfold operation
    simp only [leads_bind, leads_engine, hb, Bool.false_eq_true, if_false, leads_pure, leads_changeEngine,
      leads_ensuring]
    have entered : Unpassed base (w.withEngine { w.engine with running := some op, news := [], rolled := {} }) := hw
    exact (perform_on_time op entered rfl rfl).mono (fun _ _ hv => hv) fun _ _ hv => hv

/-- in every request, whatever state it meets and however it ends, everything is made in time -/
theorem answer_on_time (s : Setup σ) (w : World σ) (q : Request) :
    PassedOnTime s w.trace ((s.answer q).exec w).2 :=
  have unpassed : Unpassed w.trace w := ⟨[], rfl, fun _ hx => absurd hx List.not_mem_nil⟩
  leads_const.1 (answerWith_leads (P := Unpassed w.trace) (fun _ _ h hv => h.unpassed hv) (fun _ hv => hv.onTime)
    (fun op _ _ hv => operation_on_time op hv) unpassed)

/-- **Time.** In every request, whatever state it meets and however it ends, each pass over the rules begins in time:
the windows and the properties show the local time of the last refresh, and as new the periods whose keys a refresh of
this operation changed. A refresh at an instant without a local time changes nothing. -/
theorem passes_on_time (s : Setup σ) (w : World σ) (q : Request) :
    (∃ ns, ((s.answer q).exec w).2.trace = ns ++ w.trace ∧
      ∀ x older, x :: older <:+ ns → x.note = .pass → OnTime s older x.engine.state ∧
        ∃ date time, x.engine.state.system.get? "date" = some (.text date) ∧
          x.engine.state.system.get? "time" = some (.text time) ∧ x.key .day = date ∧
          x.key .hour = date ++ "-H" ++ String.ofList (time.toList.take 2)) ∧
    (∀ t e (u : World σ), localTime s.zone t = .error e → (s.refresh t).exec u = (.error e, u)) ∧
    ∀ (k : Tracker) now e, (k.refresh now s.zone).2 = .error e → (k.refresh now s.zone).1.windows = k.windows := by
  refine ⟨?_, fun t e u ht => ?_, fun k now e hk => ?_⟩
  · obtain ⟨ns, hns, timely⟩ := answer_on_time s w q
    refine ⟨ns, hns, fun x older hx hp => ?_⟩
    have passed : OnTime s older x.engine.state := (timely.of_suffix hx).2.1 (by rw [hp]; rfl)
    refine ⟨passed, ?_⟩
    obtain ⟨t, l, f, -, -, shown, -⟩ := passed
    exact shown.date_time
  · unfold refresh
    rw [ht]
    rfl
  · unfold Tracker.refresh at hk ⊢
    split at hk
    · rfl
    · split at hk
      · rfl
      · cases hk

/-- an engine with a session that began before the hour struck; the clock will show later times -/
def beforeHour : World (List Moment) :=
  World.after (clockwork sessionRule) { host := [july 954, july 955, july 961, july 962, july 963, july 964] }
    [.operate (.start .session)]

/-- the notes of the pass of a start that ended the session before it: the pass, and all before -/
def startPass : List Noted :=
  let trace := (((clockwork sessionRule).answer (.operate (.start .session))).exec beforeHour).2.trace
  (trace.take (trace.length - beforeHour.trace.length)).dropWhile fun x => !(x.note matches .pass)

/-- the hour struck before the end of the session, and is still shown as new to the rules of the start -/
theorem beforeHour_on_time : ∃ x older, x :: older = startPass ∧ x.key .hour = "2022-07-04-H16" ∧
    x.engine.state.system.get? "isNewHour" = some (.bool true) ∧
    (lastRefresh older).map (·.1) = some (july 963) ∧ OnTime (clockwork sessionRule) older x.engine.state := by
  obtain ⟨⟨ns, hns, passes⟩, -⟩ := passes_on_time (clockwork sessionRule) beforeHour (.operate (.start .session))
  have taken : startPass = ns.dropWhile fun x => !(x.note matches .pass) := by
    unfold startPass
    simp [hns]
  have begun : startPass.head?.map (fun x => (x.note matches .pass : Bool)) = some true := by decide +kernel
  have key : startPass.head?.map (fun x => x.key .hour) = some "2022-07-04-H16" := by decide +kernel
  have flag : startPass.head?.map (fun x => x.engine.state.system.get? "isNewHour") = some (some (.bool true)) := by
    decide +kernel
  have last : (lastRefresh startPass.tail).map (·.1) = some (july 963) := by decide +kernel
  cases hs : startPass with
  | nil => rw [hs] at begun; cases begun
  | cons x older =>
    rw [hs] at begun key flag last taken
    have noted : x.note = .pass := by
      have := Option.some.inj begun
      cases hx : x.note <;> simp_all
    have suffix : x :: older <:+ ns := taken ▸ List.dropWhile_suffix _
    exact ⟨x, older, rfl, Option.some.inj key, Option.some.inj flag, last, (passes x older suffix noted).1⟩

end BadgeEngine
