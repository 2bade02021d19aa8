/-
What an operation reports of the badges it awards. Notes tell of two things: the entries that matches made (`madeIn`)
and the badges the host was told of (`toldIn`). What an operation does to the ledger, and what it answers, is to put
the entries made in their places, one after another; and a host that listens for badges is told of just these.

Results, over every request that loads no state:
- `reported_exactly`: the host that listens can follow the ledger, and the answer, by what it is told;
- `answered_in_passes`: the answer lists badges by the pass in which each was first awarded, and those of one pass in
  the order of the rules. So it keeps to the order of the rules when there was one pass, but not when there were more
  (`restart_answers`).
-/
import Mathlib.Data.List.Induction
import BadgeEngine.Proofs.Course
import BadgeEngine.Proofs.Order

namespace BadgeEngine

open BadgeEngine.Time Relation Run Setup
open scoped List

variable {σ α β : Type} {s : Setup σ} {u w w' : World σ} {ms ns : List Noted}

/-! ## Entries put one after another -/

namespace Ledger

/-- entries put in their places, one after another -/
def putAll (es l : List Earned) : List Earned := es.foldl (fun l e => put e l) l

variable {e : Earned} {es l : List Earned}

theorem putAll_append (es fs l : List Earned) : putAll (es ++ fs) l = putAll fs (putAll es l) := List.foldl_append

theorem putAll_concat (es l : List Earned) (e : Earned) : putAll (es ++ [e]) l = put e (putAll es l) :=
  putAll_append es [e] l

theorem ids_put (e : Earned) (l : List Earned) :
    (put e l).map (·.id) = if e.id ∈ l.map (·.id) then l.map (·.id) else l.map (·.id) ++ [e.id] := by
  induction l with
  | nil => rfl
  | cons f l ih =>
    unfold put
    by_cases h : f.id = e.id
    · simp [h]
    · have h' : e.id ≠ f.id := fun he => h he.symm
      simp only [if_neg h, List.map_cons, ih, List.mem_cons, h', false_or]
      split <;> rfl

/-- each id stands where it first came -/
theorem ids_putAll (es : List Earned) : (putAll es []).map (·.id) = (es.map (·.id)).eraseDups := by
  induction es using List.reverseRecOn with
  | nil => rfl
  | append_singleton es e ih =>
    rw [putAll_concat, ids_put, ih, List.map_append, List.eraseDups_append]
    have hadd : [e.id].removeAll (es.map (·.id)) = if e.id ∈ es.map (·.id) then [] else [e.id] := by
      rw [List.removeAll, List.filter_singleton, List.elem_eq_mem]
      split <;> simp [*]
    rw [List.map_singleton, hadd]
    by_cases h : e.id ∈ es.map (·.id)
    · simp only [List.mem_eraseDups, if_pos h, List.eraseDups_nil, List.append_nil]
    · simp only [List.mem_eraseDups, if_neg h]
      rfl

/-- the entry of a badge is the one put last -/
theorem entryFor?_putAll (es l : List Earned) (id : String) :
    entryFor? id (putAll es l) = (es.reverse.find? fun e => e.id = id).or (entryFor? id l) := by
  induction es using List.reverseRecOn with
  | nil => rfl
  | append_singleton es e ih =>
    rw [putAll_concat, List.reverse_append, List.reverse_singleton, List.singleton_append, List.find?_cons]
    by_cases h : e.id = id
    · subst h
      simp
    · simpa [h] using (entryFor?_put_of_ne (Ne.symm h) _).trans ih

/-- a ledger with entries taken in, one after another -/
def enterAll (es : List Earned) (l : Ledger) : Ledger := es.foldl enter l

theorem enterAll_append (es fs : List Earned) (l : Ledger) : enterAll (es ++ fs) l = enterAll fs (enterAll es l) :=
  List.foldl_append

theorem Distinct.putAll (h : Distinct l) (es : List Earned) : Distinct (putAll es l) := by
  induction es using List.reverseRecOn with
  | nil => exact h
  | append_singleton es e ih =>
    rw [putAll_concat]
    exact ih.put e

theorem Distinct.entryFor?_of_mem (h : Distinct l) (he : e ∈ l) : entryFor? e.id l = some e := by
  induction l with
  | nil => cases he
  | cons f l ih =>
    obtain ⟨hf, hs⟩ := List.nodup_cons.1 h
    unfold entryFor? at *
    rw [List.find?_cons]
    rcases List.mem_cons.1 he with rfl | he
    · simp
    · have hne : f.id ≠ e.id := fun hid => hf (List.mem_map.2 ⟨e, he, hid.symm⟩)
      simpa [hne] using ih hs he

theorem get?_of_mem {l : Ledger} (he : e ∈ l.entries) : l.get? e.id = some e := by
  rw [get?_eq]
  exact Distinct.entryFor?_of_mem l.distinct he

end Ledger

open Ledger

/-! ## What notes tell -/

namespace Noted

def made? (x : Noted) : Option Earned :=
  match x.note with
  | .recorded _ _ _ e => e
  | _ => none

/-- the badge that the host was told of -/
def told? (x : Noted) : Option Earned :=
  match x.note with
  | .told .badgeEarned (.badge e) => some e
  | _ => none

/-- a pass over the rules began -/
def isPass (x : Noted) : Bool :=
  match x.note with
  | .pass => true
  | _ => false

end Noted

/-- the entries that matches made, in order; notes stand the last in front -/
def madeIn (ns : List Noted) : List Earned := (ns.filterMap Noted.made?).reverse

/-- the badges that the host was told of, in order -/
def toldIn (ns : List Noted) : List Earned := (ns.filterMap Noted.told?).reverse

@[simp] theorem madeIn_append (ms ns : List Noted) : madeIn (ms ++ ns) = madeIn ns ++ madeIn ms := by
  rw [madeIn, List.filterMap_append, List.reverse_append, madeIn, madeIn]

@[simp] theorem toldIn_append (ms ns : List Noted) : toldIn (ms ++ ns) = toldIn ns ++ toldIn ms := by
  rw [toldIn, List.filterMap_append, List.reverse_append, toldIn, toldIn]

theorem made?_aside {x : Noted} (hx : x.note.isAside) : x.made? = none := by
  unfold Noted.made?
  split
  case h_1 h => rw [h] at hx; cases hx
  case h_2 => rfl

theorem told?_aside {x : Noted} (hx : x.note.isAside) : x.told? = none := by
  unfold Noted.told?
  split
  case h_1 h => rw [h] at hx; cases hx
  case h_2 => rfl

theorem isPass_aside {x : Noted} (hx : x.note.isAside) : x.isPass = false := by
  unfold Noted.isPass
  split
  case h_1 h => rw [h] at hx; cases hx
  case h_2 => rfl

theorem madeIn_aside (h : ∀ x ∈ ns, x.note.isAside) : madeIn ns = [] := by
  rw [madeIn, List.filterMap_eq_nil_iff.2 fun x hx => made?_aside (h x hx), List.reverse_nil]

theorem toldIn_aside (h : ∀ x ∈ ns, x.note.isAside) : toldIn ns = [] := by
  rw [toldIn, List.filterMap_eq_nil_iff.2 fun x hx => told?_aside (h x hx), List.reverse_nil]

/-! ## Awards -/

/-- the host has a hook for badges, at all times -/
def Setup.Listens (s : Setup σ) : Prop := ∀ h p, (s.hook h .badgeEarned p).isSome

/-- a world after notes were taken: the entries made were put into the ledger, and a host that listens was told of
each -/
structure Reports (s : Setup σ) (ns : List Noted) (w w' : World σ) : Prop where
  trace : w'.trace = ns ++ w.trace
  ledger : w'.engine.state.ledger.entries = putAll (madeIn ns) w.engine.state.ledger.entries
  told : s.Listens → toldIn ns = madeIn ns

/-- within an operation the entries made are put among its badges too -/
structure Awards (s : Setup σ) (ns : List Noted) (w w' : World σ) : Prop extends Reports s ns w w' where
  news : w'.engine.news = putAll (madeIn ns) w.engine.news

theorem Reports.trans (h : Reports s ns u w) (h' : Reports s ms w w') : Reports s (ms ++ ns) u w' where
  trace := by rw [h'.trace, h.trace, List.append_assoc]
  ledger := by rw [h'.ledger, h.ledger, madeIn_append, putAll_append]
  told hl := by rw [toldIn_append, madeIn_append, h.told hl, h'.told hl]

theorem Awards.trans (h : Awards s ns u w) (h' : Awards s ms w w') : Awards s (ms ++ ns) u w' where
  toReports := h.toReports.trans h'.toReports
  news := by rw [h'.news, h.news, madeIn_append, putAll_append]

/-- steps aside award nothing -/
theorem Aside.awards (h : Aside w w') : ∃ ns, Awards s ns w w' ∧ ∀ x ∈ ns, x.note.isAside := by
  obtain ⟨ns, trace, hns⟩ := h.trace
  have made := madeIn_aside hns
  refine ⟨ns, ⟨⟨trace, ?_, fun _ => ?_⟩, ?_⟩, hns⟩
  · rw [h.ledger, made]
    rfl
  · rw [made, toldIn_aside hns]
  · rw [h.news, made]
    rfl

/-! ### One pass -/

/-- rules were considered in order, and each awarded its badge at most once -/
def Round (s : Setup σ) (rules : List Rule) (w w' : World σ) : Prop :=
  ∃ ns, Awards s ns w w' ∧ (madeIn ns).map (·.id) <+ rules.map (·.id) ∧ ∀ x ∈ ns, x.isPass = false

namespace Round

variable {rules rules' : List Rule}

theorem trans (h : Round s rules u w) (h' : Round s rules' w w') : Round s (rules ++ rules') u w' := by
  obtain ⟨ns, hns, hs, hp⟩ := h
  obtain ⟨ms, hms, hs', hp'⟩ := h'
  refine ⟨ms ++ ns, hns.trans hms, ?_, fun x hx => ?_⟩
  · rw [madeIn_append, List.map_append, List.map_append]
    exact hs.append hs'
  · exact (List.mem_append.1 hx).elim (hp' x) (hp x)

/-- rules that award nothing may be considered after others -/
theorem mono (h : Round s rules w w') : Round s (rules ++ rules') w w' := by
  obtain ⟨ns, hns, hs, hp⟩ := h
  exact ⟨ns, hns, hs.trans (by rw [List.map_append]; exact List.sublist_append_left ..), hp⟩

theorem of_aside (h : Aside w w') : Round s [] w w' := by
  obtain ⟨ns, hns, ha⟩ := h.awards (s := s)
  exact ⟨ns, hns, by rw [madeIn_aside ha]; exact List.Sublist.refl _, fun x hx => isPass_aside (ha x hx)⟩

end Round

/-- a step does what a round over some rules does, while an operation runs -/
abbrev Rounds (s : Setup σ) (rules : List Rule) (r : Run σ α) : Prop := r.within (Busy (Round s rules))

section

variable {rules rules' : List Rule}

theorem Rounds.bind {r : Run σ β} {f : β → Run σ α} (hr : Rounds s rules r) (hf : ∀ b, Rounds s rules' (f b)) :
    Rounds s (rules ++ rules') (r >>= f) := by
  intro w
  refine Busy.intro fun hb => ?_
  rw [leads_bind]
  refine (hr w).mono (fun b v hv => ?_) fun _ v hv => ⟨(hv hb).1.mono, (hv hb).2⟩
  exact (hf b v).imp fun u hu => ⟨(hv hb).1.trans (hu (hv hb).2).1, (hu (hv hb).2).2⟩

theorem Strays.rounds {r : Run σ α} (h : Strays r) : Rounds s [] r :=
  h.mono fun _ _ hv => hv.mono fun _ _ hv => .of_aside (.of_chain hv)

/-- steps aside may come before a round -/
theorem Strays.andThen {r : Run σ β} {f : β → Run σ α} (hr : Strays r) (hf : ∀ b, Rounds s rules (f b)) :
    Rounds s rules (r >>= f) :=
  Rounds.bind hr.rounds hf

/-- steps aside may come after a round -/
theorem Round.stray (h : Round s rules u w) (hv : ReflTransGen Aside w w') : Round s rules u w' := by
  rw [← List.append_nil rules]
  exact h.trans (.of_aside (.of_chain hv))

end

/-- the entry of a match is made, and a host that listens is told of it -/
theorem earn_round {r : Rule} {since t : Instant} {e : Earned} {l : Ledger}
    (h : w.engine.state.ledger.record r since t = (some e, l)) :
    (do
      change fun s => { s with ledger := l }
      changeEngine fun g => { g with news := Ledger.put e g.news }
      note (.recorded r.id since t (some e))
      s.tell .badgeEarned (.badge e) : Run σ Unit).leads w
      (fun _ => Busy (Round s [r]) w) (fun _ => Busy (Round s [r]) w) := by
  obtain ⟨rfl, -⟩ := record_earned h
  have entered : (w.engine.state.ledger.enter e).entries = putAll [e] w.engine.state.ledger.entries :=
    enter_entries _ e
  have hid : [e].map (·.id) <+ [r].map (·.id) := by
    rw [List.map_singleton, record_id h]
    exact List.Sublist.refl _
  refine Busy.intro fun hb => ?_
  simp only [Setup.tell, leads_bind, leads_change, leads_changeEngine, leads_note, leads_host]
  cases hh : s.hook w.host .badgeEarned (.badge e) with
  | none =>
    have deaf : ¬ s.Listens := fun hs => by simpa [hh] using hs w.host (.badge e)
    exact (leads_pure ()).2 ⟨⟨[_], ⟨⟨rfl, entered, fun hs => absurd hs deaf⟩, rfl⟩, hid, by simp [Noted.isPass]⟩, hb⟩
  | some script =>
    simp only [leads_bind, leads_note]
    refine (ofScript_strays script _).imp fun v hv => ⟨Round.stray ?_ (hv hb).1, (hv hb).2⟩
    exact ⟨[_, _], ⟨⟨rfl, entered, fun _ => rfl⟩, rfl⟩, hid, by simp [Noted.isPass]⟩

/-- a match that is held back makes no entry -/
theorem held_round (r : Rule) (since t : Instant) : Round s [r] w (w.noting (.recorded r.id since t none)) :=
  ⟨[_], ⟨⟨rfl, rfl, fun _ => rfl⟩, rfl⟩, List.nil_sublist _, by simp [Noted.isPass]⟩

theorem award_rounds (r : Rule) : Rounds s [r] (s.award r) := by
  intro w
  unfold award
  rw [leads_bind, leads_state]
  generalize (w.engine.state.windows.get r.period).since = since
  refine now_strays.andThen (fun t v => ?_) w
  rw [leads_bind, leads_state]
  split
  case _ l h => exact (leads_note _).2 fun hb => ⟨held_round r since t, hb⟩
  case _ e l h => exact earn_round h

/-- a verdict makes no entry -/
theorem judged_round (w : World σ) (h : σ) (id : String) (v : Except Problem (Except String Bool)) :
    Round s [] w ((w.withHost h).noting (.judged id v)) :=
  ⟨[_], ⟨⟨rfl, rfl, fun _ => rfl⟩, rfl⟩, List.nil_sublist _, by simp [Noted.isPass]⟩

theorem reportFailure_strays (r : Rule) (text : String) : Strays (s.reportFailure r text) := by
  unfold reportFailure
  exact (note_strays rfl).bind Busy.trans fun _ => tell_strays (by simp) _

/-- a rule awards its own badge, at most once -/
theorem consider_rounds (props system : Props) (r : Rule) : Rounds s [r] (s.consider props system r) := by
  intro w
  refine Busy.intro fun hb => ?_
  rcases hj : s.judge w.host ⟨props, system, w.engine.state.ledger⟩ r.condition with ⟨verdict, h⟩
  unfold consider
  cases r.active with
  | false => exact (leads_pure ()).2 ⟨(Round.of_aside (.refl w)).mono, hb⟩
  | true =>
    simp only [Bool.not_true, Bool.false_eq_true, if_false, leads_bind, leads_host, leads_state, hj]
    simp only [leads_setHost, leads_note, leads_ofExcept]
    have judged : ∀ v, Round s [r] w ((w.withHost h).noting (.judged r.id v)) := fun v => (judged_round w h r.id v).mono
    rcases verdict with e | text | _ | _
    · exact ⟨judged _, hb⟩
    · exact (reportFailure_strays r text _).imp fun v hv => ⟨(judged _).stray (hv hb).1, (hv hb).2⟩
    · exact (leads_pure ()).2 ⟨judged _, hb⟩
    · exact (award_rounds r _).imp fun v hv => ⟨(judged_round w h r.id _).trans (hv hb).1, (hv hb).2⟩

theorem rules_rounds (props system : Props) (rules : List Rule) :
    Rounds s rules (rules.forM (s.consider props system)) := by
  induction rules with
  | nil => exact fun w => (leads_pure ()).2 fun hb => ⟨.of_aside (.refl w), hb⟩
  | cons r rules ih => exact Rounds.bind (consider_rounds props system r) fun _ => ih

/-- **One pass.** A pass over the rules is noted, and awards badges in the order of the rules, each at most once. -/
theorem pass_awards (hb : w.engine.busy) : ∃ e ms, Awards s (ms ++ [⟨.pass, e⟩]) w (s.pass.exec w).2 ∧
    (madeIn ms).map (·.id) <+ s.rules.map (·.id) ∧ ∀ x ∈ ms, x.isPass = false := by
  have hpass : s.pass.leads w
      (fun _ => Round s s.rules ((w.withEngine { w.engine with pending := false }).noting .pass))
      (fun _ => Round s s.rules ((w.withEngine { w.engine with pending := false }).noting .pass)) := by
    unfold Setup.pass
    simp only [leads_bind, leads_changeEngine, leads_note, leads_state, leads_engine, leads_pure]
    exact (rules_rounds _ _ s.rules _).imp fun v hv => (hv hb).1
  let v := w.withEngine { w.engine with pending := false }
  have noted : Awards s [⟨.pass, v.engine⟩] w (v.noting .pass) := ⟨⟨rfl, rfl, fun _ => rfl⟩, rfl⟩
  obtain ⟨ms, hms, hs, hp⟩ := leads_const.1 hpass
  exact ⟨v.engine, ms, noted.trans hms, hs, hp⟩

/-! ### Whole operations -/

/-- the badges awarded in each pass, in order -/
def passesIn (ns : List Noted) : List (List Earned) := ((ns.splitOnP Noted.isPass).dropLast.map madeIn).reverse

theorem madeIn_cons_of_none {x : Noted} (hx : x.made? = none) (ns : List Noted) : madeIn (x :: ns) = madeIn ns := by
  rw [madeIn, List.filterMap_cons_none hx, madeIn]

theorem passesIn_aside {x : Noted} (hx : x.note.isAside) (ns : List Noted) : passesIn (x :: ns) = passesIn ns := by
  unfold passesIn
  rw [List.splitOnP_cons_eq_if_modifyHead, if_neg (by simp [isPass_aside hx])]
  match ns.splitOnP Noted.isPass with
  | [] | [_] => rfl
  | round :: next :: rounds =>
    rw [List.modifyHead_cons, List.dropLast_cons_cons, List.dropLast_cons_cons, List.map_cons, List.map_cons,
      madeIn_cons_of_none (made?_aside hx)]

theorem passesIn_asides (hm : ∀ x ∈ ms, x.note.isAside) (ns : List Noted) : passesIn (ms ++ ns) = passesIn ns := by
  induction ms with
  | nil => rfl
  | cons x ms ih =>
    obtain ⟨hx, hs⟩ := List.forall_mem_cons.1 hm
    rw [List.cons_append, passesIn_aside hx, ih hs]

theorem passesIn_pass (hm : ∀ x ∈ ms, x.isPass = false) (e : Engine) (ns : List Noted) :
    passesIn (ms ++ ⟨.pass, e⟩ :: ns) = passesIn ns ++ [madeIn ms] := by
  unfold passesIn
  rw [List.splitOnP_append_cons_of_forall_mem hm _ rfl, List.dropLast_cons_of_ne_nil (List.splitOnP_ne_nil _ _),
    List.map_cons, List.reverse_cons]

/-- badges are awarded in passes only, and in each pass in the order of the rules -/
structure InOrder (rules : List Rule) (ns : List Noted) : Prop where
  made : madeIn ns = (passesIn ns).flatten
  ordered : ∀ awarded ∈ passesIn ns, awarded.map (·.id) <+ rules.map (·.id)

namespace InOrder

variable {rules : List Rule}

theorem nil (rules : List Rule) : InOrder rules [] := ⟨rfl, nofun⟩

theorem aside (h : InOrder rules ns) (hm : ∀ x ∈ ms, x.note.isAside) : InOrder rules (ms ++ ns) where
  made := by rw [passesIn_asides hm, madeIn_append, madeIn_aside hm, List.append_nil, h.made]
  ordered := by
    rw [passesIn_asides hm]
    exact h.ordered

theorem pass (h : InOrder rules ns) (e : Engine) (hs : (madeIn ms).map (·.id) <+ rules.map (·.id))
    (hm : ∀ x ∈ ms, x.isPass = false) : InOrder rules (ms ++ ⟨.pass, e⟩ :: ns) where
  made := by
    rw [passesIn_pass hm, madeIn_append, madeIn_cons_of_none rfl, h.made, List.flatten_append, List.flatten_singleton]
  ordered := by
    rw [passesIn_pass hm]
    exact List.forall_mem_append.2 ⟨h.ordered, List.forall_mem_singleton.2 hs⟩

/-- badges of a single pass were awarded in the order of the rules -/
theorem single (h : InOrder rules ns) (hn : (passesIn ns).length ≤ 1) : (madeIn ns).map (·.id) <+ rules.map (·.id) := by
  obtain ⟨made, ordered⟩ := h
  rw [made]
  generalize passesIn ns = passes at *
  match passes with
  | [] => exact List.nil_sublist _
  | [awarded] =>
    rw [List.flatten_singleton]
    exact ordered awarded List.mem_cons_self
  | _ :: _ :: _ => simp at hn

end InOrder

/-- **Stages.** Between the stages of an operation nothing is awarded, and in each pass badges are awarded in the order
of the rules. -/
theorem Course.awards (h : Course s w w') : ∃ ns, Awards s ns w w' ∧ InOrder s.rules ns := by
  induction h with
  | refl => exact ⟨[], ⟨⟨rfl, rfl, fun _ => rfl⟩, rfl⟩, .nil _⟩
  | tail _ h ih =>
    obtain ⟨ns, hns, ho⟩ := ih
    cases h with
    | aside h =>
      obtain ⟨ms, hms, ha⟩ := h.awards (s := s)
      exact ⟨ms ++ ns, hns.trans hms, ho.aside ha⟩
    | pass hb =>
      obtain ⟨e, ms, hms, hs, hp⟩ := pass_awards (s := s) hb
      refine ⟨(ms ++ [⟨.pass, e⟩]) ++ ns, hns.trans hms, ?_⟩
      rw [List.append_assoc]
      exact ho.pass e hs hp

/-- what a request reports: the entries made since are put into the ledger, and among the badges it answers -/
def Reported (s : Setup σ) (w w' : World σ) (answer : Option Answer) : Prop :=
  ∃ ns, Reports s ns w w' ∧ InOrder s.rules ns ∧ ∀ es, answer = some (.badges es) → es = putAll (madeIn ns) []

/-- a request that runs no operation makes no entry -/
theorem Aside.reported (h : Aside w w') {answer : Option Answer} (ha : ∀ es, answer = some (.badges es) → es = []) :
    Reported s w w' answer := by
  obtain ⟨ns, hns, hs⟩ := h.awards (s := s)
  refine ⟨ns, hns.toReports, ?_, fun es he => ?_⟩
  · rw [← List.append_nil ns]
    exact (InOrder.nil _).aside hs
  · rw [ha es he, madeIn_aside hs]
    rfl

theorem operation_reported {op : Operation} (hop : op.isLoad = false) (hb : w.engine.busy = false) :
    (operation op (s.perform op)).leads w (fun a w' => Reported s w w' (some a)) (fun _ w' => Reported s w w' none) := by
  unfold operation
  simp only [leads_bind, leads_engine, hb, Bool.false_eq_true, if_false, leads_pure, leads_changeEngine, leads_ensuring]
  let v := w.withEngine { w.engine with running := some op, news := [], rolled := {} }
  refine (perform_course hop v).mono (fun _ u hu => ?_) fun _ u hu => ?_
  all_goals obtain ⟨ns, hns, ho⟩ := (hu rfl).1.awards
  · refine ⟨ns, ⟨hns.trace, hns.ledger, hns.told⟩, ho, fun es he => ?_⟩
    cases op with
    | load => cases hop
    | _ =>
      cases he
      exact hns.news
  · exact ⟨ns, ⟨hns.trace, hns.ledger, hns.told⟩, ho, by simp⟩

/-- a request that loads no state reports what it awards -/
theorem answer_reported {q : Request} (hq : q.isLoad = false) (hb : w.engine.busy = false) :
    (s.answer q).leads w (fun a w' => Reported s w w' (some a)) (fun _ w' => Reported s w w' none) := by
  cases q with
  | write q skip =>
    simp only [answer, answerWith, leads_bind, leads_state, leads_ofExcept, leads_change]
    cases q.apply w.engine.state.props with
    | error e => exact (Aside.refl w).reported (by simp)
    | ok props =>
      have written : Aside w (w.withState { w.engine.state with props }) := .withState w rfl
      cases skip with
      | true => exact (leads_pure _).2 (written.reported fun es he => by cases he; rfl)
      | false =>
        let v := w.withState { w.engine.state with props }
        have idle : v.engine.busy = false := hb
        have hop : Operation.evaluate.isLoad = false := rfl
        simp only [Bool.false_eq_true, if_false, leads_bind, leads_engine]
        split
        case isTrue busy => exact absurd busy (Bool.eq_false_iff.1 idle)
        case isFalse =>
          refine (operation_reported (s := s) hop idle).mono (fun _ u hu => ?_) fun _ u hu => ?_
          all_goals
            obtain ⟨ns, hns, hu⟩ := hu
            exact ⟨ns, ⟨hns.trace, hns.ledger, hns.told⟩, hu⟩
  | operate op => exact operation_reported hq hb
  | endGameFor v =>
    simp only [answer, answerWith, leads_bind, leads_ofExcept]
    cases EndReason.ofValue v with
    | error e => exact (Aside.refl w).reported (by simp)
    | ok r => exact operation_reported rfl hb
  | setBookmark name =>
    simp only [answer, answerWith, leads_bind, leads_change, leads_pure]
    refine (now_aside w).mono (fun t u hu => ?_) fun _ u hu => hu.reported (by simp)
    have marked : Aside u (u.withState { u.engine.state with bookmarks := u.engine.state.bookmarks.set name t }) :=
      .withState u rfl
    exact (hu.trans marked).reported (by simp)
  | clearBookmark name =>
    simp only [answer, answerWith, leads_bind, leads_change, leads_pure]
    have cleared : Aside w (w.withState { w.engine.state with bookmarks := w.engine.state.bookmarks.clear name }) :=
      .withState w rfl
    exact cleared.reported (by simp)

/-- the notes of a request tell what it does to the ledger, and what badges it answers -/
theorem answer_reports {q : Request} (hq : q.isLoad = false) (hb : w.engine.busy = false) :
    ∃ ns, Reports s ns w ((s.answer q).exec w).2 ∧ InOrder s.rules ns ∧
      ∀ es, ((s.answer q).exec w).1 = .ok (.badges es) → es = putAll (madeIn ns) [] := by
  obtain ⟨hok, herror⟩ := leads_iff.1 (answer_reported (s := s) hq hb)
  cases hr : ((s.answer q).exec w).1 with
  | ok a =>
    obtain ⟨ns, hns, ho, ha⟩ := hok a hr
    exact ⟨ns, hns, ho, fun es he => ha es (by cases he; rfl)⟩
  | error e =>
    obtain ⟨ns, hns, ho, -⟩ := herror e hr
    exact ⟨ns, hns, ho, by simp⟩

/-- a request for an operation that loads no state answers badges, if it comes to an answer -/
theorem answer_lists {q : Request} {op : Operation} (hop : q.Asks op) (hq : q.isLoad = false) :
    (s.answer q).leads w (fun a _ => ∃ es, a = .badges es) fun _ _ => True := by
  have listed : ∀ {op : Operation}, op.isLoad = false → ∀ v : World σ,
      (operation op (s.perform op)).leads v (fun a _ => ∃ es, a = .badges es) fun _ _ => True := by
    intro op hop v
    unfold operation
    simp only [leads_bind, leads_engine, leads_ite, leads_throw, leads_pure, leads_changeEngine, leads_ensuring]
    split
    · trivial
    · refine leads_iff.2 ⟨fun _ _ => ?_, fun _ _ => trivial⟩
      cases op with
      | load => cases hop
      | _ => exact ⟨_, rfl⟩
  cases q with
  | write q skip =>
    simp only [answer, answerWith, leads_bind, leads_state, leads_ofExcept, leads_change]
    cases q.apply w.engine.state.props with
    | error e => trivial
    | ok props =>
      simp only [leads_bind, leads_engine, leads_ite, leads_changeEngine, leads_pure]
      split
      · exact ⟨_, rfl⟩
      · split
        · exact ⟨_, rfl⟩
        · exact listed rfl _
  | operate op' => exact listed hq w
  | endGameFor v =>
    simp only [answer, answerWith, leads_bind, leads_ofExcept]
    cases EndReason.ofValue v with
    | error e => trivial
    | ok r => exact listed rfl w
  | setBookmark | clearBookmark => cases hop

/-! ## Results -/

theorem eraseDups_sublist (l : List String) : l.eraseDups <+ l := by
  match l with
  | [] => exact List.Sublist.refl _
  | a :: l =>
    rw [List.eraseDups_cons]
    exact ((eraseDups_sublist (l.filter fun b => !b == a)).trans List.filter_sublist).cons_cons a
termination_by l.length
decreasing_by exact Nat.lt_succ_of_le (List.length_filter_le _ _)

variable {q : Request}

/-- **Reports.** A host that listens for badges can follow the ledger by what it is told: the entries told are put in
their places, whether the request comes to an answer or fails. If an operation comes to an answer, this lists each
badge told, where it was told first and as it was told last, and so it stands in the ledger. -/
theorem reported_exactly (hl : s.Listens) (hq : q.isLoad = false) (hb : w.engine.busy = false) :
    ∃ ns, ((s.answer q).exec w).2.trace = ns ++ w.trace ∧
      ((s.answer q).exec w).2.engine.state.ledger.entries = putAll (toldIn ns) w.engine.state.ledger.entries ∧
      (∀ id ∉ (toldIn ns).map (·.id),
        ((s.answer q).exec w).2.engine.state.ledger.get? id = w.engine.state.ledger.get? id) ∧
      ∀ op a, q.Asks op → ((s.answer q).exec w).1 = .ok a → ∃ es, a = .badges es ∧
        es.map (·.id) = ((toldIn ns).map (·.id)).eraseDups ∧
        ∀ e ∈ es, (toldIn ns).reverse.find? (fun f => f.id = e.id) = some e ∧
          ((s.answer q).exec w).2.engine.state.ledger.get? e.id = some e := by
  obtain ⟨ns, hns, -, hlist⟩ := answer_reports (s := s) hq hb
  have told := hns.told hl
  have ledger := hns.ledger
  rw [← told] at ledger hlist
  have entry : ∀ id, ((s.answer q).exec w).2.engine.state.ledger.get? id =
      ((toldIn ns).reverse.find? fun e => e.id = id).or (w.engine.state.ledger.get? id) := fun id => by
    rw [get?_eq, get?_eq, ledger, entryFor?_putAll]
  refine ⟨ns, hns.trace, ledger, fun id hid => ?_, fun op a hop ha => ?_⟩
  · have untold : (toldIn ns).reverse.find? (fun e => e.id = id) = none := by
      refine List.find?_eq_none.2 fun e he => ?_
      rw [decide_eq_true_eq]
      exact fun heq => hid (List.mem_map.2 ⟨e, List.mem_reverse.1 he, heq⟩)
    rw [entry, untold, Option.none_or]
  · obtain ⟨es, rfl⟩ := (leads_iff.1 (answer_lists (s := s) hop hq)).1 a ha
    obtain rfl := hlist es ha
    refine ⟨_, rfl, ids_putAll _, fun e he => ?_⟩
    have last : (toldIn ns).reverse.find? (fun f => f.id = e.id) = some e := by
      have hd : Distinct (putAll (toldIn ns) []) := Distinct.putAll (show Distinct [] from List.nodup_nil) _
      have hg := (entryFor?_putAll _ [] e.id).symm.trans (hd.entryFor?_of_mem he)
      rwa [show entryFor? e.id [] = none from rfl, Option.or_none] at hg
    exact ⟨last, by rw [entry, last, Option.some_or]⟩

def listedIds : Except Problem Answer → Option (List String)
  | .ok (.badges es) => some (es.map (·.id))
  | _ => none

theorem listed_of_ids {r : Except Problem Answer} {ids : List String} (h : listedIds r = some ids) :
    ∃ es, r = .ok (.badges es) ∧ es.map (·.id) = ids := by
  unfold listedIds at h
  split at h
  case h_1 es => exact ⟨es, rfl, Option.some.inj h⟩
  case h_2 => cases h

/-- an engine whose hook for badges sets a property, which makes the rules run again -/
def levelling : Setup Unit :=
  standstill [{ id := "second", condition := "level == 1" }, { id := "first", condition := "True" }]
    (some (.ask () (.write (.set "level" (.ofInt 1)) false) fun h _ => .finish h (.ok ())))

/-- two badges are told in two passes of one operation, and both are answered -/
theorem levelling_reported : levelling.Listens ∧ ∃ ns es,
    ((levelling.answer (.operate .evaluate)).exec { host := () }).2.trace = ns ∧
      (toldIn ns).map (·.id) = ["first", "second"] ∧
      ((levelling.answer (.operate .evaluate)).exec { host := () }).1 = .ok (.badges es) ∧
      es.map (·.id) = ["first", "second"] ∧
      ((levelling.answer (.operate .evaluate)).exec { host := () }).2.engine.state.ledger.entries =
        putAll (toldIn ns) [] := by
  have hl : levelling.Listens := fun _ _ => rfl
  have told : (toldIn ((levelling.answer (.operate .evaluate)).exec { host := () }).2.trace).map (·.id) =
      ["first", "second"] := by decide +kernel
  have ids : listedIds ((levelling.answer (.operate .evaluate)).exec { host := () }).1 = some ["first", "second"] := by
    decide +kernel
  obtain ⟨es, ha, -⟩ := listed_of_ids ids
  obtain ⟨ns, hns, ledger, -, hlist⟩ := reported_exactly hl (q := .operate .evaluate) (w := { host := () }) rfl rfl
  obtain ⟨_, ⟨⟩, hes, -⟩ := hlist .evaluate _ rfl ha
  rw [List.append_nil] at hns
  rw [hns] at told
  exact ⟨hl, ns, es, hns, told, ha, by rw [hes, told]; rfl, ledger⟩

/-- **Order.** An operation awards badges pass by pass, in each pass in the order of the rules, and lists each badge
where it was awarded first. When it made no more than one pass, it lists badges in the order of the rules. -/
theorem answered_in_passes (hq : q.isLoad = false) (hb : w.engine.busy = false) {es : List Earned}
    (ha : ((s.answer q).exec w).1 = .ok (.badges es)) :
    ∃ ns, ((s.answer q).exec w).2.trace = ns ++ w.trace ∧
      (∀ awarded ∈ passesIn ns, awarded.map (·.id) <+ s.rules.map (·.id)) ∧
      es.map (·.id) = ((passesIn ns).flatten.map (·.id)).eraseDups ∧
      ((passesIn ns).length ≤ 1 → es.map (·.id) <+ s.rules.map (·.id)) := by
  obtain ⟨ns, hns, ho, hlist⟩ := answer_reports (s := s) hq hb
  have listed : es.map (·.id) = ((madeIn ns).map (·.id)).eraseDups := by rw [hlist es ha, ids_putAll]
  refine ⟨ns, hns.trace, ho.ordered, by rw [listed, ho.made], fun hn => ?_⟩
  rw [listed]
  exact (eraseDups_sublist _).trans (ho.single hn)

/-- a rule that holds when the second game starts, and one that holds when a game has ended -/
def restarting : Setup Unit :=
  standstill [{ id := "started", condition := "system.isNewGame and system.lifetimeGames == 2" },
    { id := "ended", condition := "system.isGameEnded" }] none

def inGame : World Unit := World.after restarting { host := () } [.operate (.start .game)]

theorem restart_ids :
    listedIds ((restarting.answer (.operate (.start .game))).exec inGame).1 = some ["ended", "started"] := by
  decide +kernel

/-- a start that ends the game before it makes two passes, and lists what each awarded -/
theorem restart_passes : inGame.engine.busy = false ∧ ∃ ns es,
    ((restarting.answer (.operate (.start .game))).exec inGame).2.trace = ns ++ inGame.trace ∧
      (passesIn ns).map (fun awarded => awarded.map (·.id)) = [["ended"], ["started"]] ∧
      ((restarting.answer (.operate (.start .game))).exec inGame).1 = .ok (.badges es) ∧
      es.map (·.id) = ["ended", "started"] := by
  have hb : inGame.engine.busy = false := by decide +kernel
  obtain ⟨es, ha, -⟩ := listed_of_ids restart_ids
  obtain ⟨ns, hns, -, listed, -⟩ := answered_in_passes (q := .operate (.start .game)) rfl hb ha
  have taken : ∀ trace, trace = ns ++ inGame.trace → ns = trace.take (trace.length - inGame.trace.length) := by
    rintro _ rfl
    simp
  have passes : (passesIn ns).map (fun awarded => awarded.map (·.id)) = [["ended"], ["started"]] := by
    rw [taken _ hns]
    decide +kernel
  refine ⟨hb, ns, es, hns, passes, ha, ?_⟩
  rw [listed, List.map_flatten, passes]
  rfl

/-- the badge of the rule that comes second is listed first -/
theorem restart_answers : ∃ es, ((restarting.answer (.operate (.start .game))).exec inGame).1 = .ok (.badges es) ∧
    ¬ es.map (·.id) <+ restarting.rules.map (·.id) := by
  obtain ⟨es, ha, hes⟩ := listed_of_ids restart_ids
  exact ⟨es, ha, by rw [hes]; decide⟩

end BadgeEngine
