import Mathlib.Algebra.GroupWithZero.Nat
import Allotment.Proofs.Passages
import Allotment.Signal
/-!
# Vigils

A reconciliation whose calls take their time, while anybody sets the signal or lets it go
(`History`).  What holds of a sleep is said look by look: one that finds the signal raised
for the first time is the last (`rest_of_raised`), one before the time that does not goes on
(`rest_of_uneventful`), and without a raised signal the sleep takes its full time
(`rest_of_quiet`, `now_rest`).
-/
namespace Allotment

/-- What happens while time passes: how the signal is set, or let go. -/
structure Lapse where
  time : Nat
  told : List (Option Bool)

/-- A look of a sleeping reconciliation at the clock and at the signal, and the lapse before it.
`timeFirst` says which of the two it asks first. -/
structure Glance where
  lapse : Lapse
  timeFirst : Bool

/-- What happens around a reconciliation, by the number of calls before. -/
structure History where
  /-- During the next call. -/
  during : Nat → Lapse
  /-- At the looks of the next sleep; after the last of them nothing happens until its time is over. -/
  glances : Nat → List Glance
  /-- How long the sleep with a number is to last. -/
  delay : Nat → Nat

/-- What a reconciliation runs against, with the clock, the signal and how many settings of it the
reconciliation has taken note of. -/
structure Vigil (σ : Type) where
  stores : σ
  now : Nat
  flag : Flag
  seen : Nat
  calls : Nat

namespace Flag

def through (f : Flag) (told : List (Option Bool)) : Flag := told.foldl Flag.told f

theorem told_of_not_held {f : Flag} (h : f.held = false) (value : Option Bool) : f.told value = f := by
  simp [told, h]

theorem through_of_not_held {f : Flag} (h : f.held = false) : ∀ values : List (Option Bool),
    f.through values = f
  | [] => rfl
  | value :: values => by
    show (f.told value).through values = f
    rw [told_of_not_held h, through_of_not_held h values]

/-- **What changes a signal is counted.** -/
theorem turns_through (f : Flag) : ∀ values : List (Option Bool),
    f.turns ≤ (f.through values).turns ∧
      ((f.through values).turns = f.turns → (f.through values).raised = f.raised)
  | [] => ⟨Nat.le_refl _, fun _ => rfl⟩
  | value :: values => by
    obtain ⟨hgrows, hsame⟩ := turns_through (f.told value) values
    have hvalue : f.turns ≤ (f.told value).turns ∧
        ((f.told value).turns = f.turns → (f.told value).raised = f.raised) := by
      unfold told
      split <;> cases value <;> simp
    refine ⟨Nat.le_trans hvalue.1 hgrows, fun h => ?_⟩
    change ((f.told value).through values).turns = f.turns at h
    show ((f.told value).through values).raised = f.raised
    rw [hsame (by omega), hvalue.2 (by omega)]

theorem raised_through {f : Flag} (h : f.raised = false) : ∀ values : List (Option Bool),
    some true ∉ values → (f.through values).raised = false
  | [], _ => h
  | value :: values, hquiet => by
    rw [List.mem_cons, not_or] at hquiet
    have hvalue : (f.told value).raised = false := by
      unfold told
      split
      · split
        · rename_i raised
          cases raised with
          | true => exact absurd rfl hquiet.1
          | false => rfl
        · exact h
      · exact h
    exact raised_through hvalue values hquiet.2

end Flag

namespace Vigil

variable {σ : Type}

def later (v : Vigil σ) (l : Lapse) : Vigil σ :=
  { v with now := v.now + l.time, flag := v.flag.through l.told }

def after (v : Vigil σ) (gs : List Glance) : Vigil σ := gs.foldl (fun v g => v.later g.lapse) v

def called (v : Vigil σ) (h : History) (stores : σ) : Vigil σ :=
  { v.later (h.during v.calls) with stores, calls := v.calls + 1 }

/-- Whether one of the looks before which a sleep is not over finds the signal raised. -/
def Alarmed (v : Vigil σ) (deadline : Nat) (gs : List Glance) : Prop :=
  ∃ before g after, gs = before ++ g :: after ∧
    (∀ k < before.length, (v.after (before.take (k + 1))).now < deadline ∧
      (v.after (before.take (k + 1))).flag.raised = false) ∧
    (v.after (before ++ [g])).flag.raised = true

/-- A sleep until the deadline, look by look: whether it is cut short. -/
def rest (deadline : Nat) : List Glance → Sleep → Vigil σ → Bool × Vigil σ
  | [], s, v =>
    let s := s.look true true v.flag
    (s.cut?.getD false, { v with now := max v.now deadline, seen := s.seen })
  | g :: gs, s, v =>
    let v := v.later g.lapse
    match s.look (deadline ≤ v.now) g.timeFirst v.flag with
    | .ended cut seen => (cut, { v with seen })
    | s => rest deadline gs s v

end Vigil

/-- The surroundings with this history, in which the stores answer as in others. -/
def History.surroundings {σ : Type} (h : History) (env : Surroundings σ) : Surroundings (Vigil σ) where
  list v ns selector :=
    let (answer, st) := env.list v.stores ns selector
    (answer, v.called h st)
  getDocument v key :=
    let (answer, st) := env.getDocument v.stores key
    (answer, v.called h st)
  createDocument v key :=
    let (answer, st) := env.createDocument v.stores key
    (answer, v.called h st)
  get v key :=
    let (answer, st) := env.get v.stores key
    (answer, v.called h st)
  update v s :=
    let (answer, st) := env.update v.stores s
    (answer, v.called h st)
  signal v := (v.flag.raised, v)
  sleep v n := v.rest (v.now + h.delay n) (h.glances v.calls) (.listening v.seen)

namespace Sleep

/-- Whether a sleep goes on and can miss nothing that is done to the signal from now on. -/
def Attends (f : Flag) : Sleep → Prop
  | listening seen => seen ≤ f.turns
  | deaf _ => f.held = false
  | ended _ _ => False

theorem Attends.cut?_eq_none {f : Flag} {s : Sleep} (h : s.Attends f) : s.cut? = none := by
  cases s with
  | ended cut seen => cases h
  | _ => rfl

theorem Attends.through {f : Flag} {s : Sleep} (h : s.Attends f) (values : List (Option Bool)) :
    s.Attends (f.through values) := by
  cases s with
  | listening seen => exact Nat.le_trans h (f.turns_through values).1
  | deaf seen =>
    have hheld : f.held = false := h
    rw [Flag.through_of_not_held hheld]
    exact h
  | ended cut seen => cases h

theorem Attends.look {f : Flag} {s : Sleep} (h : s.Attends f) (hraised : f.raised = false)
    (timeFirst : Bool) : (s.look false timeFirst f).Attends f := by
  cases s with
  | listening seen =>
    simp only [Sleep.look, Bool.false_and, Bool.false_eq_true, if_false, hraised]
    split
    · exact Nat.le_refl f.turns
    · split
      · exact h
      · rename_i hheld
        exact eq_false_of_ne_true hheld
  | deaf seen => exact h
  | ended cut seen => cases h

/-- **The first look that finds the signal raised is the last**, whatever else it finds: if it ends the
sleep as one that took its time, that is over as well. -/
theorem Attends.ends_of_raised {f : Flag} {s : Sleep} (h : s.Attends f) (hraised : f.raised = false)
    {values : List (Option Bool)} (hnow : (f.through values).raised = true) (due timeFirst : Bool) :
    ∃ cut, (s.look due timeFirst (f.through values)).cut? = some cut := by
  cases s with
  | listening seen =>
    have hnews : seen ≠ (f.through values).turns := by
      intro hseen
      have hle : seen ≤ f.turns := h
      obtain ⟨hgrows, hsame⟩ := f.turns_through values
      rw [hsame (by omega), hraised] at hnow
      cases hnow
    simp only [Sleep.look, if_pos hnews, if_pos hnow]
    split <;> exact ⟨_, rfl⟩
  | deaf seen =>
    -- nobody was left to raise it
    have hheld : f.held = false := h
    rw [Flag.through_of_not_held hheld, hraised] at hnow
    cases hnow
  | ended cut seen => cases h

theorem due_or_raised_of_look {f : Flag} {s : Sleep} {due timeFirst cut : Bool} (hs : s.cut? = none)
    (h : (s.look due timeFirst f).cut? = some cut) :
    cut = false ∧ due = true ∨ cut = true ∧ f.raised = true := by
  cases s with
  | listening seen => grind [look, cut?]
  | deaf seen => grind [look, cut?]
  | ended cut seen => cases hs

theorem seen_look {f : Flag} {s : Sleep} (h : s.seen ≤ f.turns) (due timeFirst : Bool) :
    (s.look due timeFirst f).seen ≤ f.turns := by
  cases s with
  | listening seen =>
    have hseen : seen ≤ f.turns := h
    simp only [look]
    split
    · exact hseen
    · split
      · split <;> exact Nat.le_refl f.turns
      · split
        · exact hseen
        · split <;> exact hseen
  | deaf seen =>
    simp only [look]
    split <;> exact h
  | ended cut seen => exact h

theorem look_due (f : Flag) {s : Sleep} (hs : s.cut? = none) : (s.look true true f).cut? = some false := by
  cases s with
  | ended cut seen => cases hs
  | _ => rfl

end Sleep

namespace Vigil

variable {σ : Type} {deadline : Nat} {v : Vigil σ} {s : Sleep}

theorem rest_cons_of_ended {g : Glance} {cut : Bool}
    (h : (s.look (deadline ≤ (v.later g.lapse).now) g.timeFirst (v.later g.lapse).flag).cut? = some cut)
    (gs : List Glance) :
    v.rest deadline (g :: gs) s = (cut, { v.later g.lapse with
      seen := (s.look (deadline ≤ (v.later g.lapse).now) g.timeFirst (v.later g.lapse).flag).seen }) := by
  rw [rest]
  split
  · rename_i hended
    rw [hended] at h ⊢
    cases h
    rfl
  · rename_i hwaits
    cases hlook : s.look (deadline ≤ (v.later g.lapse).now) g.timeFirst (v.later g.lapse).flag with
    | ended cut seen => exact absurd hlook (hwaits cut seen)
    | _ => rw [hlook] at h; cases h

theorem rest_cons_of_waiting {g : Glance}
    (h : (s.look (deadline ≤ (v.later g.lapse).now) g.timeFirst (v.later g.lapse).flag).cut? = none)
    (gs : List Glance) :
    v.rest deadline (g :: gs) s = (v.later g.lapse).rest deadline gs
      (s.look (deadline ≤ (v.later g.lapse).now) g.timeFirst (v.later g.lapse).flag) := by
  rw [rest]
  split
  · rename_i hended
    rw [hended] at h
    cases h
  · rfl

theorem stores_rest (deadline : Nat) : ∀ (gs : List Glance) (s : Sleep) (v : Vigil σ),
    (v.rest deadline gs s).2.stores = v.stores
  | [], _, _ => rfl
  | g :: gs, s, v => by
    rw [rest]
    split
    · rfl
    · exact stores_rest deadline gs _ _

theorem noted_rest (deadline : Nat) : ∀ (gs : List Glance) {s : Sleep} {v : Vigil σ}, s.seen ≤ v.flag.turns →
    (v.rest deadline gs s).2.seen ≤ (v.rest deadline gs s).2.flag.turns
  | [], _, v, h => Sleep.seen_look h true true
  | g :: gs, s, v, h => by
    have hlater : s.seen ≤ (v.later g.lapse).flag.turns := Nat.le_trans h (v.flag.turns_through _).1
    have hlook := Sleep.seen_look hlater (deadline ≤ (v.later g.lapse).now) g.timeFirst
    rw [rest]
    split
    · rename_i hended
      rw [hended] at hlook
      exact hlook
    · exact noted_rest deadline gs hlook

/-- **A sleep goes on through looks before its time that do not find the signal raised.** -/
theorem rest_of_uneventful : ∀ (before : List Glance) {s : Sleep} {v : Vigil σ}, s.Attends v.flag →
    (∀ k < before.length, (v.after (before.take (k + 1))).now < deadline ∧
      (v.after (before.take (k + 1))).flag.raised = false) →
    ∃ s' : Sleep, s'.Attends (v.after before).flag ∧
      ∀ gs, v.rest deadline (before ++ gs) s = (v.after before).rest deadline gs s'
  | [], s, _, hs, _ => ⟨s, hs, fun _ => rfl⟩
  | g :: before, s, v, hs, hlooks => by
    obtain ⟨hearly, hraised⟩ := hlooks 0 (Nat.zero_lt_succ _)
    have hnow : (v.later g.lapse).now < deadline := hearly
    have hgoes : (s.look (deadline ≤ (v.later g.lapse).now) g.timeFirst (v.later g.lapse).flag).Attends
        (v.later g.lapse).flag := by
      rw [decide_eq_false (Nat.not_le.2 hnow)]
      exact (hs.through g.lapse.told).look hraised g.timeFirst
    -- the other looks are those of the rest of the sleep, counted from one later
    obtain ⟨s', hs', hrest⟩ := rest_of_uneventful before hgoes fun k hk =>
      hlooks (k + 1) (Nat.succ_lt_succ hk)
    refine ⟨s', hs', fun gs => ?_⟩
    rw [List.cons_append, rest_cons_of_waiting hgoes.cut?_eq_none]
    exact hrest gs

/-- **The look that finds the signal raised ends the sleep**, and leaves it raised. -/
theorem rest_of_raised (hs : s.Attends v.flag) (hbefore : v.flag.raised = false) {g : Glance}
    (hnow : (v.later g.lapse).flag.raised = true) (gs : List Glance) :
    (v.rest deadline (g :: gs) s).2.flag.raised = true := by
  obtain ⟨cut, hlook⟩ := hs.ends_of_raised hbefore hnow (deadline ≤ (v.later g.lapse).now) g.timeFirst
  rw [rest_cons_of_ended hlook]
  exact hnow

/-- **The sleep of one who is alarmed ends with the signal raised.** -/
theorem Alarmed.raised_rest {gs : List Glance} (h : v.Alarmed deadline gs) (hseen : v.seen ≤ v.flag.turns)
    (hlowered : v.flag.raised = false) : (v.rest deadline gs (.listening v.seen)).2.flag.raised = true := by
  obtain ⟨before, g, rest, rfl, hlooks, hup⟩ := h
  have hdown : (v.after before).flag.raised = false := by
    cases before with
    | nil => exact hlowered
    | cons b before =>
      have hlast := (hlooks before.length (Nat.lt_succ_self _)).2
      rwa [← List.length_cons, List.take_length] at hlast
  have hnow : ((v.after before).later g.lapse).flag.raised = true := by
    rwa [after, List.foldl_append] at hup
  obtain ⟨s, hattends, hrest⟩ := rest_of_uneventful before (s := .listening v.seen) hseen hlooks
  rw [hrest]
  exact rest_of_raised hattends hdown hnow rest

/-- **A sleep is not cut short by a signal that nobody raises.** -/
theorem rest_of_quiet : ∀ (gs : List Glance) {s : Sleep} {v : Vigil σ}, s.cut? = none →
    v.flag.raised = false → (∀ g ∈ gs, some true ∉ g.lapse.told) →
    (v.rest deadline gs s).1 = false ∧ (v.rest deadline gs s).2.flag.raised = false
  | [], s, v, hs, hraised, _ => by
    refine ⟨?_, hraised⟩
    show ((s.look true true v.flag).cut?).getD false = false
    rw [Sleep.look_due v.flag hs]
    rfl
  | g :: gs, s, v, hs, hraised, hquiet => by
    rw [List.forall_mem_cons] at hquiet
    have hlater : (v.later g.lapse).flag.raised = false := Flag.raised_through hraised _ hquiet.1
    cases hlook : (s.look (deadline ≤ (v.later g.lapse).now) g.timeFirst (v.later g.lapse).flag).cut? with
    | some cut =>
      rw [rest_cons_of_ended hlook]
      rcases Sleep.due_or_raised_of_look hs hlook with ⟨rfl, -⟩ | ⟨-, hup⟩
      · exact ⟨rfl, hlater⟩
      · rw [hlater] at hup
        cases hup
    | none =>
      rw [rest_cons_of_waiting hlook]
      exact rest_of_quiet gs hlook hlater hquiet.2

/-- **A sleep that is not cut short takes its full time**, and no more if no look comes late. -/
theorem now_rest : ∀ (gs : List Glance) {s : Sleep} {v : Vigil σ}, s.cut? = none →
    (v.rest deadline gs s).1 = false →
    deadline ≤ (v.rest deadline gs s).2.now ∧
      (v.now + (gs.map fun g => g.lapse.time).sum ≤ deadline → (v.rest deadline gs s).2.now = deadline)
  | [], s, v, _, _ => by
    -- after the last look the sleeper is woken by the clock
    show deadline ≤ max v.now deadline ∧ (v.now + 0 ≤ deadline → max v.now deadline = deadline)
    omega
  | g :: gs, s, v, hs, huncut => by
    have hsum : ((g :: gs).map fun g => g.lapse.time).sum =
        g.lapse.time + (gs.map fun g => g.lapse.time).sum := by simp
    have hlater : (v.later g.lapse).now = v.now + g.lapse.time := rfl
    rw [hsum, ← Nat.add_assoc, ← hlater]
    cases hlook : (s.look (deadline ≤ (v.later g.lapse).now) g.timeFirst (v.later g.lapse).flag).cut? with
    | some cut =>
      rw [rest_cons_of_ended hlook] at huncut ⊢
      rcases Sleep.due_or_raised_of_look hs hlook with ⟨-, hdue⟩ | ⟨rfl, -⟩
      · have hdue : deadline ≤ (v.later g.lapse).now := of_decide_eq_true hdue
        refine ⟨hdue, fun htotal => ?_⟩
        show (v.later g.lapse).now = deadline
        omega
      · cases huncut
    | none =>
      rw [rest_cons_of_waiting hlook] at huncut ⊢
      exact now_rest gs hlook huncut

end Vigil

end Allotment
