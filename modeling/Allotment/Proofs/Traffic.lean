import Allotment.Proofs.Calls
/-!
# Traffic

Any number of reconciliations of one allocator over the same stores.  A move begins a
reconciliation, lets one of those under way make its next call, brings in a service under
a key that is not taken, or disturbs the stores; a run is any list of moves.  Nobody else
writes over what is stored in the registry, and nothing is removed from it.

What carries every result about runs is `Sound`: a draft that waits to be written was
made from a service that was stored before, unbound, under the key that the
reconciliation is about.  Each move keeps that up and only grows the registry
(`sound_move`), so each run does (`sound_after`, `grows_after`).
-/
namespace Allotment

/-- A reconciliation and how far it has come.  `copy` is the service as its caller knew it. -/
structure Flight where
  copy : Service
  stage : Stage

namespace Flight

def key (f : Flight) : Key := f.copy.key

/-- How a reconciliation that ended well did so. -/
def outcome? (f : Flight) : Option Outcome :=
  match f.stage with
  | .finished (.ok o) => some o
  | _ => none

end Flight

/-- The stores of an allocator with these settings, and the reconciliations that it has begun, in order. -/
structure Traffic (settings : Settings) where
  stores : Stores
  flights : List Flight

namespace Traffic

/-- What can happen next. -/
inductive Move where
  | begin (copy : Service)
  /-- The reconciliation with this number makes its next call, which a fault may keep from the stores;
  if it looks at the signal instead, it finds it raised or not. -/
  | advance (i : Nat) (fault? : Option StoreFault) (raised : Bool)
  /-- A service is stored, bound or not, if nothing is stored under its key. -/
  | arrive (s : Service)
  /-- So many of the next writes find a newer version. -/
  | expectConflicts (n : Nat)
  | setUnavailable (b : Bool)
  /-- Anything done to the documents. -/
  | setArchive (a : Archive)

variable {settings : Settings}

def peek? (c : Traffic settings) (key : Key) : Option Service := c.stores.registry.peek? key

/-- The key that a reconciliation is about and how it ended, if it ended well. -/
def outcome? (c : Traffic settings) (i : Nat) : Option (Key × Outcome) :=
  c.flights[i]?.bind fun f => f.outcome?.map fun o => (f.key, o)

def begin (c : Traffic settings) (copy : Service) : Traffic settings :=
  ⟨c.stores, c.flights ++ [⟨copy, (Task.start ⟨settings, copy⟩).stage⟩]⟩

def advance (c : Traffic settings) (i : Nat) (fault? : Option StoreFault) (raised : Bool) :
    Traffic settings :=
  match c.flights[i]? with
  | none => c
  | some f =>
    let (p, stores) := Task.advance ⟨settings, f.copy⟩ (Stores.troubled fault? raised) c.stores f.stage
    ⟨stores, c.flights.set i ⟨f.copy, p.stage⟩⟩

def move (c : Traffic settings) : Move → Traffic settings
  | .begin copy => c.begin copy
  | .advance i fault? raised => c.advance i fault? raised
  | .arrive s => ⟨{ c.stores with registry := c.stores.registry.arrived s }, c.flights⟩
  | .expectConflicts n =>
    ⟨{ c.stores with registry := { c.stores.registry with conflictsDue := n } }, c.flights⟩
  | .setUnavailable b =>
    ⟨{ c.stores with registry := { c.stores.registry with unavailable := b } }, c.flights⟩
  | .setArchive a => ⟨{ c.stores with archive := a }, c.flights⟩

def run (c : Traffic settings) (ms : List Move) : Traffic settings := ms.foldl move c

/-- The run after its first `p` moves. -/
def after (c : Traffic settings) (ms : List Move) (p : Nat) : Traffic settings := c.run (ms.take p)

/-! ## Moments of a run -/

theorem after_length (c : Traffic settings) (ms : List Move) : c.after ms ms.length = c.run ms := by
  rw [after, List.take_length]

theorem after_succ (c : Traffic settings) {ms : List Move} {p : Nat} {m : Move} (h : ms[p]? = some m) :
    c.after ms (p + 1) = (c.after ms p).move m := by
  rw [after, List.take_add_one, h, run, List.foldl_append]
  rfl

theorem exists_move {ms : List Move} {p : Nat} (h : p < ms.length) : ∃ m, ms[p]? = some m :=
  ⟨ms[p], List.getElem?_eq_getElem h⟩

theorem lt_length {ms : List Move} {p : Nat} {m : Move} (h : ms[p]? = some m) : p < ms.length :=
  (List.getElem?_eq_some_iff.1 h).1

/-- **What every move keeps up holds from some moment on.** -/
theorem kept_after {c : Traffic settings} {ms : List Move} {P : Traffic settings → Prop}
    (hmove : ∀ q m, ms[q]? = some m → P (c.after ms q) → P ((c.after ms q).move m)) {p : Nat}
    (h : P (c.after ms p)) : ∀ d, p + d ≤ ms.length → P (c.after ms (p + d))
  | 0, _ => h
  | d + 1, hd => by
    have hlt : p + d < ms.length := hd
    obtain ⟨m, hm⟩ := exists_move hlt
    rw [← Nat.add_assoc, after_succ c hm]
    exact hmove _ m hm (kept_after hmove h d (Nat.le_of_lt hlt))

/-! ## What a move does to the reconciliations -/

theorem advance_of_none {c : Traffic settings} {i : Nat} (h : c.flights[i]? = none)
    (fault? : Option StoreFault) (raised : Bool) : c.advance i fault? raised = c := by
  rw [advance, h]

theorem advance_eq {c : Traffic settings} {i : Nat} {f : Flight} (h : c.flights[i]? = some f)
    (fault? : Option StoreFault) (raised : Bool) :
    c.advance i fault? raised =
      let next := Task.advance ⟨settings, f.copy⟩ (Stores.troubled fault? raised) c.stores f.stage
      ⟨next.2, c.flights.set i ⟨f.copy, next.1.stage⟩⟩ := by
  rw [advance, h]

/-- A call moves one reconciliation on and leaves the others where they are. -/
theorem advance_of_some {c : Traffic settings} {i : Nat} {f : Flight} (h : c.flights[i]? = some f)
    (fault? : Option StoreFault) (raised : Bool) :
    ∃ s', Task.Leads ⟨settings, f.copy⟩ fault? c.stores.registry f.stage s' ∧
      (c.advance i fault? raised).flights = c.flights.set i ⟨f.copy, s'⟩ ∧
      ((c.advance i fault? raised).stores.registry = c.stores.registry ∨
        ∃ a left draft, f.stage = .writing a left draft ∧
          (c.advance i fault? raised).stores.registry = (c.stores.registry.update draft).2) := by
  rw [advance_eq h]
  exact ⟨_, Task.leads_advance _ fault? raised c.stores f.stage, rfl,
    Task.registry_advance _ fault? raised c.stores f.stage⟩

theorem getElem?_flights_advance {c : Traffic settings} {i : Nat} {f : Flight}
    (h : c.flights[i]? = some f) (fault? : Option StoreFault) (raised : Bool) :
    ∃ s', (c.advance i fault? raised).flights[i]? = some ⟨f.copy, s'⟩ ∧
      Task.Leads ⟨settings, f.copy⟩ fault? c.stores.registry f.stage s' := by
  obtain ⟨s', hleads, hflights, -⟩ := advance_of_some h fault? raised
  rw [hflights]
  exact ⟨s', List.getElem?_set_self (List.getElem?_eq_some_iff.1 h).1, hleads⟩

/-- **A reconciliation stays the same one**, and moves on only by a call of its own. -/
theorem getElem?_flights_move {c : Traffic settings} {i : Nat} {f : Flight} (h : c.flights[i]? = some f)
    (m : Move) :
    ∃ s', (c.move m).flights[i]? = some ⟨f.copy, s'⟩ ∧
      (s' = f.stage ∨ ∃ fault? raised, m = .advance i fault? raised ∧
        Task.Leads ⟨settings, f.copy⟩ fault? c.stores.registry f.stage s') := by
  have hi : i < c.flights.length := (List.getElem?_eq_some_iff.1 h).1
  cases m with
  | begin copy =>
    refine ⟨f.stage, ?_, .inl rfl⟩
    show (c.flights ++ _)[i]? = _
    rw [List.getElem?_append_left hi, h]
  | advance k fault? raised =>
    show ∃ s', (c.advance k fault? raised).flights[i]? = _ ∧ _
    by_cases hki : k = i
    · subst hki
      obtain ⟨s', hmoved, hleads⟩ := getElem?_flights_advance h fault? raised
      exact ⟨s', hmoved, .inr ⟨fault?, raised, rfl, hleads⟩⟩
    · refine ⟨f.stage, ?_, .inl rfl⟩
      cases hk : c.flights[k]? with
      | none => rw [advance_of_none hk, h]
      | some g =>
        obtain ⟨s', -, hflights, -⟩ := advance_of_some hk fault? raised
        rw [hflights, List.getElem?_set_ne hki, h]
  | arrive s => exact ⟨f.stage, h, .inl rfl⟩
  | expectConflicts n => exact ⟨f.stage, h, .inl rfl⟩
  | setUnavailable b => exact ⟨f.stage, h, .inl rfl⟩
  | setArchive a => exact ⟨f.stage, h, .inl rfl⟩

/-- **What is under way after a move** has just begun, or was under way before and has moved on by this
call, or is where it was. -/
theorem flights_move_cases {c : Traffic settings} {m : Move} {i : Nat} {g : Flight}
    (h : (c.move m).flights[i]? = some g) :
    (∃ copy, m = .begin copy ∧ g = ⟨copy, (Task.start ⟨settings, copy⟩).stage⟩) ∨
      c.flights[i]? = some g ∨
      ∃ f fault? raised, c.flights[i]? = some f ∧ m = .advance i fault? raised ∧ g.copy = f.copy ∧
        Task.Leads ⟨settings, f.copy⟩ fault? c.stores.registry f.stage g.stage := by
  cases hi : c.flights[i]? with
  | some f =>
    obtain ⟨s', hmoved, hs'⟩ := getElem?_flights_move hi m
    obtain rfl : g = ⟨f.copy, s'⟩ := Option.some.inj (h.symm.trans hmoved)
    rcases hs' with rfl | ⟨fault?, raised, rfl, hleads⟩
    · exact .inr (.inl rfl)
    · exact .inr (.inr ⟨f, fault?, raised, rfl, rfl, rfl, hleads⟩)
  | none =>
    have hlen : c.flights.length ≤ i := List.getElem?_eq_none_iff.1 hi
    cases m with
    | begin copy =>
      have h : (c.flights ++ [⟨copy, (Task.start ⟨settings, copy⟩).stage⟩])[i]? = some g := h
      rw [List.getElem?_append_right hlen] at h
      exact .inl ⟨copy, rfl, List.mem_singleton.1 (List.mem_of_getElem? h)⟩
    | advance k fault? raised =>
      have h : (c.advance k fault? raised).flights[i]? = some g := h
      cases hk : c.flights[k]? with
      | none =>
        rw [advance_of_none hk, hi] at h
        cases h
      | some f =>
        obtain ⟨s', -, hflights, -⟩ := advance_of_some hk fault? raised
        rw [hflights, List.getElem?_eq_none (by rw [List.length_set]; exact hlen)] at h
        cases h
    | arrive s => exact .inr (.inl (hi.symm.trans h))
    | expectConflicts n => exact .inr (.inl (hi.symm.trans h))
    | setUnavailable b => exact .inr (.inl (hi.symm.trans h))
    | setArchive a => exact .inr (.inl (hi.symm.trans h))

/-! ## Soundness -/

/-- Whether a draft that waits to be written was made from a service that was stored before, unbound,
under the key that the reconciliation is about. -/
def Grounded (c : Traffic settings) (f : Flight) : Prop :=
  ∀ a left draft, f.stage = .writing a left draft →
    ∃ base, draft = base.bind settings.allocatorId a.text ∧ base.key = f.key ∧
      base.isBound = false ∧ c.stores.registry.Remembers base

/-- What holds at every moment.  No stored version is above `n`. -/
structure Sound (c : Traffic settings) (n : Nat) : Prop where
  keyed : c.stores.registry.Keyed
  bounded : c.stores.registry.Bounded n
  grounded : ∀ (i : Nat) (f : Flight), c.flights[i]? = some f → c.Grounded f

theorem getElem?_of_no_flights {c : Traffic settings} (hstart : c.flights = []) (i : Nat) :
    c.flights[i]? = none := by
  rw [hstart, List.getElem?_nil]

theorem sound_of_no_flights {c : Traffic settings} {n : Nat} (hstart : c.flights = [])
    (hr : c.stores.registry.Keyed) (hb : c.stores.registry.Bounded n) : c.Sound n := by
  refine ⟨hr, hb, fun i f hf => ?_⟩
  rw [getElem?_of_no_flights hstart] at hf
  cases hf

/-- **What a move does to the registry**: it stays keyed, its versions grow by one at most, and what is
stored grows. -/
theorem registry_move {c : Traffic settings} {n : Nat} (h : c.Sound n) (hn : n + 1 < UInt64.size)
    (m : Move) :
    (c.move m).stores.registry.Keyed ∧ (c.move m).stores.registry.Bounded (n + 1) ∧
      c.stores.registry.Grows (c.move m).stores.registry := by
  have hsame : ∀ r : Registry, (∀ k, r.peek? k = c.stores.registry.peek? k) →
      r.Keyed ∧ r.Bounded (n + 1) ∧ c.stores.registry.Grows r := fun r hr =>
    ⟨fun k s hs => h.keyed k s ((hr k).symm.trans hs),
      Registry.bounded_same h.bounded (Nat.le_succ n) hr, Registry.grows_of_same hr⟩
  cases m with
  | begin copy => exact hsame _ fun _ => rfl
  | advance i fault? raised =>
    show (c.advance i fault? raised).stores.registry.Keyed ∧
      (c.advance i fault? raised).stores.registry.Bounded (n + 1) ∧
      c.stores.registry.Grows (c.advance i fault? raised).stores.registry
    cases hi : c.flights[i]? with
    | none =>
      rw [advance_of_none hi]
      exact hsame _ fun _ => rfl
    | some f =>
      obtain ⟨s', -, -, hr | ⟨a, left, draft, hstage, hr⟩⟩ := advance_of_some hi fault? raised
      · rw [hr]
        exact hsame _ fun _ => rfl
      · obtain ⟨base, rfl, -, hunbound, hbase⟩ := h.grounded i f hi a left draft hstage
        obtain ⟨hgrows, hbounded, -⟩ :=
          Registry.update_bind_cases h.keyed h.bounded hn hbase hunbound settings.allocatorId a.text
        rw [hr]
        exact ⟨Registry.keyed_update h.keyed _, hbounded, hgrows⟩
  | arrive s =>
    show (c.stores.registry.arrived s).Keyed ∧ (c.stores.registry.arrived s).Bounded (n + 1) ∧
      c.stores.registry.Grows (c.stores.registry.arrived s)
    rcases c.stores.registry.arrived_cases s with hr | ⟨habsent, hr⟩
    · rw [hr]
      exact hsame _ fun _ => rfl
    · rw [hr]
      exact ⟨Registry.keyed_insert h.keyed s, Registry.bounded_insert h.bounded hn s,
        Registry.grows_insert_of_absent habsent⟩
  | expectConflicts k => exact hsame _ fun _ => rfl
  | setUnavailable b => exact hsame _ fun _ => rfl
  | setArchive a => exact hsame _ fun _ => rfl

/-- **Every move keeps up what holds at every moment.** -/
theorem sound_move {c : Traffic settings} {n : Nat} (h : c.Sound n) (hn : n + 1 < UInt64.size)
    (m : Move) : (c.move m).Sound (n + 1) := by
  obtain ⟨hkeyed, hbounded, hgrows⟩ := registry_move h hn m
  refine ⟨hkeyed, hbounded, fun i g hg => ?_⟩
  intro a left draft hstage
  rcases flights_move_cases hg with ⟨copy, -, rfl⟩ | hf | ⟨f, fault?, raised, hf, -, hcopy, hleads⟩
  · rcases Task.stage_start ⟨settings, copy⟩ with ⟨hstart, -⟩ | ⟨address, -, hstart⟩
    · rw [hstart] at hstage
      cases hstage
    · rw [hstart] at hstage
      cases hstage
  · obtain ⟨base, hdraft, hkey, hunbound, hbase⟩ := h.grounded i g hf a left draft hstage
    exact ⟨base, hdraft, hkey, hunbound, hbase.grow hgrows⟩
  · rw [hstage] at hleads
    obtain ⟨latest, hget, hunbound, rfl⟩ := Task.drafted_of_leads hleads
    have hlatest := (Registry.get_eq_ok_iff.1 hget).2
    refine ⟨latest, rfl, ?_, Service.binding?_eq_none_iff.1 hunbound,
      (Registry.remembers_of_peek? h.keyed hlatest).grow hgrows⟩
    rw [h.keyed _ _ hlatest, Flight.key, hcopy]

variable {c : Traffic settings} {ms : List Move} {n : Nat}

theorem sound_after (h : c.Sound n) (hn : n + ms.length < UInt64.size) :
    ∀ p, p ≤ ms.length → (c.after ms p).Sound (n + p)
  | 0, _ => h
  | p + 1, hp => by
    have hlt : p < ms.length := hp
    obtain ⟨m, hm⟩ := exists_move hlt
    rw [after_succ c hm]
    exact sound_move (sound_after h hn p (Nat.le_of_lt hlt)) (by omega) m

/-- **Over a run, what is stored grows.** -/
theorem grows_after (h : c.Sound n) (hn : n + ms.length < UInt64.size) {p q : Nat} (hpq : p ≤ q)
    (hq : q ≤ ms.length) :
    (c.after ms p).stores.registry.Grows (c.after ms q).stores.registry := by
  obtain ⟨d, rfl⟩ := Nat.exists_eq_add_of_le hpq
  refine kept_after (P := fun c' => (c.after ms p).stores.registry.Grows c'.stores.registry) ?_
    (.refl _) d hq
  intro k m hm hgrows
  have hk := lt_length hm
  exact hgrows.trans (registry_move (sound_after h hn k (Nat.le_of_lt hk)) (by omega) m).2.2

end Traffic
end Allotment
