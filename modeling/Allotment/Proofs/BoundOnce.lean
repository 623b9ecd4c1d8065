import Allotment.Proofs.Commits
/-!
# Bound once

However reconciliations of the same service overtake each other, one of them at most
binds it, what it is bound to stays, and all that end well report the address that is
stored in the end (`bound_once`).  There are three ways to end well: nothing was left to
do for the copy, the service turned out bound when it was read again, or the write was
accepted.  In each of them the service is stored bound to the reported address from then
on (`Agrees`).
-/
namespace Allotment.Traffic

variable {settings : Settings} {c : Traffic settings} {ms : List Move} {n : Nat}

/-- What is bound at some moment of a run is bound to the same address, with the same labels, at every
later one. -/
theorem bound_after (h : c.Sound n) (hn : n + ms.length < UInt64.size) {p q : Nat} (hpq : p ≤ q)
    (hq : q ≤ ms.length) {key : Key} {s : Service} (hs : (c.after ms p).peek? key = some s)
    (hbound : s.isBound = true) :
    ∃ t, (c.after ms q).peek? key = some t ∧ t.isBound = true ∧ t.assigned = s.assigned ∧
      t.labels = s.labels := by
  obtain ⟨t, ht, hst⟩ := grows_after h hn hpq hq key s hs
  exact ⟨t, ht, hst.isBound hbound, hst.bound hbound⟩

/-- A service that is stored bound is not committed any more. -/
theorem not_commits_of_bound (h : c.Sound n) (hn : n + ms.length < UInt64.size) {i p q : Nat}
    {key : Key} {address : String} (hend : (c.run ms).Binds i key address) (hpq : p ≤ q) {s : Service}
    (hs : (c.after ms p).peek? key = some s) (hbound : s.isBound = true) : ¬c.Commits ms i q := by
  intro hc
  have hq := lt_length_of_commits hc
  obtain ⟨base, _, _, hbase, hunbound, -⟩ := stored_of_commits h hn hend hc
  obtain ⟨t, ht, htbound, -⟩ := bound_after h hn hpq (Nat.le_of_lt hq) hs hbound
  obtain rfl : base = t := Option.some.inj (hbase.symm.trans ht)
  rw [hunbound] at htbound
  cases htbound

theorem not_lt_of_commits (h : c.Sound n) (hn : n + ms.length < UInt64.size) {i k q q' : Nat}
    {key : Key} {address address' : String} (hi : (c.run ms).Binds i key address)
    (hk : (c.run ms).Binds k key address') (hq : c.Commits ms i q) (hq' : c.Commits ms k q') :
    ¬q < q' := by
  intro hlt
  obtain ⟨_, _, t, -, -, -, ht, hbound, -⟩ := stored_of_commits h hn hi hq
  exact not_commits_of_bound h hn hk hlt ht hbound hq'

theorem eq_of_binds (h : c.Sound n) (hn : n + ms.length < UInt64.size) (hstart : c.flights = [])
    {i k : Nat} {key : Key} {address address' : String} (hi : (c.run ms).Binds i key address)
    (hk : (c.run ms).Binds k key address') : i = k := by
  obtain ⟨q, hq⟩ := exists_commits hstart hi
  obtain ⟨q', hq'⟩ := exists_commits hstart hk
  have hle := Nat.le_of_not_lt (not_lt_of_commits h hn hi hk hq hq')
  have hge := Nat.le_of_not_lt (not_lt_of_commits h hn hk hi hq' hq)
  obtain rfl : q = q' := Nat.le_antisymm hge hle
  exact eq_of_calls (calls_of_commits hq) (calls_of_commits hq')

/-! ## Everybody agrees -/

/-- Whether the service under a key is stored bound to an address. -/
def Holds (c : Traffic settings) (key : Key) (address : String) : Prop :=
  ∃ t, c.peek? key = some t ∧ t.binding? = some address

/-- Whether every reconciliation that has ended well reports the address that is stored. -/
def Agrees (c : Traffic settings) : Prop :=
  ∀ i key o, c.outcome? i = some (key, o) → c.Holds key o.address

/-- Whether every copy that a reconciliation begins with is unbound or was stored before. -/
def Honest (c : Traffic settings) (ms : List Move) : Prop :=
  ∀ p copy, ms[p]? = some (.begin copy) →
    copy.isBound = false ∨ ∃ q, q ≤ p ∧ (c.after ms q).peek? copy.key = some copy

theorem holds_move {c : Traffic settings} (h : c.Sound n) (hn : n + 1 < UInt64.size) {key : Key}
    {address : String} (hc : c.Holds key address) (m : Move) : (c.move m).Holds key address := by
  obtain ⟨s, hs, hbinding⟩ := hc
  obtain ⟨-, -, hgrows⟩ := registry_move h hn m
  obtain ⟨t, ht, hst⟩ := hgrows key s hs
  exact ⟨t, ht, hst.binding? hbinding⟩

/-- What an honest copy is bound to is what is stored. -/
theorem holds_of_honest (h : c.Sound n) (hn : n + ms.length < UInt64.size) (hcopies : c.Honest ms)
    {p : Nat} {copy : Service} (hm : ms[p]? = some (.begin copy)) {address : String}
    (hbinding : copy.binding? = some address) : (c.after ms p).Holds copy.key address := by
  rcases hcopies p copy hm with hunbound | ⟨q, hq, hstored⟩
  · rw [Service.binding?_eq_none_iff.2 hunbound] at hbinding
    cases hbinding
  · obtain ⟨s, hs, hst⟩ := grows_after h hn hq (Nat.le_of_lt (lt_length hm)) _ copy hstored
    exact ⟨s, hs, hst.binding? hbinding⟩

theorem holds_of_commits (h : c.Sound n) (hn : n + ms.length < UInt64.size) {i q : Nat}
    (hc : c.Commits ms i q) {key : Key} {o : Outcome}
    (ho : (c.after ms (q + 1)).outcome? i = some (key, o)) :
    (c.after ms (q + 1)).Holds key o.address := by
  obtain ⟨f, base, a, -, -, -, hafter, hended⟩ := exists_bound_of_commits h hn hc
  rw [ho] at hended
  simp only [Option.some.injEq, Prod.mk.injEq] at hended
  obtain ⟨rfl, rfl⟩ := hended
  exact ⟨_, hafter, Service.binding?_eq_some_iff.2
    ⟨Service.isBound_bind base settings.allocatorId a, rfl⟩⟩

/-- **Every end that a move brings about agrees with what is stored**, whichever of the three it is. -/
theorem agrees_move (h : c.Sound n) (hn : n + ms.length < UInt64.size) (hcopies : c.Honest ms)
    {p : Nat} {m : Move} (hm : ms[p]? = some m) (hagrees : (c.after ms p).Agrees) :
    (c.after ms (p + 1)).Agrees := by
  have hp := lt_length hm
  have hstays : ∀ {key : Key} {address : String},
      (c.after ms p).Holds key address → (c.after ms (p + 1)).Holds key address := by
    intro key address hholds
    rw [after_succ c hm]
    exact holds_move (sound_after h hn p (Nat.le_of_lt hp)) (by omega) hholds m
  intro i key o ho
  have hend := ho
  rw [after_succ c hm] at hend
  obtain ⟨g, hg, rfl, hstage⟩ := outcome?_eq_some_iff.1 hend
  rcases flights_move_cases hg with ⟨copy, rfl, rfl⟩ | hf | ⟨f, fault?, raised, hf, rfl, hcopy, hleads⟩
  · exact hstays (holds_of_honest h hn hcopies hm (Task.binding?_of_start hstage).2)
  · exact hstays (hagrees i g.key o (outcome?_eq_some_iff.2 ⟨g, hf, rfl, hstage⟩))
  · have hkey : g.key = f.key := by rw [Flight.key, Flight.key, hcopy]
    rw [hstage] at hleads
    rcases Task.ended_of_leads hleads with
      hsame | ⟨-, hget, hbinding⟩ | ⟨a, left, draft, hwriting, rfl, hupdate, -, -⟩
    · rw [hkey]
      exact hstays (hagrees i f.key o (outcome?_eq_some_iff.2 ⟨f, hf, rfl, hsame⟩))
    · rw [hkey]
      exact hstays ⟨o.service, (Registry.get_eq_ok_iff.1 hget).2, hbinding⟩
    · have hcommit : c.Commits ms i p :=
        ⟨raised, f, a, left, draft, hm, hf, hwriting, by rw [hupdate]; rfl⟩
      exact holds_of_commits h hn hcommit ho

theorem agrees_after (h : c.Sound n) (hn : n + ms.length < UInt64.size) (hstart : c.flights = [])
    (hcopies : c.Honest ms) : ∀ p, p ≤ ms.length → (c.after ms p).Agrees
  | 0, _ => by
    intro i key o ho
    obtain ⟨f, hf, -⟩ := outcome?_eq_some_iff.1 ho
    cases (getElem?_of_no_flights hstart i).symm.trans hf
  | p + 1, hp => by
    have hlt : p < ms.length := hp
    obtain ⟨m, hm⟩ := exists_move hlt
    exact agrees_move h hn hcopies hm (agrees_after h hn hstart hcopies p (Nat.le_of_lt hlt))

/-- **A service is bound once, and everybody agrees on its address.**  Of the reconciliations of one
service one at most says that it bound it, and none if it was bound when it was first stored, at the start
or on its arrival; what is bound keeps its address and its labels; and all that end well report the address
that is stored in the end. -/
theorem bound_once (hstart : c.flights = []) (hr : c.stores.registry.Keyed)
    (hb : c.stores.registry.Bounded n) (hn : n + ms.length < UInt64.size) (hcopies : c.Honest ms) :
    (∀ i k key address address', (c.run ms).Binds i key address → (c.run ms).Binds k key address' →
      i = k) ∧
    (∀ i key address p s, (c.run ms).Binds i key address →
      (∀ q, q < p → (c.after ms q).peek? key = none) → (c.after ms p).peek? key = some s →
      s.isBound = false) ∧
    (∀ p q key s, p ≤ q → q ≤ ms.length → (c.after ms p).peek? key = some s → s.isBound = true →
      ∃ t, (c.after ms q).peek? key = some t ∧ t.isBound = true ∧ t.assigned = s.assigned ∧
        t.labels = s.labels) ∧
    ∀ i key o, (c.run ms).outcome? i = some (key, o) →
      ∃ t, (c.run ms).peek? key = some t ∧ t.isBound = true ∧ t.assigned = some o.address := by
  have h := sound_of_no_flights hstart hr hb
  refine ⟨fun i k key _ _ hi hk => eq_of_binds h hn hstart hi hk, ?_, ?_, ?_⟩
  · intro i key address p s hi hfirst hs
    obtain ⟨q, hq⟩ := exists_commits hstart hi
    obtain ⟨base, _, _, hbase, -⟩ := stored_of_commits h hn hi hq
    -- the commit found the service stored, so not before it was stored first
    have hpq : p ≤ q := by
      by_contra hlt
      rw [hfirst q (Nat.lt_of_not_le hlt)] at hbase
      cases hbase
    cases hbound : s.isBound with
    | false => rfl
    | true => exact absurd hq (not_commits_of_bound h hn hi hpq hs hbound)
  · intro p q key s hpq hq hs hbound
    exact bound_after h hn hpq hq hs hbound
  · intro i key o ho
    have hagrees := agrees_after h hn hstart hcopies ms.length (Nat.le_refl _)
    rw [after_length] at hagrees
    obtain ⟨t, ht, hbinding⟩ := hagrees i key o ho
    exact ⟨t, ht, Service.binding?_eq_some_iff.1 hbinding⟩

/-- A service arrives, and two reconciliations of it take turns; the second one's write comes too late, and it
finds the service bound when it reads again. -/
theorem bound_once_two_of_one :
    let web : Service := ⟨"default", "web", "", ∅, none, 1, ⟨[]⟩⟩
    let pools : PoolDocument := PoolDocument.empty.insert "cidr-default" "10.0.0.0/29"
    let c : Traffic Settings.standard :=
      ⟨⟨Registry.empty, Archive.empty.put Settings.standard.document pools⟩, []⟩
    let go (i : Nat) : Move := .advance i none false
    let ms : List Move := [.arrive web, .begin web, .begin web, go 0, go 1, go 0, go 1, go 0, go 1,
      go 0, go 1, go 0, go 1, go 1, go 1, go 1, go 1]
    c.Honest ms ∧ (c.run ms).Binds 0 web.key "10.0.0.1" ∧
      (∀ k address, (c.run ms).Binds k web.key address → k = 0) ∧
      (c.run ms).outcome? 1 = some (web.key,
        ⟨"10.0.0.1", false, { web.bind "vip-ipam" "10.0.0.1" with version := 2 }⟩) ∧
      ∃ t, (c.run ms).peek? web.key = some t ∧ t.isBound = true ∧ t.assigned = some "10.0.0.1" := by
  intro web pools c go ms
  have hcopies : c.Honest ms := by
    intro p copy hcopy
    have hmem := List.mem_of_getElem? hcopy
    obtain rfl : copy = web := by simpa [ms, go] using hmem
    exact .inl rfl
  have hfirst : (c.run ms).Binds 0 web.key "10.0.0.1" :=
    ⟨{ web.bind "vip-ipam" "10.0.0.1" with version := 2 }, by decide +kernel⟩
  have hsecond : (c.run ms).outcome? 1 = some (web.key,
      ⟨"10.0.0.1", false, { web.bind "vip-ipam" "10.0.0.1" with version := 2 }⟩) := by
    decide +kernel
  obtain ⟨honce, -, -, hagree⟩ :=
    bound_once rfl Registry.keyed_empty Registry.bounded_empty (by decide) hcopies
  exact ⟨hcopies, hfirst, fun k address hk => honce k 0 web.key address "10.0.0.1" hk hfirst, hsecond,
    hagree 1 web.key _ hsecond⟩

end Allotment.Traffic
