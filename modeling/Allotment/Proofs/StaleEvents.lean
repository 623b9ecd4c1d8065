import Allotment.Proofs.Alone
import Allotment.Proofs.Commits
/-!
# Stale events

A reconciliation that starts from an unbound copy of a service that has been bound since.
It lists, reads the document and chooses an address before it looks at the service again,
so it can fail for want of an address that it does not need
(`stale_event_fails_without_pool`).  It never writes; and where an address is left to
choose, it ends with the binding that is stored (`stale_event_keeps_binding`), however
many others are under way.
-/
namespace Allotment

namespace Task

/-- The document has no pool for the namespace any more: the service is bound, and still the event
fails. -/
theorem stale_event_fails_without_pool :
    let stale : Service := ⟨"default", "web", "u", ∅, none, 1, ⟨[]⟩⟩
    let stored := (stale.bind "vip-ipam" "10.0.0.1").advanced
    let st : Stores := ⟨⟨.ofList [(stale.key, stored)], 0, false, 0⟩,
      Archive.empty.put Settings.standard.document .empty⟩
    st.Reachable ∧ st.registry.peek? stale.key = some stored ∧ stored.binding? = some "10.0.0.1" ∧
      stale.isBound = false ∧
      (Task.reconcile ⟨Settings.standard, stale⟩ (Stores.surroundings false) st).1 =
        .error (.poolNotFound "default") :=
  ⟨⟨rfl, rfl⟩, by decide +kernel, by decide +kernel, by decide +kernel, by decide +kernel⟩

/-- How many calls at most still separate such a reconciliation from the stored binding.  Where it has
listed already, the document allots an address on what it listed. -/
inductive OnCourse (d : PoolDocument) (ns address : String) : Stage → Nat → Prop where
  | listing : OnCourse d ns address .listing 5
  | reading {claims : Claims} {a : Address} : d.allot ns claims = .ok a →
      OnCourse d ns address (.readingDocument claims) 4
  | creating {claims : Claims} {a : Address} : d.allot ns claims = .ok a →
      OnCourse d ns address (.creatingDocument claims) 3
  | checking {a : Address} {left : Nat} : OnCourse d ns address (.checking a left) 2
  | rereading {a : Address} {left : Nat} : OnCourse d ns address (.rereading a left) 1
  | kept {s : Service} : OnCourse d ns address (.finished (.ok ⟨address, false, s⟩)) 0

theorem OnCourse.ne_writing {d : PoolDocument} {ns address : String} {s : Stage} {k : Nat}
    (h : OnCourse d ns address s k) (a : Address) (left : Nat) (draft : Service) :
    s ≠ .writing a left draft := by
  rintro rfl
  cases h

theorem OnCourse.eq_finished {d : PoolDocument} {ns address : String} {s : Stage}
    (h : OnCourse d ns address s 0) : ∃ latest, s = .finished (.ok ⟨address, false, latest⟩) := by
  cases h
  exact ⟨_, rfl⟩

variable {t : Task} {st : Stores}

/-- **A call brings the stored binding nearer**, if the document still allots an address when the
reconciliation lists. -/
theorem onCourse_advance (hreach : st.Reachable) {d : PoolDocument}
    (hd : st.document t.settings.document = d) {latest : Service}
    (hlatest : st.registry.peek? t.service.key = some latest) {address : String}
    (hbound : latest.binding? = some address) {s : Stage} {k : Nat}
    (hlist : s = .listing → ∃ a, d.allot t.service.ns
      (st.registry.claimed t.service.ns t.settings.ownershipSelector) = .ok a)
    (h : OnCourse d t.service.ns address s k) :
    ∃ k', k' ≤ k - 1 ∧
      OnCourse d t.service.ns address (t.advance (Stores.surroundings false) st s).1.stage k' := by
  cases h with
  | listing =>
    obtain ⟨a, ha⟩ := hlist rfl
    rw [stage_advance_listing _ hreach]
    exact ⟨4, Nat.le_refl _, .reading ha⟩
  | @reading claims a ha =>
    show ∃ k', k' ≤ 3 ∧ OnCourse d _ _ (t.afterDocument claims (st.archive.get _)).stage k'
    cases hp : st.archive.peek? t.settings.document with
    | none =>
      rw [Archive.get_of_missing hreach.archive hp]
      exact ⟨3, Nat.le_refl _, .creating ha⟩
    | some stored =>
      obtain rfl : stored = d := by rw [← hd, (Stores.opened_of_some hp).2]
      rw [Archive.get_of_stored hreach.archive hp]
      refine ⟨2, by decide, ?_⟩
      show OnCourse stored _ _ (t.choose claims stored).stage 2
      rw [stage_choose, ha]
      exact .checking
  | @creating claims a ha =>
    have hcreate : (st.archive.create t.settings.document).1 = .ok d := by
      cases hp : st.archive.peek? t.settings.document with
      | none => rw [Archive.create_of_missing hreach.archive hp, ← hd, (Stores.opened_of_none hp).2]
      | some stored => rw [Archive.create_of_stored hreach.archive hp, ← hd, (Stores.opened_of_some hp).2]
    refine ⟨2, Nat.le_refl _, ?_⟩
    show OnCourse d _ _ (t.afterCreation claims (st.archive.create _).1).stage 2
    rw [hcreate]
    show OnCourse d _ _ (t.choose claims d).stage 2
    rw [stage_choose, ha]
    exact .checking
  | checking => exact ⟨1, Nat.le_refl _, .rereading⟩
  | @rereading a left =>
    have hget : st.registry.get t.service.key = .ok latest :=
      Registry.get_eq_ok_iff.2 ⟨hreach.registry, hlatest⟩
    refine ⟨0, Nat.le_refl _, ?_⟩
    show OnCourse d _ _ (t.afterReread a left (st.registry.get _)).stage 0
    rw [hget]
    simp only [afterReread, hbound]
    exact .kept
  | kept => exact ⟨0, Nat.le_refl _, .kept⟩

/-- **A stale event alone** leaves the registry as it is.  It ends with the stored binding if the
document has an address left, and fails as the document says if what the others hold is enough to fail. -/
theorem reconcile_stale {settings : Settings} {st : Stores} (hr : st.registry.Keyed)
    (hreach : st.Reachable) {copy stored : Service} (hstored : st.registry.peek? copy.key = some stored)
    {address : String} (hbound : stored.binding? = some address) (hcopy : copy.isBound = false) :
    let holds := st.registry.Holds (·.selectedBy settings.ownershipSelector) copy.ns
    let d := st.document settings.document
    let run := Task.reconcile ⟨settings, copy⟩ (Stores.surroundings false) st
    run.2.2 = st.opened settings.document ∧ run.2.2.registry = st.registry ∧
      (∀ a, d.Verdict copy.ns (fun b => ∃ key, holds key b) (.ok a) →
        run.1 = .ok ⟨address, false, stored⟩) ∧
      ∀ f, d.Verdict copy.ns (fun b => ∃ key, key ≠ copy.key ∧ holds key b) (.error f) →
        run.1 = .error f := by
  intro holds d run
  have hend := ending_start_of_bound (t := ⟨settings, copy⟩) hreach
    (Service.binding?_eq_none_iff.2 hcopy) hstored hbound
  rw [ending_start] at hend
  change (run.1, run.2.2) = _ at hend
  have hclaims : (fun b => ∃ key, holds key b) =
      fun b => b ∈ st.registry.claimed copy.ns settings.ownershipSelector := by
    funext b
    exact propext (Registry.mem_claimed_iff hr).symm
  have hdocument : st.document settings.document = d := rfl
  have hafter : run.2.2 = st.opened settings.document := by
    have hsecond := congrArg Prod.snd hend
    rw [hsecond]
    cases (st.document settings.document).allot copy.ns
        (st.registry.claimed copy.ns settings.ownershipSelector) <;> rfl
  refine ⟨hafter, by rw [hafter, st.registry_opened], ?_, ?_⟩
  · intro a ha
    rw [hclaims, ← PoolDocument.allot_eq_iff] at ha
    simp only [hdocument, ha, Prod.mk.injEq] at hend
    exact hend.1
  · intro f hf
    have hall : d.Verdict copy.ns (fun b => ∃ key, holds key b) (.error f) :=
      hf.mono fun b ⟨key, _, hheld⟩ => ⟨key, hheld⟩
    rw [hclaims, ← PoolDocument.allot_eq_iff] at hall
    simp only [hdocument, hall, Prod.mk.injEq] at hend
    exact hend.1

end Task

namespace Traffic

/-- Whether a move is a call of the reconciliation with this number. -/
def Move.isCallOf (i : Nat) : Move → Bool
  | .advance k _ _ => k == i
  | _ => false

theorem Move.isCallOf_iff {i : Nat} {m : Move} :
    m.isCallOf i = true ↔ ∃ fault? raised, m = .advance i fault? raised := by
  cases m <;> simp [isCallOf]

variable {settings : Settings} {c : Traffic settings} {ms : List Move} {n : Nat}

/-- Whether nothing gets in the way of the reconciliation that begins with the `p`-th move: the stores
are within reach, the document says the same all the time, its calls go through, and when it lists, there
is an address to choose. -/
structure Undisturbed (c : Traffic settings) (ms : List Move) (p : Nat) (ns : String)
    (d : PoolDocument) : Prop where
  reachable : ∀ q, p < q → q < ms.length → (c.after ms q).stores.Reachable
  document : ∀ q, p < q → q < ms.length → (c.after ms q).stores.document settings.document = d
  calls : ∀ q fault? raised, p < q → ms[q]? = some (.advance (c.after ms p).flights.length fault? raised) →
    fault? = none ∧ raised = false
  room : ∀ q f fault? raised, p < q →
    ms[q]? = some (.advance (c.after ms p).flights.length fault? raised) →
    (c.after ms q).flights[(c.after ms p).flights.length]? = some f → f.stage = .listing →
    ∃ a, d.Verdict ns
      (fun b => ∃ key, (c.after ms q).stores.registry.Holds
        (·.selectedBy settings.ownershipSelector) ns key b) (.ok a)

/-- **A call of an undisturbed reconciliation** brings the stored binding nearer; other moves leave it
where it is. -/
theorem onCourse_move {p q : Nat} {copy latest : Service} {address : String} {d : PoolDocument}
    (hu : c.Undisturbed ms p copy.ns d) (hpq : p < q) {m : Move} (hm : ms[q]? = some m)
    (hr : (c.after ms q).stores.registry.Keyed)
    (hlatest : (c.after ms q).peek? copy.key = some latest) (hbound : latest.binding? = some address)
    {s : Stage} {k : Nat}
    (hf : (c.after ms q).flights[(c.after ms p).flights.length]? = some ⟨copy, s⟩)
    (h : Task.OnCourse d copy.ns address s k) :
    ∃ s' k', ((c.after ms q).move m).flights[(c.after ms p).flights.length]? = some ⟨copy, s'⟩ ∧
      k' ≤ k - (if m.isCallOf (c.after ms p).flights.length then 1 else 0) ∧
      Task.OnCourse d copy.ns address s' k' := by
  have hq := lt_length hm
  by_cases hcall : m.isCallOf (c.after ms p).flights.length = true
  · obtain ⟨fault?, raised, rfl⟩ := Move.isCallOf_iff.1 hcall
    obtain ⟨rfl, rfl⟩ := hu.calls q fault? raised hpq hm
    have hlist : s = .listing → ∃ a, d.allot copy.ns
        ((c.after ms q).stores.registry.claimed copy.ns settings.ownershipSelector) = .ok a := by
      intro hs
      obtain ⟨a, ha⟩ := hu.room q _ none false hpq hm hf hs
      refine ⟨a, PoolDocument.allot_eq_iff.2 ?_⟩
      simpa only [Registry.mem_claimed_iff hr] using ha
    obtain ⟨k', hk, hnext⟩ := Task.onCourse_advance (t := ⟨settings, copy⟩) (hu.reachable q hpq hq)
      (hu.document q hpq hq) hlatest hbound hlist h
    refine ⟨_, k', ?_, by rw [if_pos hcall]; exact hk, hnext⟩
    have hi := (List.getElem?_eq_some_iff.1 hf).1
    show ((c.after ms q).advance _ none false).flights[_]? = _
    rw [advance_eq hf]
    exact List.getElem?_set_self hi
  · obtain ⟨s', hmoved, hs'⟩ := getElem?_flights_move hf m
    rcases hs' with rfl | ⟨fault?, raised, rfl, -⟩
    · exact ⟨_, k, hmoved, by rw [if_neg hcall]; exact Nat.le_refl _, h⟩
    · exact absurd (Move.isCallOf_iff.2 ⟨fault?, raised, rfl⟩) hcall

/-- **An undisturbed reconciliation stays on course**, and is so much nearer as it has made calls. -/
theorem onCourse_after (h : c.Sound n) (hn : n + ms.length < UInt64.size) {p : Nat}
    {copy stored : Service} {address : String} {d : PoolDocument}
    (hbegin : ms[p]? = some (.begin copy)) (hcopy : copy.binding? = none)
    (hstored : (c.after ms p).peek? copy.key = some stored) (hbound : stored.binding? = some address)
    (hu : c.Undisturbed ms p copy.ns d) :
    ∀ e, p + 1 + e ≤ ms.length → ∃ s k,
      (c.after ms (p + 1 + e)).flights[(c.after ms p).flights.length]? = some ⟨copy, s⟩ ∧
      k ≤ 5 - ((ms.drop (p + 1)).take e).countP (Move.isCallOf (c.after ms p).flights.length) ∧
      Task.OnCourse d copy.ns address s k
  | 0, _ => by
    refine ⟨.listing, 5, ?_, Nat.le_refl _, .listing⟩
    have hstart := Task.stage_start_of_unbound (t := ⟨settings, copy⟩) hcopy
    rw [Nat.add_zero, after_succ c hbegin]
    show ((c.after ms p).flights ++ [⟨copy, (Task.start ⟨settings, copy⟩).stage⟩])[_]? = _
    rw [hstart, List.getElem?_concat_length]
  | e + 1, he => by
    have hlt : p + 1 + e < ms.length := he
    obtain ⟨m, hm⟩ := exists_move hlt
    obtain ⟨s, k, hf, hk, hcourse⟩ :=
      onCourse_after h hn hbegin hcopy hstored hbound hu e (Nat.le_of_lt hlt)
    -- the others may write to the registry, but what is bound in it stays bound
    have hgrows : (c.after ms p).stores.registry.Grows (c.after ms (p + 1 + e)).stores.registry :=
      grows_after h hn (by omega) (Nat.le_of_lt hlt)
    obtain ⟨latest, hlatest, hprec⟩ := hgrows _ _ hstored
    have hr := (sound_after h hn (p + 1 + e) (Nat.le_of_lt hlt)).keyed
    obtain ⟨s', k', hmoved, hk', hnext⟩ :=
      onCourse_move hu (by omega) hm hr hlatest (hprec.binding? hbound) hf hcourse
    have hcount : (ms.drop (p + 1)).take (e + 1) = (ms.drop (p + 1)).take e ++ [m] := by
      rw [List.take_add_one, List.getElem?_drop, hm]
      rfl
    refine ⟨s', k', ?_, ?_, hnext⟩
    · rw [← Nat.add_assoc, after_succ c hm]
      exact hmoved
    · rw [hcount, List.countP_append, List.countP_singleton]
      omega

/-- **A stale event for a bound service keeps the binding.**  Alone it changes no service; it ends with
the stored binding wherever an address of the pool is unclaimed, and fails where no pool governs, its
entry is invalid, or the other services hold all of its addresses.  Among others, one that begins after
its service was bound, by whomever, and that nothing disturbs, writes nothing; five calls take it to the
address that is stored. -/
theorem stale_event_keeps_binding (settings : Settings) :
    (∀ (st : Stores) (copy stored : Service) (address : String), st.registry.Keyed → st.Reachable →
      st.registry.peek? copy.key = some stored → stored.binding? = some address →
      copy.isBound = false →
      let holds := st.registry.Holds (·.selectedBy settings.ownershipSelector) copy.ns
      let d := st.document settings.document
      let run := Task.reconcile ⟨settings, copy⟩ (Stores.surroundings false) st
      run.2.2 = st.opened settings.document ∧ run.2.2.registry = st.registry ∧
        (∀ a, d.Verdict copy.ns (fun b => ∃ key, holds key b) (.ok a) →
          run.1 = .ok ⟨address, false, stored⟩) ∧
        ∀ f, d.Verdict copy.ns (fun b => ∃ key, key ≠ copy.key ∧ holds key b) (.error f) →
          run.1 = .error f) ∧
    ∀ (c : Traffic settings) (ms : List Move) (n : Nat), c.flights = [] →
      c.stores.registry.Keyed → c.stores.registry.Bounded n → n + ms.length < UInt64.size →
      ∀ (p : Nat) (copy stored : Service) (address : String) (d : PoolDocument),
        ms[p]? = some (.begin copy) → copy.isBound = false →
        (c.after ms p).peek? copy.key = some stored → stored.binding? = some address →
        c.Undisturbed ms p copy.ns d →
        let i := (c.after ms p).flights.length
        (∀ q f a left draft, p < q → q ≤ ms.length → (c.after ms q).flights[i]? = some f →
          f.stage ≠ .writing a left draft) ∧
        (5 ≤ (ms.drop (p + 1)).countP (Move.isCallOf i) →
          ∃ s, (c.run ms).outcome? i = some (copy.key, ⟨address, false, s⟩)) := by
  refine ⟨fun st copy stored address hr hreach hstored hbound hcopy =>
    Task.reconcile_stale hr hreach hstored hbound hcopy, ?_⟩
  intro c ms n hstart hr hb hn p copy stored address d hbegin hcopy hstored hbound hu i
  have h := sound_of_no_flights hstart hr hb
  have hafter := onCourse_after h hn hbegin (Service.binding?_eq_none_iff.2 hcopy) hstored hbound hu
  have hp := lt_length hbegin
  refine ⟨?_, fun hcalls => ?_⟩
  · intro q f a left draft hpq hq hf
    obtain ⟨e, rfl⟩ := Nat.exists_eq_add_of_le (show p + 1 ≤ q from hpq)
    obtain ⟨s, k, hs, -, hcourse⟩ := hafter e hq
    rw [hf] at hs
    cases hs
    exact hcourse.ne_writing a left draft
  · obtain ⟨s, k, hs, hk, hcourse⟩ := hafter (ms.length - (p + 1)) (by omega)
    have hall : (ms.drop (p + 1)).take (ms.length - (p + 1)) = ms.drop (p + 1) :=
      List.take_of_length_le (by rw [List.length_drop])
    rw [hall] at hk
    rw [show p + 1 + (ms.length - (p + 1)) = ms.length by omega, after_length] at hs
    have hdone : k ≤ 5 - (ms.drop (p + 1)).countP (Move.isCallOf i) := hk
    obtain rfl : k = 0 := by omega
    obtain ⟨latest, rfl⟩ := hcourse.eq_finished
    exact ⟨latest, outcome?_eq_some_iff.2 ⟨_, hs, rfl, rfl⟩⟩

/-- The first event of a service has bound it when the second one begins with the same copy. -/
theorem stale_event_keeps_binding_after_first :
    let web : Service := ⟨"default", "web", "", ∅, none, 1, ⟨[]⟩⟩
    let pools : PoolDocument := PoolDocument.empty.insert "cidr-default" "10.0.0.0/29"
    let c : Traffic Settings.standard :=
      ⟨⟨Registry.empty.insert web, Archive.empty.put Settings.standard.document pools⟩, []⟩
    let go (i : Nat) : Move := .advance i none false
    let ms : List Move := [.begin web, go 0, go 0, go 0, go 0, go 0, .begin web,
      go 1, go 1, go 1, go 1, go 1]
    let stored := (web.bind "vip-ipam" "10.0.0.1").advanced
    (c.run ms).Binds 0 web.key "10.0.0.1" ∧
      (∃ s, (c.run ms).outcome? 1 = some (web.key, ⟨"10.0.0.1", false, s⟩)) ∧
      (Task.reconcile ⟨Settings.standard, web⟩ (Stores.surroundings false) (c.after ms 6).stores).1 =
        .ok ⟨"10.0.0.1", false, stored⟩ := by
  intro web pools c go ms stored
  have hr : c.stores.registry.Keyed := Registry.keyed_insert Registry.keyed_empty web
  have hb : c.stores.registry.Bounded 1 := Registry.bounded_insert Registry.bounded_empty (by decide) web
  have hsound := sound_of_no_flights rfl hr hb
  have hshort : 1 + ms.length < UInt64.size := by decide
  have hkeyed : ∀ q, q ≤ ms.length → (c.after ms q).stores.registry.Keyed := fun q hq =>
    (sound_after hsound hshort q hq).keyed
  have hlength : (c.after ms 6).flights.length = 1 := by decide +kernel
  have hstored : (c.after ms 6).peek? web.key = some stored := by decide +kernel
  have hunbound : web.isBound = false := by decide +kernel
  have hbound : stored.binding? = some "10.0.0.1" := by decide +kernel
  have hstores : ∀ q, q < ms.length → (c.after ms q).stores.registry.unavailable = false ∧
      (c.after ms q).stores.archive.unavailable = false ∧
      (c.after ms q).stores.document Settings.standard.document = pools := by decide +kernel
  have hallot : ∀ q, q < ms.length → 6 ≤ q → pools.allot web.ns
      ((c.after ms q).stores.registry.claimed web.ns Settings.standard.ownershipSelector) =
        .ok (Family.v4.address 0x0a000002) := by decide +kernel
  have hroom : ∀ q, q < ms.length → 6 ≤ q → pools.Verdict web.ns
      (fun b => ∃ key, (c.after ms q).stores.registry.Holds
        (·.selectedBy Settings.standard.ownershipSelector) web.ns key b)
      (.ok (Family.v4.address 0x0a000002)) := by
    intro q hq hsix
    have hverdict := PoolDocument.allot_eq_iff.1 (hallot q hq hsix)
    simpa only [Registry.mem_claimed_iff (hkeyed q (Nat.le_of_lt hq))] using hverdict
  have hu : c.Undisturbed ms 6 web.ns pools := by
    refine ⟨fun q _ hq => ⟨(hstores q hq).1, (hstores q hq).2.1⟩, fun q _ hq => (hstores q hq).2.2, ?_, ?_⟩
    · intro q fault? raised _ hm
      have hmem := List.mem_of_getElem? hm
      have hgo : fault? = none ∧ raised = false := by simpa [ms, go, hlength] using hmem
      exact hgo
    · intro q f fault? raised hsix hm _ _
      exact ⟨_, hroom q (lt_length hm) (Nat.le_of_lt hsix)⟩
  obtain ⟨halone, hamong⟩ := stale_event_keeps_binding Settings.standard
  obtain ⟨-, hfive⟩ :=
    hamong c ms 1 rfl hr hb (by decide) 6 web stored "10.0.0.1" pools rfl hunbound hstored hbound hu
  have hsix := hstores 6 (by decide)
  obtain ⟨-, -, hkept, -⟩ := halone (c.after ms 6).stores web stored "10.0.0.1" (hkeyed 6 (by decide))
    ⟨hsix.1, hsix.2.1⟩ hstored hbound hunbound
  rw [hlength] at hfive
  rw [hsix.2.2] at hkept
  exact ⟨⟨stored, by decide +kernel⟩, hfive (by decide +kernel),
    hkept _ (hroom 6 (by decide) (Nat.le_refl _))⟩

end Traffic

end Allotment
