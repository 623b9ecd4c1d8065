import Allotment.Proofs.Archive
import Allotment.Proofs.Endings
import Allotment.Proofs.Weather
/-!
# All or nothing

A reconciliation either binds its service by one accepted write, or leaves every service
with the content it had (`reconcile_all_or_nothing`).  Due conflicts may move the version
of the service on in the meantime (`Registry.Drifts`), and a missing document may be
created (`Archive.Opens`).  Both are kept up by every answer, and a draft that waits to be
written is always made from what is stored: nobody else writes.
-/
namespace Allotment

/-- The service so many versions later. -/
def Service.moved (s : Service) (j : Nat) : Service := { s with version := s.version + UInt64.ofNat j }

namespace Service

theorem moved_zero (s : Service) : s.moved 0 = s := by
  simp [moved]

theorem moved_moved (s : Service) (i j : Nat) : (s.moved i).moved j = s.moved (i + j) := by
  simp [moved, UInt64.ofNat_add, UInt64.add_assoc]

theorem moved_one (s : Service) : s.moved 1 = s.advanced := rfl

end Service

namespace Registry

/-- Whether nothing happened but `j` due conflicts under the key. -/
structure Drifts (r r' : Registry) (key : Key) (j : Nat) : Prop where
  due : r.conflictsDue = r'.conflictsDue + j
  target : r'.peek? key = (r.peek? key).map (·.moved j)
  others : ∀ k, key ≠ k → r'.peek? k = r.peek? k

variable {r r' r'' : Registry} {key : Key} {i j : Nat}

theorem drifts_of_same (hdue : r'.conflictsDue = r.conflictsDue) (h : ∀ k, r'.peek? k = r.peek? k)
    (key : Key) : r.Drifts r' key 0 := by
  refine ⟨hdue.symm, ?_, fun k _ => h k⟩
  rw [h]
  cases r.peek? key with
  | none => rfl
  | some s => rw [Option.map_some, Service.moved_zero]

theorem Drifts.trans (h : r.Drifts r' key i) (h' : r'.Drifts r'' key j) : r.Drifts r'' key (i + j) := by
  refine ⟨?_, ?_, fun k hk => (h'.others k hk).trans (h.others k hk)⟩
  · rw [h.due, h'.due]
    omega
  · rw [h'.target, h.target, Option.map_map]
    congr 1
    funext s
    exact s.moved_moved i j

theorem Drifts.keyed (h : r.Drifts r' key j) (hr : r.Keyed) : r'.Keyed := by
  intro k t ht
  by_cases hk : key = k
  · subst hk
    rw [h.target, Option.map_eq_some_iff] at ht
    obtain ⟨s, hs, rfl⟩ := ht
    exact hr key s hs
  · rw [h.others k hk] at ht
    exact hr k t ht

/-- **A write of the stored version drifts or takes its place.** -/
theorem drifts_or_bound_of_stored (hr : r.Keyed) {s stored : Service}
    (hs : r.peek? s.key = some stored) (hv : stored.version = s.version) :
    (∃ f j, (r.update s).1 = .error f ∧ r.Drifts (r.update s).2 s.key j) ∨
      ((r.update s).1 = .ok s.advanced ∧
        ∀ k, (r.update s).2.peek? k = if s.key = k then some s.advanced else r.peek? k) := by
  rcases update_cases_of_stored hr hs hv with ⟨-, f, h⟩ | ⟨hdue, f, h⟩ | h
  · rw [h]
    exact .inl ⟨f, 0, rfl, drifts_of_same (by rfl) (by intro k; rfl) s.key⟩
  · have hmoved := getElem?_insert r.services s.key
    rw [h]
    refine .inl ⟨f, 1, rfl, ?_, ?_, fun k hk => ?_⟩
    · show r.conflictsDue = r.conflictsDue - 1 + 1
      omega
    · show (r.services.insert s.key stored.advanced)[s.key]? = _
      rw [hmoved, if_pos rfl, hs, Option.map_some, Service.moved_one]
    · show (r.services.insert s.key stored.advanced)[k]? = _
      rw [hmoved, if_neg hk]
      rfl
  · rw [h]
    exact .inr ⟨rfl, r.peek?_written s.advanced⟩

end Registry

namespace Task

/-- Only creating the document changes the archive. -/
theorem archive_advance (t : Task) (fault? : Option StoreFault) (raised : Bool) (st : Stores) (s : Stage) :
    (t.advance (Stores.troubled fault? raised) st s).2.archive = st.archive ∨
      (t.advance (Stores.troubled fault? raised) st s).2.archive =
        (st.archive.create t.settings.document).2 := by
  cases s with
  | creatingDocument claims =>
    cases fault? with
    | some f => exact .inl rfl
    | none => exact .inr rfl
  | _ => cases fault? <;> exact .inl rfl

/-- Before a reconciliation's write is accepted, its draft is made from what is stored. -/
structure Uncommitted (t : Task) (st : Stores) (s : Stage) (v : Voyage) : Prop where
  commits : v.commits = []
  drifts : ∃ j, st.registry.Drifts v.stores.registry t.service.key j
  drafted : ∀ a left draft, s = .writing a left draft →
    ∃ latest, v.stores.registry.peek? t.service.key = some latest ∧ latest.binding? = none ∧
      draft = latest.bind t.settings.allocatorId a.text
  old : ∀ o, s = .finished (.ok o) → o.newlyBound = false

/-- After it, the service is stored as it is reported. -/
structure Committed (t : Task) (st : Stores) (o : Outcome) (v : Voyage) : Prop where
  newly : o.newlyBound = true
  commits : v.commits = [o.service]
  bound : ∃ base j a, st.registry.peek? t.service.key = some base ∧ base.isBound = false ∧
    o.address = Address.text a ∧
    o.service = ((base.moved j).bind t.settings.allocatorId a.text).advanced
  stored : ∀ k, v.stores.registry.peek? k =
    if t.service.key = k then some o.service else st.registry.peek? k

/-- What holds on the whole way. -/
def Faithful (t : Task) (st : Stores) (s : Stage) (v : Voyage) : Prop :=
  st.archive.Opens v.stores.archive t.settings.document ∧
    (t.Uncommitted st s v ∨ ∃ o, s = .finished (.ok o) ∧ t.Committed st o v)

variable {t : Task} {st : Stores} {w : Weather} {v : Voyage}

theorem opens_advance {s : Stage} (hs : s.result? = none)
    (h : st.archive.Opens v.stores.archive t.settings.document) :
    st.archive.Opens (t.advance w.surroundings v s).2.stores.archive t.settings.document := by
  rw [(t.advance_surroundings w v hs).2]
  rcases t.archive_advance (w.fault? v.answers) (w.raised v.answers) v.stores s with hsame | hcreated
  · unfold Weather.now
    rw [hsame]
    exact h
  · unfold Weather.now
    rw [hcreated]
    exact h.create

/-- An answer to anything but a write commits nothing. -/
theorem uncommitted_advance {s : Stage} (hs : s.result? = none)
    (hread : ∀ a left draft, s ≠ .writing a left draft) (h : t.Uncommitted st s v) :
    t.Uncommitted st (t.advance w.surroundings v s).1.stage (t.advance w.surroundings v s).2 := by
  obtain ⟨hprogress, hstores⟩ := t.advance_surroundings w v hs
  have hleads := t.leads_advance (w.fault? v.answers) (w.raised v.answers) v.stores s
  have hregistry : (t.advance (w.now v) v.stores s).2.registry = v.stores.registry := by
    rcases t.registry_advance (w.fault? v.answers) (w.raised v.answers) v.stores s with
      hsame | ⟨a, left, draft, hwriting, -⟩
    · exact hsame
    · exact absurd hwriting (hread a left draft)
  rw [← Weather.now, ← hprogress] at hleads
  refine ⟨?_, ?_, ?_, ?_⟩
  · rw [t.commits_advance w v hread, h.commits]
  · rw [hstores, hregistry]
    exact h.drifts
  · intro a left draft hstage
    rw [hstage] at hleads
    obtain ⟨latest, hget, hunbound, hdraft⟩ := drafted_of_leads hleads
    rw [hstores, hregistry]
    exact ⟨latest, (Registry.get_eq_ok_iff.1 hget).2, hunbound, hdraft⟩
  · intro o hstage
    rw [hstage] at hleads
    rcases ended_of_leads hleads with rfl | ⟨hold, -⟩ | ⟨a, left, draft, rfl, -⟩
    · cases hs
    · exact hold
    · exact absurd rfl (hread a left draft)

/-- A refused write leads to the next attempt or to a failure. -/
theorem stage_afterWrite_of_error (t : Task) (a : Address) (left : Nat) (f : StoreFault) :
    (∃ k, (t.afterWrite a left (.error f)).stage = .pausing a k) ∨
      ∃ e, (t.afterWrite a left (.error f)).stage = .finished (.error e) := by
  unfold afterWrite
  by_cases hf : f.isConflict = true
  · simp only [hf, if_true]
    cases left with
    | zero => exact .inr ⟨_, rfl⟩
    | succ k => exact .inl ⟨k, rfl⟩
  · simp only [hf, Bool.false_eq_true, if_false]
    exact .inr ⟨_, rfl⟩

theorem uncommitted_of_refused {v : Voyage} (hcommits : v.commits = [])
    (hdrifts : ∃ j, st.registry.Drifts v.stores.registry t.service.key j) (a : Address) (left : Nat)
    (f : StoreFault) : t.Uncommitted st (t.afterWrite a left (.error f)).stage v := by
  rcases t.stage_afterWrite_of_error a left f with ⟨k, hpause⟩ | ⟨e, hfailed⟩
  · rw [hpause]
    exact ⟨hcommits, hdrifts, nofun, nofun⟩
  · rw [hfailed]
    exact ⟨hcommits, hdrifts, nofun, nofun⟩

/-- **The answer to a write** commits it or commits nothing. -/
theorem writing_advance (hr : st.registry.Keyed) {a : Address} {left : Nat} {draft : Service}
    (h : t.Uncommitted st (.writing a left draft) v) :
    t.Uncommitted st (t.advance w.surroundings v (.writing a left draft)).1.stage
        (t.advance w.surroundings v (.writing a left draft)).2 ∨
      ∃ o, (t.advance w.surroundings v (.writing a left draft)).1.stage = .finished (.ok o) ∧
        t.Committed st o (t.advance w.surroundings v (.writing a left draft)).2 := by
  obtain ⟨j, hdrifts⟩ := h.drifts
  obtain ⟨latest, hlatest, hunbound, rfl⟩ := h.drafted a left draft rfl
  have hv := hdrifts.keyed hr
  have hkey : latest.key = t.service.key := hv _ _ hlatest
  cases hfault : w.fault? v.answers with
  | some f =>
    have hnext : (v.next v.stores).commits = [] := h.commits
    rw [advance_writing_of_fault t w v hfault]
    exact .inl (uncommitted_of_refused hnext ⟨j, hdrifts⟩ a left f)
  | none =>
    -- nobody else writes, so what the draft was made from is still stored
    have hdraft : (latest.bind t.settings.allocatorId a.text).key = t.service.key := hkey
    have hstored : v.stores.registry.peek? (latest.bind t.settings.allocatorId a.text).key =
        some latest := by rw [hdraft, hlatest]
    rw [advance_writing t w v hfault]
    rcases Registry.drifts_or_bound_of_stored hv hstored rfl with ⟨f, i, hrefused, hmoved⟩ | ⟨hok, hbound⟩
    · rw [hdraft] at hmoved
      have hnext : (v.next (v.stores.update (latest.bind t.settings.allocatorId a.text)).2).commits =
          [] := h.commits
      rw [hrefused]
      exact .inl (uncommitted_of_refused hnext ⟨j + i, hdrifts.trans hmoved⟩ a left f)
    · rw [hdraft] at hbound
      have hbase := hdrifts.target
      rw [hlatest, eq_comm, Option.map_eq_some_iff] at hbase
      obtain ⟨base, hbase, rfl⟩ := hbase
      rw [hok]
      refine .inr ⟨_, rfl, ?_⟩
      refine ⟨rfl, ?_, ?_, fun k => ?_⟩
      · show v.commits ++ [_] = [_]
        rw [h.commits]
        rfl
      · exact ⟨base, j, a, hbase, Service.binding?_eq_none_iff.1 hunbound, rfl, rfl⟩
      · show (v.stores.registry.update _).2.peek? k = _
        rw [hbound]
        by_cases hk : t.service.key = k
        · rw [if_pos hk, if_pos hk]
        · rw [if_neg hk, if_neg hk, hdrifts.others k hk]

/-- **Every answer keeps a reconciliation faithful.** -/
theorem faithful_advance (hr : st.registry.Keyed) (s : Stage) (hs : s.result? = none)
    (h : t.Faithful st s v) :
    t.Faithful st (t.advance w.surroundings v s).1.stage (t.advance w.surroundings v s).2 := by
  obtain ⟨hopens, huncommitted | ⟨o, rfl, -⟩⟩ := h
  · refine ⟨opens_advance hs hopens, ?_⟩
    by_cases hwriting : ∃ a left draft, s = .writing a left draft
    · obtain ⟨a, left, draft, rfl⟩ := hwriting
      exact writing_advance hr huncommitted
    · have hread : ∀ a left draft, s ≠ .writing a left draft := fun a left draft hdraft =>
        hwriting ⟨a, left, draft, hdraft⟩
      exact .inl (uncommitted_advance hs hread huncommitted)
  · cases hs

theorem faithful_start (t : Task) (st : Stores) : t.Faithful st t.start.stage (.start st) := by
  have hdrifts := Registry.drifts_of_same (r := st.registry) rfl (fun _ => rfl) t.service.key
  refine ⟨.inl rfl, .inl ⟨rfl, ⟨0, hdrifts⟩, ?_, fun o ho => (binding?_of_start ho).1⟩⟩
  exact fun a left draft hstage => absurd hstage (t.stage_start_ne_writing a left draft)

/-- **All or nothing.**  Whatever the stores answer and whenever the signal is raised: a reconciliation
that fails commits nothing, and neither does one that finds its service bound; all that may have happened
is that due conflicts moved the service's version on and that a missing document was created.  One that
reports a new binding committed one write: the service, unbound before, with this address, and no other
service is changed. -/
theorem reconcile_all_or_nothing (t : Task) (w : Weather) {st : Stores} (hr : st.registry.Keyed) :
    let run := t.reconcile w.surroundings (.start st)
    let last := run.2.2
    let unchanged := last.commits = [] ∧
      ∃ j, st.registry.Drifts last.stores.registry t.service.key j
    st.archive.Opens last.stores.archive t.settings.document ∧
    match run.1 with
    | .error _ => unchanged
    | .ok o =>
      (o.newlyBound = false → unchanged) ∧
      (o.newlyBound = true →
        last.commits = [o.service] ∧
        (∃ base j a, st.registry.peek? t.service.key = some base ∧ base.isBound = false ∧
          o.address = Address.text a ∧
          o.service = ((base.moved j).bind t.settings.allocatorId a.text).advanced) ∧
        ∀ k, last.stores.registry.peek? k =
          if t.service.key = k then some o.service else st.registry.peek? k) := by
  intro run last unchanged
  have hfaithful := t.ending_keeps w.surroundings (P := t.Faithful st)
    (fun s v hs h => faithful_advance hr s hs h) _ _ (t.faithful_start st)
  rw [ending_start] at hfaithful
  change t.Faithful st (.finished run.1) last at hfaithful
  obtain ⟨hopens, hends⟩ := hfaithful
  refine ⟨hopens, ?_⟩
  generalize run.1 = result at hends
  cases result with
  | error f =>
    rcases hends with huncommitted | ⟨o, ho, -⟩
    · exact ⟨huncommitted.commits, huncommitted.drifts⟩
    · cases ho
  | ok o =>
    rcases hends with huncommitted | ⟨o', ho, hcommitted⟩
    · have hold := huncommitted.old o rfl
      refine ⟨fun _ => ⟨huncommitted.commits, huncommitted.drifts⟩, fun hnew => ?_⟩
      rw [hold] at hnew
      cases hnew
    · cases ho
      refine ⟨fun hold => ?_, fun _ => ⟨hcommitted.commits, hcommitted.bound, hcommitted.stored⟩⟩
      rw [hcommitted.newly] at hold
      cases hold

/-- A due conflict takes the first attempt; the second one does not reach the store. -/
theorem reconcile_all_or_nothing_conflict_then_fault :
    let web : Service := ⟨"default", "web", "", ∅, none, 1, ⟨[]⟩⟩
    let pools : PoolDocument := PoolDocument.empty.insert "cidr-default" "10.0.0.0/29"
    let st : Stores := ⟨{ Registry.empty.insert web with conflictsDue := 1 },
      Archive.empty.put Settings.standard.document pools⟩
    let w : Weather := ⟨fun n => if n = 9 then some (.connection "reset") else none, fun _ => false⟩
    let run := Task.reconcile ⟨Settings.standard, web⟩ w.surroundings (.start st)
    st.registry.Keyed ∧ run.1 = .error (.store (.connection "reset")) ∧ run.2.2.commits = [] ∧
      (∃ j, st.registry.Drifts run.2.2.stores.registry web.key j) ∧
      run.2.2.stores.registry.peek? web.key = some (web.moved 1) := by
  intro web pools st w run
  have hr : st.registry.Keyed := Registry.keyed_insert Registry.keyed_empty web
  have hresult : run.1 = .error (.store (.connection "reset")) := by decide +kernel
  have hnothing := (Task.reconcile_all_or_nothing ⟨Settings.standard, web⟩ w hr).2
  simp only [show (Task.reconcile ⟨Settings.standard, web⟩ w.surroundings (.start st)).1 =
    .error (.store (.connection "reset")) from hresult] at hnothing
  exact ⟨hr, hresult, hnothing.1, hnothing.2, by decide +kernel⟩

end Task

end Allotment
