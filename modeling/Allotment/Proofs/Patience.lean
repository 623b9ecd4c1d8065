import Allotment.Proofs.AllOrNothing
import Allotment.Proofs.Alone
import Allotment.Proofs.Gauges
/-!
# Patience

A reconciliation that would bind its service if nobody got in the way, run again from the
same stores with conflicts due.  What a run counts on its way is kept beside the stage it
gets to (`Task.Tallies`).  One due conflict costs one attempt, and what the next attempt
reads is the version that the conflict left (`tallies_conflict`); so after `j` of them there
are `j` attempts less, and nothing else is different (`tallies_conflicts`).  Conflicts that
leave an attempt are not seen in what comes of the reconciliation, and as many as there are
attempts end it (`reconcile_outlasts_conflicts`).
-/
namespace Allotment

/-! ## Conflicts in the registry -/

namespace Service

theorem key_moved (s : Service) (j : Nat) : (s.moved j).key = s.key := rfl

/-- The binding that is written over a later version is as much later. -/
theorem bind_moved_advanced (s : Service) (id text : String) (j : Nat) :
    ((s.moved j).bind id text).advanced = (s.bind id text).advanced.moved j := by
  have hversion : s.version + UInt64.ofNat j + 1 = s.version + 1 + UInt64.ofNat j := by
    rw [UInt64.add_assoc, UInt64.add_comm _ 1, UInt64.add_assoc]
  simp only [advanced, moved, bind, hversion]

end Service

namespace Registry

variable {r : Registry} {s stored : Service}

/-- The registry after so many due conflicts got in before writes of the service. -/
def contested (r : Registry) (s : Service) (j : Nat) : Registry :=
  { r with
    services := r.services.insert s.key (s.moved j)
    conflictsDue := r.conflictsDue - j
    updateCalls := r.updateCalls + UInt64.ofNat j }

theorem peek?_contested (r : Registry) (s : Service) (j : Nat) (k : Key) :
    (r.contested s j).peek? k = if s.key = k then some (s.moved j) else r.peek? k :=
  getElem?_insert r.services s.key k (s.moved j)

theorem keyed_contested (hr : r.Keyed) (s : Service) (j : Nat) : (r.contested s j).Keyed :=
  keyed_of_put (s := s.moved j) hr (r.peek?_contested s j)

theorem insert_insert (m : Std.ExtTreeMap Key Service) (s s' : Service) (h : s.key = s'.key) :
    (m.insert s.key s).insert s'.key s' = m.insert s'.key s' := by
  ext k : 1
  rw [getElem?_insert, getElem?_insert, getElem?_insert, h]
  split <;> rfl

theorem contested_zero (h : r.peek? s.key = some s) : r.contested s 0 = r := by
  have hsame : r.services.insert s.key (s.moved 0) = r.services := by
    ext k : 1
    rw [getElem?_insert, s.moved_zero]
    split
    · rename_i hk
      rw [← hk]
      exact h.symm
    · rfl
  simp [contested, hsame]

theorem contested_contested (r : Registry) (s : Service) (i j : Nat) :
    (r.contested s i).contested (s.moved i) j = r.contested s (i + j) := by
  have hservices := insert_insert r.services (s.moved i) ((s.moved i).moved j) rfl
  have hcalls : r.updateCalls + UInt64.ofNat i + UInt64.ofNat j = r.updateCalls + UInt64.ofNat (i + j) := by
    rw [UInt64.ofNat_add, UInt64.add_assoc]
  rw [s.moved_moved] at hservices
  simp only [contested, s.moved_moved, hcalls, Nat.sub_sub, Registry.mk.injEq, and_true]
  exact hservices

/-- **A due conflict gets in before a write of the stored version.** -/
theorem update_of_due (hreach : r.unavailable = false) (hdue : r.conflictsDue ≠ 0)
    (hs : r.peek? s.key = some stored) (hv : stored.version = s.version) :
    ∃ f, f.isConflict = true ∧ r.update s = (.error f, r.contested stored 1) := by
  have hs' : r.counted.peek? s.key = some stored := hs
  have hreach' : r.counted.unavailable = false := hreach
  have hdue' : r.counted.conflictsDue ≠ 0 := hdue
  -- the stored version is one ahead of what the write carries
  have hahead : ¬stored.version + 1 = s.version := by
    rw [hv]
    intro h
    simp at h
  refine ⟨.versionConflict s.key.text s.version (stored.version + 1), rfl, ?_⟩
  unfold update
  simp only [hs', hreach', Bool.false_eq_true, if_false, disturbed, if_neg hdue', overwrite, hahead]
  simp only [contested, counted, hreach, Service.moved_one, Service.advanced]
  rfl

/-- A write that follows conflicts leaves what it would have left without them, and is counted with them. -/
theorem written_contested (r : Registry) (s s' : Service) (h : s.key = s'.key) (j : Nat) :
    (r.contested s j).written s' =
      { r with
        services := r.services.insert s'.key s'
        conflictsDue := r.conflictsDue - j
        updateCalls := r.updateCalls + 1 + UInt64.ofNat j } := by
  have hcalls : r.updateCalls + UInt64.ofNat j + 1 = r.updateCalls + 1 + UInt64.ofNat j := by
    rw [UInt64.add_assoc, UInt64.add_comm _ 1, UInt64.add_assoc]
  have hservices := insert_insert r.services (s.moved j) s' h
  simp only [written, contested, counted, hcalls, Registry.mk.injEq, and_true]
  exact hservices

end Registry

namespace Stores

/-- The stores with so many conflicts due. -/
def withConflicts (st : Stores) (k : Nat) : Stores :=
  { st with registry := { st.registry with conflictsDue := k } }

theorem opened_withConflicts (st : Stores) (key : Key) (k : Nat) :
    (st.withConflicts k).opened key =
      { st.opened key with registry := (st.withConflicts k).registry } := by
  have harchive : (st.withConflicts k).archive = st.archive := rfl
  unfold opened
  rw [harchive]
  cases st.archive.peek? key <;> rfl

/-- The stores after so many due conflicts got in before writes of the service. -/
def contested (st : Stores) (s : Service) (j : Nat) : Stores :=
  { st with registry := st.registry.contested s j }

theorem contested_contested (st : Stores) (s : Service) (i j : Nat) :
    (st.contested s i).contested (s.moved i) j = st.contested s (i + j) := by
  rw [contested, contested, contested, Registry.contested_contested]

end Stores

/-! ## What is counted on the way -/

namespace Counters

theorem addAll_append (c : Counters) (nanos : Nat) (os os' : List Occurrence) :
    c.addAll nanos (os ++ os') = (c.addAll nanos os).addAll nanos os' :=
  List.foldl_append

theorem addAll_conflictRetries (nanos : Nat) : ∀ (k : Nat) (c : Counters),
    c.addAll nanos (List.replicate k .conflictRetry) =
      { c with conflictRetries := c.conflictRetries + UInt64.ofNat k }
  | 0, c => by simp [addAll]
  | k + 1, c => by
    rw [List.replicate_succ]
    show (c.add nanos .conflictRetry).addAll nanos _ = _
    rw [addAll_conflictRetries nanos k]
    simp [add, UInt64.ofNat_add, UInt64.add_assoc, UInt64.add_comm]

theorem addAll_retried (c : Counters) (nanos k : Nat) (first last : Occurrence) :
    c.addAll nanos (first :: (List.replicate k .conflictRetry ++ [last])) =
      Counters.add { c.add nanos first with
        conflictRetries := (c.add nanos first).conflictRetries + UInt64.ofNat k } nanos last := by
  show (c.add nanos first).addAll nanos _ = _
  rw [addAll_append, addAll_conflictRetries]
  rfl

end Counters

namespace Task

variable {t : Task}

section

variable {σ : Type} {env : Surroundings σ}

/-- Whether a run that begins at the stage `s₀` gets to a stage, and what it has counted by then. -/
def Tallies (t : Task) (env : Surroundings σ) (s₀ : Stage) (w₀ : σ) (os : List Occurrence) (s : Stage)
    (w : σ) : Prop :=
  ∃ trace, trace.occurrences = os ∧ t.Passes env s₀ w₀ trace s w

theorem tallies_here (t : Task) (env : Surroundings σ) (s : Stage) (w : σ) : t.Tallies env s w [] s w :=
  ⟨[], rfl, .here⟩

theorem tallies_of_advance {s : Stage} {w w' : σ} {p : Progress} (hs : s.result? = none)
    (h : t.advance env w s = (p, w')) : t.Tallies env s w p.trace.occurrences p.stage w' := by
  have hpasses : t.Passes env s w ([] ++ (t.advance env w s).1.trace) (t.advance env w s).1.stage
      (t.advance env w s).2 := .next .here hs
  rw [h] at hpasses
  exact ⟨_, rfl, hpasses⟩

theorem Tallies.trans {s₀ s s' : Stage} {w₀ w w' : σ} {os os' : List Occurrence}
    (h : t.Tallies env s₀ w₀ os s w) (h' : t.Tallies env s w os' s' w') :
    t.Tallies env s₀ w₀ (os ++ os') s' w' := by
  obtain ⟨trace, rfl, hpasses⟩ := h
  obtain ⟨trace', rfl, hpasses'⟩ := h'
  exact ⟨trace ++ trace', Trace.occurrences_append _ _, hpasses.trans hpasses'⟩

/-- **A run ends as what it gets to.** -/
theorem Tallies.run_eq {s : Stage} {w w' : σ} {os : List Occurrence} {result : Except Failure Outcome}
    (h : t.Tallies env s w os (.finished result) w') :
    (t.run env w s).1 = result ∧ (t.run env w s).2.1.occurrences = os ∧ (t.run env w s).2.2 = w' := by
  obtain ⟨trace, rfl, hpasses⟩ := h
  rw [run_of_passes hpasses, run_finished]
  exact ⟨rfl, by rw [List.append_nil], rfl⟩

/-- Nothing is counted on the way to a stage that waits, unless the reconciliation heard of its service. -/
theorem tallies_quiet {s s' : Stage} {w w' : σ} (hs : s.result? = none) (hheard : t.heard env w s = [])
    (hs' : s'.result? = none) (hstage : (t.advance env w s).1.stage = s')
    (hw : (t.advance env w s).2 = w') : t.Tallies env s w [] s' w' := by
  subst hstage hw
  have hbooks := t.booking_advance env w hs
  rw [hheard] at hbooks
  have hnone : (t.advance env w s).1.trace.occurrences = [] := by
    rw [hbooks.occurrences_eq, (Stage.unended_of_waiting hs').2.2.2]
    rfl
  have htallies : t.Tallies env s w (t.advance env w s).1.trace.occurrences
      (t.advance env w s).1.stage (t.advance env w s).2 := tallies_of_advance hs rfl
  rw [hnone] at htallies
  exact htallies

/-- A reconciliation ends as its run does, and has counted its start before. -/
theorem reconcile_of_tallies {w w' : σ} {os : List Occurrence} {result : Except Failure Outcome}
    (hcopy : t.service.binding? = none)
    (h : t.Tallies env .listing w os (.finished result) w') :
    (t.reconcile env w).1 = result ∧ (t.reconcile env w).2.1.occurrences = .started :: os ∧
      (t.reconcile env w).2.2 = w' := by
  have hlisting := stage_start_of_unbound hcopy
  have hstarted : t.start.trace.occurrences = [.started] := by
    simp only [start, hcopy, after]
    rfl
  rw [← hlisting] at h
  obtain ⟨hresult, hcounted, hafter⟩ := h.run_eq
  refine ⟨hresult, ?_, hafter⟩
  show (t.start.trace ++ (t.run env w t.start.stage).2.1).occurrences = _
  rw [Trace.occurrences_append, hstarted, hcounted]
  rfl

end

/-! ## Losing attempts -/

variable {st : Stores} {latest : Service}

/-- What a reconciliation finds that has an address to write. -/
structure Poised (t : Task) (r : Registry) (latest : Service) : Prop where
  keyed : r.Keyed
  reach : r.unavailable = false
  stored : r.peek? t.service.key = some latest
  unbound : latest.binding? = none

namespace Poised

variable {r : Registry}

theorem key (h : t.Poised r latest) : latest.key = t.service.key := h.keyed _ _ h.stored

theorem drafted (h : t.Poised r latest) (id text : String) :
    r.peek? (latest.bind id text).key = some latest := by
  have hkey : (latest.bind id text).key = t.service.key := h.key
  rw [hkey, h.stored]

theorem contested (h : t.Poised r latest) (j : Nat) :
    t.Poised (r.contested latest j) (latest.moved j) := by
  refine ⟨Registry.keyed_contested h.keyed latest j, h.reach, ?_, h.unbound⟩
  rw [Registry.peek?_contested, if_pos h.key]

end Poised

/-- An attempt goes on as its write is answered, and nothing is counted before. -/
theorem tallies_attempt (h : t.Poised st.registry latest) (a : Address) (left : Nat)
    {answer : Except StoreFault Service} {st' : Stores}
    (hupdate : st.update (latest.bind t.settings.allocatorId a.text) = (answer, st')) :
    t.Tallies (Stores.surroundings false) (.checking a left) st
      (t.afterWrite a left answer).trace.occurrences (t.afterWrite a left answer).stage st' := by
  have hget : st.registry.get t.service.key = .ok latest := Registry.get_eq_ok_iff.2 ⟨h.reach, h.stored⟩
  have hread : t.advance (Stores.surroundings false) st (.rereading a left) =
      (⟨.writing a left (latest.bind t.settings.allocatorId a.text),
        [.notice (.updating t.service.key a (t.attempt left))]⟩, st) := by
    show (t.afterReread a left (st.registry.get t.service.key), st) = _
    simp [hget, afterReread, h.unbound]
  have hwrite : t.advance (Stores.surroundings false) st
      (.writing a left (latest.bind t.settings.allocatorId a.text)) =
        (t.afterWrite a left answer, st') := by
    show (t.afterWrite a left (st.update _).1, (st.update _).2) = _
    rw [hupdate]
  have hcheck : t.Tallies (Stores.surroundings false) (.checking a left) st [] (.rereading a left) st :=
    tallies_of_advance rfl rfl
  exact hcheck.trans ((tallies_of_advance rfl hread).trans (tallies_of_advance rfl hwrite))

/-- With no conflict due, the write is accepted. -/
theorem tallies_binding (h : t.Poised st.registry latest) (hcalm : st.registry.conflictsDue = 0) (a : Address)
    (left : Nat) :
    let bound := (latest.bind t.settings.allocatorId a.text).advanced
    t.Tallies (Stores.surroundings false) (.checking a left) st [.bound]
      (.finished (.ok ⟨a.text, true, bound⟩)) { st with registry := st.registry.written bound } := by
  intro bound
  have hupdate : st.update (latest.bind t.settings.allocatorId a.text) =
      (.ok bound, { st with registry := st.registry.written bound }) := by
    rw [Stores.update, Registry.update_of_stored h.keyed h.reach hcalm (h.drafted _ _) rfl]
  exact tallies_attempt h a left hupdate

/-- A due conflict answers the write. -/
theorem exists_conflict_of_due (h : t.Poised st.registry latest) (hdue : st.registry.conflictsDue ≠ 0)
    (id text : String) :
    ∃ f, f.isConflict = true ∧ st.update (latest.bind id text) = (.error f, st.contested latest 1) := by
  obtain ⟨f, hf, hupdate⟩ := Registry.update_of_due h.reach hdue (h.drafted id text) rfl
  refine ⟨f, hf, ?_⟩
  rw [Stores.update, hupdate]
  rfl

/-- **One due conflict costs one attempt.** -/
theorem tallies_conflict (h : t.Poised st.registry latest) (hdue : st.registry.conflictsDue ≠ 0) (a : Address)
    (left : Nat) :
    t.Tallies (Stores.surroundings false) (.checking a (left + 1)) st [.conflictRetry] (.checking a left)
      (st.contested latest 1) := by
  obtain ⟨f, hf, hupdate⟩ := exists_conflict_of_due h hdue t.settings.allocatorId a.text
  have hattempt := tallies_attempt h a (left + 1) hupdate
  simp only [afterWrite, hf, if_true] at hattempt
  have hpause : t.Tallies (Stores.surroundings false) (.pausing a left) (st.contested latest 1) []
      (.sleeping a left) (st.contested latest 1) := tallies_of_advance rfl rfl
  have hsleep : t.Tallies (Stores.surroundings false) (.sleeping a left) (st.contested latest 1) []
      (.checking a left) (st.contested latest 1) := tallies_of_advance rfl rfl
  exact hattempt.trans (hpause.trans hsleep)

/-- The last attempt is lost like any other, and with it the budget. -/
theorem tallies_surrender (h : t.Poised st.registry latest) (hdue : st.registry.conflictsDue ≠ 0)
    (a : Address) :
    let failure := Failure.persistenceFailed t.service.key.text t.limit
    t.Tallies (Stores.surroundings false) (.checking a 0) st [.failure failure]
      (.finished (.error failure)) (st.contested latest 1) := by
  intro failure
  obtain ⟨f, hf, hupdate⟩ := exists_conflict_of_due h hdue t.settings.allocatorId a.text
  have hattempt := tallies_attempt h a 0 hupdate
  simp only [afterWrite, hf, if_true] at hattempt
  exact hattempt

/-- **So many conflicts cost so many attempts**, and what is read next is the version that they left. -/
theorem tallies_conflicts (h : t.Poised st.registry latest) (a : Address) (left : Nat) :
    ∀ j ≤ st.registry.conflictsDue,
      t.Tallies (Stores.surroundings false) (.checking a (left + j)) st (List.replicate j .conflictRetry)
        (.checking a left) (st.contested latest j) := by
  intro j
  induction j generalizing left with
  | zero =>
    intro _
    have hstored : st.registry.peek? latest.key = some latest := by rw [h.key, h.stored]
    rw [Stores.contested, Registry.contested_zero hstored]
    exact t.tallies_here _ _ st
  | succ j ih =>
    intro hj
    have hbefore := ih (left + 1) (Nat.le_of_succ_le hj)
    have hdue : (st.contested latest j).registry.conflictsDue ≠ 0 := by
      show st.registry.conflictsDue - j ≠ 0
      omega
    have hnext := tallies_conflict (h.contested j) hdue a left
    rw [Stores.contested_contested] at hnext
    have hall := hbefore.trans hnext
    rw [← List.replicate_succ', Nat.add_right_comm] at hall
    exact hall

/-- **Conflicts that leave an attempt** move the binding on, and nothing else. -/
theorem tallies_outlasting (st : Stores) (h : t.Poised st.registry latest) (a : Address) {left : Nat}
    (hleft : st.registry.conflictsDue ≤ left) :
    let k := st.registry.conflictsDue
    let bound := (latest.bind t.settings.allocatorId a.text).advanced.moved k
    t.Tallies (Stores.surroundings false) (.checking a left) st
      (List.replicate k .conflictRetry ++ [.bound]) (.finished (.ok ⟨a.text, true, bound⟩))
      { st with registry := { st.registry with
          services := st.registry.services.insert latest.key bound
          conflictsDue := 0
          updateCalls := st.registry.updateCalls + 1 + UInt64.ofNat k } } := by
  intro k bound
  have hlost := tallies_conflicts h a (left - k) k (Nat.le_refl k)
  rw [Nat.sub_add_cancel hleft] at hlost
  have hcalm : (st.contested latest k).registry.conflictsDue = 0 := Nat.sub_self k
  have hbinding := tallies_binding (h.contested k) hcalm a (left - k)
  simp only [Service.bind_moved_advanced] at hbinding
  have hwritten := st.registry.written_contested latest bound rfl k
  rw [Nat.sub_self] at hwritten
  change t.Tallies _ _ _ _ _ { st with registry := (st.registry.contested latest k).written bound } at hbinding
  rw [hwritten] at hbinding
  exact hlost.trans hbinding

/-- **As many conflicts as attempts** use them up. -/
theorem tallies_exhausting (st : Stores) (h : t.Poised st.registry latest) (a : Address) {left : Nat}
    (hleft : left < st.registry.conflictsDue) :
    let failure := Failure.persistenceFailed t.service.key.text t.limit
    t.Tallies (Stores.surroundings false) (.checking a left) st
      (List.replicate left .conflictRetry ++ [.failure failure]) (.finished (.error failure))
      (st.contested latest (left + 1)) := by
  intro failure
  have hlost := tallies_conflicts h a 0 left (Nat.le_of_lt hleft)
  rw [Nat.zero_add] at hlost
  have hdue : (st.contested latest left).registry.conflictsDue ≠ 0 := Nat.sub_ne_zero_of_lt hleft
  have hlast := tallies_surrender (h.contested left) hdue a
  rw [Stores.contested_contested] at hlast
  exact hlost.trans hlast

/-! ## The way to an address -/

/-- Up to the choice of an address nothing is counted. -/
theorem tallies_opening (h : st.Reachable) {a : Address}
    (hallot : (st.document t.settings.document).allot t.service.ns
      (st.registry.claimed t.service.ns t.settings.ownershipSelector) = .ok a) :
    t.Tallies (Stores.surroundings false) .listing st [] (.checking a (t.limit - 1))
      (st.opened t.settings.document) := by
  let claims := st.registry.claimed t.service.ns t.settings.ownershipSelector
  have hlisted : t.Tallies (Stores.surroundings false) .listing st [] (.readingDocument claims) st :=
    tallies_quiet rfl rfl rfl (stage_advance_listing false h) rfl
  have hchosen : (t.choose claims (st.document t.settings.document)).stage =
      .checking a (t.limit - 1) := by
    rw [stage_choose, hallot]
  refine hlisted.trans ?_
  cases hd : st.archive.peek? t.settings.document with
  | some d =>
    obtain ⟨hopened, hdocument⟩ := Stores.opened_of_some hd
    rw [hdocument] at hchosen
    rw [hopened]
    refine tallies_quiet rfl rfl rfl ?_ rfl
    show (t.afterDocument claims (st.archive.get t.settings.document)).stage = _
    rw [Archive.get_of_stored h.archive hd]
    exact hchosen
  | none =>
    obtain ⟨hopened, hdocument⟩ := Stores.opened_of_none hd
    have hcreate : st.createDocument t.settings.document =
        (.ok .empty, st.opened t.settings.document) := by
      rw [Stores.createDocument, Archive.create_of_missing h.archive hd, hopened]
    rw [hdocument] at hchosen
    have hmissing : t.Tallies (Stores.surroundings false) (.readingDocument claims) st []
        (.creatingDocument claims) st := by
      refine tallies_quiet rfl rfl rfl ?_ rfl
      show (t.afterDocument claims (st.archive.get t.settings.document)).stage = _
      rw [Archive.get_of_missing h.archive hd]
      rfl
    refine hmissing.trans (tallies_quiet rfl rfl rfl ?_ ?_)
    · show (t.afterCreation claims (st.createDocument t.settings.document).1).stage = _
      rw [hcreate]
      exact hchosen
    · show (st.createDocument t.settings.document).2 = _
      rw [hcreate]

/-- A reconciliation that ends well has reached both stores. -/
theorem reachable_of_ending {o : Outcome}
    (h : (t.ending (Stores.surroundings false) st .listing).1 = .ok o) : st.Reachable := by
  rw [ending_of_advance t _ _ rfl] at h
  change (t.ending _ st (t.afterList (st.registry.list _ _)).stage).1 = _ at h
  cases hregistry : st.registry.unavailable with
  | true =>
    rw [Registry.list, if_pos hregistry] at h
    change (t.ending _ st (.finished (.error _))).1 = _ at h
    rw [ending_finished] at h
    cases h
  | false =>
    cases harchive : st.archive.unavailable with
    | false => exact ⟨hregistry, harchive⟩
    | true =>
      rw [Registry.list_of_reachable hregistry] at h
      change (t.ending _ st (.readingDocument _)).1 = _ at h
      rw [ending_of_advance t _ _ rfl] at h
      change (t.ending _ st (t.afterDocument _ (st.archive.get _)).stage).1 = _ at h
      rw [Archive.get, if_pos harchive] at h
      change (t.ending _ st (.finished (.error _))).1 = _ at h
      rw [ending_finished] at h
      cases h

/-- A reconciliation that binds its service after it chose an address finds the service stored unbound. -/
theorem poised_of_ending (hr : st.registry.Keyed) (hreach : st.registry.unavailable = false) {a : Address}
    {left : Nat} {o : Outcome}
    (h : (t.ending (Stores.surroundings false) st (.checking a left)).1 = .ok o)
    (hnew : o.newlyBound = true) : ∃ latest, t.Poised st.registry latest := by
  cases hstored : st.registry.peek? t.service.key with
  | none =>
    rw [ending_of_advance t _ _ rfl] at h
    change (t.ending _ st (.rereading a left)).1 = _ at h
    rw [ending_of_advance t _ _ rfl] at h
    change (t.ending _ st (t.afterReread a left (st.registry.get _)).stage).1 = _ at h
    have hget : st.registry.get t.service.key = .error (.notFound .service t.service.key) := by
      simp [Registry.get, hreach, hstored]
    rw [hget] at h
    change (t.ending _ st (.finished (.error _))).1 = _ at h
    rw [ending_finished] at h
    cases h
  | some latest =>
    cases hbinding : latest.binding? with
    | none => exact ⟨latest, hr, hreach, hstored, hbinding⟩
    | some address =>
      rw [ending_checking_of_bound hreach hstored hbinding] at h
      cases h
      cases hnew

/-- What it takes to bind a service: a copy that is unbound, both stores in reach, an address to be had,
and the service stored unbound. -/
structure Ready (t : Task) (st : Stores) (a : Address) (latest : Service) : Prop where
  copy : t.service.binding? = none
  reach : st.Reachable
  allotted : (st.document t.settings.document).allot t.service.ns
    (st.registry.claimed t.service.ns t.settings.ownershipSelector) = .ok a
  poised : t.Poised st.registry latest

/-- **A reconciliation that binds its service found everything ready.** -/
theorem ready_of_newly_bound (hr : st.registry.Keyed) {o : Outcome}
    (h : (t.reconcile (Stores.surroundings false) st).1 = .ok o) (hnew : o.newlyBound = true) :
    ∃ a latest, t.Ready st a latest := by
  have hend : (t.ending (Stores.surroundings false) st t.start.stage).1 = .ok o := h
  rcases t.stage_start with ⟨hlisting, hcopy⟩ | ⟨address, -, hfinished⟩
  · rw [hlisting] at hend
    have hreach := reachable_of_ending hend
    have hopened := st.registry_opened t.settings.document
    rw [ending_listing false hreach] at hend
    cases hallot : (st.document t.settings.document).allot t.service.ns
        (st.registry.claimed t.service.ns t.settings.ownershipSelector) with
    | error f =>
      rw [hallot] at hend
      cases hend
    | ok a =>
      rw [hallot] at hend
      obtain ⟨latest, hpoised⟩ := poised_of_ending (by rw [hopened]; exact hr)
        (by rw [hopened]; exact hreach.registry) hend hnew
      rw [hopened] at hpoised
      exact ⟨a, latest, hcopy, hreach, hallot, hpoised⟩
  · rw [hfinished, ending_finished] at hend
    cases hend
    cases hnew

/-! ## With and without conflicts -/

namespace Ready

variable {a : Address}

/-- Due conflicts are not noticed before the first write. -/
theorem withConflicts (h : t.Ready st a latest) (k : Nat) : t.Ready (st.withConflicts k) a latest :=
  ⟨h.copy, ⟨h.reach.registry, h.reach.archive⟩, h.allotted,
    ⟨h.poised.keyed, h.poised.reach, h.poised.stored, h.poised.unbound⟩⟩

/-- **Fewer conflicts than attempts**: the service is bound. -/
theorem reconcile_of_few (h : t.Ready st a latest) {k : Nat} (hk : k < t.limit) :
    let bound := (latest.bind t.settings.allocatorId a.text).advanced.moved k
    let run := t.reconcile (Stores.surroundings false) (st.withConflicts k)
    run.1 = .ok ⟨a.text, true, bound⟩ ∧
      run.2.1.occurrences = .started :: (List.replicate k .conflictRetry ++ [.bound]) ∧
      run.2.2 = { st.opened t.settings.document with registry := { st.registry with
        services := st.registry.services.insert t.service.key bound
        conflictsDue := 0
        updateCalls := st.registry.updateCalls + 1 + UInt64.ofNat k } } := by
  have hready := h.withConflicts k
  have hopening := tallies_opening hready.reach hready.allotted
  rw [Stores.opened_withConflicts] at hopening
  have hpersists := tallies_outlasting { st.opened t.settings.document with
    registry := (st.withConflicts k).registry } hready.poised a (Nat.le_sub_one_of_lt hk)
  rw [h.poised.key] at hpersists
  exact reconcile_of_tallies h.copy (hopening.trans hpersists)

/-- **As many conflicts as attempts**: the service is left as it was. -/
theorem reconcile_of_many (h : t.Ready st a latest) {k : Nat} (hk : t.limit ≤ k) :
    let n := t.limit
    let failure := Failure.persistenceFailed t.service.key.text n
    let run := t.reconcile (Stores.surroundings false) (st.withConflicts k)
    run.1 = .error failure ∧
      run.2.1.occurrences = .started :: (List.replicate (n - 1) .conflictRetry ++ [.failure failure]) ∧
      run.2.2 = { st.opened t.settings.document with registry := { st.registry with
        services := st.registry.services.insert t.service.key (latest.moved n)
        conflictsDue := k - n
        updateCalls := st.registry.updateCalls + UInt64.ofNat n } } := by
  have hlimit : 1 ≤ t.limit := Nat.le_max_right _ _
  have hready := h.withConflicts k
  have hopening := tallies_opening hready.reach hready.allotted
  rw [Stores.opened_withConflicts] at hopening
  have hpersists := tallies_exhausting { st.opened t.settings.document with
    registry := (st.withConflicts k).registry } hready.poised a (Nat.sub_one_lt_of_le hlimit hk)
  rw [Nat.sub_add_cancel hlimit, Stores.contested, Registry.contested, h.poised.key] at hpersists
  exact reconcile_of_tallies h.copy (hopening.trans hpersists)

end Ready

/-- **A reconciliation outlasts as many conflicts as it has attempts to spare.**  Let it bind its service
when no conflict is due, and let `k` be due instead.  If these are fewer than its attempts, it reports the
same address as newly bound and leaves the same stores, but for a version that is `k` further on and `k`
more writes tried; no conflict is left, and nothing but `k` retries is counted besides.  Otherwise it fails
after all `n` attempts and leaves the service as it was, `n` versions further on; the conflicts that it did
not meet stay due, and every attempt but the last has been counted as a retry. -/
theorem reconcile_outlasts_conflicts (t : Task) {st : Stores} (hr : st.registry.Keyed) {o : Outcome}
    (hbinds : (t.reconcile (Stores.surroundings false) (st.withConflicts 0)).1 = .ok o)
    (hnew : o.newlyBound = true) (k : Nat) :
    let calm := t.reconcile (Stores.surroundings false) (st.withConflicts 0)
    let run := t.reconcile (Stores.surroundings false) (st.withConflicts k)
    let after := calm.2.2.registry
    let n := max t.settings.backoff.attempts 1
    let key := t.service.key
    (k < n →
      run.1 = .ok { o with service := o.service.moved k } ∧
      after.peek? key = some o.service ∧
      run.2.2 = { calm.2.2 with registry := { after with
        services := after.services.insert key (o.service.moved k)
        updateCalls := after.updateCalls + UInt64.ofNat k } } ∧
      run.2.2.registry.conflictsDue = 0 ∧
      ∀ (c : Counters) (nanos : Nat),
        let counted := c.addAll nanos calm.2.1.occurrences
        c.addAll nanos run.2.1.occurrences =
          { counted with conflictRetries := counted.conflictRetries + UInt64.ofNat k }) ∧
    (n ≤ k →
      run.1 = .error (.persistenceFailed key.text n) ∧
      (∃ stored, st.registry.peek? key = some stored ∧
        run.2.2 = { calm.2.2 with registry := { st.registry with
          services := st.registry.services.insert key (stored.moved n)
          conflictsDue := k - n
          updateCalls := st.registry.updateCalls + UInt64.ofNat n } }) ∧
      ∀ (c : Counters) (nanos : Nat),
        c.addAll nanos run.2.1.occurrences =
          { c with
            reconciliations := c.reconciliations + 1
            persistence := c.persistence + 1
            conflictRetries := c.conflictRetries + UInt64.ofNat (n - 1) }) := by
  intro calm run after n key
  have hkeyed : (st.withConflicts 0).registry.Keyed := hr
  obtain ⟨a, latest, hcalm⟩ := ready_of_newly_bound hkeyed hbinds hnew
  -- given back the conflicts that were due in it, the calm stores are the given ones
  have hready : t.Ready st a latest := hcalm.withConflicts st.registry.conflictsDue
  obtain ⟨hresult, hcounted, hafter⟩ := hready.reconcile_of_few
    (Nat.lt_of_lt_of_le Nat.one_pos (Nat.le_max_right _ _))
  rw [Service.moved_zero] at hresult hafter
  rw [show UInt64.ofNat 0 = 0 from rfl, UInt64.add_zero] at hafter
  obtain rfl := Except.ok.inj (hresult.symm.trans hbinds)
  let bound := (latest.bind t.settings.allocatorId a.text).advanced
  have hkey : bound.key = key := hready.poised.key
  refine ⟨fun hk => ?_, fun hk => ?_⟩
  · obtain ⟨hresult', hcounted', hafter'⟩ := hready.reconcile_of_few hk
    have hstored : after.peek? key = some bound := by
      show calm.2.2.registry.services[key]? = _
      rw [hafter]
      exact (Registry.getElem?_insert _ key key bound).trans (if_pos rfl)
    have hservices : (st.registry.services.insert key bound).insert key (bound.moved k) =
        st.registry.services.insert key (bound.moved k) := by
      have htwice := Registry.insert_insert st.registry.services bound (bound.moved k) rfl
      rwa [Service.key_moved, hkey] at htwice
    refine ⟨hresult', hstored, ?_, by rw [hafter'], fun c nanos => ?_⟩
    · show run.2.2 = { calm.2.2 with registry := { calm.2.2.registry with
        services := calm.2.2.registry.services.insert key (bound.moved k)
        updateCalls := calm.2.2.registry.updateCalls + UInt64.ofNat k } }
      rw [hafter, hafter', hservices]
    · rw [hcounted]
      intro counted
      rw [hcounted', Counters.addAll_retried]
      rfl
  · obtain ⟨hresult', hcounted', hafter'⟩ := hready.reconcile_of_many hk
    refine ⟨hresult', ⟨latest, hready.poised.stored, ?_⟩, fun c nanos => ?_⟩
    · rw [hafter, hafter']
      rfl
    · rw [hcounted', Counters.addAll_retried]
      rfl

/-- With three attempts, two conflicts are outlasted and four are not; one of these stays due. -/
theorem reconcile_outlasts_conflicts_of_three_attempts :
    let settings : Settings := { Settings.standard with backoff := .immediate 3 }
    let web : Service := ⟨"default", "web", "", ∅, none, 1, ⟨[]⟩⟩
    let pools : PoolDocument := PoolDocument.empty.insert "cidr-default" "10.0.0.0/29"
    let st : Stores := ⟨Registry.empty.insert web, Archive.empty.put settings.document pools⟩
    let t : Task := ⟨settings, web⟩
    let bound : Service := (web.bind "vip-ipam" "10.0.0.1").advanced
    let run := fun k => t.reconcile (Stores.surroundings false) (st.withConflicts k)
    st.registry.Keyed ∧ (run 0).1 = .ok ⟨"10.0.0.1", true, bound⟩ ∧
      (run 2).1 = .ok ⟨"10.0.0.1", true, bound.moved 2⟩ ∧ (run 2).2.2.registry.conflictsDue = 0 ∧
      (run 4).1 = .error (.persistenceFailed "default/web" 3) ∧
      (run 4).2.2.registry.peek? web.key = some (web.moved 3) ∧
      (run 4).2.2.registry.conflictsDue = 1 := by
  intro settings web pools st t bound run
  have hr : st.registry.Keyed := Registry.keyed_insert Registry.keyed_empty web
  have hbinds : (run 0).1 = .ok ⟨"10.0.0.1", true, bound⟩ := by decide +kernel
  obtain ⟨hresult, -, -, hdue, -⟩ := (t.reconcile_outlasts_conflicts hr hbinds rfl 2).1 (by decide)
  obtain ⟨hresult', ⟨stored, hstored, hafter⟩, -⟩ :=
    (t.reconcile_outlasts_conflicts hr hbinds rfl 4).2 (by decide)
  obtain rfl : web = stored := Option.some.inj ((show _ = some web by decide +kernel).symm.trans hstored)
  refine ⟨hr, hbinds, hresult, hdue, hresult', ?_, congrArg (·.registry.conflictsDue) hafter⟩
  show (run 4).2.2.registry.services[web.key]? = _
  rw [hafter]
  exact (Registry.getElem?_insert _ web.key web.key _).trans (if_pos rfl)

end Task
end Allotment
