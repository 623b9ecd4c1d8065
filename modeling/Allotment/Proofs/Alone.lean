import Allotment.Proofs.Archive
import Allotment.Proofs.Calls
import Allotment.Proofs.Endings
import Allotment.Proofs.Holdings
import Allotment.Proofs.Verdict
/-!
# A reconciliation alone

What one reconciliation means when nobody else acts, both stores can be reached and the
signal is never raised.  It takes the verdict of the pool document on what the
allocator's own services hold in the namespace, and looks at the service again before it
writes (`ending_listing`, `ending_checking_of_bound`, `ending_checking_of_unbound`).  For
a service that is stored unbound that is all there is to it (`reconcile_follows_verdict`).
-/
namespace Allotment

open Text

namespace Stores

/-- Whether calls reach both stores. -/
structure Reachable (st : Stores) : Prop where
  registry : st.registry.unavailable = false
  archive : st.archive.unavailable = false

/-- The document under a key; a missing one counts as empty. -/
def document (st : Stores) (key : Key) : PoolDocument := (st.archive.peek? key).getD .empty

/-- The stores after the document under a key was asked for: a missing one is created. -/
def opened (st : Stores) (key : Key) : Stores :=
  match st.archive.peek? key with
  | some _ => st
  | none => { st with archive := st.archive.counted.put key .empty }

theorem registry_opened (st : Stores) (key : Key) : (st.opened key).registry = st.registry := by
  unfold opened
  split <;> rfl

theorem opened_of_some {st : Stores} {key : Key} {d : PoolDocument} (h : st.archive.peek? key = some d) :
    st.opened key = st ∧ st.document key = d := by
  simp [opened, document, h]

theorem opened_of_none {st : Stores} {key : Key} (h : st.archive.peek? key = none) :
    st.opened key = { st with archive := st.archive.counted.put key .empty } ∧
      st.document key = .empty := by
  simp [opened, document, h]

end Stores

namespace Task

theorem ending_choose {σ : Type} (t : Task) (env : Surroundings σ) (w : σ) (claims : Claims)
    (d : PoolDocument) :
    t.ending env w (t.choose claims d).stage =
      match d.allot t.service.ns claims with
      | .error f => (.error f, w)
      | .ok a => t.ending env w (.checking a (t.limit - 1)) := by
  rw [stage_choose]
  cases d.allot t.service.ns claims with
  | error f => exact t.ending_finished env w _
  | ok a => rfl

variable {t : Task} {st : Stores}

theorem stage_advance_listing (raised : Bool) (h : st.Reachable) :
    (t.advance (Stores.surroundings raised) st .listing).1.stage =
      .readingDocument (st.registry.claimed t.service.ns t.settings.ownershipSelector) := by
  show (t.afterList (st.registry.list _ _)).stage = _
  rw [Registry.list_of_reachable h.registry]
  rfl

/-- **Up to the choice of an address** the verdict decides, whatever the signal, and nothing is written
but a missing document. -/
theorem ending_listing (raised : Bool) (h : st.Reachable) :
    t.ending (Stores.surroundings raised) st .listing =
      match (st.document t.settings.document).allot t.service.ns
          (st.registry.claimed t.service.ns t.settings.ownershipSelector) with
      | .error f => (.error f, st.opened t.settings.document)
      | .ok a => t.ending (Stores.surroundings raised) (st.opened t.settings.document)
          (.checking a (t.limit - 1)) := by
  rw [ending_of_advance t _ _ rfl, stage_advance_listing raised h, ending_of_advance t _ _ rfl]
  show t.ending _ st (t.afterDocument _ (st.archive.get t.settings.document)).stage = _
  cases hd : st.archive.peek? t.settings.document with
  | some d =>
    obtain ⟨hopened, hdocument⟩ := Stores.opened_of_some hd
    rw [hopened, hdocument, Archive.get_of_stored h.archive hd]
    exact t.ending_choose _ _ _ _
  | none =>
    obtain ⟨hopened, hdocument⟩ := Stores.opened_of_none hd
    have hcreate : st.createDocument t.settings.document =
        (.ok .empty, st.opened t.settings.document) := by
      rw [Stores.createDocument, Archive.create_of_missing h.archive hd, hopened]
    have hmissing : (t.afterDocument (st.registry.claimed t.service.ns t.settings.ownershipSelector)
        (st.archive.get t.settings.document)).stage =
        .creatingDocument (st.registry.claimed t.service.ns t.settings.ownershipSelector) := by
      rw [Archive.get_of_missing h.archive hd]
      rfl
    rw [hmissing, ending_of_advance t _ _ rfl]
    show t.ending _ (st.createDocument t.settings.document).2
      (t.afterCreation (st.registry.claimed t.service.ns t.settings.ownershipSelector)
        (st.createDocument t.settings.document).1).stage = _
    rw [hcreate, hdocument]
    exact t.ending_choose _ _ (st.registry.claimed t.service.ns t.settings.ownershipSelector) .empty

/-- A service that has been bound in the meantime keeps its address, and nothing is written. -/
theorem ending_checking_of_bound (hreach : st.registry.unavailable = false) {latest : Service}
    (hlatest : st.registry.peek? t.service.key = some latest) {address : String}
    (hbound : latest.binding? = some address) (a : Address) (left : Nat) :
    t.ending (Stores.surroundings false) st (.checking a left) =
      (.ok ⟨address, false, latest⟩, st) := by
  have hget : st.registry.get t.service.key = .ok latest := Registry.get_eq_ok_iff.2 ⟨hreach, hlatest⟩
  have hkept : (t.afterReread a left (st.registry.get t.service.key)).stage =
      .finished (.ok ⟨address, false, latest⟩) := by
    simp [hget, afterReread, hbound, after, succeed]
  rw [ending_of_advance t _ _ rfl]
  show t.ending _ st (.rereading a left) = _
  rw [ending_of_advance t _ _ rfl]
  show t.ending _ st (t.afterReread a left (st.registry.get t.service.key)).stage = _
  rw [hkept, ending_finished]

/-- **The first attempt binds a service that is stored unbound.** -/
theorem ending_checking_of_unbound (hr : st.registry.Keyed) (hreach : st.registry.unavailable = false)
    (hcalm : st.registry.conflictsDue = 0) {latest : Service}
    (hlatest : st.registry.peek? t.service.key = some latest) (hunbound : latest.binding? = none)
    (a : Address) (left : Nat) :
    let bound := (latest.bind t.settings.allocatorId a.text).advanced
    t.ending (Stores.surroundings false) st (.checking a left) =
      (.ok ⟨a.text, true, bound⟩, { st with registry := st.registry.written bound }) := by
  intro bound
  have hget : st.registry.get t.service.key = .ok latest := Registry.get_eq_ok_iff.2 ⟨hreach, hlatest⟩
  have hdrafted : (t.afterReread a left (st.registry.get t.service.key)).stage =
      .writing a left (latest.bind t.settings.allocatorId a.text) := by
    simp [hget, afterReread, hunbound]
  have hkey : latest.key = t.service.key := hr _ _ hlatest
  have hdraft : (latest.bind t.settings.allocatorId a.text).key = t.service.key := hkey
  have hstored : st.registry.peek? (latest.bind t.settings.allocatorId a.text).key = some latest := by
    rw [hdraft, hlatest]
  have hupdate : st.registry.update (latest.bind t.settings.allocatorId a.text) =
      (.ok bound, st.registry.written bound) :=
    Registry.update_of_stored hr hreach hcalm hstored rfl
  rw [ending_of_advance t _ _ rfl]
  show t.ending _ st (.rereading a left) = _
  rw [ending_of_advance t _ _ rfl]
  show t.ending _ st (t.afterReread a left (st.registry.get t.service.key)).stage = _
  rw [hdrafted, ending_of_advance t _ _ rfl]
  show t.ending _ (st.update _).2 (t.afterWrite a left (st.update _).1).stage = _
  simp only [Stores.update, hupdate]
  exact t.ending_finished _ _ _

/-- **Alone, a reconciliation of a service that is stored unbound** follows what the document allots. -/
theorem ending_start_of_unbound (hr : st.registry.Keyed) (h : st.Reachable)
    (hcalm : st.registry.conflictsDue = 0) (hcopy : t.service.binding? = none) {latest : Service}
    (hlatest : st.registry.peek? t.service.key = some latest) (hunbound : latest.binding? = none) :
    t.ending (Stores.surroundings false) st t.start.stage =
      match (st.document t.settings.document).allot t.service.ns
          (st.registry.claimed t.service.ns t.settings.ownershipSelector) with
      | .error f => (.error f, st.opened t.settings.document)
      | .ok a =>
        let bound := (latest.bind t.settings.allocatorId a.text).advanced
        (.ok ⟨a.text, true, bound⟩,
          { st.opened t.settings.document with registry := st.registry.written bound }) := by
  have hopened := st.registry_opened t.settings.document
  rw [stage_start_of_unbound hcopy, ending_listing false h]
  cases (st.document t.settings.document).allot t.service.ns
      (st.registry.claimed t.service.ns t.settings.ownershipSelector) with
  | error f => rfl
  | ok a =>
    simp only
    rw [ending_checking_of_unbound (by rw [hopened]; exact hr) (by rw [hopened]; exact h.registry)
      (by rw [hopened]; exact hcalm) (by rw [hopened]; exact hlatest) hunbound, hopened]

/-- **Alone, a reconciliation of a service that has been bound since its copy was read** keeps the
binding, once the document allots an address. -/
theorem ending_start_of_bound (h : st.Reachable) (hcopy : t.service.binding? = none) {latest : Service}
    (hlatest : st.registry.peek? t.service.key = some latest) {address : String}
    (hbound : latest.binding? = some address) :
    t.ending (Stores.surroundings false) st t.start.stage =
      match (st.document t.settings.document).allot t.service.ns
          (st.registry.claimed t.service.ns t.settings.ownershipSelector) with
      | .error f => (.error f, st.opened t.settings.document)
      | .ok _ => (.ok ⟨address, false, latest⟩, st.opened t.settings.document) := by
  have hopened := st.registry_opened t.settings.document
  rw [stage_start_of_unbound hcopy, ending_listing false h]
  cases (st.document t.settings.document).allot t.service.ns
      (st.registry.claimed t.service.ns t.settings.ownershipSelector) with
  | error f => rfl
  | ok a =>
    exact ending_checking_of_bound (by rw [hopened]; exact h.registry) (by rw [hopened]; exact hlatest)
      hbound a _

/-! ## What one reconciliation means -/

section

variable {settings : Settings} (hcomma : ',' ∉ settings.allocatorId.toList)
  (htrim : trimmed settings.allocatorId = settings.allocatorId)

include hcomma htrim

/-- What is claimed by the ownership selector is what the allocator's own services hold. -/
theorem mem_claimed_eq_holds {r : Registry} (hr : r.Keyed) (ns : String) :
    (fun a => a ∈ r.claimed ns settings.ownershipSelector) =
      fun a => ∃ key, r.Holds (·.isOwnedBy settings.allocatorId) ns key a := by
  funext a
  rw [Registry.mem_claimed_iff hr, Settings.selectedBy_eq_isOwnedBy hcomma htrim]

/-- **What one reconciliation means.**  It follows the verdict of the pool document on what the
allocator's own services hold in the namespace: it fails as the verdict says and leaves the registry as
it was, or it binds the service to the lowest vacancy.  That changes two labels, the assigned address
and the version of this service and nothing else.  A missing document is created empty. -/
theorem reconcile_follows_verdict {st : Stores} (hr : st.registry.Keyed) (hreach : st.Reachable)
    (hcalm : st.registry.conflictsDue = 0) {r : Service} (hstored : st.registry.peek? r.key = some r)
    (hunbound : r.isBound = false) :
    let held : Address → Prop := fun a =>
      ∃ key, st.registry.Holds (·.isOwnedBy settings.allocatorId) r.ns key a
    let d := st.document settings.document
    let run := Task.reconcile ⟨settings, r⟩ (Stores.surroundings false) st
    (∃ v, d.Verdict r.ns held v) ∧
    run.2.2.archive = (st.opened settings.document).archive ∧
    ∀ v, d.Verdict r.ns held v →
      match v with
      | .error f => run.1 = .error f ∧ run.2.2.registry = st.registry
      | .ok a =>
        let bound : Service := { r with
          labels := (r.labels.insert "implementation" settings.allocatorId).insert "ipam-address" a.text
          assigned := some a.text
          version := r.version + 1 }
        run.1 = .ok ⟨a.text, true, bound⟩ ∧
          run.2.2.registry = { st.registry with
            services := st.registry.services.insert r.key bound
            updateCalls := st.registry.updateCalls + 1 } := by
  intro held d run
  have hclaims : held = fun a => a ∈ st.registry.claimed r.ns settings.ownershipSelector :=
    (mem_claimed_eq_holds hcomma htrim hr r.ns).symm
  have hbinding := Service.binding?_eq_none_iff.2 hunbound
  have hend := ending_start_of_unbound (t := ⟨settings, r⟩) hr hreach hcalm hbinding hstored hbinding
  rw [ending_start] at hend
  change (run.1, run.2.2) = _ at hend
  have hregistry : (st.opened settings.document).registry = st.registry :=
    st.registry_opened settings.document
  rw [hclaims]
  refine ⟨⟨_, d.verdict_allot r.ns _⟩, ?_⟩
  simp only [← PoolDocument.allot_eq_iff]
  have hdocument : st.document settings.document = d := rfl
  rw [hdocument] at hend
  cases hv : d.allot r.ns (st.registry.claimed r.ns settings.ownershipSelector) with
  | error f =>
    simp only [hv, Prod.mk.injEq] at hend
    obtain ⟨hresult, hafter⟩ := hend
    refine ⟨by rw [hafter], ?_⟩
    rintro _ rfl
    exact ⟨hresult, by rw [hafter, hregistry]⟩
  | ok a =>
    simp only [hv, Prod.mk.injEq] at hend
    obtain ⟨hresult, hafter⟩ := hend
    refine ⟨by rw [hafter], ?_⟩
    rintro _ rfl
    exact ⟨hresult, by rw [hafter]; rfl⟩

end

/-- One service holds the first address of the pool, so the other one gets the second. -/
theorem reconcile_follows_verdict_beside_holder :
    let db : Service :=
      ⟨"default", "db", "", .ofList [("implementation", "vip-ipam"), ("ipam-address", "10.0.0.1")],
        some "10.0.0.1", 1, ⟨[]⟩⟩
    let web : Service := ⟨"default", "web", "", ∅, none, 1, ⟨[]⟩⟩
    let pools : PoolDocument := PoolDocument.empty.insert "cidr-default" "10.0.0.0/29"
    let st : Stores := ⟨(Registry.empty.insert db).insert web,
      Archive.empty.put Settings.standard.document pools⟩
    let run := Task.reconcile ⟨Settings.standard, web⟩ (Stores.surroundings false) st
    (st.document Settings.standard.document).Verdict web.ns (fun a =>
        ∃ key, st.registry.Holds (·.isOwnedBy Settings.standard.allocatorId) web.ns key a)
      (.ok (Family.v4.address 0x0a000002)) ∧
    run.1 = .ok ⟨"10.0.0.2", true, (web.bind "vip-ipam" "10.0.0.2").advanced⟩ := by
  intro db web pools st run
  have hr : st.registry.Keyed :=
    Registry.keyed_insert (Registry.keyed_insert Registry.keyed_empty db) web
  have hcomma : ',' ∉ Settings.standard.allocatorId.toList := by decide +kernel
  have htrim : trimmed Settings.standard.allocatorId = Settings.standard.allocatorId := by
    decide +kernel
  have hallot : (st.document Settings.standard.document).allot web.ns
      (st.registry.claimed web.ns Settings.standard.ownershipSelector) =
        .ok (Family.v4.address 0x0a000002) := by
    decide +kernel
  have hverdict := PoolDocument.allot_eq_iff.1 hallot
  rw [mem_claimed_eq_holds hcomma htrim hr] at hverdict
  obtain ⟨-, -, hfollows⟩ := reconcile_follows_verdict hcomma htrim hr ⟨rfl, rfl⟩ rfl
    (show st.registry.peek? web.key = some web by decide +kernel) (by decide +kernel)
  have htext : (Family.v4.address 0x0a000002).text = "10.0.0.2" := by decide +kernel
  obtain ⟨hresult, -⟩ := hfollows _ hverdict
  rw [htext] at hresult
  exact ⟨hverdict, hresult⟩

end Task

end Allotment
