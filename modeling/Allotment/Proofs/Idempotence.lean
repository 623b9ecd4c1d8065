import Allotment.Proofs.Company
import Allotment.Proofs.Phases
import Allotment.Rehearsal.Action
/-!
# Idempotence

A reconciliation that ended well hands out a service that needs no other one.  However it
ended well, the service it reports is bound to the reported address (`Stage.Binding`), and
a service that is bound is all that a later reconciliation looks at.
-/
namespace Allotment

namespace Registry

theorem eq_advanced_of_update {r : Registry} {s stored : Service} (h : (r.update s).1 = .ok stored) :
    stored = s.advanced := by
  unfold update at h
  simp only at h
  split at h
  · cases h
  · split at h
    · cases h
    · unfold overwrite at h
      split at h
      · exact (Except.ok.inj h).symm
      · cases h

end Registry

/-- Whether what is to be written, or has been reported, is bound to the address that goes with it. -/
def Stage.Binding : Stage → Prop
  | .writing a _ draft => draft.binding? = some a.text
  | .finished (.ok o) => o.service.binding? = some o.address
  | _ => True

namespace Task

variable {t : Task}

theorem binding_start : t.start.stage.Binding := by
  rcases t.stage_start with ⟨hlisting, -⟩ | ⟨address, hbound, hfinished⟩
  · rw [hlisting]
    trivial
  · rw [hfinished]
    exact hbound

/-- **Every answer keeps up the binding**, whatever is stored. -/
theorem binding_advance (fault? : Option StoreFault) (raised : Bool) (st : Stores) {s : Stage}
    (h : s.Binding) : (t.advance (Stores.troubled fault? raised) st s).1.stage.Binding := by
  have hleads := t.leads_advance fault? raised st s
  generalize (t.advance (Stores.troubled fault? raised) st s).1.stage = s' at hleads ⊢
  cases hleads with
  | kept _ hbound => exact hbound
  | drafted _ _ => exact Service.binding?_bind _ _ _
  | accepted _ hupdate =>
    obtain rfl := Registry.eq_advanced_of_update hupdate
    exact h
  | stayed => exact h
  | _ => trivial

/-- **A service that is bound is left alone**: no call is made, and it is reported as it is. -/
theorem reconcile_of_bound {σ : Type} {address : String} (h : t.service.binding? = some address)
    (env : Surroundings σ) (w : σ) :
    (t.reconcile env w).1 = .ok ⟨address, false, t.service⟩ ∧ (t.reconcile env w).2.2 = w := by
  have hend := t.ending_start env w
  rw [stage_start_of_bound h, ending_finished, Prod.mk.injEq] at hend
  exact ⟨hend.1.symm, hend.2.symm⟩

/-- **Reconciliation is idempotent.**  When a reconciliation has ended well, in whatever company, its
service is bound to the address that it reports.  Reconciling that service again, in any surroundings
whatever, reports the same address and the same service and binds nothing; no answer is waited for and
nothing is changed.  Who asks for the service's load balancer gets its status. -/
theorem reconcile_idempotent (t : Task) (c : Company) (st : Stores) {o : Outcome}
    (h : (t.reconcile c.surroundings (.start st)).1 = .ok o) :
    (o.service.isBound = true ∧ o.service.assigned = some o.address) ∧
    ∀ (σ : Type) (env : Surroundings σ) (w : σ),
      let again : Task := ⟨t.settings, o.service⟩
      let run := again.reconcile env w
      run.1 = .ok ⟨o.address, false, o.service⟩ ∧ run.2.2 = w ∧
      (∀ trace s v, again.Passes env again.start.stage w trace s v →
        (∃ result, s = .finished result) ∧ v = w) ∧
      ∀ cluster, Rehearsal.Reply.ofResult (.ensure cluster) run.1 = .status o.service.status := by
  have hbinding : (Stage.finished (t.reconcile c.surroundings (.start st)).1).Binding :=
    t.company_keeps c (P := fun s _ => s.Binding) (fun _ _ _ hP => hP)
      (fun _ st fault? raised _ hP => binding_advance fault? raised st hP) binding_start
  rw [h] at hbinding
  have hbound : o.service.isBound = true ∧ o.service.assigned = some o.address :=
    Service.binding?_eq_some_iff.1 hbinding
  refine ⟨hbound, ?_⟩
  intro σ env w again run
  obtain ⟨hresult, hafter⟩ := reconcile_of_bound (t := again) hbinding env w
  refine ⟨hresult, hafter, fun trace s v hpasses => again.passes_of_bound hbound.1 hpasses, ?_⟩
  intro cluster
  rw [show run.1 = .ok ⟨o.address, false, o.service⟩ from hresult]
  rfl

/-- Somebody else binds the service before it is read again; afterwards nothing is stored any more and
every call is refused. -/
theorem reconcile_idempotent_past_rival :
    let web : Service := ⟨"default", "web", "", ∅, none, 1, ⟨[⟨"192.0.2.7", none⟩]⟩⟩
    let rival : Service := web.bind "vip-ipam" "10.0.0.6"
    let pools : PoolDocument := PoolDocument.empty.insert "cidr-default" "10.0.0.0/29"
    let st : Stores := ⟨Registry.empty.insert web, Archive.empty.put Settings.standard.document pools⟩
    let c : Company := { Company.nobody false with
      deed := fun n st => if n = 3 then { st with registry := st.registry.insert rival } else st }
    let again : Task := ⟨Settings.standard, rival.advanced⟩
    let run := again.reconcile (Stores.refusing Registry.outage true) .empty
    (Task.reconcile ⟨Settings.standard, web⟩ c.surroundings (.start st)).1 =
      .ok ⟨"10.0.0.6", false, rival.advanced⟩ ∧
    run.1 = .ok ⟨"10.0.0.6", false, rival.advanced⟩ ∧ run.2.2 = .empty ∧
    Rehearsal.Reply.ofResult (.ensure "main") run.1 = .status ⟨[⟨"192.0.2.7", none⟩]⟩ := by
  intro web rival pools st c again run
  have hended : (Task.reconcile ⟨Settings.standard, web⟩ c.surroundings (.start st)).1 =
      .ok ⟨"10.0.0.6", false, rival.advanced⟩ := by decide +kernel
  obtain ⟨-, hagain⟩ := reconcile_idempotent ⟨Settings.standard, web⟩ c st hended
  obtain ⟨hresult, hafter, -, hreply⟩ := hagain Stores (Stores.refusing Registry.outage true) .empty
  exact ⟨hended, hresult, hafter, hreply "main"⟩

end Task
end Allotment
