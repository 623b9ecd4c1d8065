import Allotment.Proofs.Claims
import Allotment.Proofs.Growth
import Allotment.Store
/-!
# One call of a reconciliation

Where a reconciliation can get to with one answer of the stores (`Task.Leads`), whether
the call reaches them or not, and what the call does to the registry: only the write of a
draft that reaches the store changes it (`Task.registry_advance`).
-/
namespace Allotment

namespace Stores

/-- Surroundings in which every call of a store fails before it reaches one. -/
def refusing (f : StoreFault) (raised : Bool) : Surroundings Stores where
  list st _ _ := (.error f, st)
  getDocument st _ := (.error f, st)
  createDocument st _ := (.error f, st)
  get st _ := (.error f, st)
  update st _ := (.error f, st)
  signal st := (raised, st)
  sleep st _ := (raised, st)

/-- The stores as a single call finds them. -/
def troubled (fault? : Option StoreFault) (raised : Bool) : Surroundings Stores :=
  match fault? with
  | none => surroundings raised
  | some f => refusing f raised

end Stores

namespace Task

/-- Where one answer can lead, given what is stored.  An address that is chosen is not among the claims;
a draft is made from a service that is stored unbound. -/
inductive Leads (t : Task) (fault? : Option StoreFault) (r : Registry) : Stage → Stage → Prop where
  | failed {s : Stage} {f : Failure} : s.result? = none → Leads t fault? r s (.finished (.error f))
  | stayed {result : Except Failure Outcome} : Leads t fault? r (.finished result) (.finished result)
  | listed {ss : List Service} : r.list t.service.ns t.settings.ownershipSelector = .ok ss →
      Leads t fault? r .listing (.readingDocument (.ofServices ss))
  | missing {claims : Claims} : Leads t fault? r (.readingDocument claims) (.creatingDocument claims)
  | chosen {claims : Claims} {a : Address} {left : Nat} : a ∉ claims →
      Leads t fault? r (.readingDocument claims) (.checking a left)
  | chosenAnew {claims : Claims} {a : Address} {left : Nat} : a ∉ claims →
      Leads t fault? r (.creatingDocument claims) (.checking a left)
  | cleared {a : Address} {left : Nat} : Leads t fault? r (.checking a left) (.rereading a left)
  | kept {a : Address} {left : Nat} {latest : Service} {address : String} :
      r.get t.service.key = .ok latest → latest.binding? = some address →
      Leads t fault? r (.rereading a left) (.finished (.ok ⟨address, false, latest⟩))
  | drafted {a : Address} {left : Nat} {latest : Service} :
      r.get t.service.key = .ok latest → latest.binding? = none →
      Leads t fault? r (.rereading a left)
        (.writing a left (latest.bind t.settings.allocatorId a.text))
  | accepted {a : Address} {left : Nat} {draft stored : Service} :
      fault? = none → (r.update draft).1 = .ok stored →
      Leads t fault? r (.writing a left draft) (.finished (.ok ⟨a.text, true, stored⟩))
  | conflicted {a : Address} {left : Nat} {draft : Service} :
      Leads t fault? r (.writing a (left + 1) draft) (.pausing a left)
  | rested {a : Address} {left : Nat} : Leads t fault? r (.pausing a left) (.sleeping a left)
  | woken {a : Address} {left : Nat} : Leads t fault? r (.sleeping a left) (.checking a left)

/-- Choosing an address ends in failure or with one that is not claimed. -/
theorem choose_cases (t : Task) (claims : Claims) (d : PoolDocument) :
    (∃ f, (t.choose claims d).stage = .finished (.error f)) ∨
      ∃ a left, (t.choose claims d).stage = .checking a left ∧ a ∉ claims := by
  unfold choose after
  simp only
  split
  · exact .inl ⟨_, rfl⟩
  · split
    · exact .inl ⟨_, rfl⟩
    · rename_i ha
      exact .inr ⟨_, _, rfl, NamedPool.not_mem_of_allocate ha⟩

variable {fault? : Option StoreFault} {r : Registry}

theorem leads_afterDocument (t : Task) (claims : Claims) (answer : Except StoreFault PoolDocument) :
    t.Leads fault? r (.readingDocument claims) (t.afterDocument claims answer).stage := by
  unfold afterDocument
  split
  · rename_i d
    rcases t.choose_cases claims d with ⟨f, hf⟩ | ⟨a, left, ha, hfree⟩
    · rw [hf]
      exact .failed rfl
    · rw [ha]
      exact .chosen hfree
  · split
    · exact .missing
    · exact .failed rfl

theorem leads_afterCreation (t : Task) (claims : Claims) (answer : Except StoreFault PoolDocument) :
    t.Leads fault? r (.creatingDocument claims) (t.afterCreation claims answer).stage := by
  unfold afterCreation
  split
  · rename_i d
    rcases t.choose_cases claims d with ⟨f, hf⟩ | ⟨a, left, ha, hfree⟩
    · rw [hf]
      exact .failed rfl
    · rw [ha]
      exact .chosenAnew hfree
  · exact .failed rfl

theorem leads_afterReread (t : Task) (a : Address) (left : Nat) {answer : Except StoreFault Service}
    (h : ∀ s, answer = .ok s → r.get t.service.key = .ok s) :
    t.Leads fault? r (.rereading a left) (t.afterReread a left answer).stage := by
  unfold afterReread
  split
  · exact .failed rfl
  · rename_i latest
    split
    · rename_i hbound
      exact .kept (h latest rfl) hbound
    · rename_i hunbound
      exact .drafted (h latest rfl) hunbound

theorem leads_afterWrite (t : Task) (a : Address) (left : Nat) (draft : Service)
    {answer : Except StoreFault Service}
    (h : ∀ s, answer = .ok s → fault? = none ∧ (r.update draft).1 = .ok s) :
    t.Leads fault? r (.writing a left draft) (t.afterWrite a left answer).stage := by
  unfold afterWrite
  split
  · rename_i stored
    exact .accepted (h stored rfl).1 (h stored rfl).2
  · split
    · cases left with
      | zero => exact .failed rfl
      | succ left => exact .conflicted
    · exact .failed rfl

/-- **Every call leads on as `Leads` says.** -/
theorem leads_advance (t : Task) (fault? : Option StoreFault) (raised : Bool) (st : Stores) (s : Stage) :
    t.Leads fault? st.registry s (t.advance (Stores.troubled fault? raised) st s).1.stage := by
  cases s with
  | listing =>
    cases fault? with
    | some f => exact .failed rfl
    | none =>
      show t.Leads none st.registry .listing
        (t.afterList (st.registry.list t.service.ns t.settings.ownershipSelector)).stage
      cases hl : st.registry.list t.service.ns t.settings.ownershipSelector with
      | error f => exact .failed rfl
      | ok ss => exact .listed hl
  | readingDocument claims => cases fault? <;> exact t.leads_afterDocument claims _
  | creatingDocument claims => cases fault? <;> exact t.leads_afterCreation claims _
  | checking a left =>
    have hcheck : t.Leads fault? st.registry (.checking a left) (t.afterCheck a left raised).stage := by
      unfold afterCheck
      split
      · exact .failed rfl
      · exact .cleared
    cases fault? <;> exact hcheck
  | rereading a left =>
    cases fault? with
    | some f => exact t.leads_afterReread a left fun s hs => by cases hs
    | none => exact t.leads_afterReread a left fun s hs => hs
  | writing a left draft =>
    cases fault? with
    | some f => exact t.leads_afterWrite a left draft fun s hs => by cases hs
    | none => exact t.leads_afterWrite a left draft fun s hs => ⟨rfl, hs⟩
  | pausing a left =>
    have hpause : t.Leads fault? st.registry (.pausing a left) (t.afterPause a left raised).stage := by
      unfold afterPause
      split
      · exact .failed rfl
      · exact .rested
    cases fault? <;> exact hpause
  | sleeping a left =>
    have hsleep : t.Leads fault? st.registry (.sleeping a left) (t.afterSleep a left raised).stage := by
      unfold afterSleep
      split
      · exact .failed rfl
      · exact .woken
    cases fault? <;> exact hsleep
  | finished result => exact .stayed

theorem stage_of_leads_finished {t : Task} {result : Except Failure Outcome} {s : Stage}
    (h : t.Leads fault? r (.finished result) s) : s = .finished result := by
  cases h with
  | failed hgoes => cases hgoes
  | stayed => rfl

/-- A draft is made from the service that is stored, if that is unbound. -/
theorem drafted_of_leads {t : Task} {s : Stage} {a : Address} {left : Nat} {draft : Service}
    (h : t.Leads fault? r s (.writing a left draft)) :
    ∃ latest, r.get t.service.key = .ok latest ∧ latest.binding? = none ∧
      draft = latest.bind t.settings.allocatorId a.text := by
  cases h with
  | drafted hget hunbound => exact ⟨_, hget, hunbound, rfl⟩

/-- A reconciliation ends well in two ways: it finds the service bound, or its draft is accepted. -/
theorem ended_of_leads {t : Task} {s : Stage} {o : Outcome} (h : t.Leads fault? r s (.finished (.ok o))) :
    s = .finished (.ok o) ∨
      (o.newlyBound = false ∧ r.get t.service.key = .ok o.service ∧
        o.service.binding? = some o.address) ∨
      ∃ a left draft, s = .writing a left draft ∧ fault? = none ∧
        (r.update draft).1 = .ok o.service ∧ o.address = a.text ∧ o.newlyBound = true := by
  cases h with
  | stayed => exact .inl rfl
  | kept hget hbound => exact .inr (.inl ⟨rfl, hget, hbound⟩)
  | accepted hfault hupdate => exact .inr (.inr ⟨_, _, _, rfl, hfault, hupdate, rfl, rfl⟩)

/-- **Only a write changes the registry**, and only if it reaches the store. -/
theorem registry_advance (t : Task) (fault? : Option StoreFault) (raised : Bool) (st : Stores)
    (s : Stage) :
    (t.advance (Stores.troubled fault? raised) st s).2.registry = st.registry ∨
      ∃ a left draft, s = .writing a left draft ∧
        (t.advance (Stores.troubled fault? raised) st s).2.registry = (st.registry.update draft).2 := by
  cases s with
  | writing a left draft =>
    cases fault? with
    | some f => exact .inl rfl
    | none => exact .inr ⟨a, left, draft, rfl, rfl⟩
  | _ => cases fault? <;> exact .inl rfl

theorem stage_advance_of_accepted (t : Task) (raised : Bool) {st : Stores} {a : Address} {left : Nat}
    {draft stored : Service} (h : (st.registry.update draft).1 = .ok stored) :
    (t.advance (Stores.troubled none raised) st (.writing a left draft)).1.stage =
      .finished (.ok ⟨a.text, true, stored⟩) := by
  show (t.afterWrite a left (st.registry.update draft).1).stage = _
  rw [h]
  rfl

/-- At the beginning there is either everything to do or nothing. -/
theorem stage_start (t : Task) :
    t.start.stage = .listing ∧ t.service.binding? = none ∨
      ∃ address, t.service.binding? = some address ∧
        t.start.stage = .finished (.ok ⟨address, false, t.service⟩) := by
  unfold start after
  cases t.service.binding? with
  | none => exact .inl ⟨rfl, rfl⟩
  | some address => exact .inr ⟨address, rfl, rfl⟩

theorem stage_start_ne_writing (t : Task) (a : Address) (left : Nat) (draft : Service) :
    t.start.stage ≠ .writing a left draft := by
  rcases t.stage_start with ⟨hlisting, -⟩ | ⟨address, -, hfinished⟩
  · rw [hlisting]
    exact nofun
  · rw [hfinished]
    exact nofun

theorem stage_start_of_unbound {t : Task} (h : t.service.binding? = none) : t.start.stage = .listing := by
  rcases t.stage_start with ⟨hlisting, -⟩ | ⟨address, hbound, -⟩
  · exact hlisting
  · rw [h] at hbound
    cases hbound

theorem stage_start_of_bound {t : Task} {address : String} (h : t.service.binding? = some address) :
    t.start.stage = .finished (.ok ⟨address, false, t.service⟩) := by
  rcases t.stage_start with ⟨-, hunbound⟩ | ⟨address', hbound, hfinished⟩
  · rw [h] at hunbound
    cases hunbound
  · obtain rfl : address = address' := Option.some.inj (h.symm.trans hbound)
    exact hfinished

/-- What has just begun and is over found its copy bound. -/
theorem binding?_of_start {t : Task} {o : Outcome} (h : t.start.stage = .finished (.ok o)) :
    o.newlyBound = false ∧ t.service.binding? = some o.address := by
  rcases t.stage_start with ⟨hlisting, -⟩ | ⟨address, hbinding, hended⟩
  · rw [hlisting] at h
    cases h
  · rw [hended] at h
    cases h
    exact ⟨rfl, hbinding⟩

end Task
end Allotment
