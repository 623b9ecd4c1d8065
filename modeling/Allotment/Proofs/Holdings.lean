import Allotment.Proofs.Claims
import Allotment.Proofs.Ownership
import Allotment.Proofs.Registry
/-!
# Holdings

Which stored service holds which address.  A service of a kind, usually the allocator's
own, holds the address that its label is read as; what is claimed in a namespace is what
some service holds there (`mem_claimed_iff`).  A service that is put into the registry
changes its own holdings and nobody else's (`holds_of_put`).
-/
namespace Allotment.Registry

open Text

/-- Whether the service under a key, one of the namespace and of a kind, has the address on its label. -/
def Holds (r : Registry) (kind : Service → Bool) (ns : String) (key : Key) (a : Address) : Prop :=
  ∃ s label, r.peek? key = some s ∧ s.ns = ns ∧ kind s = true ∧ s.address? = some label ∧
    Address.ofChars? .strict (trim label.toList) = some a

/-- What is claimed in a namespace by the services that a selector finds. -/
def claimed (r : Registry) (ns selector : String) : Claims := .ofServices (r.selected ns selector)

theorem holds_iff {r : Registry} {kind : Service → Bool} {ns : String} {key : Key} {a : Address} :
    r.Holds kind ns key a ↔ ∃ s, r.peek? key = some s ∧ s.ns = ns ∧ kind s = true ∧
      Claims.claimOf? s = some a := by
  constructor
  · rintro ⟨s, label, hs, hns, hkind, hlabel, ha⟩
    exact ⟨s, hs, hns, hkind, Claims.claimOf?_eq_some_iff.2 ⟨label, hlabel, ha⟩⟩
  · rintro ⟨s, hs, hns, hkind, hclaim⟩
    obtain ⟨label, hlabel, ha⟩ := Claims.claimOf?_eq_some_iff.1 hclaim
    exact ⟨s, label, hs, hns, hkind, hlabel, ha⟩

/-- **What is claimed is what somebody holds.** -/
theorem mem_claimed_iff {r : Registry} (hr : r.Keyed) {ns selector : String} {a : Address} :
    a ∈ r.claimed ns selector ↔ ∃ key, r.Holds (·.selectedBy selector) ns key a := by
  rw [claimed, Claims.mem_ofServices]
  constructor
  · rintro ⟨s, hs, hclaim⟩
    obtain ⟨hstored, hns, hselected⟩ := (mem_selected hr).1 hs
    exact ⟨s.key, holds_iff.2 ⟨s, hstored, hns, hselected, hclaim⟩⟩
  · rintro ⟨key, hholds⟩
    obtain ⟨s, hstored, hns, hselected, hclaim⟩ := holds_iff.1 hholds
    obtain rfl := hr key s hstored
    exact ⟨s, (mem_selected hr).2 ⟨hstored, hns, hselected⟩, hclaim⟩

theorem holds_congr {r r' : Registry} {key : Key} (h : r'.peek? key = r.peek? key)
    (kind : Service → Bool) (ns : String) (a : Address) :
    r'.Holds kind ns key a ↔ r.Holds kind ns key a := by
  rw [holds_iff, holds_iff, h]

/-- **A service that takes its place in the registry holds there what its label says**; all the others
hold what they held. -/
theorem holds_of_put {r r' : Registry} {key : Key} {s : Service}
    (h : ∀ k, r'.peek? k = if key = k then some s else r.peek? k) (kind : Service → Bool) (ns : String)
    (k : Key) (a : Address) :
    r'.Holds kind ns k a ↔
      key = k ∧ s.ns = ns ∧ kind s = true ∧ Claims.claimOf? s = some a ∨
        key ≠ k ∧ r.Holds kind ns k a := by
  by_cases hk : key = k
  · subst hk
    rw [holds_iff, h, if_pos rfl]
    simp
  · have hsame : r'.peek? k = r.peek? k := by rw [h, if_neg hk]
    simpa [hk] using holds_congr hsame kind ns a

theorem holds_remove (r : Registry) (key : Key) (kind : Service → Bool) (ns : String) (k : Key)
    (a : Address) : (r.remove key).Holds kind ns k a ↔ key ≠ k ∧ r.Holds kind ns k a := by
  by_cases hk : key = k
  · subst hk
    rw [holds_iff, peek?_remove, if_pos rfl]
    simp
  · have hsame : (r.remove key).peek? k = r.peek? k := by rw [peek?_remove, if_neg hk]
    simpa [hk] using holds_congr hsame kind ns a

end Allotment.Registry

namespace Allotment.Settings

open Text

/-- Where the id holds no comma and has no blanks at its ends, the selector finds the allocator's own. -/
theorem selectedBy_eq_isOwnedBy {s : Settings} (h : ',' ∉ s.allocatorId.toList)
    (htrim : trimmed s.allocatorId = s.allocatorId) :
    (fun r : Service => r.selectedBy s.ownershipSelector) = fun r => r.isOwnedBy s.allocatorId := by
  funext r
  rw [selectedBy_ownershipSelector h, htrim]

end Allotment.Settings
