import Allotment.Proofs.Text
import Allotment.Service.Selector
import Allotment.Settings
/-!
# The ownership selector

An allocator finds its own services by a selector that is made from its id, and marks
them by a label that holds the same id.  The label keeps the id as it is; the reader of
selectors trims it.  So the selector finds the services of the trimmed id
(`selectedBy_ownershipSelector`), which are the allocator's own exactly if its id has no
blanks at its ends (`selectedBy_iff_isOwnedBy`).  The settings refuse an id with a
separator in it but let one with blanks around it pass.
-/
namespace Allotment

open Text

namespace Service

/-! ## The labels of a bound service -/

theorem address?_bind (s : Service) (id address : String) :
    (s.bind id address).address? = some address := by
  simp [bind, address?]

theorem owner_bind (s : Service) (id address : String) :
    (s.bind id address).labels[ownerLabel]? = some id := by
  have hne : compare addressLabel ownerLabel ≠ .eq := by
    rw [ne_eq, Std.LawfulEqCmp.compare_eq_iff_eq]
    decide
  rw [bind, Std.ExtTreeMap.getElem?_insert, if_neg hne, Std.ExtTreeMap.getElem?_insert_self]

theorem isOwnedBy_iff {s : Service} {id : String} :
    s.isOwnedBy id = true ↔ s.labels[ownerLabel]? = some id := by
  simp [isOwnedBy]

theorem isOwnedBy_bind (s : Service) (id address : String) :
    (s.bind id address).isOwnedBy id = true :=
  isOwnedBy_iff.2 (owner_bind s id address)

/-- No service has two owners. -/
theorem isOwnedBy_inj {s : Service} {id id' : String} (h : s.isOwnedBy id = true)
    (h' : s.isOwnedBy id' = true) : id = id' := by
  rw [isOwnedBy_iff] at h h'
  exact Option.some.inj (h.symm.trans h')

end Service

namespace Settings

/-- Settings that are accepted have no separator of selectors in the id. -/
theorem comma_not_mem_of_accepted {s : Settings} (h : s.fault? = none) :
    ',' ∉ s.allocatorId.toList := by
  intro hmem
  have hsep : (s.allocatorId.toList.any fun c => c == '=' || c == ',') = true :=
    List.any_eq_true.2 ⟨',', hmem, rfl⟩
  unfold fault? at h
  rw [hsep] at h
  split at h
  · cases h
  · simp at h

/-- The ownership selector as one term: the owner's label and the id without the blanks at its end,
which is what is left when the term is trimmed. -/
theorem toList_ownershipSelector (s : Settings) :
    trim s.ownershipSelector.toList =
      Service.ownerLabel.toList ++ '=' :: trimEnd s.allocatorId.toList := by
  have hfront : s.ownershipSelector.toList =
      (Service.ownerLabel.toList ++ ['=']) ++ s.allocatorId.toList := by
    simp [ownershipSelector, String.toList_append]
  have hstart : trimStart ((Service.ownerLabel.toList ++ ['=']) ++ s.allocatorId.toList) =
      (Service.ownerLabel.toList ++ ['=']) ++ s.allocatorId.toList :=
    trimStart_of_not_blank (by decide)
  rw [hfront, trim, hstart, trimEnd_append (by simp) (by simp; decide), List.append_assoc]
  rfl

/-- The selector asks for one label: the owner's, at the trimmed id. -/
theorem ofText_ownershipSelector {s : Settings} (h : ',' ∉ s.allocatorId.toList) :
    Selector.ofText s.ownershipSelector = [.equals Service.ownerLabel (trimmed s.allocatorId)] := by
  have hcomma : ',' ∉ s.ownershipSelector.toList := by
    simp only [ownershipSelector, String.toList_append, List.mem_append, not_or]
    exact ⟨⟨by decide, by decide⟩, h⟩
  have hterm : SelectorTerm.ofChars (trim s.ownershipSelector.toList) =
      .equals Service.ownerLabel (trimmed s.allocatorId) := by
    rw [toList_ownershipSelector, SelectorTerm.ofChars, cut?_append (by decide)]
    simp only [trim_trimEnd]
    congr 1
  have hfull : (trim s.ownershipSelector.toList).isEmpty = false := by
    rw [toList_ownershipSelector]
    rfl
  rw [Selector.ofText, pieces_of_not_mem hcomma, List.map_singleton]
  simp [hfull, hterm]

/-- **The ownership selector finds the services of the trimmed id**, if no comma cuts the id apart. -/
theorem selectedBy_ownershipSelector {s : Settings} (h : ',' ∉ s.allocatorId.toList) (r : Service) :
    r.selectedBy s.ownershipSelector = r.isOwnedBy (trimmed s.allocatorId) := by
  rw [Service.selectedBy, ofText_ownershipSelector h]
  simp [Selector.holds, SelectorTerm.holds, Service.isOwnedBy]

/-- **The selector finds exactly the allocator's own services if and only if the id has no blanks at its
ends**, and then alone does it find whatever the allocator binds.  In any case it finds the services that
are owned under the trimmed id. -/
theorem selectedBy_iff_isOwnedBy {s : Settings} (h : s.fault? = none) :
    ((∀ r : Service, r.selectedBy s.ownershipSelector = true ↔ r.isOwnedBy s.allocatorId = true) ↔
      trimmed s.allocatorId = s.allocatorId) ∧
    ((∀ (r : Service) (address : String),
        (r.bind s.allocatorId address).selectedBy s.ownershipSelector = true) ↔
      trimmed s.allocatorId = s.allocatorId) ∧
    ∀ r : Service, r.selectedBy s.ownershipSelector = r.isOwnedBy (trimmed s.allocatorId) := by
  have hsel := selectedBy_ownershipSelector (comma_not_mem_of_accepted h)
  have hbound : ∀ (r : Service) (address : String),
      (r.bind s.allocatorId address).selectedBy s.ownershipSelector = true →
        trimmed s.allocatorId = s.allocatorId := by
    intro r address hr
    rw [hsel] at hr
    exact Service.isOwnedBy_inj hr (r.isOwnedBy_bind s.allocatorId address)
  let blank : Service := ⟨"", "", "", ∅, none, 0, ⟨[]⟩⟩
  refine ⟨⟨fun hall => ?_, fun htrim r => ?_⟩, ⟨fun hall => ?_, fun htrim r address => ?_⟩, hsel⟩
  · exact hbound blank "" ((hall _).2 (blank.isOwnedBy_bind s.allocatorId ""))
  · rw [hsel, htrim]
  · exact hbound blank "" (hall blank "")
  · rw [hsel, htrim]
    exact r.isOwnedBy_bind s.allocatorId address

/-- The standard id has no blanks at its ends. -/
theorem selectedBy_iff_isOwnedBy_standard :
    standard.fault? = none ∧
      ∀ r : Service, r.selectedBy standard.ownershipSelector = true ↔
        r.isOwnedBy standard.allocatorId = true :=
  ⟨by decide, (selectedBy_iff_isOwnedBy (by decide)).1.2 (by decide)⟩

/-- An id with a blank in front is accepted, and what is bound under it is never found again. -/
theorem bound_under_padded_id_not_selected :
    let s : Settings := { standard with allocatorId := " vip" }
    let r : Service := ⟨"default", "web", "", ∅, none, 1, ⟨[]⟩⟩
    s.fault? = none ∧ (r.bind s.allocatorId "10.0.0.1").isOwnedBy s.allocatorId = true ∧
      (r.bind s.allocatorId "10.0.0.1").selectedBy s.ownershipSelector = false := by
  decide +kernel

end Settings
end Allotment
