import Allotment.Proofs.Confinement
import Allotment.Proofs.Members
import Allotment.Proofs.StaleWrites
/-!
# Listing

What a list of services says, apart from how it is made.  The registry may yield its
entries in any order; the services asked for are then sorted by name alone.  That order is
the only one there is (`Catalogue.unique`), because no two services of a namespace share a
name (`eq_of_name`): every service is stored under its own key, whatever was called before.
-/
namespace Allotment

theorem Key.compare_of_ns {a b : Key} (h : a.ns = b.ns) : compare a b = compare a.name b.name := by
  have hlex : compare a b = (compare a.ns b.ns).then (compare a.name b.name) := rfl
  rw [hlex, h, Std.ReflOrd.compare_self]
  rfl

namespace Registry

/-- Whether these are the entries of the registry, each once, in whatever order they come. -/
structure Yields (r : Registry) (entries : List (Key × Service)) : Prop where
  nodup : (entries.map (·.1)).Nodup
  mem_iff : ∀ key s, (key, s) ∈ entries ↔ r.peek? key = some s

/-- The services that are asked for, from among services in some order, sorted by name alone. -/
def sorted (ns selector : String) (services : List Service) : List Service :=
  (services.filter fun s => s.ns == ns && s.selectedBy selector).mergeSort
    fun a b => (compare a.name b.name).isLE

/-- Whether a list has exactly the stored services of the namespace that meet the selector, strictly
ascending by name. -/
structure Catalogue (r : Registry) (ns selector : String) (ss : List Service) : Prop where
  mem_iff : ∀ s, s ∈ ss ↔ ∃ key, r.peek? key = some s ∧ s.ns = ns ∧ s.selectedBy selector = true
  ascending : ss.Pairwise fun a b => a.name < b.name

variable {r : Registry} {ns selector : String} {entries : List (Key × Service)} {ss : List Service}

/-! ## Entries in any order -/

theorem yields_toList (r : Registry) : r.Yields r.services.toList :=
  ⟨nodup_keys r.services, fun _ _ => Std.ExtTreeMap.mem_toList_iff_getElem?_eq_some⟩

theorem Yields.perm {entries' : List (Key × Service)} (h : r.Yields entries) (hp : entries'.Perm entries) :
    r.Yields entries' :=
  ⟨(hp.map _).nodup_iff.2 h.nodup, fun key s => hp.mem_iff.trans (h.mem_iff key s)⟩

/-- No service comes twice, as no key does. -/
theorem Yields.nodup_services (hr : r.Keyed) (h : r.Yields entries) : (entries.map (·.2)).Nodup := by
  have hkeys : (entries.map (·.2)).map Service.key = entries.map (·.1) := by
    rw [List.map_map]
    exact List.map_congr_left fun e he => hr e.1 e.2 ((h.mem_iff e.1 e.2).1 he)
  apply List.Nodup.of_map Service.key
  rw [hkeys]
  exact h.nodup

theorem pairwise_sorted (ns selector : String) (services : List Service) :
    (sorted ns selector services).Pairwise fun a b => (compare a.name b.name).isLE = true := by
  apply List.pairwise_mergeSort
  · intro a b c hab hbc
    exact Std.TransCmp.isLE_trans hab hbc
  · intro a b
    rw [Std.OrientedOrd.eq_swap (a := b.name)]
    cases compare a.name b.name <;> rfl

/-! ## The one list that fits -/

/-- **No two services of a namespace share a name**: they would be stored under one key. -/
theorem eq_of_name (hr : r.Keyed) {key key' : Key} {a b : Service} (ha : r.peek? key = some a)
    (hb : r.peek? key' = some b) (hns : a.ns = b.ns) (hname : a.name = b.name) : a = b := by
  have hkey : key = key' := by
    rw [← hr key a ha, ← hr key' b hb, Service.key, Service.key, hns, hname]
  rw [hkey, hb] at ha
  exact (Option.some.inj ha).symm

theorem Catalogue.nodup (h : r.Catalogue ns selector ss) : ss.Nodup :=
  h.ascending.imp fun hlt heq => by
    rw [heq] at hlt
    exact String.lt_irrefl _ hlt

/-- **No two lists fit.** -/
theorem Catalogue.unique {ss' : List Service} (h : r.Catalogue ns selector ss)
    (h' : r.Catalogue ns selector ss') : ss' = ss := by
  have hirrefl : Std.Irrefl fun a b : Service => a.name < b.name := ⟨fun a => String.lt_irrefl a.name⟩
  have hantisymm : Std.Antisymm fun a b : Service => a.name < b.name :=
    ⟨fun a b hlt hgt => absurd hgt (String.lt_asymm hlt)⟩
  exact h'.ascending.eq_of_mem_iff h.ascending fun s => (h'.mem_iff s).trans (h.mem_iff s).symm

/-- The list that is made from the entries in the order of their keys fits. -/
theorem catalogue_selected (hr : r.Keyed) (ns selector : String) :
    r.Catalogue ns selector (r.selected ns selector) := by
  constructor
  · intro s
    rw [mem_selected hr]
    constructor
    · rintro ⟨hstored, hasked⟩
      exact ⟨s.key, hstored, hasked⟩
    · rintro ⟨key, hstored, hasked⟩
      rw [hr key s hstored]
      exact ⟨hstored, hasked⟩
  · refine (pairwise_selected hr ns selector).imp_of_mem fun {a b} ha hb hlt => ?_
    have hns : a.key.ns = b.key.ns := ((mem_selected hr).1 ha).2.1.trans ((mem_selected hr).1 hb).2.1.symm
    rw [Key.compare_of_ns hns] at hlt
    exact compareOfLessAndEq_eq_lt.1 hlt

/-- **Whatever order the entries come in, the list that is sorted from them fits.** -/
theorem catalogue_sorted (hr : r.Keyed) (h : r.Yields entries) (ns selector : String) :
    r.Catalogue ns selector (sorted ns selector (entries.map (·.2))) := by
  have hmem : ∀ s, s ∈ sorted ns selector (entries.map (·.2)) ↔
      ∃ key, r.peek? key = some s ∧ s.ns = ns ∧ s.selectedBy selector = true := by
    intro s
    simp [sorted, h.mem_iff]
  have hnodup : (sorted ns selector (entries.map (·.2))).Nodup :=
    (List.mergeSort_perm _ _).nodup_iff.2 ((h.nodup_services hr).filter _)
  refine ⟨hmem, ?_⟩
  -- the names ascend, and two that were equal would make one service come twice
  refine ((pairwise_sorted ns selector _).and hnodup).imp_of_mem fun {a b} ha hb hab => ?_
  obtain ⟨key, hstored, hns, -⟩ := (hmem a).1 ha
  obtain ⟨key', hstored', hns', -⟩ := (hmem b).1 hb
  cases hcmp : compare a.name b.name with
  | lt => exact compareOfLessAndEq_eq_lt.1 hcmp
  | eq =>
    have hname : a.name = b.name := Std.LawfulEqOrd.eq_of_compare hcmp
    exact absurd (eq_of_name hr hstored hstored' (hns.trans hns'.symm) hname) hab.2
  | gt =>
    have hle := hab.1
    rw [hcmp] at hle
    cases hle

/-- **A list is exact, whatever order the entries come in.**  After any run of calls every service is
stored under its own key.  Neither a look-up nor a list changes anything.  While the registry can be
reached, a list has exactly the stored services of the namespace that meet the selector, each once,
strictly ascending by name, and each as it is looked up under its key; no other list does.  Sorting by name
gives this list from the entries in every order in which they may come. -/
theorem list_exact_in_any_order (cs : List Call) (archive : Archive) (ns selector : String) :
    let st : Stores := ⟨empty.run cs, archive⟩
    st.registry.Keyed ∧
    (∀ key, (st.get key).2 = st) ∧ (st.list ns selector).2 = st ∧
    (st.registry.unavailable = false → ∃ ss,
      (st.list ns selector).1 = .ok ss ∧ st.registry.Catalogue ns selector ss ∧ ss.Nodup ∧
      (∀ s ∈ ss, (st.get s.key).1 = .ok s) ∧
      (∀ other, st.registry.Catalogue ns selector other → other = ss) ∧
      ∀ entries, st.registry.Yields entries → sorted ns selector (entries.map (·.2)) = ss) := by
  intro st
  have hr : st.registry.Keyed := keyed_run keyed_empty cs
  refine ⟨hr, fun _ => rfl, rfl, fun hreach => ?_⟩
  have hfits := catalogue_selected hr ns selector
  refine ⟨st.registry.selected ns selector, list_of_reachable hreach ns selector, hfits, hfits.nodup,
    fun s hs => ?_, fun other hother => hfits.unique hother,
    fun entries hentries => hfits.unique (catalogue_sorted hr hentries ns selector)⟩
  exact get_eq_ok_iff.2 ⟨hreach, ((mem_selected hr).1 hs).1⟩

/-- After a removal and a write that a conflict got in before, with the entries from the last to the
first. -/
theorem list_exact_in_any_order_backwards :
    let web : Service := ⟨"default", "web", "", .ofList [("team", "a")], none, 1, ⟨[]⟩⟩
    let api : Service := { web with name := "api" }
    let cs : List Call :=
      [.insert web, .insert { web with ns := "other" }, .insert api, .insert { api with name := "b", labels := ∅ },
        .insert { api with name := "c" }, .remove ⟨"default", "c"⟩, .expectConflicts 1, .update api]
    let r := empty.run cs
    let entries := r.services.toList.reverse
    r.unavailable = false ∧ r.Yields entries ∧
      (entries.map (·.2)).map (·.name) = ["web", "web", "b", "api"] ∧
      sorted "default" "team=a" (entries.map (·.2)) = [{ api with version := 2 }, web] := by
  intro web api cs r entries
  have hreach : r.unavailable = false := by decide +kernel
  have hentries : r.Yields entries := (yields_toList r).perm (List.reverse_perm _)
  have hlist : r.list "default" "team=a" = .ok [{ api with version := 2 }, web] := by decide +kernel
  refine ⟨hreach, hentries, by decide +kernel, ?_⟩
  -- what follows does not look into the run any more
  clear_value entries cs
  obtain ⟨-, -, -, hexact⟩ := list_exact_in_any_order cs .empty "default" "team=a"
  obtain ⟨ss, hss, -, -, -, -, hsorted⟩ := hexact hreach
  rw [hsorted entries hentries]
  exact Except.ok.inj (hss.symm.trans hlist)

end Registry
end Allotment
