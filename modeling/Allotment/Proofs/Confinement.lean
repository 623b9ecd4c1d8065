import Mathlib.Data.List.Sort
import Allotment.Proofs.Archive
import Allotment.Proofs.Passages
import Allotment.Proofs.Weather
/-!
# Confinement

What a reconciliation depends on and what it touches.  It depends on its own service, on
the services of the namespace that the ownership selector finds, and on the entries under
the names of the namespace's pools (`Stores.Alike`); it touches its own service and the
pool document, if that is missing (`Stores.Spares`).  Run in two states of the stores that
agree on the former, it goes the same way in both (`twins_advance`).
-/
namespace Allotment

namespace Registry

/-! ## Listing depends on what is listed -/

theorem pairwise_selected {r : Registry} (hr : r.Keyed) (ns selector : String) :
    (r.selected ns selector).Pairwise fun a b => compare a.key b.key = .lt := by
  have hkeys : r.services.toList.Pairwise fun a b => compare a.1 b.1 = .lt :=
    Std.ExtTreeMap.ordered_keys_toList
  have hstored : ∀ {key : Key} {s : Service}, (key, s) ∈ r.services.toList → s.key = key :=
    fun hmem => hr _ _ (Std.ExtTreeMap.mem_toList_iff_getElem?_eq_some.1 hmem)
  have hlist : r.toList.Pairwise fun a b => compare a.key b.key = .lt := by
    rw [toList, List.pairwise_map]
    refine hkeys.imp_of_mem fun ha hb hlt => ?_
    rw [hstored ha, hstored hb]
    exact hlt
  exact hlist.filter _

/-- **Registries that store the same services of a namespace under a selector list the same.** -/
theorem selected_congr {r r' : Registry} (hr : r.Keyed) (hr' : r'.Keyed) {ns selector : String}
    (h : ∀ s : Service, s.ns = ns → s.selectedBy selector = true →
      (r.peek? s.key = some s ↔ r'.peek? s.key = some s)) :
    r.selected ns selector = r'.selected ns selector := by
  have hirrefl : Std.Irrefl fun a b : Service => compare a.key b.key = .lt :=
    ⟨fun a hlt => Std.OrientedCmp.not_lt_of_lt hlt hlt⟩
  have hantisymm : Std.Antisymm fun a b : Service => compare a.key b.key = .lt :=
    ⟨fun a b hlt hgt => absurd hgt (Std.OrientedCmp.not_lt_of_lt hlt)⟩
  -- both lists ascend strictly, so they are the same if their members are
  refine (pairwise_selected hr ns selector).eq_of_mem_iff (pairwise_selected hr' ns selector) fun s => ?_
  rw [mem_selected hr, mem_selected hr']
  exact and_congr_left fun ⟨hns, hselected⟩ => h s hns hselected

/-- Whether two registries agree on what a reconciliation of the service under a key can see. -/
structure Alike (r r' : Registry) (key : Key) (selector : String) : Prop where
  unavailable : r.unavailable = r'.unavailable
  conflictsDue : r.conflictsDue = r'.conflictsDue
  target : r.peek? key = r'.peek? key
  selected : ∀ s : Service, s.ns = key.ns → s.selectedBy selector = true →
    (r.peek? s.key = some s ↔ r'.peek? s.key = some s)

variable {r r' : Registry} {key : Key} {selector : String}

theorem Alike.list (h : r.Alike r' key selector) (hr : r.Keyed) (hr' : r'.Keyed) :
    r.list key.ns selector = r'.list key.ns selector := by
  rw [Registry.list, Registry.list, h.unavailable, selected_congr hr hr' h.selected]

theorem Alike.get (h : r.Alike r' key selector) : r.get key = r'.get key := by
  rw [Registry.get, Registry.get, h.unavailable, h.target]

theorem Alike.put (h : r.Alike r' key selector) {q q' : Registry} {s : Service}
    (hunavailable : q.unavailable = q'.unavailable) (hdue : q.conflictsDue = q'.conflictsDue)
    (hq : ∀ k, q.peek? k = if key = k then some s else r.peek? k)
    (hq' : ∀ k, q'.peek? k = if key = k then some s else r'.peek? k) : q.Alike q' key selector := by
  refine ⟨hunavailable, hdue, ?_, fun t hns hselected => ?_⟩
  · rw [hq, hq', if_pos rfl, if_pos rfl]
  · rw [hq, hq']
    split
    · rfl
    · exact h.selected t hns hselected

theorem Alike.disturbed (h : r.Alike r' key selector) {stored : Service} (hkey : stored.key = key) :
    (r.disturbed stored).2 = (r'.disturbed stored).2 ∧
      (r.disturbed stored).1.Alike (r'.disturbed stored).1 key selector := by
  unfold Registry.disturbed
  rw [h.conflictsDue]
  by_cases hdue : r'.conflictsDue = 0
  · rw [if_pos hdue, if_pos hdue]
    exact ⟨rfl, h⟩
  · rw [if_neg hdue, if_neg hdue]
    subst hkey
    exact ⟨rfl, h.put h.unavailable rfl (fun k => getElem?_insert r.services _ k _)
      fun k => getElem?_insert r'.services _ k _⟩

theorem Alike.overwrite {s : Service} (h : r.Alike r' s.key selector) (stored : Service) :
    (r.overwrite stored s).1 = (r'.overwrite stored s).1 ∧
      (r.overwrite stored s).2.Alike (r'.overwrite stored s).2 s.key selector := by
  unfold Registry.overwrite
  by_cases hv : stored.version = s.version
  · rw [if_pos hv, if_pos hv]
    exact ⟨rfl, h.put h.unavailable h.conflictsDue (fun k => getElem?_insert r.services _ k _)
      fun k => getElem?_insert r'.services _ k _⟩
  · rw [if_neg hv, if_neg hv]
    exact ⟨rfl, h⟩

/-- **A write of the target gets the same answer in both**, and leaves them alike. -/
theorem Alike.update {s : Service} (h : r.Alike r' s.key selector) (hr' : r'.Keyed) :
    (r.update s).1 = (r'.update s).1 ∧ (r.update s).2.Alike (r'.update s).2 s.key selector := by
  have hcounted : r.counted.Alike r'.counted s.key selector :=
    ⟨h.unavailable, h.conflictsDue, h.target, h.selected⟩
  unfold Registry.update
  simp only
  rw [hcounted.unavailable, hcounted.target]
  by_cases hreach : r'.counted.unavailable = true
  · rw [if_pos hreach, if_pos hreach]
    exact ⟨rfl, hcounted⟩
  · rw [if_neg hreach, if_neg hreach]
    cases hs : r'.counted.peek? s.key with
    | none => exact ⟨rfl, hcounted⟩
    | some stored =>
      obtain ⟨hsame, hdisturbed⟩ := hcounted.disturbed (hr' _ _ hs)
      simp only [hsame]
      exact hdisturbed.overwrite (r'.counted.disturbed stored).2

/-! ## What a write leaves alone -/

/-- Whether nothing happened to the services but to the one under a key. -/
structure Spares (r r' : Registry) (key : Key) : Prop where
  unavailable : r'.unavailable = r.unavailable
  others : ∀ k, key ≠ k → r'.peek? k = r.peek? k

theorem unavailable_disturbed (r : Registry) (stored : Service) :
    (r.disturbed stored).1.unavailable = r.unavailable := by
  unfold Registry.disturbed
  split <;> rfl

theorem unavailable_overwrite (r : Registry) (stored s : Service) :
    (r.overwrite stored s).2.unavailable = r.unavailable := by
  unfold Registry.overwrite
  split <;> rfl

theorem unavailable_update (r : Registry) (s : Service) : (r.update s).2.unavailable = r.unavailable := by
  unfold Registry.update
  simp only
  split
  · rfl
  · split
    · rfl
    · rw [unavailable_overwrite, unavailable_disturbed]
      rfl

theorem Spares.update (h : r.Spares r' key) (hr' : r'.Keyed) {s : Service} (hkey : s.key = key) :
    r.Spares (r'.update s).2 key := by
  refine ⟨?_, fun k hk => ?_⟩
  · rw [unavailable_update, h.unavailable]
  · have hwritten : (r'.update s).2.peek? k = r'.peek? k := by
      subst hkey
      rcases update_cases hr' s with ⟨f, -, hsame⟩ | ⟨f, stored, -, -, -, hput⟩ | ⟨stored, -, -, -, hput⟩
      · exact hsame k
      · rw [hput, if_neg hk]
      · rw [hput, if_neg hk]
    rw [hwritten, h.others k hk]

end Registry

namespace PoolDocument

variable {d d' : PoolDocument}

/-! ## An allotment depends on the governing entries -/

/-- Whether two documents say the same of the pools of a namespace. -/
def AgreeOn (ns : String) (d d' : PoolDocument) : Prop := ∀ n ∈ PoolName.precedence ns, d.entry? n = d'.entry? n

theorem firstOf?_congr : ∀ {names : List PoolName}, (∀ n ∈ names, d.entry? n = d'.entry? n) →
    d.firstOf? names = d'.firstOf? names
  | [], _ => rfl
  | name :: names, h => by
    rw [List.forall_mem_cons] at h
    rw [firstOf?, firstOf?, h.1, firstOf?_congr h.2]

theorem searchNotices_congr (ns : String) : ∀ {names : List PoolName}, (∀ n ∈ names, d.entry? n = d'.entry? n) →
    d.searchNotices ns names = d'.searchNotices ns names
  | [], _ => rfl
  | name :: names, h => by
    rw [List.forall_mem_cons] at h
    rw [searchNotices, searchNotices, h.1, searchNotices_congr ns h.2]

end PoolDocument

theorem Task.choose_congr (t : Task) (claims : Claims) {d d' : PoolDocument}
    (h : PoolDocument.AgreeOn t.service.ns d d') : t.choose claims d = t.choose claims d' := by
  have hgoverning : d.governing t.service.ns = d'.governing t.service.ns := by
    rw [PoolDocument.governing, PoolDocument.governing, PoolDocument.firstOf?_congr h]
  have hnotices : d.governingNotices t.service.ns = d'.governingNotices t.service.ns :=
    PoolDocument.searchNotices_congr t.service.ns h
  rw [choose, choose, hgoverning, hnotices]

namespace Archive

/-- Whether two archives agree on what can be seen of a document from a namespace. -/
structure Alike (a a' : Archive) (key : Key) (ns : String) : Prop where
  unavailable : a.unavailable = a'.unavailable
  document : Option.Rel (PoolDocument.AgreeOn ns) (a.peek? key) (a'.peek? key)

/-- Answers that say the same of the pools of a namespace. -/
inductive SameAnswer (ns : String) : Except StoreFault PoolDocument → Except StoreFault PoolDocument → Prop where
  | fault (f : StoreFault) : SameAnswer ns (.error f) (.error f)
  | document {d d' : PoolDocument} : PoolDocument.AgreeOn ns d d' → SameAnswer ns (.ok d) (.ok d')

variable {a a' : Archive} {key : Key} {ns : String}

theorem Alike.get (h : a.Alike a' key ns) : SameAnswer ns (a.get key) (a'.get key) := by
  obtain ⟨hreach, hdocument⟩ := h
  unfold Archive.get
  rw [hreach]
  generalize a.peek? key = d at hdocument ⊢
  generalize a'.peek? key = d' at hdocument ⊢
  cases a'.unavailable with
  | true => exact .fault _
  | false =>
    cases hdocument with
    | some hagree => exact .document hagree
    | none => exact .fault _

theorem Alike.put (h : a.Alike a' key ns) (d : PoolDocument) :
    (a.put key d).Alike (a'.put key d) key ns := by
  refine ⟨h.unavailable, ?_⟩
  have hstored : ∀ a : Archive, (a.put key d).peek? key = some d := fun a =>
    Std.ExtTreeMap.getElem?_insert_self
  rw [hstored, hstored]
  exact .some fun _ _ => rfl

theorem Alike.create (h : a.Alike a' key ns) :
    SameAnswer ns (a.create key).1 (a'.create key).1 ∧ (a.create key).2.Alike (a'.create key).2 key ns := by
  have hcounted : a.counted.Alike a'.counted key ns := ⟨h.unavailable, h.document⟩
  have hput := hcounted.put .empty
  have hdocument := hcounted.document
  unfold Archive.create
  simp only
  rw [hcounted.unavailable]
  cases a'.counted.unavailable with
  | true => exact ⟨.fault _, hcounted⟩
  | false =>
    generalize a.counted.peek? key = d at hdocument ⊢
    generalize a'.counted.peek? key = d' at hdocument ⊢
    cases hdocument with
    | some hagree => exact ⟨.document hagree, hcounted⟩
    | none => exact ⟨.document fun _ _ => rfl, hput⟩

theorem unavailable_create (a : Archive) (key : Key) : (a.create key).2.unavailable = a.unavailable := by
  unfold Archive.create
  simp only
  split
  · rfl
  · split <;> rfl

end Archive

namespace Stores

/-- Whether the stores agree on what a reconciliation can see. -/
structure Alike (st st' : Stores) (t : Task) : Prop where
  registry : st.registry.Alike st'.registry t.service.key t.settings.ownershipSelector
  archive : st.archive.Alike st'.archive t.settings.document t.service.ns

/-- Whether nothing happened to the stores but what a reconciliation may do to them. -/
structure Spares (st st' : Stores) (t : Task) : Prop where
  registry : st.registry.Spares st'.registry t.service.key
  archive : st.archive.Opens st'.archive t.settings.document
  unavailable : st'.archive.unavailable = st.archive.unavailable

end Stores

namespace Task

variable {t : Task}

/-! ## One answer -/

theorem afterDocument_congr (t : Task) (claims : Claims) {x x' : Except StoreFault PoolDocument}
    (h : Archive.SameAnswer t.service.ns x x') : t.afterDocument claims x = t.afterDocument claims x' := by
  cases h with
  | fault f => rfl
  | document hagree => exact t.choose_congr claims hagree

theorem afterCreation_congr (t : Task) (claims : Claims) {x x' : Except StoreFault PoolDocument}
    (h : Archive.SameAnswer t.service.ns x x') : t.afterCreation claims x = t.afterCreation claims x' := by
  cases h with
  | fault f => rfl
  | document hagree => exact t.choose_congr claims hagree

def OfTarget (t : Task) (s : Stage) : Prop := ∀ a left draft, s = .writing a left draft → draft.key = t.service.key

theorem ofTarget_advance {st : Stores} (hr : st.registry.Keyed) (fault? : Option StoreFault) (raised : Bool)
    (s : Stage) : t.OfTarget (t.advance (Stores.troubled fault? raised) st s).1.stage := by
  intro a left draft hstage
  have hleads := t.leads_advance fault? raised st s
  rw [hstage] at hleads
  obtain ⟨latest, hget, -, rfl⟩ := drafted_of_leads hleads
  have hkey : latest.key = t.service.key := hr _ _ (Registry.get_eq_ok_iff.1 hget).2
  exact hkey

/-- **Alike stores give the same answer** and stay alike. -/
theorem advance_alike {st st' : Stores} (hr : st.registry.Keyed) (hr' : st'.registry.Keyed)
    (h : st.Alike st' t) (fault? : Option StoreFault) (raised : Bool) {s : Stage} (hs : t.OfTarget s) :
    (t.advance (Stores.troubled fault? raised) st s).1 = (t.advance (Stores.troubled fault? raised) st' s).1 ∧
      (t.advance (Stores.troubled fault? raised) st s).2.Alike
        (t.advance (Stores.troubled fault? raised) st' s).2 t := by
  cases fault? with
  | some f => cases s <;> exact ⟨rfl, h⟩
  | none =>
    cases s with
    | listing =>
      have hlist : st.registry.list t.service.ns t.settings.ownershipSelector =
          st'.registry.list t.service.ns t.settings.ownershipSelector := h.registry.list hr hr'
      refine ⟨?_, h⟩
      show t.afterList (st.registry.list _ _) = t.afterList (st'.registry.list _ _)
      rw [hlist]
    | readingDocument claims => exact ⟨t.afterDocument_congr claims h.archive.get, h⟩
    | creatingDocument claims =>
      obtain ⟨hanswer, harchive⟩ := h.archive.create
      exact ⟨t.afterCreation_congr claims hanswer, h.registry, harchive⟩
    | rereading a left =>
      refine ⟨?_, h⟩
      show t.afterReread a left (st.registry.get t.service.key) =
        t.afterReread a left (st'.registry.get t.service.key)
      rw [h.registry.get]
    | writing a left draft =>
      have hdraft : draft.key = t.service.key := hs a left draft rfl
      have hregistry := h.registry
      rw [← hdraft] at hregistry
      obtain ⟨hanswer, hwritten⟩ := hregistry.update hr'
      rw [hdraft] at hwritten
      refine ⟨?_, hwritten, h.archive⟩
      show t.afterWrite a left (st.registry.update draft).1 = t.afterWrite a left (st'.registry.update draft).1
      rw [hanswer]
    | _ => exact ⟨rfl, h⟩

/-- **An answer touches nothing else.** -/
theorem spares_advance {st₀ st : Stores} (hr : st.registry.Keyed) (h : st₀.Spares st t)
    (fault? : Option StoreFault) (raised : Bool) {s : Stage} (hs : t.OfTarget s) :
    st₀.Spares (t.advance (Stores.troubled fault? raised) st s).2 t := by
  cases fault? with
  | some f => cases s <;> exact h
  | none =>
    cases s with
    | creatingDocument claims =>
      refine ⟨h.registry, h.archive.create, ?_⟩
      show (st.archive.create t.settings.document).2.unavailable = _
      rw [Archive.unavailable_create, h.unavailable]
    | writing a left draft => exact ⟨h.registry.update hr (hs a left draft rfl), h.archive, h.unavailable⟩
    | _ => exact h

theorem keyed_advance {st : Stores} (hr : st.registry.Keyed) (fault? : Option StoreFault) (raised : Bool)
    (s : Stage) : (t.advance (Stores.troubled fault? raised) st s).2.registry.Keyed := by
  rcases t.registry_advance fault? raised st s with hsame | ⟨a, left, draft, -, hwritten⟩
  · rw [hsame]
    exact hr
  · rw [hwritten]
    exact Registry.keyed_update hr draft

theorem answers_advance (t : Task) (w : Weather) (v : Voyage) {s : Stage} (hs : s.result? = none) :
    (t.advance w.surroundings v s).2.answers = v.answers + 1 := by
  cases s with
  | finished result => cases hs
  | writing a left draft =>
    show ((v.next _).noted ((w.now v).update v.stores draft).1).answers = _
    cases ((w.now v).update v.stores draft).1 <;> rfl
  | _ => rfl

/-! ## Two runs -/

/-- Two voyages of the same reconciliation that have come to the same stage. -/
structure Twins (t : Task) (st st' : Stores) (s : Stage) (v v' : Voyage) : Prop where
  answers : v.answers = v'.answers
  keyed : v.stores.registry.Keyed
  keyed' : v'.stores.registry.Keyed
  alike : v.stores.Alike v'.stores t
  spares : st.Spares v.stores t
  spares' : st'.Spares v'.stores t
  drafted : t.OfTarget s

theorem twins_advance (w : Weather) {st st' : Stores} {s : Stage} {v v' : Voyage} (hs : s.result? = none)
    (h : t.Twins st st' s v v') :
    (t.advance w.surroundings v s).1 = (t.advance w.surroundings v' s).1 ∧
      t.Twins st st' (t.advance w.surroundings v s).1.stage (t.advance w.surroundings v s).2
        (t.advance w.surroundings v' s).2 := by
  obtain ⟨hprogress, hstores⟩ := t.advance_surroundings w v hs
  obtain ⟨hprogress', hstores'⟩ := t.advance_surroundings w v' hs
  -- the same weather meets both
  have hnow : w.now v' = w.now v := by rw [Weather.now, Weather.now, h.answers]
  rw [hnow] at hprogress' hstores'
  have hdrafted := t.ofTarget_advance h.keyed (w.fault? v.answers) (w.raised v.answers) s
  obtain ⟨hsame, halike⟩ :=
    t.advance_alike h.keyed h.keyed' h.alike (w.fault? v.answers) (w.raised v.answers) h.drafted
  refine ⟨hprogress.trans (hsame.trans hprogress'.symm), ?_, ?_, ?_, ?_, ?_, ?_, ?_⟩
  · rw [t.answers_advance w v hs, t.answers_advance w v' hs, h.answers]
  · rw [hstores]
    exact keyed_advance h.keyed _ _ s
  · rw [hstores']
    exact keyed_advance h.keyed' _ _ s
  · rw [hstores, hstores']
    exact halike
  · rw [hstores]
    exact spares_advance h.keyed h.spares _ _ h.drafted
  · rw [hstores']
    exact spares_advance h.keyed' h.spares' _ _ h.drafted
  · rw [hprogress]
    exact hdrafted

/-- **A reconciliation is confined to what is its own.**  In two states of the stores that agree on the
service, on the services of its namespace that the ownership selector finds, on the entries under the
names of the namespace's pools and on what disturbs the calls, it comes to the same result, reports the
same and leaves the service the same, whatever goes wrong on the way, if the same goes wrong in both.  In
each of them every other service and every other document stays as it was; the pool document is created
empty in both or in none. -/
theorem reconcile_confined (t : Task) (w : Weather) {st st' : Stores} (hr : st.registry.Keyed)
    (hr' : st'.registry.Keyed) (h : st.Alike st' t) :
    let run := t.reconcile w.surroundings (.start st)
    let run' := t.reconcile w.surroundings (.start st')
    run.1 = run'.1 ∧ run.2.1 = run'.2.1 ∧ run.2.2.stores.Alike run'.2.2.stores t ∧
      st.Spares run.2.2.stores t ∧ st'.Spares run'.2.2.stores t := by
  intro run run'
  have hspares : ∀ st : Stores, st.Spares st t := fun st => ⟨⟨rfl, fun _ _ => rfl⟩, .inl rfl, rfl⟩
  have hstart : t.OfTarget t.start.stage := fun a left draft hstage =>
    absurd hstage (t.stage_start_ne_writing a left draft)
  have htwins : t.Twins st st' t.start.stage (.start st) (.start st') :=
    ⟨rfl, hr, hr', h, hspares st, hspares st', hstart⟩
  obtain ⟨hresult, htrace, hends⟩ :=
    t.run_of_related (fun _ _ _ hs h => twins_advance w hs h) _ _ _ htwins
  refine ⟨hresult, ?_, hends.alike, hends.spares, hends.spares'⟩
  show t.start.trace ++ _ = t.start.trace ++ _
  rw [htrace]

/-- Beside a service that somebody else owns, and an entry for another namespace. -/
theorem reconcile_confined_beside_stranger :
    let web : Service := ⟨"default", "web", "", ∅, none, 1, ⟨[]⟩⟩
    let api : Service :=
      ⟨"default", "api", "", .ofList [("implementation", "other"), ("ipam-address", "10.0.0.1")], none, 1, ⟨[]⟩⟩
    let pools : PoolDocument := PoolDocument.empty.insert "cidr-default" "10.0.0.0/29"
    let t : Task := ⟨Settings.standard, web⟩
    let st : Stores := ⟨Registry.empty.insert web, Archive.empty.put t.settings.document pools⟩
    let st' : Stores := ⟨(Registry.empty.insert web).insert api,
      Archive.empty.put t.settings.document (pools.insert "cidr-other" "10.1.0.0/29")⟩
    let w : Weather := ⟨fun _ => none, fun _ => false⟩
    let run := t.reconcile w.surroundings (.start st)
    let run' := t.reconcile w.surroundings (.start st')
    st.Alike st' t ∧ st ≠ st' ∧ run.1 = run'.1 ∧ st.Spares run.2.2.stores t ∧
      run.1 = .ok ⟨"10.0.0.1", true, (web.bind "vip-ipam" "10.0.0.1").advanced⟩ := by
  intro web api pools t st st' w run run'
  have hr : st.registry.Keyed := Registry.keyed_insert Registry.keyed_empty web
  have hr' : st'.registry.Keyed := Registry.keyed_insert hr api
  have hselected : ∀ s : Service, s.ns = t.service.key.ns →
      s.selectedBy t.settings.ownershipSelector = true →
      (st.registry.peek? s.key = some s ↔ st'.registry.peek? s.key = some s) := by
    intro s _ hfound
    rw [Registry.peek?_insert _ api]
    by_cases hkey : api.key = s.key
    · have hunknown : st.registry.peek? api.key = none := by decide +kernel
      have hstranger : (st.registry.stamped api).selectedBy t.settings.ownershipSelector = false := by
        decide +kernel
      rw [if_pos hkey, ← hkey, hunknown]
      refine ⟨nofun, fun hs => ?_⟩
      cases hs
      rw [hstranger] at hfound
      cases hfound
    · rw [if_neg hkey]
  have halike : st.Alike st' t := by
    refine ⟨⟨rfl, rfl, by decide +kernel, hselected⟩, rfl, ?_⟩
    have hdocument : st.archive.peek? t.settings.document = some pools ∧
        st'.archive.peek? t.settings.document = some (pools.insert "cidr-other" "10.1.0.0/29") := by
      decide +kernel
    rw [hdocument.1, hdocument.2]
    refine .some ?_
    show ∀ n ∈ PoolName.precedence "default", _
    decide +kernel
  obtain ⟨hresult, -, -, hspares, -⟩ := reconcile_confined t w hr hr' halike
  exact ⟨halike, by decide +kernel, hresult, hspares, by decide +kernel⟩

end Task
end Allotment
