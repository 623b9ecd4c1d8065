import Allotment.Proofs.Alone
/-!
# Errands

Fresh services that arrive in a namespace and are reconciled one after the other.  An
arrival changes nobody's holdings (`holds_arrive`).  A reconciliation takes the first of
the addresses that are free, which its service holds from then on (`holds_written`); when
none is free, it fails and changes nothing (`serve_cases`).
-/
namespace Allotment

open Text

/-- One thing that happens after the other: a service is stored, or one is reconciled from a copy, to the
end. -/
inductive Errand where
  | arrive (s : Service)
  | serve (copy : Service)

/-- The services that were reconciled, in order. -/
def servedKeys (es : List Errand) : List Key :=
  es.filterMap fun
    | .arrive _ => none
    | .serve copy => some copy.key

/-- Whether a service is the allocator's own, bound to the address and labelled with it. -/
structure Service.Carries (s : Service) (id : String) (a : Address) : Prop where
  owned : s.isOwnedBy id = true
  label : s.address? = some a.text
  bound : s.binding? = some a.text

theorem Service.carries_bind (s : Service) (id : String) (a : Address) :
    (s.bind id a.text).advanced.Carries id a :=
  ⟨isOwnedBy_bind s id a.text, address?_bind s id a.text,
    binding?_eq_some_iff.2 ⟨isBound_bind s id a, rfl⟩⟩

namespace Stores

def perform (settings : Settings) (st : Stores) : Errand → Stores
  | .arrive s => { st with registry := st.registry.insert s }
  | .serve copy => (Task.reconcile ⟨settings, copy⟩ (surroundings false) st).2.2

def performAll (settings : Settings) (st : Stores) (es : List Errand) : Stores :=
  es.foldl (perform settings) st

/-- Whether an errand is about a fresh service of the namespace, unbound and without labels: one that is
not stored yet arrives, or one that is stored so is reconciled. -/
def Admits (st : Stores) (ns : String) : Errand → Prop
  | .arrive s => st.registry.peek? s.key = none ∧ s.ns = ns ∧ s.isBound = false ∧ s.labels = ∅
  | .serve copy => copy.ns = ns ∧ copy.isBound = false ∧
      ∃ stored, st.registry.peek? copy.key = some stored ∧ stored.isBound = false ∧ stored.labels = ∅

/-- Whether every errand of a run is about a fresh service when its turn comes. -/
def Orderly (settings : Settings) (ns : String) (st : Stores) (es : List Errand) : Prop :=
  ∀ before e after, es = before ++ e :: after → (st.performAll settings before).Admits ns e

/-- Whether a run hands out the addresses of a list, in order, each to the next service that is
reconciled, and whether all that are reconciled after that fail for want of one and change nothing. -/
def HandsOut (settings : Settings) (pool : String) (st : Stores) (free : List Address)
    (es : List Errand) : Prop :=
  ∀ before copy after, es = before ++ .serve copy :: after →
    let now := st.performAll settings before
    let run := Task.reconcile ⟨settings, copy⟩ (surroundings false) now
    match free[(servedKeys before).length]? with
    | some a => ∃ s, run.1 = .ok ⟨a.text, true, s⟩ ∧ run.2.2.registry.peek? copy.key = some s ∧
        s.Carries settings.allocatorId a
    | none => run.1 = .error (.exhausted pool) ∧ run.2.2 = now

/-- Whether a pool with these addresses governs the namespace and nothing gets in the way. -/
structure Ready (st : Stores) (settings : Settings) (ns : String) (name : PoolName) (s : Interval) :
    Prop where
  keyed : st.registry.Keyed
  reachable : st.Reachable
  calm : st.registry.conflictsDue = 0
  governed : ∃ d entry, st.archive.peek? settings.document = some d ∧ d.Governs ns name entry ∧
    name.form.interval entry = .ok s

/-- The addresses of the interval that no service of the allocator claims in the namespace, ascending. -/
def free (st : Stores) (settings : Settings) (ns : String) (s : Interval) : List Address :=
  s.vacancies (st.registry.claimed ns settings.ownershipSelector)

/-- Whether the service under a key is the allocator's own and holds the address in the namespace. -/
def Holds (st : Stores) (settings : Settings) (ns : String) (key : Key) (a : Address) : Prop :=
  st.registry.Holds (·.isOwnedBy settings.allocatorId) ns key a

end Stores

theorem servedKeys_concat_arrive (es : List Errand) (s : Service) :
    servedKeys (es ++ [.arrive s]) = servedKeys es := by
  simp [servedKeys]

theorem servedKeys_concat_serve (es : List Errand) (copy : Service) :
    servedKeys (es ++ [.serve copy]) = servedKeys es ++ [copy.key] := by
  simp [servedKeys]

namespace Stores

theorem performAll_concat (settings : Settings) (st : Stores) (es : List Errand) (e : Errand) :
    st.performAll settings (es ++ [e]) = (st.performAll settings es).perform settings e := by
  rw [performAll, List.foldl_append]
  rfl

theorem Orderly.init {settings : Settings} {ns : String} {st : Stores} {es es' : List Errand}
    (h : st.Orderly settings ns (es ++ es')) : st.Orderly settings ns es := by
  rintro before e after rfl
  exact h before e (after ++ es') (by rw [List.append_assoc]; rfl)

theorem orderly_nil (settings : Settings) (ns : String) (st : Stores) : st.Orderly settings ns [] := by
  intro before e after h
  cases before <;> cases h

theorem Orderly.cons {settings : Settings} {ns : String} {st : Stores} {e : Errand} {es : List Errand}
    (h : st.Admits ns e) (hrest : (st.perform settings e).Orderly settings ns es) :
    st.Orderly settings ns (e :: es) := by
  intro before e' after hsplit
  cases before with
  | nil =>
    cases hsplit
    exact h
  | cons first before =>
    cases hsplit
    exact hrest before e' after rfl

variable {settings : Settings} {ns : String} {name : PoolName} {s : Interval} {st st' : Stores}

theorem Holds.unique {key : Key} {a b : Address} (ha : st.Holds settings ns key a)
    (hb : st.Holds settings ns key b) : a = b := by
  obtain ⟨t, ht, -, -, hclaim⟩ := Registry.holds_iff.1 ha
  obtain ⟨t', ht', -, -, hclaim'⟩ := Registry.holds_iff.1 hb
  rw [ht] at ht'
  cases ht'
  exact Option.some.inj (hclaim.symm.trans hclaim')

/-- What has no labels holds nothing. -/
theorem not_holds_of_unlabelled {key : Key}
    (h : ∀ t, st.registry.peek? key = some t → t.labels = ∅) (a : Address) :
    ¬st.Holds settings ns key a := by
  rintro ⟨t, label, ht, -, -, hlabel, -⟩
  rw [Service.address?, h t ht] at hlabel
  cases hlabel

/-! ## One errand -/

/-- A fresh service that arrives holds nothing. -/
theorem holds_arrive {t : Service} (h : st.Admits ns (.arrive t)) (key : Key) (a : Address) :
    (st.perform settings (.arrive t)).Holds settings ns key a ↔ st.Holds settings ns key a := by
  obtain ⟨habsent, -, -, hlabels⟩ := h
  have hput := Registry.peek?_insert st.registry t
  by_cases hkey : t.key = key
  · subst hkey
    have hbefore : ¬st.Holds settings ns t.key a :=
      not_holds_of_unlabelled (fun u hu => by rw [habsent] at hu; cases hu) a
    have hafter : ¬(st.perform settings (.arrive t)).Holds settings ns t.key a := by
      apply not_holds_of_unlabelled
      intro u hu
      have hu : (st.registry.insert t).peek? t.key = some u := hu
      rw [hput, if_pos rfl] at hu
      cases hu
      exact hlabels
    exact iff_of_false hafter hbefore
  · have hsame : (st.registry.insert t).peek? key = st.registry.peek? key := by
      rw [hput, if_neg hkey]
    exact Registry.holds_congr hsame _ ns a

theorem Ready.written (h : st.Ready settings ns name s) (t : Service) :
    Ready { st with registry := st.registry.written t } settings ns name s :=
  ⟨Registry.keyed_of_put h.keyed (st.registry.peek?_written t),
    ⟨h.reachable.registry, h.reachable.archive⟩, h.calm, h.governed⟩

theorem Ready.arrive (h : st.Ready settings ns name s) (t : Service) :
    (st.perform settings (.arrive t)).Ready settings ns name s :=
  ⟨Registry.keyed_insert h.keyed t, ⟨h.reachable.registry, h.reachable.archive⟩, h.calm, h.governed⟩

/-- **What serving a fresh service comes to.**  Nothing is free, and it fails and changes nothing; or it
is bound to the first address that is free. -/
theorem serve_cases (h : st.Ready settings ns name s) {copy : Service}
    (hadmits : st.Admits ns (.serve copy)) :
    let run := Task.reconcile ⟨settings, copy⟩ (surroundings false) st
    (st.free settings ns s = [] ∧ run.1 = .error (.exhausted name.text) ∧ run.2.2 = st) ∨
      ∃ a rest bound, st.free settings ns s = a :: rest ∧ run.1 = .ok ⟨Address.text a, true, bound⟩ ∧
        bound.key = copy.key ∧ bound.Carries settings.allocatorId a ∧
        run.2.2 = { st with registry := st.registry.written bound } := by
  obtain ⟨rfl, hcopy, stored, hstored, hunbound, -⟩ := hadmits
  obtain ⟨d, entry, hd, hgoverns, hs⟩ := h.governed
  obtain ⟨hopened, hdocument⟩ := opened_of_some hd
  intro run
  have hend := Task.ending_start_of_unbound (t := ⟨settings, copy⟩) h.keyed h.reachable h.calm
    (Service.binding?_eq_none_iff.2 hcopy) hstored (Service.binding?_eq_none_iff.2 hunbound)
  rw [Task.ending_start] at hend
  change (run.1, run.2.2) = _ at hend
  have hkey : stored.key = copy.key := h.keyed _ _ hstored
  have hallot := PoolDocument.allot_of_governs hgoverns
    (st.registry.claimed copy.ns settings.ownershipSelector)
  simp only [hs, Interval.vacancy?_eq_head?] at hallot
  simp only [hopened, hdocument] at hend
  rw [free]
  cases hfree : s.vacancies (st.registry.claimed copy.ns settings.ownershipSelector) with
  | nil =>
    simp only [hfree, List.head?_nil] at hallot
    simp only [hallot, Prod.mk.injEq] at hend
    exact .inl ⟨rfl, hend⟩
  | cons a rest =>
    simp only [hfree, List.head?_cons] at hallot
    simp only [hallot, Prod.mk.injEq] at hend
    exact .inr ⟨a, rest, _, rfl, hend.1, hkey, stored.carries_bind settings.allocatorId a, hend.2⟩

theorem Ready.serve (h : st.Ready settings ns name s) {copy : Service}
    (hadmits : st.Admits ns (.serve copy)) :
    (st.perform settings (.serve copy)).Ready settings ns name s := by
  show Ready (Task.reconcile ⟨settings, copy⟩ (surroundings false) st).2.2 settings ns name s
  rcases serve_cases h hadmits with ⟨-, -, hsame⟩ | ⟨a, rest, bound, -, -, -, -, hafter⟩
  · rw [hsame]
    exact h
  · rw [hafter]
    exact h.written bound

/-- Nobody else is touched. -/
theorem Ready.peek?_serve (h : st.Ready settings ns name s) {copy : Service}
    (hadmits : st.Admits ns (.serve copy)) {k : Key} (hk : copy.key ≠ k) :
    (st.perform settings (.serve copy)).registry.peek? k = st.registry.peek? k := by
  show (Task.reconcile ⟨settings, copy⟩ (surroundings false) st).2.2.registry.peek? k = _
  rcases serve_cases h hadmits with ⟨-, -, hsame⟩ | ⟨a, rest, bound, -, -, hkey, -, hafter⟩
  · rw [hsame]
  · rw [hafter]
    show (st.registry.written bound).peek? k = _
    rw [Registry.peek?_written, hkey, if_neg hk]

/-- **Fresh services with different keys that arrive and are reconciled in turn** make an orderly run. -/
theorem orderly_of_fresh (h : st.Ready settings ns name s) {ts : List Service}
    (hkeys : (ts.map Service.key).Nodup) (hfresh : ∀ t ∈ ts, st.Admits ns (.arrive t)) :
    st.Orderly settings ns (ts.flatMap fun t => [.arrive t, .serve t]) := by
  induction ts generalizing st with
  | nil => exact orderly_nil settings ns st
  | cons t ts ih =>
    rw [List.map_cons, List.nodup_cons] at hkeys
    obtain ⟨habsent, hns, hunbound, hlabels⟩ := hfresh t List.mem_cons_self
    have hput := Registry.peek?_insert st.registry t
    have hready := h.arrive t
    have hserve : (st.perform settings (.arrive t)).Admits ns (.serve t) :=
      ⟨hns, hunbound, st.registry.stamped t, (hput t.key).trans (if_pos rfl), hunbound, hlabels⟩
    refine .cons ⟨habsent, hns, hunbound, hlabels⟩ (.cons hserve ?_)
    apply ih (hready.serve hserve) hkeys.2
    intro u hu
    obtain ⟨huabsent, huns, huunbound, hulabels⟩ := hfresh u (List.mem_cons_of_mem t hu)
    have hne : t.key ≠ u.key := fun hsame => hkeys.1 (hsame ▸ List.mem_map_of_mem hu)
    refine ⟨?_, huns, huunbound, hulabels⟩
    rw [hready.peek?_serve hserve hne]
    exact (hput u.key).trans ((if_neg hne).trans huabsent)

/-- A service that is bound takes its address, and nobody else's. -/
theorem holds_written {copy bound : Service} {a : Address} (hadmits : st.Admits ns (.serve copy))
    (hkey : bound.key = copy.key) (hcarries : bound.Carries settings.allocatorId a) (key : Key)
    (b : Address) :
    Holds { st with registry := st.registry.written bound } settings ns key b ↔
      copy.key = key ∧ a = b ∨ st.Holds settings ns key b := by
  obtain ⟨rfl, -, stored, hstored, -, hlabels⟩ := hadmits
  have hnothing : ∀ c, ¬st.Holds settings copy.ns copy.key c := not_holds_of_unlabelled fun t ht => by
    rw [hstored] at ht
    cases ht
    exact hlabels
  have hclaim : Claims.claimOf? bound = some a := Claims.claimOf?_of_label hcarries.label
  have hns : bound.ns = copy.ns := congrArg Key.ns hkey
  have hput := st.registry.peek?_written bound
  rw [hkey] at hput
  show Registry.Holds _ _ copy.ns key b ↔ _
  rw [Registry.holds_of_put hput, hclaim, Option.some.injEq]
  constructor
  · rintro (⟨hsame, -, -, hb⟩ | ⟨-, hheld⟩)
    · exact .inl ⟨hsame, hb⟩
    · exact .inr hheld
  · rintro (⟨hsame, hb⟩ | hheld)
    · exact .inl ⟨hsame, hns, hcarries.owned, hb⟩
    · refine .inr ⟨?_, hheld⟩
      rintro rfl
      exact hnothing b hheld

/-! ## What is free -/

section

variable (hcomma : ',' ∉ settings.allocatorId.toList)
  (htrim : trimmed settings.allocatorId = settings.allocatorId)

include hcomma htrim

theorem mem_claimed_iff_holds (hr : st.registry.Keyed) {a : Address} :
    a ∈ st.registry.claimed ns settings.ownershipSelector ↔ ∃ key, st.Holds settings ns key a := by
  have h := Task.mem_claimed_eq_holds hcomma htrim hr ns
  exact iff_of_eq (congrFun h a)

/-- **What is free is what nobody holds.** -/
theorem mem_free (hr : st.registry.Keyed) {a : Address} :
    a ∈ st.free settings ns s ↔ a ∈ s ∧ ∀ key, ¬st.Holds settings ns key a := by
  rw [free, Interval.mem_vacancies, mem_claimed_iff_holds hcomma htrim hr, not_exists]

theorem free_of_same (hr : st.registry.Keyed) (hr' : st'.registry.Keyed)
    (h : ∀ key a, st'.Holds settings ns key a ↔ st.Holds settings ns key a) :
    st'.free settings ns s = st.free settings ns s := by
  apply Interval.vacancies_congr
  intro a
  rw [mem_claimed_iff_holds hcomma htrim hr, mem_claimed_iff_holds hcomma htrim hr']
  simp only [h]

/-- **Once the first free address is taken, the others are free.** -/
theorem free_written (h : st.Ready settings ns name s) {copy bound : Service} {a : Address}
    {rest : List Address} (hadmits : st.Admits ns (.serve copy)) (hkey : bound.key = copy.key)
    (hcarries : bound.Carries settings.allocatorId a) (hfree : st.free settings ns s = a :: rest) :
    free { st with registry := st.registry.written bound } settings ns s = rest := by
  have hholds := holds_written hadmits hkey hcarries
  apply Interval.vacancies_of_claimed hfree
  intro b
  rw [mem_claimed_iff_holds hcomma htrim h.keyed,
    mem_claimed_iff_holds hcomma htrim (h.written bound).keyed]
  simp only [hholds]
  constructor
  · rintro ⟨key, ⟨-, rfl⟩ | hbefore⟩
    · exact .inl rfl
    · exact .inr ⟨key, hbefore⟩
  · rintro (rfl | ⟨key, hbefore⟩)
    · exact ⟨copy.key, .inl ⟨rfl, rfl⟩⟩
    · exact ⟨key, .inr hbefore⟩

end

/-! ## Removal -/

theorem holds_removed (r : Registry) (kind : Service → Bool) (key : Key) (a : Address) :
    ∀ gone : List Key, (gone.foldl Registry.remove r).Holds kind ns key a ↔
      key ∉ gone ∧ r.Holds kind ns key a
  | [] => by simp
  | k :: gone => by
    rw [List.foldl_cons, holds_removed (r.remove k) kind key a gone, Registry.holds_remove, List.mem_cons,
      not_or, ne_comm (a := k)]
    tauto

theorem Ready.removed (h : st.Ready settings ns name s) (gone : List Key) :
    Ready { st with registry := gone.foldl Registry.remove st.registry } settings ns name s := by
  induction gone generalizing st with
  | nil => exact h
  | cons key gone ih =>
    have hone : Ready { st with registry := st.registry.remove key } settings ns name s :=
      ⟨Registry.keyed_remove h.keyed key, ⟨h.reachable.registry, h.reachable.archive⟩, h.calm, h.governed⟩
    exact ih hone

end Stores

end Allotment
