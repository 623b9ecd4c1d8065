import Allotment.Proofs.Errands
/-!
# Filling a pool

A ledger of who was given which address is kept up by every errand (`ledger_performAll`).
So over any orderly run the free addresses are handed out in order until none is left
(`handsOut_of_orderly`), and what is free after a removal is what the ledger gave to those
that were removed (`Ledger.mem_free_removed`).
-/
namespace Allotment

open Text

section

variable {α β : Type}

theorem zip_concat_of_drop {a : α} {rest : List α} (b : β) : ∀ (as : List α) (bs : List β),
    as.drop bs.length = a :: rest → as.zip (bs ++ [b]) = as.zip bs ++ [(a, b)]
  | [], [], h => by cases h
  | [], _ :: _, h => by cases h
  | _ :: _, [], h => by
    cases h
    rw [List.nil_append, List.zip_cons_cons, List.zip_nil_right]
    rfl
  | x :: as, y :: bs, h => by
    rw [List.cons_append, List.zip_cons_cons, zip_concat_of_drop b as bs h]
    rfl

theorem zip_append_of_length_le (cs : List β) : ∀ (as : List α) (bs : List β),
    as.length ≤ bs.length → as.zip (bs ++ cs) = as.zip bs
  | [], _, _ => rfl
  | _ :: _, [], h => by cases h
  | x :: as, y :: bs, h => by
    rw [List.cons_append, List.zip_cons_cons, List.zip_cons_cons,
      zip_append_of_length_le cs as bs (Nat.le_of_succ_le_succ h)]

theorem eq_of_mem_zip {a : α} {b b' : β} : ∀ {as : List α} {bs : List β}, as.Nodup →
    (a, b) ∈ as.zip bs → (a, b') ∈ as.zip bs → b = b'
  | [], _, _, h, _ => by cases h
  | _ :: _, [], _, h, _ => by cases h
  | x :: as, y :: bs, hnodup, h, h' => by
    rw [List.nodup_cons] at hnodup
    rw [List.zip_cons_cons, List.mem_cons] at h h'
    rcases h with h | h
    · cases h
      rcases h' with h' | h'
      · cases h'
        rfl
      · exact absurd (List.of_mem_zip h').1 hnodup.1
    · rcases h' with h' | h'
      · cases h'
        exact absurd (List.of_mem_zip h).1 hnodup.1
      · exact eq_of_mem_zip hnodup.2 h h'

end

namespace Stores

/-- What is kept up while addresses are handed out: so many are gone from the front of the list, and
those are held by the services that were served, each by the one whose turn it was. -/
structure Ledger (settings : Settings) (ns : String) (name : PoolName) (s : Interval)
    (all : List Address) (keys : List Key) (st : Stores) : Prop where
  ready : st.Ready settings ns name s
  left : st.free settings ns s = all.drop keys.length
  given : ∀ a key, (a, key) ∈ all.zip keys → st.Holds settings ns key a
  only : ∀ a key, a ∈ all → st.Holds settings ns key a → (a, key) ∈ all.zip keys

variable {settings : Settings} {ns : String} {name : PoolName} {s : Interval} {st st' : Stores}

section

variable (hcomma : ',' ∉ settings.allocatorId.toList)
  (htrim : trimmed settings.allocatorId = settings.allocatorId)

include hcomma htrim

theorem ledger_start (h : st.Ready settings ns name s) :
    Ledger settings ns name s (st.free settings ns s) [] st := by
  refine ⟨h, rfl, ?_, ?_⟩
  · intro a key hmem
    rw [List.zip_nil_right] at hmem
    cases hmem
  · intro a key ha hheld
    exact absurd hheld (((mem_free hcomma htrim h.keyed).1 ha).2 key)

theorem Ledger.arrive {all : List Address} {keys : List Key}
    (h : Ledger settings ns name s all keys st) {t : Service} (hadmits : st.Admits ns (.arrive t)) :
    Ledger settings ns name s all keys (st.perform settings (.arrive t)) := by
  have hsame : ∀ key a, (st.perform settings (.arrive t)).Holds settings ns key a ↔
      st.Holds settings ns key a := holds_arrive hadmits
  have hready := h.ready.arrive t
  refine ⟨hready, ?_, ?_, ?_⟩
  · rw [free_of_same hcomma htrim h.ready.keyed hready.keyed hsame, h.left]
  · intro a key hmem
    exact (hsame key a).2 (h.given a key hmem)
  · intro a key ha hheld
    exact h.only a key ha ((hsame key a).1 hheld)

theorem Ledger.serve {all : List Address} {keys : List Key}
    (h : Ledger settings ns name s all keys st) {copy : Service}
    (hadmits : st.Admits ns (.serve copy)) :
    Ledger settings ns name s all (keys ++ [copy.key]) (st.perform settings (.serve copy)) := by
  show Ledger settings ns name s all _
    (Task.reconcile ⟨settings, copy⟩ (surroundings false) st).2.2
  rcases serve_cases h.ready hadmits with
    ⟨hnone, -, hsame⟩ | ⟨a, rest, bound, hfree, -, hkey, hcarries, hafter⟩
  · have hused : all.length ≤ keys.length := by
      rw [h.left, List.drop_eq_nil_iff] at hnone
      exact hnone
    have hzip := zip_append_of_length_le [copy.key] all keys hused
    rw [hsame]
    refine ⟨h.ready, ?_, ?_, ?_⟩
    · rw [h.left, List.drop_of_length_le hused, List.drop_of_length_le]
      rw [List.length_append]
      omega
    · rw [hzip]
      exact h.given
    · rw [hzip]
      exact h.only
  · have hdrop : all.drop keys.length = a :: rest := h.left.symm.trans hfree
    have hzip := zip_concat_of_drop copy.key all keys hdrop
    have hholds := holds_written hadmits hkey hcarries
    have hready := h.ready.written bound
    rw [hafter]
    refine ⟨hready, ?_, ?_, ?_⟩
    · have hrest : all.drop (keys ++ [copy.key]).length = rest := by
        rw [List.length_append, List.length_singleton, ← List.drop_drop, hdrop]
        rfl
      rw [hrest]
      exact free_written hcomma htrim h.ready hadmits hkey hcarries hfree
    · intro b key hmem
      rw [hzip, List.mem_append, List.mem_singleton, Prod.mk.injEq] at hmem
      refine (hholds key b).2 ?_
      rcases hmem with hmem | ⟨rfl, rfl⟩
      · exact .inr (h.given b key hmem)
      · exact .inl ⟨rfl, rfl⟩
    · intro b key hb hheld
      rw [hzip, List.mem_append, List.mem_singleton, Prod.mk.injEq]
      rcases (hholds key b).1 hheld with ⟨rfl, rfl⟩ | hbefore
      · exact .inr ⟨rfl, rfl⟩
      · exact .inl (h.only b key hb hbefore)

/-- **Every errand keeps the ledger**, and so does every orderly run. -/
theorem ledger_performAll (h : st.Ready settings ns name s) {es : List Errand}
    (horderly : st.Orderly settings ns es) :
    Ledger settings ns name s (st.free settings ns s) (servedKeys es) (st.performAll settings es) := by
  -- on the last errand, which meets the stores as all the others left them
  induction es using List.reverseRecOn with
  | nil => exact ledger_start hcomma htrim h
  | append_singleton es e ih =>
    have hledger := ih horderly.init
    have hadmits : (st.performAll settings es).Admits ns e := horderly es e [] rfl
    rw [performAll_concat]
    cases e with
    | arrive t =>
      rw [servedKeys_concat_arrive]
      exact hledger.arrive hcomma htrim hadmits
    | serve copy =>
      rw [servedKeys_concat_serve]
      exact hledger.serve hcomma htrim hadmits

/-- **An orderly run hands out what is free, in order.** -/
theorem handsOut_of_orderly (h : st.Ready settings ns name s) {es : List Errand}
    (horderly : st.Orderly settings ns es) :
    st.HandsOut settings name.text (st.free settings ns s) es := by
  rintro before copy after rfl now run
  have hledger : Ledger settings ns name s (st.free settings ns s) (servedKeys before) now :=
    ledger_performAll hcomma htrim h horderly.init
  have hadmits : now.Admits ns (.serve copy) := horderly before (.serve copy) after rfl
  have hnext : (st.free settings ns s)[(servedKeys before).length]? =
      (now.free settings ns s).head? := by
    rw [hledger.left, List.head?_drop]
  rw [hnext]
  rcases serve_cases hledger.ready hadmits with
    ⟨hnone, hfails, hsame⟩ | ⟨a, rest, bound, hfree, hok, hkey, hcarries, hafter⟩
  · rw [hnone]
    exact ⟨hfails, hsame⟩
  · rw [hfree]
    refine ⟨bound, hok, ?_, hcarries⟩
    show Registry.peek? (Task.reconcile _ _ now).2.2.registry copy.key = _
    rw [hafter, ← hkey]
    exact (now.registry.peek?_written bound bound.key).trans (if_pos rfl)

/-- **What is free after a removal from a pool that was used up** is what the removed services had been
given. -/
theorem Ledger.mem_free_removed {all : List Address} {keys : List Key}
    (h : Ledger settings ns name s all keys st) (hall : all = st'.free settings ns s)
    (hused : all.length ≤ keys.length) {gone : List Key}
    (hgone : ∀ key ∈ gone, ∃ a, (a, key) ∈ all.zip keys) (a : Address) :
    a ∈ free { st with registry := gone.foldl Registry.remove st.registry } settings ns s ↔
      ∃ key ∈ gone, (a, key) ∈ all.zip keys := by
  have hready := h.ready.removed gone
  have hnone : st.free settings ns s = [] := by
    rw [h.left, List.drop_eq_nil_iff]
    exact hused
  have hremoved : ∀ key, Holds { st with registry := gone.foldl Registry.remove st.registry }
      settings ns key a ↔ key ∉ gone ∧ st.Holds settings ns key a := fun key =>
    holds_removed st.registry _ key a gone
  rw [mem_free hcomma htrim hready.keyed]
  simp only [hremoved, not_and, not_imp_not]
  constructor
  · rintro ⟨ha, hholders⟩
    -- the pool was used up, so somebody held the address before
    have hheld : ∃ key, st.Holds settings ns key a := by
      by_contra hfree
      have hmem := (mem_free hcomma htrim h.ready.keyed).2 ⟨ha, not_exists.1 hfree⟩
      rw [hnone] at hmem
      cases hmem
    obtain ⟨key, hheld⟩ := hheld
    have hkey := hholders key hheld
    obtain ⟨b, hb⟩ := hgone key hkey
    obtain rfl : a = b := hheld.unique (h.given b key hb)
    exact ⟨key, hkey, hb⟩
  · rintro ⟨key, hkey, hmem⟩
    have ha : a ∈ all := (List.of_mem_zip hmem).1
    refine ⟨?_, fun key' hheld => ?_⟩
    · rw [hall] at ha
      exact (Interval.mem_vacancies.1 ha).1
    · have hnodup : all.Nodup := by
        rw [hall]
        exact s.nodup_vacancies _
      obtain rfl := eq_of_mem_zip hnodup hmem (h.only a key' ha hheld)
      exact hkey

/-- **A pool is filled completely and in order, and what is removed comes back.**  Fresh services that
are reconciled one after the other take the free addresses, lowest first, until none is left; each one
after that fails and changes nothing.  If then some of them are removed, their addresses and no others
are free, and are handed out in the same way. -/
theorem pool_fills_in_order (hready : st.Ready settings ns name s) {es : List Errand}
    (horderly : st.Orderly settings ns es) :
    let all := st.free settings ns s
    let filled := st.performAll settings es
    all.Pairwise (fun a b => a.value < b.value) ∧
    st.HandsOut settings name.text all es ∧
    (all.length ≤ (servedKeys es).length →
      ∀ gone : List Key, (∀ key ∈ gone, ∃ a, (a, key) ∈ all.zip (servedKeys es)) →
      let released := { filled with registry := gone.foldl Registry.remove filled.registry }
      let freed := released.free settings ns s
      freed.Pairwise (fun a b => a.value < b.value) ∧
      (∀ a, a ∈ freed ↔ ∃ key ∈ gone, (a, key) ∈ all.zip (servedKeys es)) ∧
      ∀ es', released.Orderly settings ns es' → released.HandsOut settings name.text freed es') := by
  intro all filled
  refine ⟨s.pairwise_vacancies _, handsOut_of_orderly hcomma htrim hready horderly, ?_⟩
  intro hused gone hgone released freed
  have hledger : Ledger settings ns name s all (servedKeys es) filled :=
    ledger_performAll hcomma htrim hready horderly
  have hreleased : released.Ready settings ns name s := hledger.ready.removed gone
  refine ⟨s.pairwise_vacancies _, ?_, ?_⟩
  · exact hledger.mem_free_removed hcomma htrim rfl hused hgone
  · intro es' horderly'
    exact handsOut_of_orderly hcomma htrim hreleased horderly'

end

/-- A pool of two addresses and three services; the second one is removed, and a fourth one gets its
address. -/
theorem pool_fills_in_order_two_of_three :
    let fresh (name : String) : Service := ⟨"default", name, "", ∅, none, 1, ⟨[]⟩⟩
    let inTurn (names : List String) : List Errand :=
      (names.map fresh).flatMap fun t => [.arrive t, .serve t]
    let pools : PoolDocument := PoolDocument.empty.insert "cidr-default" "10.0.0.0/30"
    let st : Stores := ⟨Registry.empty, Archive.empty.put Settings.standard.document pools⟩
    let filled := st.performAll Settings.standard (inTurn ["a", "b", "c"])
    let released := { filled with registry := filled.registry.remove ⟨"default", "b"⟩ }
    let first := Family.v4.address 0x0a000001
    let second := Family.v4.address 0x0a000002
    st.HandsOut Settings.standard "cidr-default" [first, second] (inTurn ["a", "b", "c"]) ∧
      released.HandsOut Settings.standard "cidr-default" [second] (inTurn ["d"]) := by
  intro fresh inTurn pools st filled released first second
  have hcomma : ',' ∉ Settings.standard.allocatorId.toList := by decide +kernel
  have htrim : trimmed Settings.standard.allocatorId = Settings.standard.allocatorId := by
    decide +kernel
  let name : PoolName := ⟨.cidr, .within "default"⟩
  let s : Interval := ⟨.v4, 0x0a000001, 0x0a000002, by decide, by decide⟩
  have hgoverns : pools.Governs "default" name "10.0.0.0/30" :=
    PoolDocument.governs_iff.2 (by decide +kernel)
  have hready : st.Ready Settings.standard "default" name s := by
    refine ⟨Registry.keyed_empty, ⟨rfl, rfl⟩, rfl, pools, "10.0.0.0/30", by decide +kernel, hgoverns, ?_⟩
    decide +kernel
  have horderly : st.Orderly Settings.standard "default" (inTurn ["a", "b", "c"]) := by
    refine orderly_of_fresh hready (by decide) ?_
    intro t ht
    obtain ⟨n, -, rfl⟩ := List.mem_map.1 ht
    exact ⟨Std.ExtTreeMap.getElem?_empty, rfl, rfl, rfl⟩
  have hledger := ledger_performAll hcomma htrim hready horderly
  have horderly' : released.Orderly Settings.standard "default" (inTurn ["d"]) := by
    refine orderly_of_fresh (hledger.ready.removed [⟨"default", "b"⟩]) (by decide) ?_
    intro t ht
    obtain rfl : t = fresh "d" := List.mem_singleton.1 ht
    exact ⟨by decide +kernel, rfl, rfl, rfl⟩
  have hfree : st.free Settings.standard "default" s = [first, second] := by decide +kernel
  have hfreed : released.free Settings.standard "default" s = [second] := by decide +kernel
  obtain ⟨-, hfills, hrelease⟩ := pool_fills_in_order hcomma htrim hready horderly
  rw [hfree] at hfills hrelease
  have hgone : ∀ key ∈ [Key.mk "default" "b"], ∃ a, (a, key) ∈
      [first, second].zip (servedKeys (inTurn ["a", "b", "c"])) := by
    intro key hkey
    rw [List.mem_singleton] at hkey
    subst hkey
    exact ⟨second, by decide +kernel⟩
  obtain ⟨-, -, hagain⟩ := hrelease (by decide +kernel) [⟨"default", "b"⟩] hgone
  rw [List.foldl_cons, List.foldl_nil] at hagain
  have hrefills : released.HandsOut Settings.standard name.text
      (released.free Settings.standard "default" s) (inTurn ["d"]) := @hagain _ horderly'
  rw [hfreed] at hrefills
  exact ⟨hfills, hrefills⟩

end Stores

end Allotment
