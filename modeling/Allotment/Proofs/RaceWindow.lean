import Allotment.Proofs.Commits
/-!
# The race window

When reconciliations can give one address away twice.  A reconciliation lists what is
claimed once, at its first call, and the address it takes is not among the claims
(`ne_label_of_lists`).  A commit puts its address among the claims for good.  So if two
reconciliations of a namespace bind one address, each listed before the other committed
(`lt_of_same_address`), and reconciliations that do not overlap never do (`race_window`).

All of it rests on the selector that finds the allocator's own services, so the id may
hold no comma and have no blanks at its ends.  Nothing else is asked of the settings.
-/
namespace Allotment

open Text

/-- Whether what a reconciliation goes by comes from claims with a property: those it holds have it, and
the address that it has chosen is not among some that have it. -/
def Stage.Heeds (P : Claims → Prop) : Stage → Prop
  | .listing => False
  | .readingDocument claims | .creatingDocument claims => P claims
  | .checking a _ | .rereading a _ | .writing a _ _ | .pausing a _ | .sleeping a _ =>
    ∃ claims, P claims ∧ a ∉ claims
  | .finished (.ok o) =>
    o.newlyBound = true → ∃ claims a, P claims ∧ a ∉ claims ∧ o.address = Address.text a
  | .finished (.error _) => True

namespace Task

variable {t : Task} {fault? : Option StoreFault} {r : Registry} {P : Claims → Prop}

/-- What a reconciliation goes by once it has listed it goes by until the end, over any number of
conflicts. -/
theorem heeds_of_leads {s s' : Stage} (h : t.Leads fault? r s s') (hs : s.Heeds P) : s'.Heeds P := by
  cases h with
  | failed hgoes => trivial
  | stayed => exact hs
  | listed hlist => exact hs.elim
  | missing => exact hs
  | chosen hfree => exact ⟨_, hs, hfree⟩
  | chosenAnew hfree => exact ⟨_, hs, hfree⟩
  | cleared => exact hs
  | kept hget hbound =>
    intro hnew
    cases hnew
  | drafted hget hunbound => exact hs
  | accepted hfault hupdate =>
    intro _
    obtain ⟨claims, hclaims, hfree⟩ := hs
    exact ⟨claims, _, hclaims, hfree, rfl⟩
  | conflicted => exact hs
  | rested => exact hs
  | woken => exact hs

theorem heeds_of_listing {s' : Stage} (h : t.Leads fault? r .listing s')
    (hlisted : ∀ ss, r.list t.service.ns t.settings.ownershipSelector = .ok ss → P (.ofServices ss)) :
    s'.Heeds P := by
  cases h with
  | failed hgoes => trivial
  | listed hlist => exact hlisted _ hlist

end Task

namespace Traffic

variable {settings : Settings} {c : Traffic settings} {ms : List Move} {n : Nat}

/-- Whether the `l`-th move is this reconciliation's call for the services that are owned. -/
def Lists (c : Traffic settings) (ms : List Move) (i l : Nat) : Prop :=
  ∃ fault? raised f, ms[l]? = some (.advance i fault? raised) ∧
    (c.after ms l).flights[i]? = some f ∧ f.stage = .listing

/-- Whether one reconciliation has made all its calls before another makes its first. -/
def Clears (c : Traffic settings) (ms : List Move) (i k : Nat) : Prop :=
  ∀ p q, c.Calls ms i p → c.Calls ms k q → p < q

theorem calls_of_lists {i l : Nat} (h : c.Lists ms i l) : c.Calls ms i l := by
  obtain ⟨fault?, raised, f, hm, hf, hstage⟩ := h
  exact ⟨fault?, raised, f, hm, hf, by rw [hstage]; rfl⟩

/-! ## What was listed is heeded -/

/-- Whether this reconciliation, of this copy, has listed and heeds what it found. -/
def Heeds (c : Traffic settings) (i : Nat) (copy : Service) (P : Claims → Prop) : Prop :=
  ∃ s, c.flights[i]? = some ⟨copy, s⟩ ∧ s.Heeds P

theorem heeds_move {c : Traffic settings} {i : Nat} {copy : Service} {P : Claims → Prop}
    (h : c.Heeds i copy P) (m : Move) : (c.move m).Heeds i copy P := by
  obtain ⟨s, hs, hheeds⟩ := h
  obtain ⟨s', hs', rfl | ⟨fault?, raised, -, hleads⟩⟩ := getElem?_flights_move hs m
  · exact ⟨_, hs', hheeds⟩
  · exact ⟨s', hs', Task.heeds_of_leads hleads hheeds⟩

/-- What was claimed as the reconciliation listed. -/
def Claimed (c : Traffic settings) (ns : String) (claims : Claims) : Prop :=
  ∃ ss, c.stores.registry.list ns settings.ownershipSelector = .ok ss ∧ claims = .ofServices ss

/-- **The address that is bound was free when the reconciliation listed.** -/
theorem exists_free_of_lists {i l : Nat} {key : Key} {address : String}
    (hend : (c.run ms).Binds i key address) (hl : c.Lists ms i l) :
    ∃ claims a, (c.after ms l).Claimed key.ns claims ∧ a ∉ claims ∧ address = Address.text a := by
  obtain ⟨fault?, raised, f, hm, hf, hstage⟩ := hl
  have hfirst : (c.after ms (l + 1)).Heeds i f.copy ((c.after ms l).Claimed f.key.ns) := by
    obtain ⟨s, hs, hleads⟩ := getElem?_flights_advance hf fault? raised
    rw [hstage] at hleads
    rw [after_succ c hm]
    exact ⟨s, hs, Task.heeds_of_listing hleads fun ss hss => ⟨ss, hss, rfl⟩⟩
  obtain ⟨d, hd⟩ := Nat.exists_eq_add_of_le (show l + 1 ≤ ms.length from lt_length hm)
  have hlast := kept_after (P := fun c' => c'.Heeds i f.copy ((c.after ms l).Claimed f.key.ns))
    (fun _ m _ h => heeds_move h m) hfirst d (Nat.le_of_eq hd.symm)
  rw [← hd, after_length] at hlast
  obtain ⟨s, hs, hheeds⟩ := hlast
  obtain ⟨stored, hstored⟩ := hend
  obtain ⟨g, hg, rfl, hended⟩ := outcome?_eq_some_iff.1 hstored
  obtain rfl : g = ⟨f.copy, s⟩ := Option.some.inj (hg.symm.trans hs)
  obtain rfl : s = .finished (.ok ⟨address, true, stored⟩) := hended
  exact hheeds rfl

/-- A reconciliation that is beyond its first call has made it. -/
theorem listing_or_heeds_after (hstart : c.flights = []) {i : Nat} :
    ∀ p, p ≤ ms.length → ∀ f, (c.after ms p).flights[i]? = some f →
      f.stage = .listing ∨ f.stage.Heeds fun _ => ∃ l, c.Lists ms i l
  | 0, _, f, hf => by cases (getElem?_of_no_flights hstart i).symm.trans hf
  | p + 1, hp, g, hg => by
    have hlt : p < ms.length := hp
    obtain ⟨m, hm⟩ := exists_move hlt
    rw [after_succ c hm] at hg
    rcases flights_move_cases hg with ⟨copy, -, rfl⟩ | hf | ⟨f, fault?, raised, hf, rfl, -, hleads⟩
    · rcases Task.stage_start ⟨settings, copy⟩ with ⟨hlisting, -⟩ | ⟨address, -, hended⟩
      · exact .inl hlisting
      · rw [hended]
        exact .inr fun hnew => by cases hnew
    · exact listing_or_heeds_after hstart p (Nat.le_of_lt hlt) g hf
    · rcases listing_or_heeds_after hstart p (Nat.le_of_lt hlt) f hf with hlisting | hheeds
      · rw [hlisting] at hleads
        exact .inr (Task.heeds_of_listing hleads fun _ _ => ⟨p, fault?, raised, f, hm, hf, hlisting⟩)
      · exact .inr (Task.heeds_of_leads hleads hheeds)

theorem exists_lists (hstart : c.flights = []) {i : Nat} {key : Key} {address : String}
    (h : (c.run ms).Binds i key address) : ∃ l, c.Lists ms i l := by
  obtain ⟨stored, hstored⟩ := h
  obtain ⟨g, hg, -, hended⟩ := outcome?_eq_some_iff.1 hstored
  rw [← after_length] at hg
  rcases listing_or_heeds_after hstart ms.length (Nat.le_refl _) g hg with hlisting | hheeds
  · rw [hended] at hlisting
    cases hlisting
  · rw [hended] at hheeds
    obtain ⟨_, _, hlists, -⟩ := hheeds rfl
    exact hlists

/-! ## What is bound is claimed -/

/-- What is stored as the reconciliation lists and is the allocator's own claims its address. -/
theorem mem_of_claimed (hcomma : ',' ∉ settings.allocatorId.toList)
    (htrim : trimmed settings.allocatorId = settings.allocatorId) {c : Traffic settings}
    (hr : c.stores.registry.Keyed) {ns : String} {claims : Claims} (h : c.Claimed ns claims)
    {s : Service} (hs : c.peek? s.key = some s) (hns : s.ns = ns)
    (howned : s.isOwnedBy settings.allocatorId = true) {a : Address}
    (ha : Claims.claimOf? s = some a) : a ∈ claims := by
  obtain ⟨ss, hlist, rfl⟩ := h
  have hselected : s.selectedBy settings.ownershipSelector = true := by
    rw [Settings.selectedBy_ownershipSelector hcomma, htrim, howned]
  have hmem : s ∈ ss := by
    rw [Registry.list_eq_ok hlist]
    exact (Registry.mem_selected hr).2 ⟨hs, hns, hselected⟩
  exact Claims.mem_ofServices.2 ⟨s, hmem, ha⟩

variable (hcomma : ',' ∉ settings.allocatorId.toList)
  (htrim : trimmed settings.allocatorId = settings.allocatorId)

include hcomma htrim

/-- **The address that is bound is none that the allocator's services in the namespace claimed when the
reconciliation listed.** -/
theorem ne_label_of_lists (h : c.Sound n) (hn : n + ms.length < UInt64.size) {i l : Nat} {key : Key}
    {address : String} (hend : (c.run ms).Binds i key address) (hl : c.Lists ms i l) {s : Service}
    (hs : (c.after ms l).peek? s.key = some s) (hns : s.ns = key.ns)
    (howned : s.isOwnedBy settings.allocatorId = true) {b : Address}
    (hb : Claims.claimOf? s = some b) : address ≠ b.text := by
  intro heq
  obtain ⟨claims, a, hclaimed, hfree, rfl⟩ := exists_free_of_lists hend hl
  obtain rfl : a = b := Address.text_injective heq
  have hlen := lt_length_of_calls (calls_of_lists hl)
  have hkeyed := (sound_after h hn l (Nat.le_of_lt hlen)).keyed
  exact hfree (mem_of_claimed hcomma htrim hkeyed hclaimed hs hns howned hb)

/-- **Who binds an address that another one binds too has listed before the other committed.** -/
theorem lt_of_same_address (h : c.Sound n) (hn : n + ms.length < UInt64.size) {i k l q : Nat}
    (hik : i ≠ k) {key key' : Key} {address : String} (hi : (c.run ms).Binds i key address)
    (hk : (c.run ms).Binds k key' address) (hns : key.ns = key'.ns) (hl : c.Lists ms i l)
    (hq : c.Commits ms k q) : l < q := by
  by_contra hlate
  have hne : q ≠ l := by
    rintro rfl
    exact hik (eq_of_calls (calls_of_lists hl) (calls_of_commits hq))
  have hqlt : q + 1 ≤ l := by omega
  have hlen := Nat.le_of_lt (lt_length_of_calls (calls_of_lists hl))
  -- the other's service is stored with the address on its label when this one lists
  obtain ⟨_, a, t, -, -, rfl, ht, hbound, howned, hlabel, -⟩ := stored_of_commits h hn hk hq
  obtain ⟨u, hu, htu⟩ := grows_after h hn hqlt hlen key' t ht
  have hlabels := (htu.bound hbound).2
  have hukey : u.key = key' := (sound_after h hn l hlen).keyed key' u hu
  have huns : u.ns = key.ns := by
    rw [hns, ← hukey]
    rfl
  have huowned : u.isOwnedBy settings.allocatorId = true := by
    rw [Service.isOwnedBy, hlabels]
    exact howned
  have hulabel : u.address? = some a.text := by
    rw [Service.address?, hlabels]
    exact hlabel
  rw [← hukey] at hu
  exact ne_label_of_lists hcomma htrim h hn hi hl hu huns huowned (Claims.claimOf?_of_label hulabel) rfl

/-- **The window in which an address can be given away twice.**  Who binds its service has listed and
committed.  Two reconciliations of a namespace that bind the same address have each listed before the
other committed; so two that do not overlap bind different addresses.  And no address is bound that stood
readable on a label of the allocator's own in the namespace when the reconciliation listed. -/
theorem race_window (hstart : c.flights = []) (hr : c.stores.registry.Keyed)
    (hb : c.stores.registry.Bounded n) (hn : n + ms.length < UInt64.size) :
    (∀ i key address, (c.run ms).Binds i key address →
      (∃ l, c.Lists ms i l) ∧ ∃ q, c.Commits ms i q) ∧
    (∀ i k key key' address l q l' q', i ≠ k → (c.run ms).Binds i key address →
      (c.run ms).Binds k key' address → key.ns = key'.ns → c.Lists ms i l → c.Commits ms i q →
      c.Lists ms k l' → c.Commits ms k q' → l < q' ∧ l' < q) ∧
    (∀ i k key key' address address', i ≠ k → (c.run ms).Binds i key address →
      (c.run ms).Binds k key' address' → key.ns = key'.ns → c.Clears ms i k ∨ c.Clears ms k i →
      address ≠ address') ∧
    ∀ i key address l s label b, (c.run ms).Binds i key address → c.Lists ms i l →
      (c.after ms l).peek? s.key = some s → s.ns = key.ns →
      s.isOwnedBy settings.allocatorId = true → s.address? = some label →
      Address.ofChars? .strict (trim label.toList) = some b → address ≠ b.text := by
  have h := sound_of_no_flights hstart hr hb
  have hwindow : ∀ {i k l q : Nat} {key key' : Key} {address : String}, i ≠ k →
      (c.run ms).Binds i key address → (c.run ms).Binds k key' address → key.ns = key'.ns →
      c.Lists ms i l → c.Commits ms k q → l < q :=
    fun hik hi hk hns hl hq => lt_of_same_address hcomma htrim h hn hik hi hk hns hl hq
  refine ⟨fun i key address hi => ⟨exists_lists hstart hi, exists_commits hstart hi⟩, ?_, ?_, ?_⟩
  · intro i k key key' address l q l' q' hik hi hk hns hl hq hl' hq'
    exact ⟨hwindow hik hi hk hns hl hq', hwindow (Ne.symm hik) hk hi hns.symm hl' hq⟩
  · rintro i k key key' address address' hik hi hk hns hclear rfl
    obtain ⟨l, hl⟩ := exists_lists hstart hi
    obtain ⟨q, hq⟩ := exists_commits hstart hi
    obtain ⟨l', hl'⟩ := exists_lists hstart hk
    obtain ⟨q', hq'⟩ := exists_commits hstart hk
    have hlt := hwindow hik hi hk hns hl hq'
    have hlt' := hwindow (Ne.symm hik) hk hi hns.symm hl' hq
    rcases hclear with hclear | hclear
    · have := hclear q l' (calls_of_commits hq) (calls_of_lists hl')
      omega
    · have := hclear q' l (calls_of_commits hq') (calls_of_lists hl)
      omega
  · intro i key address l s label b hi hl hs hns howned hlabel hread
    exact ne_label_of_lists hcomma htrim h hn hi hl hs hns howned
      (Claims.claimOf?_eq_some_iff.2 ⟨label, hlabel, hread⟩)

omit hcomma htrim in
/-- A second service arrives while the first one is reconciled.  Both reconciliations list before either
commits, and both bind the first address of the pool. -/
theorem race_window_open :
    let web : Service := ⟨"default", "web", "", ∅, none, 0, ⟨[]⟩⟩
    let db : Service := { web with name := "db" }
    let pools : PoolDocument := PoolDocument.empty.insert "cidr-default" "10.0.0.0/29"
    let c : Traffic Settings.standard :=
      ⟨⟨Registry.empty.insert web, Archive.empty.put Settings.standard.document pools⟩, []⟩
    let go (i : Nat) : Move := .advance i none false
    let ms : List Move := [.begin web, go 0, .arrive db, .begin db, go 1, go 0, go 1, go 0, go 1, go 0,
      go 1, go 0, go 1]
    ',' ∉ Settings.standard.allocatorId.toList ∧ trimmed Settings.standard.allocatorId = "vip-ipam" ∧
      (c.run ms).Binds 0 web.key "10.0.0.1" ∧ (c.run ms).Binds 1 db.key "10.0.0.1" ∧
      ∀ l q l' q', c.Lists ms 0 l → c.Commits ms 0 q → c.Lists ms 1 l' → c.Commits ms 1 q' →
        l < q' ∧ l' < q := by
  intro web db pools c go ms
  have hr : c.stores.registry.Keyed := Registry.keyed_insert Registry.keyed_empty web
  have hb : c.stores.registry.Bounded 1 := Registry.bounded_insert Registry.bounded_empty (by decide) web
  have hweb : (c.run ms).Binds 0 web.key "10.0.0.1" :=
    ⟨{ web.bind "vip-ipam" "10.0.0.1" with version := 2 }, by decide +kernel⟩
  have hdb : (c.run ms).Binds 1 db.key "10.0.0.1" :=
    ⟨{ db.bind "vip-ipam" "10.0.0.1" with version := 2 }, by decide +kernel⟩
  have hroom : 1 + ms.length < UInt64.size := by decide
  obtain ⟨-, hboth, -, -⟩ := race_window (by decide) (by decide) rfl hr hb hroom
  exact ⟨by decide, by decide, hweb, hdb, fun l q l' q' =>
    hboth 0 1 web.key db.key "10.0.0.1" l q l' q' (by decide) hweb hdb rfl⟩

end Traffic
end Allotment
