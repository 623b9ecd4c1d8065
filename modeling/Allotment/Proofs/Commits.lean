import Allotment.Proofs.Traffic
/-!
# Commits

The writes of a run that bind a service.  A reconciliation that says that it bound its
service made one (`exists_commits`).  Before it the service is stored unbound, after it
bound to the address that the reconciliation reports and labelled as the allocator's own
(`stored_of_commits`), and so it stays.
-/
namespace Allotment.Traffic

variable {settings : Settings} {c : Traffic settings} {ms : List Move} {n : Nat}

/-- Whether a reconciliation ended with its service bound to this address by its own write. -/
def Binds (c : Traffic settings) (i : Nat) (key : Key) (address : String) : Prop :=
  ∃ s, c.outcome? i = some (key, ⟨address, true, s⟩)

/-- Whether the `p`-th move is a call of this reconciliation. -/
def Calls (c : Traffic settings) (ms : List Move) (i p : Nat) : Prop :=
  ∃ fault? raised f, ms[p]? = some (.advance i fault? raised) ∧
    (c.after ms p).flights[i]? = some f ∧ f.stage.result? = none

/-- Whether the `q`-th move is a write of this reconciliation that the registry accepts. -/
def Commits (c : Traffic settings) (ms : List Move) (i q : Nat) : Prop :=
  ∃ raised f a left draft, ms[q]? = some (.advance i none raised) ∧
    (c.after ms q).flights[i]? = some f ∧ f.stage = .writing a left draft ∧
    ((c.after ms q).stores.registry.update draft).1.isOk = true

theorem calls_of_commits {i q : Nat} (h : c.Commits ms i q) : c.Calls ms i q := by
  obtain ⟨raised, f, a, left, draft, hm, hf, hstage, -⟩ := h
  exact ⟨none, raised, f, hm, hf, by rw [hstage]; rfl⟩

theorem lt_length_of_calls {i p : Nat} (h : c.Calls ms i p) : p < ms.length := by
  obtain ⟨_, _, _, hm, -⟩ := h
  exact lt_length hm

theorem lt_length_of_commits {i q : Nat} (h : c.Commits ms i q) : q < ms.length :=
  lt_length_of_calls (calls_of_commits h)

theorem eq_of_calls {i k p : Nat} (h : c.Calls ms i p) (h' : c.Calls ms k p) : i = k := by
  obtain ⟨_, _, _, hm, -⟩ := h
  obtain ⟨_, _, _, hm', -⟩ := h'
  have heq := Option.some.inj (hm.symm.trans hm')
  cases heq
  rfl

/-! ## Endings stay -/

theorem outcome?_eq_some_iff {c : Traffic settings} {i : Nat} {key : Key} {o : Outcome} :
    c.outcome? i = some (key, o) ↔
      ∃ f, c.flights[i]? = some f ∧ f.key = key ∧ f.stage = .finished (.ok o) := by
  unfold outcome?
  cases hf : c.flights[i]? with
  | none => simp
  | some f =>
    unfold Flight.outcome?
    cases hs : f.stage with
    | finished result => cases result <;> simp [hs, and_comm, eq_comm]
    | _ => simp [hs]

theorem outcome?_move {i : Nat} {key : Key} {o : Outcome} (h : c.outcome? i = some (key, o)) (m : Move) :
    (c.move m).outcome? i = some (key, o) := by
  rw [outcome?_eq_some_iff] at h ⊢
  obtain ⟨f, hf, hkey, hstage⟩ := h
  obtain ⟨s', hmoved, hs'⟩ := getElem?_flights_move hf m
  refine ⟨⟨f.copy, s'⟩, hmoved, hkey, ?_⟩
  rcases hs' with rfl | ⟨fault?, raised, -, hleads⟩
  · exact hstage
  · rw [hstage] at hleads
    exact Task.stage_of_leads_finished hleads

theorem outcome?_after {i : Nat} {key : Key} {o : Outcome} {p q : Nat}
    (h : (c.after ms p).outcome? i = some (key, o)) (hpq : p ≤ q) (hq : q ≤ ms.length) :
    (c.after ms q).outcome? i = some (key, o) := by
  obtain ⟨d, rfl⟩ := Nat.exists_eq_add_of_le hpq
  exact kept_after (P := fun c' => c'.outcome? i = some (key, o)) (fun _ m _ h => outcome?_move h m)
    h d hq

/-! ## A binding is a commit -/

/-- A reconciliation that says after a move that it bound its service said so before, or the move was its
commit. -/
theorem outcome?_move_cases {i : Nat} {key : Key} {o : Outcome} (hnew : o.newlyBound = true)
    {q : Nat} {m : Move} (hm : ms[q]? = some m)
    (h : ((c.after ms q).move m).outcome? i = some (key, o)) :
    (c.after ms q).outcome? i = some (key, o) ∨ c.Commits ms i q := by
  obtain ⟨g, hg, hkey, hstage⟩ := outcome?_eq_some_iff.1 h
  rcases flights_move_cases hg with ⟨copy, -, rfl⟩ | hf | ⟨f, fault?, raised, hf, rfl, hcopy, hleads⟩
  · rw [(Task.binding?_of_start hstage).1] at hnew
    cases hnew
  · exact .inl (outcome?_eq_some_iff.2 ⟨g, hf, hkey, hstage⟩)
  · rw [hstage] at hleads
    rcases Task.ended_of_leads hleads with
      hsame | ⟨hold, -, -⟩ | ⟨a, left, draft, hwriting, rfl, hupdate, -, -⟩
    · exact .inl (outcome?_eq_some_iff.2 ⟨f, hf, by rw [← hkey, Flight.key, Flight.key, hcopy], hsame⟩)
    · rw [hold] at hnew
      cases hnew
    · exact .inr ⟨raised, f, a, left, draft, hm, hf, hwriting, by rw [hupdate]; rfl⟩

/-- **Who says that it bound its service made a commit.** -/
theorem exists_commits_before {i : Nat} {key : Key} {o : Outcome} (hnew : o.newlyBound = true)
    (hstart : c.flights = []) :
    ∀ p, p ≤ ms.length → (c.after ms p).outcome? i = some (key, o) → ∃ q, q < p ∧ c.Commits ms i q
  | 0, _, h => by
    obtain ⟨f, hf, -⟩ := outcome?_eq_some_iff.1 h
    cases (getElem?_of_no_flights hstart i).symm.trans hf
  | p + 1, hp, h => by
    have hlt : p < ms.length := hp
    obtain ⟨m, hm⟩ := exists_move hlt
    rw [after_succ c hm] at h
    rcases outcome?_move_cases hnew hm h with hbefore | hcommit
    · obtain ⟨q, hq, hcommit⟩ := exists_commits_before hnew hstart p (Nat.le_of_lt hlt) hbefore
      exact ⟨q, Nat.lt_succ_of_lt hq, hcommit⟩
    · exact ⟨p, Nat.lt_succ_self p, hcommit⟩

theorem exists_commits (hstart : c.flights = []) {i : Nat} {key : Key} {address : String}
    (h : (c.run ms).Binds i key address) : ∃ q, c.Commits ms i q := by
  obtain ⟨s, hs⟩ := h
  rw [← after_length] at hs
  obtain ⟨q, -, hq⟩ := exists_commits_before rfl hstart ms.length (Nat.le_refl _) hs
  exact ⟨q, hq⟩

/-! ## What a commit does -/

/-- A commit replaces an unbound service by the same service bound, and ends the reconciliation. -/
theorem exists_bound_of_commits (h : c.Sound n) (hn : n + ms.length < UInt64.size) {i q : Nat}
    (hc : c.Commits ms i q) :
    ∃ f base a, (c.after ms q).flights[i]? = some f ∧ (c.after ms q).peek? f.key = some base ∧
      base.isBound = false ∧
      (c.after ms (q + 1)).peek? f.key =
        some (base.bind settings.allocatorId (Address.text a)).advanced ∧
      (c.after ms (q + 1)).outcome? i = some (f.key,
        ⟨a.text, true, (base.bind settings.allocatorId a.text).advanced⟩) := by
  obtain ⟨raised, f, a, left, draft, hm, hf, hstage, hok⟩ := hc
  have hq := lt_length hm
  have hsound := sound_after h hn q (Nat.le_of_lt hq)
  obtain ⟨base, rfl, hkey, hunbound, hbase⟩ := hsound.grounded i f hf a left draft hstage
  obtain ⟨-, -, ⟨e, he⟩ | ⟨haccepted, hstored, hnew⟩⟩ := Registry.update_bind_cases hsound.keyed
    hsound.bounded (by omega) hbase hunbound settings.allocatorId a.text
  · rw [he] at hok
    cases hok
  · rw [hkey] at hstored hnew
    have hi := (List.getElem?_eq_some_iff.1 hf).1
    have hmove : (c.after ms q).move (.advance i none raised) =
        (c.after ms q).advance i none raised := rfl
    refine ⟨f, base, a, hf, hstored, hunbound, ?_, ?_⟩
    · rw [after_succ c hm, hmove, advance_eq hf, hstage]
      exact hnew
    · rw [after_succ c hm, hmove, advance_eq hf, hstage, outcome?_eq_some_iff]
      refine ⟨_, List.getElem?_set_self hi, rfl, ?_⟩
      exact Task.stage_advance_of_accepted _ raised haccepted

/-- **What a commit leaves behind**: the service, unbound before, is the allocator's own and holds the
address that the reconciliation reports in the end. -/
theorem stored_of_commits (h : c.Sound n) (hn : n + ms.length < UInt64.size) {i q : Nat} {key : Key}
    {address : String} (hend : (c.run ms).Binds i key address) (hc : c.Commits ms i q) :
    ∃ base a t, (c.after ms q).peek? key = some base ∧ base.isBound = false ∧
      address = Address.text a ∧ (c.after ms (q + 1)).peek? key = some t ∧ t.isBound = true ∧
      t.isOwnedBy settings.allocatorId = true ∧ t.address? = some a.text ∧ t.assigned = some a.text := by
  obtain ⟨f, base, a, -, hbefore, hunbound, hafter, hended⟩ := exists_bound_of_commits h hn hc
  obtain ⟨s, hs⟩ := hend
  have hlast := outcome?_after hended (lt_length_of_commits hc) (Nat.le_refl _)
  rw [after_length, hs] at hlast
  simp only [Option.some.injEq, Prod.mk.injEq, Outcome.mk.injEq] at hlast
  obtain ⟨rfl, rfl, -⟩ := hlast
  exact ⟨base, a, _, hbefore, hunbound, rfl, hafter,
    Service.isBound_bind base settings.allocatorId a,
    Service.isOwnedBy_bind base settings.allocatorId a.text,
    Service.address?_bind base settings.allocatorId a.text, rfl⟩

end Allotment.Traffic
