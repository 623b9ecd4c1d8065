import Allotment.Proofs.AllOrNothing
import Allotment.Proofs.Alone
import Allotment.Proofs.Company
import Allotment.Proofs.Confinement
import Allotment.Rehearsal.Action
/-!
# Permanence

A failure that is not worth another try stays what it is until somebody edits the pools or
takes a service away.  What carries this is that nothing is lost (`Stores.Retains`): as
long as the services of a namespace and the pool document stay as they are, an address
that is claimed stays claimed, so a document that allots nothing goes on allotting nothing
(`Stores.Refuses`), and then no reconciliation in the namespace ever gets to a write
(`Futile`).
-/
namespace Allotment

namespace Stores

/-- Whether the services of a namespace and the pool document are still there, as they were. -/
structure Retains (settings : Settings) (ns : String) (st st' : Stores) : Prop where
  keyed : st.registry.Keyed → st'.registry.Keyed
  services : ∀ key s, key.ns = ns → st.registry.peek? key = some s → st'.registry.peek? key = some s
  document : ∀ d, st.archive.peek? settings.document = some d →
    st'.archive.peek? settings.document = some d

variable {settings : Settings} {ns : String} {st st' st'' : Stores}

theorem Retains.refl (st : Stores) : st.Retains settings ns st :=
  ⟨fun h => h, fun _ _ _ h => h, fun _ h => h⟩

theorem Retains.trans (h : st.Retains settings ns st') (h' : st'.Retains settings ns st'') :
    st.Retains settings ns st'' :=
  ⟨fun hr => h'.keyed (h.keyed hr), fun key s hns hs => h'.services key s hns (h.services key s hns hs),
    fun d hd => h'.document d (h.document d hd)⟩

/-! ## What others may do -/

/-- Whether what is done to the stores takes nothing of a namespace away. -/
def Sparing (settings : Settings) (ns : String) (deed : Stores → Stores) : Prop :=
  ∀ st : Stores, st.Retains settings ns (deed st)

/-- A service comes to be stored, unless its key is taken. -/
def arrive (s : Service) (st : Stores) : Stores :=
  if (st.registry.peek? s.key).isSome then st else { st with registry := st.registry.insert s }

theorem sparing_arrive (settings : Settings) (ns : String) (s : Service) :
    Sparing settings ns (arrive s) := by
  intro st
  unfold arrive
  by_cases htaken : (st.registry.peek? s.key).isSome = true
  · rw [if_pos htaken]
    exact .refl st
  · rw [if_neg htaken]
    refine ⟨fun hr => Registry.keyed_insert hr s, fun key t _ ht => ?_, fun _ hd => hd⟩
    have hother : s.key ≠ key := by
      rintro rfl
      rw [ht] at htaken
      exact htaken rfl
    show (st.registry.insert s).peek? key = some t
    rw [Registry.peek?_insert, if_neg hother, ht]

theorem sparing_of_same {deed : Stores → Stores}
    (hservices : ∀ st : Stores, (deed st).registry.services = st.registry.services)
    (hdocuments : ∀ st : Stores, (deed st).archive.documents = st.archive.documents) :
    Sparing settings ns deed := by
  intro st
  have hregistry : ∀ key, (deed st).registry.peek? key = st.registry.peek? key := fun key => by
    unfold Registry.peek?
    rw [hservices]
  refine ⟨fun hr key s hs => hr key s (hregistry key ▸ hs), fun key s _ hs => ?_, fun d hd => ?_⟩
  · rw [hregistry, hs]
  · unfold Archive.peek?
    rw [hdocuments]
    exact hd

/-! ## Refusal -/

/-- Whether the pool document is there and allots nothing to a namespace. -/
structure Refuses (settings : Settings) (ns : String) (d : PoolDocument) (f : Failure) (st : Stores) :
    Prop where
  keyed : st.registry.Keyed
  document : st.archive.peek? settings.document = some d
  refused : d.allot ns (st.registry.claimed ns settings.ownershipSelector) = .error f

theorem Retains.claimed (h : st.Retains settings ns st') (hr : st.registry.Keyed) (selector : String)
    {a : Address} (ha : a ∈ st.registry.claimed ns selector) :
    a ∈ st'.registry.claimed ns selector := by
  rw [Registry.mem_claimed_iff hr] at ha
  rw [Registry.mem_claimed_iff (h.keyed hr)]
  obtain ⟨key, hholds⟩ := ha
  obtain ⟨s, hs, hns, hkind, hclaim⟩ := Registry.holds_iff.1 hholds
  have hkey : key.ns = ns := by
    rw [← hr key s hs]
    exact hns
  exact ⟨key, Registry.holds_iff.2 ⟨s, h.services key s hkey hs, hns, hkind, hclaim⟩⟩

/-- **What is refused stays refused**, as long as nothing is taken away. -/
theorem Refuses.retained {d : PoolDocument} {f : Failure} (h : st.Refuses settings ns d f)
    (hkept : st.Retains settings ns st') : st'.Refuses settings ns d f := by
  refine ⟨hkept.keyed h.keyed, hkept.document d h.document, ?_⟩
  rw [PoolDocument.allot_eq_iff]
  exact (PoolDocument.allot_eq_iff.1 h.refused).mono fun a ha => hkept.claimed h.keyed _ ha

end Stores

def Company.Sparing (c : Company) (settings : Settings) (ns : String) : Prop :=
  ∀ n, Stores.Sparing settings ns (c.deed n)

/-! ## One reconciliation -/

/-- Whether an address has been chosen; from then on only what may pass can go wrong. -/
def Stage.Chosen : Stage → Prop
  | .listing | .readingDocument _ | .creatingDocument _ => False
  | .finished (.error f) => f.isRetryable = true
  | _ => True

/-- Where a reconciliation can be that has no address to get. -/
inductive Futile (d : PoolDocument) (ns : String) (f : Failure) : Stage → Prop where
  | listing : Futile d ns f .listing
  | reading {claims : Claims} : d.allot ns claims = .error f → Futile d ns f (.readingDocument claims)
  | creating {claims : Claims} : d.allot ns claims = .error f → Futile d ns f (.creatingDocument claims)
  | failed (e : Failure) : Futile d ns f (.finished (.error e))

namespace Task

variable {t : Task} {st : Stores} {d : PoolDocument} {f : Failure}

theorem futile_choose {claims : Claims} (h : d.allot t.service.ns claims = .error f) :
    Futile d t.service.ns f (t.choose claims d).stage := by
  rw [stage_choose, h]
  exact .failed f

theorem futile_afterDocument {claims : Claims} (h : d.allot t.service.ns claims = .error f)
    {answer : Except StoreFault PoolDocument} (hanswer : ∀ d', answer = .ok d' → d' = d) :
    Futile d t.service.ns f (t.afterDocument claims answer).stage := by
  unfold afterDocument
  split
  · rename_i d'
    obtain rfl := hanswer d' rfl
    exact futile_choose h
  · split
    · exact .creating h
    · exact .failed _

theorem futile_afterCreation {claims : Claims} (h : d.allot t.service.ns claims = .error f)
    {answer : Except StoreFault PoolDocument} (hanswer : ∀ d', answer = .ok d' → d' = d) :
    Futile d t.service.ns f (t.afterCreation claims answer).stage := by
  unfold afterCreation
  split
  · rename_i d'
    obtain rfl := hanswer d' rfl
    exact futile_choose h
  · exact .failed _

/-- **A call in a namespace that is refused leads to no address.** -/
theorem futile_advance (hrefuses : st.Refuses t.settings t.service.ns d f) (fault? : Option StoreFault)
    (raised : Bool) {s : Stage} (h : Futile d t.service.ns f s) :
    Futile d t.service.ns f (t.advance (Stores.troubled fault? raised) st s).1.stage := by
  cases h with
  | listing =>
    cases fault? with
    | some e => exact .failed _
    | none =>
      have hleads := t.leads_advance none raised st .listing
      generalize (t.advance (Stores.troubled none raised) st .listing).1.stage = s' at hleads ⊢
      cases hleads with
      | failed _ => exact .failed _
      | listed hlisted =>
        rw [Registry.list_eq_ok hlisted]
        exact .reading hrefuses.refused
  | reading h =>
    cases fault? with
    | some e => exact futile_afterDocument h nofun
    | none =>
      refine futile_afterDocument h fun d' hd' => ?_
      have hfound := (Archive.get_eq_ok_iff.1 hd').2
      rw [hrefuses.document] at hfound
      exact (Option.some.inj hfound).symm
  | creating h =>
    cases fault? with
    | some e => exact futile_afterCreation h nofun
    | none => exact futile_afterCreation h fun d' hd' => Archive.eq_of_create hrefuses.document hd'
  | failed e => exact .failed e

/-- **A call takes nothing of a namespace away** if it is not the write of a service there. -/
theorem retains_advance (hr : st.registry.Keyed) (fault? : Option StoreFault) (raised : Bool) {s : Stage}
    {ns : String} (hs : ∀ a left draft, s = .writing a left draft → draft.key.ns ≠ ns) :
    st.Retains t.settings ns (t.advance (Stores.troubled fault? raised) st s).2 := by
  refine ⟨fun hr => t.keyed_advance hr fault? raised s, ?_, ?_⟩
  · intro key u hns hu
    rcases t.registry_advance fault? raised st s with hsame | ⟨a, left, draft, hwriting, hwritten⟩
    · rw [hsame, hu]
    · have hother : draft.key ≠ key := fun hkey => hs a left draft hwriting (hkey ▸ hns)
      have hspares : st.registry.Spares (st.registry.update draft).2 draft.key :=
        Registry.Spares.update ⟨rfl, fun _ _ => rfl⟩ hr rfl
      rw [hwritten, hspares.others key hother, hu]
  · intro d hd
    rcases t.archive_advance fault? raised st s with hsame | hcreated
    · rw [hsame, hd]
    · rw [hcreated]
      exact Archive.peek?_create_of_some hd

/-- What holds all the way of a reconciliation beside a refused namespace: nothing is taken from there, and
if the service is one of the namespace, its reconciliation is futile or was over at the beginning. -/
structure Idle (t : Task) (ns : String) (d : PoolDocument) (f : Failure) (st : Stores) (s : Stage)
    (st' : Stores) : Prop where
  retains : st.Retains t.settings ns st'
  target : t.OfTarget s
  futile : t.service.ns = ns → Futile d ns f s ∨
    t.service.isBound = true ∧ ∃ address, s = .finished (.ok ⟨address, false, t.service⟩)

variable {ns : String} {st' : Stores}

theorem idle_start (st : Stores) : t.Idle ns d f st t.start.stage st := by
  refine ⟨.refl st, fun a left draft h => absurd h (t.stage_start_ne_writing a left draft), fun _ => ?_⟩
  rcases t.stage_start with ⟨hlisting, -⟩ | ⟨address, hbound, hfinished⟩
  · rw [hlisting]
    exact .inl .listing
  · exact .inr ⟨(Service.binding?_eq_some_iff.1 hbound).1, address, hfinished⟩

theorem idle_advance (hrefuses : st.Refuses t.settings ns d f) (fault? : Option StoreFault) (raised : Bool)
    {s : Stage} (hs : s.result? = none) (h : t.Idle ns d f st s st') :
    t.Idle ns d f st (t.advance (Stores.troubled fault? raised) st' s).1.stage
      (t.advance (Stores.troubled fault? raised) st' s).2 := by
  have hnow := hrefuses.retained h.retains
  have hfutile : t.service.ns = ns → Futile d ns f s := by
    intro hns
    rcases h.futile hns with hfutile | ⟨-, address, rfl⟩
    · exact hfutile
    · cases hs
  -- what is written is the service itself, so not one of the namespace: there it would be futile
  have hwrites : ∀ a left draft, s = .writing a left draft → draft.key.ns ≠ ns := by
    intro a left draft hwriting hns
    have hkey := h.target a left draft hwriting
    rw [hkey] at hns
    have hnone := hfutile hns
    rw [hwriting] at hnone
    cases hnone
  refine ⟨h.retains.trans (retains_advance hnow.keyed fault? raised hwrites),
    ofTarget_advance hnow.keyed fault? raised s, ?_⟩
  rintro rfl
  exact .inl (futile_advance hnow fault? raised (hfutile rfl))

/-- **A reconciliation beside a refused namespace** takes nothing from there, and gets nothing there. -/
theorem reconcile_of_refuses (hrefuses : st.Refuses t.settings ns d f) {c : Company}
    (hc : c.Sparing t.settings ns) :
    let run := t.reconcile c.surroundings (.start st)
    st.Retains t.settings ns run.2.2.stores ∧
      (t.service.ns = ns → (∃ e, run.1 = .error e) ∨
        t.service.isBound = true ∧ ∃ address, run.1 = .ok ⟨address, false, t.service⟩) := by
  intro run
  have hidle : t.Idle ns d f st (.finished run.1) run.2.2.stores :=
    t.company_keeps c (P := t.Idle ns d f st)
      (fun n _ st' h => ⟨h.retains.trans (hc n st'), h.target, h.futile⟩)
      (fun _ _ fault? raised hs h => idle_advance hrefuses fault? raised hs h) (idle_start st)
  refine ⟨hidle.retains, fun hns => ?_⟩
  rcases hidle.futile hns with hfutile | ⟨hbound, address, hfinished⟩
  · generalize run.1 = result at hfutile ⊢
    cases hfutile with
    | failed e => exact .inl ⟨e, rfl⟩
  · rw [Stage.finished.injEq] at hfinished
    exact .inr ⟨hbound, address, hfinished⟩

/-- **Alone in a refused namespace** a reconciliation fails as the document says. -/
theorem reconcile_alone_of_refuses (hrefuses : st.Refuses t.settings t.service.ns d f) (hreach : st.Reachable)
    (hunbound : t.service.isBound = false) (raised : Bool) :
    (t.reconcile (Stores.surroundings raised) st).1 = .error f ∧
      (t.reconcile (Stores.surroundings raised) st).2.2 = st := by
  obtain ⟨hopened, hdocument⟩ := Stores.opened_of_some hrefuses.document
  have hend := t.ending_start (Stores.surroundings raised) st
  rw [stage_start_of_unbound (Service.binding?_eq_none_iff.2 hunbound), ending_listing raised hreach, hdocument,
    hrefuses.refused, hopened, Prod.mk.injEq] at hend
  exact ⟨hend.1.symm, hend.2.symm⟩

/-! ## Which failures come of a refusal -/

theorem chosen_advance {σ : Type} (env : Surroundings σ) (w : σ) {s : Stage} (h : s.Chosen) :
    (t.advance env w s).1.stage.Chosen := by
  cases s with
  | listing => cases h
  | readingDocument claims => cases h
  | creatingDocument claims => cases h
  | checking a left =>
    simp only [advance, afterCheck]
    split <;> trivial
  | rereading a left =>
    simp only [advance, afterReread]
    split
    · trivial
    · split <;> trivial
  | writing a left draft =>
    simp only [advance, afterWrite]
    split
    · trivial
    · split
      · cases left <;> trivial
      · trivial
  | pausing a left =>
    simp only [advance, afterPause]
    split <;> trivial
  | sleeping a left =>
    simp only [advance, afterSleep]
    split <;> trivial
  | finished result => exact h

/-- **A failure that is not worth another try comes of a refusal.** -/
theorem refuses_of_failure (hr : st.registry.Keyed) (hreach : st.Reachable)
    (hunbound : t.service.isBound = false) {raised : Bool}
    (hfailed : (t.reconcile (Stores.surroundings raised) st).1 = .error f)
    (hlasting : f.isRetryable = false) : ∃ d, st.Refuses t.settings t.service.ns d f := by
  have hend := t.ending_start (Stores.surroundings raised) st
  rw [stage_start_of_unbound (Service.binding?_eq_none_iff.2 hunbound), ending_listing raised hreach] at hend
  cases hv : (st.document t.settings.document).allot t.service.ns
      (st.registry.claimed t.service.ns t.settings.ownershipSelector) with
  | ok a =>
    -- the address was chosen, so whatever failed later is worth another try
    rw [hv] at hend
    have hchosen := t.ending_keeps (Stores.surroundings raised) (P := fun s _ => s.Chosen)
      (fun s w _ h => chosen_advance (Stores.surroundings raised) w h)
      (.checking a (t.limit - 1)) (st.opened t.settings.document) trivial
    simp only [hend, hfailed] at hchosen
    have hworth : f.isRetryable = true := hchosen
    rw [hlasting] at hworth
    cases hworth
  | error e =>
    rw [hv, Prod.mk.injEq, hfailed] at hend
    obtain rfl : e = f := Except.error.inj hend.1
    cases hd : st.archive.peek? t.settings.document with
    | some d =>
      rw [(Stores.opened_of_some hd).2] at hv
      exact ⟨d, hr, hd, hv⟩
    | none =>
      -- an empty document has no entry that could be at fault
      rw [(Stores.opened_of_none hd).2] at hv
      have habsent : ∀ n ∈ PoolName.precedence t.service.ns, PoolDocument.empty.entry? n = none :=
        fun n _ => Std.ExtTreeMap.getElem?_empty
      rw [PoolDocument.allot_of_absent habsent] at hv
      cases hv
      cases hlasting

end Task

/-! ## Runs -/

/-- What can happen next. -/
inductive Turn where
  /-- The allocator is asked about a service, for its address or its load balancer, and answers. -/
  | order (o : Rehearsal.Order) (copy : Service) (c : Company)
  /-- It is told that a service was deleted. -/
  | release (cluster : String) (s : Service)
  /-- Somebody else does something. -/
  | others (deed : Stores → Stores)

def Turn.Sparing (settings : Settings) (ns : String) : Turn → Prop
  | .order _ _ c => c.Sparing settings ns
  | .release _ _ => True
  | .others deed => Stores.Sparing settings ns deed

namespace Stores

variable {settings : Settings} {ns : String} {d : PoolDocument} {f : Failure} {st : Stores}

def afterTurn (settings : Settings) (st : Stores) : Turn → Stores
  | .order _ copy c => (Task.reconcile ⟨settings, copy⟩ c.surroundings (.start st)).2.2.stores
  | .release _ _ => st
  | .others deed => deed st

def afterTurns (settings : Settings) (st : Stores) (turns : List Turn) : Stores :=
  turns.foldl (afterTurn settings) st

/-- **A turn takes nothing of a refused namespace away.** -/
theorem retains_afterTurn (h : st.Refuses settings ns d f) {turn : Turn} (hturn : turn.Sparing settings ns) :
    st.Retains settings ns (st.afterTurn settings turn) := by
  cases turn with
  | order o copy c => exact (Task.reconcile_of_refuses (t := ⟨settings, copy⟩) h hturn).1
  | release cluster s => exact .refl st
  | others deed => exact hturn st

/-- **Over any number of turns nothing of a refused namespace is taken away.** -/
theorem retains_afterTurns : ∀ (turns : List Turn) {st : Stores}, st.Refuses settings ns d f →
    (∀ turn ∈ turns, turn.Sparing settings ns) → st.Retains settings ns (st.afterTurns settings turns)
  | [], st, _, _ => .refl st
  | turn :: turns, st, h, hturns => by
    rw [List.forall_mem_cons] at hturns
    have hnext := retains_afterTurn h hturns.1
    exact hnext.trans (retains_afterTurns turns (h.retained hnext) hturns.2)

theorem afterTurns_append (settings : Settings) (st : Stores) (before rest : List Turn) :
    st.afterTurns settings (before ++ rest) = (st.afterTurns settings before).afterTurns settings rest :=
  List.foldl_append

/-- **A failure that is not worth another try lasts.**  When a reconciliation in a namespace has failed so,
while both stores could be reached, then, whatever turns follow in which the others take nothing of the
namespace away, all that is stored there at any time stays as it is, no service of the namespace is bound,
and every unbound one is failed.  Whenever both stores can be reached, it is failed for the same reason. -/
theorem failure_lasts (hr : st.registry.Keyed) (hreach : st.Reachable) {raised : Bool} {copy : Service}
    (hunbound : copy.isBound = false)
    (hfailed : (Task.reconcile ⟨settings, copy⟩ (Stores.surroundings raised) st).1 = .error f)
    (hlasting : f.isRetryable = false) {turns : List Turn}
    (hturns : ∀ turn ∈ turns, turn.Sparing settings copy.ns) :
    (∀ before turn rest, turns = before ++ turn :: rest →
      let met := st.afterTurns settings before
      met.Retains settings copy.ns (st.afterTurns settings turns) ∧
      ∀ o other c, turn = .order o other c → other.ns = copy.ns →
        let run := Task.reconcile ⟨settings, other⟩ c.surroundings (.start met)
        (∀ out, run.1 = .ok out → out.newlyBound = false) ∧
        (other.isBound = false → ∃ e, Rehearsal.Reply.ofResult o run.1 = .failure e)) ∧
    let now := st.afterTurns settings turns
    st.Retains settings copy.ns now ∧
    (now.Reachable → ∀ o other raised', other.ns = copy.ns → other.isBound = false →
      let run := Task.reconcile ⟨settings, other⟩ (Stores.surroundings raised') now
      run.1 = .error f ∧ Rehearsal.Reply.ofResult o run.1 = .failure f ∧ run.2.2 = now) := by
  obtain ⟨d, hrefuses⟩ :=
    Task.refuses_of_failure (t := ⟨settings, copy⟩) hr hreach hunbound hfailed hlasting
  refine ⟨?_, ?_⟩
  · rintro before turn rest rfl met
    rw [List.forall_mem_append] at hturns
    have hmet : met.Refuses settings copy.ns d f :=
      hrefuses.retained (retains_afterTurns before hrefuses hturns.1)
    refine ⟨?_, ?_⟩
    · rw [afterTurns_append]
      exact retains_afterTurns _ hmet hturns.2
    · rintro o other c rfl hns run
      have hc : c.Sparing settings copy.ns := hturns.2 _ List.mem_cons_self
      have hended := (Task.reconcile_of_refuses (t := ⟨settings, other⟩) hmet hc).2 hns
      change (∃ e, run.1 = .error e) ∨ _ ∧ ∃ address, run.1 = .ok ⟨address, false, other⟩ at hended
      rcases hended with ⟨e, he⟩ | ⟨hbound, address, ho⟩
      · rw [he]
        exact ⟨nofun, fun _ => ⟨e, rfl⟩⟩
      · rw [ho]
        refine ⟨fun out hout => ?_, fun hfree => ?_⟩
        · cases hout
          rfl
        · rw [show other.isBound = true from hbound] at hfree
          cases hfree
  · intro now
    have hkept := retains_afterTurns turns hrefuses hturns
    refine ⟨hkept, fun hreachable o other raised' hns hfree => ?_⟩
    intro run
    have hnow : now.Refuses settings other.ns d f := hns ▸ hrefuses.retained hkept
    obtain ⟨hresult, hafter⟩ :=
      Task.reconcile_alone_of_refuses (t := ⟨settings, other⟩) hnow hreachable hfree raised'
    refine ⟨hresult, ?_, hafter⟩
    rw [show run.1 = .error f from hresult]
    rfl

/-- The only address of the pool is taken.  Another service arrives, and fails while the registry is away;
elsewhere the same pool has the address free.  The services here still fail for want of an address. -/
theorem failure_lasts_past_arrival :
    let db : Service :=
      ⟨"default", "db", "", .ofList [("implementation", "vip-ipam"), ("ipam-address", "10.0.0.1")],
        some "10.0.0.1", 1, ⟨[]⟩⟩
    let web : Service := ⟨"default", "web", "", ∅, none, 1, ⟨[]⟩⟩
    let api : Service := ⟨"default", "api", "", ∅, none, 1, ⟨[]⟩⟩
    let far : Service := ⟨"far", "web", "", ∅, none, 1, ⟨[]⟩⟩
    let pools : PoolDocument := PoolDocument.empty.insert "range-global" "10.0.0.1-10.0.0.1"
    let st : Stores := ⟨((Registry.empty.insert db).insert web).insert far,
      Archive.empty.put Settings.standard.document pools⟩
    let away : Company := { Company.nobody false with fault? := fun _ => some Registry.outage }
    let turns : List Turn :=
      [.others (arrive api), .order (.ensure "main") api away,
        .others fun st => { st with registry := { st.registry with conflictsDue := 1 } },
        .order (.sync none) far (Company.nobody false), .release "main" db]
    let now := st.afterTurns Settings.standard turns
    (now.registry.peek? far.key).bind Service.binding? = some "10.0.0.1" ∧
      now.registry.peek? db.key = some db ∧
      (Task.reconcile ⟨Settings.standard, api⟩ (Stores.surroundings false) now).1 =
        .error (.exhausted "range-global") := by
  intro db web api far pools st away turns now
  have hr : st.registry.Keyed := Registry.keyed_insert
    (Registry.keyed_insert (Registry.keyed_insert Registry.keyed_empty db) web) far
  have hfailed : (Task.reconcile ⟨Settings.standard, web⟩ (Stores.surroundings false) st).1 =
      .error (.exhausted "range-global") := by decide +kernel
  have hnobody : (Company.nobody false).Sparing Settings.standard web.ns := fun _ st => .refl st
  have hturns : ∀ turn ∈ turns, turn.Sparing Settings.standard web.ns := by
    intro turn hturn
    simp only [turns, List.mem_cons, List.not_mem_nil, or_false] at hturn
    rcases hturn with rfl | rfl | rfl | rfl | rfl
    · exact sparing_arrive Settings.standard web.ns api
    · exact hnobody
    · exact sparing_of_same (fun _ => rfl) fun _ => rfl
    · exact hnobody
    · trivial
  have hunbound : web.isBound = false := rfl
  obtain ⟨-, hkept, hlasts⟩ := failure_lasts hr ⟨rfl, rfl⟩ hunbound hfailed rfl hturns
  refine ⟨by decide +kernel, hkept.services db.key db rfl (by decide +kernel), ?_⟩
  exact (hlasts ⟨by decide +kernel, by decide +kernel⟩ (.sync none) api false rfl rfl).1

end Stores
end Allotment
