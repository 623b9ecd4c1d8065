import Allotment.Proofs.Accounts
/-!
# Bookkeeping

The counters of an allocator that is asked for any number of reconciliations, which go on
side by side, and told of deletions.  What is counted for each call is known from the call
alone, so the counters show the calls and not their interleaving (`Sound.share_eq`).
-/
namespace Allotment

open Rehearsal (Order)

/-- An allocator with these settings, the calls that it was asked for, in order, and what was reported and
counted for each deletion. -/
structure Office (settings : Settings) (σ : Type) where
  world : σ
  counters : Counters
  cases : List Case
  releases : List Trace

namespace Office

/-- What can happen next. -/
inductive Move (σ : Type) where
  | call (order : Order) (copy : Service)
  /-- The call with this number gets its next answer, of whatever surroundings; `nanos` is the time since
  it began. -/
  | advance (i : Nat) (env : Surroundings σ) (nanos : Nat)
  | release (cluster : String) (s : Service)

variable {σ : Type} {settings : Settings}

def new (settings : Settings) (w : σ) : Office settings σ := ⟨w, .zero, [], []⟩

def call (b : Office settings σ) (order : Order) (copy : Service) : Office settings σ :=
  let start := Task.start ⟨settings, copy⟩
  let trace := (order.notices copy.key).map .notice ++ start.trace
  { b with
    counters := b.counters.addAll 0 trace.occurrences
    cases := b.cases ++ [⟨order, copy, start.stage, trace, []⟩] }

def advance (b : Office settings σ) (i : Nat) (env : Surroundings σ) (nanos : Nat) : Office settings σ :=
  match b.cases[i]? with
  | none => b
  | some c =>
    let t : Task := ⟨settings, c.copy⟩
    let (p, w) := t.advance env b.world c.stage
    { b with
      world := w
      counters := b.counters.addAll nanos p.trace.occurrences
      cases := b.cases.set i { c with
        stage := p.stage
        trace := c.trace ++ p.trace
        heard := c.heard ++ t.heard env b.world c.stage } }

def release (b : Office settings σ) (cluster : String) (s : Service) : Office settings σ :=
  let trace : Trace := .notice (.releasing cluster s.key) :: s.release
  { b with
    counters := b.counters.addAll 0 trace.occurrences
    releases := b.releases ++ [trace] }

def move (b : Office settings σ) : Move σ → Office settings σ
  | .call order copy => b.call order copy
  | .advance i env nanos => b.advance i env nanos
  | .release cluster s => b.release cluster s

def run (b : Office settings σ) (ms : List (Move σ)) : Office settings σ := ms.foldl move b

def occurrences (b : Office settings σ) : List Occurrence :=
  (b.cases.map (·.trace) ++ b.releases).flatMap Trace.occurrences

def heard (b : Office settings σ) : List Heard := b.cases.flatMap (·.heard)

variable {b : Office settings σ}

/-! ## What every move keeps up -/

/-- What holds at every moment. -/
structure Sound (b : Office settings σ) : Prop where
  cases : ∀ c ∈ b.cases, c.Sound settings.backoff.limit
  releases : ∀ trace ∈ b.releases, trace.occurrences = [.deletion]
  shown : ∀ g, b.counters.read g = UInt64.ofNat (g.share b.occurrences)

theorem sound_new (settings : Settings) (w : σ) : (new settings w).Sound :=
  ⟨List.forall_mem_nil _, List.forall_mem_nil _, fun g => by cases g <;> rfl⟩

theorem share_set (g : Gauge) {trace : Trace} : ∀ {cs : List Case} {i : Nat} {c c' : Case}, cs[i]? = some c →
    c'.trace = c.trace ++ trace →
      g.share (((cs.set i c').map (·.trace)).flatMap Trace.occurrences) =
        g.share ((cs.map (·.trace)).flatMap Trace.occurrences) + g.share trace.occurrences
  | [], _, _, _, h, _ => by cases h
  | c :: cs, 0, _, c', h, htrace => by
    cases h
    simp only [List.set_cons_zero, List.map_cons, List.flatMap_cons, Gauge.share_append, htrace,
      Trace.occurrences_append]
    omega
  | c :: cs, i + 1, _, c', h, htrace => by
    have hrest := share_set g (show cs[i]? = some _ from h) htrace
    simp only [List.set_cons_succ, List.map_cons, List.flatMap_cons, Gauge.share_append, hrest]
    omega

theorem shown_addAll {g : Gauge} (h : b.counters.read g = UInt64.ofNat (g.share b.occurrences)) (nanos : Nat)
    {os os' : List Occurrence} (hos : g.share os' = g.share b.occurrences + g.share os) :
    (b.counters.addAll nanos os).read g = UInt64.ofNat (g.share os') := by
  rw [Counters.read_addAll, h, hos, UInt64.ofNat_add]

theorem sound_call (h : b.Sound) (order : Order) (copy : Service) : (b.call order copy).Sound := by
  refine ⟨?_, h.releases, fun g => shown_addAll (h.shown g) 0 ?_⟩
  · rw [call]
    simp only [List.forall_mem_append, List.forall_mem_singleton]
    exact ⟨h.cases, Case.sound_call settings _ order copy⟩
  · simp [call, occurrences]
    omega

theorem sound_release (h : b.Sound) (cluster : String) (s : Service) : (b.release cluster s).Sound := by
  refine ⟨h.cases, ?_, fun g => shown_addAll (h.shown g) 0 ?_⟩
  · rw [release]
    simp only [List.forall_mem_append, List.forall_mem_singleton]
    exact ⟨h.releases, rfl⟩
  · simp [release, occurrences]
    omega

theorem advance_of_some {i : Nat} {c : Case} (h : b.cases[i]? = some c) (env : Surroundings σ) (nanos : Nat) :
    b.advance i env nanos =
      let t : Task := ⟨settings, c.copy⟩
      let next := t.advance env b.world c.stage
      { b with
        world := next.2
        counters := b.counters.addAll nanos next.1.trace.occurrences
        cases := b.cases.set i (c.answered (t.heard env b.world c.stage) next.1) } := by
  rw [advance, h]
  rfl

theorem sound_advance (h : b.Sound) (i : Nat) (env : Surroundings σ) (nanos : Nat) :
    (b.advance i env nanos).Sound := by
  cases hi : b.cases[i]? with
  | none =>
    rw [advance, hi]
    exact h
  | some c =>
    rw [advance_of_some hi]
    have hc : c.Sound settings.backoff.limit := h.cases c (List.mem_of_getElem? hi)
    refine ⟨fun x hx => ?_, h.releases, fun g => shown_addAll (h.shown g) nanos ?_⟩
    · rcases List.mem_or_eq_of_mem_set hx with hold | rfl
      · exact h.cases x hold
      · cases hs : c.stage.result? with
        | none => exact hc.answered hs (Task.booking_advance ⟨settings, c.copy⟩ env b.world hs)
        | some result =>
          have hdone := Stage.eq_finished_of_result? hs
          rw [Case.answered_of_done hdone]
          exact hc
    · simp only [occurrences, List.flatMap_append, Gauge.share_append]
      rw [share_set g hi rfl]
      omega

theorem sound_run : ∀ (ms : List (Move σ)) {b : Office settings σ}, b.Sound → (b.run ms).Sound
  | [], _, h => h
  | m :: ms, b, h => by
    refine sound_run ms (b := b.move m) ?_
    cases m with
    | call order copy => exact sound_call h order copy
    | advance i env nanos => exact sound_advance h i env nanos
    | release cluster s => exact sound_release h cluster s

/-! ## What the gauges show -/

theorem countP_cons_eq_add {α : Type} (q : α → Bool) (x : α) (l : List α) :
    (x :: l).countP q = l.countP q + (q x).toNat := by
  rw [List.countP_cons]
  cases q x <;> rfl

theorem sum_map_eq_countP {α : Type} {f : α → Nat} {q : α → Bool} : ∀ {l : List α},
    (∀ x ∈ l, f x = (q x).toNat) → (l.map f).sum = l.countP q
  | [], _ => rfl
  | x :: l, h => by
    rw [List.forall_mem_cons] at h
    rw [List.map_cons, List.sum_cons, sum_map_eq_countP h.2, h.1, countP_cons_eq_add, Nat.add_comm]

theorem Sound.occurrences_eq (h : b.Sound) :
    b.occurrences = b.cases.flatMap (·.owed settings.backoff.limit) ++ b.releases.map fun _ => .deletion := by
  have hcases : (b.cases.map (·.trace)).flatMap Trace.occurrences =
      b.cases.flatMap (·.owed settings.backoff.limit) := by
    rw [List.flatMap_map]
    exact List.flatMap_congr fun c hc => (h.cases c hc).counted
  have hreleases : b.releases.flatMap Trace.occurrences = b.releases.map fun _ => .deletion := by
    rw [List.map_eq_flatMap]
    exact List.flatMap_congr h.releases
  rw [occurrences, List.flatMap_append, hcases, hreleases]

theorem Sound.share_eq (h : b.Sound) (g : Gauge) :
    g.share b.occurrences = (b.cases.map fun c => g.share (c.owed settings.backoff.limit)).sum +
      if g = .deletions then b.releases.length else 0 := by
  rw [h.occurrences_eq, Gauge.share_append]
  congr 1
  · exact List.countP_flatMap
  · rw [List.map_const', Gauge.share, List.countP_replicate]
    simp [Occurrence.gauge, eq_comm]

/-- Whether the counters tell what became of the calls. -/
structure Balanced (b : Office settings σ) : Prop where
  reconciliations : b.counters.reconciliations.toNat = b.cases.length
  alreadyBound : b.counters.alreadyBound.toNat = b.cases.countP (·.copy.isBound)
  addressesBound : b.counters.addressesBound.toNat = b.cases.countP (·.stage.isBinding)
  /-- The bindings are the writes that were accepted. -/
  commits : b.heard.countP Heard.isCommit = b.cases.countP (·.stage.isBinding)
  failures : ∀ f : Failure, (b.counters.read f.gauge).toNat = b.cases.countP (·.failedBy f.gauge)
  totalFailures : b.counters.totalFailures.toNat = b.cases.countP (·.stage.failure?.isSome)
  deletions : b.counters.deletions.toNat = b.releases.length
  conflictRetries : b.counters.conflictRetries.toNat = b.heard.countP (·.isRetry settings.backoff.limit)
  /-- The bindings that were kept are those that were found. -/
  keeps : b.heard.countP Heard.isKept = b.cases.countP fun c => !c.copy.isBound && c.stage.isKeeping
  /-- Once all calls are done, each of them is accounted for. -/
  balance : (∀ c ∈ b.cases, c.isDone = true) →
    b.counters.reconciliations.toNat = b.counters.alreadyBound.toNat + b.counters.addressesBound.toNat +
      b.counters.totalFailures.toNat + b.cases.countP fun c => !c.copy.isBound && c.stage.isKeeping

/-- A gauge whose share of every call is told by a property shows how many calls have it. -/
theorem Sound.share_eq_countP (h : b.Sound) {g : Gauge} (hg : g ≠ .deletions) {q : Case → Bool}
    (hq : ∀ c ∈ b.cases, g.share (c.owed settings.backoff.limit) = (q c).toNat) :
    g.share b.occurrences = b.cases.countP q := by
  rw [h.share_eq, if_neg hg, Nat.add_zero, sum_map_eq_countP hq]

/-- Of four properties that exclude each other, each is counted by itself. -/
theorem countP_four {α : Type} {p q r s t : α → Bool} : ∀ {l : List α},
    (∀ x ∈ l, (p x).toNat + (q x).toNat + (r x).toNat + (s x).toNat = (t x).toNat) →
      l.countP p + l.countP q + l.countP r + l.countP s = l.countP t
  | [], _ => rfl
  | x :: l, h => by
    rw [List.forall_mem_cons] at h
    have hx := h.1
    have hl := countP_four h.2
    simp only [countP_cons_eq_add]
    omega

theorem countP_failures (cs : List Case) :
    cs.countP (·.failedBy .poolNotFound) + cs.countP (·.failedBy .invalidPool) +
      cs.countP (·.failedBy .exhausted) + cs.countP (·.failedBy .persistence) =
    cs.countP (·.stage.failure?.isSome) := by
  refine countP_four fun c _ => ?_
  unfold Case.failedBy
  cases c.stage.failure? with
  | none => rfl
  | some f => cases f <;> rfl

/-- **Once it is done, a call was needless, or it bound its service, failed, or kept a binding.** -/
theorem length_eq_of_done {cs : List Case} {limit : Nat} (hsound : ∀ c ∈ cs, c.Sound limit)
    (hdone : ∀ c ∈ cs, c.isDone = true) :
    cs.length = cs.countP (·.copy.isBound) + cs.countP (·.stage.isBinding) +
      cs.countP (·.stage.failure?.isSome) + cs.countP fun c => !c.copy.isBound && c.stage.isKeeping := by
  rw [countP_four (t := fun _ => true), List.countP_true]
  intro c hc
  obtain ⟨result, hresult⟩ := Option.isSome_iff_exists.1 (hdone c hc)
  have hneedless := (hsound c hc).needless
  rw [Stage.eq_finished_of_result? hresult] at hneedless ⊢
  cases result with
  | error f =>
    cases hbound : c.copy.isBound with
    | true => cases hneedless hbound
    | false => rfl
  | ok o =>
    cases hbound : c.copy.isBound with
    | true =>
      have hold : (!o.newlyBound) = true := hneedless hbound
      simp_all [Stage.isBinding, Stage.failure?, Stage.isKeeping]
    | false => cases hnew : o.newlyBound <;> simp [Stage.isBinding, Stage.failure?, Stage.isKeeping, hnew]

theorem Sound.balanced (h : b.Sound) (hfew : b.occurrences.length < UInt64.size) : b.Balanced := by
  have hread : ∀ g, (b.counters.read g).toNat = g.share b.occurrences := fun g => by
    rw [h.shown g]
    exact UInt64.toNat_ofNat_of_lt (Nat.lt_of_le_of_lt (g.share_le_length _) hfew)
  have howed := fun c : Case => Gauge.share_owed_cases settings.backoff.limit c
  have hreconciliations : b.counters.reconciliations.toNat = b.cases.length := by
    rw [← List.countP_true]
    exact (hread .reconciliations).trans (h.share_eq_countP (by decide) fun c _ => (howed c).1)
  have hbound : b.counters.alreadyBound.toNat = b.cases.countP (·.copy.isBound) :=
    (hread .alreadyBound).trans (h.share_eq_countP (by decide) fun c _ => (howed c).2.1)
  have hbinding : b.counters.addressesBound.toNat = b.cases.countP (·.stage.isBinding) :=
    (hread .addressesBound).trans (h.share_eq_countP (by decide) fun c _ => (howed c).2.2.1)
  have hfailures : ∀ f : Failure, (b.counters.read f.gauge).toNat = b.cases.countP (·.failedBy f.gauge) := fun f =>
    (hread f.gauge).trans (h.share_eq_countP f.gauge_ne.2.2.2.2 fun c _ => (howed c).2.2.2.2.2 f)
  have htotal : b.counters.totalFailures.toNat = b.cases.countP (·.stage.failure?.isSome) := by
    -- the sum of the four does not wrap: they count different calls, and the calls fit in a gauge
    have hle := b.cases.countP_le_length (p := (·.stage.failure?.isSome))
    have hsize : b.cases.length < 2 ^ 64 := hreconciliations ▸ UInt64.toNat_lt _
    have hunpooled : b.counters.poolNotFound.toNat = b.cases.countP (·.failedBy .poolNotFound) :=
      hfailures (.poolNotFound "")
    have hinvalid : b.counters.invalidPool.toNat = b.cases.countP (·.failedBy .invalidPool) :=
      hfailures (.invalidPool "" (.noHosts ""))
    have hexhausted : b.counters.exhausted.toNat = b.cases.countP (·.failedBy .exhausted) :=
      hfailures (.exhausted "")
    have hpersistence : b.counters.persistence.toNat = b.cases.countP (·.failedBy .persistence) :=
      hfailures (.cancelled "")
    rw [← countP_failures] at hle ⊢
    simp only [Counters.totalFailures, UInt64.toNat_add, hunpooled, hinvalid, hexhausted, hpersistence]
    omega
  have hcommits : b.heard.countP Heard.isCommit = b.cases.countP (·.stage.isBinding) := by
    rw [heard, List.countP_flatMap]
    exact sum_map_eq_countP fun c hc => (h.cases c hc).commits
  have hkeeps : b.heard.countP Heard.isKept =
      b.cases.countP fun c => !c.copy.isBound && c.stage.isKeeping := by
    rw [heard, List.countP_flatMap]
    exact sum_map_eq_countP fun c hc => (h.cases c hc).keeps
  have hdeletions : b.counters.deletions.toNat = b.releases.length := by
    refine (hread .deletions).trans ?_
    rw [h.share_eq, if_pos rfl, List.map_congr_left fun c _ => (howed c).2.2.2.2.1]
    simp
  have hretries : b.counters.conflictRetries.toNat = b.heard.countP (·.isRetry settings.backoff.limit) := by
    refine (hread .conflictRetries).trans ?_
    rw [h.share_eq, if_neg (by decide), List.map_congr_left fun c _ => (howed c).2.2.2.1, heard,
      List.countP_flatMap]
    rfl
  refine ⟨hreconciliations, hbound, hbinding, hcommits, hfailures, htotal, hdeletions, hretries, hkeeps, ?_⟩
  intro hdone
  rw [hreconciliations, hbound, hbinding, htotal]
  exact length_eq_of_done h.cases hdone

/-- **The order of the calls does not show.**  Only the retries depend on more than how each call began and
ended. -/
theorem Sound.read_eq_of_perm {τ : Type} {b' : Office settings τ} (h : b.Sound) (h' : b'.Sound)
    (hcases : (b.cases.map Case.verdict).Perm (b'.cases.map Case.verdict))
    (hreleases : b.releases.length = b'.releases.length) (g : Gauge)
    (hretries : g = .conflictRetries →
      b.heard.countP (·.isRetry settings.backoff.limit) = b'.heard.countP (·.isRetry settings.backoff.limit)) :
    b.counters.read g = b'.counters.read g := by
  rw [h.shown, h'.shown, h.share_eq, h'.share_eq, hreleases]
  congr 2
  by_cases hg : g = .conflictRetries
  · have hshare : ∀ c : Case, g.share (c.owed settings.backoff.limit) = c.retries settings.backoff.limit :=
      fun c => hg ▸ (Gauge.share_owed_cases settings.backoff.limit c).2.2.2.1
    have hheard := hretries hg
    simp only [hshare]
    rwa [heard, heard, List.countP_flatMap, List.countP_flatMap] at hheard
  · have hsum := (hcases.map g.ofVerdict).sum_nat
    rw [List.map_map, List.map_map] at hsum
    simp only [Gauge.share_owed_eq_ofVerdict hg]
    exact hsum

/-- **The counters balance.**  Whatever the stores answer, whenever the signals are raised, and however the
calls interleave: the counters tell what became of the calls, as long as fewer than 2^64 things were
counted.  Another run of calls that began and ended the same, in whatever order, shows the same, but for
the retries, which show the conflicts that were met. -/
theorem counters_balance (settings : Settings) (w : σ) (ms : List (Move σ))
    (hfew : ((new settings w).run ms).occurrences.length < UInt64.size) :
    let b := (new settings w).run ms
    b.Balanced ∧
    ∀ {τ : Type} (w' : τ) (ms' : List (Move τ)),
      let b' := (new settings w').run ms'
      (b.cases.map Case.verdict).Perm (b'.cases.map Case.verdict) → b.releases.length = b'.releases.length →
      ∀ g : Gauge, (g = .conflictRetries → b.heard.countP (·.isRetry settings.backoff.limit) =
        b'.heard.countP (·.isRetry settings.backoff.limit)) → b.counters.read g = b'.counters.read g := by
  intro b
  have hsound : b.Sound := sound_run ms (sound_new settings w)
  refine ⟨hsound.balanced hfew, fun w' ms' hcases hreleases g hretries => ?_⟩
  exact hsound.read_eq_of_perm (sound_run ms' (sound_new settings w')) hcases hreleases g hretries

/-- One call binds its service, past a conflict, while another one is needless. -/
theorem counters_balance_past_conflict :
    let web : Service := ⟨"default", "web", "", ∅, none, 1, ⟨[]⟩⟩
    let db : Service := ⟨"default", "db", "", ∅, some "10.0.0.9", 1, ⟨[]⟩⟩
    let pools : PoolDocument := PoolDocument.empty.insert "cidr-default" "10.0.0.0/29"
    let st : Stores := ⟨{ Registry.empty.insert web with conflictsDue := 1 },
      Archive.empty.put Settings.standard.document pools⟩
    let next : Move Stores := .advance 0 (Stores.surroundings false) 7
    let ms : List (Move Stores) := [.call (.sync none) web, next, next, .call (.ensure "east") db, next, next,
      .release "east" db, next, next, next, next, next, next]
    let b := (new Settings.standard st).run ms
    b.occurrences.length < UInt64.size ∧ (∀ c ∈ b.cases, c.isDone = true) ∧
      b.counters.reconciliations.toNat = b.counters.alreadyBound.toNat + b.counters.addressesBound.toNat +
        b.counters.totalFailures.toNat + b.cases.countP (fun c => !c.copy.isBound && c.stage.isKeeping) ∧
      b.counters = ⟨2, 1, 1, 1, 1, 0, 0, 0, 0, 7⟩ := by
  intro web db pools st next ms b
  have hfew : b.occurrences.length < UInt64.size := by decide +kernel
  have hdone : ∀ c ∈ b.cases, c.isDone = true := by decide +kernel
  have hbalanced : b.Balanced := (counters_balance Settings.standard st ms hfew).1
  have hcounters : b.counters = ⟨2, 1, 1, 1, 1, 0, 0, 0, 0, 7⟩ := by decide +kernel
  exact ⟨hfew, hdone, hbalanced.balance hdone, hcounters⟩

end Office
end Allotment
