import Allotment.Proofs.Gauges
import Allotment.Proofs.Passages
import Allotment.Rehearsal.Action
/-!
# Accounts

What is counted for one call of an allocator, in order: that it began, that its copy was
bound, its retries, and how it ended (`Case.owed`).  The beginning and every answer keep
that up (`sound_call`, `Sound.answered`), so a gauge shows for a call what its beginning,
its end and its conflicts say (`share_owed_cases`).
-/
namespace Allotment

open Rehearsal (Order)

/-- A call about a service: the copy that came with it, how far its reconciliation is, what was reported
and counted for it, and what it has heard. -/
structure Case where
  order : Order
  copy : Service
  stage : Stage
  trace : Trace
  heard : List Heard

namespace Case

def isDone (c : Case) : Bool := c.stage.result?.isSome

/-- Whether it failed, in a way that belongs to the gauge. -/
def failedBy (g : Gauge) (c : Case) : Bool := c.stage.failure?.any (·.gauge = g)

/-- How it began and how it ended. -/
def verdict (c : Case) : Bool × Option (Except Failure Outcome) := (c.copy.isBound, c.stage.result?)

def retries (limit : Nat) (c : Case) : Nat := c.heard.countP (·.isRetry limit)

/-- What is to be counted, in order. -/
def owed (limit : Nat) (c : Case) : List Occurrence :=
  .started :: ((if c.copy.isBound then [.alreadyBound] else []) ++
    (List.replicate (c.retries limit) .conflictRetry ++ c.stage.closing))

end Case

namespace Case

variable {limit : Nat} {c : Case}

/-- What holds of a call at every moment. -/
structure Sound (limit : Nat) (c : Case) : Prop where
  counted : c.trace.occurrences = c.owed limit
  commits : c.heard.countP Heard.isCommit = c.stage.isBinding.toNat
  keeps : c.heard.countP Heard.isKept = (!c.copy.isBound && c.stage.isKeeping).toNat
  needless : c.copy.isBound = true → c.stage.isKeeping = true

theorem Sound.unbound (h : c.Sound limit) (hwaits : c.stage.result? = none) : c.copy.isBound = false := by
  refine eq_false_of_ne_true fun hbound => ?_
  have hends := h.needless hbound
  rw [(Stage.unended_of_waiting hwaits).2.2.1] at hends
  cases hends

def answered (c : Case) (hs : List Heard) (p : Progress) : Case :=
  { c with stage := p.stage, trace := c.trace ++ p.trace, heard := c.heard ++ hs }

/-- **An answer that is booked leaves the call sound.** -/
theorem Sound.answered (h : c.Sound limit) (hwaits : c.stage.result? = none) {hs : List Heard} {p : Progress}
    (hbooked : Booking limit hs p.trace.occurrences p.stage) : (c.answered hs p).Sound limit := by
  have hunbound := h.unbound hwaits
  obtain ⟨-, hbinding, hkeeping, hclosing⟩ := Stage.unended_of_waiting hwaits
  refine ⟨?_, ?_, ?_, fun hbound => ?_⟩
  -- the call waited for this answer, so its end has not been counted yet and its copy was unbound
  · have hretries : (c.answered hs p).retries limit = c.retries limit + hs.countP (·.isRetry limit) :=
      List.countP_append
    show (c.trace ++ p.trace).occurrences =
      .started :: ((if c.copy.isBound then [.alreadyBound] else []) ++
        (List.replicate ((c.answered hs p).retries limit) .conflictRetry ++ p.stage.closing))
    rw [Trace.occurrences_append, h.counted, hbooked.occurrences_eq, hretries, owed, hclosing, hunbound,
      List.replicate_add]
    simp only [Bool.false_eq_true, if_false, List.nil_append, List.append_nil, List.cons_append,
      List.append_assoc]
  · show (c.heard ++ hs).countP Heard.isCommit = p.stage.isBinding.toNat
    rw [List.countP_append, h.commits, hbooked.countP_isCommit, hbinding, Bool.toNat_false, Nat.zero_add]
  · show (c.heard ++ hs).countP Heard.isKept = (!c.copy.isBound && p.stage.isKeeping).toNat
    rw [List.countP_append, h.keeps, hbooked.countP_isKept, hkeeping, hunbound]
    simp
  · rw [show (c.answered hs p).copy = c.copy from rfl, hunbound] at hbound
    cases hbound

theorem answered_of_done {result : Except Failure Outcome} (h : c.stage = .finished result) {σ : Type}
    (t : Task) (env : Surroundings σ) (w : σ) :
    c.answered (t.heard env w c.stage) (t.advance env w c.stage).1 = c := by
  obtain ⟨order, copy, stage, trace, heard⟩ := c
  obtain rfl : stage = .finished result := h
  show Case.mk order copy (.finished result) (trace ++ []) (heard ++ []) = _
  rw [List.append_nil, List.append_nil]

theorem sound_call (settings : Settings) (limit : Nat) (order : Order) (copy : Service) :
    let start := Task.start ⟨settings, copy⟩
    Case.Sound limit
      ⟨order, copy, start.stage, (order.notices copy.key).map .notice ++ start.trace, []⟩ := by
  have hnotices : ∀ trace : Trace,
      Trace.occurrences ((order.notices copy.key).map .notice ++ trace) = trace.occurrences := fun trace => by
    rw [Trace.occurrences_append, Trace.occurrences_map_notice, List.nil_append]
  unfold Task.start
  cases hb : copy.binding? with
  | some address =>
    have hbound := (Service.binding?_eq_some_iff.1 hb).1
    refine ⟨?_, rfl, ?_, fun _ => rfl⟩
    · rw [hnotices, owed, hbound]
      rfl
    · rw [hbound]
      rfl
  | none =>
    have hunbound := Service.binding?_eq_none_iff.1 hb
    refine ⟨?_, rfl, ?_, fun hbound => ?_⟩
    · rw [hnotices, owed, hunbound]
      rfl
    · rw [hunbound]
      rfl
    · rw [hunbound] at hbound
      cases hbound

end Case

namespace Gauge

/-- Of what is owed for a call, a gauge has the beginning, a copy that was bound, the retries or the end. -/
theorem share_owed (g : Gauge) (limit : Nat) (c : Case) : g.share (c.owed limit) =
    (if g = .reconciliations then 1 else 0) + (if g = .alreadyBound then c.copy.isBound.toNat else 0) +
      (if g = .conflictRetries then c.retries limit else 0) + g.share c.stage.closing := by
  have hretries : g.share (List.replicate (c.retries limit) .conflictRetry) =
      if g = .conflictRetries then c.retries limit else 0 := by
    rw [share, List.countP_replicate]
    simp [Occurrence.gauge, eq_comm]
  have hbound : g.share (if c.copy.isBound then [.alreadyBound] else []) =
      if g = .alreadyBound then c.copy.isBound.toNat else 0 := by
    cases c.copy.isBound <;> simp [share_cons, Occurrence.gauge, eq_comm]
  rw [Case.owed, share_cons, share_append, share_append, hretries, hbound]
  simp only [Occurrence.gauge, eq_comm]
  omega

theorem share_closing (g : Gauge) (c : Case) : g.share c.stage.closing =
    (if g = .addressesBound then c.stage.isBinding.toNat else 0) + (c.failedBy g).toNat := by
  unfold Case.failedBy
  cases c.stage with
  | finished result =>
    cases result with
    | error f =>
      simp only [Stage.closing, Stage.result?, Occurrence.closing, share_cons, share_nil, Occurrence.gauge,
        Stage.isBinding, Stage.failure?, Option.any_some]
      by_cases hf : f.gauge = g <;> simp [hf]
    | ok o =>
      simp only [Stage.closing, Stage.result?, Occurrence.closing, Stage.isBinding, Stage.failure?, Option.any_none]
      cases o.newlyBound <;> simp [share_cons, Occurrence.gauge, eq_comm]
  | _ => simp [Stage.closing, Stage.result?, Occurrence.closing, Stage.isBinding, Stage.failure?]

/-- What a gauge shows for a call that began and ended so, retries apart. -/
def ofVerdict (g : Gauge) (v : Bool × Option (Except Failure Outcome)) : Nat :=
  (if g = .reconciliations then 1 else 0) + (if g = .alreadyBound then v.1.toNat else 0) +
    g.share (Occurrence.closing v.2)

theorem share_owed_eq_ofVerdict {g : Gauge} (hg : g ≠ .conflictRetries) (limit : Nat) (c : Case) :
    g.share (c.owed limit) = g.ofVerdict c.verdict := by
  rw [share_owed, if_neg hg]
  rfl

/-- **What a gauge shows for a call.** -/
theorem share_owed_cases (limit : Nat) (c : Case) :
    reconciliations.share (c.owed limit) = 1 ∧
    alreadyBound.share (c.owed limit) = c.copy.isBound.toNat ∧
    addressesBound.share (c.owed limit) = c.stage.isBinding.toNat ∧
    conflictRetries.share (c.owed limit) = c.retries limit ∧
    deletions.share (c.owed limit) = 0 ∧
    ∀ f : Failure, f.gauge.share (c.owed limit) = (c.failedBy f.gauge).toNat := by
  have hnone : ∀ g : Gauge, (∀ f : Failure, f.gauge ≠ g) → c.failedBy g = false := by
    intro g hg
    unfold Case.failedBy
    cases c.stage.failure? with
    | none => rfl
    | some f => simp [hg f]
  simp only [share_owed, share_closing]
  refine ⟨?_, ?_, ?_, ?_, ?_, fun f => ?_⟩
  · simp [hnone _ fun f => f.gauge_ne.1]
  · simp [hnone _ fun f => f.gauge_ne.2.1]
  · simp [hnone _ fun f => f.gauge_ne.2.2.1]
  · simp [hnone _ fun f => f.gauge_ne.2.2.2.1]
  · simp [hnone _ fun f => f.gauge_ne.2.2.2.2]
  · obtain ⟨hstart, hbound, hbinding, hretry, -⟩ := f.gauge_ne
    simp [hstart, hbound, hbinding, hretry]

end Gauge

end Allotment
