import Allotment.Proofs.Growth
import Allotment.Reconcile
/-!
# Gauges

What counters show.  Every occurrence belongs to one gauge, and a gauge shows how many of
its own there were (`read_addAll`).  What a reconciliation counts goes with what it hears
from the store of services about its own (`Heard`): a binding that it keeps, a write that
is accepted, a conflict that leaves it another attempt, or nothing of the kind
(`booking_advance`).
-/
namespace Allotment

inductive Gauge where
  | reconciliations
  | alreadyBound
  | addressesBound
  | conflictRetries
  | deletions
  | poolNotFound
  | invalidPool
  | exhausted
  | persistence
deriving DecidableEq

def Counters.read (c : Counters) : Gauge → UInt64
  | .reconciliations => c.reconciliations
  | .alreadyBound => c.alreadyBound
  | .addressesBound => c.addressesBound
  | .conflictRetries => c.conflictRetries
  | .deletions => c.deletions
  | .poolNotFound => c.poolNotFound
  | .invalidPool => c.invalidPool
  | .exhausted => c.exhausted
  | .persistence => c.persistence

def Failure.gauge : Failure → Gauge
  | .poolNotFound _ => .poolNotFound
  | .invalidPool _ _ => .invalidPool
  | .exhausted _ => .exhausted
  | .persistenceFailed _ _ | .cancelled _ | .store _ => .persistence

theorem Failure.gauge_ne (f : Failure) : f.gauge ≠ .reconciliations ∧ f.gauge ≠ .alreadyBound ∧
    f.gauge ≠ .addressesBound ∧ f.gauge ≠ .conflictRetries ∧ f.gauge ≠ .deletions := by
  cases f <;> simp [gauge]

def Occurrence.gauge : Occurrence → Gauge
  | .started => .reconciliations
  | .alreadyBound => .alreadyBound
  | .bound => .addressesBound
  | .conflictRetry => .conflictRetries
  | .failure f => f.gauge
  | .deletion => .deletions

/-- What is counted at the end, if that has come. -/
def Occurrence.closing : Option (Except Failure Outcome) → List Occurrence
  | some (.error f) => [.failure f]
  | some (.ok o) => if o.newlyBound then [.bound] else []
  | none => []

/-- How many of the occurrences belong to a gauge. -/
def Gauge.share (g : Gauge) (os : List Occurrence) : Nat := os.countP fun o => o.gauge = g

namespace Gauge

@[simp] theorem share_nil (g : Gauge) : g.share [] = 0 := rfl

theorem share_cons (g : Gauge) (o : Occurrence) (os : List Occurrence) :
    g.share (o :: os) = g.share os + if o.gauge = g then 1 else 0 := by
  simp [share, List.countP_cons]

@[simp] theorem share_append (g : Gauge) (os os' : List Occurrence) :
    g.share (os ++ os') = g.share os + g.share os' :=
  List.countP_append

theorem share_le_length (g : Gauge) (os : List Occurrence) : g.share os ≤ os.length := List.countP_le_length

end Gauge

namespace Counters

theorem read_add (c : Counters) (nanos : Nat) (o : Occurrence) (g : Gauge) :
    (c.add nanos o).read g = c.read g + UInt64.ofNat (if o.gauge = g then 1 else 0) := by
  cases o with
  | failure f => cases f <;> cases g <;> simp [add, addFailure, read, Occurrence.gauge, Failure.gauge]
  | _ => cases g <;> simp [add, read, Occurrence.gauge]

/-- **A gauge shows how many occurrences were its own.** -/
theorem read_addAll (nanos : Nat) (g : Gauge) : ∀ (os : List Occurrence) (c : Counters),
    (c.addAll nanos os).read g = c.read g + UInt64.ofNat (g.share os)
  | [], c => by simp [addAll]
  | o :: os, c => by
    show ((c.add nanos o).addAll nanos os).read g = _
    rw [read_addAll nanos g os, read_add, g.share_cons, UInt64.add_assoc, ← UInt64.ofNat_add, Nat.add_comm]

end Counters

namespace Trace

@[simp] theorem occurrences_append (trace trace' : Trace) :
    occurrences (trace ++ trace') = occurrences trace ++ occurrences trace' :=
  List.filterMap_append

@[simp] theorem occurrences_map_notice (ns : List Notice) : occurrences (ns.map .notice) = [] := by
  simp [occurrences, Event.occurrence?, Function.comp_def]

end Trace

/-- What a reconciliation hears about its service: as it is stored, or what came of a write. -/
inductive Heard where
  | reread (answer : Except StoreFault Service)
  | wrote (attempt : Nat) (answer : Except StoreFault Service)

namespace Heard

/-- Whether the service is bound already. -/
def isKept : Heard → Bool
  | reread (.ok latest) => latest.isBound
  | _ => false

/-- Whether a write was accepted. -/
def isCommit : Heard → Bool
  | wrote _ (.ok _) => true
  | _ => false

/-- Whether a write met a conflict, and more attempts are allowed. -/
def isRetry (limit : Nat) : Heard → Bool
  | wrote attempt (.error f) => f.isConflict && attempt < limit
  | _ => false

theorem others_of_isKept {h : Heard} (hkept : h.isKept = true) (limit : Nat) :
    h.isCommit = false ∧ h.isRetry limit = false := by
  cases h with
  | reread answer => exact ⟨rfl, rfl⟩
  | wrote attempt answer => cases hkept

theorem others_of_isCommit {h : Heard} (hcommit : h.isCommit = true) (limit : Nat) :
    h.isKept = false ∧ h.isRetry limit = false := by
  cases h with
  | reread answer => cases hcommit
  | wrote attempt answer =>
    cases answer with
    | error f => cases hcommit
    | ok stored => exact ⟨rfl, rfl⟩

theorem others_of_isRetry {limit : Nat} {h : Heard} (hretry : h.isRetry limit = true) :
    h.isKept = false ∧ h.isCommit = false := by
  cases h with
  | reread answer => cases hretry
  | wrote attempt answer =>
    cases answer with
    | error f => exact ⟨rfl, rfl⟩
    | ok stored => cases hretry

/-- Whether it is none of these. -/
structure Plain (limit : Nat) (h : Heard) : Prop where
  kept : h.isKept = false
  commit : h.isCommit = false
  retry : h.isRetry limit = false

end Heard

namespace Stage

def failure? : Stage → Option Failure
  | finished (.error f) => some f
  | _ => none

/-- Whether a reconciliation ended with a binding of its own. -/
def isBinding : Stage → Bool
  | finished (.ok o) => o.newlyBound
  | _ => false

/-- Whether it ended with a binding that it found. -/
def isKeeping : Stage → Bool
  | finished (.ok o) => !o.newlyBound
  | _ => false

def closing (s : Stage) : List Occurrence := Occurrence.closing s.result?

theorem unended_of_waiting {s : Stage} (h : s.result? = none) :
    s.failure? = none ∧ s.isBinding = false ∧ s.isKeeping = false ∧ s.closing = [] := by
  cases s with
  | finished result => cases h
  | _ => exact ⟨rfl, rfl, rfl, rfl⟩

end Stage

/-- What is heard, counted and reached with one answer. -/
inductive Booking (limit : Nat) : List Heard → List Occurrence → Stage → Prop where
  | waits {hs : List Heard} {s : Stage} : (∀ h ∈ hs, h.Plain limit) → s.result? = none → Booking limit hs [] s
  | retries {h : Heard} {s : Stage} : h.isRetry limit = true → s.result? = none →
      Booking limit [h] [.conflictRetry] s
  | fails {hs : List Heard} {f : Failure} : (∀ h ∈ hs, h.Plain limit) →
      Booking limit hs [.failure f] (.finished (.error f))
  | keeps {h : Heard} {o : Outcome} : h.isKept = true → o.newlyBound = false →
      Booking limit [h] [] (.finished (.ok o))
  | binds {h : Heard} {o : Outcome} : h.isCommit = true → o.newlyBound = true →
      Booking limit [h] [.bound] (.finished (.ok o))

namespace Booking

variable {limit : Nat} {hs : List Heard} {os : List Occurrence} {s : Stage}

theorem countP_of_plain {q : Heard → Bool} (h : ∀ x ∈ hs, q x = false) : hs.countP q = 0 :=
  List.countP_eq_zero.2 fun x hx => ne_true_of_eq_false (h x hx)

/-- **A retry is counted when a conflict is heard that leaves another attempt**, and the end when it comes. -/
theorem occurrences_eq (h : Booking limit hs os s) :
    os = List.replicate (hs.countP (·.isRetry limit)) .conflictRetry ++ s.closing := by
  cases h with
  | waits hplain hwaits =>
    rw [countP_of_plain fun x hx => (hplain x hx).retry, (Stage.unended_of_waiting hwaits).2.2.2]
    rfl
  | retries hretry hwaits =>
    rw [List.countP_singleton, if_pos hretry, (Stage.unended_of_waiting hwaits).2.2.2]
    rfl
  | fails hplain =>
    rw [countP_of_plain fun x hx => (hplain x hx).retry]
    rfl
  | keeps hkept hold => simp [(Heard.others_of_isKept hkept limit).2, Stage.closing, Stage.result?, Occurrence.closing, hold]
  | binds hcommit hnew => simp [(Heard.others_of_isCommit hcommit limit).2, Stage.closing, Stage.result?, Occurrence.closing, hnew]

/-- **An accepted write is heard exactly at the end with a binding of its own.** -/
theorem countP_isCommit (h : Booking limit hs os s) : hs.countP Heard.isCommit = s.isBinding.toNat := by
  cases h with
  | waits hplain hwaits =>
    rw [countP_of_plain fun x hx => (hplain x hx).commit, (Stage.unended_of_waiting hwaits).2.1]
    rfl
  | retries hretry hwaits =>
    rw [List.countP_singleton, (Heard.others_of_isRetry hretry).2, (Stage.unended_of_waiting hwaits).2.1]
    rfl
  | fails hplain =>
    rw [countP_of_plain fun x hx => (hplain x hx).commit]
    rfl
  | keeps hkept hold => simp [(Heard.others_of_isKept hkept limit).1, Stage.isBinding, hold]
  | binds hcommit hnew => simp [hcommit, Stage.isBinding, hnew]

/-- **A binding is found exactly at the end with a binding that is kept.** -/
theorem countP_isKept (h : Booking limit hs os s) : hs.countP Heard.isKept = s.isKeeping.toNat := by
  cases h with
  | waits hplain hwaits =>
    rw [countP_of_plain fun x hx => (hplain x hx).kept, (Stage.unended_of_waiting hwaits).2.2.1]
    rfl
  | retries hretry hwaits =>
    rw [List.countP_singleton, (Heard.others_of_isRetry hretry).1, (Stage.unended_of_waiting hwaits).2.2.1]
    rfl
  | fails hplain =>
    rw [countP_of_plain fun x hx => (hplain x hx).kept]
    rfl
  | keeps hkept hold => simp [hkept, Stage.isKeeping, hold]
  | binds hcommit hnew => simp [(Heard.others_of_isCommit hcommit limit).1, Stage.isKeeping, hnew]

end Booking

namespace Task

variable {σ : Type} (t : Task)

/-- What is heard with the next answer. -/
def heard (env : Surroundings σ) (w : σ) : Stage → List Heard
  | .rereading _ _ => [.reread (env.get w t.service.key).1]
  | .writing _ left draft => [.wrote (t.attempt left) (env.update w draft).1]
  | _ => []

/-- Whether a progress books what was heard before. -/
def Books (hs : List Heard) (p : Progress) : Prop := Booking t.limit hs p.trace.occurrences p.stage

theorem books_fail {hs : List Heard} (h : ∀ x ∈ hs, x.Plain t.limit) (f : Failure) : t.Books hs (t.fail f) :=
  .fails h

theorem books_after {hs : List Heard} {trace : Trace} (htrace : trace.occurrences = []) {p : Progress}
    (h : t.Books hs p) : t.Books hs (after trace p) := by
  unfold Books after
  rw [Trace.occurrences_append, htrace]
  exact h

theorem books_unless (stopped : Bool) {s : Stage} (hs : s.result? = none) :
    t.Books [] (if stopped then t.cancel else ⟨s, []⟩) := by
  cases stopped with
  | true => exact t.books_fail (List.forall_mem_nil _) _
  | false => exact .waits (List.forall_mem_nil _) hs

theorem books_afterList (listed : Except StoreFault (List Service)) : t.Books [] (t.afterList listed) := by
  refine t.books_after (Trace.occurrences_map_notice _) ?_
  cases listed with
  | error f => exact t.books_fail (List.forall_mem_nil _) _
  | ok ss => exact .waits (List.forall_mem_nil _) rfl

theorem books_choose (claims : Claims) (d : PoolDocument) : t.Books [] (t.choose claims d) := by
  refine t.books_after (Trace.occurrences_map_notice _) ?_
  cases d.governing t.service.ns with
  | error f => exact t.books_fail (List.forall_mem_nil _) f
  | ok p =>
    refine t.books_after (Trace.occurrences_map_notice _) ?_
    cases p.allocate claims with
    | error f => exact t.books_fail (List.forall_mem_nil _) f
    | ok a => exact .waits (List.forall_mem_nil _) rfl

theorem books_afterDocument (claims : Claims) (answer : Except StoreFault PoolDocument) :
    t.Books [] (t.afterDocument claims answer) := by
  unfold afterDocument
  split
  · exact t.books_choose claims _
  · split
    · exact .waits (List.forall_mem_nil _) rfl
    · exact t.books_fail (List.forall_mem_nil _) _

theorem books_afterCreation (claims : Claims) (answer : Except StoreFault PoolDocument) :
    t.Books [] (t.afterCreation claims answer) := by
  unfold afterCreation
  split
  · exact t.books_choose claims _
  · exact t.books_fail (List.forall_mem_nil _) _

theorem books_afterReread (a : Address) (left : Nat) (answer : Except StoreFault Service) :
    t.Books [.reread answer] (t.afterReread a left answer) := by
  unfold afterReread
  split
  · exact t.books_fail (List.forall_mem_singleton.2 ⟨rfl, rfl, rfl⟩) _
  · rename_i latest
    split
    · rename_i address hbound
      exact .keeps (Service.binding?_eq_some_iff.1 hbound).1 rfl
    · rename_i hunbound
      have hplain : (Heard.reread (.ok latest)).Plain t.limit :=
        ⟨Service.binding?_eq_none_iff.1 hunbound, rfl, rfl⟩
      exact .waits (List.forall_mem_singleton.2 hplain) rfl

theorem books_afterWrite (a : Address) (left : Nat) (answer : Except StoreFault Service) :
    t.Books [.wrote (t.attempt left) answer] (t.afterWrite a left answer) := by
  have hlimit : 0 < t.limit := Nat.lt_of_lt_of_le Nat.one_pos (Nat.le_max_right _ _)
  unfold afterWrite
  split
  · exact .binds rfl rfl
  · rename_i f
    -- what ends a reconciliation is not counted as a retry, also when it is a conflict
    have hplain (h : f.isConflict = false ∨ left = 0) :
        ∀ x ∈ [Heard.wrote (t.attempt left) (.error f)], x.Plain t.limit := by
      refine List.forall_mem_singleton.2 ⟨rfl, rfl, ?_⟩
      rcases h with hother | rfl
      · simp [Heard.isRetry, hother]
      · simp [Heard.isRetry, attempt]
    split
    · rename_i hconflict
      refine t.books_after rfl ?_
      cases left with
      | zero => exact t.books_fail (hplain (.inr rfl)) _
      | succ left =>
        have hearlier : t.attempt (left + 1) < t.limit := by
          unfold attempt
          omega
        exact .retries (by simp [Heard.isRetry, hconflict, hearlier]) rfl
    · rename_i hother
      exact t.books_fail (hplain (.inl (eq_false_of_ne_true hother))) _

/-- **Every answer is booked**, whatever it is. -/
theorem booking_advance (env : Surroundings σ) (w : σ) {s : Stage} (hs : s.result? = none) :
    t.Books (t.heard env w s) (t.advance env w s).1 := by
  cases s with
  | listing => exact t.books_afterList _
  | readingDocument claims => exact t.books_afterDocument claims _
  | creatingDocument claims => exact t.books_afterCreation claims _
  | checking a left => exact t.books_unless _ rfl
  | rereading a left => exact t.books_afterReread a left _
  | writing a left draft => exact t.books_afterWrite a left _
  | pausing a left => exact t.books_unless _ rfl
  | sleeping a left => exact t.books_unless _ rfl
  | finished result => cases hs

end Task
end Allotment
