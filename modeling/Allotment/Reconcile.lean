import Allotment.Counters
import Allotment.Reporting
import Allotment.Settings
/-!
# Reconciliation

Binding an address to a service, as a machine that stops at every call of a store, at
every look at the signal to stop and at every sleep.  A `Stage` says what the
reconciliation waits for and what it has found out so far; for each kind of answer one
function gives the next stage and what was reported on the way.

The service is listed and read from copies that may be old by the time of the write,
so the write carries the version that was read, and a conflict leads back to reading
for as long as attempts are left.  `rank` falls with every answer: whatever the stores
say, a reconciliation ends.
-/
namespace Allotment

/-- Something reported or counted. -/
inductive Event where
  | notice (n : Notice)
  | count (o : Occurrence)
deriving DecidableEq, Repr

/-- What was reported and counted, in order. -/
abbrev Trace := List Event

namespace Event

def notice? : Event → Option Notice
  | notice n => some n
  | count _ => none

def occurrence? : Event → Option Occurrence
  | notice _ => none
  | count o => some o

end Event

namespace Trace

def notices (trace : Trace) : List Notice := trace.filterMap Event.notice?

def occurrences (trace : Trace) : List Occurrence := trace.filterMap Event.occurrence?

end Trace

/-- How a reconciliation ended well: the service's address and whether this reconciliation bound it. -/
structure Outcome where
  address : String
  newlyBound : Bool
  service : Service
deriving DecidableEq

/-- What a reconciliation waits for.  `left` counts the attempts to write that may still follow the
present one. -/
inductive Stage where
  /-- For the services that the allocator owns in the namespace. -/
  | listing
  /-- For the pool document. -/
  | readingDocument (claims : Claims)
  /-- For the pool document to be created. -/
  | creatingDocument (claims : Claims)
  /-- For a look at the signal, before an attempt. -/
  | checking (address : Address) (left : Nat)
  /-- For the service as it is stored now. -/
  | rereading (address : Address) (left : Nat)
  /-- For the write of `draft`. -/
  | writing (address : Address) (left : Nat) (draft : Service)
  /-- For a look at the signal, before a sleep. -/
  | pausing (address : Address) (left : Nat)
  /-- For the end of a sleep. -/
  | sleeping (address : Address) (left : Nat)
  | finished (result : Except Failure Outcome)

/-- The next stage and what was reported on the way to it. -/
structure Progress where
  stage : Stage
  trace : Trace

/-- A service to reconcile, as the caller knows it. -/
structure Task where
  settings : Settings
  service : Service

namespace Task

/-- How many attempts to write are made at most. -/
def limit (t : Task) : Nat := t.settings.backoff.limit

/-- The number of the attempt after which `left` more may follow. -/
def attempt (t : Task) (left : Nat) : Nat := t.limit - left

/-- The number of the sleep, from zero, after which an attempt and `left` more may follow. -/
def retry (t : Task) (left : Nat) : Nat := t.attempt left - 2

def entered (t : Task) (p : Phase) : Event := .notice (.entered t.service.key p)

/-- The end without a binding. -/
def fail (t : Task) (f : Failure) : Progress where
  stage := .finished (.error f)
  trace := [.count (.failure f), t.entered .failed, .notice (.failed t.service.key f)]

/-- The end with a binding. -/
def succeed (t : Task) (o : Outcome) : Progress where
  stage := .finished (.ok o)
  trace := t.entered .bound :: if o.newlyBound then [.count .bound] else []

def cancel (t : Task) : Progress := t.fail (.cancelled t.service.key.text)

/-- Progress after something was reported. -/
def after (trace : Trace) (p : Progress) : Progress := ⟨p.stage, trace ++ p.trace⟩

/-- The beginning: nothing is left to do for a copy that is bound. -/
def start (t : Task) : Progress :=
  after [.count .started, .notice (.syncing t.service.key t.service.uid)] <|
    match t.service.binding? with
    | some address =>
      ⟨.finished (.ok ⟨address, false, t.service⟩),
        [.count .alreadyBound, t.entered .bound, .notice (.alreadyBound t.service.key address)]⟩
    | none => ⟨.listing, [t.entered .resolving]⟩

def afterList (t : Task) (listed : Except StoreFault (List Service)) : Progress :=
  after ((Claims.listingNotices t.service.ns listed).map .notice) <|
    match Claims.ofListing listed with
    | .error f => t.fail f
    | .ok claims => ⟨.readingDocument claims, []⟩

/-- The address is chosen as soon as the document is there. -/
def choose (t : Task) (claims : Claims) (d : PoolDocument) : Progress :=
  after (t.entered .allocating :: (d.governingNotices t.service.ns).map .notice) <|
    match d.governing t.service.ns with
    | .error f => t.fail f
    | .ok p =>
      after ((p.allocateNotices claims).map .notice) <|
        match p.allocate claims with
        | .error f => t.fail f
        | .ok a => ⟨.checking a (t.limit - 1), [t.entered .persisting]⟩

/-- Only a document that is missing is created. -/
def afterDocument (t : Task) (claims : Claims) : Except StoreFault PoolDocument → Progress
  | .ok d => t.choose claims d
  | .error f =>
    if f.isNotFound then
      ⟨.creatingDocument claims, [.notice (.documentMissing t.settings.document)]⟩
    else t.fail (.store f)

def afterCreation (t : Task) (claims : Claims) : Except StoreFault PoolDocument → Progress
  | .ok d => t.choose claims d
  | .error f => t.fail (.store f)

def afterCheck (t : Task) (a : Address) (left : Nat) (stopped : Bool) : Progress :=
  if stopped then t.cancel else ⟨.rereading a left, []⟩

/-- A service that somebody else bound in the meantime keeps its address. -/
def afterReread (t : Task) (a : Address) (left : Nat) : Except StoreFault Service → Progress
  | .error f => t.fail (.store f)
  | .ok latest =>
    match latest.binding? with
    | some address =>
      after [.notice (.boundConcurrently t.service.key address)] (t.succeed ⟨address, false, latest⟩)
    | none =>
      ⟨.writing a left (latest.bind t.settings.allocatorId a.text),
        [.notice (.updating t.service.key a (t.attempt left))]⟩

/-- Only a version conflict is worth another attempt. -/
def afterWrite (t : Task) (a : Address) (left : Nat) : Except StoreFault Service → Progress
  | .ok stored => t.succeed ⟨a.text, true, stored⟩
  | .error f =>
    if f.isConflict then
      after [.notice (.conflicted t.service.key (t.attempt left) t.limit f)] <|
        match left with
        | 0 => t.fail (.persistenceFailed t.service.key.text t.limit)
        | left + 1 => ⟨.pausing a left, [.count .conflictRetry]⟩
    else t.fail (.store f)

def afterPause (t : Task) (a : Address) (left : Nat) (stopped : Bool) : Progress :=
  if stopped then t.cancel else ⟨.sleeping a left, []⟩

/-- A sleep ends early only because of the signal. -/
def afterSleep (t : Task) (a : Address) (left : Nat) (stopped : Bool) : Progress :=
  if stopped then t.cancel else ⟨.checking a left, []⟩

end Task

/-! ## Running against surroundings -/

/-- What a reconciliation runs against: the stores' calls, the signal to stop, and sleep.  Every call
gives an answer and leaves the surroundings in a state; what they are is left open. -/
structure Surroundings (σ : Type) where
  list : σ → (ns selector : String) → Except StoreFault (List Service) × σ
  getDocument : σ → Key → Except StoreFault PoolDocument × σ
  createDocument : σ → Key → Except StoreFault PoolDocument × σ
  get : σ → Key → Except StoreFault Service × σ
  update : σ → Service → Except StoreFault Service × σ
  /-- Whether the signal is raised. -/
  signal : σ → Bool × σ
  /-- Whether the signal was raised before the sleep with this number was over. -/
  sleep : σ → Nat → Bool × σ

namespace Task

variable {σ : Type}

/-- One answer of the surroundings, and where it leads. -/
def advance (t : Task) (env : Surroundings σ) (w : σ) : Stage → Progress × σ
  | .listing =>
    let (answer, w) := env.list w t.service.ns t.settings.ownershipSelector
    (t.afterList answer, w)
  | .readingDocument claims =>
    let (answer, w) := env.getDocument w t.settings.document
    (t.afterDocument claims answer, w)
  | .creatingDocument claims =>
    let (answer, w) := env.createDocument w t.settings.document
    (t.afterCreation claims answer, w)
  | .checking a left =>
    let (stopped, w) := env.signal w
    (t.afterCheck a left stopped, w)
  | .rereading a left =>
    let (answer, w) := env.get w t.service.key
    (t.afterReread a left answer, w)
  | .writing a left draft =>
    let (answer, w) := env.update w draft
    (t.afterWrite a left answer, w)
  | .pausing a left =>
    let (stopped, w) := env.signal w
    (t.afterPause a left stopped, w)
  | .sleeping a left =>
    let (stopped, w) := env.sleep w (t.retry left)
    (t.afterSleep a left stopped, w)
  | .finished result => (⟨.finished result, []⟩, w)

end Task

namespace Stage

/-- How many answers may still follow, at most. -/
def rank (limit : Nat) : Stage → Nat
  | listing => 5 * limit + 6
  | readingDocument _ => 5 * limit + 5
  | creatingDocument _ => 5 * limit + 4
  | checking _ left => 5 * left + 3
  | rereading _ left => 5 * left + 2
  | writing _ left _ => 5 * left + 1
  | pausing _ left => 5 * left + 5
  | sleeping _ left => 5 * left + 4
  | finished _ => 0

def result? : Stage → Option (Except Failure Outcome)
  | finished r => some r
  | _ => none

end Stage

namespace Task

variable {σ : Type}

theorem rank_choose_lt (t : Task) (claims : Claims) (d : PoolDocument) :
    (t.choose claims d).stage.rank t.limit < 5 * t.limit + 4 := by
  simp only [choose, after]
  split
  · simp [fail, Stage.rank]
  · split
    · simp [fail, Stage.rank]
    · simp only [Stage.rank]; omega

/-- **Every answer brings the end nearer**, whatever it is. -/
theorem rank_advance_lt (t : Task) (env : Surroundings σ) (w : σ) (s : Stage) (h : s.result? = none) :
    (t.advance env w s).1.stage.rank t.limit < s.rank t.limit := by
  cases s with
  | listing => simp only [advance, afterList, after]; split <;> simp [fail, Stage.rank]
  | readingDocument claims =>
    simp only [advance, afterDocument]
    split
    · exact Nat.lt_succ_of_lt (rank_choose_lt t claims _)
    · split <;> simp [fail, Stage.rank]
  | creatingDocument claims =>
    simp only [advance, afterCreation]
    split
    · exact rank_choose_lt t claims _
    · simp [fail, Stage.rank]
  | checking a left => simp only [advance, afterCheck, cancel]; split <;> simp [fail, Stage.rank]
  | rereading a left =>
    simp only [advance, afterReread]
    split
    · simp [fail, Stage.rank]
    · split <;> simp [after, succeed, Stage.rank]
  | writing a left draft =>
    simp only [advance, afterWrite]
    split
    · simp [succeed, Stage.rank]
    · split
      · cases left <;> simp [after, fail, Stage.rank]; omega
      · simp [fail, Stage.rank]
  | pausing a left => simp only [advance, afterPause, cancel]; split <;> simp [fail, Stage.rank]
  | sleeping a left => simp only [advance, afterSleep, cancel]; split <;> simp [fail, Stage.rank]
  | finished r => simp [Stage.result?] at h

/-- Runs from a stage to the end: the result, what was reported, and the surroundings afterwards. -/
def run (t : Task) (env : Surroundings σ) (w : σ) (s : Stage) : Except Failure Outcome × Trace × σ :=
  match h : s.result? with
  | some r => (r, [], w)
  | none =>
    have _nearer := rank_advance_lt t env w s h
    let next := t.advance env w s
    let (r, trace, w) := t.run env next.2 next.1.stage
    (r, next.1.trace ++ trace, w)
termination_by s.rank t.limit
decreasing_by exact _nearer

/-- One reconciliation from beginning to end. -/
def reconcile (t : Task) (env : Surroundings σ) (w : σ) : Except Failure Outcome × Trace × σ :=
  let (r, trace, w) := t.run env w t.start.stage
  (r, t.start.trace ++ trace, w)

end Task

end Allotment
