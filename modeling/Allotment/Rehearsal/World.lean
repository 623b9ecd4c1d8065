import Allotment.Rehearsal.Action
import Allotment.Signal
/-!
# The world of a rehearsal

An allocator over stores in memory, with everything that a rehearsal can make happen to
it: planned faults of single calls, signals to stop, and a clock that stands still
unless everybody waits.  A reconciliation can be sent off to go on by itself; it leaves
what it came to under the ticket that was given out for it.
-/
namespace Allotment.Rehearsal

open Allotment

/-- The signal that a reconciliation obeys: the allocator's, or one of its own. -/
inductive Signal where
  | shared
  | own (index : Nat)
deriving DecidableEq, Repr

/-- The state of a rehearsal. -/
structure World where
  settings : Settings
  stores : Stores
  plan : FaultPlan
  counters : Counters
  /-- Whether occurrences are counted at all. -/
  counting : Bool
  /-- The allocator's own signal. -/
  inside : Flag
  /-- The signal that takes its place, if there is one. -/
  outside : Option Flag
  /-- The signals of single reconciliations. -/
  ownSignals : Array Flag
  /-- The clock, in milliseconds. -/
  now : Nat
  /-- When the present step began. -/
  begun : Nat
  /-- What was reported in the present step. -/
  journal : List Notice
  /-- What the actions beside the present step came to. -/
  replies : List Reply
  /-- How many reconciliations were sent off. -/
  tickets : Nat
  /-- Those sent off that nobody looks after yet. -/
  departures : List (Nat × Service)
  /-- What those that are over came to; nothing if one got stuck. -/
  returns : List (Nat × Option (Except Failure Outcome))

namespace World

def initial (settings : Settings) (document : Option PoolDocument) (outside counting : Bool) : World where
  settings
  stores :=
    { Stores.empty with
      archive := match document with
        | some d => Archive.empty.put settings.document d
        | none => .empty }
  plan := .none
  counters := .zero
  counting
  inside := .new false
  outside := if outside then some (.new false) else none
  ownSignals := #[]
  now := 0
  begun := 0
  journal := []
  replies := []
  tickets := 0
  departures := []
  returns := []

/-! ## Reporting and counting -/

def report (w : World) (ns : List Notice) : World := { w with journal := w.journal ++ ns }

/-- Counts what occurred in a reconciliation that began at `since`. -/
def count (w : World) (since : Nat) (os : List Occurrence) : World :=
  if w.counting then { w with counters := w.counters.addAll ((w.now - since) * 1000000) os } else w

def record (w : World) (since : Nat) (trace : Trace) : World :=
  (w.report trace.notices).count since trace.occurrences

/-! ## Signals -/

def flag (w : World) : Signal → Flag
  | .shared => w.outside.getD w.inside
  | .own i => w.ownSignals.getD i (.new false)

def isRaised (w : World) (s : Signal) : Bool := (w.flag s).raised

/-- Whether the allocator's signal is raised. -/
def isStopping (w : World) : Bool := w.isRaised .shared

/-- Tells the allocator to stop. -/
def stop (w : World) : World := { w with inside := w.inside.told (some true) }

/-- Sets the signal from outside, or with no value gives it up for good. -/
def setOutside (w : World) (value : Option Bool) : World :=
  { w with outside := w.outside.map fun f => f.told value }

/-- Sets the latest signal of a single reconciliation, or with no value gives it up for good. -/
def setOwn (w : World) (value : Option Bool) : World :=
  { w with ownSignals := w.ownSignals.modify (w.ownSignals.size - 1) fun f => f.told value }

/-- A new signal of a single reconciliation; the one before is given up. -/
def newSignal (w : World) (raised : Bool) : Signal × World :=
  let w := w.setOwn none
  (.own w.ownSignals.size, { w with ownSignals := w.ownSignals.push (.new raised) })

/-! ## Reconciliations sent off -/

/-- Sends off a reconciliation of each service; the tickets come back. -/
def sendOff (w : World) (services : List Service) : List Nat × World :=
  let numbered := services.mapIdx fun i s => (w.tickets + i, s)
  (numbered.map (·.1),
    { w with
      tickets := w.tickets + services.length
      departures := w.departures ++ numbered })

/-- Leaves what a reconciliation came to under its ticket. -/
def deposit (w : World) (ticket : Nat) (result : Option (Except Failure Outcome)) : World :=
  { w with returns := (ticket, result) :: w.returns }

/-- What the reconciliation with a ticket came to, if it is over. -/
def returned? (w : World) (ticket : Nat) : Option (Option (Except Failure Outcome)) :=
  w.returns.lookup ticket

/-! ## Calls -/

/-- A call that the plan may let fail before it reaches a store. -/
def call {α : Type} (w : World) (k : CallKind) (through : World → Except StoreFault α × World) :
    Except StoreFault α × World :=
  match w.plan.next k with
  | (some f, plan) => (.error f, { w with plan })
  | (none, plan) => through { w with plan }

/-- Whether the next call of a kind is let through to its store. -/
def reaches (w : World) (k : CallKind) : Bool := (w.plan.next k).1.isNone

def list (w : World) (ns selector : String) : Except StoreFault (List Service) × World :=
  w.call .list fun w =>
    let answer := w.stores.registry.list ns selector
    (answer, w.report (Registry.listNotices ns selector answer))

def get (w : World) (key : Key) : Except StoreFault Service × World :=
  w.call .get fun w => (w.stores.registry.get key, w)

def update (w : World) (s : Service) : Except StoreFault Service × World :=
  w.call .update fun w =>
    let (answer, stores) := w.stores.update s
    (answer, { w with stores })

def getDocument (w : World) (key : Key) : Except StoreFault PoolDocument × World :=
  w.call .getDocument fun w => (w.stores.archive.get key, w)

def createDocument (w : World) (key : Key) : Except StoreFault PoolDocument × World :=
  w.call .createDocument fun w =>
    let notices := w.stores.archive.createNotices key
    let (answer, stores) := w.stores.createDocument key
    (answer, { w with stores }.report notices)

/-- The longest sleep, in milliseconds: thirty years of 365 days. -/
def longestSleep : Nat := 946080000000

/-- How long a sleep is on the clock, whose grain is a millisecond: a begun one counts, and of the
delays that can be drawn the mean is taken. -/
def sleepMillis? (b : Backoff) (retry : Nat) : Option Nat :=
  (b.delayNanos? retry (Backoff.longestShare 1)).map fun nanos =>
    min ((nanos + 999999) / 1000000) longestSleep

/-- The world as the surroundings of a reconciliation under a signal.  Alone in the world, a sleep takes
its full length. -/
def surroundings (signal : Signal) : Surroundings World where
  list := list
  getDocument := getDocument
  createDocument := createDocument
  get := get
  update := update
  signal w := (w.isRaised signal, w)
  sleep w retry :=
    let w := { w with now := w.now + (sleepMillis? w.settings.backoff retry).getD 0 }
    (w.isRaised signal, w)

end World

end Allotment.Rehearsal
