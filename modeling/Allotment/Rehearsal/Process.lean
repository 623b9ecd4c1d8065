import Allotment.Rehearsal.World
/-!
# Processes

A reconciliation in flight in a rehearsal.  Looked at, it goes on until the services are
listed, until it sleeps, or to its end.  With the list in hand it lets others go first;
a sleeping one goes on when its time is over or its signal is raised.
-/
namespace Allotment.Rehearsal

open Allotment

/-- A reconciliation in flight. -/
structure Process where
  task : Task
  signal : Signal
  since : Nat
  stage : Stage
  /-- Where an answer in hand leads, if the process has not gone there yet. -/
  ahead : Option Progress
  /-- When the present sleep is over. -/
  deadline : Nat
  /-- The present sleep, or the last one. -/
  sleep : Sleep

/-- Why a process does not go on by itself. -/
inductive Rest where
  /-- It lets others go first. -/
  | yielding
  /-- It needs a time to come, a signal to be raised or another process to end. -/
  | waiting
  | ended
  /-- It needs a delay and none can be drawn. -/
  | stuck
deriving DecidableEq, Repr

namespace Process

/-- Begins a reconciliation. -/
def start (w : World) (service : Service) (signal : Signal) : Process × World :=
  let task : Task := ⟨w.settings, service⟩
  let begun := task.start
  (⟨task, signal, w.now, begun.stage, none, 0, .ended false 0⟩, w.record w.now begun.trace)

/-- The process at the stage that an answer leads to. -/
def reach (p : Process) (w : World) (next : Progress) : Process × World :=
  ({ p with stage := next.stage, ahead := none }, w.record p.since next.trace)

def result? (p : Process) : Option (Except Failure Outcome) := p.stage.result?

/-- The answer that the process waits for, and where it leads. -/
def ask (p : Process) (w : World) : Progress × World :=
  p.task.advance (World.surroundings p.signal) w p.stage

/-- What a look at a process leads to. -/
inductive Move where
  /-- It goes on. -/
  | on (p : Process) (w : World)
  | rest (r : Rest) (p : Process) (w : World)

/-- Gets the answer and goes where it leads. -/
def advance (p : Process) (w : World) : Move :=
  let next := p.ask w
  let reached := p.reach next.2 next.1
  .on reached.1 reached.2

/-- Lists, and with the list in hand lets others go first. -/
def fetch (p : Process) (w : World) : Move :=
  let next := p.ask w
  .rest .yielding { p with ahead := some next.1 } next.2

/-- Goes to sleep, unless the signal is raised. -/
def lieDown (p : Process) (w : World) (millis : Nat) : Move :=
  let next := p.ask w
  let reached := p.reach next.2 next.1
  .on { reached.1 with deadline := next.2.now + millis, sleep := .listening p.sleep.seen } reached.2

/-- The process once its sleep has looked at the clock and at its signal. -/
def turnOver (p : Process) (w : World) : Process :=
  { p with sleep := p.sleep.settle (p.deadline ≤ w.now) true (w.flag p.signal) }

/-- Goes on after a sleep. -/
def wake (p : Process) (w : World) (a : Address) (left : Nat) (stopped : Bool) : Move :=
  let reached := p.reach w (p.task.afterSleep a left stopped)
  .on reached.1 reached.2

/-- One move, if the process can make one. -/
def move (p : Process) (w : World) : Move :=
  match p.ahead with
  | some next =>
    let reached := p.reach w next
    .on reached.1 reached.2
  | none =>
    match p.stage with
    | .finished _ => .rest .ended p w
    | .listing => if w.reaches .list then p.fetch w else p.advance w
    | .pausing _ left =>
      match World.sleepMillis? p.task.settings.backoff (p.task.retry left) with
      | none => .rest .stuck p w
      | some millis => p.lieDown w millis
    | .sleeping a left =>
      match (p.turnOver w).sleep.cut? with
      | none => .rest .waiting (p.turnOver w) w
      | some stopped => (p.turnOver w).wake w a left stopped
    | _ => p.advance w

/-- Whether the process can make a move or has ended. -/
def canGoOn (p : Process) (w : World) : Bool :=
  match p.ahead, p.stage with
  | none, .sleeping .. => (p.turnOver w).sleep.cut?.isSome
  | _, _ => true

/-- When the sleep of a sleeping process is over. -/
def deadline? (p : Process) : Option Nat :=
  match p.ahead, p.stage with
  | none, .sleeping .. => some p.deadline
  | _, _ => none

/-- How many moves may still follow, at most. -/
def distance (p : Process) : Nat :=
  match p.ahead with
  | some next => next.stage.rank p.task.limit + 1
  | none => p.stage.rank p.task.limit

theorem rank_ask_lt (p : Process) (w : World) (h : p.stage.result? = none) :
    (p.ask w).1.stage.rank p.task.limit < p.stage.rank p.task.limit :=
  Task.rank_advance_lt p.task (World.surroundings p.signal) w p.stage h

theorem rank_afterSleep_lt (t : Task) (a : Address) (left : Nat) (stopped : Bool) :
    (t.afterSleep a left stopped).stage.rank t.limit < (Stage.sleeping a left).rank t.limit := by
  cases stopped <;> simp [Task.afterSleep, Task.cancel, Task.fail, Stage.rank]

/-- **Every move brings the end nearer.** -/
theorem distance_move_lt {p q : Process} {w v : World} (h : p.move w = .on q v) :
    q.distance < p.distance := by
  have nearer := rank_ask_lt p w
  unfold move at h
  split at h
  · rename_i e
    injection h with hq; subst hq
    simp [distance, reach, e]
  · rename_i e
    have here : p.distance = p.stage.rank p.task.limit := by simp [distance, e]
    rw [here]
    split at h
    · cases h
    · rename_i es
      split at h
      · cases h
      · injection h with hq; subst hq
        exact nearer (by rw [es]; rfl)
    · rename_i es
      split at h
      · cases h
      · injection h with hq; subst hq
        exact nearer (by rw [es]; rfl)
    · rename_i es
      split at h
      · cases h
      · injection h with hq; subst hq
        rw [es]; exact rank_afterSleep_lt ..
    · injection h with hq; subst hq
      refine nearer ?_
      cases es : p.stage <;> simp_all [Stage.result?]

/-- Lets the process go on for as long as it can. -/
def resume (p : Process) (w : World) : Rest × Process × World :=
  match _h : p.move w with
  | .rest r q v => (r, q, v)
  | .on q v => q.resume v
termination_by p.distance
decreasing_by exact distance_move_lt _h

end Process

end Allotment.Rehearsal
