import Allotment.Rehearsal.Crew
/-!
# Schedules

A rehearsal runs its steps one after another, and beside each step its agenda.  In every
round the step goes on as far as it can, then the crew beside it.  If nobody can go on,
the clock moves to the next time at which somebody can.  What is still on the agenda
when the step has ended is dropped; reconciliations that were sent off stay.
-/
namespace Allotment.Rehearsal

open Allotment

/-- The world at the first of some times, if that is still ahead. -/
def World.moveTo (w : World) (times : List Nat) : World :=
  match times with
  | [] => w
  | t :: ts => { w with now := max w.now (ts.foldl min t) }

/-- How many turns those beside a step have before it is looked at again. -/
def turnsInARow : Nat := 61

/-- Runs a step to its end beside the crew, in at most `fuel` rounds; nothing comes back if it gets
stuck. -/
def rounds : Nat → Job → Crew → World → Option (Reply × Crew × World)
  | 0, _, _, _ => none
  | fuel + 1, job, crew, w =>
    match job.resume w with
    | (.stuck, _, _) => none
    | (.ended, .settled r, w) => some (r, crew.gather w)
    | (_, job, w) =>
      let (crew, w) := crew.gather w
      let (crew, w) := crew.turns turnsInARow w
      if crew.line.isEmpty && !job.canGoOn w then
        let w := w.moveTo (job.deadline?.toList ++ crew.deadlines)
        rounds fuel job (crew.rouse w) w
      else rounds fuel job crew w

/-- What a step of a rehearsal gave. -/
structure StepRecord where
  reply : Reply
  /-- The replies of the agenda, if there was one. -/
  agenda : Option (List Reply)
  updateCalls : UInt64
  createCalls : UInt64
  /-- The states that reconciliations entered. -/
  phases : List (Key × Phase)
  /-- How many milliseconds the step took, if that is told and does not depend on chance. -/
  elapsed : Option Nat
  journal : List Notice

/-- A step and what is done beside it. -/
structure Step where
  action : Action
  agenda : List (Nat × Action)

namespace Step

/-- How many reconciliations an action may send off. -/
def sentOff : Action → Nat
  | .syncAll ss => ss.length
  | _ => 0

/-- How many rounds a step can take: every attempt of every reconciliation has a few. -/
def roundLimit (s : Step) (c : Crew) (w : World) : Nat :=
  let actions := s.action :: s.agenda.map (·.2)
  let busy := actions.foldl (fun n a => n + 1 + sentOff a) (c.size + 1)
  8 * busy * (w.settings.backoff.limit + 4)

/-- Runs a step; nothing comes back if it gets stuck. -/
def run (s : Step) (crew : Crew) (w : World) : Option (StepRecord × Crew × World) :=
  let w := { w with begun := w.now, journal := [], replies := [] }
  let crew := if s.agenda.isEmpty then crew
    else crew.join (.agenda ⟨s.agenda.map fun (time, a) => (w.begun + time, a), none⟩)
  let (job, w) := w.begin s.action
  (rounds (s.roundLimit crew w) job crew w).map fun (reply, crew, w) =>
    ({ reply
       agenda := if s.agenda.isEmpty then none else some w.replies
       updateCalls := w.stores.registry.updateCalls
       createCalls := w.stores.archive.createCalls
       phases := Notice.phases w.journal
       elapsed :=
         if s.action.isTimed && !(0 < w.settings.backoff.jitter) then some (w.now - w.begun) else none
       journal := w.journal }, crew.dismiss, w)

end Step

/-- Runs the steps one after another: what each gave, and the world afterwards. -/
def runSteps (crew : Crew) (w : World) : List Step → Option (List StepRecord × World)
  | [] => some ([], w)
  | s :: ss =>
    (s.run crew w).bind fun (record, crew, w) =>
      (runSteps crew w ss).map fun (records, w) => (record :: records, w)

end Allotment.Rehearsal
