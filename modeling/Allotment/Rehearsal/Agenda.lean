import Allotment.Rehearsal.Job
/-!
# Agendas

Actions to be done beside a step of a rehearsal, each at its time, one after another: one
that is not over holds back the rest.
-/
namespace Allotment.Rehearsal

open Allotment

/-- The actions still to be done, each with its time on the clock, and the one that is being done. -/
structure Agenda where
  ahead : List (Nat × Action)
  present : Option Job

namespace Agenda

/-- How many beginnings and ends are still ahead. -/
def remaining (g : Agenda) : Nat := 2 * g.ahead.length + (if g.present.isSome then 1 else 0)

/-- Goes on for as long as it can; what an action came to is noted when it is over. -/
def resume (g : Agenda) (w : World) : Rest × Agenda × World :=
  match _hp : g.present with
  | some job =>
    match job.resume w with
    | (.ended, .settled r, w) => resume ⟨g.ahead, none⟩ { w with replies := w.replies ++ [r] }
    | (rest, job, w) => (rest, { g with present := some job }, w)
  | none =>
    match _ha : g.ahead with
    | [] => (.ended, g, w)
    | (time, a) :: ahead =>
      if time ≤ w.now then
        let (job, w) := w.begin a
        resume ⟨ahead, some job⟩ w
      else (.waiting, g, w)
termination_by g.remaining
decreasing_by all_goals simp_all [remaining]; try omega

/-- Whether the agenda has anything to do but wait. -/
def canGoOn (g : Agenda) (w : World) : Bool :=
  match g.present, g.ahead with
  | some job, _ => job.canGoOn w
  | none, (time, _) :: _ => time ≤ w.now
  | none, [] => false

/-- When the agenda can go on. -/
def deadline? (g : Agenda) : Option Nat :=
  match g.present with
  | some job => job.deadline?
  | none => g.ahead.head?.map (·.1)

end Agenda

end Allotment.Rehearsal
