import Allotment.Proofs.Passages
/-!
# Endings

How a reconciliation that is run to its end gets there: by one answer after another
(`ending_of_advance`), so what holds at a stage and is kept up by every answer holds of
the result (`ending_keeps`).
-/
namespace Allotment

namespace Task

variable {σ : Type}

/-- The result of a run from a stage, and the surroundings afterwards. -/
def ending (t : Task) (env : Surroundings σ) (w : σ) (s : Stage) : Except Failure Outcome × σ :=
  ((t.run env w s).1, (t.run env w s).2.2)

theorem ending_start (t : Task) (env : Surroundings σ) (w : σ) :
    t.ending env w t.start.stage = ((t.reconcile env w).1, (t.reconcile env w).2.2) := rfl

theorem ending_finished (t : Task) (env : Surroundings σ) (w : σ) (result : Except Failure Outcome) :
    t.ending env w (.finished result) = (result, w) := by
  rw [ending, run_finished]

/-- A run goes on from where an answer led. -/
theorem ending_of_advance (t : Task) (env : Surroundings σ) (w : σ) {s : Stage}
    (h : s.result? = none) :
    t.ending env w s = t.ending env (t.advance env w s).2 (t.advance env w s).1.stage := by
  rw [ending, run_of_advance t env w h]
  rfl

/-- **What every answer keeps up holds in the end.** -/
theorem ending_keeps (t : Task) (env : Surroundings σ) {P : Stage → σ → Prop}
    (hadvance : ∀ s w, s.result? = none → P s w → P (t.advance env w s).1.stage (t.advance env w s).2)
    (s : Stage) (w : σ) (h : P s w) : P (.finished (t.ending env w s).1) (t.ending env w s).2 := by
  have hpasses := t.passes_run env w s
  exact hpasses.keeps (P := fun _ s w => P s w) (fun _ s w hs hP => hadvance s w hs hP) h

end Task
end Allotment
