import Allotment.Reconcile
/-!
# Passages

The way of a run from one stage to another, answer by answer, with what was reported on it
(`Task.Passes`).  A call is made at the stage that waits for its answer, so what holds
whenever a call is made is what holds wherever a passage gets to such a stage.  A run is the
passage to its end (`passes_run`), and it goes through every stage that a passage gets to
(`run_of_passes`).  Passages are put together end to end (`Passes.trans`).
-/
namespace Allotment

theorem Stage.eq_finished_of_result? {s : Stage} {result : Except Failure Outcome}
    (h : s.result? = some result) : s = .finished result := by
  cases s with
  | finished r =>
    cases h
    rfl
  | _ => cases h

namespace Task

variable {σ : Type}

/-- Whether a run that begins at the stage `s₀` gets to a stage, and what it has reported by then. -/
inductive Passes (t : Task) (env : Surroundings σ) (s₀ : Stage) (w₀ : σ) : Trace → Stage → σ → Prop where
  | here : Passes t env s₀ w₀ [] s₀ w₀
  | next {trace : Trace} {s : Stage} {w : σ} : Passes t env s₀ w₀ trace s w → s.result? = none →
      Passes t env s₀ w₀ (trace ++ (t.advance env w s).1.trace) (t.advance env w s).1.stage
        (t.advance env w s).2

variable {t : Task} {env : Surroundings σ}

theorem run_finished (t : Task) (env : Surroundings σ) (w : σ) (result : Except Failure Outcome) :
    t.run env w (.finished result) = (result, [], w) := by
  rw [run]
  rfl

theorem run_of_advance (t : Task) (env : Surroundings σ) (w : σ) {s : Stage} (h : s.result? = none) :
    t.run env w s =
      let next := t.advance env w s
      let rest := t.run env next.2 next.1.stage
      (rest.1, next.1.trace ++ rest.2.1, rest.2.2) := by
  conv => lhs; rw [run]
  split
  · rename_i r hr
    rw [h] at hr
    cases hr
  · rfl

/-- Where a passage gets to, another one may begin. -/
theorem Passes.trans {s₀ s s' : Stage} {w₀ w w' : σ} {trace trace' : Trace}
    (h : t.Passes env s₀ w₀ trace s w) (h' : t.Passes env s w trace' s' w') :
    t.Passes env s₀ w₀ (trace ++ trace') s' w' := by
  induction h' with
  | here =>
    rw [List.append_nil]
    exact h
  | next _ hs ih =>
    rw [← List.append_assoc]
    exact .next ih hs

/-- What a first answer leads to is on the way as well. -/
theorem Passes.of_advance {s : Stage} {w : σ} (hs : s.result? = none) {trace : Trace} {s' : Stage} {w' : σ}
    (h : t.Passes env (t.advance env w s).1.stage (t.advance env w s).2 trace s' w') :
    t.Passes env s w ((t.advance env w s).1.trace ++ trace) s' w' :=
  (Passes.next .here hs).trans h

/-- **A run is the passage to its end.** -/
theorem passes_run (t : Task) (env : Surroundings σ) (w : σ) (s : Stage) :
    t.Passes env s w (t.run env w s).2.1 (.finished (t.run env w s).1) (t.run env w s).2.2 := by
  -- the rank of the stage falls with every answer
  induction hn : s.rank t.limit using Nat.strongRecOn generalizing s w with
  | ind n ih =>
    cases hs : s.result? with
    | some result =>
      obtain rfl := Stage.eq_finished_of_result? hs
      rw [run_finished]
      exact .here
    | none =>
      have hnearer := t.rank_advance_lt env w s hs
      rw [run_of_advance t env w hs]
      exact .of_advance hs (ih _ (hn ▸ hnearer) _ _ rfl)

/-- **A run goes on from every stage that it gets to.** -/
theorem run_of_passes {s₀ s : Stage} {w₀ w : σ} {trace : Trace} (h : t.Passes env s₀ w₀ trace s w) :
    t.run env w₀ s₀ = ((t.run env w s).1, trace ++ (t.run env w s).2.1, (t.run env w s).2.2) := by
  induction h with
  | here => rfl
  | next _ hs ih =>
    rw [ih, run_of_advance t env _ hs]
    simp

/-- **What every answer keeps up holds at every stage.** -/
theorem Passes.keeps {P : Trace → Stage → σ → Prop}
    (hadvance : ∀ trace s w, s.result? = none → P trace s w →
      P (trace ++ (t.advance env w s).1.trace) (t.advance env w s).1.stage (t.advance env w s).2)
    {s₀ s : Stage} {w₀ w : σ} {trace : Trace} (h : t.Passes env s₀ w₀ trace s w) (hstart : P [] s₀ w₀) :
    P trace s w := by
  induction h with
  | here => exact hstart
  | next _ hs ih => exact hadvance _ _ _ hs ih

/-- **Two runs that are answered alike end alike.**  `R` is what their surroundings have in common. -/
theorem run_of_related {τ : Type} (t : Task) {env : Surroundings σ} {env' : Surroundings τ}
    {R : Stage → σ → τ → Prop}
    (hadvance : ∀ s w w', s.result? = none → R s w w' →
      (t.advance env w s).1 = (t.advance env' w' s).1 ∧
        R (t.advance env w s).1.stage (t.advance env w s).2 (t.advance env' w' s).2)
    (s : Stage) (w : σ) (w' : τ) (h : R s w w') :
    (t.run env w s).1 = (t.run env' w' s).1 ∧ (t.run env w s).2.1 = (t.run env' w' s).2.1 ∧
      R (.finished (t.run env w s).1) (t.run env w s).2.2 (t.run env' w' s).2.2 := by
  induction hn : s.rank t.limit using Nat.strongRecOn generalizing s w w' with
  | ind n ih =>
    cases hs : s.result? with
    | some result =>
      obtain rfl := Stage.eq_finished_of_result? hs
      rw [run_finished, run_finished]
      exact ⟨rfl, rfl, h⟩
    | none =>
      have hnearer := t.rank_advance_lt env w s hs
      obtain ⟨hsame, hrelated⟩ := hadvance s w w' hs h
      obtain ⟨hresult, htrace, hafter⟩ := ih _ (hn ▸ hnearer) _ _ _ hrelated rfl
      rw [run_of_advance t env w hs, run_of_advance t env' w' hs]
      simp only [← hsame]
      exact ⟨hresult, by rw [htrace], hafter⟩

end Task
end Allotment
