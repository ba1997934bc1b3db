import UInventario.Foundations.Outcome

/-!
# Two runs side by side

Two computations agree on a relation when both fail with one error, or both succeed with results in
that relation. If the steps of a system agree on a relation of its states, related states stay
related in a run (`run_agree`).
-/

universe u v w

namespace Outcome

variable {ε ε' : Type u} {σ α : Type v} {ι : Type w} {R : σ → σ → Prop} {x y : Except ε σ}

/-- **Agreement** on a relation of the results. -/
inductive Agree (R : σ → σ → Prop) : Except ε σ → Except ε σ → Prop
  | error (e : ε) : Agree R (.error e) (.error e)
  | ok {s s' : σ} (h : R s s') : Agree R (.ok s) (.ok s')

theorem agree_bind {x : Except ε α} {f g : α → Except ε σ} (h : ∀ a, Agree R (f a) (g a)) :
    Agree R (x >>= f) (x >>= g) := by
  cases x with
  | error e => exact .error e
  | ok a => exact h a

theorem agree_mapError {f : ε → ε'} (h : Agree R x y) : Agree R (x.mapError f) (y.mapError f) := by
  cases h with
  | error e => exact .error (f e)
  | ok h => exact .ok h

variable {step : σ → ι → Except ε σ} {C : σ → ι → Prop} {s s' : σ}

theorem exec_agree {i : ι} (hs : R s s') (h : Agree R (step s i) (step s' i)) :
    R (exec step s i) (exec step s' i) := by
  rw [exec, exec]
  revert h
  generalize step s i = x, step s' i = y
  rintro (e | h)
  · exact hs
  · exact h

/-- **The rule for two runs** of the same events. -/
theorem run_agree (hstep : ∀ s s' i, R s s' → C s i → Agree R (step s i) (step s' i)) (hs : R s s')
    (is : List ι) (hC : Along step C s is) : R (run step s is) (run step s' is) := by
  induction is generalizing s s' with
  | nil => exact hs
  | cons i is ih => exact ih (exec_agree hs (hstep s s' i hs hC.1)) hC.2

end Outcome
