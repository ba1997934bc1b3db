import UInventario.Foundations.Outcome

/-!
# The states along a run

A run goes through the states that its prefixes end in. That a property holds in all of them is said
step by step by `Along`: it holds at the start, and after every event (`forall_prefix_iff`). Where a
step keeps the property exactly under a condition, the states all have it exactly when every
accepted step meets the condition (`forall_prefix_iff_along`).
-/

universe u v w

namespace Outcome

variable {ε : Type u} {σ : Type v} {ι : Type w} {step : σ → ι → Except ε σ}

theorem forall_prefix_iff {P : σ → Prop} {s : σ} (is : List ι) :
    (∀ js, js <+: is → P (run step s js)) ↔
      P s ∧ Along step (fun s i ↦ P (exec step s i)) s is := by
  induction is generalizing s with
  | nil =>
    constructor
    · intro h
      exact ⟨h [] (List.prefix_refl []), trivial⟩
    · rintro ⟨hs, -⟩ js hjs
      rw [List.prefix_nil.mp hjs]
      exact hs
  | cons i is ih =>
    constructor
    · intro h
      have hnext := (ih (s := exec step s i)).mp fun js hjs ↦
        h (i :: js) ((List.prefix_cons_inj i).mpr hjs)
      exact ⟨h [] List.nil_prefix, hnext.1, hnext.2⟩
    · rintro ⟨hs, hi, his⟩ js hjs
      rcases List.prefix_cons_iff.mp hjs with rfl | ⟨ks, rfl, hks⟩
      · exact hs
      · exact (ih (s := exec step s i)).mpr ⟨hi, his⟩ ks hks

/-- Every event that is accepted meets the condition. -/
def Accepted (step : σ → ι → Except ε σ) (C : σ → ι → Prop) (s : σ) (i : ι) : Prop :=
  ∀ s', step s i = .ok s' → C s i

/-- **A property that a step keeps exactly under a condition** holds along a run exactly when its
steps meet the condition. -/
theorem forall_prefix_iff_along {P I : σ → Prop} {C : σ → ι → Prop}
    (hI : ∀ s i s', I s → step s i = .ok s' → I s')
    (hstep : ∀ s i s', I s → P s → step s i = .ok s' → (P s' ↔ C s i))
    {s : σ} (hs : I s) (hP : P s) (is : List ι) :
    (∀ js, js <+: is → P (run step s js)) ↔ Along step (Accepted step C) s is := by
  rw [forall_prefix_iff, and_iff_right hP]
  induction is generalizing s with
  | nil => exact Iff.rfl
  | cons i is ih =>
    show (P (exec step s i) ∧ Along step _ (exec step s i) is) ↔
      (Accepted step C s i ∧ Along step (Accepted step C) (exec step s i) is)
    cases h : step s i with
    | error e =>
      have hexec : exec step s i = s := by rw [exec, h]
      have haccepted : Accepted step C s i := fun s' h' ↦ by
        rw [h] at h'
        cases h'
      rw [hexec, ih hs hP, and_iff_right hP, and_iff_right haccepted]
    | ok s' =>
      have hkeeps := hstep s i s' hs hP h
      have haccepted : Accepted step C s i ↔ C s i :=
        ⟨fun hC ↦ hC s' h, fun hC _ _ ↦ hC⟩
      rw [exec_of_ok h, haccepted, hkeeps]
      refine and_congr_right fun hC ↦ ?_
      exact ih (hI s i s' hs h) (hkeeps.mpr hC)

end Outcome
