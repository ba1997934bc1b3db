import UInventario.Foundations.Rounding
import UInventario.Foundations.Sums
import Mathlib.Algebra.BigOperators.Ring.List

/-!
# Shares of an amount

Two ways of spreading an amount over weights in whole units.

* **Every share rounded down.** What is left is not negative and at most one unit for each weight
  (`rest_nonneg`, `rest_le_length`), so handing out single units spends the amount.
* **Every share but the last rounded to the nearest.** The rest lies between nothing and the last
  weight exactly when the sum of the balanced remainders (`residue`) lies between two bounds
  (`rest_within_iff`).
-/

namespace Shares

open Rounding List

variable {amount total last : ℤ} {weights : List ℤ}

/-! ### Shares rounded down -/

theorem sum_ediv_add_sum_emod (amount total : ℤ) (weights : List ℤ) :
    (weights.map fun w ↦ amount * w / total).sum * total +
      (weights.map fun w ↦ amount * w % total).sum = amount * weights.sum := by
  induction weights with
  | nil => simp
  | cons w weights ih =>
    have hw := Int.mul_ediv_add_emod (amount * w) total
    simp only [map_cons, sum_cons]
    linarith

theorem rest_mul_sum : (amount - (weights.map fun w ↦ amount * w / weights.sum).sum) * weights.sum =
      (weights.map fun w ↦ amount * w % weights.sum).sum := by
  have h := sum_ediv_add_sum_emod amount weights.sum weights
  linarith

theorem rest_nonneg (hsum : 0 < weights.sum) :
    0 ≤ amount - (weights.map fun w ↦ amount * w / weights.sum).sum := by
  refine nonneg_of_mul_nonneg_left (b := weights.sum) ?_ hsum
  rw [rest_mul_sum]
  refine sum_nonneg fun r hr ↦ ?_
  obtain ⟨w, _, rfl⟩ := List.mem_map.mp hr
  exact Int.emod_nonneg _ hsum.ne'

theorem rest_le_length (hsum : 0 < weights.sum) :
    amount - (weights.map fun w ↦ amount * w / weights.sum).sum ≤ weights.length := by
  refine le_of_mul_le_mul_right ?_ hsum
  rw [rest_mul_sum]
  have hle : (weights.map fun w ↦ amount * w % weights.sum).sum ≤
      (weights.map fun _ ↦ weights.sum).sum :=
    sum_le_sum fun w _ ↦ (Int.emod_lt_of_pos _ hsum).le
  rw [map_const', sum_replicate, nsmul_eq_mul] at hle
  exact hle

/-! ### All but the last rounded to the nearest -/

/-- What rounding the shares leaves over. -/
def residue (amount total : ℤ) (weights : List ℤ) : ℤ :=
  (weights.map fun w ↦ (amount * w).bmod total.toNat).sum

theorem rest_mul (hamount : 0 ≤ amount) (hweights : ∀ w ∈ weights, 0 ≤ w) (htotal : 0 < total) :
    (amount - (weights.map fun w ↦ roundDiv (amount * w) total).sum) * total =
      amount * (total - weights.sum) + residue amount total weights := by
  obtain ⟨m, rfl⟩ := Int.eq_ofNat_of_zero_le htotal.le
  have hm : 0 < m := by omega
  have hparts : (weights.map fun w ↦ roundDiv (amount * w) m) =
      weights.map fun w ↦ (amount * w).bdiv m :=
    map_congr_left fun w hw ↦ roundDiv_eq_bdiv (mul_nonneg hamount (hweights w hw)) hm
  have hsum := sum_bdiv_add_sum_bmod (weights.map fun w ↦ amount * w) m
  rw [map_map, map_map, sum_map_mul_left] at hsum
  rw [hparts, residue, Int.toNat_natCast]
  simp only [Function.comp_def, map_id'] at hsum
  linarith

/-- **When the rest fits** the last weight. -/
theorem rest_within_iff (hamount : 0 ≤ amount) (hweights : ∀ w ∈ weights, 0 ≤ w)
    (htotal : 0 < total) (hsum : weights.sum + last = total) :
    (0 ≤ amount - (weights.map fun w ↦ roundDiv (amount * w) total).sum ∧
      amount - (weights.map fun w ↦ roundDiv (amount * w) total).sum ≤ last) ↔
      -(amount * last) ≤ residue amount total weights ∧
        residue amount total weights ≤ (total - amount) * last := by
  have hmul := rest_mul hamount hweights htotal
  have hlast : total - weights.sum = last := by omega
  rw [hlast] at hmul
  generalize amount - (weights.map fun w ↦ roundDiv (amount * w) total).sum = rest at *
  constructor
  · rintro ⟨hlow, hup⟩
    have hlow' := mul_nonneg hlow htotal.le
    have hup' := mul_le_mul_of_nonneg_right hup htotal.le
    exact ⟨by linarith, by linarith⟩
  · rintro ⟨hlow, hup⟩
    refine ⟨nonneg_of_mul_nonneg_left (b := total) (by linarith) htotal, ?_⟩
    exact le_of_mul_le_mul_right (a := total) (by linarith) htotal

/-- A share that is rounded lies between nothing and its weight. -/
theorem roundDiv_within {w : ℤ} (hamount : 0 ≤ amount) (hle : amount ≤ total) (htotal : 0 < total)
    (hw : 0 ≤ w) : 0 ≤ roundDiv (amount * w) total ∧ roundDiv (amount * w) total ≤ w := by
  refine ⟨roundDiv_nonneg (mul_nonneg hamount hw) htotal, ?_⟩
  calc roundDiv (amount * w) total
      ≤ roundDiv (w * total) total := by
        refine roundDiv_mono (mul_nonneg hamount hw) ?_ htotal
        rw [mul_comm w]
        exact mul_le_mul_of_nonneg_right hle hw
    _ = w := roundDiv_mul_self htotal

end Shares
