import Mathlib.Tactic.Linarith
import Mathlib.Tactic.Ring
import Mathlib.Algebra.Order.BigOperators.Group.List
import Mathlib.Algebra.Order.Ring.Int

/-!
# Integer division rounded half away from zero

Fixed-point decimals are kept as integers, and a product or quotient of two of them is brought back
to its scale by `roundDiv n d`, which rounds to the nearest integer and sends ties away from zero.
Over a positive divisor, for a dividend that is not negative, `roundDiv n d ≤ k` exactly when
`2 * n < (2 * k + 1) * d` (`roundDiv_le_iff`); monotonicity, oddness and exactness follow.
-/

namespace Rounding

open List

/-- `n / d` rounded to the nearest integer, ties away from zero. -/
def roundDiv (n d : ℤ) : ℤ :=
  if n < 0 then -(if 2 * (-n % d) ≥ d then -n / d + 1 else -n / d)
  else if 2 * (n % d) ≥ d then n / d + 1 else n / d

/-! ### Dividends that are not negative -/

variable {n d : ℤ}

theorem roundDiv_of_nonneg (hn : 0 ≤ n) :
    roundDiv n d = if 2 * (n % d) ≥ d then n / d + 1 else n / d := by
  rw [roundDiv, if_neg (by omega)]

@[simp] theorem roundDiv_zero_left (d : ℤ) (hd : 0 < d) : roundDiv 0 d = 0 := by
  rw [roundDiv_of_nonneg le_rfl, if_neg (by simpa using hd)]
  simp

/-- **Rounding is odd.** The two branches of the definition are mirror images. -/
theorem roundDiv_neg (hd : 0 < d) : roundDiv (-n) d = -roundDiv n d := by
  rcases lt_trichotomy n 0 with hn | rfl | hn
  · rw [roundDiv_of_nonneg (by omega), roundDiv, if_pos hn, neg_neg]
  · simp [hd]
  · rw [roundDiv, if_pos (by omega), neg_neg, roundDiv_of_nonneg hn.le]

/-- **Where the quotient stays below a bound.** The bound is compared with twice the dividend, so
no quotient is left on the right. -/
theorem roundDiv_le_iff (hn : 0 ≤ n) (hd : 0 < d) (k : ℤ) :
    roundDiv n d ≤ k ↔ 2 * n < (2 * k + 1) * d := by
  have hdiv : d * (n / d) + n % d = n := Int.mul_ediv_add_emod n d
  have hlt : n % d < d := Int.emod_lt_of_pos n hd
  have hnonneg : 0 ≤ n % d := Int.emod_nonneg n hd.ne'
  rw [roundDiv_of_nonneg hn]
  split
  case isTrue hup =>
    constructor
    · intro hk
      nlinarith [mul_le_mul_of_nonneg_left hk hd.le]
    · intro hlt2
      by_contra hcon
      have : k ≤ n / d := by omega
      nlinarith [mul_le_mul_of_nonneg_left this hd.le]
  case isFalse hdown =>
    constructor
    · intro hk
      nlinarith [mul_le_mul_of_nonneg_left hk hd.le]
    · intro hlt2
      by_contra hcon
      have : k + 1 ≤ n / d := by omega
      nlinarith [mul_le_mul_of_nonneg_left this hd.le]

theorem le_roundDiv_iff (hn : 0 ≤ n) (hd : 0 < d) (k : ℤ) :
    k ≤ roundDiv n d ↔ (2 * k - 1) * d ≤ 2 * n := by
  have h := roundDiv_le_iff hn hd (k - 1)
  have hstep : (2 * (k - 1) + 1) * d = (2 * k - 1) * d := by ring
  rw [hstep] at h
  constructor
  · intro hk
    by_contra hcon
    have := h.mpr (by omega)
    omega
  · intro hk
    by_contra hcon
    have := h.mp (by omega)
    omega

theorem roundDiv_nonneg (hn : 0 ≤ n) (hd : 0 < d) : 0 ≤ roundDiv n d := by
  rw [le_roundDiv_iff hn hd]
  linarith

/-- Rounding keeps the order of two dividends that are not negative. -/
theorem roundDiv_mono {m : ℤ} (hm : 0 ≤ m) (hmn : m ≤ n) (hd : 0 < d) :
    roundDiv m d ≤ roundDiv n d := by
  rw [roundDiv_le_iff hm hd]
  have := (roundDiv_le_iff (hm.trans hmn) hd (roundDiv n d)).mp le_rfl
  omega

/-! ### Exactness and the rounding error -/

theorem roundDiv_mul_self {k : ℤ} (hd : 0 < d) : roundDiv (k * d) d = k := by
  rcases le_total 0 k with hk | hk
  · have hn : 0 ≤ k * d := mul_nonneg hk hd.le
    apply le_antisymm
    · rw [roundDiv_le_iff hn hd]
      nlinarith
    · rw [le_roundDiv_iff hn hd]
      nlinarith
  · have hn : 0 ≤ -k * d := mul_nonneg (by omega) hd.le
    have h : roundDiv (-k * d) d = -k := by
      apply le_antisymm
      · rw [roundDiv_le_iff hn hd]
        nlinarith
      · rw [le_roundDiv_iff hn hd]
        nlinarith
    rw [neg_mul, roundDiv_neg hd] at h
    omega

/-- **The rounding error.** It is at most half a unit of the divisor. -/
theorem two_mul_abs_sub_roundDiv_le (hn : 0 ≤ n) (hd : 0 < d) : 2 * |n - roundDiv n d * d| ≤ d := by
  have hup := (roundDiv_le_iff hn hd (roundDiv n d)).mp le_rfl
  have hlow := (le_roundDiv_iff hn hd (roundDiv n d)).mp le_rfl
  have h₁ : 2 * (n - roundDiv n d * d) ≤ d := by linarith
  have h₂ : -d ≤ 2 * (n - roundDiv n d * d) := by linarith
  rcases abs_cases (n - roundDiv n d * d) with ⟨habs, -⟩ | ⟨habs, -⟩ <;> rw [habs] <;> linarith

/-! ### Sums of rounded quotients -/

/-- Over dividends not negative, the rounded quotient leaves a balanced remainder. -/
theorem roundDiv_eq_bdiv {m : ℕ} (hn : 0 ≤ n) (hm : 0 < m) : roundDiv n m = n.bdiv m := by
  rw [roundDiv_of_nonneg hn, Int.bdiv, if_neg hm.ne']
  generalize n % (m : ℤ) = r
  by_cases hup : 2 * r ≥ (m : ℤ)
  · rw [if_pos hup, if_neg (by omega)]
  · rw [if_neg hup, if_pos (by omega)]

/-- The balanced remainders of the parts are what their rounded quotients leave of the sum. -/
theorem sum_bdiv_add_sum_bmod (l : List ℤ) (m : ℕ) :
    (l.map fun n ↦ n.bdiv m).sum * m + (l.map fun n ↦ n.bmod m).sum = l.sum := by
  induction l with
  | nil => simp
  | cons n l ih =>
    have hn := Int.bdiv_add_bmod' n m
    simp only [map_cons, sum_cons]
    linarith

/-- **Rounding part by part** is rounding the sum exactly when the balanced remainders of the parts
add up to a balanced remainder. -/
theorem sum_roundDiv_eq_iff {m : ℕ} (hm : 0 < m) {l : List ℤ} (hl : ∀ n ∈ l, 0 ≤ n) :
    (l.map fun n ↦ roundDiv n m).sum = roundDiv l.sum m ↔
      -((m : ℤ) / 2) ≤ (l.map fun n ↦ n.bmod m).sum ∧
        (l.map fun n ↦ n.bmod m).sum < ((m : ℤ) + 1) / 2 := by
  have hparts : (l.map fun n ↦ roundDiv n m) = l.map fun n ↦ n.bdiv m :=
    map_congr_left fun n hn ↦ roundDiv_eq_bdiv (hl n hn) hm
  rw [hparts, roundDiv_eq_bdiv (sum_nonneg hl) hm]
  have hsum := sum_bdiv_add_sum_bmod l m
  have hwhole := Int.bdiv_add_bmod' l.sum m
  have hdvd : (m : ℤ) ∣ (l.map fun n ↦ n.bmod m).sum - l.sum :=
    ⟨-(l.map fun n ↦ n.bdiv m).sum, by linarith⟩
  have hmpos : (m : ℤ) ≠ 0 := by omega
  calc (l.map fun n ↦ n.bdiv m).sum = l.sum.bdiv m
      ↔ l.sum.bmod m = (l.map fun n ↦ n.bmod m).sum := by
        constructor
        · intro heq
          rw [heq] at hsum
          linarith
        · intro heq
          refine mul_right_cancel₀ hmpos ?_
          linarith
    _ ↔ _ := by
        rw [Int.bmod_eq_iff hm]
        exact ⟨fun ⟨hlow, hup, _⟩ ↦ ⟨hlow, hup⟩, fun ⟨hlow, hup⟩ ↦ ⟨hlow, hup, hdvd⟩⟩

end Rounding
