import UInventario.Foundations.Rounding

/-!
# What rounding cuts off

`remainder n d` is what is left of `n` when the rounded quotient is multiplied back. A number rounds
to `k` exactly when what `k` leaves of it lies in the half-open interval around zero
(`roundDiv_eq_iff`), so a sum of rounded parts is added without loss exactly when the remainders do
not leave that interval (`roundDiv_add_sum_iff`).
-/

namespace Rounding

open List

variable {d : ℤ}

/-- What the rounded quotient leaves of the dividend. -/
def remainder (n d : ℤ) : ℤ :=
  n - roundDiv n d * d

theorem roundDiv_mul_add_remainder (n d : ℤ) : roundDiv n d * d + remainder n d = n := by
  rw [remainder]
  ring

/-- **The numbers that round to `k`.** -/
theorem roundDiv_eq_iff {n k : ℤ} (hn : 0 ≤ n) (hd : 0 < d) :
    roundDiv n d = k ↔ -d ≤ 2 * (n - k * d) ∧ 2 * (n - k * d) < d := by
  have hle := roundDiv_le_iff hn hd k
  have hge := le_roundDiv_iff hn hd k
  have hhigh : (2 * k + 1) * d = 2 * (k * d) + d := by ring
  have hlow : (2 * k - 1) * d = 2 * (k * d) - d := by ring
  rw [hhigh] at hle
  rw [hlow] at hge
  rw [le_antisymm_iff, hle, hge]
  omega

/-- **Adding rounded parts** to a rounded number gives the rounded sum exactly when the remainders
add up to one. -/
theorem roundDiv_add_sum_iff {n : ℤ} {l : List ℤ} (hn : 0 ≤ n + l.sum) (hd : 0 < d) :
    roundDiv (n + l.sum) d = roundDiv n d + (l.map fun x ↦ roundDiv x d).sum ↔
      -d ≤ 2 * (remainder n d + (l.map fun x ↦ remainder x d).sum) ∧
        2 * (remainder n d + (l.map fun x ↦ remainder x d).sum) < d := by
  have hparts : (l.map fun x ↦ roundDiv x d).sum * d + (l.map fun x ↦ remainder x d).sum =
      l.sum := by
    clear hn
    induction l with
    | nil => simp
    | cons x l ih =>
      have hx := roundDiv_mul_add_remainder x d
      rw [map_cons, map_cons, sum_cons, sum_cons, sum_cons, add_mul]
      linarith
  have hleft : n + l.sum - (roundDiv n d + (l.map fun x ↦ roundDiv x d).sum) * d =
      remainder n d + (l.map fun x ↦ remainder x d).sum := by
    rw [remainder, ← hparts]
    ring
  rw [roundDiv_eq_iff hn hd, hleft]

end Rounding
