import Mathlib.Tactic.Ring
import Mathlib.Tactic.Linarith
import Mathlib.Algebra.Order.Ring.Int

/-!
# Rounding to multiples of a quantum

A quantity in steps of a quantum `q` is rounded by its magnitude: a remainder that is not zero
either goes or carries to the next multiple. `toQuantum carries q n` has the rule for the remainder
as a parameter.

Whatever the rule, the result is a multiple of `q` (`dvd_toQuantum`), multiples stay
(`toQuantum_of_dvd`), rounding is odd (`toQuantum_neg`) and moves a value by less than `q`
(`abs_toQuantum_sub_lt`).
-/

namespace Rounding

/-- **`n` rounded to a multiple of `q`**: the remainder of its magnitude goes or carries. -/
def toQuantum (carries : ℤ → Prop) [DecidablePred carries] (q n : ℤ) : ℤ :=
  (if n < 0 then -1 else 1) * (|n| / q + if |n| % q ≠ 0 ∧ carries (|n| % q) then 1 else 0) * q

variable {carries : ℤ → Prop} [DecidablePred carries] {q n : ℤ}

theorem toQuantum_of_nonneg (hn : 0 ≤ n) :
    toQuantum carries q n = n - n % q + if n % q ≠ 0 ∧ carries (n % q) then q else 0 := by
  have hdiv : n / q * q + n % q = n := Int.ediv_mul_add_emod n q
  rw [toQuantum, if_neg (not_lt.mpr hn), abs_of_nonneg hn, one_mul, add_mul]
  split <;> omega

/-- **Rounding by the magnitude is odd.** -/
theorem toQuantum_neg (n : ℤ) : toQuantum carries q (-n) = -toQuantum carries q n := by
  rw [toQuantum, toQuantum, abs_neg]
  rcases lt_trichotomy n 0 with hn | rfl | hn
  · rw [if_neg (show ¬-n < 0 by omega), if_pos hn]
    ring
  · simp
  · rw [if_pos (show -n < 0 by omega), if_neg (show ¬n < 0 by omega)]
    ring

theorem dvd_toQuantum (n : ℤ) : q ∣ toQuantum carries q n :=
  Dvd.intro_left _ rfl

theorem toQuantum_nonneg (hq : 0 < q) (hn : 0 ≤ n) : 0 ≤ toQuantum carries q n := by
  have hquot : 0 ≤ n / q * q := mul_nonneg (Int.ediv_nonneg hn hq.le) hq.le
  have hdiv : n / q * q + n % q = n := Int.ediv_mul_add_emod n q
  rw [toQuantum_of_nonneg hn]
  split <;> omega

theorem toQuantum_nonpos (hq : 0 < q) (hn : n ≤ 0) : toQuantum carries q n ≤ 0 := by
  have := @toQuantum_nonneg carries _ q (-n) hq (by omega)
  rw [toQuantum_neg] at this
  omega

/-- **Multiples of the quantum stay**: there is no remainder. -/
theorem toQuantum_of_dvd (h : q ∣ n) : toQuantum carries q n = n := by
  have hof : ∀ m : ℤ, 0 ≤ m → q ∣ m → toQuantum carries q m = m := by
    intro m hm hdvd
    rw [toQuantum_of_nonneg hm, Int.emod_eq_zero_of_dvd hdvd, if_neg fun h ↦ h.1 rfl]
    omega
  rcases le_total 0 n with hn | hn
  · exact hof n hn h
  · have := hof (-n) (by omega) ((Int.dvd_neg).mpr h)
    rw [toQuantum_neg] at this
    omega

theorem abs_toQuantum (hq : 0 < q) (n : ℤ) : |toQuantum carries q n| = toQuantum carries q |n| := by
  rcases le_total 0 n with hn | hn
  · rw [abs_of_nonneg hn, abs_of_nonneg (toQuantum_nonneg hq hn)]
  · rw [abs_of_nonpos hn, abs_of_nonpos (toQuantum_nonpos hq hn), toQuantum_neg]

theorem abs_toQuantum_sub (n : ℤ) :
    |toQuantum carries q n - n| = |toQuantum carries q |n| - (|n|)| := by
  rcases le_total 0 n with hn | hn
  · rw [abs_of_nonneg hn]
  · rw [abs_of_nonpos hn, toQuantum_neg, ← abs_neg]
    congr 1
    ring

/-- **Rounding moves a value by less than the quantum.** -/
theorem abs_toQuantum_sub_lt (hq : 0 < q) (n : ℤ) : |toQuantum carries q n - n| < q := by
  have hrest : 0 ≤ |n| % q ∧ |n| % q < q := ⟨Int.emod_nonneg _ hq.ne', Int.emod_lt_of_pos _ hq⟩
  rw [abs_toQuantum_sub, toQuantum_of_nonneg (abs_nonneg n), abs_lt]
  split
  case isTrue h =>
    have := h.1
    constructor <;> omega
  case isFalse h =>
    constructor <;> omega

/-- Two multiples of the quantum of which one is less are a quantum apart. -/
theorem add_le_of_dvd_of_lt {a b : ℤ} (ha : q ∣ a) (hb : q ∣ b) (h : a < b) : a + q ≤ b := by
  have := Int.le_of_dvd (by omega) (Int.dvd_sub hb ha)
  omega

end Rounding
