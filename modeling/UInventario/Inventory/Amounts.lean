import UInventario.Foundations.Rounding
import UInventario.Inventory.Schema

/-!
# Amounts

Arithmetic on scaled decimals. The source repeats `divideRounded` and the product of a quantity and
a unit cost (`quantityTimesCost`, `quantityValue`) in each of its valuation files; they are the same
function, and one definition stands for the copies.
-/

namespace UInventario

abbrev QUANTITY_SCALE : ℤ := 1000

def divideRounded (numerator denominator : ℤ) : ℤ :=
  Rounding.roundDiv numerator denominator

def quantityTimesCost (quantity : ℤ) (unitCost : ℤ) : ℤ :=
  divideRounded (quantity * unitCost) QUANTITY_SCALE

@[simp] theorem quantityTimesCost_zero_left (unitCost : ℤ) : quantityTimesCost 0 unitCost = 0 := by
  simp [quantityTimesCost, divideRounded]

theorem quantityTimesCost_neg (quantity : ℤ) (unitCost : ℤ) :
    quantityTimesCost (-quantity) unitCost = -quantityTimesCost quantity unitCost := by
  rw [quantityTimesCost, quantityTimesCost, neg_mul]
  exact Rounding.roundDiv_neg (by norm_num)

theorem quantityTimesCost_le_iff {quantity : ℤ} {unitCost value : ℤ} (hq : 0 ≤ quantity)
    (hc : 0 ≤ unitCost) :
    quantityTimesCost quantity unitCost ≤ value ↔
      2 * (quantity * unitCost) < (2 * value + 1) * QUANTITY_SCALE :=
  Rounding.roundDiv_le_iff (mul_nonneg hq hc) (by norm_num) value

end UInventario
