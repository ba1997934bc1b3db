import Mathlib.Tactic.Positivity
import UInventario.Inventory.Amounts
import UInventario.Inventory.Store

/-!
# Quantities a product admits

A product says with how many decimals its quantities are written, how others are rounded and which
one is the least. `normalizeProductQuantity` is what every request passes through. A quantity is an
integer in thousandths here, so the parts of the source that read and print decimals have nothing
to do.
-/

namespace UInventario

open Outcome

/-- `increment`: whether a remainder rounds up. -/
def roundingIncrement (mode : QuantityRoundingMode) (remainder quantum : ℤ) : ℤ :=
  if remainder = 0 then 0
  else match mode with
    | .UP => 1
    | .HALF_UP => if quantum ≤ remainder * 2 then 1 else 0
    | .DOWN => 0

def roundUnits (units : ℤ) (precision : ℕ) (mode : QuantityRoundingMode) : ℤ :=
  let quantum : ℤ := 10 ^ (3 - precision)
  let quotient := |units| / quantum
  let remainder := |units| % quantum
  (if units < 0 then -1 else 1) * (quotient + roundingIncrement mode remainder quantum) * quantum

def assertProductQuantityPolicy (policy : QuantityPolicy) (trackSerials : Bool) :
    Except Failure PUnit := do
  ensure (policy.precision ≤ 3) .invalidProductQuantityPolicy
  ensure (0 < policy.minimumQuantity ∧
    roundUnits policy.minimumQuantity policy.precision .DOWN = policy.minimumQuantity)
    .invalidProductQuantityPolicy
  ensure (trackSerials = true → policy.baseUnit = .UNIT ∧ policy.precision = 0 ∧
    policy.minimumQuantity = QUANTITY_SCALE) .invalidProductQuantityPolicy

def normalizeProductQuantity (value : ℤ) (policy : QuantityPolicy)
    (allowNegative : Bool := false) (enforceMinimum : Bool := true) : Except Failure ℤ := do
  assertProductQuantityPolicy policy false
  ensure (allowNegative = true ∨ 0 ≤ value) .invalidProductQuantity
  let rounded := roundUnits value policy.precision policy.rounding
  ensure (¬(enforceMinimum = true ∧ 0 < |rounded| ∧ |rounded| < policy.minimumQuantity))
    .productQuantityBelowMinimum
  pure rounded

/-! ### What rounding keeps -/

theorem roundingIncrement_nonneg (mode : QuantityRoundingMode) (remainder quantum : ℤ) :
    0 ≤ roundingIncrement mode remainder quantum := by
  unfold roundingIncrement
  split
  · exact le_rfl
  · cases mode with
    | UP => exact zero_le_one
    | DOWN => exact le_rfl
    | HALF_UP =>
      dsimp only
      split
      · exact zero_le_one
      · exact le_rfl

theorem roundUnits_nonneg {units : ℤ} (h : 0 ≤ units) (precision : ℕ)
    (mode : QuantityRoundingMode) : 0 ≤ roundUnits units precision mode := by
  have hquantum : (0 : ℤ) < 10 ^ (3 - precision) := by positivity
  have hquotient : 0 ≤ |units| / (10 : ℤ) ^ (3 - precision) :=
    Int.ediv_nonneg (abs_nonneg _) hquantum.le
  show 0 ≤ (if units < 0 then -1 else 1) * _ * _
  rw [if_neg (not_lt.mpr h)]
  exact mul_nonneg (mul_nonneg zero_le_one
    (add_nonneg hquotient (roundingIncrement_nonneg _ _ _))) hquantum.le

/-- **A normalised quantity is not negative** unless the caller allows it. -/
theorem normalizeProductQuantity_nonneg {value quantity : ℤ} {policy : QuantityPolicy}
    {enforceMinimum : Bool}
    (h : normalizeProductQuantity value policy false enforceMinimum = .ok quantity) :
    0 ≤ quantity := by
  simp only [normalizeProductQuantity, eq_ok] at h
  obtain ⟨-, -, -, hvalue, -, -, rfl⟩ := h
  exact roundUnits_nonneg (hvalue.resolve_left (by decide)) _ _

end UInventario
