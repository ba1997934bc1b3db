import UInventario.Foundations.Prefixes
import UInventario.Foundations.Remainders
import UInventario.Inventory.AverageCost

/-!
# What the listing of the stock tolerates

The listing calls a row of `inventory_valuations` reconciled when its value and its quantity at its
average differ by at most half a ten-thousandth for every unit of the quantity that is there now.

* `Valuation.residue` is the difference without the rounding, in ten-millionths. A movement at the
  average changes it by what rounding cuts off; one at a cost of its own makes the average anew, and
  leaves at most half of the quantity.
* So a row is reconciled after an entry at a cost of its own, and when its stock is gone; after any
  other movement exactly when the residue fits the quantity that is left (`ToleranceFits`).
* `average_outlives_its_stock`: of eight units worth 8.01, kept at 1.0013, seven leave.
-/

namespace UInventario

open Outcome Rounding

/-! ### The check of the listing -/

def valuationValue (quantity unitCost : ℤ) : ℤ :=
  let numerator := quantity * unitCost
  if numerator ≥ 0 then (numerator + 500).tdiv 1000 else (numerator - 500).tdiv 1000

def roundingTolerance (quantity : ℤ) : ℤ :=
  let absoluteQuantity := if quantity < 0 then -quantity else quantity
  (absoluteQuantity + 1999).tdiv 2000

def isValuationValueReconciled (quantity averageUnitCost inventoryValue : ℤ) : Bool :=
  let expectedValue := valuationValue quantity averageUnitCost
  let difference :=
    if expectedValue ≥ inventoryValue then expectedValue - inventoryValue
    else inventoryValue - expectedValue
  decide (difference ≤ roundingTolerance quantity)

def Valuation.Reconciled (v : Valuation) : Prop :=
  isValuationValueReconciled v.quantity v.averageUnitCost v.inventoryValue = true
deriving Decidable

/-! ### Movements on a row -/

/-- What a movement brings to the row of its product: its quantity, whether its type carries a cost
of its own, and that cost. -/
structure RowMovement where
  quantityChange : ℤ
  carriesCost : Bool
  unitCost : ℤ

/-- `isValuedEntry`. -/
def RowMovement.valued (m : RowMovement) : Bool :=
  decide (0 < m.quantityChange) && m.carriesCost

def RowMovement.costOn (m : RowMovement) (v : Valuation) : ℤ :=
  if m.valued then m.unitCost else v.averageUnitCost

def rowStep (v : Valuation) (m : RowMovement) : Except Failure Valuation := do
  let r ← nextValuation v m.quantityChange m.valued (pure (m.costOn v))
  pure r.2

/-- The row that the first movement of a product finds, at its catalogue cost. -/
def emptyRow (productId : Uuid) (cost : ℕ) : Valuation where
  productId := productId
  quantity := 0
  inventoryValue := 0
  averageUnitCost := cost

variable {v : Valuation} {m : RowMovement} {v' : Valuation} {q : ℤ}

theorem rowStep_eq_ok : rowStep v m = .ok v' ↔ 0 ≤ v.quantity + m.quantityChange ∧
      0 ≤ v.valueAfter m.quantityChange (m.costOn v) ∧
      v' = v.after m.quantityChange m.valued (m.costOn v) := by
  simp only [rowStep, eq_ok]
  constructor
  · rintro ⟨⟨cost, next⟩, hnext, rfl⟩
    obtain ⟨hquantity, hcost, hvalue, hrow⟩ := nextValuation_eq_ok.mp hnext
    obtain rfl := pure_eq_ok.mp hcost
    exact ⟨hquantity, hvalue, hrow⟩
  · rintro ⟨hquantity, hvalue, rfl⟩
    exact ⟨(_, _), nextValuation_eq_ok.mpr ⟨hquantity, rfl, hvalue, rfl⟩, rfl⟩

/-! ### The residue of a row -/

/-- What the value of a row has over its quantity at its average, in ten-millionths. -/
def Valuation.residue (v : Valuation) : ℤ :=
  QUANTITY_SCALE * v.inventoryValue - v.quantity * v.averageUnitCost

def Tolerated (residue quantity : ℤ) : Prop :=
  -(1000 * roundingTolerance quantity + 500) < residue ∧
    residue ≤ 1000 * roundingTolerance quantity + 500
deriving Decidable

theorem roundingTolerance_eq {quantity : ℤ} (h : 0 ≤ quantity) :
    roundingTolerance quantity = (quantity + 1999) / 2000 := by
  have habs : ¬quantity < 0 := not_lt.mpr h
  simp only [roundingTolerance, habs, if_false]
  exact Int.tdiv_eq_ediv_of_nonneg (by omega)

/-- **The check reads the residue.** -/
theorem reconciled_iff (hv : v.Sound) : v.Reconciled ↔ Tolerated v.residue v.quantity := by
  have hproduct : 0 ≤ v.quantity * v.averageUnitCost :=
    mul_nonneg hv.quantity_nonneg hv.average_nonneg
  have hvalue : valuationValue v.quantity v.averageUnitCost =
      (v.quantity * v.averageUnitCost + 500) / 1000 := by
    simp only [valuationValue, ge_iff_le, hproduct, if_true]
    exact Int.tdiv_eq_ediv_of_nonneg (by omega)
  have htolerance : 0 ≤ roundingTolerance v.quantity := by
    have hnonneg := hv.quantity_nonneg
    rw [roundingTolerance_eq hnonneg]
    omega
  rw [Valuation.Reconciled, isValuationValueReconciled, Tolerated, Valuation.residue]
  simp only [decide_eq_true_eq, hvalue]
  generalize v.quantity * v.averageUnitCost = x at hproduct ⊢
  generalize roundingTolerance v.quantity = t at htolerance ⊢
  show _ ↔ -(1000 * t + 500) < 1000 * v.inventoryValue - x ∧
    1000 * v.inventoryValue - x ≤ 1000 * t + 500
  split <;> omega

theorem residue_after (hrest : v.quantity + q ≠ 0) : (v.after q false v.averageUnitCost).residue =
      v.residue - remainder (q * v.averageUnitCost) QUANTITY_SCALE := by
  have hvalue : v.valueAfter q v.averageUnitCost =
      v.inventoryValue + roundDiv (q * v.averageUnitCost) QUANTITY_SCALE := if_neg hrest
  show QUANTITY_SCALE * v.valueAfter q v.averageUnitCost - (v.quantity + q) * v.averageUnitCost = _
  rw [hvalue, Valuation.residue, remainder]
  ring

theorem residue_valued {unitCost : ℤ} (hpos : 0 < v.quantity + q)
    (hvalue : 0 ≤ v.valueAfter q unitCost) :
    2 * |(v.after q true unitCost).residue| ≤ v.quantity + q := by
  have haverage : (v.after q true unitCost).averageUnitCost =
      roundDiv (v.valueAfter q unitCost * QUANTITY_SCALE) (v.quantity + q) :=
    if_pos ⟨rfl, hpos⟩
  have hbound := two_mul_abs_sub_roundDiv_le
    (mul_nonneg hvalue (by norm_num : (0 : ℤ) ≤ QUANTITY_SCALE)) hpos
  rw [Valuation.residue, haverage]
  show 2 * |QUANTITY_SCALE * v.valueAfter q unitCost - (v.quantity + q) * _| ≤ _
  rw [mul_comm QUANTITY_SCALE, mul_comm (v.quantity + q)]
  exact hbound

/-! ### What one movement keeps -/

/-- **The residue fits what is tolerated** after the movement. -/
def ToleranceFits (v : Valuation) (m : RowMovement) : Prop :=
  m.valued = true ∨ v.quantity + m.quantityChange = 0 ∨
    Tolerated (v.residue - remainder (m.quantityChange * v.averageUnitCost) QUANTITY_SCALE)
      (v.quantity + m.quantityChange)
deriving Decidable

theorem sound_rowStep (hv : v.Sound) (h : rowStep v m = .ok v') : v'.Sound := by
  obtain ⟨⟨cost, next⟩, hnext, hrow⟩ := bind_eq_ok.mp h
  obtain rfl := pure_eq_ok.mp hrow
  exact hv.next hnext

/-- **One movement.** -/
theorem reconciled_rowStep_iff (hv : v.Sound)
    (h : rowStep v m = .ok v') : v'.Reconciled ↔ ToleranceFits v m := by
  have hv' := sound_rowStep hv h
  obtain ⟨hquantity, hvalue, rfl⟩ := rowStep_eq_ok.mp h
  rw [reconciled_iff hv', ToleranceFits]
  show Tolerated _ (v.quantity + m.quantityChange) ↔ _
  cases hvalued : m.valued with
  | true =>
    rw [hvalued] at hv'
    have hchange : 0 < m.quantityChange := by
      rw [RowMovement.valued, Bool.and_eq_true] at hvalued
      exact of_decide_eq_true hvalued.1
    have hpos : 0 < v.quantity + m.quantityChange := by
      have := hv.quantity_nonneg
      omega
    have hbound := residue_valued hpos hvalue
    refine iff_of_true ?_ (Or.inl rfl)
    rw [Tolerated, roundingTolerance_eq hquantity]
    have hle := abs_le.mp (show |(v.after m.quantityChange true (m.costOn v)).residue| ≤
      (v.quantity + m.quantityChange) / 2 by omega)
    omega
  | false =>
    have hcost : m.costOn v = v.averageUnitCost := by simp [RowMovement.costOn, hvalued]
    rw [hcost]
    by_cases hzero : v.quantity + m.quantityChange = 0
    · refine iff_of_true ?_ (Or.inr (Or.inl hzero))
      have hresidue : (v.after m.quantityChange false v.averageUnitCost).residue = 0 := by
        have hnone : v.valueAfter m.quantityChange v.averageUnitCost = 0 := if_pos hzero
        show QUANTITY_SCALE * v.valueAfter m.quantityChange v.averageUnitCost -
          (v.quantity + m.quantityChange) * v.averageUnitCost = 0
        rw [hnone, hzero]
        ring
      rw [hresidue, hzero]
      decide
    · rw [residue_after hzero]
      simp [hzero]

/-! ### Every row of a run -/

/-- **When every row is reconciled**: when every accepted movement leaves a residue that fits. -/
theorem rows_reconciled_iff (productId : Uuid) (cost : ℕ) (movements : List RowMovement) :
    (∀ reached, reached <+: movements →
      (run rowStep (emptyRow productId cost) reached).Reconciled) ↔
      Along rowStep (Accepted rowStep ToleranceFits) (emptyRow productId cost) movements := by
  have hsound : (emptyRow productId cost).Sound :=
    ⟨le_rfl, le_rfl, Int.natCast_nonneg cost⟩
  have hempty : (emptyRow productId cost).Reconciled := by
    rw [reconciled_iff hsound]
    show Tolerated (1000 * 0 - 0 * (cost : ℤ)) 0
    rw [zero_mul]
    decide
  exact forall_prefix_iff_along (I := Valuation.Sound) (fun _ _ _ hv h ↦ sound_rowStep hv h)
    (fun _ _ _ hv _ h ↦ reconciled_rowStep_iff hv h) hsound hempty movements

/-- Seven units are received at 1.00 and one at 1.01, and seven are sold. -/
def eightUnits : List RowMovement :=
  [⟨7000, true, 10000⟩, ⟨1000, true, 10100⟩, ⟨-7000, false, 0⟩]

/-- **The average outlives its stock.** -/
theorem average_outlives_its_stock : run rowStep (emptyRow 1 0) eightUnits =
      { productId := 1, quantity := 1000, inventoryValue := 10009, averageUnitCost := 10013 } ∧
    isValuationValueReconciled 1000 10013 10009 = false := by
  decide +kernel

end UInventario
