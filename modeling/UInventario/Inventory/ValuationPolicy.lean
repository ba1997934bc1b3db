import UInventario.Inventory.Amounts
import UInventario.Inventory.Store

/-!
# The valuation policy

The tenant values its stock by one of three methods. The moving average and the FIFO layers are
maintained whatever the method is; it decides what the movement row shows.
`sealInventoryMovementValuation` writes the method on the row, and under FIFO the FIFO amounts;
`finalizeSpecificLotMovementValuation` later writes the sums of the lot allocations when the row was
sealed under `SPECIFIC_LOT`. Neither touches `inventory_valuations`.
-/

namespace UInventario

open Outcome

/-- The active policy; the row is created as `MOVING_AVERAGE`, version 1, when it is missing. -/
def loadInventoryValuationPolicy (s : Store) : Store × ValuationPolicy :=
  match s.policy with
  | some policy => (s, policy)
  | none =>
    let policy : ValuationPolicy := { method := .MOVING_AVERAGE, version := 1 }
    ({ s with policy := some policy }, policy)

def Store.method (s : Store) : ValuationMethod :=
  (loadInventoryValuationPolicy s).2.method

def Movement.sealed (policy : ValuationPolicy) (m : Movement) : Movement :=
  { m with
    valuationMethod := policy.method
    valuationPolicyVersion := policy.version
    unitCost := if policy.method = .FIFO then m.fifoUnitCost else m.unitCost
    valueChange := if policy.method = .FIFO then m.fifoValueChange else m.valueChange
    resultingInventoryValue :=
      if policy.method = .FIFO then m.fifoResultingInventoryValue else m.resultingInventoryValue }

def sealInventoryMovementValuation (s : Store) (movementId : Uuid) : Except Failure Store := do
  let movement ← demand (s.movements.find? movementId) .inventoryMovementNotFoundForPolicy
  let (s, policy) := loadInventoryValuationPolicy s
  ensure (¬(policy.method = .FIFO ∧ (movement.fifoUnitCost = none ∨
    movement.fifoValueChange = none ∨ movement.fifoResultingInventoryValue = none)))
    .inventoryFifoLayerShortage
  pure { s with movements := s.movements.update movementId (Movement.sealed policy) }

/-! ### Specific lots -/

/-- `SUM(quantity_change)` of the lot allocations of a movement. -/
def LotBook.allocatedQuantity (book : LotBook) (movementId : Uuid) : ℤ :=
  book.movementLots.total fun a ↦ if a.movementId = movementId then a.quantityChange else 0

/-- `SUM(value_change)` of the lot allocations of a movement. -/
def LotBook.allocatedValue (book : LotBook) (movementId : Uuid) : ℤ :=
  book.movementLots.total fun a ↦ if a.movementId = movementId then a.valueChange else 0

def LotBook.balanceTotal (book : LotBook) (productId : Uuid) (w : Lot → LotBalance → ℤ) : ℤ :=
  book.balances.total fun balance ↦
    match book.lots.find? balance.lotId with
    | some lot => if lot.productId = productId then w lot balance else 0
    | none => 0

def Movement.finalized (unitCost valueChange inventoryValue : ℤ) (m : Movement) : Movement :=
  { m with
    unitCost := some unitCost, valueChange := some valueChange,
    resultingInventoryValue := some inventoryValue }

def finalizeSpecificLotMovementValuation (s : Store) (movementId : Uuid) :
    Except Failure Store :=
  match s.movements.find? movementId with
  | none => pure s
  | some movement =>
    if movement.valuationMethod ≠ .SPECIFIC_LOT then pure s
    else do
      let product ← demand (s.products.find? movement.productId) .inventoryLotRequired
      ensure (product.trackLots = true) .inventoryLotRequired
      let valueChange := s.lots.allocatedValue movementId
      let totalQuantity := s.lots.balanceTotal movement.productId fun _ b ↦ b.quantity
      -- `SUM(quantity * unit_cost)` has seven decimals; the column keeps four
      let inventoryValue := divideRounded
        (s.lots.balanceTotal movement.productId fun lot b ↦ b.quantity * lot.unitCost)
        QUANTITY_SCALE
      let valuation ←
        demand (s.valuations.find? movement.productId) .specificLotReconciliationFailed
      ensure (s.lots.allocatedQuantity movementId = movement.quantityChange ∧
        totalQuantity = valuation.quantity) .specificLotReconciliationFailed
      let unitCost :=
        if movement.quantityChange = 0 then 0
        else divideRounded (|valueChange| * QUANTITY_SCALE) |movement.quantityChange|
      pure { s with
        movements := s.movements.update movementId
          (Movement.finalized unitCost valueChange inventoryValue) }

/-! ### What loading the policy does -/

theorem loadInventoryValuationPolicy_fst (s : Store) : (loadInventoryValuationPolicy s).1 =
      { s with policy := some (loadInventoryValuationPolicy s).2 } := by
  rw [loadInventoryValuationPolicy]
  cases h : s.policy with
  | none => rfl
  | some policy =>
    dsimp only
    rw [← h]

theorem loadInventoryValuationPolicy_congr {s s' : Store} (h : s'.policy = s.policy) :
    (loadInventoryValuationPolicy s').2 = (loadInventoryValuationPolicy s).2 := by
  rw [loadInventoryValuationPolicy, loadInventoryValuationPolicy, h]
  cases s.policy <;> rfl

/-! ### What the seal and the finalisation do -/

/-- **The seal.** It rewrites one movement row and may create the policy row. -/
theorem sealInventoryMovementValuation_eq_ok {s s' : Store} {movementId : Uuid}
    (h : sealInventoryMovementValuation s movementId = .ok s') :
    ∃ movement, s.movements.find? movementId = some movement ∧ s' = { s with
        policy := some (loadInventoryValuationPolicy s).2
        movements := s.movements.update movementId
          (Movement.sealed (loadInventoryValuationPolicy s).2) } := by
  simp only [sealInventoryMovementValuation, eq_ok] at h
  obtain ⟨movement, hfind, -, -, rfl⟩ := h
  refine ⟨movement, hfind, ?_⟩
  rw [loadInventoryValuationPolicy_fst]

/-- **The finalisation** gives a `SPECIFIC_LOT` movement the value of its allocations. -/
theorem finalizeSpecificLotMovementValuation_eq_ok {s s' : Store} {movement : Movement}
    (hfind : s.movements.find? movement.id = some movement)
    (h : finalizeSpecificLotMovementValuation s movement.id = .ok s') :
    movement.valuationMethod ≠ .SPECIFIC_LOT ∧ s' = s ∨ movement.valuationMethod = .SPECIFIC_LOT ∧
        s.lots.allocatedQuantity movement.id = movement.quantityChange ∧
        ∃ unitCost inventoryValue, s' = { s with
          movements := s.movements.update movement.id
            (Movement.finalized unitCost (s.lots.allocatedValue movement.id) inventoryValue) } := by
  rw [finalizeSpecificLotMovementValuation, hfind] at h
  dsimp only at h
  split at h
  case isTrue hmethod =>
    rw [pure_eq_ok] at h
    exact Or.inl ⟨hmethod, h.symm⟩
  case isFalse hmethod =>
    simp only [eq_ok] at h
    obtain ⟨-, -, -, -, valuation, -, -, ⟨hquantity, -⟩, rfl⟩ := h
    exact Or.inr ⟨not_not.mp hmethod, hquantity, _, _, rfl⟩

end UInventario
