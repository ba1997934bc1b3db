import UInventario.Inventory.FifoValuation

/-!
# The moving average

`applyInventoryValuation` runs after a movement has been inserted. It moves the row of
`inventory_valuations` by the quantity of the movement and its value at a unit cost, writes the
amounts on the movement row, and then maintains the FIFO layers and seals the row under the active
policy. The arithmetic of one movement on one row is `nextValuation`.
-/

namespace UInventario

open Outcome Table

/-! ### The arithmetic of one movement -/

def MovementType.carriesCost : MovementType → Bool
  | .PURCHASE_RECEIPT | .SALE_VOID | .SALE_RETURN => true
  | _ => false

/-- An entry that is valued at a cost of its own, not at the current average. -/
def isValuedEntry (movement : Movement) : Bool :=
  decide (0 < movement.quantityChange) && movement.type.carriesCost

/-- The row after a movement, and its unit cost. Only a valued entry moves the average. -/
def nextValuation (valuation : Valuation) (quantityChange : ℤ) (valued : Bool)
    (resolveCost : Except Failure ℤ) : Except Failure (ℤ × Valuation) := do
  let newQuantity := valuation.quantity + quantityChange
  ensure (0 ≤ newQuantity) .negativeInventoryValuationQuantity
  let unitCost ← resolveCost
  let newValue :=
    if newQuantity = 0 then 0
    else valuation.inventoryValue + quantityTimesCost quantityChange unitCost
  ensure (0 ≤ newValue) .negativeInventoryValuationValue
  let newAverage :=
    if valued ∧ 0 < newQuantity then divideRounded (newValue * QUANTITY_SCALE) newQuantity
    else valuation.averageUnitCost
  pure (unitCost, { valuation with
    quantity := newQuantity, inventoryValue := newValue, averageUnitCost := newAverage })

/-! ### The cost of a movement -/

/-- The SALE rows among which a void or a return looks for its cost: those of the same sale, sale
line and location that carry one. -/
def isCostSource (movement m : Movement) : Bool :=
  sqlEq m.saleId movement.saleId && sqlEq m.saleLineId movement.saleLineId &&
    decide (m.locationId = movement.locationId) && decide (m.type = .SALE) && m.unitCost.isSome

/-- The SALE row whose cost a void or a return takes: the first one created. -/
def originalSaleMovement (movements : Table Movement) (movement : Movement) : Option Movement :=
  (orderBy Movement.createdBefore (movements.rows.filter (isCostSource movement))).head?

def resolveSourceCost (s : Store) (movement : Movement) (currentAverage : ℤ) :
    Except Failure ℤ :=
  match movement.type with
  | .PURCHASE_RECEIPT => do
    let line ← demand (movement.purchaseReceiptLineId.bind s.purchaseReceiptLines.find?)
      .purchaseReceiptCostNotFound
    pure line.unitCost
  | .SALE_VOID | .SALE_RETURN =>
    demand ((originalSaleMovement s.movements movement).bind Movement.unitCost)
      .saleMovementCostNotFound
  | _ => pure currentAverage

/-! ### The movement as a whole -/

def assertInventoryReconciliationOperational (s : Store) : Except Failure PUnit :=
  ensure (s.operationsBlocked = false) .inventoryReconciliationBlocked

/-- `INSERT … ON DUPLICATE KEY UPDATE`: an empty row at the catalogue cost, when it is missing. -/
def ensureValuation (s : Store) (productId : Uuid) : Store :=
  match s.products.find? productId with
  | none => s
  | some product =>
    match s.valuations.insert {
        productId := product.id, quantity := 0, inventoryValue := 0,
        averageUnitCost := product.cost } with
    | none => s
    | some valuations => { s with valuations := valuations }

/-- What `applyInventoryValuation` writes on the movement. -/
def Movement.valuedBy (unitCost valueChange : ℤ) (next : Valuation) (m : Movement) : Movement :=
  { m with
    unitCost := some unitCost, valueChange := some valueChange,
    resultingInventoryValue := some next.inventoryValue,
    averageUnitCost := some next.averageUnitCost }

/-- `UPDATE inventory_valuations SET quantity = ?, inventory_value = ?, average_unit_cost = ?`. -/
def Valuation.moved (next v : Valuation) : Valuation :=
  { v with
    quantity := next.quantity, inventoryValue := next.inventoryValue,
    averageUnitCost := next.averageUnitCost }

def catalogCost (average : ℤ) : ℤ :=
  divideRounded average 100 * 100

/-- `UPDATE products SET cost = ?, version = version + 1 … AND cost <> ?`. -/
def Product.recosted (cost : ℤ) (p : Product) : Product :=
  if p.cost = cost then p else { p with cost := cost, version := p.version + 1 }

theorem Product.recosted_id (cost : ℤ) (p : Product) : (p.recosted cost).id = p.id := by
  rw [recosted]
  split <;> rfl

def movementCost (s : Store) (movement : Movement) (currentAverage : ℤ) : Except Failure ℤ :=
  if isValuedEntry movement then resolveSourceCost s movement currentAverage
  else pure currentAverage

/-- The moving-average part of `applyInventoryValuation`. -/
def applyMovingAverage (s : Store) (movement : Movement) : Except Failure Store := do
  let s := ensureValuation s movement.productId
  let valuation ← demand (s.valuations.find? movement.productId) .inventoryValuationNotFound
  let valued := isValuedEntry movement
  let (unitCost, next) ← nextValuation valuation movement.quantityChange valued
    (movementCost s movement valuation.averageUnitCost)
  pure { s with
    valuations := s.valuations.update movement.productId (Valuation.moved next)
    movements := s.movements.update movement.id
      (Movement.valuedBy unitCost (next.inventoryValue - valuation.inventoryValue) next)
    products :=
      if valued then
        s.products.update movement.productId (Product.recosted (catalogCost next.averageUnitCost))
          (Product.recosted_id _)
      else s.products }

def applyInventoryValuation (s : Store) (movementId : Uuid) : Except Failure Store := do
  let movement ← demand (s.movements.find? movementId) .inventoryMovementNotFoundForValuation
  assertInventoryReconciliationOperational s
  let s ← applyMovingAverage s movement
  let s ← applyInventoryFifoValuation s movementId
  sealInventoryMovementValuation s movementId

/-! ### One movement on one row -/

def Valuation.valueAfter (v : Valuation) (quantityChange : ℤ) (unitCost : ℤ) : ℤ :=
  if v.quantity + quantityChange = 0 then 0
  else v.inventoryValue + quantityTimesCost quantityChange unitCost

def Valuation.after (v : Valuation) (quantityChange : ℤ) (valued : Bool) (unitCost : ℤ) :
    Valuation :=
  { v with
    quantity := v.quantity + quantityChange
    inventoryValue := v.valueAfter quantityChange unitCost
    averageUnitCost :=
      if valued ∧ 0 < v.quantity + quantityChange then
        divideRounded (v.valueAfter quantityChange unitCost * QUANTITY_SCALE)
          (v.quantity + quantityChange)
      else v.averageUnitCost }

variable {v : Valuation}

/-- **The arithmetic of one movement** succeeds when quantity and value stay at zero or above and
the cost is resolved. -/
theorem nextValuation_eq_ok {v' : Valuation} {quantityChange : ℤ} {valued : Bool}
    {resolveCost : Except Failure ℤ} {unitCost : ℤ} :
    nextValuation v quantityChange valued resolveCost = .ok (unitCost, v') ↔
      0 ≤ v.quantity + quantityChange ∧ resolveCost = .ok unitCost ∧
        0 ≤ v.valueAfter quantityChange unitCost ∧
        v' = v.after quantityChange valued unitCost := by
  simp only [nextValuation, eq_ok]
  constructor
  · rintro ⟨-, hquantity, c, hcost, -, hvalue, hrow⟩
    obtain ⟨rfl, rfl⟩ := Prod.mk.inj hrow
    exact ⟨hquantity, hcost, hvalue, rfl⟩
  · rintro ⟨hquantity, hcost, hvalue, rfl⟩
    exact ⟨⟨⟩, hquantity, unitCost, hcost, ⟨⟩, hvalue, rfl⟩

/-! ### The row of the product -/

variable {s : Store} {productId : Uuid} {movements : Table Movement} {m : Movement} {s' : Store}

theorem ensureValuation_of_some (h : s.valuations.find? productId = some v) :
    ensureValuation s productId = s := by
  rw [ensureValuation]
  cases hproduct : s.products.find? productId with
  | none => rfl
  | some product =>
    have hid : product.id = productId := key_of_find? hproduct
    dsimp only
    split
    · rfl
    case h_2 valuations hinsert =>
      have := (insert_eq_some hinsert).1
      rw [show Keyed.key (_ : Valuation) = productId from hid, h] at this
      cases this

theorem ensureValuation_eq (s : Store) (productId : Uuid) : ensureValuation s productId =
      { s with valuations := (ensureValuation s productId).valuations } := by
  rw [ensureValuation]
  split
  · rfl
  · split <;> rfl

theorem find?_ensureValuation
    (h : (ensureValuation s productId).valuations.find? productId = some v) :
    s.valuations.find? productId = some v ∨
      s.valuations.find? productId = none ∧ ∃ product, s.products.find? productId = some product ∧
        v = {
          productId := productId, quantity := 0, inventoryValue := 0,
          averageUnitCost := product.cost } := by
  cases hfind : s.valuations.find? productId with
  | some v' =>
    rw [ensureValuation_of_some hfind, hfind] at h
    exact Or.inl h
  | none =>
    rw [ensureValuation] at h
    split at h
    · rw [hfind] at h
      cases h
    case h_2 product hproduct =>
      have hid : product.id = productId := key_of_find? hproduct
      subst hid
      split at h
      · rw [hfind] at h
        cases h
      case h_2 valuations hinsert =>
        refine Or.inr ⟨rfl, product, hproduct, ?_⟩
        have hself := find?_insert_self hinsert
        exact Option.some_inj.mp (h.symm.trans hself)

theorem ensureValuation_congr (hproducts : s'.products = s.products)
    (hvaluations : s'.valuations = s.valuations) (productId : Uuid) :
    (ensureValuation s' productId).valuations = (ensureValuation s productId).valuations := by
  rw [ensureValuation, ensureValuation, hproducts, hvaluations]
  split
  · exact hvaluations
  · split
    · exact hvaluations
    · rfl

theorem find?_ensureValuation_of_ne {productId' : Uuid} (hne : productId' ≠ productId) :
    (ensureValuation s productId).valuations.find? productId' = s.valuations.find? productId' := by
  rw [ensureValuation]
  split
  · rfl
  case h_2 product hproduct =>
    have hid : product.id = productId := key_of_find? hproduct
    split
    · rfl
    case h_2 valuations hinsert =>
      refine find?_insert_of_ne hinsert ?_
      rw [hid]
      exact hne.symm

/-! ### The moving average, taken apart -/

/-- **The moving average of one movement**, at the cost found for it. -/
theorem applyMovingAverage_eq_ok {movement : Movement}
    (h : applyMovingAverage s movement = .ok s') :
    ∃ valuation unitCost,
      (ensureValuation s movement.productId).valuations.find? movement.productId = some valuation ∧
      0 ≤ valuation.quantity + movement.quantityChange ∧
      0 ≤ valuation.valueAfter movement.quantityChange unitCost ∧
      movementCost s movement valuation.averageUnitCost = .ok unitCost ∧
      s' = { s with
        valuations := (ensureValuation s movement.productId).valuations.update movement.productId
          (Valuation.moved (valuation.after movement.quantityChange (isValuedEntry movement)
            unitCost))
        movements := s.movements.update movement.id
          (Movement.valuedBy unitCost
            (valuation.valueAfter movement.quantityChange unitCost - valuation.inventoryValue)
            (valuation.after movement.quantityChange (isValuedEntry movement) unitCost))
        products :=
          if isValuedEntry movement then
            s.products.update movement.productId (Product.recosted (catalogCost
              (valuation.after movement.quantityChange true unitCost).averageUnitCost))
              (Product.recosted_id _)
          else s.products } := by
  rw [applyMovingAverage, ensureValuation_eq s movement.productId] at h
  simp only [eq_ok] at h
  obtain ⟨valuation, hfind, ⟨unitCost, next⟩, hnext, rfl⟩ := h
  obtain ⟨hquantity, hcost, hvalue, rfl⟩ := nextValuation_eq_ok.mp hnext
  refine ⟨valuation, unitCost, hfind, hquantity, hvalue, hcost, ?_⟩
  cases hvalued : isValuedEntry movement <;> rfl

theorem find?_update_moved {valuations : Table Valuation} (h : valuations.find? productId = some v)
    (quantityChange : ℤ) (valued : Bool) (unitCost : ℤ) :
    (valuations.update productId
      (Valuation.moved (v.after quantityChange valued unitCost))).find? productId =
        some (v.after quantityChange valued unitCost) :=
  Table.find?_update_self.trans (by rw [h]; rfl)

theorem originalSaleMovement_append {movements' : Table Movement}
    (hrows : movements'.rows = movements.rows ++ [m]) (hm : m.unitCost = none)
    (movement : Movement) :
    originalSaleMovement movements' movement = originalSaleMovement movements movement := by
  have hfilter : [m].filter (isCostSource movement) = [] := by
    simp [isCostSource, hm]
  rw [originalSaleMovement, originalSaleMovement, hrows, List.filter_append, hfilter,
    List.append_nil]

theorem movementCost_append
    (hrows : movements.rows = s.movements.rows ++ [m]) (hm : m.unitCost = none)
    (movement : Movement) (currentAverage : ℤ) :
    movementCost { s with movements := movements } movement currentAverage =
      movementCost s movement currentAverage := by
  rw [movementCost, movementCost]
  congr 1
  rw [resolveSourceCost, resolveSourceCost]
  split
  · rfl
  · rw [originalSaleMovement_append hrows hm]
  · rw [originalSaleMovement_append hrows hm]
  · rfl

end UInventario
