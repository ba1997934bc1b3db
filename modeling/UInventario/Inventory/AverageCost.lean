import UInventario.Inventory.Journal

/-!
# What the moving average can pay for

The row of `inventory_valuations` keeps its value exactly and its average rounded to four decimals.
An exit takes the rounded average times its quantity out of the value, which may not cover it: then
`applyInventoryValuation` throws `NEGATIVE_INVENTORY_VALUATION_VALUE`.

`ReachableRow` are the rows that entries and accepted exits build from the empty row. For them
`exit_accepted_iff` says which exits are accepted: that of the whole stock, and those whose rounded
value does not exceed the value of the row.
-/

namespace UInventario

open Outcome

/-! ### One movement on one row -/

variable {v : Valuation} {quantityChange unitCost : ℤ} {valued : Bool}

theorem nextValuation_pure (hquantity : 0 ≤ v.quantity + quantityChange) :
    nextValuation v quantityChange valued (pure unitCost) =
      if 0 ≤ v.valueAfter quantityChange unitCost then
        .ok (unitCost, v.after quantityChange valued unitCost)
      else .error .negativeInventoryValuationValue := by
  split
  case isTrue hvalue => exact nextValuation_eq_ok.mpr ⟨hquantity, rfl, hvalue, rfl⟩
  case isFalse hvalue =>
    have hvalue' : ¬0 ≤ (if v.quantity + quantityChange = 0 then 0
      else v.inventoryValue + quantityTimesCost quantityChange unitCost) := hvalue
    simp [nextValuation, ensure, hquantity, hvalue', pure, Except.pure, bind, Except.bind]

/-! ### Rows that movements build -/

/-- **The rows reachable from the empty row.** -/
inductive ReachableRow : Valuation → Prop
  | empty (productId : Uuid) (cost : ℤ) (hcost : 0 ≤ cost) :
      ReachableRow {
        productId := productId, quantity := 0, inventoryValue := 0, averageUnitCost := cost }
  | valuedEntry {v v' : Valuation} {q : ℤ} {c : ℤ} (hv : ReachableRow v) (hq : 0 < q)
      (hc : 0 ≤ c) (h : nextValuation v q true (pure c) = .ok (c, v')) : ReachableRow v'
  | unvaluedEntry {v v' : Valuation} {q : ℤ} (hv : ReachableRow v) (hq : 0 < q)
      (h : nextValuation v q false (pure v.averageUnitCost) = .ok (v.averageUnitCost, v')) :
      ReachableRow v'
  | exit {v v' : Valuation} {q : ℤ} (hv : ReachableRow v) (hq : 0 < q)
      (h : nextValuation v (-q) false (pure v.averageUnitCost) = .ok (v.averageUnitCost, v')) :
      ReachableRow v'

structure Valuation.Sound (v : Valuation) : Prop where
  quantity_nonneg : 0 ≤ v.quantity
  value_nonneg : 0 ≤ v.inventoryValue
  average_nonneg : 0 ≤ v.averageUnitCost

theorem Valuation.Sound.next {v' : Valuation} {resolveCost : Except Failure ℤ} (hv : v.Sound)
    (h : nextValuation v quantityChange valued resolveCost = .ok (unitCost, v')) : v'.Sound := by
  obtain ⟨hquantity, -, hvalue, rfl⟩ := nextValuation_eq_ok.mp h
  refine ⟨hquantity, hvalue, ?_⟩
  show 0 ≤ if valued ∧ 0 < v.quantity + quantityChange then _ else v.averageUnitCost
  split
  case isTrue hvalued =>
    exact Rounding.roundDiv_nonneg (mul_nonneg hvalue (by norm_num)) hvalued.2
  case isFalse => exact hv.average_nonneg

theorem ReachableRow.sound (hv : ReachableRow v) : v.Sound := by
  induction hv with
  | empty productId cost hcost => exact ⟨le_rfl, le_rfl, hcost⟩
  | valuedEntry _ _ _ h ih => exact ih.next h
  | unvaluedEntry _ _ h ih => exact ih.next h
  | exit _ _ h ih => exact ih.next h

/-! ### Exits -/

variable {q : ℤ}

theorem valueAfter_exit_nonneg_iff (hv : v.Sound) (hq : 0 < q) :
    0 ≤ v.valueAfter (-q) v.averageUnitCost ↔
      q = v.quantity ∨
        2 * (q * v.averageUnitCost) < (2 * v.inventoryValue + 1) * QUANTITY_SCALE := by
  rw [Valuation.valueAfter]
  split
  case isTrue hzero =>
    have : q = v.quantity := by omega
    simp [this]
  case isFalse hrest =>
    have hne : q ≠ v.quantity := by omega
    rw [quantityTimesCost_neg, ← quantityTimesCost_le_iff hq.le hv.average_nonneg]
    constructor
    · intro h
      exact Or.inr (by omega)
    · rintro (h | h)
      · exact absurd h hne
      · omega

theorem exit_accepted_iff (hv : v.Sound) (hq : 0 < q) (hle : q ≤ v.quantity) :
    nextValuation v (-q) false (pure v.averageUnitCost) ≠ .error .negativeInventoryValuationValue ↔
      q = v.quantity ∨
        2 * (q * v.averageUnitCost) < (2 * v.inventoryValue + 1) * QUANTITY_SCALE := by
  rw [nextValuation_pure (by omega), ← valueAfter_exit_nonneg_iff hv hq]
  split
  case isTrue h => simp [h]
  case isFalse h => simp [h]

/-! ### The pass over the layers does not refuse a value -/

section Avoids

variable {env : Env} {movements : Table Movement} {book : FifoBook} {movement : Movement}
  {s : Store}

private theorem avoids_insertAllocation (input : AllocationInput) :
    Avoids (insertAllocation env book movement input) .negativeInventoryValuationValue :=
  avoids_ensure_bind (by decide) fun _ ↦
    avoids_ensure_bind (by decide) fun _ ↦
      avoids_map (avoids_demand (by decide))

private theorem avoids_createLayer (input : LayerInput) :
    Avoids (createLayer env book movement input) .negativeInventoryValuationValue := by
  refine avoids_bind ?_ fun _ _ ↦ avoids_ensure_bind (by decide) fun _ ↦
    avoids_bind (avoids_demand (by decide)) fun _ _ ↦ avoids_insertAllocation _
  rw [assertCurrency]
  split
  · exact avoids_pure _
  · exact avoids_ensure (by decide)

private theorem avoids_consumeLayers (requested : ℤ) (source : LayerSource) :
    Avoids (consumeLayers env movements book movement requested source)
      .negativeInventoryValuationValue := by
  refine avoids_bind (avoids_foldlM (fun p layer ↦ ?_) _ _) fun _ _ ↦
    avoids_map (avoids_ensure (by decide))
  refine avoids_ite (avoids_pure _) (avoids_ite (avoids_pure _) ?_)
  exact avoids_map (avoids_insertAllocation _)

private theorem avoids_restoreSale (expected : ℤ) :
    Avoids (restoreSale env movements book movement expected)
      .negativeInventoryValuationValue := by
  refine avoids_bind (avoids_foldlM (fun p source ↦ ?_) _ _) fun _ _ ↦
    avoids_map (avoids_ensure (by decide))
  refine avoids_ite (avoids_pure _) ?_
  exact avoids_bind (avoids_demand (by decide)) fun _ _ ↦
    avoids_ensure_bind (by decide) fun _ ↦
      avoids_map (avoids_insertAllocation _)

private theorem avoids_transferLayers (expected : ℤ) :
    Avoids (transferLayers env movements book movement expected)
      .negativeInventoryValuationValue := by
  refine avoids_bind (avoids_foldlM (fun p source ↦ ?_) _ _) fun _ _ ↦
    avoids_map (avoids_ensure (by decide))
  exact avoids_ite (avoids_pure _) (avoids_map (avoids_createLayer _))

private theorem avoids_sourceCost :
    Avoids (sourceCost s movement) .negativeInventoryValuationValue := by
  exact avoids_ite (avoids_map (avoids_demand (by decide)))
    (avoids_map (avoids_demand (by decide)))

private theorem avoids_exitSource :
    Avoids (exitSource s movement) .negativeInventoryValuationValue := by
  refine avoids_ite ?_ (avoids_ite ?_ (avoids_pure _))
  · exact avoids_map (avoids_map (avoids_demand (by decide)))
  · split <;> exact avoids_pure _

private theorem avoids_moveLayers :
    Avoids (moveLayers s movement) .negativeInventoryValuationValue := by
  refine avoids_ite ?_ (avoids_ite ?_ (avoids_pure _))
  · split
    · exact avoids_restoreSale _
    · exact avoids_restoreSale _
    · exact avoids_transferLayers _
    · exact avoids_bind avoids_sourceCost fun _ _ ↦ avoids_createLayer _
  · exact avoids_bind avoids_exitSource fun _ _ ↦ avoids_consumeLayers _ _

theorem avoids_fifo_and_seal (movementId : Uuid) :
    Avoids (applyInventoryFifoValuation s movementId >>= fun s' ↦
      sealInventoryMovementValuation s' movementId) .negativeInventoryValuationValue := by
  refine avoids_bind ?_ fun s' _ ↦ ?_
  · refine avoids_bind (avoids_demand (by decide)) fun movement _ ↦ avoids_ite (avoids_pure _) ?_
    refine avoids_bind avoids_moveLayers fun _ _ ↦ ?_
    exact avoids_bind (avoids_demand (by decide)) fun _ _ ↦
      avoids_map (avoids_ensure (by decide))
  · exact avoids_bind (avoids_demand (by decide)) fun _ _ ↦
      avoids_map (avoids_ensure (by decide))

end Avoids

/-! ### The exit of a movement -/

/-- **Which exits are refused**: those that leave some stock and take more than its value. -/
theorem applyInventoryValuation_exit_iff {s : Store} {movement : Movement} {v : Valuation} {q : ℤ}
    (hv : ReachableRow v) (hrow : s.valuations.find? movement.productId = some v)
    (hmovement : s.movements.find? movement.id = some movement)
    (hopen : s.operationsBlocked = false) (hexit : movement.quantityChange = -q) (hq : 0 < q)
    (hle : q ≤ v.quantity) :
    applyInventoryValuation s movement.id ≠ .error .negativeInventoryValuationValue ↔
      q = v.quantity ∨
        2 * (q * v.averageUnitCost) < (2 * v.inventoryValue + 1) * QUANTITY_SCALE := by
  have hvalued : isValuedEntry movement = false := by
    simp [isValuedEntry, hexit, hq.le]
  have hstart : applyInventoryValuation s movement.id =
      nextValuation v (-q) false (pure v.averageUnitCost) >>= fun r ↦
        applyInventoryFifoValuation { s with
          valuations := s.valuations.update movement.productId (Valuation.moved r.2)
          movements := s.movements.update movement.id
            (Movement.valuedBy r.1 (r.2.inventoryValue - v.inventoryValue) r.2) } movement.id >>=
          fun s' ↦ sealInventoryMovementValuation s' movement.id := by
    simp [applyInventoryValuation, applyMovingAverage, movementCost,
      assertInventoryReconciliationOperational, ensureValuation_of_some hrow, hmovement, hrow,
      hopen, hvalued, hexit, demand, ensure]
  rw [hstart, ← exit_accepted_iff hv.sound hq hle]
  constructor
  · intro h herror
    exact h (by rw [herror]; rfl)
  · intro h
    exact avoids_bind h fun r _ ↦ avoids_fifo_and_seal _

/-! ### Eighteen units worth a cent

Seventeen units are entered at no cost, and one is received at 0.01. The row is worth 0.0100 and its
average, 0.000555…, is kept as 0.0006. An exit of 16.750 would take 0.0101 out of it. -/

def roundedUpRow : Valuation where
  productId := 1
  quantity := 18000
  inventoryValue := 100
  averageUnitCost := 6

theorem reachable_roundedUpRow : ReachableRow roundedUpRow := by
  have hentered : ReachableRow {
      productId := 1, quantity := 17000, inventoryValue := 0, averageUnitCost := 0 } :=
    .unvaluedEntry (q := 17000) (.empty 1 0 le_rfl) (by decide) rfl
  exact .valuedEntry (q := 1000) (c := 100) hentered (by decide) (by decide) rfl

/-- An exit of `q` thousandths of the product. -/
def exitMovement (q : ℤ) : Movement where
  id := 1
  productId := 1
  locationId := 1
  type := .EXIT
  quantityChange := -q
  resultingQuantity := 18000 - q
  idempotencyKey := .request []
  createdAt := 0

def roundedUpStore (q : ℤ) : Store :=
  { Store.fresh default with
    valuations := ⟨[roundedUpRow], by simp⟩
    movements := ⟨[exitMovement q], by simp⟩ }

theorem applyInventoryValuation_exit_iff_roundedUpRow :
    applyInventoryValuation (roundedUpStore 18000) 1 ≠ .error .negativeInventoryValuationValue ↔
      (18000 : ℤ) = roundedUpRow.quantity ∨ 2 * ((18000 : ℤ) * roundedUpRow.averageUnitCost) <
        (2 * roundedUpRow.inventoryValue + 1) * QUANTITY_SCALE :=
  @applyInventoryValuation_exit_iff (roundedUpStore 18000) (exitMovement 18000) _ _
    reachable_roundedUpRow rfl rfl rfl rfl (by decide) (by decide)

theorem exit_of_existing_stock_refused : ReachableRow roundedUpRow ∧
      (roundedUpStore 16750).valuations.find? 1 = some roundedUpRow ∧
      (roundedUpStore 16750).movements.find? 1 = some (exitMovement 16750) ∧
      (0 : ℤ) < 16750 ∧ (16750 : ℤ) ≤ roundedUpRow.quantity ∧
      applyInventoryValuation (roundedUpStore 16750) 1 = .error .negativeInventoryValuationValue :=
  ⟨reachable_roundedUpRow, rfl, rfl, by decide, by decide, rfl⟩

end UInventario
