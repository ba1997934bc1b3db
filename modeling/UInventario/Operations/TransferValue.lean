import UInventario.Operations.TransferLifecycle

/-!
# What a dispatch does to the moving average

The dispatch of a line takes its quantity out of the row of `inventory_valuations` with the
`TRANSFER_OUT`, at the average, and puts it back with the `TRANSFER_IN`, at the average.

* The quantity and the average come back as they were, and so does the value when some stock stays.
* A departure of the whole stock takes the whole value, and the arrival brings the quantity at the
  average. The value comes back exactly when it was that.
* `whole_stock_revalued`: three units worth 3.02, kept at 1.0067, arrive worth 3.0201.
-/

namespace UInventario

open Outcome

namespace Transfers

variable {transferId : Uuid} {line : TransferLine} {type : MovementType} {locationId : Uuid}
  {resultingQuantity quantityChange : ℤ} {s : Store}

theorem isValuedEntry_dispatchMovement (htype : type.carriesCost = false) :
    isValuedEntry ((dispatchMovement transferId line type locationId quantityChange
      resultingQuantity).toMovement s) = false := by
  show (decide (0 < quantityChange) && type.carriesCost) = false
  rw [htype, Bool.and_false]

/-- **A half of a dispatch on the row of its product**: the row is moved at its average. -/
theorem postMovement_dispatchMovement {s' : Store} {tracking : Tracking}
    (htype : type.carriesCost = false)
    (h : postMovement s (dispatchMovement transferId line type locationId quantityChange
      resultingQuantity) tracking = .ok s') :
    ∃ v, (ensureValuation s line.productId).valuations.find? line.productId = some v ∧
      0 ≤ v.quantity + quantityChange ∧
      s'.valuations.find? line.productId =
        some (v.after quantityChange false v.averageUnitCost) := by
  obtain ⟨p⟩ := postMovement_eq_ok h
  have hvalued : isValuedEntry ((dispatchMovement transferId line type locationId quantityChange
      resultingQuantity).toMovement s) = false := isValuedEntry_dispatchMovement htype
  have hcost : p.unitCost = p.valuation.averageUnitCost := by
    have hcost := p.cost_eq
    rw [movementCost, hvalued] at hcost
    exact (pure_eq_ok.mp hcost).symm
  refine ⟨p.valuation, p.valuation_eq, p.quantity_nonneg, ?_⟩
  have hfind := p.find?_valuation
  rw [Posting.next, hvalued, hcost] at hfind
  exact hfind

/-- **There and back.** The row is as it was exactly when some stock stayed, or its value was its
quantity at the average. -/
theorem after_after_eq_iff {v : Valuation} {q : ℤ} (hq : 0 < q) (hle : q ≤ v.quantity) :
    (v.after (-q) false v.averageUnitCost).after q false v.averageUnitCost = v ↔
      q < v.quantity ∨ v.inventoryValue = quantityTimesCost v.quantity v.averageUnitCost := by
  have hback : v.quantity + -q + q = v.quantity := neg_add_cancel_right v.quantity q
  have hsome : ¬v.quantity = 0 := by omega
  have hvalue : (v.after (-q) false v.averageUnitCost).valueAfter q v.averageUnitCost =
      v.valueAfter (-q) v.averageUnitCost + quantityTimesCost q v.averageUnitCost := by
    show (if v.quantity + -q + q = 0 then 0 else _) = _
    rw [hback, if_neg hsome]
    rfl
  have hrow : (v.after (-q) false v.averageUnitCost).after q false v.averageUnitCost =
      { v with inventoryValue :=
          v.valueAfter (-q) v.averageUnitCost + quantityTimesCost q v.averageUnitCost } := by
    rw [← hvalue]
    show Valuation.mk _ (v.quantity + -q + q) _ _ = _
    rw [hback]
    rfl
  have hkept : (v.after (-q) false v.averageUnitCost).after q false v.averageUnitCost = v ↔
      v.valueAfter (-q) v.averageUnitCost + quantityTimesCost q v.averageUnitCost =
        v.inventoryValue := by
    rw [hrow]
    exact ⟨fun h ↦ congrArg Valuation.inventoryValue h, fun h ↦ by rw [h]⟩
  rw [hkept, Valuation.valueAfter]
  by_cases hwhole : v.quantity + -q = 0
  · have hall : q = v.quantity := by omega
    rw [if_pos hwhole, zero_add, hall, eq_comm]
    simp
  · rw [if_neg hwhole, quantityTimesCost_neg]
    refine iff_of_true (by ring) (Or.inl ?_)
    omega

/-- **When a dispatch keeps the row**: exactly when some stock stays, or its value was its quantity
at the average. -/
theorem dispatchLine_keeps_valuation_iff {c c' : Cached} (hpos : 0 < line.quantity)
    (h : dispatchLine transferId c line = .ok c') :
    ∃ v, c.store.valuations.find? line.productId = some v ∧ line.quantity ≤ v.quantity ∧
      (c'.store.valuations.find? line.productId = some v ↔ line.quantity < v.quantity ∨
          v.inventoryValue = quantityTimesCost v.quantity v.averageUnitCost) := by
  simp only [dispatchLine, Cached.write, eq_ok] at h
  obtain ⟨source, _, _, _, _, ⟨s₁, hwrite₁, rfl⟩, destination, _, _, ⟨s₂, hwrite₂, rfl⟩, s₃, hout,
    s₄, hin, rfl⟩ := h
  obtain ⟨-, rfl⟩ := updateBalance_eq_ok hwrite₁
  obtain ⟨-, rfl⟩ := updateBalance_eq_ok hwrite₂
  obtain ⟨v, hv, hle, hleft⟩ := postMovement_dispatchMovement rfl hout
  obtain ⟨v', hv', -, harrived⟩ := postMovement_dispatchMovement rfl hin
  rw [ensureValuation_of_some hleft, hleft] at hv'
  obtain rfl := Option.some_inj.mp hv'
  have hrow : c.store.valuations.find? line.productId = some v := by
    rcases find?_ensureValuation hv with hrow | ⟨-, _, -, rfl⟩
    · exact hrow
    · -- a row that has just been made covers nothing
      exact absurd hle (by show ¬(0 : ℤ) ≤ 0 + -line.quantity; omega)
  refine ⟨v, hrow, by omega, ?_⟩
  rw [harrived, Option.some_inj]
  exact after_after_eq_iff hpos (by omega)

/-! ### Three units that are sent together -/

def arrivalMovement (lineId : Uuid) (quantity resultingQuantity : ℤ) : NewMovement where
  productId := 5
  locationId := 11
  type := .PURCHASE_RECEIPT
  quantityChange := quantity
  resultingQuantity := resultingQuantity
  idempotencyKey := .request [lineId]
  purchaseReceiptLineId := some lineId

def arrivalLine (id : Uuid) (quantity unitCost : ℤ) : PurchaseReceiptLine where
  id := id
  receiptId := 1
  productId := 5
  receivedQuantity := quantity
  unitCost := unitCost
  currency := .MXN
  lotCode := none
  manufacturedOn := none
  expiresOn := none
  lotId := none

def receiveThree (s : Store) : Except Failure Store := do
  let s := ensureBalance {
    s with
    purchaseReceiptLines := ⟨[arrivalLine 1 1000 10000, arrivalLine 2 2000 10100], by decide⟩ } 5 11
  let balance ← demand (s.balance? 5 11) .typeError
  let s ← updateBalance s { balance with quantity := 3000, available := 3000 }
  let s ← postMovement s (arrivalMovement 1 1000 1000) {}
  postMovement s (arrivalMovement 2 2000 3000) {}

def sentLine (quantity : ℤ) : TransferLine where
  id := 0
  transferId := 0
  lineNumber := 1
  productId := 5
  sourceLocationId := 11
  destinationLocationId := 12
  quantity := quantity
  receivedQuantity := 0
  discrepancyQuantity := 0
  serialNumbers := []

def openThree : Except Failure Cached := do
  let s ← receiveThree twoWarehouses
  (dispatchKeys [sentLine 3000]).foldlM openCached { store := s, balances := fun _ ↦ none }

theorem dispatchLine_keeps_valuation_two : ∃ c c' v, openThree = .ok c ∧
    dispatchLine 0 c (sentLine 2000) = .ok c' ∧
    c.store.valuations.find? 5 = some v ∧ c'.store.valuations.find? 5 = some v := by
  have hopen := eq_ok_get (show openThree.toOption.isSome = true by decide +kernel)
  have hsent := eq_ok_get (show (dispatchLine 0 (openThree.toOption.get (by decide +kernel))
    (sentLine 2000)).toOption.isSome = true by decide +kernel)
  obtain ⟨v, hv, -, hkept⟩ := dispatchLine_keeps_valuation_iff (by decide) hsent
  have hrow : (openThree.toOption.get (by decide +kernel)).store.valuations.find? 5 = some {
      productId := 5, quantity := 3000, inventoryValue := 30200, averageUnitCost := 10067 } := by
    decide +kernel
  obtain rfl := Option.some_inj.mp (hrow.symm.trans hv)
  exact ⟨_, _, _, hopen, hsent, hv, hkept.mpr (Or.inl (by decide))⟩

/-- **The whole stock is revalued.** -/
theorem whole_stock_revalued : ∃ c c', openThree = .ok c ∧
    dispatchLine 0 c (sentLine 3000) = .ok c' ∧
    c.store.valuations.find? 5 = some {
      productId := 5, quantity := 3000, inventoryValue := 30200, averageUnitCost := 10067 } ∧
    c'.store.valuations.find? 5 = some {
      productId := 5, quantity := 3000, inventoryValue := 30201, averageUnitCost := 10067 } := by
  have hopen := eq_ok_get (show openThree.toOption.isSome = true by decide +kernel)
  have hsent := eq_ok_get (show (dispatchLine 0 (openThree.toOption.get (by decide +kernel))
    (sentLine 3000)).toOption.isSome = true by decide +kernel)
  exact ⟨_, _, hopen, hsent, by decide +kernel, by decide +kernel⟩

end Transfers

end UInventario
