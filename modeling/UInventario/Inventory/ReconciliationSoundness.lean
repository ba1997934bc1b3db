import UInventario.Inventory.Reconciliation
import UInventario.Inventory.ValuationPolicyService

/-!
# When the values of the movements add up

Reconciliation compares the value of a product's valuation, the moving average, with the sum of the
values of its movements, which the active method gives. They agree after a movement exactly when the
method gives it the amount by which the moving average moved. Under `MOVING_AVERAGE` it always does;
under `FIFO` and `SPECIFIC_LOT` for a movement of no quantity and for an entry at a cost of its own,
but not for an exit, a void, a return or the arrival of a transfer.

`KeepsValue` is this condition, and `collect_no_valueMismatch` says that a run that satisfies it
never leads from a store without findings to a `VALUATION_VALUE_MISMATCH`. One receipt at 10, one at
20 and one exit under `FIFO` do (`valueMismatch_of_fifo_exit`).
-/

namespace UInventario

open Outcome Table

/-! ### Runs -/

inductive StockEvent
  | move (n : NewMovement) (tracking : Tracking)
  | changePolicy (input : ChangePolicyInput)
  | reconcile (idempotencyKey : Text)
  | addProduct (product : Product)
  | editProduct (product : Product)
  | addLocation (location : Location)
  | openBalance (balance : Balance)
  | writeBalance (balance : Balance)
  | addReceiptLine (line : PurchaseReceiptLine)
  | addPurchaseReturnLine (line : PurchaseReturnLine)
  | addSaleReturnLine (line : SaleReturnLine)

def stockStep (s : Store) : StockEvent → Except Failure Store
  | .move n tracking => postMovement s n tracking
  | .changePolicy input => changeValuationPolicy s input
  | .reconcile idempotencyKey => runReconciliation s idempotencyKey
  | .addProduct product => do
    let products ← demand (s.products.insert product) .duplicateEntry
    pure { s with products := products }
  | .editProduct product =>
    pure { s with products := s.products.update product.id fun p ↦ { product with id := p.id } }
  | .addLocation location => do
    let locations ← demand (s.locations.insert location) .duplicateEntry
    pure { s with locations := locations }
  | .openBalance balance => do
    let balances ← demand (s.balances.insert balance) .duplicateEntry
    pure { s with balances := balances }
  | .writeBalance balance =>
    pure { s with balances := s.balances.update (balance.productId, balance.locationId) fun b ↦
      { balance with productId := b.productId, locationId := b.locationId } }
  | .addReceiptLine line => do
    let lines ← demand (s.purchaseReceiptLines.insert line) .duplicateEntry
    pure { s with purchaseReceiptLines := lines }
  | .addPurchaseReturnLine line => do
    let lines ← demand (s.purchaseReturnLines.insert line) .duplicateEntry
    pure { s with purchaseReturnLines := lines }
  | .addSaleReturnLine line => do
    let lines ← demand (s.saleReturnLines.insert line) .duplicateEntry
    pure { s with saleReturnLines := lines }

/-- **The stores a tenant can reach.** -/
def ReachableStock (s : Store) : Prop :=
  ∃ env events, s = run stockStep (Store.fresh env) events

/-- **The condition on an event**: nothing is valued but by the moving average or at a cost of its
own, or lots are not tracked. -/
def KeepsValue (s : Store) : StockEvent → Prop
  | .move n tracking =>
    s.method = .MOVING_AVERAGE ∨ n.quantityChange = 0 ∨
      (0 < n.quantityChange ∧ n.type ≠ .SALE_VOID ∧ n.type ≠ .SALE_RETURN ∧ n.type ≠ .TRANSFER_IN) ∨
      (s.method = .SPECIFIC_LOT ∧ tracking.lots = none)
  | _ => True

/-! ### Events -/

variable {s s' : Store} {e : StockEvent}

theorem runReconciliation_eq_ok {idempotencyKey : Text}
    (h : runReconciliation s idempotencyKey = .ok s') : s' = { s with
      reconciliationRuns := s'.reconciliationRuns, operationsBlocked := s'.operationsBlocked } := by
  rw [runReconciliation] at h
  split at h
  · obtain rfl := pure_eq_ok.mp h
    rfl
  · obtain ⟨findings, -, h⟩ := bind_eq_ok.mp h
    obtain rfl := pure_eq_ok.mp h
    rfl

/-- **What an event leaves alone** when it is not a movement: the journal, the valuations, the
allocations, and every product. -/
structure KeepsJournal (s s' : Store) : Prop where
  movements : s'.movements = s.movements
  valuations : s'.valuations = s.valuations
  fifo : s'.fifo = s.fifo
  movementLots : s'.lots.movementLots = s.lots.movementLots
  products : ∀ id p, s.products.find? id = some p → ∃ p', s'.products.find? id = some p'

theorem stockStep_cases (h : stockStep s e = .ok s') :
    (∃ n tracking, e = .move n tracking ∧ Nonempty (Posting s n tracking s')) ∨
      KeepsJournal s s' := by
  cases e with
  | move n tracking => exact .inl ⟨n, tracking, rfl, postMovement_eq_ok h⟩
  | changePolicy input =>
    have hsame := changeValuationPolicy_sameStock h
    refine .inr ⟨?_, ?_, ?_, ?_, fun id p hp ↦ hsame.find?_product hp⟩ <;> rw [hsame.store_eq]
  | reconcile idempotencyKey =>
    have hrun := runReconciliation_eq_ok h
    refine .inr ⟨?_, ?_, ?_, ?_, fun id p hp ↦ ⟨p, ?_⟩⟩ <;> rw [hrun]
    exact hp
  | addProduct product =>
    obtain ⟨products, hinsert, h⟩ := bind_eq_ok.mp h
    obtain rfl := pure_eq_ok.mp h
    exact .inr ⟨rfl, rfl, rfl, rfl, fun id p hp ↦
      ⟨p, find?_insert_of_some (demand_eq_ok.mp hinsert) hp⟩⟩
  | editProduct product =>
    obtain rfl := pure_eq_ok.mp h
    refine .inr ⟨rfl, rfl, rfl, rfl, fun id p hp ↦ ?_⟩
    rw [find?_update, hp]
    exact ⟨_, rfl⟩
  | writeBalance balance =>
    obtain rfl := pure_eq_ok.mp h
    exact .inr ⟨rfl, rfl, rfl, rfl, fun id p hp ↦ ⟨p, hp⟩⟩
  | addLocation | openBalance | addReceiptLine | addPurchaseReturnLine | addSaleReturnLine =>
    obtain ⟨_, -, h⟩ := bind_eq_ok.mp h
    obtain rfl := pure_eq_ok.mp h
    exact .inr ⟨rfl, rfl, rfl, rfl, fun id p hp ↦ ⟨p, hp⟩⟩

theorem stockStep_settled (hs : s.Settled) (h : stockStep s e = .ok s') : s'.Settled := by
  rcases stockStep_cases h with ⟨n, tracking, -, ⟨p⟩⟩ | hkeeps
  · exact p.settled hs
  · exact hs.of_eq hkeeps.movements hkeeps.valuations (by rw [hkeeps.fifo]) hkeeps.movementLots
      hkeeps.products

theorem ReachableStock.step (hs : ReachableStock s) (h : stockStep s e = .ok s') :
    ReachableStock s' := by
  obtain ⟨env, events, rfl⟩ := hs
  refine ⟨env, events ++ [e], ?_⟩
  rw [run_append, run_cons, run_nil, exec_of_ok h]

theorem ReachableStock.settled (hs : ReachableStock s) : s.Settled := by
  obtain ⟨env, events, rfl⟩ := hs
  exact run_induct (fun s e s' hs h ↦ stockStep_settled hs h) (Store.settled_fresh env) events

/-! ### The value of a movement -/

namespace Posting

variable {s s' : Store} {n : NewMovement} {tracking : Tracking} (p : Posting s n tracking s')

def averageChange : ℤ :=
  p.next.inventoryValue - p.valuation.inventoryValue

theorem averageChange_zero (hsettled : p.valuation.Settled) (hzero : n.quantityChange = 0) :
    p.averageChange = 0 := by
  show p.valuation.valueAfter n.quantityChange p.unitCost - p.valuation.inventoryValue = 0
  rw [Valuation.valueAfter, hzero, add_zero, quantityTimesCost_zero_left, add_zero]
  split
  case isTrue hempty => rw [hsettled.value_of_empty hempty, sub_self]
  case isFalse => rw [sub_self]

theorem averageChange_entry (hsettled : p.valuation.Settled) (hentry : 0 < n.quantityChange) :
    p.averageChange = quantityTimesCost n.quantityChange p.unitCost := by
  have hquantity := hsettled.quantity_nonneg
  show p.valuation.valueAfter n.quantityChange p.unitCost - p.valuation.inventoryValue = _
  rw [Valuation.valueAfter, if_neg (by omega)]
  ring

theorem sealedRow_of_ne_fifo (hmethod : s.method ≠ .FIFO) :
    p.sealedRow.valueChange = some p.averageChange ∧ p.sealedRow.unitCost = some p.unitCost := by
  have hpolicy : (loadInventoryValuationPolicy s).2.method ≠ .FIFO := hmethod
  rcases p.layers_eq with ⟨-, -, hlayered⟩ | ⟨_, _, -, -, hlayered⟩ <;>
    rw [sealedRow, hlayered] <;> simp only [Movement.sealed, if_neg hpolicy] <;>
    exact ⟨rfl, rfl⟩

theorem sealedRow_of_fifo (hs : s.Linked) (hmethod : s.method = .FIFO) :
    ∃ value, moveLayers p.valuedStore (n.valuedRow s p.valuation p.unitCost) =
      .ok (s'.fifo, value) ∧ p.sealedRow.valueChange = some value ∧
        p.sealedRow.unitCost = some (if n.quantityChange = 0 then 0
          else divideRounded (|value| * QUANTITY_SCALE) |n.quantityChange|) := by
  have hpolicy : (loadInventoryValuationPolicy s).2.method = .FIFO := hmethod
  obtain ⟨value, inventoryValue, hmove, -, hlayered⟩ := p.layers_of_linked hs
  refine ⟨value, hmove, ?_⟩
  rw [sealedRow, hlayered]
  simp only [Movement.sealed, if_pos hpolicy]
  exact ⟨rfl, rfl⟩

theorem row_of_ne_specificLot (hmethod : s.method ≠ .SPECIFIC_LOT) : p.row = p.sealedRow := by
  rcases p.row_eq with h | ⟨h, -⟩
  · exact h
  · exact absurd h hmethod

include p in
theorem allocated_before (hs : s.Linked) (w : MovementLot → ℤ) :
    (s.lots.movementLots.total fun a ↦ if a.movementId = s.freshMovementId then w a else 0) =
      0 := by
  refine total_eq_zero fun a ha ↦ if_neg fun hid ↦ ?_
  obtain ⟨m, hm, hmid⟩ := hs.movementLots a ha
  exact p.id_fresh m hm (hmid.trans hid)

theorem unitCost_receipt (htype : n.type = .PURCHASE_RECEIPT) (hentry : 0 < n.quantityChange) :
    ∃ line, n.purchaseReceiptLineId.bind s.purchaseReceiptLines.find? = some line ∧
      p.unitCost = line.unitCost := by
  have hcost := p.cost_eq
  have hvalued : isValuedEntry (n.toMovement s) = true := by
    show (decide (0 < n.quantityChange) && n.type.carriesCost) = true
    simp [hentry, htype, MovementType.carriesCost]
  rw [movementCost, if_pos hvalued, resolveSourceCost,
    show (n.toMovement s).type = .PURCHASE_RECEIPT from htype] at hcost
  obtain ⟨line, hline, hcost⟩ := bind_eq_ok.mp hcost
  exact ⟨line, demand_eq_ok.mp hline, (pure_eq_ok.mp hcost).symm⟩

theorem sourceCost_entry (hentry : 0 < n.quantityChange) {unitCost : ℤ} {currency : Currency}
    (hcost : sourceCost p.valuedStore (n.valuedRow s p.valuation p.unitCost) =
      .ok (unitCost, currency)) : unitCost = p.unitCost := by
  rw [sourceCost] at hcost
  split at hcost
  case isTrue htype =>
    obtain ⟨line, hline, hlineCost⟩ := p.unitCost_receipt htype hentry
    obtain ⟨line', hline', hcost⟩ := bind_eq_ok.mp hcost
    have hlines : p.valuedStore.purchaseReceiptLines = s.purchaseReceiptLines := by
      rw [p.valued_eq]
    rw [hlines] at hline'
    have : line' = line := Option.some_inj.mp ((demand_eq_ok.mp hline').symm.trans hline)
    rw [hlineCost, ← this]
    exact (congrArg Prod.fst (pure_eq_ok.mp hcost)).symm
  case isFalse =>
    obtain ⟨cost, hfind, hcost⟩ := bind_eq_ok.mp hcost
    have : some p.unitCost = some cost := demand_eq_ok.mp hfind
    rw [Option.some_inj.mp this]
    exact (congrArg Prod.fst (pure_eq_ok.mp hcost)).symm

theorem fifoValue_entry (hentry : 0 < n.quantityChange) (hvoid : n.type ≠ .SALE_VOID)
    (hreturn : n.type ≠ .SALE_RETURN) (htransfer : n.type ≠ .TRANSFER_IN) {fifo : FifoBook}
    {value : ℤ} (h : moveLayers p.valuedStore (n.valuedRow s p.valuation p.unitCost) =
      .ok (fifo, value)) : value = quantityTimesCost n.quantityChange p.unitCost := by
  obtain ⟨unitCost, currency, hcost, hvalue⟩ :=
    @moveLayers_entry (n.valuedRow s p.valuation p.unitCost) _ _ hentry hvoid hreturn
      htransfer h
  rw [← p.sourceCost_entry hentry hcost]
  exact hvalue

include p in
theorem allocatedValue_zero (hs : s.Linked) (hzero : n.quantityChange = 0) :
    s'.lots.allocatedValue s.freshMovementId = 0 := by
  rcases p.lots_cases with ⟨h, -⟩ | ⟨_, _, _, -, hquantity, -⟩
  · rw [h]
    exact p.allocated_before hs MovementLot.valueChange
  · have : p.sealedRow.quantityChange = n.quantityChange :=
      congrArg Movement.quantityChange p.sealedRow_static
    exact absurd (this.trans hzero) hquantity

theorem allocatedValue_entry (hs : s.Linked) (hmethod : s.method ≠ .FIFO)
    (hallocated : s'.lots.allocatedQuantity s.freshMovementId = n.quantityChange)
    (hentry : 0 < n.quantityChange) (hvoid : n.type ≠ .SALE_VOID)
    (hreturn : n.type ≠ .SALE_RETURN) (htransfer : n.type ≠ .TRANSFER_IN) :
    s'.lots.allocatedValue s.freshMovementId = quantityTimesCost n.quantityChange p.unitCost := by
  have hstatic := p.sealedRow_static
  have hquantity : p.sealedRow.quantityChange = n.quantityChange :=
    congrArg Movement.quantityChange hstatic
  have htype : p.sealedRow.type = n.type := congrArg Movement.type hstatic
  rcases p.lots_cases with ⟨h, -⟩ | ⟨options, t, product, -, -, -, -, hmove, h⟩
  · -- no lot was touched, so nothing is allocated
    rw [h, LotBook.allocatedQuantity,
      p.allocated_before hs MovementLot.quantityChange] at hallocated
    omega
  · obtain ⟨unitCost, a, hcost, hinsert, hmovement, -, hvalue⟩ :=
      moveLots_entry (hquantity ▸ hentry) (htype ▸ hvoid) (htype ▸ hreturn) (htype ▸ htransfer)
        hmove
    have hstart : p.sealedStore.lots = s.lots := by rw [p.sealed_eq, p.valued_eq]
    rw [hstart] at hinsert
    rw [h, LotBook.allocatedValue, total_insert hinsert,
      p.allocated_before hs MovementLot.valueChange, hmovement, p.sealedRow_id, if_pos rfl, hvalue,
      hquantity, zero_add]
    suffices hsame : unitCost = p.unitCost by rw [hsame]
    split at hcost
    case isTrue hreceipt =>
      obtain ⟨line, hline, hlineCost⟩ := p.unitCost_receipt (htype ▸ hreceipt) hentry
      obtain ⟨line', hline', hcost⟩ := hcost
      have hlines : p.sealedStore.purchaseReceiptLines = s.purchaseReceiptLines := by
        rw [p.sealed_eq, p.valued_eq]
      have hlineId : p.sealedRow.purchaseReceiptLineId = n.purchaseReceiptLineId :=
        congrArg Movement.purchaseReceiptLineId hstatic
      rw [hlines, hlineId, hline] at hline'
      rw [hcost, hlineCost, Option.some_inj.mp hline']
    case isFalse =>
      rw [(p.sealedRow_of_ne_fifo hmethod).2] at hcost
      exact (Option.some_inj.mp hcost).symm

/-- **The value of an event that keeps it**: the row shows the change of the moving average. -/
theorem row_valueChange (hs : s.Settled) (hkeeps : KeepsValue s (.move n tracking)) :
    p.row.valueChange = some p.averageChange := by
  have hsettled := p.valuation_settled hs
  cases hmethod : s.method with
  | MOVING_AVERAGE =>
    rw [p.row_of_ne_specificLot (by simp [hmethod])]
    exact (p.sealedRow_of_ne_fifo (by simp [hmethod])).1
  | FIFO =>
    rw [p.row_of_ne_specificLot (by simp [hmethod])]
    obtain ⟨value, hmove, hvalue, -⟩ := p.sealedRow_of_fifo hs.linked hmethod
    rw [hvalue]
    congr 1
    rcases hkeeps with h | hzero | ⟨hentry, hvoid, hreturn, htransfer⟩ | ⟨h, -⟩
    · rw [h] at hmethod
      cases hmethod
    · rw [p.averageChange_zero hsettled hzero]
      exact congrArg Prod.snd (moveLayers_zero hzero hmove)
    · rw [p.averageChange_entry hsettled hentry]
      exact p.fifoValue_entry hentry hvoid hreturn htransfer hmove
    · rw [h] at hmethod
      cases hmethod
  | SPECIFIC_LOT =>
    have hsealed := p.sealedRow_of_ne_fifo (by simp [hmethod])
    rcases hkeeps with h | hzero | ⟨hentry, hvoid, hreturn, htransfer⟩ | ⟨-, hnone⟩
    · rw [h] at hmethod
      cases hmethod
    · rcases p.row_eq with h | ⟨-, -, unitCost, inventoryValue, h⟩
      · rw [h]
        exact hsealed.1
      · rw [h, p.averageChange_zero hsettled hzero]
        exact congrArg some (p.allocatedValue_zero hs.linked hzero)
    · rcases p.row_eq with h | ⟨-, hallocated, unitCost, inventoryValue, h⟩
      · rw [h]
        exact hsealed.1
      · rw [h, p.averageChange_entry hsettled hentry]
        exact congrArg some (p.allocatedValue_entry hs.linked (by simp [hmethod]) hallocated hentry
          hvoid hreturn htransfer)
    · rcases p.lots_cases with ⟨-, h⟩ | ⟨options, -, -, h, -⟩
      · rw [h hnone]
        exact hsealed.1
      · rw [hnone] at h
        cases h

end Posting

/-! ### The run -/

def Store.ValueAgrees (s : Store) : Prop :=
  ∀ productId, s.valuationValue productId = s.movementValue productId

/-- **The step.** A posting moves both sums by the same amount. -/
theorem Posting.valueAgrees {n : NewMovement} {tracking : Tracking} (p : Posting s n tracking s')
    (hs : s.Settled) (hagrees : s.ValueAgrees) (hkeeps : KeepsValue s (.move n tracking)) :
    s'.ValueAgrees := by
  intro productId
  have hmovements : s'.movementValue productId =
      s.movementValue productId + p.row.valueOf productId :=
    total_of_rows_append p.journal _
  rw [hmovements, ← hagrees productId, Movement.valueOf, p.row_productId]
  split
  case isTrue hproduct =>
    subst hproduct
    rw [p.row_valueChange hs hkeeps, Store.valuationValue, p.find?_valuation]
    show p.next.inventoryValue = s.valuationValue n.productId + p.averageChange
    have hbefore : s.valuationValue n.productId = p.valuation.inventoryValue := by
      rcases p.valuation_cases with h | ⟨hnone, product, -, h⟩
      · rw [Store.valuationValue, h]
        rfl
      · rw [Store.valuationValue, hnone, h]
        rfl
    rw [hbefore, averageChange]
    ring
  case isFalse hproduct =>
    rw [Store.valuationValue, p.find?_valuation_of_ne (Ne.symm hproduct), add_zero,
      Store.valuationValue]

theorem KeepsJournal.valueAgrees (h : KeepsJournal s s') (hagrees : s.ValueAgrees) :
    s'.ValueAgrees := by
  intro productId
  rw [Store.valuationValue, h.valuations, Store.movementValue, h.movements]
  exact hagrees productId

theorem Store.Settled.valueAgrees (hs : s.Settled) (hclean : collect s = .ok []) :
    s.ValueAgrees := by
  intro productId
  by_cases hcatalogued : ∃ p ∈ s.products.rows, p.id = productId
  · obtain ⟨p, hp, rfl⟩ := hcatalogued
    exact value_eq_of_collect_nil hclean p hp
  · have hvaluation : s.valuations.find? productId = none := by
      rw [find?_eq_none]
      intro v hv hid
      obtain ⟨p, hp⟩ := hs.catalogued v hv
      exact hcatalogued ⟨p, mem_of_find? hp, (key_of_find? hp).trans hid⟩
    rw [Store.valuationValue, hvaluation]
    refine (total_eq_zero fun m hm ↦ if_neg fun hid ↦ ?_).symm
    obtain ⟨v, hv⟩ := hs.valued m hm
    rw [hid, hvaluation] at hv
    cases hv

/-- **Reconciliation finds no difference in value** after a run from a store without findings whose
events all keep the value. -/
theorem collect_no_valueMismatch (hs : ReachableStock s) (hclean : collect s = .ok [])
    (events : List StockEvent) (hkeeps : Along stockStep KeepsValue s events)
    {findings : List Finding} (h : collect (run stockStep s events) = .ok findings) :
    .VALUATION_VALUE_MISMATCH ∉ findings.map Finding.code := by
  have hrun : (run stockStep s events).Settled ∧ (run stockStep s events).ValueAgrees := by
    refine run_induct_along (P := fun t ↦ t.Settled ∧ t.ValueAgrees)
      (fun t e t' ⟨ht, hagrees⟩ hkeeps hstep ↦ ⟨stockStep_settled ht hstep, ?_⟩)
      ⟨hs.settled, hs.settled.valueAgrees hclean⟩ events hkeeps
    rcases stockStep_cases hstep with ⟨n, tracking, rfl, ⟨p⟩⟩ | hjournal
    · exact p.valueAgrees ht hagrees hkeeps
    · exact hjournal.valueAgrees hagrees
  rw [List.mem_map]
  rintro ⟨f, hf, hcode⟩
  obtain ⟨p, -, hne⟩ := valueMismatch_of_collect h hf hcode
  exact hne (hrun.2 p.id)

/-! ### Two receipts and an exit under FIFO

One unit is received at 10 and one at 20, and one is taken out. The moving average takes it at 15,
the layers at 10, and the movement shows the 10. -/

def widget (id : Uuid) : Product :=
  { Product.plain id 0 with quantityPolicy := ⟨.UNIT, 3, .HALF_UP, 1⟩ }

def costLine (id productId : Uuid) (unitCost : ℤ) : PurchaseReceiptLine where
  id := id
  receiptId := id
  productId := productId
  receivedQuantity := 1000
  unitCost := unitCost
  currency := .USD
  lotCode := none
  manufacturedOn := none
  expiresOn := none
  lotId := none

def receiveUnit (productId line : Uuid) (resulting : ℤ) : NewMovement where
  productId := productId
  locationId := 1
  type := .PURCHASE_RECEIPT
  quantityChange := 1000
  resultingQuantity := resulting
  idempotencyKey := .purchaseReceipt line 1
  purchaseReceiptLineId := some line

def withdrawUnit (productId : Uuid) (resulting : ℤ) : NewMovement where
  productId := productId
  locationId := 1
  type := .EXIT
  quantityChange := -1000
  resultingQuantity := resulting
  idempotencyKey := .request [1]

def availableStock (productId : Uuid) (quantity : ℤ) : Balance where
  productId := productId
  locationId := 1
  quantity := quantity
  available := quantity
  reserved := 0
  damaged := 0
  inTransit := 0

def changeTo (method : ValuationMethod) : StockEvent :=
  .changePolicy {
    idempotencyKey := []
    targetMethod := method
    expectedVersion := 1
    planFingerprint := {
      current := { method := .MOVING_AVERAGE, version := 1 }, targetMethod := method,
      blockingReasons := [], productsToMigrate := 0, locationsToMigrate := 0 } }

/-- A tenant with one product and no stock. -/
def averageTenant : Store :=
  run stockStep (Store.fresh default)
    [.addProduct (widget 1),
      .addLocation { id := 1, warehouseId := 1, active := true, createdAt := 0 },
      .addReceiptLine (costLine 1 1 100000), .addReceiptLine (costLine 2 1 200000),
      .openBalance (availableStock 1 0)]

def fifoTenant : Store :=
  run stockStep averageTenant [changeTo .FIFO]

def twoReceipts : List StockEvent :=
  [.writeBalance (availableStock 1 1000), .move (receiveUnit 1 1 1000) {},
    .writeBalance (availableStock 1 2000), .move (receiveUnit 1 2 2000) {}]

def oneExit : List StockEvent :=
  [.writeBalance (availableStock 1 1000), .move (withdrawUnit 1 1000) {}]

theorem reachable_fifoTenant : ReachableStock fifoTenant :=
  ⟨default, _, (run_append stockStep (Store.fresh default) _ [changeTo .FIFO]).symm⟩

theorem collect_fifoTenant : collect fifoTenant = .ok [] := by decide +kernel

theorem collect_no_valueMismatch_twoReceipts :
    .VALUATION_VALUE_MISMATCH ∉ ([] : List Finding).map Finding.code :=
  collect_no_valueMismatch reachable_fifoTenant collect_fifoTenant twoReceipts
    ⟨trivial, Or.inr (Or.inr (Or.inl (by decide))), trivial,
      Or.inr (Or.inr (Or.inl (by decide))), trivial⟩
    (by decide +kernel)

theorem collect_receiptsAndExit : collect (run stockStep fifoTenant (twoReceipts ++ oneExit)) =
    .ok [{
      code := .VALUATION_VALUE_MISMATCH, productId := 1, locationId := none,
      expectedValue := some 200000, actualValue := some 150000 }] := by decide +kernel

theorem valueMismatch_of_fifo_exit :
    ¬∀ (s : Store) (events : List StockEvent) (findings : List Finding), ReachableStock s →
      collect s = .ok [] → collect (run stockStep s events) = .ok findings →
        .VALUATION_VALUE_MISMATCH ∉ findings.map Finding.code := by
  intro h
  exact h fifoTenant _ _ reachable_fifoTenant collect_fifoTenant collect_receiptsAndExit
    (List.mem_singleton_self _)

end UInventario
