import UInventario.Inventory.LayerWrites
import UInventario.Inventory.SerialTracking

/-!
# The movement journal

Every operation that moves stock draws an identifier, inserts the row, and calls
`applyInventoryValuation`, and then, unless it moves the components of a kit,
`applyInventoryLotTracking` and `applyInventorySerialTracking`. `postMovement` is that sequence. The
caller decides the columns of the row (`NewMovement`); those of the valuation start out empty.

Every pass rewrites the row it was called for and no other. `Posting` is the record of a successful
posting: the last row at each stage, the stores between the passes, and what each pass did.
`postMovement_eq_ok` builds it, and nothing above this file takes a pass apart again.
-/

namespace UInventario

open Outcome Table List

structure NewMovement where
  (productId locationId : Uuid)
  type : MovementType
  (quantityChange resultingQuantity : ℤ)
  fromState : Option StockState := none
  toState : Option StockState := none
  stateQuantity : Option ℤ := none
  idempotencyKey : MovementKey
  requestFingerprint : Fingerprint := .internal
  saleId : Option Uuid := none
  saleLineId : Option Uuid := none
  saleReturnId : Option Uuid := none
  saleReturnLineId : Option Uuid := none
  sourceSaleMovementId : Option Uuid := none
  purchaseReceiptLineId : Option Uuid := none
  purchaseReturnLineId : Option Uuid := none
  transferLineId : Option Uuid := none
  reservationId : Option Uuid := none

def NewMovement.toMovement (n : NewMovement) (s : Store) : Movement where
  id := s.freshMovementId
  productId := n.productId
  locationId := n.locationId
  type := n.type
  quantityChange := n.quantityChange
  resultingQuantity := n.resultingQuantity
  fromState := n.fromState
  toState := n.toState
  stateQuantity := n.stateQuantity
  idempotencyKey := n.idempotencyKey
  requestFingerprint := n.requestFingerprint
  saleId := n.saleId
  saleLineId := n.saleLineId
  saleReturnId := n.saleReturnId
  saleReturnLineId := n.saleReturnLineId
  sourceSaleMovementId := n.sourceSaleMovementId
  purchaseReceiptLineId := n.purchaseReceiptLineId
  purchaseReturnLineId := n.purchaseReturnLineId
  transferLineId := n.transferLineId
  reservationId := n.reservationId
  createdAt := s.movementTime

structure Tracking where
  lots : Option LotOptions := none
  serials : Option SerialOptions := none

def trackLots (s : Store) (movementId : Uuid) : Option LotOptions → Except Failure Store
  | some options => applyInventoryLotTracking s movementId options
  | none => pure s

def trackSerials (s : Store) (movementId : Uuid) : Option SerialOptions → Except Failure Store
  | some options => applyInventorySerialTracking s movementId options
  | none => pure s

/-- **Posting a movement.** -/
def postMovement (s : Store) (n : NewMovement) (tracking : Tracking) : Except Failure Store := do
  let movement := n.toMovement s
  let s ← insertMovement s movement
  let s ← applyInventoryValuation s movement.id
  let s ← trackLots s movement.id tracking.lots
  trackSerials s movement.id tracking.serials

/-! ### The record of a posting -/

def Movement.static (m : Movement) : Movement :=
  { m with
    unitCost := none, valueChange := none, resultingInventoryValue := none, averageUnitCost := none,
    valuationMethod := .MOVING_AVERAGE, valuationPolicyVersion := 1, fifoUnitCost := none,
    fifoValueChange := none, fifoResultingInventoryValue := none }

def NewMovement.valuedRow (n : NewMovement) (s : Store) (valuation : Valuation) (unitCost : ℤ) :
    Movement :=
  Movement.valuedBy unitCost
    (valuation.valueAfter n.quantityChange unitCost - valuation.inventoryValue)
    (valuation.after n.quantityChange (isValuedEntry (n.toMovement s)) unitCost)
    (n.toMovement s)

/-- **What a successful posting did.** The stores are those after the average, the seal and the
lots. -/
structure Posting (s : Store) (n : NewMovement) (tracking : Tracking) (s' : Store) where
  valuation : Valuation
  unitCost : ℤ
  valuedStore : Store
  layeredRow : Movement
  (sealedStore trackedStore : Store)
  row : Movement
  operational : s.operationsBlocked = false
  quantityKind : (n.toMovement s).quantityKind
  saleLink : (n.toMovement s).saleLink
  resulting_nonneg : 0 ≤ n.resultingQuantity
  key_fresh : ∀ m ∈ s.movements.rows, m.idempotencyKey ≠ n.idempotencyKey
  id_fresh : ∀ m ∈ s.movements.rows, m.id ≠ s.freshMovementId
  valuation_eq : (ensureValuation s n.productId).valuations.find? n.productId = some valuation
  quantity_nonneg : 0 ≤ valuation.quantity + n.quantityChange
  value_nonneg : 0 ≤ valuation.valueAfter n.quantityChange unitCost
  cost_eq : movementCost s (n.toMovement s) valuation.averageUnitCost = .ok unitCost
  valued_eq : valuedStore = { s with
    products := s'.products, movements := valuedStore.movements, valuations := s'.valuations }
  valued_rows : valuedStore.movements.rows = s.movements.rows ++ [n.valuedRow s valuation unitCost]
  layers_eq :
    (∃ a ∈ s.fifo.allocations.rows, a.movementId = s.freshMovementId) ∧
        s'.fifo = s.fifo ∧ layeredRow = n.valuedRow s valuation unitCost ∨
      ∃ value inventoryValue,
        moveLayers valuedStore (n.valuedRow s valuation unitCost) = .ok (s'.fifo, value) ∧
        s'.fifo.remainingOf n.productId = valuation.quantity + n.quantityChange ∧
        layeredRow = Movement.summarised n.quantityChange value inventoryValue
          (n.valuedRow s valuation unitCost)
  summary_eq : layeredRow.fifoResultingInventoryValue = none ∨
    layeredRow.fifoResultingInventoryValue =
      some (divideRounded (s'.fifo.valueOf n.productId) QUANTITY_SCALE)
  sealed_eq : sealedStore = { valuedStore with
    movements := sealedStore.movements, fifo := s'.fifo,
    policy := some (loadInventoryValuationPolicy s).2 }
  sealed_rows : sealedStore.movements.rows =
    s.movements.rows ++ [Movement.sealed (loadInventoryValuationPolicy s).2 layeredRow]
  lots_eq : trackLots sealedStore s.freshMovementId tracking.lots = .ok trackedStore
  serials_eq : trackSerials trackedStore s.freshMovementId tracking.serials = .ok s'
  tracked_eq : s' = { trackedStore with serials := s'.serials }
  documents_eq : SameButLots { sealedStore with movements := trackedStore.movements } trackedStore
  row_eq : row = Movement.sealed (loadInventoryValuationPolicy s).2 layeredRow ∨
    s.method = .SPECIFIC_LOT ∧ s'.lots.allocatedQuantity s.freshMovementId = n.quantityChange ∧
      ∃ unitCost inventoryValue, row = Movement.finalized unitCost
        (s'.lots.allocatedValue s.freshMovementId) inventoryValue
        (Movement.sealed (loadInventoryValuationPolicy s).2 layeredRow)
  /-- The journal grows at its end. -/
  journal : s'.movements.rows = s.movements.rows ++ [row]
  valuations_eq : s'.valuations = (ensureValuation s n.productId).valuations.update n.productId
    (Valuation.moved (valuation.after n.quantityChange (isValuedEntry (n.toMovement s)) unitCost))
  products_eq : s'.products =
    if isValuedEntry (n.toMovement s) then
      s.products.update n.productId (Product.recosted (catalogCost
        (valuation.after n.quantityChange true unitCost).averageUnitCost)) (Product.recosted_id _)
    else s.products
  /-- The tables a posting does not write. -/
  store_eq : s' = { s with
    products := s'.products, movements := s'.movements, valuations := s'.valuations,
    policy := some (loadInventoryValuationPolicy s).2, fifo := s'.fifo, lots := s'.lots,
    serials := s'.serials, purchaseReceiptLines := s'.purchaseReceiptLines,
    purchaseReturnLines := s'.purchaseReturnLines }

variable {s' s : Store}

private theorem trackLots_eq_ok {movement : Movement} {options : Option LotOptions}
    (hrows : ∃ l, s.movements.rows = l ++ [movement])
    (h : trackLots s movement.id options = .ok s') :
    SameButLots { s with movements := s'.movements } s' ∧ (s'.movements = s.movements ∨
        movement.valuationMethod = .SPECIFIC_LOT ∧
          s'.lots.allocatedQuantity movement.id = movement.quantityChange ∧
          ∃ unitCost inventoryValue, s'.movements = s.movements.update movement.id
            (Movement.finalized unitCost (s'.lots.allocatedValue movement.id)
              inventoryValue)) := by
  obtain ⟨l, hrows⟩ := hrows
  have hfind : s.movements.find? movement.id = some movement := find?_of_rows_append hrows
  -- either nothing is done, or a store with the journal of `s` is finalised
  obtain rfl | ⟨t, ht, h⟩ : s' = s ∨
      ∃ t, SameButLots s t ∧ finalizeSpecificLotMovementValuation t movement.id = .ok s' := by
    cases options with
    | none => exact .inl (pure_eq_ok.mp h).symm
    | some options =>
      rcases applyInventoryLotTracking_eq_ok hfind h with
        h | h | ⟨t, product, -, -, -, -, hmove, h⟩
      · exact .inl h
      · exact .inr ⟨s, ⟨rfl, fun _ ↦ rfl, fun _ ↦ rfl⟩, h⟩
      · exact .inr ⟨t, moveLots_sameButLots hmove, h⟩
  · exact ⟨⟨rfl, fun _ ↦ rfl, fun _ ↦ rfl⟩, .inl rfl⟩
  have hmovements : t.movements = s.movements := by rw [ht.store_eq]
  rcases finalizeSpecificLotMovementValuation_eq_ok (hmovements ▸ hfind) h with
    ⟨-, rfl⟩ | ⟨hmethod, hquantity, unitCost, inventoryValue, rfl⟩
  · exact ⟨hmovements ▸ ht, .inl hmovements⟩
  · refine ⟨⟨?_, ht.receiptLines, ht.returnLines⟩,
      .inr ⟨hmethod, hquantity, unitCost, inventoryValue, ?_⟩⟩
    · rw [ht.store_eq]
    · rw [hmovements]

/-- **A successful posting, taken apart.** -/
theorem postMovement_eq_ok {n : NewMovement} {tracking : Tracking}
    (h : postMovement s n tracking = .ok s') : Nonempty (Posting s n tracking s') := by
  simp only [postMovement, applyInventoryValuation, assertInventoryReconciliationOperational,
    eq_ok] at h
  obtain ⟨s₁, hinserted, s₄, ⟨movement, hfind, -, hopen, s₂, haverage, s₃, hlayers, hseal⟩, s₅,
    hlots, hserials⟩ := h
  obtain ⟨hkind, hlink, hresulting, hkey, movements, hinsert, rfl⟩ :=
    insertMovement_eq_ok hinserted
  obtain ⟨hfresh, hrows⟩ := insert_eq_some hinsert
  have hm : movement = n.toMovement s :=
    Option.some_inj.mp (hfind.symm.trans (find?_of_rows_append hrows))
  subst hm
  -- the moving average
  obtain ⟨valuation, unitCost, hvaluation, hquantity, hvalue, hcost, hvalued⟩ :=
    applyMovingAverage_eq_ok haverage
  have hvaluedRows : s₂.movements.rows =
      s.movements.rows ++ [n.valuedRow s valuation unitCost] := by
    rw [hvalued]
    exact rows_update_last hrows
  rw [movementCost_append hrows rfl] at hcost
  have hensure : ∀ productId,
      (ensureValuation { s with movements := movements } productId).valuations =
        (ensureValuation s productId).valuations := ensureValuation_congr rfl rfl
  rw [hensure] at hvaluation hvalued
  -- the layers
  obtain ⟨layeredRow, journal, fifo, hid, rfl, hlayeredRows, hsummary, hlayersEq⟩ :
      ∃ (layeredRow : Movement)
      (journal : Table Movement) (fifo : FifoBook), layeredRow.id = s.freshMovementId ∧
      s₃ = { s₂ with movements := journal, fifo := fifo } ∧
      journal.rows = s.movements.rows ++ [layeredRow] ∧
      (layeredRow.fifoResultingInventoryValue = none ∨ layeredRow.fifoResultingInventoryValue =
          some (divideRounded (fifo.valueOf n.productId) QUANTITY_SCALE)) ∧
      ((∃ a ∈ s.fifo.allocations.rows, a.movementId = s.freshMovementId) ∧ fifo = s.fifo ∧
        layeredRow = n.valuedRow s valuation unitCost ∨
        ∃ value inventoryValue,
          moveLayers s₂ (n.valuedRow s valuation unitCost) = .ok (fifo, value) ∧
          fifo.remainingOf n.productId = valuation.quantity + n.quantityChange ∧
          layeredRow = Movement.summarised n.quantityChange value inventoryValue
            (n.valuedRow s valuation unitCost)) := by
    have hfifo : s₂.fifo = s.fifo := by rw [hvalued]
    rcases applyInventoryFifoValuation_eq_ok (find?_of_rows_append hvaluedRows) hlayers with
      ⟨⟨a, ha, hallocated⟩, rfl⟩ | ⟨fifo, value, v, hmove, hv, hremaining, rfl⟩
    · exact ⟨_, _, _, rfl, rfl, hvaluedRows, .inl rfl,
        .inl ⟨⟨a, hfifo ▸ ha, hallocated⟩, hfifo, rfl⟩⟩
    · refine ⟨_, _, _, rfl, rfl, rows_update_last hvaluedRows, .inr rfl,
        .inr ⟨value, _, hmove, ?_, rfl⟩⟩
      have hafter : s₂.valuations.find? n.productId = some (valuation.after n.quantityChange
          (isValuedEntry (n.toMovement s)) unitCost) := by
        rw [hvalued]
        exact find?_update_moved hvaluation _ _ _
      rw [Option.some_inj.mp (hv.symm.trans hafter)] at hremaining
      exact hremaining
  -- the seal
  have hpolicy : (loadInventoryValuationPolicy { s₂ with movements := journal, fifo := fifo }).2 =
      (loadInventoryValuationPolicy s).2 := loadInventoryValuationPolicy_congr (by rw [hvalued])
  obtain ⟨_, -, hs₄⟩ := sealInventoryMovementValuation_eq_ok hseal
  rw [hpolicy] at hs₄
  have hsealedRows : s₄.movements.rows = s.movements.rows ++
      [Movement.sealed (loadInventoryValuationPolicy s).2 layeredRow] := by
    rw [hs₄, show (n.toMovement s).id = layeredRow.id from hid.symm]
    exact rows_update_last hlayeredRows
  -- the lots
  have hsealedId : (Movement.sealed (loadInventoryValuationPolicy s).2 layeredRow).id =
      s.freshMovementId := hid
  have hlots' : trackLots s₄ s.freshMovementId tracking.lots = .ok s₅ := hlots
  obtain ⟨htracked, hrow⟩ := trackLots_eq_ok ⟨_, hsealedRows⟩ (hsealedId ▸ hlots')
  rw [hsealedId] at hrow
  have hlayered : layeredRow.quantityChange = n.quantityChange := by
    rcases hlayersEq with ⟨-, -, rfl⟩ | ⟨_, _, -, -, rfl⟩ <;> rfl
  obtain ⟨row, htrackedRows, hrowEq⟩ : ∃ row, s₅.movements.rows = s.movements.rows ++ [row] ∧
      (row = Movement.sealed (loadInventoryValuationPolicy s).2 layeredRow ∨
        s.method = .SPECIFIC_LOT ∧ s₅.lots.allocatedQuantity s.freshMovementId = n.quantityChange ∧
          ∃ unitCost inventoryValue, row = Movement.finalized unitCost
            (s₅.lots.allocatedValue s.freshMovementId) inventoryValue
            (Movement.sealed (loadInventoryValuationPolicy s).2 layeredRow)) := by
    rcases hrow with hsame | ⟨hmethod, hallocated, cost, inventoryValue, hupdate⟩
    · exact ⟨_, hsame ▸ hsealedRows, .inl rfl⟩
    · refine ⟨_, ?_, .inr ⟨hmethod, hallocated.trans hlayered, cost, inventoryValue, rfl⟩⟩
      rw [hupdate, ← hsealedId]
      exact rows_update_last hsealedRows
  -- the serial numbers
  have hfinal : s' = { s₅ with serials := s'.serials } := by
    cases hoptions : tracking.serials with
    | none =>
      rw [hoptions] at hserials
      obtain rfl := pure_eq_ok.mp hserials
      rfl
    | some options =>
      rw [hoptions] at hserials
      exact applyInventorySerialTracking_eq_ok hserials
  obtain ⟨serials, rfl⟩ : ∃ serials, s' = { s₅ with serials := serials } := ⟨_, hfinal⟩
  obtain ⟨movements', lots, receipts, returns, rfl⟩ : ∃ movements' lots receipts returns,
      s₅ = { s₄ with
        movements := movements', lots := lots, purchaseReceiptLines := receipts,
        purchaseReturnLines := returns } := ⟨_, _, _, _, htracked.store_eq⟩
  obtain ⟨products, journal₂, valuations, rfl⟩ : ∃ products journal₂ valuations,
      s₂ = { s with
        products := products, movements := journal₂,
        valuations := valuations } := ⟨_, _, _, hvalued⟩
  subst hs₄
  exact ⟨{
    valuation := valuation, unitCost := unitCost, valuedStore := _, layeredRow := layeredRow,
    sealedStore := _, trackedStore := _, row := row, operational := hopen, quantityKind := hkind,
    saleLink := hlink, resulting_nonneg := hresulting, key_fresh := hkey,
    id_fresh := Table.find?_eq_none.mp hfresh, valuation_eq := hvaluation,
    quantity_nonneg := hquantity, value_nonneg := hvalue, cost_eq := hcost, valued_eq := rfl,
    valued_rows := hvaluedRows, layers_eq := hlayersEq, summary_eq := hsummary, sealed_eq := rfl,
    sealed_rows := hsealedRows, lots_eq := hlots, serials_eq := hserials, tracked_eq := rfl,
    documents_eq := htracked, row_eq := hrowEq, journal := htrackedRows,
    valuations_eq := congrArg Store.valuations hvalued,
    products_eq := congrArg Store.products hvalued, store_eq := rfl }⟩

/-! ### What follows from the record -/

variable {id : Uuid}

namespace Posting

variable {s s' : Store} {n : NewMovement} {tracking : Tracking} (p : Posting s n tracking s')
  {m : Movement}

/-- The row of `inventory_valuations` the product has afterwards. -/
def next : Valuation :=
  p.valuation.after n.quantityChange (isValuedEntry (n.toMovement s)) p.unitCost

theorem static_row : p.row.static = n.toMovement s := by
  rcases p.row_eq with hrow | ⟨-, -, _, _, hrow⟩ <;>
    rcases p.layers_eq with ⟨-, -, hlayered⟩ | ⟨_, _, -, -, hlayered⟩ <;>
    rw [hrow, hlayered] <;> rfl

theorem row_productId : p.row.productId = n.productId :=
  congrArg Movement.productId p.static_row

theorem row_locationId : p.row.locationId = n.locationId :=
  congrArg Movement.locationId p.static_row

theorem row_quantityChange : p.row.quantityChange = n.quantityChange :=
  congrArg Movement.quantityChange p.static_row

theorem row_id : p.row.id = s.freshMovementId :=
  congrArg Movement.id p.static_row

theorem find?_row : s'.movements.find? s.freshMovementId = some p.row := by
  rw [← p.row_id]
  exact find?_of_rows_append p.journal

theorem find?_valuation : s'.valuations.find? n.productId = some p.next := by
  have hmoved := find?_update_moved p.valuation_eq n.quantityChange
    (isValuedEntry (n.toMovement s)) p.unitCost
  exact (congrArg (fun t ↦ t.find? n.productId) p.valuations_eq).trans hmoved

include p in
theorem find?_valuation_of_ne {productId : Uuid} (hne : productId ≠ n.productId) :
    s'.valuations.find? productId = s.valuations.find? productId := by
  rw [p.valuations_eq, find?_update_of_ne hne, find?_ensureValuation_of_ne hne]

theorem valuation_cases : s.valuations.find? n.productId = some p.valuation ∨
    s.valuations.find? n.productId = none ∧ ∃ product, s.products.find? n.productId = some product ∧
        p.valuation = {
          productId := n.productId, quantity := 0, inventoryValue := 0,
          averageUnitCost := product.cost } :=
  find?_ensureValuation p.valuation_eq

include p in
theorem eq_of_mem (hm : m ∈ s'.movements.rows) : m ∈ s.movements.rows ∨ m = p.row := by
  rw [p.journal, mem_append, mem_singleton] at hm
  exact hm

include p in
theorem find?_cases (h : s'.movements.find? id = some m) :
    id ≠ s.freshMovementId ∧ s.movements.find? id = some m ∨
      id = s.freshMovementId ∧ m = p.row := by
  obtain ⟨hm, rfl⟩ := Table.find?_eq_some.mp h
  rcases p.eq_of_mem hm with hm | rfl
  · exact .inl ⟨p.id_fresh m hm, find?_key_of_mem hm⟩
  · exact .inr ⟨p.row_id, rfl⟩

include p in
theorem mem_of_mem (hm : m ∈ s.movements.rows) : m ∈ s'.movements.rows := by
  rw [p.journal]
  exact mem_append_left _ hm

theorem row_mem : p.row ∈ s'.movements.rows := by
  rw [p.journal]
  exact mem_append_right _ (mem_singleton_self _)

def sealedRow : Movement :=
  Movement.sealed (loadInventoryValuationPolicy s).2 p.layeredRow

theorem sealedRow_id : p.sealedRow.id = s.freshMovementId := by
  rcases p.layers_eq with ⟨-, -, hlayered⟩ | ⟨_, _, -, -, hlayered⟩ <;>
    rw [sealedRow, hlayered] <;> rfl

theorem sealedRow_static : p.sealedRow.static = n.toMovement s := by
  rcases p.layers_eq with ⟨-, -, hlayered⟩ | ⟨_, _, -, -, hlayered⟩ <;>
    rw [sealedRow, hlayered] <;> rfl

/-- **What a posting does to the lots**: nothing, or one allocation pass that was asked for. -/
theorem lots_cases : s'.lots = s.lots ∧ (tracking.lots = none → p.row = p.sealedRow) ∨
      ∃ options t product, tracking.lots = some options ∧ p.sealedRow.quantityChange ≠ 0 ∧
        s'.products.find? n.productId = some product ∧ product.trackLots = true ∧
        moveLots p.sealedStore p.sealedRow product options = .ok t ∧ s'.lots = t.lots := by
  have hstart : p.sealedStore.lots = s.lots := by rw [p.sealed_eq, p.valued_eq]
  have hend : s'.lots = p.trackedStore.lots := (congrArg Store.lots p.tracked_eq :)
  have hlots := p.lots_eq
  cases hoptions : tracking.lots with
  | none =>
    rw [hoptions] at hlots
    have htracked : p.sealedStore = p.trackedStore := pure_eq_ok.mp hlots
    refine .inl ⟨by rw [hend, ← htracked, hstart], fun _ ↦ ?_⟩
    have hjournal : s'.movements.rows = p.trackedStore.movements.rows :=
      (congrArg (fun t ↦ t.movements.rows) p.tracked_eq :)
    rw [p.journal, ← htracked, p.sealed_rows] at hjournal
    exact head_eq_of_cons_eq (append_cancel_left hjournal)
  | some options =>
    rw [hoptions] at hlots
    have hfind : p.sealedStore.movements.find? p.sealedRow.id = some p.sealedRow :=
      find?_of_rows_append p.sealed_rows
    have hfinal : ∀ t : Store, finalizeSpecificLotMovementValuation t p.sealedRow.id =
        .ok p.trackedStore → p.trackedStore.lots = t.lots := by
      intro t h
      rw [finalizeSpecificLotMovementValuation] at h
      split at h
      · rw [pure_eq_ok.mp h]
      · split at h
        · rw [pure_eq_ok.mp h]
        · simp only [eq_ok] at h
          obtain ⟨-, -, -, -, valuation, -, -, -, h⟩ := h
          rw [← h]
    rw [← p.sealedRow_id] at hlots
    rcases applyInventoryLotTracking_eq_ok hfind hlots with
      h | h | ⟨t, product, hproduct, htrack, -, hquantity, hmove, h⟩
    · exact .inl ⟨by rw [hend, h, hstart], fun hnone ↦ by cases hnone⟩
    · exact .inl ⟨by rw [hend, hfinal _ h, hstart], fun hnone ↦ by cases hnone⟩
    · have hproducts : p.sealedStore.products = s'.products := by rw [p.sealed_eq, p.valued_eq]
      have hsame : p.sealedRow.productId = n.productId :=
        congrArg Movement.productId p.sealedRow_static
      rw [hproducts, hsame] at hproduct
      exact .inr ⟨options, t, product, rfl, hquantity, hproduct, htrack, hmove,
        hend.trans (hfinal _ h)⟩

include p in
theorem lots_grow : s.lots.Grows s.freshMovementId s'.lots := by
  rcases p.lots_cases with ⟨h, -⟩ | ⟨options, t, product, -, -, -, -, hmove, h⟩
  · exact .of_eq (by rw [h])
  · have hgrows := moveLots_grows hmove
    have hstart : p.sealedStore.lots = s.lots := by rw [p.sealed_eq, p.valued_eq]
    rw [hstart, p.sealedRow_id] at hgrows
    exact h ▸ hgrows

end Posting

/-! ### Allocations belong to movements -/

/-- **The foreign keys of the allocations.** -/
@[mk_iff]
structure Store.Linked (s : Store) : Prop where
  allocations : ∀ a ∈ s.fifo.allocations.rows, ∃ m ∈ s.movements.rows, m.id = a.movementId
  movementLots : ∀ a ∈ s.lots.movementLots.rows, ∃ m ∈ s.movements.rows, m.id = a.movementId

theorem Store.linked_fresh (env : Env) : (Store.fresh env).Linked :=
  ⟨forall_mem_nil _, forall_mem_nil _⟩

namespace Posting

variable {s s' : Store} {n : NewMovement} {tracking : Tracking} (p : Posting s n tracking s')

theorem layers_of_linked (hs : s.Linked) : ∃ value inventoryValue,
    moveLayers p.valuedStore (n.valuedRow s p.valuation p.unitCost) = .ok (s'.fifo, value) ∧
      s'.fifo.remainingOf n.productId = p.valuation.quantity + n.quantityChange ∧
      p.layeredRow = Movement.summarised n.quantityChange value inventoryValue
        (n.valuedRow s p.valuation p.unitCost) := by
  rcases p.layers_eq with ⟨⟨a, ha, hallocated⟩, -⟩ | h
  · obtain ⟨m, hm, hid⟩ := hs.allocations a ha
    exact absurd (hid.trans hallocated) (p.id_fresh m hm)
  · exact h

theorem writes_of_linked (hs : s.Linked) : ∃ value,
    LayerWrites s.env p.valuedStore.movements (n.valuedRow s p.valuation p.unitCost) s.fifo
      n.quantityChange value s'.fifo := by
  obtain ⟨value, -, hmove, -⟩ := p.layers_of_linked hs
  have hwrites := moveLayers_writes hmove
  have henv : p.valuedStore.env = s.env := by rw [p.valued_eq]
  have hfifo : p.valuedStore.fifo = s.fifo := by rw [p.valued_eq]
  rw [henv, hfifo] at hwrites
  exact ⟨value, hwrites⟩

include p in
/-- **A posting keeps the store linked.** -/
theorem linked (hs : s.Linked) : s'.Linked := by
  have hrow : ∃ m ∈ s'.movements.rows, m.id = s.freshMovementId := ⟨p.row, p.row_mem, p.row_id⟩
  constructor
  · intro a ha
    obtain ⟨value, hwrites⟩ := p.writes_of_linked hs
    obtain ⟨new, hrows, hnew⟩ := hwrites.allocations
    rw [hrows] at ha
    rcases List.mem_append.mp ha with ha | ha
    · obtain ⟨m, hm, hid⟩ := hs.allocations a ha
      exact ⟨m, p.mem_of_mem hm, hid⟩
    · rw [hnew a ha]
      exact hrow
  · intro a ha
    obtain ⟨new, hrows, hnew⟩ := p.lots_grow
    rw [hrows] at ha
    rcases List.mem_append.mp ha with ha | ha
    · obtain ⟨m, hm, hid⟩ := hs.movementLots a ha
      exact ⟨m, p.mem_of_mem hm, hid⟩
    · rw [hnew a ha]
      exact hrow

end Posting

/-! ### What every reachable store satisfies -/

structure Valuation.Settled (v : Valuation) : Prop where
  quantity_nonneg : 0 ≤ v.quantity
  value_of_empty : v.quantity = 0 → v.inventoryValue = 0

/-- **The invariant of every run**: what is pointed to is there, and valuations are settled. -/
structure Store.Settled (s : Store) : Prop where
  linked : s.Linked
  valuations : ∀ v ∈ s.valuations.rows, v.Settled
  valued : ∀ m ∈ s.movements.rows, ∃ v, s.valuations.find? m.productId = some v
  catalogued : ∀ v ∈ s.valuations.rows, ∃ p, s.products.find? v.productId = some p

theorem Store.settled_fresh (env : Env) : (Store.fresh env).Settled where
  linked := Store.linked_fresh env
  valuations := forall_mem_nil _
  valued := forall_mem_nil _
  catalogued := forall_mem_nil _

theorem Store.Settled.of_eq (hs : s.Settled)
    (hmovements : s'.movements = s.movements) (hvaluations : s'.valuations = s.valuations)
    (hallocations : s'.fifo.allocations = s.fifo.allocations)
    (hlots : s'.lots.movementLots = s.lots.movementLots)
    (hproducts : ∀ id p, s.products.find? id = some p → ∃ p', s'.products.find? id = some p') :
    s'.Settled where
  linked := ⟨by rw [hallocations, hmovements]; exact hs.linked.allocations,
    by rw [hlots, hmovements]; exact hs.linked.movementLots⟩
  valuations := by rw [hvaluations]; exact hs.valuations
  valued := by rw [hmovements, hvaluations]; exact hs.valued
  catalogued := by
    rw [hvaluations]
    intro v hv
    obtain ⟨p, hp⟩ := hs.catalogued v hv
    exact hproducts _ p hp

namespace Posting

variable {s s' : Store} {n : NewMovement} {tracking : Tracking} (p : Posting s n tracking s')

theorem valuation_settled (hs : s.Settled) : p.valuation.Settled := by
  rcases p.valuation_cases with h | ⟨-, product, -, h⟩
  · exact hs.valuations _ (mem_of_find? h)
  · rw [h]
    exact ⟨le_rfl, fun _ ↦ rfl⟩

theorem next_settled : p.next.Settled := by
  refine ⟨p.quantity_nonneg, fun hzero ↦ ?_⟩
  exact if_pos hzero

include p in
theorem products_kept {product : Product} (h : s.products.find? id = some product) :
    ∃ product', s'.products.find? id = some product' := by
  rw [p.products_eq]
  split
  · rw [find?_update, h]
    exact ⟨_, rfl⟩
  · exact ⟨product, h⟩

include p in
theorem settled (hs : s.Settled) : s'.Settled where
  linked := p.linked hs.linked
  valuations := by
    intro v hv
    by_cases hproduct : v.productId = n.productId
    · have hfind := find?_key_of_mem hv
      rw [show Keyed.key v = n.productId from hproduct, p.find?_valuation] at hfind
      exact Option.some_inj.mp hfind ▸ p.next_settled
    · have hfind := find?_key_of_mem hv
      rw [show Keyed.key v = v.productId from rfl, p.find?_valuation_of_ne hproduct] at hfind
      exact hs.valuations v (mem_of_find? hfind)
  valued := by
    intro m hm
    by_cases hproduct : m.productId = n.productId
    · exact ⟨_, hproduct ▸ p.find?_valuation⟩
    · rcases p.eq_of_mem hm with hm | rfl
      · rw [p.find?_valuation_of_ne hproduct]
        exact hs.valued m hm
      · exact absurd p.row_productId hproduct
  catalogued := by
    intro v hv
    have hfind := find?_key_of_mem hv
    by_cases hproduct : v.productId = n.productId
    · rcases p.valuation_cases with h | ⟨-, product, h, -⟩
      · obtain ⟨product, hcatalogued⟩ := hs.catalogued _ (mem_of_find? h)
        rw [show p.valuation.productId = n.productId from key_of_find? h] at hcatalogued
        exact hproduct ▸ p.products_kept hcatalogued
      · exact hproduct ▸ p.products_kept h
    · rw [show Keyed.key v = v.productId from rfl, p.find?_valuation_of_ne hproduct] at hfind
      obtain ⟨product, hcatalogued⟩ := hs.catalogued v (mem_of_find? hfind)
      exact p.products_kept hcatalogued

end Posting

end UInventario
