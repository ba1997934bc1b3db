import UInventario.Inventory.ValuationPolicy

/-!
# FIFO layers

The FIFO projection is kept beside the moving average for every movement. An entry opens a layer, an
exit draws from the layers in the order of acquisition, a void or a return puts back what the sale
drew, and a transfer copies the layers drawn to the destination with their dates. Each change of a
layer is recorded by an allocation.

The functions that write layers are functions of the `FifoBook`. The loops are folds over a list
that was read before the first write, with the running totals as the state (`Progress`).
-/

namespace UInventario

open Outcome

/-! ### Writing a layer and an allocation -/

/-- What `insertAllocation` is told about the allocation. -/
structure AllocationInput where
  layerId : Uuid
  (quantity unitCost : ℤ)
  currency : Currency
  mode : AllocationMode
  sourceAllocationId : Option Uuid := none

/-- The row of an allocation that finds `n` rows in the table. -/
def AllocationInput.row (input : AllocationInput) (env : Env) (movementId : Uuid) (n : ℕ) :
    FifoAllocation where
  id := env.uuid .inventory_movement_fifo_layers n
  movementId := movementId
  layerId := input.layerId
  sourceAllocationId := input.sourceAllocationId
  quantityChange := input.quantity
  unitCost := input.unitCost
  currency := input.currency
  valueChange := quantityTimesCost input.quantity input.unitCost
  mode := input.mode
  createdAt := env.clock .inventory_movement_fifo_layers n

/-- Inserts the allocation of a movement to a layer and returns its value. -/
def insertAllocation (env : Env) (book : FifoBook) (movement : Movement) (input : AllocationInput) :
    Except Failure (FifoBook × ℤ) := do
  ensure (input.quantity ≠ 0 ∧ 0 ≤ input.unitCost) .checkViolation
  -- `uq_inventory_movement_fifo_layer`
  ensure (∀ a ∈ book.allocations.rows,
    ¬(a.movementId = movement.id ∧ a.layerId = input.layerId)) .duplicateEntry
  let allocations ← demand (book.allocations.insert
    (input.row env movement.id book.allocations.rows.length)) .duplicateEntry
  pure ({ book with allocations := allocations }, quantityTimesCost input.quantity input.unitCost)

/-- The order in which `assertCurrency` looks at the layers of a product. -/
def FifoLayer.acquiredBefore (a b : FifoLayer) : Prop :=
  a.acquiredAt < b.acquiredAt ∨ (a.acquiredAt = b.acquiredAt ∧ a.id ≤ b.id)
deriving Decidable

def assertCurrency (book : FifoBook) (productId : Uuid) (currency : Currency) :
    Except Failure PUnit :=
  match (orderBy FifoLayer.acquiredBefore
      (book.layers.rows.filter fun l ↦ l.productId = productId)).head? with
  | none => pure ⟨⟩
  | some existing => ensure (existing.currency = currency) .inventoryFifoCurrencyMismatch

/-- What `createLayer` is told about the layer. -/
structure LayerInput where
  (quantity unitCost : ℤ)
  currency : Currency
  origin : LayerOrigin
  acquiredAt : Timestamp
  mode : AllocationMode
  sourceLayerId : Option Uuid := none
  purchaseReceiptLineId : Option Uuid := none
  sourceAllocationId : Option Uuid := none

/-- The row of a layer that finds `n` rows in the table. -/
def LayerInput.row (input : LayerInput) (env : Env) (movement : Movement) (n : ℕ) : FifoLayer where
  id := env.uuid .inventory_fifo_layers n
  productId := movement.productId
  locationId := movement.locationId
  sourceMovementId := some movement.id
  sourceLayerId := input.sourceLayerId
  purchaseReceiptLineId := input.purchaseReceiptLineId
  origin := input.origin
  originalQuantity := input.quantity
  remainingQuantity := input.quantity
  unitCost := input.unitCost
  currency := input.currency
  acquiredAt := input.acquiredAt
  createdAt := env.clock .inventory_fifo_layers n

/-- Opens a layer at the movement's location, with the allocation of its whole quantity. -/
def createLayer (env : Env) (book : FifoBook) (movement : Movement) (input : LayerInput) :
    Except Failure (FifoBook × ℤ) := do
  assertCurrency book movement.productId input.currency
  ensure (0 < input.quantity ∧ 0 ≤ input.unitCost) .checkViolation
  let layer := input.row env movement book.layers.rows.length
  let layers ← demand (book.layers.insert layer) .duplicateEntry
  insertAllocation env { book with layers := layers } movement {
    layerId := layer.id, quantity := input.quantity, unitCost := input.unitCost,
    currency := input.currency, mode := input.mode, sourceAllocationId := input.sourceAllocationId }

/-- `UPDATE inventory_fifo_layers SET remaining_quantity = …`. -/
def setRemaining (book : FifoBook) (layerId : Uuid) (remaining : ℤ) : FifoBook :=
  { book with
    layers := book.layers.update layerId fun l ↦ { l with remainingQuantity := remaining } }

/-! ### Drawing from layers -/

structure Progress where
  book : FifoBook
  (quantity totalValue : ℤ)

/-- `ORDER BY acquired_at, created_at, id`. -/
def FifoLayer.consumedBefore (a b : FifoLayer) : Prop :=
  a.acquiredAt < b.acquiredAt ∨ (a.acquiredAt = b.acquiredAt ∧
    (a.createdAt < b.createdAt ∨ (a.createdAt = b.createdAt ∧ a.id ≤ b.id)))
deriving Decidable

/-- The layers an exit may draw from: any, those of one receipt line, or those a transfer line
opened at its destination. -/
inductive LayerSource
  | any
  | receiptLine (id : Uuid)
  | transferLine (id : Uuid)

/-- `source_movement_id IN (SELECT id … WHERE transfer_line_id = ? AND type = 'TRANSFER_IN')`. -/
def openedByTransferLine (movements : Table Movement) (transferLineId : Uuid) (l : FifoLayer) :
    Prop :=
  ∃ m ∈ movements.rows, l.sourceMovementId = some m.id ∧
    m.transferLineId = some transferLineId ∧ m.type = .TRANSFER_IN
deriving Decidable

/-- `sourceFilter`. -/
def LayerSource.admits (movements : Table Movement) : LayerSource → FifoLayer → Bool
  | .any, _ => true
  | .receiptLine id, l => l.purchaseReceiptLineId = some id
  | .transferLine id, l => openedByTransferLine movements id l

/-- The layers read by `consumeLayers`, in the order in which it draws from them. -/
def consumableLayers (movements : Table Movement) (book : FifoBook) (productId locationId : Uuid)
    (source : LayerSource) : List FifoLayer :=
  orderBy FifoLayer.consumedBefore (book.layers.rows.filter fun l ↦
    l.productId = productId ∧ l.locationId = locationId ∧ 0 < l.remainingQuantity ∧
      source.admits movements l)

/-- One turn of `consumeLayers`. -/
def consumeLayer (env : Env) (movement : Movement) (mode : AllocationMode) (p : Progress)
    (layer : FifoLayer) : Except Failure Progress :=
  if p.quantity = 0 then pure p
  else
    let consumed := min layer.remainingQuantity p.quantity
    if consumed = 0 then pure p
    else do
      let book := setRemaining p.book layer.id (layer.remainingQuantity - consumed)
      let (book, value) ← insertAllocation env book movement {
        layerId := layer.id, quantity := -consumed, unitCost := layer.unitCost,
        currency := layer.currency, mode := mode }
      pure { book := book, quantity := p.quantity - consumed, totalValue := p.totalValue + value }

def consumeLayers (env : Env) (movements : Table Movement) (book : FifoBook) (movement : Movement)
    (requestedQuantity : ℤ) (source : LayerSource) : Except Failure (FifoBook × ℤ) := do
  let mode := match source with
    | .receiptLine _ => AllocationMode.ORIGIN_RETURN
    | _ => AllocationMode.FIFO
  let p ← (consumableLayers movements book movement.productId movement.locationId source).foldlM
    (consumeLayer env movement mode)
    { book := book, quantity := requestedQuantity, totalValue := 0 }
  ensure (p.quantity = 0) .inventoryFifoLayerShortage
  pure (p.book, p.totalValue)

/-! ### Putting back what a sale drew -/

/-- An allocation with its movement, whose time of creation orders it, and its layer. -/
structure SourceAllocation where
  allocation : FifoAllocation
  movementCreatedAt : Timestamp
  layer : FifoLayer

/-- `ORDER BY im.created_at, im.id, imfl.created_at, imfl.id`. -/
def SourceAllocation.before (a b : SourceAllocation) : Prop :=
  a.movementCreatedAt < b.movementCreatedAt ∨ (a.movementCreatedAt = b.movementCreatedAt ∧
    (a.allocation.movementId < b.allocation.movementId ∨
      (a.allocation.movementId = b.allocation.movementId ∧
        (a.allocation.createdAt < b.allocation.createdAt ∨
          (a.allocation.createdAt = b.allocation.createdAt ∧ a.allocation.id ≤ b.allocation.id)))))
deriving Decidable

/-- The allocations of the movements that satisfy `p`, joined and in order. -/
def sourceAllocations (movements : Table Movement) (book : FifoBook) (p : Movement → Bool) :
    List SourceAllocation :=
  orderBy SourceAllocation.before (book.allocations.rows.filterMap fun a ↦
    match movements.find? a.movementId, book.layers.find? a.layerId with
    | some m, some l => if p m then some ⟨a, m.createdAt, l⟩ else none
    | _, _ => none)

theorem mem_sourceAllocations {movements : Table Movement} {book : FifoBook} {p : Movement → Bool}
    {x : SourceAllocation} : x ∈ sourceAllocations movements book p ↔
      x.allocation ∈ book.allocations.rows ∧
        (∃ m, movements.find? x.allocation.movementId = some m ∧
          x.movementCreatedAt = m.createdAt ∧ p m = true) ∧
        book.layers.find? x.allocation.layerId = some x.layer := by
  rw [sourceAllocations, mem_orderBy, List.mem_filterMap]
  constructor
  · rintro ⟨a, ha, hx⟩
    split at hx
    case h_1 m l hm hl =>
      split at hx
      case isTrue hp =>
        obtain rfl := Option.some_inj.mp hx
        exact ⟨ha, ⟨m, hm, rfl, hp⟩, hl⟩
      case isFalse => cases hx
    case h_2 => cases hx
  · rintro ⟨ha, ⟨m, hm, hcreated, hp⟩, hl⟩
    exact ⟨x.allocation, ha, by rw [hm, hl]; simp [hp, ← hcreated]⟩

/-- The movements `restoreSale` takes for the source of a void or a return. -/
def isRestoreSource (movement m : Movement) : Bool :=
  sqlEq m.saleId movement.saleId && sqlEq m.saleLineId movement.saleLineId &&
    decide (m.locationId = movement.locationId) && decide (m.type = .SALE) &&
    match movement.sourceSaleMovementId with
    | some source => decide (m.id = source)
    | none => true

/-- `SUM(quantity_change)` of the allocations that put an allocation back. -/
def priorRestored (book : FifoBook) (allocationId : Uuid) : ℤ :=
  book.allocations.total fun a ↦
    if a.sourceAllocationId = some allocationId then a.quantityChange else 0

/-- One turn of `restoreSale`; `p.quantity` is what is still to be restored. -/
def restoreAllocation (env : Env) (movement : Movement) (p : Progress) (source : SourceAllocation) :
    Except Failure Progress :=
  let original := -source.allocation.quantityChange
  let available := original - priorRestored p.book source.allocation.id
  let quantity := min available p.quantity
  if quantity ≤ 0 then pure p
  else do
    let layer ← demand (p.book.layers.find? source.allocation.layerId) .inventoryFifoLayerShortage
    let next := layer.remainingQuantity + quantity
    ensure (next ≤ layer.originalQuantity) .inventoryFifoLayerShortage
    let book := setRemaining p.book source.allocation.layerId next
    let (book, value) ← insertAllocation env book movement {
      layerId := source.allocation.layerId, quantity := quantity,
      unitCost := source.allocation.unitCost, currency := source.allocation.currency,
      mode := .RESTORE, sourceAllocationId := some source.allocation.id }
    pure { book := book, quantity := p.quantity - quantity, totalValue := p.totalValue + value }

def restoreSale (env : Env) (movements : Table Movement) (book : FifoBook) (movement : Movement)
    (expectedQuantity : ℤ) : Except Failure (FifoBook × ℤ) := do
  let p ← (sourceAllocations movements book (isRestoreSource movement)).foldlM
    (restoreAllocation env movement)
    { book := book, quantity := expectedQuantity, totalValue := 0 }
  ensure (p.quantity = 0) .inventoryFifoLayerShortage
  pure (p.book, p.totalValue)

/-! ### Copying layers to the destination of a transfer -/

/-- The movements whose draws `transferLayers` copies. -/
def isTransferSource (movement m : Movement) : Bool :=
  sqlEq m.transferLineId movement.transferLineId && decide (m.type = .TRANSFER_OUT)

/-- One turn of `transferLayers`; `p.quantity` is what has been copied. -/
def transferAllocation (env : Env) (movement : Movement) (p : Progress)
    (source : SourceAllocation) : Except Failure Progress :=
  let quantity := -source.allocation.quantityChange
  if quantity ≤ 0 then pure p
  else do
    let (book, value) ← createLayer env p.book movement {
      quantity := quantity, unitCost := source.allocation.unitCost,
      currency := source.allocation.currency, origin := .TRANSFER,
      acquiredAt := source.layer.acquiredAt, mode := .TRANSFER,
      sourceLayerId := some source.allocation.layerId,
      sourceAllocationId := some source.allocation.id }
    pure { book := book, quantity := p.quantity + quantity, totalValue := p.totalValue + value }

def transferLayers (env : Env) (movements : Table Movement) (book : FifoBook) (movement : Movement)
    (expectedQuantity : ℤ) : Except Failure (FifoBook × ℤ) := do
  let p ← (sourceAllocations movements book (isTransferSource movement)).foldlM
    (transferAllocation env movement)
    { book := book, quantity := 0, totalValue := 0 }
  ensure (p.quantity = expectedQuantity) .inventoryFifoLayerShortage
  pure (p.book, p.totalValue)

/-! ### The movement as a whole -/

def sourceCost (s : Store) (movement : Movement) : Except Failure (ℤ × Currency) :=
  if movement.type = .PURCHASE_RECEIPT then do
    let line ← demand (movement.purchaseReceiptLineId.bind s.purchaseReceiptLines.find?)
      .fifoPurchaseReceiptCostNotFound
    pure (line.unitCost, line.currency)
  else do
    let unitCost ← demand movement.unitCost .fifoMovementCostNotFound
    pure (unitCost, tenantCurrency s.env.country)

def receiptLineForReturn (s : Store) (movement : Movement) : Except Failure Uuid := do
  let line ← demand (movement.purchaseReturnLineId.bind s.purchaseReturnLines.find?)
    .fifoReturnSourceNotFound
  pure line.purchaseReceiptLineId

def exitSource (s : Store) (movement : Movement) : Except Failure LayerSource :=
  if movement.type = .SUPPLIER_RETURN then do
    let line ← receiptLineForReturn s movement
    pure (.receiptLine line)
  else if movement.type = .TRANSFER_DISCREPANCY then
    match movement.transferLineId with
    | some line => pure (.transferLine line)
    | none => pure .any
  else pure .any

def entryOrigin : MovementType → LayerOrigin
  | .PURCHASE_RECEIPT => .PURCHASE_RECEIPT
  | .RETURN => .RETURN
  | _ => .ENTRY

def moveLayers (s : Store) (movement : Movement) : Except Failure (FifoBook × ℤ) :=
  if 0 < movement.quantityChange then
    match movement.type with
    | .SALE_VOID | .SALE_RETURN =>
      restoreSale s.env s.movements s.fifo movement movement.quantityChange
    | .TRANSFER_IN =>
      transferLayers s.env s.movements s.fifo movement movement.quantityChange
    | _ => do
      let (unitCost, currency) ← sourceCost s movement
      createLayer s.env s.fifo movement {
        quantity := movement.quantityChange, unitCost := unitCost, currency := currency,
        origin := entryOrigin movement.type, acquiredAt := movement.createdAt, mode := .ENTRY,
        purchaseReceiptLineId := movement.purchaseReceiptLineId }
  else if movement.quantityChange < 0 then do
    let source ← exitSource s movement
    consumeLayers s.env s.movements s.fifo movement (-movement.quantityChange) source
  else pure (s.fifo, 0)

/-- `SUM(remaining_quantity)` of the layers that satisfy `P`. -/
def FifoBook.remaining (book : FifoBook) (P : FifoLayer → Bool) : ℤ :=
  book.layers.total fun l ↦ if P l then l.remainingQuantity else 0

/-- `SUM(remaining_quantity)` of the layers of a product. -/
def FifoBook.remainingOf (book : FifoBook) (productId : Uuid) : ℤ :=
  book.remaining fun l ↦ l.productId = productId

/-- `SUM(remaining_quantity)` of the layers of a product at a location. -/
def FifoBook.remainingAt (book : FifoBook) (productId locationId : Uuid) : ℤ :=
  book.remaining fun l ↦ l.productId = productId ∧ l.locationId = locationId

/-- `SUM(remaining_quantity * unit_cost)` of the layers of a product. -/
def FifoBook.valueOf (book : FifoBook) (productId : Uuid) : ℤ :=
  book.layers.total fun l ↦ if l.productId = productId then l.remainingQuantity * l.unitCost else 0

/-- What `updateMovementSummary` writes on the movement. -/
def Movement.summarised (quantityChange : ℤ) (valueChange inventoryValue : ℤ)
    (m : Movement) : Movement :=
  { m with
    fifoUnitCost := some (if quantityChange = 0 then 0
      else divideRounded (|valueChange| * QUANTITY_SCALE) |quantityChange|)
    fifoValueChange := some valueChange
    fifoResultingInventoryValue := some inventoryValue }

def updateMovementSummary (s : Store) (movement : Movement) (valueChange : ℤ) :
    Except Failure Store := do
  let valuation ← demand (s.valuations.find? movement.productId) .inventoryFifoLayerShortage
  ensure (s.fifo.remainingOf movement.productId = valuation.quantity) .inventoryFifoLayerShortage
  -- `SUM(remaining_quantity * unit_cost)` has seven decimals; the column keeps four
  let inventoryValue := divideRounded (s.fifo.valueOf movement.productId) QUANTITY_SCALE
  pure { s with
    movements := s.movements.update movement.id
      (Movement.summarised movement.quantityChange valueChange inventoryValue) }

def applyInventoryFifoValuation (s : Store) (movementId : Uuid) : Except Failure Store := do
  let movement ← demand (s.movements.find? movementId) .inventoryMovementNotFoundForFifo
  if ∃ a ∈ s.fifo.allocations.rows, a.movementId = movement.id then pure s
  else do
    let (fifo, valueChange) ← moveLayers s movement
    updateMovementSummary { s with fifo := fifo } movement valueChange

/-! ### The pass, taken apart -/

/-- **The pass over the layers.** A movement with allocations is left alone; else the layers move
and the valuation is checked. -/
theorem applyInventoryFifoValuation_eq_ok {s s' : Store} {movement : Movement}
    (hfind : s.movements.find? movement.id = some movement)
    (h : applyInventoryFifoValuation s movement.id = .ok s') :
    (∃ a ∈ s.fifo.allocations.rows, a.movementId = movement.id) ∧ s' = s ∨
      ∃ fifo valueChange valuation,
        moveLayers s movement = .ok (fifo, valueChange) ∧
        s.valuations.find? movement.productId = some valuation ∧
        fifo.remainingOf movement.productId = valuation.quantity ∧
        s' = { s with
          fifo := fifo
          movements := s.movements.update movement.id
            (Movement.summarised movement.quantityChange valueChange
              (divideRounded (fifo.valueOf movement.productId) QUANTITY_SCALE)) } := by
  simp only [applyInventoryFifoValuation, eq_ok, hfind, Option.some.injEq] at h
  obtain ⟨_, rfl, h⟩ := h
  split at h
  case isTrue hallocated =>
    rw [pure_eq_ok] at h
    exact Or.inl ⟨hallocated, h.symm⟩
  case isFalse =>
    simp only [updateMovementSummary, eq_ok] at h
    obtain ⟨⟨fifo, valueChange⟩, hmove, valuation, hvaluation, -, hquantity, rfl⟩ := h
    exact Or.inr ⟨fifo, valueChange, valuation, hmove, hvaluation, hquantity, rfl⟩

end UInventario
