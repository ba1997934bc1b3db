import Mathlib.Logic.Function.Basic
import UInventario.Operations.Stock

/-!
# Transfers between warehouses

A transfer is written as a draft, dispatched as a whole, and received in one or more receipts.
Dispatching takes each line out of what is available at its source and puts it in transit at its
destination. A receipt moves what has arrived from in transit to available, with a movement of no
quantity, and takes what is missing out of the stock.

`dispatch` and `receive` read every balance once and go on with their own copies (`BalanceCache`),
which stay what the store has (`Cached.Coherent`), also when several lines share a balance.
-/

namespace UInventario

open Outcome List

/-! ### Balances read once -/

/-- `balances`: what a request has read, under product and location. -/
abbrev BalanceCache := Uuid × Uuid → Option Balance

structure Cached where
  store : Store
  balances : BalanceCache

/-- The order of the keys `product:location`. -/
def balanceKeyBefore (a b : Uuid × Uuid) : Prop :=
  a.1 < b.1 ∨ (a.1 = b.1 ∧ a.2 ≤ b.2)
deriving Decidable

/-- `[...new Set(keys)].sort()`. -/
def balanceKeys (keys : List (Uuid × Uuid)) : List (Uuid × Uuid) :=
  orderBy balanceKeyBefore keys.dedup

def Cached.Coherent (c : Cached) : Prop :=
  ∀ key b, c.balances key = some b → c.store.balance? key.1 key.2 = some b

def Cached.write (c : Cached) (b : Balance) : Except Failure Cached := do
  let s ← updateBalance c.store b
  pure { store := s, balances := Function.update c.balances (b.productId, b.locationId) (some b) }

variable {key : Uuid × Uuid} {balances : BalanceCache} {s : Store} {c : Cached}

theorem coherent_update {row : Balance} (hrow : s.balance? key.1 key.2 = some row)
    (hother : ∀ k ≠ key, ∀ b, balances k = some b → s.balance? k.1 k.2 = some b) :
    Cached.Coherent { store := s, balances := Function.update balances key (some row) } := by
  intro k b (hb : Function.update balances key (some row) k = some b)
  by_cases hk : k = key
  · subst hk
    rw [Function.update_self] at hb
    exact hrow.trans hb
  · rw [Function.update_of_ne hk] at hb
    exact hother k hk b hb

theorem Cached.Coherent.write {c' : Cached} (hc : c.Coherent) {b b' : Balance}
    (hfind : c.balances key = some b) (h : c.write b' = .ok c')
    (hkey : (b'.productId, b'.locationId) = (b.productId, b.locationId)) :
    c'.Coherent ∧ updateBalance c.store b' = .ok c'.store := by
  simp only [Cached.write, eq_ok] at h
  obtain ⟨s, hupdate, rfl⟩ := h
  have hread := hc key b hfind
  have hpair : (b'.productId, b'.locationId) = key := hkey.trans (Table.key_of_find? hread)
  refine ⟨coherent_update ?_ fun k hk r hr ↦ ?_, hupdate⟩
  · subst hpair
    exact balance?_updateBalance hread hupdate
  · exact (balance?_updateBalance_of_ne hupdate hk).trans (hc k r hr)

theorem Cached.Coherent.of_balances_eq (hc : c.Coherent)
    (h : s.balances = c.store.balances) : Cached.Coherent { c with store := s } := by
  intro key b hkey
  show s.balances.find? _ = _
  rw [h]
  exact hc key b hkey

variable {s' : Store} {tracking : Tracking} {n : NewMovement}

theorem balances_of_postMovement
    (h : postMovement s n tracking = .ok s') : s'.balances = s.balances := by
  obtain ⟨p⟩ := postMovement_eq_ok h
  exact p.balances_eq

namespace Transfers

/-! ### The draft -/

/-- A request for a transfer. `destinationAccess` says that the user may work at the branch of the
destination. -/
structure CreateInput where
  originWarehouseId : Uuid
  idempotencyKey : Text
  destinationWarehouseId : Uuid
  destinationAccess : Bool := true
  (reference reason : Text)
  lines : List TransferLineRequest

structure Result where
  store : Store
  transferId : Uuid
  replay : Bool

def assertDistinctLines (lines : List TransferLineRequest) : Except Failure PUnit :=
  ensure (lines.map fun l ↦ (l.productId, l.sourceLocationId, l.destinationLocationId)).Nodup
    .duplicateInventoryTransferLine

def assertWarehouseAccess (s : Store) (warehouseId : Uuid) (access : Bool) :
    Except Failure PUnit := do
  let warehouse ← demand (s.documents.warehouses.find? warehouseId) .invalidInventoryTransferTarget
  ensure (warehouse.active = true ∧ access = true) .invalidInventoryTransferTarget

def assertWarehouses (s : Store) (originWarehouseId destinationWarehouseId : Uuid) :
    Except Failure PUnit := do
  let origin ← demand (s.documents.warehouses.find? originWarehouseId)
    .invalidInventoryTransferTarget
  let destination ← demand (s.documents.warehouses.find? destinationWarehouseId)
    .invalidInventoryTransferTarget
  ensure (origin.active = true ∧ destination.active = true ∧ origin.id ≠ destination.id)
    .invalidInventoryTransferTarget

def assertLineTarget (s : Store) (originWarehouseId destinationWarehouseId : Uuid)
    (line : TransferLineRequest) : Except Failure PUnit := do
  let product ← demand (s.products.find? line.productId) .invalidInventoryTransferTarget
  let source ← demand (s.locations.find? line.sourceLocationId) .invalidInventoryTransferTarget
  let destination ← demand (s.locations.find? line.destinationLocationId)
    .invalidInventoryTransferTarget
  ensure (source.warehouseId = originWarehouseId ∧ source.active = true ∧
    destination.warehouseId = destinationWarehouseId ∧ destination.active = true ∧
    product.active = true ∧ product.variantParent = false) .invalidInventoryTransferTarget

def normalizeLine (s : Store) (line : TransferLineRequest) :
    Except Failure TransferLineRequest := do
  let product ← demand (s.products.find? line.productId) .invalidInventoryTransferTarget
  let quantity ← normalizeProductQuantity line.quantity product.quantityPolicy
  pure { line with quantity := quantity, serialNumbers := line.serialNumbers.map trim }

/-- `INSERT INTO inventory_transfers`. -/
def insertTransfer (s : Store) (transfer : Transfer) : Except Failure Store := do
  ensure (∀ t ∈ s.documents.transfers.rows,
    t.creationIdempotencyKey ≠ transfer.creationIdempotencyKey) .duplicateEntry
  let transfers ← demand (s.documents.transfers.insert transfer) .duplicateEntry
  pure { s with documents := { s.documents with transfers := transfers } }

/-- `INSERT INTO inventory_transfer_lines`, for the line at `lineNumber`. -/
def insertTransferLine (transferId : Uuid) (s : Store) (line : TransferLineRequest × ℕ) :
    Except Failure Store := do
  ensure (0 < line.1.quantity) .checkViolation
  let lines ← demand (s.documents.transferLines.insert {
    id := s.env.uuid .inventory_transfer_lines s.documents.transferLines.rows.length,
    transferId := transferId, lineNumber := line.2, productId := line.1.productId,
    sourceLocationId := line.1.sourceLocationId,
    destinationLocationId := line.1.destinationLocationId, quantity := line.1.quantity,
    receivedQuantity := 0, discrepancyQuantity := 0,
    serialNumbers := line.1.serialNumbers }) .duplicateEntry
  pure { s with documents := { s.documents with transferLines := lines } }

def findByCreationKey (s : Store) (idempotencyKey : Text) : Option Transfer :=
  s.documents.transfers.rows.find? fun t ↦ t.creationIdempotencyKey = idempotencyKey

def replayCreation (s : Store) (fingerprint : TransferFingerprint) (transfer : Transfer) :
    Except Failure Result := do
  ensure (transfer.requestFingerprint = fingerprint) .inventoryTransferIdempotencyConflict
  pure { store := s, transferId := transfer.id, replay := true }

def create (s : Store) (input : CreateInput) : Except Failure Result := do
  ensure (input.originWarehouseId ≠ input.destinationWarehouseId) .invalidInventoryTransferTarget
  assertDistinctLines input.lines
  let lines ← input.lines.mapM (normalizeLine s)
  let fingerprint : TransferFingerprint := {
    originWarehouseId := input.originWarehouseId,
    destinationWarehouseId := input.destinationWarehouseId, reference := input.reference,
    reason := input.reason, lines := lines }
  onDuplicate
    (do
      assertWarehouseAccess s input.destinationWarehouseId input.destinationAccess
      match findByCreationKey s input.idempotencyKey with
      | some replay => replayCreation s fingerprint replay
      | none => do
        assertWarehouses s input.originWarehouseId input.destinationWarehouseId
        lines.forM (assertLineTarget s input.originWarehouseId input.destinationWarehouseId)
        let transferId := s.env.uuid .inventory_transfers s.documents.transfers.rows.length
        let s ← insertTransfer s {
          id := transferId, originWarehouseId := input.originWarehouseId,
          destinationWarehouseId := input.destinationWarehouseId, status := .DRAFT,
          creationIdempotencyKey := input.idempotencyKey, requestFingerprint := fingerprint,
          dispatchIdempotencyKey := none }
        let s ← (lines.zipIdx 1).foldlM (insertTransferLine transferId) s
        pure { store := s, transferId := transferId, replay := false })
    (do
      let replay ← demand (findByCreationKey s input.idempotencyKey)
        .inventoryTransferIdempotencyConflict
      replayCreation s fingerprint replay)

/-! ### Dispatching -/

structure DispatchInput where
  (transferId originWarehouseId : Uuid)
  idempotencyKey : Text

/-- `findLineRows`. -/
def lineRows (c : Commitments) (transferId : Uuid) : List TransferLine :=
  orderBy (fun a b : TransferLine ↦
      a.lineNumber < b.lineNumber ∨ (a.lineNumber = b.lineNumber ∧ a.id ≤ b.id))
    (c.transferLines.rows.filter fun l ↦ l.transferId = transferId)

/-- The product and the locations of a line are still active, and in the two warehouses. -/
def assertDispatchable (s : Store) (transfer : Transfer) (line : TransferLine) :
    Except Failure PUnit := do
  let product ← demand (s.products.find? line.productId) .invalidInventoryTransferTarget
  let source ← demand (s.locations.find? line.sourceLocationId) .invalidInventoryTransferTarget
  let destination ← demand (s.locations.find? line.destinationLocationId)
    .invalidInventoryTransferTarget
  ensure (product.active = true ∧ source.active = true ∧ destination.active = true ∧
    source.warehouseId = transfer.originWarehouseId ∧
    destination.warehouseId = transfer.destinationWarehouseId) .invalidInventoryTransferTarget

def dispatchKeys (lines : List TransferLine) : List (Uuid × Uuid) :=
  balanceKeys (lines.flatMap fun l ↦
    [(l.productId, l.sourceLocationId), (l.productId, l.destinationLocationId)])

def openCached (c : Cached) (key : Uuid × Uuid) : Except Failure Cached := do
  let s := ensureBalance c.store key.1 key.2
  let row ← demand (s.balance? key.1 key.2) .typeError
  pure { store := s, balances := Function.update c.balances key (some row) }

def dispatchMovement (transferId : Uuid) (line : TransferLine) (type : MovementType)
    (locationId : Uuid) (quantityChange resultingQuantity : ℤ) : NewMovement where
  productId := line.productId
  locationId := locationId
  type := type
  quantityChange := quantityChange
  resultingQuantity := resultingQuantity
  idempotencyKey := .transfer transferId line.lineNumber type
  transferLineId := some line.id

/-- What the passes over a half are told; only the departure names serial numbers. -/
def dispatchTracking (line : TransferLine) (serialNumbers : Option (List Text)) : Tracking where
  lots := some {}
  serials := some {
    serialNumbers := serialNumbers, destinationLocationId := some line.destinationLocationId }

def dispatchLine (transferId : Uuid) (c : Cached) (line : TransferLine) :
    Except Failure Cached := do
  let source ← demand (c.balances (line.productId, line.sourceLocationId)) .typeError
  ensure (line.quantity ≤ source.available) .inventoryTransferInsufficientStock
  let source := { source with
    available := source.available - line.quantity, quantity := source.quantity - line.quantity }
  let c ← c.write source
  let destination ← demand (c.balances (line.productId, line.destinationLocationId)) .typeError
  let destination := { destination with
    inTransit := destination.inTransit + line.quantity
    quantity := destination.quantity + line.quantity }
  let c ← c.write destination
  let s ← postMovement c.store (dispatchMovement transferId line .TRANSFER_OUT
    line.sourceLocationId (-line.quantity) source.quantity)
    (dispatchTracking line (some line.serialNumbers))
  let s ← postMovement s (dispatchMovement transferId line .TRANSFER_IN line.destinationLocationId
    line.quantity destination.quantity) (dispatchTracking line none)
  pure { c with store := s }

def Dispatched (idempotencyKey : Text) (t : Transfer) : Transfer :=
  { t with status := .DISPATCHED, dispatchIdempotencyKey := some idempotencyKey }

/-- `dispatch` of a draft. -/
def dispatchDraft (s : Store) (input : DispatchInput) (header : Transfer) :
    Except Failure Result := do
  assertWarehouses s header.originWarehouseId header.destinationWarehouseId
  let lines := lineRows s.documents.toCommitments input.transferId
  ensure (lines ≠ []) .inventoryTransferNotFound
  lines.forM (assertDispatchable s header)
  let c ← (dispatchKeys lines).foldlM openCached { store := s, balances := fun _ ↦ none }
  let c ← lines.foldlM (dispatchLine input.transferId) c
  let s := c.store
  -- `uq_inventory_transfers_dispatch_key`
  ensure (∀ t ∈ s.documents.transfers.rows, t.dispatchIdempotencyKey ≠ some input.idempotencyKey)
    .duplicateEntry
  pure {
    store := { s with documents := { s.documents with toCommitments := {
      s.documents.toCommitments with
      transfers := s.documents.transfers.update input.transferId
        (Dispatched input.idempotencyKey) } } }
    transferId := input.transferId
    replay := false }

def dispatch (s : Store) (input : DispatchInput) : Except Failure Result :=
  onDuplicate
    (do
      let header ← demand (s.documents.transfers.find? input.transferId) .inventoryTransferNotFound
      ensure (header.originWarehouseId = input.originWarehouseId) .inventoryTransferNotFound
      if header.status = .DISPATCHED then do
        ensure (header.dispatchIdempotencyKey = some input.idempotencyKey)
          .inventoryTransferStatusConflict
        pure { store := s, transferId := input.transferId, replay := true }
      else do
        ensure (header.status = .DRAFT) .inventoryTransferStatusConflict
        dispatchDraft s input header)
    (.error .inventoryTransferIdempotencyConflict)

/-! ### Receiving -/

structure ReceiveInput where
  (transferId destinationWarehouseId : Uuid)
  idempotencyKey : Text
  discrepancyReason : Option Text := none
  lines : List TransferReceiptLine

structure RequestedLine where
  transferLine : TransferLine
  (received discrepancy : ℤ)
  (receivedSerialNumbers discrepancySerialNumbers : List Text)

def RequestedLine.processed (item : RequestedLine) : ℤ :=
  item.received + item.discrepancy

/-- A line of a receipt with its quantities normalised; it is one of the transfer. -/
def normalizeReceiptLine (s : Store) (transferId : Uuid) (line : TransferReceiptLine) :
    Except Failure TransferReceiptLine := do
  let transferLine ← demand (s.documents.transferLines.find? line.transferLineId)
    .invalidInventoryTransferReceipt
  ensure (transferLine.transferId = transferId) .invalidInventoryTransferReceipt
  let product ← demand (s.products.find? transferLine.productId) .invalidInventoryTransferReceipt
  let received ← normalizeProductQuantity line.receivedQuantity product.quantityPolicy false false
  let discrepancy ← normalizeProductQuantity line.discrepancyQuantity product.quantityPolicy false
    false
  pure {
    transferLineId := line.transferLineId
    receivedQuantity := received
    discrepancyQuantity := discrepancy
    receivedSerialNumbers := line.receivedSerialNumbers.map trim
    discrepancySerialNumbers := line.discrepancySerialNumbers.map trim }

/-- `requested`: the line of the transfer still has the quantities pending. -/
def requestLine (s : Store) (transferId : Uuid) (line : TransferReceiptLine) :
    Except Failure RequestedLine := do
  let transferLine ← demand ((lineRows s.documents.toCommitments transferId).find? fun l ↦
    l.id = line.transferLineId) .invalidInventoryTransferReceipt
  let processed := line.receivedQuantity + line.discrepancyQuantity
  ensure (0 < processed) .invalidInventoryTransferReceipt
  ensure (processed ≤ transferLine.pending) .inventoryTransferReceiptExceedsPending
  pure {
    transferLine := transferLine, received := line.receivedQuantity,
    discrepancy := line.discrepancyQuantity, receivedSerialNumbers := line.receivedSerialNumbers,
    discrepancySerialNumbers := line.discrepancySerialNumbers }

def readCached (s : Store) (balances : BalanceCache) (key : Uuid × Uuid) :
    Except Failure BalanceCache := do
  let balance ← demand (s.balance? key.1 key.2) .invalidInventoryTransferReceipt
  pure (Function.update balances key (some balance))

/-- `TRANSFER_RECEIPT`. -/
def receiptMovement (receiptId : Uuid) (item : RequestedLine) (resultingQuantity : ℤ) :
    NewMovement where
  productId := item.transferLine.productId
  locationId := item.transferLine.destinationLocationId
  type := .TRANSFER_RECEIPT
  quantityChange := 0
  resultingQuantity := resultingQuantity
  fromState := some .IN_TRANSIT
  toState := some .AVAILABLE
  stateQuantity := some item.received
  idempotencyKey := .receipt receiptId item.transferLine.lineNumber .TRANSFER_RECEIPT
  transferLineId := some item.transferLine.id

/-- `TRANSFER_DISCREPANCY`. -/
def discrepancyMovement (receiptId : Uuid) (item : RequestedLine) (resultingQuantity : ℤ) :
    NewMovement where
  productId := item.transferLine.productId
  locationId := item.transferLine.destinationLocationId
  type := .TRANSFER_DISCREPANCY
  quantityChange := -item.discrepancy
  resultingQuantity := resultingQuantity
  idempotencyKey := .receipt receiptId item.transferLine.lineNumber .TRANSFER_DISCREPANCY
  transferLineId := some item.transferLine.id

def receiptTracking (serialNumbers : List Text) : Tracking where
  lots := some {}
  serials := some { serialNumbers := some serialNumbers }

def postReceipt (s : Store) (receiptId : Uuid) (item : RequestedLine) (resultingQuantity : ℤ) :
    Except Failure Store :=
  if 0 < item.received then
    postMovement s (receiptMovement receiptId item resultingQuantity)
      (receiptTracking item.receivedSerialNumbers)
  else pure s

def postDiscrepancy (s : Store) (receiptId : Uuid) (item : RequestedLine)
    (resultingQuantity : ℤ) : Except Failure Store :=
  if 0 < item.discrepancy then
    postMovement s (discrepancyMovement receiptId item resultingQuantity)
      (receiptTracking item.discrepancySerialNumbers)
  else pure s

def RequestedLine.receivedFrom (item : RequestedLine) (c : Commitments) : Commitments :=
  { c with transferLines := c.transferLines.update item.transferLine.id fun l ↦ { l with
      receivedQuantity := l.receivedQuantity + item.received
      discrepancyQuantity := l.discrepancyQuantity + item.discrepancy } }

def receiveLine (receiptId : Uuid) (c : Cached) (item : RequestedLine) : Except Failure Cached := do
  let line := item.transferLine
  let balance ← demand (c.balances (line.productId, line.destinationLocationId)) .typeError
  ensure (item.processed ≤ balance.inTransit) .invalidInventoryTransferReceipt
  let balance := { balance with
    inTransit := balance.inTransit - item.processed, available := balance.available + item.received,
    quantity := balance.quantity - item.discrepancy }
  let c ← c.write balance
  let s := { c.store with documents := { c.store.documents with
    toCommitments := item.receivedFrom c.store.documents.toCommitments } }
  let s ← postReceipt s receiptId item balance.quantity
  let s ← postDiscrepancy s receiptId item balance.quantity
  pure { c with store := s }

/-- `INSERT INTO inventory_transfer_receipts`. -/
def insertReceipt (s : Store) (receipt : TransferReceipt) : Except Failure Store := do
  ensure (∀ r ∈ s.documents.transferReceipts.rows, r.idempotencyKey ≠ receipt.idempotencyKey)
    .duplicateEntry
  let receipts ← demand (s.documents.transferReceipts.insert receipt) .duplicateEntry
  pure { s with documents := { s.documents with transferReceipts := receipts } }

def findReceiptByKey (s : Store) (idempotencyKey : Text) : Option TransferReceipt :=
  s.documents.transferReceipts.rows.find? fun r ↦ r.idempotencyKey = idempotencyKey

def receivedStatus (c : Commitments) (transferId : Uuid) : TransferStatus :=
  if ∃ l ∈ c.transferLines.rows, l.transferId = transferId ∧
      l.receivedQuantity + l.discrepancyQuantity < l.quantity then .PARTIALLY_RECEIVED
  else .RECEIVED

def withStatus (c : Commitments) (transferId : Uuid) (status : TransferStatus) : Commitments :=
  { c with transfers := c.transfers.update transferId fun t ↦ { t with status := status } }

/-- `receive` of a request that is not known. -/
def receiveNew (s : Store) (input : ReceiveInput) (lines : List TransferReceiptLine)
    (fingerprint : TransferReceiptFingerprint) : Except Failure Result := do
  let header ← demand (s.documents.transfers.find? input.transferId) .inventoryTransferNotFound
  ensure (header.destinationWarehouseId = input.destinationWarehouseId)
    .invalidInventoryTransferTarget
  ensure (header.status = .DISPATCHED ∨ header.status = .PARTIALLY_RECEIVED)
    .inventoryTransferStatusConflict
  let requested ← lines.mapM (requestLine s input.transferId)
  let keys := balanceKeys (requested.map fun item ↦
    (item.transferLine.productId, item.transferLine.destinationLocationId))
  let balances ← keys.foldlM (readCached s) fun _ ↦ none
  let receiptId := s.env.uuid .inventory_transfer_receipts s.documents.transferReceipts.rows.length
  let s ← insertReceipt s {
    id := receiptId, transferId := input.transferId, idempotencyKey := input.idempotencyKey,
    requestFingerprint := fingerprint }
  let c ← requested.foldlM (receiveLine receiptId) { store := s, balances := balances }
  let s := c.store
  let commitments := s.documents.toCommitments
  pure {
    store := { s with documents := { s.documents with
      toCommitments := withStatus commitments input.transferId
        (receivedStatus commitments input.transferId) } }
    transferId := input.transferId
    replay := false }

def replayReceipt (s : Store) (input : ReceiveInput) (fingerprint : TransferReceiptFingerprint)
    (existing : TransferReceipt) : Except Failure Result := do
  ensure (existing.transferId = input.transferId ∧ existing.requestFingerprint = fingerprint)
    .inventoryTransferIdempotencyConflict
  let transfer ← demand (s.documents.transfers.find? input.transferId) .inventoryTransferNotFound
  ensure (transfer.destinationWarehouseId = input.destinationWarehouseId)
    .inventoryTransferNotFound
  pure { store := s, transferId := input.transferId, replay := true }

def receive (s : Store) (input : ReceiveInput) : Except Failure Result := do
  ensure (input.lines.map TransferReceiptLine.transferLineId).Nodup .invalidInventoryTransferReceipt
  let _target ← demand (s.documents.transfers.find? input.transferId) .inventoryTransferNotFound
  let lines ← input.lines.mapM (normalizeReceiptLine s input.transferId)
  ensure (¬∀ l ∈ lines, l.receivedQuantity = 0 ∧ l.discrepancyQuantity = 0)
    .invalidInventoryTransferReceipt
  ensure ((∃ l ∈ lines, 0 < l.discrepancyQuantity) → input.discrepancyReason ≠ none)
    .inventoryTransferDiscrepancyReasonRequired
  let fingerprint : TransferReceiptFingerprint := {
    transferId := input.transferId
    lines := orderBy (fun a b : TransferReceiptLine ↦ a.transferLineId ≤ b.transferLineId) lines
    discrepancyReason := input.discrepancyReason }
  onDuplicate
    (match findReceiptByKey s input.idempotencyKey with
    | some existing => replayReceipt s input fingerprint existing
    | none => receiveNew s input lines fingerprint)
    (do
      let existing ← demand (findReceiptByKey s input.idempotencyKey)
        .inventoryTransferIdempotencyConflict
      ensure (existing.transferId = input.transferId ∧ existing.requestFingerprint = fingerprint)
        .inventoryTransferIdempotencyConflict
      pure { store := s, transferId := input.transferId, replay := true })

/-! ### Cancelling -/

structure CancelInput where
  (transferId originWarehouseId : Uuid)

def cancel (s : Store) (input : CancelInput) : Except Failure Store := do
  let header ← demand (s.documents.transfers.find? input.transferId) .inventoryTransferNotFound
  ensure (header.originWarehouseId = input.originWarehouseId) .inventoryTransferNotFound
  ensure (header.status ≠ .DISPATCHED) .inventoryTransferStatusConflict
  if header.status = .DRAFT then
    pure { s with documents := { s.documents with
      toCommitments := withStatus s.documents.toCommitments input.transferId .CANCELLED } }
  else pure s

/-! ### The writes of a transfer -/

/-- A draft has been written: a new header, and lines of which nothing has arrived. -/
structure Drafted (before after : Commitments) : Prop where
  draft : ∃ t, before.transfers.insert t = some after.transfers ∧ t.status = .DRAFT ∧
    ∃ new, after.transferLines.rows = before.transferLines.rows ++ new ∧
      ∀ l ∈ new, l.transferId = t.id ∧ l.receivedQuantity = 0 ∧ l.discrepancyQuantity = 0 ∧
        0 < l.quantity
  reservations : after.reservations = before.reservations
  reservationLines : after.reservationLines = before.reservationLines

variable {s : Store} {r : Result}

theorem replayCreation_eq_ok {fingerprint : TransferFingerprint} {transfer : Transfer}
    (h : replayCreation s fingerprint transfer = .ok r) : r.store = s := by
  simp only [replayCreation, eq_ok] at h
  obtain ⟨-, -, rfl⟩ := h
  rfl

variable {transferId : Uuid}

theorem insertTransferLine_eq_ok {line : TransferLineRequest × ℕ}
    (h : insertTransferLine transferId s line = .ok s') :
    ∃ lines l, s' = { s with documents := { s.documents with transferLines := lines } } ∧
      lines.rows = s.documents.transferLines.rows ++ [l] ∧ l.transferId = transferId ∧
      l.receivedQuantity = 0 ∧ l.discrepancyQuantity = 0 ∧ 0 < l.quantity := by
  simp only [insertTransferLine, eq_ok] at h
  obtain ⟨-, hpos, lines, hinsert, rfl⟩ := h
  exact ⟨lines, _, rfl, (Table.insert_eq_some hinsert).2, rfl, rfl, rfl, hpos⟩

theorem insertTransferLine_foldlM : ∀ {lines : List (TransferLineRequest × ℕ)} {s s' : Store},
      lines.foldlM (insertTransferLine transferId) s = .ok s' →
      ∃ (transferLines : Table TransferLine) (new : List TransferLine),
        s' = { s with documents := { s.documents with transferLines := transferLines } } ∧
        transferLines.rows = s.documents.transferLines.rows ++ new ∧ new.length = lines.length ∧
        ∀ l ∈ new, l.transferId = transferId ∧ l.receivedQuantity = 0 ∧
          l.discrepancyQuantity = 0 ∧ 0 < l.quantity := by
  intro lines
  induction lines with
  | nil =>
    intro s s' h
    obtain rfl := foldlM_nil_eq_ok.mp h
    exact ⟨s.documents.transferLines, [], rfl, (append_nil _).symm, rfl, by simp⟩
  | cons line lines ih =>
    intro s s' h
    obtain ⟨s₁, hturn, hrest⟩ := foldlM_cons_eq_ok.mp h
    obtain ⟨lines₁, l, rfl, hrows₁, hl⟩ := insertTransferLine_eq_ok hturn
    obtain ⟨transferLines, new, rfl, hrows, hlength, hnew⟩ := ih hrest
    refine ⟨transferLines, l :: new, rfl, ?_, by rw [length_cons, hlength, length_cons],
      fun l' hl' ↦ ?_⟩
    · rw [hrows, show _ = lines₁.rows from rfl, hrows₁, append_assoc, singleton_append]
    · rcases mem_cons.mp hl' with rfl | hl'
      · exact hl
      · exact hnew l' hl'

/-- **Writing a draft** moves no stock; the draft has a line for each line of the request. -/
theorem create_writes {input : CreateInput} (h : create s input = .ok r) : r.store = s ∨
      ∃ after, Drafted s.documents.toCommitments after ∧ after.transferLines.rows.length =
          s.documents.transferLines.rows.length + input.lines.length ∧
        StockWrites s [.commit s.documents.toCommitments after] r.store := by
  simp only [create, bind_eq_ok] at h
  obtain ⟨-, -, -, -, lines, hlines, h⟩ := h
  rcases onDuplicate_eq_ok h with h | h
  · obtain ⟨-, -, h⟩ := bind_eq_ok.mp h
    split at h
    · exact .inl (replayCreation_eq_ok h)
    · simp only [insertTransfer, eq_ok] at h
      obtain ⟨-, -, -, -, _, ⟨-, -, transfers, hinsert, rfl⟩, s₁, hloop, rfl⟩ := h
      obtain ⟨transferLines, new, rfl, hrows, hlength, hnew⟩ := insertTransferLine_foldlM hloop
      have hcount : lines.length = input.lines.length := (mapM_eq_ok hlines).length_eq.symm
      refine .inr ⟨{ s.documents.toCommitments with
        transfers := transfers, transferLines := transferLines },
        ⟨⟨_, hinsert, rfl, new, hrows, hnew⟩, rfl, rfl⟩, ?_, (StockWrites.done (s := s)).commit _⟩
      rw [hrows, length_append, hlength, length_zipIdx, hcount]
  · obtain ⟨transfer, -, h⟩ := bind_eq_ok.mp h
    exact .inl (replayCreation_eq_ok h)

/-- A line that has been dispatched, with what its two balances hold afterwards. -/
structure DispatchedLine where
  line : TransferLine
  (sourceQuantity destinationQuantity : ℤ)

def DispatchedLine.writes (transferId : Uuid) (d : DispatchedLine) : List StockWrite :=
  [.balance d.line.productId d.line.sourceLocationId { available := -d.line.quantity },
    .balance d.line.productId d.line.destinationLocationId { inTransit := d.line.quantity },
    .post (dispatchMovement transferId d.line .TRANSFER_OUT d.line.sourceLocationId
      (-d.line.quantity) d.sourceQuantity) (dispatchTracking d.line (some d.line.serialNumbers)),
    .post (dispatchMovement transferId d.line .TRANSFER_IN d.line.destinationLocationId
      d.line.quantity d.destinationQuantity) (dispatchTracking d.line none)]

variable {c c' : Cached} {keys : List (Uuid × Uuid)}

theorem dispatchLine_writes {line : TransferLine} (hc : c.Coherent)
    (h : dispatchLine transferId c line = .ok c') :
    c'.Coherent ∧ ∃ d : DispatchedLine, d.line = line ∧
      StockWrites c.store (d.writes transferId) c'.store := by
  simp only [dispatchLine, eq_ok] at h
  obtain ⟨source, hsource, -, -, c₁, hwrite, destination, hdestination, c₂, hwrite', s₃, hout,
    s₄, hin, rfl⟩ := h
  obtain ⟨hc₁, hupdate⟩ := hc.write hsource hwrite rfl
  obtain ⟨hc₂, hupdate'⟩ := hc₁.write hdestination hwrite' rfl
  refine ⟨hc₂.of_balances_eq ?_, ⟨line, source.quantity - line.quantity,
    destination.quantity + line.quantity⟩, rfl, ?_⟩
  · exact (balances_of_postMovement hin).trans (balances_of_postMovement hout)
  · have hleft := StockWrites.done.updated { available := -line.quantity } (hc _ _ hsource) hupdate
      rfl (by simp [Balance.change])
    have harrived := hleft.updated { inTransit := line.quantity } (hc₁ _ _ hdestination) hupdate'
      rfl (by simp [Balance.change])
    exact (harrived.posted hout).posted hin

theorem dispatchLine_foldlM {lines : List TransferLine} (hc : c.Coherent)
    (h : lines.foldlM (dispatchLine transferId) c = .ok c') :
    ∃ dispatched : List DispatchedLine, dispatched.map DispatchedLine.line = lines ∧
      StockWrites c.store (dispatched.flatMap (DispatchedLine.writes transferId)) c'.store := by
  induction lines generalizing c with
  | nil =>
    obtain rfl := foldlM_nil_eq_ok.mp h
    exact ⟨[], rfl, .done⟩
  | cons line lines ih =>
    obtain ⟨c₁, hturn, hrest⟩ := foldlM_cons_eq_ok.mp h
    obtain ⟨hc₁, d, rfl, hwrites⟩ := dispatchLine_writes hc hturn
    obtain ⟨dispatched, rfl, hwrites'⟩ := ih hc₁ hrest
    exact ⟨d :: dispatched, rfl, hwrites.trans hwrites'⟩

theorem openCached_foldlM (hc : c.Coherent) (h : keys.foldlM openCached c = .ok c') :
    c'.Coherent ∧ StockWrites c.store (keys.map fun key ↦ .opened key.1 key.2) c'.store := by
  induction keys generalizing c with
  | nil =>
    obtain rfl := foldlM_nil_eq_ok.mp h
    exact ⟨hc, .done⟩
  | cons key keys ih =>
    obtain ⟨c₁, hturn, h⟩ := foldlM_cons_eq_ok.mp h
    simp only [openCached, eq_ok] at hturn
    obtain ⟨row, hrow, rfl⟩ := hturn
    have hcoherent : Cached.Coherent {
        store := ensureBalance c.store key.1 key.2
        balances := Function.update c.balances key (some row) } :=
      coherent_update hrow fun k hk b hb ↦ (balance?_ensureBalance_of_ne hk).trans (hc k b hb)
    obtain ⟨hc', hwrites⟩ := ih hcoherent h
    exact ⟨hc', (StockWrites.done.opened key.1 key.2).trans hwrites⟩

def dispatchedCommitments (c : Commitments) (input : DispatchInput) : Commitments :=
  { c with transfers := c.transfers.update input.transferId (Dispatched input.idempotencyKey) }

/-- **What dispatching does**: nothing when the request is known, else it moves every line and marks
the header. -/
theorem dispatch_writes {input : DispatchInput} (h : dispatch s input = .ok r) : r.store = s ∨
      ∃ (header : Transfer) (dispatched : List DispatchedLine),
        s.documents.transfers.find? input.transferId = some header ∧ header.status = .DRAFT ∧
        dispatched.map DispatchedLine.line = lineRows s.documents.toCommitments input.transferId ∧
        StockWrites s ((dispatchKeys (dispatched.map DispatchedLine.line)).map
            (fun key ↦ .opened key.1 key.2) ++
          dispatched.flatMap (DispatchedLine.writes input.transferId) ++
          [.commit s.documents.toCommitments
            (dispatchedCommitments s.documents.toCommitments input)]) r.store := by
  rcases onDuplicate_eq_ok h with h | h
  · simp only [eq_ok] at h
    obtain ⟨header, hheader, -, -, h⟩ := h
    split at h
    · simp only [eq_ok] at h
      obtain ⟨-, -, rfl⟩ := h
      exact .inl rfl
    · simp only [dispatchDraft, eq_ok] at h
      obtain ⟨-, hstatus, -, -, -, -, -, -, c₁, hopen, c₂, hloop, -, -, rfl⟩ := h
      obtain ⟨hc₁, hopened⟩ := openCached_foldlM (fun _ _ hb ↦ by cases hb) hopen
      obtain ⟨dispatched, hlines, hdispatched⟩ := dispatchLine_foldlM hc₁ hloop
      refine .inr ⟨header, dispatched, hheader, hstatus, hlines, ?_⟩
      rw [hlines]
      have hwrites := hopened.trans hdispatched
      have hsame := hwrites.commitments_eq fun before after hmem ↦ by
        rcases mem_append.mp hmem with hmem | hmem
        · simp at hmem
        · simp [DispatchedLine.writes] at hmem
      rw [show StockWrite.commit s.documents.toCommitments
          (dispatchedCommitments s.documents.toCommitments input) =
          .commit c₂.store.documents.toCommitments
            (dispatchedCommitments c₂.store.documents.toCommitments input) by rw [hsame]]
      exact hwrites.commit _
  · cases h

/-! ### The writes of a receipt -/

/-- A line that has been received, with the commitments before it and its balance afterwards. -/
structure ReceivedLine where
  item : RequestedLine
  before : Commitments
  resultingQuantity : ℤ

def ReceivedLine.writes (receiptId : Uuid) (r : ReceivedLine) : List StockWrite :=
  [.balance r.item.transferLine.productId r.item.transferLine.destinationLocationId
      { available := r.item.received, inTransit := -r.item.processed },
    .commit r.before (r.item.receivedFrom r.before)] ++
  (if 0 < r.item.received then
    [.post (receiptMovement receiptId r.item r.resultingQuantity)
      (receiptTracking r.item.receivedSerialNumbers)] else []) ++
  (if 0 < r.item.discrepancy then
    [.post (discrepancyMovement receiptId r.item r.resultingQuantity)
      (receiptTracking r.item.discrepancySerialNumbers)] else [])

/-- The lines still to be received are lines of the transfer as they were read. -/
structure Receivable (transferId : Uuid) (c : Commitments) (rest : List RequestedLine) : Prop where
  nodup : (rest.map fun item ↦ item.transferLine.id).Nodup
  current : ∀ item ∈ rest, c.transferLines.find? item.transferLine.id = some item.transferLine
  ofTransfer : ∀ item ∈ rest, item.transferLine.transferId = transferId
  received_nonneg : ∀ item ∈ rest, 0 ≤ item.received
  discrepancy_nonneg : ∀ item ∈ rest, 0 ≤ item.discrepancy
  processed_le : ∀ item ∈ rest, item.processed ≤ item.transferLine.pending

variable {item : RequestedLine} {rest : List RequestedLine}

theorem Receivable.of_subset {c c' : Commitments} {rest' : List RequestedLine}
    (h : Receivable transferId c rest) (hsubset : rest' ⊆ rest)
    (hnodup : (rest'.map fun item ↦ item.transferLine.id).Nodup) (hcurrent : ∀ item ∈ rest',
      c'.transferLines.find? item.transferLine.id = some item.transferLine) :
    Receivable transferId c' rest' :=
  ⟨hnodup, hcurrent, fun i hi ↦ h.ofTransfer i (hsubset hi),
    fun i hi ↦ h.received_nonneg i (hsubset hi), fun i hi ↦ h.discrepancy_nonneg i (hsubset hi),
    fun i hi ↦ h.processed_le i (hsubset hi)⟩

theorem Receivable.tail {c : Commitments} (h : Receivable transferId c (item :: rest)) :
    Receivable transferId (item.receivedFrom c) rest := by
  obtain ⟨hnotin, hnodup⟩ := nodup_cons.mp h.nodup
  refine h.of_subset (subset_cons_self _ _) hnodup fun item' hitem' ↦ ?_
  show (c.transferLines.update _ _).find? _ = _
  rw [Table.find?_update_of_ne]
  · exact h.current item' (mem_cons_of_mem _ hitem')
  · exact fun hid ↦ hnotin (mem_map.mpr ⟨item', hitem', hid⟩)

variable {receiptId : Uuid} {lines : List TransferReceiptLine} {line : TransferReceiptLine}

theorem postIf_writes {p : Prop} [Decidable p]
    (h : (if p then postMovement s n tracking else pure s) = .ok s') :
    s'.balances = s.balances ∧ s'.documents = s.documents ∧
      StockWrites s (if p then [.post n tracking] else []) s' := by
  split at h
  case isTrue hpos =>
    obtain ⟨p⟩ := postMovement_eq_ok h
    rw [if_pos hpos]
    exact ⟨p.balances_eq, (congrArg Store.documents p.store_eq :), StockWrites.done.post p⟩
  case isFalse hpos =>
    obtain rfl := pure_eq_ok.mp h
    rw [if_neg hpos]
    exact ⟨rfl, rfl, .done⟩

theorem receiveLine_writes (hc : c.Coherent) (h : receiveLine receiptId c item = .ok c') :
    c'.Coherent ∧
      c'.store.documents.toCommitments = item.receivedFrom c.store.documents.toCommitments ∧
      ∃ r : ReceivedLine, r.item = item ∧ r.before = c.store.documents.toCommitments ∧
        StockWrites c.store (r.writes receiptId) c'.store := by
  simp only [receiveLine, eq_ok] at h
  obtain ⟨balance, hbalance, -, -, c₁, hwrite, s₂, hreceipt, s₃, hdiscrepancy, rfl⟩ := h
  obtain ⟨hc₁, hupdate⟩ := hc.write hbalance hwrite rfl
  obtain ⟨hbalances, hdocuments, hposted⟩ := postIf_writes hreceipt
  obtain ⟨hbalances', hdocuments', hposted'⟩ := postIf_writes hdiscrepancy
  have hsame : c₁.store.documents = c.store.documents := by
    obtain ⟨-, heq⟩ := updateBalance_eq_ok hupdate
    exact (congrArg Store.documents heq :)
  refine ⟨hc₁.of_balances_eq (hbalances'.trans hbalances), ?_,
    ⟨item, c.store.documents.toCommitments, balance.quantity - item.discrepancy⟩, rfl, rfl, ?_⟩
  · rw [hdocuments', hdocuments, hsame]
  · have hmoved := StockWrites.done.updated
      { available := item.received, inTransit := -item.processed } (hc _ _ hbalance) hupdate rfl
      (by simp [Balance.change])
    have hcommitted := hmoved.commit (item.receivedFrom c₁.store.documents.toCommitments)
    rw [hsame] at hcommitted hposted
    exact (hcommitted.trans hposted).trans hposted'

theorem receiveLine_foldlM (hc : c.Coherent)
    (hreceivable : Receivable transferId c.store.documents.toCommitments rest)
    (h : rest.foldlM (receiveLine receiptId) c = .ok c') :
    ∃ received : List ReceivedLine, received.map ReceivedLine.item = rest ∧
      (∀ r ∈ received, Receivable transferId r.before [r.item] ∧
        r.before.transfers = c.store.documents.transfers) ∧
      StockWrites c.store (received.flatMap (ReceivedLine.writes receiptId)) c'.store := by
  induction rest generalizing c with
  | nil =>
    obtain rfl := foldlM_nil_eq_ok.mp h
    exact ⟨[], rfl, by simp, .done⟩
  | cons item rest ih =>
    obtain ⟨c₁, hturn, hrest⟩ := foldlM_cons_eq_ok.mp h
    obtain ⟨hc₁, hcommitments, r, rfl, hbefore, hwrites⟩ := receiveLine_writes hc hturn
    obtain ⟨received, rfl, hall, hwrites'⟩ := ih hc₁ (hcommitments ▸ hreceivable.tail) hrest
    have htransfers : c₁.store.documents.transfers = c.store.documents.transfers :=
      (congrArg Commitments.transfers hcommitments :)
    have hfirst : Receivable transferId r.before [r.item] := by
      have hmem : [r.item] ⊆ r.item :: received.map ReceivedLine.item := by simp
      exact hreceivable.of_subset hmem (nodup_singleton _)
        fun i hi ↦ hbefore ▸ hreceivable.current i (hmem hi)
    refine ⟨r :: received, rfl, fun r' hr' ↦ ?_, hwrites.trans hwrites'⟩
    rcases mem_cons.mp hr' with rfl | hr'
    · exact ⟨hfirst, by rw [hbefore]⟩
    · exact ⟨(hall r' hr').1, (hall r' hr').2.trans htransfers⟩

theorem readCached_foldlM {balances' : BalanceCache}
    (hread : Cached.Coherent { store := s, balances := balances })
    (h : keys.foldlM (readCached s) balances = .ok balances') :
    Cached.Coherent { store := s, balances := balances' } := by
  refine foldlM_invariant (P := fun b ↦ Cached.Coherent { store := s, balances := b })
    (fun key _ b b' hb hturn ↦ ?_) hread h
  simp only [readCached, eq_ok] at hturn
  obtain ⟨row, hrow, rfl⟩ := hturn
  exact coherent_update hrow fun k _ ↦ hb k

theorem mem_lineRows {c : Commitments} {l : TransferLine} :
    l ∈ lineRows c transferId ↔ l ∈ c.transferLines.rows ∧ l.transferId = transferId := by
  rw [lineRows, mem_orderBy, mem_filter, decide_eq_true_eq]

theorem requestLine_eq_ok (h : requestLine s transferId line = .ok item) :
    item.transferLine.id = line.transferLineId ∧ item.received = line.receivedQuantity ∧
      item.discrepancy = line.discrepancyQuantity ∧
      s.documents.transferLines.find? item.transferLine.id = some item.transferLine ∧
      item.transferLine.transferId = transferId ∧ item.processed ≤ item.transferLine.pending := by
  simp only [requestLine, eq_ok] at h
  obtain ⟨transferLine, hfind, -, -, -, hpending, rfl⟩ := h
  obtain ⟨hmem, htransfer⟩ := mem_lineRows.mp (mem_of_find?_eq_some hfind)
  have hid : transferLine.id = line.transferLineId := by
    simpa using find?_some hfind
  exact ⟨hid, rfl, rfl, Table.find?_key_of_mem hmem, htransfer, hpending⟩

theorem normalizeReceiptLine_eq_ok {line' : TransferReceiptLine}
    (h : normalizeReceiptLine s transferId line = .ok line') :
    line'.transferLineId = line.transferLineId ∧ 0 ≤ line'.receivedQuantity ∧
      0 ≤ line'.discrepancyQuantity := by
  simp only [normalizeReceiptLine, eq_ok] at h
  obtain ⟨transferLine, -, -, -, product, -, received, hreceived, discrepancy, hdiscrepancy, rfl⟩ :=
    h
  exact ⟨rfl, normalizeProductQuantity_nonneg hreceived,
    normalizeProductQuantity_nonneg hdiscrepancy⟩

theorem normalizeReceiptLines_eq_ok {lines' : List TransferReceiptLine}
    (h : lines.mapM (normalizeReceiptLine s transferId) = .ok lines') :
    lines'.map TransferReceiptLine.transferLineId = lines.map TransferReceiptLine.transferLineId ∧
      ∀ l ∈ lines', 0 ≤ l.receivedQuantity ∧ 0 ≤ l.discrepancyQuantity := by
  refine ⟨map_mapM (fun _ _ hline ↦ (normalizeReceiptLine_eq_ok hline).1) h, fun l hl ↦ ?_⟩
  obtain ⟨_, -, hline⟩ := exists_of_mem_mapM h hl
  exact (normalizeReceiptLine_eq_ok hline).2

theorem ReceivedLine.commit_of_mem_writes {r : ReceivedLine} {before after : Commitments}
    (h : StockWrite.commit before after ∈ r.writes receiptId) :
    before = r.before ∧ after = r.item.receivedFrom r.before := by
  simp only [writes, mem_append, mem_cons, not_mem_nil, or_false, reduceCtorEq,
    false_or, StockWrite.commit.injEq] at h
  rcases h with (h | h) | h
  · exact h
  · split at h <;> simp at h
  · split at h <;> simp at h

theorem receivable_of_requested {requested : List RequestedLine}
    (hnodup : (lines.map TransferReceiptLine.transferLineId).Nodup)
    (hnonneg : ∀ l ∈ lines, 0 ≤ l.receivedQuantity ∧ 0 ≤ l.discrepancyQuantity)
    (h : lines.mapM (requestLine s transferId) = .ok requested) :
    Receivable transferId s.documents.toCommitments requested := by
  have hids : (requested.map fun item ↦ item.transferLine.id) =
      lines.map TransferReceiptLine.transferLineId :=
    map_mapM (fun _ _ hitem ↦ (requestLine_eq_ok hitem).1) h
  refine ⟨hids ▸ hnodup, fun item hitem ↦ ?_, fun item hitem ↦ ?_, fun item hitem ↦ ?_,
    fun item hitem ↦ ?_, fun item hitem ↦ ?_⟩
  all_goals
    obtain ⟨line, hline, hrequest⟩ := exists_of_mem_mapM h hitem
    obtain ⟨-, hreceived, hdiscrepancy, hfind, htransfer, hpending⟩ := requestLine_eq_ok hrequest
  · exact hfind
  · exact htransfer
  · exact hreceived ▸ (hnonneg line hline).1
  · exact hdiscrepancy ▸ (hnonneg line hline).2
  · exact hpending

/-- **What receiving does**: nothing when the request is known, else it settles every line of it. -/
theorem receive_writes {input : ReceiveInput} (h : receive s input = .ok r) : r.store = s ∨
      ∃ (header : Transfer) (receiptId : Uuid) (received : List ReceivedLine)
          (last : Commitments),
        s.documents.transfers.find? input.transferId = some header ∧
        (header.status = .DISPATCHED ∨ header.status = .PARTIALLY_RECEIVED) ∧
        (∀ r ∈ received, Receivable input.transferId r.before [r.item] ∧
          r.before.transfers = s.documents.transfers) ∧
        last.transfers = s.documents.transfers ∧
        StockWrites s (received.flatMap (ReceivedLine.writes receiptId) ++
          [.commit last (withStatus last input.transferId
            (receivedStatus last input.transferId))]) r.store := by
  simp only [receive, eq_ok] at h
  obtain ⟨-, hnodup, _, -, lines, hlines, -, -, -, -, h⟩ := h
  rcases onDuplicate_eq_ok h with h | h
  · split at h
    · simp only [replayReceipt, eq_ok] at h
      obtain ⟨-, -, transfer, -, -, -, rfl⟩ := h
      exact .inl rfl
    · simp only [receiveNew, insertReceipt, eq_ok] at h
      obtain ⟨header, hheader, -, -, -, hstatus, requested, hrequested, balances, hread, _,
        ⟨-, -, receipts, -, rfl⟩, c, hloop, rfl⟩ := h
      have hnormal := normalizeReceiptLines_eq_ok hlines
      have hreceivable := receivable_of_requested (hnormal.1 ▸ hnodup) hnormal.2 hrequested
      have hcoherent : Cached.Coherent { store := s, balances := balances } :=
        readCached_foldlM (fun _ _ hb ↦ by cases hb) hread
      obtain ⟨received, -, hall, hwrites⟩ := receiveLine_foldlM
        (hcoherent.of_balances_eq (s := { s with documents := { s.documents with
          transferReceipts := receipts } }) rfl) hreceivable hloop
      have hstart := (StockWrites.done (s := s)).document (.documents s
        { s.documents with transferReceipts := receipts } rfl)
      have htransfers : c.store.documents.transfers = s.documents.transfers := by
        refine (hwrites.commitments_induct
          (P := fun k ↦ k.transfers = s.documents.transfers) rfl fun before after hmem hP ↦ ?_)
        obtain ⟨r, hr, hmem⟩ := mem_flatMap.mp hmem
        obtain ⟨rfl, rfl⟩ := r.commit_of_mem_writes hmem
        exact hP
      exact .inr ⟨header, _, received, c.store.documents.toCommitments, hheader, hstatus,
        fun r hr ↦ hall r hr, htransfers, (hstart.trans hwrites).commit _⟩
  · simp only [eq_ok] at h
    obtain ⟨existing, -, -, -, rfl⟩ := h
    exact .inl rfl

/-- **Cancelling** marks a draft, or does nothing. -/
theorem cancel_writes {input : CancelInput} (h : cancel s input = .ok s') :
    s' = s ∨ ∃ header, s.documents.transfers.find? input.transferId = some header ∧
      header.status = .DRAFT ∧ StockWrites s [.commit s.documents.toCommitments
        (withStatus s.documents.toCommitments input.transferId .CANCELLED)] s' := by
  simp only [cancel, eq_ok] at h
  obtain ⟨header, hheader, -, -, -, -, h⟩ := h
  split at h
  case isTrue hdraft =>
    obtain rfl := pure_eq_ok.mp h
    exact .inr ⟨header, hheader, hdraft, (StockWrites.done (s := s)).commit _⟩
  case isFalse => exact .inl (pure_eq_ok.mp h).symm

end Transfers

end UInventario
