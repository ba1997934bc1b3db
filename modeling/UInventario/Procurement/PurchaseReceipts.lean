import UInventario.Inventory.Balances
import UInventario.Inventory.Journal
import UInventario.Procurement.PurchaseOrders

/-!
# Receipts of purchase orders

`receive` books what has arrived on the lines of an order. The quantities are normalised before the
transaction (`readReceipt`); the rest happens under the lock of the order's row (`receiveLocked`).

What a receipt brings beyond the quantity still pending on a line is its overage, which needs a
permission and a reason. The status of the order is read off its lines, and only a new status leaves
a transition.
-/

namespace UInventario.Procurement

open Outcome

/-! ### Requests -/

/-- `ReceivePurchaseOrderLineDto`. -/
structure ReceiptLineInput where
  purchaseOrderLineId : Uuid
  receivedQuantity : ℤ
  lotCode : Option Text
  (manufacturedOn expiresOn : Option Day)
  serialNumbers : Option (List Text)

/-- `ReceivePurchaseOrderDto` with order, warehouse and key; `ArrayMinSize(1)` is a field. -/
structure ReceiptInput where
  (orderId warehouseId : Uuid)
  allowOverage : Bool
  idempotencyKey : Text
  version : ℕ
  locationId : Uuid
  documentReference : Text
  overageReason : Option Text
  lines : List ReceiptLineInput
  lines_ne : lines ≠ []

/-- A row of `quantityPolicies`: the policy of the product of a line of the order. -/
def Store.linePolicy (s : Store) (orderId lineId : Uuid) : Option QuantityPolicy := do
  let line ← (s.lines.find? lineId).filter fun line ↦ line.purchaseOrderId = orderId
  let product ← s.stock.products.find? line.productId
  some product.quantityPolicy

def readReceiptLine (s : Store) (orderId : Uuid) (line : ReceiptLineInput) :
    Except Failure ReceivedLine := do
  let policy ← demand (s.linePolicy orderId line.purchaseOrderLineId) .invalidPurchaseReceipt
  let quantity ← (normalizeProductQuantity line.receivedQuantity policy).mapError .ofInventory
  pure {
    purchaseOrderLineId := line.purchaseOrderLineId, receivedQuantity := quantity,
    lotCode := line.lotCode, manufacturedOn := line.manufacturedOn, expiresOn := line.expiresOn,
    serialNumbers := line.serialNumbers.getD [] }

/-- What `receive` does before its transaction. -/
def readReceipt (s : Store) (input : ReceiptInput) : Except Failure (List ReceivedLine) := do
  ensure (input.lines.map ReceiptLineInput.purchaseOrderLineId).Nodup .invalidPurchaseReceipt
  input.lines.mapM (readReceiptLine s input.orderId)

/-- The fingerprint of a receipt, its lines in the order of their identifiers. -/
def ReceiptInput.fingerprint (input : ReceiptInput) (lines : List ReceivedLine) : Fingerprint :=
  .receipt input.orderId input.version input.locationId input.documentReference input.overageReason
    (orderBy (fun a b ↦ a.purchaseOrderLineId ≤ b.purchaseOrderLineId) lines)

/-! ### Replays -/

/-- `findByKey`: the receipt of the key, with the warehouse of its location. -/
def Store.receiptByKey (s : Store) (idempotencyKey : Text) : Option (Receipt × Uuid) := do
  let receipt ← s.receipts.rows.find? fun r ↦ r.idempotencyKey = idempotencyKey
  let location ← s.stock.locations.find? receipt.locationId
  some (receipt, location.warehouseId)

/-- `replay`. -/
def replayReceipt (existing : Receipt × Uuid) (input : ReceiptInput) (fingerprint : Fingerprint) :
    Except Failure Unit :=
  ensure (existing.1.purchaseOrderId = input.orderId ∧ existing.2 = input.warehouseId ∧
    existing.1.requestFingerprint = fingerprint) .purchaseOrderIdempotencyConflict

def findReceiptRequest (s : Store) (input : ReceiptInput) (fingerprint : Fingerprint) :
    Except Failure Bool :=
  match s.receiptByKey input.idempotencyKey with
  | none => pure false
  | some existing => do
    replayReceipt existing input fingerprint
    pure true

/-! ### Overage -/

structure RequestedLine where
  orderLine : PurchaseOrderLine
  (received overage : ℤ)
  lotCode : Option Text
  (manufacturedOn expiresOn : Option Day)
  serialNumbers : List Text

def pendingQuantity (ordered accumulated : ℤ) : ℤ :=
  if ordered > accumulated then ordered - accumulated else 0

def overageQuantity (received pending : ℤ) : ℤ :=
  if received > pending then received - pending else 0

/-- One element of `requested`. -/
def requestLine (s : Store) (orderId : Uuid) (line : ReceivedLine) :
    Except Failure RequestedLine := do
  let orderLine ← demand ((s.lines.find? line.purchaseOrderLineId).filter fun l ↦
    l.purchaseOrderId = orderId) .invalidPurchaseReceipt
  ensure (0 < line.receivedQuantity) .invalidPurchaseReceipt
  pure {
    orderLine := orderLine
    received := line.receivedQuantity
    overage := overageQuantity line.receivedQuantity
      (pendingQuantity orderLine.quantity orderLine.receivedQuantity)
    lotCode := line.lotCode
    manufacturedOn := line.manufacturedOn
    expiresOn := line.expiresOn
    serialNumbers := line.serialNumbers }

def hasOverage (requested : List RequestedLine) : Bool :=
  requested.any fun item ↦ 0 < item.overage

def assertOverage (input : ReceiptInput) (requested : List RequestedLine) :
    Except Failure Unit := do
  ensure (hasOverage requested = true → input.allowOverage = true) .purchaseReceiptOveragePermission
  ensure (hasOverage requested = true → input.overageReason.any fun reason ↦ reason ≠ [])
    .purchaseReceiptOverageReason

/-! ### Rows -/

/-- `INSERT INTO purchase_receipts`. -/
def insertReceipt (s : Store) (receipt : Receipt) : Except Failure Store := do
  ensure (∀ r ∈ s.receipts.rows, r.idempotencyKey ≠ receipt.idempotencyKey) .duplicateEntry
  let receipts ← demand (s.receipts.insert receipt) .duplicateEntry
  pure { s with receipts := receipts }

/-- `INSERT INTO purchase_receipt_lines`, with the checks and keys of the table. -/
def insertReceiptLine (s : Store) (line : ReceiptLine) : Except Failure Store := do
  ensure (0 < line.lineNumber ∧ 0 < line.receivedQuantity ∧ 0 ≤ line.overageQuantity ∧
    line.overageQuantity ≤ line.receivedQuantity) .checkViolation
  ensure (∀ l ∈ s.receiptLines.rows, l.receiptId = line.receiptId →
    l.lineNumber ≠ line.lineNumber ∧ l.purchaseOrderLineId ≠ line.purchaseOrderLineId)
    .duplicateEntry
  let receiptLines ← demand (s.receiptLines.insert line) .duplicateEntry
  pure { s with receiptLines := receiptLines }

def receiptCost (quantity unitCost : ℤ) : ℤ :=
  (quantity * unitCost + 500) / 1000

/-- What the loop of `receive` is run with. -/
structure ReceiptContext where
  (receiptId locationId : Uuid)
  currency : Currency

def ReceiptContext.inventoryLine (context : ReceiptContext) (item : RequestedLine) (id : Uuid) :
    PurchaseReceiptLine where
  id := id
  receiptId := context.receiptId
  productId := item.orderLine.productId
  receivedQuantity := item.received
  unitCost := item.orderLine.unitCost * 100
  currency := context.currency
  lotCode := item.lotCode
  manufacturedOn := item.manufacturedOn
  expiresOn := item.expiresOn
  lotId := none

def ReceiptContext.movement (context : ReceiptContext) (item : RequestedLine) (lineNumber : ℕ)
    (id : Uuid) (resultingQuantity : ℤ) : NewMovement where
  productId := item.orderLine.productId
  locationId := context.locationId
  type := .PURCHASE_RECEIPT
  quantityChange := item.received
  resultingQuantity := resultingQuantity
  idempotencyKey := .purchaseReceipt context.receiptId lineNumber
  purchaseReceiptLineId := some id

/-- The balance takes the quantity; the new total is returned with the stock. -/
def receiveBalance (stock : UInventario.Store) (context : ReceiptContext) (item : RequestedLine) :
    Except UInventario.Failure (UInventario.Store × ℤ) := do
  let stock := ensureBalance stock item.orderLine.productId context.locationId
  let balance ← demand (stock.balance? item.orderLine.productId context.locationId) .typeError
  let resultingQuantity := balance.quantity + item.received
  let stock ← updateBalance stock { balance with
    quantity := resultingQuantity, available := balance.available + item.received }
  pure (stock, resultingQuantity)

/-- The row the inventory reads, and the movement with its valuation, lots and serial numbers. -/
def postReceipt (stock : UInventario.Store) (context : ReceiptContext) (item : RequestedLine)
    (lineNumber : ℕ) (id : Uuid) (resultingQuantity : ℤ) :
    Except UInventario.Failure UInventario.Store := do
  let lines ← demand (stock.purchaseReceiptLines.insert (context.inventoryLine item id))
    .duplicateEntry
  postMovement { stock with purchaseReceiptLines := lines }
    (context.movement item lineNumber id resultingQuantity)
    { lots := some {}, serials := some { serialNumbers := some item.serialNumbers } }

/-- What the product asks of a line: a lot, and a serial number for every unit. -/
def assertTracked (product : Product) (item : RequestedLine) : Except Failure Unit := do
  ensure (product.trackLots = true → item.lotCode.any fun code ↦ code ≠ []) .invalidPurchaseReceipt
  ensure (product.trackSerials = true → (item.serialNumbers.length : ℤ) * 1000 = item.received)
    .invalidPurchaseReceipt

/-- `products.cost`, in cents. -/
def catalogCents (product : Product) : ℤ :=
  product.cost / 100

/-- One turn of the loop of `receive`. -/
def receiveLine (context : ReceiptContext) (s : Store) (entry : RequestedLine × ℕ) :
    Except Failure Store := do
  let item := entry.1
  let lineNumber := entry.2 + 1
  let product ← demand ((s.stock.products.find? item.orderLine.productId).filter fun p ↦
    p.variantParent = false) .invalidPurchaseReceipt
  assertTracked product item
  let (id, s) := s.randomUUID
  let (stock, resultingQuantity) ← (receiveBalance s.stock context item).mapError .ofInventory
  let s ← insertReceiptLine { s with
      stock := stock
      lines := s.lines.update item.orderLine.id fun l ↦ { l with
        receivedQuantity := l.receivedQuantity + item.received } } {
    id := id, receiptId := context.receiptId, purchaseOrderLineId := item.orderLine.id,
    lineNumber := lineNumber, receivedQuantity := item.received, overageQuantity := item.overage,
    unitCost := item.orderLine.unitCost,
    totalCost := receiptCost item.received item.orderLine.unitCost,
    previousCatalogCost := catalogCents product, resultingCatalogCost := catalogCents product }
  let stock ← (postReceipt s.stock context item lineNumber id resultingQuantity).mapError
    .ofInventory
  pure { s with
    stock := stock
    receiptLines := s.receiptLines.update id fun l ↦ { l with
      resultingCatalogCost := ((stock.products.find? item.orderLine.productId).map
        catalogCents).getD l.resultingCatalogCost } }

/-! ### The transaction -/

def Store.progressStatus (s : Store) (orderId : Uuid) : PurchaseOrderStatus :=
  if (s.linesOf orderId).countP (fun line ↦ line.receivedQuantity < line.quantity) = 0 then
    .RECEIVED
  else .PARTIALLY_RECEIVED

/-- `'Recepción '`. -/
def RECEPCION : Text :=
  [82, 101, 99, 101, 112, 99, 105, 243, 110, 32]

/-- `receipt-${receiptId}`. -/
def receiptKey (env : Env) (receiptId : Uuid) : Text :=
  [114, 101, 99, 101, 105, 112, 116, 45] ++ env.uuidText receiptId

def insertProgress (s : Store) (input : ReceiptInput) (order : PurchaseOrder) (receiptId : Uuid)
    (status : PurchaseOrderStatus) (fingerprint : Fingerprint) : Except Failure Store :=
  if status ≠ order.status then
    let (id, s) := s.randomUUID
    insertTransition s {
      id := id, purchaseOrderId := input.orderId, fromStatus := order.status, toStatus := status,
      reason := some (RECEPCION ++ input.documentReference), delivery := none,
      idempotencyKey := receiptKey s.env receiptId, requestFingerprint := fingerprint }
  else pure s

/-- The end of `receive`: the status of the order, read off its lines. -/
def finishReceipt (s : Store) (input : ReceiptInput) (order : PurchaseOrder) (receiptId : Uuid)
    (fingerprint : Fingerprint) : Except Failure Store :=
  let status := s.progressStatus input.orderId
  insertProgress { s with orders := s.orders.update input.orderId fun o ↦ { o with
    status := status, version := o.version + 1 } } input order receiptId status fingerprint

/-- `receive`, from the lock of the order on, when its key is new. -/
def receiveNew (s : Store) (input : ReceiptInput) (lines : List ReceivedLine) :
    Except Failure Store := do
  let order ← demand (s.orders.find? input.orderId) .purchaseOrderNotFound
  ensure (order.version = input.version) (.purchaseOrderVersionConflict order.version)
  ensure (order.status ∈ [.APPROVED, .SENT, .PARTIALLY_RECEIVED, .RECEIVED])
    (.purchaseOrderState order.status)
  ensure ((s.stock.locations.find? input.locationId).any fun location ↦
    location.warehouseId = input.warehouseId ∧ location.active = true) .purchaseReceiptLocation
  let requested ← lines.mapM (requestLine s input.orderId)
  assertOverage input requested
  let (receiptId, s) := s.randomUUID
  let s ← insertReceipt s {
    id := receiptId
    purchaseOrderId := input.orderId
    locationId := input.locationId
    documentReference := input.documentReference
    overageReason := if hasOverage requested = true then input.overageReason else none
    idempotencyKey := input.idempotencyKey
    requestFingerprint := input.fingerprint lines }
  let s ← requested.zipIdx.foldlM (receiveLine {
    receiptId := receiptId, locationId := input.locationId, currency := order.currency }) s
  finishReceipt s input order receiptId (input.fingerprint lines)

/-- The transaction of `receive`. -/
def receiveLocked (s : Store) (input : ReceiptInput) (lines : List ReceivedLine) :
    Except Failure Store := do
  let replayed ← findReceiptRequest s input (input.fingerprint lines)
  if replayed = true then pure s else receiveNew s input lines

/-- `receive`, once the quantities are normalised. -/
def receive (s : Store) (input : ReceiptInput) (lines : List ReceivedLine) : Except Failure Store :=
  onRace s (receiveLocked s input lines) (findReceiptRequest s input (input.fingerprint lines))

end UInventario.Procurement
