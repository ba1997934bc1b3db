import UInventario.Procurement.System

/-!
# Returns to the supplier

`create` takes quantities of the lines of a receipt out of stock again and records what the supplier
owes for them. The quantities are normalised before the transaction, by the policies of the products
as they are then, and the key is looked up (`readReturn`); everything else happens under the lock of
the receipt's row (`returnLocked`).

Every line is priced on its own, rounded to a cent (`lineCost`), as the line of the receipt was. The
tables of the returns stand beside those of procurement; what the inventory reads of a line stands
in its own store, under the same identifier.
-/

namespace UInventario.Procurement

open Outcome LockedRuns

/-! ### Rows -/

structure ReturnedLine where
  purchaseReceiptLineId : Uuid
  returnedQuantity : ℤ
  serialNumbers : List Text
  deriving DecidableEq

/-- The payload of the `request_fingerprint` of a return. -/
structure ReturnFingerprint where
  (orderId purchaseReceiptId : Uuid)
  (documentReference reason : Text)
  lines : List ReturnedLine
  deriving DecidableEq

structure PurchaseReturn where
  (id purchaseOrderId purchaseReceiptId locationId : Uuid)
  (documentReference reason : Text)
  expectedCreditTotal : ℤ
  idempotencyKey : Text
  requestFingerprint : ReturnFingerprint

instance : Keyed PurchaseReturn Uuid := ⟨PurchaseReturn.id⟩

structure ReturnLine where
  (id purchaseReturnId purchaseReceiptLineId productId : Uuid)
  lineNumber : ℕ
  (returnedQuantity unitCost totalCost : ℤ)

instance : Keyed ReturnLine Uuid := ⟨ReturnLine.id⟩

/-- **The store of procurement with its returns.** -/
structure ReturnStore extends Store where
  returns : Table PurchaseReturn
  returnLines : Table ReturnLine

def ReturnStore.fresh (env : Env) (catalog : Catalog) (stock : UInventario.Store) :
    ReturnStore where
  toStore := Store.fresh env catalog stock
  returns := Table.empty
  returnLines := Table.empty

inductive ReturnFailure
  | invalidPurchaseReturn | purchaseReturnQuantity | purchaseReturnStock
  | procurement (failure : Failure)
  deriving DecidableEq

def ReturnFailure.ofInventory (failure : UInventario.Failure) : ReturnFailure :=
  .procurement (.ofInventory failure)

variable (s : ReturnStore)

namespace ReturnStore

def randomUUID : Uuid × ReturnStore :=
  (s.env.uuid s.drawn, { s with drawn := s.drawn + 1 })

/-- `SUM(returned_quantity)` of a line of a receipt. -/
def returnedOn (lineId : Uuid) : ℤ :=
  s.returnLines.total fun l ↦ if l.purchaseReceiptLineId = lineId then l.returnedQuantity else 0

end ReturnStore

/-! ### Requests -/

/-- `ReturnPurchaseReceiptLineDto`. -/
structure ReturnLineInput where
  purchaseReceiptLineId : Uuid
  returnedQuantity : ℤ
  serialNumbers : Option (List Text)

/-- `ReturnPurchaseReceiptDto` with order, warehouse and key; `ArrayMinSize(1)` is a field. -/
structure ReturnInput where
  (orderId warehouseId : Uuid)
  idempotencyKey : Text
  purchaseReceiptId : Uuid
  (documentReference reason : Text)
  lines : List ReturnLineInput
  lines_ne : lines ≠ []

/-- A row of `quantityPolicies`: the policy of the product of a line of the receipt. -/
def Store.returnPolicy (s : Store) (receiptId lineId : Uuid) : Option QuantityPolicy := do
  let line ← (s.receiptLines.find? lineId).filter fun line ↦ line.receiptId = receiptId
  let orderLine ← s.lines.find? line.purchaseOrderLineId
  let product ← s.stock.products.find? orderLine.productId
  some product.quantityPolicy

def readReturnLine (receiptId : Uuid) (line : ReturnLineInput) :
    Except ReturnFailure ReturnedLine := do
  let policy ← demand (s.returnPolicy receiptId line.purchaseReceiptLineId) .invalidPurchaseReturn
  let quantity ← (normalizeProductQuantity line.returnedQuantity policy).mapError .ofInventory
  pure {
    purchaseReceiptLineId := line.purchaseReceiptLineId, returnedQuantity := quantity,
    serialNumbers := line.serialNumbers.getD [] }

/-- The fingerprint of a return, its lines in the order of their identifiers. -/
def ReturnInput.fingerprint (input : ReturnInput) (lines : List ReturnedLine) :
    ReturnFingerprint where
  orderId := input.orderId
  purchaseReceiptId := input.purchaseReceiptId
  documentReference := input.documentReference
  reason := input.reason
  lines := orderBy (fun a b ↦ a.purchaseReceiptLineId ≤ b.purchaseReceiptLineId) lines

/-- `findByKey`: the return of the key, with the warehouse of its location. -/
def ReturnStore.returnByKey (idempotencyKey : Text) :
    Option (PurchaseReturn × Uuid) := do
  let row ← s.returns.rows.find? fun r ↦ r.idempotencyKey = idempotencyKey
  let location ← s.stock.locations.find? row.locationId
  some (row, location.warehouseId)

/-- `replay`. -/
def replayReturn (existing : PurchaseReturn × Uuid) (input : ReturnInput)
    (fingerprint : ReturnFingerprint) : Except ReturnFailure Unit :=
  ensure (existing.1.purchaseOrderId = input.orderId ∧
    existing.1.purchaseReceiptId = input.purchaseReceiptId ∧ existing.2 = input.warehouseId ∧
    existing.1.requestFingerprint = fingerprint) (.procurement .purchaseOrderIdempotencyConflict)

def findReturnRequest (input : ReturnInput) (fingerprint : ReturnFingerprint) :
    Except ReturnFailure Bool :=
  match s.returnByKey input.idempotencyKey with
  | none => pure false
  | some existing => do
    replayReturn existing input fingerprint
    pure true

/-- What `create` does before it locks the receipt: the lines, unless it is a replay. -/
def readReturn (input : ReturnInput) :
    Except ReturnFailure (Option (List ReturnedLine)) := do
  ensure (input.lines.map ReturnLineInput.purchaseReceiptLineId).Nodup .invalidPurchaseReturn
  let lines ← input.lines.mapM (readReturnLine s input.purchaseReceiptId)
  let replayed ← findReturnRequest s input (input.fingerprint lines)
  pure (if replayed = true then none else some lines)

/-! ### The lines to return -/

def lineCost (quantity unitCost : ℤ) : ℤ :=
  (quantity * unitCost + 500) / 1000

/-- An element of `requested`. -/
structure RequestedReturn where
  receiptLine : ReceiptLine
  productId : Uuid
  (returned totalCost : ℤ)
  serialNumbers : List Text

/-- One line of the request, held against what the receipt line has left. -/
def requestReturn (receiptId : Uuid) (line : ReturnedLine) :
    Except ReturnFailure RequestedReturn := do
  let receiptLine ← demand ((s.receiptLines.find? line.purchaseReceiptLineId).filter fun l ↦
    l.receiptId = receiptId) .invalidPurchaseReturn
  let orderLine ← demand (s.lines.find? receiptLine.purchaseOrderLineId) .invalidPurchaseReturn
  ensure (0 < line.returnedQuantity ∧
    s.returnedOn receiptLine.id + line.returnedQuantity ≤ receiptLine.receivedQuantity)
    .purchaseReturnQuantity
  pure {
    receiptLine := receiptLine, productId := orderLine.productId, returned := line.returnedQuantity,
    totalCost := lineCost line.returnedQuantity receiptLine.unitCost,
    serialNumbers := line.serialNumbers }

/-! ### Writing a return -/

/-- `CHAR_LENGTH`: a pair of surrogates is one character. -/
def charLength (text : Text) : ℕ :=
  text.countP fun unit ↦ ¬(0xDC00 ≤ unit ∧ unit < 0xE000)

/-- `INSERT INTO purchase_returns`, with the checks and keys of the table. -/
def insertReturn (row : PurchaseReturn) : Except ReturnFailure ReturnStore := do
  ensure (0 < row.expectedCreditTotal ∧ 3 ≤ charLength row.reason) (.procurement .checkViolation)
  ensure (∀ r ∈ s.returns.rows, r.idempotencyKey ≠ row.idempotencyKey)
    (.procurement .duplicateEntry)
  let returns ← demand (s.returns.insert row) (.procurement .duplicateEntry)
  pure { s with returns := returns }

/-- `INSERT INTO purchase_return_lines`, with the checks and keys of the table. -/
def insertReturnLine (line : ReturnLine) : Except ReturnFailure ReturnStore := do
  ensure (0 < line.lineNumber ∧ 0 < line.returnedQuantity ∧ 0 < line.unitCost ∧ 0 < line.totalCost)
    (.procurement .checkViolation)
  ensure (∀ l ∈ s.returnLines.rows, l.purchaseReturnId = line.purchaseReturnId →
    l.lineNumber ≠ line.lineNumber ∧ l.purchaseReceiptLineId ≠ line.purchaseReceiptLineId)
    (.procurement .duplicateEntry)
  let returnLines ← demand (s.returnLines.insert line) (.procurement .duplicateEntry)
  pure { s with returnLines := returnLines }

/-- What the loop of `create` is run with. -/
structure ReturnContext where
  (returnId locationId : Uuid)

def ReturnContext.movement (context : ReturnContext) (item : RequestedReturn) (lineNumber : ℕ)
    (id : Uuid) (resultingQuantity : ℤ) : NewMovement where
  productId := item.productId
  locationId := context.locationId
  type := .SUPPLIER_RETURN
  quantityChange := -item.returned
  resultingQuantity := resultingQuantity
  idempotencyKey := .supplierReturn context.returnId lineNumber
  purchaseReturnLineId := some id

/-- The balance gives the quantity; the new total is returned with the stock. -/
def takeReturned (stock : UInventario.Store) (context : ReturnContext) (item : RequestedReturn) :
    Except ReturnFailure (UInventario.Store × ℤ) := do
  let balance ← demand (stock.balance? item.productId context.locationId) .purchaseReturnStock
  ensure (item.returned ≤ balance.quantity ∧ item.returned ≤ balance.available)
    .purchaseReturnStock
  let resultingQuantity := balance.quantity - item.returned
  let stock ← (updateBalance stock { balance with
    quantity := resultingQuantity
    available := balance.available - item.returned }).mapError .ofInventory
  pure (stock, resultingQuantity)

/-- The row the inventory reads, and the movement with its valuation, lots and serial numbers. -/
def postReturn (stock : UInventario.Store) (context : ReturnContext) (item : RequestedReturn)
    (lineNumber : ℕ) (id : Uuid) (resultingQuantity : ℤ) :
    Except UInventario.Failure UInventario.Store := do
  let lines ← demand (stock.purchaseReturnLines.insert {
    id := id, purchaseReceiptLineId := item.receiptLine.id, returnedQuantity := item.returned,
    lotId := none }) .duplicateEntry
  postMovement { stock with purchaseReturnLines := lines }
    (context.movement item lineNumber id resultingQuantity)
    { lots := some {}, serials := some { serialNumbers := some item.serialNumbers } }

def ReturnContext.returnLine (context : ReturnContext) (item : RequestedReturn) (lineNumber : ℕ)
    (id : Uuid) : ReturnLine where
  id := id
  purchaseReturnId := context.returnId
  purchaseReceiptLineId := item.receiptLine.id
  productId := item.productId
  lineNumber := lineNumber
  returnedQuantity := item.returned
  unitCost := item.receiptLine.unitCost
  totalCost := item.totalCost

/-- One turn of the loop of `create`. -/
def returnItem (context : ReturnContext) (s : ReturnStore) (entry : RequestedReturn × ℕ) :
    Except ReturnFailure ReturnStore := do
  let item := entry.1
  let lineNumber := entry.2 + 1
  let (id, s) := s.randomUUID
  let (stock, resultingQuantity) ← takeReturned s.stock context item
  let s ← insertReturnLine { s with stock := stock } (context.returnLine item lineNumber id)
  let stock ← (postReturn s.stock context item lineNumber id resultingQuantity).mapError
    .ofInventory
  pure { s with stock := stock }

/-! ### The transaction -/

def ReturnStore.receiptOf (input : ReturnInput) : Option Receipt :=
  (s.receipts.find? input.purchaseReceiptId).filter fun receipt ↦
    receipt.purchaseOrderId = input.orderId ∧ (s.orders.find? receipt.purchaseOrderId).isSome ∧
      (s.stock.locations.find? receipt.locationId).any fun location ↦
        location.warehouseId = input.warehouseId ∧ location.active = true

/-- `create`, from the second look at the key on, when the key is new. -/
def returnNew (input : ReturnInput) (receipt : Receipt)
    (lines : List ReturnedLine) : Except ReturnFailure ReturnStore := do
  let requested ← lines.mapM (requestReturn s input.purchaseReceiptId)
  let (returnId, s) := s.randomUUID
  let s ← insertReturn s {
    id := returnId, purchaseOrderId := input.orderId, purchaseReceiptId := input.purchaseReceiptId,
    locationId := receipt.locationId, documentReference := input.documentReference,
    reason := input.reason, expectedCreditTotal := (requested.map RequestedReturn.totalCost).sum,
    idempotencyKey := input.idempotencyKey, requestFingerprint := input.fingerprint lines }
  requested.zipIdx.foldlM (returnItem { returnId := returnId, locationId := receipt.locationId }) s

/-- The transaction of `create`. -/
def returnLocked (input : ReturnInput) (lines : List ReturnedLine) :
    Except ReturnFailure ReturnStore := do
  let receipt ← demand (s.receiptOf input) .invalidPurchaseReturn
  let replayed ← findReturnRequest s input (input.fingerprint lines)
  if replayed = true then pure s else returnNew s input receipt lines

/-- `create`: a duplicate key is answered by the replay, if there is one. -/
def returnToSupplier (input : ReturnInput) (lines : List ReturnedLine) :
    Except ReturnFailure ReturnStore :=
  match returnLocked s input lines with
  | .ok s' => .ok s'
  | .error e =>
    if e = .procurement .duplicateEntry then do
      let replayed ← findReturnRequest s input (input.fingerprint lines)
      if replayed = true then pure s else .error e
    else .error e

/-! ### The system -/

inductive ReturnRequest
  | procurement (request : Request)
  | returnToSupplier (input : ReturnInput)

/-- What is known when the transaction begins; a return that is a replay has no lines. -/
inductive ReturnDecision
  | procurement (decision : Decision)
  | lines (lines : Option (List ReturnedLine))

inductive LockedRow
  | order (id : Uuid)
  | receipt (id : Uuid)
  deriving DecidableEq

namespace ReturnRequest

def read (request : ReturnRequest) (s : ReturnStore) : Except ReturnFailure ReturnDecision :=
  match request with
  | .procurement request => do
    let decision ← (request.read s.toStore).mapError .procurement
    pure (.procurement decision)
  | .returnToSupplier input => do
    let lines ← readReturn s input
    pure (.lines lines)

def needs (request : ReturnRequest) (decision : ReturnDecision) (s : ReturnStore) :
    List LockedRow :=
  match request, decision with
  | .procurement request, .procurement decision =>
    (request.needs decision s.toStore).map .order
  | .returnToSupplier input, .lines (some _) =>
    [.receipt input.purchaseReceiptId, .order input.orderId]
  | _, _ => []

def write (request : ReturnRequest) (decision : ReturnDecision) (s : ReturnStore) :
    Except ReturnFailure ReturnStore :=
  match request, decision with
  | .procurement request, .procurement decision => do
    let store ← (request.write decision s.toStore).mapError .procurement
    pure { s with toStore := store }
  | .returnToSupplier input, .lines (some lines) => Procurement.returnToSupplier s input lines
  -- a replay has its answer and writes nothing
  | _, _ => pure s

end ReturnRequest

/-- **Procurement with its returns.** -/
def returnProtocol : Protocol ReturnStore ReturnRequest ReturnDecision LockedRow ReturnFailure where
  holds := fun _ ↦ []
  read := ReturnRequest.read
  needs := ReturnRequest.needs
  write := ReturnRequest.write

end UInventario.Procurement
