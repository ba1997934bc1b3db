import UInventario.Inventory.QuantityPolicy
import UInventario.Procurement.Schema

/-!
# Purchase orders

An order is created as a draft, rewritten while it is one, and taken from status to status by
`approve`, `send` and `cancel`. A change of status names the version it was decided on; its key is
looked up before the transaction and, when the transaction has met a duplicate, a newer version or
another status, once more after it. Every operation locks the row of the order first, so the second
look inside the `UPDATE` is left out.
-/

namespace UInventario.Procurement

open Outcome

/-! ### Lines -/

/-- `PurchaseOrderLineDto`. -/
structure LineInput where
  supplierProductId : Uuid
  (quantity unitCost : ℤ)

/-- `SavePurchaseOrderDto`; `ArrayMinSize(1)` of the lines is a field. -/
structure SaveInput where
  supplierId : Uuid
  currency : Currency
  lines : List LineInput
  lines_ne : lines ≠ []

structure PersistedLine where
  (supplierProductId productId : Uuid)
  (quantity unitCost subtotal : ℤ)

/-- `lineSubtotal`: thousandths times cents, rounded to a cent. -/
def lineSubtotal (quantity unitCost : ℤ) : ℤ :=
  (quantity * unitCost + 500) / 1000

variable (s : Store)

/-- The product of an active entry of the supplier's list, when an order can contain it. -/
def Store.lineReference (supplierId supplierProductId : Uuid) :
    Option (SupplierProduct × Product) := do
  let entry ← s.catalog.supplierProducts.find? supplierProductId
  let product ← s.stock.products.find? entry.productId
  if entry.supplierId = supplierId ∧ entry.active = true ∧ product.active = true ∧
      product.variantParent = false ∧
      ¬(s.stock.documents.kits.find? product.id).any fun kit ↦ kit.stockMode = .DERIVED then
    some (entry, product)
  else none

/-- One line of `prepareLines`. -/
def prepareLine (dto : SaveInput) (line : LineInput) : Except Failure PersistedLine := do
  let (entry, product) ← demand (s.lineReference dto.supplierId line.supplierProductId)
    (.purchaseOrderReference .SUPPLIER_PRODUCT)
  ensure (entry.priceCurrency = some dto.currency) (.purchaseOrderReference .CURRENCY)
  let quantity ← (normalizeProductQuantity line.quantity product.quantityPolicy).mapError
    .ofInventory
  pure {
    supplierProductId := entry.id, productId := product.id, quantity := quantity,
    unitCost := line.unitCost, subtotal := lineSubtotal quantity line.unitCost }

def prepareLines (dto : SaveInput) : Except Failure (List PersistedLine) := do
  ensure ((s.catalog.suppliers.find? dto.supplierId).any Supplier.active = true)
    (.purchaseOrderReference .SUPPLIER)
  dto.lines.mapM (prepareLine s dto)

/-- `INSERT INTO purchase_order_lines`, with the checks and keys of the table. -/
def insertLine (line : PurchaseOrderLine) : Except Failure Store := do
  ensure (0 < line.position ∧ 0 < line.quantity ∧ 0 < line.unitCost ∧ 0 < line.subtotal ∧
    0 ≤ line.receivedQuantity) .checkViolation
  ensure (∀ l ∈ s.linesOf line.purchaseOrderId, l.position ≠ line.position ∧
    l.supplierProductId ≠ line.supplierProductId) .duplicateEntry
  let lines ← demand (s.lines.insert line) .duplicateEntry
  pure { s with lines := lines }

/-- One turn of `insertLines`. -/
def insertNewLine (orderId : Uuid) (s : Store) (entry : PersistedLine × ℕ) :
    Except Failure Store :=
  let (id, s) := s.randomUUID
  insertLine s {
    id := id, purchaseOrderId := orderId, supplierProductId := entry.1.supplierProductId,
    productId := entry.1.productId, position := entry.2 + 1, quantity := entry.1.quantity,
    receivedQuantity := 0, unitCost := entry.1.unitCost, subtotal := entry.1.subtotal }

def insertLines (orderId : Uuid) (lines : List PersistedLine) : Except Failure Store :=
  lines.zipIdx.foldlM (insertNewLine orderId) s

/-! ### Drafts -/

/-- `validate` of the service. -/
def validate (dto : SaveInput) : Except Failure Unit :=
  ensure (dto.lines.map LineInput.supplierProductId).Nodup .purchaseOrderDuplicateLine

def create (dto : SaveInput) : Except Failure Store := do
  validate dto
  let lines ← prepareLines s dto
  let (id, s) := s.randomUUID
  let orders ← demand (s.orders.insert {
    id := id, supplierId := dto.supplierId, currency := dto.currency, status := .DRAFT,
    version := 1, cancellationReason := none }) .duplicateEntry
  insertLines { s with orders := orders } id lines

/-- `DELETE FROM purchase_order_lines WHERE purchase_order_id = ?`. -/
def deleteLines (orderId : Uuid) : Except Failure Store := do
  ensure (∀ line ∈ s.linesOf orderId, ∀ l ∈ s.receiptLines.rows, l.purchaseOrderLineId ≠ line.id)
    .foreignKeyViolation
  pure { s with lines := s.lines.delete fun line ↦ line.purchaseOrderId = orderId }

def update (orderId : Uuid) (version : ℕ) (dto : SaveInput) : Except Failure Store := do
  validate dto
  let current ← demand (s.orders.find? orderId) .purchaseOrderNotFound
  ensure (current.version = version) (.purchaseOrderVersionConflict current.version)
  ensure (current.status = .DRAFT) (.purchaseOrderState current.status)
  let lines ← prepareLines s dto
  let s ← deleteLines { s with orders := s.orders.update orderId fun o ↦ { o with
    supplierId := dto.supplierId, currency := dto.currency, version := o.version + 1 } } orderId
  insertLines s orderId lines

/-! ### Changes of status -/

/-- What `transition` is called with. -/
structure TransitionInput where
  orderId : Uuid
  version : ℕ
  fromStatuses : List PurchaseOrderStatus
  toStatus : PurchaseOrderStatus
  reason : Option Text
  /-- The recipient of a delivery in mode `SIMULATED`. -/
  delivery : Option (Option Text)
  idempotencyKey : Text

/-- The fingerprint that `changeStatus` of the service computes. -/
def TransitionInput.fingerprint (input : TransitionInput) : Fingerprint :=
  .changeStatus input.orderId input.toStatus input.version input.reason

/-- `findTransitionRequest`: whether the transition has been made before. -/
def findTransitionRequest (input : TransitionInput) : Except Failure Bool :=
  match s.transitions.rows.find? fun t ↦ t.idempotencyKey = input.idempotencyKey with
  | none => pure false
  | some row => do
    ensure (row.purchaseOrderId = input.orderId ∧ row.toStatus = input.toStatus ∧
      row.requestFingerprint = input.fingerprint) .purchaseOrderIdempotencyConflict
    let _ ← demand (s.orders.find? input.orderId) .purchaseOrderIdempotencyConflict
    pure true

/-- `INSERT INTO purchase_order_transitions`, with the check and the key of the table. -/
def insertTransition (t : Transition) : Except Failure Store := do
  ensure (t.delivery.isSome ↔ t.toStatus = .SENT) .checkViolation
  ensure (∀ t' ∈ s.transitions.rows, t'.idempotencyKey ≠ t.idempotencyKey) .duplicateEntry
  let transitions ← demand (s.transitions.insert t) .duplicateEntry
  pure { s with transitions := transitions }

/-- The reason that `transitionMetadata` writes on the order. -/
def TransitionInput.cancellationReason (input : TransitionInput) (order : PurchaseOrder) :
    Option Text :=
  if input.toStatus = .CANCELLED then input.reason else order.cancellationReason

/-- The transaction of `transition`. -/
def transitionLocked (input : TransitionInput) : Except Failure Store := do
  let current ← demand (s.orders.find? input.orderId) .purchaseOrderNotFound
  ensure (current.version = input.version) (.purchaseOrderVersionConflict current.version)
  ensure (current.status ∈ input.fromStatuses) (.purchaseOrderState current.status)
  let (id, s) := s.randomUUID
  insertTransition { s with orders := s.orders.update input.orderId fun o ↦ { o with
      status := input.toStatus, version := o.version + 1,
      cancellationReason := input.cancellationReason o } } {
    id := id
    purchaseOrderId := input.orderId
    fromStatus := current.status
    toStatus := input.toStatus
    reason := input.reason
    delivery := input.delivery
    idempotencyKey := input.idempotencyKey
    requestFingerprint := input.fingerprint }

/-- `catch (error) { … }`: an error that another request may have caused is answered by the replay,
if there is one. -/
def onRace (transaction : Except Failure Store) (replay : Except Failure Bool) :
    Except Failure Store :=
  match transaction with
  | .ok s' => .ok s'
  | .error e =>
    if e.mayBeRaced = true then do
      let replayed ← replay
      if replayed = true then pure s else .error e
    else .error e

/-- `transition`, once its key has not been found. -/
def transition (input : TransitionInput) : Except Failure Store :=
  onRace s (transitionLocked s input) (findTransitionRequest s input)

structure ChangeInput where
  orderId : Uuid
  version : ℕ
  reason : Option Text
  idempotencyKey : Text

def ChangeInput.approve (input : ChangeInput) : TransitionInput where
  orderId := input.orderId
  version := input.version
  fromStatuses := [.DRAFT]
  toStatus := .APPROVED
  reason := input.reason
  delivery := none
  idempotencyKey := input.idempotencyKey

/-- `send`; it gives no reason. -/
def ChangeInput.send (input : ChangeInput) (recipient : Option Text) : TransitionInput where
  orderId := input.orderId
  version := input.version
  fromStatuses := [.APPROVED]
  toStatus := .SENT
  reason := none
  delivery := some recipient
  idempotencyKey := input.idempotencyKey

def ChangeInput.cancel (input : ChangeInput) : TransitionInput where
  orderId := input.orderId
  version := input.version
  fromStatuses := [.DRAFT, .APPROVED, .SENT]
  toStatus := .CANCELLED
  reason := input.reason
  delivery := none
  idempotencyKey := input.idempotencyKey

end UInventario.Procurement
