import UInventario.Inventory.Store

/-!
# The rows of procurement

The tables of purchase orders, of their status changes and of the receipts booked on them, of one
tenant, with the part of the catalogue that an order refers to.

* Quantities are thousandths and amounts of money cents; a unit cost is handed to the inventory
  multiplied by a hundred.
* What the inventory reads of a receipt line stands in its own store, under the same identifier.
* `randomUUID` draws from a stream, of which nothing is assumed; `drawn` counts the draws.
* A fingerprint is the payload whose hash the source keeps.
-/

namespace UInventario.Procurement

/-! ### Enumerations -/

inductive PurchaseOrderStatus
  | DRAFT | APPROVED | SENT | PARTIALLY_RECEIVED | RECEIVED | CANCELLED
  deriving DecidableEq

/-- What makes a `PurchaseOrderReferenceError`. -/
inductive Reference
  | SUPPLIER | SUPPLIER_PRODUCT | CURRENCY
  deriving DecidableEq

/-! ### The catalogue -/

structure Supplier where
  id : Uuid
  active : Bool

instance : Keyed Supplier Uuid := ⟨Supplier.id⟩

/-- A row of `supplier_products`, with the currency of its latest price. -/
structure SupplierProduct where
  (id supplierId productId : Uuid)
  active : Bool
  priceCurrency : Option Currency

instance : Keyed SupplierProduct Uuid := ⟨SupplierProduct.id⟩

structure Catalog where
  suppliers : Table Supplier
  supplierProducts : Table SupplierProduct

/-! ### Orders -/

structure PurchaseOrder where
  (id supplierId : Uuid)
  currency : Currency
  status : PurchaseOrderStatus
  version : ℕ
  cancellationReason : Option Text

instance : Keyed PurchaseOrder Uuid := ⟨PurchaseOrder.id⟩

structure PurchaseOrderLine where
  (id purchaseOrderId supplierProductId productId : Uuid)
  position : ℕ
  (quantity receivedQuantity unitCost subtotal : ℤ)

instance : Keyed PurchaseOrderLine Uuid := ⟨PurchaseOrderLine.id⟩

/-! ### Receipts -/

structure ReceivedLine where
  purchaseOrderLineId : Uuid
  receivedQuantity : ℤ
  lotCode : Option Text
  (manufacturedOn expiresOn : Option Day)
  serialNumbers : List Text
  deriving DecidableEq

/-- The payload of a `request_fingerprint`: a change of status, or a receipt. -/
inductive Fingerprint
  | changeStatus (orderId : Uuid) (toStatus : PurchaseOrderStatus) (version : ℕ)
      (reason : Option Text)
  | receipt (orderId : Uuid) (version : ℕ) (locationId : Uuid) (documentReference : Text)
      (overageReason : Option Text) (lines : List ReceivedLine)
  deriving DecidableEq

structure Transition where
  (id purchaseOrderId : Uuid)
  (fromStatus toStatus : PurchaseOrderStatus)
  reason : Option Text
  /-- `delivery_recipient`, of a delivery in mode `SIMULATED`. -/
  delivery : Option (Option Text)
  idempotencyKey : Text
  requestFingerprint : Fingerprint

instance : Keyed Transition Uuid := ⟨Transition.id⟩

structure Receipt where
  (id purchaseOrderId locationId : Uuid)
  documentReference : Text
  overageReason : Option Text
  idempotencyKey : Text
  requestFingerprint : Fingerprint

instance : Keyed Receipt Uuid := ⟨Receipt.id⟩

structure ReceiptLine where
  (id receiptId purchaseOrderLineId : Uuid)
  lineNumber : ℕ
  (receivedQuantity overageQuantity unitCost totalCost previousCatalogCost resultingCatalogCost : ℤ)

instance : Keyed ReceiptLine Uuid := ⟨ReceiptLine.id⟩

/-! ### Failures -/

/-- What a transaction throws: the failures of the database, the errors of the source, and those of
the inventory. -/
inductive Failure
  | duplicateEntry | checkViolation | foreignKeyViolation
  -- `purchase-order.errors.ts`
  | purchaseOrderReference (reference : Reference) | purchaseOrderDuplicateLine
  | purchaseOrderVersionConflict (currentVersion : ℕ)
  | purchaseOrderState (status : PurchaseOrderStatus)
  | purchaseOrderIdempotencyConflict | purchaseOrderNotFound | invalidPurchaseReceipt
  | purchaseReceiptLocation | purchaseReceiptOveragePermission | purchaseReceiptOverageReason
  | inventory (failure : UInventario.Failure)
  deriving DecidableEq

def Failure.ofInventory : UInventario.Failure → Failure
  | .duplicateEntry => .duplicateEntry
  | .checkViolation => .checkViolation
  | failure => .inventory failure

def Failure.mayBeRaced : Failure → Bool
  | .duplicateEntry | .purchaseOrderVersionConflict _ | .purchaseOrderState _ => true
  | _ => false

/-! ### The store -/

structure Env where
  uuid : ℕ → Uuid
  /-- The canonical text of an identifier. -/
  uuidText : Uuid → Text

/-- Identifiers are numbered. -/
instance : Inhabited Env := ⟨{ uuid := id, uuidText := fun id ↦ [id] }⟩

/-- **The store of procurement of one tenant**, with its stock. -/
structure Store where
  env : Env
  drawn : ℕ
  catalog : Catalog
  stock : UInventario.Store
  orders : Table PurchaseOrder
  lines : Table PurchaseOrderLine
  transitions : Table Transition
  receipts : Table Receipt
  receiptLines : Table ReceiptLine

def Store.fresh (env : Env) (catalog : Catalog) (stock : UInventario.Store) : Store where
  env := env
  drawn := 0
  catalog := catalog
  stock := stock
  orders := Table.empty
  lines := Table.empty
  transitions := Table.empty
  receipts := Table.empty
  receiptLines := Table.empty

namespace Store

/-- `randomUUID`: the identifier it draws and the store after the draw. -/
def randomUUID (s : Store) : Uuid × Store :=
  (s.env.uuid s.drawn, { s with drawn := s.drawn + 1 })

def linesOf (s : Store) (orderId : Uuid) : List PurchaseOrderLine :=
  s.lines.rows.filter fun line ↦ line.purchaseOrderId = orderId

/-- The status changes of an order, in the order in which they were made. -/
def transitionsOf (s : Store) (orderId : Uuid) : List Transition :=
  s.transitions.rows.filter fun t ↦ t.purchaseOrderId = orderId

@[simp] theorem mem_linesOf {s : Store} {orderId : Uuid} {line : PurchaseOrderLine} :
    line ∈ s.linesOf orderId ↔ line ∈ s.lines.rows ∧ line.purchaseOrderId = orderId := by
  rw [linesOf, List.mem_filter, decide_eq_true_eq]

end Store

end UInventario.Procurement
