import UInventario.Inventory.Schema

/-!
# The rows of the documents

Stock moves because of documents: counts, transfers, kit operations, reservations, sales and their
returns. Each part of the application keeps its documents in tables of its own, and reads those of
the others only where it says so. `Documents` is all of them; the inventory core reads none.

The columns follow the source as far as the operations of the model read or write them.
-/

namespace UInventario

/-! ### Organisation -/

structure Warehouse where
  (id branchId : Uuid)
  active : Bool

instance : Keyed Warehouse Uuid := ⟨Warehouse.id⟩

/-! ### Counts -/

structure InventoryCount where
  (id productId locationId : Uuid)
  (snapshotQuantity countedQuantity varianceQuantity : ℤ)
  movementId : Option Uuid
  idempotencyKey : Text
  requestFingerprint : Fingerprint

instance : Keyed InventoryCount Uuid := ⟨InventoryCount.id⟩

/-- `inventory_count_sessions.status`. -/
inductive CountSessionStatus
  | OPEN | CLOSED
  deriving DecidableEq

structure CountSessionFingerprint where
  (branchId warehouseId locationId : Uuid)
  productIds : List Uuid
  blind : Bool
  deriving DecidableEq

structure CountSession where
  (id warehouseId locationId : Uuid)
  status : CountSessionStatus
  idempotencyKey : Text
  requestFingerprint : CountSessionFingerprint
  deriving DecidableEq

instance : Keyed CountSession Uuid := ⟨CountSession.id⟩

/-- A row of `inventory_count_session_lines`, under its key `uq_inventory_count_session_product`. -/
structure CountSessionLine where
  (sessionId productId : Uuid)
  snapshotQuantity : ℤ
  (countedQuantity varianceQuantity : Option ℤ)
  attemptCount : ℕ
  movementId : Option Uuid
  deriving DecidableEq

instance : Keyed CountSessionLine (Uuid × Uuid) := ⟨fun l ↦ (l.sessionId, l.productId)⟩

/-! ### Transfers -/

/-- `inventory_transfers.status`. -/
inductive TransferStatus
  | DRAFT | DISPATCHED | PARTIALLY_RECEIVED | RECEIVED | CANCELLED
  deriving DecidableEq

structure TransferLineRequest where
  (productId sourceLocationId destinationLocationId : Uuid)
  quantity : ℤ
  serialNumbers : List Text
  deriving DecidableEq

structure TransferFingerprint where
  (originWarehouseId destinationWarehouseId : Uuid)
  (reference reason : Text)
  lines : List TransferLineRequest
  deriving DecidableEq

structure Transfer where
  (id originWarehouseId destinationWarehouseId : Uuid)
  status : TransferStatus
  creationIdempotencyKey : Text
  requestFingerprint : TransferFingerprint
  dispatchIdempotencyKey : Option Text
  deriving DecidableEq

instance : Keyed Transfer Uuid := ⟨Transfer.id⟩

structure TransferLine where
  (id transferId : Uuid)
  lineNumber : ℕ
  (productId sourceLocationId destinationLocationId : Uuid)
  (quantity receivedQuantity discrepancyQuantity : ℤ)
  serialNumbers : List Text
  deriving DecidableEq

instance : Keyed TransferLine Uuid := ⟨TransferLine.id⟩

/-- The quantity of a line that has neither arrived nor been found missing. -/
def TransferLine.pending (l : TransferLine) : ℤ :=
  l.quantity - l.receivedQuantity - l.discrepancyQuantity

/-- A line of a request to receive a transfer, its quantities normalised. -/
structure TransferReceiptLine where
  transferLineId : Uuid
  (receivedQuantity discrepancyQuantity : ℤ)
  (receivedSerialNumbers discrepancySerialNumbers : List Text)
  deriving DecidableEq

structure TransferReceiptFingerprint where
  transferId : Uuid
  lines : List TransferReceiptLine
  discrepancyReason : Option Text
  deriving DecidableEq

structure TransferReceipt where
  (id transferId : Uuid)
  idempotencyKey : Text
  requestFingerprint : TransferReceiptFingerprint

instance : Keyed TransferReceipt Uuid := ⟨TransferReceipt.id⟩

/-! ### Kits -/

/-- A row of `product_kit_components`, at its position in the list of its kit. -/
structure KitComponent where
  productId : Uuid
  quantity : ℤ
  deriving DecidableEq

/-- A row of `product_kits` with its components. -/
structure ProductKit where
  productId : Uuid
  stockMode : KitStockMode
  (effectiveFrom effectiveTo : Option Day)
  components : List KitComponent
  deriving DecidableEq

instance : Keyed ProductKit Uuid := ⟨ProductKit.productId⟩

/-- `effective_from IS NULL OR effective_from <= ?`, and the same for `effective_to`. -/
def ProductKit.effectiveOn (kit : ProductKit) (day : Day) : Bool :=
  decide (∀ d ∈ kit.effectiveFrom, d ≤ day) && decide (∀ d ∈ kit.effectiveTo, day ≤ d)

/-- `kit_inventory_operations.operation_type`. -/
inductive KitOperationType
  | ASSEMBLE | DISASSEMBLE
  deriving DecidableEq

structure KitFingerprint where
  (productId locationId : Uuid)
  operationType : KitOperationType
  quantity : ℤ
  deriving DecidableEq

/-- A row of `kit_inventory_operations`. -/
structure KitOperation where
  id : Uuid
  idempotencyKey : Text
  requestFingerprint : KitFingerprint

instance : Keyed KitOperation Uuid := ⟨KitOperation.id⟩

/-! ### Reservations -/

/-- `product_reservations.status`. -/
inductive ReservationStatus
  | ACTIVE | RELEASED | EXPIRED | CONSUMED
  deriving DecidableEq

structure ReservationLineRequest where
  productId : Uuid
  quantity : ℤ
  serialNumbers : List Text
  deriving DecidableEq

structure ReservationFingerprint where
  (customerId locationId : Uuid)
  expiresInHours : ℕ
  lines : List ReservationLineRequest
  deriving DecidableEq

structure Reservation where
  (id branchId warehouseId locationId customerId : Uuid)
  status : ReservationStatus
  expiresAt : Timestamp
  idempotencyKey : Text
  requestFingerprint : ReservationFingerprint
  (closedIdempotencyKey closedRequestFingerprint : Option Text)

instance : Keyed Reservation Uuid := ⟨Reservation.id⟩

structure ReservationLine where
  (id reservationId : Uuid)
  lineNumber : ℕ
  productId : Uuid
  quantity : ℤ
  serialNumbers : List Text

instance : Keyed ReservationLine Uuid := ⟨ReservationLine.id⟩

/-! ### Sales -/

/-- A row of `cash_register_shifts`; `isOpen` says that its status is `OPEN`. -/
structure CashRegisterShift where
  (id branchId cashRegisterId openedByUserId : Uuid)
  isOpen : Bool

instance : Keyed CashRegisterShift Uuid := ⟨CashRegisterShift.id⟩

/-- `sales.status`. -/
inductive SaleStatus
  | COMPLETED | VOIDED

/-- A row of `sales`. Its fingerprints are the hashes the service passes in. -/
structure Sale where
  (id branchId warehouseId cashRegisterId cashRegisterShiftId : Uuid)
  reservationId : Option Uuid
  status : SaleStatus
  (idempotencyKey requestFingerprint : Text)
  (voidIdempotencyKey voidRequestFingerprint : Option Text)

instance : Keyed Sale Uuid := ⟨Sale.id⟩

structure SaleLine where
  (id saleId : Uuid)
  lineNumber : ℕ
  productId : Uuid
  quantity : ℤ
  stockBehavior : StockBehavior

instance : Keyed SaleLine Uuid := ⟨SaleLine.id⟩

structure SaleKitComponent where
  (id saleId saleLineId componentProductId : Uuid)
  (quantityPerKit totalQuantity : ℤ)

instance : Keyed SaleKitComponent Uuid := ⟨SaleKitComponent.id⟩

structure SaleReturn where
  (id saleId : Uuid)
  (idempotencyKey requestFingerprint : Text)

instance : Keyed SaleReturn Uuid := ⟨SaleReturn.id⟩

/-! ### All documents -/

/-- The documents that hold stock back: dispatched transfers and active reservations. -/
structure Commitments where
  transfers : Table Transfer
  transferLines : Table TransferLine
  reservations : Table Reservation
  reservationLines : Table ReservationLine

structure Documents extends Commitments where
  warehouses : Table Warehouse
  counts : Table InventoryCount
  countSessions : Table CountSession
  countSessionLines : Table CountSessionLine
  transferReceipts : Table TransferReceipt
  kits : Table ProductKit
  kitOperations : Table KitOperation
  shifts : Table CashRegisterShift
  sales : Table Sale
  saleLines : Table SaleLine
  saleKitComponents : Table SaleKitComponent
  saleReturns : Table SaleReturn

def Documents.empty : Documents where
  transfers := Table.empty
  transferLines := Table.empty
  reservations := Table.empty
  reservationLines := Table.empty
  warehouses := Table.empty
  counts := Table.empty
  countSessions := Table.empty
  countSessionLines := Table.empty
  transferReceipts := Table.empty
  kits := Table.empty
  kitOperations := Table.empty
  shifts := Table.empty
  sales := Table.empty
  saleLines := Table.empty
  saleKitComponents := Table.empty
  saleReturns := Table.empty

end UInventario
