import UInventario.Foundations.Table

/-!
# The rows of the inventory

The tables of the inventory core, restricted to one tenant: every query of the source filters by
`tenant_id`.

* A quantity counts thousandths of the product's unit, a cost or a value ten-thousandths of the
  currency unit.
* The text order of identifiers is the order of the numbers they spell, so `Uuid` is `ℕ`, and so is
  `Timestamp`, a count of microseconds.
* A text is its list of UTF-16 code units, as in JavaScript.
* A request fingerprint is the payload whose hash the source stores.
* A nullable column is an `Option`. Columns that no function of the model reads are left out.
-/

namespace UInventario

/-- An identifier drawn by `randomUUID`. -/
abbrev Uuid := ℕ

/-- A `DATETIME(6)`, in microseconds. -/
abbrev Timestamp := ℕ

/-- A calendar day; the order of days is the order of their `YYYY-MM-DD` texts. -/
abbrev Day := ℕ

abbrev Text := List ℕ

instance : LawfulBEq Text := inferInstance

/-- `CHAR_LENGTH`: a surrogate pair is one character. -/
def characters (t : Text) : ℕ := t.countP fun u ↦ decide ¬(0xDC00 ≤ u ∧ u ≤ 0xDFFF)

/-! ### Enumerations -/

/-- `inventory_movements.type`. -/
inductive MovementType
  | INITIAL | ENTRY | EXIT | RETURN | LOSS | DAMAGE | ADJUSTMENT | IMPORT | STATE_TRANSITION
  | SALE | SALE_VOID | SALE_RETURN | TRANSFER_OUT | TRANSFER_IN | TRANSFER_RECEIPT
  | TRANSFER_DISCREPANCY | PURCHASE_RECEIPT | SUPPLIER_RETURN
  deriving DecidableEq

inductive StockState
  | AVAILABLE | RESERVED | DAMAGED | IN_TRANSIT
  deriving DecidableEq

/-- `inventory_valuation_policies.method`. -/
inductive ValuationMethod
  | MOVING_AVERAGE | FIFO | SPECIFIC_LOT
  deriving DecidableEq

/-- `inventory_fifo_layers.origin_type`. -/
inductive LayerOrigin
  | MIGRATION_CUT | ENTRY | PURCHASE_RECEIPT | RETURN | TRANSFER

/-- `inventory_movement_fifo_layers.selection_mode`. -/
inductive AllocationMode
  | ENTRY | FIFO | RESTORE | TRANSFER | ORIGIN_RETURN
  deriving DecidableEq

/-- `inventory_movement_lots.selection_mode`. -/
inductive SelectionMode
  | ORIGIN | MANUAL | AUTOMATIC | RESTORE | TRANSFER

/-- `products.lot_expiration_policy`. -/
inductive LotExpirationPolicy
  | NONE | OPTIONAL | REQUIRED
  deriving DecidableEq

/-- `InventorySerialStatus`. -/
inductive SerialStatus
  | AVAILABLE | RESERVED | DAMAGED | IN_TRANSIT | SOLD | RETURNED_TO_SUPPLIER | REMOVED
  deriving DecidableEq

def StockState.toSerialStatus : StockState → SerialStatus
  | .AVAILABLE => .AVAILABLE
  | .RESERVED => .RESERVED
  | .DAMAGED => .DAMAGED
  | .IN_TRANSIT => .IN_TRANSIT

/-- An ISO currency code; the three that follow from a country, and any other an order carries. -/
inductive Currency
  | MXN | CLP | USD
  | other (code : Text)
  deriving DecidableEq

/-- `products.base_unit`. -/
inductive ProductBaseUnit
  | UNIT | KILOGRAM | GRAM | LITER | MILLILITER | METER | CENTIMETER
  deriving DecidableEq

/-- `products.quantity_rounding`. -/
inductive QuantityRoundingMode
  | HALF_UP | DOWN | UP
  deriving DecidableEq

/-- `products.stock_behavior`. -/
inductive StockBehavior
  | TRACKED | UNTRACKED
  deriving DecidableEq

/-- `product_kits.stock_mode`. -/
inductive KitStockMode
  | DERIVED | ASSEMBLED
  deriving DecidableEq

/-! ### Catalogue -/

/-- `ProductQuantityPolicy`; `precision` counts decimals. -/
structure QuantityPolicy where
  baseUnit : ProductBaseUnit := .UNIT
  precision : ℕ
  rounding : QuantityRoundingMode
  minimumQuantity : ℤ
  deriving DecidableEq

/-- `products.code_mode`. -/
inductive CodeMode
  | EXPLICIT | GENERATED
  deriving DecidableEq

/-- A row of `products`. `variantParent` says that `variant_schema` is not null. -/
structure Product where
  id : Uuid
  (active variantParent : Bool)
  cost : ℤ
  trackLots : Bool
  lotExpirationPolicy : LotExpirationPolicy
  trackSerials : Bool
  quantityPolicy : QuantityPolicy
  stockBehavior : StockBehavior := .TRACKED
  lotExpirationAlertDays : ℕ := 30
  allowExpiredStockOverride : Bool := false
  parentProductId : Option Uuid := none
  codeMode : CodeMode := .EXPLICIT
  sku : Text := []
  normalizedSku : Text := []
  barcode : Option Text := none
  version : ℕ := 1
  deriving DecidableEq

instance : Keyed Product Uuid := ⟨Product.id⟩

/-- A product that is counted in whole units, without lots or serial numbers. -/
def Product.plain (id : Uuid) (cost : ℤ) : Product where
  id := id
  active := true
  variantParent := false
  cost := cost
  trackLots := false
  lotExpirationPolicy := .NONE
  trackSerials := false
  quantityPolicy := { precision := 0, rounding := .HALF_UP, minimumQuantity := 1000 }

structure Location where
  (id warehouseId : Uuid)
  active : Bool
  createdAt : Timestamp

instance : Keyed Location Uuid := ⟨Location.id⟩

/-! ### Balances and movements -/

structure Balance where
  (productId locationId : Uuid)
  (quantity available reserved damaged inTransit : ℤ)

instance : Keyed Balance (Uuid × Uuid) := ⟨fun b ↦ (b.productId, b.locationId)⟩

/-- The bucket of a state (`stateColumn`). -/
def Balance.state (b : Balance) : StockState → ℤ
  | .AVAILABLE => b.available
  | .RESERVED => b.reserved
  | .DAMAGED => b.damaged
  | .IN_TRANSIT => b.inTransit

/-- `inventory_movements.idempotency_key`: the header of a request, or the key built for a
document's movement. -/
inductive MovementKey
  | request (key : Text)
  | transfer (transferId : Uuid) (lineNumber : ℕ) (type : MovementType)
  | receipt (receiptId : Uuid) (lineNumber : ℕ) (type : MovementType)
  | sale (saleId : Uuid) (line target allocation : ℕ)
  | saleVoid (saleId movementId : Uuid)
  | saleReturn (saleReturnId movementId : Uuid)
  | countSession (sessionId productId : Uuid)
  | kit (operationId productId : Uuid)
  | reservation (reservationId : Uuid) (line : ℕ) (closing : Bool)
  | purchaseReceipt (receiptId : Uuid) (line : ℕ)
  | supplierReturn (returnId : Uuid) (line : ℕ)
  deriving DecidableEq

/-- What the source hashes into `request_fingerprint`; no function reads an `internal` one. -/
inductive Fingerprint
  | movement (productId locationId : Uuid) (type : MovementType) (quantity : ℤ)
      (reason : Text) (reference : Option Text) (serialNumbers : List Text)
  | count (productId locationId : Uuid) (snapshotQuantity countedQuantity : ℤ)
      (reason reference : Text) (capturedAt : Timestamp)
  | stateTransition (productId locationId : Uuid) (fromState toState : StockState)
      (quantity : ℤ) (reason reference : Text) (serialNumbers : List Text)
  | internal
  deriving DecidableEq

structure Movement where
  (id productId locationId : Uuid)
  type : MovementType
  (quantityChange resultingQuantity : ℤ)
  fromState : Option StockState := none
  toState : Option StockState := none
  stateQuantity : Option ℤ := none
  idempotencyKey : MovementKey
  requestFingerprint : Fingerprint := .internal
  saleId : Option Uuid := none
  saleLineId : Option Uuid := none
  saleReturnId : Option Uuid := none
  saleReturnLineId : Option Uuid := none
  sourceSaleMovementId : Option Uuid := none
  purchaseReceiptLineId : Option Uuid := none
  purchaseReturnLineId : Option Uuid := none
  transferLineId : Option Uuid := none
  reservationId : Option Uuid := none
  createdAt : Timestamp
  unitCost : Option ℤ := none
  valueChange : Option ℤ := none
  resultingInventoryValue : Option ℤ := none
  averageUnitCost : Option ℤ := none
  valuationMethod : ValuationMethod := .MOVING_AVERAGE
  valuationPolicyVersion : ℕ := 1
  fifoUnitCost : Option ℤ := none
  fifoValueChange : Option ℤ := none
  fifoResultingInventoryValue : Option ℤ := none
  deriving DecidableEq

instance : Keyed Movement Uuid := ⟨Movement.id⟩

/-- `SUM(quantity_change)` counts a movement of the pair with its quantity. -/
def Movement.quantityAt (productId locationId : Uuid) (m : Movement) : ℤ :=
  if m.productId = productId ∧ m.locationId = locationId then m.quantityChange else 0

/-! ### Valuation -/

structure Valuation where
  productId : Uuid
  (quantity inventoryValue averageUnitCost : ℤ)
  deriving DecidableEq

instance : Keyed Valuation Uuid := ⟨Valuation.productId⟩

/-- The row of `inventory_valuation_policies`. -/
structure ValuationPolicy where
  method : ValuationMethod
  version : ℕ
  deriving DecidableEq

inductive BlockingReason
  | METHOD_ALREADY_ACTIVE | FIFO_LAYER_RECONCILIATION_REQUIRED | LOT_RECONCILIATION_REQUIRED
  deriving DecidableEq

/-- `InventoryValuationMigrationPlan`, which is its own fingerprint. -/
structure MigrationPlan where
  current : ValuationPolicy
  targetMethod : ValuationMethod
  blockingReasons : List BlockingReason
  (productsToMigrate locationsToMigrate : ℕ)
  deriving DecidableEq

/-- A row of `inventory_valuation_policy_history`. -/
structure PolicyChange where
  idempotencyKey : Text
  toMethod : ValuationMethod
  (fromVersion toVersion : ℕ)
  planFingerprint : MigrationPlan

instance : Keyed PolicyChange Text := ⟨PolicyChange.idempotencyKey⟩

structure FifoLayer where
  (id productId locationId : Uuid)
  (sourceMovementId sourceLayerId purchaseReceiptLineId : Option Uuid)
  origin : LayerOrigin
  (originalQuantity remainingQuantity unitCost : ℤ)
  currency : Currency
  (acquiredAt createdAt : Timestamp)

instance : Keyed FifoLayer Uuid := ⟨FifoLayer.id⟩

/-- A row of `inventory_movement_fifo_layers`. -/
structure FifoAllocation where
  (id movementId layerId : Uuid)
  sourceAllocationId : Option Uuid
  (quantityChange unitCost : ℤ)
  currency : Currency
  valueChange : ℤ
  mode : AllocationMode
  createdAt : Timestamp

instance : Keyed FifoAllocation Uuid := ⟨FifoAllocation.id⟩

/-! ### Lots and serial numbers -/

structure Lot where
  (id productId : Uuid)
  (code normalizedCode : Text)
  (manufacturedOn expiresOn : Option Day)
  unitCost : ℤ
  currency : Currency
  createdAt : Timestamp

instance : Keyed Lot Uuid := ⟨Lot.id⟩

structure LotBalance where
  (lotId locationId : Uuid)
  quantity : ℤ

instance : Keyed LotBalance (Uuid × Uuid) := ⟨fun b ↦ (b.lotId, b.locationId)⟩

structure MovementLot where
  (id movementId lotId locationId : Uuid)
  (quantityChange unitCost : ℤ)
  currency : Currency
  valueChange : ℤ
  mode : SelectionMode
  createdAt : Timestamp

instance : Keyed MovementLot Uuid := ⟨MovementLot.id⟩

structure Serial where
  (id productId : Uuid)
  (serialNumber normalizedSerial : Text)
  status : SerialStatus
  currentLocationId : Option Uuid

instance : Keyed Serial Uuid := ⟨Serial.id⟩

structure SerialEvent where
  (id serialId movementId : Uuid)
  fromStatus : Option SerialStatus
  toStatus : SerialStatus
  (fromLocationId toLocationId : Option Uuid)
  createdAt : Timestamp

instance : Keyed SerialEvent Uuid := ⟨SerialEvent.id⟩

/-! ### The documents a movement points to -/

/-- A row of `purchase_receipt_lines`, with the product of its order line and the currency of the
order its receipt belongs to. -/
structure PurchaseReceiptLine where
  (id receiptId productId : Uuid)
  (receivedQuantity unitCost : ℤ)
  currency : Currency
  lotCode : Option Text
  (manufacturedOn expiresOn : Option Day)
  lotId : Option Uuid

instance : Keyed PurchaseReceiptLine Uuid := ⟨PurchaseReceiptLine.id⟩

structure PurchaseReturnLine where
  (id purchaseReceiptLineId : Uuid)
  returnedQuantity : ℤ
  lotId : Option Uuid

instance : Keyed PurchaseReturnLine Uuid := ⟨PurchaseReturnLine.id⟩

/-- A row of `sale_return_lines`; `damaged` says that `item_condition` is `DAMAGED`. -/
structure SaleReturnLine where
  (id saleLineId : Uuid)
  quantity : ℤ
  damaged : Bool

instance : Keyed SaleReturnLine Uuid := ⟨SaleReturnLine.id⟩

end UInventario
