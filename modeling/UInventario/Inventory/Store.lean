import UInventario.Foundations.Outcome
import UInventario.Inventory.Documents

/-!
# The store of one tenant

`Store` is what the database holds for one tenant, and a transaction is a function `Store → … →
Except Failure Store`: it throws, and the database rolls back, or returns the store its commit
leaves. The tables that only one part of the code writes are grouped in a book of their own
(`FifoBook`, `LotBook`, `SerialBook`).

What the code takes from outside the database is in `Env`. What `randomUUID` draws for a row and the
instant of `CURRENT_TIMESTAMP(6)` are functions of the table and of the number of rows there: rows
of these tables are never deleted, so every history of draws is one such function. An identifier
drawn twice makes the insertion fail with `duplicateEntry`. The other fields are the local day of a
location, the functions of JavaScript on texts, and the collation of the database.
-/

namespace UInventario

open Outcome

/-! ### Failures -/

/-- What a transaction of the model throws. `typeError`: a field of a row that is missing is read.
-/
inductive Failure
  -- the database and the language
  | duplicateEntry | checkViolation | typeError
  -- `inventory-valuation.ts`, `inventory-valuation-policy.ts`
  | inventoryMovementNotFoundForValuation | inventoryReconciliationBlocked
  | inventoryValuationNotFound | negativeInventoryValuationQuantity
  | negativeInventoryValuationValue | purchaseReceiptCostNotFound | saleMovementCostNotFound
  | inventoryMovementNotFoundForPolicy | specificLotReconciliationFailed
  -- `inventory-valuation-policy.service.ts`
  | valuationPolicyIdempotencyConflict | valuationPolicyVersionConflict
  | valuationMigrationPlanStale | valuationMethodChangeBlocked
  -- `inventory-reconciliation.service.ts`
  | inventoryValuationPolicyNotFound
  -- `inventory-fifo-valuation.ts`
  | inventoryMovementNotFoundForFifo | inventoryFifoLayerShortage | inventoryFifoCurrencyMismatch
  | fifoPurchaseReceiptCostNotFound | fifoMovementCostNotFound | fifoReturnSourceNotFound
  -- `quantity-policy.ts`
  | invalidProductQuantityPolicy | invalidProductQuantity | productQuantityBelowMinimum
  -- `inventory.errors.ts`
  | inventoryTargetNotFound | idempotencyConflict | movementReferenceRequired
  | initialStockAlreadyExists | insufficientStock | inventoryCountConflict
  | invalidStockStateTransition | insufficientStockState
  -- `inventory-count.errors.ts`
  | inventoryCountAttemptConflict | inventoryCountSessionClosed | inventoryCountSessionIncomplete
  | inventoryCountSessionNotFound | inventoryCountStockChanged
  -- `inventory-transfer.errors.ts`
  | invalidInventoryTransferTarget | duplicateInventoryTransferLine
  | inventoryTransferIdempotencyConflict | inventoryTransferNotFound
  | inventoryTransferStatusConflict | inventoryTransferInsufficientStock
  | invalidInventoryTransferReceipt | inventoryTransferReceiptExceedsPending
  | inventoryTransferDiscrepancyReasonRequired
  -- `inventory-kit.errors.ts`
  | inventoryKitIdempotencyConflict | inventoryKitInsufficientStock | inventoryKitNotAssembled
  | inventoryKitNotFound
  -- `product-reservation.errors.ts`
  | productReservationIdempotencyConflict | productReservationInsufficientStock
  | productReservationNotActive | productReservationTargetNotFound
  -- `pos.errors.ts`, `cash-register-shift.errors.ts`
  | posIdempotencyConflict | posInsufficientStock | posReservationNotAvailable
  | cashRegisterShiftRequired | saleNotFound | saleAlreadyVoided | saleVoidNotAllowed
  | saleVoidBalanceNotFound | saleVoidInvalidMovement | saleProductNotFound
  | derivedKitTrackingNotSupported | untrackedProductInventoryControls
  -- the parts of a transaction that are not modelled
  | otherPart
  -- `inventory-lot-tracking.ts`
  | inventoryLotRequired | inventoryLotNotFound | insufficientInventoryLotStock
  | inventoryLotCurrencyMismatch | invalidInventoryLotCode | invalidInventoryLotDates
  | inventoryLotExpirationRequired | expiredInventoryLot | negativeInventoryLotCost
  | inventoryLotSourceNotFound | inventoryLotRestoreMismatch | inventoryLotCostNotFound
  -- `inventory-serial-tracking.ts`
  | inventorySerialRequired | inventorySerialQuantity | inventorySerialDuplicate
  | inventorySerialNotFound | inventorySerialStateConflict
  deriving DecidableEq

/-! ### The environment -/

inductive Country
  | MX | CL | other

def tenantCurrency : Country → Currency
  | .MX => .MXN
  | .CL => .CLP
  | .other => .USD

inductive TableName
  | inventory_movements | inventory_fifo_layers | inventory_movement_fifo_layers
  | inventory_lots | inventory_movement_lots | inventory_serials | inventory_serial_events
  | inventory_counts | inventory_count_sessions
  | inventory_transfers | inventory_transfer_lines | inventory_transfer_receipts
  | kit_inventory_operations | product_reservations | product_reservation_lines
  | sales | sale_lines | sale_kit_components

structure Env where
  /-- The identifier drawn for the row that finds `n` rows in the table. -/
  uuid : TableName → ℕ → Uuid
  /-- The instant at which that row is inserted. -/
  clock : TableName → ℕ → Timestamp
  /-- The day at a location when `n` movements have been processed (`inventoryLocalDate`). -/
  localDate : Uuid → ℕ → Day
  toUpperCase : Text → Text
  /-- `value.normalize('NFKC').toUpperCase()`. -/
  normalize : Text → Text := id
  /-- The key of a text under the collation of its column: texts with one key are equal to a unique
  key of the database. -/
  collate : Text → Text := id
  country : Country

/-- Rows are numbered and stamped by their position; every other choice is as good. -/
instance : Inhabited Env :=
  ⟨{ uuid := fun _ n ↦ n, clock := fun _ n ↦ n, localDate := fun _ n ↦ n, toUpperCase := id,
     country := .other }⟩

/-! ### Books and the store -/

structure FifoBook where
  layers : Table FifoLayer
  allocations : Table FifoAllocation

/-- The lots, their balances by location and the allocations of movements to them. -/
structure LotBook where
  lots : Table Lot
  balances : Table LotBalance
  movementLots : Table MovementLot

structure SerialBook where
  serials : Table Serial
  events : Table SerialEvent

/-- **The store of one tenant.** -/
@[ext] structure Store where
  env : Env
  products : Table Product
  locations : Table Location
  balances : Table Balance
  movements : Table Movement
  valuations : Table Valuation
  /-- The row of `inventory_valuation_policies`, absent until it is first read. -/
  policy : Option ValuationPolicy
  policyHistory : Table PolicyChange
  /-- The idempotency keys of `inventory_reconciliation_runs`. -/
  reconciliationRuns : List Text
  /-- `inventory_reconciliation_guards.operations_blocked`. -/
  operationsBlocked : Bool
  fifo : FifoBook
  lots : LotBook
  serials : SerialBook
  purchaseReceiptLines : Table PurchaseReceiptLine
  purchaseReturnLines : Table PurchaseReturnLine
  saleReturnLines : Table SaleReturnLine
  documents : Documents

namespace Store

def fresh (env : Env) : Store where
  env := env
  products := Table.empty
  locations := Table.empty
  balances := Table.empty
  movements := Table.empty
  valuations := Table.empty
  policy := none
  policyHistory := Table.empty
  reconciliationRuns := []
  operationsBlocked := false
  fifo := { layers := Table.empty, allocations := Table.empty }
  lots := { lots := Table.empty, balances := Table.empty, movementLots := Table.empty }
  serials := { serials := Table.empty, events := Table.empty }
  purchaseReceiptLines := Table.empty
  purchaseReturnLines := Table.empty
  saleReturnLines := Table.empty
  documents := Documents.empty

def freshMovementId (s : Store) : Uuid :=
  s.env.uuid .inventory_movements s.movements.rows.length

def movementTime (s : Store) : Timestamp :=
  s.env.clock .inventory_movements s.movements.rows.length

end Store

/-! ### Queries -/

/-- `ABS(a - b) > tolerance`, the tolerance being half of the last decimal of both. -/
def differs (a b : ℤ) : Prop := 1 < 2 * |a - b|
deriving Decidable

theorem differs_iff {a b : ℤ} : differs a b ↔ a ≠ b := by
  rw [differs]
  constructor
  · rintro h rfl
    simp at h
  · intro h
    have : 0 < |a - b| := abs_pos.mpr (sub_ne_zero.mpr h)
    omega

/-- `column = ?` with a parameter that may be null: null equals nothing. -/
def sqlEq {α : Type} [DecidableEq α] (a b : Option α) : Bool :=
  a.isSome && decide (a = b)

/-- Rows of the movement journal come in the order of their creation. -/
def Movement.createdBefore (a b : Movement) : Prop :=
  a.createdAt < b.createdAt ∨ (a.createdAt = b.createdAt ∧ a.id ≤ b.id)
deriving Decidable

/-! ### Inserting a movement -/

/-- `ck_inventory_movements_quantity_kind`. -/
def Movement.quantityKind (m : Movement) : Prop :=
  match m.type with
  | .STATE_TRANSITION | .TRANSFER_RECEIPT =>
    m.quantityChange = 0 ∧ (∃ q ∈ m.stateQuantity, 0 < q) ∧ m.fromState ≠ none ∧
      m.toState ≠ none ∧ m.fromState ≠ m.toState
  | .SALE_RETURN =>
    0 < m.quantityChange ∧ m.fromState = none ∧
      (m.toState = some .AVAILABLE ∨ m.toState = some .DAMAGED) ∧
      m.stateQuantity = some m.quantityChange
  | _ => m.quantityChange ≠ 0 ∧ m.fromState = none ∧ m.toState = none ∧ m.stateQuantity = none

instance (m : Movement) : Decidable m.quantityKind := by
  unfold Movement.quantityKind
  split <;> infer_instance

/-- `ck_inventory_movements_sale_link`. -/
def Movement.saleLink (m : Movement) : Prop :=
  match m.type with
  | .SALE | .SALE_VOID =>
    m.saleId ≠ none ∧ m.saleLineId ≠ none ∧ m.saleReturnId = none ∧ m.saleReturnLineId = none ∧
      m.sourceSaleMovementId = none
  | .SALE_RETURN =>
    m.saleId ≠ none ∧ m.saleLineId ≠ none ∧ m.saleReturnId ≠ none ∧ m.saleReturnLineId ≠ none ∧
      m.sourceSaleMovementId ≠ none
  | _ =>
    m.saleId = none ∧ m.saleLineId = none ∧ m.saleReturnId = none ∧ m.saleReturnLineId = none ∧
      m.sourceSaleMovementId = none

instance (m : Movement) : Decidable m.saleLink := by
  unfold Movement.saleLink
  split <;> infer_instance

/-- `INSERT INTO inventory_movements`, with the checks and the unique keys of the table. -/
def insertMovement (s : Store) (m : Movement) : Except Failure Store := do
  ensure (m.quantityKind ∧ m.saleLink ∧ 0 ≤ m.resultingQuantity) .checkViolation
  ensure (∀ m' ∈ s.movements.rows, m'.idempotencyKey ≠ m.idempotencyKey) .duplicateEntry
  let movements ← demand (s.movements.insert m) .duplicateEntry
  pure { s with movements := movements }

theorem insertMovement_eq_ok {s s' : Store} {m : Movement} (h : insertMovement s m = .ok s') :
    m.quantityKind ∧ m.saleLink ∧ 0 ≤ m.resultingQuantity ∧
      (∀ m' ∈ s.movements.rows, m'.idempotencyKey ≠ m.idempotencyKey) ∧
      ∃ movements, s.movements.insert m = some movements ∧
        s' = { s with movements := movements } := by
  simp only [insertMovement, eq_ok] at h
  obtain ⟨-, ⟨hkind, hlink, hresulting⟩, -, hkey, movements, hinsert, rfl⟩ := h
  exact ⟨hkind, hlink, hresulting, hkey, movements, hinsert, rfl⟩

end UInventario
