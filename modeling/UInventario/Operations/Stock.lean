import UInventario.Inventory.LayerLedger
import UInventario.Inventory.QuantityPolicy

/-!
# Manual stock operations

`createMovement`, `createCount` and `createStateTransition` are one transaction each: a request that
repeats an idempotency key gets the recorded answer, the product and the location are checked, the
balance is locked, and the key is looked up again before anything is written.

Transactions run one after the other here, so the second look finds nothing new. When a unique key
fails, the answer is looked up once more outside the transaction (`onDuplicate`).
-/

namespace UInventario

open Outcome

/-! ### The frame of a request -/

/-- `catch (error) { if (!this.isDuplicate(error)) throw error; … }`. -/
def onDuplicate {α : Type} (transaction recover : Except Failure α) : Except Failure α :=
  match transaction with
  | .error .duplicateEntry => recover
  | result => result

theorem onDuplicate_eq_ok {α : Type} {transaction recover : Except Failure α} {a : α}
    (h : onDuplicate transaction recover = .ok a) : transaction = .ok a ∨ recover = .ok a := by
  cases transaction with
  | ok b => exact .inl h
  | error e =>
    cases e with
    | duplicateEntry => exact .inr h
    | _ => exact .inl h

def assertTarget (s : Store) (warehouseId productId locationId : Uuid) : Except Failure PUnit := do
  let location ← demand (s.locations.find? locationId) .inventoryTargetNotFound
  let product ← demand (s.products.find? productId) .inventoryTargetNotFound
  ensure (location.warehouseId = warehouseId ∧ location.active = true ∧ product.active = true ∧
    product.variantParent = false) .inventoryTargetNotFound

def productQuantityPolicy (s : Store) (productId : Uuid) : Except Failure QuantityPolicy := do
  let product ← demand (s.products.find? productId) .inventoryTargetNotFound
  pure product.quantityPolicy

def Store.findMovement (s : Store) (idempotencyKey : Text) : Option Movement :=
  s.movements.rows.find? fun m ↦ m.idempotencyKey = .request idempotencyKey

theorem Store.findMovement_ensureBalance (s : Store) (productId locationId : Uuid)
    (idempotencyKey : Text) :
    (ensureBalance s productId locationId).findMovement idempotencyKey =
      s.findMovement idempotencyKey := by
  rw [Store.findMovement, ensureBalance_movements]
  rfl

structure MovementResult where
  store : Store
  movement : Movement
  replay : Bool

/-- The answer to a request whose key is that of `movement`. -/
def replayMovement (s : Store) (fingerprint : Fingerprint) (movement : Movement) :
    Except Failure MovementResult := do
  ensure (movement.requestFingerprint = fingerprint) .idempotencyConflict
  pure { store := s, movement := movement, replay := true }

def recoverMovement (s : Store) (idempotencyKey : Text) (fingerprint : Fingerprint) :
    Except Failure MovementResult := do
  let movement ← demand (s.findMovement idempotencyKey) .idempotencyConflict
  replayMovement s fingerprint movement

/-! ### Manual movements -/

/-- `UserInventoryMovementType`. -/
inductive UserMovementType
  | INITIAL | ENTRY | EXIT | RETURN | LOSS | DAMAGE | ADJUSTMENT
  deriving DecidableEq

def UserMovementType.toMovementType : UserMovementType → MovementType
  | .INITIAL => .INITIAL
  | .ENTRY => .ENTRY
  | .EXIT => .EXIT
  | .RETURN => .RETURN
  | .LOSS => .LOSS
  | .DAMAGE => .DAMAGE
  | .ADJUSTMENT => .ADJUSTMENT

/-- `CreateInventoryMovementDto`, with the warehouse and the key of the request. -/
structure MovementInput where
  warehouseId : Uuid
  idempotencyKey : Text
  (productId locationId : Uuid)
  type : UserMovementType
  quantity : ℤ
  reason : Text
  reference : Option Text := none
  lotCode : Option Text := none
  manufacturedOn : Option Day := none
  expiresOn : Option Day := none
  serialNumbers : Option (List Text) := none

def quantityChange (type : UserMovementType) (units : ℤ) : Except Failure ℤ := do
  ensure (units ≠ 0) .insufficientStock
  ensure (type ≠ .ADJUSTMENT → 0 ≤ units) .insufficientStock
  pure (match type with
    | .EXIT | .LOSS | .DAMAGE => -units
    | _ => units)

def MovementInput.newMovement (input : MovementInput) (quantityChange resultingQuantity : ℤ)
    (fingerprint : Fingerprint) : NewMovement where
  productId := input.productId
  locationId := input.locationId
  type := input.type.toMovementType
  quantityChange := quantityChange
  resultingQuantity := resultingQuantity
  idempotencyKey := .request input.idempotencyKey
  requestFingerprint := fingerprint

def MovementInput.tracking (input : MovementInput) : Tracking where
  lots := some {
    lotCode := input.lotCode, manufacturedOn := input.manufacturedOn, expiresOn := input.expiresOn }
  serials := some { serialNumbers := input.serialNumbers }

/-- `createMovement` once the balance is locked and the key is known to be new. -/
def createMovementLocked (s : Store) (input : MovementInput) (change : ℤ)
    (fingerprint : Fingerprint) (balance : Balance) : Except Failure MovementResult := do
  ensure (input.type ≠ .INITIAL → input.reference ≠ none) .movementReferenceRequired
  ensure (input.type = .INITIAL → ∀ m ∈ s.movements.rows,
    ¬(m.productId = input.productId ∧ m.locationId = input.locationId)) .initialStockAlreadyExists
  let resultingQuantity := balance.quantity + change
  let resultingAvailable := balance.available + change
  ensure (0 ≤ resultingQuantity ∧ 0 ≤ resultingAvailable) .insufficientStock
  let s ← updateBalance s { balance with
    quantity := resultingQuantity, available := resultingAvailable }
  let s ← postMovement s (input.newMovement change resultingQuantity fingerprint) input.tracking
  let movement ← demand (s.findMovement input.idempotencyKey) .typeError
  pure { store := s, movement := movement, replay := false }

def createMovement (s : Store) (input : MovementInput) : Except Failure MovementResult := do
  let policy ← productQuantityPolicy s input.productId
  let normalized ← normalizeProductQuantity input.quantity policy true
  let change ← quantityChange input.type normalized
  let fingerprint : Fingerprint := .movement input.productId input.locationId
    input.type.toMovementType change input.reason input.reference (input.serialNumbers.getD [])
  onDuplicate
    (match s.findMovement input.idempotencyKey with
    | some existing => replayMovement s fingerprint existing
    | none => do
      assertTarget s input.warehouseId input.productId input.locationId
      let s := ensureBalance s input.productId input.locationId
      let balance ← demand (s.balance? input.productId input.locationId) .typeError
      match s.findMovement input.idempotencyKey with
      | some replay => replayMovement s fingerprint replay
      | none => createMovementLocked s input change fingerprint balance)
    (recoverMovement s input.idempotencyKey fingerprint)

/-! ### Counts -/

/-- `InventoryCountInput`, with the warehouse and the key of the request. -/
structure CountInput where
  warehouseId : Uuid
  idempotencyKey : Text
  (productId locationId : Uuid)
  (snapshotQuantity countedQuantity : ℤ)
  (reason reference : Text)
  capturedAt : Timestamp

def Store.findCount (s : Store) (idempotencyKey : Text) : Option InventoryCount :=
  s.documents.counts.rows.find? fun c ↦ c.idempotencyKey = idempotencyKey

structure CountResult where
  store : Store
  count : InventoryCount
  replay : Bool

def replayCount (s : Store) (fingerprint : Fingerprint) (count : InventoryCount) :
    Except Failure CountResult := do
  ensure (count.requestFingerprint = fingerprint) .idempotencyConflict
  pure { store := s, count := count, replay := true }

def CountInput.newMovement (input : CountInput) (variance resultingTotal : ℤ)
    (fingerprint : Fingerprint) : NewMovement where
  productId := input.productId
  locationId := input.locationId
  type := .ADJUSTMENT
  quantityChange := variance
  resultingQuantity := resultingTotal
  idempotencyKey := .request input.idempotencyKey
  requestFingerprint := fingerprint

/-- The balance and the movement of a count, when there is a difference; the id of the movement. -/
def adjustCount (s : Store) (input : CountInput) (fingerprint : Fingerprint) (balance : Balance)
    (counted variance : ℤ) : Except Failure (Store × Option Uuid) :=
  if variance ≠ 0 then do
    let resultingTotal := balance.quantity + variance
    let movementId := s.freshMovementId
    let s ← updateBalance s { balance with quantity := resultingTotal, available := counted }
    let s ← postMovement s (input.newMovement variance resultingTotal fingerprint)
      { lots := some {}, serials := some {} }
    pure (s, some movementId)
  else pure (s, none)

/-- `INSERT INTO inventory_counts`. -/
def insertCount (s : Store) (count : InventoryCount) : Except Failure Store := do
  ensure (∀ c ∈ s.documents.counts.rows, c.idempotencyKey ≠ count.idempotencyKey) .duplicateEntry
  let counts ← demand (s.documents.counts.insert count) .duplicateEntry
  pure { s with documents := { s.documents with counts := counts } }

/-- `createCount` once the balance is locked and the key is known to be new. -/
def createCountLocked (s : Store) (input : CountInput) (snapshot counted : ℤ)
    (fingerprint : Fingerprint) (balance : Balance) : Except Failure CountResult := do
  let current := balance.available
  ensure (current = snapshot) .inventoryCountConflict
  let variance := counted - current
  ensure (0 ≤ balance.quantity + variance) .insufficientStock
  let (s, movementId) ← adjustCount s input fingerprint balance counted variance
  let count : InventoryCount := {
    id := s.env.uuid .inventory_counts s.documents.counts.rows.length, productId := input.productId,
    locationId := input.locationId, snapshotQuantity := snapshot, countedQuantity := counted,
    varianceQuantity := variance, movementId := movementId, idempotencyKey := input.idempotencyKey,
    requestFingerprint := fingerprint }
  let s ← insertCount s count
  pure { store := s, count := count, replay := false }

def createCount (s : Store) (input : CountInput) : Except Failure CountResult := do
  let policy ← productQuantityPolicy s input.productId
  let snapshot ← normalizeProductQuantity input.snapshotQuantity policy false false
  let counted ← normalizeProductQuantity input.countedQuantity policy false false
  let fingerprint : Fingerprint := .count input.productId input.locationId snapshot counted
    input.reason input.reference input.capturedAt
  onDuplicate
    (match s.findCount input.idempotencyKey with
    | some existing => replayCount s fingerprint existing
    | none => do
      assertTarget s input.warehouseId input.productId input.locationId
      let s := ensureBalance s input.productId input.locationId
      let balance ← demand (s.balance? input.productId input.locationId) .typeError
      match s.findCount input.idempotencyKey with
      | some replay => replayCount s fingerprint replay
      | none => createCountLocked s input snapshot counted fingerprint balance)
    (do
      let count ← demand (s.findCount input.idempotencyKey) .idempotencyConflict
      replayCount s fingerprint count)

/-! ### State transitions -/

/-- `CreateInventoryStateTransitionDto`, with the warehouse and the key of the request. -/
structure StateTransitionInput where
  warehouseId : Uuid
  idempotencyKey : Text
  (productId locationId : Uuid)
  (fromState toState : StockState)
  quantity : ℤ
  (reason reference : Text)
  serialNumbers : Option (List Text) := none

def stateTransition (productId locationId : Uuid) (fromState toState : StockState)
    (quantity resultingQuantity : ℤ) (key : MovementKey) : NewMovement where
  productId := productId
  locationId := locationId
  type := .STATE_TRANSITION
  quantityChange := 0
  resultingQuantity := resultingQuantity
  fromState := some fromState
  toState := some toState
  stateQuantity := some quantity
  idempotencyKey := key

def StateTransitionInput.newMovement (input : StateTransitionInput)
    (quantity resultingQuantity : ℤ) (fingerprint : Fingerprint) : NewMovement :=
  { stateTransition input.productId input.locationId input.fromState input.toState quantity
      resultingQuantity (.request input.idempotencyKey) with
    requestFingerprint := fingerprint }

def StateTransitionInput.tracking (input : StateTransitionInput) : Tracking where
  lots := some {}
  serials := some { serialNumbers := input.serialNumbers }

/-- `UPDATE inventory_balances SET ${fromColumn} = ?, ${toColumn} = ?`, the columns being those of
two different states. -/
def Balance.transferred (b : Balance) (fromState toState : StockState) (quantity : ℤ) : Balance :=
  let change := Buckets.moved fromState toState quantity
  { b with
    available := b.available + change.available, reserved := b.reserved + change.reserved,
    damaged := b.damaged + change.damaged, inTransit := b.inTransit + change.inTransit }

theorem Balance.change_transferred (b : Balance) (fromState toState : StockState) (quantity : ℤ) :
    b.change (b.transferred fromState toState quantity) =
      Buckets.moved fromState toState quantity := by
  simp [change, transferred]

def createStateTransition (s : Store) (input : StateTransitionInput) :
    Except Failure MovementResult := do
  ensure (¬(input.fromState = input.toState ∨
    (input.fromState ≠ .AVAILABLE ∧ input.toState ≠ .AVAILABLE))) .invalidStockStateTransition
  let policy ← productQuantityPolicy s input.productId
  let quantity ← normalizeProductQuantity input.quantity policy
  ensure (0 < quantity) .invalidStockStateTransition
  let fingerprint : Fingerprint := .stateTransition input.productId input.locationId
    input.fromState input.toState quantity input.reason input.reference
    (input.serialNumbers.getD [])
  onDuplicate
    (match s.findMovement input.idempotencyKey with
    | some existing => replayMovement s fingerprint existing
    | none => do
      assertTarget s input.warehouseId input.productId input.locationId
      let s := ensureBalance s input.productId input.locationId
      match s.findMovement input.idempotencyKey with
      | some replay => replayMovement s fingerprint replay
      | none => do
        let balance ← demand (s.balance? input.productId input.locationId) .typeError
        ensure (quantity ≤ balance.state input.fromState) .insufficientStockState
        let s ← updateBalance s (balance.transferred input.fromState input.toState quantity)
        let s ← postMovement s (input.newMovement quantity balance.quantity fingerprint)
          input.tracking
        let movement ← demand (s.findMovement input.idempotencyKey) .typeError
        pure { store := s, movement := movement, replay := false })
    (recoverMovement s input.idempotencyKey fingerprint)

end UInventario
