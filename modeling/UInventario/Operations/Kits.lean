import UInventario.Operations.Stock

/-!
# Assembling kits

A kit that is kept in stock is assembled from its components and taken apart again. `operate` moves
the kit and every component at one location by an adjustment each. It runs the valuation of these
movements but neither the pass over lots nor the one over serial numbers.
-/

namespace UInventario

open Outcome

namespace Kits

/-- A request to assemble or disassemble kits. `today` is `CURRENT_DATE()`. -/
structure OperateInput where
  warehouseId : Uuid
  productId : Uuid
  idempotencyKey : Text
  locationId : Uuid
  operationType : KitOperationType
  quantity : ℤ
  today : Day

structure Result where
  store : Store
  operation : KitOperation
  replay : Bool

def findByKey (s : Store) (idempotencyKey : Text) : Option KitOperation :=
  s.documents.kitOperations.rows.find? fun o ↦ o.idempotencyKey = idempotencyKey

def replay (s : Store) (fingerprint : KitFingerprint) (operation : KitOperation) :
    Except Failure Result := do
  ensure (operation.requestFingerprint = fingerprint) .inventoryKitIdempotencyConflict
  pure { store := s, operation := operation, replay := true }

def effectiveKit (s : Store) (productId : Uuid) (today : Day) :
    Except Failure (ProductKit × Product) := do
  let product ← demand (s.products.find? productId) .inventoryKitNotFound
  let kit ← demand (s.documents.kits.find? productId) .inventoryKitNotFound
  ensure (product.active = true ∧ kit.effectiveOn today = true) .inventoryKitNotFound
  pure (kit, product)

/-- `changes.set(key, change)`. -/
def setChange (changes : List (Uuid × ℤ)) (productId : Uuid) (change : ℤ) : List (Uuid × ℤ) :=
  changes.filter (fun c ↦ c.1 ≠ productId) ++ [(productId, change)]

def componentSign : KitOperationType → ℤ
  | .ASSEMBLE => -1
  | .DISASSEMBLE => 1

/-- What the operation moves of every product, in the order of the products. -/
def changes (kit : ProductKit) (operationType : KitOperationType) (kitUnits : ℤ) :
    List (Uuid × ℤ) :=
  let components := kit.components.foldl (fun cs c ↦
    setChange cs c.productId (componentSign operationType * (kitUnits * c.quantity / 1000))) []
  orderBy (fun a b : Uuid × ℤ ↦ a.1 ≤ b.1)
    (setChange components kit.productId (-componentSign operationType * kitUnits))

def movement (operationId locationId : Uuid) (change : Uuid × ℤ) (resultingQuantity : ℤ) :
    NewMovement where
  productId := change.1
  locationId := locationId
  type := .ADJUSTMENT
  quantityChange := change.2
  resultingQuantity := resultingQuantity
  idempotencyKey := .kit operationId change.1

def moveProduct (operationId locationId : Uuid) (s : Store) (change : Uuid × ℤ) :
    Except Failure Store := do
  let s := ensureBalance s change.1 locationId
  let balance ← demand (s.balance? change.1 locationId) .typeError
  ensure (¬(change.2 < 0 ∧ balance.available < -change.2)) .inventoryKitInsufficientStock
  let s ← updateBalance s { balance with
    quantity := balance.quantity + change.2, available := balance.available + change.2 }
  postMovement s (movement operationId locationId change (balance.quantity + change.2)) {}

/-- `operate` of a request that is not known. -/
def operateNew (s : Store) (input : OperateInput) (fingerprint : KitFingerprint) :
    Except Failure Result := do
  let (kit, product) ← effectiveKit s input.productId input.today
  ensure (kit.stockMode = .ASSEMBLED) .inventoryKitNotAssembled
  let kitUnits ← normalizeProductQuantity input.quantity product.quantityPolicy
  ensure (0 < kitUnits) .inventoryKitNotAssembled
  let location ← demand (s.locations.find? input.locationId) .inventoryKitNotFound
  ensure (location.warehouseId = input.warehouseId) .inventoryKitNotFound
  ensure (kit.components ≠ []) .inventoryKitNotFound
  let operationId := s.env.uuid .kit_inventory_operations s.documents.kitOperations.rows.length
  let s ← (changes kit input.operationType kitUnits).foldlM
    (moveProduct operationId input.locationId) s
  let operation : KitOperation := {
    id := operationId, idempotencyKey := input.idempotencyKey, requestFingerprint := fingerprint }
  ensure (∀ o ∈ s.documents.kitOperations.rows, o.idempotencyKey ≠ input.idempotencyKey)
    .duplicateEntry
  let operations ← demand (s.documents.kitOperations.insert operation) .duplicateEntry
  pure {
    store := { s with documents := { s.documents with kitOperations := operations } },
    operation := operation, replay := false }

def operate (s : Store) (input : OperateInput) : Except Failure Result :=
  let fingerprint : KitFingerprint := {
    productId := input.productId, locationId := input.locationId,
    operationType := input.operationType, quantity := input.quantity }
  onDuplicate
    (match findByKey s input.idempotencyKey with
    | some existing => replay s fingerprint existing
    | none => operateNew s input fingerprint)
    (do
      let existing ← demand (findByKey s input.idempotencyKey) .duplicateEntry
      replay s fingerprint existing)

/-! ### The writes of an operation -/

end Kits

end UInventario
