import Mathlib.Data.List.Lex
import UInventario.Inventory.LotTracking

/-!
# Serial numbers

`applyInventorySerialTracking` runs after the valuation and the lots of a movement. On a product
tracked by serial numbers every unit has a row with a status and a location. An entry registers new
rows; every other movement takes rows in an allowed status and gives them the next status and
location (`transitionFor`). A movement names one serial number for each unit; `SALE_VOID` and the
halves of a transfer's receipt find them in the events of the sale or of the departure.
-/

namespace UInventario

open Outcome

/-! ### Quantities and requests -/

/-- `units`: the whole number of units of a quantity, which may have no decimals. -/
def wholeUnits (quantity : ℤ) : Except Failure ℤ := do
  ensure (quantity % QUANTITY_SCALE = 0) .inventorySerialQuantity
  pure (quantity / QUANTITY_SCALE)

/-- `normalize`. -/
def normalizeSerial (env : Env) (value : Text) : Text :=
  env.toUpperCase (trim value)

/-- `requestedSerials`: as many serial numbers as units, none empty or too long, all different. -/
def requestedSerials (env : Env) (values : List Text) (count : ℤ) : Except Failure (List Text) := do
  let serials := values.map trim
  ensure (0 ≤ count ∧ count ≤ 1000 ∧ (serials.length : ℤ) = count ∧
    (∀ t ∈ serials, t ≠ [] ∧ t.length ≤ 120) ∧
    (∀ t ∈ values, normalizeSerial env t ≠ []) ∧
    (values.map (normalizeSerial env)).Nodup) .inventorySerialRequired
  pure serials

/-- The order in which rows are locked: `sort()` on the normalised numbers. -/
def Text.before (a b : Text) : Prop := a ≤ b
deriving Decidable

/-- `selectSerials`: the rows of the numbers, each of which must exist. -/
def selectSerials (env : Env) (book : SerialBook) (productId : Uuid) (serialNumbers : List Text) :
    Except Failure (List Serial) := do
  let normalized := orderBy Text.before (serialNumbers.map (normalizeSerial env))
  ensure normalized.Nodup .inventorySerialDuplicate
  normalized.mapM fun value ↦
    demand (book.serials.rows.find? fun r ↦ r.productId = productId ∧ r.normalizedSerial = value)
      .inventorySerialNotFound

/-- `sourceSerials`: the numbers that the source movements of the product moved. -/
def sourceSerials (s : Store) (movement : Movement) (sourceType : MovementType) : List Text :=
  let rows := s.serials.events.rows.filterMap fun e ↦
    match s.movements.find? e.movementId, s.serials.serials.find? e.serialId with
    | some source, some serial =>
      if source.productId = movement.productId ∧ source.type = sourceType ∧
          (if sourceType = .SALE then
            sqlEq source.saleId movement.saleId ∧ sqlEq source.saleLineId movement.saleLineId
          else sqlEq source.transferLineId movement.transferLineId = true) then some serial
      else none
    | _, _ => none
  (orderBy (fun a b : Serial ↦ Text.before a.normalizedSerial b.normalizedSerial) rows).map
    Serial.serialNumber

/-! ### The table of transitions -/

/-- What a movement does to a row: the statuses it may find, and the status and location it leaves.
-/
structure SerialTransition where
  allowed : List SerialStatus
  toStatus : SerialStatus
  toLocationId : Option Uuid

/-- The `switch` of the source. -/
def transitionFor (s : Store) (movement : Movement) (destinationLocationId : Option Uuid) :
    Except Failure SerialTransition :=
  match movement.type with
  | .SALE => pure {
      allowed := if movement.reservationId ≠ none then [.RESERVED] else [.AVAILABLE]
      toStatus := .SOLD
      toLocationId := none }
  | .SALE_VOID | .RETURN => pure {
      allowed := [.SOLD, .REMOVED], toStatus := .AVAILABLE,
      toLocationId := some movement.locationId }
  | .SALE_RETURN => do
    let returnLine ← demand (movement.saleReturnLineId.bind s.saleReturnLines.find?)
      .inventorySerialStateConflict
    pure {
      allowed := [.SOLD]
      toStatus := if returnLine.damaged then .DAMAGED else .AVAILABLE
      toLocationId := some movement.locationId }
  | .TRANSFER_OUT => pure {
      allowed := [.AVAILABLE], toStatus := .IN_TRANSIT, toLocationId := destinationLocationId }
  | .TRANSFER_RECEIPT => pure {
      allowed := [.IN_TRANSIT], toStatus := .AVAILABLE, toLocationId := some movement.locationId }
  | .TRANSFER_DISCREPANCY => pure {
      allowed := [.IN_TRANSIT], toStatus := .REMOVED, toLocationId := none }
  | .SUPPLIER_RETURN => pure {
      allowed := [.AVAILABLE], toStatus := .RETURNED_TO_SUPPLIER, toLocationId := none }
  | .STATE_TRANSITION => do
    let fromState ← demand movement.fromState .inventorySerialStateConflict
    let toState ← demand movement.toState .inventorySerialStateConflict
    pure {
      allowed := [fromState.toSerialStatus], toStatus := toState.toSerialStatus,
      toLocationId := some movement.locationId }
  | .DAMAGE => pure {
      allowed := [.AVAILABLE], toStatus := .DAMAGED, toLocationId := some movement.locationId }
  | _ => pure { allowed := [.AVAILABLE], toStatus := .REMOVED, toLocationId := none }

/-- The types for which the row need not be at the movement's location. -/
def MovementType.ignoresSerialLocation : MovementType → Bool
  | .SALE_VOID | .SALE_RETURN => true
  | _ => false

def MovementType.registersSerials : MovementType → Bool
  | .INITIAL | .ENTRY | .PURCHASE_RECEIPT | .IMPORT | .ADJUSTMENT => true
  | _ => false

/-- A supplier return gives back serial numbers its receipt line brought in. -/
def cameWithReturnedLine (s : Store) (movement : Movement) (serialId : Uuid) : Prop :=
  ∃ e ∈ s.serials.events.rows, e.serialId = serialId ∧
    ∃ source ∈ s.movements.find? e.movementId, source.type = .PURCHASE_RECEIPT ∧
      ∃ returnLine ∈ movement.purchaseReturnLineId.bind s.purchaseReturnLines.find?,
        source.purchaseReceiptLineId = some returnLine.purchaseReceiptLineId
deriving Decidable

/-! ### Writing rows and events -/

/-- `appendEvent`: records the step of a row and moves it. -/
def appendEvent (env : Env) (movement : Movement) (book : SerialBook) (serial : Serial)
    (toStatus : SerialStatus) (toLocationId : Option Uuid) : Except Failure SerialBook := do
  -- `uq_inventory_serial_events_movement_serial`
  ensure (∀ e ∈ book.events.rows, ¬(e.movementId = movement.id ∧ e.serialId = serial.id))
    .duplicateEntry
  let events ← demand (book.events.insert {
    id := env.uuid .inventory_serial_events book.events.rows.length, serialId := serial.id,
    movementId := movement.id, fromStatus := some serial.status, toStatus := toStatus,
    fromLocationId := serial.currentLocationId, toLocationId := toLocationId,
    createdAt := env.clock .inventory_serial_events book.events.rows.length }) .duplicateEntry
  pure {
    serials := book.serials.update serial.id fun r ↦
      { r with status := toStatus, currentLocationId := toLocationId }
    events := events }

/-- One turn of `registerSerials`: a new row with its first event. -/
def registerSerial (env : Env) (movement : Movement) (toStatus : SerialStatus) (book : SerialBook)
    (serialNumber : Text) : Except Failure SerialBook := do
  let normalized := normalizeSerial env serialNumber
  -- `uq_inventory_serials_tenant_serial`
  ensure (∀ r ∈ book.serials.rows, r.normalizedSerial ≠ normalized) .inventorySerialDuplicate
  let id := env.uuid .inventory_serials book.serials.rows.length
  let serials ← demand (book.serials.insert {
    id := id, productId := movement.productId, serialNumber := serialNumber,
    normalizedSerial := normalized, status := toStatus,
    currentLocationId := some movement.locationId }) .inventorySerialDuplicate
  let events ← demand (book.events.insert {
    id := env.uuid .inventory_serial_events book.events.rows.length, serialId := id,
    movementId := movement.id, fromStatus := none, toStatus := toStatus, fromLocationId := none,
    toLocationId := some movement.locationId,
    createdAt := env.clock .inventory_serial_events book.events.rows.length })
    .inventorySerialDuplicate
  pure { serials := serials, events := events }

/-- One turn of the last loop of `applyInventorySerialTracking`. -/
def moveSerial (s : Store) (movement : Movement) (destinationLocationId : Option Uuid)
    (book : SerialBook) (serial : Serial) : Except Failure SerialBook := do
  ensure (movement.type = .SUPPLIER_RETURN →
    cameWithReturnedLine { s with serials := book } movement serial.id)
    .inventorySerialStateConflict
  let transition ← transitionFor s movement destinationLocationId
  ensure (serial.status ∈ transition.allowed ∧
    (serial.currentLocationId = some movement.locationId ∨
      movement.type.ignoresSerialLocation = true)) .inventorySerialStateConflict
  appendEvent s.env movement book serial transition.toStatus transition.toLocationId

/-! ### The movement as a whole -/

/-- The options the callers of `applyInventorySerialTracking` may give. -/
structure SerialOptions where
  serialNumbers : Option (List Text) := none
  destinationLocationId : Option Uuid := none

/-- The serial numbers the movement is about: those of the request, or of what it undoes or
receives. -/
def movementSerials (s : Store) (movement : Movement) (options : SerialOptions) : List Text :=
  match movement.type, options.serialNumbers with
  | .SALE_VOID, _ => sourceSerials s movement .SALE
  | .TRANSFER_RECEIPT, none | .TRANSFER_DISCREPANCY, none =>
    sourceSerials s movement .TRANSFER_OUT
  | _, values => values.getD []

def serialCount (movement : Movement) : Except Failure ℤ := do
  let quantity ← wholeUnits movement.quantityChange
  let stateQuantity ← match movement.stateQuantity with
    | some q => wholeUnits q
    | none => pure 0
  pure (if 0 < stateQuantity then stateQuantity else |quantity|)

def applyInventorySerialTracking (s : Store) (movementId : Uuid) (options : SerialOptions) :
    Except Failure Store :=
  match trackedMovement s movementId with
  | none => pure s
  | some (movement, product) =>
    if product.trackSerials = false ∨ (∃ e ∈ s.serials.events.rows, e.movementId = movement.id) ∨
        movement.type = .TRANSFER_IN then pure s
    else do
      let count ← serialCount movement
      let requested ← requestedSerials s.env (movementSerials s movement options) count
      if 0 < movement.quantityChange ∧ movement.type.registersSerials = true then do
        let book ← requested.foldlM (registerSerial s.env movement .AVAILABLE) s.serials
        pure { s with serials := book }
      else do
        let rows ← selectSerials s.env s.serials movement.productId requested
        let book ← rows.foldlM (moveSerial s movement options.destinationLocationId) s.serials
        pure { s with serials := book }

theorem applyInventorySerialTracking_eq_ok {s s' : Store} {movementId : Uuid}
    {options : SerialOptions} (h : applyInventorySerialTracking s movementId options = .ok s') :
    s' = { s with serials := s'.serials } := by
  rw [applyInventorySerialTracking] at h
  split at h
  · obtain rfl := pure_eq_ok.mp h
    rfl
  · split at h
    · obtain rfl := pure_eq_ok.mp h
      rfl
    · simp only [bind_eq_ok] at h
      obtain ⟨count, -, requested, -, h⟩ := h
      split at h
      · simp only [eq_ok] at h
        obtain ⟨-, -, rfl⟩ := h
        rfl
      · simp only [eq_ok] at h
        obtain ⟨-, -, -, -, rfl⟩ := h
        rfl

end UInventario
