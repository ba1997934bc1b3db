import UInventario.Inventory.Journal

/-!
# Reconciliation

`InventoryReconciliationService.run` compares the projections of the store with each other: balances
with movements and with their own buckets; valuations, layers, lots and serial numbers with balances
and with their own histories. A run with a finding that blocks closes the store to further movements
(`operationsBlocked`).

The queries accept half of the last decimal, so at the integer scales here `differs` is inequality.
-/

namespace UInventario

open Outcome List

/-! ### Findings -/

/-- `FindingInput.code`. -/
inductive FindingCode
  | BALANCE_MOVEMENT_MISMATCH | BALANCE_STATE_MISMATCH | VALUATION_QUANTITY_MISMATCH
  | VALUATION_VALUE_MISMATCH | FIFO_LAYER_MISMATCH | LOT_BALANCE_MISMATCH | LOT_LEDGER_MISMATCH
  | SERIAL_STATE_MISMATCH | SERIAL_CUSTODY_INVALID | SERIAL_HISTORY_MISMATCH
  deriving DecidableEq

/-- `FindingInput.severity`. -/
inductive FindingSeverity
  | WARNING | CRITICAL
  deriving DecidableEq

/-- `FindingInput.subjectReference`. -/
inductive FindingSubject
  | lot (lotId : Uuid)
  | state (state : StockState)
  | serial (serialNumber : Text)
  deriving DecidableEq

/-- `FindingInput`, without its texts; the difference is `actualValue` less `expectedValue`. -/
structure Finding where
  code : FindingCode
  severity : FindingSeverity := .CRITICAL
  productId : Uuid
  locationId : Option Uuid
  subjectReference : Option FindingSubject := none
  expectedValue : Option ℤ := none
  actualValue : Option ℤ := none
  blocksOperations : Bool := true
  deriving DecidableEq

/-! ### Sums -/

/-- `SUM(quantity_change)` of the movements of a product at a location. -/
def Store.movementQuantity (s : Store) (productId locationId : Uuid) : ℤ :=
  s.movements.total (Movement.quantityAt productId locationId)

/-- A movement of the product counts with its value, and `SUM` skips a value that is null. -/
def Movement.valueOf (productId : Uuid) (m : Movement) : ℤ :=
  if m.productId = productId then m.valueChange.getD 0 else 0

/-- `SUM(value_change)` of the movements of a product. -/
def Store.movementValue (s : Store) (productId : Uuid) : ℤ :=
  s.movements.total (Movement.valueOf productId)

/-- `inventory_balances.quantity`, zero where there is no row. -/
def Store.balanceQuantity (s : Store) (productId locationId : Uuid) : ℤ :=
  ((s.balances.find? (productId, locationId)).map Balance.quantity).getD 0

/-- `SUM(quantity)` of the balances of a product. -/
def Store.productQuantity (s : Store) (productId : Uuid) : ℤ :=
  s.balances.total fun b ↦ if b.productId = productId then b.quantity else 0

/-- `inventory_valuations.quantity`, zero where there is no row. -/
def Store.valuationQuantity (s : Store) (productId : Uuid) : ℤ :=
  ((s.valuations.find? productId).map Valuation.quantity).getD 0

/-- `inventory_valuations.inventory_value`, zero where there is no row. -/
def Store.valuationValue (s : Store) (productId : Uuid) : ℤ :=
  ((s.valuations.find? productId).map Valuation.inventoryValue).getD 0

/-- `SUM(ilb.quantity)` of the lots of a product at a location. -/
def LotBook.quantityAt (book : LotBook) (productId locationId : Uuid) : ℤ :=
  book.balanceTotal productId fun _ b ↦ if b.locationId = locationId then b.quantity else 0

def SerialBook.count (book : SerialBook) (productId locationId : Uuid) (status : SerialStatus) :
    ℤ :=
  book.serials.total fun r ↦
    if r.productId = productId ∧ r.currentLocationId = some locationId ∧ r.status = status
    then 1 else 0

/-! ### The queries of `collect` -/

/-- `scope_keys`: pairs without repetition whose product and location exist. -/
def scopeKeys (s : Store) (keys : List (Uuid × Uuid)) : List (Uuid × Uuid) :=
  keys.dedup.filter fun key ↦
    (s.products.find? key.1).isSome && (s.locations.find? key.2).isSome

def quantityFindings (keys : List (Uuid × Uuid)) (code : FindingCode) (severity : FindingSeverity)
    (blocksOperations : Bool) (expected actual : Uuid → Uuid → ℤ) : List Finding :=
  (keys.filter fun key ↦ differs (actual key.1 key.2) (expected key.1 key.2)).map fun key ↦ {
    code := code, severity := severity, productId := key.1, locationId := some key.2,
    expectedValue := some (expected key.1 key.2), actualValue := some (actual key.1 key.2),
    blocksOperations := blocksOperations }

def collectMovements (s : Store) : List Finding :=
  quantityFindings
    (scopeKeys s (s.balances.rows.map Keyed.key ++
      s.movements.rows.map fun m ↦ (m.productId, m.locationId)))
    .BALANCE_MOVEMENT_MISMATCH .CRITICAL true s.movementQuantity s.balanceQuantity

def collectStates (s : Store) : List Finding :=
  (s.balances.rows.filter fun b ↦
    (s.products.find? b.productId).isSome && (s.locations.find? b.locationId).isSome &&
      decide (differs b.quantity (b.available + b.reserved + b.damaged + b.inTransit))).map
    fun b ↦ {
      code := .BALANCE_STATE_MISMATCH, productId := b.productId, locationId := some b.locationId,
      expectedValue := some b.quantity,
      actualValue := some (b.available + b.reserved + b.damaged + b.inTransit) }

def valuationFindings (s : Store) (productId : Uuid) : List Finding :=
  (if differs (s.valuationQuantity productId) (s.productQuantity productId) then
    [{ code := .VALUATION_QUANTITY_MISMATCH
       productId := productId
       locationId := none
       expectedValue := some (s.productQuantity productId)
       actualValue := some (s.valuationQuantity productId) }]
  else []) ++
  if differs (s.valuationValue productId) (s.movementValue productId) then
    [{ code := .VALUATION_VALUE_MISMATCH
       productId := productId
       locationId := none
       expectedValue := some (s.movementValue productId)
       actualValue := some (s.valuationValue productId) }]
  else []

def collectValuations (s : Store) : List Finding :=
  s.products.rows.flatMap fun p ↦ valuationFindings s p.id

/-- A difference of the layers blocks only while they are the active method. -/
def collectFifo (s : Store) (method : ValuationMethod) : List Finding :=
  quantityFindings
    (scopeKeys s (s.balances.rows.map Keyed.key ++
      s.fifo.layers.rows.map fun l ↦ (l.productId, l.locationId)))
    .FIFO_LAYER_MISMATCH (if method = .FIFO then .CRITICAL else .WARNING)
    (decide (method = .FIFO)) s.balanceQuantity s.fifo.remainingAt

def lotKeys (book : LotBook) : List (Uuid × Uuid) :=
  book.balances.rows.filterMap fun b ↦
    (book.lots.find? b.lotId).map fun lot ↦ (lot.productId, b.locationId)

def collectLotBalances (s : Store) : List Finding :=
  quantityFindings
    ((scopeKeys s (s.balances.rows.map Keyed.key ++ lotKeys s.lots)).filter fun key ↦
      (s.products.find? key.1).any Product.trackLots)
    .LOT_BALANCE_MISMATCH .CRITICAL true s.balanceQuantity s.lots.quantityAt

/-- `SUM(iml.quantity_change)` of a lot at a location. -/
def LotBook.movedAt (book : LotBook) (lotId locationId : Uuid) : ℤ :=
  book.movementLots.total fun a ↦
    if a.lotId = lotId ∧ a.locationId = locationId then a.quantityChange else 0

def collectLotLedgers (s : Store) : List Finding :=
  s.lots.balances.rows.filterMap fun b ↦
    match s.lots.lots.find? b.lotId with
    | none => none
    | some lot =>
      if (s.products.find? lot.productId).isSome ∧ (s.locations.find? b.locationId).isSome ∧
          differs b.quantity (s.lots.movedAt b.lotId b.locationId) then
        some {
          code := .LOT_LEDGER_MISMATCH, productId := lot.productId, locationId := some b.locationId,
          subjectReference := some (.lot b.lotId),
          expectedValue := some (s.lots.movedAt b.lotId b.locationId),
          actualValue := some b.quantity }
      else none

/-- The four findings of a balance of a product tracked by serial numbers. -/
def serialStateFindings (s : Store) (b : Balance) : List Finding :=
  [StockState.AVAILABLE, .RESERVED, .DAMAGED, .IN_TRANSIT].filterMap fun state ↦
    let serials := QUANTITY_SCALE * s.serials.count b.productId b.locationId state.toSerialStatus
    if differs (b.state state) serials then
      some {
        code := .SERIAL_STATE_MISMATCH, productId := b.productId, locationId := some b.locationId,
        subjectReference := some (.state state), expectedValue := some (b.state state),
        actualValue := some serials }
    else none

def collectSerialStates (s : Store) : List Finding :=
  (s.balances.rows.filter fun b ↦
    (s.products.find? b.productId).any Product.trackSerials &&
      (s.locations.find? b.locationId).isSome).flatMap (serialStateFindings s)

def SerialEvent.newer (a b : SerialEvent) : Prop :=
  b.createdAt < a.createdAt ∨ (a.createdAt = b.createdAt ∧ b.id ≤ a.id)
deriving Decidable

def SerialBook.lastEvent (book : SerialBook) (serialId : Uuid) : Option SerialEvent :=
  (orderBy SerialEvent.newer (book.events.rows.filter fun e ↦ e.serialId = serialId)).head?

def SerialStatus.inCustody : SerialStatus → Bool
  | .AVAILABLE | .RESERVED | .DAMAGED | .IN_TRANSIT => true
  | .SOLD | .RETURNED_TO_SUPPLIER | .REMOVED => false

def currentLocationInvalid (s : Store) (serial : Serial) : Prop :=
  if serial.status.inCustody then
    ∀ locationId ∈ serial.currentLocationId,
      s.balances.find? (serial.productId, locationId) = none
  else serial.currentLocationId ≠ none
deriving Decidable

def historyInvalid (s : Store) (serial : Serial) : Prop :=
  ¬∃ e ∈ s.serials.lastEvent serial.id,
    e.toStatus = serial.status ∧ e.toLocationId = serial.currentLocationId
deriving Decidable

def collectCustody (s : Store) : List Finding :=
  (s.serials.serials.rows.filter fun serial ↦
    (s.products.find? serial.productId).isSome &&
      decide (currentLocationInvalid s serial ∨ historyInvalid s serial)).map fun serial ↦ {
    code := if currentLocationInvalid s serial then .SERIAL_CUSTODY_INVALID
      else .SERIAL_HISTORY_MISMATCH
    productId := serial.productId
    locationId := serial.currentLocationId
    subjectReference := some (.serial serial.serialNumber) }

/-! ### The run -/

def collect (s : Store) : Except Failure (List Finding) := do
  let policy ← demand s.policy .inventoryValuationPolicyNotFound
  pure (collectMovements s ++ collectStates s ++ collectValuations s ++
    collectFifo s policy.method ++ collectLotBalances s ++ collectLotLedgers s ++
    collectSerialStates s ++ collectCustody s)

/-- `run`: a key seen before is a replay. -/
def runReconciliation (s : Store) (idempotencyKey : Text) : Except Failure Store :=
  if idempotencyKey ∈ s.reconciliationRuns then pure s
  else do
    let findings ← collect s
    pure { s with
      reconciliationRuns := idempotencyKey :: s.reconciliationRuns
      operationsBlocked := findings.any Finding.blocksOperations }

/-! ### What a finding says -/

variable {f : Finding}

theorem mem_quantityFindings {keys : List (Uuid × Uuid)} {code : FindingCode}
    {severity : FindingSeverity} {blocks : Bool} {expected actual : Uuid → Uuid → ℤ}
    (h : f ∈ quantityFindings keys code severity blocks expected actual) : f.code = code := by
  obtain ⟨key, -, rfl⟩ := mem_map.mp h
  rfl

variable {s : Store}

theorem mem_valuationFindings {productId : Uuid}
    (h : f ∈ valuationFindings s productId) (hcode : f.code = .VALUATION_VALUE_MISMATCH) :
    s.valuationValue productId ≠ s.movementValue productId := by
  rw [valuationFindings, mem_append] at h
  rcases h with h | h
  · split at h
    · rw [mem_singleton.mp h] at hcode
      cases hcode
    · exact absurd h not_mem_nil
  · split at h
    case isTrue hdiffers => exact differs_iff.mp hdiffers
    case isFalse => exact absurd h not_mem_nil

/-- **The finding of a value** is about a product whose valuation and movements differ in value. -/
theorem valueMismatch_of_collect {findings : List Finding}
    (h : collect s = .ok findings) (hf : f ∈ findings)
    (hcode : f.code = .VALUATION_VALUE_MISMATCH) :
    ∃ p ∈ s.products.rows, s.valuationValue p.id ≠ s.movementValue p.id := by
  simp only [collect, eq_ok] at h
  obtain ⟨policy, -, rfl⟩ := h
  simp only [mem_append] at hf
  rcases hf with ((((((hf | hf) | hf) | hf) | hf) | hf) | hf) | hf
  · rw [mem_quantityFindings hf] at hcode
    cases hcode
  · obtain ⟨b, -, rfl⟩ := mem_map.mp hf
    cases hcode
  · obtain ⟨p, hp, hf⟩ := mem_flatMap.mp hf
    exact ⟨p, hp, mem_valuationFindings hf hcode⟩
  · rw [mem_quantityFindings hf] at hcode
    cases hcode
  · rw [mem_quantityFindings hf] at hcode
    cases hcode
  · obtain ⟨b, -, hb⟩ := mem_filterMap.mp hf
    split at hb
    · cases hb
    · split at hb
      · rw [← Option.some_inj.mp hb] at hcode
        cases hcode
      · cases hb
  · obtain ⟨b, -, hb⟩ := mem_flatMap.mp hf
    obtain ⟨state, -, hstate⟩ := mem_filterMap.mp hb
    dsimp only at hstate
    split at hstate
    · rw [← Option.some_inj.mp hstate] at hcode
      cases hcode
    · cases hstate
  · obtain ⟨serial, -, rfl⟩ := mem_map.mp hf
    split at hcode <;> cases hcode

theorem value_eq_of_collect_nil (h : collect s = .ok []) :
    ∀ p ∈ s.products.rows, s.valuationValue p.id = s.movementValue p.id := by
  simp only [collect, eq_ok] at h
  obtain ⟨policy, -, h⟩ := h
  simp only [append_eq_nil_iff] at h
  have hvaluations : collectValuations s = [] := h.1.1.1.1.1.2
  intro p hp
  by_contra hne
  have hnil := (flatMap_eq_nil_iff.mp hvaluations) p hp
  rw [valuationFindings, if_pos (differs_iff.mpr hne)] at hnil
  simp at hnil

end UInventario
