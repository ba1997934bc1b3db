import UInventario.Orders.CustomerOrders

/-!
# Shipments

`dispatch` hands the shipment of an order to the carrier, the simulator that the repository ships.
From then on the carrier reports on it, asked (`poll`) or unasked (`event`), and can be asked to
take it back (`cancelShipment`). All of them write the row of the fulfilment; none changes the
order.
-/

namespace UInventario.Orders

open Outcome

/-! ### The carrier -/

/-- `CustomerOrderDispatchResult`. -/
inductive DispatchResult
  | SUCCEEDED (trackingReference : Text)
  | FAILED_RETRYABLE (errorCode : Text)

/-- `SIM-<order>-<attempt>`. -/
def trackingReference (env : Env) (orderNumber : Text) (attempt : ℕ) : Text :=
  textOf "SIM-" ++ orderNumber ++ textOf "-" ++ env.numeral attempt

/-- `createShipment` of the simulator. -/
def createShipment (env : Env) (carrierCode : CarrierCode) (orderNumber : Text) (attempt : ℕ) :
    DispatchResult :=
  if carrierCode = .SIMULATED_RETRY ∧ attempt = 1 then
    .FAILED_RETRYABLE (textOf "SIMULATED_CARRIER_TIMEOUT")
  else .SUCCEEDED (trackingReference env orderNumber attempt)

inductive CancelResult
  | CANCELLED
  | FAILED_RETRYABLE (errorCode : Text)

/-- `cancel` of the simulator. -/
def cancelAtCarrier (scenario : Scenario) : CancelResult :=
  if scenario = .TIMEOUT then .FAILED_RETRYABLE (textOf "SIMULATED_CARRIER_CANCEL_TIMEOUT")
  else .CANCELLED

inductive TrackResult
  | SUCCEEDED (event : CarrierTrackingEvent)
  | FAILED_RETRYABLE (errorCode : Text)

def Scenario.tracked : Scenario → TrackingStatus
  | .OUT_FOR_DELIVERY => .OUT_FOR_DELIVERY
  | .DELIVERED => .DELIVERED
  | _ => .IN_TRANSIT

/-- `track` of the simulator. -/
def track (env : Env) (now : Timestamp) (scenario : Scenario) (trackingReference : Text)
    (currentSequence : ℕ) : TrackResult :=
  if scenario = .TIMEOUT then .FAILED_RETRYABLE (textOf "SIMULATED_CARRIER_TRACKING_TIMEOUT")
  else .SUCCEEDED {
    providerEventId := textOf "POLL-" ++ trackingReference ++ textOf "-" ++
      env.numeral (currentSequence + 1)
    trackingReference := trackingReference
    status := scenario.tracked
    sequence := currentSequence + 1
    occurredAt := now }

/-! ### Dispatch -/

/-- What `dispatch` is called with. -/
structure DispatchInput where
  (branchId orderId : Uuid)
  version : ℕ
  idempotencyKey : Text

/-- `dispatchFingerprint`. -/
def DispatchInput.fingerprint (input : DispatchInput) : DispatchFingerprint where
  orderId := input.orderId
  version := input.version

/-- `findDispatch`. -/
def Store.dispatchByKey (s : Store) (idempotencyKey : Text) : Option DispatchAttempt :=
  s.dispatchAttempts.rows.find? fun a ↦ a.idempotencyKey = idempotencyKey

def replayDispatch (s : Store) (input : DispatchInput) (attempt : DispatchAttempt) :
    Except Failure Unit := do
  ensure (attempt.requestFingerprint = input.fingerprint ∧ attempt.orderId = input.orderId)
    .customerOrderIdempotencyConflict
  let _ ← demand (s.findOrder input.branchId input.orderId) .customerOrderNotFound

/-- `customer_order_dispatch_attempts.status`. -/
def DispatchResult.status : DispatchResult → DispatchStatus
  | .SUCCEEDED _ => .SUCCEEDED
  | .FAILED_RETRYABLE _ => .FAILED_RETRYABLE

def DispatchResult.trackingReference : DispatchResult → Option Text
  | .SUCCEEDED reference => some reference
  | .FAILED_RETRYABLE _ => none

def DispatchResult.errorCode : DispatchResult → Option Text
  | .SUCCEEDED _ => none
  | .FAILED_RETRYABLE code => some code

def DispatchResult.fulfillment : DispatchResult → FulfillmentStatus
  | .SUCCEEDED _ => .DISPATCHED
  | .FAILED_RETRYABLE _ => .RETRYABLE_FAILURE

def DispatchResult.apply (result : DispatchResult) (attempt : ℕ) (f : Fulfillment) :
    Fulfillment :=
  { f with
    status := result.fulfillment
    attemptCount := attempt
    trackingReference := result.trackingReference
    trackingStatus := result.trackingReference.map fun _ ↦ .LABEL_READY
    latestEventSequence := 0
    manualActionRequired := result.status = .FAILED_RETRYABLE
    lastErrorCode := result.errorCode }

/-- The transaction of `dispatch`, once the key has not been found. -/
def dispatchLocked (s : Store) (input : DispatchInput) : Except Failure Store := do
  let current ← demand (s.findOrder input.branchId input.orderId) .customerOrderNotFound
  ensure (current.status = .READY ∧ current.fulfillment.method = .DELIVERY ∧
    current.fulfillment.status ∈ [.READY, .RETRYABLE_FAILURE])
    (.customerOrderState (.fulfillment current.fulfillment.status))
  ensure (current.version = input.version) .customerOrderVersionConflict
  let attempt := current.fulfillment.attemptCount + 1
  let carrierCode ← demand current.fulfillment.carrierCode .checkViolation
  let result := createShipment s.env carrierCode current.orderNumber attempt
  ensure (∀ a ∈ s.dispatchAttempts.rows, a.idempotencyKey ≠ input.idempotencyKey ∧
    ¬(a.orderId = input.orderId ∧ a.attemptNumber = attempt)) .duplicateEntry
  let (id, s) := s.randomUUID
  let attempts ← demand (s.dispatchAttempts.insert {
    id := id, orderId := input.orderId, attemptNumber := attempt, status := result.status,
    trackingReference := result.trackingReference, errorCode := result.errorCode,
    idempotencyKey := input.idempotencyKey,
    requestFingerprint := input.fingerprint }) .duplicateEntry
  pure { s with
    dispatchAttempts := attempts
    orders := s.orders.update input.orderId fun o ↦ { o with
      version := o.version + 1, fulfillment := result.apply attempt o.fulfillment } }

/-- `dispatch`, once its key has not been found. -/
def dispatchNew (s : Store) (input : DispatchInput) : Except Failure Store :=
  onDuplicate s (dispatchLocked s input) (do
    let attempt ← demand (s.dispatchByKey input.idempotencyKey) .customerOrderIdempotencyConflict
    replayDispatch s input attempt)

/-! ### Actions on a shipment -/

/-- What `cancel` and `poll` of the shipping repository are called with. -/
structure ShippingInput where
  (branchId orderId : Uuid)
  idempotencyKey : Text
  scenario : Scenario
  /-- The clock of the carrier, which only a poll reads. -/
  now : Timestamp := 0

/-- `actionReplay`: whether the action has been recorded before. -/
def actionReplay (s : Store) (input : ShippingInput) (action : ShippingActionKind) :
    Except Failure Bool :=
  match s.shippingActions.rows.find? fun a ↦ a.idempotencyKey = input.idempotencyKey with
  | none => pure false
  | some row => do
    ensure (row.orderId = input.orderId ∧ row.action = action ∧ row.scenario = input.scenario)
      .customerOrderIdempotencyConflict
    pure true

def saveAction (s : Store) (input : ShippingInput) (action : ShippingActionKind) :
    Except Failure Store := do
  ensure (∀ a ∈ s.shippingActions.rows, a.idempotencyKey ≠ input.idempotencyKey) .duplicateEntry
  let (id, s) := s.randomUUID
  let actions ← demand (s.shippingActions.insert {
    id := id, orderId := input.orderId, action := action, scenario := input.scenario,
    idempotencyKey := input.idempotencyKey }) .duplicateEntry
  pure { s with shippingActions := actions }

/-- The tracking reference of a shipment; an empty one counts as none. -/
def Fulfillment.shipment (f : Fulfillment) : Option Text :=
  f.trackingReference.filter fun reference ↦ reference ≠ []

def Store.updateFulfillment (s : Store) (orderId : Uuid) (f : Fulfillment → Fulfillment) : Store :=
  { s with orders := s.orders.update orderId fun o ↦ { o with fulfillment := f o.fulfillment } }

def CancelResult.apply (result : CancelResult) (f : Fulfillment) : Fulfillment :=
  match result with
  | .CANCELLED => { f with
      status := .READY, trackingStatus := some .CANCELLED, manualActionRequired := false,
      lastErrorCode := none }
  | .FAILED_RETRYABLE code => { f with manualActionRequired := true, lastErrorCode := some code }

/-- `cancel` of the shipping repository. -/
def cancelShipment (s : Store) (input : ShippingInput) : Except Failure Store := do
  let replayed ← actionReplay s input .CANCEL
  if replayed = true then pure s
  else do
    let current ← demand (s.findOrder input.branchId input.orderId) .customerOrderNotFound
    let _reference ← demand current.fulfillment.shipment
      (.customerOrderState .SHIPMENT_NOT_CREATED)
    ensure (current.fulfillment.trackingStatus ≠ some .DELIVERED)
      (.customerOrderState .SHIPMENT_ALREADY_DELIVERED)
    let result := cancelAtCarrier input.scenario
    saveAction (s.updateFulfillment input.orderId result.apply) input .CANCEL

/-! ### Events -/

/-- Whether an event is news: the shipment is not at its end, and no later event is known. -/
def Fulfillment.takes (f : Fulfillment) (event : CarrierTrackingEvent) : Prop :=
  f.trackingStatus ≠ some .DELIVERED ∧ f.trackingStatus ≠ some .CANCELLED ∧
    f.latestEventSequence < event.sequence
deriving Decidable

def Fulfillment.afterEvent (f : Fulfillment) (event : CarrierTrackingEvent) : Fulfillment :=
  if f.takes event then
    { f with
      trackingStatus := some event.status
      latestEventSequence := event.sequence
      lastErrorCode := if event.status = .EXCEPTION then some (textOf "CARRIER_EXCEPTION") else none
      manualActionRequired := event.status = .EXCEPTION }
  else f

def insertEvent (s : Store) (orderId : Uuid) (current : Fulfillment)
    (event : CarrierTrackingEvent) : Except Failure Store := do
  ensure (∀ e ∈ s.carrierEvents.rows,
    s.env.collate e.event.providerEventId ≠ s.env.collate event.providerEventId) .duplicateEntry
  let (id, s) := s.randomUUID
  let events ← demand (s.carrierEvents.insert {
    id := id, orderId := orderId, event := event,
    applied := decide (current.takes event) }) .duplicateEntry
  pure ({ s with carrierEvents := events }.updateFulfillment orderId fun f ↦ f.afterEvent event)

def applyTrack (s : Store) (orderId : Uuid) (current : Fulfillment) :
    TrackResult → Except Failure Store
  | .FAILED_RETRYABLE code => pure (s.updateFulfillment orderId fun f ↦ { f with
      lastErrorCode := some code, manualActionRequired := true })
  | .SUCCEEDED event => insertEvent s orderId current event

def poll (s : Store) (input : ShippingInput) : Except Failure Store := do
  let replayed ← actionReplay s input .POLL
  if replayed = true then pure s
  else do
    let current ← demand (s.findOrder input.branchId input.orderId) .customerOrderNotFound
    let reference ← demand current.fulfillment.shipment (.customerOrderState .SHIPMENT_NOT_CREATED)
    ensure (current.fulfillment.trackingStatus ≠ some .CANCELLED)
      (.customerOrderState .SHIPMENT_CANCELLED)
    let result := track s.env input.now input.scenario reference
      current.fulfillment.latestEventSequence
    let s ← applyTrack s input.orderId current.fulfillment result
    saveAction s input .POLL

/-- What `event` is called with. -/
structure EventInput where
  (branchId orderId : Uuid)
  event : CarrierTrackingEvent

/-- The row with the identifier of an event, as the query of `event` finds it. -/
def Store.carrierEventById (s : Store) (providerEventId : Text) : Option CarrierEvent :=
  s.carrierEvents.rows.find? fun e ↦
    s.env.collate e.event.providerEventId = s.env.collate providerEventId

/-- What `event` compares of a redelivery with the row it finds. -/
def CarrierEvent.repeatedBy (existing : CarrierEvent) (input : EventInput) : Prop :=
  existing.orderId = input.orderId ∧
    existing.event.trackingReference = input.event.trackingReference ∧
    existing.event.status = input.event.status ∧ existing.event.sequence = input.event.sequence
deriving Decidable

def event (s : Store) (input : EventInput) : Except Failure Store :=
  match s.carrierEventById input.event.providerEventId with
  | some existing => do
    ensure (existing.repeatedBy input) .customerOrderIdempotencyConflict
    pure s
  | none => do
    let current ← demand (s.findOrder input.branchId input.orderId) .customerOrderNotFound
    let reference ← demand current.fulfillment.shipment (.customerOrderState .SHIPMENT_NOT_CREATED)
    ensure (reference = input.event.trackingReference)
      (.customerOrderState .SHIPMENT_REFERENCE_MISMATCH)
    insertEvent s input.orderId current.fulfillment input.event

end UInventario.Orders
