import UInventario.Orders.Schema

/-!
# Customer orders

An order is created as a draft with what its cart was quoted at, and taken from status to status by
`transition`, which also moves the status of the fulfilment. A transition names the version it was
decided on, and its key makes it repeatable. The shipment is handed to the carrier by `dispatch`,
which leaves the order `READY`.
-/

namespace UInventario.Orders

open Outcome

/-! ### Creation -/

structure FulfillmentInput where
  method : FulfillmentMethod
  carrierCode : Option CarrierCode

structure PlannedPayment where
  method : Pos.PaymentMethod
  (amount amountReceived : ℤ)
  reference : Option Text

/-- What `create` is called with. -/
structure CreateInput where
  (branchId warehouseId cashRegisterId locationId customerId : Uuid)
  channel : Pos.PriceChannel
  expiresInHours : ℕ
  lines : List Pos.Cart.QuoteCartLineDto
  payments : List PlannedPayment
  quote : Pos.Cart.Quote
  fulfillment : FulfillmentInput
  (idempotencyKey fingerprint : Text)

variable (s : Store)

/-- `findByCreateKey`. -/
def Store.orderByKey (idempotencyKey : Text) : Option CustomerOrder :=
  s.orders.rows.find? fun order ↦ order.idempotencyKey = idempotencyKey

/-- `findById`. -/
def Store.findOrder (branchId orderId : Uuid) : Option CustomerOrder :=
  (s.orders.find? orderId).filter fun order ↦ order.branchId = branchId

def replayCreate (input : CreateInput) (order : CustomerOrder) : Except Failure Unit := do
  ensure (order.requestFingerprint = input.fingerprint) .customerOrderIdempotencyConflict
  let _ ← demand (s.findOrder input.branchId order.id) .customerOrderNotFound

/-- `target`: the branch, the warehouse, the location, the cash register and the customer. -/
def Store.orderTarget (input : CreateInput) : Prop :=
  s.directory.activeBranch input.branchId = true ∧
    s.directory.registerBranch input.cashRegisterId = some input.branchId ∧
    s.directory.activeCustomer input.customerId = true ∧
    ((s.stock.documents.warehouses.find? input.warehouseId).any fun w ↦
      w.branchId = input.branchId && w.active) = true ∧
    ((s.stock.locations.find? input.locationId).any fun l ↦
      l.warehouseId = input.warehouseId && l.active) = true
deriving Decidable

/-- `INSERT INTO customer_order_lines`: a line of the quote, with what was asked for. -/
def orderLine (lines : List Pos.Cart.QuoteCartLineDto) (quoted : Pos.Cart.QuoteLine) :
    Except Failure OrderLine := do
  let requested ← demand (lines.find? fun line ↦ line.productId = quoted.prepared.productId)
    .typeError
  ensure (0 < quoted.prepared.quantity) .checkViolation
  pure {
    productId := quoted.prepared.productId, lotId := requested.lotId,
    quantity := quoted.prepared.quantity, serialNumbers := requested.serialNumbers }

/-- `INSERT INTO customer_order_payments`. -/
def orderPayment (payment : PlannedPayment) : Except Failure OrderPayment := do
  ensure (0 < payment.amount ∧ payment.amount ≤ payment.amountReceived) .checkViolation
  pure {
    method := payment.method, amount := payment.amount, amountReceived := payment.amountReceived,
    reference := payment.reference, status := .PLANNED }

def FulfillmentInput.row (input : FulfillmentInput) : Fulfillment where
  method := input.method
  status := .PENDING
  carrierCode := input.carrierCode
  trackingReference := none
  trackingStatus := none
  latestEventSequence := 0
  manualActionRequired := false
  attemptCount := 0
  lastErrorCode := none

/-- `INSERT INTO customer_orders`, with the checks and keys of the table. -/
def insertOrder (order : CustomerOrder) : Except Failure Store := do
  ensure (0 < order.total ∧ 1 ≤ order.expiresInHours ∧ order.expiresInHours ≤ 720) .checkViolation
  ensure (∀ o ∈ s.orders.rows, o.idempotencyKey ≠ order.idempotencyKey ∧
    o.orderNumber ≠ order.orderNumber) .duplicateEntry
  let orders ← demand (s.orders.insert order) .duplicateEntry
  pure { s with orders := orders }

/-- The transaction of `create`, once the key has not been found. -/
def createLocked (input : CreateInput) : Except Failure Store := do
  ensure (s.orderTarget input) .customerOrderNotFound
  let (id, s) := s.randomUUID
  let lines ← input.quote.lines.mapM (orderLine input.lines)
  let payments ← input.payments.mapM orderPayment
  insertOrder s {
    id := id, branchId := input.branchId, warehouseId := input.warehouseId,
    cashRegisterId := input.cashRegisterId, locationId := input.locationId,
    customerId := input.customerId, orderNumber := s.env.orderNumber id, channel := input.channel,
    status := .DRAFT, version := 1, currency := input.quote.currency,
    total := input.quote.totals.total, expiresInHours := input.expiresInHours,
    reservationId := none, saleId := none, cancellationReason := none,
    idempotencyKey := input.idempotencyKey, requestFingerprint := input.fingerprint, lines := lines,
    payments := payments, fulfillment := input.fulfillment.row }

/-- `catch (error) { if (!this.isDuplicate(error)) … }`: a duplicate is answered by the replay. -/
def onDuplicate (transaction : Except Failure Store) (replay : Except Failure Unit) :
    Except Failure Store :=
  match transaction with
  | .error .duplicateEntry => do
    replay
    pure s
  | result => result

def create (input : CreateInput) : Except Failure Store :=
  match s.orderByKey input.idempotencyKey with
  | some order => do
    replayCreate s input order
    pure s
  | none => onDuplicate s (createLocked s input) (do
    let order ← demand (s.orderByKey input.idempotencyKey) .customerOrderIdempotencyConflict
    replayCreate s input order)

/-! ### Transitions -/

/-- What `transition` is called with, and the time at which it runs. -/
structure TransitionInput where
  (branchId orderId : Uuid)
  version : ℕ
  idempotencyKey : Text
  fromStatuses : List OrderStatus
  toStatus : OrderStatus
  reason : Option Text := none
  reservationId : Option Uuid := none
  saleId : Option Uuid := none
  now : Timestamp

def TransitionInput.fingerprint (input : TransitionInput) : TransitionFingerprint where
  orderId := input.orderId
  version := input.version
  toStatus := input.toStatus
  reason := input.reason.map trim

/-- `findTransition`. -/
def Store.transitionByKey (idempotencyKey : Text) : Option Transition :=
  s.transitions.rows.find? fun t ↦ t.idempotencyKey = idempotencyKey

def replayTransition (input : TransitionInput) (t : Transition) :
    Except Failure Unit := do
  ensure (t.requestFingerprint = input.fingerprint ∧ t.orderId = input.orderId)
    .customerOrderIdempotencyConflict
  let _ ← demand (s.findOrder input.branchId input.orderId) .customerOrderNotFound

def Store.reservationHolds (reservationId : Option Uuid) (now : Timestamp) : Prop :=
  ((reservationId.bind s.stock.documents.reservations.find?).any fun r ↦
    r.status = .ACTIVE && now < r.expiresAt) = true
deriving Decidable

def OrderStatus.fulfillment (toStatus : OrderStatus) (current : FulfillmentStatus) :
    FulfillmentStatus :=
  match toStatus with
  | .PREPARING => .PREPARING
  | .READY => .READY
  | .DELIVERED => .DELIVERED
  | .CANCELLED => .CANCELLED
  | _ => current

def OrderStatus.payment (toStatus : OrderStatus) (current : PlannedPaymentStatus) :
    PlannedPaymentStatus :=
  match toStatus with
  | .DELIVERED => .COMPLETED
  | .CANCELLED => .CANCELLED
  | _ => current

def TransitionInput.apply (input : TransitionInput) (order : CustomerOrder) : CustomerOrder :=
  { order with
    status := input.toStatus
    version := order.version + 1
    reservationId := input.reservationId.or order.reservationId
    saleId := input.saleId.or order.saleId
    cancellationReason :=
      if input.toStatus = .CANCELLED then input.reason.map trim else order.cancellationReason
    fulfillment := { order.fulfillment with
      status := input.toStatus.fulfillment order.fulfillment.status }
    payments := order.payments.map fun p ↦ { p with status := input.toStatus.payment p.status } }

/-- The constraints of `customer_orders` on the references that a transition sets. -/
def assertReferences (input : TransitionInput) : Except Failure Unit := do
  ensure (∀ id ∈ input.reservationId, (s.stock.documents.reservations.find? id).isSome = true)
    .foreignKeyViolation
  ensure (∀ id ∈ input.saleId, (s.sales.find? id).isSome = true) .foreignKeyViolation
  ensure (∀ o ∈ s.orders.rows, o.id ≠ input.orderId →
    (∀ id ∈ input.reservationId, o.reservationId ≠ some id) ∧
      ∀ id ∈ input.saleId, o.saleId ≠ some id) .duplicateEntry

/-- `INSERT INTO customer_order_transitions`, with the key of the table. -/
def insertTransition (t : Transition) : Except Failure Store := do
  ensure (∀ t' ∈ s.transitions.rows, t'.idempotencyKey ≠ t.idempotencyKey) .duplicateEntry
  let transitions ← demand (s.transitions.insert t) .duplicateEntry
  pure { s with transitions := transitions }

/-- The transaction of `transition`, once the key has not been found. -/
def transitionLocked (input : TransitionInput) : Except Failure Store := do
  let current ← demand (s.findOrder input.branchId input.orderId) .customerOrderNotFound
  ensure (current.status ∈ input.fromStatuses) (.customerOrderState (.order current.status))
  ensure (current.version = input.version) .customerOrderVersionConflict
  ensure (input.toStatus ∈ [.PREPARING, .READY] →
    s.reservationHolds current.reservationId input.now) .customerOrderReservationUnavailable
  assertReferences s input
  let (id, s) := s.randomUUID
  insertTransition { s with orders := s.orders.update input.orderId input.apply (fun _ ↦ rfl) } {
    id := id
    orderId := input.orderId
    fromStatus := current.status
    toStatus := input.toStatus
    reason := input.reason.map trim
    idempotencyKey := input.idempotencyKey
    requestFingerprint := input.fingerprint }

/-- `transition`, once its key has not been found. -/
def transitionNew (input : TransitionInput) : Except Failure Store :=
  onDuplicate s (transitionLocked s input) (do
    let t ← demand (s.transitionByKey input.idempotencyKey) .customerOrderIdempotencyConflict
    replayTransition s input t)

/-! ### The five transitions -/

structure ChangeInput where
  (branchId orderId : Uuid)
  version : ℕ
  idempotencyKey : Text
  now : Timestamp

/-- A transition of the order that the request names. -/
def ChangeInput.transition (input : ChangeInput) (fromStatuses : List OrderStatus)
    (toStatus : OrderStatus) : TransitionInput where
  branchId := input.branchId
  orderId := input.orderId
  version := input.version
  idempotencyKey := input.idempotencyKey
  fromStatuses := fromStatuses
  toStatus := toStatus
  now := input.now

/-- The transition that `confirm` ends with. -/
def ChangeInput.confirm (input : ChangeInput) (reservationId : Uuid) : TransitionInput :=
  { input.transition [.DRAFT] .CONFIRMED with reservationId := some reservationId }

def ChangeInput.prepare (input : ChangeInput) : TransitionInput :=
  input.transition [.CONFIRMED] .PREPARING

def ChangeInput.ready (input : ChangeInput) : TransitionInput :=
  input.transition [.PREPARING] .READY

/-- The transition that `deliver` ends with. -/
def ChangeInput.deliver (input : ChangeInput) (saleId : Uuid) : TransitionInput :=
  { input.transition [.READY] .DELIVERED with saleId := some saleId }

/-- The transition that `cancel` ends with. -/
def ChangeInput.cancel (input : ChangeInput) (reason : Text) : TransitionInput :=
  { input.transition [.DRAFT, .CONFIRMED, .PREPARING, .READY] .CANCELLED with
    reason := some reason }

end UInventario.Orders
