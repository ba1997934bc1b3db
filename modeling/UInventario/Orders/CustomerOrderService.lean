import UInventario.Foundations.Sagas
import UInventario.Orders.ReservedSales
import UInventario.Orders.Shipping

/-!
# The service of customer orders

The requests on orders as sagas: what the service asks of the repositories, each of which commits
before the next one begins. `confirm` makes the reservation before the transition and releases it
when that fails; `cancel` takes the shipment back and releases the reservation before the
transition; `deliver` makes the sale before it.

A transaction that looks a key up before it takes its locks is two turns.
-/

namespace UInventario.Orders

open Outcome Sagas

/-! ### Keys -/

def assertKey (value : Option Text) : Except Failure Text := do
  let key ← demand value .invalidIdempotencyKey
  ensure (isIdempotencyKey key = true) .invalidIdempotencyKey
  pure key

/-- `order-reservation:<order>`. -/
def reservationKey (env : Env) (orderId : Uuid) : Text :=
  textOf "order-reservation:" ++ env.uuidText orderId

/-- `order-reservation-cleanup:<order>`. -/
def cleanupKey (env : Env) (orderId : Uuid) : Text :=
  textOf "order-reservation-cleanup:" ++ env.uuidText orderId

/-- `order-delivery:<order>`. -/
def deliveryKey (env : Env) (orderId : Uuid) : Text :=
  textOf "order-delivery:" ++ env.uuidText orderId

/-- `order-carrier-cancel:<order>`. -/
def carrierCancelKey (env : Env) (orderId : Uuid) : Text :=
  textOf "order-carrier-cancel:" ++ env.uuidText orderId

/-- `order-cancel-reservation:<order>`. -/
def cancelReservationKey (env : Env) (orderId : Uuid) : Text :=
  textOf "order-cancel-reservation:" ++ env.uuidText orderId

/-! ### Requests -/

structure CustomerOrderTransitionInput where
  place : Pos.Cart.Workplace
  orderId : Uuid
  idempotencyKey : Option Text
  version : ℕ
  reason : Option Text := none

def CustomerOrderTransitionInput.change (input : CustomerOrderTransitionInput)
    (idempotencyKey : Text) (now : Timestamp) : ChangeInput where
  branchId := input.place.branchId
  orderId := input.orderId
  version := input.version
  idempotencyKey := idempotencyKey
  now := now

structure ReservationRequest where
  (branchId warehouseId : Uuid)
  idempotencyKey : Text
  (customerId locationId : Uuid)
  expiresInHours : ℕ
  lines : List ReservationLineRequest

/-- The request at a turn, with what is read of the branch and the customer. -/
def ReservationRequest.input (r : ReservationRequest) (s : Store) : ReservationInput where
  branchId := r.branchId
  warehouseId := r.warehouseId
  idempotencyKey := r.idempotencyKey
  customerId := r.customerId
  locationId := r.locationId
  expiresInHours := r.expiresInHours
  lines := r.lines
  now := s.shop.now
  activeBranch := s.directory.activeBranch r.branchId
  activeCustomer := s.directory.activeCustomer r.customerId

/-! ### What is asked of the repositories -/

def requireOrder (branchId orderId : Uuid) : Saga Store Failure CustomerOrder :=
  .look fun s ↦ demand (s.findOrder branchId orderId) .customerOrderNotFound

def change (input : Timestamp → TransitionInput) : Saga Store Failure Unit := do
  let replayed ← .look fun s ↦
    match s.transitionByKey (input s.shop.now).idempotencyKey with
    | none => pure false
    | some t => (replayTransition s (input s.shop.now) t).map fun _ ↦ true
  if replayed = true then pure ()
  else .commit fun s ↦ transitionNew s (input s.shop.now)

/-- `create` of the service of reservations. -/
def reserve (r : ReservationRequest) : Saga Store Failure Reservation := do
  .check (ensure (r.lines.map ReservationLineRequest.productId).Nodup .duplicateReservationProduct)
  let found ← .look fun s ↦
    match s.stock.reservationByKey r.idempotencyKey with
    | none => pure none
    | some stored => ((replayReservation (r.input s) stored).map some).mapError .stock
  match found with
  | some reservation => pure reservation
  | none => .transaction fun s ↦
      ((createReservation s.stock (r.input s)).map fun result ↦
        ({ s with stock := result.1 }, result.2)).mapError .stock

/-- `release` of the service of reservations. -/
def release (branchId reservationId : Uuid) (idempotencyKey reason : Text) :
    Saga Store Failure Unit :=
  .commit fun s ↦
    ((releaseReservation s.stock branchId reservationId idempotencyKey reason).map fun stock ↦
      { s with stock := stock }).mapError .stock

/-- The reservation is due: `SELECT id … WHERE status = 'ACTIVE' AND expires_at <= …`. -/
def Store.isDue (s : Store) (branchId reservationId : Uuid) : Bool :=
  (s.stock.documents.reservations.find? reservationId).any fun r ↦
    r.branchId = branchId && r.status = .ACTIVE && r.expiresAt ≤ s.shop.now

/-- `expireDue`, for one of the reservations that are due. -/
def expire (branchId reservationId : Uuid) : Saga Store Failure Unit := do
  let due ← .look fun s ↦ pure (s.isDue branchId reservationId)
  if due = true then
    (Saga.commit fun s ↦
      ((expireReservation s.env.uuidText s.stock branchId reservationId).map fun stock ↦
        { s with stock := stock }).mapError .stock).rescue fun e ↦
      .check (ensure (e = .stock .productReservationNotActive) e)
  else pure ()

section Sale

variable (commit : Pos.Cart.Persist)

/-- `createSale`, for a sale that names a reservation. -/
def createSale (r : Pos.Cart.SaleRequest) : Saga Store Failure Uuid := do
  .check ((Pos.Cart.assertCredit r).mapError .sale)
  let (fingerprint, replayed) ← .look fun s ↦ do
    let fingerprint ← (Pos.Cart.saleFingerprint s.stock.env.toUpperCase r.dto).mapError .sale
    match s.saleByKey r.idempotencyKey with
    | none => pure (fingerprint, none)
    | some sale => (replaySale fingerprint sale).map fun id ↦ (fingerprint, some id)
  match replayed with
  | some id => pure id
  | none => do
    let content ← .look fun s ↦
      (Pos.Cart.prepareSale s.stock.env.toUpperCase s.counter r).mapError .sale
    let replayed ← .look fun s ↦
      match s.saleByKey r.idempotencyKey with
      | none => pure none
      | some sale => (replaySale fingerprint sale).map some
    match replayed with
    | some id => pure id
    | none => .transaction fun s ↦ persistSale commit s r.idempotencyKey fingerprint content

end Sale

/-! ### Confirmation -/

def CustomerOrder.reservation (order : CustomerOrder) (env : Env)
    (place : Pos.Cart.Workplace) : ReservationRequest where
  branchId := place.branchId
  warehouseId := place.warehouseId
  idempotencyKey := reservationKey env order.id
  customerId := order.customerId
  locationId := order.locationId
  expiresInHours := order.expiresInHours
  lines := order.lines.map fun line ↦
    { productId := line.productId, quantity := line.quantity, serialNumbers := line.serialNumbers }

/-- What `confirm` does when the transition has failed. -/
def compensate (input : CustomerOrderTransitionInput) (reservationId : Uuid) (error : Failure) :
    Saga Store Failure Unit := do
  let (latest, env) ← .look fun s ↦ pure (s.findOrder input.place.branchId input.orderId, s.env)
  if latest.bind CustomerOrder.reservationId = some reservationId then .check (.error error)
  else do
    release input.place.branchId reservationId (cleanupKey env input.orderId)
      (textOf "Compensación de confirmación de pedido")
    .check (.error error)

def confirm (input : CustomerOrderTransitionInput) : Saga Store Failure Unit := do
  let key ← .check (assertKey input.idempotencyKey)
  let current ← requireOrder input.place.branchId input.orderId
  let env ← .look fun s ↦ pure s.env
  .check (ensure (current.status ∈ [.DRAFT, .CONFIRMED])
    (.customerOrderState (.order current.status)))
  let reservation ← reserve (current.reservation env input.place)
  (change fun now ↦ (input.change key now).confirm reservation.id).rescue
    (compensate input reservation.id)

/-! ### Preparation -/

def prepare (input : CustomerOrderTransitionInput) : Saga Store Failure Unit := do
  let key ← .check (assertKey input.idempotencyKey)
  change fun now ↦ (input.change key now).prepare

def ready (input : CustomerOrderTransitionInput) : Saga Store Failure Unit := do
  let key ← .check (assertKey input.idempotencyKey)
  change fun now ↦ (input.change key now).ready

/-! ### Delivery -/

/-- The text of a decimal that a column holds: `k` digits after the point. -/
def decimalString (k n : ℕ) : Pos.Cart.DecimalString k where
  whole := n / 10 ^ k
  fraction := (List.range k).map fun i ↦ Fin.ofNat 10 (n / 10 ^ (k - 1 - i))
  length_le := by simp

def saleLines (order : CustomerOrder) : List Pos.Cart.QuoteCartLineDto :=
  order.lines.map fun line ↦
    { productId := line.productId
      quantity := decimalString 3 line.quantity.toNat
      lotId := line.lotId
      serialNumbers := line.serialNumbers }

def OrderPayment.toSale (payment : OrderPayment) : Pos.Cart.SalePaymentDto where
  method := payment.method
  amount := some (decimalString 2 payment.amount.toNat)
  amountReceived :=
    if payment.method = .CASH then some (decimalString 2 payment.amountReceived.toNat) else none
  reference := if payment.method = .CASH then none else payment.reference

/-- The cart that `deliver` has quoted. -/
def CustomerOrder.deliveryCart (order : CustomerOrder) (reservationId : Uuid) :
    Pos.Cart.QuoteCartDto where
  reservationId := some reservationId
  customerId := some order.customerId
  channel := some order.channel
  lines := saleLines order

def CustomerOrder.saleRequest (order : CustomerOrder) (env : Env) (place : Pos.Cart.Workplace)
    (reservationId : Uuid) : Pos.Cart.SaleRequest where
  place := place
  idempotencyKey := deliveryKey env order.id
  dto := {
    reservationId := some reservationId, customerId := some order.customerId,
    channel := some order.channel, lines := saleLines order,
    payments := some (order.payments.map OrderPayment.toSale) }

/-- The status and fulfilment are ones that `deliver` goes on with; the reservation it is sold from.
-/
def assertDeliverable (current : CustomerOrder) : Except Failure Uuid := do
  ensure (current.status ∈ [.READY, .DELIVERED]) (.customerOrderState (.order current.status))
  let reservationId ← demand current.reservationId (.customerOrderState (.order current.status))
  ensure (current.status = .READY →
      (current.fulfillment.method = .PICKUP → current.fulfillment.status = .READY) ∧
      (current.fulfillment.method = .DELIVERY → current.fulfillment.status = .DISPATCHED))
    (.customerOrderState (.fulfillment current.fulfillment.status))
  pure reservationId

def assertPrice (s : Store) (place : Pos.Cart.Workplace) (current : CustomerOrder)
    (reservationId : Uuid) : Except Failure Unit := do
  let quote ← (Pos.Cart.quoteCart s.counter place {} (current.deliveryCart reservationId)).mapError
    .sale
  ensure (quote.currency = current.currency ∧ quote.totals.total = current.total)
    .customerOrderPriceChanged

/-- The sale that `deliver` makes or finds. -/
def deliverySale (commit : Pos.Cart.Persist)
    (input : CustomerOrderTransitionInput) : Saga Store Failure Uuid := do
  let current ← requireOrder input.place.branchId input.orderId
  let env ← .look fun s ↦ pure s.env
  let reservationId ← .check (assertDeliverable current)
  .look fun s ↦ if current.status = .READY then assertPrice s input.place current reservationId
    else pure ()
  createSale commit (current.saleRequest env input.place reservationId)

def deliver (commit : Pos.Cart.Persist)
    (input : CustomerOrderTransitionInput) : Saga Store Failure Unit := do
  let key ← .check (assertKey input.idempotencyKey)
  let saleId ← deliverySale commit input
  change fun now ↦ (input.change key now).deliver saleId

/-! ### Cancellation -/

def CustomerOrder.shipped (order : CustomerOrder) : Prop :=
  order.status ≠ .CANCELLED ∧ order.fulfillment.method = .DELIVERY ∧
    order.fulfillment.status = .DISPATCHED ∧ order.fulfillment.shipment ≠ none
deriving Decidable

/-- What `cancel` asks of the carrier. -/
def CustomerOrder.carrierCancellation (order : CustomerOrder) (env : Env) : ShippingInput where
  branchId := order.branchId
  orderId := order.id
  idempotencyKey := carrierCancelKey env order.id
  scenario := .SUCCESS

def takeBack (current : CustomerOrder) (env : Env) : Saga Store Failure Unit :=
  if current.shipped then .commit fun s ↦ cancelShipment s (current.carrierCancellation env)
  else pure ()

/-- `Pedido <number> cancelado`. -/
def CustomerOrder.cancelledText (order : CustomerOrder) : Text :=
  textOf "Pedido " ++ order.orderNumber ++ textOf " cancelado"

def giveUp (current : CustomerOrder) (env : Env) : Saga Store Failure Unit :=
  match current.reservationId with
  | none => pure ()
  | some reservationId =>
    if current.status = .CANCELLED then pure ()
    else release current.branchId reservationId (cancelReservationKey env current.id)
      current.cancelledText

def assertReason (reason : Option Text) : Except Failure Text :=
  demand (reason.filter fun r ↦ trim r ≠ []) .orderCancellationReasonRequired

def cancel (input : CustomerOrderTransitionInput) : Saga Store Failure Unit := do
  let key ← .check (assertKey input.idempotencyKey)
  let reason ← .check (assertReason input.reason)
  let current ← requireOrder input.place.branchId input.orderId
  let env ← .look fun s ↦ pure s.env
  .check (ensure (current.status ∈ [.DRAFT, .CONFIRMED, .PREPARING, .READY, .CANCELLED])
    (.customerOrderState (.order current.status)))
  takeBack current env
  giveUp current env
  change fun now ↦ (input.change key now).cancel reason

end UInventario.Orders
