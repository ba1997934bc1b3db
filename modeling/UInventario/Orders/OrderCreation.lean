import UInventario.Orders.CustomerOrderService

/-!
# The creation of an order

`create` of the service of customer orders as a saga: a request that has been served is answered
with the order as it is now; otherwise the cart is quoted, the plan of the payments and the
fulfilment are checked, and the order is created. The fingerprint comes with the input. `parseDate`
is `new Date(…)`, without a value where that is no date.
-/

namespace UInventario.Orders

open Outcome Sagas

/-! ### Requests -/

/-- `CustomerOrderFulfillmentDto`. -/
structure FulfillmentDto where
  method : FulfillmentMethod
  (windowStart windowEnd : Text)
  deliveryCost : Pos.Cart.DecimalString 2
  recipientName : Option Text := none
  recipientPhone : Option Text := none
  addressLine1 : Option Text := none
  addressLine2 : Option Text := none
  city : Option Text := none
  region : Option Text := none
  postalCode : Option Text := none
  countryCode : Option Text := none
  carrierCode : Option CarrierCode := none

/-- What `create` of the service is called with. -/
structure CreateOrderInput where
  place : Pos.Cart.Workplace
  (locationId customerId : Uuid)
  channel : Pos.PriceChannel
  expiresInHours : ℕ
  fulfillment : FulfillmentDto
  lines : List Pos.Cart.QuoteCartLineDto
  payments : List Pos.Cart.SalePaymentDto
  (idempotencyKey fingerprint : Text)

/-- What the service refuses a request with before it asks the repository to create the order. -/
inductive CreationFailure
  | orderDiscountNotSupported
  | paymentAmountInvalid | cashReceivedRequired | insufficientCashReceived
  | paymentReferenceRequired | paymentTotalMismatch
  | orderFulfillmentWindowInvalid | orderPickupDataInvalid | orderDeliveryDataRequired
  | order (failure : Failure)
  deriving DecidableEq

/-! ### Checks -/

/-- The turn of `normalizePayments` for one payment. -/
def normalizePayment (single : Bool) (total : ℤ) (payment : Pos.Cart.SalePaymentDto) :
    Except CreationFailure PlannedPayment := do
  let amount ← demand
    ((payment.amount.map Pos.Cart.toMoneyCents).or (if single then some total else none))
    .paymentAmountInvalid
  ensure (0 < amount) .paymentAmountInvalid
  if payment.method = .CASH then do
    let received ← demand (payment.amountReceived.map Pos.Cart.toMoneyCents) .cashReceivedRequired
    ensure (Pos.Cart.present payment.reference = false) .cashReceivedRequired
    ensure (amount ≤ received) .insufficientCashReceived
    pure {
      method := payment.method, amount := amount, amountReceived := received, reference := none }
  else do
    ensure (Pos.Cart.present payment.reference = true ∧ payment.amountReceived = none)
      .paymentReferenceRequired
    pure {
      method := payment.method, amount := amount, amountReceived := amount,
      reference := payment.reference }

def normalizePayments (payments : List Pos.Cart.SalePaymentDto) (total : ℤ) :
    Except CreationFailure (List PlannedPayment) := do
  let normalized ← payments.mapM (normalizePayment (decide (payments.length = 1)) total)
  ensure ((normalized.map PlannedPayment.amount).sum = total) .paymentTotalMismatch
  pure normalized

section Fulfillment

variable (parseDate : Text → Option Timestamp)

def windowSlack : ℕ := 5 * 60000

/-- See `windowSlack`. -/
def windowLength : ℕ := 7 * 24 * HOUR

def windowValid (now : Timestamp) (dto : FulfillmentDto) : Prop :=
  ∃ start ∈ parseDate dto.windowStart, ∃ stop ∈ parseDate dto.windowEnd,
    now ≤ start + windowSlack ∧ start < stop ∧ stop - start ≤ windowLength
deriving Decidable

def FulfillmentDto.required (dto : FulfillmentDto) : List (Option Text) :=
  [dto.recipientName, dto.recipientPhone, dto.addressLine1, dto.city, dto.region, dto.postalCode,
    dto.countryCode, dto.carrierCode.map fun _ ↦ textOf "SIMULATED"]

/-- `normalizeFulfillment`, for what is kept of it. -/
def normalizeFulfillment (now : Timestamp) (dto : FulfillmentDto) :
    Except CreationFailure FulfillmentInput := do
  ensure (windowValid parseDate now dto) .orderFulfillmentWindowInvalid
  match dto.method with
  | .PICKUP => do
    ensure (Pos.Cart.toMoneyCents dto.deliveryCost = 0 ∧ dto.carrierCode = none ∧
      Pos.Cart.present dto.addressLine1 = false ∧ Pos.Cart.present dto.recipientName = false ∧
      Pos.Cart.present dto.recipientPhone = false) .orderPickupDataInvalid
    pure { method := .PICKUP, carrierCode := none }
  | .DELIVERY => do
    ensure (∀ value ∈ dto.required, (value.map trim).any fun text ↦ text ≠ [])
      .orderDeliveryDataRequired
    pure { method := .DELIVERY, carrierCode := dto.carrierCode }

end Fulfillment

/-! ### The request -/

def CreateOrderInput.cart (input : CreateOrderInput) : Pos.Cart.QuoteCartDto where
  customerId := some input.customerId
  channel := some input.channel
  lines := input.lines

def CreateOrderInput.row (input : CreateOrderInput) (quote : Pos.Cart.Quote)
    (payments : List PlannedPayment) (fulfillment : FulfillmentInput) : CreateInput where
  branchId := input.place.branchId
  warehouseId := input.place.warehouseId
  cashRegisterId := input.place.cashRegisterId
  locationId := input.locationId
  customerId := input.customerId
  channel := input.channel
  expiresInHours := input.expiresInHours
  lines := input.lines
  payments := payments
  quote := quote
  fulfillment := fulfillment
  idempotencyKey := input.idempotencyKey
  fingerprint := input.fingerprint

/-- `findByIdempotency`. -/
def Store.createdOrder (s : Store) (branchId : Uuid) (idempotencyKey : Text) :
    Option CustomerOrder :=
  (s.orderByKey idempotencyKey).bind fun order ↦ s.findOrder branchId order.id

/-- What `create` asks the repository for. -/
def prepareOrder (parseDate : Text → Option Timestamp) (s : Store) (input : CreateOrderInput) :
    Except CreationFailure CreateInput := do
  let quote ← (Pos.Cart.quoteCart s.counter input.place {} input.cart).mapError (.order ∘ .sale)
  let payments ← normalizePayments input.payments quote.totals.total
  let fulfillment ← normalizeFulfillment parseDate s.shop.now input.fulfillment
  pure (input.row quote payments fulfillment)

def replayOrder (input : CreateOrderInput) (order : CustomerOrder) :
    Except CreationFailure CustomerOrder := do
  ensure (order.requestFingerprint = input.fingerprint) (.order .customerOrderIdempotencyConflict)
  pure order

/-- `create` of the repository, with the order it is answered with. -/
def createAnswered (s : Store) (input : CreateInput) : Except Failure (Store × CustomerOrder) := do
  let s ← create s input
  let order ← demand (s.createdOrder input.branchId input.idempotencyKey) .customerOrderNotFound
  pure (s, order)

/-- **`create`** of the service. -/
def createOrder (parseDate : Text → Option Timestamp) (input : CreateOrderInput) :
    Saga Store CreationFailure CustomerOrder := do
  let _key ← .check ((assertKey (some input.idempotencyKey)).mapError .order)
  .check (ensure (∀ line ∈ input.lines, line.discount = none) .orderDiscountNotSupported)
  let found ← .look fun s ↦
    match s.createdOrder input.place.branchId input.idempotencyKey with
    | none => pure none
    | some order => (replayOrder input order).map some
  match found with
  | some order => pure order
  | none => do
    let row ← .look fun s ↦ prepareOrder parseDate s input
    .transaction fun s ↦ (createAnswered s row).mapError .order

end UInventario.Orders
