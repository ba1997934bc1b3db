import UInventario.Inventory.ValuationPolicyService
import UInventario.Pos.SaleRequests

/-!
# The rows of customer orders

The tables of customer orders and of their shipments, of one tenant. The lines, the payments and the
fulfilment of an order are created with it and never deleted; they are columns of the order here.
Quantities are thousandths, amounts of money cents.

`randomUUID` draws from a stream, of which nothing is assumed: an identifier drawn twice makes the
insertion fail. The fingerprint of a request is the payload whose hash the source keeps.
-/

namespace UInventario.Orders

/-! ### Enumerations -/

/-- `CustomerOrderStatus`. -/
inductive OrderStatus
  | DRAFT | CONFIRMED | PREPARING | READY | DELIVERED | CANCELLED
  deriving DecidableEq

/-- `CustomerOrderFulfillmentStatus`. -/
inductive FulfillmentStatus
  | PENDING | PREPARING | READY | RETRYABLE_FAILURE | DISPATCHED | DELIVERED | CANCELLED
  deriving DecidableEq

/-- `CUSTOMER_ORDER_FULFILLMENT_METHODS`. -/
inductive FulfillmentMethod
  | PICKUP | DELIVERY
  deriving DecidableEq

/-- `CUSTOMER_ORDER_CARRIERS`. -/
inductive CarrierCode
  | SIMULATED | SIMULATED_RETRY
  deriving DecidableEq

/-- `CarrierTrackingStatus`. -/
inductive TrackingStatus
  | LABEL_READY | IN_TRANSIT | OUT_FOR_DELIVERY | DELIVERED | EXCEPTION | CANCELLED
  deriving DecidableEq

/-- `customer_order_payments.status`. -/
inductive PlannedPaymentStatus
  | PLANNED | COMPLETED | CANCELLED
  deriving DecidableEq

/-- `customer_order_dispatch_attempts.status`. -/
inductive DispatchStatus
  | SUCCEEDED | FAILED_RETRYABLE
  deriving DecidableEq

/-- `customer_order_shipping_actions.action`. -/
inductive ShippingActionKind
  | CANCEL | POLL
  deriving DecidableEq

/-- The status that a `CustomerOrderStateError` carries. -/
inductive ReportedStatus
  | order (status : OrderStatus)
  | fulfillment (status : FulfillmentStatus)
  | SHIPMENT_NOT_CREATED | SHIPMENT_ALREADY_DELIVERED | SHIPMENT_CANCELLED
  | SHIPMENT_REFERENCE_MISMATCH
  deriving DecidableEq

/-! ### Orders -/

structure Fulfillment where
  method : FulfillmentMethod
  status : FulfillmentStatus
  carrierCode : Option CarrierCode
  trackingReference : Option Text
  trackingStatus : Option TrackingStatus
  latestEventSequence : ℕ
  manualActionRequired : Bool
  attemptCount : ℕ
  lastErrorCode : Option Text
  deriving DecidableEq

structure OrderLine where
  productId : Uuid
  lotId : Option Uuid
  quantity : ℤ
  serialNumbers : List Text
  deriving DecidableEq

structure OrderPayment where
  method : Pos.PaymentMethod
  (amount amountReceived : ℤ)
  reference : Option Text
  status : PlannedPaymentStatus
  deriving DecidableEq

/-- A row of `customer_orders`, with its lines, its payments and its fulfilment. -/
structure CustomerOrder where
  (id branchId warehouseId cashRegisterId locationId customerId : Uuid)
  orderNumber : Text
  channel : Pos.PriceChannel
  status : OrderStatus
  version : ℕ
  currency : Currency
  total : ℤ
  expiresInHours : ℕ
  (reservationId saleId : Option Uuid)
  cancellationReason : Option Text
  (idempotencyKey requestFingerprint : Text)
  lines : List OrderLine
  payments : List OrderPayment
  fulfillment : Fulfillment
  deriving DecidableEq

instance : Keyed CustomerOrder Uuid := ⟨CustomerOrder.id⟩

/-- The payload that `transition` hashes. -/
structure TransitionFingerprint where
  orderId : Uuid
  version : ℕ
  toStatus : OrderStatus
  reason : Option Text
  deriving DecidableEq

structure Transition where
  (id orderId : Uuid)
  (fromStatus toStatus : OrderStatus)
  reason : Option Text
  idempotencyKey : Text
  requestFingerprint : TransitionFingerprint

instance : Keyed Transition Uuid := ⟨Transition.id⟩

/-! ### Shipments -/

/-- The payload that `dispatchFingerprint` hashes. -/
structure DispatchFingerprint where
  orderId : Uuid
  version : ℕ
  deriving DecidableEq

structure DispatchAttempt where
  (id orderId : Uuid)
  attemptNumber : ℕ
  status : DispatchStatus
  (trackingReference errorCode : Option Text)
  idempotencyKey : Text
  requestFingerprint : DispatchFingerprint

instance : Keyed DispatchAttempt Uuid := ⟨DispatchAttempt.id⟩

/-- The `scenario` of a request to the carrier. -/
inductive Scenario
  | SUCCESS | TIMEOUT | IN_TRANSIT | OUT_FOR_DELIVERY | DELIVERED
  deriving DecidableEq

/-- A row of `customer_order_shipping_actions`; the order, the action and the scenario are what its
fingerprint hashes. -/
structure ShippingAction where
  (id orderId : Uuid)
  action : ShippingActionKind
  scenario : Scenario
  idempotencyKey : Text

instance : Keyed ShippingAction Uuid := ⟨ShippingAction.id⟩

structure CarrierTrackingEvent where
  (providerEventId trackingReference : Text)
  status : TrackingStatus
  sequence : ℕ
  occurredAt : Timestamp
  deriving DecidableEq

structure CarrierEvent where
  (id orderId : Uuid)
  event : CarrierTrackingEvent
  applied : Bool

instance : Keyed CarrierEvent Uuid := ⟨CarrierEvent.id⟩

/-! ### Failures -/

/-- What a transaction throws: the database's failures, the source's errors, those of the stock and
of the point of sale. -/
inductive Failure
  | duplicateEntry | checkViolation | foreignKeyViolation | typeError
  -- `customer-order.errors.ts`
  | customerOrderNotFound | customerOrderState (status : ReportedStatus)
  | customerOrderVersionConflict | customerOrderIdempotencyConflict | customerOrderPriceChanged
  | customerOrderReservationUnavailable
  -- the checks of the services
  | invalidIdempotencyKey | orderCancellationReasonRequired | duplicateReservationProduct
  -- `persistSale`
  | paymentReferenceConflict
  | stock (failure : UInventario.Failure)
  | sale (failure : Pos.CartFailure)
  deriving DecidableEq

/-! ### The store -/

structure Env where
  uuid : ℕ → Uuid
  /-- The text of an identifier. -/
  uuidText : Uuid → Text
  uuidText_injective : Function.Injective uuidText
  /-- `randomUUID().replaceAll('-', '').slice(0, 14).toUpperCase()`. -/
  orderNumber : Uuid → Text
  /-- The digits of a number. -/
  numeral : ℕ → Text
  /-- What `utf8mb4_unicode_ci` compares of a text. -/
  collate : Text → Text

/-- Identifiers and numbers are written as themselves. -/
instance : Inhabited Env :=
  ⟨{ uuid := id, uuidText := fun id ↦ [id], uuidText_injective := fun _ _ h ↦ by simpa using h,
     orderNumber := fun id ↦ [id], numeral := fun n ↦ [n], collate := id }⟩

/-- A row of `sales`: its key, the fingerprint of its request and what it has sold. -/
structure Sale where
  id : Uuid
  idempotencyKey : Text
  requestFingerprint : Pos.Cart.SaleFingerprint
  content : Pos.Cart.SaleContent

instance : Keyed Sale Uuid := ⟨Sale.id⟩

structure Directory where
  (activeBranch activeCustomer : Uuid → Bool)
  /-- The branch of a cash register. -/
  registerBranch : Uuid → Option Uuid

/-- **The store of customer orders of one tenant**, with the stock and the sales. -/
structure Store where
  env : Env
  drawn : ℕ
  directory : Directory
  stock : UInventario.Store
  shop : Pos.Cart.Shop
  sales : Table Sale
  orders : Table CustomerOrder
  transitions : Table Transition
  dispatchAttempts : Table DispatchAttempt
  shippingActions : Table ShippingAction
  carrierEvents : Table CarrierEvent

def Store.fresh (env : Env) (directory : Directory) (stock : UInventario.Store)
    (shop : Pos.Cart.Shop) (sales : Table Sale) : Store where
  env := env
  drawn := 0
  directory := directory
  stock := stock
  shop := shop
  sales := sales
  orders := Table.empty
  transitions := Table.empty
  dispatchAttempts := Table.empty
  shippingActions := Table.empty
  carrierEvents := Table.empty

/-- `randomUUID`: the identifier it draws and the store after the draw. -/
def Store.randomUUID (s : Store) : Uuid × Store :=
  (s.env.uuid s.drawn, { s with drawn := s.drawn + 1 })

end UInventario.Orders
