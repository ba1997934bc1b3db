import UInventario.Commerce.Webhooks
import UInventario.Foundations.SagaParts
import UInventario.Foundations.Serialization
import UInventario.Orders.OrderCreation
import UInventario.Orders.ServiceRuns

/-!
# The intake of external orders

`createOrder` of the commerce service: an order of a shop outside is created, confirmed and linked
to its external id, in three transactions and more, each under a key made of the credential and the
external id. The staff works on the orders in any interleaving with attempts, and an attempt that
crashes takes no further turn.

What is hashed is written out, so that a fingerprint is the payload. `hash` is the first half of
the SHA-256 of an external id, `collate` the collation of its column.
-/

namespace UInventario.Commerce

open Outcome Sagas Serialization

/-! ### Requests -/

structure CommercePrincipal where
  (credentialId actorUserId branchId warehouseId cashRegisterId locationId customerId : Uuid)

/-- `CUSTOMER_ORDER_PRIORITIES`. -/
inductive OrderPriority
  | LOW | NORMAL | HIGH | URGENT
  deriving DecidableEq

structure CommerceOrderLineDto where
  productId : Uuid
  quantity : Pos.Cart.DecimalString 3

/-- The methods of a `CommerceOrderPaymentDto`. -/
inductive CommercePaymentMethod
  | CARD | TRANSFER | VOUCHER
  deriving DecidableEq

structure CommerceOrderPaymentDto where
  method : CommercePaymentMethod
  reference : Text

structure CreateCommerceOrderDto where
  externalOrderId : Text
  priority : Option OrderPriority := none
  expiresInHours : ℕ
  fulfillment : Orders.FulfillmentDto
  lines : List CommerceOrderLineDto
  payment : CommerceOrderPaymentDto

inductive IntakeFailure
  | EXTERNAL_ORDER_IDEMPOTENCY_CONFLICT
  | notFound
  | creation (failure : Orders.CreationFailure)
  deriving DecidableEq

/-! ### What is hashed -/

def writeText : Text → List ℕ :=
  writeList fun c ↦ [c]

def writeDecimal {k : ℕ} (value : Pos.Cart.DecimalString k) : List ℕ :=
  writePair (fun n : ℕ ↦ [n]) (writeList fun d : Fin 10 ↦ [d.val]) (value.whole, value.fraction)

def OrderPriority.code : OrderPriority → ℕ
  | LOW => 0
  | NORMAL => 1
  | HIGH => 2
  | URGENT => 3

def CommercePaymentMethod.code : CommercePaymentMethod → ℕ
  | CARD => 0
  | TRANSFER => 1
  | VOUCHER => 2

/-- A fulfilment: the method and the carrier, the window, the cost and the texts. -/
def writeFulfillment (dto : Orders.FulfillmentDto) : List ℕ :=
  writePair (fun m : Orders.FulfillmentMethod ↦ [if m = .PICKUP then 0 else 1])
    (writePair (writeOption fun c : Orders.CarrierCode ↦ [if c = .SIMULATED then 0 else 1])
      (writePair writeDecimal (writeList (writeOption writeText))))
    (dto.method, dto.carrierCode, dto.deliveryCost,
      [some dto.windowStart, some dto.windowEnd, dto.recipientName, dto.recipientPhone,
        dto.addressLine1, dto.addressLine2, dto.city, dto.region, dto.postalCode, dto.countryCode])

def writeLine (line : CommerceOrderLineDto) : List ℕ :=
  writePair (fun id : Uuid ↦ [id]) writeDecimal (line.productId, line.quantity)

def writePayment (payment : CommerceOrderPaymentDto) : List ℕ :=
  writePair (fun m : CommercePaymentMethod ↦ [m.code]) writeText (payment.method, payment.reference)

def CreateCommerceOrderDto.write (dto : CreateCommerceOrderDto) : List ℕ :=
  writePair (writeOption fun p : OrderPriority ↦ [p.code])
    (writePair (fun n : ℕ ↦ [n])
      (writePair writeFulfillment (writePair (writeList writeLine) writePayment)))
    (dto.priority, dto.expiresInHours, dto.fulfillment, dto.lines, dto.payment)

def CreateCommerceOrderDto.fingerprint (dto : CreateCommerceOrderDto) : Text :=
  writePair writeText CreateCommerceOrderDto.write (dto.externalOrderId, dto)

def CommercePrincipal.orderFingerprint (p : CommercePrincipal) (dto : CreateCommerceOrderDto) :
    Text :=
  [p.customerId, p.locationId, p.branchId, p.warehouseId, p.cashRegisterId] ++ dto.write

/-! ### The store -/

/-- **The orders, and what is linked to them.** -/
structure IntakeStore where
  orders : Orders.Store
  external : Table ExternalOrder

def IntakeStore.withOrders (s : IntakeStore) (orders : Orders.Store) : IntakeStore :=
  { s with orders := orders }

structure IntakeContext where
  (collate hash : Text → Text)
  parseDate : Text → Option Timestamp

section Intake

variable (context : IntakeContext)

def IntakeStore.findExternalOrder (s : IntakeStore) (p : CommercePrincipal)
    (externalOrderId : Text) : Option ExternalOrder :=
  s.external.rows.find? fun row ↦ row.credentialId = p.credentialId ∧
    context.collate row.externalOrderId = context.collate externalOrderId

/-- `commerce:<credential>:<hash>`. -/
def intakeKey (env : Orders.Env) (credentialId : Uuid) (externalOrderId : Text) : Text :=
  textOf "commerce:" ++ env.uuidText credentialId ++ textOf ":" ++ context.hash externalOrderId

/-- `<key>:create`. -/
def createKey (env : Orders.Env) (credentialId : Uuid) (externalOrderId : Text) : Text :=
  intakeKey context env credentialId externalOrderId ++ textOf ":create"

/-- `<key>:confirm`. -/
def confirmKey (env : Orders.Env) (credentialId : Uuid) (externalOrderId : Text) : Text :=
  intakeKey context env credentialId externalOrderId ++ textOf ":confirm"

def CommercePrincipal.place (p : CommercePrincipal) : Pos.Cart.Workplace where
  branchId := p.branchId
  warehouseId := p.warehouseId
  cashRegisterId := p.cashRegisterId
  userId := p.actorUserId

def CommercePaymentMethod.method : CommercePaymentMethod → Pos.PaymentMethod
  | CARD => .CARD
  | TRANSFER => .TRANSFER
  | VOUCHER => .VOUCHER

def CreateCommerceOrderDto.creation (dto : CreateCommerceOrderDto) (env : Orders.Env)
    (p : CommercePrincipal) : Orders.CreateOrderInput where
  place := p.place
  locationId := p.locationId
  customerId := p.customerId
  channel := .WEB
  expiresInHours := dto.expiresInHours
  fulfillment := dto.fulfillment
  lines := dto.lines.map fun line ↦ { productId := line.productId, quantity := line.quantity }
  payments := [{ method := dto.payment.method.method, reference := some dto.payment.reference }]
  idempotencyKey := createKey context env p.credentialId dto.externalOrderId
  fingerprint := p.orderFingerprint dto

def CreateCommerceOrderDto.confirmation (dto : CreateCommerceOrderDto) (env : Orders.Env)
    (p : CommercePrincipal) (order : Orders.CustomerOrder) :
    Orders.CustomerOrderTransitionInput where
  place := p.place
  orderId := order.id
  idempotencyKey := some (confirmKey context env p.credentialId dto.externalOrderId)
  version := order.version

/-- `linkExternalOrder`: `INSERT IGNORE`. -/
def IntakeStore.linkExternalOrder (s : IntakeStore) (row : ExternalOrder) : IntakeStore :=
  if ∃ old ∈ s.external.rows, (old.credentialId = row.credentialId ∧
      context.collate old.externalOrderId = context.collate row.externalOrderId) ∨
      old.orderId = row.orderId then s
  else match s.external.insert row with
    | some external => { s with external := external }
    | none => s

/-- The answer of `externalOrder`: the order that an external id is linked to. -/
def externalOrder (p : CommercePrincipal) (externalOrderId : Text) :
    Saga IntakeStore IntakeFailure Uuid := do
  let mapping ← .look fun s ↦ demand (s.findExternalOrder context p externalOrderId) .notFound
  let order ← .look fun s ↦ demand (s.orders.findOrder p.branchId mapping.orderId) .notFound
  pure order.id

def link (p : CommercePrincipal) (dto : CreateCommerceOrderDto) (orderId : Uuid) :
    Saga IntakeStore IntakeFailure Uuid :=
  .transaction fun s ↦ .ok (s.linkExternalOrder context {
    credentialId := p.credentialId, externalOrderId := dto.externalOrderId, orderId := orderId,
    requestFingerprint := dto.fingerprint }, orderId)

def intake (p : CommercePrincipal) (dto : CreateCommerceOrderDto) (env : Orders.Env) :
    Saga IntakeStore IntakeFailure Uuid := do
  let created ← (Orders.createOrder context.parseDate (dto.creation context env p)).within
    IntakeStore.orders IntakeStore.withOrders .creation
  (Orders.confirm (dto.confirmation context env p created)).within
    IntakeStore.orders IntakeStore.withOrders fun e ↦ .creation (.order e)
  link context p dto created.id

/-- **`createOrder`**: one attempt. -/
def createOrder (p : CommercePrincipal) (dto : CreateCommerceOrderDto) :
    Saga IntakeStore IntakeFailure Uuid := do
  let (existing, env) ← .look fun s ↦
    pure (s.findExternalOrder context p dto.externalOrderId, s.orders.env)
  match existing with
  | some mapping => do
    .check (ensure (mapping.requestFingerprint = dto.fingerprint)
      .EXTERNAL_ORDER_IDEMPOTENCY_CONFLICT)
    externalOrder context p dto.externalOrderId
  | none => intake context p dto env

/-! ### Runs -/

inductive IntakeRequest
  | createOrder (p : CommercePrincipal) (dto : CreateCommerceOrderDto)
  | service (request : Orders.ServiceRequest)

variable (commit : Pos.Cart.Persist)

def intakeProgram : IntakeRequest → Saga IntakeStore IntakeFailure Unit
  | .createOrder p dto => do
    let _order ← createOrder context p dto
    pure ()
  | .service request => (Orders.program commit request).within IntakeStore.orders
      IntakeStore.withOrders fun e ↦ .creation (.order e)

def IntakeStore.opening (env : Orders.Env) (directory : Orders.Directory)
    (stock : UInventario.Store) (shop : Pos.Cart.Shop) : IntakeStore where
  orders := Orders.Store.opening env directory stock shop
  external := Table.empty

/-- **The run of a list of events.** -/
def intakeRun (env : Orders.Env) (directory : Orders.Directory) (stock : UInventario.Store)
    (shop : Pos.Cart.Shop) (events : List (Event IntakeRequest)) :
    State IntakeStore IntakeFailure :=
  Outcome.run (Sagas.step (intakeProgram context commit))
    (State.idle (.opening env directory stock shop)) events

end Intake

end UInventario.Commerce
