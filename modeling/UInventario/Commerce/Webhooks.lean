import UInventario.Foundations.Processes
import UInventario.Orders.Schema

/-!
# Webhook deliveries

What is published of an order to the integration it came from, and the replay of a delivery that has
failed: `CommerceWebhookService` over the repository of deliveries.

* A request runs through several statements, each committed on its own: `Process` says where it
  stands and what it remembers, and `turn` is its next statement. The `INSERT IGNORE` and the
  `SELECT` of `createDelivery` are two turns, and so are an attempt (`simulate`) and the
  `updateDelivery` after it.
* `executed` is no table: it lists the attempts that have been sent out.
* The results of attempts and `randomUUID` come with the request.
* The id of an event is its three parts. `Hmac` is the signature of a payload as it is built, and of
  one read back from its column.
-/

namespace UInventario.Commerce

/-! ### Rows -/

/-- `COMMERCE_WEBHOOK_EVENTS`. -/
inductive CommerceWebhookEvent
  | ORDER_CONFIRMED | ORDER_PREPARING | ORDER_READY | ORDER_DELIVERED | ORDER_CANCELLED
  | ORDER_FULFILLMENT_UPDATED
  deriving DecidableEq

/-- `commerce_webhook_deliveries.status`. -/
inductive DeliveryStatus
  | PENDING | SUCCEEDED | RETRYABLE_FAILURE | FAILED
  deriving DecidableEq

/-- A row of `commerce_api_credentials`, as far as its webhook goes. -/
structure WebhookCredential where
  id : Uuid
  keyHash : Text
  active : Bool
  webhookUrl : Option Text
  webhookEvents : List CommerceWebhookEvent
  webhookEnabled : Bool

instance : Keyed WebhookCredential Uuid := ⟨WebhookCredential.id⟩

structure ExternalOrder where
  credentialId : Uuid
  externalOrderId : Text
  orderId : Uuid
  requestFingerprint : Text

instance : Keyed ExternalOrder (Uuid × Text) := ⟨fun o ↦ (o.credentialId, o.externalOrderId)⟩

structure EventId where
  orderId : Uuid
  eventType : CommerceWebhookEvent
  version : ℕ
  deriving DecidableEq

/-- What `publishOrder` reads of an order. -/
structure CustomerOrderData where
  id : Uuid
  orderNumber : Text
  status : Orders.OrderStatus
  fulfillmentStatus : Orders.FulfillmentStatus
  total : ℤ
  currency : Currency
  version : ℕ
  updatedAt : Timestamp

structure Payload where
  eventId : EventId
  type : CommerceWebhookEvent
  occurredAt : Timestamp
  externalId : Text
  order : CustomerOrderData

structure Delivery where
  (id credentialId : Uuid)
  eventId : EventId
  eventType : CommerceWebhookEvent
  targetUrl : Text
  payload : Payload
  signature : Text
  status : DeliveryStatus
  attemptCount : ℕ
  errorCode : Option Text
  deliveredAt : Option Timestamp

instance : Keyed Delivery Uuid := ⟨Delivery.id⟩

structure WebhookStore where
  credentials : Table WebhookCredential
  externalOrders : Table ExternalOrder
  deliveries : Table Delivery
  now : Timestamp
  executed : List Uuid

def WebhookStore.unpublished (credentials : Table WebhookCredential)
    (externalOrders : Table ExternalOrder) (now : Timestamp) : WebhookStore where
  credentials := credentials
  externalOrders := externalOrders
  deliveries := .empty
  now := now
  executed := []

/-! ### The repository -/

/-- What `webhookConfiguration` answers. -/
structure WebhookConfiguration where
  credentialId : Uuid
  (keyHash url : Text)
  events : List CommerceWebhookEvent
  externalOrderId : Text

variable (s : WebhookStore)

/-- `webhookConfiguration`. A credential whose webhook is enabled has an address
(`ck_commerce_credentials_webhook`). -/
def webhookConfiguration (orderId : Uuid) : Option WebhookConfiguration := do
  let externalOrder ← s.externalOrders.rows.find? fun o ↦ o.orderId = orderId
  let credential ← s.credentials.find? externalOrder.credentialId
  if credential.active = true ∧ credential.webhookEnabled = true then
    let url ← credential.webhookUrl
    return {
      credentialId := credential.id, keyHash := credential.keyHash, url := url,
      events := credential.webhookEvents, externalOrderId := externalOrder.externalOrderId }
  else none

/-- What `createDelivery` is given. -/
structure DeliveryInput where
  credentialId : Uuid
  eventId : EventId
  eventType : CommerceWebhookEvent
  targetUrl : Text
  payload : Payload
  signature : Text

/-- The row that `createDelivery` inserts. -/
def DeliveryInput.row (input : DeliveryInput) (id : Uuid) : Delivery where
  id := id
  credentialId := input.credentialId
  eventId := input.eventId
  eventType := input.eventType
  targetUrl := input.targetUrl
  payload := input.payload
  signature := input.signature
  status := .PENDING
  attemptCount := 0
  errorCode := none
  deliveredAt := none

/-- The delivery of an event (`uq_commerce_webhook_event`). -/
def WebhookStore.deliveryOf (credentialId : Uuid) (eventId : EventId) :
    Option Delivery :=
  s.deliveries.rows.find? fun d ↦ d.credentialId = credentialId ∧ d.eventId = eventId

/-- The `INSERT IGNORE` of `createDelivery`. -/
def insertDelivery (input : DeliveryInput) (id : Uuid) : WebhookStore :=
  match s.deliveryOf input.credentialId input.eventId with
  | some _ => s
  | none =>
    match s.deliveries.insert (input.row id) with
    | none => s
    | some deliveries => { s with deliveries := deliveries }

structure AttemptResult where
  status : DeliveryStatus
  errorCode : Option Text

/-- The assignments of `updateDelivery`, under its condition. -/
def Delivery.attempted (result : AttemptResult) (now : Timestamp) (d : Delivery) : Delivery :=
  if d.status ≠ .SUCCEEDED ∧ d.attemptCount < 5 then
    { d with
      status := result.status, attemptCount := d.attemptCount + 1, errorCode := result.errorCode,
      deliveredAt := if result.status = .SUCCEEDED then some now else none }
  else d

theorem Delivery.attempted_id (result : AttemptResult) (now : Timestamp) (d : Delivery) :
    (d.attempted result now).id = d.id := by
  rw [attempted]
  split <;> rfl

def updateDelivery (deliveryId : Uuid) (result : AttemptResult) : WebhookStore :=
  { s with
    deliveries := s.deliveries.update deliveryId (Delivery.attempted result s.now)
      (Delivery.attempted_id result s.now) }

/-- The assignments of `prepareDeliveryReplay`. -/
def Delivery.pending (d : Delivery) : Delivery :=
  { d with status := .PENDING, errorCode := none, deliveredAt := none }

/-- What `prepareDeliveryReplay` answers. -/
structure PreparedReplay where
  delivery : Delivery
  keyHash : Text

def prepareDeliveryReplay (deliveryId : Uuid) :
    WebhookStore × Option PreparedReplay :=
  match s.deliveries.find? deliveryId with
  | none => (s, none)
  | some d =>
    match s.credentials.find? d.credentialId with
    | none => (s, none)
    | some credential =>
      if (d.status = .FAILED ∨ d.status = .RETRYABLE_FAILURE) ∧ d.attemptCount < 5 ∧
          credential.active = true then
        ({ s with deliveries := s.deliveries.update deliveryId Delivery.pending },
          some { delivery := d.pending, keyHash := credential.keyHash })
      else (s, none)

/-- The assignment of `updateDeliverySignature`, under its condition. -/
def Delivery.signed (signature : Text) (d : Delivery) : Delivery :=
  { d with signature := if d.status = .PENDING then signature else d.signature }

def updateDeliverySignature (deliveryId : Uuid) (signature : Text) :
    WebhookStore :=
  { s with deliveries := s.deliveries.update deliveryId (Delivery.signed signature) }

/-! ### The service -/

/-- `signature`: of a payload as it is built, and of one read back. -/
structure Hmac where
  (built stored : Text → Payload → Text)

def eventType (order : CustomerOrderData) : CommerceWebhookEvent :=
  if order.status = .READY ∧
      (order.fulfillmentStatus = .DISPATCHED ∨ order.fulfillmentStatus = .RETRYABLE_FAILURE) then
    .ORDER_FULFILLMENT_UPDATED
  else match order.status with
    | .CONFIRMED => .ORDER_CONFIRMED
    | .PREPARING => .ORDER_PREPARING
    | .READY => .ORDER_READY
    | .DELIVERED => .ORDER_DELIVERED
    | .CANCELLED => .ORDER_CANCELLED
    | .DRAFT => .ORDER_FULFILLMENT_UPDATED

def simulate (url : Text) (attempt : ℕ) : AttemptResult :=
  if textOf "reject" <:+: url then
    { status := .FAILED, errorCode := some (textOf "SIMULATED_REJECTED") }
  else if textOf "recover" <:+: url ∧ attempt ≤ 3 then
    { status := .RETRYABLE_FAILURE, errorCode := some (textOf "SIMULATED_TIMEOUT") }
  else if textOf "retry" <:+: url ∧ attempt = 1 then
    { status := .RETRYABLE_FAILURE, errorCode := some (textOf "SIMULATED_TIMEOUT") }
  else { status := .SUCCEEDED, errorCode := none }

/-- The requests: a publication of an order, a replay, and what else happens to the credentials and
the links of orders. -/
inductive WebhookRequest
  | publishOrder (order : CustomerOrderData) (id : Uuid) (outcomes : ℕ → AttemptResult)
  | replay (deliveryId : Uuid) (outcomes : ℕ → AttemptResult)
  | «elsewhere» (credentials : Table WebhookCredential) (externalOrders : Table ExternalOrder)
    (now : Timestamp)

inductive LoopOrigin
  | publishOrder | replay

def LoopOrigin.lastAttempt : LoopOrigin → ℕ
  | .publishOrder => 3
  | .replay => 5

structure Loop where
  origin : LoopOrigin
  delivery : Delivery
  attempt : ℕ
  outcomes : ℕ → AttemptResult

/-- **Where a request stands**: what its next statement is, and what it remembers. -/
inductive Process
  | configuring (order : CustomerOrderData) (id : Uuid) (outcomes : ℕ → AttemptResult)
  | inserting (input : DeliveryInput) (id : Uuid) (outcomes : ℕ → AttemptResult)
  | selecting (credentialId : Uuid) (eventId : EventId) (outcomes : ℕ → AttemptResult)
  | preparing (deliveryId : Uuid) (outcomes : ℕ → AttemptResult)
  | signing (prepared : PreparedReplay) (outcomes : ℕ → AttemptResult)
  | attempting (l : Loop)
  | storing (l : Loop) (result : AttemptResult)
  | changing (credentials : Table WebhookCredential) (externalOrders : Table ExternalOrder)
    (now : Timestamp)
  | finished
  | replied (answer : Option Delivery)

def Loop.leave (l : Loop) : Process :=
  match l.origin with
  | .publishOrder => .finished
  | .replay => .replied (some l.delivery)

def Loop.enter (l : Loop) : Process :=
  if l.attempt ≤ l.origin.lastAttempt then .attempting l else l.leave

/-- What the loop keeps of an attempt; `publishOrder` keeps nothing. -/
def Loop.record (l : Loop) (result : AttemptResult) (now : Timestamp) : Loop :=
  match l.origin with
  | .publishOrder => l
  | .replay =>
    { l with
      delivery := { l.delivery with
        status := result.status, attemptCount := l.attempt, errorCode := result.errorCode,
        deliveredAt := if result.status = .SUCCEEDED then some now else none } }

def Loop.after (l : Loop) (result : AttemptResult) (now : Timestamp) : Process :=
  if result.status = .SUCCEEDED ∨ result.status = .FAILED then (l.record result now).leave
  else { l.record result now with attempt := l.attempt + 1 }.enter

/-- The payload that `publishOrder` builds. -/
def payloadOf (configuration : WebhookConfiguration) (order : CustomerOrderData) : Payload where
  eventId := { orderId := order.id, eventType := eventType order, version := order.version }
  type := eventType order
  occurredAt := order.updatedAt
  externalId := configuration.externalOrderId
  order := order

/-- What `publishOrder` asks `createDelivery` for. -/
def deliveryInput (hmac : Hmac) (configuration : WebhookConfiguration) (order : CustomerOrderData) :
    DeliveryInput where
  credentialId := configuration.credentialId
  eventId := (payloadOf configuration order).eventId
  eventType := eventType order
  targetUrl := configuration.url
  payload := payloadOf configuration order
  signature := hmac.built configuration.keyHash (payloadOf configuration order)

/-- `publishOrder` up to `createDelivery`. -/
def configure (hmac : Hmac) (s : WebhookStore) (order : CustomerOrderData) (id : Uuid)
    (outcomes : ℕ → AttemptResult) : Process :=
  match webhookConfiguration s order.id with
  | none => .finished
  | some configuration =>
    if eventType order ∈ configuration.events then
      .inserting (deliveryInput hmac configuration order) id outcomes
    else .finished

/-- `publishOrder` from the row that `createDelivery` reads on. -/
def beginPublishing (credentialId : Uuid) (eventId : EventId)
    (outcomes : ℕ → AttemptResult) : Process :=
  match s.deliveryOf credentialId eventId with
  | none => .finished
  | some d =>
    if d.status = .SUCCEEDED then .finished
    else Loop.enter
      { origin := .publishOrder
        delivery := d
        attempt := d.attemptCount + 1
        outcomes := outcomes }

/-- `replay` from the signature on. -/
def beginReplay (signature : Text) (prepared : PreparedReplay) (outcomes : ℕ → AttemptResult) :
    Process :=
  Loop.enter
    { origin := .replay
      delivery := { prepared.delivery with signature := signature }
      attempt := prepared.delivery.attemptCount + 1
      outcomes := outcomes }

/-- **The next statement of a request.** -/
def turn (hmac : Hmac) : Process → WebhookStore → WebhookStore × Process
  | .configuring order id outcomes, s => (s, configure hmac s order id outcomes)
  | .inserting input id outcomes, s =>
    (insertDelivery s input id, .selecting input.credentialId input.eventId outcomes)
  | .selecting credentialId eventId outcomes, s =>
    (s, beginPublishing s credentialId eventId outcomes)
  | .preparing deliveryId outcomes, s =>
    match prepareDeliveryReplay s deliveryId with
    | (s', none) => (s', .replied none)
    | (s', some prepared) => (s', .signing prepared outcomes)
  | .signing prepared outcomes, s =>
    let signature := hmac.stored prepared.keyHash prepared.delivery.payload
    (updateDeliverySignature s prepared.delivery.id signature,
      beginReplay signature prepared outcomes)
  | .attempting l, s =>
    ({ s with executed := s.executed ++ [l.delivery.id] }, .storing l (l.outcomes l.attempt))
  | .storing l result, s => (updateDelivery s l.delivery.id result, l.after result s.now)
  | .changing credentials externalOrders now, s =>
    ({ s with credentials := credentials, externalOrders := externalOrders, now := now }, .finished)
  | .finished, s => (s, .finished)
  | .replied answer, s => (s, .replied answer)

def webhooks (hmac : Hmac) : Processes.System WebhookStore Process WebhookRequest where
  start
    | .publishOrder order id outcomes => .configuring order id outcomes
    | .replay deliveryId outcomes => .preparing deliveryId outcomes
    | .«elsewhere» credentials externalOrders now => .changing credentials externalOrders now
  turn := turn hmac

/-- The delivery whose attempt has been sent out and not been written yet. -/
def Process.underWay : Process → Option Uuid
  | .storing l _ => some l.delivery.id
  | _ => none

end UInventario.Commerce
