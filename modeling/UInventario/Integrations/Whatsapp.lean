import UInventario.Fiscal.SaleDocuments
import UInventario.Integrations.AdapterExecutions

/-!
# WhatsApp messages

`WhatsappService` and its repository: a message is inserted under the lock of the tenant (`begin`),
handed to the adapter (`finish` writes the result); the provider reports on it later (`webhook`). A
request is a process (`Foundations.Processes`) whose turns are its transactions and calls. Besides
there are requests that change the customers, and the clock.

* The clock of the database is in microseconds and the time of an event in milliseconds: what is
  read from `last_event_at` loses its microseconds.
* `elapsed` is what has passed between the count of `begin` and its `INSERT`.
* `WhatsappEnv.collate` is the comparison key of a text, `hash` the digest of a webhook's token.
-/

namespace UInventario.Integrations

open Outcome

/-! ### Rows -/

inductive WhatsappTemplateKey
  | WHATSAPP_SALE_RECEIPT | WHATSAPP_ORDER_STATUS | WHATSAPP_OPERATIONAL_NOTICE
  deriving DecidableEq

inductive WhatsappMessageStatus
  | PENDING | SENT | DELIVERED | READ | REJECTED | FAILED | TIMED_OUT
  deriving DecidableEq

inductive WhatsappEventStatus
  | SENT | DELIVERED | READ | FAILED
  deriving DecidableEq

def WhatsappEventStatus.messageStatus : WhatsappEventStatus → WhatsappMessageStatus
  | .SENT => .SENT
  | .DELIVERED => .DELIVERED
  | .READ => .READ
  | .FAILED => .FAILED

def WhatsappMessageStatus.rank : WhatsappMessageStatus → ℕ
  | .PENDING => 0
  | .SENT => 1
  | .DELIVERED => 2
  | .READ => 3
  | .REJECTED => 4
  | .FAILED => 4
  | .TIMED_OUT => 0

/-- `customer_whatsapp_consents.status`. -/
inductive WhatsappConsentStatus
  | OPTED_IN | OPTED_OUT
  deriving DecidableEq

structure WhatsappCustomer where
  id : Uuid
  phone : Option Text
  active : Bool

instance : Keyed WhatsappCustomer Uuid := ⟨WhatsappCustomer.id⟩

structure WhatsappConsent where
  customerId : Uuid
  status : WhatsappConsentStatus

instance : Keyed WhatsappConsent Uuid := ⟨WhatsappConsent.customerId⟩

/-- `scenario` of a request. -/
inductive ExternalAdapterScenario
  | SUCCESS | REJECT | TIMEOUT | RETRY
  deriving DecidableEq

/-- What `send` hashes. -/
structure WhatsappFingerprint where
  customerId : Uuid
  templateKey : WhatsappTemplateKey
  reference : Option Text
  scenario : ExternalAdapterScenario
  deriving DecidableEq

structure WhatsappMessage where
  (id customerId : Uuid)
  templateKey : WhatsappTemplateKey
  reference : Option Text
  status : WhatsappMessageStatus
  idempotencyKey : Text
  requestFingerprint : WhatsappFingerprint
  webhookTokenHash : Text
  (providerReference errorCode : Option Text)
  lastEventAt : Option Timestamp
  createdAt : Timestamp

instance : Keyed WhatsappMessage Uuid := ⟨WhatsappMessage.id⟩

/-- A row of `whatsapp_webhook_events`; the identifier is that of the provider. -/
structure WhatsappWebhookEvent where
  messageId : Uuid
  providerEventId : Text
  status : WhatsappEventStatus
  occurredAt : ℕ
  ignoredOutOfOrder : Bool

structure WhatsappEnv extends AdapterEnv where
  (collate hash : Text → Text)

structure WhatsappStore where
  now : Timestamp
  customers : Table WhatsappCustomer
  consents : Table WhatsappConsent
  messages : Table WhatsappMessage
  events : List WhatsappWebhookEvent
  adapters : AdapterStore

inductive WhatsappFailure
  | INVALID_IDEMPOTENCY_KEY
  | NotFound
  | WHATSAPP_PHONE_REQUIRED
  | WHATSAPP_CONSENT_REQUIRED
  | WHATSAPP_RATE_LIMITED
  | WHATSAPP_IDEMPOTENCY_CONFLICT
  | WHATSAPP_WEBHOOK_SIGNATURE_INVALID
  | WHATSAPP_WEBHOOK_CONFLICT
  -- `ADAPTER_CONFIG_NOT_FOUND`, and errors of the database
  | QueryFailed

/-! ### Sending -/

structure SendInput where
  (id customerId : Uuid)
  templateKey : WhatsappTemplateKey
  reference : Option Text
  scenario : ExternalAdapterScenario
  (idempotencyKey token : Text)
  elapsed : ℕ

/-- `fingerprint` of `send`. -/
def SendInput.fingerprint (input : SendInput) : WhatsappFingerprint where
  customerId := input.customerId
  templateKey := input.templateKey
  reference := input.reference
  scenario := input.scenario

def hour : ℕ := 60 * 60 * 1000000

variable (s : WhatsappStore)

/-- The rows that `begin` counts. -/
def WhatsappStore.recent (customerId : Uuid) : List WhatsappMessage :=
  s.messages.rows.filter fun m ↦ m.customerId = customerId ∧ s.now ≤ m.createdAt + hour

def WhatsappStore.OptedIn (customerId : Uuid) : Prop :=
  ∃ consent ∈ s.consents.find? customerId, consent.status = .OPTED_IN
deriving Decidable

/-- The row that `begin` inserts. -/
def SendInput.row (input : SendInput) (env : WhatsappEnv) (createdAt : Timestamp) :
    WhatsappMessage where
  id := input.id
  customerId := input.customerId
  templateKey := input.templateKey
  -- `reference?.trim() || null`
  reference := (input.reference.map trim).filter fun r ↦ r ≠ []
  status := .PENDING
  idempotencyKey := input.idempotencyKey
  requestFingerprint := input.fingerprint
  webhookTokenHash := env.hash input.token
  providerReference := none
  errorCode := none
  lastEventAt := none
  createdAt := createdAt

def WhatsappStore.byKey (env : WhatsappEnv) (idempotencyKey : Text) :
    Option WhatsappMessage :=
  s.messages.rows.find? fun m ↦ env.collate m.idempotencyKey = env.collate idempotencyKey

/-- A first request, in `begin`. -/
def insertMessage (env : WhatsappEnv) (s : WhatsappStore) (input : SendInput) :
    Except WhatsappFailure WhatsappStore := do
  let customer ← demand ((s.customers.find? input.customerId).filter WhatsappCustomer.active)
    .NotFound
  ensure (∃ phone ∈ customer.phone, phone ≠ []) .WHATSAPP_PHONE_REQUIRED
  ensure (s.OptedIn input.customerId) .WHATSAPP_CONSENT_REQUIRED
  ensure ((s.recent input.customerId).length < 20) .WHATSAPP_RATE_LIMITED
  let now := s.now + input.elapsed
  let messages ← demand (s.messages.insert (input.row env now)) .QueryFailed
  return { s with now := now, messages := messages }

/-- `begin`: the store, and whether the request is a repetition. -/
def «begin» (env : WhatsappEnv) (s : WhatsappStore) (input : SendInput) :
    Except WhatsappFailure (WhatsappStore × Bool) := do
  ensure (isIdempotencyKey input.idempotencyKey = true) .INVALID_IDEMPOTENCY_KEY
  match s.byKey env input.idempotencyKey with
  | some existing =>
    ensure (existing.requestFingerprint = input.fingerprint) .WHATSAPP_IDEMPOTENCY_CONFLICT
    return (s, true)
  | none =>
    let s ← insertMessage env s input
    return (s, false)

def SendInput.executionKey (input : SendInput) (env : WhatsappEnv) : ExecutionKey where
  capability := .NOTIFICATION_WHATSAPP
  idempotencyKey := env.collate (textOf "whatsapp:" ++ input.idempotencyKey)

def ExternalAdapterStatus.messageStatus : ExternalAdapterStatus → WhatsappMessageStatus
  | .SUCCEEDED => .SENT
  | .REJECTED => .REJECTED
  | .TIMED_OUT => .TIMED_OUT
  | _ => .FAILED

/-- What `finish` writes. -/
def WhatsappMessage.finished (result : AttemptResult) (now : Timestamp)
    (message : WhatsappMessage) : WhatsappMessage :=
  { message with
    status := result.status.messageStatus
    providerReference := result.providerReference
    errorCode := result.errorCode
    lastEventAt :=
      if result.status.messageStatus = .SENT then some now else message.lastEventAt }

def WhatsappStore.webhookTarget (env : WhatsappEnv) (providerReference : Text) :
    Option WhatsappMessage :=
  s.messages.rows.find? fun m ↦
    m.providerReference.map env.collate = some (env.collate providerReference)

/-- `finish`, under `uq_whatsapp_provider_reference`. -/
def finish (env : WhatsappEnv) (s : WhatsappStore) (id : Uuid) (result : AttemptResult) :
    Except WhatsappFailure WhatsappStore := do
  ensure (∀ reference ∈ result.providerReference, ∀ m ∈ s.webhookTarget env reference, m.id = id)
    .QueryFailed
  return { s with messages := s.messages.update id (WhatsappMessage.finished result s.now) }

/-! ### Webhooks -/

structure WebhookInput where
  (token providerEventId providerReference : Text)
  status : WhatsappEventStatus
  occurredAt : ℕ

def WebhookInput.event (input : WebhookInput) (messageId : Uuid) (ignored : Bool) :
    WhatsappWebhookEvent where
  messageId := messageId
  providerEventId := input.providerEventId
  status := input.status
  occurredAt := input.occurredAt
  ignoredOutOfOrder := ignored

/-- `webhook` of the service, before the repository's. -/
def targetWebhook (env : WhatsappEnv) (s : WhatsappStore) (input : WebhookInput) :
    Except WhatsappFailure Uuid := do
  let target ← demand (s.webhookTarget env input.providerReference) .NotFound
  ensure (env.hash input.token = target.webhookTokenHash) .WHATSAPP_WEBHOOK_SIGNATURE_INVALID
  return target.id

def WhatsappStore.eventOf (env : WhatsappEnv) (providerEventId : Text) :
    Option WhatsappWebhookEvent :=
  s.events.find? fun e ↦ env.collate e.providerEventId = env.collate providerEventId

def WebhookInput.Ignored (input : WebhookInput) (message : WhatsappMessage) : Prop :=
  input.status.messageStatus.rank < message.status.rank ∨
    ∃ last ∈ message.lastEventAt, input.occurredAt < last / 1000
deriving Decidable

def WhatsappMessage.reported (input : WebhookInput) (message : WhatsappMessage) :
    WhatsappMessage :=
  { message with
    status := input.status.messageStatus
    errorCode :=
      if input.status = .FAILED then some (textOf "PROVIDER_DELIVERY_FAILED") else none
    lastEventAt := some (input.occurredAt * 1000) }

def recordWebhook (input : WebhookInput) (messageId : Uuid) :
    Except WhatsappFailure WhatsappStore := do
  let row ← demand (s.messages.find? messageId) .NotFound
  if input.Ignored row then
    return { s with events := s.events ++ [input.event messageId true] }
  else
    return { s with
      events := s.events ++ [input.event messageId false]
      messages := s.messages.update messageId (WhatsappMessage.reported input) }

/-- `webhook` of the repository. -/
def webhook (env : WhatsappEnv) (s : WhatsappStore) (input : WebhookInput) (messageId : Uuid) :
    Except WhatsappFailure WhatsappStore :=
  match s.eventOf env input.providerEventId with
  | some existing => do
    ensure (existing.messageId = messageId ∧ existing.status = input.status ∧
      existing.occurredAt = input.occurredAt) .WHATSAPP_WEBHOOK_CONFLICT
    return s
  | none => recordWebhook s input messageId

/-! ### Consents -/

/-- The first query of `setConsent`. -/
def checkConsent (customerId : Uuid) (enabled : Bool) :
    Except WhatsappFailure Unit := do
  let customer ← demand ((s.customers.find? customerId).filter WhatsappCustomer.active) .NotFound
  ensure (enabled = true → ∃ phone ∈ customer.phone, phone ≠ []) .WHATSAPP_PHONE_REQUIRED

/-- `INSERT … ON DUPLICATE KEY UPDATE` of `setConsent`. -/
def writeConsent (customerId : Uuid) (enabled : Bool) : WhatsappStore :=
  { s with consents := s.consents.put {
      customerId := customerId, status := if enabled = true then .OPTED_IN else .OPTED_OUT } }

/-! ### Requests -/

inductive WhatsappRequest
  | send (input : SendInput)
  | setConsent (customerId : Uuid) (enabled : Bool)
  | webhook (input : WebhookInput)
  | customers (customers : Table WhatsappCustomer)
  | wait (microseconds : ℕ)

/-- **Where a request stands.** -/
inductive WhatsappProcess
  | beginning (input : SendInput)
  | executing (input : SendInput) (place : ExecutionPlace)
  | finishing (input : SendInput) (result : AttemptResult)
  | checkingConsent (customerId : Uuid) (enabled : Bool)
  | writingConsent (customerId : Uuid) (enabled : Bool)
  | targeting (input : WebhookInput)
  | receiving (input : WebhookInput) (messageId : Uuid)
  | changing (customers : Table WhatsappCustomer)
  | waiting (microseconds : ℕ)
  | answered (failure : Option WhatsappFailure)

/-- What `send` does with what the executor answers. -/
def afterSend (input : SendInput) : ExecutionPlace → WhatsappProcess
  | .answered result => .finishing input result
  | .thrown => .answered (some .QueryFailed)
  | place => .executing input place

def lastStep : Except WhatsappFailure WhatsappStore →
    WhatsappStore × WhatsappProcess
  | .ok s' => (s', .answered none)
  | .error e => (s, .answered (some e))

/-- **The next statement of a request.** -/
def whatsappTurn (env : WhatsappEnv) :
    WhatsappProcess → WhatsappStore → WhatsappStore × WhatsappProcess
  | .beginning input, s =>
    match «begin» env s input with
    | .ok (s', replay) =>
      (s', if replay = true then .answered none else .executing input .configuring)
    | .error e => (s, .answered (some e))
  | .executing input place, s =>
    let (adapters, next) :=
      executionTurn env.toAdapterEnv (input.executionKey env) place s.adapters
    ({ s with adapters := adapters }, afterSend input next)
  | .finishing input result, s => lastStep s (finish env s input.id result)
  | .checkingConsent customerId enabled, s =>
    (s, match checkConsent s customerId enabled with
      | .ok _ => .writingConsent customerId enabled
      | .error e => .answered (some e))
  | .writingConsent customerId enabled, s => (writeConsent s customerId enabled, .answered none)
  | .targeting input, s =>
    (s, match targetWebhook env s input with
      | .ok messageId => .receiving input messageId
      | .error e => .answered (some e))
  | .receiving input messageId, s => lastStep s (Integrations.webhook env s input messageId)
  | .changing customers, s => ({ s with customers := customers }, .answered none)
  | .waiting microseconds, s => ({ s with now := s.now + microseconds }, .answered none)
  | .answered failure, s => (s, .answered failure)

/-- **The system** of all requests on messages. -/
def whatsappMessages (env : WhatsappEnv) :
    Processes.System WhatsappStore WhatsappProcess WhatsappRequest where
  start
    | .send input => .beginning input
    | .setConsent customerId enabled => .checkingConsent customerId enabled
    | .webhook input => .targeting input
    | .customers customers => .changing customers
    | .wait microseconds => .waiting microseconds
  turn := whatsappTurn env

def WhatsappStore.opening (customers : Table WhatsappCustomer) (consents : Table WhatsappConsent)
    (configs : Table ExternalAdapterConfig) : WhatsappStore where
  now := 0
  customers := customers
  consents := consents
  messages := .empty
  events := []
  adapters :=
    { configs := configs
      executions := .empty
      calls := [] }

end UInventario.Integrations
