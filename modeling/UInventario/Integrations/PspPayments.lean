import UInventario.Fiscal.SaleDocuments
import UInventario.Foundations.RepeatedKeys

/-!
# Payments of the payment provider

`PspPaymentService`, its repository and the simulated adapter: intents, the actions on them under a
key of their own, and the webhooks of the provider.

An action and a webhook are each one transaction under the lock of the tenant; a webhook is looked
up before (`targeting`). An intent is one `INSERT`; when a unique key refuses it, the row of the key
or of the merchant's reference is read afterwards (`replaying`).

Amounts are in cents, and a fingerprint is what it is the digest of. `PspEnv` has the digests of a
webhook's token and of the provider's reference, the comparison key of a text, and the order in
which the database comes upon the rows of `findCreateReplay`.
-/

namespace UInventario.Integrations.Psp

open Outcome

/-! ### Rows -/

inductive PspPaymentStatus
  | REQUIRES_CONFIRMATION | AUTHORIZED | CAPTURED | INDETERMINATE | DECLINED | PARTIALLY_REFUNDED
  | REFUNDED
  deriving DecidableEq

inductive PspScenario
  | SUCCESS | DECLINE | TIMEOUT
  deriving DecidableEq

inductive PspAction
  | CONFIRM | CAPTURE | QUERY | REFUND
  deriving DecidableEq

inductive PspEventStatus
  | AUTHORIZED | CAPTURED | DECLINED
  deriving DecidableEq

/-- What `create` hashes. -/
structure CreateFingerprint where
  amount : ℕ
  (currency merchantReference : Text)
  scenario : PspScenario
  deriving DecidableEq

/-- What `action` hashes. -/
structure ActionFingerprint where
  paymentId : Uuid
  action : PspAction
  amount : Option ℕ
  deriving DecidableEq

/-- What `webhook` hashes: the request. -/
structure EventFingerprint where
  (eventId providerReference : Text)
  status : PspEventStatus
  occurredAt : Text
  deriving DecidableEq

structure PspPaymentData where
  id : Uuid
  (providerReference merchantReference : Text)
  (amount refundedAmount : ℕ)
  currency : Text
  status : PspPaymentStatus
  scenario : PspScenario
  errorCode : Option Text

structure PspPayment extends PspPaymentData where
  createIdempotencyKey : Text
  requestFingerprint : CreateFingerprint
  webhookTokenHash : Text

instance : Keyed PspPayment Uuid := ⟨fun payment ↦ payment.id⟩

structure PspPaymentAction where
  paymentId : Uuid
  action : PspAction
  idempotencyKey : Text
  requestFingerprint : ActionFingerprint
  result : PspPaymentData

structure PspWebhookEvent where
  paymentId : Uuid
  eventId : Text
  eventFingerprint : EventFingerprint
  ignoredOutOfOrder : Bool

structure PspEnv where
  (collate hash : Text → Text)
  intent : (merchantReference : Text) → (amount : ℕ) → (currency : Text) → Text
  scan : List PspPayment → List PspPayment
  scan_perm : ∀ payments, (scan payments).Perm payments

structure PspStore where
  payments : Table PspPayment
  actions : List PspPaymentAction
  events : List PspWebhookEvent

inductive PspFailure
  | INVALID_IDEMPOTENCY_KEY
  | PSP_AMOUNT_INVALID
  | PSP_IDEMPOTENCY_CONFLICT
  | PSP_PAYMENT_NOT_FOUND
  | PSP_CONFIRM_STATE_INVALID
  | PSP_RECONCILIATION_REQUIRED
  | PSP_CAPTURE_STATE_INVALID
  | PSP_REFUND_STATE_INVALID
  | PSP_REFUND_AMOUNT_INVALID
  | PSP_WEBHOOK_SIGNATURE_INVALID

structure PspAnswer where
  payment : PspPaymentData
  replay : Bool
  ignoredOutOfOrder : Option Bool

/-! ### Intents -/

structure CreateInput where
  id : Uuid
  amount : ℕ
  (currency merchantReference : Text)
  scenario : PspScenario
  (idempotencyKey webhookToken : Text)

/-- `fingerprint` of `create`. -/
def CreateInput.fingerprint (input : CreateInput) : CreateFingerprint where
  amount := input.amount
  currency := input.currency
  merchantReference := input.merchantReference
  scenario := input.scenario

/-- The row that `create` inserts. -/
def CreateInput.row (env : PspEnv) (input : CreateInput) : PspPayment where
  id := input.id
  providerReference := env.intent input.merchantReference input.amount input.currency
  merchantReference := input.merchantReference
  amount := input.amount
  refundedAmount := 0
  currency := input.currency
  status := .REQUIRES_CONFIRMATION
  scenario := input.scenario
  errorCode := none
  createIdempotencyKey := input.idempotencyKey
  requestFingerprint := input.fingerprint
  webhookTokenHash := env.hash input.webhookToken

/-- A unique key of `psp_payments` refuses a row. -/
def PspStore.Taken (env : PspEnv) (s : PspStore) (row : PspPayment) : Prop :=
  ∃ m ∈ s.payments.rows,
    env.collate m.createIdempotencyKey = env.collate row.createIdempotencyKey ∨
    env.collate m.merchantReference = env.collate row.merchantReference ∨
    env.collate m.providerReference = env.collate row.providerReference
deriving Decidable

/-- The `INSERT` of `create`; `none` when it is a duplicate. -/
def insertPayment (env : PspEnv) (s : PspStore) (row : PspPayment) : Option PspStore :=
  if s.Taken env row then none
  else (s.payments.insert row).map fun payments ↦ { s with payments := payments }

def findCreateReplay (env : PspEnv) (s : PspStore) (idempotencyKey merchantReference : Text) :
    Option PspPayment :=
  (env.scan s.payments.rows).find? fun m ↦
    env.collate m.createIdempotencyKey = env.collate idempotencyKey ∨
      env.collate m.merchantReference = env.collate merchantReference

/-- What `create` checks first. -/
def checkCreate (input : CreateInput) : Except PspFailure Unit := do
  ensure (isIdempotencyKey input.idempotencyKey = true) .INVALID_IDEMPOTENCY_KEY
  ensure (0 < input.amount) .PSP_AMOUNT_INVALID

/-- What `create` answers when its row is a duplicate. -/
def replayCreate (env : PspEnv) (s : PspStore) (input : CreateInput) :
    Except PspFailure PspAnswer := do
  let existing ← demand (findCreateReplay env s input.idempotencyKey input.merchantReference)
    .PSP_IDEMPOTENCY_CONFLICT
  ensure (existing.requestFingerprint = input.fingerprint) .PSP_IDEMPOTENCY_CONFLICT
  return { payment := existing.toPspPaymentData, replay := true, ignoredOutOfOrder := none }

/-! ### Actions -/

structure PspNext where
  status : PspPaymentStatus
  errorCode : Option Text
  refundedAmount : Option ℕ

/-- `confirm` of the adapter. -/
def adapterConfirm (payment : PspPaymentData) : PspNext :=
  if payment.scenario = .DECLINE then
    { status := .DECLINED, errorCode := some (textOf "SIMULATED_DECLINE"), refundedAmount := none }
  else { status := .AUTHORIZED, errorCode := none, refundedAmount := none }

/-- `capture` of the adapter. -/
def adapterCapture (payment : PspPaymentData) : PspNext :=
  if payment.scenario = .TIMEOUT then
    { status := .INDETERMINATE
      errorCode := some (textOf "SIMULATED_CAPTURE_TIMEOUT")
      refundedAmount := none }
  else { status := .CAPTURED, errorCode := none, refundedAmount := none }

/-- `query` of the adapter. -/
def adapterQuery (payment : PspPaymentData) : PspNext :=
  if payment.status = .INDETERMINATE then
    { status := .CAPTURED, errorCode := none, refundedAmount := none }
  else { status := payment.status, errorCode := payment.errorCode, refundedAmount := none }

def confirm (payment : PspPaymentData) : Except PspFailure PspNext :=
  if payment.status = .REQUIRES_CONFIRMATION then pure (adapterConfirm payment)
  else if payment.status = .AUTHORIZED ∨ payment.status = .DECLINED then
    pure { status := payment.status, errorCode := payment.errorCode, refundedAmount := none }
  else .error .PSP_CONFIRM_STATE_INVALID

def capture (payment : PspPaymentData) : Except PspFailure PspNext :=
  if payment.status = .INDETERMINATE then .error .PSP_RECONCILIATION_REQUIRED
  else if payment.status = .CAPTURED ∨ payment.status = .PARTIALLY_REFUNDED ∨
      payment.status = .REFUNDED then
    pure { status := payment.status, errorCode := payment.errorCode, refundedAmount := none }
  else if payment.status ≠ .AUTHORIZED then .error .PSP_CAPTURE_STATE_INVALID
  else pure (adapterCapture payment)

def query (payment : PspPaymentData) : Except PspFailure PspNext :=
  pure (adapterQuery payment)

def refund (amount : ℕ) (payment : PspPaymentData) : Except PspFailure PspNext := do
  ensure (payment.status = .CAPTURED ∨ payment.status = .PARTIALLY_REFUNDED)
    .PSP_REFUND_STATE_INVALID
  let nextRefunded := payment.refundedAmount + amount
  ensure (0 < amount ∧ nextRefunded ≤ payment.amount) .PSP_REFUND_AMOUNT_INVALID
  return {
    status := if nextRefunded = payment.amount then .REFUNDED else .PARTIALLY_REFUNDED
    errorCode := none
    refundedAmount := some nextRefunded }

inductive PspCommand
  | confirm | capture | query
  | refund (amount : ℕ)

def PspCommand.action : PspCommand → PspAction
  | .confirm => .CONFIRM
  | .capture => .CAPTURE
  | .query => .QUERY
  | .refund _ => .REFUND

def PspCommand.payload : PspCommand → Option ℕ
  | .refund amount => some amount
  | _ => none

def PspCommand.execute : PspCommand → PspPaymentData → Except PspFailure PspNext
  | .confirm => Psp.confirm
  | .capture => Psp.capture
  | .query => Psp.query
  | .refund amount => Psp.refund amount

structure ActionInput where
  paymentId : Uuid
  command : PspCommand
  idempotencyKey : Text

/-- `fingerprint` of `action`. -/
def ActionInput.fingerprint (input : ActionInput) : ActionFingerprint where
  paymentId := input.paymentId
  action := input.command.action
  amount := input.command.payload

def PspStore.actionOf (env : PspEnv) (s : PspStore) (idempotencyKey : Text) :
    Option PspPaymentAction :=
  s.actions.find? fun a ↦ env.collate a.idempotencyKey = env.collate idempotencyKey

def actionReplay (env : PspEnv) (s : PspStore) (input : ActionInput) :
    Except PspFailure (Option PspPaymentData) :=
  match s.actionOf env input.idempotencyKey with
  | none => pure none
  | some row => do
    ensure (row.paymentId = input.paymentId ∧ row.action = input.command.action ∧
      row.requestFingerprint = input.fingerprint) .PSP_IDEMPOTENCY_CONFLICT
    return some row.result

def PspPayment.acted (next : PspNext) (payment : PspPayment) : PspPayment :=
  { payment with
    status := next.status, errorCode := next.errorCode,
    refundedAmount := next.refundedAmount.getD payment.refundedAmount }

/-- A first action. `concurrent` finds what `replay` has found, under the lock of the tenant. -/
def execute (s : PspStore) (input : ActionInput) : Except PspFailure (PspStore × PspAnswer) := do
  let row ← demand (s.payments.find? input.paymentId) .PSP_PAYMENT_NOT_FOUND
  let next ← input.command.execute row.toPspPaymentData
  let payments := s.payments.update input.paymentId (PspPayment.acted next)
  let payment := (row.acted next).toPspPaymentData
  return (
    { s with
      payments := payments
      actions := s.actions ++ [{
        paymentId := input.paymentId, action := input.command.action,
        idempotencyKey := input.idempotencyKey, requestFingerprint := input.fingerprint,
        result := payment }] },
    { payment := payment
      replay := false
      ignoredOutOfOrder := none })

def action (env : PspEnv) (s : PspStore) (input : ActionInput) :
    Except PspFailure (PspStore × PspAnswer) := do
  ensure (isIdempotencyKey input.idempotencyKey = true) .INVALID_IDEMPOTENCY_KEY
  match ← actionReplay env s input with
  | some payment => return (s, { payment := payment, replay := true, ignoredOutOfOrder := none })
  | none => execute s input

/-! ### Webhooks -/

structure WebhookInput where
  token : Text
  dto : EventFingerprint

def PspStore.webhookTarget (env : PspEnv) (s : PspStore) (providerReference : Text) :
    Option PspPayment :=
  s.payments.rows.find? fun m ↦
    env.collate m.providerReference = env.collate providerReference

/-- `webhook` of the service, before the repository's. -/
def targetWebhook (env : PspEnv) (s : PspStore) (input : WebhookInput) :
    Except PspFailure Unit := do
  let target ← demand (s.webhookTarget env input.dto.providerReference) .PSP_PAYMENT_NOT_FOUND
  ensure (env.hash input.token = target.webhookTokenHash) .PSP_WEBHOOK_SIGNATURE_INVALID

/-- What `advance` answers. -/
structure PspAdvance where
  status : PspPaymentStatus
  ignoredOutOfOrder : Bool

def PspEventStatus.paymentStatus : PspEventStatus → PspPaymentStatus
  | .AUTHORIZED => .AUTHORIZED
  | .CAPTURED => .CAPTURED
  | .DECLINED => .DECLINED

def advance (payment : PspPaymentData) (incoming : PspEventStatus) : PspAdvance :=
  if payment.status = .CAPTURED ∨ payment.status = .PARTIALLY_REFUNDED ∨
      payment.status = .REFUNDED then
    { status := payment.status, ignoredOutOfOrder := decide (incoming ≠ .CAPTURED) }
  else if payment.status = .DECLINED then
    { status := payment.status, ignoredOutOfOrder := decide (incoming ≠ .DECLINED) }
  else if payment.status = .INDETERMINATE ∧ incoming ≠ .CAPTURED then
    { status := payment.status, ignoredOutOfOrder := true }
  else if payment.status = .AUTHORIZED ∧ incoming = .DECLINED then
    { status := payment.status, ignoredOutOfOrder := true }
  else { status := incoming.paymentStatus, ignoredOutOfOrder := false }

def PspPayment.advanced (next : PspAdvance) (payment : PspPayment) : PspPayment :=
  if next.ignoredOutOfOrder = true then payment
  else { payment with status := next.status, errorCode := none }

def PspStore.eventOf (env : PspEnv) (s : PspStore) (eventId : Text) : Option PspWebhookEvent :=
  s.events.find? fun e ↦ env.collate e.eventId = env.collate eventId

/-- A webhook whose `INSERT IGNORE` has inserted its event, for the payment in `row`. -/
def receiveEvent (s : PspStore) (input : WebhookInput) (row : PspPayment) : PspStore × PspAnswer :=
  let next := advance row.toPspPaymentData input.dto.status
  ({ s with
      payments := s.payments.update row.id (PspPayment.advanced next) (by
        intro r
        unfold PspPayment.advanced
        split <;> rfl)
      events := s.events ++ [{
        paymentId := row.id, eventId := input.dto.eventId, eventFingerprint := input.dto,
        ignoredOutOfOrder := next.ignoredOutOfOrder }] },
    { payment := (row.advanced next).toPspPaymentData
      replay := false
      ignoredOutOfOrder := some next.ignoredOutOfOrder })

/-- `webhook` of the repository. -/
def webhook (env : PspEnv) (s : PspStore) (input : WebhookInput) :
    Except PspFailure (PspStore × PspAnswer) :=
  match s.eventOf env input.dto.eventId with
  | some event => do
    ensure (event.eventFingerprint = input.dto) .PSP_IDEMPOTENCY_CONFLICT
    let row ← demand (s.payments.find? event.paymentId) .PSP_PAYMENT_NOT_FOUND
    return (s, {
      payment := row.toPspPaymentData, replay := true,
      ignoredOutOfOrder := some event.ignoredOutOfOrder })
  | none => do
    -- without a payment the `INSERT IGNORE` inserts nothing, and no event is found
    let row ← demand (s.webhookTarget env input.dto.providerReference) .PSP_IDEMPOTENCY_CONFLICT
    return receiveEvent s input row

/-! ### Requests -/

inductive PspRequest
  | create (input : CreateInput)
  | action (input : ActionInput)
  | webhook (input : WebhookInput)

/-- **Where a request stands.** -/
inductive PspProcess
  | creating (input : CreateInput)
  | replaying (input : CreateInput)
  | acting (input : ActionInput)
  | targeting (input : WebhookInput)
  | receiving (input : WebhookInput)
  | answered (request : PspRequest) (answer : Except PspFailure PspAnswer)

def lastStep (request : PspRequest) (s : PspStore) :
    Except PspFailure (PspStore × PspAnswer) → PspStore × PspProcess
  | .ok (s', answer) => (s', .answered request (.ok answer))
  | .error e => (s, .answered request (.error e))

/-- **The next statement of a request.** -/
def pspTurn (env : PspEnv) : PspProcess → PspStore → PspStore × PspProcess
  | .creating input, s =>
    match checkCreate input with
    | .error e => (s, .answered (.create input) (.error e))
    | .ok _ =>
      match insertPayment env s (input.row env) with
      | none => (s, .replaying input)
      | some s' => (s', .answered (.create input) (.ok {
          payment := (input.row env).toPspPaymentData, replay := false,
          ignoredOutOfOrder := none }))
  | .replaying input, s => (s, .answered (.create input) (replayCreate env s input))
  | .acting input, s => lastStep (.action input) s (Psp.action env s input)
  | .targeting input, s =>
    (s, match targetWebhook env s input with
      | .error e => .answered (.webhook input) (.error e)
      | .ok _ => .receiving input)
  | .receiving input, s => lastStep (.webhook input) s (Psp.webhook env s input)
  | .answered request answer, s => (s, .answered request answer)

/-- **The system** of all requests on payments. -/
def pspPayments (env : PspEnv) : Processes.System PspStore PspProcess PspRequest where
  start
    | .create input => .creating input
    | .action input => .acting input
    | .webhook input => .targeting input
  turn := pspTurn env

def PspStore.opening : PspStore where
  payments := .empty
  actions := []
  events := []

end UInventario.Integrations.Psp
