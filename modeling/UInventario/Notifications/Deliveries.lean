import UInventario.Foundations.Processes
import UInventario.Integrations.AdapterExecutions

/-!
# Deliveries of notifications

`NotificationDeliveryService.process`: a pass claims the deliveries that are due, and takes one
after the other to the adapter of its channel, under a key made of the delivery. What the executor
answers is written to the row, which is sent then or is due again later.

A pass is a process (`Foundations.Processes`), and each of its statements and calls a turn. The
other requests insert a delivery, let the failed ones be due at once (`retryFailed`), and let time
go by. Which rows `claimDueDeliveries` finds locked comes with the request.
-/

namespace UInventario.Notifications

open Outcome Processes Integrations

/-! ### Rows -/

/-- `notification_deliveries.channel`. -/
inductive DeliveryChannel
  | EMAIL | PUSH
  deriving DecidableEq

/-- `notification_deliveries.status`. -/
inductive DeliveryStatus
  | PENDING | PROCESSING | SENT | FAILED
  deriving DecidableEq

structure Delivery where
  id : Uuid
  channel : DeliveryChannel
  status : DeliveryStatus
  attemptCount : ℕ
  (nextAttemptAt createdAt : Timestamp)
  (errorCode providerReference : Option Text)
  deliveredAt : Option Timestamp
  deriving DecidableEq

instance : Keyed Delivery Uuid := ⟨Delivery.id⟩

structure NotificationStore where
  now : Timestamp
  deliveries : Table Delivery
  adapters : AdapterStore

/-! ### The repository -/

/-- What `claimDueDeliveries` selects. -/
def Delivery.Due (delivery : Delivery) (now : Timestamp) : Prop :=
  (delivery.status = .PENDING ∨ delivery.status = .FAILED) ∧ delivery.nextAttemptAt ≤ now ∧
    delivery.attemptCount < 5
deriving Decidable

/-- The rows `claimDueDeliveries` locks. -/
def NotificationStore.due (s : NotificationStore) (limit : ℕ) (locked : List Uuid) :
    List Delivery :=
  (orderBy (fun a b : Delivery ↦ a.nextAttemptAt < b.nextAttemptAt ∨
      a.nextAttemptAt = b.nextAttemptAt ∧ a.createdAt ≤ b.createdAt)
    (s.deliveries.rows.filter fun d ↦ d.Due s.now ∧ d.id ∉ locked)).take limit

/-- What the `UPDATE` of `claimDueDeliveries` sets. -/
def Delivery.claimed (delivery : Delivery) : Delivery :=
  { delivery with
    status := .PROCESSING, attemptCount := delivery.attemptCount + 1, errorCode := none }

def claimDueDeliveries (s : NotificationStore) (limit : ℕ) (locked : List Uuid) :
    NotificationStore × List Delivery :=
  let due := s.due limit locked
  ({ s with deliveries := s.deliveries.updateEach due Delivery.id fun _ ↦ Delivery.claimed },
    due.map Delivery.claimed)

/-- `markDeliverySent`. -/
def Delivery.sent (providerReference : Option Text) (now : Timestamp) (delivery : Delivery) :
    Delivery :=
  if delivery.status = .PROCESSING then { delivery with
    status := .SENT, errorCode := none, providerReference := providerReference,
    deliveredAt := some now }
  else delivery

def minute : ℕ := 60 * 1000000

/-- `markDeliveryFailed`. -/
def Delivery.failed (attemptCount : ℕ) (errorCode : Text) (now : Timestamp) (delivery : Delivery) :
    Delivery :=
  if delivery.status = .PROCESSING then { delivery with
    status := .FAILED, errorCode := some errorCode,
    nextAttemptAt := now + min 60 (max 1 (attemptCount * attemptCount)) * minute }
  else delivery

/-- `retryFailed`. -/
def Delivery.retried (now : Timestamp) (delivery : Delivery) : Delivery :=
  if delivery.status = .FAILED ∧ delivery.attemptCount < 5 then
    { delivery with nextAttemptAt := now }
  else delivery

theorem Delivery.sent_id (providerReference : Option Text) (now : Timestamp) (d : Delivery) :
    (d.sent providerReference now).id = d.id := by
  rw [sent]
  split <;> rfl

theorem Delivery.failed_id (attemptCount : ℕ) (errorCode : Text) (now : Timestamp) (d : Delivery) :
    (d.failed attemptCount errorCode now).id = d.id := by
  rw [failed]
  split <;> rfl

theorem Delivery.retried_id (now : Timestamp) (d : Delivery) : (d.retried now).id = d.id := by
  rw [retried]
  split <;> rfl

/-- The rows after `retryFailed`. -/
def retryFailed (s : NotificationStore) : Table Delivery where
  rows := s.deliveries.rows.map (Delivery.retried s.now)
  nodup := by
    have hid : (Keyed.key ∘ Delivery.retried s.now : Delivery → Uuid) = Keyed.key :=
      funext (Delivery.retried_id s.now)
    rw [List.map_map, hid]
    exact s.deliveries.nodup

/-! ### A pass -/

def DeliveryChannel.capability : DeliveryChannel → ExternalAdapterCapability
  | .EMAIL => .NOTIFICATION_EMAIL
  | .PUSH => .NOTIFICATION_PUSH

def Delivery.executionKey (delivery : Delivery) : ExecutionKey where
  capability := delivery.channel.capability
  idempotencyKey := textOf "notification:" ++ [delivery.id]

def reportedErrors : List Text :=
  [textOf "ADAPTER_DISABLED", textOf "ADAPTER_NOT_CONFIGURED", textOf "ADAPTER_TIMEOUT",
    textOf "SIMULATED_REJECTED", textOf "EMAIL_PROVIDER_NOT_CONFIGURED",
    textOf "EMAIL_SECRET_REFERENCE_MISMATCH", textOf "EMAIL_PROVIDER_REJECTED",
    textOf "EMAIL_PROVIDER_RATE_LIMITED", textOf "EMAIL_PROVIDER_UNAVAILABLE"]

def deliveryErrorCode (errorCode : Option Text) : Text :=
  let message := errorCode.getD (textOf "ADAPTER_DELIVERY_FAILED")
  if message ∈ reportedErrors then message else textOf "ADAPTER_DELIVERY_FAILED"

inductive NotificationRequest
  | «pass» (limit : ℕ) (locked : List Uuid)
  | enqueue (id : Uuid) (channel : DeliveryChannel)
  | retryFailed
  | wait (microseconds : ℕ)

/-- **Where a request stands.** -/
inductive NotificationProcess
  | claiming (limit : ℕ) (locked : List Uuid)
  | delivering (rest : List Delivery)
  | executing (delivery : Delivery) (rest : List Delivery) (place : ExecutionPlace)
  | markingSent (delivery : Delivery) (providerReference : Option Text) (rest : List Delivery)
  | markingFailed (delivery : Delivery) (errorCode : Text) (rest : List Delivery)
  | enqueuing (id : Uuid) (channel : DeliveryChannel)
  | retrying
  | waiting (microseconds : ℕ)
  | done

def newDelivery (now : Timestamp) (id : Uuid) (channel : DeliveryChannel) : Delivery where
  id := id
  channel := channel
  status := .PENDING
  attemptCount := 0
  nextAttemptAt := now
  createdAt := now
  errorCode := none
  providerReference := none
  deliveredAt := none

def afterExecution (delivery : Delivery) (rest : List Delivery) :
    ExecutionPlace → NotificationProcess
  | .answered result =>
    if result.status = .SUCCEEDED then .markingSent delivery result.providerReference rest
    else .markingFailed delivery (deliveryErrorCode result.errorCode) rest
  | .thrown =>
    .markingFailed delivery (deliveryErrorCode (some (textOf "ADAPTER_CONFIG_NOT_FOUND"))) rest
  | place => .executing delivery rest place

/-- **The next statement of a request.** -/
def deliveryTurn (env : AdapterEnv) :
    NotificationProcess → NotificationStore → NotificationStore × NotificationProcess
  | .claiming limit locked, s =>
    let (s', claimed) := claimDueDeliveries s limit locked
    (s', .delivering claimed)
  | .delivering [], s => (s, .done)
  | .delivering (delivery :: rest), s => (s, .executing delivery rest .configuring)
  | .executing delivery rest place, s =>
    let (adapters, next) := executionTurn env delivery.executionKey place s.adapters
    ({ s with adapters := adapters }, afterExecution delivery rest next)
  | .markingSent delivery providerReference rest, s =>
    ({ s with
      deliveries := s.deliveries.update delivery.id (Delivery.sent providerReference s.now)
        (Delivery.sent_id providerReference s.now) }, .delivering rest)
  | .markingFailed delivery errorCode rest, s =>
    ({ s with
      deliveries := s.deliveries.update delivery.id
        (Delivery.failed delivery.attemptCount errorCode s.now)
        (Delivery.failed_id delivery.attemptCount errorCode s.now) }, .delivering rest)
  | .enqueuing id channel, s =>
    match s.deliveries.insert (newDelivery s.now id channel) with
    | some deliveries => ({ s with deliveries := deliveries }, .done)
    | none => (s, .done)
  | .retrying, s => ({ s with deliveries := Notifications.retryFailed s }, .done)
  | .waiting microseconds, s => ({ s with now := s.now + microseconds }, .done)
  | .done, s => (s, .done)

/-- **The system** of passes. -/
def notificationDeliveries (env : AdapterEnv) :
    Processes.System NotificationStore NotificationProcess NotificationRequest where
  start
    | .«pass» limit locked => .claiming limit locked
    | .enqueue id channel => .enqueuing id channel
    | .retryFailed => .retrying
    | .wait microseconds => .waiting microseconds
  turn := deliveryTurn env

def NotificationProcess.held : NotificationProcess → List Delivery
  | .delivering rest => rest
  | .executing delivery rest _ => delivery :: rest
  | .markingSent delivery _ rest => delivery :: rest
  | .markingFailed delivery _ rest => delivery :: rest
  | _ => []

def NotificationProcess.Holds (p : NotificationProcess) (id : Uuid) : Prop :=
  id ∈ p.held.map Delivery.id
deriving Decidable

end UInventario.Notifications
