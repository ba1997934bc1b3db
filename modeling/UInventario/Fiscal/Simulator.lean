import UInventario.Inventory.ValuationPolicyService

/-!
# The fiscal provider

The simulated provider of fiscal documents: `SimulatedFiscalAdapter` and the transactions of
`FiscalSimulatorRepository` on one document.

* `Provider` has what comes from outside: the reference that is hashed from country, type and
  receipt, whether a configuration passes its contract, and the comparison key of an event id.
* Idempotency keys and fingerprints are the payloads whose hashes the source keeps.
* A key of `fiscal_simulator_operations` has one row, whose result is the document as it was when
  the operation ran.
* `poll_count` is a `TINYINT UNSIGNED`: a query that would take it over 255 fails.
-/

namespace UInventario.Fiscal

open Outcome

inductive FiscalDocumentStatus
  | PENDING | ACCEPTED | REJECTED | INDETERMINATE | CANCELLED
  deriving DecidableEq

inductive FiscalSimulatorScenario
  | SUCCESS | REJECT | TIMEOUT
  deriving DecidableEq

/-- `fiscal_simulator_operations.action`. -/
inductive FiscalAction
  | QUERY | CANCEL
  deriving DecidableEq

inductive CallbackStatus
  | ACCEPTED | REJECTED
  deriving DecidableEq

def CallbackStatus.documentStatus : CallbackStatus → FiscalDocumentStatus
  | .ACCEPTED => .ACCEPTED
  | .REJECTED => .REJECTED

inductive FiscalFailure
  | NotFound
  | IDEMPOTENCY_KEY_REQUIRED
  | IDEMPOTENCY_KEY_CONFLICT
  | VOIDED_SALE_CANNOT_BE_FISCALIZED
  | FISCAL_SIMULATOR_NOT_ENABLED
  | FISCAL_CONTRACT_NOT_READY
  | FISCAL_DOCUMENT_TYPE_NOT_CONFIGURED
  | FISCAL_DOCUMENT_NOT_CANCELLABLE
  | FISCAL_DOCUMENT_ALREADY_CANCELLED
  | FISCAL_DOCUMENT_STATE_CONFLICT
  | FISCAL_DOCUMENT_IDEMPOTENCY_CONFLICT
  | FISCAL_DOCUMENT_PROVIDER_CONFLICT
  -- an error of the database
  | QueryFailed

/-! ### Rows -/

/-- What `issue` hashes of a request to the provider. -/
structure IssueFingerprint where
  (documentType reference : Text)
  scenario : FiscalSimulatorScenario
  deriving DecidableEq

structure IssueKey where
  saleId : Uuid
  key : Text
  deriving DecidableEq

structure SimulatorDocument where
  id : Uuid
  (countryCode contractVersion documentType reference providerReference : Text)
  scenario : FiscalSimulatorScenario
  status : FiscalDocumentStatus
  pollCount : ℕ
  errorCode : Option Text
  idempotencyKey : IssueKey
  requestFingerprint : IssueFingerprint

instance : Keyed SimulatorDocument Uuid := ⟨SimulatorDocument.id⟩

structure OperationKey where
  action : FiscalAction
  saleId : Uuid
  key : Text
  deriving DecidableEq

/-- A row of `fiscal_simulator_operations`; the document and the action are its fingerprint. -/
structure SimulatorOperation where
  idempotencyKey : OperationKey
  documentId : Uuid
  action : FiscalAction
  result : SimulatorDocument

instance : Keyed SimulatorOperation OperationKey := ⟨SimulatorOperation.idempotencyKey⟩

structure SimulatorCallback where
  eventId : Text
  documentId : Uuid
  status : CallbackStatus

/-- A row of `fiscal_tenant_configs`. -/
structure FiscalTenantConfiguration where
  (countryCode contractVersion providerProfile : Text)
  enabled : Bool
  documentTypes : List Text

structure Provider where
  providerReference : Text → Text → Text → Text
  contractReady : FiscalTenantConfiguration → Bool
  collate : Text → Text

structure Simulator where
  configuration : Option FiscalTenantConfiguration
  documents : Table SimulatorDocument
  operations : Table SimulatorOperation
  callbacks : List SimulatorCallback

/-! ### The adapter -/

/-- `FiscalAdapterDocument`, as far as it is state. -/
structure AdapterDocument where
  status : FiscalDocumentStatus
  errorCode : Option Text

/-- `issue` of the adapter. -/
def adapterIssue : FiscalSimulatorScenario → AdapterDocument
  | .REJECT => { status := .REJECTED, errorCode := some (textOf "SIMULATED_REJECTION") }
  | .TIMEOUT => { status := .INDETERMINATE, errorCode := some (textOf "SIMULATED_TIMEOUT") }
  | .SUCCESS => { status := .ACCEPTED, errorCode := none }

/-- `query` of the adapter. -/
def adapterQuery (scenario : FiscalSimulatorScenario) (pollCount : ℕ)
    (currentStatus : FiscalDocumentStatus) : AdapterDocument :=
  if currentStatus ≠ .INDETERMINATE ∨ scenario ≠ .TIMEOUT then
    { status := currentStatus
      errorCode := if currentStatus = .REJECTED then some (textOf "SIMULATED_REJECTION") else none }
  else if pollCount < 2 then
    { status := .INDETERMINATE, errorCode := some (textOf "SIMULATED_STILL_PROCESSING") }
  else { status := .ACCEPTED, errorCode := none }

/-- `cancel` of the adapter. -/
def adapterCancel (currentStatus : FiscalDocumentStatus) : Except FiscalFailure AdapterDocument :=
  if currentStatus = .ACCEPTED ∨ currentStatus = .INDETERMINATE ∨ currentStatus = .CANCELLED then
    .ok { status := .CANCELLED, errorCode := none }
  else .error .FISCAL_DOCUMENT_NOT_CANCELLABLE

/-! ### Operations on a document -/

def SimulatorDocument.answered (result : AdapterDocument) (polls : ℕ) (row : SimulatorDocument) :
    SimulatorDocument :=
  { row with
    status := result.status, errorCode := result.errorCode, pollCount := row.pollCount + polls }

def actionResult (action : FiscalAction) (row : SimulatorDocument) :
    Except FiscalFailure AdapterDocument :=
  match action with
  | .QUERY => .ok (adapterQuery row.scenario (row.pollCount + 1) row.status)
  | .CANCEL => adapterCancel row.status

def FiscalAction.polls : FiscalAction → ℕ
  | .QUERY => 1
  | .CANCEL => 0

def operate (s : Simulator) (documentId : Uuid) (key : OperationKey) :
    Except FiscalFailure (Simulator × SimulatorDocument) := do
  let row ← demand (s.documents.find? documentId) .NotFound
  let result ← actionResult key.action row
  let document := row.answered result key.action.polls
  ensure (document.pollCount ≤ 255) .QueryFailed
  let operations ← demand (s.operations.insert
    { idempotencyKey := key
      documentId := documentId
      action := key.action
      result := document }) .QueryFailed
  return ({ s with
    documents := s.documents.update documentId (SimulatorDocument.answered result key.action.polls)
    operations := operations }, document)

/-- `operation`: `query` and `cancel` of the repository. -/
def operation (s : Simulator) (documentId : Uuid) (key : OperationKey) :
    Except FiscalFailure (Simulator × SimulatorDocument) :=
  match s.operations.find? key with
  | some previous =>
    -- `operationReplay`
    if previous.documentId = documentId ∧ previous.action = key.action then .ok (s, previous.result)
    else .error .IDEMPOTENCY_KEY_CONFLICT
  | none => operate s documentId key

def Simulator.callbackOf (provider : Provider) (s : Simulator) (eventId : Text) :
    Option SimulatorCallback :=
  s.callbacks.find? fun c ↦ provider.collate c.eventId = provider.collate eventId

def SimulatorDocument.calledBack (status : CallbackStatus) (row : SimulatorDocument) :
    SimulatorDocument :=
  if row.status = status.documentStatus then row
  else { row with
    status := status.documentStatus
    errorCode :=
      if status = .REJECTED then some (textOf "SIMULATED_CALLBACK_REJECTION") else none }

theorem SimulatorDocument.calledBack_id (status : CallbackStatus) (row : SimulatorDocument) :
    (row.calledBack status).id = row.id := by
  rw [calledBack]
  split <;> rfl

/-- An event that has not been recorded. `INSERT IGNORE` does nothing where the document is missing.
-/
def receive (s : Simulator) (eventId : Text) (documentId : Uuid) (status : CallbackStatus) :
    Except FiscalFailure (Simulator × SimulatorDocument) := do
  let row ← demand (s.documents.find? documentId) .IDEMPOTENCY_KEY_CONFLICT
  ensure (row.status ≠ .CANCELLED) .FISCAL_DOCUMENT_ALREADY_CANCELLED
  ensure (¬((row.status = .ACCEPTED ∨ row.status = .REJECTED) ∧ row.status ≠ status.documentStatus))
    .FISCAL_DOCUMENT_STATE_CONFLICT
  return ({ s with
    documents := s.documents.update documentId (SimulatorDocument.calledBack status)
      (SimulatorDocument.calledBack_id status)
    callbacks := s.callbacks ++ [
      { eventId := eventId
        documentId := documentId
        status := status }] }, row.calledBack status)

/-- `callback` of the repository. -/
def callback (provider : Provider) (s : Simulator) (eventId : Text) (documentId : Uuid)
    (status : CallbackStatus) : Except FiscalFailure (Simulator × SimulatorDocument) :=
  match s.callbackOf provider eventId with
  | some recorded => do
    ensure (recorded.documentId = documentId ∧ recorded.status = status) .IDEMPOTENCY_KEY_CONFLICT
    let row ← demand (s.documents.find? documentId) .NotFound
    return (s, row)
  | none => receive s eventId documentId status

/-! ### Issuing a document -/

/-- `configuration` of the service. -/
def configuration (provider : Provider) (s : Simulator) :
    Except FiscalFailure FiscalTenantConfiguration := do
  let config ← demand s.configuration .FISCAL_SIMULATOR_NOT_ENABLED
  ensure (config.enabled = true ∧ config.providerProfile = textOf "SIMULATOR")
    .FISCAL_SIMULATOR_NOT_ENABLED
  ensure (provider.contractReady config = true) .FISCAL_CONTRACT_NOT_READY
  return config

def Simulator.byIdempotency (s : Simulator) (key : IssueKey) : Option SimulatorDocument :=
  s.documents.rows.find? fun d ↦ d.idempotencyKey = key

def Simulator.byProviderReference (s : Simulator) (providerReference : Text) :
    Option SimulatorDocument :=
  s.documents.rows.find? fun d ↦ d.providerReference = providerReference

/-- `replay` of the repository. -/
def replayIssue (fingerprint : IssueFingerprint) (existing : SimulatorDocument) :
    Except FiscalFailure SimulatorDocument :=
  if existing.requestFingerprint = fingerprint then .ok existing
  else .error .IDEMPOTENCY_KEY_CONFLICT

/-- The row that `issue` inserts. -/
def issuedRow (provider : Provider) (config : FiscalTenantConfiguration) (id : Uuid)
    (key : IssueKey) (dto : IssueFingerprint) : SimulatorDocument where
  id := id
  countryCode := config.countryCode
  contractVersion := config.contractVersion
  documentType := dto.documentType
  reference := dto.reference
  providerReference := provider.providerReference config.countryCode dto.documentType dto.reference
  scenario := dto.scenario
  status := (adapterIssue dto.scenario).status
  pollCount := 0
  errorCode := (adapterIssue dto.scenario).errorCode
  idempotencyKey := key
  requestFingerprint := dto

/-- The `INSERT` of `issue`, under the keys of the table. -/
def insertIssued (s : Simulator) (row : SimulatorDocument) : Except FiscalFailure Simulator :=
  match s.byIdempotency row.idempotencyKey, s.byProviderReference row.providerReference,
    s.documents.insert row with
  | none, none, some documents => .ok { s with documents := documents }
  | _, _, _ => .error .QueryFailed

end UInventario.Fiscal
