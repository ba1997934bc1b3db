import UInventario.Fiscal.Simulator
import UInventario.Foundations.Processes

/-!
# Fiscal documents of sales

`SaleFiscalDocumentService` and its repository: the document of a sale is issued, queried, cancelled
and called back at the provider, and what the provider answers is then written to the row of the
sale. A request is a process (`Foundations.Processes`): each query and each transaction is a turn,
`sync` one and the operation at the provider another.

* A sale has at most one document (`uq_sale_fiscal_sale`), so a row is found by its sale. Its events
  are the statuses that have been recorded once.
* `randomUUID` comes with a request; a change of sales or configuration is a request too.
-/

namespace UInventario.Fiscal

open Outcome

/-! ### Rows -/

/-- `sales.status`, and the number of the receipt. -/
structure FiscalSale where
  (id branchId : Uuid)
  completed : Bool
  receiptNumber : Text

instance : Keyed FiscalSale Uuid := ⟨FiscalSale.id⟩

inductive SaleFiscalWorkflowStatus
  | SENT
  | document (status : FiscalDocumentStatus)
  deriving DecidableEq

/-- What `issue` hashes of a request for a sale. -/
structure SaleFingerprint where
  saleId : Uuid
  documentType : Text
  scenario : FiscalSimulatorScenario
  deriving DecidableEq

/-- A row of `sale_fiscal_documents`, with its events. -/
structure SaleFiscalDocument where
  (id saleId branchId : Uuid)
  (receiptNumber documentType : Text)
  scenario : FiscalSimulatorScenario
  status : FiscalDocumentStatus
  simulatorDocumentId : Option Uuid
  (providerReference errorCode : Option Text)
  providerIdempotencyKey : IssueKey
  requestFingerprint : SaleFingerprint
  events : List SaleFiscalWorkflowStatus

instance : Keyed SaleFiscalDocument Uuid := ⟨SaleFiscalDocument.saleId⟩

structure FiscalStore where
  sales : Table FiscalSale
  documents : Table SaleFiscalDocument
  simulator : Simulator

def FiscalStore.unissued (sales : Table FiscalSale)
    (configuration : Option FiscalTenantConfiguration) : FiscalStore where
  sales := sales
  documents := .empty
  simulator :=
    { configuration := configuration
      documents := .empty
      operations := .empty
      callbacks := [] }

/-! ### The repository -/

def FiscalStore.get (s : FiscalStore) (branchId saleId : Uuid) : Option SaleFiscalDocument :=
  (s.documents.find? saleId).filter fun d ↦ d.branchId = branchId

/-- `receipts.get`. -/
def FiscalStore.receipt (s : FiscalStore) (branchId saleId : Uuid) : Option FiscalSale :=
  (s.sales.find? saleId).filter fun sale ↦ sale.branchId = branchId

structure IssueInput where
  (branchId saleId : Uuid)
  (idempotencyKey documentType : Text)
  scenario : FiscalSimulatorScenario
  (id simulatorId : Uuid)

/-- `fingerprint` of `issue`. -/
def IssueInput.fingerprint (input : IssueInput) : SaleFingerprint where
  saleId := input.saleId
  documentType := input.documentType
  scenario := input.scenario

/-- The row that `start` inserts. -/
def IssueInput.row (input : IssueInput) (receiptNumber : Text) : SaleFiscalDocument where
  id := input.id
  saleId := input.saleId
  branchId := input.branchId
  receiptNumber := receiptNumber
  documentType := input.documentType
  scenario := input.scenario
  status := .PENDING
  simulatorDocumentId := none
  providerReference := none
  errorCode := none
  providerIdempotencyKey := { saleId := input.saleId, key := input.idempotencyKey }
  requestFingerprint := input.fingerprint
  events := [.document .PENDING]

/-- The transaction of `start`. -/
def insertDocument (s : FiscalStore) (input : IssueInput) (receiptNumber : Text) :
    Except FiscalFailure FiscalStore := do
  let sale ← demand (s.receipt input.branchId input.saleId) .NotFound
  ensure (sale.completed = true) .NotFound
  ensure (∀ d ∈ s.documents.rows, d.id ≠ input.id) .QueryFailed
  let documents ← demand (s.documents.insert (input.row receiptNumber)) .QueryFailed
  return { s with documents := documents }

/-- `replay` of the repository. -/
def replayDocument (fingerprint : SaleFingerprint) (document : SaleFiscalDocument) :
    Except FiscalFailure SaleFiscalDocument :=
  if document.requestFingerprint = fingerprint then .ok document
  else .error .FISCAL_DOCUMENT_IDEMPOTENCY_CONFLICT

/-- `event`: a status is recorded once. -/
def recordEvent (status : SaleFiscalWorkflowStatus) (events : List SaleFiscalWorkflowStatus) :
    List SaleFiscalWorkflowStatus :=
  if status ∈ events then events else events ++ [status]

/-- What `sync` writes. -/
def SaleFiscalDocument.synced (simulator : SimulatorDocument) (row : SaleFiscalDocument) :
    SaleFiscalDocument :=
  { row with
    simulatorDocumentId := some simulator.id
    providerReference := some simulator.providerReference
    status := simulator.status
    errorCode := simulator.errorCode
    events :=
      if row.status ≠ simulator.status then
        recordEvent (.document simulator.status) (recordEvent .SENT row.events)
      else recordEvent .SENT row.events }

/-- `sync`, under `fk_sale_fiscal_simulator` and `uq_sale_fiscal_simulator`. -/
def sync (s : FiscalStore) (branchId saleId : Uuid) (simulator : SimulatorDocument) :
    Except FiscalFailure FiscalStore := do
  let row ← demand (s.get branchId saleId) .NotFound
  ensure (∀ d ∈ row.simulatorDocumentId, d = simulator.id) .FISCAL_DOCUMENT_PROVIDER_CONFLICT
  ensure ((s.simulator.documents.find? simulator.id).isSome = true) .QueryFailed
  ensure (∀ d ∈ s.documents.rows, d.simulatorDocumentId = some simulator.id → d.saleId = saleId)
    .QueryFailed
  return { s with documents := s.documents.update saleId (SaleFiscalDocument.synced simulator) }

/-! ### The service -/

inductive OperationKind
  | query (idempotencyKey : Text)
  | cancel (idempotencyKey : Text)
  | callback (eventId : Text) (status : CallbackStatus)

def OperationKind.keyed : OperationKind → Bool
  | .query key => isIdempotencyKey key
  | .cancel key => isIdempotencyKey key
  | .callback _ _ => true

structure OperationInput where
  (branchId saleId : Uuid)
  kind : OperationKind

structure IssueRequest where
  (branchId saleId : Uuid)
  key : IssueKey
  dto : IssueFingerprint
  id : Uuid

inductive FiscalRequest
  | issue (input : IssueInput)
  | operate (input : OperationInput)
  | «elsewhere» (sales : Table FiscalSale) (configuration : Option FiscalTenantConfiguration)

/-- **Where a request stands.** -/
inductive Process
  -- `issue`: the receipt, `start`
  | receiving (input : IssueInput)
  | looking (input : IssueInput) (receiptNumber : Text)
  | inserting (input : IssueInput) (receiptNumber : Text)
  | rereading (input : IssueInput) (receiptNumber : Text) (inserted : Bool)
  -- `simulator.issue`
  | configuringIssue (request : IssueRequest)
  | findingIssued (request : IssueRequest) (row : SimulatorDocument)
  | insertingIssued (request : IssueRequest) (row : SimulatorDocument)
  | racingIssued (request : IssueRequest) (row : SimulatorDocument)
  | referencingIssued (request : IssueRequest) (row : SimulatorDocument)
  | readingIssued (request : IssueRequest)
  -- `query`, `cancel`, `callback`
  | requiring (input : OperationInput)
  | configuring (input : OperationInput) (documentId : Uuid)
  | operating (input : OperationInput) (documentId : Uuid)
  -- the answer of the provider is there
  | syncing (branchId saleId : Uuid) (simulator : SimulatorDocument)
  | changing (sales : Table FiscalSale) (configuration : Option FiscalTenantConfiguration)
  | answered (result : Except FiscalFailure Unit)

def Process.throw (e : FiscalFailure) : Process :=
  .answered (.error e)

def Process.after {α : Type} (result : Except FiscalFailure α) (next : α → Process) : Process :=
  match result with
  | .ok a => next a
  | .error e => .throw e

/-- `issue` once the row of the sale is there: the provider is asked unless it has answered
already. -/
def issueFor (input : IssueInput) (receiptNumber : Text) (document : SaleFiscalDocument) :
    Process :=
  match document.simulatorDocumentId with
  | some _ => .answered (.ok ())
  | none => .configuringIssue
    { branchId := input.branchId
      saleId := input.saleId
      key := document.providerIdempotencyKey
      dto :=
        { documentType := document.documentType
          reference := receiptNumber
          scenario := document.scenario }
      id := input.simulatorId }

/-- `issue` up to `start`. -/
def receiveIssue (s : FiscalStore) (input : IssueInput) : Process :=
  if isIdempotencyKey input.idempotencyKey = true then
    match s.receipt input.branchId input.saleId with
    | none => .throw .NotFound
    | some sale =>
      if sale.completed = true then .looking input sale.receiptNumber
      else .throw .VOIDED_SALE_CANNOT_BE_FISCALIZED
  else .throw .IDEMPOTENCY_KEY_REQUIRED

/-- The first query of `start`. -/
def look (s : FiscalStore) (input : IssueInput) (receiptNumber : Text) : Process :=
  match s.get input.branchId input.saleId with
  | none => .inserting input receiptNumber
  | some existing =>
    .after (replayDocument input.fingerprint existing) (issueFor input receiptNumber)

/-- The query of `start` after its transaction, one that has failed too. -/
def reread (s : FiscalStore) (input : IssueInput) (receiptNumber : Text) (inserted : Bool) :
    Process :=
  match s.get input.branchId input.saleId with
  | none => .throw .QueryFailed
  | some document =>
    if inserted = true then issueFor input receiptNumber document
    else .after (replayDocument input.fingerprint document) (issueFor input receiptNumber)

/-- `issue` of the provider's service, up to its repository. -/
def configureIssue (provider : Provider) (s : FiscalStore) (request : IssueRequest) : Process :=
  .after (configuration provider s.simulator) fun config ↦
    if request.dto.documentType ∈ config.documentTypes then
      .findingIssued request (issuedRow provider config request.id request.key request.dto)
    else .throw .FISCAL_DOCUMENT_TYPE_NOT_CONFIGURED

/-- The answer of the provider to `issue`. -/
def IssueRequest.sync (request : IssueRequest) (document : SimulatorDocument) : Process :=
  .syncing request.branchId request.saleId document

/-- `require` of the service. -/
def requireDocument (s : FiscalStore) (input : OperationInput) : Process :=
  match (s.get input.branchId input.saleId).bind SaleFiscalDocument.simulatorDocumentId with
  | none => .throw .NotFound
  | some documentId =>
    if input.kind.keyed = true then .configuring input documentId
    else .throw .IDEMPOTENCY_KEY_REQUIRED

def providerTransaction (provider : Provider) (s : Simulator) (input : OperationInput)
    (documentId : Uuid) : Except FiscalFailure (Simulator × SimulatorDocument) :=
  match input.kind with
  | .query key => operation s documentId { action := .QUERY, saleId := input.saleId, key := key }
  | .cancel key => operation s documentId { action := .CANCEL, saleId := input.saleId, key := key }
  | .callback eventId status => callback provider s eventId documentId status

/-- **The next statement of a request.** -/
def turn (provider : Provider) : Process → FiscalStore → FiscalStore × Process
  | .receiving input, s => (s, receiveIssue s input)
  | .looking input receiptNumber, s => (s, look s input receiptNumber)
  | .inserting input receiptNumber, s =>
    match insertDocument s input receiptNumber with
    | .ok s' => (s', .rereading input receiptNumber true)
    | .error .QueryFailed => (s, .rereading input receiptNumber false)
    | .error e => (s, .throw e)
  | .rereading input receiptNumber inserted, s => (s, reread s input receiptNumber inserted)
  | .configuringIssue request, s => (s, configureIssue provider s request)
  | .findingIssued request row, s =>
    (s, match s.simulator.byIdempotency request.key with
      | some existing => .after (replayIssue request.dto existing) request.sync
      | none => .insertingIssued request row)
  | .insertingIssued request row, s =>
    match insertIssued s.simulator row with
    | .ok simulator => ({ s with simulator := simulator }, .readingIssued request)
    | .error _ => (s, .racingIssued request row)
  | .racingIssued request row, s =>
    (s, match s.simulator.byIdempotency request.key with
      | some raced => .after (replayIssue request.dto raced) request.sync
      | none => .referencingIssued request row)
  | .referencingIssued request row, s =>
    (s, match s.simulator.byProviderReference row.providerReference with
      | some duplicate => .after (replayIssue request.dto duplicate) request.sync
      | none => .throw .QueryFailed)
  | .readingIssued request, s =>
    (s, match s.simulator.documents.find? request.id with
      | some document => request.sync document
      | none => .throw .QueryFailed)
  | .requiring input, s => (s, requireDocument s input)
  | .configuring input documentId, s =>
    (s, .after (configuration provider s.simulator) fun _ ↦ .operating input documentId)
  | .operating input documentId, s =>
    match providerTransaction provider s.simulator input documentId with
    | .ok (simulator, document) =>
      ({ s with simulator := simulator }, .syncing input.branchId input.saleId document)
    | .error e => (s, .throw e)
  | .syncing branchId saleId simulator, s =>
    match sync s branchId saleId simulator with
    | .ok s' => (s', .answered (.ok ()))
    | .error e => (s, .throw e)
  | .changing sales configuration, s =>
    ({ s with
      sales := sales
      simulator := { s.simulator with configuration := configuration } }, .answered (.ok ()))
  | .answered result, s => (s, .answered result)

def fiscalDocuments (provider : Provider) : Processes.System FiscalStore Process FiscalRequest where
  start
    | .issue input => .receiving input
    | .operate input => .requiring input
    | .«elsewhere» sales configuration => .changing sales configuration
  turn := turn provider

def Process.concerns : Process → Option Uuid
  | .receiving input => some input.saleId
  | .looking input _ => some input.saleId
  | .inserting input _ => some input.saleId
  | .rereading input _ _ => some input.saleId
  | .configuringIssue request => some request.saleId
  | .findingIssued request _ => some request.saleId
  | .insertingIssued request _ => some request.saleId
  | .racingIssued request _ => some request.saleId
  | .referencingIssued request _ => some request.saleId
  | .readingIssued request => some request.saleId
  | .requiring input => some input.saleId
  | .configuring input _ => some input.saleId
  | .operating input _ => some input.saleId
  | .syncing _ saleId _ => some saleId
  | .changing _ _ => none
  | .answered _ => none

end UInventario.Fiscal
