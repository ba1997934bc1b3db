import UInventario.Foundations.Processes
import UInventario.Inventory.ValuationPolicyService
import UInventario.Pos.SalePayments

/-!
# Operations of a payment terminal

`PaymentTerminalService` and its repository, next to the sales that use what has been captured. A
request is a process. The provider is asked between two statements, and what it answers comes with
the request. `cancellations` lists the operations for which it has been asked to cancel.

* The fingerprint of a start is made of columns that never change, so it is compared with them
  (`StartInput.Matches`).
* A sale is prepared in one turn and persisted in another; what is read in between is the shop, in
  any state.
* `collate` is the collation of the columns, `pendingReference` the text `PENDING-<id>`.
-/

namespace UInventario.Pos.Terminals

open Outcome Cart

/-- `PaymentTerminalAdapterState`. -/
structure TerminalState where
  providerReference : Text
  status : TerminalStatus
  (authorizationCode errorCode : Option Text)

inductive TerminalFailure
  | INVALID_IDEMPOTENCY_KEY
  | PAYMENT_TERMINAL_IDEMPOTENCY_CONFLICT
  | PAYMENT_TERMINAL_NOT_FOUND
  | PAYMENT_TERMINAL_CANNOT_CANCEL
  | duplicateEntry | checkViolation

/-- The till, and the cancellations that the provider has been asked for. -/
structure TerminalStore where
  till : Till
  cancellations : List Uuid

abbrev TerminalStore.terminals (s : TerminalStore) : Table TerminalOperation :=
  s.till.terminals

structure TerminalContext where
  (toUpperCase collate : Text → Text)
  pendingReference : Uuid → Text

/-! ### The repository -/

/-- What the provider answers to the steps of a start; `none` is an exception. -/
structure StartAnswers where
  initiate : Option TerminalState
  (authorize capture : TerminalState → Option TerminalState)

structure StartInput where
  (branchId cashRegisterId : Uuid)
  amount : ℤ
  currency : Currency
  scenario : TerminalScenario
  idempotencyKey : Text
  id : Uuid
  answers : StartAnswers

/-- The row that `createPending` inserts. -/
def StartInput.row (input : StartInput) : TerminalOperation where
  id := input.id
  branchId := input.branchId
  cashRegisterId := input.cashRegisterId
  providerReference := none
  amount := input.amount
  currency := input.currency
  status := .PENDING
  authorizationCode := none
  saleId := none
  scenario := input.scenario
  idempotencyKey := input.idempotencyKey

/-- The fingerprint, the branch and the cash register of a start are those of a row. -/
def StartInput.Matches (input : StartInput) (row : TerminalOperation) : Prop :=
  row.branchId = input.branchId ∧ row.cashRegisterId = input.cashRegisterId ∧
    row.amount = input.amount ∧ row.currency = input.currency ∧ row.scenario = input.scenario
deriving Decidable

section Repository

variable (context : TerminalContext)

def findByIdempotency (terminals : Table TerminalOperation) (idempotencyKey : Text) :
    Option TerminalOperation :=
  terminals.rows.find? fun row ↦
    context.collate row.idempotencyKey = context.collate idempotencyKey

/-- The `INSERT` of `createPending`. -/
def insertOperation (terminals : Table TerminalOperation) (input : StartInput) :
    Except TerminalFailure (Table TerminalOperation) := do
  ensure (0 < input.amount) .checkViolation
  ensure (findByIdempotency context terminals input.idempotencyKey = none) .duplicateEntry
  demand (terminals.insert input.row) .duplicateEntry

def adapterState (row : TerminalOperation) : TerminalState where
  providerReference := row.providerReference.getD (context.pendingReference row.id)
  status := row.status
  authorizationCode := row.authorizationCode
  errorCode := row.errorCode

/-- A state that is about to be written, and the row as the request has read it. -/
structure Update where
  read : TerminalOperation
  state : TerminalState
  incrementQuery : Bool
  /-- The state is what a reconciliation has been answered. -/
  reconciled : Bool

/-- The assignments of `updateState`. -/
def Update.assign (u : Update) (row : TerminalOperation) : TerminalOperation :=
  { row with
    providerReference := some u.state.providerReference, status := u.state.status,
    authorizationCode := u.state.authorizationCode, errorCode := u.state.errorCode,
    queryCount := row.queryCount + if u.incrementQuery = true then 1 else 0 }

/-- The reference of the state is free (`uq_payment_terminal_provider_reference`). -/
def Update.ReferenceFree (u : Update) (terminals : Table TerminalOperation) : Prop :=
  ∀ row ∈ terminals.rows, row.id ≠ u.read.id →
    row.providerReference.map context.collate ≠ some (context.collate u.state.providerReference)
deriving Decidable

/-- `updateState`: `UPDATE … WHERE id = ? AND sale_id IS NULL`. -/
def updateState (terminals : Table TerminalOperation) (u : Update) :
    Except TerminalFailure (Table TerminalOperation) :=
  match terminals.find? u.read.id with
  | none => .error .PAYMENT_TERMINAL_NOT_FOUND
  | some row =>
    if row.saleId = none then do
      ensure (u.ReferenceFree context terminals) .duplicateEntry
      -- `ck_payment_terminal_capture`
      ensure (u.state.status = .AUTHORIZED ∨ u.state.status = .CAPTURED →
        u.state.authorizationCode ≠ none) .checkViolation
      return terminals.update u.read.id u.assign
    else .ok terminals

/-! ### The service -/

/-- The state a start ends with; an exception of the provider leaves it indeterminate. -/
def startState (answers : StartAnswers) (pending : TerminalOperation) : TerminalState :=
  (do
    let initiated ← answers.initiate
    let authorized ← answers.authorize initiated
    if authorized.status = TerminalStatus.AUTHORIZED then answers.capture authorized
      else some authorized).getD
    { providerReference := pending.providerReference.getD (context.pendingReference pending.id)
      status := .INDETERMINATE
      authorizationCode := pending.authorizationCode
      errorCode := some (textOf "TERMINAL_TIMEOUT") }

end Repository

inductive TerminalRequest
  | start (input : StartInput)
  | get (operationId : Uuid) (answer : TerminalState → Option TerminalState)
  | cancel (operationId : Uuid) (answer : TerminalState → Option TerminalState)
  | reconcile (branchId : Uuid) (listed : List Uuid)
    (answer : List TerminalState → Option (List TerminalState))
  | createSale (commit : Commit) (request : SaleRequest)
  | «elsewhere» (shop : Shop)

/-- **Where a request stands.** -/
inductive Process
  | inserting (input : StartInput)
  | reading (input : StartInput)
  | replaying (input : StartInput)
  | getting (operationId : Uuid) (answer : TerminalState → Option TerminalState)
  | cancelling (operationId : Uuid) (answer : TerminalState → Option TerminalState)
  -- the provider is about to be asked to cancel
  | calling (found : TerminalOperation) (answer : TerminalState → Option TerminalState)
  | updating (u : Update)
  | listing (branchId : Uuid) (listed : List Uuid)
    (answer : List TerminalState → Option (List TerminalState))
  | reconciling (items : List (TerminalOperation × Option TerminalState))
  | preparing (commit : Commit) (request : SaleRequest)
  | persisting (commit : Commit) (idempotencyKey : Text) (fingerprint : SaleFingerprint)
    (content : SaleContent)
  | changing (shop : Shop)
  | finished
  | failed (e : TerminalFailure)
  | refused (e : SaleFailure)

section Turns

variable (context : TerminalContext)

/-- `start` from its pending operation on. -/
def initiate (input : StartInput) (pending : TerminalOperation) : Process :=
  if pending.status = .PENDING then
    .updating
      { read := pending
        state := startState context input.answers pending
        incrementQuery := false
        reconciled := false }
  else .finished

variable (s : TerminalStore)

/-- `createPending` after its `INSERT`. -/
def readCreated (input : StartInput) : Process :=
  match s.terminals.find? input.id with
  | none => .failed .PAYMENT_TERMINAL_NOT_FOUND
  | some created => initiate context input created

/-- `createPending` when its `INSERT` meets a duplicate. -/
def readReplayed (input : StartInput) : Process :=
  match findByIdempotency context s.terminals input.idempotencyKey with
  | none => .failed .PAYMENT_TERMINAL_IDEMPOTENCY_CONFLICT
  | some existing =>
    if input.Matches existing then initiate context input existing
    else .failed .PAYMENT_TERMINAL_IDEMPOTENCY_CONFLICT

/-- `get` up to the answer of the provider; an exception ends the request. -/
def getDetails (operationId : Uuid) (answer : TerminalState → Option TerminalState) : Process :=
  match s.terminals.find? operationId with
  | none => .failed .PAYMENT_TERMINAL_NOT_FOUND
  | some found =>
    if found.status = .INDETERMINATE ∧ found.saleId = none then
      match answer (adapterState context found) with
      | none => .finished
      | some state => .updating
          { read := found
            state := state
            incrementQuery := true
            reconciled := false }
    else .finished

/-- `cancel` up to the question to the provider. -/
def cancelDetails (operationId : Uuid) (answer : TerminalState → Option TerminalState) : Process :=
  match s.terminals.find? operationId with
  | none => .failed .PAYMENT_TERMINAL_NOT_FOUND
  | some found =>
    if found.status = .CANCELLED then .finished
    else if found.saleId ≠ none ∨ found.status = .DECLINED then
      .failed .PAYMENT_TERMINAL_CANNOT_CANCEL
    else .calling found answer

/-- What `cancel` does with the answer of the provider. -/
def cancelAnswered (found : TerminalOperation) (answer : TerminalState → Option TerminalState) :
    Process :=
  match answer (adapterState context found) with
  | none => .finished
  | some state => .updating
      { read := found
        state := state
        incrementQuery := false
        reconciled := false }

/-- `listForReconciliation`, and the answer of the provider to it. -/
def listOperations (branchId : Uuid) (listed : List Uuid)
    (answer : List TerminalState → Option (List TerminalState)) : Process :=
  let rows := (listed.filterMap s.terminals.find?).filter fun row ↦ row.branchId = branchId
  match answer (rows.map (adapterState context)) with
  | none => .finished
  | some states => .reconciling (rows.mapIdx fun index row ↦ (row, states[index]?))

/-- The update that a turn of the loop of `reconcile` makes. -/
def reconcileUpdate (item : TerminalOperation × Option TerminalState) : Option Update :=
  item.2.bind fun state ↦
    if item.1.saleId = none ∧
        (state.status ≠ item.1.status ∨ state.errorCode ≠ item.1.errorCode) then
      some
        { read := item.1
          state := state
          incrementQuery := true
          reconciled := true }
    else none

/-- `createSale` up to its transaction. -/
def prepare (commit : Commit) (r : SaleRequest) : Except SaleFailure Process := do
  (assertCredit r).mapError .cart
  let fingerprint ← (saleFingerprint context.toUpperCase r.dto).mapError .cart
  match s.till.desk.saleByKey r.idempotencyKey with
  | some sale => do
    let _till ← s.till.replay fingerprint sale
    pure .finished
  | none => do
    let content ← (prepareSale context.toUpperCase s.till.desk.shop r).mapError .cart
    pure (.persisting commit r.idempotencyKey fingerprint content)

def TerminalStore.write (terminals : Table TerminalOperation) : TerminalStore :=
  { s with till := { s.till with terminals := terminals } }

/-- **The next turn of a request.** -/
def turn : Process → TerminalStore → TerminalStore × Process
  | .inserting input, s =>
    match insertOperation context s.terminals input with
    | .ok terminals => (s.write terminals, .reading input)
    | .error .duplicateEntry => (s, .replaying input)
    | .error e => (s, .failed e)
  | .reading input, s => (s, readCreated context s input)
  | .replaying input, s => (s, readReplayed context s input)
  | .getting operationId answer, s => (s, getDetails context s operationId answer)
  | .cancelling operationId answer, s => (s, cancelDetails s operationId answer)
  | .calling found answer, s =>
    ({ s with cancellations := s.cancellations ++ [found.id] }, cancelAnswered context found answer)
  | .updating u, s =>
    match updateState context s.terminals u with
    | .ok terminals => (s.write terminals, .finished)
    | .error e => (s, .failed e)
  | .listing branchId listed answer, s => (s, listOperations context s branchId listed answer)
  | .reconciling [], s => (s, .finished)
  | .reconciling (item :: rest), s =>
    match reconcileUpdate item with
    | none => (s, .reconciling rest)
    | some u =>
      match updateState context s.terminals u with
      | .ok terminals => (s.write terminals, .reconciling rest)
      | .error e => (s, .failed e)
  | .preparing commit request, s =>
    match prepare context s commit request with
    | .ok p => (s, p)
    | .error e => (s, .refused e)
  | .persisting commit idempotencyKey fingerprint content, s =>
    match s.till.persistSale context.collate commit idempotencyKey fingerprint content with
    | .ok till => ({ s with till := till }, .finished)
    | .error e => (s, .refused e)
  | .changing shop, s =>
    ({ s with till := { s.till with desk := { s.till.desk with shop := shop } } }, .finished)
  | .finished, s => (s, .finished)
  | .failed e, s => (s, .failed e)
  | .refused e, s => (s, .refused e)

end Turns

def terminals (context : TerminalContext) :
    Processes.System TerminalStore Process TerminalRequest where
  start
    | .start input =>
      if isIdempotencyKey input.idempotencyKey = true then .inserting input
      else .failed .INVALID_IDEMPOTENCY_KEY
    | .get operationId answer => .getting operationId answer
    | .cancel operationId answer => .cancelling operationId answer
    | .reconcile branchId listed answer => .listing branchId listed answer
    | .createSale commit request => .preparing commit request
    | .«elsewhere» shop => .changing shop
  turn := turn context

def TerminalStore.fresh (uuid : ℕ → Uuid) (shop : Shop) : TerminalStore where
  till := Till.fresh uuid shop .empty
  cancellations := []

end UInventario.Pos.Terminals
