import UInventario.Pos.SaleRequests

/-!
# The payments of a sale

`persistSale` once more, for what it writes to `sale_payments`: the payments of the request, the
amount on credit, and a voucher for the points redeemed. Two keys refuse rows: a sale has one
payment of a method, and a tenant one payment of a method under an external reference. Any duplicate
is taken for a used reference, unless the sale is there under its key.

* A payment by terminal takes its reference from the operation, which the transaction locks and
  links to the sale (`TerminalOperation`).
* The rest of the transaction is the parameter `commit`; `collate` is the collation of the column.
* A void deletes no payment and no key has the status, which is left out. A sale has at most one
  payment by card, so the key that gives an operation to one sale is left out too.
-/

namespace UInventario.Pos.Cart

open Outcome

/-! ### Rows -/

/-- A row of `sale_payments`. -/
structure PaymentRow where
  (id saleId : Uuid)
  method : PaymentMethod
  externalReference : Option Text
  currency : Currency
  (amountReceived amountApplied changeAmount : ℤ)

instance : Keyed PaymentRow Uuid := ⟨PaymentRow.id⟩

/-- `payment_terminal_operations.status`. -/
inductive TerminalStatus
  | PENDING | AUTHORIZED | CAPTURED | DECLINED | INDETERMINATE | CANCELLED
  deriving DecidableEq

/-- `payment_terminal_operations.scenario`. -/
inductive TerminalScenario
  | SUCCESS | REJECT | INDETERMINATE
  deriving DecidableEq

structure TerminalOperation where
  (id branchId cashRegisterId : Uuid)
  providerReference : Option Text
  amount : ℤ
  currency : Currency
  status : TerminalStatus
  authorizationCode : Option Text
  saleId : Option Uuid
  scenario : TerminalScenario := .SUCCESS
  errorCode : Option Text := none
  idempotencyKey : Text := []
  queryCount : ℕ := 0

instance : Keyed TerminalOperation Uuid := ⟨TerminalOperation.id⟩

/-- The reason of a `PaymentTerminalOperationError`. -/
inductive TerminalReason
  | NOT_FOUND | CONTEXT_MISMATCH | ALREADY_USED | NOT_CAPTURED | AMOUNT_MISMATCH

inductive SaleFailure
  | cart (failure : CartFailure)
  | duplicateEntry | checkViolation
  | paymentTerminalOperation (reason : TerminalReason)
  | paymentReferenceConflict

def SaleFailure.isDuplicate : SaleFailure → Bool
  | .duplicateEntry | .cart (.store .duplicateEntry) => true
  | _ => false

/-- **The desk with its payments.** `uuid` is the stream that `randomUUID` draws from. -/
structure Till where
  uuid : ℕ → Uuid
  drawn : ℕ
  desk : Desk
  terminals : Table TerminalOperation
  payments : Table PaymentRow

def Till.fresh (uuid : ℕ → Uuid) (shop : Shop) (terminals : Table TerminalOperation) : Till where
  uuid := uuid
  drawn := 0
  desk := { shop := shop, sales := [] }
  terminals := terminals
  payments := Table.empty

/-! ### Terminals -/

/-- `reserveCaptured`: the reference of the operation. -/
def reserveCaptured (terminals : Table TerminalOperation) (content : SaleContent)
    (payment : PreparedPayment) (operationId : Uuid) : Except SaleFailure Text := do
  let row ← demand (terminals.find? operationId) (.paymentTerminalOperation .NOT_FOUND)
  ensure (row.branchId = content.place.branchId ∧
    row.cashRegisterId = content.place.cashRegisterId) (.paymentTerminalOperation .CONTEXT_MISMATCH)
  ensure (row.saleId = none) (.paymentTerminalOperation .ALREADY_USED)
  ensure (row.status = .CAPTURED) (.paymentTerminalOperation .NOT_CAPTURED)
  ensure (row.amount = payment.amountApplied ∧ row.currency = content.currency)
    (.paymentTerminalOperation .AMOUNT_MISMATCH)
  ensure (present row.authorizationCode = true) (.paymentTerminalOperation .NOT_CAPTURED)
  demand (row.providerReference.filter fun reference ↦ reference ≠ [])
    (.paymentTerminalOperation .NOT_CAPTURED)

/-- The reference a payment is recorded under: `terminal?.providerReference ?? payment.reference`.
-/
def referPayment (terminals : Table TerminalOperation) (content : SaleContent)
    (payment : PreparedPayment) : Except SaleFailure (PreparedPayment × Option Text) :=
  match payment.terminalOperationId with
  | none => pure (payment, payment.reference)
  | some operationId => do
    let reference ← reserveCaptured terminals content payment operationId
    pure (payment, some reference)

/-- `terminalAuthorizations`. -/
def Till.referPayments (till : Till) (content : SaleContent) :
    Except SaleFailure (List (PreparedPayment × Option Text)) :=
  content.payments.mapM (referPayment till.terminals content)

def linkSale (till : Till) (saleId : Uuid) : Option Uuid → Except SaleFailure Till
  | none => pure till
  | some operationId => do
    ensure ((till.terminals.find? operationId).any fun row ↦
      row.status = .CAPTURED ∧ row.saleId = none) (.paymentTerminalOperation .ALREADY_USED)
    pure { till with terminals := till.terminals.update operationId fun row ↦ { row with
      saleId := some saleId } }

/-! ### Inserting payments -/

structure NewPayment where
  method : PaymentMethod
  externalReference : Option Text
  (amountReceived amountApplied changeAmount : ℤ)

/-- `ck_sale_payments_amounts`. -/
def NewPayment.amounts (row : NewPayment) : Prop :=
  0 < row.amountApplied ∧
  match row.method with
  | .CASH => row.amountApplied ≤ row.amountReceived ∧
      row.changeAmount = row.amountReceived - row.amountApplied ∧ row.externalReference = none
  | .CREDIT => row.amountReceived = 0 ∧ row.changeAmount = 0 ∧ row.externalReference = none
  | _ => row.amountReceived = row.amountApplied ∧ row.changeAmount = 0 ∧
      row.externalReference ≠ none

instance (row : NewPayment) : Decidable row.amounts := by
  unfold NewPayment.amounts
  cases row.method <;> infer_instance

section Insert

variable (collate : Text → Text)

def Till.Free (till : Till) (saleId : Uuid) (row : NewPayment) : Prop :=
  ∀ old ∈ till.payments.rows, old.method = row.method → old.saleId ≠ saleId ∧
    ∀ reference ∈ row.externalReference,
      old.externalReference.map collate ≠ some (collate reference)
deriving Decidable

variable (content : SaleContent)

/-- `INSERT INTO sale_payments`. -/
def insertPayment (saleId : Uuid) (till : Till) (row : NewPayment) :
    Except SaleFailure Till := do
  ensure row.amounts .checkViolation
  ensure (till.Free collate saleId row) .duplicateEntry
  let payments ← demand (till.payments.insert {
    id := till.uuid till.drawn, saleId := saleId, method := row.method,
    externalReference := row.externalReference, currency := content.currency,
    amountReceived := row.amountReceived, amountApplied := row.amountApplied,
    changeAmount := row.changeAmount }) .duplicateEntry
  pure { till with drawn := till.drawn + 1, payments := payments }

/-- `totals.payable ?? totals.total`. -/
def SaleContent.payable : ℤ :=
  match content.loyalty with
  | some loyalty => content.totals.total - loyalty.redemptionValue
  | none => content.totals.total

def SaleContent.creditPayments : List NewPayment :=
  if content.credit = none then []
  else [{
    method := .CREDIT, externalReference := none, amountReceived := 0,
    amountApplied := content.payable, changeAmount := 0 }]

def requestedRow (entry : PreparedPayment × Option Text) : NewPayment where
  method := entry.1.method
  externalReference := entry.2
  amountReceived := entry.1.amountReceived
  amountApplied := entry.1.amountApplied
  changeAmount := entry.1.change

/-- `points:${pointsRedeemed}`. -/
def pointsReference (points : ℕ) : Text :=
  [112, 111, 105, 110, 116, 115, 58] ++ (Decimal.natText points).map Char.toNat

def loyaltyRow (loyalty : LoyaltyQuote) : NewPayment where
  method := .VOUCHER
  externalReference := some (pointsReference loyalty.pointsRedeemed)
  amountReceived := loyalty.redemptionValue
  amountApplied := loyalty.redemptionValue
  changeAmount := 0

def SaleContent.loyaltyPayments : List NewPayment :=
  ((content.loyalty.filter fun loyalty ↦ 0 < loyalty.pointsRedeemed).map loyaltyRow).toList

def insertRequested (saleId : Uuid) (till : Till)
    (entry : PreparedPayment × Option Text) : Except SaleFailure Till := do
  let till ← insertPayment collate content saleId till (requestedRow entry)
  linkSale till saleId entry.1.terminalOperationId

/-- The payments of a sale: on credit, those of the request, and the points. -/
def insertPayments (saleId : Uuid)
    (referred : List (PreparedPayment × Option Text)) (till : Till) : Except SaleFailure Till := do
  let till ← content.creditPayments.foldlM (insertPayment collate content saleId) till
  let till ← referred.foldlM (insertRequested collate content saleId) till
  content.loyaltyPayments.foldlM (insertPayment collate content saleId) till

end Insert

/-! ### The sale -/

/-- The rest of `persistSale`: the shop after the sale with its identifier and its key. -/
abbrev Commit := Uuid → Text → Shop → SaleContent → Except CartFailure Shop

section Create

variable (toUpperCase : Text → Text) (collate : Text → Text) (commit : Commit)

def Till.replay (till : Till) (fingerprint : SaleFingerprint) (sale : RecordedSale) :
    Except SaleFailure Till := do
  ensure (sale.fingerprint = fingerprint) (.cart (.store .posIdempotencyConflict))
  pure till

/-- The transaction of `persistSale`. -/
def Till.persistLocked (till : Till) (idempotencyKey : Text) (fingerprint : SaleFingerprint)
    (content : SaleContent) : Except SaleFailure Till :=
  match till.desk.saleByKey idempotencyKey with
  | some sale => till.replay fingerprint sale
  | none => do
    let referred ← till.referPayments content
    let saleId := till.uuid till.drawn
    let shop ← (commit saleId idempotencyKey till.desk.shop content).mapError .cart
    insertPayments collate content saleId referred { till with
      drawn := till.drawn + 1
      desk := {
        shop := shop
        sales := till.desk.sales ++ [{
          idempotencyKey := idempotencyKey, fingerprint := fingerprint, content := content }] } }

def Till.persistSale (till : Till) (idempotencyKey : Text) (fingerprint : SaleFingerprint)
    (content : SaleContent) : Except SaleFailure Till :=
  match till.persistLocked collate commit idempotencyKey fingerprint content with
  | .ok till' => .ok till'
  | .error e =>
    if e.isDuplicate = true then
      match till.desk.saleByKey idempotencyKey with
      | some sale => till.replay fingerprint sale
      | none => .error .paymentReferenceConflict
    else .error e

def Till.createSale (till : Till) (r : SaleRequest) : Except SaleFailure Till := do
  (assertCredit r).mapError .cart
  let fingerprint ← (saleFingerprint toUpperCase r.dto).mapError .cart
  match till.desk.saleByKey r.idempotencyKey with
  | some sale => till.replay fingerprint sale
  | none => do
    let content ← (prepareSale toUpperCase till.desk.shop r).mapError .cart
    till.persistSale collate commit r.idempotencyKey fingerprint content

/-- A request for a sale, or anything else, which leaves any shop and any operations behind and no
payment out. -/
inductive TillEvent
  | sale (commit : Commit) (request : SaleRequest)
  | other (shop : Shop) (terminals : Table TerminalOperation)

def tillStep (till : Till) : TillEvent → Except SaleFailure Till
  | .sale commit request => till.createSale toUpperCase collate commit request
  | .other shop terminals => pure { till with
      desk := { till.desk with shop := shop }, terminals := terminals }

end Create

end UInventario.Pos.Cart
