import UInventario.Pos.CashRegister
import UInventario.Pos.Credit
import UInventario.Pos.Loyalty

/-!
# Sales and their voids

`persistSale` and `voidSale` on the tables of the point of sale. The stock both move is the subject
of other modules; here it is a part of the transaction that writes none of these tables and can only
make it fail.

`persistSale` locks the customer and the credit profile, decides on the credit, and locks the shift
later. The two halves are `readSale` and `writeSale`.
-/

namespace UInventario.Pos

open Outcome

/-! ### The request -/

structure PaymentInput where
  method : PaymentMethod
  amountApplied : ℕ
  externalReference : Option Text

structure SaleCustomer where
  id : Uuid
  loyalty : Option LoyaltyQuote
  /-- `credit.installmentCount`. -/
  credit : Option ℕ

/-- What `createSale` passes to `persistSale`. -/
structure SaleInput where
  (branchId cashRegisterId userId cashRegisterShiftId : Uuid)
  customer : Option SaleCustomer
  currency : Currency
  lines : List SaleLine
  payments : List PaymentInput
  (idempotencyKey fingerprint : Text)
  clock : LoyaltyClock
  now : Timestamp
  today : Day

variable (input : SaleInput)

def SaleInput.loyalty : Option LoyaltyQuote :=
  input.customer.bind SaleCustomer.loyalty

/-- `quote.totals.total`. -/
def SaleInput.total : ℕ :=
  linesTotal input.lines

/-- `quote.totals.payable ?? quote.totals.total`. -/
def SaleInput.payable : ℕ :=
  match input.loyalty with
  | some quote => input.total - quote.redemptionValue
  | none => input.total

def SaleInput.context : MovementContext where
  branchId := input.branchId
  cashRegisterId := input.cashRegisterId
  userId := input.userId
  shiftId := input.cashRegisterShiftId

/-- `findWithManager`: the sale persisted under the key. -/
def Store.saleByKey (s : Store) (idempotencyKey : Text) : Option Sale :=
  s.sales.rows.find? fun sale ↦ sale.idempotencyKey = idempotencyKey

def replaySale (sale : Sale) (fingerprint : Text) : Except Failure PUnit :=
  ensure (sale.requestFingerprint = fingerprint) .posIdempotencyConflict

/-! ### `persistSale` -/

/-- What the first half of `persistSale` passes to the second. -/
inductive SaleDecision
  | replay
  | persist (creditProfile : Option CreditProfile)

/-- The lock of the customer, and the decision on the credit under it. -/
def lockSaleCustomer (s : Store) (input : SaleInput) (customer : SaleCustomer) :
    Except Failure (Option CreditProfile) := do
  ensure (s.customerAvailable customer.id) .posCustomerNotAvailable
  match customer.credit with
  | none => pure none
  | some installmentCount => do
    let profile ← s.credit.checkCredit customer.id installmentCount input.currency input.payable
    pure (some profile)

/-- The first half of `persistSale`. -/
def readSale (s : Store) (input : SaleInput) : Except Failure SaleDecision :=
  match s.saleByKey input.idempotencyKey with
  | some sale => do
    replaySale sale input.fingerprint
    pure .replay
  | none =>
    match input.customer with
    | none => pure (.persist none)
    | some customer => do
      let profile ← lockSaleCustomer s input customer
      pure (.persist profile)

/-- The row of the sale. Its payments are those of the request, the credit and the points. -/
def SaleInput.row (id : Uuid) (payments : List SalePayment) : Sale where
  id := id
  branchId := input.branchId
  cashRegisterId := input.cashRegisterId
  shiftId := input.cashRegisterShiftId
  createdByUserId := input.userId
  customerId := input.customer.map SaleCustomer.id
  currency := input.currency
  lines := input.lines
  payments := payments
  loyaltyPointsRedeemed := (input.loyalty.map LoyaltyQuote.pointsRedeemed).getD 0
  loyaltyValue := (input.loyalty.map LoyaltyQuote.redemptionValue).getD 0
  loyaltyPointsEarned := (input.loyalty.map LoyaltyQuote.pointsEarned).getD 0
  idempotencyKey := input.idempotencyKey
  requestFingerprint := input.fingerprint
  voided := none

/-- The payment rows: on credit, those of the request, and the redeemed points. -/
def SaleInput.paymentRows (onCredit : Bool) : List SalePayment :=
  (if onCredit = true then
    [{ method := .CREDIT, status := .PENDING, amountApplied := input.payable,
       externalReference := none }] else []) ++
  (input.payments.map fun p ↦
    { method := p.method, status := .COMPLETED, amountApplied := p.amountApplied,
      externalReference := p.externalReference }) ++
  match input.loyalty with
  | none => []
  | some quote =>
    if quote.pointsRedeemed > 0 then
      [{ method := .VOUCHER, status := .COMPLETED, amountApplied := quote.redemptionValue,
         externalReference := none }]
    else []

def saleLoyalty (s : Store) (input : SaleInput) (saleId : Uuid) : Except Failure LoyaltyBook :=
  match input.customer with
  | none => pure s.loyalty
  | some customer =>
    match customer.loyalty with
    | none => pure s.loyalty
    | some quote =>
      applySale s {
        customerId := customer.id, saleId := saleId, idempotencyKey := input.idempotencyKey,
        saleTotal := input.total, quote := quote, clock := input.clock }

/-- The number of installments and the profile, when the sale is on credit. -/
def SaleInput.creditTerms (profile : Option CreditProfile) :
    Option (SaleCustomer × ℕ × CreditProfile) := do
  let customer ← input.customer
  let installmentCount ← customer.credit
  let profile ← profile
  some (customer, installmentCount, profile)

def saleCredit (s : Store) (input : SaleInput) (saleId : Uuid) (profile : Option CreditProfile) :
    Except Failure CreditBook :=
  match input.creditTerms profile with
  | none => pure s.credit
  | some (customer, installmentCount, profile) =>
    s.credit.openAccount s.env profile {
      customerId := customer.id, saleId := saleId, amount := input.payable,
      installmentCount := installmentCount, idempotencyKey := input.idempotencyKey,
      now := input.now, today := input.today }

/-- The constraints of `sale_lines` and `sale_payments`. -/
def assertSaleRows (payments : List SalePayment) : Except Failure PUnit :=
  ensure ((∀ line ∈ input.lines, 0 < line.quantity ∧ 0 < line.total) ∧
    ∀ p ∈ payments, 0 < p.amountApplied) .checkViolation

/-- The second half of `persistSale`. -/
def writeSale (s : Store) (input : SaleInput) : SaleDecision → Except Failure Store
  | .replay => pure s
  | .persist profile => do
    let _ ← s.lockShift input.context .cashRegisterShiftRequired
    match s.saleByKey input.idempotencyKey with
    | some sale => do
      replaySale sale input.fingerprint
      pure s
    | none => do
      let saleId := s.env.uuid .sales s.sales.rows.length
      let payments := input.paymentRows (input.creditTerms profile).isSome
      let sales ← demand (s.sales.insert (input.row saleId payments)) .duplicateEntry
      let loyalty ← saleLoyalty s input saleId
      assertSaleRows input payments
      let credit ← saleCredit s input saleId profile
      pure { s with sales := sales, loyalty := loyalty, credit := credit }

/-! ### `voidSale` -/

structure VoidInput where
  (branchId cashRegisterId saleId userId : Uuid)
  (idempotencyKey fingerprint : Text)
  clock : LoyaltyClock
  now : Timestamp

/-- `findVoidByKey`. -/
def Store.voidByKey (s : Store) (idempotencyKey : Text) : Option (Uuid × SaleVoid) :=
  s.sales.rows.findSome? fun sale ↦
    (sale.voided.filter fun v ↦ v.idempotencyKey = idempotencyKey).map fun v ↦ (sale.id, v)

def assertVoidable (s : Store) (input : VoidInput) (sale : Sale) : Except Failure PUnit := do
  ensure (∀ r ∈ s.saleReturns.rows, r.saleId ≠ sale.id) .saleVoidNotAllowed
  let shift ← demand (s.cash.shifts.find? sale.shiftId) .saleVoidNotAllowed
  ensure (shift.branchId = input.branchId ∧ shift.cashRegisterId = input.cashRegisterId ∧
    shift.isOpen) .saleVoidNotAllowed

def SalePayment.reversed (p : SalePayment) : SalePayment :=
  { p with status := .REVERSED }

def voidSale (s : Store) (input : VoidInput) : Except Failure Store :=
  match s.voidByKey input.idempotencyKey with
  | some (saleId, existing) => do
    ensure (saleId = input.saleId ∧ existing.requestFingerprint = input.fingerprint)
      .posIdempotencyConflict
    pure s
  | none => do
    let sale ← demand ((s.sales.find? input.saleId).filter fun sale ↦
      sale.branchId = input.branchId ∧ sale.cashRegisterId = input.cashRegisterId) .saleNotFound
    ensure sale.isCompleted .saleAlreadyVoided
    assertVoidable s input sale
    let credit ← s.credit.cancelAccount s.env sale.id input.idempotencyKey input.now
    ensure (∃ p ∈ sale.payments, p.status = .COMPLETED ∨ p.status = .PENDING)
      .saleVoidPaymentNotReversed
    let loyalty ← compensateSale s input.clock sale .VOID
    pure { s with
      credit := credit
      loyalty := loyalty
      sales := s.sales.update sale.id fun x ↦ { x with
        payments := x.payments.map SalePayment.reversed
        voided := some {
          idempotencyKey := input.idempotencyKey, requestFingerprint := input.fingerprint } } }

end UInventario.Pos
