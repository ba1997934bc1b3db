import UInventario.Pos.Returns

/-!
# Credit payments and their reversals

A payment of a customer is booked on the open installments, oldest first. It locks the customer and
the shift and checks its amount against the balance (`readPayment`); a second query reads the open
installments and decides on what it is booked (`readObligations`); and then it writes
(`writePayment`). A void at another register may commit between any two of these. The reversal locks
the customer and the payment (`readReversal`), then the shift, and puts back on the ledger what the
payment had taken off it (`writeReversal`). The change of a credit profile locks the customer too.
-/

namespace UInventario.Pos

open Outcome

structure CreditPaymentInput where
  (branchId cashRegisterId userId customerId : Uuid)
  (idempotencyKey fingerprint : Text)
  amount : ℕ
  method : PaymentMethod
  reference : Option Text

/-- `findByKey`. -/
def Store.paymentByKey (s : Store) (idempotencyKey : Text) : Option CreditPayment :=
  s.credit.payments.rows.find? fun p ↦ p.idempotencyKey = idempotencyKey

/-- `replay`. -/
def replayPayment (existing : CreditPayment) (input : CreditPaymentInput) : Except Failure PUnit :=
  ensure (existing.customerId = input.customerId ∧ existing.branchId = input.branchId ∧
    existing.cashRegisterId = input.cashRegisterId ∧ existing.createdByUserId = input.userId ∧
    existing.requestFingerprint = input.fingerprint) .posIdempotencyConflict

/-- `lockCustomer` of the credit payments: the customer with a profile. -/
def lockCreditCustomer (s : Store) (customerId : Uuid) : Except Failure CreditProfile := do
  let _ ← demand (s.customers.find? customerId) .customerCreditPaymentNotFound
  demand (s.credit.profiles.find? customerId) .customerCreditPaymentNotFound

/-- `lockCurrentShift`: the open shift of the user at the register. -/
def Store.currentShift (s : Store) (branchId cashRegisterId userId : Uuid) :
    Option CashRegisterShift :=
  s.cash.shifts.rows.find? fun x ↦ x.branchId = branchId ∧ x.cashRegisterId = cashRegisterId ∧
    x.openedByUserId = userId ∧ x.isOpen

/-- `'DECLINE'`. -/
def DECLINE : Text :=
  [68, 69, 67, 76, 73, 78, 69]

/-- `PaymentAuthorizationService.authorize`. -/
def authorize (env : Env) (method : PaymentMethod) (reference : Option Text) :
    Except Failure PUnit :=
  if method ∉ env.paymentMethods then .error .paymentMethodUnavailable
  else if method = .CASH then pure ⟨⟩
  else if env.nonCashProvider ≠ .SIMULATOR then .error .paymentMethodUnavailable
  else ensure (reference.any fun r ↦ r ≠ [] ∧ ¬DECLINE.isPrefixOf (env.toUpperCase r))
    .paymentDeclined

/-- How far `create` has come, with what it has read. -/
inductive PaymentDecision
  | replay
  /-- The amount fits the balance, and the open installments have not been read. -/
  | check (shift : CashRegisterShift) (currency : Currency)
  | pay (shift : CashRegisterShift) (currency : Currency) (allocations : List CreditAllocation)

/-- The shift that a payment which is no replay books on. -/
def PaymentDecision.shift : PaymentDecision → Option CashRegisterShift
  | replay => none
  | check shift _ => some shift
  | pay shift _ _ => some shift

/-- The first part of `create`, down to the authorization. -/
def readPayment (s : Store) (input : CreditPaymentInput) : Except Failure PaymentDecision :=
  match s.paymentByKey input.idempotencyKey with
  | some existing => do
    replayPayment existing input
    pure .replay
  | none => do
    let profile ← lockCreditCustomer s input.customerId
    let shift ← demand (s.currentShift input.branchId input.cashRegisterId input.userId)
      .customerCreditPaymentShift
    ensure (shift.currency = profile.currency) .customerCreditPaymentCurrency
    s.credit.assertPaymentAmount input.customerId input.amount
    authorize s.env input.method input.reference
    pure (.check shift profile.currency)

/-- The query of the open installments, a snapshot of its own, and the loop over them. -/
def readObligations (s : Store) (input : CreditPaymentInput) :
    PaymentDecision → Except Failure PaymentDecision
  | .check shift currency => do
    let allocations ← s.credit.allocatePayment input.customerId input.amount
    pure (.pay shift currency allocations)
  | decision => pure decision

/-- `insertCashMovement`. -/
def insertCreditMovement (s : Store) (shiftId userId : Uuid) (kind : CashMovementKind)
    (amount : ℕ) (reason : Text) (key : CashMovementKey) : Except Failure CashBook :=
  s.cash.insertMovement {
    id := s.env.uuid .cash_register_movements s.cash.movements.rows.length, shiftId := shiftId,
    createdByUserId := userId, kind := kind, amount := amount, reason := reason,
    idempotencyKey := key,
    requestFingerprint := { shiftId := shiftId, kind := kind, amount := amount, reason := reason } }

def paymentMovement (s : Store) (input : CreditPaymentInput) (shiftId : Uuid) :
    Except Failure (CashBook × Option Uuid) :=
  if input.method = .CASH then do
    let cash ← insertCreditMovement s shiftId input.userId .INCOME input.amount
      (s.env.creditReason (s.env.uuid .customer_credit_payments s.credit.payments.rows.length))
      (.creditIncome input.idempotencyKey)
    pure (cash, some (s.env.uuid .cash_register_movements s.cash.movements.rows.length))
  else pure (s.cash, none)

/-- The last part of `create`. -/
def writePayment (s : Store) (input : CreditPaymentInput) : PaymentDecision → Except Failure Store
  | .replay => pure s
  -- the open installments have not been read: it does not get here
  | .check _ _ => .error .syntaxError
  | .pay shift currency allocations => do
    let (cash, cashMovementId) ← paymentMovement s input shift.id
    let credit ← s.credit.recordPayment s.env {
      id := s.env.uuid .customer_credit_payments s.credit.payments.rows.length,
      customerId := input.customerId, shiftId := shift.id, branchId := input.branchId,
      cashRegisterId := input.cashRegisterId, createdByUserId := input.userId,
      cashMovementId := cashMovementId, currency := currency, amount := input.amount,
      method := input.method, externalReference := input.reference,
      idempotencyKey := input.idempotencyKey, requestFingerprint := input.fingerprint,
      reversal := none, allocations := allocations }
    pure { s with cash := cash, credit := credit }

/-! ### The reversal -/

structure ReversalInput where
  (branchId cashRegisterId userId customerId paymentId : Uuid)
  (idempotencyKey fingerprint reason : Text)

/-- What the first half of `reverse` passes to the second. -/
inductive ReversalDecision
  | replay
  | reverse (payment : CreditPayment)

/-- The first half of `reverse`. -/
def readReversal (s : Store) (input : ReversalInput) : Except Failure ReversalDecision := do
  let _ ← lockCreditCustomer s input.customerId
  let payment ← demand ((s.credit.payments.find? input.paymentId).filter fun p ↦
    p.customerId = input.customerId) .customerCreditPaymentNotFound
  match payment.reversal with
  | some reversal => do
    ensure (reversal.idempotencyKey = input.idempotencyKey ∧
      reversal.requestFingerprint = input.fingerprint) .customerCreditPaymentAlreadyReversed
    pure .replay
  | none => pure (.reverse payment)

/-- The money of the payment goes back: out of the drawer, or through the provider. -/
def payBack (s : Store) (input : ReversalInput) (shift : CashRegisterShift)
    (payment : CreditPayment) : Except Failure (CashBook × Option Uuid) :=
  if payment.method = .CASH then do
    let original ← demand payment.cashMovementId .customerCreditPaymentCash
    let expectedCash ← demand (CreditPayments.cents (columnText (s.expectedCash shift)))
      .syntaxError
    ensure (¬expectedCash < payment.amount) .customerCreditPaymentCash
    let cash ← insertCreditMovement s shift.id input.userId (.REVERSAL original) payment.amount
      input.reason (.creditReversal input.idempotencyKey)
    pure (cash, some (s.env.uuid .cash_register_movements s.cash.movements.rows.length))
  else do
    ensure (refund s.env payment.method payment.externalReference = .COMPLETED)
      .customerCreditPaymentRefund
    pure (s.cash, none)

/-- The second half of `reverse`. -/
def writeReversal (s : Store) (input : ReversalInput) : ReversalDecision → Except Failure Store
  | .replay => pure s
  | .reverse payment => do
    let shift ← demand (s.currentShift input.branchId input.cashRegisterId input.userId)
      .customerCreditPaymentShift
    ensure (shift.currency = payment.currency) .customerCreditPaymentCurrency
    let (cash, cashMovementId) ← payBack s input shift payment
    let credit ← s.credit.recordReversal s.env payment {
      idempotencyKey := input.idempotencyKey, requestFingerprint := input.fingerprint,
      reason := input.reason, cashMovementId := cashMovementId }
    pure { s with cash := cash, credit := credit }

/-! ### The credit profile -/

/-- `configureCredit`: inserts or replaces the profile of a customer. -/
def configureCredit (s : Store) (profile : CreditProfile) : Except Failure Store := do
  let _ ← demand (s.customers.find? profile.customerId) .posCustomerNotAvailable
  ensure (0 < profile.creditLimit ∧ 1 ≤ profile.termDays ∧ profile.termDays ≤ 365 ∧
    1 ≤ profile.maxInstallments ∧ profile.maxInstallments ≤ 36) .checkViolation
  match s.credit.profiles.find? profile.customerId with
  | none => do
    let profiles ← demand (s.credit.profiles.insert profile) .duplicateEntry
    pure { s with credit := { s.credit with profiles := profiles } }
  | some _ =>
    pure { s with credit := { s.credit with
      profiles := s.credit.profiles.update profile.customerId fun x ↦
        { profile with customerId := x.customerId } } }

end UInventario.Pos
