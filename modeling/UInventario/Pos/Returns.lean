import UInventario.Pos.Sales

/-!
# Returns and their settlements

A return takes part of the lines of a sale back: it locks the sale, reads what has been returned of
each line, gives every line its share of the money, and restores a share of the loyalty value.

A settlement pays the money of a return out, as store credit or as a refund of one of the payments:
it locks the return and the sale, reads what has been settled and refunded, and later, for cash,
locks the shift. Both read under the lock of the sale and write at the end.
-/

namespace UInventario.Pos

open Outcome

/-! ### Returns -/

/-- The position of the line in the sale, and the quantity after it has been normalised. -/
structure ReturnLineInput where
  (saleLine quantity : ℕ)

structure ReturnInput where
  (branchId saleId : Uuid)
  exchangeSaleId : Option Uuid
  lines : List ReturnLineInput
  (idempotencyKey fingerprint : Text)
  clock : LoyaltyClock

/-- The sum of a column over the return lines of one line of a sale. -/
def Store.returned (s : Store) (saleId : Uuid) (saleLine : ℕ) (column : SaleReturnLine → ℕ) : ℤ :=
  s.saleReturns.total fun r ↦
    if r.saleId = saleId then
      (r.lines.map fun line ↦ if line.saleLine = saleLine then (column line : ℤ) else 0).sum
    else 0

/-- `prorate` of the returns: the nearest cent; the return that completes the line takes the rest.
-/
def prorateMoney (original sold returnedNow : ℕ) (returnedMoney : ℤ) (completesLine : Bool) : ℤ :=
  if completesLine = true then original - returnedMoney
  else ((original * returnedNow + sold / 2) / sold : ℕ)

structure PreparedLine where
  (saleLine quantity : ℕ)
  (subtotal tax : ℤ)

def prepareLine (s : Store) (sale : Sale) (requested : ReturnLineInput) :
    Except Failure PreparedLine := do
  let source ← demand sale.lines[requested.saleLine]? .saleReturnQuantity
  let returned := s.returned sale.id requested.saleLine SaleReturnLine.quantity
  ensure (¬(requested.quantity = 0 ∨ returned + requested.quantity > source.quantity))
    .saleReturnQuantity
  let completesLine := decide (returned + requested.quantity = source.quantity)
  pure {
    saleLine := requested.saleLine
    quantity := requested.quantity
    subtotal := prorateMoney source.subtotal source.quantity requested.quantity
      (s.returned sale.id requested.saleLine SaleReturnLine.subtotal) completesLine
    tax := prorateMoney source.tax source.quantity requested.quantity
      (s.returned sale.id requested.saleLine SaleReturnLine.tax) completesLine }

/-- The sum of `loyalty_value_restored` over the returns of a sale. -/
def Store.loyaltyRestored (s : Store) (saleId : Uuid) : ℤ :=
  s.saleReturns.total fun r ↦ if r.saleId = saleId then r.loyaltyValueRestored else 0

/-- The loyalty value that is to be restored once `cumulativeTotal` has been returned. -/
def targetLoyalty (loyaltyTotal saleTotal : ℕ) (cumulativeTotal : ℤ) : ℤ :=
  if cumulativeTotal ≥ saleTotal then loyaltyTotal
  else (loyaltyTotal * cumulativeTotal + (saleTotal / 2 : ℕ)) / saleTotal

/-- What the first half of `create` passes to the second. -/
inductive ReturnDecision
  | replay
  | persist (sale : Sale) (prepared : List PreparedLine) (loyaltyValueRestored : ℤ)

/-- The exchange is another completed sale of the branch that no return is linked to yet. -/
def assertExchange (s : Store) (input : ReturnInput) : Except Failure PUnit :=
  match input.exchangeSaleId with
  | none => pure ⟨⟩
  | some id => do
    let exchange ← demand (s.sales.find? id) .saleReturnExchange
    ensure (exchange.branchId = input.branchId ∧ exchange.id ≠ input.saleId ∧
      exchange.isCompleted) .saleReturnExchange
    ensure (∀ r ∈ s.saleReturns.rows, r.exchangeSaleId ≠ some id) .saleReturnExchange

/-- `findByKey`. -/
def Store.returnByKey (s : Store) (idempotencyKey : Text) : Option SaleReturn :=
  s.saleReturns.rows.find? fun r ↦ r.idempotencyKey = idempotencyKey

def replayReturn (existing : SaleReturn) (input : ReturnInput) : Except Failure PUnit :=
  ensure (existing.saleId = input.saleId ∧ existing.requestFingerprint = input.fingerprint)
    .posIdempotencyConflict

def preparedTotal (prepared : List PreparedLine) : ℤ :=
  (prepared.map fun line ↦ line.subtotal + line.tax).sum

/-- The first half of `create`. -/
def readReturn (s : Store) (input : ReturnInput) : Except Failure ReturnDecision :=
  match s.returnByKey input.idempotencyKey with
  | some existing => do
    replayReturn existing input
    pure .replay
  | none => do
    let sale ← demand ((s.sales.find? input.saleId).filter fun sale ↦
      sale.branchId = input.branchId) .saleReturnNotFound
    ensure sale.isCompleted .saleReturnNotAllowed
    assertExchange s input
    ensure (input.lines.map ReturnLineInput.saleLine).Nodup .saleReturnQuantity
    let prepared ← input.lines.mapM (prepareLine s sale)
    let previousTotal ← demand (SaleReturns.toMoney (columnText (s.returnedTotal sale.id)))
      .syntaxError
    let previousLoyalty ← demand (SaleReturns.toMoney (columnText (s.loyaltyRestored sale.id)))
      .syntaxError
    pure (.persist sale prepared (targetLoyalty sale.loyaltyValue sale.total
      (previousTotal + preparedTotal prepared) - previousLoyalty))

def PreparedLine.row (line : PreparedLine) : SaleReturnLine where
  saleLine := line.saleLine
  quantity := line.quantity
  subtotal := line.subtotal.toNat
  tax := line.tax.toNat

/-- The constraint of `sale_return_lines`; that of `sale_returns` follows from it. -/
def assertReturnLines (prepared : List PreparedLine) : Except Failure PUnit :=
  ensure (∀ line ∈ prepared, 0 < line.quantity ∧ 0 ≤ line.subtotal ∧ 0 ≤ line.tax) .checkViolation

/-- The second half of `create`; the points are compensated with the new return among the returns.
-/
def writeReturn (s : Store) (input : ReturnInput) : ReturnDecision → Except Failure Store
  | .replay => pure s
  | .persist sale prepared loyaltyValueRestored => do
    let returnId := s.env.uuid .sale_returns s.saleReturns.rows.length
    ensure (∀ r ∈ s.saleReturns.rows, r.idempotencyKey ≠ input.idempotencyKey) .duplicateEntry
    assertReturnLines prepared
    let saleReturns ← demand (s.saleReturns.insert {
      id := returnId, saleId := sale.id, exchangeSaleId := input.exchangeSaleId,
      settlementStatus := .PENDING, loyaltyValueRestored := loyaltyValueRestored,
      lines := prepared.map PreparedLine.row, idempotencyKey := input.idempotencyKey,
      requestFingerprint := input.fingerprint }) .duplicateEntry
    let s := { s with saleReturns := saleReturns }
    let loyalty ← compensateSale s input.clock sale (.RETURN returnId)
    pure { s with loyalty := loyalty }

/-! ### Settlements -/

structure SettlementInput where
  (branchId cashRegisterId : Uuid)
  cashRegisterShiftId : Option Uuid
  (userId saleId returnId : Uuid)
  mode : SettlementMode
  amount : ℕ
  /-- The position of the payment in the sale. -/
  originalPayment : Option ℕ
  (idempotencyKey fingerprint : Text)

/-- `COALESCE(SUM(amount), 0)` of the completed settlements of a return. -/
def Store.settled (s : Store) (returnId : Uuid) : ℤ :=
  s.settlements.total fun x ↦
    if x.saleReturnId = returnId ∧ x.status = .COMPLETED then x.amount else 0

/-- `COALESCE(SUM(amount), 0)` of the completed refunds of a payment. -/
def Store.refunded (s : Store) (id : PaymentId) : ℤ :=
  s.settlements.total fun x ↦
    if x.originalPayment = some id ∧ x.status = .COMPLETED then x.amount else 0

def SaleReturn.refundable (r : SaleReturn) : ℤ :=
  r.total - r.loyaltyValueRestored

/-- What the first half of `create` passes to the second. -/
inductive SettlementDecision
  | replay
  | settle (saleReturn : SaleReturn) (settledAmount returnTotal : ℤ)
      (payment : Option (PaymentId × SalePayment))

/-- `findByKey`. -/
def Store.settlementByKey (s : Store) (idempotencyKey : Text) : Option Settlement :=
  s.settlements.rows.find? fun x ↦ x.idempotencyKey = idempotencyKey

def replaySettlement (s : Store) (existing : Settlement) (input : SettlementInput) :
    Except Failure PUnit :=
  ensure (existing.saleReturnId = input.returnId ∧ existing.requestFingerprint = input.fingerprint ∧
    (∃ r ∈ s.saleReturns.find? existing.saleReturnId, r.saleId = input.saleId) ∧
    (∃ sale ∈ s.sales.find? input.saleId, sale.branchId = input.branchId))
    .posIdempotencyConflict

def readRefund (s : Store) (input : SettlementInput) (sale : Sale) :
    Except Failure (PaymentId × SalePayment) := do
  let position ← demand input.originalPayment .saleReturnSettlementPayment
  let payment ← demand sale.payments[position]? .saleReturnSettlementPayment
  ensure (payment.status = .COMPLETED) .saleReturnSettlementPayment
  let refunded ← demand (SaleReturnSettlements.toMoney
    (columnText (s.refunded (sale.id, position)))) .syntaxError
  ensure (¬refunded + input.amount > payment.amountApplied) .saleReturnSettlementPayment
  pure ((sale.id, position), payment)

def readMode (s : Store) (input : SettlementInput) (sale : Sale) :
    Except Failure (Option (PaymentId × SalePayment)) :=
  match input.mode with
  | .STORE_CREDIT => do
    ensure (¬(input.originalPayment.isSome ∨ sale.customerId = none)) .saleReturnSettlementCustomer
    pure none
  | .REFUND => do
    let payment ← readRefund s input sale
    pure (some payment)

/-- The first half of `create`. -/
def readSettlement (s : Store) (input : SettlementInput) : Except Failure SettlementDecision :=
  match s.settlementByKey input.idempotencyKey with
  | some existing => do
    replaySettlement s existing input
    pure .replay
  | none => do
    let saleReturn ← demand ((s.saleReturns.find? input.returnId).filter fun r ↦
      r.saleId = input.saleId) .saleReturnNotFound
    let sale ← demand ((s.sales.find? input.saleId).filter fun sale ↦
      sale.branchId = input.branchId) .saleReturnNotFound
    let settledAmount ← demand (SaleReturnSettlements.toMoney
      (columnText (s.settled saleReturn.id))) .syntaxError
    let restored ← demand (SaleReturnSettlements.toMoney
      (columnText saleReturn.loyaltyValueRestored)) .syntaxError
    let returnTotal := (saleReturn.total : ℤ) - restored
    ensure (¬((input.amount : ℤ) ≤ 0 ∨ settledAmount + input.amount > returnTotal))
      .saleReturnSettlementAmount
    let payment ← readMode s input sale
    pure (.settle saleReturn settledAmount returnTotal payment)

/-- `'FAIL-REFUND'`. -/
def FAIL_REFUND : Text :=
  [70, 65, 73, 76, 45, 82, 69, 70, 85, 78, 68]

/-- `PaymentRefundService.refund`. -/
def refund (env : Env) (method : PaymentMethod) (externalReference : Option Text) : RefundStatus :=
  if method = .CASH then .COMPLETED
  else if env.nonCashProvider ≠ .SIMULATOR then .FAILED
  else if externalReference.any fun r ↦ FAIL_REFUND.isPrefixOf (env.toUpperCase r) then .FAILED
  else .COMPLETED

/-- The drawer a refund is paid from, for cash: the open shift of the user, with enough in it. -/
def refundShift (s : Store) (input : SettlementInput) (method : PaymentMethod) :
    Except Failure (Option Uuid) :=
  if method = .CASH then do
    let shiftId ← demand input.cashRegisterShiftId .saleReturnSettlementShift
    let shift ← s.lockShift {
      branchId := input.branchId, cashRegisterId := input.cashRegisterId, userId := input.userId,
      shiftId := shiftId } .saleReturnSettlementShift
    let expectedCash ← demand (SaleReturnSettlements.toMoney (columnText (s.expectedCash shift)))
      .syntaxError
    ensure (¬expectedCash < input.amount) .saleReturnSettlementCash
    pure (some shift.id)
  else pure none

def payOut (s : Store) (input : SettlementInput) :
    Option (PaymentId × SalePayment) →
      Except Failure (Option Uuid × Option PaymentMethod × RefundStatus)
  | none => pure (none, none, .COMPLETED)
  | some (_, payment) => do
    let shiftId ← refundShift s input payment.method
    pure (shiftId, some payment.method, refund s.env payment.method payment.externalReference)

def settlementStatusAfter (totalSettled returnTotal : ℤ) : SettlementStatus :=
  if totalSettled = returnTotal then .SETTLED else .PARTIALLY_SETTLED

/-- The second half of `create`. -/
def writeSettlement (s : Store) (input : SettlementInput) :
    SettlementDecision → Except Failure Store
  | .replay => pure s
  | .settle saleReturn settledAmount returnTotal payment => do
    let (shiftId, method, status) ← payOut s input payment
    ensure (∀ x ∈ s.settlements.rows, x.idempotencyKey ≠ input.idempotencyKey) .duplicateEntry
    let settlements ← demand (s.settlements.insert {
      id := s.env.uuid .sale_return_settlements s.settlements.rows.length,
      saleReturnId := saleReturn.id, originalPayment := payment.map Prod.fst, shiftId := shiftId,
      mode := input.mode, method := method, status := status, amount := input.amount,
      idempotencyKey := input.idempotencyKey,
      requestFingerprint := input.fingerprint }) .duplicateEntry
    pure { s with
      settlements := settlements
      saleReturns :=
        if status = .COMPLETED then
          s.saleReturns.update saleReturn.id fun r ↦ { r with
            settlementStatus := settlementStatusAfter (settledAmount + input.amount) returnTotal }
        else s.saleReturns }

end UInventario.Pos
