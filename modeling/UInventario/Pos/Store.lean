import UInventario.Foundations.Decimal
import UInventario.Pos.Schema

/-!
# The store of the point of sale

`Store` is what the database holds of the point of sale of one tenant, and a transaction throws a
`Failure` or returns the store its commit leaves. What the code takes from outside the database is
in `Env`.

`CashBook` carries the foreign key of `reversal_of_id` as a field, so no later insertion can change
what an old reversal means. The last section has the readers and printers of decimal columns, under
the names the source gives them.
-/

namespace UInventario.Pos

open Outcome

/-! ### Failures -/

/-- What a transaction throws: failures of the database and the language, and errors of the source.
-/
inductive Failure
  | duplicateEntry | checkViolation | foreignKeyViolation | dataTruncated | syntaxError
  -- `pos.errors.ts`
  | posIdempotencyConflict | posCustomerNotAvailable | cashRegisterShiftRequired
  | customerCreditNotAvailable (reason : CreditRefusal) | customerCreditLimitExceeded
  | saleNotFound | saleAlreadyVoided | saleVoidNotAllowed | saleVoidPaymentNotReversed
  -- `sale-return.types.ts`
  | saleReturnNotFound | saleReturnNotAllowed | saleReturnExchange | saleReturnQuantity
  | saleReturnSettlementAmount | saleReturnSettlementCustomer | saleReturnSettlementPayment
  | saleReturnSettlementShift | saleReturnSettlementCash
  -- `cash-register-*.errors.ts`
  | cashRegisterShiftConflict | cashRegisterShiftIdempotencyConflict
  | cashRegisterMovementNotFound | cashRegisterMovementIdempotencyConflict
  | cashRegisterMovementAlreadyReversed | cashRegisterMovementInsufficientBalance
  | cashRegisterAlreadyClosed | cashRegisterClosureNotFound | cashRegisterClosureReasonRequired
  | cashRegisterClosureIdempotencyConflict
  -- `loyalty.types.ts`, `loyalty.repository.ts`
  | loyaltyInsufficientBalance (available requested : ℤ) | loyaltyRuleChanged | loyaltyNotActive
  | loyaltyInvalidRedemptionIncrement | loyaltyRedemptionMustLeavePayableBalance
  | loyaltyCustomerNotAvailable
  -- `customer-credit-payment.errors.ts`, `payment-authorization.service.ts`
  | customerCreditPaymentNotFound | customerCreditPaymentShift | customerCreditPaymentCurrency
  | customerCreditPaymentAmount | customerCreditPaymentAllocation
  | customerCreditPaymentAlreadyReversed | customerCreditPaymentCash | customerCreditPaymentRefund
  | paymentMethodUnavailable | paymentDeclined
  deriving DecidableEq

/-! ### The environment -/

inductive TableName
  | cash_register_shifts | cash_register_movements | sales | sale_returns | sale_return_settlements
  | loyalty_rules | loyalty_point_entries | customer_credit_accounts | customer_debt_ledger
  | customer_credit_payments

/-- `config.nonCashProvider`, as far as the code distinguishes it. -/
inductive NonCashProvider
  | SIMULATOR | other
  deriving DecidableEq

structure Env where
  /-- The identifier drawn for the row that finds `n` rows in the table. -/
  uuid : TableName → ℕ → Uuid
  toUpperCase : Text → Text
  /-- The text of the cash movement of a credit payment, with its receipt number. -/
  creditReason : Uuid → Text
  paymentMethods : List PaymentMethod
  nonCashProvider : NonCashProvider

/-- Rows are numbered by their position. -/
instance : Inhabited Env :=
  ⟨{ uuid := fun _ n ↦ n, toUpperCase := id, creditReason := fun id ↦ [id],
     paymentMethods := [.CASH, .CARD, .TRANSFER], nonCashProvider := .SIMULATOR }⟩

/-! ### Books and the store -/

def CashMovementKind.reversalOfId : CashMovementKind → Option Uuid
  | .REVERSAL id => some id
  | _ => none

structure CashBook where
  shifts : Table CashRegisterShift
  movements : Table CashRegisterMovement
  linked : ∀ m ∈ movements.rows, ∀ id, m.kind.reversalOfId = some id → (movements.find? id).isSome

def CashBook.empty : CashBook where
  shifts := Table.empty
  movements := Table.empty
  linked := by simp

structure LoyaltyBook where
  rules : Table LoyaltyRule
  entries : Table LoyaltyEntry

/-- The credit profiles, the accounts and what is owed and paid on them. -/
structure CreditBook where
  profiles : Table CreditProfile
  accounts : Table CreditAccount
  ledger : Table DebtEntry
  payments : Table CreditPayment

/-- **The store of the point of sale of one tenant.** -/
structure Store where
  env : Env
  customers : Table Customer
  cash : CashBook
  sales : Table Sale
  saleReturns : Table SaleReturn
  settlements : Table Settlement
  loyalty : LoyaltyBook
  credit : CreditBook

def Store.fresh (env : Env) (customers : Table Customer) : Store where
  env := env
  customers := customers
  cash := CashBook.empty
  sales := Table.empty
  saleReturns := Table.empty
  settlements := Table.empty
  loyalty := { rules := Table.empty, entries := Table.empty }
  credit := { profiles := Table.empty, accounts := Table.empty, ledger := Table.empty,
              payments := Table.empty }

def Store.customerAvailable (s : Store) (id : Uuid) : Prop :=
  (s.customers.find? id).any Customer.available = true
deriving Decidable

/-! ### The text of money and its readers -/

def columnText (cents : ℤ) : List Char :=
  Decimal.fixedText 2 cents

variable (value : List Char)

namespace CashRegisterMovements

/-- `cents` of the movements. -/
def cents : Option ℤ :=
  Decimal.readUnsigned 2 value

/-- `money` of the movements: pads the fraction. -/
def money : List Char :=
  Decimal.padFraction 2 value

end CashRegisterMovements

namespace SaleReturnSettlements

/-- `toMoney` of the settlements. -/
def toMoney : Option ℤ :=
  Decimal.readTruncated 2 value

end SaleReturnSettlements

namespace CreditPayments

/-- `cents` of the credit payments. -/
def cents : Option ℤ :=
  Decimal.readTruncated 2 value

end CreditPayments

namespace Sales

/-- `toMoney` of the sales. -/
def toMoney : Option ℤ :=
  Decimal.readSigned 2 value

end Sales

namespace SaleReturns

/-- `toMoney` of the returns. -/
def toMoney : Option ℤ :=
  Decimal.readTruncated 2 value

end SaleReturns

namespace CashRegisterClosures

/-- `cents` of the closures. -/
def cents : Option ℤ :=
  Decimal.readSigned 2 value

def fromCents (value : ℤ) : List Char :=
  Decimal.quotientText 2 value

def fromSignedCents (value : ℤ) : List Char :=
  if value < 0 then '-' :: fromCents (-value) else fromCents value

end CashRegisterClosures

def misread (cents : ℤ) : ℤ :=
  Decimal.misread 2 cents

theorem misread_of_nonneg {cents : ℤ} (h : 0 ≤ cents) : misread cents = cents :=
  Decimal.misread_of_nonneg h

theorem misread_pos_iff {cents : ℤ} (h : cents < 0) : 0 < misread cents ↔ -100 < cents :=
  Decimal.misread_pos_iff h

@[simp] theorem CashRegisterMovements.cents_columnText (v : ℤ) :
    cents (money (columnText v)) = some (misread v) := by
  rw [cents, money, columnText, Decimal.padFraction_fixedText (by decide),
    Decimal.readUnsigned_fixedText (by decide), misread]

@[simp] theorem SaleReturnSettlements.toMoney_columnText (v : ℤ) :
    toMoney (columnText v) = some (misread v) := by
  rw [toMoney, columnText, Decimal.readTruncated_fixedText (by decide),
    Decimal.readUnsigned_fixedText (by decide), misread]

@[simp] theorem CreditPayments.cents_columnText (v : ℤ) :
    cents (columnText v) = some (misread v) := by
  rw [cents, columnText, Decimal.readTruncated_fixedText (by decide),
    Decimal.readUnsigned_fixedText (by decide), misread]

@[simp] theorem SaleReturns.toMoney_columnText (v : ℤ) :
    toMoney (columnText v) = some (misread v) := by
  rw [toMoney, columnText, Decimal.readTruncated_fixedText (by decide),
    Decimal.readUnsigned_fixedText (by decide), misread]

@[simp] theorem Sales.toMoney_columnText (v : ℤ) : toMoney (columnText v) = some v :=
  Decimal.readSigned_fixedText (by decide) v

@[simp] theorem CashRegisterClosures.cents_columnText (v : ℤ) : cents (columnText v) = some v :=
  Decimal.readSigned_fixedText (by decide) v

namespace CashRegisterClosures

@[simp] theorem fromSignedCents_eq (v : ℤ) : fromSignedCents v = columnText v := by
  rw [fromSignedCents, columnText]
  split
  case isTrue hneg =>
    rw [fromCents, Decimal.quotientText_of_nonneg (by omega), Decimal.fixedText_of_neg hneg]
  case isFalse hnonneg =>
    rw [fromCents, Decimal.quotientText_of_nonneg (by omega)]

theorem readColumn_columnText (v : ℤ) : Decimal.readColumn 2 (columnText v) = some v :=
  Decimal.readColumn_fixedText (by decide) v

theorem readColumn_fromCents (v : ℤ) :
    Decimal.readColumn 2 (fromCents v) = if 0 ≤ v ∨ 100 ∣ v then some v else none :=
  Decimal.readColumn_quotientText (by decide) v

end CashRegisterClosures

end UInventario.Pos
