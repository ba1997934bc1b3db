import UInventario.Foundations.Outcome
import UInventario.Inventory.Schema

/-!
# The rows of the point of sale

The tables of shifts, sales, returns, loyalty points and customer credit, of one tenant.

* Money is an integer number of cents. A column that is never negative is a natural number.
* Rows that are only written together with their parent are kept inside it: the lines and payments
  of a sale, the lines of a return, the installments of an account, the allocations of a payment or
  of a point entry. Their identifier is their position there.
* Columns that a constraint makes null together are one `Option`, and the status such a constraint
  ties to them is a function of the row.
* A row of `cash_register_movements` reverses another one exactly when its type is `REVERSAL`.

A fingerprint that a service computes comes as a text; the repositories that compute their own store
the payload whose hash the source keeps.
-/

namespace UInventario.Pos

/-! ### Enumerations -/

/-- `sale_payments.method`, and the methods of a credit payment. -/
inductive PaymentMethod
  | CASH | CARD | TRANSFER | VOUCHER | CREDIT
  deriving DecidableEq

/-- `sale_payments.status`. -/
inductive PaymentStatus
  | COMPLETED | PENDING | REVERSED
  deriving DecidableEq

/-- `sale_returns.settlement_status`. -/
inductive SettlementStatus
  | PENDING | PARTIALLY_SETTLED | SETTLED
  deriving DecidableEq

/-- `sale_return_settlements.mode`. -/
inductive SettlementMode
  | REFUND | STORE_CREDIT

/-- The outcome of a refund, `sale_return_settlements.status`. -/
inductive RefundStatus
  | COMPLETED | FAILED
  deriving DecidableEq

/-- `loyalty_point_entries.entry_type`. -/
inductive LoyaltyEntryType
  | EARN | REDEEM | EXPIRE
  | VOID_EARN_REVERSAL | VOID_REDEEM_RESTORE | RETURN_EARN_REVERSAL | RETURN_REDEEM_RESTORE
  deriving DecidableEq

/-- `customer_debt_ledger.entry_type`. -/
inductive DebtEntryType
  | DEBIT | CREDIT

/-- What draws the reason of a `CustomerCreditNotAvailableError`. -/
inductive CreditRefusal
  | DISABLED | CURRENCY | INSTALLMENTS
  deriving DecidableEq

/-! ### Shifts and their cash movements -/

/-- `cash_register_movements.type` with `reversal_of_id`. -/
inductive CashMovementKind
  | INCOME | WITHDRAWAL
  | REVERSAL (reversalOfId : Uuid)
  deriving DecidableEq

/-- `cash_register_movements.idempotency_key`: the key of the request, or of a credit payment. -/
inductive CashMovementKey
  | request (key : Text)
  | creditIncome (key : Text)
  | creditReversal (key : Text)
  deriving DecidableEq

/-- The payload of `cash_register_movements.request_fingerprint`. -/
structure CashMovementFingerprint where
  shiftId : Uuid
  kind : CashMovementKind
  amount : ℕ
  reason : Text
  deriving DecidableEq

structure CashRegisterMovement where
  (id shiftId createdByUserId : Uuid)
  kind : CashMovementKind
  amount : ℕ
  reason : Text
  idempotencyKey : CashMovementKey
  requestFingerprint : CashMovementFingerprint

instance : Keyed CashRegisterMovement Uuid := ⟨CashRegisterMovement.id⟩

/-- The payload of `cash_register_shifts.request_fingerprint`. -/
structure ShiftFingerprint where
  (branchId cashRegisterId userId : Uuid)
  openingAmount : ℕ
  currency : Currency
  deriving DecidableEq

/-- The payload of `cash_register_shifts.closing_request_fingerprint`. -/
structure ClosureFingerprint where
  shiftId : Uuid
  countedAmount : ℕ
  differenceReason : Option Text
  /-- Value and number of the coins and notes, in the order of the values. -/
  denominations : List (ℕ × ℕ)
  deriving DecidableEq

structure ShiftClosing where
  closedByUserId : Uuid
  countedAmount : ℕ
  (expectedCash difference : ℤ)
  reason : Option Text
  denominations : List (ℕ × ℕ)
  idempotencyKey : Text
  requestFingerprint : ClosureFingerprint
  closedAt : Timestamp
  deriving DecidableEq

structure CashRegisterShift where
  (id branchId cashRegisterId openedByUserId : Uuid)
  openingAmount : ℕ
  currency : Currency
  openingIdempotencyKey : Text
  requestFingerprint : ShiftFingerprint
  closing : Option ShiftClosing
  deriving DecidableEq

instance : Keyed CashRegisterShift Uuid := ⟨CashRegisterShift.id⟩

/-- `status = 'OPEN'`. -/
def CashRegisterShift.isOpen (shift : CashRegisterShift) : Prop :=
  shift.closing = none
deriving Decidable

/-! ### Sales and returns -/

structure SaleLine where
  /-- In thousandths. -/
  (quantity subtotal tax : ℕ)
  deriving DecidableEq

/-- `sale_lines.total`. -/
def SaleLine.total (line : SaleLine) : ℕ :=
  line.subtotal + line.tax

structure SalePayment where
  method : PaymentMethod
  status : PaymentStatus
  amountApplied : ℕ
  externalReference : Option Text
  deriving DecidableEq

structure SaleVoid where
  (idempotencyKey requestFingerprint : Text)
  deriving DecidableEq

/-- A row of `sales` with its lines and payments. -/
structure Sale where
  (id branchId cashRegisterId shiftId createdByUserId : Uuid)
  customerId : Option Uuid
  currency : Currency
  lines : List SaleLine
  payments : List SalePayment
  (loyaltyPointsRedeemed loyaltyValue loyaltyPointsEarned : ℕ)
  (idempotencyKey requestFingerprint : Text)
  voided : Option SaleVoid
  deriving DecidableEq

instance : Keyed Sale Uuid := ⟨Sale.id⟩

def linesTotal (lines : List SaleLine) : ℕ :=
  (lines.map SaleLine.total).sum

/-- `sales.total`, which `quoteCart` adds up line by line. -/
def Sale.total (sale : Sale) : ℕ :=
  linesTotal sale.lines

/-- `status = 'COMPLETED'`. -/
def Sale.isCompleted (sale : Sale) : Prop :=
  sale.voided = none
deriving Decidable

abbrev PaymentId := Uuid × ℕ

structure SaleReturnLine where
  /-- The position of the line in the sale. -/
  (saleLine quantity subtotal tax : ℕ)

/-- A row of `sale_returns` with its lines. `loyalty_value_restored` is under no constraint. -/
structure SaleReturn where
  (id saleId : Uuid)
  exchangeSaleId : Option Uuid
  settlementStatus : SettlementStatus
  loyaltyValueRestored : ℤ
  lines : List SaleReturnLine
  (idempotencyKey requestFingerprint : Text)

instance : Keyed SaleReturn Uuid := ⟨SaleReturn.id⟩

/-- `sale_returns.total`, written as the sum over the lines. -/
def SaleReturn.total (saleReturn : SaleReturn) : ℕ :=
  (saleReturn.lines.map fun line ↦ line.subtotal + line.tax).sum

structure Settlement where
  (id saleReturnId : Uuid)
  originalPayment : Option PaymentId
  shiftId : Option Uuid
  mode : SettlementMode
  /-- The method of the original payment; none for a store credit. -/
  method : Option PaymentMethod
  status : RefundStatus
  amount : ℕ
  (idempotencyKey requestFingerprint : Text)

instance : Keyed Settlement Uuid := ⟨Settlement.id⟩

/-! ### Loyalty points -/

structure LoyaltyRule where
  id : Uuid
  version : ℕ
  active : Bool
  (earnAmount earnPoints redeemPoints redeemAmount : ℕ)
  expirationDays : Option ℕ

instance : Keyed LoyaltyRule Uuid := ⟨LoyaltyRule.id⟩

/-- `loyalty_point_entries.idempotency_key`. -/
inductive LoyaltyKey
  | redeem (key : Text)
  | earn (key : Text)
  | expire (creditId : Uuid)
  | voidRestore (saleId : Uuid)
  | voidReverse (saleId : Uuid)
  | returnRestore (saleReturnId : Uuid)
  | returnReverse (saleReturnId : Uuid)
  deriving DecidableEq

/-- A row of `loyalty_point_allocations`, inside the debit entry it belongs to. -/
structure PointAllocation where
  creditId : Uuid
  points : ℕ
  deriving DecidableEq

/-- A row of `loyalty_point_entries` with its allocations. -/
structure LoyaltyEntry where
  (id customerId ruleId : Uuid)
  (saleId saleReturnId : Option Uuid)
  type : LoyaltyEntryType
  pointsDelta : ℤ
  idempotencyKey : LoyaltyKey
  expiresAt : Option Timestamp
  createdAt : Timestamp
  allocations : List PointAllocation
  deriving DecidableEq

instance : Keyed LoyaltyEntry Uuid := ⟨LoyaltyEntry.id⟩

/-! ### Customers and their credit -/

structure Customer where
  id : Uuid
  /-- `active = TRUE AND privacy_status = 'ACTIVE'`. -/
  available : Bool

instance : Keyed Customer Uuid := ⟨Customer.id⟩

structure CreditProfile where
  customerId : Uuid
  enabled : Bool
  creditLimit : ℕ
  currency : Currency
  (termDays maxInstallments : ℕ)

instance : Keyed CreditProfile Uuid := ⟨CreditProfile.customerId⟩

/-- A row of `customer_credit_installments`; `installment_number` is the position plus one. -/
structure Installment where
  dueDate : Day
  amount : ℕ

/-- A row of `customer_credit_accounts` with its installments. -/
structure CreditAccount where
  (id customerId saleId : Uuid)
  currency : Currency
  (originalAmount termDays : ℕ)
  createdAt : Timestamp
  canceledAt : Option Timestamp
  installments : List Installment

instance : Keyed CreditAccount Uuid := ⟨CreditAccount.id⟩

/-- An installment: the account and the position of the installment in it. -/
abbrev InstallmentId := Uuid × ℕ

/-- `customer_debt_ledger.idempotency_key`. -/
inductive DebtKey
  | sale (key : Text)
  | saleVoid (key : Text)
  | payment (key : Text) (accountId : Uuid)
  deriving DecidableEq

/-- A row of `customer_debt_ledger`. -/
structure DebtEntry where
  (id customerId accountId saleId : Uuid)
  type : DebtEntryType
  amount : ℕ
  idempotencyKey : DebtKey

instance : Keyed DebtEntry Uuid := ⟨DebtEntry.id⟩

/-- A row of `customer_credit_payment_allocations`, inside its payment. -/
structure CreditAllocation where
  installment : InstallmentId
  amount : ℕ

structure CreditReversal where
  (idempotencyKey requestFingerprint reason : Text)
  cashMovementId : Option Uuid
  deriving DecidableEq

/-- A row of `customer_credit_payments` with its allocations. -/
structure CreditPayment where
  (id customerId shiftId branchId cashRegisterId createdByUserId : Uuid)
  cashMovementId : Option Uuid
  currency : Currency
  amount : ℕ
  method : PaymentMethod
  externalReference : Option Text
  (idempotencyKey requestFingerprint : Text)
  reversal : Option CreditReversal
  allocations : List CreditAllocation

instance : Keyed CreditPayment Uuid := ⟨CreditPayment.id⟩

end UInventario.Pos
