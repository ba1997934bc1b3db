import UInventario.Foundations.Greedy
import UInventario.Pos.Store

/-!
# Customer credit

What a customer owes is kept twice: in `customer_debt_ledger`, and in the installments of the
accounts with the payments allocated to them. The functions of this file are the parts of four
transactions that touch these tables: of a credit sale (`checkCredit`, `openAccount`), a void
(`cancelAccount`), a payment (`allocatePayment`, `recordPayment`) and its reversal
(`recordReversal`). What may happen between reading and writing is decided by the locks, not here.
-/

namespace UInventario.Pos

open Outcome

/-! ### The ledger -/

def DebtEntry.signed (entry : DebtEntry) : ℤ :=
  match entry.type with
  | .DEBIT => entry.amount
  | .CREDIT => -entry.amount

variable (book : CreditBook)

namespace CreditBook

/-- `SUM` of the signed entries of a customer. -/
def balance (customerId : Uuid) : ℤ :=
  book.ledger.total fun e ↦ if e.customerId = customerId then e.signed else 0

/-- `SUM` of the signed entries of an account. -/
def accountBalance (accountId : Uuid) : ℤ :=
  book.ledger.total fun e ↦ if e.accountId = accountId then e.signed else 0

/-- `INSERT INTO customer_debt_ledger`. -/
def insertDebt (entry : DebtEntry) : Except Failure CreditBook := do
  ensure (0 < entry.amount) .checkViolation
  ensure (∀ e ∈ book.ledger.rows, e.idempotencyKey ≠ entry.idempotencyKey) .duplicateEntry
  let ledger ← demand (book.ledger.insert entry) .duplicateEntry
  pure { book with ledger := ledger }

/-! ### The credit sale -/

/-- The part of `persistSale` that decides on the credit, under the lock of customer and profile. -/
def checkCredit (customerId : Uuid) (installmentCount : ℕ)
    (currency : Currency) (requested : ℕ) : Except Failure CreditProfile := do
  let profile ← demand (book.profiles.find? customerId) (.customerCreditNotAvailable .DISABLED)
  ensure (profile.enabled = true) (.customerCreditNotAvailable .DISABLED)
  ensure (profile.currency = currency) (.customerCreditNotAvailable .CURRENCY)
  ensure (installmentCount ≤ profile.maxInstallments) (.customerCreditNotAvailable .INSTALLMENTS)
  let currentBalance ← demand (Sales.toMoney (columnText (book.balance customerId))) .syntaxError
  ensure (¬currentBalance + requested > profile.creditLimit) .customerCreditLimitExceeded
  pure profile

end CreditBook

/-- The amount of an installment: the remainder goes to the first ones, a cent each. -/
def installmentAmount (totalCents count index : ℕ) : ℕ :=
  totalCents / count + if index < totalCents % count then 1 else 0

/-- `Math.ceil((termDays * (index + 1)) / count)`; the quotient is exact enough for the terms and
counts the schema admits. -/
def dueOffset (termDays count index : ℕ) : ℕ :=
  (termDays * (index + 1) + (count - 1)) / count

/-- The installments of an account opened on the day `today`. -/
def installments (today totalCents termDays count : ℕ) : List Installment :=
  (List.range count).map fun index ↦
    { dueDate := today + dueOffset termDays count index
      amount := installmentAmount totalCents count index }

structure AccountInput where
  (customerId saleId : Uuid)
  (amount installmentCount : ℕ)
  idempotencyKey : Text
  now : Timestamp
  today : Day

namespace CreditBook

/-- The part of `persistSale` that opens the account: the account, its installments and the debit.
-/
def openAccount (env : Env) (book : CreditBook) (profile : CreditProfile) (input : AccountInput) :
    Except Failure CreditBook := do
  ensure (0 < input.amount ∧ 1 ≤ input.installmentCount ∧ input.installmentCount ≤ 36 ∧
    1 ≤ profile.termDays ∧ profile.termDays ≤ 365) .checkViolation
  ensure (∀ account ∈ book.accounts.rows, account.saleId ≠ input.saleId) .duplicateEntry
  let parts := installments input.today input.amount profile.termDays input.installmentCount
  ensure (∀ part ∈ parts, 0 < part.amount) .checkViolation
  let accountId := env.uuid .customer_credit_accounts book.accounts.rows.length
  let accounts ← demand (book.accounts.insert {
    id := accountId, customerId := input.customerId, saleId := input.saleId,
    currency := profile.currency, originalAmount := input.amount, termDays := profile.termDays,
    createdAt := input.now, canceledAt := none, installments := parts }) .duplicateEntry
  insertDebt { book with accounts := accounts } {
    id := env.uuid .customer_debt_ledger book.ledger.rows.length, customerId := input.customerId,
    accountId := accountId, saleId := input.saleId, type := .DEBIT, amount := input.amount,
    idempotencyKey := .sale input.idempotencyKey }

/-! ### The void -/

/-- The entry that takes the rest of a canceled account off the ledger, when there is a rest. -/
def insertVoidCredit (env : Env) (book : CreditBook) (account : CreditAccount) (balance : ℤ)
    (idempotencyKey : Text) : Except Failure CreditBook :=
  if balance > 0 then
    book.insertDebt {
      id := env.uuid .customer_debt_ledger book.ledger.rows.length,
      customerId := account.customerId, accountId := account.id, saleId := account.saleId,
      type := .CREDIT, amount := balance.toNat, idempotencyKey := .saleVoid idempotencyKey }
  else pure book

/-- The part of `voidSale` that cancels the account of the sale, under the lock of the account. -/
def cancelAccount (env : Env) (book : CreditBook) (saleId : Uuid) (idempotencyKey : Text)
    (now : Timestamp) : Except Failure CreditBook :=
  match book.accounts.rows.find? fun account ↦ account.saleId = saleId with
  | none => pure book
  | some account =>
    match account.canceledAt with
    | some _ => pure book
    | none => do
      let balance ← demand (Sales.toMoney (columnText (book.accountBalance account.id)))
        .syntaxError
      let book ← insertVoidCredit env book account balance idempotencyKey
      pure { book with
        accounts := book.accounts.update account.id fun a ↦ { a with canceledAt := some now } }

/-! ### The payment -/

def paid (id : InstallmentId) : ℤ :=
  book.payments.total fun payment ↦
    if payment.reversal = none then
      (payment.allocations.map fun a ↦ if a.installment = id then (a.amount : ℤ) else 0).sum
    else 0

end CreditBook

/-- A row of `openObligations`. -/
structure Obligation where
  installment : InstallmentId
  dueDate : Day
  createdAt : Timestamp
  amount : ℕ
  paidAmount : ℤ

def Obligation.outstanding (o : Obligation) : ℤ :=
  o.amount - o.paidAmount

/-- The order of `openObligations`: due date, age of the account, number of the installment. -/
def Obligation.before (a b : Obligation) : Prop :=
  a.dueDate < b.dueDate ∨ a.dueDate = b.dueDate ∧ (a.createdAt < b.createdAt ∨
    a.createdAt = b.createdAt ∧ (a.installment.2 < b.installment.2 ∨
      a.installment.2 = b.installment.2 ∧ a.installment.1 ≤ b.installment.1))
deriving Decidable

namespace CreditBook

def obligations (account : CreditAccount) : List Obligation :=
  account.installments.zipIdx.map fun part ↦
    { installment := (account.id, part.2)
      dueDate := part.1.dueDate
      createdAt := account.createdAt
      amount := part.1.amount
      paidAmount := book.paid (account.id, part.2) }

def openAccounts (customerId : Uuid) : List CreditAccount :=
  book.accounts.rows.filter fun account ↦
    account.customerId = customerId ∧ account.canceledAt = none

def openObligations (customerId : Uuid) : List Obligation :=
  orderBy Obligation.before (((book.openAccounts customerId).flatMap book.obligations).filter
    fun o ↦ (o.amount : ℤ) > o.paidAmount)

end CreditBook

/-- What is booked on each installment in order: as much as is left of it and of the payment. -/
def allocationsOf (amount : ℕ) (obligations : List Obligation) : List CreditAllocation :=
  ((Greedy.draws Obligation.outstanding amount obligations).filter fun d ↦ 0 < d.2).map fun d ↦
    { installment := d.1.installment, amount := d.2.toNat }

def addToAccount : List (Uuid × ℕ) → CreditAllocation → List (Uuid × ℕ)
  | [], a => [(a.installment.1, a.amount)]
  | (id, total) :: rest, a =>
    if id = a.installment.1 then (id, total + a.amount) :: rest
    else (id, total) :: addToAccount rest a

/-- `accountAmounts`: the allocations added up by account. -/
def accountAmounts (allocations : List CreditAllocation) : List (Uuid × ℕ) :=
  allocations.foldl addToAccount []

namespace CreditBook

/-- The part of `create` that checks the amount, under the lock of the customer. -/
def assertPaymentAmount (customerId : Uuid) (amount : ℕ) :
    Except Failure PUnit := do
  let balance ← demand (CreditPayments.cents (columnText (book.balance customerId))) .syntaxError
  ensure (¬((amount : ℤ) ≤ 0 ∨ balance ≤ 0 ∨ (amount : ℤ) > balance)) .customerCreditPaymentAmount

/-- The part of `create` that decides on what the payment is booked. -/
def allocatePayment (customerId : Uuid) (amount : ℕ) :
    Except Failure (List CreditAllocation) := do
  let obligations := book.openObligations customerId
  ensure (Greedy.unmet Obligation.outstanding amount obligations = 0)
    .customerCreditPaymentAllocation
  pure (allocationsOf amount obligations)

def insertPaymentDebt (env : Env) (type : DebtEntryType) (customerId : Uuid)
    (idempotencyKey : Text) (book : CreditBook) (part : Uuid × ℕ) : Except Failure CreditBook := do
  let account ← demand (book.accounts.find? part.1) .foreignKeyViolation
  book.insertDebt {
    id := env.uuid .customer_debt_ledger book.ledger.rows.length, customerId := customerId,
    accountId := part.1, saleId := account.saleId, type := type, amount := part.2,
    idempotencyKey := .payment idempotencyKey part.1 }

/-- The part of `create` that writes the payment, its allocations and the credit entries. -/
def recordPayment (env : Env) (book : CreditBook) (payment : CreditPayment) :
    Except Failure CreditBook := do
  ensure (0 < payment.amount) .checkViolation
  ensure (∀ p ∈ book.payments.rows, p.idempotencyKey ≠ payment.idempotencyKey) .duplicateEntry
  let payments ← demand (book.payments.insert payment) .duplicateEntry
  (accountAmounts payment.allocations).foldlM
    (insertPaymentDebt env .CREDIT payment.customerId payment.idempotencyKey)
    { book with payments := payments }

/-- The part of `reverse` that marks the payment and puts what it had paid back on the ledger. -/
def recordReversal (env : Env) (book : CreditBook) (payment : CreditPayment)
    (reversal : CreditReversal) : Except Failure CreditBook := do
  ensure (∀ p ∈ book.payments.rows, p.reversal.all fun r ↦
    r.idempotencyKey ≠ reversal.idempotencyKey) .duplicateEntry
  (accountAmounts payment.allocations).foldlM
    (insertPaymentDebt env .DEBIT payment.customerId reversal.idempotencyKey)
    { book with payments := book.payments.update payment.id fun p ↦
        { p with reversal := some reversal } }

end CreditBook

end UInventario.Pos
