import UInventario.Foundations.LockedRuns
import UInventario.Pos.CreditPayments

/-!
# The point of sale as a system of transactions

`protocol` puts the operations of the point of sale side by side: for every request the rows its
transaction locks, what it reads under them, in a credit payment what it reads after that, the rows
it locks for its second half, and what it commits. A run of `protocol.step` is an interleaving that
the row locks permit.

The rows that matter are those of customers, of sales and of the open shift of a register, for which
the register stands. The rows locked besides restrict the runs further and are left out.
-/

namespace UInventario.Pos

open LockedRuns

inductive LockedRow
  | customer (id : Uuid)
  | sale (id : Uuid)
  /-- The open shift of the register. -/
  | register (id : Uuid)
  deriving DecidableEq

inductive Request
  | openShift (input : OpenShiftInput)
  | movement (input : MovementInput)
  | closeShift (input : CloseShiftInput)
  | sale (input : SaleInput)
  | voidSale (input : VoidInput)
  | saleReturn (input : ReturnInput)
  | settlement (input : SettlementInput)
  | creditPayment (input : CreditPaymentInput)
  | creditReversal (input : ReversalInput)
  | configureCredit (profile : CreditProfile)
  | createRuleVersion (input : RuleInput)
  | viewLoyalty (clock : LoyaltyClock) (customerId : Uuid)

inductive Decision
  /-- A transaction that reads and writes under the same locks. -/
  | idle
  | sale (decision : SaleDecision)
  | saleReturn (decision : ReturnDecision)
  | settlement (decision : SettlementDecision)
  | creditPayment (decision : PaymentDecision)
  | creditReversal (decision : ReversalDecision)

/-- The customer of a sale with points, whom their compensation locks. -/
def loyaltyRows (s : Store) (saleId : Uuid) : List LockedRow :=
  match s.sales.find? saleId with
  | none => []
  | some sale =>
    if sale.loyaltyPointsRedeemed = 0 ∧ sale.loyaltyPointsEarned = 0 then []
    else sale.customerId.toList.map .customer

namespace Request

def holds : Request → List LockedRow
  | .sale input => input.customer.toList.map fun customer ↦ .customer customer.id
  | .saleReturn input => .sale input.saleId :: input.exchangeSaleId.toList.map .sale
  | .settlement input => [.sale input.saleId]
  | .creditPayment input => [.customer input.customerId, .register input.cashRegisterId]
  | .creditReversal input => [.customer input.customerId]
  | _ => []

def read (request : Request) (s : Store) : Except Failure Decision :=
  match request with
  | .sale input => (readSale s input).map .sale
  | .saleReturn input => (readReturn s input).map .saleReturn
  | .settlement input => (readSettlement s input).map .settlement
  | .creditPayment input => (readPayment s input).map .creditPayment
  | .creditReversal input => (readReversal s input).map .creditReversal
  | _ => .ok .idle

/-- A credit payment reads the open installments after the balance; the others read once. -/
def reread (request : Request) (decision : Decision) (s : Store) : Except Failure Decision :=
  match request, decision with
  | .creditPayment input, .creditPayment decision =>
    (readObligations s input decision).map .creditPayment
  | _, decision => .ok decision

def needs (request : Request) (decision : Decision) (s : Store) : List LockedRow :=
  match request, decision with
  | .openShift input, _ => [.register input.cashRegisterId]
  | .movement input, _ => [.register input.cashRegisterId]
  | .closeShift input, _ => [.register input.cashRegisterId]
  | .sale input, _ => [.register input.cashRegisterId]
  | .voidSale input, _ =>
    .sale input.saleId :: .register input.cashRegisterId :: loyaltyRows s input.saleId
  | .saleReturn input, _ => loyaltyRows s input.saleId
  | .settlement input, .settlement (.settle _ _ _ (some (_, payment))) =>
    if payment.method = .CASH then [.register input.cashRegisterId] else []
  | .creditReversal input, _ => [.register input.cashRegisterId]
  | .configureCredit profile, _ => [.customer profile.customerId]
  | .viewLoyalty _ customerId, _ => [.customer customerId]
  | _, _ => []

def write (request : Request) (decision : Decision) (s : Store) : Except Failure Store :=
  match request, decision with
  | .openShift input, .idle => Pos.openShift s input
  | .movement input, .idle => persistMovement s input
  | .closeShift input, .idle => Pos.closeShift s input
  | .sale input, .sale decision => writeSale s input decision
  | .voidSale input, .idle => Pos.voidSale s input
  | .saleReturn input, .saleReturn decision => writeReturn s input decision
  | .settlement input, .settlement decision => writeSettlement s input decision
  | .creditPayment input, .creditPayment decision => writePayment s input decision
  | .creditReversal input, .creditReversal decision => writeReversal s input decision
  | .configureCredit profile, .idle => Pos.configureCredit s profile
  | .createRuleVersion input, .idle => Pos.createRuleVersion s input
  | .viewLoyalty clock customerId, .idle => Pos.viewLoyalty s clock customerId
  -- the decision of another request: it never gets here
  | _, _ => .error .syntaxError

end Request

/-- **The point of sale.** -/
def protocol : Protocol Store Request Decision LockedRow Failure where
  holds := Request.holds
  read := Request.read
  reread := Request.reread
  needs := Request.needs
  write := Request.write

/-! ### A day at the first register -/

/-- The register is opened. -/
def Request.opening (openingAmount : ℕ) : Request :=
  .openShift {
    branchId := 1, cashRegisterId := 1, userId := 1, openingAmount := openingAmount
    currency := .MXN, idempotencyKey := [1] }

/-- The first sale in the first shift. -/
def Request.selling (customer : Option SaleCustomer) (lines : List SaleLine)
    (payments : List PaymentInput) : Request :=
  .sale {
    branchId := 1, cashRegisterId := 1, userId := 1, cashRegisterShiftId := 0
    customer := customer, currency := .MXN, lines := lines, payments := payments
    idempotencyKey := [1], fingerprint := [1], clock := ⟨0, 0, 0⟩, now := 0, today := 0 }

def inCash (amount : ℕ) : List PaymentInput :=
  [{ method := .CASH, amountApplied := amount, externalReference := none }]

end UInventario.Pos
