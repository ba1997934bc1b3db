import UInventario.Foundations.Greedy
import UInventario.Pos.Store

/-!
# Loyalty points

Points are entries of a ledger: credits that are earned or given back, and debits that are redeemed,
expired or taken back. Every debit is allocated to credits, the ones that expire first before the
others. A redemption is checked against the sum of all entries, and consumes the credits that are
unexpired at that time; expired ones are debited lazily, by `materializeExpirations`.

Every operation locks the row of the customer before it reads, so each is one step.
-/

namespace UInventario.Pos

open Outcome

structure LoyaltyClock where
  (expiring allocating inserting : Timestamp)

/-- Whether the constraint on `points_delta` asks for a positive value. -/
def LoyaltyEntryType.isCredit : LoyaltyEntryType → Bool
  | .EARN | .VOID_REDEEM_RESTORE | .RETURN_REDEEM_RESTORE => true
  | .REDEEM | .EXPIRE | .VOID_EARN_REVERSAL | .RETURN_EARN_REVERSAL => false

def LoyaltyEntry.allocatedTo (entry : LoyaltyEntry) (creditId : Uuid) : ℤ :=
  (entry.allocations.map fun a ↦ if a.creditId = creditId then (a.points : ℤ) else 0).sum

variable (book : LoyaltyBook)

namespace LoyaltyBook

/-! ### Queries -/

/-- `ruleWithManager`: the latest version. -/
def currentRule : Option LoyaltyRule :=
  (orderBy (fun a b ↦ b.version ≤ a.version) book.rules.rows).head?

def allocatedTo (creditId : Uuid) : ℤ :=
  book.entries.total fun e ↦ e.allocatedTo creditId

/-- `available_points`. -/
def availablePoints (entry : LoyaltyEntry) : ℤ :=
  entry.pointsDelta - book.allocatedTo entry.id

def balance (customerId : Uuid) : ℤ :=
  book.entries.total fun e ↦ if e.customerId = customerId then e.pointsDelta else 0

def credits (customerId : Uuid) : List LoyaltyEntry :=
  book.entries.rows.filter fun e ↦ e.customerId = customerId ∧ 0 < e.pointsDelta

/-- The order of the credits that are to expire: by time, then by identifier. -/
def expiringBefore (a b : LoyaltyEntry) : Bool :=
  a.expiresAt.getD 0 < b.expiresAt.getD 0 ||
    (a.expiresAt.getD 0 == b.expiresAt.getD 0 && decide (a.id ≤ b.id))

/-- The query of `materializeExpirations`. -/
def expiredCredits (customerId : Uuid) (now : Timestamp) :
    List LoyaltyEntry :=
  orderBy (fun a b ↦ expiringBefore a b = true)
    ((book.credits customerId).filter fun e ↦ e.expiresAt.any fun t ↦ t ≤ now)

/-- The order in which credits are used: those that expire first, by time, then by age. -/
def usedBefore (a b : LoyaltyEntry) : Bool :=
  match a.expiresAt, b.expiresAt with
  | some _, none => true
  | none, some _ => false
  | ta, tb =>
    ta.getD 0 < tb.getD 0 || (ta.getD 0 == tb.getD 0 &&
      (decide (a.createdAt < b.createdAt) || (a.createdAt == b.createdAt && decide (a.id ≤ b.id))))

def availableCredits (customerId : Uuid) (now : Timestamp) :
    List LoyaltyEntry :=
  orderBy (fun a b ↦ usedBefore a b = true) ((book.credits customerId).filter fun e ↦
    (e.expiresAt.all fun t ↦ t > now) ∧ 0 < book.availablePoints e)

/-! ### Entries -/

/-- `INSERT INTO loyalty_point_entries`, with the constraint on the sign and the unique key. -/
def insertEntry (entry : LoyaltyEntry) : Except Failure LoyaltyBook := do
  ensure (if entry.type.isCredit = true then 0 < entry.pointsDelta else entry.pointsDelta < 0)
    .checkViolation
  ensure (∀ e ∈ book.entries.rows, e.idempotencyKey ≠ entry.idempotencyKey) .duplicateEntry
  let entries ← demand (book.entries.insert entry) .duplicateEntry
  pure { book with entries := entries }

/-- What `insertDebit` and `insertCredit` are called with. -/
structure EntryInput where
  (customerId ruleId : Uuid)
  (saleId saleReturnId : Option Uuid)
  type : LoyaltyEntryType
  points : ℤ
  idempotencyKey : LoyaltyKey
  expiresAt : Option Timestamp

def insertCredit (env : Env) (book : LoyaltyBook) (clock : LoyaltyClock) (input : EntryInput) :
    Except Failure LoyaltyBook :=
  if input.points ≤ 0 then pure book
  else
    book.insertEntry {
      id := env.uuid .loyalty_point_entries book.entries.rows.length,
      customerId := input.customerId, ruleId := input.ruleId, saleId := input.saleId,
      saleReturnId := input.saleReturnId, type := input.type, pointsDelta := input.points,
      idempotencyKey := input.idempotencyKey, expiresAt := input.expiresAt,
      createdAt := clock.inserting, allocations := [] }

def usablePoints (credit : LoyaltyEntry) : ℤ :=
  max 0 (book.availablePoints credit)

/-- The loop that allocates a debit: from each credit as much as it has and as is still wanted. -/
def allocate (points : ℤ) (credits : List LoyaltyEntry) :
    List PointAllocation :=
  ((Greedy.draws book.usablePoints points credits).filter fun d ↦ 0 < d.2).map fun d ↦
    { creditId := d.1.id, points := d.2.toNat }

/-- `insertDebit`, on the credits its query has returned. -/
def insertDebit (env : Env) (book : LoyaltyBook) (clock : LoyaltyClock) (input : EntryInput)
    (credits : List LoyaltyEntry) : Except Failure LoyaltyBook :=
  if input.points ≤ 0 then pure book
  else do
    let available := (credits.map book.usablePoints).sum
    ensure (¬available < input.points) (.loyaltyInsufficientBalance available input.points)
    book.insertEntry {
      id := env.uuid .loyalty_point_entries book.entries.rows.length,
      customerId := input.customerId, ruleId := input.ruleId, saleId := input.saleId,
      saleReturnId := input.saleReturnId, type := input.type, pointsDelta := -input.points,
      idempotencyKey := input.idempotencyKey, expiresAt := none, createdAt := clock.inserting,
      allocations := book.allocate input.points credits }

/-- One turn of the loop of `materializeExpirations`: the rest of an expired credit is debited from
that credit. -/
def expireCredit (env : Env) (clock : LoyaltyClock) (book : LoyaltyBook)
    (credit : LoyaltyEntry × ℤ) : Except Failure LoyaltyBook :=
  book.insertDebit env clock {
    customerId := credit.1.customerId, ruleId := credit.1.ruleId, saleId := none,
    saleReturnId := none, type := .EXPIRE, points := credit.2,
    idempotencyKey := .expire credit.1.id,
    expiresAt := none } (book.entries.find? credit.1.id).toList

def materializeExpirations (env : Env) (book : LoyaltyBook) (clock : LoyaltyClock)
    (customerId : Uuid) : Except Failure LoyaltyBook :=
  ((book.expiredCredits customerId clock.expiring).map fun e ↦ (e, book.availablePoints e)).foldlM
    (expireCredit env clock) book

end LoyaltyBook

/-! ### The quote -/

/-- The part of `LoyaltyQuoteData` a sale is persisted with. -/
structure LoyaltyQuote where
  ruleId : Uuid
  (pointsRedeemed redemptionValue pointsEarned : ℕ)
  deriving DecidableEq

/-- `quote`. -/
def quoteLoyalty (rule : LoyaltyRule) (balance : ℤ) (saleTotal pointsToRedeem : ℕ) :
    Except Failure LoyaltyQuote := do
  ensure (¬(pointsToRedeem : ℤ) > balance) (.loyaltyInsufficientBalance balance pointsToRedeem)
  ensure (pointsToRedeem % rule.redeemPoints = 0) .loyaltyInvalidRedemptionIncrement
  let redemptionCents := pointsToRedeem / rule.redeemPoints * rule.redeemAmount
  ensure (¬(redemptionCents ≥ saleTotal ∧ redemptionCents > 0))
    .loyaltyRedemptionMustLeavePayableBalance
  let payable := saleTotal - redemptionCents
  pure {
    ruleId := rule.id, pointsRedeemed := pointsToRedeem, redemptionValue := redemptionCents,
    pointsEarned := payable / rule.earnAmount * rule.earnPoints }

/-! ### Operations -/

/-- `lockCustomer`, with the customer required. -/
def assertLoyaltyCustomer (s : Store) (customerId : Uuid) : Except Failure PUnit :=
  ensure (s.customerAvailable customerId) .loyaltyCustomerNotAvailable

structure RuleInput where
  active : Bool
  (earnAmount earnPoints redeemPoints redeemAmount : ℕ)
  expirationDays : Option ℕ

def createRuleVersion (s : Store) (input : RuleInput) : Except Failure Store := do
  ensure (0 < input.earnAmount ∧ 0 < input.earnPoints ∧ 0 < input.redeemPoints ∧
    0 < input.redeemAmount ∧ ∀ days ∈ input.expirationDays, 1 ≤ days ∧ days ≤ 3650) .checkViolation
  let version := (s.loyalty.currentRule.map LoyaltyRule.version).getD 0 + 1
  let rules ← demand (s.loyalty.rules.insert {
    id := s.env.uuid .loyalty_rules s.loyalty.rules.rows.length, version := version,
    active := input.active, earnAmount := input.earnAmount, earnPoints := input.earnPoints,
    redeemPoints := input.redeemPoints, redeemAmount := input.redeemAmount,
    expirationDays := input.expirationDays }) .duplicateEntry
  pure { s with loyalty := { s.loyalty with rules := rules } }

/-- `preview` and `statement`, as far as they write: they debit what has expired. -/
def viewLoyalty (s : Store) (clock : LoyaltyClock) (customerId : Uuid) : Except Failure Store := do
  assertLoyaltyCustomer s customerId
  let loyalty ← s.loyalty.materializeExpirations s.env clock customerId
  pure { s with loyalty := loyalty }

/-- What `persistSale` passes to `applySale`. -/
structure ApplySaleInput where
  (customerId saleId : Uuid)
  idempotencyKey : Text
  saleTotal : ℕ
  quote : LoyaltyQuote
  clock : LoyaltyClock

abbrev DAY : ℕ := 86400000000

def insertSaleEntries (env : Env) (book : LoyaltyBook) (rule : LoyaltyRule)
    (input : ApplySaleInput) (current : LoyaltyQuote) : Except Failure LoyaltyBook := do
  let book ← book.insertDebit env input.clock {
    customerId := input.customerId, ruleId := rule.id, saleId := some input.saleId,
    saleReturnId := none, type := .REDEEM, points := current.pointsRedeemed,
    idempotencyKey := .redeem input.idempotencyKey,
    expiresAt := none } (book.availableCredits input.customerId input.clock.allocating)
  book.insertCredit env input.clock {
    customerId := input.customerId, ruleId := rule.id, saleId := some input.saleId,
    saleReturnId := none, type := .EARN, points := current.pointsEarned,
    idempotencyKey := .earn input.idempotencyKey,
    expiresAt := rule.expirationDays.map fun days ↦ input.clock.inserting + days * DAY }

def applySale (s : Store) (input : ApplySaleInput) : Except Failure LoyaltyBook := do
  assertLoyaltyCustomer s input.customerId
  let book ← s.loyalty.materializeExpirations s.env input.clock input.customerId
  let rule ← demand book.currentRule .loyaltyRuleChanged
  ensure (rule.active = true ∧ rule.id = input.quote.ruleId) .loyaltyRuleChanged
  let current ← quoteLoyalty rule (book.balance input.customerId) input.saleTotal
    input.quote.pointsRedeemed
  ensure (current.redemptionValue = input.quote.redemptionValue ∧
    current.pointsEarned = input.quote.pointsEarned) .loyaltyRuleChanged
  insertSaleEntries s.env book rule input current

/-! ### Compensation -/

/-- Why a sale is compensated: it is voided, or part of it has been returned. -/
inductive Compensation
  | VOID
  | RETURN (saleReturnId : Uuid)

def Compensation.restoreType : Compensation → LoyaltyEntryType
  | .VOID => .VOID_REDEEM_RESTORE
  | .RETURN _ => .RETURN_REDEEM_RESTORE

def Compensation.reversalType : Compensation → LoyaltyEntryType
  | .VOID => .VOID_EARN_REVERSAL
  | .RETURN _ => .RETURN_EARN_REVERSAL

def Compensation.saleReturnId : Compensation → Option Uuid
  | .VOID => none
  | .RETURN id => some id

def Compensation.restoreKey (saleId : Uuid) : Compensation → LoyaltyKey
  | .VOID => .voidRestore saleId
  | .RETURN id => .returnRestore id

def Compensation.reversalKey (saleId : Uuid) : Compensation → LoyaltyKey
  | .VOID => .voidReverse saleId
  | .RETURN id => .returnReverse id

/-- `prorate` of the loyalty repository: the share of the points, rounded down; all of them once the
part reaches the total. -/
def proratePoints (points : ℕ) (part total : ℤ) : ℤ :=
  if total ≤ 0 ∨ part ≤ 0 then 0
  else if part ≥ total then points
  else points * part / total

def Store.returnedTotal (s : Store) (saleId : Uuid) : ℤ :=
  s.saleReturns.total fun r ↦ if r.saleId = saleId then r.total else 0

def LoyaltyBook.pointsOf (saleId : Uuid) (type : LoyaltyEntryType) : ℤ :=
  book.entries.total fun e ↦ if e.saleId = some saleId ∧ e.type = type then e.pointsDelta else 0

def LoyaltyBook.sourceOf (saleId : Uuid) (type : LoyaltyEntryType) :
    Option LoyaltyEntry :=
  book.entries.rows.find? fun e ↦ e.saleId = some saleId ∧ e.type = type

/-- How much of `points` is to be compensated in all. -/
def compensationTarget (s : Store) (sale : Sale) (mode : Compensation) (points : ℕ) : ℤ :=
  match mode with
  | .VOID => points
  | .RETURN _ => proratePoints points (s.returnedTotal sale.id) sale.total

/-- The two entries of a compensation: redeemed points come back, earned points are taken back. -/
def insertCompensation (env : Env) (book : LoyaltyBook) (clock : LoyaltyClock) (sale : Sale)
    (customerId : Uuid) (mode : Compensation) (redeemRuleId earnRuleId : Uuid)
    (restore reverse : ℤ) : Except Failure LoyaltyBook := do
  let book ← book.insertCredit env clock {
    customerId := customerId, ruleId := redeemRuleId, saleId := some sale.id,
    saleReturnId := mode.saleReturnId, type := mode.restoreType, points := restore,
    idempotencyKey := mode.restoreKey sale.id, expiresAt := none }
  book.insertDebit env clock {
    customerId := customerId, ruleId := earnRuleId, saleId := some sale.id,
    saleReturnId := mode.saleReturnId, type := mode.reversalType, points := reverse,
    idempotencyKey := mode.reversalKey sale.id,
    expiresAt := none } (book.availableCredits customerId clock.allocating)

def compensate (s : Store) (book : LoyaltyBook) (clock : LoyaltyClock) (sale : Sale)
    (customerId : Uuid) (mode : Compensation) : Except Failure LoyaltyBook :=
  match book.entries.rows.find? fun e ↦
      e.saleId = some sale.id ∧ (e.type = .EARN ∨ e.type = .REDEEM) with
  | none => pure book
  | some source =>
    insertCompensation s.env book clock sale customerId mode
      ((book.sourceOf sale.id .REDEEM).getD source).ruleId
      ((book.sourceOf sale.id .EARN).getD source).ruleId
      (max 0 (compensationTarget s sale mode sale.loyaltyPointsRedeemed -
        book.pointsOf sale.id mode.restoreType))
      (max 0 (compensationTarget s sale mode sale.loyaltyPointsEarned -
        -book.pointsOf sale.id mode.reversalType))

/-- `compensateSale`, on the sale its query has returned. -/
def compensateSale (s : Store) (clock : LoyaltyClock) (sale : Sale) (mode : Compensation) :
    Except Failure LoyaltyBook :=
  match sale.customerId with
  | none => pure s.loyalty
  | some customerId =>
    if sale.loyaltyPointsRedeemed = 0 ∧ sale.loyaltyPointsEarned = 0 then pure s.loyalty
    else do
      assertLoyaltyCustomer s customerId
      let book ← s.loyalty.materializeExpirations s.env clock customerId
      compensate s book clock sale customerId mode

end UInventario.Pos
