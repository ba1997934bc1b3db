import UInventario.Foundations.Processes
import UInventario.Inventory.ValuationPolicyService

/-!
# Accounting candidates

`AccountingService.generate` and its repository: the accounts are read, then the sources without an
event; for each of them the journal is computed and the event inserted, and the call ends with one
record of the audit. Every query is a turn of its own (`generateTurn`). Besides there are requests
that save the accounts, and the transactions that make sources.

* Amounts are in cents, and a fingerprint is what it is the digest of.
* `sources` are the rows of the inner query of `sourceCandidates`. What they are read from does not
  change once it is there, but for the void of a sale. `AccountingReversals` reads them off `Pos`.
* `accountReference` of an entry is the account of its `kind` in the configuration.
-/

namespace UInventario.Integrations.Accounting

open Outcome

/-! ### Rows -/

inductive AccountKind
  | paymentClearing | salesRevenue | salesReturns | taxPayable | inventoryAsset | costOfGoodsSold
  | cash | cashClearing
  deriving DecidableEq

/-- `AccountingConfigData`. -/
structure AccountingConfig where
  (paymentClearingAccount salesRevenueAccount salesReturnsAccount taxPayableAccount : Text)
  (inventoryAssetAccount costOfGoodsSoldAccount cashAccount cashClearingAccount : Text)
  deriving DecidableEq

def AccountingConfig.account (config : AccountingConfig) : AccountKind → Text
  | .paymentClearing => config.paymentClearingAccount
  | .salesRevenue => config.salesRevenueAccount
  | .salesReturns => config.salesReturnsAccount
  | .taxPayable => config.taxPayableAccount
  | .inventoryAsset => config.inventoryAssetAccount
  | .costOfGoodsSold => config.costOfGoodsSoldAccount
  | .cash => config.cashAccount
  | .cashClearing => config.cashClearingAccount

inductive AccountingSourceType
  | SALE | SALE_VOID | SALE_RETURN | CASH_MOVEMENT
  deriving DecidableEq

inductive CashType
  | INCOME | WITHDRAWAL | REVERSAL
  deriving DecidableEq

/-- `event_key`. -/
structure EventKey where
  sourceType : AccountingSourceType
  sourceId : Uuid
  deriving DecidableEq

structure AccountingSourceCandidate where
  eventKey : EventKey
  occurredAt : Timestamp
  (currency referenceKey : Text)
  (subtotal taxTotal total costTotal : ℕ)
  (cashType reversedCashType : Option CashType)
  deriving DecidableEq

structure JournalLine where
  kind : AccountKind
  (debit credit : ℕ)
  memo : Text

structure AccountingEntry where
  accountReference : Text
  (debit credit : ℕ)
  memo : Text
  deriving DecidableEq

inductive AccountingFailure
  | ACCOUNTING_CONFIG_REQUIRED
  | ACCOUNTING_CANDIDATE_UNBALANCED
  | ACCOUNTING_EVENT_CREATE_FAILED
  | ACCOUNTING_IDEMPOTENCY_CONFLICT
  deriving DecidableEq

/-! ### Journals -/

def entry (kind : AccountKind) (debit credit : ℕ) (memo : String) : JournalLine where
  kind := kind
  debit := debit
  credit := credit
  memo := textOf memo

variable (candidate : AccountingSourceCandidate)

/-- `effective`: whether the money comes in. -/
def AccountingSourceCandidate.effective : Option CashType :=
  if candidate.cashType = some .REVERSAL then
    if candidate.reversedCashType = some .INCOME then some .WITHDRAWAL else some .INCOME
  else candidate.cashType

def AccountingSourceCandidate.lines : List JournalLine :=
  let subtotal := candidate.subtotal
  let tax := candidate.taxTotal
  let total := candidate.total
  let cost := candidate.costTotal
  match candidate.eventKey.sourceType with
  | .SALE => [
      entry .paymentClearing total 0 "Cobro/por cobrar",
      entry .salesRevenue 0 subtotal "Venta neta",
      entry .taxPayable 0 tax "Impuesto de venta",
      entry .costOfGoodsSold cost 0 "Costo de venta",
      entry .inventoryAsset 0 cost "Salida de inventario"]
  | .SALE_VOID => [
      entry .salesRevenue subtotal 0 "Reverso de venta",
      entry .taxPayable tax 0 "Reverso de impuesto",
      entry .paymentClearing 0 total "Reverso de cobro",
      entry .inventoryAsset cost 0 "Retorno de inventario",
      entry .costOfGoodsSold 0 cost "Reverso de costo"]
  | .SALE_RETURN => [
      entry .salesReturns subtotal 0 "Devolución de venta",
      entry .taxPayable tax 0 "Impuesto devuelto",
      entry .paymentClearing 0 total "Reembolso/abono",
      entry .inventoryAsset cost 0 "Inventario devuelto",
      entry .costOfGoodsSold 0 cost "Reverso de costo"]
  | .CASH_MOVEMENT =>
    if candidate.effective = some .INCOME then [
      entry .cash total 0 "Entrada de caja",
      entry .cashClearing 0 total "Contrapartida de caja"]
    else [
      entry .cashClearing total 0 "Salida de caja",
      entry .cash 0 total "Contrapartida de caja"]

/-- What `journal` computes, before the accounts are named. -/
structure Journal where
  entries : List JournalLine
  (debitTotal creditTotal : ℕ)

def journal : Except AccountingFailure Journal := do
  let entries := candidate.lines.filter fun line ↦ line.debit ≠ 0 ∨ line.credit ≠ 0
  let debitTotal := (entries.map JournalLine.debit).sum
  let creditTotal := (entries.map JournalLine.credit).sum
  ensure (debitTotal = creditTotal) .ACCOUNTING_CANDIDATE_UNBALANCED
  return { entries := entries, debitTotal := debitTotal, creditTotal := creditTotal }

def JournalLine.entry (config : AccountingConfig) (line : JournalLine) : AccountingEntry where
  accountReference := config.account line.kind
  debit := line.debit
  credit := line.credit
  memo := line.memo

/-- What `generate` hashes. -/
structure AccountingFingerprint where
  source : AccountingSourceCandidate
  entries : List AccountingEntry
  deriving DecidableEq

structure AccountingEvent where
  eventKey : EventKey
  currency : Text
  occurredAt : Timestamp
  referenceKey : Text
  entries : List AccountingEntry
  (debitTotal creditTotal : ℕ)
  contentFingerprint : AccountingFingerprint

instance : Keyed AccountingEvent EventKey := ⟨AccountingEvent.eventKey⟩

/-- The row that `createEvent` inserts. -/
def eventOf (config : AccountingConfig) (candidate : AccountingSourceCandidate)
    (journal : Journal) : AccountingEvent where
  eventKey := candidate.eventKey
  currency := candidate.currency
  occurredAt := candidate.occurredAt
  referenceKey := candidate.referenceKey
  entries := journal.entries.map (JournalLine.entry config)
  debitTotal := journal.debitTotal
  creditTotal := journal.creditTotal
  contentFingerprint := {
    source := candidate, entries := journal.entries.map (JournalLine.entry config) }

/-! ### Sources -/

/-- The total of a candidate is that of its lines: a movement of the cash desk has no other amounts.
-/
def AccountingSourceCandidate.Balanced : Prop :=
  candidate.eventKey.sourceType ≠ .CASH_MOVEMENT →
    candidate.total = candidate.subtotal + candidate.taxTotal
deriving Decidable

def AccountingSource : Type :=
  { candidate : AccountingSourceCandidate // candidate.Balanced }

instance : Keyed AccountingSource EventKey := ⟨fun source ↦ source.val.eventKey⟩

structure AccountingStore where
  config : Option AccountingConfig
  sources : Table AccountingSource
  events : Table AccountingEvent
  audits : List (List EventKey)

/-- `ORDER BY occurred_at, source_id`. -/
def AccountingSource.before (a b : AccountingSource) : Prop :=
  a.val.occurredAt < b.val.occurredAt ∨
    a.val.occurredAt = b.val.occurredAt ∧ a.val.eventKey.sourceId ≤ b.val.eventKey.sourceId
deriving Decidable

def AccountingStore.sourceCandidates (s : AccountingStore) : List AccountingSource :=
  (orderBy AccountingSource.before
    (s.sources.rows.filter fun source ↦ s.events.find? source.val.eventKey = none)).take 1000

/-! ### Requests -/

inductive AccountingRequest
  | generate
  | saveConfig (config : AccountingConfig)
  | source (source : AccountingSource)

/-- **Where a request stands.** `generated` are the events that `generate` has created so far. -/
inductive AccountingProcess
  | configuring
  | selecting (config : AccountingConfig)
  | creating (config : AccountingConfig) (candidate : AccountingSource)
      (rest : List AccountingSource) (generated : List EventKey)
  | checking (config : AccountingConfig) (candidate : AccountingSource)
      (rest : List AccountingSource) (generated : List EventKey)
        (fingerprint : AccountingFingerprint)
  | auditing (generated : List EventKey)
  | saving (config : AccountingConfig)
  | occurring (source : AccountingSource)
  | answered (answer : Except AccountingFailure (List EventKey))

/-- The end of the loop of `generate`, or its next turn. -/
def nextCandidate (config : AccountingConfig) (generated : List EventKey) :
    List AccountingSource → AccountingProcess
  | candidate :: rest => .creating config candidate rest generated
  | [] => if generated = [] then .answered (.ok []) else .auditing generated

/-- What `createEvent` answers for the event it finds. -/
def checkEvent (s : AccountingStore) (eventKey : EventKey) (fingerprint : AccountingFingerprint) :
    Except AccountingFailure Unit := do
  let event ← demand (s.events.find? eventKey) .ACCOUNTING_EVENT_CREATE_FAILED
  ensure (event.contentFingerprint = fingerprint) .ACCOUNTING_IDEMPOTENCY_CONFLICT

/-- `journal` and the `INSERT IGNORE` of `createEvent`. -/
def createTurn (s : AccountingStore) (config : AccountingConfig) (candidate : AccountingSource)
    (rest : List AccountingSource) (generated : List EventKey) :
      AccountingStore × AccountingProcess :=
  match journal candidate.val with
  | .error e => (s, .answered (.error e))
  | .ok journal =>
    let event := eventOf config candidate.val journal
    match s.events.insert event with
    | some events => (
        { s with events := events },
        .checking config candidate rest (generated ++ [event.eventKey]) event.contentFingerprint)
    | none => (s, .checking config candidate rest generated event.contentFingerprint)

/-- **The next query of a request.** -/
def accountingTurn : AccountingProcess → AccountingStore → AccountingStore × AccountingProcess
  | .configuring, s =>
    (s, match s.config with
      | some config => .selecting config
      | none => .answered (.error .ACCOUNTING_CONFIG_REQUIRED))
  | .selecting config, s => (s, nextCandidate config [] s.sourceCandidates)
  | .creating config candidate rest generated, s => createTurn s config candidate rest generated
  | .checking config candidate rest generated fingerprint, s =>
    (s, match checkEvent s candidate.val.eventKey fingerprint with
      | .ok _ => nextCandidate config generated rest
      | .error e => .answered (.error e))
  | .auditing generated, s =>
    ({ s with audits := s.audits ++ [generated] }, .answered (.ok generated))
  | .saving config, s => ({ s with config := some config }, .answered (.ok []))
  | .occurring source, s =>
    ({ s with sources := (s.sources.insert source).getD s.sources }, .answered (.ok []))
  | .answered answer, s => (s, .answered answer)

/-- **The system** of all requests on the accounting. -/
def accountingRequests :
    Processes.System AccountingStore AccountingProcess AccountingRequest where
  start
    | .generate => .configuring
    | .saveConfig config => .saving config
    | .source source => .occurring source
  turn := accountingTurn

def AccountingStore.opening (config : Option AccountingConfig) : AccountingStore where
  config := config
  sources := .empty
  events := .empty
  audits := []

end UInventario.Integrations.Accounting
