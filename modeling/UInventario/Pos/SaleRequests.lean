import UInventario.Pos.Cart

/-!
# Requests for a sale

`createSale` answers a request under a key that has been used with the sale persisted under it, when
the fingerprints agree, and refuses it otherwise. The fingerprint is the hash of an object that
`saleFingerprint` builds by a loop of its own; here it is that object.

A request under a new key is quoted, its payments are prepared, and what is then passed to
`persistSale` is `SaleContent`: the columns that come from the request, with the serial numbers in
their normal form. What a sale does to the rest of the shop is the parameter `commit`, and
`toUpperCase` is `String.prototype.toUpperCase`.
-/

namespace UInventario.Pos.Cart

open Outcome

/-! ### The request -/

structure SalePaymentDto where
  method : PaymentMethod
  amount : Option (DecimalString 2) := none
  amountReceived : Option (DecimalString 2) := none
  reference : Option Text := none
  terminalOperationId : Option Uuid := none

/-- `CreateSaleDto`; `credit` is `credit.installmentCount`. -/
structure CreateSaleDto where
  channel : Option PriceChannel := none
  suspendedSaleId : Option Uuid := none
  customerId : Option Uuid := none
  reservationId : Option Uuid := none
  loyaltyPointsToRedeem : Option ℕ := none
  lines : List QuoteCartLineDto
  discount : Option SaleDiscountDto := none
  payment : Option SalePaymentDto := none
  payments : Option (List SalePaymentDto) := none
  credit : Option ℕ := none

/-- What `createSale` is called with. -/
structure SaleRequest where
  place : Workplace
  permissions : Permissions := {}
  idempotencyKey : Text
  dto : CreateSaleDto
  sourceQuotationId : Option Uuid := none

def CreateSaleDto.cart (dto : CreateSaleDto) : QuoteCartDto where
  customerId := dto.customerId
  channel := dto.channel
  reservationId := dto.reservationId
  loyaltyPointsToRedeem := dto.loyaltyPointsToRedeem
  lines := dto.lines
  discount := dto.discount

/-! ### The fingerprint -/

/-- What the loop of `saleFingerprint` collects of one product. -/
structure HashedProduct where
  productId : Uuid
  quantity : ℤ
  lotId : Option Uuid
  serialNumbers : List Text
  discount : Option SaleDiscountDto
  note : Option Text
  manualPrice : Option (DecimalString 2)
  overrideReason : Option Text
  deriving DecidableEq

def HashedProduct.ofLine (line : QuoteCartLineDto) : HashedProduct where
  productId := line.productId
  quantity := toQuantityUnits line.quantity
  lotId := line.lotId
  serialNumbers := line.serialNumbers
  discount := line.discount
  note := line.note
  manualPrice := line.manualUnitPrice
  overrideReason := line.priceOverrideReason

def HashedProduct.add (h : HashedProduct) (line : QuoteCartLineDto) : HashedProduct :=
  { h with
    quantity := h.quantity + toQuantityUnits line.quantity
    serialNumbers := h.serialNumbers ++ line.serialNumbers }

/-- One turn of the loop of `saleFingerprint`. -/
def hashLine (hashed : List HashedProduct) (line : QuoteCartLineDto) :
    Except CartFailure (List HashedProduct) :=
  match hashed.find? fun h ↦ h.productId = line.productId with
  | none => pure (hashed ++ [.ofLine line])
  | some previous => do
    ensure (previous.lotId = line.lotId) .mixedProductLots
    ensure (previous.discount = line.discount) .mixedProductDiscounts
    ensure (previous.note = line.note ∧ previous.manualPrice = line.manualUnitPrice ∧
      previous.overrideReason = line.priceOverrideReason) .mixedProductLineControls
    pure (hashed.map fun h ↦ if h.productId = line.productId then h.add line else h)

/-- `{ ...discount, reason: discount.reason.trim() }`. -/
def SaleDiscountDto.trimmed (discount : SaleDiscountDto) : SaleDiscountDto :=
  { discount with reason := trim discount.reason }

def normalizedSerials (toUpperCase : Text → Text) (serialNumbers : List Text) : List Text :=
  orderBy (fun a b : Text ↦ a ≤ b) (serialNumbers.map fun s ↦ toUpperCase (trim s))

/-- An element of `canonical.lines`. -/
def HashedProduct.canonical (toUpperCase : Text → Text) (h : HashedProduct) : HashedProduct :=
  { h with
    serialNumbers := normalizedSerials toUpperCase h.serialNumbers
    discount := h.discount.map SaleDiscountDto.trimmed }

/-- An element of `canonical.payments`. -/
structure HashedPayment where
  method : PaymentMethod
  (amount amountReceived : Option ℤ)
  reference : Option Text
  terminalOperationId : Option Uuid
  deriving DecidableEq

def SalePaymentDto.hashed (payment : SalePaymentDto) : HashedPayment where
  method := payment.method
  amount := payment.amount.map toMoneyCents
  amountReceived := payment.amountReceived.map toMoneyCents
  reference := payment.reference
  terminalOperationId := payment.terminalOperationId

/-- **The fingerprint of a sale**: the object that is hashed. -/
structure SaleFingerprint where
  lines : List HashedProduct
  payments : List HashedPayment
  credit : Option ℕ
  customerId : Option Uuid
  loyaltyPointsToRedeem : ℕ
  (reservationId suspendedSaleId : Option Uuid)
  discount : Option SaleDiscountDto
  deriving DecidableEq

/-- `dto.payments ?? (dto.payment ? [dto.payment] : [])`. -/
def CreateSaleDto.paymentList (dto : CreateSaleDto) : List SalePaymentDto :=
  dto.payments.getD dto.payment.toList

def saleFingerprint (toUpperCase : Text → Text) (dto : CreateSaleDto) :
    Except CartFailure SaleFingerprint := do
  let hashed ← dto.lines.foldlM hashLine []
  pure {
    lines := (orderBy (fun a b : HashedProduct ↦ a.productId ≤ b.productId) hashed).map
      (HashedProduct.canonical toUpperCase)
    payments := dto.paymentList.map SalePaymentDto.hashed
    credit := dto.credit
    customerId := dto.customerId
    loyaltyPointsToRedeem := dto.loyaltyPointsToRedeem.getD 0
    reservationId := dto.reservationId
    suspendedSaleId := dto.suspendedSaleId
    discount := dto.discount.map SaleDiscountDto.trimmed }

/-! ### Payments -/

/-- A payment as `persistSale` gets it. -/
structure PreparedPayment where
  method : PaymentMethod
  (amountReceived amountApplied change : ℤ)
  reference : Option Text
  terminalOperationId : Option Uuid
  deriving DecidableEq

def present (text : Option Text) : Bool :=
  text.any fun t ↦ decide (t ≠ [])

def assertPaymentFields (payment : SalePaymentDto) : Except CartFailure Unit :=
  ensure (¬(payment.method = .CASH ∧ present payment.reference = true) ∧
    ¬(payment.method ≠ .CASH ∧ payment.amountReceived ≠ none) ∧
    ¬(payment.terminalOperationId ≠ none ∧
      (payment.method ≠ .CARD ∨ present payment.reference = true))) .paymentFieldsInvalid

/-- The turn of `preparePayments` for one payment; `single` says that it is the only one. -/
def preparePayment (env : Env) (totalCents : ℤ) (single : Bool) (payment : SalePaymentDto) :
    Except CartFailure PreparedPayment := do
  let amountCents ← demand
    ((payment.amount.map toMoneyCents).or (if single then some totalCents else none))
    .paymentAmountInvalid
  ensure (0 < amountCents) .paymentAmountInvalid
  assertPaymentFields payment
  ensure (payment.method = .CASH → payment.amountReceived ≠ none) .cashReceivedRequired
  ensure (payment.method ≠ .CASH ∧ payment.terminalOperationId = none →
    present payment.reference = true) .paymentReferenceRequired
  let receivedCents :=
    if payment.method = .CASH then (payment.amountReceived.map toMoneyCents).getD 0
    else amountCents
  ensure (amountCents ≤ receivedCents) .insufficientCashReceived
  if payment.terminalOperationId = none then
    (authorize env payment.method payment.reference).mapError .store
  pure {
    method := payment.method
    amountReceived := receivedCents
    amountApplied := amountCents
    change := receivedCents - amountCents
    reference := if payment.method = .CASH then none else payment.reference
    terminalOperationId := payment.terminalOperationId }

def preparePayments (env : Env) (dto : CreateSaleDto) (totalCents : ℤ) :
    Except CartFailure (List PreparedPayment) :=
  match dto.credit with
  | some _ => do
    ensure (dto.payment = none ∧ dto.payments = none) .paymentConfigurationInvalid
    pure []
  | none => do
    ensure ((dto.payment ≠ none ∨ dto.payments ≠ none) ∧
      ¬(dto.payment ≠ none ∧ dto.payments ≠ none)) .paymentConfigurationInvalid
    let source := dto.paymentList
    let payments ← source.mapM (preparePayment env totalCents (decide (source.length = 1)))
    ensure ((payments.map PreparedPayment.amountApplied).sum = totalCents) .paymentTotalMismatch
    pure payments

/-! ### The sale -/

structure SoldProduct where
  productId : Uuid
  stockBehavior : StockBehavior
  taxBehavior : TaxBehavior
  quantity : ℤ
  note : Option Text
  lotId : Option Uuid
  expiredLotOverrideReason : Option Text
  serialNumbers : List Text
  kit : Option KitQuote
  unitPrice : ℤ
  priceSource : PriceSource
  priceOverrideReason : Option Text
  priceListId : Option Uuid
  grossTotal : ℤ
  lineDiscount : Option AppliedDiscount
  lineDiscountTotal : ℤ
  deriving DecidableEq

def PreparedLine.sold (toUpperCase : Text → Text) (line : PreparedLine) : SoldProduct where
  productId := line.productId
  stockBehavior := line.stockBehavior
  taxBehavior := line.taxBehavior
  quantity := line.quantity
  note := line.note
  lotId := line.lotId
  expiredLotOverrideReason := line.expiredLotOverrideReason
  serialNumbers := normalizedSerials toUpperCase line.serialNumbers
  kit := line.kit
  unitPrice := line.unitPrice
  priceSource := line.priceSource
  priceOverrideReason := line.priceOverrideReason
  priceListId := line.priceListId
  grossTotal := line.grossCents
  lineDiscount := appliedDiscount line.requestedDiscount line.lineDiscountCents
  lineDiscountTotal := line.lineDiscountCents

/-- A row of `sale_lines`, with its promotions and components. -/
structure SoldLine where
  product : SoldProduct
  promotions : List AppliedPromotion
  saleDiscount : Option AppliedDiscount
  (discountTotal subtotal tax total : ℤ)
  deriving DecidableEq

def QuoteLine.sold (toUpperCase : Text → Text) (line : QuoteLine) : SoldLine where
  product := line.prepared.sold toUpperCase
  promotions := line.promotions
  saleDiscount := line.discount.sale
  discountTotal := line.discount.total
  subtotal := line.subtotal
  tax := line.tax
  total := line.total

/-- **What a request persists.** -/
structure SaleContent where
  place : Workplace
  cashRegisterShiftId : Uuid
  (customerId reservationId suspendedSaleId quotationId : Option Uuid)
  businessDate : Day
  currency : Currency
  taxRate : ℕ
  discount : Option AppliedDiscount
  loyalty : Option LoyaltyQuote
  lines : List SoldLine
  totals : QuoteTotals
  payments : List PreparedPayment
  credit : Option ℕ
  deriving DecidableEq

/-- What `createSale` checks before it looks at the key. -/
def assertCredit (r : SaleRequest) : Except CartFailure Unit := do
  ensure (r.dto.credit ≠ none → r.permissions.canCredit = true) .customerCreditPermissionRequired
  ensure (r.dto.credit ≠ none → r.dto.customerId ≠ none) .customerRequiredForCredit

def prepareSale (toUpperCase : Text → Text) (shop : Shop) (r : SaleRequest) :
    Except CartFailure SaleContent := do
  let quote ← quoteCart shop r.place r.permissions r.dto.cart
  let shift ← demand
    (shop.store.currentShift r.place.branchId r.place.cashRegisterId r.place.userId)
    (.store .cashRegisterShiftRequired)
  let payments ← preparePayments shop.store.env r.dto quote.payable
  pure {
    place := r.place, cashRegisterShiftId := shift.id, customerId := r.dto.customerId,
    reservationId := r.dto.reservationId, suspendedSaleId := r.dto.suspendedSaleId,
    quotationId := r.sourceQuotationId, businessDate := quote.businessDate,
    currency := quote.currency, taxRate := quote.taxRate, discount := quote.discount,
    loyalty := quote.loyalty, lines := quote.lines.map (QuoteLine.sold toUpperCase),
    totals := quote.totals, payments := payments, credit := r.dto.credit }

structure RecordedSale where
  idempotencyKey : Text
  fingerprint : SaleFingerprint
  content : SaleContent

structure Desk where
  shop : Shop
  sales : List RecordedSale

/-- `findByIdempotency`. -/
def Desk.saleByKey (desk : Desk) (idempotencyKey : Text) : Option RecordedSale :=
  desk.sales.find? fun sale ↦ sale.idempotencyKey = idempotencyKey

structure Answer where
  desk : Desk
  sale : SaleContent
  replay : Bool

/-- The rest of `persistSale`: the shop after the sale. -/
abbrev Persist := Shop → SaleContent → Except CartFailure Shop

section Create

variable (toUpperCase : Text → Text) (commit : Persist)

def replaySale (desk : Desk) (fingerprint : SaleFingerprint) (sale : RecordedSale) :
    Except CartFailure Answer := do
  ensure (sale.fingerprint = fingerprint) (.store .posIdempotencyConflict)
  pure { desk := desk, sale := sale.content, replay := true }

def persistSale (desk : Desk) (idempotencyKey : Text) (fingerprint : SaleFingerprint)
    (content : SaleContent) : Except CartFailure Answer :=
  match desk.saleByKey idempotencyKey with
  | some sale => replaySale desk fingerprint sale
  | none => do
    let shop ← commit desk.shop content
    pure {
      desk := {
        shop := shop
        sales := desk.sales ++ [{
          idempotencyKey := idempotencyKey, fingerprint := fingerprint, content := content }] }
      sale := content
      replay := false }

def createSale (desk : Desk) (r : SaleRequest) : Except CartFailure Answer := do
  assertCredit r
  let fingerprint ← saleFingerprint toUpperCase r.dto
  match desk.saleByKey r.idempotencyKey with
  | some sale => replaySale desk fingerprint sale
  | none => do
    let content ← prepareSale toUpperCase desk.shop r
    persistSale commit desk r.idempotencyKey fingerprint content

end Create

end UInventario.Pos.Cart
