import UInventario.Inventory.LotTracking
import UInventario.Pos.CreditPayments
import UInventario.Pos.Pricing

/-!
# Quoting a cart

`quoteCart` turns a cart into the lines and totals of a sale: it adds up the lines of one product
(`addLine`), rounds the quantities, looks whether the stock is there, prices and discounts each line
(`prepareLine`), applies the promotions, spreads the discount of the sale over the lines
(`allocateDiscount`) and takes the tax out of what is left.

`Shop` is what the quote reads, the queries as functions of what they are asked. Amounts are in
cents, quantities in thousandths and rates in ten-thousandths.
-/

namespace UInventario.Pos.Cart

open Outcome

/-! ### The request -/

/-- A decimal of a request, as it is written: no sign, at most `k` digits after the point. -/
structure DecimalString (k : ℕ) where
  whole : ℕ
  fraction : List (Fin 10)
  length_le : fraction.length ≤ k
  deriving DecidableEq

/-- A decimal without a point. -/
def DecimalString.ofNat {k : ℕ} (n : ℕ) : DecimalString k := ⟨n, [], k.zero_le⟩

/-- `BigInt(whole) * 10n ** k + BigInt(fraction.padEnd(k, '0'))`. -/
def DecimalString.units {k : ℕ} (value : DecimalString k) : ℕ :=
  value.whole * 10 ^ k +
    value.fraction.foldl (fun (n : ℕ) d ↦ 10 * n + d.val) 0 * 10 ^ (k - value.fraction.length)

def toQuantityUnits (value : DecimalString 3) : ℤ :=
  value.units

def toMoneyCents (value : DecimalString 2) : ℤ :=
  value.units

/-- `DISCOUNT_TYPES`. -/
inductive DiscountType
  | PERCENT | AMOUNT
  deriving DecidableEq

structure SaleDiscountDto where
  type : DiscountType
  value : DecimalString 2
  reason : Text
  deriving DecidableEq

structure QuoteCartLineDto where
  productId : Uuid
  quantity : DecimalString 3
  note : Option Text := none
  manualUnitPrice : Option (DecimalString 2) := none
  priceOverrideReason : Option Text := none
  lotId : Option Uuid := none
  expiredLotOverrideReason : Option Text := none
  serialNumbers : List Text := []
  discount : Option SaleDiscountDto := none

structure QuoteCartDto where
  customerId : Option Uuid := none
  channel : Option PriceChannel := none
  reservationId : Option Uuid := none
  loyaltyPointsToRedeem : Option ℕ := none
  lines : List QuoteCartLineDto
  discount : Option SaleDiscountDto := none

structure Workplace where
  (branchId warehouseId cashRegisterId userId : Uuid)
  deriving DecidableEq

structure Permissions where
  canDiscount : Bool := false
  canOverridePrice : Bool := false
  canOverrideExpired : Bool := false
  canCredit : Bool := false

/-! ### What the quote reads -/

/-- `tax_behavior`. -/
inductive TaxBehavior
  | STANDARD | EXEMPT
  deriving DecidableEq

/-- A component of the kit of a `PosProductSnapshot`. -/
structure KitComponentSnapshot where
  productId : Uuid
  (quantity availableQuantity unitCost : ℤ)

structure KitSnapshot where
  stockMode : KitStockMode
  components : List KitComponentSnapshot

structure PosProductSnapshot where
  id : Uuid
  stockBehavior : StockBehavior
  taxBehavior : TaxBehavior
  price : ℕ
  (active trackSerials : Bool)
  quantityPolicy : QuantityPolicy
  availableQuantity : ℤ
  kit : Option KitSnapshot := none

/-- A lot of `getSelectedLotAvailability`. -/
structure SelectedLot where
  quantity : ℤ
  expiresOn : Option Day
  allowExpiredStockOverride : Bool

/-- What a cart takes from its branch: currency, tax rate and local day. -/
structure CartContext where
  currency : Currency
  taxRate : ℕ
  businessDate : Day

/-- **What the quote of a cart reads.** -/
structure Shop where
  store : Store
  clock : LoyaltyClock
  now : Timestamp
  priceLists : List PriceList
  promotions : List Promotion
  /-- `getContext`, for a branch, a warehouse and a cash register. -/
  getContext : Uuid → Uuid → Uuid → Option CartContext
  /-- `getProducts`, for a warehouse and a reservation: the product with an identifier. -/
  getProducts : Uuid → Option Uuid → Uuid → Option PosProductSnapshot
  /-- `getSelectedLotAvailability`, for a warehouse: the lot of a product. -/
  getSelectedLotAvailability : Uuid → Uuid → Uuid → Option SelectedLot

/-- A shop with an open shift, where every product is sold by the unit at one price. -/
def Shop.opened (customers : Table Customer) (price : ℕ) : Shop where
  store := { Store.fresh default customers with
    cash := { CashBook.empty with
      shifts := Table.ofRow {
        id := 1, branchId := 1, cashRegisterId := 1, openedByUserId := 1, openingAmount := 0
        currency := .MXN, openingIdempotencyKey := [1], requestFingerprint := ⟨1, 1, 1, 0, .MXN⟩
        closing := none } } }
  clock := ⟨0, 0, 0⟩
  now := 1
  priceLists := []
  promotions := []
  getContext := fun _ _ _ ↦ some { currency := .MXN, taxRate := 1600, businessDate := 1 }
  getProducts := fun _ _ id ↦ some {
    id := id, stockBehavior := .TRACKED, taxBehavior := .STANDARD, price := price, active := true
    trackSerials := false
    quantityPolicy := { precision := 0, rounding := .HALF_UP, minimumQuantity := 1000 }
    availableQuantity := 5000 }
  getSelectedLotAvailability := fun _ _ _ ↦ none

/-! ### Adding up the lines -/

/-- What the lines of one product ask for: `requested`, `requestedLots` and so on at its key. -/
structure RequestedProduct where
  productId : Uuid
  quantity : ℤ
  lotId : Option Uuid
  expiredReason : Option Text
  serialNumbers : List Text
  discount : Option SaleDiscountDto
  note : Option Text
  manualPrice : Option (DecimalString 2)
  overrideReason : Option Text

def RequestedProduct.ofLine (line : QuoteCartLineDto) : RequestedProduct where
  productId := line.productId
  quantity := toQuantityUnits line.quantity
  lotId := line.lotId
  expiredReason := line.expiredLotOverrideReason
  serialNumbers := line.serialNumbers
  discount := line.discount
  note := line.note
  manualPrice := line.manualUnitPrice
  overrideReason := line.priceOverrideReason

def RequestedProduct.add (r : RequestedProduct) (line : QuoteCartLineDto) : RequestedProduct :=
  { r with
    quantity := r.quantity + toQuantityUnits line.quantity
    serialNumbers := r.serialNumbers ++ line.serialNumbers }

def addLine (requested : List RequestedProduct) (line : QuoteCartLineDto) :
    Except CartFailure (List RequestedProduct) := do
  ensure (0 < toQuantityUnits line.quantity) .invalidCartQuantity
  match requested.find? fun r ↦ r.productId = line.productId with
  | none => pure (requested ++ [.ofLine line])
  | some previous => do
    ensure (previous.lotId = line.lotId) .mixedProductLots
    ensure (previous.expiredReason = line.expiredLotOverrideReason) .mixedExpiredLotReasons
    ensure (previous.discount = line.discount) .mixedProductDiscounts
    ensure (previous.note = line.note ∧ previous.manualPrice = line.manualUnitPrice ∧
      previous.overrideReason = line.priceOverrideReason) .mixedProductLineControls
    pure (requested.map fun r ↦ if r.productId = line.productId then r.add line else r)

/-! ### Stock -/

/-- A requested product with what is known of it and its rounded quantity. -/
structure NormalizedProduct where
  requested : RequestedProduct
  product : PosProductSnapshot
  quantity : ℤ

/-- `normalizedRequested`. -/
def normalizeRequested (find : Uuid → Option PosProductSnapshot) (r : RequestedProduct) :
    Except CartFailure NormalizedProduct := do
  let product ← demand (find r.productId) .productNotFound
  let quantity ← (normalizeProductQuantity r.quantity product.quantityPolicy).mapError .quantity
  pure { requested := r, product := product, quantity := quantity }

/-- An entry of `inventoryDemand`. -/
structure StockDemand where
  productId : Uuid
  (quantity available : ℤ)
  requestedProductId : Uuid

def addDemand (demands : List StockDemand) (d : StockDemand) : List StockDemand :=
  match demands.find? fun x ↦ x.productId = d.productId with
  | none => demands ++ [d]
  | some _ => demands.map fun x ↦
      if x.productId = d.productId then
        { x with quantity := x.quantity + d.quantity, available := d.available }
      else x

/-- What a component of a kit has to give for a quantity of the kit. -/
def KitComponentSnapshot.total (component : KitComponentSnapshot) (quantity : ℤ) : ℤ :=
  roundDivide (quantity * component.quantity) 1000

def RequestedProduct.plain (r : RequestedProduct) (reservationId : Option Uuid) : Prop :=
  reservationId = none ∧ r.lotId = none ∧ r.serialNumbers = []
deriving Decidable

/-- One turn of the loop that fills `inventoryDemand`. -/
def demandProduct (reservationId : Option Uuid) (demands : List StockDemand)
    (p : NormalizedProduct) : Except CartFailure (List StockDemand) :=
  if p.product.stockBehavior = .UNTRACKED then do
    ensure (p.requested.plain reservationId) .untrackedProductInventoryControlsNotSupported
    pure demands
  else
    match p.product.kit.filter fun kit ↦ kit.stockMode = .DERIVED with
    | some kit => do
      ensure (p.requested.plain reservationId) .derivedKitTrackingNotSupported
      pure (kit.components.foldl (fun demands component ↦ addDemand demands {
        productId := component.productId, quantity := component.total p.quantity,
        available := component.availableQuantity,
        requestedProductId := p.requested.productId }) demands)
    | none => pure (addDemand demands {
        productId := p.requested.productId, quantity := p.quantity,
        available := p.product.availableQuantity, requestedProductId := p.requested.productId })

def assertDemand (d : StockDemand) : Except CartFailure PUnit :=
  ensure (d.quantity ≤ d.available) (.posInsufficientStock d.requestedProductId)

/-! ### Discounts -/

def toPercentageBasisPoints (value : DecimalString 2) : Except CartFailure ℤ := do
  ensure (value.units ≤ 5000) .saleDiscountLimitExceeded
  pure value.units

def discountAmount (discount : Option SaleDiscountDto) (baseCents : ℤ) : Except CartFailure ℤ :=
  match discount with
  | none => pure 0
  | some discount => do
    ensure (3 ≤ (trim discount.reason).length) .saleDiscountReasonRequired
    let amount ← (match discount.type with
      | .PERCENT => do
        let basisPoints ← toPercentageBasisPoints discount.value
        pure (roundDivide (baseCents * basisPoints) 10000)
      | .AMOUNT => pure (toMoneyCents discount.value))
    ensure (0 < amount ∧ amount < baseCents ∧ amount * 2 ≤ baseCents) .saleDiscountLimitExceeded
    pure amount

/-- `PosAppliedDiscount`, its value in basis points or in cents. -/
structure AppliedDiscount where
  type : DiscountType
  value : ℤ
  reason : Text
  amount : ℤ
  deriving DecidableEq

def appliedDiscount (discount : Option SaleDiscountDto) (amountCents : ℤ) :
    Option AppliedDiscount :=
  discount.map fun d ↦
    { type := d.type, value := toMoneyCents d.value, reason := trim d.reason,
      amount := amountCents }

structure ShareRemainder where
  index : ℕ
  remainder : ℤ

def ShareRemainder.before (a b : ShareRemainder) : Prop :=
  b.remainder < a.remainder ∨ (a.remainder = b.remainder ∧ a.index ≤ b.index)
deriving Decidable

/-- Gives the cents that are left to the shares in the order of their remainders. -/
def handOut : ℤ → List ShareRemainder → List ℤ → List ℤ
  | _, [], allocations => allocations
  | remainder, entry :: order, allocations =>
    if remainder = 0 then allocations
    else handOut (remainder - 1) order (allocations.modify entry.index (· + 1))

def allocateDiscount (weights : List ℤ) (amount : ℤ) : Except CartFailure (List ℤ) :=
  if amount = 0 then pure (weights.map fun _ ↦ 0)
  else do
    let total := weights.sum
    ensure (total ≠ 0) .rangeError
    let allocations := weights.map fun weight ↦ (amount * weight).tdiv total
    let order := orderBy ShareRemainder.before (weights.zipIdx.map fun w ↦
      { index := w.2, remainder := (amount * w.1).tmod total })
    pure (handOut (amount - allocations.sum) order allocations)

/-! ### Lines -/

inductive PriceSource
  | BASE | PRICE_LIST | MANUAL
  deriving DecidableEq

/-- A component of `line.kit`. -/
structure KitComponentQuote where
  productId : Uuid
  (quantityPerKit totalQuantity unitCost : ℤ)
  deriving DecidableEq

/-- `line.kit`. -/
structure KitQuote where
  stockMode : KitStockMode
  components : List KitComponentQuote
  unitCost : ℤ
  deriving DecidableEq

/-- An element of `preparedLines`, before the promotions. -/
structure PreparedLine where
  productId : Uuid
  stockBehavior : StockBehavior
  taxBehavior : TaxBehavior
  quantity : ℤ
  note : Option Text
  lotId : Option Uuid
  expiredLotOverrideReason : Option Text
  serialNumbers : List Text
  availableQuantity : ℤ
  kit : Option KitQuote
  unitPrice : ℤ
  priceSource : PriceSource
  priceOverrideReason : Option Text
  priceListId : Option Uuid
  (grossCents lineDiscountCents : ℤ)
  requestedDiscount : Option SaleDiscountDto
  deriving DecidableEq

def kitQuote (kit : KitSnapshot) (quantity : ℤ) : KitQuote where
  stockMode := kit.stockMode
  components := kit.components.map fun c ↦
    { productId := c.productId, quantityPerKit := c.quantity, totalQuantity := c.total quantity,
      unitCost := c.unitCost }
  unitCost := (kit.components.map fun c ↦ roundDivide (c.unitCost * c.quantity) 1000).sum

/-- The lot of a line, and what is available of the product or of its lot. -/
def selectLot (lot : Uuid → Uuid → Option SelectedLot) (p : NormalizedProduct) :
    Except CartFailure (Option SelectedLot × ℤ) :=
  match p.requested.lotId with
  | none => pure (none, p.product.availableQuantity)
  | some lotId => do
    let selected ← demand (lot p.requested.productId lotId) .inventoryLotNotFound
    pure (some selected, selected.quantity)

def SelectedLot.expired (lot : SelectedLot) (businessDate : Day) : Bool :=
  lot.expiresOn.any fun day ↦ decide (day < businessDate)

/-- An expired lot is sold only when the product and the user may, with a reason, which is kept. -/
def expiredLotReason (lot : Option SelectedLot) (businessDate : Day) (canOverrideExpired : Bool)
    (reason : Option Text) : Except CartFailure (Option Text) :=
  match lot.filter fun lot ↦ lot.expired businessDate with
  | none => pure none
  | some lot => do
    ensure (lot.allowExpiredStockOverride = true) .expiredInventoryLot
    ensure (canOverrideExpired = true) .expiredInventoryLotPermissionRequired
    ensure (reason.any fun r ↦ decide (r ≠ [])) .expiredInventoryLotReasonRequired
    pure reason

structure LinePrice where
  unitPrice : ℤ
  priceSource : PriceSource
  priceOverrideReason : Option Text
  priceListId : Option Uuid

def referencePrice (product : PosProductSnapshot) (resolved : Option ResolvedPrice) : LinePrice :=
  match resolved with
  | none => { unitPrice := product.price, priceSource := .BASE, priceOverrideReason := none,
              priceListId := none }
  | some r => { unitPrice := r.price, priceSource := .PRICE_LIST, priceOverrideReason := none,
                priceListId := some r.priceListId }

/-- The price set by hand has to have a reason and to lie between half and twice the other one. -/
def linePrice (p : NormalizedProduct) (resolved : Option ResolvedPrice) :
    Except CartFailure LinePrice :=
  let reference := referencePrice p.product resolved
  match p.requested.manualPrice with
  | none => pure reference
  | some manualPrice => do
    ensure (p.requested.overrideReason.any fun r ↦ decide (r ≠ []))
      .salePriceOverrideReasonRequired
    ensure (reference.unitPrice ≤ toMoneyCents manualPrice * 2 ∧
      toMoneyCents manualPrice ≤ reference.unitPrice * 2) .salePriceOverrideLimitExceeded
    pure { unitPrice := toMoneyCents manualPrice, priceSource := .MANUAL,
           priceOverrideReason := p.requested.overrideReason, priceListId := none }

/-- An element of `preparedLines`. -/
def prepareLine (lot : Uuid → Uuid → Option SelectedLot) (businessDate : Day)
    (canOverrideExpired : Bool) (resolve : Uuid → Option ResolvedPrice) (p : NormalizedProduct) :
    Except CartFailure PreparedLine := do
  ensure (p.product.active = true) (.posProductNotAvailable p.requested.productId)
  ensure (p.product.trackSerials = true →
    (p.requested.serialNumbers.length : ℤ) * 1000 = p.quantity) .inventorySerialsRequired
  let (selectedLot, availableQuantity) ← selectLot lot p
  let expiredReason ← expiredLotReason selectedLot businessDate canOverrideExpired
    p.requested.expiredReason
  ensure (p.product.stockBehavior ≠ .UNTRACKED → p.quantity ≤ availableQuantity)
    (.posInsufficientStock p.requested.productId)
  let price ← linePrice p (resolve p.requested.productId)
  let grossCents := roundDivide (price.unitPrice * p.quantity) 1000
  let lineDiscountCents ← discountAmount p.requested.discount grossCents
  pure {
    productId := p.requested.productId
    stockBehavior := p.product.stockBehavior
    taxBehavior := p.product.taxBehavior
    quantity := p.quantity
    note := p.requested.note
    lotId := p.requested.lotId
    expiredLotOverrideReason := expiredReason
    serialNumbers := p.requested.serialNumbers
    availableQuantity := availableQuantity
    kit := p.product.kit.map fun kit ↦ kitQuote kit p.quantity
    unitPrice := price.unitPrice
    priceSource := price.priceSource
    priceOverrideReason := price.priceOverrideReason
    priceListId := price.priceListId
    grossCents := grossCents
    lineDiscountCents := lineDiscountCents
    requestedDiscount := p.requested.discount }

def PreparedLine.promotionLine (line : PreparedLine) : PromotionLine where
  productId := line.productId
  quantity := line.quantity
  unitPrice := line.unitPrice

structure PromotedLine where
  line : PreparedLine
  promotions : List AppliedPromotion
  deriving DecidableEq

namespace PromotedLine

def promotionDiscountCents (p : PromotedLine) : ℤ :=
  (p.promotions.map AppliedPromotion.amount).sum

def weight (p : PromotedLine) : ℤ :=
  p.line.grossCents - p.line.lineDiscountCents - p.promotionDiscountCents

end PromotedLine

def promoteLine (promotions : Uuid → List AppliedPromotion) (line : PreparedLine) :
    Except CartFailure PromotedLine := do
  let promoted : PromotedLine := { line := line, promotions := promotions line.productId }
  ensure (line.lineDiscountCents + promoted.promotionDiscountCents < line.grossCents)
    .saleDiscountLimitExceeded
  pure promoted

/-! ### The quote -/

/-- `line.discount`. -/
structure LineDiscount where
  (line sale : Option AppliedDiscount)
  total : ℤ
  deriving DecidableEq

/-- A line of the quote: the prepared line with its discounts and its amounts. -/
structure QuoteLine where
  prepared : PreparedLine
  promotions : List AppliedPromotion
  discount : LineDiscount
  (subtotal tax total : ℤ)
  deriving DecidableEq

structure QuoteTotals where
  (gross lineDiscount promotionDiscount saleDiscount discount subtotal tax total : ℤ)
  deriving DecidableEq

/-- `PosCartQuoteResponse['data']`. -/
structure Quote where
  (branchId warehouseId cashRegisterId : Uuid)
  businessDate : Day
  currency : Currency
  taxRate : ℕ
  discount : Option AppliedDiscount
  loyalty : Option LoyaltyQuote
  lines : List QuoteLine
  totals : QuoteTotals
  deriving DecidableEq

/-- `quote.totals.payable ?? quote.totals.total`. -/
def Quote.payable (quote : Quote) : ℤ :=
  match quote.loyalty with
  | some loyalty => quote.totals.total - loyalty.redemptionValue
  | none => quote.totals.total

def lineTax (taxBasisPoints : ℕ) (taxBehavior : TaxBehavior) (lineTotal : ℤ) : ℤ :=
  if taxBasisPoints = 0 ∨ taxBehavior = .EXEMPT then 0
  else roundDivide (lineTotal * taxBasisPoints) (10000 + taxBasisPoints)

def quoteLine (taxBasisPoints : ℕ) (discount : Option SaleDiscountDto)
    (line : PromotedLine × ℤ) : QuoteLine :=
  let totalDiscount := line.1.line.lineDiscountCents + line.1.promotionDiscountCents + line.2
  let lineTotal := line.1.line.grossCents - totalDiscount
  let tax := lineTax taxBasisPoints line.1.line.taxBehavior lineTotal
  { prepared := line.1.line
    promotions := line.1.promotions
    discount := {
      line := appliedDiscount line.1.line.requestedDiscount line.1.line.lineDiscountCents,
      sale := appliedDiscount discount line.2, total := totalDiscount }
    subtotal := lineTotal - tax
    tax := tax
    total := lineTotal }

/-- `LoyaltyRepository.preview`, as far as it answers. -/
def previewLoyalty (s : Store) (clock : LoyaltyClock) (customerId : Uuid) (saleTotal : ℤ)
    (pointsToRedeem : ℕ) : Except Failure (Option LoyaltyQuote) := do
  assertLoyaltyCustomer s customerId
  let loyalty ← s.loyalty.materializeExpirations s.env clock customerId
  match loyalty.currentRule.filter LoyaltyRule.active with
  | none => do
    ensure (¬0 < pointsToRedeem) .loyaltyNotActive
    pure none
  | some rule => do
    let quote ← quoteLoyalty rule (loyalty.balance customerId) saleTotal.toNat pointsToRedeem
    pure (some quote)

def cartLoyalty (shop : Shop) (dto : QuoteCartDto) (totalCents : ℤ) :
    Except CartFailure (Option LoyaltyQuote) := do
  let points := dto.loyaltyPointsToRedeem.getD 0
  ensure (points ≠ 0 → dto.customerId ≠ none) .loyaltyCustomerRequired
  match dto.customerId with
  | none => pure none
  | some customerId =>
    (previewLoyalty shop.store shop.clock customerId totalCents points).mapError .store

def quoteLines (shop : Shop) (place : Workplace) (context : CartContext) (dto : QuoteCartDto)
    (promotions : Uuid → List AppliedPromotion) (preparedLines : List PreparedLine) :
    Except CartFailure Quote := do
  let promoted ← preparedLines.mapM (promoteLine promotions)
  let gross := (promoted.map fun p ↦ p.line.grossCents).sum
  let lineDiscount := (promoted.map fun p ↦ p.line.lineDiscountCents).sum
  let promotionDiscount := (promoted.map PromotedLine.promotionDiscountCents).sum
  let saleDiscount ← discountAmount dto.discount (gross - lineDiscount - promotionDiscount)
  let discount := lineDiscount + promotionDiscount + saleDiscount
  ensure (discount * 2 ≤ gross) .saleDiscountLimitExceeded
  let allocations ← allocateDiscount (promoted.map PromotedLine.weight) saleDiscount
  let lines := (promoted.zip allocations).map (quoteLine context.taxRate dto.discount)
  let total := (lines.map QuoteLine.total).sum
  let loyalty ← cartLoyalty shop dto total
  pure {
    branchId := place.branchId
    warehouseId := place.warehouseId
    cashRegisterId := place.cashRegisterId
    businessDate := context.businessDate
    currency := context.currency
    taxRate := context.taxRate
    discount := appliedDiscount dto.discount saleDiscount
    loyalty := loyalty
    lines := lines
    totals := {
      gross := gross, lineDiscount := lineDiscount, promotionDiscount := promotionDiscount,
      saleDiscount := saleDiscount, discount := discount,
      subtotal := (lines.map QuoteLine.subtotal).sum, tax := (lines.map QuoteLine.tax).sum,
      total := total } }

/-- `customerId`, `channel ?? 'POS'` and the branch. -/
def QuoteCartDto.priceContext (dto : QuoteCartDto) (branchId : Uuid) : PriceContext where
  branchId := branchId
  customerId := dto.customerId
  channel := dto.channel.getD .POS

/-- `preparedLines`: the products of a cart, priced. -/
def prepareLines (shop : Shop) (place : Workplace) (permissions : Permissions)
    (context : CartContext) (dto : QuoteCartDto) : Except CartFailure (List PreparedLine) := do
  ensure (dto.discount ≠ none ∨ (∃ line ∈ dto.lines, line.discount ≠ none) →
    permissions.canDiscount = true) .saleDiscountPermissionRequired
  let requested ← dto.lines.foldlM addLine []
  ensure ((∃ r ∈ requested, r.manualPrice ≠ none) → permissions.canOverridePrice = true)
    .salePriceOverridePermissionRequired
  ensure (dto.reservationId ≠ none → ∀ r ∈ requested, r.lotId = none)
    .reservationLotSelectionNotSupported
  let find := shop.getProducts place.warehouseId dto.reservationId
  ensure (dto.reservationId ≠ none → ∀ r ∈ requested, (find r.productId).isSome = true)
    .posReservationNotAvailable
  let normalized ← requested.mapM (normalizeRequested find)
  let demands ← normalized.foldlM (demandProduct dto.reservationId) []
  demands.forM assertDemand
  normalized.mapM (prepareLine (shop.getSelectedLotAvailability place.warehouseId)
    context.businessDate permissions.canOverrideExpired
    (resolvePrice shop.priceLists (dto.priceContext place.branchId) context.currency shop.now))

def quoteCart (shop : Shop) (place : Workplace) (permissions : Permissions) (dto : QuoteCartDto) :
    Except CartFailure Quote := do
  let _shift ← demand (shop.store.currentShift place.branchId place.cashRegisterId place.userId)
    (.store .cashRegisterShiftRequired)
  let context ← demand (shop.getContext place.branchId place.warehouseId place.cashRegisterId)
    .posContextNotFound
  let preparedLines ← prepareLines shop place permissions context dto
  let promotions ← PromotionEngine.resolve shop.promotions (dto.priceContext place.branchId)
    shop.now (preparedLines.map PreparedLine.promotionLine)
  quoteLines shop place context dto promotions preparedLines

end UInventario.Pos.Cart
