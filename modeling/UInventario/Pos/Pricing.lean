import UInventario.Pos.Store
import UInventario.Inventory.QuantityPolicy

/-!
# Price lists and promotions

A cart is priced by the price lists and the promotions. A rule of either kind has a scope, a
priority and a period, and the rules that apply are ranked the same way (`PricingRule.before`).

`resolvePrice` takes the price of a product from the first list that has one. `PromotionEngine`
goes through the promotions in their order and gives each product the ones that still may be added.

Amounts are in cents, quantities in thousandths and percentages in ten-thousandths of a percent.
-/

namespace UInventario.Pos

open Outcome

/-! ### Failures -/

/-- What the pricing and the quoting of a cart throw. `store` and `quantity` are errors of the parts
they call. -/
inductive CartFailure
  | typeError | rangeError
  | store (e : Failure)
  | quantity (e : UInventario.Failure)
  -- `pos.service.ts`
  | saleDiscountPermissionRequired | invalidCartQuantity | mixedProductLots
  | mixedExpiredLotReasons | mixedProductDiscounts | mixedProductLineControls
  | salePriceOverridePermissionRequired | reservationLotSelectionNotSupported | productNotFound
  | untrackedProductInventoryControlsNotSupported | derivedKitTrackingNotSupported
  | inventorySerialsRequired | expiredInventoryLot | expiredInventoryLotPermissionRequired
  | expiredInventoryLotReasonRequired | salePriceOverrideReasonRequired
  | salePriceOverrideLimitExceeded | saleDiscountReasonRequired | saleDiscountLimitExceeded
  | loyaltyCustomerRequired | customerCreditPermissionRequired | customerRequiredForCredit
  | paymentConfigurationInvalid | paymentAmountInvalid | paymentFieldsInvalid | cashReceivedRequired
  | paymentReferenceRequired | insufficientCashReceived | paymentTotalMismatch
  -- `pos.errors.ts`, `inventory-lot-tracking.ts`
  | posContextNotFound | posProductNotAvailable (productId : Uuid)
  | posInsufficientStock (productId : Uuid) | posReservationNotAvailable | inventoryLotNotFound
  deriving DecidableEq

/-! ### Rules -/

/-- `PRICE_CHANNELS`. -/
inductive PriceChannel
  | POS | WEB | MOBILE | DESKTOP
  deriving DecidableEq

/-- `branch_id`, `customer_id` and `channel` of a rule; null stands for all of them. -/
structure PriceScope where
  branchId : Option Uuid := none
  customerId : Option Uuid := none
  channel : Option PriceChannel := none
  deriving DecidableEq

structure PriceContext where
  branchId : Uuid
  customerId : Option Uuid
  channel : PriceChannel

/-- `(branch_id IS NULL OR branch_id = ?) AND …`. -/
def PriceScope.covers (scope : PriceScope) (context : PriceContext) : Bool :=
  decide ((∀ id ∈ scope.branchId, id = context.branchId) ∧
    (∀ id ∈ scope.customerId, some id = context.customerId) ∧
    ∀ channel ∈ scope.channel, channel = context.channel)

/-- `(branch_id IS NOT NULL) + (customer_id IS NOT NULL) + (channel IS NOT NULL)`. -/
def PriceScope.specificity (scope : PriceScope) : ℕ :=
  scope.branchId.toList.length + scope.customerId.toList.length + scope.channel.toList.length

structure PricingRule where
  id : Uuid
  scope : PriceScope
  priority : ℤ
  validFrom : Timestamp
  validTo : Option Timestamp := none
  active : Bool := true
  deriving DecidableEq

namespace PricingRule

def appliesTo (rule : PricingRule) (context : PriceContext) (now : Timestamp) : Bool :=
  rule.active && decide (rule.validFrom ≤ now ∧ ∀ validTo ∈ rule.validTo, now < validTo) &&
    rule.scope.covers context

/-- `ORDER BY priority DESC, … DESC, valid_from DESC, id ASC`. -/
def before (a b : PricingRule) : Prop :=
  b.priority < a.priority ∨ (a.priority = b.priority ∧
    (b.scope.specificity < a.scope.specificity ∨ (a.scope.specificity = b.scope.specificity ∧
      (b.validFrom < a.validFrom ∨ (a.validFrom = b.validFrom ∧ a.id ≤ b.id)))))
deriving Decidable

end PricingRule

/-! ### Price lists -/

structure PriceListItem where
  productId : Uuid
  price : ℕ

/-- A row of `price_lists` with its items. -/
structure PriceList extends PricingRule where
  currency : Currency
  items : List PriceListItem

structure ResolvedPrice where
  price : ℕ
  priceListId : Uuid

/-- `PriceListRepository.resolve`, for one product. -/
def resolvePrice (lists : List PriceList) (context : PriceContext) (currency : Currency)
    (now : Timestamp) (productId : Uuid) : Option ResolvedPrice :=
  (orderBy (fun a b : PriceList ↦ a.toPricingRule.before b.toPricingRule) (lists.filter fun l ↦
    l.currency = currency ∧ l.appliesTo context now = true)).findSome? fun l ↦
      (l.items.find? fun item ↦ item.productId = productId).map fun item ↦
        { price := item.price, priceListId := l.id }

/-! ### Promotions -/

/-- `PROMOTION_TYPES`. -/
inductive PromotionType
  | BUY_X_GET_Y | SECOND_UNIT_PERCENT | BUNDLE_FIXED | QUANTITY_PERCENT
  deriving DecidableEq

structure PromotionProduct where
  productId : Uuid
  quantity : ℕ
  deriving DecidableEq

structure PromotionTier where
  (minimumQuantity discountPercent : ℕ)
  deriving DecidableEq

/-- `PromotionData`. -/
structure Promotion extends PricingRule where
  type : PromotionType
  stackable : Bool
  discountPercent : Option ℕ := none
  fixedPrice : Option ℕ := none
  buyQuantity : Option ℕ := none
  rewardQuantity : Option ℕ := none
  products : List PromotionProduct
  tiers : List PromotionTier := []
  deriving DecidableEq

structure PromotionLine where
  productId : Uuid
  (quantity unitPrice : ℤ)
  deriving DecidableEq

/-- `AppliedPromotion`: its name, explanation and snapshot are those of the rule. -/
structure AppliedPromotion where
  promotionId : Uuid
  type : PromotionType
  (priority amount : ℤ)
  deriving DecidableEq

def roundDivide (numerator denominator : ℤ) : ℤ :=
  (numerator + denominator.tdiv 2).tdiv denominator

namespace PromotionEngine

structure Allocation where
  productId : Uuid
  amount : ℤ
  deriving DecidableEq

/-- The discount of `percent` on a quantity of a line. -/
def percentAllocation (line : PromotionLine) (eligibleQuantity : ℤ) (percent : ℕ) :
    List Allocation :=
  let amount := roundDivide (line.unitPrice * eligibleQuantity * percent) (1000 * 1000000)
  if 0 < amount then [{ productId := line.productId, amount := amount }] else []

/-- A division of `BigInt`s. -/
def divide (numerator denominator : ℤ) : Except CartFailure ℤ := do
  ensure (denominator ≠ 0) .rangeError
  pure (numerator.tdiv denominator)

def buyGetAllocation (rule : Promotion) (line : PromotionLine) :
    Except CartFailure (List Allocation) := do
  let buy ← demand rule.buyQuantity .typeError
  let reward ← demand rule.rewardQuantity .typeError
  let cycles ← divide line.quantity (buy + reward)
  if cycles = 0 then pure []
  else do
    let percent ← demand rule.discountPercent .typeError
    pure (percentAllocation line (cycles * reward) percent)

def secondUnitAllocation (rule : Promotion) (line : PromotionLine) :
    Except CartFailure (List Allocation) := do
  let product ← demand rule.products.head? .typeError
  let cycles ← divide line.quantity (product.quantity * 2)
  if cycles = 0 then pure []
  else do
    let percent ← demand rule.discountPercent .typeError
    pure (percentAllocation line (cycles * product.quantity) percent)

def singleAllocation (rule : Promotion) (line : PromotionLine) :
    Except CartFailure (List Allocation) :=
  match rule.type with
  | .BUY_X_GET_Y => buyGetAllocation rule line
  | .SECOND_UNIT_PERCENT => secondUnitAllocation rule line
  | .QUANTITY_PERCENT =>
    match rule.tiers.reverse.find? fun tier ↦
      decide ((tier.minimumQuantity : ℤ) ≤ line.quantity) with
    | none => pure []
    | some tier => pure (percentAllocation line line.quantity tier.discountPercent)
  | .BUNDLE_FIXED => pure []

/-- `lines.get(productId)!`. -/
def getLine (lines : List PromotionLine) (productId : Uuid) : Except CartFailure PromotionLine :=
  demand (lines.find? fun line ↦ line.productId = productId) .typeError

def bundles (rule : Promotion) (lines : List PromotionLine) : Except CartFailure (Option ℤ) :=
  rule.products.foldlM (fun current item ↦ do
    let line ← getLine lines item.productId
    let supported ← divide line.quantity item.quantity
    pure (match current with
      | none => some supported
      | some current => some (if supported < current then supported else current))) none

/-- What each product of the bundle contributes to its regular price. -/
def contribution (lines : List PromotionLine) (bundles : ℤ) (item : PromotionProduct) :
    Except CartFailure Allocation := do
  let line ← getLine lines item.productId
  pure {
    productId := item.productId
    amount := roundDivide (line.unitPrice * item.quantity * bundles) 1000 }

def bundleShares (discount regular : ℤ) : ℤ → List Allocation → List Allocation
  | _, [] => []
  | assigned, [item] => [{ item with amount := discount - assigned }]
  | assigned, item :: item' :: items =>
    let amount := roundDivide (discount * item.amount) regular
    { item with amount := amount } :: bundleShares discount regular (assigned + amount)
      (item' :: items)

def bundleAllocations (rule : Promotion) (lines : List PromotionLine) :
    Except CartFailure (List Allocation) := do
  match ← bundles rule lines with
  | none => pure []
  | some bundles =>
    if bundles = 0 then pure []
    else do
      let contributions ← rule.products.mapM (contribution lines bundles)
      let regular := (contributions.map Allocation.amount).sum
      let fixedPrice ← demand rule.fixedPrice .typeError
      let discount := regular - fixedPrice * bundles
      if discount ≤ 0 then pure []
      else pure (bundleShares discount regular 0 contributions)

/-- What has been applied so far, and to which products nothing may be added. -/
structure State where
  applied : List (Uuid × AppliedPromotion) := []
  exclusive : List Uuid := []
  used : List Uuid := []

def allocations (rule : Promotion) (lines : List PromotionLine) :
    Except CartFailure (List Allocation) :=
  if rule.type = .BUNDLE_FIXED then bundleAllocations rule lines
  else do
    let product ← demand rule.products.head? .typeError
    let line ← getLine lines product.productId
    singleAllocation rule line

/-- The rule has to be left out: a product is not in the cart, or it may have no further rule. -/
def State.skips (st : State) (lines : List PromotionLine) (rule : Promotion) : Bool :=
  let productIds := rule.products.map PromotionProduct.productId
  (productIds.any fun id ↦ !lines.any fun line ↦ decide (line.productId = id)) ||
    (productIds.any fun id ↦ decide (id ∈ st.exclusive)) ||
    (!rule.stackable && productIds.any fun id ↦ decide (id ∈ st.used))

def applyRule (lines : List PromotionLine) (st : State) (rule : Promotion) :
    Except CartFailure State :=
  if st.skips lines rule then pure st
  else do
    let allocations ← allocations rule lines
    if allocations = [] then pure st
    else
      let productIds := rule.products.map PromotionProduct.productId
      pure {
        applied := st.applied ++ allocations.map fun a ↦ (a.productId, {
          promotionId := rule.id, type := rule.type, priority := rule.priority,
          amount := a.amount })
        exclusive := if rule.stackable then st.exclusive else st.exclusive ++ productIds
        used := st.used ++ productIds }

/-- `PromotionRepository.applicable`. -/
def applicable (promotions : List Promotion) (context : PriceContext) (now : Timestamp)
    (productIds : List Uuid) : List Promotion :=
  orderBy (fun a b : Promotion ↦ a.toPricingRule.before b.toPricingRule) (promotions.filter fun p ↦
    p.appliesTo context now && p.products.any fun item ↦ decide (item.productId ∈ productIds))

/-- `PromotionEngineService.resolve`: the promotions of each product. -/
def resolve (promotions : List Promotion) (context : PriceContext) (now : Timestamp)
    (lines : List PromotionLine) : Except CartFailure (Uuid → List AppliedPromotion) := do
  let rules := applicable promotions context now (lines.map PromotionLine.productId)
  let st ← rules.foldlM (applyRule lines) {}
  pure fun productId ↦ (st.applied.filter fun a ↦ a.1 = productId).map Prod.snd

end PromotionEngine

end UInventario.Pos
