import UInventario.Pos.QuoteArithmetic

/-!
# Carts that promotions make too cheap

A cart that asks for no discount can be refused for its discounts: promotions are discounts too. No
line may be taken off as a whole, and the discounts may not be more than half of the sale; but
`validate` looks at each promotion by itself.

* `plain_cart_refused`: when such a cart is refused, what its promotions take off a line reaches the
  line, or together is more than half of the sale.
* `stacked_refused`: two promotions of thirty per cent that stack.
-/

namespace UInventario.Pos

open Outcome List

/-! ### Saving a promotion -/

/-- What `PromotionRepository.validate` throws. -/
inductive PromotionFailure
  | promotionInvalidValidity | promotionInvalidProducts | promotionInvalidRule
  | promotionMarginLimit | promotionProductNotAvailable | promotionBranchNotAvailable
  | promotionCustomerNotAvailable

/-- What `validate` looks up. -/
structure PromotionDirectory where
  /-- The active products without variants. -/
  products : List Uuid
  /-- The active branches. -/
  branches : List Uuid
  /-- The active customers. -/
  customers : List Uuid

/-- **`SavePromotionDto`**: the decimals match their patterns, and products and tiers are there
once. -/
structure Promotion.Written (dto : Promotion) : Prop where
  discountPercent : ∀ percent ∈ dto.discountPercent, 0 < percent ∧ percent ≤ 1000000
  fixedPrice : ∀ price ∈ dto.fixedPrice, 0 < price
  buyQuantity : ∀ quantity ∈ dto.buyQuantity, 0 < quantity
  rewardQuantity : ∀ quantity ∈ dto.rewardQuantity, 0 < quantity
  productsLength : 1 ≤ dto.products.length ∧ dto.products.length ≤ 50
  productsUnique : dto.productIds.Nodup
  products : ∀ item ∈ dto.products, 0 < item.quantity
  tiersLength : dto.tiers.length ≤ 20
  tiersUnique : (dto.tiers.map PromotionTier.minimumQuantity).Nodup
  tiers : ∀ tier ∈ dto.tiers, 0 < tier.minimumQuantity ∧ 0 < tier.discountPercent ∧
    tier.discountPercent ≤ 1000000

/-- The part of `validate` that depends on the type. -/
def validateRule (dto : Promotion) : Except PromotionFailure Unit :=
  match dto.type with
  | .BUY_X_GET_Y => do
    let buy ← demand dto.buyQuantity .promotionInvalidRule
    let reward ← demand dto.rewardQuantity .promotionInvalidRule
    ensure (dto.discountPercent ≠ none) .promotionInvalidRule
    ensure (reward ≤ buy) .promotionInvalidRule
  | .SECOND_UNIT_PERCENT => ensure (dto.discountPercent ≠ none) .promotionInvalidRule
  | .BUNDLE_FIXED => ensure (dto.fixedPrice ≠ none) .promotionInvalidRule
  | .QUANTITY_PERCENT => ensure (dto.tiers ≠ []) .promotionInvalidRule

/-- `PromotionRepository.validate`. -/
def validate (known : PromotionDirectory) (dto : Promotion) : Except PromotionFailure Unit := do
  ensure (∀ validTo ∈ dto.validTo, dto.validFrom < validTo) .promotionInvalidValidity
  ensure (if dto.type = .BUNDLE_FIXED then 2 ≤ dto.products.length else dto.products.length = 1)
    .promotionInvalidProducts
  validateRule dto
  ensure (dto.type ≠ .QUANTITY_PERCENT → dto.tiers = []) .promotionInvalidRule
  ensure (dto.type = .QUANTITY_PERCENT → ∀ tier ∈ dto.tiers, tier.discountPercent ≤ 500000)
    .promotionMarginLimit
  ensure ((known.products.filter fun id ↦ id ∈ dto.productIds).length = dto.products.length)
    .promotionProductNotAvailable
  ensure (∀ id ∈ dto.scope.branchId, id ∈ known.branches) .promotionBranchNotAvailable
  ensure (∀ id ∈ dto.scope.customerId, id ∈ known.customers) .promotionCustomerNotAvailable

def Promotion.Accepted (known : PromotionDirectory) (dto : Promotion) : Prop :=
  dto.Written ∧ validate known dto = .ok ()

/-! ### What the engine throws -/

section Loops

variable {ε α β σ : Type} {e : ε}

theorem avoids_mapM_of_mem {f : α → Except ε β} {l : List α} (hf : ∀ a ∈ l, Avoids (f a) e) :
    Avoids (l.mapM f) e := by
  induction l with
  | nil => exact avoids_pure []
  | cons a l ih =>
    rw [mapM_cons]
    refine avoids_bind (hf a mem_cons_self) fun b _ ↦ ?_
    exact avoids_map (ih fun x hx ↦ hf x (mem_cons_of_mem a hx))

theorem avoids_forM {f : α → Except ε PUnit} (hf : ∀ a, Avoids (f a) e) (l : List α) :
    Avoids (l.forM f) e := by
  induction l with
  | nil => exact avoids_pure _
  | cons a l ih =>
    exact avoids_bind (hf a) fun _ _ ↦ ih

theorem avoids_mapError {ε' : Type} {f : ε' → ε} {x : Except ε' α} (hf : ∀ e', f e' ≠ e) :
    Avoids (x.mapError f) e := by
  cases x with
  | error e' => exact avoids_error (hf e')
  | ok a => exact avoids_ok a

end Loops

namespace PromotionEngine

variable {rule : Promotion} {lines : List PromotionLine} {st : State} {e : CartFailure}

theorem avoids_divide (hrange : CartFailure.rangeError ≠ e) (n d : ℤ) : Avoids (divide n d) e :=
  avoids_map (avoids_ensure hrange)

theorem avoids_getLine (htype : CartFailure.typeError ≠ e) (productId : Uuid) :
    Avoids (getLine lines productId) e :=
  avoids_demand htype

section

variable (htype : CartFailure.typeError ≠ e) (hrange : CartFailure.rangeError ≠ e)
include htype hrange

theorem avoids_singleAllocation (line : PromotionLine) : Avoids (singleAllocation rule line) e := by
  rw [singleAllocation]
  split
  · refine avoids_bind (avoids_demand htype) fun buy _ ↦ ?_
    refine avoids_bind (avoids_demand htype) fun reward _ ↦ ?_
    refine avoids_bind (avoids_divide hrange _ _) fun cycles _ ↦ ?_
    exact avoids_ite (avoids_pure _) (avoids_map (avoids_demand htype))
  · refine avoids_bind (avoids_demand htype) fun product _ ↦ ?_
    refine avoids_bind (avoids_divide hrange _ _) fun cycles _ ↦ ?_
    exact avoids_ite (avoids_pure _) (avoids_map (avoids_demand htype))
  · split
    · exact avoids_pure _
    · exact avoids_pure _
  · exact avoids_pure _

theorem avoids_bundleAllocations : Avoids (bundleAllocations rule lines) e := by
  have hbundles : Avoids (bundles rule lines) e := by
    refine avoids_foldlM (fun current item ↦ ?_) _ _
    refine avoids_bind (avoids_getLine htype _) fun line _ ↦ ?_
    exact avoids_map (avoids_divide hrange _ _)
  refine avoids_bind hbundles fun found _ ↦ ?_
  split
  · exact avoids_pure _
  · refine avoids_ite (avoids_pure _) (avoids_bind ?_ fun contributions _ ↦ ?_)
    · exact avoids_mapM (fun item ↦ avoids_map (avoids_getLine htype _)) _
    · exact avoids_bind (avoids_demand htype) fun _ _ ↦
        avoids_ite (avoids_pure _) (avoids_pure _)

/-- **The engine throws type and range errors only.** -/
theorem avoids_resolve (promotions : List Promotion) (context : PriceContext) (now : Timestamp) :
    Avoids (resolve promotions context now lines) e := by
  refine avoids_map (avoids_foldlM (fun st rule ↦ ?_) _ _)
  refine avoids_ite (avoids_pure _) (avoids_bind ?_ fun as _ ↦ ?_)
  · refine avoids_ite (avoids_bundleAllocations htype hrange) ?_
    refine avoids_bind (avoids_demand htype) fun product _ ↦ ?_
    exact avoids_bind (avoids_getLine htype _) fun line _ ↦
      avoids_singleAllocation htype hrange line
  · exact avoids_ite (avoids_pure _) (avoids_pure _)

end

end PromotionEngine

namespace Cart

variable {shop : Shop} {place : Workplace} {permissions : Permissions} {context : CartContext}
  {dto : QuoteCartDto} {promotions : Uuid → List AppliedPromotion}
  {preparedLines : List PreparedLine} {p : NormalizedProduct}

/-! ### Carts without discounts -/

/-- **A cart that asks for no discount.** -/
structure QuoteCartDto.Plain (dto : QuoteCartDto) : Prop where
  discount : dto.discount = none
  lines : ∀ line ∈ dto.lines, line.discount = none

theorem plain_of_addLines {requested : List RequestedProduct} (hplain : dto.Plain)
    (h : dto.lines.foldlM addLine [] = .ok requested) : ∀ r ∈ requested, r.discount = none := by
  refine foldlM_invariant (P := fun requested ↦ ∀ r ∈ requested, r.discount = none)
    (fun line hline requested requested' hplainBefore hstep ↦ ?_)
    (forall_mem_nil _) h
  obtain ⟨_, _, hstep⟩ := bind_eq_ok.mp hstep
  split at hstep
  · rw [← pure_eq_ok.mp hstep]
    intro r hr
    rcases mem_append.mp hr with hr | hr
    · exact hplainBefore r hr
    · rw [mem_singleton.mp hr]
      exact hplain.lines line hline
  · simp only [eq_ok] at hstep
    obtain ⟨_, _, _, _, _, _, _, _, rfl⟩ := hstep
    refine forall_mem_map.mpr fun r₀ hr₀ ↦ ?_
    have hnone := hplainBefore r₀ hr₀
    split <;> exact hnone

theorem requested_of_normalize {find : Uuid → Option PosProductSnapshot} {r : RequestedProduct}
    (h : normalizeRequested find r = .ok p) : p.requested = r := by
  simp only [normalizeRequested, eq_ok] at h
  obtain ⟨_, _, _, _, rfl⟩ := h
  rfl

theorem avoids_prepareLine {lot : Uuid → Uuid → Option SelectedLot} {businessDate : Day}
    {canOverrideExpired : Bool} {resolve : Uuid → Option ResolvedPrice}
    (hplain : p.requested.discount = none) :
    Avoids (prepareLine lot businessDate canOverrideExpired resolve p)
      .saleDiscountLimitExceeded := by
  have hlot : Avoids (selectLot lot p) .saleDiscountLimitExceeded := by
    rw [selectLot]
    split
    · exact avoids_pure _
    · exact avoids_map (avoids_demand (by decide))
  have hexpired : ∀ selected, Avoids (expiredLotReason selected businessDate canOverrideExpired
      p.requested.expiredReason) .saleDiscountLimitExceeded := by
    intro selected
    rw [expiredLotReason]
    split
    · exact avoids_pure _
    · refine avoids_ensure_bind (by decide) fun _ ↦ ?_
      refine avoids_ensure_bind (by decide) fun _ ↦ ?_
      exact avoids_map (avoids_ensure (by decide))
  have hprice : ∀ resolved, Avoids (linePrice p resolved) .saleDiscountLimitExceeded := by
    intro resolved
    rw [linePrice]
    split
    · exact avoids_pure _
    · refine avoids_ensure_bind (by decide) fun _ ↦ ?_
      exact avoids_map (avoids_ensure (by decide))
  refine avoids_ensure_bind (fun h ↦ by cases h) fun _ ↦ ?_
  refine avoids_ensure_bind (by decide) fun _ ↦ ?_
  refine avoids_bind hlot fun selected _ ↦ ?_
  refine avoids_bind (hexpired _) fun _ _ ↦ ?_
  refine avoids_ensure_bind (fun h ↦ by cases h) fun _ ↦ ?_
  refine avoids_bind (hprice _) fun price _ ↦ ?_
  rw [hplain]
  exact avoids_map (avoids_pure 0)

/-- **Preparing a plain cart** does not fail for a discount. -/
theorem avoids_prepareLines (hplain : dto.Plain) :
    Avoids (prepareLines shop place permissions context dto) .saleDiscountLimitExceeded := by
  refine avoids_ensure_bind (by decide) fun _ ↦ ?_
  refine avoids_bind (avoids_foldlM (fun requested line ↦ ?_) _ _) fun requested hrequested ↦ ?_
  · refine avoids_ensure_bind (by decide) fun _ ↦ ?_
    split
    · exact avoids_pure _
    · refine avoids_ensure_bind (by decide) fun _ ↦ ?_
      refine avoids_ensure_bind (by decide) fun _ ↦ ?_
      refine avoids_ensure_bind (by decide) fun _ ↦ ?_
      exact avoids_map (avoids_ensure (by decide))
  refine avoids_ensure_bind (by decide) fun _ ↦ ?_
  refine avoids_ensure_bind (by decide) fun _ ↦ ?_
  refine avoids_ensure_bind (by decide) fun _ ↦ ?_
  refine avoids_bind (avoids_mapM (fun r ↦ ?_) _) fun normalized hnormalized ↦ ?_
  · refine avoids_bind (avoids_demand (by decide)) fun product _ ↦ ?_
    exact avoids_map (avoids_mapError fun _ h ↦ by cases h)
  refine avoids_bind (avoids_foldlM (fun demands p ↦ ?_) _ _) fun demands _ ↦ ?_
  · refine avoids_ite (avoids_map (avoids_ensure (by decide))) ?_
    split
    · exact avoids_map (avoids_ensure (by decide))
    · exact avoids_pure _
  refine avoids_bind (avoids_forM (fun d ↦ avoids_ensure fun h ↦ by cases h) _) fun _ _ ↦ ?_
  refine avoids_mapM_of_mem fun p hp ↦ avoids_prepareLine ?_
  obtain ⟨r, hr, hnormalize⟩ := exists_of_mem_mapM hnormalized hp
  rw [requested_of_normalize hnormalize]
  exact plain_of_addLines hplain hrequested r hr

/-! ### The limits -/

def promotionCents (promotions : Uuid → List AppliedPromotion) (line : PreparedLine) : ℤ :=
  ((promotions line.productId).map AppliedPromotion.amount).sum

/-- **The promotions keep the limits**: they do not reach any line, and together they are at most
half of the sale. -/
structure LimitsKept (promotions : Uuid → List AppliedPromotion)
    (preparedLines : List PreparedLine) : Prop where
  line : ∀ line ∈ preparedLines, promotionCents promotions line < line.grossCents
  half : (preparedLines.map (promotionCents promotions)).sum * 2 ≤
    (preparedLines.map PreparedLine.grossCents).sum

theorem mapM_promoteLine (h : ∀ line ∈ preparedLines,
      line.lineDiscountCents + promotionCents promotions line < line.grossCents) :
    preparedLines.mapM (promoteLine promotions) =
      .ok (preparedLines.map fun line ↦ ⟨line, promotions line.productId⟩) := by
  induction preparedLines with
  | nil => rfl
  | cons line lines ih =>
    have hline : promoteLine promotions line = .ok ⟨line, promotions line.productId⟩ :=
      bind_eq_ok.mpr ⟨⟨⟩, ensure_eq_ok.mpr (h line mem_cons_self), rfl⟩
    rw [mapM_cons, hline, ok_bind, ih fun x hx ↦ h x (mem_cons_of_mem line hx)]
    rfl

theorem mapM_promoteLine_of_reached {line : PreparedLine} (hline : line ∈ preparedLines)
    (hreached : line.grossCents ≤ line.lineDiscountCents + promotionCents promotions line) :
    preparedLines.mapM (promoteLine promotions) = .error .saleDiscountLimitExceeded := by
  have hone : ∀ line : PreparedLine, promoteLine promotions line =
      if line.lineDiscountCents + promotionCents promotions line < line.grossCents then
        .ok ⟨line, promotions line.productId⟩ else .error .saleDiscountLimitExceeded := by
    intro line
    rw [promoteLine]
    show (ensure (line.lineDiscountCents + promotionCents promotions line < line.grossCents) _ >>=
      fun _ ↦ _) = _
    rw [ensure]
    split <;> rfl
  induction preparedLines with
  | nil => exact absurd hline not_mem_nil
  | cons x lines ih =>
    rw [mapM_cons, hone]
    split
    case isTrue hlt =>
      rcases mem_cons.mp hline with rfl | hline
      · omega
      · rw [ok_bind, ih hline]
        rfl
    case isFalse => rfl

theorem lineDiscount_eq_zero (hplain : dto.Plain)
    (h : prepareLines shop place permissions context dto = .ok preparedLines) :
    ∀ line ∈ preparedLines, line.lineDiscountCents = 0 := by
  simp only [prepareLines, bind_eq_ok] at h
  obtain ⟨_, _, requested, hrequested, _, _, _, _, _, _, normalized, hnormalized, _, _, _, _, h⟩ :=
    h
  intro line hline
  obtain ⟨p, hp, hprepare⟩ := exists_of_mem_mapM h hline
  obtain ⟨r, hr, hnormalize⟩ := exists_of_mem_mapM hnormalized hp
  obtain ⟨_, _, _, _, _, _, _, _, hdiscount, rfl⟩ := prepareLine_eq_ok hprepare
  refine (discountAmount_bounds hdiscount).2.1 ?_
  rw [requested_of_normalize hnormalize]
  exact plain_of_addLines hplain hrequested r hr

theorem sums_of_plain (hzero : ∀ line ∈ preparedLines, line.lineDiscountCents = 0) :
    let promoted := preparedLines.map fun line ↦
      (⟨line, promotions line.productId⟩ : PromotedLine)
    (promoted.map fun p ↦ p.line.grossCents).sum = (preparedLines.map PreparedLine.grossCents).sum ∧
      (promoted.map fun p ↦ p.line.lineDiscountCents).sum = 0 ∧
      (promoted.map PromotedLine.promotionDiscountCents).sum =
        (preparedLines.map (promotionCents promotions)).sum := by
  dsimp only
  rw [map_map, map_map, map_map]
  refine ⟨rfl, ?_, rfl⟩
  refine sum_eq_zero fun x hx ↦ ?_
  obtain ⟨line, hline, rfl⟩ := mem_map.mp hx
  exact hzero line hline

/-- **The quote of plain lines** fails for its discounts exactly when a limit is not kept. -/
theorem quoteLines_limit_iff (hplain : dto.Plain)
    (hzero : ∀ line ∈ preparedLines, line.lineDiscountCents = 0) :
    quoteLines shop place context dto promotions preparedLines =
        .error .saleDiscountLimitExceeded ↔ ¬LimitsKept promotions preparedLines := by
  by_cases hline : ∀ line ∈ preparedLines, promotionCents promotions line < line.grossCents
  · have hbelow : ∀ line ∈ preparedLines,
        line.lineDiscountCents + promotionCents promotions line < line.grossCents := by
      intro line hmem
      rw [hzero line hmem, zero_add]
      exact hline line hmem
    have hpromoted := mapM_promoteLine hbelow
    obtain ⟨hgross, hdiscount, hpromotion⟩ := @sums_of_plain promotions preparedLines hzero
    rw [quoteLines, hpromoted, ok_bind]
    rw [hgross, hdiscount, hpromotion, hplain.discount]
    show (ensure ((0 + _ + 0) * 2 ≤ _) _ >>= fun _ ↦ _) = _ ↔ _
    rw [zero_add, add_zero, ensure]
    by_cases hhalf : (preparedLines.map (promotionCents promotions)).sum * 2 ≤
        (preparedLines.map PreparedLine.grossCents).sum
    · rw [if_pos hhalf]
      refine iff_of_false ?_ fun hnot ↦ hnot ⟨hline, hhalf⟩
      -- No discount is shared, and points have errors of their own.
      refine avoids_bind (avoids_pure _) fun _ _ ↦ ?_
      refine avoids_bind (avoids_ite (avoids_pure _) ?_) fun allocations _ ↦ ?_
      · exact avoids_map (avoids_ensure (by decide))
      refine avoids_map (avoids_ensure_bind (by decide) fun _ ↦ ?_)
      split
      · exact avoids_pure _
      · exact avoids_mapError fun _ h ↦ by cases h
    · rw [if_neg hhalf]
      exact iff_of_true rfl fun hkept ↦ hhalf hkept.half
  · obtain ⟨line, hmem, hreached⟩ : ∃ line ∈ preparedLines,
        line.grossCents ≤ promotionCents promotions line := by
      by_contra hnone
      exact hline fun line hmem ↦ by
        by_contra hnot
        exact hnone ⟨line, hmem, by omega⟩
    refine iff_of_true ?_ fun hkept ↦ hline hkept.line
    have hwhole : line.grossCents ≤ line.lineDiscountCents + promotionCents promotions line := by
      rw [hzero line hmem, zero_add]
      exact hreached
    rw [quoteLines, mapM_promoteLine_of_reached hmem hwhole]
    rfl

/-! ### Plain carts -/

/-- **A cart has come to its amounts**: its lines have been prepared and its promotions found. -/
def Reaches (shop : Shop) (place : Workplace) (permissions : Permissions) (dto : QuoteCartDto)
    (preparedLines : List PreparedLine) (promotions : Uuid → List AppliedPromotion) : Prop :=
  (shop.store.currentShift place.branchId place.cashRegisterId place.userId).isSome = true ∧
    ∃ context,
      shop.getContext place.branchId place.warehouseId place.cashRegisterId = some context ∧
      prepareLines shop place permissions context dto = .ok preparedLines ∧
      PromotionEngine.resolve shop.promotions (dto.priceContext place.branchId) shop.now
        (preparedLines.map PreparedLine.promotionLine) = .ok promotions

/-- **When a plain cart is refused for its discounts**: exactly when a limit is not kept. -/
theorem plain_cart_refused {shop : Shop} {place : Workplace} {permissions : Permissions}
    {dto : QuoteCartDto} (hplain : dto.Plain) :
    (quoteCart shop place permissions dto = .error .saleDiscountLimitExceeded →
      ∃ preparedLines promotions, Reaches shop place permissions dto preparedLines promotions ∧
        ¬LimitsKept promotions preparedLines) ∧
      ∀ preparedLines promotions, Reaches shop place permissions dto preparedLines promotions →
        (∀ line ∈ preparedLines, 0 < line.grossCents) → ¬LimitsKept promotions preparedLines →
          quoteCart shop place permissions dto = .error .saleDiscountLimitExceeded := by
  constructor
  · intro h
    by_contra hkept
    refine absurd h (avoids_bind (avoids_demand (by decide)) fun shift hshift ↦ ?_)
    refine avoids_bind (avoids_demand (by decide)) fun context hcontext ↦ ?_
    refine avoids_bind (avoids_prepareLines hplain) fun lines hlines ↦ ?_
    refine avoids_bind (PromotionEngine.avoids_resolve (by decide) (by decide) _ _ _)
      fun promotions hpromotions ↦ ?_
    intro hquote
    refine hkept ⟨lines, promotions, ⟨?_, context, demand_eq_ok.mp hcontext, hlines, hpromotions⟩,
      (quoteLines_limit_iff hplain (lineDiscount_eq_zero hplain hlines)).mp hquote⟩
    rw [demand_eq_ok.mp hshift]
    rfl
  · intro lines promotions hreaches _ hlimit
    obtain ⟨hshift, context, hcontext, hlines, hpromotions⟩ := hreaches
    obtain ⟨shift, hshift⟩ := Option.isSome_iff_exists.mp hshift
    rw [quoteCart, hshift, hcontext]
    show (prepareLines shop place permissions context dto >>= _) = _
    rw [hlines, ok_bind, hpromotions, ok_bind]
    exact (quoteLines_limit_iff hplain (lineDiscount_eq_zero hplain hlines)).mpr hlimit

/-! ### Two promotions of thirty per cent -/

def thirtyPercent (id : Uuid) : Promotion where
  id := id
  scope := {}
  priority := 0
  validFrom := 0
  type := .QUANTITY_PERCENT
  stackable := true
  products := [⟨1, 1000⟩]
  tiers := [⟨1000, 300000⟩]

theorem accepted_thirtyPercent (id : Uuid) : (thirtyPercent id).Accepted ⟨[1], [], []⟩ := by
  refine ⟨?_, rfl⟩
  exact {
    discountPercent := fun _ h ↦ by cases h
    fixedPrice := fun _ h ↦ by cases h
    buyQuantity := fun _ h ↦ by cases h
    rewardQuantity := fun _ h ↦ by cases h
    productsLength := by simp [thirtyPercent]
    productsUnique := by simp [thirtyPercent, Promotion.productIds]
    products := by simp [thirtyPercent]
    tiersLength := by simp [thirtyPercent]
    tiersUnique := by simp [thirtyPercent]
    tiers := by simp [thirtyPercent] }

def oneUnitCart : QuoteCartDto where
  lines := [{ productId := 1, quantity := .ofNat 1 }]

theorem plain_oneUnitCart : oneUnitCart.Plain where
  discount := rfl
  lines := by decide

/-- A shop where product 1 costs 1.00, with two promotions of thirty per cent. -/
def shopWithTwo : Shop := shopSelling (fun _ ↦ 100) [thirtyPercent 1, thirtyPercent 2]

def oneUnitLines : List PreparedLine :=
  (prepareLines shopWithTwo registerOne {} contextOne oneUnitCart).toOption.get (by decide +kernel)

def twoPromotions : Uuid → List AppliedPromotion :=
  (PromotionEngine.resolve shopWithTwo.promotions (oneUnitCart.priceContext 1) shopWithTwo.now
    (oneUnitLines.map PreparedLine.promotionLine)).toOption.get (by decide +kernel)

theorem reaches_oneUnit : Reaches shopWithTwo registerOne {} oneUnitCart oneUnitLines
    twoPromotions :=
  ⟨by decide +kernel, contextOne, rfl, eq_ok_get (by decide +kernel), eq_ok_get (by decide +kernel)⟩

theorem plain_cart_refused_two :
    quoteCart shopWithTwo registerOne {} oneUnitCart = .error .saleDiscountLimitExceeded := by
  refine (plain_cart_refused plain_oneUnitCart).2 oneUnitLines twoPromotions reaches_oneUnit
    (by decide +kernel) fun hkept ↦ ?_
  have hhalf := hkept.half
  have hnot : ¬(oneUnitLines.map (promotionCents twoPromotions)).sum * 2 ≤
      (oneUnitLines.map PreparedLine.grossCents).sum := by decide +kernel
  exact hnot hhalf

/-- **Promotions that have been accepted** can make a plain cart one that is refused. -/
theorem stacked_refused :
    ¬∀ (known : PromotionDirectory) (shop : Shop) (place : Workplace) (permissions : Permissions)
      (dto : QuoteCartDto), dto.Plain → (∀ rule ∈ shop.promotions, rule.Accepted known) →
        (∃ preparedLines promotions,
          Reaches shop place permissions dto preparedLines promotions) →
            quoteCart shop place permissions dto ≠ .error .saleDiscountLimitExceeded := by
  intro h
  refine h ⟨[1], [], []⟩ shopWithTwo registerOne {} oneUnitCart plain_oneUnitCart ?_
    ⟨_, _, reaches_oneUnit⟩ (by decide +kernel)
  intro rule hrule
  rcases mem_cons.mp hrule with rfl | hrule
  · exact accepted_thirtyPercent 1
  · rw [mem_singleton.mp hrule]
    exact accepted_thirtyPercent 2

end Cart

end UInventario.Pos
