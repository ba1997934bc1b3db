import UInventario.Pos.SoldLines

/-!
# The amounts of a quote

The totals of a cart, its discounts and its points are computed from what is persisted of the
prepared lines and from their promotions: `quoteLines_congr`. Conversely the lines of a quote have
the prepared lines and their promotions in them, `quoteLines_images`.
-/

namespace UInventario.Pos.Cart

open Outcome Pointwise List

/-! ### Shares of a discount -/

theorem length_handOut : ∀ (order : List ShareRemainder) (remainder : ℤ) (allocations : List ℤ),
    (handOut remainder order allocations).length = allocations.length := by
  intro order
  induction order with
  | nil =>
    intro remainder allocations
    rw [handOut]
  | cons entry order ih =>
    intro remainder allocations
    rw [handOut]
    split
    · rfl
    · rw [ih, length_modify]

theorem length_allocateDiscount {weights allocations : List ℤ} {amount : ℤ}
    (h : allocateDiscount weights amount = .ok allocations) :
    allocations.length = weights.length := by
  rw [allocateDiscount] at h
  split at h
  · rw [pure_eq_ok] at h
    rw [← h, length_map]
  · simp only [eq_ok] at h
    obtain ⟨_, _, h⟩ := h
    rw [← h, length_handOut, length_map]

/-! ### Lines with promotions -/

section Images

variable (toUpperCase : Text → Text)

def PromotedLine.image (p : PromotedLine) : SoldProduct × List AppliedPromotion :=
  (p.line.sold toUpperCase, p.promotions)

/-- The row of a line, from what is persisted of it and its share of the discount of the sale. -/
def soldLine (taxBasisPoints : ℕ) (discount : Option SaleDiscountDto)
    (line : (SoldProduct × List AppliedPromotion) × ℤ) : SoldLine :=
  let promotionDiscount := (line.1.2.map AppliedPromotion.amount).sum
  let totalDiscount := line.1.1.lineDiscountTotal + promotionDiscount + line.2
  let lineTotal := line.1.1.grossTotal - totalDiscount
  let tax := lineTax taxBasisPoints line.1.1.taxBehavior lineTotal
  { product := line.1.1
    promotions := line.1.2
    saleDiscount := appliedDiscount discount line.2
    discountTotal := totalDiscount
    subtotal := lineTotal - tax
    tax := tax
    total := lineTotal }

theorem sold_quoteLines (taxBasisPoints : ℕ) (discount : Option SaleDiscountDto)
    (promoted : List PromotedLine) (allocations : List ℤ) :
    ((promoted.zip allocations).map (quoteLine taxBasisPoints discount)).map
        (QuoteLine.sold toUpperCase) =
      ((promoted.map (PromotedLine.image toUpperCase)).zip allocations).map
        (soldLine taxBasisPoints discount) := by
  rw [zip_map_left, map_map, map_map]
  rfl

theorem soldLine_congr {taxBasisPoints : ℕ} {discount discount' : Option SaleDiscountDto}
    (h : discount.map SaleDiscountDto.trimmed = discount'.map SaleDiscountDto.trimmed) :
    soldLine taxBasisPoints discount = soldLine taxBasisPoints discount' := by
  funext line
  simp only [soldLine, appliedDiscount_congr h]

end Images

/-! ### The quote -/

section Quote

variable {shop : Shop} {place : Workplace} {context : CartContext} {dto dto' : QuoteCartDto}
  {promotions promotions' : Uuid → List AppliedPromotion}
  {preparedLines preparedLines' : List PreparedLine} {quote quote' : Quote}
  {toUpperCase : Text → Text}

theorem image_of_promoteLine {line : PreparedLine} {promoted : PromotedLine}
    (h : promoteLine promotions line = .ok promoted) :
    promoted.image toUpperCase = (line.sold toUpperCase, promotions line.productId) := by
  simp only [promoteLine, eq_ok] at h
  obtain ⟨_, _, rfl⟩ := h
  rfl

theorem images_of_promoteLines {promoted : List PromotedLine}
    (h : preparedLines.mapM (promoteLine promotions) = .ok promoted) :
    promoted.map (PromotedLine.image toUpperCase) =
      preparedLines.map fun line ↦ (line.sold toUpperCase, promotions line.productId) :=
  map_mapM (fun _ _ ↦ image_of_promoteLine) h

section

variable (h : quoteLines shop place context dto promotions preparedLines = .ok quote)
include h

theorem quoteLines_eq_ok :
    ∃ promoted saleDiscount allocations,
      preparedLines.mapM (promoteLine promotions) = .ok promoted ∧
      discountAmount dto.discount ((promoted.map fun p ↦ p.line.grossCents).sum -
        (promoted.map fun p ↦ p.line.lineDiscountCents).sum -
        (promoted.map PromotedLine.promotionDiscountCents).sum) = .ok saleDiscount ∧
      allocateDiscount (promoted.map PromotedLine.weight) saleDiscount = .ok allocations ∧
      quote.lines = (promoted.zip allocations).map (quoteLine context.taxRate dto.discount) ∧
      cartLoyalty shop dto (quote.lines.map QuoteLine.total).sum = .ok quote.loyalty ∧
      quote.businessDate = context.businessDate ∧ quote.currency = context.currency ∧
      quote.taxRate = context.taxRate ∧ quote.discount = appliedDiscount dto.discount saleDiscount ∧
      quote.totals = {
        gross := (promoted.map fun p ↦ p.line.grossCents).sum
        lineDiscount := (promoted.map fun p ↦ p.line.lineDiscountCents).sum
        promotionDiscount := (promoted.map PromotedLine.promotionDiscountCents).sum
        saleDiscount := saleDiscount
        discount := (promoted.map fun p ↦ p.line.lineDiscountCents).sum +
          (promoted.map PromotedLine.promotionDiscountCents).sum + saleDiscount
        subtotal := (quote.lines.map QuoteLine.subtotal).sum
        tax := (quote.lines.map QuoteLine.tax).sum
        total := (quote.lines.map QuoteLine.total).sum } := by
  simp only [quoteLines, eq_ok] at h
  obtain ⟨promoted, hpromoted, saleDiscount, hdiscount, _, _, allocations, hallocations, loyalty,
    hloyalty, rfl⟩ := h
  exact ⟨promoted, saleDiscount, allocations, hpromoted, hdiscount, hallocations, rfl, hloyalty,
    rfl, rfl, rfl, rfl, rfl⟩

theorem quoteLines_images :
    (quote.lines.map (QuoteLine.sold toUpperCase)).map (fun l ↦ (l.product, l.promotions)) =
      preparedLines.map fun line ↦ (line.sold toUpperCase, promotions line.productId) := by
  obtain ⟨promoted, saleDiscount, allocations, hpromoted, _, hallocations, hlines, _⟩ :=
    quoteLines_eq_ok h
  have hlength : promoted.length ≤ allocations.length := by
    rw [length_allocateDiscount hallocations, length_map]
  rw [hlines, sold_quoteLines, map_map, ← images_of_promoteLines hpromoted]
  exact map_fst_zip (by rwa [length_map])

end

theorem cartLoyalty_congr (hcustomer : dto.customerId = dto'.customerId)
    (hpoints : dto.loyaltyPointsToRedeem.getD 0 = dto'.loyaltyPointsToRedeem.getD 0)
    (totalCents : ℤ) : cartLoyalty shop dto totalCents = cartLoyalty shop dto' totalCents := by
  simp only [cartLoyalty, hcustomer, hpoints]

/-- **The amounts of a quote depend on what is persisted of its lines**, its promotions, the
discount of the sale and the points. -/
theorem quoteLines_congr
    (himages : preparedLines.map (fun line ↦ (line.sold toUpperCase, promotions line.productId)) =
      preparedLines'.map fun line ↦ (line.sold toUpperCase, promotions' line.productId))
    (hdiscount : dto.discount.map SaleDiscountDto.trimmed =
      dto'.discount.map SaleDiscountDto.trimmed)
    (hcustomer : dto.customerId = dto'.customerId)
    (hpoints : dto.loyaltyPointsToRedeem.getD 0 = dto'.loyaltyPointsToRedeem.getD 0)
    (h : quoteLines shop place context dto promotions preparedLines = .ok quote)
    (h' : quoteLines shop place context dto' promotions' preparedLines' = .ok quote') :
    quote.lines.map (QuoteLine.sold toUpperCase) = quote'.lines.map (QuoteLine.sold toUpperCase) ∧
      quote.discount = quote'.discount ∧ quote.loyalty = quote'.loyalty ∧
      quote.totals = quote'.totals := by
  obtain ⟨promoted, saleDiscount, allocations, hpromoted, hamount, hallocations, hlines, hloyalty,
    _, _, _, happlied, htotals⟩ := quoteLines_eq_ok h
  obtain ⟨promoted', saleDiscount', allocations', hpromoted', hamount', hallocations', hlines',
    hloyalty', _, _, _, happlied', htotals'⟩ := quoteLines_eq_ok h'
  have himage : promoted.map (PromotedLine.image toUpperCase) =
      promoted'.map (PromotedLine.image toUpperCase) := by
    rw [images_of_promoteLines hpromoted, images_of_promoteLines hpromoted', himages]
  have hgross : promoted.map (fun p ↦ p.line.grossCents) =
      promoted'.map fun p ↦ p.line.grossCents :=
    map_comp_congr himage fun i ↦ i.1.grossTotal
  have hline : promoted.map (fun p ↦ p.line.lineDiscountCents) =
      promoted'.map fun p ↦ p.line.lineDiscountCents :=
    map_comp_congr himage fun i ↦ i.1.lineDiscountTotal
  have hpromotion : promoted.map PromotedLine.promotionDiscountCents =
      promoted'.map PromotedLine.promotionDiscountCents :=
    map_comp_congr himage fun i ↦ (i.2.map AppliedPromotion.amount).sum
  have hweight : promoted.map PromotedLine.weight = promoted'.map PromotedLine.weight :=
    map_comp_congr himage fun i ↦
      i.1.grossTotal - i.1.lineDiscountTotal - (i.2.map AppliedPromotion.amount).sum
  have hsale : saleDiscount = saleDiscount' := by
    rw [discountAmount_congr hdiscount, hgross, hline, hpromotion, hamount', Except.ok.injEq]
      at hamount
    exact hamount.symm
  subst hsale
  have hshares : allocations = allocations' := by
    rw [hweight, hallocations', Except.ok.injEq] at hallocations
    exact hallocations.symm
  subst hshares
  have hsold : quote.lines.map (QuoteLine.sold toUpperCase) =
      quote'.lines.map (QuoteLine.sold toUpperCase) := by
    rw [hlines, hlines', sold_quoteLines, sold_quoteLines, himage, soldLine_congr hdiscount]
  have hsubtotal : quote.lines.map QuoteLine.subtotal = quote'.lines.map QuoteLine.subtotal :=
    map_comp_congr hsold SoldLine.subtotal
  have htax : quote.lines.map QuoteLine.tax = quote'.lines.map QuoteLine.tax :=
    map_comp_congr hsold SoldLine.tax
  have htotal : quote.lines.map QuoteLine.total = quote'.lines.map QuoteLine.total :=
    map_comp_congr hsold SoldLine.total
  refine ⟨hsold, ?_, ?_, ?_⟩
  · rw [happlied, happlied', appliedDiscount_congr hdiscount]
  · rw [htotal, cartLoyalty_congr hcustomer hpoints, hloyalty', Except.ok.injEq] at hloyalty
    exact hloyalty.symm
  · rw [htotals, htotals', hgross, hline, hpromotion, hsubtotal, htax, htotal]

end Quote

/-! ### Payments -/

section Payments

variable {env : Env} {totalCents : ℤ}

theorem preparePayment_congr {payment payment' : SalePaymentDto}
    (h : payment.hashed = payment'.hashed) (single : Bool) :
    preparePayment env totalCents single payment =
      preparePayment env totalCents single payment' := by
  simp only [SalePaymentDto.hashed, HashedPayment.mk.injEq] at h
  obtain ⟨hmethod, hamount, hreceived, hreference, hterminal⟩ := h
  have hnone : payment.amountReceived = none ↔ payment'.amountReceived = none := by
    rw [← Option.map_eq_none_iff (f := toMoneyCents), hreceived, Option.map_eq_none_iff]
  have hfields : assertPaymentFields payment = assertPaymentFields payment' := by
    simp only [assertPaymentFields, hmethod, hreference, hterminal, ne_eq, hnone]
  rw [preparePayment, preparePayment, hfields]
  simp only [hmethod, hamount, hreceived, hreference, hterminal, ne_eq, hnone]

theorem preparePaymentList_congr {single : Bool} : ∀ {payments payments' : List SalePaymentDto},
      payments.map SalePaymentDto.hashed = payments'.map SalePaymentDto.hashed →
        payments.mapM (preparePayment env totalCents single) =
          payments'.mapM (preparePayment env totalCents single) := by
  intro payments
  induction payments with
  | nil =>
    intro payments' h
    rw [map_nil, nil_eq, map_eq_nil_iff] at h
    rw [h]
  | cons payment payments ih =>
    intro payments' h
    cases payments' with
    | nil => simp at h
    | cons payment' payments' =>
      simp only [map_cons, List.cons.injEq] at h
      rw [mapM_cons, mapM_cons, preparePayment_congr h.1, ih h.2]

theorem preparePayments_congr {dto dto' : CreateSaleDto} {payments payments' : List PreparedPayment}
    (hcredit : dto.credit = dto'.credit) (hpayments : dto.paymentList.map SalePaymentDto.hashed =
      dto'.paymentList.map SalePaymentDto.hashed)
    (h : preparePayments env dto totalCents = .ok payments)
    (h' : preparePayments env dto' totalCents = .ok payments') : payments = payments' := by
  rw [preparePayments] at h h'
  rw [← hcredit] at h'
  cases hc : dto.credit with
  | some _ =>
    simp only [hc, eq_ok] at h h'
    obtain ⟨_, _, rfl⟩ := h
    obtain ⟨_, _, rfl⟩ := h'
    rfl
  | none =>
    simp only [hc, eq_ok] at h h'
    obtain ⟨_, _, prepared, hprepared, _, _, rfl⟩ := h
    obtain ⟨_, _, prepared', hprepared', _, _, rfl⟩ := h'
    have hlength : dto.paymentList.length = dto'.paymentList.length := by
      simpa using congrArg List.length hpayments
    rw [hlength, preparePaymentList_congr hpayments, hprepared', Except.ok.injEq] at hprepared
    exact hprepared.symm

end Payments

end UInventario.Pos.Cart
