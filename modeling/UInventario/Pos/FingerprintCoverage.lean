import UInventario.Pos.QuoteAmounts

/-!
# What the fingerprint of a sale leaves out

What a request for a sale persists depends on more than what is hashed: on where it comes from, on
its quotation, on the order of its products, on the list prices and promotions of its channel, and
on the reasons for which expired lots are sold. `UnhashedAlike` says that two requests agree in
these; for requests that are hashed alike this is exactly when they persist the same sale
(`content_eq_iff`). So a request that would have persisted another sale is refused if and only if it
differs in what is hashed (`refusesOther_iff`).
-/

namespace UInventario.Pos.Cart

open Outcome Pointwise List

/-! ### What is not hashed -/

namespace SaleRequest

def context (shop : Shop) (r : SaleRequest) : Option CartContext :=
  shop.getContext r.place.branchId r.place.warehouseId r.place.cashRegisterId

def priceContext (r : SaleRequest) : PriceContext :=
  r.dto.cart.priceContext r.place.branchId

/-- The price of a product on the lists of the channel, the branch and the customer. -/
def listPrice (shop : Shop) (r : SaleRequest) (productId : Uuid) : Option ResolvedPrice :=
  (r.context shop).bind fun context ↦
    resolvePrice shop.priceLists r.priceContext context.currency shop.now productId

def TakesExpired (shop : Shop) (r : SaleRequest) (p : RequestedProduct) : Prop :=
  ∃ context, r.context shop = some context ∧
    Cart.TakesExpired (shop.getSelectedLotAvailability r.place.warehouseId) context.businessDate p

/-- What the promotion engine is asked about a product of the request. -/
def promotionLine (shop : Shop) (r : SaleRequest) (p : RequestedProduct) : Option PromotionLine :=
  (shop.getProducts r.place.warehouseId r.dto.reservationId p.productId).bind fun product ↦
    (normalizeProductQuantity p.quantity product.quantityPolicy).toOption.map fun quantity ↦ {
      productId := p.productId
      quantity := quantity
      unitPrice := (p.manualPrice.map toMoneyCents).getD
        (referencePrice product (r.listPrice shop p.productId)).unitPrice }

def promotions (shop : Shop) (r : SaleRequest) : Except CartFailure
    (List (List AppliedPromotion)) :=
  (PromotionEngine.resolve shop.promotions r.priceContext shop.now
    ((grouped r.dto.lines).filterMap (r.promotionLine shop))).map fun promotions ↦
      (grouped r.dto.lines).map fun p ↦ promotions p.productId

end SaleRequest

/-- Two requests ask alike for a product in what is not hashed of it. -/
structure AskedAlike (shop : Shop) (first second : SaleRequest) (p p' : RequestedProduct) :
    Prop where
  productId : p.productId = p'.productId
  price : p.manualPrice = none →
    first.listPrice shop p.productId = second.listPrice shop p'.productId
  expiredReason : first.TakesExpired shop p → p.expiredReason = p'.expiredReason

/-- **Two requests agree in what is not hashed**, as far as it counts. -/
structure UnhashedAlike (shop : Shop) (first second : SaleRequest) : Prop where
  place : first.place = second.place
  sourceQuotationId : first.sourceQuotationId = second.sourceQuotationId
  products : List.Forall₂ (AskedAlike shop first second) (grouped first.dto.lines)
    (grouped second.dto.lines)
  promotions : first.promotions shop = second.promotions shop

/-! ### The sale of a request -/

def Prepares (shop : Shop) (r : SaleRequest) (context : CartContext) (p : RequestedProduct)
    (line : PreparedLine) : Prop :=
  ∃ normalized, normalizeRequested (shop.getProducts r.place.warehouseId r.dto.reservationId) p =
      .ok normalized ∧
    prepareLine (shop.getSelectedLotAvailability r.place.warehouseId) context.businessDate
      r.permissions.canOverrideExpired
      (resolvePrice shop.priceLists r.priceContext context.currency shop.now) normalized = .ok line

section Content

variable {toUpperCase : Text → Text} {shop : Shop} {r first second : SaleRequest}
  {context : CartContext} {content c₁ c₂ : SaleContent} {preparedLines : List PreparedLine}
  {p : RequestedProduct} {line : PreparedLine}

theorem prepareLines_eq_ok
    (h : prepareLines shop r.place r.permissions context r.dto.cart = .ok preparedLines) :
    List.Forall₂ (Prepares shop r context) (grouped r.dto.lines) preparedLines := by
  simp only [prepareLines, eq_ok] at h
  obtain ⟨_, _, requested, hrequested, _, _, _, _, _, _, normalized, hnormalized, _, _, _, _, h⟩ :=
    h
  have hgrouped : requested = grouped r.dto.lines := foldlM_addLine hrequested
  exact hgrouped ▸ mapM_mapM_eq_ok hnormalized h

/-- **The parts of the sale of a request.** -/
theorem prepareSale_eq_ok (h : prepareSale toUpperCase shop r = .ok content) :
    ∃ context preparedLines promotions quote shift payments, r.context shop = some context ∧
      List.Forall₂ (Prepares shop r context) (grouped r.dto.lines) preparedLines ∧
      PromotionEngine.resolve shop.promotions r.priceContext shop.now
        (preparedLines.map PreparedLine.promotionLine) = .ok promotions ∧
      quoteLines shop r.place context r.dto.cart promotions preparedLines = .ok quote ∧
      shop.store.currentShift r.place.branchId r.place.cashRegisterId r.place.userId = some shift ∧
      preparePayments shop.store.env r.dto quote.payable = .ok payments ∧
      content = {
        place := r.place, cashRegisterShiftId := shift.id, customerId := r.dto.customerId,
        reservationId := r.dto.reservationId, suspendedSaleId := r.dto.suspendedSaleId,
        quotationId := r.sourceQuotationId, businessDate := quote.businessDate,
        currency := quote.currency, taxRate := quote.taxRate, discount := quote.discount,
        loyalty := quote.loyalty, lines := quote.lines.map (QuoteLine.sold toUpperCase),
        totals := quote.totals, payments := payments, credit := r.dto.credit } := by
  simp only [prepareSale, quoteCart, eq_ok] at h
  obtain ⟨quote, ⟨_, _, context, hcontext, preparedLines, hprepared, promotions, hpromotions,
    hquote⟩, shift, hshift, payments, hpayments, rfl⟩ := h
  exact ⟨context, preparedLines, promotions, quote, shift, payments, hcontext,
    prepareLines_eq_ok hprepared, hpromotions, hquote, hshift, hpayments, rfl⟩

theorem Prepares.promotionLine
    (hcontext : r.context shop = some context) (h : Prepares shop r context p line) :
    r.promotionLine shop p = some line.promotionLine ∧ line.productId = p.productId := by
  obtain ⟨normalized, hnormalized, hline⟩ := h
  simp only [normalizeRequested, eq_ok, mapError_eq_ok]
    at hnormalized
  obtain ⟨product, hproduct, quantity, hquantity, rfl⟩ := hnormalized
  obtain ⟨selected, available, expiredReason, price, cents, _, _, hprice, _, rfl⟩ :=
    prepareLine_eq_ok hline
  refine ⟨?_, rfl⟩
  have hunit : price.unitPrice = (p.manualPrice.map toMoneyCents).getD
      (referencePrice product (r.listPrice shop p.productId)).unitPrice := by
    rw [SaleRequest.listPrice, hcontext, Option.bind_some]
    cases hmanual : p.manualPrice with
    | none =>
      rw [linePrice_none hmanual hprice]
      rfl
    | some manualPrice =>
      rw [linePrice_some hmanual hprice]
      rfl
  rw [SaleRequest.promotionLine, hproduct, Option.bind_some, hquantity, ← hunit]
  rfl

theorem promotionLines_of_prepares {requested : List RequestedProduct}
    (hcontext : r.context shop = some context)
    (h : List.Forall₂ (Prepares shop r context) requested preparedLines) :
    requested.filterMap (r.promotionLine shop) = preparedLines.map PreparedLine.promotionLine := by
  induction h with
  | nil => rfl
  | cons hhead _ ih =>
    rw [filterMap_cons_some (hhead.promotionLine hcontext).1, ih, map_cons]

theorem promotions_of_prepareSale (h : prepareSale toUpperCase shop r = .ok content) :
    r.promotions shop = .ok (content.lines.map SoldLine.promotions) := by
  obtain ⟨context, preparedLines, promotions, quote, _, _, hcontext, hprepared, hpromotions,
    hquote, _, _, rfl⟩ := prepareSale_eq_ok h
  have himages : (quote.lines.map (QuoteLine.sold toUpperCase)).map
      (fun l ↦ (l.product, l.promotions)) =
        preparedLines.map fun line ↦ (line.sold toUpperCase, promotions line.productId) :=
    quoteLines_images hquote
  have hids : preparedLines.map PreparedLine.productId =
      (grouped r.dto.lines).map RequestedProduct.productId :=
    map_eq_of_forall₂ (fun _ _ h ↦ (h.promotionLine hcontext).2) hprepared
  rw [SaleRequest.promotions, promotionLines_of_prepares hcontext hprepared, hpromotions]
  refine congrArg Except.ok ?_
  calc (grouped r.dto.lines).map (fun p ↦ promotions p.productId)
      = preparedLines.map fun line ↦ promotions line.productId :=
        (map_comp_congr hids promotions).symm
    _ = (quote.lines.map (QuoteLine.sold toUpperCase)).map SoldLine.promotions :=
        (map_comp_congr himages Prod.snd).symm

theorem Prepares.sold_eq_iff {p' : RequestedProduct} {line' : PreparedLine}
    (hplace : first.place = second.place)
    (hreservation : first.dto.reservationId = second.dto.reservationId)
    (hcontext : first.context shop = some context) (h : Prepares shop first context p line)
    (h' : Prepares shop second context p' line')
    (hcanonical : p.canonical toUpperCase = p'.canonical toUpperCase) :
    line.sold toUpperCase = line'.sold toUpperCase ↔ AskedAlike shop first second p p' := by
  obtain ⟨normalized, hnormalized, hline⟩ := h
  obtain ⟨normalized', hnormalized', hline'⟩ := h'
  rw [← hplace, ← hreservation] at hnormalized'
  rw [← hplace] at hline'
  have hcontext' : second.context shop = some context := by
    rw [← hcontext, SaleRequest.context, SaleRequest.context, hplace]
  obtain ⟨hid, hunits, _⟩ := canonical_eq_iff.mp hcanonical
  simp only [normalizeRequested, eq_ok, mapError_eq_ok]
    at hnormalized hnormalized'
  obtain ⟨product, hproduct, quantity, hquantity, rfl⟩ := hnormalized
  obtain ⟨product', hproduct', quantity', hquantity', rfl⟩ := hnormalized'
  obtain rfl : product = product' := by
    rw [← hid, hproduct, Option.some.injEq] at hproduct'
    exact hproduct'
  obtain rfl : quantity = quantity' := by
    rw [← hunits, hquantity, Except.ok.injEq] at hquantity'
    exact hquantity'
  have hiff := fun hproduct hquantity ↦
    Cart.sold_eq_iff hcanonical hproduct hquantity hline hline'
  rw [hiff rfl rfl]
  have hlist : first.listPrice shop p.productId =
      resolvePrice shop.priceLists first.priceContext context.currency shop.now p.productId := by
    rw [SaleRequest.listPrice, hcontext, Option.bind_some]
  have hlist' : second.listPrice shop p'.productId =
      resolvePrice shop.priceLists second.priceContext context.currency shop.now p'.productId := by
    rw [SaleRequest.listPrice, hcontext', Option.bind_some]
  have hexpired : first.TakesExpired shop p ↔ Cart.TakesExpired
      (shop.getSelectedLotAvailability first.place.warehouseId) context.businessDate p := by
    rw [SaleRequest.TakesExpired, hcontext]
    simp
  constructor
  · rintro ⟨hprice, hreason⟩
    exact ⟨hid, fun hmanual ↦ by rw [hlist, hlist', hprice hmanual],
      fun htakes ↦ hreason (hexpired.mp htakes)⟩
  · rintro ⟨_, hprice, hreason⟩
    exact ⟨fun hmanual ↦ by rw [← hlist, ← hlist', hprice hmanual],
      fun htakes ↦ hreason (hexpired.mpr htakes)⟩

theorem sold_products_eq_iff {prepared prepared' : List PreparedLine}
    (halike : HashedAlike toUpperCase first.dto second.dto) (hplace : first.place = second.place)
    (hcontext : first.context shop = some context)
    (h : List.Forall₂ (Prepares shop first context) (grouped first.dto.lines) prepared)
    (h' : List.Forall₂ (Prepares shop second context) (grouped second.dto.lines) prepared') :
    prepared.map (PreparedLine.sold toUpperCase) = prepared'.map (PreparedLine.sold toUpperCase) ↔
      List.Forall₂ (AskedAlike shop first second) (grouped first.dto.lines)
        (grouped second.dto.lines) := by
  have hcontext' : second.context shop = some context := by
    rw [← hcontext, SaleRequest.context, SaleRequest.context, hplace]
  -- in the same order, products that are hashed alike are so one by one
  have hcanonical (hids : (grouped first.dto.lines).map RequestedProduct.productId =
      (grouped second.dto.lines).map RequestedProduct.productId) :
      (grouped first.dto.lines).map (RequestedProduct.canonical toUpperCase) =
        (grouped second.dto.lines).map (RequestedProduct.canonical toUpperCase) := by
    refine eq_of_perm_of_map_eq HashedProduct.productId ?_ halike.lines ?_
    · rw [map_map]
      exact nodup_grouped
    · rw [map_map, map_map]
      exact hids
  have hiff := fun hids ↦ map_eq_map_iff_forall₂ (fun _ _ _ _ hp hp' ↦
    hp.sold_eq_iff hplace halike.reservationId hcontext hp') h h' (hcanonical hids)
  constructor
  · intro hsold
    refine (hiff ?_).mp hsold
    rw [← map_eq_of_forall₂ (fun _ _ h ↦ (h.promotionLine hcontext).2) h,
      ← map_eq_of_forall₂ (fun _ _ h ↦ (h.promotionLine hcontext').2) h']
    exact map_comp_congr hsold SoldProduct.productId
  · intro hasked
    refine (hiff ?_).mpr hasked
    exact (map_eq_of_forall₂ (fun _ _ h ↦ h.productId.symm) hasked).symm

/-- **Requests that are hashed alike persist the same sale** exactly when they agree in the rest. -/
theorem content_eq_iff (halike : HashedAlike toUpperCase first.dto second.dto)
    (h₁ : prepareSale toUpperCase shop first = .ok c₁)
    (h₂ : prepareSale toUpperCase shop second = .ok c₂) :
    c₁ = c₂ ↔ UnhashedAlike shop first second := by
  have hpromotions₁ := promotions_of_prepareSale h₁
  have hpromotions₂ := promotions_of_prepareSale h₂
  obtain ⟨context, prepared, promotions, quote, shift, payments, hcontext, hprepared, _, hquote,
    hshift, hpayments, rfl⟩ := prepareSale_eq_ok h₁
  obtain ⟨context', prepared', promotions', quote', shift', payments', hcontext', hprepared', _,
    hquote', hshift', hpayments', rfl⟩ := prepareSale_eq_ok h₂
  have himages : (quote.lines.map (QuoteLine.sold toUpperCase)).map
      (fun l ↦ (l.product, l.promotions)) =
        prepared.map fun line ↦ (line.sold toUpperCase, promotions line.productId) :=
    quoteLines_images hquote
  have himages' : (quote'.lines.map (QuoteLine.sold toUpperCase)).map
      (fun l ↦ (l.product, l.promotions)) =
        prepared'.map fun line ↦ (line.sold toUpperCase, promotions' line.productId) :=
    quoteLines_images hquote'
  have hsameContext (hplace : first.place = second.place) : context = context' := by
    rw [SaleRequest.context, ← hplace, ← SaleRequest.context, hcontext, Option.some.injEq]
      at hcontext'
    exact hcontext'
  constructor
  · intro hcontent
    rw [hcontent] at hpromotions₁
    simp only [SaleContent.mk.injEq] at hcontent
    obtain ⟨hplace, _, _, _, _, hquotation, _, _, _, _, _, hlines, _⟩ := hcontent
    obtain rfl := hsameContext hplace
    refine ⟨hplace, hquotation, ?_, hpromotions₁.trans hpromotions₂.symm⟩
    refine (sold_products_eq_iff halike hplace hcontext hprepared hprepared').mp ?_
    rw [hlines, himages'] at himages
    exact (map_comp_congr himages Prod.fst).symm
  · rintro ⟨hplace, hquotation, hproducts, hpromotions⟩
    obtain rfl := hsameContext hplace
    have hsold := (sold_products_eq_iff halike hplace hcontext hprepared hprepared').mpr hproducts
    have happlied : prepared.map (fun line ↦ promotions line.productId) =
        prepared'.map fun line ↦ promotions' line.productId := by
      rw [hpromotions₁, hpromotions₂, Except.ok.injEq] at hpromotions
      rw [← map_comp_congr himages Prod.snd, ← map_comp_congr himages' Prod.snd]
      exact hpromotions
    rw [← hplace] at hquote' hshift'
    obtain ⟨hlines, hdiscount, hloyalty, htotals⟩ := quoteLines_congr
      (map_pair_congr hsold happlied) halike.discount halike.customerId halike.loyaltyPoints
      hquote hquote'
    have hpayable : quote.payable = quote'.payable := by
      rw [Quote.payable, Quote.payable, hloyalty, htotals]
    rw [hpayable] at hpayments
    obtain ⟨_, _, _, _, _, _, _, _, hdate, hcurrency, hrate, _⟩ := quoteLines_eq_ok hquote
    obtain ⟨_, _, _, _, _, _, _, _, hdate', hcurrency', hrate', _⟩ := quoteLines_eq_ok hquote'
    obtain rfl : shift = shift' := by
      rw [hshift, Option.some.injEq] at hshift'
      exact hshift'
    rw [SaleContent.mk.injEq]
    exact ⟨hplace, rfl, halike.customerId, halike.reservationId, halike.suspendedSaleId,
      hquotation, hdate.trans hdate'.symm, hcurrency.trans hcurrency'.symm,
      hrate.trans hrate'.symm, hdiscount, hloyalty, hlines, htotals,
      preparePayments_congr halike.credit halike.payments hpayments hpayments', halike.credit⟩

end Content

/-! ### Answers -/

section Answers

variable {toUpperCase : Text → Text} {commit : Persist}
  {desk : Desk} {r first second : SaleRequest} {answer a₁ a₂ : Answer}
  {fingerprint : SaleFingerprint} {sale : RecordedSale}

theorem createSale_new (h : createSale toUpperCase commit desk r = .ok answer)
    (hnew : answer.replay = false) :
    ∃ fingerprint shop, assertCredit r = .ok ⟨⟩ ∧
      saleFingerprint toUpperCase r.dto = .ok fingerprint ∧
      desk.saleByKey r.idempotencyKey = none ∧
      prepareSale toUpperCase desk.shop r = .ok answer.sale ∧
      answer.desk = {
        shop := shop
        sales := desk.sales ++ [{
          idempotencyKey := r.idempotencyKey, fingerprint := fingerprint,
          content := answer.sale }] } := by
  simp only [createSale, bind_eq_ok] at h
  obtain ⟨⟨⟩, hcredit, fingerprint, hfingerprint, h⟩ := h
  split at h
  case h_1 sale _ =>
    simp only [replaySale, eq_ok] at h
    obtain ⟨_, _, rfl⟩ := h
    cases hnew
  case h_2 hkey =>
    simp only [persistSale, eq_ok, hkey] at h
    obtain ⟨content, hcontent, shop, _, rfl⟩ := h
    exact ⟨fingerprint, shop, hcredit, hfingerprint, hkey, hcontent, rfl⟩

theorem createSale_used (hcredit : assertCredit r = .ok ⟨⟩)
    (hfingerprint : saleFingerprint toUpperCase r.dto = .ok fingerprint)
    (hkey : desk.saleByKey r.idempotencyKey = some sale) :
    createSale toUpperCase commit desk r = replaySale desk fingerprint sale := by
  rw [createSale, hcredit, ok_bind, hfingerprint, ok_bind, hkey]

theorem saleByKey_append {idempotencyKey : Text} (hkey : desk.saleByKey idempotencyKey = none)
    (hsale : sale.idempotencyKey = idempotencyKey) (shop : Shop) :
    Desk.saleByKey { shop := shop, sales := desk.sales ++ [sale] } idempotencyKey = some sale := by
  rw [Desk.saleByKey] at hkey
  rw [Desk.saleByKey, find?_append, hkey, Option.none_or, find?_singleton,
    if_pos (decide_eq_true hsale)]

theorem createSale_other {fingerprint' : SaleFingerprint}
    (h : createSale toUpperCase commit desk first = .ok a₁) (hnew : a₁.replay = false)
    (hkey : first.idempotencyKey = second.idempotencyKey) (hcredit : assertCredit second = .ok ⟨⟩)
    (hfirst : saleFingerprint toUpperCase first.dto = .ok fingerprint)
    (hsecond : saleFingerprint toUpperCase second.dto = .ok fingerprint')
    (hne : fingerprint ≠ fingerprint') :
    createSale toUpperCase commit a₁.desk second = .error (.store .posIdempotencyConflict) := by
  obtain ⟨recorded, shop, _, hrecorded, hunused, _, hdesk⟩ := createSale_new h hnew
  obtain rfl : recorded = fingerprint := by
    rw [hfirst, Except.ok.injEq] at hrecorded
    exact hrecorded.symm
  rw [hkey] at hunused
  rw [hdesk, createSale_used hcredit hsecond (saleByKey_append hunused hkey shop), replaySale,
    ensure, if_neg hne]
  rfl

/-- **A request that would have persisted another sale is refused** exactly when it differs in what
is hashed, or agrees also in the rest. -/
theorem refusesOther_iff (hkey : first.idempotencyKey = second.idempotencyKey)
    (h₁ : createSale toUpperCase commit desk first = .ok a₁) (hnew₁ : a₁.replay = false)
    (h₂ : createSale toUpperCase commit desk second = .ok a₂) (hnew₂ : a₂.replay = false) :
    (a₁.sale ≠ a₂.sale →
      saleFingerprint toUpperCase first.dto ≠ saleFingerprint toUpperCase second.dto ∧
      createSale toUpperCase commit a₁.desk second = .error (.store .posIdempotencyConflict)) ↔
    (HashedAlike toUpperCase first.dto second.dto → UnhashedAlike desk.shop first second) := by
  obtain ⟨fingerprint₁, _, _, hfirst, _, hsale₁, _⟩ := createSale_new h₁ hnew₁
  obtain ⟨fingerprint₂, _, hcredit, hsecond, _, hsale₂, _⟩ := createSale_new h₂ hnew₂
  constructor
  · intro hrefuses halike
    refine (content_eq_iff halike hsale₁ hsale₂).mp ?_
    by_contra hne
    have hequal := (fingerprint_eq_iff hfirst hsecond).mpr halike
    exact (hrefuses hne).1 (by rw [hfirst, hsecond, hequal])
  · intro hcovered hne
    have hdiffer : fingerprint₁ ≠ fingerprint₂ := by
      intro hequal
      have halike := (fingerprint_eq_iff hfirst hsecond).mp hequal
      exact hne ((content_eq_iff halike hsale₁ hsale₂).mpr (hcovered halike))
    refine ⟨?_, createSale_other h₁ hnew₁ hkey hcredit hfirst hsecond hdiffer⟩
    rw [hfirst, hsecond]
    exact fun h ↦ hdiffer (Except.ok.inj h)

end Answers

/-! ### Two channels -/

/-- A shift is open; a product costs ten units, and eight on the price list of the web. -/
def webShop : Shop :=
  { Shop.opened .empty 1000 with
    priceLists := [{
      id := 5, scope := { channel := some .WEB }, priority := 1, validFrom := 0, currency := .MXN
      items := [{ productId := 7, price := 800 }] }] }

def oneUnit (channel : PriceChannel) : SaleRequest where
  place := ⟨1, 1, 1, 1⟩
  idempotencyKey := [1]
  dto := {
    channel := some channel
    lines := [{ productId := 7, quantity := .ofNat 1 }]
    payment := some { method := .CASH, amountReceived := some (.ofNat 10) } }

def webDesk : Desk where
  shop := webShop
  sales := []

def keepShop (shop : Shop) (_content : SaleContent) : Except CartFailure Shop :=
  .ok shop

/-- The total of the sale a request is answered with, and whether it is a replay. -/
def answerTo (desk : Desk) (r : SaleRequest) : Except CartFailure (ℤ × Bool) :=
  (createSale id keepShop desk r).map fun answer ↦ (answer.sale.totals.total, answer.replay)

theorem isSome_createSale_oneUnit (channel : PriceChannel) :
    (createSale id keepShop webDesk (oneUnit channel)).toOption.isSome = true := by
  cases channel <;> decide +kernel

def webAnswer (channel : PriceChannel) : Answer :=
  (createSale id keepShop webDesk (oneUnit channel)).toOption.get
    (isSome_createSale_oneUnit channel)

theorem createSale_oneUnit (channel : PriceChannel) :
    createSale id keepShop webDesk (oneUnit channel) = .ok (webAnswer channel) :=
  eq_ok_get (isSome_createSale_oneUnit channel)

theorem refusesOther_iff_twoChannels : ((webAnswer .POS).sale ≠ (webAnswer .WEB).sale →
      saleFingerprint id (oneUnit .POS).dto ≠ saleFingerprint id (oneUnit .WEB).dto ∧
      createSale id keepShop (webAnswer .POS).desk (oneUnit .WEB) =
        .error (.store .posIdempotencyConflict)) ↔
    (HashedAlike id (oneUnit .POS).dto (oneUnit .WEB).dto →
      UnhashedAlike webShop (oneUnit .POS) (oneUnit .WEB)) :=
  refusesOther_iff (show (oneUnit .POS).idempotencyKey = (oneUnit .WEB).idempotencyKey from rfl)
    (createSale_oneUnit .POS) rfl (createSale_oneUnit .WEB) rfl

/-- **The channel is not hashed.** The request of the web is answered with the sale of the counter.
-/
theorem channel_not_fingerprinted : answerTo webDesk (oneUnit .POS) = .ok (1000, false) ∧
    answerTo webDesk (oneUnit .WEB) = .ok (800, false) ∧
    saleFingerprint id (oneUnit .POS).dto = saleFingerprint id (oneUnit .WEB).dto ∧
    answerTo (webAnswer .POS).desk (oneUnit .WEB) = .ok (1000, true) := by
  exact ⟨rfl, rfl, rfl, rfl⟩

end UInventario.Pos.Cart
