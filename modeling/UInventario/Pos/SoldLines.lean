import UInventario.Foundations.Pointwise
import UInventario.Pos.HashedRequests

/-!
# What a product is sold for

`prepareLine` reads more of a request than what is hashed of it. For two requests whose product is
hashed alike, `sold_eq_iff` says when what is persisted of it is the same all the same: when its
list price is, unless the price is set by hand, and when the reasons are, if the lot it is taken
from has expired.
-/

namespace UInventario.Pos.Cart

open Outcome Option

/-! ### Discounts -/

theorem trimmed_eq_iff {discount discount' : SaleDiscountDto} :
    discount.trimmed = discount'.trimmed ↔ discount.type = discount'.type ∧
      discount.value = discount'.value ∧ trim discount.reason = trim discount'.reason := by
  simp only [SaleDiscountDto.trimmed, SaleDiscountDto.mk.injEq]

section Discount

variable {discount discount' : Option SaleDiscountDto}

section

variable (h : discount.map SaleDiscountDto.trimmed = discount'.map SaleDiscountDto.trimmed)
include h

theorem discountAmount_congr
    (baseCents : ℤ) : discountAmount discount baseCents = discountAmount discount' baseCents := by
  cases discount with
  | none =>
    rw [map_none, Eq.comm, map_eq_none_iff] at h
    rw [h]
  | some d =>
    cases discount' with
    | none => simp at h
    | some d' =>
      obtain ⟨htype, hvalue, hreason⟩ := trimmed_eq_iff.mp (Option.some.inj h)
      simp only [discountAmount, htype, hvalue, hreason]

theorem appliedDiscount_congr (amountCents : ℤ) :
    appliedDiscount discount amountCents = appliedDiscount discount' amountCents := by
  cases discount with
  | none =>
    rw [map_none, Eq.comm, map_eq_none_iff] at h
    rw [h]
  | some d =>
    cases discount' with
    | none => simp at h
    | some d' =>
      obtain ⟨htype, hvalue, hreason⟩ := trimmed_eq_iff.mp (Option.some.inj h)
      simp only [appliedDiscount, map_some, htype, hvalue, hreason]

end

end Discount

/-! ### Prices -/

theorem referencePrice_injective (product : PosProductSnapshot) :
    Function.Injective (referencePrice product) := by
  intro resolved resolved' h
  cases resolved with
  | none => cases resolved' with
    | none => rfl
    | some _ => simp [referencePrice] at h
  | some r => cases resolved' with
    | none => simp [referencePrice] at h
    | some r' =>
      obtain ⟨price, priceListId⟩ := r
      obtain ⟨price', priceListId'⟩ := r'
      simpa [referencePrice] using h

section Line

variable {lot : Uuid → Uuid → Option SelectedLot} {businessDate : Day}
  {canOverrideExpired canOverrideExpired' : Bool} {resolve resolve' : Uuid → Option ResolvedPrice}
  {p p' : NormalizedProduct} {line line' : PreparedLine} {toUpperCase : Text → Text}

def TakesExpired (lot : Uuid → Uuid → Option SelectedLot) (businessDate : Day)
    (r : RequestedProduct) : Prop :=
  ∃ lotId selected, r.lotId = some lotId ∧ lot r.productId lotId = some selected ∧
    selected.expired businessDate = true

variable {resolved : Option ResolvedPrice} {price : LinePrice}

theorem linePrice_none (hmanual : p.requested.manualPrice = none)
    (h : linePrice p resolved = .ok price) :
    price = referencePrice p.product resolved := by
  simp only [linePrice, hmanual, pure_eq_ok] at h
  exact h.symm

theorem linePrice_some {manualPrice : DecimalString 2}
    (hmanual : p.requested.manualPrice = some manualPrice) (h : linePrice p resolved = .ok price) :
    price = { unitPrice := toMoneyCents manualPrice, priceSource := .MANUAL,
              priceOverrideReason := p.requested.overrideReason, priceListId := none } := by
  simp only [linePrice, hmanual, eq_ok] at h
  obtain ⟨_, _, _, _, h⟩ := h
  exact h.symm

theorem linePrice_eq_iff {resolved' : Option ResolvedPrice} {price' : LinePrice}
    (hmanual : p.requested.manualPrice = p'.requested.manualPrice)
    (hreason : p.requested.overrideReason = p'.requested.overrideReason)
    (hproduct : p.product = p'.product) (h : linePrice p resolved = .ok price)
    (h' : linePrice p' resolved' = .ok price') :
    price = price' ↔ (p.requested.manualPrice = none → resolved = resolved') := by
  cases hset : p.requested.manualPrice with
  | none =>
    rw [linePrice_none hset h, linePrice_none (hmanual ▸ hset) h', ← hproduct,
      (referencePrice_injective p.product).eq_iff]
    exact ⟨fun h _ ↦ h, fun h ↦ h rfl⟩
  | some manualPrice =>
    rw [linePrice_some hset h, linePrice_some (hmanual ▸ hset) h', hreason]
    simp

theorem expiredLotReason_eq_ok {selected : Option SelectedLot} {availableQuantity : ℤ}
    {reason reason' : Option Text} (hlot : selectLot lot p = .ok (selected, availableQuantity))
    (h : expiredLotReason selected businessDate canOverrideExpired reason = .ok reason') :
    (TakesExpired lot businessDate p.requested → reason' = reason) ∧
      (¬TakesExpired lot businessDate p.requested → reason' = none) := by
  have hexpired : TakesExpired lot businessDate p.requested ↔
      selected.filter (fun lot ↦ lot.expired businessDate) ≠ none := by
    rw [selectLot] at hlot
    split at hlot
    case h_1 hnone =>
      rw [pure_eq_ok, Prod.mk.injEq] at hlot
      simp [TakesExpired, hnone, ← hlot.1]
    case h_2 lotId hsome =>
      simp only [eq_ok, Prod.mk.injEq] at hlot
      obtain ⟨found, hfound, rfl, _⟩ := hlot
      simp [TakesExpired, hsome, hfound, filter_some]
  rw [hexpired]
  rw [expiredLotReason] at h
  split at h
  case h_1 hnone =>
    rw [pure_eq_ok] at h
    exact ⟨fun hne ↦ absurd hnone hne, fun _ ↦ h.symm⟩
  case h_2 found hsome =>
    simp only [eq_ok] at h
    obtain ⟨_, _, _, _, _, _, h⟩ := h
    exact ⟨fun _ ↦ h.symm, fun hne ↦ absurd (hsome ▸ some_ne_none found) hne⟩

theorem prepareLine_eq_ok
    (h : prepareLine lot businessDate canOverrideExpired resolve p = .ok line) :
    ∃ selected availableQuantity expiredReason price lineDiscountCents,
      selectLot lot p = .ok (selected, availableQuantity) ∧
      expiredLotReason selected businessDate canOverrideExpired p.requested.expiredReason =
        .ok expiredReason ∧
      linePrice p (resolve p.requested.productId) = .ok price ∧
      discountAmount p.requested.discount (roundDivide (price.unitPrice * p.quantity) 1000) =
        .ok lineDiscountCents ∧
      line = {
        productId := p.requested.productId
        stockBehavior := p.product.stockBehavior
        taxBehavior := p.product.taxBehavior
        quantity := p.quantity
        note := p.requested.note
        lotId := p.requested.lotId
        expiredLotOverrideReason := expiredReason
        serialNumbers := p.requested.serialNumbers
        availableQuantity := availableQuantity
        kit := p.product.kit.map fun kit ↦ kitQuote kit p.quantity
        unitPrice := price.unitPrice
        priceSource := price.priceSource
        priceOverrideReason := price.priceOverrideReason
        priceListId := price.priceListId
        grossCents := roundDivide (price.unitPrice * p.quantity) 1000
        lineDiscountCents := lineDiscountCents
        requestedDiscount := p.requested.discount } := by
  simp only [prepareLine, eq_ok] at h
  obtain ⟨_, _, _, _, ⟨selected, availableQuantity⟩, hlot, expiredReason, hexpired, _, _, price,
    hprice, lineDiscountCents, hdiscount, h⟩ := h
  exact ⟨selected, availableQuantity, expiredReason, price, lineDiscountCents, hlot, hexpired,
    hprice, hdiscount, h.symm⟩

theorem canonical_eq_iff {r r' : RequestedProduct} :
    r.canonical toUpperCase = r'.canonical toUpperCase ↔
      r.productId = r'.productId ∧ r.quantity = r'.quantity ∧ r.lotId = r'.lotId ∧
      normalizedSerials toUpperCase r.serialNumbers =
        normalizedSerials toUpperCase r'.serialNumbers ∧
      r.discount.map SaleDiscountDto.trimmed = r'.discount.map SaleDiscountDto.trimmed ∧
      r.note = r'.note ∧ r.manualPrice = r'.manualPrice ∧ r.overrideReason = r'.overrideReason := by
  simp only [RequestedProduct.canonical, HashedProduct.canonical, RequestedProduct.hashed,
    HashedProduct.mk.injEq]

/-- **Products that are hashed alike are sold alike** when price and expiry reason are the same. -/
theorem sold_eq_iff
    (hcanonical : p.requested.canonical toUpperCase = p'.requested.canonical toUpperCase)
    (hproduct : p.product = p'.product) (hquantity : p.quantity = p'.quantity)
    (h : prepareLine lot businessDate canOverrideExpired resolve p = .ok line)
    (h' : prepareLine lot businessDate canOverrideExpired' resolve' p' = .ok line') :
    line.sold toUpperCase = line'.sold toUpperCase ↔ (p.requested.manualPrice = none →
        resolve p.requested.productId = resolve' p'.requested.productId) ∧
      (TakesExpired lot businessDate p.requested →
        p.requested.expiredReason = p'.requested.expiredReason) := by
  obtain ⟨hid, _, hlotId, hserials, htrimmed, hnote, hmanual, hoverride⟩ :=
    canonical_eq_iff.mp hcanonical
  obtain ⟨selected, available, expiredReason, price, cents, hlot, hexpired, hprice, hcents, rfl⟩ :=
    prepareLine_eq_ok h
  obtain ⟨selected', available', expiredReason', price', cents', hlot', hexpired', hprice',
    hcents', rfl⟩ := prepareLine_eq_ok h'
  have hpriceIff := linePrice_eq_iff hmanual hoverride hproduct hprice hprice'
  obtain ⟨hkept, hdropped⟩ := expiredLotReason_eq_ok hlot hexpired
  obtain ⟨hkept', hdropped'⟩ := expiredLotReason_eq_ok hlot' hexpired'
  have htakes : TakesExpired lot businessDate p.requested ↔
      TakesExpired lot businessDate p'.requested := by
    rw [TakesExpired, TakesExpired, hid, hlotId]
  have hreasonIff : expiredReason = expiredReason' ↔ (TakesExpired lot businessDate p.requested →
      p.requested.expiredReason = p'.requested.expiredReason) := by
    by_cases ht : TakesExpired lot businessDate p.requested
    · rw [hkept ht, hkept' (htakes.mp ht)]
      exact ⟨fun h _ ↦ h, fun h ↦ h ht⟩
    · rw [hdropped ht, hdropped' fun ht' ↦ ht (htakes.mpr ht')]
      exact ⟨fun _ ht' ↦ absurd ht' ht, fun _ ↦ rfl⟩
  rw [← hpriceIff, ← hreasonIff]
  constructor
  · intro hsold
    simp only [PreparedLine.sold, SoldProduct.mk.injEq] at hsold
    obtain ⟨_, _, _, _, _, _, hreason, _, _, hunit, hsource, hwhy, hlist, _, _, _⟩ := hsold
    refine ⟨?_, hreason⟩
    rw [LinePrice.mk.injEq]
    exact ⟨hunit, hsource, hwhy, hlist⟩
  · rintro ⟨rfl, rfl⟩
    have hsame : cents = cents' := by
      rw [discountAmount_congr htrimmed, hquantity, hcents', Except.ok.injEq] at hcents
      exact hcents.symm
    simp only [PreparedLine.sold, hid, hproduct, hquantity, hnote, hlotId, hserials, hsame,
      appliedDiscount_congr htrimmed]

end Line

end UInventario.Pos.Cart
