import UInventario.Pos.SaleRequests

/-!
# What the fingerprint of a sale tells apart

`quoteCart` and `saleFingerprint` each add up the lines of a request. Where they succeed both
compute the same list (`grouped`), except that the second does not collect the reason for which an
expired lot is sold: `foldlM_addLine` and `foldlM_hashLine`.

`HashedAlike` says of two requests that they agree in what is hashed, and `fingerprint_eq_iff` that
this is when their fingerprints are equal. The products are compared in any order.
-/

namespace UInventario.Pos.Cart

open Outcome List

/-! ### Lines added up by product -/

def groupLine (requested : List RequestedProduct) (line : QuoteCartLineDto) :
    List RequestedProduct :=
  match requested.find? fun r ↦ r.productId = line.productId with
  | none => requested ++ [.ofLine line]
  | some _ => requested.map fun r ↦ if r.productId = line.productId then r.add line else r

/-- **The products of a cart**, in the order in which they first occur. -/
def grouped (lines : List QuoteCartLineDto) : List RequestedProduct :=
  lines.foldl groupLine []

def RequestedProduct.hashed (r : RequestedProduct) : HashedProduct where
  productId := r.productId
  quantity := r.quantity
  lotId := r.lotId
  serialNumbers := r.serialNumbers
  discount := r.discount
  note := r.note
  manualPrice := r.manualPrice
  overrideReason := r.overrideReason

section Grouping

variable {requested requested' : List RequestedProduct} {line : QuoteCartLineDto}
  {lines : List QuoteCartLineDto}

theorem addLine_eq_ok (h : addLine requested line = .ok requested') :
    requested' = groupLine requested line := by
  simp only [addLine, eq_ok] at h
  obtain ⟨_, _, h⟩ := h
  rw [groupLine]
  cases hfind : requested.find? fun r ↦ r.productId = line.productId with
  | none =>
    rw [hfind] at h
    exact (pure_eq_ok.mp h).symm
  | some previous =>
    simp only [hfind, eq_ok] at h
    obtain ⟨_, _, _, _, _, _, _, _, h⟩ := h
    exact h.symm

theorem foldlM_addLine :
    ∀ {lines : List QuoteCartLineDto} {requested requested' : List RequestedProduct},
      lines.foldlM addLine requested = .ok requested' →
        requested' = lines.foldl groupLine requested := by
  intro lines
  induction lines with
  | nil =>
    intro requested requested' h
    exact (foldlM_nil_eq_ok.mp h).symm
  | cons line lines ih =>
    intro requested requested' h
    obtain ⟨next, hline, h⟩ := foldlM_cons_eq_ok.mp h
    rw [ih h, addLine_eq_ok hline, foldl_cons]

theorem find?_map_hashed (productId : Uuid) :
    (requested.map RequestedProduct.hashed).find? (fun h ↦ h.productId = productId) =
      (requested.find? fun r ↦ r.productId = productId).map RequestedProduct.hashed := by
  rw [find?_map]
  rfl

theorem RequestedProduct.hashed_add (r : RequestedProduct) :
    (r.add line).hashed = r.hashed.add line := rfl

theorem hashLine_eq_ok {hashed : List HashedProduct}
    (h : hashLine (requested.map RequestedProduct.hashed) line = .ok hashed) :
    hashed = (groupLine requested line).map RequestedProduct.hashed := by
  rw [hashLine, find?_map_hashed] at h
  rw [groupLine]
  cases hfind : requested.find? fun r ↦ r.productId = line.productId with
  | none =>
    rw [hfind, Option.map_none] at h
    have h := pure_eq_ok.mp h
    rw [← h, map_append]
    rfl
  | some previous =>
    rw [hfind, Option.map_some] at h
    simp only [eq_ok] at h
    obtain ⟨_, _, _, _, _, _, rfl⟩ := h
    rw [map_map, map_map]
    refine map_congr_left fun r _ ↦ ?_
    show (if r.productId = line.productId then r.hashed.add line else r.hashed) =
      (if r.productId = line.productId then r.add line else r).hashed
    split
    · rw [RequestedProduct.hashed_add]
    · rfl

theorem foldlM_hashLine : ∀ {lines : List QuoteCartLineDto} {requested : List RequestedProduct}
      {hashed : List HashedProduct},
      lines.foldlM hashLine (requested.map RequestedProduct.hashed) = .ok hashed →
        hashed = (lines.foldl groupLine requested).map RequestedProduct.hashed := by
  intro lines
  induction lines with
  | nil =>
    intro requested hashed h
    exact (foldlM_nil_eq_ok.mp h).symm
  | cons line lines ih =>
    intro requested hashed h
    obtain ⟨next, hline, h⟩ := foldlM_cons_eq_ok.mp h
    rw [hashLine_eq_ok hline] at h
    rw [ih h, foldl_cons]

theorem productIds_groupLine : (groupLine requested line).map RequestedProduct.productId =
      requested.map RequestedProduct.productId ++
        if line.productId ∈ requested.map RequestedProduct.productId then []
        else [line.productId] := by
  rw [groupLine]
  split
  case h_1 hfind =>
    rw [find?_eq_none] at hfind
    have hnew : line.productId ∉ requested.map RequestedProduct.productId := by
      intro hmem
      obtain ⟨r, hr, hid⟩ := mem_map.mp hmem
      exact hfind r hr (decide_eq_true hid)
    rw [if_neg hnew, map_append]
    rfl
  case h_2 previous hfind =>
    have hid : previous.productId = line.productId := by simpa using find?_some hfind
    have hmem : line.productId ∈ requested.map RequestedProduct.productId :=
      mem_map.mpr ⟨previous, mem_of_find?_eq_some hfind, hid⟩
    rw [if_pos hmem, append_nil, map_map]
    refine map_congr_left fun r _ ↦ ?_
    show (if r.productId = line.productId then r.add line else r).productId = r.productId
    split <;> rfl

theorem nodup_groupLine (h : (requested.map RequestedProduct.productId).Nodup) :
    ((groupLine requested line).map RequestedProduct.productId).Nodup := by
  rw [productIds_groupLine]
  split
  · rwa [append_nil]
  · next hnew =>
    exact nodup_append'.mpr ⟨h, nodup_singleton _, disjoint_singleton.mpr hnew⟩

theorem nodup_grouped : ((grouped lines).map RequestedProduct.productId).Nodup :=
  foldlRecOn lines groupLine (motive := fun requested ↦
    (requested.map RequestedProduct.productId).Nodup) nodup_nil
    fun _ h _ _ ↦ nodup_groupLine h

end Grouping

/-! ### Fingerprints -/

section Fingerprint

variable (toUpperCase : Text → Text)

def RequestedProduct.canonical (r : RequestedProduct) : HashedProduct :=
  r.hashed.canonical toUpperCase

/-- **Two requests agree in what is hashed.** -/
structure HashedAlike (first second : CreateSaleDto) : Prop where
  lines : ((grouped first.lines).map (RequestedProduct.canonical toUpperCase)).Perm
    ((grouped second.lines).map (RequestedProduct.canonical toUpperCase))
  payments : first.paymentList.map SalePaymentDto.hashed =
    second.paymentList.map SalePaymentDto.hashed
  credit : first.credit = second.credit
  customerId : first.customerId = second.customerId
  loyaltyPoints : first.loyaltyPointsToRedeem.getD 0 = second.loyaltyPointsToRedeem.getD 0
  reservationId : first.reservationId = second.reservationId
  suspendedSaleId : first.suspendedSaleId = second.suspendedSaleId
  discount : first.discount.map SaleDiscountDto.trimmed =
    second.discount.map SaleDiscountDto.trimmed

def hashedLines (dto : CreateSaleDto) : List HashedProduct :=
  (orderBy (fun a b : HashedProduct ↦ a.productId ≤ b.productId)
    ((grouped dto.lines).map RequestedProduct.hashed)).map (HashedProduct.canonical toUpperCase)

variable {toUpperCase} {first second dto : CreateSaleDto} {fingerprint : SaleFingerprint}

theorem saleFingerprint_eq_ok (h : saleFingerprint toUpperCase dto = .ok fingerprint) :
    fingerprint = {
      lines := hashedLines toUpperCase dto, payments := dto.paymentList.map SalePaymentDto.hashed,
      credit := dto.credit, customerId := dto.customerId,
      loyaltyPointsToRedeem := dto.loyaltyPointsToRedeem.getD 0, reservationId := dto.reservationId,
      suspendedSaleId := dto.suspendedSaleId,
      discount := dto.discount.map SaleDiscountDto.trimmed } := by
  simp only [saleFingerprint, eq_ok] at h
  obtain ⟨hashed, hlines, rfl⟩ := h
  have hhashed : hashed = (grouped dto.lines).map RequestedProduct.hashed := foldlM_hashLine hlines
  rw [hhashed]
  rfl

theorem hashedLines_perm : (hashedLines toUpperCase dto).Perm
    ((grouped dto.lines).map (RequestedProduct.canonical toUpperCase)) := by
  have := (orderBy_perm (fun a b : HashedProduct ↦ a.productId ≤ b.productId)
    ((grouped dto.lines).map RequestedProduct.hashed)).map (HashedProduct.canonical toUpperCase)
  rwa [map_map] at this

theorem hashedLines_sorted :
    (hashedLines toUpperCase dto).Pairwise fun a b ↦ a.productId < b.productId := by
  have hle : (orderBy (fun a b : HashedProduct ↦ a.productId ≤ b.productId)
      ((grouped dto.lines).map RequestedProduct.hashed)).Pairwise
        fun a b ↦ a.productId ≤ b.productId := pairwise_orderBy_key fun _ _ ↦ Iff.rfl
  have hne : (orderBy (fun a b : HashedProduct ↦ a.productId ≤ b.productId)
      ((grouped dto.lines).map RequestedProduct.hashed)).Pairwise
        fun a b ↦ a.productId ≠ b.productId := by
    refine pairwise_map.mp (((orderBy_perm _ _).map HashedProduct.productId).nodup_iff.mpr ?_)
    rw [map_map]
    exact nodup_grouped
  exact pairwise_map.mpr ((hle.and hne).imp fun ⟨hle, hne⟩ ↦ lt_of_le_of_ne hle hne)

theorem hashedLines_eq_iff : hashedLines toUpperCase first = hashedLines toUpperCase second ↔
    ((grouped first.lines).map (RequestedProduct.canonical toUpperCase)).Perm
      ((grouped second.lines).map (RequestedProduct.canonical toUpperCase)) := by
  constructor
  · intro h
    exact hashedLines_perm.symm.trans (h ▸ hashedLines_perm)
  · intro h
    refine List.Perm.eq_of_pairwise (fun a b _ _ hab hba ↦ ?_) hashedLines_sorted
      hashedLines_sorted (hashedLines_perm.trans (h.trans hashedLines_perm.symm))
    exact absurd hab (lt_asymm hba)

/-- **Fingerprints are equal when the requests agree in what is hashed**, and only then. -/
theorem fingerprint_eq_iff {fingerprint₁ fingerprint₂ : SaleFingerprint}
    (hfirst : saleFingerprint toUpperCase first = .ok fingerprint₁)
    (hsecond : saleFingerprint toUpperCase second = .ok fingerprint₂) :
    fingerprint₁ = fingerprint₂ ↔ HashedAlike toUpperCase first second := by
  rw [saleFingerprint_eq_ok hfirst, saleFingerprint_eq_ok hsecond, SaleFingerprint.mk.injEq,
    hashedLines_eq_iff]
  constructor
  · rintro ⟨h₁, h₂, h₃, h₄, h₅, h₆, h₇, h₈⟩
    exact ⟨h₁, h₂, h₃, h₄, h₅, h₆, h₇, h₈⟩
  · rintro ⟨h₁, h₂, h₃, h₄, h₅, h₆, h₇, h₈⟩
    exact ⟨h₁, h₂, h₃, h₄, h₅, h₆, h₇, h₈⟩

end Fingerprint

end UInventario.Pos.Cart
