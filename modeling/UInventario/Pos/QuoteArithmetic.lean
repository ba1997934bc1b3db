import UInventario.Pos.BundleSplit
import UInventario.Pos.QuoteAmounts

/-!
# The arithmetic of a quote

The amounts of a quote are rounded at several places: the gross amount of a line, a discount in per
cent, the share of a line in the discount of the sale, and the tax. What holds of them whatever the
rounding is `Quote.Adds`.

* A discount is less than half of what it is taken off (`discountAmount_bounds`), and a line is not
  taken off as a whole (`promoteLine_bounds`), so all weights of the lines are positive.
* The discount of the sale is shared by the largest remainders. The floors leave a cent for each
  line at most (`Shares.rest_le_length`), and no line gets more than one (`getElem?_handOut`); a
  floor and one cent more are no more than the weight (`share_le`).
-/

namespace UInventario.Pos.Cart

open Outcome Rounding List

/-! ### Handing out cents -/

theorem sum_modify_succ {l : List ℤ} {i : ℕ} (h : i < l.length) :
    (l.modify i (· + 1)).sum = l.sum + 1 := by
  induction l generalizing i with
  | nil => exact absurd h (Nat.not_lt_zero i)
  | cons a l ih =>
    cases i with
    | zero =>
      rw [modify_zero_cons, sum_cons, sum_cons]
      omega
    | succ i =>
      rw [modify_succ_cons, sum_cons, sum_cons, ih (Nat.lt_of_succ_lt_succ h)]
      omega

/-- **The cents are spent** when there are places enough. -/
theorem sum_handOut {order : List ShareRemainder} :
    ∀ {remainder : ℤ} {allocations : List ℤ}, 0 ≤ remainder → remainder ≤ order.length →
      (∀ entry ∈ order, entry.index < allocations.length) →
        (handOut remainder order allocations).sum = allocations.sum + remainder := by
  induction order with
  | nil =>
    intro remainder allocations hlow hup _
    rw [length_nil] at hup
    rw [handOut]
    omega
  | cons entry order ih =>
    intro remainder allocations hlow hup hindex
    rw [length_cons] at hup
    rw [handOut]
    split
    case isTrue hzero => omega
    case isFalse hne =>
      rw [ih (by omega) (by omega), sum_modify_succ (hindex entry mem_cons_self)]
      · omega
      · intro other hother
        rw [length_modify]
        exact hindex other (mem_cons_of_mem entry hother)

/-- **No place gets two cents.** -/
theorem getElem?_handOut {order : List ShareRemainder} {i : ℕ} :
    ∀ {remainder : ℤ} {allocations : List ℤ}, (order.map ShareRemainder.index).Nodup →
      (handOut remainder order allocations)[i]? = allocations[i]? ∨
        i ∈ order.map ShareRemainder.index ∧
          (handOut remainder order allocations)[i]? = allocations[i]?.map (· + 1) := by
  induction order with
  | nil => exact fun _ ↦ .inl rfl
  | cons entry order ih =>
    intro remainder allocations hnodup
    obtain ⟨hnotin, hnodup⟩ := nodup_cons.mp hnodup
    rw [handOut, map_cons]
    split
    · exact .inl rfl
    · have hrest := @ih (remainder - 1) (allocations.modify entry.index (· + 1)) hnodup
      rcases hrest with hsame | ⟨hin, hmore⟩
      · by_cases hi : entry.index = i
        · subst hi
          rw [hsame, getElem?_modify_eq]
          exact .inr ⟨mem_cons_self, rfl⟩
        · rw [hsame, getElem?_modify_ne _ _ hi]
          exact .inl rfl
      · have hi : entry.index ≠ i := fun heq ↦ hnotin (heq ▸ hin)
        rw [hmore, getElem?_modify_ne _ _ hi]
        exact .inr ⟨mem_cons_of_mem _ hin, rfl⟩

/-! ### Sharing a discount -/

section Shares

variable {weights shares : List ℤ} {amount : ℤ}

theorem indexes_perm (weights : List ℤ) (amount total : ℤ) :
    ((orderBy ShareRemainder.before (weights.zipIdx.map fun w ↦
      ({ index := w.2, remainder := (amount * w.1).tmod total } : ShareRemainder))).map
        ShareRemainder.index).Perm (List.range weights.length) := by
  refine ((orderBy_perm _ _).map _).trans (List.Perm.of_eq ?_)
  rw [map_map]
  show weights.zipIdx.map Prod.snd = _
  rw [zipIdx_map_snd, range_eq_range']

theorem share_le {w total : ℤ} (hw : 0 < w) (hamount : 0 ≤ amount) (htotal : 0 < total)
    (hhalf : amount * 2 ≤ total) : 0 ≤ amount * w / total ∧ amount * w / total + 1 ≤ w := by
  refine ⟨Int.ediv_nonneg (mul_nonneg hamount hw.le) htotal.le, ?_⟩
  have hfloor : amount * w / total * total ≤ amount * w := Int.ediv_mul_le _ htotal.ne'
  have hle : amount * 2 * w ≤ total * w := mul_le_mul_of_nonneg_right hhalf hw.le
  have hdouble : 2 * (amount * w / total) ≤ w := by
    refine le_of_mul_le_mul_right (a := total) ?_ htotal
    calc 2 * (amount * w / total) * total = 2 * (amount * w / total * total) := by ring
      _ ≤ 2 * (amount * w) := by omega
      _ = amount * 2 * w := by ring
      _ ≤ w * total := by rw [mul_comm w]; exact hle
  omega

/-- **The discount of the sale is shared**: the shares spend it, each between nothing and its
weight. -/
theorem allocateDiscount_sound (h : allocateDiscount weights amount = .ok shares)
    (hweights : ∀ w ∈ weights, 0 < w) (hamount : 0 ≤ amount) (hhalf : amount * 2 ≤ weights.sum) :
    shares.sum = amount ∧ List.Forall₂ (fun w share ↦ 0 ≤ share ∧ share ≤ w) weights shares := by
  rw [allocateDiscount] at h
  split at h
  case isTrue hzero =>
    rw [← pure_eq_ok.mp h, hzero]
    refine ⟨by simp, ?_⟩
    rw [forall₂_map_right_iff, forall₂_same]
    exact fun w hw ↦ ⟨le_rfl, (hweights w hw).le⟩
  case isFalse hne =>
    simp only [eq_ok] at h
    obtain ⟨_, _, hshares⟩ := h
    have htotal : 0 < weights.sum := by omega
    have hfloors : (weights.map fun w ↦ (amount * w).tdiv weights.sum) =
        weights.map fun w ↦ amount * w / weights.sum :=
      map_congr_left fun w hw ↦
        Int.tdiv_eq_ediv_of_nonneg (mul_nonneg hamount (hweights w hw).le)
    rw [hfloors] at hshares
    have hperm := indexes_perm weights amount weights.sum
    generalize orderBy ShareRemainder.before _ = order at hperm hshares
    have hlength : order.length = weights.length := by
      have := hperm.length_eq
      rwa [length_map, length_range] at this
    constructor
    · rw [← hshares, sum_handOut (Shares.rest_nonneg htotal)]
      · omega
      · rw [hlength]
        exact Shares.rest_le_length htotal
      · intro entry hentry
        rw [length_map]
        exact mem_range.mp (hperm.mem_iff.mp (mem_map_of_mem hentry))
    · rw [forall₂_iff_get]
      refine ⟨by rw [← hshares, length_handOut, length_map], fun i hi hi' ↦ ?_⟩
      have hw := share_le (hweights _ (getElem_mem hi)) hamount htotal hhalf
      have hat : (weights.map fun w ↦ amount * w / weights.sum)[i]? =
          some (amount * weights[i] / weights.sum) := by
        rw [getElem?_map, getElem?_eq_getElem hi]
        rfl
      have hshare : (handOut (amount - (weights.map fun w ↦ amount * w / weights.sum).sum) order
          (weights.map fun w ↦ amount * w / weights.sum))[i]? = some shares[i] :=
        hshares ▸ getElem?_eq_getElem hi'
      rw [get_eq_getElem, get_eq_getElem]
      rcases getElem?_handOut (i := i) (hperm.nodup_iff.mpr nodup_range) with hsame | ⟨_, hmore⟩
      · rw [hsame, hat, Option.some.injEq] at hshare
        rw [← hshare]
        exact ⟨hw.1, by linarith [hw.2]⟩
      · rw [hmore, hat, Option.map_some, Option.some.injEq] at hshare
        rw [← hshare]
        exact ⟨by linarith [hw.1], hw.2⟩

end Shares

/-! ### Discounts -/

/-- **A discount** is not negative and at most half of what it is taken off. -/
theorem discountAmount_bounds {discount : Option SaleDiscountDto} {baseCents amount : ℤ}
    (h : discountAmount discount baseCents = .ok amount) :
    0 ≤ amount ∧ (discount = none → amount = 0) ∧ (0 ≤ baseCents → amount * 2 ≤ baseCents) := by
  cases discount with
  | none =>
    have hzero : 0 = amount := pure_eq_ok.mp h
    exact ⟨hzero.le, fun _ ↦ hzero.symm, fun hbase ↦ by omega⟩
  | some discount =>
    simp only [discountAmount, eq_ok] at h
    obtain ⟨_, _, _, _, _, hbounds, rfl⟩ := h
    exact ⟨hbounds.1.le, fun hnone ↦ (by cases hnone), fun _ ↦ hbounds.2.2⟩

theorem lineDiscount_nonneg {shop : Shop} {place : Workplace} {permissions : Permissions}
    {context : CartContext} {dto : QuoteCartDto} {preparedLines : List PreparedLine}
    (h : prepareLines shop place permissions context dto = .ok preparedLines) :
    ∀ line ∈ preparedLines, 0 ≤ line.lineDiscountCents := by
  simp only [prepareLines, bind_eq_ok] at h
  obtain ⟨_, _, _, _, _, _, _, _, _, _, normalized, _, _, _, _, _, h⟩ := h
  intro line hline
  obtain ⟨p, _, hp⟩ := exists_of_mem_mapM h hline
  obtain ⟨_, _, _, _, _, _, _, _, hdiscount, rfl⟩ := prepareLine_eq_ok hp
  exact (discountAmount_bounds hdiscount).1

theorem promoteLine_bounds {promotions : Uuid → List AppliedPromotion} {line : PreparedLine}
    {promoted : PromotedLine} (h : promoteLine promotions line = .ok promoted) :
    promoted.line = line ∧ promoted.promotions = promotions line.productId ∧
      0 < promoted.weight := by
  simp only [promoteLine, eq_ok] at h
  obtain ⟨_, hlt, rfl⟩ := h
  refine ⟨rfl, rfl, ?_⟩
  rw [PromotedLine.weight]
  dsimp only at hlt ⊢
  omega

theorem sum_weights (promoted : List PromotedLine) :
    (promoted.map PromotedLine.weight).sum = (promoted.map fun p ↦ p.line.grossCents).sum -
      (promoted.map fun p ↦ p.line.lineDiscountCents).sum -
        (promoted.map PromotedLine.promotionDiscountCents).sum := by
  induction promoted with
  | nil => rfl
  | cons p promoted ih =>
    simp only [map_cons, sum_cons, ih, PromotedLine.weight]
    omega

/-! ### The tax -/

/-- **The tax of a line** is within half a cent of what its total includes. -/
theorem two_mul_abs_sub_lineTax_le {taxBasisPoints : ℕ} {taxBehavior : TaxBehavior} {total : ℤ}
    (htaxed : taxBehavior ≠ .EXEMPT) (htotal : 0 ≤ total) :
    2 * |total * taxBasisPoints -
      lineTax taxBasisPoints taxBehavior total * (10000 + taxBasisPoints)| ≤
        10000 + taxBasisPoints := by
  rw [lineTax]
  split
  case isTrue hzero =>
    have hrate : taxBasisPoints = 0 := hzero.resolve_right htaxed
    rw [hrate]
    simp
  case isFalse =>
    have hn : 0 ≤ total * (taxBasisPoints : ℤ) := mul_nonneg htotal (Int.natCast_nonneg _)
    rw [roundDivide_eq hn (by omega)]
    exact two_mul_abs_sub_roundDiv_le hn (by omega)

/-! ### The amounts of a quote -/

/-- The share of a line of the discount of the sale, as the quote has it. -/
def QuoteLine.saleShare (line : QuoteLine) : ℤ :=
  (line.discount.sale.map AppliedDiscount.amount).getD 0

/-- **The amounts of a quote add up.** -/
structure Quote.Adds (quote : Quote) : Prop where
  total : quote.totals.total = quote.totals.gross - quote.totals.lineDiscount -
    quote.totals.promotionDiscount - quote.totals.saleDiscount
  lineTotals : (quote.lines.map QuoteLine.total).sum = quote.totals.total
  lineSubtotals : (quote.lines.map QuoteLine.subtotal).sum = quote.totals.subtotal
  lineTaxes : (quote.lines.map QuoteLine.tax).sum = quote.totals.tax
  line : ∀ line ∈ quote.lines, line.subtotal + line.tax = line.total
  totals : quote.totals.subtotal + quote.totals.tax = quote.totals.total
  bounds : ∀ line ∈ quote.lines, 0 ≤ line.total ∧ line.total ≤ line.prepared.grossCents
  shares : (quote.lines.map QuoteLine.saleShare).sum = quote.totals.saleDiscount
  half : 2 * quote.totals.discount ≤ quote.totals.gross
  tax : ∀ line ∈ quote.lines, line.prepared.taxBehavior ≠ .EXEMPT →
    2 * |line.total * quote.taxRate - line.tax * (10000 + quote.taxRate)| ≤ 10000 + quote.taxRate

section Lines

variable {taxBasisPoints : ℕ} {discount : Option SaleDiscountDto} {promoted : List PromotedLine}
  {shares : List ℤ}

theorem sum_quoteLine_total (hlength : shares.length = promoted.length) :
    (((promoted.zip shares).map (quoteLine taxBasisPoints discount)).map QuoteLine.total).sum =
      (promoted.map PromotedLine.weight).sum - shares.sum := by
  induction promoted generalizing shares with
  | nil =>
    rw [length_nil, length_eq_zero_iff] at hlength
    rw [hlength]
    rfl
  | cons p promoted ih =>
    obtain ⟨share, shares, rfl⟩ := exists_cons_of_length_eq_add_one hlength
    simp only [zip_cons_cons, map_cons, sum_cons, quoteLine, PromotedLine.weight]
    rw [ih (Nat.succ.inj hlength)]
    omega

theorem sum_subtotal_add_sum_tax (lines : List QuoteLine)
    (h : ∀ line ∈ lines, line.subtotal + line.tax = line.total) :
    (lines.map QuoteLine.subtotal).sum + (lines.map QuoteLine.tax).sum =
      (lines.map QuoteLine.total).sum := by
  rw [← sum_map_add]
  exact congrArg List.sum (map_congr_left h)

theorem saleShares_eq (hlength : shares.length = promoted.length)
    (hnone : discount = none → ∀ share ∈ shares, share = 0) :
    ((promoted.zip shares).map (quoteLine taxBasisPoints discount)).map QuoteLine.saleShare =
      shares := by
  have hshare : ∀ x ∈ promoted.zip shares,
      (quoteLine taxBasisPoints discount x).saleShare = x.2 := by
    intro x hx
    cases discount with
    | none => exact (hnone rfl x.2 (of_mem_zip hx).2).symm
    | some d => rfl
  rw [map_map]
  calc (promoted.zip shares).map (QuoteLine.saleShare ∘ quoteLine taxBasisPoints discount)
      = (promoted.zip shares).map Prod.snd := map_congr_left hshare
    _ = shares := map_snd_zip (by omega)

end Lines

/-- **The arithmetic of a quote.** Its amounts add up, whatever the cart, with promotions that take
no less than nothing off. -/
theorem quote_adds {shop : Shop} {place : Workplace} {permissions : Permissions}
    {context : CartContext} {dto : QuoteCartDto} {preparedLines : List PreparedLine}
    {promotions : Uuid → List AppliedPromotion} {quote : Quote}
    (hprepare : prepareLines shop place permissions context dto = .ok preparedLines)
    (hpromotions : ∀ line ∈ preparedLines,
      0 ≤ ((promotions line.productId).map AppliedPromotion.amount).sum)
    (hquote : quoteLines shop place context dto promotions preparedLines = .ok quote) :
    quote.Adds := by
  obtain ⟨promoted, saleDiscount, shares, hpromoted, hdiscount, hshares, hlines, _, _, _, hrate, _,
    htotals⟩ := quoteLines_eq_ok hquote
  have hhalf : 2 * quote.totals.discount ≤ quote.totals.gross := by
    simp only [quoteLines, eq_ok] at hquote
    obtain ⟨_, _, _, _, _, hle, _, _, _, _, rfl⟩ := hquote
    dsimp only
    omega
  have hline : ∀ p ∈ promoted, 0 < p.weight ∧ 0 ≤ p.line.lineDiscountCents ∧
      0 ≤ p.promotionDiscountCents := by
    intro p hp
    obtain ⟨line, hmem, hpromote⟩ := exists_of_mem_mapM hpromoted hp
    obtain ⟨hprepared, happlied, hweight⟩ := promoteLine_bounds hpromote
    refine ⟨hweight, hprepared ▸ lineDiscount_nonneg hprepare line hmem, ?_⟩
    rw [PromotedLine.promotionDiscountCents, happlied]
    exact hpromotions line hmem
  have hweights : ∀ w ∈ promoted.map PromotedLine.weight, 0 < w := by
    refine forall_mem_map.mpr fun p hp ↦ ?_
    exact (hline p hp).1
  rw [← sum_weights] at hdiscount
  obtain ⟨hnonneg, hzero, hhalfBase⟩ := discountAmount_bounds hdiscount
  obtain ⟨hsum, hwithin⟩ := allocateDiscount_sound hshares hweights hnonneg
    (hhalfBase (sum_nonneg fun w hw ↦ (hweights w hw).le))
  have hlength : shares.length = promoted.length := by
    rw [length_allocateDiscount hshares, length_map]
  have hbounds : ∀ line ∈ quote.lines, 0 ≤ line.total ∧ line.total ≤ line.prepared.grossCents := by
    intro line hmem
    rw [hlines] at hmem
    obtain ⟨x, hx, rfl⟩ := mem_map.mp hmem
    rw [forall₂_map_left_iff, forall₂_iff_zip] at hwithin
    obtain ⟨hlow, hup⟩ := hwithin.2 hx
    obtain ⟨_, hdiscounted, hpromotion⟩ := hline x.1 (of_mem_zip hx).1
    simp only [quoteLine, PromotedLine.weight] at hup ⊢
    exact ⟨by omega, by omega⟩
  have hadds : ∀ line ∈ quote.lines, line.subtotal + line.tax = line.total := by
    intro line hmem
    rw [hlines] at hmem
    obtain ⟨x, _, rfl⟩ := mem_map.mp hmem
    exact Int.sub_add_cancel _ _
  refine ⟨?_, by rw [htotals], by rw [htotals], by rw [htotals], hadds, ?_, hbounds, ?_, hhalf, ?_⟩
  · rw [htotals]
    rw [hlines, sum_quoteLine_total hlength, hsum, sum_weights]
  · rw [htotals]
    exact sum_subtotal_add_sum_tax quote.lines hadds
  · rw [htotals, hlines, saleShares_eq hlength, hsum]
    intro hnone share hshare
    rw [allocateDiscount, if_pos (hzero hnone)] at hshares
    rw [← pure_eq_ok.mp hshares] at hshare
    obtain ⟨_, _, rfl⟩ := mem_map.mp hshare
    rfl
  · intro line hmem htaxed
    obtain ⟨hlow, _⟩ := hbounds line hmem
    rw [hlines] at hmem
    obtain ⟨x, _, rfl⟩ := mem_map.mp hmem
    rw [hrate]
    exact two_mul_abs_sub_lineTax_le htaxed hlow

/-! ### A cart with discounts -/

/-- A shop with an open shift, where a product is sold by thousandths at its price. -/
def shopSelling (price : Uuid → ℕ) (promotions : List Promotion) : Shop :=
  { Shop.opened .empty 0 with
    promotions := promotions
    getProducts := fun _ _ id ↦ some {
      id := id, stockBehavior := .TRACKED, taxBehavior := .STANDARD, price := price id
      active := true, trackSerials := false
      quantityPolicy := { precision := 3, rounding := .HALF_UP, minimumQuantity := 1 }
      availableQuantity := 1000000 } }

def registerOne : Workplace := ⟨1, 1, 1, 1⟩

def contextOne : CartContext := { currency := .MXN, taxRate := 1600, businessDate := 1 }

/-- Two products, one of them at ten per cent off, and five per cent off the sale. -/
def discountedCart : QuoteCartDto where
  lines := [
    { productId := 1, quantity := .ofNat 1
      discount := some ⟨.PERCENT, .ofNat 10, [86, 73, 80]⟩ },
    { productId := 2, quantity := ⟨3, List.replicate 3 ⟨3, by decide⟩, by decide⟩ }]
  discount := some ⟨.PERCENT, .ofNat 5, [86, 73, 80]⟩

def discountedLines : List PreparedLine :=
  (prepareLines (shopSelling (fun id ↦ 333 * id) []) registerOne { canDiscount := true } contextOne
    discountedCart).toOption.get (by decide +kernel)

def discountedQuote : Quote :=
  (quoteLines (shopSelling (fun id ↦ 333 * id) []) registerOne contextOne discountedCart
    (fun _ ↦ []) discountedLines).toOption.get (by decide +kernel)

theorem quote_adds_discounted : discountedQuote.Adds :=
  quote_adds (eq_ok_get (by decide +kernel)) (by decide +kernel) (eq_ok_get (by decide +kernel))

end UInventario.Pos.Cart
