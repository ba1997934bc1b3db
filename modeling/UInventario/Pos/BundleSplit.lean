import UInventario.Foundations.Shares
import UInventario.Pos.PromotionStacking

/-!
# How a bundle is split

A bundle takes off what its products cost more than its price, and the discount is split among the
products by what they contribute: each share is rounded to the nearest cent, and the last product
takes the rest.

The shares add up to the discount, and every share but the last lies between nothing and what its
product contributes; the last one does exactly when `RestFits`. `negative_share`: three products of
a bundle take a cent each, and the last one a cent too little.
-/

namespace UInventario.Pos

open Outcome Rounding List

theorem roundDivide_eq {n d : ℤ} (hn : 0 ≤ n) (hd : 0 < d) : roundDivide n d = roundDiv n d := by
  have hhalf : d.tdiv 2 = d / 2 := Int.tdiv_eq_ediv_of_nonneg hd.le
  rw [roundDivide, hhalf, Int.tdiv_eq_ediv_of_nonneg (by omega)]
  refine le_antisymm ?_ ?_
  · rw [le_roundDiv_iff hn hd]
    have hle : (n + d / 2) / d * d ≤ n + d / 2 := Int.ediv_mul_le _ hd.ne'
    have : (2 * ((n + d / 2) / d) - 1) * d = 2 * ((n + d / 2) / d * d) - d := by ring
    omega
  · rw [roundDiv_le_iff hn hd]
    have hlt : n + d / 2 < ((n + d / 2) / d + 1) * d := Int.lt_ediv_add_one_mul_self _ hd
    have : (2 * ((n + d / 2) / d) + 1) * d = 2 * (((n + d / 2) / d + 1) * d) - d := by ring
    omega

namespace PromotionEngine

variable {rule : Promotion} {lines : List PromotionLine} {discount regular assigned : ℤ}
  {item : PromotionProduct} {count : ℤ}

/-! ### Bundles of a cart -/

/-- **A cart that has a bundle**: the rule has products, of each of which it asks for something, and
the cart has enough of each. -/
structure Bundled (rule : Promotion) (lines : List PromotionLine) (fixedPrice : ℕ) : Prop where
  products : rule.products ≠ []
  quantity_pos : ∀ item ∈ rule.products, 0 < item.quantity
  inCart : ∀ item ∈ rule.products, ∃ line, getLine lines item.productId = .ok line ∧
    (item.quantity : ℤ) ≤ line.quantity ∧ 0 ≤ line.unitPrice
  price : rule.fixedPrice = some fixedPrice
  price_pos : 0 < fixedPrice

variable {fixedPrice : ℕ}

def supportedStep (lines : List PromotionLine) (current : Option ℤ) (item : PromotionProduct) :
    Except CartFailure (Option ℤ) := do
  let line ← getLine lines item.productId
  let supported ← divide line.quantity item.quantity
  pure (match current with
    | none => some supported
    | some current => some (if supported < current then supported else current))

theorem exists_supported {line : PromotionLine} {current : Option ℤ}
    (hline : getLine lines item.productId = .ok line) (hpos : 0 < item.quantity)
    (hquantity : (item.quantity : ℤ) ≤ line.quantity) (hcurrent : ∀ c ∈ current, 0 < c) :
    ∃ c, supportedStep lines current item = .ok (some c) ∧ 0 < c := by
  have hne : (item.quantity : ℤ) ≠ 0 := by omega
  have hsupported : 0 < line.quantity.tdiv item.quantity := by
    rw [Int.tdiv_eq_ediv_of_nonneg (by omega)]
    exact Int.le_ediv_of_mul_le (by omega) (by omega)
  have hstep : ∀ c, (match current with
      | none => some (line.quantity.tdiv item.quantity)
      | some current => some (if line.quantity.tdiv item.quantity < current then
          line.quantity.tdiv item.quantity else current)) = some c →
        supportedStep lines current item = .ok (some c) := by
    intro c hc
    rw [supportedStep, hline, ok_bind, divide]
    exact bind_eq_ok.mpr ⟨_, bind_eq_ok.mpr ⟨⟨⟩, ensure_eq_ok.mpr hne, rfl⟩, pure_eq_ok.mpr hc⟩
  cases hwas : current with
  | none => exact ⟨_, hwas ▸ hstep _ (by rw [hwas]), hsupported⟩
  | some c =>
    refine ⟨_, hwas ▸ hstep _ (by rw [hwas]), ?_⟩
    split
    · exact hsupported
    · exact hcurrent c (by rw [hwas]; rfl)

/-- **The cart has a bundle at least.** -/
theorem exists_bundles (h : Bundled rule lines fixedPrice) :
    ∃ count, bundles rule lines = .ok (some count) ∧ 0 < count := by
  have hrun : ∀ items : List PromotionProduct, (∀ item ∈ items, item ∈ rule.products) →
      ∀ current, (∀ c ∈ current, 0 < c) → (items = [] → current ≠ none) →
        ∃ c, items.foldlM (supportedStep lines) current = .ok (some c) ∧ 0 < c := by
    intro items
    induction items with
    | nil =>
      intro _ current hcurrent hsome
      obtain ⟨c, hc⟩ := Option.ne_none_iff_exists'.mp (hsome rfl)
      exact ⟨c, by rw [hc]; rfl, hcurrent c hc⟩
    | cons item items ih =>
      intro hsub current hcurrent _
      have hmem := hsub item mem_cons_self
      obtain ⟨line, hline, hquantity, _⟩ := h.inCart item hmem
      obtain ⟨c, hstep, hc⟩ := exists_supported hline (h.quantity_pos item hmem) hquantity hcurrent
      obtain ⟨c', hrest, hc'⟩ := ih (fun x hx ↦ hsub x (mem_cons_of_mem item hx)) (some c)
        (fun x hx ↦ by cases hx; exact hc) (fun _ ↦ Option.some_ne_none c)
      exact ⟨c', foldlM_cons_eq_ok.mpr ⟨_, hstep, hrest⟩, hc'⟩
  exact hrun rule.products (fun _ hx ↦ hx) none (fun _ hx ↦ by cases hx)
    fun hempty ↦ absurd hempty h.products

theorem exists_contributions (h : Bundled rule lines fixedPrice) (hcount : 0 ≤ count) :
    ∃ contributions, rule.products.mapM (contribution lines count) = .ok contributions ∧
      contributions.map Allocation.productId = rule.productIds ∧
        ∀ c ∈ contributions, 0 ≤ c.amount := by
  have hone : ∀ item ∈ rule.products, ∃ c, contribution lines count item = .ok c ∧
      c.productId = item.productId ∧ 0 ≤ c.amount := by
    intro item hitem
    obtain ⟨line, hline, _, hprice⟩ := h.inCart item hitem
    refine ⟨_, bind_eq_ok.mpr ⟨line, hline, rfl⟩, rfl, ?_⟩
    have hn : 0 ≤ line.unitPrice * item.quantity * count :=
      mul_nonneg (mul_nonneg hprice (Int.natCast_nonneg _)) hcount
    rw [roundDivide_eq hn (by decide)]
    exact roundDiv_nonneg hn (by decide)
  have hall : ∀ items : List PromotionProduct, (∀ item ∈ items, item ∈ rule.products) →
      ∃ cs, items.mapM (contribution lines count) = .ok cs ∧
        cs.map Allocation.productId = items.map PromotionProduct.productId ∧
          ∀ c ∈ cs, 0 ≤ c.amount := by
    intro items
    induction items with
    | nil => exact fun _ ↦ ⟨[], rfl, rfl, forall_mem_nil _⟩
    | cons item items ih =>
      intro hsub
      obtain ⟨c, hc, hid, hnonneg⟩ := hone item (hsub item mem_cons_self)
      obtain ⟨cs, hcs, hids, hamounts⟩ := ih fun x hx ↦ hsub x (mem_cons_of_mem item hx)
      refine ⟨c :: cs, ?_, ?_, forall_mem_cons.mpr ⟨hnonneg, hamounts⟩⟩
      · rw [mapM_cons, hc, ok_bind, hcs]
        rfl
      · rw [map_cons, hid, hids, map_cons]
  exact hall rule.products fun _ hx ↦ hx

/-! ### The shares -/

def Allocation.share (discount regular : ℤ) (c : Allocation) : Allocation :=
  { c with amount := roundDivide (discount * c.amount) regular }

/-- **The shares**: rounded ones, and the rest for the last product. -/
theorem bundleShares_eq (others : List Allocation) (last : Allocation) :
    ∀ assigned, bundleShares discount regular assigned (others ++ [last]) =
      others.map (Allocation.share discount regular) ++ [{ last with amount := discount - assigned -
          (others.map fun c ↦ roundDivide (discount * c.amount) regular).sum }] := by
  induction others with
  | nil =>
    intro assigned
    rw [map_nil, map_nil, sum_nil, sub_zero]
    rfl
  | cons c others ih =>
    intro assigned
    have hstep : bundleShares discount regular assigned (c :: others ++ [last]) =
        c.share discount regular :: bundleShares discount regular
          (assigned + roundDivide (discount * c.amount) regular) (others ++ [last]) := by
      cases others with
      | nil | cons _ _ => rfl
    rw [hstep, ih, map_cons, map_cons, sum_cons, cons_append]
    congr 4
    omega

theorem sum_bundleShares (others : List Allocation) (last : Allocation) :
    ((bundleShares discount regular 0 (others ++ [last])).map Allocation.amount).sum =
      discount := by
  rw [bundleShares_eq, map_append, sum_append, map_map]
  show (others.map fun c ↦ roundDivide (discount * c.amount) regular).sum +
    [discount - 0 - (others.map fun c ↦ roundDivide (discount * c.amount) regular).sum].sum =
      discount
  rw [sum_singleton]
  omega

def Allocation.Within (share contribution : Allocation) : Prop :=
  0 ≤ share.amount ∧ share.amount ≤ contribution.amount

/-- **The rest fits the last product**, between what it would have to give and what it could take.
-/
def RestFits (discount regular : ℤ) (contributions : List Allocation) : Prop :=
  ∀ last ∈ contributions.getLast?,
    -(discount * last.amount) ≤
        Shares.residue discount regular (contributions.dropLast.map Allocation.amount) ∧
      Shares.residue discount regular (contributions.dropLast.map Allocation.amount) ≤
        (regular - discount) * last.amount
deriving Decidable

section Split

variable {others : List Allocation} {last : Allocation}

theorem restFits_append : RestFits discount regular (others ++ [last]) ↔ -(discount * last.amount) ≤
        Shares.residue discount regular (others.map Allocation.amount) ∧
      Shares.residue discount regular (others.map Allocation.amount) ≤
        (regular - discount) * last.amount := by
  rw [RestFits, getLast?_concat, dropLast_concat]
  exact ⟨fun h ↦ h last rfl, fun h x hx ↦ by cases hx; exact h⟩

/-- **When every share fits.** -/
theorem bundleShares_within_iff (hdiscount : 0 ≤ discount) (hle : discount ≤ regular)
    (hregular : 0 < regular) (hnonneg : ∀ c ∈ others, 0 ≤ c.amount)
    (hsum : (others.map Allocation.amount).sum + last.amount = regular) :
    List.Forall₂ Allocation.Within (bundleShares discount regular 0 (others ++ [last]))
        (others ++ [last]) ↔ RestFits discount regular (others ++ [last]) := by
  have hweights : ∀ w ∈ others.map Allocation.amount, 0 ≤ w := by
    refine forall_mem_map.mpr fun c hc ↦ ?_
    exact hnonneg c hc
  have hrounded : ∀ c ∈ others,
      roundDivide (discount * c.amount) regular = roundDiv (discount * c.amount) regular :=
    fun c hc ↦ roundDivide_eq (mul_nonneg hdiscount (hnonneg c hc)) hregular
  have hrest : (others.map fun c ↦ roundDivide (discount * c.amount) regular).sum =
      ((others.map Allocation.amount).map fun w ↦ roundDiv (discount * w) regular).sum := by
    rw [map_map]
    exact congrArg List.sum (map_congr_left hrounded)
  have hothers : List.Forall₂ Allocation.Within
      (others.map (Allocation.share discount regular)) others := by
    rw [forall₂_map_left_iff, forall₂_same]
    intro c hc
    have := Shares.roundDiv_within hdiscount hle hregular (hnonneg c hc)
    rw [← hrounded c hc] at this
    exact this
  have hlast := Shares.rest_within_iff hdiscount hweights hregular hsum
  rw [restFits_append, ← hlast, bundleShares_eq, hrest, sub_zero]
  constructor
  · intro h
    have hdrop := forall₂_drop_append _ _ _ h
    rw [drop_left' (length_map _)] at hdrop
    exact (forall₂_cons.mp hdrop).1
  · intro h
    exact rel_append hothers (List.Forall₂.cons h List.Forall₂.nil)

end Split

/-- **How a bundle is split**: the shares add up, and lie between nothing and what their products
contribute exactly when the rest fits. -/
theorem bundle_split {rule : Promotion} {lines : List PromotionLine} {fixedPrice : ℕ}
    (h : Bundled rule lines fixedPrice) :
    ∃ count contributions, bundles rule lines = .ok (some count) ∧ 0 < count ∧
      rule.products.mapM (contribution lines count) = .ok contributions ∧
        (fixedPrice * count < (contributions.map Allocation.amount).sum →
          ∃ shares, bundleAllocations rule lines = .ok shares ∧
            shares.map Allocation.productId = rule.productIds ∧
            (shares.map Allocation.amount).sum =
              (contributions.map Allocation.amount).sum - fixedPrice * count ∧
            (List.Forall₂ Allocation.Within shares contributions ↔
              RestFits ((contributions.map Allocation.amount).sum - fixedPrice * count)
                (contributions.map Allocation.amount).sum contributions)) := by
  obtain ⟨count, hcount, hpos⟩ := exists_bundles h
  obtain ⟨contributions, hcontributions, hids, hnonneg⟩ := exists_contributions h hpos.le
  refine ⟨count, contributions, hcount, hpos, hcontributions, fun hregular ↦ ?_⟩
  have hprice : 0 ≤ (fixedPrice : ℤ) * count := mul_nonneg (Int.natCast_nonneg _) hpos.le
  have hallocations : bundleAllocations rule lines =
      .ok (bundleShares ((contributions.map Allocation.amount).sum - fixedPrice * count)
        (contributions.map Allocation.amount).sum 0 contributions) := by
    rw [bundleAllocations, hcount, ok_bind]
    dsimp only
    rw [if_neg hpos.ne', hcontributions, ok_bind, h.price]
    refine bind_eq_ok.mpr ⟨fixedPrice, rfl, ?_⟩
    exact if_neg (by omega)
  have hne : contributions ≠ [] := by
    intro hempty
    rw [hempty, map_nil, sum_nil] at hregular
    omega
  refine ⟨_, hallocations, by rw [bundleShares_productIds, hids], ?_, ?_⟩
  · rw [← dropLast_append_getLast hne, sum_bundleShares]
  · have hsplit := dropLast_append_getLast hne
    have hsum : ((contributions.dropLast.map Allocation.amount).sum +
        (contributions.getLast hne).amount) = (contributions.map Allocation.amount).sum := by
      conv_rhs => rw [← hsplit]
      rw [map_append, sum_append, map_singleton, sum_singleton]
    have hothers : ∀ c ∈ contributions.dropLast, 0 ≤ c.amount := fun c hc ↦
      hnonneg c (mem_of_mem_dropLast hc)
    have hwithin := @bundleShares_within_iff
      ((contributions.map Allocation.amount).sum - fixedPrice * count) _ _ _
      (by omega) (by omega) (by omega) hothers hsum
    rw [hsplit] at hwithin
    exact hwithin

/-! ### Four products for less than they cost -/

def bundleOf (products : List Uuid) (fixedPrice : ℕ) : Promotion where
  id := 1
  scope := {}
  priority := 0
  validFrom := 0
  type := .BUNDLE_FIXED
  stackable := false
  fixedPrice := some fixedPrice
  products := products.map fun id ↦ ⟨id, 1000⟩

def oneOfEach (products : List Uuid) : List PromotionLine :=
  products.map fun id ↦ ⟨id, 1000, 100⟩

theorem bundled_four : Bundled (bundleOf [1, 2, 3, 4] 398) (oneOfEach [1, 2, 3, 4]) 398 where
  products := by decide
  quantity_pos := by decide
  inCart := by
    intro item hitem
    refine ⟨⟨item.productId, 1000, 100⟩, ?_⟩
    revert item
    decide
  price := rfl
  price_pos := by decide

theorem bundle_split_four :
    ∃ shares, bundleAllocations (bundleOf [1, 2, 3, 4] 398) (oneOfEach [1, 2, 3, 4]) = .ok shares ∧
      (shares.map Allocation.amount).sum = 2 := by
  obtain ⟨count, contributions, hcount, _, hcontributions, h⟩ := bundle_split bundled_four
  have hone : bundles (bundleOf [1, 2, 3, 4] 398) (oneOfEach [1, 2, 3, 4]) = .ok (some 1) := by
    decide +kernel
  rw [hone, Except.ok.injEq, Option.some.injEq] at hcount
  subst hcount
  have hall : (bundleOf [1, 2, 3, 4] 398).products.mapM
      (contribution (oneOfEach [1, 2, 3, 4]) 1) = .ok [⟨1, 100⟩, ⟨2, 100⟩, ⟨3, 100⟩, ⟨4, 100⟩] := by
    decide +kernel
  rw [hall, Except.ok.injEq] at hcontributions
  subst hcontributions
  obtain ⟨shares, hshares, _, hsum, _⟩ := h (by decide)
  exact ⟨shares, hshares, hsum⟩

/-- **The last of the four products** gets a share below nothing. -/
theorem negative_share : ¬∀ (rule : Promotion) (lines : List PromotionLine) (fixedPrice : ℕ),
      Bundled rule lines fixedPrice → ∀ count contributions,
        bundles rule lines = .ok (some count) →
          rule.products.mapM (contribution lines count) = .ok contributions →
            fixedPrice * count < (contributions.map Allocation.amount).sum →
              ∃ shares, bundleAllocations rule lines = .ok shares ∧
                shares.map Allocation.productId = rule.productIds ∧
                (shares.map Allocation.amount).sum =
                  (contributions.map Allocation.amount).sum - fixedPrice * count ∧
                List.Forall₂ Allocation.Within shares contributions := by
  intro h
  obtain ⟨shares, hshares, _, _, hwithin⟩ := h _ _ _ bundled_four 1
    [⟨1, 100⟩, ⟨2, 100⟩, ⟨3, 100⟩, ⟨4, 100⟩] (by decide +kernel) (by decide +kernel) (by decide)
  have hanswer : bundleAllocations (bundleOf [1, 2, 3, 4] 398) (oneOfEach [1, 2, 3, 4]) =
      .ok [⟨1, 1⟩, ⟨2, 1⟩, ⟨3, 1⟩, ⟨4, -1⟩] := by decide +kernel
  rw [hanswer, Except.ok.injEq] at hshares
  subst hshares
  simp [Allocation.Within] at hwithin

end PromotionEngine

end UInventario.Pos
