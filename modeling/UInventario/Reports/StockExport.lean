import UInventario.Foundations.Sums
import UInventario.Inventory.Balances
import UInventario.Inventory.ValueTolerance

/-!
# The export of the stock

The stock of a product in a warehouse is exported location by location (`exportStock`), and listed
in one row (`listStock`), each by a query of its own. The rows of the export should add up to the
row of the listing, and say of the valuation what it says (`Agrees`).

Quantities are in thousandths, costs in ten-thousandths, and the worth of a quantity in
ten-millionths.

* What is reserved, damaged, in transit and in total always adds up; what is available does when the
  lots that may still be used cover it (`Covered`).
* The listing tolerates half a ten-thousandth for every unit, the export in all; and where layers or
  lots count, the export compares location by location (`FlagsAlike`).
* The export rounds the value of every location, or none; the listing rounds or cuts off the sum
  (`ValuesAlike`). `three_units` has both.
-/

namespace UInventario.Reports

open Rounding Table List

/-! ### What the queries join -/

/-- What layers or lots keep of a product at a location, and what it is worth. -/
structure Kept where
  locationId : Uuid
  (quantity worth : ℤ)

/-- The stock that carries the costs of the method: layers, lots, or nothing of the kind. -/
def kept (s : Store) (method : ValuationMethod) (productId : Uuid) : List Kept :=
  match method with
  | .MOVING_AVERAGE => []
  | .FIFO => (s.fifo.layers.rows.filter fun layer ↦ layer.productId = productId).map fun layer ↦
      ⟨layer.locationId, layer.remainingQuantity, layer.remainingQuantity * layer.unitCost⟩
  | .SPECIFIC_LOT => s.lots.balances.rows.filterMap fun balance ↦
      ((s.lots.lots.find? balance.lotId).filter fun lot ↦ lot.productId = productId).map fun lot ↦
        ⟨balance.locationId, balance.quantity, balance.quantity * lot.unitCost⟩

def inWarehouse (s : Store) (warehouseId locationId : Uuid) : Bool :=
  (s.locations.find? locationId).any fun location ↦ location.warehouseId = warehouseId

def balancesOf (s : Store) (warehouseId productId : Uuid) : List Balance :=
  s.balances.rows.filter fun b ↦ b.productId = productId && inWarehouse s warehouseId b.locationId

/-- `SUM(quantity)` of a product over all warehouses. -/
def globalBalance (s : Store) (productId : Uuid) : ℤ :=
  s.balances.total fun b ↦ if b.productId = productId then b.quantity else 0

/-! ### The export -/

structure StockRow where
  (quantity available reserved damaged inTransit : ℤ)
  valuationReconciled : Bool
  inventoryValue : ℤ

def exportRow (s : Store) (method : ValuationMethod) (product : Product) (b : Balance) : StockRow :=
  let iv := s.valuations.find? product.id
  let here := (kept s method product.id).filter fun k ↦
    decide (k.locationId = b.locationId) && decide (0 < k.quantity)
  { quantity := b.quantity
    available := b.available
    reserved := b.reserved
    damaged := b.damaged
    inTransit := b.inTransit
    valuationReconciled :=
      match method with
      | .MOVING_AVERAGE =>
        let quantity := (iv.map Valuation.quantity).getD 0
        let value := (iv.map Valuation.inventoryValue).getD 0
        let average := (iv.map Valuation.averageUnitCost).getD 0
        decide (2 * |globalBalance s product.id - quantity| < 1) &&
          decide (|QUANTITY_SCALE * value - quantity * average| < 500)
      | .FIFO | .SPECIFIC_LOT => decide (2 * |b.quantity - (here.map Kept.quantity).sum| < 1)
    inventoryValue :=
      match method with
      | .MOVING_AVERAGE =>
        let average := (iv.map Valuation.averageUnitCost).getD product.cost
        QUANTITY_SCALE * roundDiv (b.quantity * average) QUANTITY_SCALE
      | .FIFO | .SPECIFIC_LOT => (here.map Kept.worth).sum }

/-- `stock` of the exports, for one product. -/
def exportStock (s : Store) (method : ValuationMethod) (warehouseId : Uuid) (product : Product) :
    List StockRow :=
  (balancesOf s warehouseId product.id).map (exportRow s method product)

/-! ### The listing -/

structure StockItem where
  (availableQuantity reserved damaged inTransit totalQuantity : ℤ)
  reconciled : Bool
  inventoryValue : ℤ

def usableLots (s : Store) (warehouseId productId : Uuid) (today : Day) : ℤ :=
  s.lots.balances.total fun balance ↦
    if ((s.lots.lots.find? balance.lotId).any fun lot ↦ decide (lot.productId = productId) &&
        lot.expiresOn.all fun day ↦ decide (today ≤ day)) &&
      inWarehouse s warehouseId balance.locationId then balance.quantity else 0

/-- The row of `inventory_valuations`, or what the columns default to without one. -/
def valuationOf (s : Store) (product : Product) : Valuation :=
  (s.valuations.find? product.id).getD
    { productId := product.id, quantity := 0, inventoryValue := 0, averageUnitCost := product.cost }

/-- The item of the listing, which has none for a parent of variants. -/
def listStock (s : Store) (method : ValuationMethod) (warehouseId : Uuid) (today : Day)
    (product : Product) : StockItem :=
  let balances := balancesOf s warehouseId product.id
  let available := (balances.map Balance.available).sum
  let total := (balances.map Balance.quantity).sum
  let v := valuationOf s product
  let there := (kept s method product.id).filter fun k ↦ inWarehouse s warehouseId k.locationId
  let worth := (there.map Kept.worth).sum
  { availableQuantity :=
      if product.trackLots then min available (usableLots s warehouseId product.id today)
      else available
    reserved := (balances.map Balance.reserved).sum
    damaged := (balances.map Balance.damaged).sum
    inTransit := (balances.map Balance.inTransit).sum
    totalQuantity := total
    reconciled :=
      match method with
      | .MOVING_AVERAGE => decide (globalBalance s product.id = v.quantity) &&
          isValuationValueReconciled v.quantity v.averageUnitCost v.inventoryValue
      | .FIFO | .SPECIFIC_LOT => decide ((there.map Kept.quantity).sum = total)
    inventoryValue :=
      match method with
      | .MOVING_AVERAGE => valuationValue total v.averageUnitCost
      | .FIFO => roundDiv worth QUANTITY_SCALE
      | .SPECIFIC_LOT => worth.tdiv QUANTITY_SCALE }

/-! ### Agreement -/

/-- **The export agrees with the listing**: its rows add up to the item, and each says of the
valuation what the item says. -/
structure Agrees (rows : List StockRow) (item : StockItem) : Prop where
  flags : ∀ row ∈ rows, row.valuationReconciled = item.reconciled
  quantity : (rows.map StockRow.quantity).sum = item.totalQuantity
  available : (rows.map StockRow.available).sum = item.availableQuantity
  reserved : (rows.map StockRow.reserved).sum = item.reserved
  damaged : (rows.map StockRow.damaged).sum = item.damaged
  inTransit : (rows.map StockRow.inTransit).sum = item.inTransit
  value : (rows.map StockRow.inventoryValue).sum = QUANTITY_SCALE * item.inventoryValue

structure StockChecked (s : Store) : Prop where
  balances : ∀ b ∈ s.balances.rows, 0 ≤ b.quantity
  valuations : ∀ v ∈ s.valuations.rows, v.Sound
  products : ∀ p ∈ s.products.rows, 0 ≤ p.cost
  layers : ∀ layer ∈ s.fifo.layers.rows, 0 ≤ layer.remainingQuantity ∧ 0 ≤ layer.unitCost
  lots : ∀ lot ∈ s.lots.lots.rows, 0 ≤ lot.unitCost
  lotBalances : ∀ balance ∈ s.lots.balances.rows, 0 ≤ balance.quantity

def Covered (s : Store) (warehouseId : Uuid) (today : Day) (product : Product) : Prop :=
  product.trackLots = true → ((balancesOf s warehouseId product.id).map Balance.available).sum ≤
    usableLots s warehouseId product.id today

/-- What is kept of a product in a warehouse, at the locations that satisfy a condition. -/
def keptWhere (s : Store) (method : ValuationMethod) (warehouseId productId : Uuid)
    (p : Uuid → Bool) : List Kept :=
  (kept s method productId).filter fun k ↦ inWarehouse s warehouseId k.locationId && p k.locationId

/-- **The flags are alike**: the tolerances agree, and by layers the stock of a location is that of
its layers. -/
def FlagsAlike (s : Store) (method : ValuationMethod) (warehouseId : Uuid) (product : Product) :
    Prop :=
  let balances := balancesOf s warehouseId product.id
  let quantityWhere p := ((keptWhere s method warehouseId product.id p).map Kept.quantity).sum
  let v := valuationOf s product
  match method with
  | .MOVING_AVERAGE => balances = [] ∨ globalBalance s product.id ≠ v.quantity ∨
      ¬(500 ≤ |v.residue| ∧ Tolerated v.residue v.quantity)
  | .FIFO | .SPECIFIC_LOT =>
    ∀ b ∈ balances, b.quantity = quantityWhere (fun id ↦ id = b.locationId) ↔
      (balances.map Balance.quantity).sum = quantityWhere fun _ ↦ true

/-- **The values are alike**: what rounding leaves over by location is what it leaves of the total.
-/
def ValuesAlike (s : Store) (method : ValuationMethod) (warehouseId : Uuid) (product : Product) :
    Prop :=
  let balances := balancesOf s warehouseId product.id
  let worthWhere p := ((keptWhere s method warehouseId product.id p).map Kept.worth).sum
  let unbalanced := worthWhere fun id ↦ (s.balance? product.id id).isNone
  let average := (valuationOf s product).averageUnitCost
  match method with
  | .MOVING_AVERAGE =>
      -500 ≤ (balances.map fun b ↦ (b.quantity * average).bmod 1000).sum ∧
        (balances.map fun b ↦ (b.quantity * average).bmod 1000).sum < 500
  | .FIFO => unbalanced = remainder (worthWhere fun _ ↦ true) QUANTITY_SCALE
  | .SPECIFIC_LOT => unbalanced = worthWhere (fun _ ↦ true) % QUANTITY_SCALE

/-! ### The queries -/

variable {s : Store} {method : ValuationMethod} {warehouseId : Uuid} {today : Day}
  {product : Product} {productId : Uuid}

theorem nodup_balancesOf (productId : Uuid) :
    ((balancesOf s warehouseId productId).map Balance.locationId).Nodup := by
  refine List.Nodup.map_on ?_ (s.balances.nodup.of_map.filter _)
  intro b hb b' hb' hid
  obtain ⟨hmem, hb⟩ := mem_filter.mp hb
  obtain ⟨hmem', hb'⟩ := mem_filter.mp hb'
  rw [Bool.and_eq_true, decide_eq_true_eq] at hb hb'
  exact eq_of_mem_of_key_eq hmem hmem' (Prod.ext (hb.1.trans hb'.1.symm) hid)

theorem mem_balancesOf {b : Balance} :
    b ∈ balancesOf s warehouseId productId ↔ b ∈ s.balances.rows ∧ b.productId = productId ∧
      inWarehouse s warehouseId b.locationId = true := by
  rw [balancesOf, mem_filter, Bool.and_eq_true, decide_eq_true_eq]

/-- What is kept somewhere is a quantity at a cost. -/
theorem kept_checked (hs : StockChecked s) {k : Kept} (hk : k ∈ kept s method productId) :
    0 ≤ k.quantity ∧ 0 ≤ k.worth ∧ (k.quantity = 0 → k.worth = 0) := by
  have hproduct : ∀ {quantity cost : ℤ}, 0 ≤ quantity → 0 ≤ cost →
      0 ≤ quantity ∧ 0 ≤ quantity * cost ∧ (quantity = 0 → quantity * cost = 0) :=
    fun hquantity hcost ↦ ⟨hquantity, mul_nonneg hquantity hcost, fun h ↦ by rw [h, zero_mul]⟩
  cases method with
  | MOVING_AVERAGE => cases hk
  | FIFO =>
    obtain ⟨layer, hlayer, rfl⟩ := mem_map.mp hk
    obtain ⟨hquantity, hcost⟩ := hs.layers layer (mem_of_mem_filter hlayer)
    exact hproduct hquantity hcost
  | SPECIFIC_LOT =>
    obtain ⟨balance, hbalance, hk⟩ := mem_filterMap.mp hk
    obtain ⟨lot, hlot, rfl⟩ := Option.map_eq_some_iff.mp hk
    have hfound := (Option.filter_eq_some_iff.mp hlot).1
    exact hproduct (hs.lotBalances balance hbalance) (hs.lots lot (mem_of_find? hfound))

theorem sum_here (hs : StockChecked s) {f : Kept → ℤ} {b : Balance}
    (hf : ∀ k ∈ kept s method product.id, k.quantity = 0 → f k = 0)
    (hb : b ∈ balancesOf s warehouseId product.id) :
    (((kept s method product.id).filter fun k ↦
      decide (k.locationId = b.locationId) && decide (0 < k.quantity)).map f).sum =
      ((keptWhere s method warehouseId product.id fun id ↦ id = b.locationId).map f).sum := by
  rw [keptWhere, Sums.sum_filter, Sums.sum_filter]
  congr 1
  apply map_congr_left
  intro k hk
  by_cases hid : k.locationId = b.locationId
  · have hin := (mem_balancesOf.mp hb).2.2
    rw [← hid] at hin
    by_cases hpos : 0 < k.quantity
    · simp [hid, hpos, hid ▸ hin]
    · have hzero := hf k hk (by have := (kept_checked hs hk).1; omega)
      simp [hzero]
  · simp [hid]

/-- **What the locations with a balance keep** is what the warehouse keeps but for the others. -/
theorem sum_balanced (f : Kept → ℤ) : ((balancesOf s warehouseId product.id).map fun b ↦
      ((keptWhere s method warehouseId product.id fun id ↦ id = b.locationId).map f).sum).sum +
      ((keptWhere s method warehouseId product.id fun id ↦
        (s.balance? product.id id).isNone).map f).sum =
      ((keptWhere s method warehouseId product.id fun _ ↦ true).map f).sum := by
  simp only [keptWhere, Sums.sum_filter]
  rw [Sums.sum_comm, ← sum_map_add]
  congr 1
  apply map_congr_left
  intro k _
  cases hin : inWarehouse s warehouseId k.locationId with
  | false => simp
  | true =>
    simp only [Bool.true_and, decide_eq_true_eq, if_true]
    cases hfind : s.balance? product.id k.locationId with
    | none =>
      have hzero : ((balancesOf s warehouseId product.id).map fun b ↦
          if k.locationId = b.locationId then f k else 0).sum = 0 := by
        refine sum_eq_zero (forall_mem_map.mpr fun b hb ↦ ?_)
        refine if_neg fun hid ↦ ?_
        obtain ⟨hmem, hproduct, -⟩ := mem_balancesOf.mp hb
        have hfound : s.balance? b.productId b.locationId = some b := find?_key_of_mem hmem
        rw [hproduct, ← hid, hfind] at hfound
        cases hfound
      rw [hzero]
      simp
    | some b =>
      obtain ⟨hproduct, hid⟩ := Prod.ext_iff.mp (key_of_find? hfind)
      have hmem : b ∈ balancesOf s warehouseId product.id :=
        mem_balancesOf.mpr ⟨mem_of_find? hfind, hproduct, by
          rw [show b.locationId = k.locationId from hid]
          exact hin⟩
      have hone := Sums.sum_key_eq Balance.locationId (fun _ ↦ f k)
        (nodup_balancesOf product.id) hmem
      have hsides : ∀ x : Balance, (k.locationId = x.locationId) = (x.locationId = b.locationId) :=
        fun x ↦ by rw [show b.locationId = k.locationId from hid]; exact propext eq_comm
      simp only [hsides, hone]
      simp

/-! ### When the export agrees -/

theorem two_mul_abs_lt_one_iff {a b : ℤ} : 2 * |a - b| < 1 ↔ a = b := by
  constructor
  · intro h
    have := abs_nonneg (a - b)
    have habs : |a - b| = 0 := by omega
    rw [abs_eq_zero] at habs
    omega
  · rintro rfl
    simp

theorem valuationOf_sound (hs : StockChecked s) (hproduct : product ∈ s.products.rows) :
    (valuationOf s product).Sound := by
  rw [valuationOf]
  cases hfind : s.valuations.find? product.id with
  | none => exact ⟨le_rfl, le_rfl, hs.products product hproduct⟩
  | some v => exact hs.valuations v (mem_of_find? hfind)

theorem average_eq (s : Store) (product : Product) :
    ((s.valuations.find? product.id).map Valuation.averageUnitCost).getD product.cost =
      (valuationOf s product).averageUnitCost := by
  rw [valuationOf]
  cases s.valuations.find? product.id with
  | none | some v => rfl

/-- The flag of the export under the moving average. -/
theorem averageFlag_eq (b : Balance) : (exportRow s .MOVING_AVERAGE product b).valuationReconciled =
    (decide (globalBalance s product.id = (valuationOf s product).quantity) &&
      decide (|(valuationOf s product).residue| < 500)) := by
  simp only [exportRow, two_mul_abs_lt_one_iff, valuationOf, Valuation.residue]
  obtain hfind | ⟨v, hfind⟩ := Option.eq_none_or_eq_some (s.valuations.find? product.id)
  · simp [hfind]
  · simp [hfind]

/-- **The export tolerates less**: what it accepts of a difference the listing accepts. -/
theorem averageFlags_eq_iff (hv : (valuationOf s product).Sound) (b : Balance) :
    (exportRow s .MOVING_AVERAGE product b).valuationReconciled =
        (listStock s .MOVING_AVERAGE warehouseId today product).reconciled ↔
      globalBalance s product.id ≠ (valuationOf s product).quantity ∨
        ¬(500 ≤ |(valuationOf s product).residue| ∧
          Tolerated (valuationOf s product).residue (valuationOf s product).quantity) := by
  have hlisted := reconciled_iff hv
  rw [Valuation.Reconciled] at hlisted
  rw [averageFlag_eq, listStock, Bool.eq_iff_iff, Bool.and_eq_true, Bool.and_eq_true, hlisted]
  simp only [decide_eq_true_eq]
  have htolerance : 0 ≤ roundingTolerance (valuationOf s product).quantity := by
    rw [roundingTolerance_eq hv.quantity_nonneg]
    have := hv.quantity_nonneg
    omega
  have hless : |(valuationOf s product).residue| < 500 →
      Tolerated (valuationOf s product).residue (valuationOf s product).quantity := by
    intro h
    obtain ⟨hlow, hup⟩ := abs_lt.mp h
    exact ⟨by omega, by omega⟩
  rw [← not_lt]
  tauto

theorem keptWhere_true (productId : Uuid) : keptWhere s method warehouseId productId (fun _ ↦ true)
    = (kept s method productId).filter fun k ↦ inWarehouse s warehouseId k.locationId := by
  simp only [keptWhere, Bool.and_true]

theorem flagsAlike_iff (hs : StockChecked s) (hproduct : product ∈ s.products.rows) :
    (∀ row ∈ exportStock s method warehouseId product,
      row.valuationReconciled = (listStock s method warehouseId today product).reconciled) ↔
      FlagsAlike s method warehouseId product := by
  have hkept (b : Balance) (hb : b ∈ balancesOf s warehouseId product.id) :=
    @sum_here s method _ _ hs Kept.quantity _ (fun _ _ hzero ↦ hzero) hb
  rw [exportStock, forall_mem_map]
  cases method with
  | MOVING_AVERAGE =>
    simp only [averageFlags_eq_iff (valuationOf_sound hs hproduct), FlagsAlike]
    cases balancesOf s warehouseId product.id with
    | nil => simp
    | cons b l =>
      refine ⟨fun h ↦ Or.inr (h b mem_cons_self), fun h _ _ ↦ h.resolve_left ?_⟩
      exact cons_ne_nil b l
  | FIFO | SPECIFIC_LOT =>
    refine forall₂_congr fun b hb ↦ ?_
    simp only [exportRow, listStock, ← keptWhere_true, two_mul_abs_lt_one_iff, decide_eq_decide,
      hkept b hb]
    exact iff_congr Iff.rfl eq_comm

theorem valuationValue_eq {quantity unitCost : ℤ} (h : 0 ≤ quantity * unitCost) :
    valuationValue quantity unitCost = roundDiv (quantity * unitCost) QUANTITY_SCALE := by
  simp only [valuationValue, ge_iff_le, h, if_true]
  rw [Int.tdiv_eq_ediv_of_nonneg (by omega), eq_comm, roundDiv_eq_iff h (by norm_num)]
  constructor <;> (simp only [QUANTITY_SCALE]; omega)

theorem valuesAlike_iff (hs : StockChecked s) (hproduct : product ∈ s.products.rows) :
    ((exportStock s method warehouseId product).map StockRow.inventoryValue).sum =
        QUANTITY_SCALE * (listStock s method warehouseId today product).inventoryValue ↔
      ValuesAlike s method warehouseId product := by
  have hsum := @sum_balanced s method warehouseId product Kept.worth
  have hkept : ((balancesOf s warehouseId product.id).map fun b ↦
      (((kept s method product.id).filter fun k ↦
        decide (k.locationId = b.locationId) && decide (0 < k.quantity)).map Kept.worth).sum).sum =
      ((balancesOf s warehouseId product.id).map fun b ↦
        ((keptWhere s method warehouseId product.id fun id ↦ id = b.locationId).map
          Kept.worth).sum).sum :=
    congrArg List.sum (map_congr_left fun b hb ↦
      sum_here hs (fun k hk ↦ (kept_checked hs hk).2.2) hb)
  rw [exportStock, map_map]
  cases method with
  | MOVING_AVERAGE =>
    have haverage := (valuationOf_sound hs hproduct).average_nonneg
    have hnonneg : ∀ n ∈ (balancesOf s warehouseId product.id).map fun b ↦
        b.quantity * (valuationOf s product).averageUnitCost, 0 ≤ n := by
      refine forall_mem_map.mpr fun b hb ↦ ?_
      exact mul_nonneg (hs.balances b (mem_balancesOf.mp hb).1) haverage
    have hround := sum_roundDiv_eq_iff (m := 1000) (by norm_num) hnonneg
    have hrows : ((balancesOf s warehouseId product.id).map
        (StockRow.inventoryValue ∘ exportRow s .MOVING_AVERAGE product)).sum =
        QUANTITY_SCALE * (((balancesOf s warehouseId product.id).map fun b ↦
          b.quantity * (valuationOf s product).averageUnitCost).map fun n ↦
            roundDiv n (1000 : ℕ)).sum := by
      rw [map_map, ← sum_map_mul_left, ← average_eq]
      rfl
    have htotal : ((balancesOf s warehouseId product.id).map Balance.quantity).sum *
        (valuationOf s product).averageUnitCost =
        ((balancesOf s warehouseId product.id).map fun b ↦
          b.quantity * (valuationOf s product).averageUnitCost).sum :=
      (sum_map_mul_right ..).symm
    rw [hrows, listStock]
    simp only [ValuesAlike]
    rw [valuationValue_eq (htotal ▸ sum_nonneg hnonneg), htotal,
      mul_right_inj' (by norm_num : QUANTITY_SCALE ≠ 0)]
    simp only [map_map] at hround ⊢
    exact hround
  | FIFO =>
    refine (Eq.congr_left hkept).trans ?_
    simp only [listStock, ValuesAlike, ← keptWhere_true, remainder]
    constructor <;> intro h <;> linarith
  | SPECIFIC_LOT =>
    refine (Eq.congr_left hkept).trans ?_
    have hnonneg : 0 ≤ ((keptWhere s .SPECIFIC_LOT warehouseId product.id fun _ ↦ true).map
        Kept.worth).sum := by
      refine sum_nonneg (forall_mem_map.mpr fun k hk ↦ ?_)
      exact (kept_checked hs (mem_of_mem_filter hk)).2.1
    simp only [listStock, ValuesAlike, ← keptWhere_true, Int.tdiv_eq_ediv_of_nonneg hnonneg]
    have := Int.emod_add_mul_ediv ((keptWhere s .SPECIFIC_LOT warehouseId product.id fun _ ↦
      true).map Kept.worth).sum QUANTITY_SCALE
    constructor <;> intro h <;> linarith

/-- **When the export agrees with the listing.** -/
theorem stock_export_agrees_iff (s : Store) (hs : StockChecked s) (method : ValuationMethod)
    (warehouseId : Uuid) (today : Day) (product : Product) (hproduct : product ∈ s.products.rows) :
    Agrees (exportStock s method warehouseId product)
        (listStock s method warehouseId today product) ↔
      Covered s warehouseId today product ∧ FlagsAlike s method warehouseId product ∧
        ValuesAlike s method warehouseId product := by
  have hflags := @flagsAlike_iff s method warehouseId today product hs hproduct
  have hvalues := @valuesAlike_iff s method warehouseId today product hs hproduct
  have hsum (f : StockRow → ℤ) (g : Balance → ℤ) (h : ∀ b, f (exportRow s method product b) = g b) :
      ((exportStock s method warehouseId product).map f).sum =
        ((balancesOf s warehouseId product.id).map g).sum := by
    rw [exportStock, map_map]
    exact congrArg List.sum (map_congr_left fun b _ ↦ h b)
  have havailable : ((exportStock s method warehouseId product).map StockRow.available).sum =
      (listStock s method warehouseId today product).availableQuantity ↔
      Covered s warehouseId today product := by
    rw [hsum _ Balance.available fun _ ↦ rfl, Covered]
    simp only [listStock]
    cases product.trackLots with
    | false | true => simp
  constructor
  · intro h
    exact ⟨havailable.mp h.available, hflags.mp h.flags, hvalues.mp h.value⟩
  · rintro ⟨hcovered, hflag, hvalue⟩
    exact ⟨hflags.mpr hflag, hsum _ Balance.quantity fun _ ↦ rfl, havailable.mpr hcovered,
      hsum _ Balance.reserved fun _ ↦ rfl, hsum _ Balance.damaged fun _ ↦ rfl,
      hsum _ Balance.inTransit fun _ ↦ rfl, hvalues.mpr hvalue⟩

def sugar : Product :=
  .plain 1 3300

def threeUnits : Store :=
  { Store.fresh default with
    products := .ofRow sugar
    locations := .ofRow ⟨1, 1, true, 0⟩
    balances := .ofRow ⟨1, 1, 3000, 3000, 0, 0, 0⟩
    fifo := ⟨.ofRow ⟨1, 1, 1, none, none, none, .ENTRY, 3000, 3000, 3333, .MXN, 0, 0⟩, .empty⟩
    valuations := .ofRow ⟨1, 3000, 10000, 3333⟩ }

theorem threeUnits_checked : StockChecked threeUnits where
  balances := by decide
  valuations := fun v hv ↦ by
    obtain rfl := mem_singleton.mp hv
    exact ⟨by decide, by decide, by decide⟩
  products := by decide
  layers := by decide
  lots := by decide
  lotBalances := by decide

theorem stock_export_agrees_iff_threeUnits :
    Agrees (exportStock threeUnits .FIFO 1 sugar) (listStock threeUnits .FIFO 1 0 sugar) ↔
      Covered threeUnits 1 0 sugar ∧ FlagsAlike threeUnits .FIFO 1 sugar ∧
        ValuesAlike threeUnits .FIFO 1 sugar :=
  stock_export_agrees_iff threeUnits threeUnits_checked .FIFO 1 0 sugar mem_cons_self

/-- **Three units**: the listing has the row reconciled, the export has not. -/
theorem three_units : (listStock threeUnits .MOVING_AVERAGE 1 0 sugar).reconciled = true ∧
      ¬Agrees (exportStock threeUnits .MOVING_AVERAGE 1 sugar)
        (listStock threeUnits .MOVING_AVERAGE 1 0 sugar) :=
  ⟨by decide, fun h ↦ absurd (h.flags _ mem_cons_self) (by decide)⟩

end UInventario.Reports
