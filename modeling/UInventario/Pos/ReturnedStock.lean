import Mathlib.Algebra.BigOperators.Ring.Finset
import Mathlib.Data.Prod.Lex
import UInventario.Inventory.LotTracking
import UInventario.Pos.BundleSplit

/-!
# The stock of a sale and of its returns

A sale takes every line out of the balances in the order they are read, and writes a `SALE` movement
for each; of a `DERIVED` kit it takes the components, each rounded to the nearest thousandth of the
whole line. A return gives a line back by its `SALE` movements, in their order, up to what has not
been restored of each; of a kit it gives every component its quantity rounded down. What a movement
took it reads from a negative column, whose decimals `toQuantity` counts with the wrong sign.

* No `SALE` movement is restored beyond what it took, so no location is (`Whole.restoredAt_le`).
* A tracked product that has been returned in full has been restored in full. A component of a kit
  is exactly when what the rounding has cut off, `residue`, is less than half a thousandth
  (`RoundingFits`); in `thousandth_kept` a sale of four kits is returned in two parts.
* What is restored in full was taken in whole units (`Whole.whole_units`): of any other quantity a
  part can never be returned.

The refusals after the allocation only make the accepted returns fewer, and are left out.
-/

namespace UInventario.Pos.ReturnedStock

open Outcome Rounding List

/-- The errors of the two transactions that bear on the stock of a line; `duplicate` is a repeated
primary key. -/
inductive StockFailure
  | syntaxError | saleLineAmounts | kitComponentQuantities | posInsufficientStock | duplicate
  | saleReturnQuantity | saleReturnSerial
  | quantityPolicy (failure : UInventario.Failure)

/-! ### The rows of a line -/

/-- A row of `sale_kit_components`, in thousandths. -/
structure KitComponent where
  componentProductId : Uuid
  (quantityPerKit totalQuantity : ℕ)

/-- `uq_sale_kit_component`, within a line. -/
instance : Keyed KitComponent Uuid := ⟨KitComponent.componentProductId⟩

/-- A row of `inventory_movements` of type `SALE`; `quantity` is the opposite of `quantity_change`.
-/
structure SaleMovement where
  id : Uuid
  createdAt : Timestamp
  (productId locationId : Uuid)
  quantity : ℕ

instance : Keyed SaleMovement Uuid := ⟨SaleMovement.id⟩

/-- `condition` of a line of a return. -/
inductive ItemCondition
  | SELLABLE | DAMAGED

/-- A row of `inventory_movements` of type `SALE_RETURN`; the condition says to which state. -/
structure ReturnMovement where
  (sourceSaleMovementId productId locationId : Uuid)
  quantity : ℤ
  toState : ItemCondition

/-- A row of `sale_return_lines`. -/
structure ReturnedLine where
  quantity : ℤ
  itemCondition : ItemCondition
  serialNumbers : List Text

/-- **A line of a sale** with the rows that name it. -/
structure LineStock where
  productId : Uuid
  quantity : ℕ
  stockBehavior : StockBehavior
  components : Table KitComponent
  movements : Table SaleMovement
  returns : List ReturnedLine := []
  restored : List ReturnMovement := []

/-- The stock targets of a line, by what is wanted of a component and of the product itself. -/
def LineStock.targets (l : LineStock) (ofComponent : KitComponent → ℤ) (ofProduct : ℤ) :
    List (Uuid × ℤ) :=
  match l.stockBehavior with
  | .UNTRACKED => []
  | .TRACKED =>
    if l.components.rows = [] then [(l.productId, ofProduct)]
    else l.components.rows.map fun c ↦ (c.componentProductId, ofComponent c)

/-! ### What a sale takes -/

/-- A row of `inventory_balances` as the sale reads it; `lotQuantity` is null unless lots count. -/
structure StockBalance where
  locationId : Uuid
  (availableQuantity reservedQuantity : ℕ)
  lotQuantity : Option ℕ
  serialNumbers : List Text

structure QuotedComponent where
  productId : Uuid
  quantityPerKit : ℕ

/-- A line of the quote, with the components of a derived kit and the balances read for it. -/
structure QuotedLine where
  productId : Uuid
  quantity : ℕ
  stockBehavior : StockBehavior
  derivedKit : List QuotedComponent
  serialNumbers : List Text
  balances : Uuid → List StockBalance

/-- `totalQuantity` of a component: rounded half up on the quantity of the line. -/
def QuotedLine.kitComponent (line : QuotedLine) (component : QuotedComponent) : KitComponent where
  componentProductId := component.productId
  quantityPerKit := component.quantityPerKit
  totalQuantity := (roundDivide (line.quantity * component.quantityPerKit) 1000).toNat

/-- `selectableAvailable`; `reserved` says that the sale delivers a reservation. -/
def QuotedLine.selectable (line : QuotedLine) (reserved : Bool) (balance : StockBalance) : ℕ :=
  let available := if reserved then balance.reservedQuantity else balance.availableQuantity
  let lotAvailable := balance.lotQuantity.getD available
  let effectiveAvailable := min available lotAvailable
  let serialAvailable :=
    if line.serialNumbers ≠ [] then balance.serialNumbers.length * 1000 else effectiveAvailable
  min effectiveAvailable serialAvailable

/-- The loop over the balances: what is taken at each location, and what remains. -/
def allocate (selectable : StockBalance → ℕ) : List StockBalance → ℕ → List (Uuid × ℕ) × ℕ
  | [], remaining => ([], remaining)
  | balance :: balances, remaining =>
    if remaining = 0 then ([], 0)
    else
      let taken := min (selectable balance) remaining
      if taken = 0 then allocate selectable balances remaining
      else
        let rest := allocate selectable balances (remaining - taken)
        ((balance.locationId, taken) :: rest.1, rest.2)

/-- What is taken of a product: the product, the location and the quantity of each allocation. -/
def takeProduct (line : QuotedLine) (selectable : StockBalance → ℕ) (target : Uuid × ℕ) :
    Except StockFailure (List (Uuid × Uuid × ℕ)) := do
  let taken := allocate selectable (line.balances target.1) target.2
  ensure (taken.2 = 0) .posInsufficientStock
  pure (taken.1.map fun allocation ↦ (target.1, allocation))

/-- `ck_sale_kit_component_quantities`, `uq_sale_kit_component`. -/
def insertComponent (components : Table KitComponent) (component : KitComponent) :
    Except StockFailure (Table KitComponent) := do
  ensure (0 < component.quantityPerKit ∧ 0 < component.totalQuantity) .kitComponentQuantities
  demand (components.insert component) .duplicate

/-- Writes the movement of an allocation, with the key and the time drawn for it. -/
def insertMovement (drawn : ℕ → Uuid × Timestamp) (movements : Table SaleMovement)
    (allocation : (Uuid × Uuid × ℕ) × ℕ) : Except StockFailure (Table SaleMovement) :=
  demand (movements.insert {
    id := (drawn allocation.2).1, createdAt := (drawn allocation.2).2, productId := allocation.1.1,
    locationId := allocation.1.2.1, quantity := allocation.1.2.2 }) .duplicate

/-- The part of `persistSale` that takes the stock of a line. A kit that is not tracked takes its
components without a movement. -/
def persistLine (reserved : Bool) (line : QuotedLine) (drawn : ℕ → Uuid × Timestamp) :
    Except StockFailure LineStock := do
  ensure (0 < line.quantity) .saleLineAmounts
  let components := line.derivedKit.map line.kitComponent
  let derived ← (components.map fun c ↦ (c.componentProductId, c.totalQuantity)).mapM
    (takeProduct line StockBalance.availableQuantity)
  let direct ← (if line.stockBehavior = .TRACKED ∧ components = [] then
      [(line.productId, line.quantity)] else []).mapM (takeProduct line (line.selectable reserved))
  let rows ← components.foldlM insertComponent Table.empty
  let allocations := if line.stockBehavior = .TRACKED then (derived ++ direct).flatten else []
  let movements ← allocations.zipIdx.foldlM (insertMovement drawn) Table.empty
  pure {
    productId := line.productId, quantity := line.quantity, stockBehavior := line.stockBehavior,
    components := rows, movements := movements }

/-- The part of `persistSale` that takes the stock. -/
def persistSale (reserved : Bool) (lines : List (QuotedLine × (ℕ → Uuid × Timestamp))) :
    Except StockFailure (List LineStock) :=
  lines.mapM fun line ↦ persistLine reserved line.1 line.2

/-! ### What a return restores -/

/-- A line of a return: position and thousandths, and what the transaction reads for it now. -/
structure RequestedLine where
  (saleLine quantity : ℕ)
  condition : ItemCondition
  serialNumbers : List Text
  trackSerials : Bool
  policy : QuantityPolicy
  serialRows : List (Text × Uuid)

/-- `toQuantity` of the returns. -/
def toQuantity (value : List Char) : Option ℤ :=
  Decimal.readTruncated 3 value

/-- The column `quantity_change` of a `SALE` movement. -/
def SaleMovement.quantityChange (m : SaleMovement) : List Char :=
  Decimal.fixedText 3 (-m.quantity)

/-- `soldAtLocation`. -/
def SaleMovement.soldAtLocation (m : SaleMovement) : Option ℤ :=
  (toQuantity m.quantityChange).map fun quantityChange ↦ -quantityChange

/-- What has been restored of a `SALE` movement. -/
def LineStock.restoredOf (l : LineStock) (movementId : Uuid) : ℤ :=
  (l.restored.map fun r ↦ if r.sourceSaleMovementId = movementId then r.quantity else 0).sum

def LineStock.returned (l : LineStock) : ℤ :=
  (l.returns.map ReturnedLine.quantity).sum

/-- The rows of `sourceMovements` that a target is left with: `ORDER BY created_at, id`. -/
def LineStock.sourceMovements (l : LineStock) (productId : Uuid) : List SaleMovement :=
  orderBy (fun m m' ↦ toLex (m.createdAt, m.id) ≤ toLex (m'.createdAt, m'.id))
    (l.movements.rows.filter fun m ↦ m.productId = productId)

structure Allocation where
  (movementId productId locationId : Uuid)
  quantity : ℤ
  serialNumbers : List Text

/-- `selected`: the serials of the return that the movement sold, or what is left of it. -/
def selectedOf (trackSerials : Bool) (movementSerials : List Text) (available remaining : ℤ) : ℤ :=
  if trackSerials then movementSerials.length * 1000
  else if available < remaining then available else remaining

def allocateReturn (l : LineStock) (trackSerials : Bool) (movementSerials : Uuid → List Text) :
    List SaleMovement → ℤ → Except StockFailure (List Allocation)
  | [], remaining => do
    ensure (remaining = 0) .saleReturnQuantity
    pure []
  | movement :: movements, remaining =>
    if remaining = 0 then pure []
    else do
      let soldAtLocation ← demand movement.soldAtLocation .syntaxError
      let available := soldAtLocation - l.restoredOf movement.id
      let selected := selectedOf trackSerials (movementSerials movement.id) available remaining
      if selected ≤ 0 then allocateReturn l trackSerials movementSerials movements remaining
      else do
        ensure (¬(selected > available ∨ selected > remaining)) .saleReturnSerial
        let rest ← allocateReturn l trackSerials movementSerials movements (remaining - selected)
        pure ({
          movementId := movement.id, productId := movement.productId,
          locationId := movement.locationId, quantity := selected,
          serialNumbers := movementSerials movement.id } :: rest)

/-- `returnTargets`: of a component the quantity of this return, rounded down. -/
def LineStock.returnTargets (l : LineStock) (quantity : ℤ) : List (Uuid × ℤ) :=
  l.targets (fun c ↦ (quantity * c.quantityPerKit).tdiv 1000) quantity

structure PreparedReturn where
  saleLine : ℕ
  quantity : ℤ
  condition : ItemCondition
  serialNumbers : List Text
  allocations : List Allocation

/-- `new Map(rows)`: a later row takes the place of an earlier one. -/
def mapGet (rows : List (Text × Uuid)) (key : Text) : Option Uuid :=
  rows.reverse.lookup key

/-- One turn of the loop of `create` over the requested lines. -/
def prepareReturn (toUpperCase : Text → Text) (l : LineStock) (requested : RequestedLine) :
    Except StockFailure PreparedReturn := do
  let quantity ← (normalizeProductQuantity requested.quantity requested.policy).mapError
    .quantityPolicy
  ensure (¬(quantity ≤ 0 ∨ l.returned + quantity > l.quantity)) .saleReturnQuantity
  let serialNumbers := requested.serialNumbers.map trim
  ensure (¬(requested.trackSerials ≠ decide (0 < serialNumbers.length) ∨
    requested.trackSerials = true ∧
      (quantity % 1000 ≠ 0 ∨ (serialNumbers.length : ℤ) ≠ quantity / 1000))) .saleReturnSerial
  ensure (serialNumbers.map toUpperCase).Nodup .saleReturnSerial
  ensure (serialNumbers = [] ∨ requested.serialRows.length = serialNumbers.length)
    .saleReturnSerial
  let movementSerials := fun movementId ↦ serialNumbers.filter fun serial ↦
    mapGet requested.serialRows (toUpperCase serial) = some movementId
  let allocations ← (l.returnTargets quantity).mapM fun target ↦
    allocateReturn l requested.trackSerials movementSerials (l.sourceMovements target.1) target.2
  pure {
    saleLine := requested.saleLine, quantity := quantity, condition := requested.condition,
    serialNumbers := serialNumbers, allocations := allocations.flatten }

/-- The `SALE_RETURN` movement of an allocation. -/
def Allocation.movement (condition : ItemCondition) (allocation : Allocation) : ReturnMovement where
  sourceSaleMovementId := allocation.movementId
  productId := allocation.productId
  locationId := allocation.locationId
  quantity := allocation.quantity
  toState := condition

def LineStock.write (l : LineStock) (line : PreparedReturn) : LineStock :=
  { l with
    returns := l.returns ++ [⟨line.quantity, line.condition, line.serialNumbers⟩]
    restored := l.restored ++ line.allocations.map (Allocation.movement line.condition) }

/-- The stock of `create`: every line is prepared before any is written. -/
def create (toUpperCase : Text → Text) (sale : List LineStock) (lines : List RequestedLine) :
    Except StockFailure (List LineStock) := do
  ensure (lines.map RequestedLine.saleLine).Nodup .saleReturnQuantity
  let prepared ← lines.mapM fun requested ↦ do
    let l ← demand sale[requested.saleLine]? .saleReturnQuantity
    prepareReturn toUpperCase l requested
  pure (prepared.foldl (fun sale line ↦ sale.modify line.saleLine (·.write line)) sale)

/-! ### What a sale has taken -/

/-- What the `SALE` movements of the line took of a product. -/
def LineStock.takenTotal (l : LineStock) (productId : Uuid) : ℤ :=
  l.movements.total fun m ↦ if m.productId = productId then m.quantity else 0

def wanted (targets : List (Uuid × ℤ)) (productId : Uuid) : ℤ :=
  (targets.map fun target ↦ if target.1 = productId then target.2 else 0).sum

theorem allocate_add_remaining (selectable : StockBalance → ℕ) (balances : List StockBalance)
    (quantity : ℕ) :
    ((allocate selectable balances quantity).1.map Prod.snd).sum +
      (allocate selectable balances quantity).2 = quantity := by
  induction balances generalizing quantity with
  | nil => simp [allocate]
  | cons balance balances ih =>
    unfold allocate
    split
    case isTrue hzero => simp [hzero]
    case isFalse =>
      dsimp only
      split
      case isTrue => exact ih quantity
      case isFalse =>
        have hrest := ih (quantity - min (selectable balance) quantity)
        rw [map_cons, sum_cons]
        omega

def allocatedTo (allocations : List (Uuid × Uuid × ℕ)) (productId : Uuid) : ℤ :=
  (allocations.map fun a ↦ if a.1 = productId then (a.2.2 : ℤ) else 0).sum

variable {line : QuotedLine} {allocations : List (Uuid × Uuid × ℕ)} {drawn : ℕ → Uuid × Timestamp}
  {selectable : StockBalance → ℕ} {reserved : Bool}

theorem allocatedTo_takeProduct {target : Uuid × ℕ}
    (h : takeProduct line selectable target = .ok allocations) (productId : Uuid) :
    allocatedTo allocations productId = if target.1 = productId then (target.2 : ℤ) else 0 := by
  simp only [takeProduct, eq_ok] at h
  obtain ⟨_, hzero, rfl⟩ := h
  have hsum := allocate_add_remaining selectable (line.balances target.1) target.2
  rw [hzero, add_zero] at hsum
  rw [allocatedTo, map_map]
  by_cases hproduct : target.1 = productId
  · have hmap : ((allocate selectable (line.balances target.1) target.2).1.map
        fun a ↦ (a.2 : ℤ)).sum = target.2 := by
      have hcast := congrArg (Nat.cast (R := ℤ)) hsum
      rwa [Nat.cast_list_sum, map_map] at hcast
    simpa [Function.comp_def, hproduct] using hmap
  · simp [Function.comp_def, hproduct]

theorem allocatedTo_append (as bs : List (Uuid × Uuid × ℕ)) (productId : Uuid) :
    allocatedTo (as ++ bs) productId = allocatedTo as productId + allocatedTo bs productId := by
  rw [allocatedTo, map_append, sum_append]
  rfl

theorem allocatedTo_flatten {targets : List (Uuid × ℕ)}
    {allocations : List (List (Uuid × Uuid × ℕ))}
    (h : targets.mapM (takeProduct line selectable) = .ok allocations) (productId : Uuid) :
    allocatedTo allocations.flatten productId =
      wanted (targets.map fun t ↦ (t.1, (t.2 : ℤ))) productId := by
  have hall := mapM_eq_ok h
  clear h
  induction hall with
  | nil => rfl
  | cons hhead _ ih =>
    rw [flatten_cons, allocatedTo_append, ih, allocatedTo_takeProduct hhead, map_cons,
      wanted, wanted, map_cons, sum_cons]

theorem total_insertMovement {movements : Table SaleMovement}
    (h : allocations.zipIdx.foldlM (insertMovement drawn) Table.empty = .ok movements)
    (productId : Uuid) :
    (movements.total fun m ↦ if m.productId = productId then (m.quantity : ℤ) else 0) =
      allocatedTo allocations productId := by
  have hloop := foldlM_induct (f := insertMovement drawn)
    (P := fun rest t ↦
      (t.total fun m : SaleMovement ↦ if m.productId = productId then (m.quantity : ℤ) else 0) +
        allocatedTo (rest.map Prod.fst) productId = allocatedTo allocations productId)
    ?_ (by simp) h
  · simpa [allocatedTo] using hloop
  intro a rest t t' hP hstep
  rw [insertMovement, demand_eq_ok] at hstep
  rw [Table.total_insert hstep, ← hP, map_cons, allocatedTo, allocatedTo, map_cons,
    sum_cons, add_assoc]

theorem rows_insertComponent {components : List KitComponent} {rows : Table KitComponent}
    (h : components.foldlM insertComponent Table.empty = .ok rows) : rows.rows = components := by
  have hloop := foldlM_induct (f := insertComponent)
    (P := fun rest t ↦ t.rows ++ rest = components) ?_ rfl h
  · simpa using hloop
  intro c rest t t' hP hstep
  simp only [insertComponent, eq_ok] at hstep
  obtain ⟨_, _, hinsert⟩ := hstep
  rw [(Table.insert_eq_some hinsert).2, ← hP, append_assoc, singleton_append]

/-- **What a sale leaves of a line**: the totals of the components are rounded half up, and the
movements take the targets. -/
structure Sold (l : LineStock) : Prop where
  totalQuantity : ∀ c ∈ l.components.rows,
    (c.totalQuantity : ℤ) = roundDiv (l.quantity * c.quantityPerKit) 1000
  taken : ∀ productId, l.takenTotal productId =
    wanted (l.targets (fun c ↦ c.totalQuantity) l.quantity) productId

theorem sold_persistLine {l : LineStock}
    (h : persistLine reserved line drawn = .ok l) : Sold l := by
  simp only [persistLine, eq_ok] at h
  obtain ⟨_, _, derived, hderived, direct, hdirect, rows, hrows, movements, hmovements, rfl⟩ := h
  have hcomponents := rows_insertComponent hrows
  refine ⟨?_, fun productId ↦ ?_⟩
  · intro c hc
    rw [hcomponents] at hc
    obtain ⟨component, _, rfl⟩ := mem_map.mp hc
    have hnonneg : (0 : ℤ) ≤ line.quantity * component.quantityPerKit := by positivity
    show ((roundDivide (line.quantity * component.quantityPerKit) 1000).toNat : ℤ) = _
    rw [roundDivide_eq hnonneg (by omega), Int.toNat_of_nonneg (roundDiv_nonneg hnonneg (by omega))]
    rfl
  · show (movements.total _) = _
    rw [total_insertMovement hmovements, LineStock.targets]
    cases hbehavior : line.stockBehavior with
    | UNTRACKED => simp [allocatedTo, wanted]
    | TRACKED =>
      rw [if_pos rfl, flatten_append, allocatedTo_append, allocatedTo_flatten hderived,
        allocatedTo_flatten hdirect]
      show _ = wanted (if rows.rows = [] then _ else _) productId
      rw [hcomponents]
      by_cases hkit : line.derivedKit.map line.kitComponent = []
      · rw [if_pos hkit, if_pos ⟨hbehavior, hkit⟩, hkit]
        simp [wanted]
      · rw [if_neg hkit, if_neg fun h ↦ hkit h.2]
        simp [wanted, Function.comp_def]

/-! ### What a return restores -/

variable {l : LineStock} {trackSerials : Bool} {movementSerials : Uuid → List Text}
  {movements : List SaleMovement}

/-- What `toQuantity` makes of what a movement took. -/
def SaleMovement.readable (m : SaleMovement) : ℤ :=
  -Decimal.misread 3 (-m.quantity)

theorem soldAtLocation_eq (m : SaleMovement) : m.soldAtLocation = some m.readable := by
  rw [SaleMovement.soldAtLocation, toQuantity, SaleMovement.quantityChange,
    Decimal.readTruncated_fixedText (by decide), Decimal.readUnsigned_fixedText (by decide)]
  rfl

theorem readable_le (m : SaleMovement) : m.readable ≤ m.quantity :=
  neg_le.mp (Decimal.le_misread 3 _)

theorem readable_eq_iff (m : SaleMovement) : m.readable = m.quantity ↔ 1000 ∣ m.quantity := by
  have hself := @Decimal.misread_eq_self_iff 3 (-m.quantity)
  rw [SaleMovement.readable, neg_eq_iff_eq_neg, hself]
  omega

/-- **An allocation that fits**: it is of one of the movements, and within what is left of it. -/
def Allocation.Fits (a : Allocation) (l : LineStock) (movements : List SaleMovement) : Prop :=
  0 < a.quantity ∧ ∃ m ∈ movements, m.id = a.movementId ∧ m.productId = a.productId ∧
    m.locationId = a.locationId ∧ a.quantity ≤ m.readable - l.restoredOf m.id

theorem Allocation.Fits.mono {a : Allocation} {movements' : List SaleMovement}
    (h : a.Fits l movements) (hsub : ∀ m ∈ movements, m ∈ movements') : a.Fits l movements' := by
  obtain ⟨hpos, m, hm, hrest⟩ := h
  exact ⟨hpos, m, hsub m hm, hrest⟩

/-- **The loop over the source movements** allocates all that is wanted, in allocations that fit, at
most one of each movement. -/
theorem allocateReturn_fits {remaining : ℤ} {allocations : List Allocation}
    (h : allocateReturn l trackSerials movementSerials movements remaining = .ok allocations) :
    (allocations.map Allocation.quantity).sum = remaining ∧
      (∀ a ∈ allocations, a.Fits l movements) ∧
      List.Sublist (allocations.map Allocation.movementId) (movements.map SaleMovement.id) := by
  induction movements generalizing remaining allocations with
  | nil =>
    simp only [allocateReturn, eq_ok] at h
    obtain ⟨_, hzero, rfl⟩ := h
    exact ⟨hzero.symm, forall_mem_nil _, List.Sublist.refl _⟩
  | cons movement movements ih =>
    have hsub : ∀ m ∈ movements, m ∈ movement :: movements :=
      fun m hm ↦ mem_cons_of_mem movement hm
    rw [allocateReturn] at h
    split at h
    case isTrue hzero =>
      cases pure_eq_ok.mp h
      exact ⟨hzero.symm, forall_mem_nil _, nil_sublist _⟩
    case isFalse =>
      rw [soldAtLocation_eq, demand, ok_bind] at h
      dsimp only at h
      split at h
      case isTrue =>
        obtain ⟨hsum, hfits, hids⟩ := ih h
        exact ⟨hsum, fun a ha ↦ (hfits a ha).mono hsub, hids.cons _⟩
      case isFalse hpos =>
        simp only [eq_ok] at h
        obtain ⟨_, hwithin, rest, hrest, rfl⟩ := h
        obtain ⟨hsum, hfits, hids⟩ := ih hrest
        rw [not_or, not_lt, not_lt] at hwithin
        refine ⟨?_, ?_, hids.cons_cons _⟩
        · rw [map_cons, sum_cons, hsum]
          exact add_sub_cancel _ _
        · intro a ha
          rcases mem_cons.mp ha with rfl | ha
          · exact ⟨not_le.mp hpos, movement, mem_cons_self, rfl, rfl, rfl, hwithin.1⟩
          · exact (hfits a ha).mono hsub

def restoredTo (allocations : List Allocation) (productId : Uuid) : ℤ :=
  (allocations.map fun a ↦ if a.productId = productId then a.quantity else 0).sum

theorem restoredTo_allocateReturn {target : Uuid × ℤ} {allocations : List Allocation}
    (h : allocateReturn l trackSerials movementSerials (l.sourceMovements target.1) target.2 =
      .ok allocations) (productId : Uuid) :
    restoredTo allocations productId = if target.1 = productId then target.2 else 0 := by
  obtain ⟨hsum, hfits, _⟩ := allocateReturn_fits h
  have hproduct : ∀ a ∈ allocations, a.productId = target.1 := by
    intro a ha
    obtain ⟨_, m, hm, _, hmproduct, _⟩ := hfits a ha
    have hmem := mem_filter.mp (mem_orderBy.mp hm)
    exact hmproduct.symm.trans (of_decide_eq_true hmem.2)
  have hmap : restoredTo allocations productId =
      (allocations.map fun a ↦ if target.1 = productId then a.quantity else 0).sum := by
    refine congrArg List.sum (map_congr_left fun a ha ↦ ?_)
    rw [hproduct a ha]
  rw [hmap, ← hsum]
  split <;> simp

/-- **What a return allocates**: allocations that fit, one of a movement, that come to the targets.
-/
theorem allocations_of_targets {targets : List (Uuid × ℤ)} {allocations : List (List Allocation)}
    (hnodup : (targets.map Prod.fst).Nodup)
    (h : (targets.mapM fun target ↦ allocateReturn l trackSerials movementSerials
      (l.sourceMovements target.1) target.2) = .ok allocations) :
    (∀ productId, restoredTo allocations.flatten productId = wanted targets productId) ∧
      (∀ a ∈ allocations.flatten,
        a.Fits l (l.movements.rows.filter fun m ↦ m.productId ∈ targets.map Prod.fst)) ∧
      (allocations.flatten.map Allocation.movementId).Nodup := by
  have hall := mapM_eq_ok h
  clear h
  induction hall with
  | nil => exact ⟨fun _ ↦ rfl, forall_mem_nil _, nodup_nil⟩
  | @cons target as targets ass hhead _ ih =>
    obtain ⟨hnotin, hnodup⟩ := nodup_cons.mp hnodup
    obtain ⟨hto, hfits, hids⟩ := ih hnodup
    obtain ⟨-, hheadFits, hheadIds⟩ := allocateReturn_fits hhead
    have hsource : ∀ m ∈ l.sourceMovements target.1,
        m ∈ l.movements.rows ∧ m.productId = target.1 := by
      intro m hm
      have hmem := mem_filter.mp (mem_orderBy.mp hm)
      exact ⟨hmem.1, of_decide_eq_true hmem.2⟩
    refine ⟨fun productId ↦ ?_, fun a ha ↦ ?_, ?_⟩
    · have happend : restoredTo (as ++ ass.flatten) productId =
          restoredTo as productId + restoredTo ass.flatten productId := by
        rw [restoredTo, map_append, sum_append]
        rfl
      rw [flatten_cons, happend, restoredTo_allocateReturn hhead, hto productId]
      rfl
    · rcases mem_append.mp ha with ha | ha
      · refine (hheadFits a ha).mono fun m hm ↦ mem_filter.mpr ⟨(hsource m hm).1, ?_⟩
        simp [(hsource m hm).2]
      · refine (hfits a ha).mono fun m hm ↦ ?_
        obtain ⟨hm, hproduct⟩ := mem_filter.mp hm
        exact mem_filter.mpr ⟨hm, by simp [mem_map.mp (of_decide_eq_true hproduct)]⟩
    · rw [flatten_cons, map_append, nodup_append]
      refine ⟨?_, hids, fun k hk k' hk' hkk ↦ ?_⟩
      · refine hheadIds.nodup (((orderBy_perm _ _).map _).nodup_iff.mpr ?_)
        exact l.movements.nodup.sublist (filter_sublist.map _)
      · -- an allocation of another target is of another product, hence of another movement
        obtain ⟨a, ha, rfl⟩ := mem_map.mp hk
        obtain ⟨b, hb, rfl⟩ := mem_map.mp hk'
        obtain ⟨_, m, hm, hmid, _⟩ := hheadFits a ha
        obtain ⟨_, m', hm', hmid', _⟩ := hfits b hb
        obtain ⟨hm', hproduct'⟩ := mem_filter.mp hm'
        have hmm : m = m' := Table.eq_of_mem_of_key_eq (hsource m hm).1 hm'
          (hmid.trans (hkk.trans hmid'.symm))
        have hproduct := of_decide_eq_true hproduct'
        rw [← hmm, (hsource m hm).2] at hproduct
        exact hnotin hproduct

theorem nodup_returnTargets (l : LineStock) (quantity : ℤ) :
    ((l.returnTargets quantity).map Prod.fst).Nodup := by
  rw [LineStock.returnTargets, LineStock.targets]
  cases l.stockBehavior with
  | UNTRACKED => exact nodup_nil
  | TRACKED =>
    dsimp only
    split
    · exact nodup_singleton _
    · rw [map_map]
      exact l.components.nodup

variable {toUpperCase : Text → Text} {requested : RequestedLine} {line : PreparedReturn}

/-- **A prepared return**: allocations that fit, at most one of each movement, that come to what the
targets of the return want. -/
structure Prepared (l : LineStock) (line : PreparedReturn) : Prop where
  quantity_pos : 0 < line.quantity
  restored : ∀ productId,
    restoredTo line.allocations productId = wanted (l.returnTargets line.quantity) productId
  fits : ∀ a ∈ line.allocations, a.Fits l l.movements.rows
  nodup : (line.allocations.map Allocation.movementId).Nodup

theorem prepared_prepareReturn (h : prepareReturn toUpperCase l requested = .ok line) :
    line.saleLine = requested.saleLine ∧ Prepared l line := by
  simp only [prepareReturn, eq_ok] at h
  obtain ⟨quantity, _, _, hquantity, _, _, _, _, _, _, allocations, hallocations, rfl⟩ := h
  obtain ⟨hrestored, hfits, hnodup⟩ :=
    allocations_of_targets (nodup_returnTargets l quantity) hallocations
  rw [not_or, not_le] at hquantity
  exact ⟨rfl, hquantity.1, hrestored,
    fun a ha ↦ (hfits a ha).mono fun m hm ↦ (mem_filter.mp hm).1, hnodup⟩

/-! ### What every line keeps -/

/-- What the `SALE_RETURN` movements of the line restored of a product. -/
def LineStock.restoredTotal (l : LineStock) (productId : Uuid) : ℤ :=
  (l.restored.map fun r ↦ if r.productId = productId then r.quantity else 0).sum

def LineStock.restoredAt (l : LineStock) (productId locationId : Uuid) : ℤ :=
  (l.restored.map fun r ↦
    if r.productId = productId ∧ r.locationId = locationId then r.quantity else 0).sum

/-- What the `SALE` movements of the line took of a product at a location. -/
def LineStock.takenAt (l : LineStock) (productId locationId : Uuid) : ℤ :=
  l.movements.total fun m ↦
    if m.productId = productId ∧ m.locationId = locationId then (m.quantity : ℤ) else 0

/-- **What holds of a line after any returns**: what is restored is within its movements and what
the targets of the returns wanted. -/
structure Whole (l : LineStock) : Prop where
  sold : Sold l
  bounded : ∀ m ∈ l.movements.rows, l.restoredOf m.id ≤ max 0 m.readable
  sourced : ∀ r ∈ l.restored, ∃ m ∈ l.movements.rows, m.id = r.sourceSaleMovementId ∧
    m.productId = r.productId ∧ m.locationId = r.locationId
  returned_pos : ∀ r ∈ l.returns, 0 < r.quantity
  restored : ∀ productId, l.restoredTotal productId =
    (l.returns.map fun r ↦ wanted (l.returnTargets r.quantity) productId).sum

theorem restoredOf_write (movementId : Uuid) : (l.write line).restoredOf movementId =
    l.restoredOf movementId +
      (line.allocations.map fun a ↦ if a.movementId = movementId then a.quantity else 0).sum := by
  rw [LineStock.restoredOf, LineStock.restoredOf]
  show (List.map _ (l.restored ++ _)).sum = _
  rw [map_append, sum_append, map_map]
  rfl

theorem restoredTotal_write (productId : Uuid) : (l.write line).restoredTotal productId =
    l.restoredTotal productId + restoredTo line.allocations productId := by
  rw [LineStock.restoredTotal, LineStock.restoredTotal]
  show (List.map _ (l.restored ++ _)).sum = _
  rw [map_append, sum_append, map_map]
  rfl

namespace Whole

theorem of_sold (h : Sold l) (hreturns : l.returns = []) (hrestored : l.restored = []) :
    Whole l where
  sold := h
  bounded m _ := by simp [LineStock.restoredOf, hrestored]
  sourced := by simp [hrestored]
  returned_pos := by simp [hreturns]
  restored productId := by simp [LineStock.restoredTotal, hreturns, hrestored]

/-- **One return.** -/
theorem write (h : Whole l) (hline : Prepared l line) : Whole (l.write line) where
  sold := ⟨h.sold.totalQuantity, h.sold.taken⟩
  bounded m hm := by
    rw [restoredOf_write]
    have hleft : 0 ≤ max 0 m.readable - l.restoredOf m.id := sub_nonneg.mpr (h.bounded m hm)
    have hle := Sums.sum_key_le (k := m.id) Allocation.movementId Allocation.quantity hleft
      hline.nodup ?_
    · omega
    · intro a ha hid
      obtain ⟨_, m', hm', hid', _, _, hwithin⟩ := hline.fits a ha
      have hmm : m' = m := Table.eq_of_mem_of_key_eq hm' hm (hid'.trans hid)
      exact hmm ▸ hwithin.trans (sub_le_sub_right (le_max_right 0 m'.readable) _)
  sourced r hr := by
    rcases mem_append.mp hr with hr | hr
    · exact h.sourced r hr
    · obtain ⟨a, ha, rfl⟩ := mem_map.mp hr
      obtain ⟨_, m, hm, hid, hproduct, hlocation, _⟩ := hline.fits a ha
      exact ⟨m, hm, hid, hproduct, hlocation⟩
  returned_pos r hr := by
    rcases mem_append.mp hr with hr | hr
    · exact h.returned_pos r hr
    · rw [mem_singleton.mp hr]
      exact hline.quantity_pos
  restored productId := by
    rw [restoredTotal_write, h.restored, hline.restored]
    show _ = (List.map _ (l.returns ++ _)).sum
    rw [map_append, sum_append, map_singleton, sum_singleton]
    rfl

theorem restoredOf_le (h : Whole l) {m : SaleMovement} (hm : m ∈ l.movements.rows) :
    l.restoredOf m.id ≤ m.quantity :=
  (h.bounded m hm).trans (max_le (Int.natCast_nonneg _) (readable_le m))

/-- What has been restored of some products at some locations, by the movements that took it. -/
theorem sum_restored (h : Whole l) (P : Uuid → Uuid → Prop) [∀ p q, Decidable (P p q)] :
    (l.restored.map fun r ↦ if P r.productId r.locationId then r.quantity else 0).sum =
      (l.movements.rows.map fun m ↦
        if P m.productId m.locationId then l.restoredOf m.id else 0).sum := by
  have hrow : ∀ r ∈ l.restored, (if P r.productId r.locationId then r.quantity else 0) =
      (l.movements.rows.map fun m ↦ if m.id = r.sourceSaleMovementId then
        if P m.productId m.locationId then r.quantity else 0 else 0).sum := by
    intro r hr
    obtain ⟨m, hm, hid, hproduct, hlocation⟩ := h.sourced r hr
    have hone := Sums.sum_key_eq SaleMovement.id (fun m' ↦
      if P m'.productId m'.locationId then r.quantity else 0) l.movements.nodup hm
    rw [← hid, hone, hproduct, hlocation]
  rw [map_congr_left hrow, Sums.sum_comm]
  refine congrArg List.sum (map_congr_left fun m _ ↦ ?_)
  split
  · refine congrArg List.sum (map_congr_left fun r _ ↦ ?_)
    exact if_congr eq_comm rfl rfl
  · simp

/-- **No location is restored beyond what was taken there.** -/
theorem restoredAt_le (h : Whole l) (productId locationId : Uuid) :
    l.restoredAt productId locationId ≤ l.takenAt productId locationId := by
  rw [LineStock.restoredAt, h.sum_restored fun p q ↦ p = productId ∧ q = locationId]
  refine sum_le_sum fun m hm ↦ ?_
  split
  · exact h.restoredOf_le hm
  · exact le_rfl

/-- **What has been restored in full** was taken in whole units: of any other quantity `toQuantity`
leaves less to return than was taken. -/
theorem whole_units (h : Whole l)
    (hall : ∀ productId, l.restoredTotal productId = l.takenTotal productId) :
    ∀ m ∈ l.movements.rows, 1000 ∣ m.quantity := by
  intro m hm
  have htotal := hall m.productId
  rw [LineStock.restoredTotal, h.sum_restored fun p _ ↦ p = m.productId] at htotal
  have heq : l.restoredOf m.id = m.quantity := by
    refine le_antisymm (h.restoredOf_le hm) (not_lt.mp fun hlt ↦ htotal.not_lt ?_)
    refine sum_lt_sum _ _ (fun m' hm' ↦ ?_) ⟨m, hm, by rwa [if_pos rfl, if_pos rfl]⟩
    split
    · exact h.restoredOf_le hm'
    · exact le_rfl
  have hbounded := h.bounded m hm
  have hle := readable_le m
  have hzero : m.quantity = 0 ∨ m.readable = m.quantity := by omega
  rcases hzero with hzero | hread
  · rw [hzero]
    exact dvd_zero _
  · exact (readable_eq_iff m).mp hread

end Whole

/-! ### The lines of a sale -/

variable {sale : List LineStock} {f : KitComponent → ℤ} {c : KitComponent} {l' : LineStock}

theorem getElem?_foldl_write {prepared : List PreparedReturn} {i : ℕ}
    (hnodup : (prepared.map PreparedReturn.saleLine).Nodup)
    (h : (prepared.foldl (fun sale line ↦ sale.modify line.saleLine (·.write line)) sale)[i]? =
      some l') :
    sale[i]? = some l' ∨ ∃ line ∈ prepared, line.saleLine = i ∧
      ∃ l, sale[i]? = some l ∧ l' = l.write line := by
  induction prepared generalizing sale with
  | nil => exact .inl h
  | cons line prepared ih =>
    obtain ⟨hnotin, hnodup⟩ := nodup_cons.mp hnodup
    rcases ih hnodup h with hmodified | ⟨line', hline', hi, l, hl, hwrite⟩
    · rw [getElem?_modify] at hmodified
      obtain ⟨l, hl, heq⟩ := Option.map_eq_some_iff.mp hmodified
      by_cases hi : line.saleLine = i
      · rw [if_pos hi] at heq
        exact .inr ⟨line, mem_cons_self, hi, l, hl, heq.symm⟩
      · rw [if_neg hi] at heq
        exact .inl (heq ▸ hl)
    · have hne : line.saleLine ≠ i :=
        fun hline ↦ hnotin (mem_map.mpr ⟨line', hline', hi.trans hline.symm⟩)
      rw [getElem?_modify] at hl
      simp only [if_neg hne] at hl
      exact .inr ⟨line', mem_cons_of_mem line hline', hi, l, by simpa using hl, hwrite⟩

/-- **What a return does to a line**: nothing, or it writes one prepared return. -/
theorem mem_create {sale' : List LineStock} {lines : List RequestedLine}
    (h : create toUpperCase sale lines = .ok sale') (hl' : l' ∈ sale') :
    l' ∈ sale ∨ ∃ l ∈ sale, ∃ line, Prepared l line ∧ l' = l.write line := by
  simp only [create, eq_ok] at h
  obtain ⟨_, hnodup, prepared, hprepared, rfl⟩ := h
  have hpositions : prepared.map PreparedReturn.saleLine = lines.map RequestedLine.saleLine := by
    refine map_mapM (fun requested line hline ↦ ?_) hprepared
    obtain ⟨l, _, hline⟩ := bind_eq_ok.mp hline
    exact (prepared_prepareReturn hline).1
  obtain ⟨i, hi⟩ := mem_iff_getElem?.mp hl'
  rcases getElem?_foldl_write (hpositions ▸ hnodup) hi with
    hsame | ⟨line, hline, hposition, l, hl, hw⟩
  · exact .inl (mem_of_getElem? hsame)
  · refine .inr ⟨l, mem_of_getElem? hl, line, ?_, hw⟩
    obtain ⟨requested, _, hrequested⟩ := exists_of_mem_mapM hprepared hline
    simp only [eq_ok] at hrequested
    obtain ⟨l₁, hl₁, hrequested⟩ := hrequested
    obtain ⟨hsaleLine, hprep⟩ := prepared_prepareReturn hrequested
    rw [← hsaleLine, hposition, hl] at hl₁
    exact Option.some.inj hl₁ ▸ hprep

theorem whole_run {lines : List (QuotedLine × (ℕ → Uuid × Timestamp))}
    (hsale : persistSale reserved lines = .ok sale) (requests : List (List RequestedLine)) :
    ∀ l ∈ run (create toUpperCase) sale requests, Whole l := by
  refine run_induct (P := fun sale ↦ ∀ l ∈ sale, Whole l) (fun s r s' hs h l' hl' ↦ ?_) ?_ requests
  · rcases mem_create h hl' with hl' | ⟨l, hl, line, hline, rfl⟩
    · exact hs l' hl'
    · exact (hs l hl).write hline
  · intro l hl
    obtain ⟨line, _, hline⟩ := exists_of_mem_mapM hsale hl
    have hsold := sold_persistLine hline
    simp only [persistLine, eq_ok] at hline
    obtain ⟨_, _, _, _, _, _, _, _, _, _, rfl⟩ := hline
    exact Whole.of_sold hsold rfl rfl

/-! ### Full returns -/

/-- What the rounding of the single returns has cut off a component, in millionths. -/
def LineStock.residue (l : LineStock) (c : KitComponent) : ℤ :=
  (l.returns.map fun r ↦ r.quantity * (c.quantityPerKit : ℤ) % 1000).sum

/-- **The roundings fit**: of no component half a thousandth has been cut off. -/
def LineStock.RoundingFits (l : LineStock) : Prop :=
  l.stockBehavior = .TRACKED → ∀ c ∈ l.components.rows, l.residue c < 500
deriving Decidable

theorem wanted_component (hc : c ∈ l.components.rows) :
    wanted (l.components.rows.map fun c ↦ (c.componentProductId, f c)) c.componentProductId =
      f c := by
  rw [wanted, map_map]
  exact Sums.sum_key_eq KitComponent.componentProductId f l.components.nodup hc

theorem wanted_other {productId : Uuid}
    (h : ∀ c ∈ l.components.rows, c.componentProductId ≠ productId) :
    wanted (l.components.rows.map fun c ↦ (c.componentProductId, f c)) productId = 0 := by
  rw [wanted, map_map]
  refine sum_eq_zero fun x hx ↦ ?_
  obtain ⟨c, hc, rfl⟩ := mem_map.mp hx
  exact if_neg (h c hc)

/-- **A component** is restored in full exactly when less than half a thousandth has been cut off.
-/
theorem component_restored_iff (h : Whole l) (hall : l.returned = l.quantity)
    (hc : c ∈ l.components.rows) :
    (l.returns.map fun r ↦ (r.quantity * (c.quantityPerKit : ℤ)).tdiv 1000).sum = c.totalQuantity ↔
      l.residue c < 500 := by
  have hdiv : (l.returns.map fun r ↦ (r.quantity * (c.quantityPerKit : ℤ)).tdiv 1000).sum =
      (l.returns.map fun r ↦ r.quantity * (c.quantityPerKit : ℤ) / 1000).sum := by
    refine congrArg List.sum (map_congr_left fun r hr ↦ ?_)
    have hpos := h.returned_pos r hr
    exact Int.tdiv_eq_ediv_of_nonneg (by positivity)
  have hparts := Shares.sum_ediv_add_sum_emod (c.quantityPerKit : ℤ) 1000
    (l.returns.map ReturnedLine.quantity)
  rw [map_map, map_map] at hparts
  have hq : (l.returns.map fun r ↦ r.quantity * (c.quantityPerKit : ℤ) / 1000).sum = (l.returns.map
        ((fun w ↦ (c.quantityPerKit : ℤ) * w / 1000) ∘ ReturnedLine.quantity)).sum := by
    refine congrArg List.sum (map_congr_left fun r _ ↦ ?_)
    rw [Function.comp_apply, mul_comm]
  have hr : l.residue c = (l.returns.map
        ((fun w ↦ (c.quantityPerKit : ℤ) * w % 1000) ∘ ReturnedLine.quantity)).sum := by
    refine congrArg List.sum (map_congr_left fun r _ ↦ ?_)
    rw [Function.comp_apply, mul_comm]
  have hres : 0 ≤ l.residue c := by
    refine sum_nonneg fun x hx ↦ ?_
    obtain ⟨r, _, rfl⟩ := mem_map.mp hx
    exact Int.emod_nonneg _ (by omega)
  have hsum : (l.returns.map ReturnedLine.quantity).sum = l.quantity := hall
  have hnonneg : (0 : ℤ) ≤ l.quantity * c.quantityPerKit := by positivity
  have htotal := h.sold.totalQuantity c hc
  have hround := (le_roundDiv_iff hnonneg (by omega : (0 : ℤ) < 1000) c.totalQuantity).mp htotal.le
  have hround' := (roundDiv_le_iff hnonneg (by omega : (0 : ℤ) < 1000) c.totalQuantity).mp htotal.ge
  rw [← hq, ← hr, hsum, mul_comm (c.quantityPerKit : ℤ)] at hparts
  rw [hdiv]
  constructor
  · intro heq
    rw [heq] at hparts
    omega
  · intro hlt
    omega

/-- **What returns restore of a sale**: at no location more than was taken there, and of a complete
line every product exactly when the roundings fit. -/
theorem returns_restore (toUpperCase : Text → Text) (reserved : Bool)
    (lines : List (QuotedLine × (ℕ → Uuid × Timestamp))) (sale : List LineStock)
    (hsale : persistSale reserved lines = .ok sale) (requests : List (List RequestedLine)) :
    ∀ l ∈ run (create toUpperCase) sale requests,
      (∀ productId locationId, l.restoredAt productId locationId ≤ l.takenAt productId locationId) ∧
      (l.returned = l.quantity →
        ((∀ productId, l.restoredTotal productId = l.takenTotal productId) ↔ l.RoundingFits)) := by
  intro l hl
  have h := whole_run hsale requests l hl
  refine ⟨h.restoredAt_le, fun hall ↦ ?_⟩
  have htargets : (∀ productId, l.restoredTotal productId = l.takenTotal productId) ↔
      ∀ productId, (l.returns.map fun r ↦ wanted (l.returnTargets r.quantity) productId).sum =
        wanted (l.targets (fun c ↦ c.totalQuantity) l.quantity) productId :=
    forall_congr' fun productId ↦ by rw [h.restored, h.sold.taken]
  rw [htargets, LineStock.RoundingFits]
  unfold LineStock.returnTargets LineStock.targets
  cases hbehavior : l.stockBehavior with
  | UNTRACKED => simp [wanted]
  | TRACKED =>
    by_cases hkit : l.components.rows = []
    · -- the product itself: what has been returned is what was sold
      simp only [hkit, if_true]
      refine iff_of_true (fun productId ↦ ?_) (by simp)
      have hone : ∀ quantity : ℤ, wanted [(l.productId, quantity)] productId =
          if l.productId = productId then quantity else 0 := by simp [wanted]
      simp only [hone]
      split
      · exact hall
      · simp
    · simp only [hkit, if_false]
      refine ⟨fun heq _ c hc ↦ ?_, fun hfits productId ↦ ?_⟩
      · have hcomponent := heq c.componentProductId
        rw [wanted_component hc] at hcomponent
        refine (component_restored_iff h hall hc).mp (Eq.trans ?_ hcomponent)
        refine congrArg List.sum (map_congr_left fun r _ ↦ ?_)
        exact (wanted_component
          (f := fun c ↦ (r.quantity * (c.quantityPerKit : ℤ)).tdiv 1000) hc).symm
      · by_cases hproduct : ∃ c ∈ l.components.rows, c.componentProductId = productId
        · obtain ⟨c, hc, rfl⟩ := hproduct
          rw [wanted_component hc]
          refine Eq.trans ?_ ((component_restored_iff h hall hc).mpr (hfits trivial c hc))
          refine congrArg List.sum (map_congr_left fun r _ ↦ ?_)
          exact wanted_component (f := fun c ↦ (r.quantity * (c.quantityPerKit : ℤ)).tdiv 1000) hc
        · have hother : ∀ c ∈ l.components.rows, c.componentProductId ≠ productId :=
            fun c hc heq ↦ hproduct ⟨c, hc, heq⟩
          rw [wanted_other hother]
          refine sum_eq_zero fun x hx ↦ ?_
          obtain ⟨r, _, rfl⟩ := mem_map.mp hx
          exact wanted_other (f := fun c ↦ (r.quantity * (c.quantityPerKit : ℤ)).tdiv 1000) hother

/-! ### Four kits returned in two parts -/

/-- Four kits, each of 0.250 of product 2, sold from the stock of location 7. -/
def fourKits : List (QuotedLine × (ℕ → Uuid × Timestamp)) :=
  [({ productId := 1
      quantity := 4000
      stockBehavior := .TRACKED
      derivedKit := [⟨2, 250⟩]
      serialNumbers := []
      balances := fun _ ↦ [⟨7, 5000, 0, none, []⟩] }, fun n ↦ (n, 0))]

/-- A return of a quantity of the kit, under a policy with this precision and minimum. -/
def giveBack (quantity precision : ℕ) (minimumQuantity : ℤ) : List RequestedLine :=
  [{ saleLine := 0
     quantity := quantity
     condition := .SELLABLE
     serialNumbers := []
     trackSerials := false
     policy := ⟨.UNIT, precision, .HALF_UP, minimumQuantity⟩
     serialRows := [] }]

theorem returns_restore_whole : ∃ sale, persistSale false fourKits = .ok sale ∧
    ∀ l ∈ run (create id) sale [giveBack 2000 0 1000, giveBack 2000 0 1000],
      l.returned = l.quantity ∧
        ∀ productId, l.restoredTotal productId = l.takenTotal productId := by
  have hsale := eq_ok_get
    (show (persistSale false fourKits).toOption.isSome = true by decide +kernel)
  refine ⟨_, hsale, fun l hl ↦ ?_⟩
  have hfits : ∀ l ∈ run (create id)
      ((persistSale false fourKits).toOption.get (by decide +kernel))
      [giveBack 2000 0 1000, giveBack 2000 0 1000], l.returned = l.quantity ∧ l.RoundingFits := by
    decide +kernel
  obtain ⟨hall, hfits⟩ := hfits l hl
  exact ⟨hall, ((returns_restore id false fourKits _ hsale _ l hl).2 hall).mpr hfits⟩

/-- **A thousandth is kept**: the sale took 1.000 of the component, and the returns of 0.001 and of
3.999 kits restore nothing and 0.999. -/
theorem thousandth_kept : ∃ sale, persistSale false fourKits = .ok sale ∧
    ∃ l ∈ run (create id) sale [giveBack 1 3 1, giveBack 3999 3 1],
      l.returned = l.quantity ∧ l.takenTotal 2 = 1000 ∧ l.restoredTotal 2 = 999 := by
  have hsale := eq_ok_get
    (show (persistSale false fourKits).toOption.isSome = true by decide +kernel)
  refine ⟨_, hsale, ?_⟩
  decide +kernel

end UInventario.Pos.ReturnedStock
