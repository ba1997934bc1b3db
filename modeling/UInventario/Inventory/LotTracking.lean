import UInventario.Inventory.Valuation

/-!
# Lots

`applyInventoryLotTracking` runs after the valuation of a movement. On a product tracked by lots
every change of quantity is allocated to lots: the lot of the receipt line, those the source drew
from, the one named, or those that expire first. A lot keeps an average cost of its own.

Then the movement is finalised (`finalizeSpecificLotMovementValuation`), if its row was sealed under
`SPECIFIC_LOT`.
-/

namespace UInventario

open Outcome Option

/-! ### Lot codes -/

/-- The code units that `\s` and `trim` take for white space. -/
def isWhiteSpace (c : ℕ) : Bool :=
  c ∈ [9, 10, 11, 12, 13, 32, 160, 5760, 8192, 8193, 8194, 8195, 8196, 8197, 8198, 8199, 8200, 8201,
    8202, 8232, 8233, 8239, 8287, 12288, 65279]

/-- `String.prototype.trim`. -/
def trim (t : Text) : Text :=
  ((t.dropWhile isWhiteSpace).reverse.dropWhile isWhiteSpace).reverse

/-- `replace(/\s+/g, ' ')`: `inSpace` says that the run of white space before was replaced. -/
def collapseSpaces : Bool → Text → Text
  | _, [] => []
  | inSpace, c :: t =>
    if isWhiteSpace c then
      if inSpace then collapseSpaces true t else 32 :: collapseSpaces true t
    else c :: collapseSpaces false t

/-- `[A-Za-z0-9]`. -/
def isAlphanumeric (c : ℕ) : Bool :=
  (48 ≤ c && c ≤ 57) || (65 ≤ c && c ≤ 90) || (97 ≤ c && c ≤ 122)

/-- `[A-Za-z0-9._/ -]`. -/
def isLotCodeUnit (c : ℕ) : Bool :=
  isAlphanumeric c || c ∈ [46, 95, 47, 32, 45]

def normalizeLotCode (value : Text) : Except Failure Text :=
  match collapseSpaces false (trim value) with
  | [] => .error .invalidInventoryLotCode
  | c :: t =>
    if isAlphanumeric c && t.all isLotCodeUnit && decide (t.length ≤ 63) then .ok (c :: t)
    else .error .invalidInventoryLotCode

/-! ### One allocation to a lot -/

structure LotCostSource where
  unitCost : ℤ
  currency : Currency
  revalue : Bool

def LotBook.quantityOf (book : LotBook) (lotId : Uuid) : ℤ :=
  book.balances.total fun b ↦ if b.lotId = lotId then b.quantity else 0

/-- `INSERT INTO inventory_lot_balances … ON DUPLICATE KEY UPDATE`. -/
def LotBook.ensureBalance (book : LotBook) (lotId locationId : Uuid) : LotBook :=
  match book.balances.insert { lotId := lotId, locationId := locationId, quantity := 0 } with
  | none => book
  | some balances => { book with balances := balances }

/-- Moves the balance of a lot at the movement's location and records the allocation. -/
def changeLotBalance (env : Env) (movement : Movement) (book : LotBook) (lotId : Uuid)
    (quantityChange : ℤ) (mode : SelectionMode) (costSource : Option LotCostSource) :
    Except Failure LotBook := do
  let lot ← demand (book.lots.find? lotId) .inventoryLotNotFound
  ensure (∀ source ∈ costSource, source.currency = lot.currency) .inventoryLotCurrencyMismatch
  let book := book.ensureBalance lotId movement.locationId
  let balance ← demand (book.balances.find? (lotId, movement.locationId)) .inventoryLotNotFound
  let currentTotal := book.quantityOf lotId
  let resulting := balance.quantity + quantityChange
  ensure (0 ≤ resulting) .insufficientInventoryLotStock
  let allocationCost := (costSource.map LotCostSource.unitCost).getD lot.unitCost
  let newTotal := currentTotal + quantityChange
  let revalues := (costSource.map LotCostSource.revalue).getD false ∧ 0 < newTotal
  let newCost :=
    if revalues then
      divideRounded (currentTotal * lot.unitCost + quantityChange * allocationCost) newTotal
    else lot.unitCost
  ensure (revalues → 0 ≤ newCost) .negativeInventoryLotCost
  ensure (quantityChange ≠ 0) .checkViolation
  -- `uq_inventory_movement_lots_movement_lot`
  ensure (∀ a ∈ book.movementLots.rows, ¬(a.movementId = movement.id ∧ a.lotId = lotId))
    .duplicateEntry
  let n := book.movementLots.rows.length
  let movementLots ← demand (book.movementLots.insert {
    id := env.uuid .inventory_movement_lots n, movementId := movement.id, lotId := lotId,
    locationId := movement.locationId, quantityChange := quantityChange, unitCost := allocationCost,
    currency := (costSource.map LotCostSource.currency).getD lot.currency,
    valueChange := quantityTimesCost quantityChange allocationCost, mode := mode,
    createdAt := env.clock .inventory_movement_lots n }) .duplicateEntry
  pure {
    lots := book.lots.update lotId fun l ↦ { l with unitCost := newCost }
    balances := book.balances.update (lotId, movement.locationId) fun b ↦
      { b with quantity := resulting }
    movementLots := movementLots }

/-- The order of `ORDER BY created_at, id` on lots. -/
def Lot.createdBefore (a b : Lot) : Prop :=
  a.createdAt < b.createdAt ∨ (a.createdAt = b.createdAt ∧ a.id ≤ b.id)
deriving Decidable

/-- What `findOrCreateLot` is told about the lot. -/
structure LotInput where
  rawCode : Text
  unitCost : ℤ
  currency : Currency
  (manufacturedOn expiresOn : Option Day)

/-- The lot of the product with the code, created at the unit cost when it is missing. -/
def findOrCreateLot (env : Env) (book : LotBook) (product : Product) (input : LotInput) :
    Except Failure (LotBook × Uuid) := do
  let code ← normalizeLotCode input.rawCode
  let normalizedCode := env.toUpperCase code
  ensure (∀ m ∈ input.manufacturedOn, ∀ e ∈ input.expiresOn, m ≤ e) .invalidInventoryLotDates
  ensure (¬(product.lotExpirationPolicy = .REQUIRED ∧ input.expiresOn = none))
    .inventoryLotExpirationRequired
  ensure (¬(product.lotExpirationPolicy = .NONE ∧
    (input.manufacturedOn ≠ none ∨ input.expiresOn ≠ none))) .invalidInventoryLotDates
  ensure (∀ lot ∈ (orderBy Lot.createdBefore
    (book.lots.rows.filter fun l ↦ l.productId = product.id)).head?,
      lot.currency = input.currency) .inventoryLotCurrencyMismatch
  match book.lots.rows.find? fun l ↦
      l.productId = product.id ∧ l.normalizedCode = normalizedCode with
  | some existing => do
    ensure (existing.currency = input.currency) .inventoryLotCurrencyMismatch
    ensure (existing.manufacturedOn = input.manufacturedOn ∧ existing.expiresOn = input.expiresOn)
      .invalidInventoryLotDates
    pure (book, existing.id)
  | none => do
    let n := book.lots.rows.length
    let id := env.uuid .inventory_lots n
    let lots ← demand (book.lots.insert {
      id := id, productId := product.id, code := code, normalizedCode := normalizedCode,
      manufacturedOn := input.manufacturedOn, expiresOn := input.expiresOn,
      unitCost := input.unitCost, currency := input.currency,
      createdAt := env.clock .inventory_lots n }) .duplicateEntry
    pure ({ book with lots := lots }, id)

/-! ### Putting back what a source drew -/

structure LotSource where
  allocation : MovementLot
  movement : Movement

/-- `ORDER BY im.created_at, im.id, iml.created_at, iml.id`. -/
def LotSource.before (a b : LotSource) : Prop :=
  a.movement.createdAt < b.movement.createdAt ∨ (a.movement.createdAt = b.movement.createdAt ∧
    (a.movement.id < b.movement.id ∨ (a.movement.id = b.movement.id ∧
      (a.allocation.createdAt < b.allocation.createdAt ∨
        (a.allocation.createdAt = b.allocation.createdAt ∧ a.allocation.id ≤ b.allocation.id)))))
deriving Decidable

/-- The movements `restoreAllocations` takes for the source. -/
def isLotSource (sourceType : MovementType) (movement m : Movement) : Bool :=
  decide (m.type = sourceType) &&
    if sourceType = .SALE then
      if movement.type = .SALE_RETURN then decide (some m.id = movement.sourceSaleMovementId)
      else sqlEq m.saleId movement.saleId && sqlEq m.saleLineId movement.saleLineId &&
        decide (m.locationId = movement.locationId)
    else sqlEq m.transferLineId movement.transferLineId

def lotSources (movements : Table Movement) (book : LotBook) (sourceType : MovementType)
    (movement : Movement) : List LotSource :=
  orderBy LotSource.before (book.movementLots.rows.filterMap fun a ↦
    match movements.find? a.movementId with
    | some m => if isLotSource sourceType movement m then some ⟨a, m⟩ else none
    | none => none)

/-- What earlier returns of the same source movement put back into a lot. -/
def priorReturned (movements : Table Movement) (book : LotBook) (sourceMovementId lotId : Uuid) :
    ℤ :=
  book.movementLots.total fun a ↦
    match movements.find? a.movementId with
    | some m =>
      if m.type = .SALE_RETURN ∧ m.sourceSaleMovementId = some sourceMovementId ∧
        a.lotId = lotId then a.quantityChange else 0
    | none => 0

/-- The state of a loop over lots: the quantity still to be allocated. -/
structure LotProgress where
  book : LotBook
  remaining : ℤ

/-- What is left of a source allocation: `original - alreadyRestored`. -/
def restorable (movements : Table Movement) (book : LotBook) (sourceType : MovementType)
    (movement : Movement) (source : LotSource) : ℤ :=
  -source.allocation.quantityChange -
    if sourceType = .SALE ∧ movement.type = .SALE_RETURN then
      priorReturned movements book source.movement.id source.allocation.lotId
    else 0

/-- One turn of `restoreAllocations`. -/
def restoreLot (env : Env) (movements : Table Movement) (sourceType : MovementType)
    (mode : SelectionMode) (movement : Movement) (p : LotProgress) (source : LotSource) :
    Except Failure LotProgress :=
  if p.remaining = 0 then pure p
  else
    let quantity := min (restorable movements p.book sourceType movement source) p.remaining
    if quantity ≤ 0 then pure p
    else do
      let book ← changeLotBalance env movement p.book source.allocation.lotId quantity mode
        (some {
          unitCost := source.allocation.unitCost, currency := source.allocation.currency,
          revalue := true })
      pure { book := book, remaining := p.remaining - quantity }

def restoreAllocations (env : Env) (movements : Table Movement) (book : LotBook)
    (movement : Movement) (sourceType : MovementType) (mode : SelectionMode) :
    Except Failure LotBook := do
  let sources := lotSources movements book sourceType movement
  ensure (sources ≠ []) .inventoryLotSourceNotFound
  let p ← sources.foldlM (restoreLot env movements sourceType mode movement)
    { book := book, remaining := movement.quantityChange }
  ensure (p.remaining = 0) .inventoryLotRestoreMismatch
  pure p.book

/-! ### Drawing from lots -/

structure LotStock where
  balance : LotBalance
  lot : Lot

/-- `ORDER BY il.expires_on IS NULL, il.expires_on, il.created_at, il.id`. -/
def LotStock.before (a b : LotStock) : Prop :=
  match a.lot.expiresOn, b.lot.expiresOn with
  | some x, some y => x < y ∨ (x = y ∧ a.lot.createdBefore b.lot)
  | some _, none => True
  | none, some _ => False
  | none, none => a.lot.createdBefore b.lot

instance : DecidableRel LotStock.before := fun a b ↦ by
  unfold LotStock.before
  split <;> infer_instance

/-- The lot balances of a product at a location whose lot satisfies `p`. -/
def lotStock (book : LotBook) (productId locationId : Uuid) (p : LotBalance → Lot → Bool) :
    List LotStock :=
  book.balances.rows.filterMap fun b ↦
    match book.lots.find? b.lotId with
    | some lot =>
      if lot.productId = productId ∧ b.locationId = locationId ∧ p b lot then some ⟨b, lot⟩
      else none
    | none => none

/-- The options the callers of `applyInventoryLotTracking` may give. -/
structure LotOptions where
  lotCode : Option Text := none
  preferredLotId : Option Uuid := none
  manufacturedOn : Option Day := none
  expiresOn : Option Day := none
  allowExpired : Bool := false

/-- One turn of `consumeLots`. -/
def consumeLot (env : Env) (movement : Movement) (mode : SelectionMode)
    (costSource : Option LotCostSource) (p : LotProgress) (stock : LotStock) :
    Except Failure LotProgress :=
  if p.remaining = 0 then pure p
  else
    let consumed := min stock.balance.quantity p.remaining
    if consumed = 0 then pure p
    else do
      let book ← changeLotBalance env movement p.book stock.lot.id (-consumed) mode costSource
      pure { book := book, remaining := p.remaining - consumed }

/-- The balances an exit draws from, in order, and how they were selected. -/
def selectLots (s : Store) (movement : Movement) (preferredLotId : Option Uuid)
    (preferredLotCode : Option Text) (allowExpired : Bool) :
    Except Failure (List LotStock × SelectionMode) := do
  let today := s.env.localDate movement.locationId s.movements.rows.length
  match preferredLotId, preferredLotCode with
  | none, none =>
    pure (orderBy LotStock.before (lotStock s.lots movement.productId movement.locationId
      fun b lot ↦ decide (0 < b.quantity) && decide (∀ day ∈ lot.expiresOn, today ≤ day)),
      .AUTOMATIC)
  | preferredLotId, preferredLotCode => do
    let stock ←
      match preferredLotId, preferredLotCode with
      | some id, _ =>
        pure (lotStock s.lots movement.productId movement.locationId fun _ lot ↦
          decide (lot.id = id))
      | none, code => do
        let normalized ← normalizeLotCode (code.getD [])
        pure (lotStock s.lots movement.productId movement.locationId fun _ lot ↦
          decide (lot.normalizedCode = s.env.toUpperCase normalized))
    let first ← demand stock.head? .inventoryLotNotFound
    ensure (allowExpired = true ∨ ∀ day ∈ first.lot.expiresOn, today ≤ day) .expiredInventoryLot
    pure (stock, .MANUAL)

def consumeLots (s : Store) (movement : Movement) (quantity : ℤ)
    (preferredLotId : Option Uuid) (preferredLotCode : Option Text)
    (costSource : Option LotCostSource) (allowExpired : Bool) : Except Failure LotBook := do
  let (stock, mode) ← selectLots s movement preferredLotId preferredLotCode allowExpired
  let p ← stock.foldlM (consumeLot s.env movement mode costSource)
    { book := s.lots, remaining := quantity }
  ensure (p.remaining = 0) .insufficientInventoryLotStock
  pure p.book

/-! ### The movement as a whole -/

def receiveLot (s : Store) (movement : Movement) (product : Product) : Except Failure Store := do
  let line ← demand (movement.purchaseReceiptLineId.bind s.purchaseReceiptLines.find?)
    .inventoryLotRequired
  let lotCode ← demand line.lotCode .inventoryLotRequired
  let (book, lotId) ← findOrCreateLot s.env s.lots product {
    rawCode := lotCode, unitCost := line.unitCost, currency := line.currency,
    manufacturedOn := line.manufacturedOn, expiresOn := line.expiresOn }
  let book ← changeLotBalance s.env movement book lotId movement.quantityChange .ORIGIN
    (some { unitCost := line.unitCost, currency := line.currency, revalue := true })
  pure { s with
    lots := book
    purchaseReceiptLines :=
      s.purchaseReceiptLines.update line.id fun l ↦ { l with lotId := some lotId } }

def enterLot (s : Store) (movement : Movement) (product : Product) (options : LotOptions) :
    Except Failure Store := do
  let lotCode ← demand options.lotCode .inventoryLotRequired
  let unitCost ← demand movement.unitCost .inventoryLotCostNotFound
  let currency := tenantCurrency s.env.country
  let (book, lotId) ← findOrCreateLot s.env s.lots product {
    rawCode := lotCode, unitCost := unitCost, currency := currency,
    manufacturedOn := options.manufacturedOn, expiresOn := options.expiresOn }
  let book ← changeLotBalance s.env movement book lotId movement.quantityChange .MANUAL
    (some { unitCost := unitCost, currency := currency, revalue := true })
  pure { s with lots := book }

def supplierReturnSource (s : Store) (movement : Movement) :
    Except Failure (Uuid × LotCostSource) := do
  let returnLine ← demand (movement.purchaseReturnLineId.bind s.purchaseReturnLines.find?)
    .inventoryLotSourceNotFound
  let line ← demand (s.purchaseReceiptLines.find? returnLine.purchaseReceiptLineId)
    .inventoryLotSourceNotFound
  let lotId ← demand line.lotId .inventoryLotSourceNotFound
  pure (lotId, { unitCost := line.unitCost, currency := line.currency, revalue := false })

def exitLots (s : Store) (movement : Movement) (options : LotOptions) : Except Failure Store :=
  if movement.type = .SUPPLIER_RETURN then do
    let (lotId, costSource) ← supplierReturnSource s movement
    let book ← consumeLots s movement (-movement.quantityChange) (some lotId) options.lotCode
      (some costSource) true
    pure { s with
      lots := book
      purchaseReturnLines := match movement.purchaseReturnLineId with
        | some id => s.purchaseReturnLines.update id fun l ↦ { l with lotId := some lotId }
        | none => s.purchaseReturnLines }
  else do
    let book ← consumeLots s movement (-movement.quantityChange) options.preferredLotId
      options.lotCode none options.allowExpired
    pure { s with lots := book }

def moveLots (s : Store) (movement : Movement) (product : Product) (options : LotOptions) :
    Except Failure Store :=
  match movement.type with
  | .PURCHASE_RECEIPT => receiveLot s movement product
  | .SALE_VOID | .SALE_RETURN => do
    let book ← restoreAllocations s.env s.movements s.lots movement .SALE .RESTORE
    pure { s with lots := book }
  | .TRANSFER_IN => do
    let book ← restoreAllocations s.env s.movements s.lots movement .TRANSFER_OUT .TRANSFER
    pure { s with lots := book }
  | _ =>
    if 0 < movement.quantityChange then enterLot s movement product options
    else exitLots s movement options

/-- The row of the movement joined with its product; other joins only fetch names. -/
def trackedMovement (s : Store) (movementId : Uuid) : Option (Movement × Product) :=
  (s.movements.find? movementId).bind fun movement ↦
    (s.products.find? movement.productId).map fun product ↦ (movement, product)

def applyInventoryLotTracking (s : Store) (movementId : Uuid) (options : LotOptions) :
    Except Failure Store :=
  match trackedMovement s movementId with
  | none => pure s
  | some (movement, product) =>
    if product.trackLots = false ∨ (∃ a ∈ s.lots.movementLots.rows, a.movementId = movement.id) ∨
        movement.quantityChange = 0 then
      finalizeSpecificLotMovementValuation s movementId
    else do
      let s ← moveLots s movement product options
      finalizeSpecificLotMovementValuation s movementId

/-! ### What the pass leaves alone -/

/-- Only the lots and the lot columns of the documents have changed. -/
structure SameButLots (s s' : Store) : Prop where
  store_eq : s' = { s with
    lots := s'.lots, purchaseReceiptLines := s'.purchaseReceiptLines,
    purchaseReturnLines := s'.purchaseReturnLines }
  receiptLines : ∀ id, (s'.purchaseReceiptLines.find? id).map (fun l ↦ { l with lotId := none }) =
    (s.purchaseReceiptLines.find? id).map fun l ↦ { l with lotId := none }
  returnLines : ∀ id, (s'.purchaseReturnLines.find? id).map (fun l ↦ { l with lotId := none }) =
    (s.purchaseReturnLines.find? id).map fun l ↦ { l with lotId := none }

theorem SameButLots.of_lots (s : Store) (lots : LotBook) : SameButLots s { s with lots := lots } :=
  ⟨rfl, fun _ ↦ rfl, fun _ ↦ rfl⟩

variable {s : Store} {movement : Movement} {product : Product} {options : LotOptions} {s' : Store}

theorem moveLots_sameButLots (h : moveLots s movement product options = .ok s') :
    SameButLots s s' := by
  rw [moveLots] at h
  split at h
  · simp only [receiveLot, eq_ok] at h
    obtain ⟨line, -, -, -, r, -, book, -, rfl⟩ := h
    refine ⟨rfl, fun id ↦ ?_, fun _ ↦ rfl⟩
    rw [Table.find?_update, map_map]
    congr 1
    funext l
    by_cases hid : id = line.id <;> simp [hid]
  · simp only [eq_ok] at h
    obtain ⟨book, -, rfl⟩ := h
    exact .of_lots s book
  · simp only [eq_ok] at h
    obtain ⟨book, -, rfl⟩ := h
    exact .of_lots s book
  · simp only [eq_ok] at h
    obtain ⟨book, -, rfl⟩ := h
    exact .of_lots s book
  · split at h
    · simp only [enterLot, eq_ok] at h
      obtain ⟨-, -, -, -, -, -, book, -, rfl⟩ := h
      exact .of_lots s book
    · rw [exitLots] at h
      split at h
      · simp only [eq_ok] at h
        obtain ⟨r, -, book, -, rfl⟩ := h
        refine ⟨rfl, fun _ ↦ rfl, fun id ↦ ?_⟩
        cases movement.purchaseReturnLineId with
        | none => rfl
        | some returnLine =>
          rw [Table.find?_update, map_map]
          congr 1
          funext l
          by_cases hid : id = returnLine <;> simp [hid]
      · simp only [eq_ok] at h
        obtain ⟨book, -, rfl⟩ := h
        exact .of_lots s book

/-- **The pass over the lots.** It moves lots, or nothing when the product has none to move, and
then finalises the movement. -/
theorem applyInventoryLotTracking_eq_ok (hfind : s.movements.find? movement.id = some movement)
    (h : applyInventoryLotTracking s movement.id options = .ok s') :
    s' = s ∨ finalizeSpecificLotMovementValuation s movement.id = .ok s' ∨
      ∃ t product, s.products.find? movement.productId = some product ∧ product.trackLots = true ∧
        (∀ a ∈ s.lots.movementLots.rows, a.movementId ≠ movement.id) ∧
        movement.quantityChange ≠ 0 ∧ moveLots s movement product options = .ok t ∧
        finalizeSpecificLotMovementValuation t movement.id = .ok s' := by
  have htracked : trackedMovement s movement.id =
      (s.products.find? movement.productId).map fun product ↦ (movement, product) := by
    rw [trackedMovement, hfind, bind_some]
  rw [applyInventoryLotTracking, htracked] at h
  cases hproduct : s.products.find? movement.productId with
  | none =>
    rw [hproduct] at h
    simp only [map_none, pure_eq_ok] at h
    exact .inl h.symm
  | some product =>
    rw [hproduct] at h
    simp only [map_some] at h
    split at h
    case isTrue => exact .inr (.inl h)
    case isFalse hmoves =>
      obtain ⟨t, ht, h⟩ := bind_eq_ok.mp h
      simp only [not_or, Bool.not_eq_false, not_exists, not_and] at hmoves
      exact .inr (.inr ⟨t, product, rfl, hmoves.1, hmoves.2.1, hmoves.2.2, ht, h⟩)

/-! ### The allocations the pass writes -/

/-- The lot allocations of a movement come after those that were there. -/
def LotBook.Grows (movementId : Uuid) (book book' : LotBook) : Prop :=
  ∃ new, book'.movementLots.rows = book.movementLots.rows ++ new ∧
    ∀ a ∈ new, a.movementId = movementId

namespace LotBook.Grows

variable {movementId : Uuid} {book book' book'' : LotBook}

theorem of_eq (h : book'.movementLots = book.movementLots) : book.Grows movementId book' :=
  ⟨[], by rw [h, List.append_nil], by simp⟩

theorem trans (h : book.Grows movementId book') (h' : book'.Grows movementId book'') :
    book.Grows movementId book'' := by
  obtain ⟨new, hrows, hnew⟩ := h
  obtain ⟨new', hrows', hnew'⟩ := h'
  refine ⟨new ++ new', by rw [hrows', hrows, List.append_assoc], fun a ha ↦ ?_⟩
  rcases List.mem_append.mp ha with ha | ha
  · exact hnew a ha
  · exact hnew' a ha

end LotBook.Grows

theorem LotBook.movementLots_ensureBalance (book : LotBook) (lotId locationId : Uuid) :
    (book.ensureBalance lotId locationId).movementLots = book.movementLots := by
  rw [LotBook.ensureBalance]
  split <;> rfl

variable {book book' : LotBook} {mode : SelectionMode} {costSource : Option LotCostSource}

section

variable {lotId : Uuid} {env : Env} {quantityChange : ℤ}
  (h : changeLotBalance env movement book lotId quantityChange mode costSource = .ok book')
include h

theorem changeLotBalance_eq_ok : ∃ lot a, book.lots.find? lotId = some lot ∧
      book.movementLots.insert a = some book'.movementLots ∧
      a.movementId = movement.id ∧ a.lotId = lotId ∧ a.quantityChange = quantityChange ∧
      a.valueChange = quantityTimesCost quantityChange
        ((costSource.map LotCostSource.unitCost).getD lot.unitCost) := by
  simp only [changeLotBalance, eq_ok] at h
  obtain ⟨lot, hlot, -, -, balance, -, -, -, -, -, -, -, -, -, movementLots, hinsert, rfl⟩ := h
  rw [LotBook.movementLots_ensureBalance] at hinsert
  exact ⟨lot, _, hlot, hinsert, rfl, rfl, rfl, rfl⟩

theorem changeLotBalance_grows : book.Grows movement.id book' := by
  obtain ⟨-, a, -, hinsert, hmovement, -⟩ := changeLotBalance_eq_ok h
  refine ⟨[a], (Table.insert_eq_some hinsert).2, fun b hb ↦ ?_⟩
  rw [List.mem_singleton.mp hb]
  exact hmovement

end

theorem findOrCreateLot_movementLots {env : Env} {input : LotInput} {r : LotBook × Uuid}
    (h : findOrCreateLot env book product input = .ok r) :
    r.1.movementLots = book.movementLots := by
  simp only [findOrCreateLot, eq_ok] at h
  obtain ⟨code, -, -, -, -, -, -, -, -, -, h⟩ := h
  split at h
  · simp only [eq_ok] at h
    obtain ⟨-, -, -, -, rfl⟩ := h
    rfl
  · simp only [eq_ok] at h
    obtain ⟨-, -, rfl⟩ := h
    rfl

theorem restoreAllocations_grows {env : Env} {movements : Table Movement}
    {sourceType : MovementType}
    (h : restoreAllocations env movements book movement sourceType mode = .ok book') :
    book.Grows movement.id book' := by
  simp only [restoreAllocations, eq_ok] at h
  obtain ⟨-, -, p, hp, -, -, rfl⟩ := h
  refine foldlM_invariant (P := fun p : LotProgress ↦ book.Grows movement.id p.book)
    (fun x _ p p' hgrows hstep ↦ ?_) (.of_eq rfl) hp
  rw [restoreLot] at hstep
  split at hstep
  · exact pure_eq_ok.mp hstep ▸ hgrows
  · dsimp only at hstep
    split at hstep
    · exact pure_eq_ok.mp hstep ▸ hgrows
    · obtain ⟨b, hb, hstep⟩ := bind_eq_ok.mp hstep
      exact pure_eq_ok.mp hstep ▸ hgrows.trans (changeLotBalance_grows hb)

theorem consumeLots_grows {quantity : ℤ}
    {preferredLotId : Option Uuid} {preferredLotCode : Option Text} {allowExpired : Bool}
    (h : consumeLots s movement quantity preferredLotId preferredLotCode costSource allowExpired =
      .ok book') : s.lots.Grows movement.id book' := by
  simp only [consumeLots, eq_ok] at h
  obtain ⟨r, -, p, hp, -, -, rfl⟩ := h
  refine foldlM_invariant (P := fun p : LotProgress ↦ s.lots.Grows movement.id p.book)
    (fun x _ p p' hgrows hstep ↦ ?_) (.of_eq rfl) hp
  rw [consumeLot] at hstep
  split at hstep
  · exact pure_eq_ok.mp hstep ▸ hgrows
  · dsimp only at hstep
    split at hstep
    · exact pure_eq_ok.mp hstep ▸ hgrows
    · obtain ⟨b, hb, hstep⟩ := bind_eq_ok.mp hstep
      exact pure_eq_ok.mp hstep ▸ hgrows.trans (changeLotBalance_grows hb)

theorem moveLots_entry (hentry : 0 < movement.quantityChange)
    (hvoid : movement.type ≠ .SALE_VOID) (hreturn : movement.type ≠ .SALE_RETURN)
    (htransfer : movement.type ≠ .TRANSFER_IN) (h : moveLots s movement product options = .ok s') :
    ∃ unitCost a,
      (if movement.type = .PURCHASE_RECEIPT then
        ∃ line, movement.purchaseReceiptLineId.bind s.purchaseReceiptLines.find? = some line ∧
          unitCost = line.unitCost
      else movement.unitCost = some unitCost) ∧
      s.lots.movementLots.insert a = some s'.lots.movementLots ∧
      a.movementId = movement.id ∧ a.quantityChange = movement.quantityChange ∧
      a.valueChange = quantityTimesCost movement.quantityChange unitCost := by
  rw [moveLots] at h
  split at h
  case h_1 htype =>
    simp only [receiveLot, eq_ok] at h
    obtain ⟨line, hline, code, -, r, hlot, book, hchange, rfl⟩ := h
    obtain ⟨lot, a, -, hinsert, hmovement, -, hquantity, hvalue⟩ := changeLotBalance_eq_ok hchange
    rw [findOrCreateLot_movementLots hlot] at hinsert
    refine ⟨line.unitCost, a, ?_, hinsert, hmovement, hquantity, hvalue⟩
    rw [if_pos htype]
    exact ⟨line, hline, rfl⟩
  case h_2 htype => exact absurd htype hvoid
  case h_3 htype => exact absurd htype hreturn
  case h_4 htype => exact absurd htype htransfer
  case h_5 htype _ _ _ =>
    rw [if_pos hentry] at h
    simp only [enterLot, eq_ok] at h
    obtain ⟨code, -, unitCost, hcost, r, hlot, book, hchange, rfl⟩ := h
    obtain ⟨lot, a, -, hinsert, hmovement, -, hquantity, hvalue⟩ := changeLotBalance_eq_ok hchange
    rw [findOrCreateLot_movementLots hlot] at hinsert
    refine ⟨unitCost, a, ?_, hinsert, hmovement, hquantity, hvalue⟩
    rw [if_neg (fun ht ↦ htype ht)]
    exact hcost

theorem moveLots_grows (h : moveLots s movement product options = .ok s') :
    s.lots.Grows movement.id s'.lots := by
  rw [moveLots] at h
  split at h
  · simp only [receiveLot, eq_ok] at h
    obtain ⟨line, -, code, -, r, hlot, book, hchange, rfl⟩ := h
    exact (LotBook.Grows.of_eq (findOrCreateLot_movementLots hlot)).trans
      (changeLotBalance_grows hchange)
  · obtain ⟨book, hbook, h⟩ := bind_eq_ok.mp h
    exact pure_eq_ok.mp h ▸ restoreAllocations_grows hbook
  · obtain ⟨book, hbook, h⟩ := bind_eq_ok.mp h
    exact pure_eq_ok.mp h ▸ restoreAllocations_grows hbook
  · obtain ⟨book, hbook, h⟩ := bind_eq_ok.mp h
    exact pure_eq_ok.mp h ▸ restoreAllocations_grows hbook
  · split at h
    · simp only [enterLot, eq_ok] at h
      obtain ⟨code, -, cost, -, r, hlot, book, hchange, rfl⟩ := h
      exact (LotBook.Grows.of_eq (findOrCreateLot_movementLots hlot)).trans
        (changeLotBalance_grows hchange)
    · rw [exitLots] at h
      split at h
      · simp only [eq_ok] at h
        obtain ⟨r, -, book, hbook, rfl⟩ := h
        exact consumeLots_grows hbook
      · simp only [eq_ok] at h
        obtain ⟨book, hbook, rfl⟩ := h
        exact consumeLots_grows hbook

end UInventario
