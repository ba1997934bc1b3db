import UInventario.Operations.Reservations
import UInventario.Orders.CustomerOrders

/-!
# Sales of what is reserved

A sale that names a reservation is quoted on what the reservation keeps (`Store.counter`): it has to
be active, not expired and of the warehouse. `persistSale` locks the reservation and checks it once
more, takes the stock from what is reserved at its location, and closes it as `CONSUMED`; it looks
for the key of the sale before and once more under the locks.

What the sale does to the other tables of the point of sale is the parameter `commit`.
-/

namespace UInventario.Orders

open Outcome

/-! ### What a reservation keeps -/

/-- The rows that `getProducts` joins for a product of a reservation. -/
def Store.keeps (s : Store) (warehouseId reservationId productId : Uuid) : Bool :=
  ((s.stock.documents.reservations.find? reservationId).any fun r ↦
    r.warehouseId = warehouseId && r.status = .ACTIVE && s.shop.now < r.expiresAt) &&
  s.stock.documents.reservationLines.rows.any fun l ↦
    l.reservationId = reservationId && l.productId = productId

/-- `getProducts`: a function of the shop, but whether it has a row is decided by the reservation.
-/
def Store.getProducts (s : Store) (warehouseId : Uuid) (reservationId : Option Uuid)
    (productId : Uuid) : Option Pos.Cart.PosProductSnapshot :=
  match reservationId with
  | none => s.shop.getProducts warehouseId none productId
  | some id => (s.shop.getProducts warehouseId (some id) productId).filter fun _ ↦
      s.keeps warehouseId id productId

def Store.counter (s : Store) : Pos.Cart.Shop :=
  { s.shop with getProducts := s.getProducts }

/-! ### The stock of a line -/

/-- `lot_quantity`: what the lots of a product hold at a location and have not expired. -/
def lotQuantity (s : UInventario.Store) (productId locationId : Uuid) (businessDate : Day) : ℤ :=
  ((s.lots.balances.rows.filter fun b ↦ b.locationId = locationId &&
    (s.lots.lots.find? b.lotId).any fun lot ↦ lot.productId = productId &&
      lot.expiresOn.all fun day ↦ decide (businessDate ≤ day)).map LotBalance.quantity).sum

def reservedSerials (s : UInventario.Store) (productId locationId : Uuid)
    (serialNumbers : List Text) : List Text :=
  (orderBy (fun a b : Serial ↦ Text.before a.normalizedSerial b.normalizedSerial)
    (s.serials.serials.rows.filter fun x ↦ x.productId = productId && x.status = .RESERVED &&
      x.currentLocationId = some locationId &&
      decide (x.normalizedSerial ∈ serialNumbers.map (normalizeSerial s.env)))).map
    Serial.serialNumber

/-- What can be taken of a product at the location of its reservation. -/
def selectableQuantity (s : UInventario.Store) (balance : Balance) (product : Product)
    (businessDate : Day) (serialNumbers : List Text) : ℤ :=
  let lots := if product.trackLots then
    min balance.reserved (lotQuantity s product.id balance.locationId businessDate)
  else balance.reserved
  if serialNumbers = [] then lots
  else min lots
    ((reservedSerials s product.id balance.locationId serialNumbers).length * 1000)

/-- `StockAllocation`: the balance that is left and the serial numbers that go with the line. -/
structure StockAllocation where
  line : Pos.Cart.SoldLine
  balance : Balance
  serialNumbers : Option (List Text)

/-- The allocation of a line at the location of the reservation, the only one that is asked. -/
def allocateReserved (s : UInventario.Store) (locationId : Uuid) (businessDate : Day)
    (line : Pos.Cart.SoldLine) : Option StockAllocation := do
  let sold := line.product
  let balance ← s.balance? sold.productId locationId
  let product ← s.products.find? sold.productId
  if sold.quantity ≤ selectableQuantity s balance product businessDate sold.serialNumbers then
    some {
      line := line
      balance := { balance with
        quantity := balance.quantity - sold.quantity, reserved := balance.reserved - sold.quantity }
      serialNumbers := if sold.serialNumbers = [] then none else
        some ((reservedSerials s sold.productId locationId sold.serialNumbers).take
          (sold.quantity / 1000).toNat) }
  else none

/-- The allocations of the lines; the product that is reported is the last one that is short. -/
def allocateLines (s : UInventario.Store) (locationId : Uuid) (businessDate : Day)
    (lines : List Pos.Cart.SoldLine) : Except Failure (List StockAllocation) :=
  let ordered := orderBy
    (fun a b : Pos.Cart.SoldLine ↦ a.product.productId ≤ b.product.productId) lines
  match (ordered.filter fun line ↦
      (allocateReserved s locationId businessDate line).isNone).getLast? with
  | some short => .error (.sale (.posInsufficientStock short.product.productId))
  | none => .ok (lines.filterMap (allocateReserved s locationId businessDate))

def saleMovement (reservationId saleId saleLineId : Uuid) (allocation : StockAllocation)
    (lineNumber : ℕ) : NewMovement where
  productId := allocation.line.product.productId
  locationId := allocation.balance.locationId
  type := .SALE
  quantityChange := -allocation.line.product.quantity
  resultingQuantity := allocation.balance.quantity
  idempotencyKey := .sale saleId lineNumber 1 1
  saleId := some saleId
  saleLineId := some saleLineId
  reservationId := some reservationId

def sellLine (reservationId saleId : Uuid) (s : Store) (entry : StockAllocation × ℕ) :
    Except Failure Store := do
  let (saleLineId, s) := s.randomUUID
  let stock ← (updateBalance s.stock entry.1.balance).mapError .stock
  let stock ← (postMovement stock
    (saleMovement reservationId saleId saleLineId entry.1 (entry.2 + 1)) {
      lots := some { allowExpired := entry.1.line.product.expiredLotOverrideReason.isSome }
      serials := some { serialNumbers := entry.1.serialNumbers } }).mapError .stock
  pure { s with stock := stock }

/-! ### The sale -/

/-- `findWithManager` and `findByIdempotency`: the sale persisted under a key. -/
def Store.saleByKey (s : Store) (idempotencyKey : Text) : Option Sale :=
  s.sales.rows.find? fun sale ↦ sale.idempotencyKey = idempotencyKey

def replaySale (fingerprint : Pos.Cart.SaleFingerprint) (sale : Sale) : Except Failure Uuid := do
  ensure (sale.requestFingerprint = fingerprint) (.sale (.store .posIdempotencyConflict))
  pure sale.id

def matchesReservation (lines : List Pos.Cart.SoldLine) (reserved : List ReservationLineRequest) :
    Prop :=
  lines.length = reserved.length ∧ ∀ r ∈ reserved, ∃ line ∈ lines,
    line.product.productId = r.productId ∧ line.product.quantity = r.quantity
deriving Decidable

def lockReservation (s : Store) (content : Pos.Cart.SaleContent) : Except Failure Reservation := do
  let reservationId ← demand content.reservationId (.stock .otherPart)
  let reservation ← demand
    ((s.stock.documents.reservations.find? reservationId).filter fun r ↦
      r.branchId = content.place.branchId && r.warehouseId = content.place.warehouseId)
    (.sale .posReservationNotAvailable)
  ensure (reservation.status = .ACTIVE) (.sale .posReservationNotAvailable)
  ensure (s.shop.now < reservation.expiresAt) (.sale .posReservationNotAvailable)
  ensure (∀ id ∈ content.customerId, id = reservation.customerId)
    (.sale .posReservationNotAvailable)
  ensure (matchesReservation content.lines (s.stock.reservedLines reservation.id))
    (.sale .posReservationNotAvailable)
  pure reservation

def lockCustomerAndShift (s : Store) (content : Pos.Cart.SaleContent) (customerId : Uuid) :
    Except Failure Unit := do
  ensure (s.shop.store.customerAvailable customerId) (.sale (.store .posCustomerNotAvailable))
  let _shift ← (s.shop.store.lockShift {
    branchId := content.place.branchId, cashRegisterId := content.place.cashRegisterId,
    userId := content.place.userId,
    shiftId := content.cashRegisterShiftId } .cashRegisterShiftRequired).mapError
      fun e ↦ .sale (.store e)

/-- `INSERT INTO sales`, with the keys of the table. -/
def insertSale (s : Store) (sale : Sale) : Except Failure Store := do
  ensure (∀ x ∈ s.sales.rows, x.idempotencyKey ≠ sale.idempotencyKey ∧
    ∀ id ∈ sale.content.reservationId, x.content.reservationId ≠ some id) .duplicateEntry
  let sales ← demand (s.sales.insert sale) .duplicateEntry
  pure { s with sales := sales }

/-- A consumed reservation. The fingerprint of its closing is compared with nothing. -/
def Reservation.consumed (idempotencyKey : Text) (reservation : Reservation) : Reservation :=
  { reservation with status := .CONSUMED, closedIdempotencyKey := some idempotencyKey }

def consumeReservation (s : Store) (reservationId : Uuid) (idempotencyKey : Text) :
    Except Failure Store := do
  ensure (∀ r ∈ s.stock.documents.reservations.rows, r.id ≠ reservationId →
    r.closedIdempotencyKey ≠ some idempotencyKey) .duplicateEntry
  pure { s with stock := { s.stock with documents := { s.stock.documents with
    reservations := s.stock.documents.reservations.update reservationId
      (Reservation.consumed idempotencyKey) (fun _ ↦ rfl) } } }

/-- `isDuplicate`, whichever table has met the duplicate. -/
def Failure.isDuplicate : Failure → Bool
  | .duplicateEntry | .stock .duplicateEntry | .sale (.store .duplicateEntry) => true
  | _ => false

section Persist

variable (commit : Pos.Cart.Persist)

def persistNew (s : Store) (idempotencyKey : Text) (fingerprint : Pos.Cart.SaleFingerprint)
    (content : Pos.Cart.SaleContent) (reservation : Reservation) :
    Except Failure (Store × Uuid) := do
  let allocations ← allocateLines s.stock reservation.locationId content.businessDate content.lines
  let (saleId, s) := s.randomUUID
  let s ← insertSale s {
    id := saleId, idempotencyKey := idempotencyKey, requestFingerprint := fingerprint,
    content := { content with customerId := some reservation.customerId } }
  let s ← allocations.zipIdx.foldlM (sellLine reservation.id saleId) s
  let shop ← (commit s.shop content).mapError .sale
  let s ← consumeReservation { s with shop := shop } reservation.id idempotencyKey
  pure (s, saleId)

/-- The transaction of `persistSale`, once the key has not been found. -/
def persistLocked (s : Store) (idempotencyKey : Text) (fingerprint : Pos.Cart.SaleFingerprint)
    (content : Pos.Cart.SaleContent) : Except Failure (Store × Uuid) := do
  let reservation ← lockReservation s content
  lockCustomerAndShift s content reservation.customerId
  match s.saleByKey idempotencyKey with
  | some sale => do
    let id ← replaySale fingerprint sale
    pure (s, id)
  | none => persistNew commit s idempotencyKey fingerprint content reservation

/-- `persistSale`, once the key has not been found: a duplicate is answered by the sale of the key,
if there is one. -/
def persistSale (s : Store) (idempotencyKey : Text) (fingerprint : Pos.Cart.SaleFingerprint)
    (content : Pos.Cart.SaleContent) : Except Failure (Store × Uuid) :=
  match persistLocked commit s idempotencyKey fingerprint content with
  | .ok result => .ok result
  | .error e =>
    if e.isDuplicate then do
      let sale ← demand (s.saleByKey idempotencyKey) .paymentReferenceConflict
      let id ← replaySale fingerprint sale
      pure (s, id)
    else .error e

end Persist

/-! ### What a sale does -/

variable {s s' : Store}

variable {content : Pos.Cart.SaleContent} {reservation : Reservation}

theorem lockReservation_eq_ok (h : lockReservation s content = .ok reservation) :
    content.reservationId = some reservation.id ∧
      s.stock.documents.reservations.find? reservation.id = some reservation ∧
      reservation.status = .ACTIVE := by
  simp only [lockReservation, eq_ok] at h
  obtain ⟨id, hid, r, hfound, -, hactive, -, -, -, -, -, -, rfl⟩ := h
  have hfound := (Option.filter_eq_some_iff.mp hfound).1
  have heq : r.id = id := Table.key_of_find? hfound
  rw [heq]
  exact ⟨hid, hfound, hactive⟩

variable {saleId : Uuid} {fingerprint : Pos.Cart.SaleFingerprint} {idempotencyKey : Text}
  {reservationId : Uuid} {commit : Pos.Cart.Persist}

theorem sellLine_eq_ok {entry : StockAllocation × ℕ}
    (h : sellLine reservationId saleId s entry = .ok s') :
    s' = { s with drawn := s.drawn + 1, stock := s'.stock } ∧
      s'.stock.documents = s.stock.documents := by
  simp only [sellLine, Store.randomUUID, eq_ok, mapError_eq_ok] at h
  obtain ⟨stock, hupdate, stock', hpost, rfl⟩ := h
  obtain ⟨-, rfl⟩ := updateBalance_eq_ok hupdate
  obtain ⟨p⟩ := postMovement_eq_ok hpost
  refine ⟨rfl, ?_⟩
  rw [p.store_eq]

theorem sellLines_eq_ok {entries : List (StockAllocation × ℕ)}
    (h : entries.foldlM (sellLine reservationId saleId) s = .ok s') :
    ∃ drawn ≥ s.drawn, ∃ stock, s' = { s with drawn := drawn, stock := stock } ∧
      stock.documents = s.stock.documents := by
  induction entries generalizing s with
  | nil =>
    rw [foldlM_nil_eq_ok] at h
    subst h
    exact ⟨s.drawn, le_rfl, s.stock, rfl, rfl⟩
  | cons entry entries ih =>
    obtain ⟨s₁, hturn, hrest⟩ := foldlM_cons_eq_ok.mp h
    obtain ⟨hs₁, hdocuments₁⟩ := sellLine_eq_ok hturn
    obtain ⟨drawn, hdrawn, stock, rfl, hdocuments⟩ := ih hrest
    rw [hs₁] at hdrawn ⊢
    exact ⟨drawn, (Nat.le_succ _).trans hdrawn, stock, rfl, hdocuments.trans hdocuments₁⟩

/-- **A new sale** consumes its reservation. -/
theorem persistNew_eq_ok
    (h : persistNew commit s idempotencyKey fingerprint content reservation = .ok (s', saleId)) :
    ∃ drawn ≥ s.drawn, ∃ stock shop sales, ∃ sale : Sale,
      s' = { s with drawn := drawn, stock := stock, shop := shop, sales := sales } ∧
      stock.documents = { s.stock.documents with
        reservations := s.stock.documents.reservations.update reservation.id
          (Reservation.consumed idempotencyKey) (fun _ ↦ rfl) } ∧
      sale.id = saleId ∧ sale.idempotencyKey = idempotencyKey ∧
      sale.content.reservationId = content.reservationId ∧
      s.sales.insert sale = some sales := by
  simp only [persistNew, insertSale, consumeReservation, Store.randomUUID, eq_ok, mapError_eq_ok,
    Prod.mk.injEq] at h
  obtain ⟨allocations, -, s₁, ⟨-, -, sales, hinsert, rfl⟩, s₂, hloop, shop, -, s₃, ⟨-, -, rfl⟩, rfl,
    rfl⟩ := h
  obtain ⟨drawn, hdrawn, stock, rfl, hdocuments⟩ := sellLines_eq_ok hloop
  refine ⟨drawn, (Nat.le_succ _).trans hdrawn, _, shop, sales, _, rfl, ?_, rfl, rfl, rfl, hinsert⟩
  rw [hdocuments]

/-- **`persistSale`** finds the sale of the key, or makes one from an active reservation. -/
theorem persistSale_eq_ok
    (h : persistSale commit s idempotencyKey fingerprint content = .ok (s', saleId)) :
    (s' = s ∧ ∃ sale, s.saleByKey idempotencyKey = some sale ∧
      sale.requestFingerprint = fingerprint ∧ sale.id = saleId) ∨
    ∃ reservation, lockReservation s content = .ok reservation ∧ s.saleByKey idempotencyKey = none ∧
      persistNew commit s idempotencyKey fingerprint content reservation = .ok (s', saleId) := by
  have hreplay : ∀ {sale}, s.saleByKey idempotencyKey = some sale → (do
        let id ← replaySale fingerprint sale
        pure (s, id) : Except Failure (Store × Uuid)) = .ok (s', saleId) →
      s' = s ∧ ∃ sale, s.saleByKey idempotencyKey = some sale ∧
        sale.requestFingerprint = fingerprint ∧ sale.id = saleId := by
    intro sale hsale h
    simp only [replaySale, eq_ok, Prod.mk.injEq] at h
    obtain ⟨id, ⟨-, hfingerprint, rfl⟩, rfl, rfl⟩ := h
    exact ⟨rfl, sale, hsale, hfingerprint, rfl⟩
  rw [persistSale] at h
  cases hlocked : persistLocked commit s idempotencyKey fingerprint content with
  | error e =>
    rw [hlocked] at h
    dsimp only at h
    split at h
    · obtain ⟨sale, hsale, h⟩ := bind_eq_ok.mp h
      exact Or.inl (hreplay (demand_eq_ok.mp hsale) h)
    · cases h
  | ok result =>
    rw [hlocked] at h
    cases h
    obtain ⟨reservation, hreservation, hlocked⟩ := bind_eq_ok.mp hlocked
    obtain ⟨-, -, hlocked⟩ := bind_eq_ok.mp hlocked
    cases hkey : s.saleByKey idempotencyKey with
    | some sale =>
      rw [hkey] at hlocked
      exact Or.inl (hkey ▸ hreplay hkey hlocked)
    | none =>
      rw [hkey] at hlocked
      exact Or.inr ⟨reservation, hreservation, rfl, hlocked⟩

end UInventario.Orders
