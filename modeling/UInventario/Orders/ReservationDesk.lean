import UInventario.Operations.ReservationClosing
import UInventario.Operations.ReservationStock
import UInventario.Orders.ServiceRuns

/-!
# The lifecycle of reservations

Four operations write reservations: `create`, `release`, the turns of `expireDue`, and the sale of
what is reserved. `step` runs their transactions in any order; between them the rest of the
application does what `Elsewhere` allows it. An `expireDue` takes one reservation a turn (`Sweep`);
a closing that is refused since the reservation is not active any more is passed over, and any other
refusal ends the sweep.

Each reservation accounts for what it has done to the stock (`told`): what its lines have taken is
reserved while it is active, has come back when it is released or expired, and is gone when it is
consumed. `Accounts` says that a transaction moves the stock by the difference.
-/

namespace UInventario.Orders

open Outcome Table List

/-! ### The system -/

/-- **An `expireDue` under way**: what was due when it began, the turns it has taken and whether a
failure has ended it. -/
structure Sweep where
  branchId : Uuid
  due : List Uuid
  turns : ℕ
  stopped : Bool

def Sweep.next (sweep : Sweep) : Option Uuid :=
  if sweep.stopped then none else sweep.due[sweep.turns]?

def Sweep.ended (sweep : Sweep) : Prop :=
  sweep.stopped = true ∨ sweep.due.length ≤ sweep.turns
deriving Decidable

structure Desk where
  store : Store
  sweeps : List Sweep

/-- What happens to reservations. The sale is the transaction of `persistSale`, with any content. -/
inductive DeskEvent
  | reserve (request : ReservationRequest)
  | release (branchId reservationId : Uuid) (idempotencyKey reason : Text)
  | sell (idempotencyKey : Text) (fingerprint : Pos.Cart.SaleFingerprint)
    (content : Pos.Cart.SaleContent)
  | expireDue (branchId : Uuid)
  | turn (n : ℕ)
  | «elsewhere» (change : Elsewhere)

/-- `SELECT id … WHERE status = 'ACTIVE' AND expires_at <= … ORDER BY expires_at, id`. -/
def Store.dueReservations (s : Store) (branchId : Uuid) : List Uuid :=
  (orderBy (fun a b : Reservation ↦ a.expiresAt < b.expiresAt ∨
      a.expiresAt = b.expiresAt ∧ a.id ≤ b.id)
    (s.stock.documents.reservations.rows.filter fun r ↦
      r.branchId = branchId && r.status = .ACTIVE && r.expiresAt ≤ s.shop.now)).map Reservation.id

/-- A turn of the loop of `expireDue`. -/
def takeTurn (d : Desk) (n : ℕ) (sweep : Sweep) (reservationId : Uuid) : Desk :=
  match expireReservation d.store.env.uuidText d.store.stock sweep.branchId reservationId with
  | .ok stock =>
    { store := { d.store with stock := stock }
      sweeps := d.sweeps.set n { sweep with turns := sweep.turns + 1 } }
  | .error e =>
    if e = .productReservationNotActive then
      { d with sweeps := d.sweeps.set n { sweep with turns := sweep.turns + 1 } }
    else { d with sweeps := d.sweeps.set n { sweep with stopped := true } }

section Step

variable (commit : Pos.Cart.Persist)

def step (d : Desk) : DeskEvent → Except Failure Desk
  | .reserve request => do
    let (stock, _) ← (createReservation d.store.stock (request.input d.store)).mapError .stock
    pure { d with store := { d.store with stock := stock } }
  | .release branchId reservationId idempotencyKey reason => do
    let stock ← (releaseReservation d.store.stock branchId reservationId idempotencyKey
      reason).mapError .stock
    pure { d with store := { d.store with stock := stock } }
  | .sell idempotencyKey fingerprint content => do
    let (store, _) ← persistSale commit d.store idempotencyKey fingerprint content
    pure { d with store := store }
  | .expireDue branchId =>
    pure { d with sweeps := d.sweeps ++ [{
      branchId := branchId, due := d.store.dueReservations branchId, turns := 0,
      stopped := false }] }
  | .turn n => do
    let sweep ← demand d.sweeps[n]? .typeError
    let reservationId ← demand sweep.next .typeError
    pure (takeTurn d n sweep reservationId)
  | .«elsewhere» change => do
    let store ← change.apply d.store
    pure { d with store := store }

end Step

def Desk.opening (env : Env) (directory : Directory) (stock : UInventario.Store)
    (shop : Pos.Cart.Shop) : Desk where
  store := .opening env directory stock shop
  sweeps := []

/-! ### What a reservation tells of the stock -/

/-- What a line of a reservation has moved in all, by the status of the reservation. -/
def moved : ReservationStatus → ℤ → Buckets
  | .ACTIVE, q => .moved .AVAILABLE .RESERVED q
  | .RELEASED, _ | .EXPIRED, _ => {}
  | .CONSUMED, q => .single .AVAILABLE (-q)

/-- **What a reservation tells of the stock**: what its lines have moved in a bucket. -/
def told (s : UInventario.Store) (reservationId : Uuid) (state : StockState)
    (w : Uuid → Uuid → Bool) : ℤ :=
  match s.documents.reservations.find? reservationId with
  | none => 0
  | some r => linesMoved (moved r.status) state w r.locationId (s.reservedLines reservationId)

/-- **A transaction accounts for the stock** it moves, in the reservation it is about. -/
structure Accounts (about : Uuid → Prop) (s s' : UInventario.Store) : Prop where
  explained : ∀ id, about id → ∀ state w,
    s'.held state w - s.held state w = told s' id state w - told s id state w
  kept : ∀ id, ¬about id → ∀ state w, told s' id state w = told s id state w

variable {id : Uuid} {r : Reservation} {input : ReservationInput}

section Stock

variable {s s' : UInventario.Store} {about : Uuid → Prop}

theorem Accounts.refl (about : Uuid → Prop) (s : UInventario.Store) : Accounts about s s :=
  ⟨fun _ _ _ _ ↦ (sub_self _).trans (sub_self _).symm, fun _ _ _ _ ↦ rfl⟩

theorem told_congr
    (hreservation : s'.documents.reservations.find? id = s.documents.reservations.find? id)
    (hlines : s'.reservedLines id = s.reservedLines id) (state : StockState)
    (w : Uuid → Uuid → Bool) : told s' id state w = told s id state w := by
  rw [told, told, hreservation, hlines]

theorem told_of_find?
    (h : s.documents.reservations.find? id = some r) (state : StockState) (w : Uuid → Uuid → Bool) :
    told s id state w = linesMoved (moved r.status) state w r.locationId (s.reservedLines id) := by
  rw [told, h]

theorem linesMoved_none (state : StockState) (w : Uuid → Uuid → Bool) (locationId : Uuid)
    (lines : List ReservationLineRequest) :
    linesMoved (fun _ ↦ {}) state w locationId lines = 0 := by
  induction lines with
  | nil => rfl
  | cons line lines ih =>
    rw [linesMoved_cons, ih, add_zero]
    cases state <;> simp [Buckets.state]

/-- **A reservation that is active is closed**, and its lines move as its new status says. -/
theorem Accounts.of_closed (f : Reservation → Reservation)
    (hf : ∀ r, (f r).id = r.id) (hfound : s.documents.reservations.find? id = some r)
    (hreservations : s'.documents.reservations = s.documents.reservations.update id f hf)
    (hlines : s'.documents.reservationLines = s.documents.reservationLines)
    (hlocation : (f r).locationId = r.locationId)
    (hheld : ∀ state w, s'.held state w - s.held state w =
      linesMoved (moved (f r).status) state w r.locationId (s.reservedLines id) -
        linesMoved (moved r.status) state w r.locationId (s.reservedLines id)) :
    Accounts (fun id' ↦ id' = id) s s' := by
  have hkept : ∀ id', s'.reservedLines id' = s.reservedLines id' := fun id' ↦ by
    rw [Store.reservedLines, hlines]
    rfl
  constructor
  · rintro _ rfl state w
    have hclosed := find?_update_reservation f hf hfound
    rw [← hreservations] at hclosed
    rw [hheld, told_of_find? hfound, told_of_find? hclosed, hlocation, hkept]
  · intro id' hne state w
    refine told_congr ?_ (hkept id') state w
    rw [hreservations, find?_update_of_ne hne]

theorem closeReservation_accounts {input : CloseInput}
    (hstatus : moved input.status = fun _ ↦ {}) (h : closeReservation s input = .ok s') :
    Accounts (fun id ↦ id = input.reservationId) s s' := by
  obtain ⟨r, hfound, hheld⟩ := closeReservation_held h
  obtain ⟨r', hfound', -, ⟨hclosed, -, rfl⟩ | ⟨hactive, -, hdocuments⟩⟩ := closeReservation_eq_ok h
  · exact .refl _ s'
  · rw [hfound] at hfound'
    obtain rfl := Option.some_inj.mp hfound'
    rw [if_pos hactive] at hheld
    refine .of_closed input.apply (fun _ ↦ rfl) hfound (by rw [hdocuments]) (by rw [hdocuments]) rfl
      fun state w ↦ ?_
    have hback := linesMoved_back .AVAILABLE .RESERVED state w r.locationId
      (s.reservedLines input.reservationId)
    rw [show (input.apply r).status = input.status from rfl, hstatus, linesMoved_none, hheld,
      hactive]
    show _ = 0 - linesMoved (.moved .AVAILABLE .RESERVED) state w r.locationId _
    omega

/-- **A creation** accounts for the reservation it makes. -/
theorem createReservation_accounts (hs : LinesSound s)
    {reservation : Reservation} (h : createReservation s input = .ok (s', reservation)) :
    Accounts (fun id ↦ s.documents.reservations.find? id = none ∧
      (s'.documents.reservations.find? id).isSome = true) s s' := by
  rcases createReservation_held h with rfl | hheld
  · exact .refl _ s'
  rcases createReservation_eq_ok h with ⟨rfl, -, -⟩ | ⟨id, rfl, -, hinsert, added, hadded,
    hrequests,
    hrows⟩
  · exact .refl _ s'
  have hnew : s.documents.reservations.find? id = none := (insert_eq_some hinsert).1
  have hfound : s'.documents.reservations.find? id = some (input.row id) :=
    find?_insert_self hinsert
  have hsound : LinesSound s' := hs.of_insert hinsert hadded hrequests ⟨rfl, rfl⟩ hrows
  have hasked : s'.reservedLines id = canonicalLines input.lines :=
    hsound.asked (input.row id) (mem_of_find? hfound)
  have hother : ∀ id', id' ≠ id → ∀ state w, told s' id' state w = told s id' state w := by
    intro id' hne state w
    refine told_congr (find?_insert_of_ne hinsert hne.symm) ?_ state w
    have hnone : added.filter (fun l ↦ l.reservationId = id') = [] := by
      rw [filter_eq_nil_iff]
      intro l hl
      rw [decide_eq_true_eq, hadded l hl]
      exact hne.symm
    rw [Store.reservedLines, hrows, filter_append, hnone, append_nil]
    rfl
  constructor
  · rintro id' ⟨hnone, hsome⟩ state w
    have hid : id' = id := by
      by_contra hne
      rw [find?_insert_of_ne hinsert (Ne.symm hne), hnone] at hsome
      cases hsome
    subst hid
    rw [hheld, told_of_find? hfound, hasked, told, hnew]
    show _ = linesMoved (.moved .AVAILABLE .RESERVED) state w input.locationId _ - 0
    omega
  · intro id' habout state w
    refine hother id' (fun heq ↦ habout ?_) state w
    rw [heq, hnew, hfound]
    exact ⟨rfl, rfl⟩

end Stock

/-! ### The stock of a sale -/

def soldRequest (line : Pos.Cart.SoldLine) : ReservationLineRequest where
  productId := line.product.productId
  quantity := line.product.quantity
  serialNumbers := line.product.serialNumbers

theorem linesMoved_pairs {change : ℤ → Buckets} {state : StockState} {w : Uuid → Uuid → Bool}
    {locationId : Uuid} {lines lines' : List ReservationLineRequest}
    (h : (lines.map fun l ↦ (l.productId, l.quantity)).Perm
      (lines'.map fun l ↦ (l.productId, l.quantity))) :
    linesMoved change state w locationId lines = linesMoved change state w locationId lines' := by
  have hmap : ∀ lines : List ReservationLineRequest, linesMoved change state w locationId lines =
      ((lines.map fun l ↦ (l.productId, l.quantity)).map fun x ↦
        if w x.1 locationId then (change x.2).state state else 0).sum := fun lines ↦ by
    rw [map_map]
    rfl
  rw [hmap, hmap]
  exact (h.map _).sum_eq

variable {lines : List Pos.Cart.SoldLine}

/-- **The lines of a sale are those of its reservation**, when these are of different products. -/
theorem matchesReservation_perm
    {reserved : List ReservationLineRequest} (h : matchesReservation lines reserved)
    (hnodup : (reserved.map ReservationLineRequest.productId).Nodup) :
    (reserved.map fun l ↦ (l.productId, l.quantity)).Perm
      ((lines.map soldRequest).map fun l ↦ (l.productId, l.quantity)) := by
  obtain ⟨hlength, hmatched⟩ := h
  have hpairs : (reserved.map fun l ↦ (l.productId, l.quantity)).Nodup := by
    refine List.Nodup.of_map Prod.fst ?_
    rw [map_map]
    exact hnodup
  have hsubset : (reserved.map fun l ↦ (l.productId, l.quantity)) ⊆
      (lines.map soldRequest).map fun l ↦ (l.productId, l.quantity) := by
    refine forall_mem_map.mpr fun r hr ↦ ?_
    obtain ⟨line, hline, hproduct, hquantity⟩ := hmatched r hr
    refine mem_map.mpr ⟨soldRequest line, mem_map_of_mem hline, ?_⟩
    rw [soldRequest, hproduct, hquantity]
  refine (subperm_of_subset hpairs hsubset).perm_of_length_le ?_
  rw [length_map, length_map, length_map, hlength]

variable {fingerprint : Pos.Cart.SaleFingerprint} {saleId : Uuid} {content : Pos.Cart.SaleContent}
  {idempotencyKey : Text}

section Sale

variable {s s' : Store}

/-- **An allocation takes what it sells** from what is reserved. -/
def StockAllocation.Takes (s : UInventario.Store) (locationId : Uuid) (a : StockAllocation) :
    Prop :=
  ∃ b, s.balance? a.line.product.productId locationId = some b ∧ a.balance = { b with
      quantity := b.quantity - a.line.product.quantity
      reserved := b.reserved - a.line.product.quantity }

variable {locationId : Uuid} {allocations : List StockAllocation} {businessDate : Day}
  {reservationId : Uuid} {stock : UInventario.Store}

theorem allocateReserved_eq_some {line : Pos.Cart.SoldLine} {a : StockAllocation}
    (h : allocateReserved stock locationId businessDate line = some a) :
    a.line = line ∧ a.Takes stock locationId := by
  simp only [allocateReserved, Option.bind_eq_bind, Option.bind_eq_some_iff] at h
  obtain ⟨b, hb, product, -, h⟩ := h
  split at h
  · cases h
    exact ⟨rfl, b, hb, rfl⟩
  · cases h

/-- **The allocations** are of the lines, one each. -/
theorem allocateLines_eq_ok
    (h : allocateLines stock locationId businessDate lines = .ok allocations) :
    allocations.map StockAllocation.line = lines ∧ ∀ a ∈ allocations, a.Takes stock locationId := by
  rw [allocateLines] at h
  split at h
  · cases h
  case h_2 hnone =>
    cases h
    rw [getLast?_eq_none_iff, filter_eq_nil_iff] at hnone
    have hall : ∀ line ∈ lines, ∃ a, allocateReserved stock locationId businessDate line = some a :=
      fun line hline ↦ by
        have := hnone line (mem_orderBy.mpr hline)
        rwa [Bool.not_eq_true, Option.isNone_eq_false_iff, Option.isSome_iff_exists] at this
    constructor
    · clear hnone
      induction lines with
      | nil => rfl
      | cons line lines ih =>
        obtain ⟨a, ha⟩ := hall line mem_cons_self
        rw [filterMap_cons_some ha, map_cons, (allocateReserved_eq_some ha).1,
          ih fun l hl ↦ hall l (mem_cons_of_mem _ hl)]
    · intro a ha
      obtain ⟨line, -, ha⟩ := mem_filterMap.mp ha
      exact (allocateReserved_eq_some ha).2

/-- **The stock of a line** leaves what is reserved, and the balances of the other products stay. -/
theorem sellLine_held {entry : StockAllocation × ℕ}
    (htakes : entry.1.Takes s.stock locationId) (h : sellLine reservationId saleId s entry = .ok s')
    :
    (∀ state w, s'.stock.held state w = s.stock.held state w +
      if w entry.1.line.product.productId locationId then
        (Buckets.single .RESERVED (-entry.1.line.product.quantity)).state state else 0) ∧
    ∀ productId ≠ entry.1.line.product.productId,
      s'.stock.balance? productId locationId = s.stock.balance? productId locationId := by
  obtain ⟨b, hb, hbalance⟩ := htakes
  simp only [sellLine, Store.randomUUID, eq_ok, mapError_eq_ok] at h
  obtain ⟨stock, hupdate, stock', hpost, rfl⟩ := h
  have hkey : (b.productId, b.locationId) = (entry.1.line.product.productId, locationId) :=
    key_of_find? hb
  have hchange : b.change entry.1.balance = .single .RESERVED (-entry.1.line.product.quantity) := by
    rw [hbalance]
    simp [Balance.change, Buckets.single]
  have hwrites := (StockWrites.done (s := s.stock)).updated _ hb hupdate
    (by rw [hbalance]) hchange
  constructor
  · intro state w
    rw [(hwrites.posted hpost).held state w]
    simp [StockWrite.held]
  · intro productId hne
    obtain ⟨p⟩ := postMovement_eq_ok hpost
    have hposted : stock'.balances = stock.balances :=
      (congrArg UInventario.Store.balances p.store_eq :)
    show stock'.balances.find? _ = _
    rw [hposted]
    refine balance?_updateBalance_of_ne hupdate fun heq ↦ hne ?_
    have hproduct : entry.1.balance.productId = b.productId := by rw [hbalance]
    rw [← hproduct] at hkey
    exact (Prod.mk.inj heq).1.trans (Prod.mk.inj hkey).1

theorem sellLines_held {n : ℕ}
    (hproducts : (allocations.map fun a ↦ a.line.product.productId).Nodup)
    (htakes : ∀ a ∈ allocations, a.Takes s.stock locationId)
    (h : (allocations.zipIdx n).foldlM (sellLine reservationId saleId) s = .ok s')
    (state : StockState) (w : Uuid → Uuid → Bool) : s'.stock.held state w = s.stock.held state w +
      linesMoved (fun q ↦ .single .RESERVED (-q)) state w locationId
        (allocations.map fun a ↦ soldRequest a.line) := by
  induction allocations generalizing s n with
  | nil =>
    obtain rfl := foldlM_nil_eq_ok.mp h
    simp
  | cons a allocations ih =>
    rw [zipIdx_cons] at h
    obtain ⟨s₁, hturn, hrest⟩ := foldlM_cons_eq_ok.mp h
    rw [map_cons, nodup_cons] at hproducts
    obtain ⟨hheld, hbalances⟩ := sellLine_held (htakes a mem_cons_self) hturn
    have hlater : ∀ a' ∈ allocations, a'.Takes s₁.stock locationId := by
      intro a' ha'
      obtain ⟨b, hb, hbalance⟩ := htakes a' (mem_cons_of_mem _ ha')
      refine ⟨b, ?_, hbalance⟩
      rw [hbalances _ fun heq ↦ hproducts.1 (mem_map.mpr ⟨a', ha', heq⟩)]
      exact hb
    rw [ih hproducts.2 hlater hrest, hheld, map_cons, linesMoved_cons, add_assoc]
    rfl

/-- **A sale** accounts for the reservation it consumes. -/
theorem persistSale_accounts {commit : Pos.Cart.Persist} (hs : LinesDistinct s.stock)
    (h : persistSale commit s idempotencyKey fingerprint content = .ok (s', saleId)) :
    Accounts (fun id ↦ content.reservationId = some id) s.stock s'.stock := by
  rcases persistSale_eq_ok h with ⟨rfl, -⟩ | ⟨r, hlock, -, hnew⟩
  · exact .refl _ s'.stock
  obtain ⟨hid, hfound, hactive⟩ := lockReservation_eq_ok hlock
  have hmatches : matchesReservation content.lines (s.stock.reservedLines r.id) := by
    simp only [lockReservation, eq_ok] at hlock
    obtain ⟨_, _, _, _, _, _, _, _, _, _, _, hmatches, rfl⟩ := hlock
    exact hmatches
  obtain ⟨_, _, _, _, _, _, heq, hdocuments, _⟩ := persistNew_eq_ok hnew
  simp only [persistNew, insertSale, consumeReservation, Store.randomUUID, eq_ok, mapError_eq_ok,
    Prod.mk.injEq] at hnew
  obtain ⟨allocations, hallocations, s₁, ⟨-, -, sales, -, rfl⟩, s₂, hloop, shop, -, s₃,
    ⟨-, -, rfl⟩, hs', -⟩ := hnew
  obtain ⟨hlines, htakes⟩ := allocateLines_eq_ok hallocations
  have hperm := matchesReservation_perm hmatches (hs.products r.id)
  have hproducts : (allocations.map fun a ↦ a.line.product.productId).Nodup := by
    have hsold : (allocations.map fun a ↦ a.line.product.productId) =
        ((content.lines.map soldRequest).map fun l ↦ (l.productId, l.quantity)).map Prod.fst := by
      rw [← hlines]
      simp only [map_map]
      rfl
    rw [hsold]
    refine (hperm.map Prod.fst).nodup_iff.mp ?_
    rw [map_map]
    exact hs.products r.id
  have hheld : ∀ state w, s'.stock.held state w = s.stock.held state w +
      linesMoved (fun q ↦ .single .RESERVED (-q)) state w r.locationId
        (s.stock.reservedLines r.id) := by
    intro state w
    have hsold := sellLines_held (s := { s with drawn := s.drawn + 1, sales := sales }) hproducts
      htakes hloop state w
    rw [show s'.stock.held state w = s₂.stock.held state w by rw [← hs']; rfl, hsold,
      linesMoved_pairs hperm, ← hlines, map_map]
    rfl
  have hconsumed : Accounts (fun id ↦ id = r.id) s.stock s'.stock := by
    rw [heq]
    refine .of_closed (Reservation.consumed idempotencyKey) (fun _ ↦ rfl) hfound
      (by rw [hdocuments]) (by rw [hdocuments]) rfl fun state w ↦ ?_
    rw [heq] at hheld
    have haway := linesMoved_away .AVAILABLE .RESERVED state w r.locationId
      (s.stock.reservedLines r.id)
    rw [hheld, hactive]
    show _ = linesMoved (fun q ↦ .single .AVAILABLE (-q)) state w r.locationId _ -
      linesMoved (.moved .AVAILABLE .RESERVED) state w r.locationId _
    omega
  constructor
  · intro id hsubject
    exact hconsumed.explained id (Option.some_inj.mp (hsubject.symm.trans hid))
  · intro id hsubject
    exact hconsumed.kept id fun heq ↦ hsubject (heq ▸ hid)

end Sale

/-! ### Transactions -/

/-- **The sales and the reservations they consume.** -/
structure SalesSound (s : Store) : Prop where
  consumed : ∀ r ∈ s.stock.documents.reservations.rows, r.status = .CONSUMED →
    ∃ sale ∈ s.sales.rows, sale.content.reservationId = some r.id
  once : ∀ x ∈ s.sales.rows, ∀ y ∈ s.sales.rows, ∀ id, x.content.reservationId = some id →
    y.content.reservationId = some id → x = y

structure BooksKept (s : Store) : Prop where
  service : ServiceInv s
  distinct : LinesDistinct s.stock
  sales : SalesSound s

/-- **What a transaction does** to the store. -/
structure Transacts (about : Uuid → Prop) (s s' : Store) : Prop where
  continues : ServiceStep s s'
  branches : ∀ id r, s.stock.documents.reservations.find? id = some r →
    ∃ r', s'.stock.documents.reservations.find? id = some r' ∧ r'.branchId = r.branchId
  accounts : Accounts about s.stock s'.stock
  kept : BooksKept s'

section Transactions

variable {s s' : Store} {about : Uuid → Prop} {reservations : Table Reservation}

theorem Transacts.refl (h : BooksKept s) (about : Uuid → Prop) : Transacts about s s :=
  ⟨.refl s, fun _ r hr ↦ ⟨r, hr, rfl⟩, .refl about s.stock, h⟩

theorem branches_update {id' : Uuid} (f : Reservation → Reservation) (hf : ∀ r, (f r).id = r.id)
    (hbranch : ∀ r, (f r).branchId = r.branchId) (id : Uuid) (r : Reservation)
    (hr : reservations.find? id = some r) :
    ∃ r', (reservations.update id' f hf).find? id = some r' ∧ r'.branchId = r.branchId := by
  rw [find?_update, hr, Option.map_some]
  split
  · exact ⟨_, rfl, hbranch r⟩
  · exact ⟨r, rfl, rfl⟩

theorem mem_update_reservation
    (f : Reservation → Reservation) (hf : ∀ r, (f r).id = r.id) {x : Reservation}
    (hx : x ∈ (reservations.update id f hf).rows) : ∃ y ∈ reservations.rows, y.id = x.id ∧
      (y.id = id → x = f y) ∧ (y.id ≠ id → x = y) :=
  exists_of_mem_update hx

variable {stock : UInventario.Store}

theorem SalesSound.of_reservations (h : SalesSound s)
    (hconsumed : ∀ r ∈ stock.documents.reservations.rows, r.status = .CONSUMED →
      r ∈ s.stock.documents.reservations.rows) : SalesSound { s with stock := stock } :=
  ⟨fun r hr hstatus ↦ h.consumed r (hconsumed r hr hstatus) hstatus, h.once⟩

theorem createReservation_transacts (h : BooksKept s)
    {reservation : Reservation} (hok : createReservation s.stock input = .ok (stock, reservation)) :
    Transacts (fun id ↦ s.stock.documents.reservations.find? id = none ∧
      (stock.documents.reservations.find? id).isSome = true) s { s with stock := stock } := by
  obtain ⟨⟨hstep, hservice⟩, -⟩ := createReservation_moves h.service hok
  refine ⟨hstep, ?_, createReservation_accounts h.service.lines hok, hservice,
    createReservation_distinct h.distinct hok, h.sales.of_reservations ?_⟩
  · intro id r hr
    rcases createReservation_eq_ok hok with ⟨rfl, -, -⟩ | ⟨_, -, -, hinsert, -⟩
    · exact ⟨r, hr, rfl⟩
    · exact ⟨r, find?_insert_of_some hinsert hr, rfl⟩
  · intro r hr hstatus
    rcases createReservation_eq_ok hok with ⟨rfl, -, -⟩ | ⟨_, rfl, -, hinsert, -⟩
    · exact hr
    · rcases (mem_insert hinsert).mp hr with hr | rfl
      · exact hr
      · cases hstatus

theorem closeReservation_transacts (h : BooksKept s) {input : CloseInput}
    (hstatus : input.status = .RELEASED ∨ input.status = .EXPIRED)
    (hok : closeReservation s.stock input = .ok stock) :
    Transacts (fun id ↦ id = input.reservationId) s { s with stock := stock } := by
  obtain ⟨hstep, hservice⟩ := closeReservation_moves h.service hok
  have hnothing : moved input.status = fun _ ↦ {} := by
    rcases hstatus with hstatus | hstatus
    · rw [hstatus]
      rfl
    · rw [hstatus]
      rfl
  obtain ⟨r, hfound, -, ⟨-, -, rfl⟩ | ⟨-, -, hdocuments⟩⟩ := closeReservation_eq_ok hok
  · exact .refl h _
  refine ⟨hstep, ?_, closeReservation_accounts hnothing hok, hservice, ?_,
    h.sales.of_reservations ?_⟩
  · intro id r hr
    rw [hdocuments]
    exact branches_update input.apply (fun _ ↦ rfl) (fun _ ↦ rfl) id r hr
  · show stock.documents.reservationLines.rows.Pairwise _
    rw [hdocuments]
    exact h.distinct
  · intro x hx hconsumed
    rw [hdocuments] at hx
    obtain ⟨y, hy, -, hsame, hother⟩ := mem_update_reservation input.apply (fun _ ↦ rfl) hx
    by_cases hid : y.id = input.reservationId
    · rw [hsame hid] at hconsumed
      rcases hstatus with hstatus | hstatus
      · cases hstatus.symm.trans hconsumed
      · cases hstatus.symm.trans hconsumed
    · rw [hother hid]
      exact hy

theorem persistSale_transacts {commit : Pos.Cart.Persist} (h : BooksKept s)
    (hok : persistSale commit s idempotencyKey fingerprint content = .ok (s', saleId)) :
    Transacts (fun id ↦ content.reservationId = some id) s s' := by
  obtain ⟨hstep, hservice⟩ := persistSale_moves commit h.service hok
  have haccounts := persistSale_accounts h.distinct hok
  rcases persistSale_eq_ok hok with ⟨rfl, -⟩ | ⟨r, hlock, -, hnew⟩
  · exact .refl h _
  obtain ⟨hid, hfound, hactive⟩ := lockReservation_eq_ok hlock
  obtain ⟨drawn, hdrawn, stock, shop, sales, sale, rfl, hdocuments, -, -, hnamed, hinsert⟩ :=
    persistNew_eq_ok hnew
  rw [hid] at hnamed
  refine ⟨hstep, ?_, haccounts, hservice, ?_, ?_, ?_⟩
  · intro id r hr
    rw [hdocuments]
    exact branches_update (Reservation.consumed idempotencyKey) (fun _ ↦ rfl) (fun _ ↦ rfl) id r hr
  · show stock.documents.reservationLines.rows.Pairwise _
    rw [hdocuments]
    exact h.distinct
  · intro x hx hconsumed
    replace hx : x ∈ stock.documents.reservations.rows := hx
    rw [hdocuments] at hx
    obtain ⟨y, hy, hkey, hsame, hother⟩ :=
      mem_update_reservation (Reservation.consumed idempotencyKey) (fun _ ↦ rfl) hx
    by_cases hy' : y.id = r.id
    · refine ⟨sale, (mem_insert hinsert).mpr (.inr rfl), ?_⟩
      rw [hnamed, ← hy']
      exact congrArg some hkey
    · rw [hother hy'] at hconsumed ⊢
      obtain ⟨sale', hsale', hnamed'⟩ := h.sales.consumed y hy hconsumed
      exact ⟨sale', (mem_insert hinsert).mpr (.inl hsale'), hnamed'⟩
  · -- the reservation was active, and what a sale names is consumed
    have hnone : ∀ x ∈ s.sales.rows, x.content.reservationId ≠ some r.id := by
      intro x hx hnamed'
      obtain ⟨r', hr', hconsumed⟩ := h.service.sold x hx r.id hnamed'
      rw [hfound] at hr'
      cases hr'
      rw [hactive] at hconsumed
      cases hconsumed
    intro x hx y hy id hidx hidy
    rcases (mem_insert hinsert).mp hx with hx | rfl
    · rcases (mem_insert hinsert).mp hy with hy | rfl
      · exact h.sales.once x hx y hy id hidx hidy
      · rw [hnamed] at hidy
        cases hidy
        exact absurd hidx (hnone x hx)
    · rw [hnamed] at hidx
      cases hidx
      rcases (mem_insert hinsert).mp hy with hy | rfl
      · exact absurd hidy (hnone y hy)
      · rfl

theorem insertSales_keeps {sales : List Sale} (h : sales.foldlM insertSale s = .ok s') :
    ∀ sale ∈ s.sales.rows, sale ∈ s'.sales.rows := by
  induction sales generalizing s with
  | nil =>
    obtain rfl := foldlM_nil_eq_ok.mp h
    exact fun _ hsale ↦ hsale
  | cons sale sales ih =>
    obtain ⟨s₁, hturn, hrest⟩ := foldlM_cons_eq_ok.mp h
    simp only [insertSale, eq_ok] at hturn
    obtain ⟨-, -, table, hinsert, rfl⟩ := hturn
    exact fun x hx ↦ ih hrest x ((mem_insert hinsert).mpr (.inl hx))

theorem elsewhere_transacts (h : BooksKept s) {change : Elsewhere} (hok : change.apply s = .ok s') :
    Transacts (fun _ ↦ False) s s' := by
  obtain ⟨hstep, hservice⟩ := elsewhere_moves h.service hok
  simp only [Elsewhere.apply, eq_ok] at hok
  obtain ⟨s₁, hsales, rfl⟩ := hok
  have hkeeps := insertSales_keeps hsales
  obtain ⟨table, rfl, hrows⟩ := insertSales_eq_ok hsales
  refine ⟨hstep, fun _ r hr ↦ ⟨r, hr, rfl⟩,
    ⟨fun _ h ↦ h.elim, fun _ _ _ _ ↦ told_congr rfl rfl _ _⟩,
    hservice, h.distinct, ?_, ?_⟩
  · intro r hr hconsumed
    obtain ⟨sale, hsale, hnamed⟩ := h.sales.consumed r hr hconsumed
    exact ⟨sale, hkeeps sale hsale, hnamed⟩
  · have hold : ∀ x ∈ table.rows, ∀ id, x.content.reservationId = some id → x ∈ s.sales.rows := by
      intro x hx id hid
      rcases hrows x hx with hx | hx
      · exact hx
      · rw [change.unreserved x hx] at hid
        cases hid
    exact fun x hx y hy id hidx hidy ↦
      h.sales.once x (hold x hx id hidx) y (hold y hy id hidy) id hidx hidy

end Transactions

/-! ### Runs -/

section Runs

variable (commit : Pos.Cart.Persist)

def Desk.reservation (d : Desk) (reservationId : Uuid) : Option Reservation :=
  d.store.stock.documents.reservations.find? reservationId

/-- **The reservation an event is about.** A creation is about the one it makes. -/
def DeskEvent.about (d : Desk) : DeskEvent → Uuid → Prop
  | .reserve request, id => d.reservation id = none ∧
      ((exec (step commit) d (.reserve request)).reservation id).isSome = true
  | .release _ reservationId _ _, id => id = reservationId
  | .sell _ _ content, id => content.reservationId = some id
  | .turn n, id => d.sweeps[n]?.bind Sweep.next = some id
  | .expireDue _, _ | .«elsewhere» _, _ => False

instance (d : Desk) (event : DeskEvent) (id : Uuid) : Decidable (event.about commit d id) := by
  unfold DeskEvent.about
  split <;> infer_instance

/-- **What the events about a reservation change** in a quantity of the stock, over a run from `d`.
-/
def effect (reservationId : Uuid) (f : UInventario.Store → ℤ) : Desk → List DeskEvent → ℤ
  | _, [] => 0
  | d, event :: events =>
    (if event.about commit d reservationId then
      f (exec (step commit) d event).store.stock - f d.store.stock else 0) +
      effect reservationId f (exec (step commit) d event) events

variable {commit} {d d' : Desk} {event : DeskEvent}

section

variable (h : BooksKept d.store)
include h

/-- **The step lemma.** -/
theorem exec_transacts (event : DeskEvent) :
    Transacts (event.about commit d) d.store (exec (step commit) d event).store := by
  cases hstep : step commit d event with
  | error e =>
    rw [exec, hstep]
    exact .refl h _
  | ok d' =>
    have hexec := exec_of_ok hstep
    cases event with
    | reserve request =>
      simp only [step, eq_ok, mapError_eq_ok] at hstep
      obtain ⟨⟨stock, reservation⟩, hok, rfl⟩ := hstep
      have htransacts := createReservation_transacts h hok
      have habout : DeskEvent.about commit d (.reserve request) = fun id ↦
          d.store.stock.documents.reservations.find? id = none ∧
            (stock.documents.reservations.find? id).isSome = true := by
        funext id
        rw [DeskEvent.about, hexec]
        rfl
      rw [hexec, habout]
      exact htransacts
    | release branchId reservationId idempotencyKey reason =>
      rw [hexec]
      simp only [step, releaseReservation, eq_ok, mapError_eq_ok] at hstep
      obtain ⟨stock, hok, rfl⟩ := hstep
      exact closeReservation_transacts h (.inl rfl) hok
    | sell idempotencyKey fingerprint content =>
      rw [hexec]
      simp only [step, eq_ok] at hstep
      obtain ⟨⟨store, saleId⟩, hok, rfl⟩ := hstep
      exact persistSale_transacts h hok
    | expireDue branchId =>
      rw [hexec]
      cases hstep
      exact .refl h _
    | turn n =>
      rw [hexec]
      simp only [step, eq_ok] at hstep
      obtain ⟨sweep, hsweep, id, hnext, rfl⟩ := hstep
      have habout : DeskEvent.about commit d (.turn n) = fun id' ↦ id' = id := by
        funext id'
        rw [DeskEvent.about, hsweep, Option.bind_some, hnext, Option.some_inj]
        exact propext eq_comm
      rw [habout, takeTurn]
      cases hok : expireReservation d.store.env.uuidText d.store.stock sweep.branchId id with
      | ok stock => exact closeReservation_transacts h (.inr rfl) hok
      | error e =>
        dsimp only
        split
        · exact .refl h _
        · exact .refl h _
    | «elsewhere» change =>
      rw [hexec]
      simp only [step, eq_ok] at hstep
      obtain ⟨store, hok, rfl⟩ := hstep
      exact elsewhere_transacts h hok

/-- **The run lemma.** -/
theorem run_kept (events : List DeskEvent) :
    BooksKept (run (step commit) d events).store := by
  induction events generalizing d with
  | nil => exact h
  | cons event events ih => exact ih (exec_transacts h event).kept

theorem run_closed
    (hr : d.reservation id = some r) (hclosed : r.status ≠ .ACTIVE) (events : List DeskEvent) :
    (run (step commit) d events).reservation id = some r := by
  induction events generalizing d with
  | nil => exact hr
  | cons event events ih =>
    have htransacts : Transacts (event.about commit d) d.store (exec (step commit) d event).store :=
      exec_transacts h event
    obtain ⟨r', hr', hgoes⟩ := htransacts.continues.reservations id r hr
    rw [hgoes.closed hclosed] at hr'
    exact ih htransacts.kept hr'

/-- **The effect of a run** is what the reservation tells in the end beyond what it told. -/
theorem effect_eq (id : Uuid) (state : StockState) (w : Uuid → Uuid → Bool)
    (events : List DeskEvent) : effect commit id (fun s ↦ s.held state w) d events =
      told (run (step commit) d events).store.stock id state w - told d.store.stock id state w := by
  induction events generalizing d with
  | nil => exact (sub_self _).symm
  | cons event events ih =>
    have htransacts : Transacts (event.about commit d) d.store (exec (step commit) d event).store :=
      exec_transacts h event
    rw [effect, ih htransacts.kept, run_cons]
    split
    case isTrue habout =>
      rw [htransacts.accounts.explained id habout state w]
      ring
    case isFalse habout =>
      rw [htransacts.accounts.kept id habout state w]
      ring

end

theorem booksKept_opening (env : Env) (directory : Directory) (stock : UInventario.Store)
    (shop : Pos.Cart.Shop) : BooksKept (Desk.opening env directory stock shop).store where
  service := serviceInv_opening env directory stock shop
  distinct := .nil
  sales := ⟨forall_mem_nil _, forall_mem_nil _⟩

end Runs

end UInventario.Orders
