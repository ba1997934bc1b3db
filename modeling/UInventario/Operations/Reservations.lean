import UInventario.Inventory.ValuationPolicyService
import UInventario.Operations.Stock

/-!
# Reservations

A reservation moves what is available of its products at one location to what is reserved there,
line by line. It is `ACTIVE` until it is released, expires, or is consumed by a sale.

A repeated creation is answered with the reservation of its key, whatever has become of it since
(`replayReservation`); its transaction looks the key up before it locks anything, and
`createReservation` is what follows. To close what has been closed under another key is refused.
-/

namespace UInventario

open Outcome List

/-! ### Creation -/

def HOUR : ℕ := 3600000

/-- What `create` is called with, and what it reads: the time, and whether the branch and the
customer are active. -/
structure ReservationInput where
  (branchId warehouseId : Uuid)
  idempotencyKey : Text
  (customerId locationId : Uuid)
  expiresInHours : ℕ
  lines : List ReservationLineRequest
  now : Timestamp
  (activeBranch activeCustomer : Bool)

def ReservationLineRequest.canonical (line : ReservationLineRequest) : ReservationLineRequest :=
  { line with serialNumbers := orderBy Text.before (line.serialNumbers.map trim) }

def canonicalLines (lines : List ReservationLineRequest) : List ReservationLineRequest :=
  orderBy (fun a b ↦ a.productId ≤ b.productId) (lines.map ReservationLineRequest.canonical)

def ReservationInput.fingerprint (input : ReservationInput) : ReservationFingerprint where
  customerId := input.customerId
  locationId := input.locationId
  expiresInHours := input.expiresInHours
  lines := canonicalLines input.lines

/-- `findByKey`. -/
def Store.reservationByKey (s : Store) (idempotencyKey : Text) : Option Reservation :=
  s.documents.reservations.rows.find? fun r ↦ r.idempotencyKey = idempotencyKey

/-- `replay`. -/
def replayReservation (input : ReservationInput) (stored : Reservation) :
    Except Failure Reservation := do
  ensure (stored.requestFingerprint = input.fingerprint) .productReservationIdempotencyConflict
  pure stored

/-- `target` and `customer`. -/
def Store.reservationTarget (s : Store) (input : ReservationInput) : Prop :=
  input.activeBranch = true ∧ input.activeCustomer = true ∧
    ((s.documents.warehouses.find? input.warehouseId).any fun w ↦
      w.branchId = input.branchId && w.active) = true ∧
    ((s.locations.find? input.locationId).any fun l ↦
      l.warehouseId = input.warehouseId && l.active) = true
deriving Decidable

def ReservationInput.row (input : ReservationInput) (id : Uuid) : Reservation where
  id := id
  branchId := input.branchId
  warehouseId := input.warehouseId
  locationId := input.locationId
  customerId := input.customerId
  status := .ACTIVE
  expiresAt := input.now + input.expiresInHours * HOUR
  idempotencyKey := input.idempotencyKey
  requestFingerprint := input.fingerprint
  closedIdempotencyKey := none
  closedRequestFingerprint := none

/-- `INSERT INTO product_reservations`, with the keys of the table. -/
def insertReservation (s : Store) (reservation : Reservation) : Except Failure Store := do
  ensure (∀ r ∈ s.documents.reservations.rows, r.idempotencyKey ≠ reservation.idempotencyKey)
    .duplicateEntry
  let reservations ← demand (s.documents.reservations.insert reservation) .duplicateEntry
  pure { s with documents := { s.documents with reservations := reservations } }

/-- `INSERT INTO product_reservation_lines`, with the keys of the table. -/
def insertReservationLine (s : Store) (line : ReservationLine) : Except Failure Store := do
  ensure (∀ l ∈ s.documents.reservationLines.rows,
    ¬(l.reservationId = line.reservationId ∧ l.productId = line.productId)) .duplicateEntry
  let lines ← demand (s.documents.reservationLines.insert line) .duplicateEntry
  pure { s with documents := { s.documents with reservationLines := lines } }

def reservationMovement (reservation : Reservation) (productId : Uuid)
    (fromState toState : StockState) (quantity resultingQuantity : ℤ) (lineNumber : ℕ)
    (closing : Bool) : NewMovement :=
  { stateTransition productId reservation.locationId fromState toState quantity resultingQuantity
      (.reservation reservation.id lineNumber closing) with
    reservationId := some reservation.id }

def reservationTracking (serialNumbers : List Text) : Tracking where
  lots := some {}
  serials := some { serialNumbers := some serialNumbers }

/-- One turn of the loop of `create`. -/
def reserveLine (reservation : Reservation) (s : Store) (entry : ReservationLineRequest × ℕ) :
    Except Failure Store := do
  let line := entry.1
  ensure (0 < line.quantity) .productReservationTargetNotFound
  let _product ← demand ((s.products.find? line.productId).filter fun p ↦
    p.active && !p.variantParent) .productReservationTargetNotFound
  let s := ensureBalance s line.productId reservation.locationId
  let balance ← demand (s.balance? line.productId reservation.locationId) .typeError
  ensure (line.quantity ≤ balance.available) .productReservationInsufficientStock
  let s ← insertReservationLine s {
    id := s.env.uuid .product_reservation_lines s.documents.reservationLines.rows.length,
    reservationId := reservation.id, lineNumber := entry.2 + 1, productId := line.productId,
    quantity := line.quantity, serialNumbers := line.serialNumbers }
  let s ← updateBalance s (balance.transferred .AVAILABLE .RESERVED line.quantity)
  postMovement s (reservationMovement reservation line.productId .AVAILABLE .RESERVED line.quantity
    balance.quantity (entry.2 + 1) false) (reservationTracking line.serialNumbers)

/-- The transaction of `create`, once the key has not been found. -/
def createReservationLocked (s : Store) (input : ReservationInput) :
    Except Failure (Store × Reservation) := do
  ensure (s.reservationTarget input) .productReservationTargetNotFound
  let reservation := input.row
    (s.env.uuid .product_reservations s.documents.reservations.rows.length)
  let s ← insertReservation s reservation
  let s ← (canonicalLines input.lines).zipIdx.foldlM (reserveLine reservation) s
  pure (s, reservation)

/-- `create` of the repository, once the key has not been found. -/
def createReservation (s : Store) (input : ReservationInput) :
    Except Failure (Store × Reservation) :=
  onDuplicate (createReservationLocked s input) (do
    let stored ← demand (s.reservationByKey input.idempotencyKey) .duplicateEntry
    let reservation ← replayReservation input stored
    pure (s, reservation))

/-! ### Closing -/

/-- What `close` is called with. -/
structure CloseInput where
  (branchId reservationId : Uuid)
  (idempotencyKey reason : Text)
  status : ReservationStatus

/-- `closeFingerprint`: what is hashed, without the punctuation. -/
def CloseInput.fingerprint (input : CloseInput) : Text :=
  (if input.status = .RELEASED then textOf "RELEASED" else textOf "EXPIRED") ++ input.reason

def CloseInput.repeats (input : CloseInput) (reservation : Reservation) : Prop :=
  reservation.status = input.status ∧ reservation.closedIdempotencyKey = some input.idempotencyKey ∧
    reservation.closedRequestFingerprint = some input.fingerprint
deriving Decidable

/-- The lines of a reservation, `ORDER BY product_id`. -/
def Store.linesToClose (s : Store) (reservationId : Uuid) : List ReservationLine :=
  orderBy (fun a b ↦ a.productId ≤ b.productId)
    (s.documents.reservationLines.rows.filter fun l ↦ l.reservationId = reservationId)

/-- One turn of the loop of `close`. -/
def closeLine (reservation : Reservation) (s : Store) (entry : ReservationLine × ℕ) :
    Except Failure Store := do
  let line := entry.1
  let balance ← demand (s.balance? line.productId reservation.locationId)
    .productReservationInsufficientStock
  ensure (line.quantity ≤ balance.reserved) .productReservationInsufficientStock
  let s ← updateBalance s (balance.transferred .RESERVED .AVAILABLE line.quantity)
  postMovement s (reservationMovement reservation line.productId .RESERVED .AVAILABLE line.quantity
    balance.quantity (entry.2 + 1) true) (reservationTracking line.serialNumbers)

def CloseInput.apply (input : CloseInput) (reservation : Reservation) : Reservation :=
  { reservation with
    status := input.status, closedIdempotencyKey := some input.idempotencyKey,
    closedRequestFingerprint := some input.fingerprint }

def updateClosed (s : Store) (input : CloseInput) : Except Failure Store := do
  ensure (∀ r ∈ s.documents.reservations.rows, r.id ≠ input.reservationId →
    r.closedIdempotencyKey ≠ some input.idempotencyKey) .duplicateEntry
  pure { s with documents := { s.documents with
    reservations := s.documents.reservations.update input.reservationId input.apply
      (fun _ ↦ rfl) } }

/-- `close`. -/
def closeReservation (s : Store) (input : CloseInput) : Except Failure Store := do
  let reservation ← demand ((s.documents.reservations.find? input.reservationId).filter fun r ↦
    r.branchId = input.branchId) .productReservationTargetNotFound
  if reservation.status ≠ .ACTIVE then do
    ensure (input.repeats reservation) .productReservationNotActive
    pure s
  else do
    let s ← (s.linesToClose reservation.id).zipIdx.foldlM (closeLine reservation) s
    updateClosed s input

/-- `release`: a duplicate key is a conflict. -/
def releaseReservation (s : Store) (branchId reservationId : Uuid) (idempotencyKey reason : Text) :
    Except Failure Store :=
  (closeReservation s {
    branchId := branchId, reservationId := reservationId, idempotencyKey := idempotencyKey,
    reason := reason, status := .RELEASED }).mapError fun e ↦
      if e = .duplicateEntry then .productReservationIdempotencyConflict else e

/-- `expire:<id>`. -/
def expireKey (uuidText : Uuid → Text) (reservationId : Uuid) : Text :=
  textOf "expire:" ++ uuidText reservationId

/-- The turn of `expireDue` for one reservation that was due when they were listed. -/
def expireReservation (uuidText : Uuid → Text) (s : Store) (branchId reservationId : Uuid) :
    Except Failure Store :=
  closeReservation s {
    branchId := branchId, reservationId := reservationId,
    idempotencyKey := expireKey uuidText reservationId, reason := textOf "Vencimiento automático",
    status := .EXPIRED }

/-! ### What the two transactions do to the reservations -/

def ReservationLine.request (line : ReservationLine) : ReservationLineRequest where
  productId := line.productId
  quantity := line.quantity
  serialNumbers := line.serialNumbers

def Store.reservedLines (s : Store) (reservationId : Uuid) : List ReservationLineRequest :=
  (s.documents.reservationLines.rows.filter fun l ↦ l.reservationId = reservationId).map
    ReservationLine.request

variable {s s' : Store}

variable {reservation : Reservation}

/-- **One turn** adds the line and nothing else to the documents. -/
theorem reserveLine_eq_ok {entry : ReservationLineRequest × ℕ}
    (h : reserveLine reservation s entry = .ok s') :
    s'.documents.reservations = s.documents.reservations ∧
      ∃ line : ReservationLine, line.reservationId = reservation.id ∧ line.request = entry.1 ∧
        s'.documents.reservationLines.rows = s.documents.reservationLines.rows ++ [line] := by
  simp only [reserveLine, insertReservationLine, eq_ok] at h
  obtain ⟨-, -, product, -, balance, -, -, -, s₁, ⟨-, -, lines, hinsert, rfl⟩, s₂, hupdate,
    hpost⟩ := h
  obtain ⟨-, rfl⟩ := updateBalance_eq_ok hupdate
  obtain ⟨p⟩ := postMovement_eq_ok hpost
  rw [ensureBalance_eq] at hinsert
  rw [p.store_eq]
  constructor
  · rw [ensureBalance_eq]
  · refine ⟨_, ?_, ?_, (Table.insert_eq_some hinsert).2⟩
    · rfl
    · rfl

theorem documents_closeLine {entry : ReservationLine × ℕ}
    (h : closeLine reservation s entry = .ok s') : s'.documents = s.documents := by
  simp only [closeLine, eq_ok] at h
  obtain ⟨balance, -, -, -, s₁, hupdate, hpost⟩ := h
  obtain ⟨-, rfl⟩ := updateBalance_eq_ok hupdate
  obtain ⟨p⟩ := postMovement_eq_ok hpost
  rw [p.store_eq]

theorem reserveLines_eq_ok {lines : List ReservationLineRequest} {n : ℕ}
    (h : (lines.zipIdx n).foldlM (reserveLine reservation) s = .ok s') :
    s'.documents.reservations = s.documents.reservations ∧
      ∃ added : List ReservationLine, (∀ line ∈ added, line.reservationId = reservation.id) ∧
        added.map ReservationLine.request = lines ∧
        s'.documents.reservationLines.rows = s.documents.reservationLines.rows ++ added := by
  induction lines generalizing s n with
  | nil =>
    rw [zipIdx_nil, foldlM_nil_eq_ok] at h
    subst h
    exact ⟨rfl, [], by simp, rfl, (append_nil _).symm⟩
  | cons request lines ih =>
    rw [zipIdx_cons, foldlM_cons_eq_ok] at h
    obtain ⟨s₁, hturn, hrest⟩ := h
    obtain ⟨hreservations, line, hid, hrequest, hrows⟩ := reserveLine_eq_ok hturn
    obtain ⟨hreservations', added, hadded, hrequests, hrows'⟩ := ih hrest
    refine ⟨hreservations'.trans hreservations, line :: added, ?_, ?_, ?_⟩
    · exact List.forall_mem_cons.mpr ⟨hid, hadded⟩
    · rw [map_cons, hrequest, hrequests]
    · rw [hrows', hrows, append_assoc, singleton_append]

/-- **A creation** makes a reservation with the lines asked for, or answers with the one of its key.
-/
theorem createReservation_eq_ok {input : ReservationInput}
    (h : createReservation s input = .ok (s', reservation)) :
    (s' = s ∧ s.reservationByKey input.idempotencyKey = some reservation ∧
      reservation.requestFingerprint = input.fingerprint) ∨
    ∃ id, reservation = input.row id ∧
      (∀ r ∈ s.documents.reservations.rows, r.idempotencyKey ≠ input.idempotencyKey) ∧
      s.documents.reservations.insert reservation = some s'.documents.reservations ∧
      ∃ added : List ReservationLine, (∀ line ∈ added, line.reservationId = id) ∧
        added.map ReservationLine.request = canonicalLines input.lines ∧
        s'.documents.reservationLines.rows = s.documents.reservationLines.rows ++ added := by
  rcases onDuplicate_eq_ok h with h | h
  · refine .inr ?_
    simp only [createReservationLocked, insertReservation, eq_ok, Prod.mk.injEq] at h
    obtain ⟨-, -, s₁, ⟨-, hkey, reservations, hinsert, rfl⟩, s₂, hloop, rfl, rfl⟩ := h
    obtain ⟨hreservations, added, hadded, hrequests, hrows⟩ := reserveLines_eq_ok hloop
    refine ⟨_, rfl, hkey, ?_, added, hadded, hrequests, hrows⟩
    rw [hinsert, hreservations]
  · simp only [replayReservation, eq_ok, Prod.mk.injEq] at h
    obtain ⟨stored, hstored, _, ⟨-, hfingerprint, rfl⟩, rfl, rfl⟩ := h
    exact .inl ⟨rfl, hstored, hfingerprint⟩

/-- **A closing** repeats the one that has been made, or closes an active reservation. -/
theorem closeReservation_eq_ok {input : CloseInput} (h : closeReservation s input = .ok s') :
    ∃ reservation, s.documents.reservations.find? input.reservationId = some reservation ∧
      reservation.branchId = input.branchId ∧
      ((reservation.status ≠ .ACTIVE ∧ input.repeats reservation ∧ s' = s) ∨
        (reservation.status = .ACTIVE ∧
          (∀ r ∈ s.documents.reservations.rows, r.id ≠ input.reservationId →
            r.closedIdempotencyKey ≠ some input.idempotencyKey) ∧
          s'.documents = { s.documents with
            reservations := s.documents.reservations.update input.reservationId input.apply
              (fun _ ↦ rfl) })) := by
  obtain ⟨reservation, hfound, h⟩ := bind_eq_ok.mp h
  rw [demand_eq_ok, Option.filter_eq_some_iff, decide_eq_true_eq] at hfound
  obtain ⟨hfound, hbranch⟩ := hfound
  refine ⟨reservation, hfound, hbranch, ?_⟩
  split at h
  case isTrue hclosed =>
    simp only [eq_ok] at h
    obtain ⟨-, hrepeats, rfl⟩ := h
    exact .inl ⟨hclosed, hrepeats, rfl⟩
  case isFalse hactive =>
    simp only [updateClosed, eq_ok] at h
    obtain ⟨s₁, hloop, -, hkey, rfl⟩ := h
    have hkeeps : s₁.documents = s.documents :=
      foldlM_induct (P := fun _ (t : Store) ↦ t.documents = s.documents)
        (fun _ _ _ _ ht hturn ↦ (documents_closeLine hturn).trans ht) rfl hloop
    rw [hkeeps] at hkey ⊢
    exact .inr ⟨not_not.mp hactive, hkey, rfl⟩

end UInventario
