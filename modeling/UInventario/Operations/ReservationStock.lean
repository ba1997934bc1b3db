import UInventario.Operations.Reservations

/-!
# What reservations do to the stock

A creation takes what it reserves from what is available at its location, and a closing gives it
back. Both are shown line by line as writes to the stock, and what they change in a bucket is then
the sum over the lines (`linesMoved`). The lines of one reservation are of different products
(`LinesDistinct`): the table has a key for it.
-/

namespace UInventario

open Outcome List

/-- **What lines move in a bucket**, over the pairs of product and location that `w` selects. -/
def linesMoved (change : ℤ → Buckets) (state : StockState) (w : Uuid → Uuid → Bool)
    (locationId : Uuid) (lines : List ReservationLineRequest) : ℤ :=
  (lines.map fun l ↦ if w l.productId locationId then (change l.quantity).state state else 0).sum

variable {lines : List ReservationLineRequest}

theorem linesMoved_perm {change : ℤ → Buckets} {state : StockState} {w : Uuid → Uuid → Bool}
    {locationId : Uuid} {lines' : List ReservationLineRequest} (h : lines.Perm lines') :
    linesMoved change state w locationId lines = linesMoved change state w locationId lines' :=
  (h.map _).sum_eq

section

variable (change : ℤ → Buckets) (state : StockState) (w : Uuid → Uuid → Bool) (locationId : Uuid)

@[simp] theorem linesMoved_nil :
    linesMoved change state w locationId [] = 0 := rfl

@[simp] theorem linesMoved_cons (line : ReservationLineRequest)
    (lines : List ReservationLineRequest) :
    linesMoved change state w locationId (line :: lines) =
      (if w line.productId locationId then (change line.quantity).state state else 0) +
        linesMoved change state w locationId lines := rfl

end

section

variable (fromState toState state : StockState) (w : Uuid → Uuid → Bool) (locationId : Uuid)
  (lines : List ReservationLineRequest)

theorem linesMoved_back :
    linesMoved (.moved fromState toState) state w locationId lines +
      linesMoved (.moved toState fromState) state w locationId lines = 0 := by
  induction lines with
  | nil => rfl
  | cons line lines ih =>
    rw [linesMoved_cons, linesMoved_cons, Buckets.state_moved, Buckets.state_moved]
    split
    · omega
    · omega

theorem linesMoved_away :
    linesMoved (.moved fromState toState) state w locationId lines +
      linesMoved (fun q ↦ .single toState (-q)) state w locationId lines =
    linesMoved (fun q ↦ .single fromState (-q)) state w locationId lines := by
  have hneg : ∀ (x : StockState) (q : ℤ),
      (Buckets.single x (-q)).state state = -(Buckets.single x q).state state := by
    intro x q
    cases x <;> cases state <;> simp [Buckets.single, Buckets.state]
  induction lines with
  | nil => rfl
  | cons line lines ih =>
    rw [linesMoved_cons, linesMoved_cons, linesMoved_cons, Buckets.state_moved]
    simp only [hneg]
    split
    · omega
    · omega

end

variable {s s' : Store}

/-! ### Creation -/

variable {reservation : Reservation} {entry : ReservationLineRequest × ℕ} {input : ReservationInput}
  {n : ℕ}

/-- **One turn of a creation.** -/
theorem reserveLine_writes (h : reserveLine reservation s entry = .ok s') :
    ∃ before after n tracking,
      StockWrites s [.opened entry.1.productId reservation.locationId, .commit before after,
        .balance entry.1.productId reservation.locationId
          (.moved .AVAILABLE .RESERVED entry.1.quantity), .post n tracking] s' := by
  simp only [reserveLine, insertReservationLine, eq_ok] at h
  obtain ⟨-, -, product, -, balance, hbalance, -, -, s₁, ⟨-, -, lines, -, rfl⟩, s₂, hupdate,
    hpost⟩ := h
  have hopened := (StockWrites.done (s := s)).opened entry.1.productId reservation.locationId
  have hcommitted := hopened.commit
    { (ensureBalance s entry.1.productId reservation.locationId).documents.toCommitments with
      reservationLines := lines }
  have hmoved := hcommitted.updated _ hbalance hupdate rfl (balance.change_transferred _ _ _)
  exact ⟨_, _, _, _, hmoved.posted hpost⟩

theorem reserveLine_held (h : reserveLine reservation s entry = .ok s') (state : StockState)
    (w : Uuid → Uuid → Bool) :
    s'.held state w = s.held state w +
      if w entry.1.productId reservation.locationId then
        (Buckets.moved .AVAILABLE .RESERVED entry.1.quantity).state state else 0 := by
  obtain ⟨before, after, n, tracking, hwrites⟩ := reserveLine_writes h
  rw [hwrites.held state w]
  simp [StockWrite.held]

theorem reserveLines_held
    (h : (lines.zipIdx n).foldlM (reserveLine reservation) s = .ok s') (state : StockState)
    (w : Uuid → Uuid → Bool) : s'.held state w = s.held state w +
      linesMoved (.moved .AVAILABLE .RESERVED) state w reservation.locationId lines := by
  induction lines generalizing s n with
  | nil =>
    obtain rfl := foldlM_nil_eq_ok.mp h
    simp
  | cons line lines ih =>
    rw [zipIdx_cons] at h
    obtain ⟨s₁, hturn, hrest⟩ := foldlM_cons_eq_ok.mp h
    rw [ih hrest, reserveLine_held hturn, linesMoved_cons]
    ring

def LinesDistinct (s : Store) : Prop :=
  s.documents.reservationLines.rows.Pairwise fun a b ↦
    ¬(a.reservationId = b.reservationId ∧ a.productId = b.productId)

theorem LinesDistinct.products (h : LinesDistinct s) (reservationId : Uuid) :
    ((s.reservedLines reservationId).map ReservationLineRequest.productId).Nodup := by
  rw [Store.reservedLines, map_map, List.Nodup, pairwise_map]
  refine (h.filter _).imp_of_mem fun ha hb hne heq ↦ hne ⟨?_, heq⟩
  have ha := (List.mem_filter.mp ha).2
  have hb := (List.mem_filter.mp hb).2
  rw [decide_eq_true_eq] at ha hb
  rw [ha, hb]

theorem reserveLine_distinct (hs : LinesDistinct s) (h : reserveLine reservation s entry = .ok s') :
    LinesDistinct s' := by
  simp only [reserveLine, insertReservationLine, eq_ok] at h
  obtain ⟨-, -, product, -, balance, -, -, -, s₁, ⟨-, hkey, lines, hinsert, rfl⟩, s₂, hupdate,
    hpost⟩ := h
  obtain ⟨-, rfl⟩ := updateBalance_eq_ok hupdate
  obtain ⟨p⟩ := postMovement_eq_ok hpost
  have hrows := (Table.insert_eq_some hinsert).2
  rw [ensureBalance_eq] at hrows hkey
  have hposted : s'.documents.reservationLines = lines :=
    congrArg (fun t : Store ↦ t.documents.reservationLines) p.store_eq
  rw [LinesDistinct, hposted, hrows, pairwise_append]
  refine ⟨hs, pairwise_singleton _ _, fun a ha b hb ↦ ?_⟩
  rw [mem_singleton] at hb
  subst hb
  exact hkey a ha

/-- **A creation** moves its lines, or nothing. -/
theorem createReservation_held (h : createReservation s input = .ok (s', reservation)) :
    s' = s ∨ ∀ state w, s'.held state w = s.held state w +
      linesMoved (.moved .AVAILABLE .RESERVED) state w input.locationId
        (canonicalLines input.lines) := by
  rcases onDuplicate_eq_ok h with h | h
  · refine .inr fun state w ↦ ?_
    simp only [createReservationLocked, insertReservation, eq_ok, Prod.mk.injEq] at h
    obtain ⟨-, -, s₁, ⟨-, -, reservations, -, rfl⟩, s₂, hloop, rfl, -⟩ := h
    exact reserveLines_held hloop state w
  · simp only [replayReservation, eq_ok, Prod.mk.injEq] at h
    obtain ⟨stored, -, _, -, rfl, -⟩ := h
    exact .inl rfl

theorem createReservation_distinct (hs : LinesDistinct s)
    (h : createReservation s input = .ok (s', reservation)) :
    LinesDistinct s' := by
  rcases onDuplicate_eq_ok h with h | h
  · simp only [createReservationLocked, insertReservation, eq_ok, Prod.mk.injEq] at h
    obtain ⟨-, -, s₁, ⟨-, -, reservations, -, rfl⟩, s₂, hloop, rfl, -⟩ := h
    have hstart : LinesDistinct
        { s with documents := { s.documents with reservations := reservations } } := hs
    exact foldlM_induct (P := fun _ (t : Store) ↦ LinesDistinct t)
      (fun _ _ _ _ ht hturn ↦ reserveLine_distinct ht hturn) hstart hloop
  · simp only [replayReservation, eq_ok, Prod.mk.injEq] at h
    obtain ⟨stored, -, _, -, rfl, -⟩ := h
    exact hs

/-! ### Closing -/

section

variable {entry : ReservationLine × ℕ} (h : closeLine reservation s entry = .ok s')
include h

/-- **One turn of a closing.** -/
theorem closeLine_writes :
    ∃ n tracking,
      StockWrites s [.balance entry.1.productId reservation.locationId
        (.moved .RESERVED .AVAILABLE entry.1.quantity), .post n tracking] s' := by
  simp only [closeLine, eq_ok] at h
  obtain ⟨balance, hbalance, -, -, s₁, hupdate, hpost⟩ := h
  have hmoved := (StockWrites.done (s := s)).updated _ hbalance hupdate rfl
    (balance.change_transferred _ _ _)
  exact ⟨_, _, hmoved.posted hpost⟩

theorem closeLine_held (state : StockState) (w : Uuid → Uuid → Bool) :
    s'.held state w = s.held state w +
      if w entry.1.productId reservation.locationId then
        (Buckets.moved .RESERVED .AVAILABLE entry.1.quantity).state state else 0 := by
  obtain ⟨n, tracking, hwrites⟩ := closeLine_writes h
  rw [hwrites.held state w]
  simp [StockWrite.held]

end

theorem closeLines_held {lines : List ReservationLine}
    (h : (lines.zipIdx n).foldlM (closeLine reservation) s = .ok s') (state : StockState)
    (w : Uuid → Uuid → Bool) : s'.held state w = s.held state w +
      linesMoved (.moved .RESERVED .AVAILABLE) state w reservation.locationId
        (lines.map ReservationLine.request) := by
  induction lines generalizing s n with
  | nil =>
    obtain rfl := foldlM_nil_eq_ok.mp h
    simp
  | cons line lines ih =>
    rw [zipIdx_cons] at h
    obtain ⟨s₁, hturn, hrest⟩ := foldlM_cons_eq_ok.mp h
    rw [ih hrest, closeLine_held hturn, show (line :: lines).map ReservationLine.request =
      line.request :: lines.map ReservationLine.request from rfl, linesMoved_cons]
    rw [add_assoc]
    rfl

theorem linesToClose_perm (s : Store) (reservationId : Uuid) :
    ((s.linesToClose reservationId).map ReservationLine.request).Perm
      (s.reservedLines reservationId) :=
  (orderBy_perm _ _).map _

/-- **A closing** gives back what the reservation keeps, or repeats the one that has been made. -/
theorem closeReservation_held {input : CloseInput} (h : closeReservation s input = .ok s') :
    ∃ reservation, s.documents.reservations.find? input.reservationId = some reservation ∧
      if reservation.status = .ACTIVE then ∀ state w, s'.held state w = s.held state w +
        linesMoved (.moved .RESERVED .AVAILABLE) state w reservation.locationId
          (s.reservedLines input.reservationId)
      else s' = s := by
  obtain ⟨reservation, hfound, h⟩ := bind_eq_ok.mp h
  rw [demand_eq_ok, Option.filter_eq_some_iff] at hfound
  have hid : reservation.id = input.reservationId := Table.key_of_find? hfound.1
  refine ⟨reservation, hfound.1, ?_⟩
  split at h
  case isTrue hclosed =>
    simp only [eq_ok] at h
    obtain ⟨-, -, rfl⟩ := h
    rw [if_neg hclosed]
  case isFalse hactive =>
    simp only [updateClosed, eq_ok] at h
    obtain ⟨s₁, hloop, -, -, rfl⟩ := h
    rw [if_pos (not_not.mp hactive)]
    intro state w
    show s₁.held state w = _
    rw [closeLines_held hloop, linesMoved_perm (linesToClose_perm s _), hid]

end UInventario
