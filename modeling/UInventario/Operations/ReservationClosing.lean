import UInventario.Inventory.TransitionPostings
import UInventario.Operations.Reservations

/-!
# When a reservation can be closed

`close` takes the lines of a reservation one after the other and is refused as a whole when one of
them is refused. `Store.Closable` lists what it looks at: reserved stock and serial numbers, the
books of the products, the journal and its keys. It is enough (`closeReservation_closable`): the
posting of one line leaves what the others need.
-/

namespace UInventario

open Outcome List

/-! ### Conditions -/

/-- **A line can be closed**: what it reserves is there. -/
structure Store.LineCloses (s : Store) (locationId : Uuid) (line : ReservationLine) : Prop where
  pos : 0 < line.quantity
  reserved : ∃ b ∈ s.balance? line.productId locationId, b.Valid ∧ line.quantity ≤ b.reserved
  product : ∃ product ∈ s.products.find? line.productId, s.BooksAgree product ∧
    s.SerialsStand product locationId .RESERVED line.quantity line.serialNumbers

@[mk_iff]
structure Store.LinesClose (s : Store) (r : Reservation) (lines : List ReservationLine) (n : ℕ) :
    Prop where
  operational : s.operationsBlocked = false
  each : ∀ line ∈ lines, s.LineCloses r.locationId line
  products : (lines.map ReservationLine.productId).Nodup
  keys : ∀ m ∈ s.movements.rows, ∀ k < lines.length,
    m.idempotencyKey ≠ .reservation r.id (n + k + 1) true
  draws : s.Draws lines.length (lines.map fun l ↦ (l.quantity / QUANTITY_SCALE).toNat).sum

/-- **The reservation can be closed** under a key. -/
@[mk_iff]
structure Store.Closable (s : Store) (r : Reservation) (idempotencyKey : Text) : Prop where
  lines : s.LinesClose r (s.linesToClose r.id) 0
  key : ∀ r' ∈ s.documents.reservations.rows, r'.id ≠ r.id →
    r'.closedIdempotencyKey ≠ some idempotencyKey

/-- `units(balance.reserved_quantity) >= quantity`, for each line. -/
def Store.StockPresent (s : Store) (r : Reservation) : Prop :=
  ∀ line ∈ s.linesToClose r.id, ∃ b ∈ s.balance? line.productId r.locationId,
    line.quantity ≤ b.reserved
deriving Decidable

/-! ### The conditions can be checked -/

instance (s : Store) (locationId : Uuid) (line : ReservationLine) :
    Decidable (s.LineCloses locationId line) :=
  decidable_of_iff
    (0 < line.quantity ∧
      (∃ b ∈ s.balance? line.productId locationId, b.Valid ∧ line.quantity ≤ b.reserved) ∧
      ∃ product ∈ s.products.find? line.productId, s.BooksAgree product ∧
        s.SerialsStand product locationId .RESERVED line.quantity line.serialNumbers)
    ⟨fun ⟨h₁, h₂, h₃⟩ ↦ ⟨h₁, h₂, h₃⟩, fun ⟨h₁, h₂, h₃⟩ ↦ ⟨h₁, h₂, h₃⟩⟩

instance (s : Store) (movements events : ℕ) : Decidable (s.Draws movements events) :=
  have : Decidable s.Linked := decidable_of_iff' _ s.linked_iff
  decidable_of_iff' _ (s.draws_iff movements events)

instance (s : Store) (r : Reservation) (lines : List ReservationLine) (n : ℕ) :
    Decidable (s.LinesClose r lines n) :=
  decidable_of_iff' _ (s.linesClose_iff r lines n)

instance (s : Store) (r : Reservation) (idempotencyKey : Text) :
    Decidable (s.Closable r idempotencyKey) :=
  decidable_of_iff' _ (s.closable_iff r idempotencyKey)

/-! ### One line -/

variable {s : Store} {r : Reservation} {line : ReservationLine} {lines : List ReservationLine}
  {n : ℕ}

theorem Balance.transferred_valid {b : Balance} {quantity : ℤ} (hb : b.Valid) (hpos : 0 < quantity)
    (hreserved : quantity ≤ b.reserved) :
    (b.transferred .RESERVED .AVAILABLE quantity).Valid := by
  have hvalid := Balance.valid_iff.mp hb
  refine Balance.valid_iff.mpr ?_
  simp only [Balance.transferred, Buckets.moved, Buckets.single] at hvalid ⊢
  omega

theorem closing_isTransition (resultingQuantity : ℤ) (hpos : 0 < line.quantity) :
    (reservationMovement r line.productId .RESERVED .AVAILABLE line.quantity resultingQuantity
      (n + 1) true).IsTransition .RESERVED .AVAILABLE line.quantity :=
  ⟨rfl, rfl, rfl, rfl, nofun, rfl, hpos, rfl, rfl, rfl, rfl, rfl⟩

theorem Store.Draws.balances {movements events : ℕ} (h : s.Draws movements events)
    (balances : Table Balance) : ({ s with balances := balances } : Store).Draws movements events :=
  ⟨⟨h.linked.allocations, h.linked.movementLots⟩, h.movements, h.events⟩

theorem Store.BooksAgree.balances {product : Product} (h : s.BooksAgree product)
    (balances : Table Balance) :
    ({ s with balances := balances } : Store).BooksAgree product := by
  have hmethod : ({ s with balances := balances } : Store).method = s.method :=
    congrArg ValuationPolicy.method (loadInventoryValuationPolicy_congr rfl)
  exact ⟨h.quantity_nonneg, h.value_nonneg, h.layers, fun hspecific ↦ h.lots (hmethod ▸ hspecific)⟩

/-- **One turn of the loop.** The line is closed, and the others can still be. -/
theorem closeLine_closes (h : s.LinesClose r (line :: lines) n) :
    ∃ s', closeLine r s (line, n) = .ok s' ∧ s'.LinesClose r lines (n + 1) := by
  obtain ⟨hpos, ⟨b, hb, hvalid, hreserved⟩, product, hproduct, hbooks, hserials⟩ :=
    h.each line mem_cons_self
  have hproductId : product.id = line.productId := Table.key_of_find? hproduct
  have hdraws := h.draws
  rw [length_cons, map_cons, sum_cons] at hdraws
  obtain ⟨hother, hnodup⟩ := List.nodup_cons.mp h.products
  -- the balance
  have hbkey : (b.productId, b.locationId) = (line.productId, r.locationId) := Table.key_of_find? hb
  obtain ⟨balances, hupdate⟩ : ∃ balances,
      updateBalance s (b.transferred .RESERVED .AVAILABLE line.quantity) =
        .ok { s with balances := balances } :=
    ⟨_, bind_eq_ok.mpr ⟨⟨⟩, ensure_eq_ok.mpr (Balance.transferred_valid hvalid hpos hreserved),
      rfl⟩⟩
  -- the movement
  have hn := @closing_isTransition r line n b.quantity hpos
  obtain ⟨t, ht⟩ := postMovement_transition (s := { s with balances := balances }) hn
    hvalid.quantity_nonneg
    (fun m hm ↦ h.keys m hm 0 (Nat.succ_pos _)) h.operational
    ((hdraws.balances balances).mono_events (Nat.le_add_right _ _))
    ⟨hproductId ▸ hproduct, hbooks.balances balances, hserials⟩ hproductId
  have hclose : closeLine r s (line, n) = .ok t :=
    bind_eq_ok.mpr ⟨b, demand_eq_ok.mpr hb, bind_eq_ok.mpr ⟨⟨⟩, ensure_eq_ok.mpr hreserved,
      bind_eq_ok.mpr ⟨_, hupdate, ht⟩⟩⟩
  obtain ⟨p⟩ := postMovement_eq_ok ht
  refine ⟨t, hclose, ?_, ?_, hnodup, ?_, ?_⟩
  · have hblocked : t.operationsBlocked = s.operationsBlocked :=
      (congrArg Store.operationsBlocked p.store_eq :)
    rw [hblocked]
    exact h.operational
  · intro other hmem
    have hne : other.productId ≠ line.productId := fun heq ↦
      hother (List.mem_map.mpr ⟨other, hmem, heq⟩)
    obtain ⟨hpos', ⟨b', hb', hvalid', hreserved'⟩, product', hproduct', hbooks', hserials'⟩ :=
      h.each other (mem_cons_of_mem _ hmem)
    have hproductId' : product'.id = other.productId := Table.key_of_find? hproduct'
    have hready : t.Ready product' r.locationId .RESERVED other.quantity other.serialNumbers :=
      p.ready_of_ne hn (hproductId' ▸ hne)
        ⟨hproductId' ▸ hproduct', hbooks'.balances balances, hserials'⟩
    refine ⟨hpos', ⟨b', ?_, hvalid', hreserved'⟩, product', ?_, hready.books, hready.serials⟩
    · have hbalance : t.balance? other.productId r.locationId =
          s.balance? other.productId r.locationId := by
        have hposted : t.balances = balances := (congrArg Store.balances p.store_eq :)
        rw [Store.balance?, hposted]
        refine balance?_updateBalance_of_ne hupdate fun heq ↦ hne ?_
        exact (Prod.mk.inj (heq.trans hbkey)).1
      rw [hbalance]
      exact hb'
    · rw [← hproductId']
      exact hready.known
  · intro m hm k hk
    rw [p.journal, mem_append, mem_singleton] at hm
    rcases hm with hm | rfl
    · have hkey := h.keys m hm (k + 1) (Nat.succ_lt_succ hk)
      rwa [show n + 1 + k + 1 = n + (k + 1) + 1 by omega]
    · have hkey : p.row.idempotencyKey = .reservation r.id (n + 1) true :=
        (congrArg Movement.idempotencyKey p.static_row :)
      rw [hkey]
      intro heq
      have hline : n + 1 = n + 1 + k + 1 := (MovementKey.reservation.inj heq).2.1
      omega
  · exact p.draws_transition hn (hdraws.balances balances)

/-- **The loop** goes through. -/
theorem closeLines_closes (h : s.LinesClose r lines n) :
    ∃ s', (lines.zipIdx n).foldlM (closeLine r) s = .ok s' := by
  induction lines generalizing s n with
  | nil => exact ⟨s, rfl⟩
  | cons line lines ih =>
    obtain ⟨s₁, hturn, hrest⟩ := closeLine_closes h
    obtain ⟨s', hloop⟩ := ih hrest
    exact ⟨s', foldlM_cons_eq_ok.mpr ⟨s₁, hturn, hloop⟩⟩

/-- **A reservation that can be closed** is closed. -/
theorem closeReservation_closable {input : CloseInput}
    (hfound : s.documents.reservations.find? input.reservationId = some r)
    (hbranch : r.branchId = input.branchId) (hactive : r.status = .ACTIVE)
    (h : s.Closable r input.idempotencyKey) : ∃ s', closeReservation s input = .ok s' := by
  have hid : r.id = input.reservationId := Table.key_of_find? hfound
  obtain ⟨t, hloop⟩ := closeLines_closes h.lines
  have hdocuments : t.documents = s.documents :=
    foldlM_induct (P := fun _ (t : Store) ↦ t.documents = s.documents)
      (fun _ _ _ _ ht hturn ↦ (documents_closeLine hturn).trans ht) rfl hloop
  have hkey : ∀ r' ∈ t.documents.reservations.rows, r'.id ≠ input.reservationId →
      r'.closedIdempotencyKey ≠ some input.idempotencyKey := by
    rw [hdocuments, ← hid]
    exact h.key
  obtain ⟨s', hclosed⟩ : ∃ s', updateClosed t input = .ok s' :=
    ⟨_, bind_eq_ok.mpr ⟨⟨⟩, ensure_eq_ok.mpr hkey, rfl⟩⟩
  refine ⟨s', bind_eq_ok.mpr ⟨r, demand_eq_ok.mpr (Option.filter_eq_some_iff.mpr
    ⟨hfound, decide_eq_true hbranch⟩), ?_⟩⟩
  rw [if_neg (not_not.mpr hactive)]
  exact bind_eq_ok.mpr ⟨t, hloop, hclosed⟩

end UInventario
