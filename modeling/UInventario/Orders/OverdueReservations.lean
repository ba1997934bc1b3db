import UInventario.Orders.ReservationDesk

/-!
# Reservations that are due

Over every run of the desk, a reservation leaves `ACTIVE` at most once, its lines move the stock as
its status says, and it is consumed exactly when one sale names it (`ReservationLifecycle`).

An `expireDue` is to close what is due and has its stock, each reservation by itself (`ClosesDue`).
The loop catches one failure only, that of a reservation that is not active any more. So a sweep
does its work in the runs in which each reservation is closed already when its turn comes, or can be
closed (`CanTurn`), as the stock, the journal and the keys say. In `missingStock` the stock of one
has been moved away by hand, and a later one stays as it is.
-/

namespace UInventario.Orders

open Outcome List

variable (commit : Pos.Cart.Persist)

/-! ### Statements -/

/-- **The lifecycle of the reservations** after a run from `d₀`. -/
structure ReservationLifecycle (d₀ : Desk) (events : List DeskEvent) : Prop where
  /-- A reservation that is closed is never written again. -/
  closed_once : ∀ id r, (run (step commit) d₀ events).reservation id = some r → r.status ≠ .ACTIVE →
    ∀ later : List DeskEvent, (run (step commit) d₀ (events ++ later)).reservation id = some r
  /-- What the events about a reservation have moved in all is what it tells. -/
  explained : ∀ id state w, effect commit id (fun s ↦ s.held state w) d₀ events =
    told (run (step commit) d₀ events).store.stock id state w
  /-- A reservation is consumed through its sale. -/
  consumed_iff : ∀ r ∈ (run (step commit) d₀ events).store.stock.documents.reservations.rows,
    r.status = .CONSUMED ↔ ∃ sale ∈ (run (step commit) d₀ events).store.sales.rows,
      sale.content.reservationId = some r.id
  sold_once : ∀ x ∈ (run (step commit) d₀ events).store.sales.rows,
    ∀ y ∈ (run (step commit) d₀ events).store.sales.rows, ∀ id,
      x.content.reservationId = some id → y.content.reservationId = some id → x = y

/-- **A sweep that has ended** has left no due reservation active with its stock there. -/
def ClosesDue (d : Desk) : Prop :=
  ∀ sweep ∈ d.sweeps, sweep.ended → ∀ id ∈ sweep.due, ∀ r ∈ d.reservation id,
    d.store.stock.StockPresent r → r.status ≠ .ACTIVE
deriving Decidable

/-- **The condition.** The reservation whose turn it is, is closed already or can be closed. -/
def CanTurn (d : Desk) : DeskEvent → Prop
  | .turn n => ∀ sweep ∈ d.sweeps[n]?, ∀ id ∈ sweep.next, ∀ r ∈ d.reservation id,
      r.status = .ACTIVE → d.store.stock.Closable r (expireKey d.store.env.uuidText id)
  | _ => True

instance (d : Desk) : ∀ event, Decidable (CanTurn d event)
  | .turn n => inferInstanceAs (Decidable (∀ sweep ∈ d.sweeps[n]?, ∀ id ∈ sweep.next,
      ∀ r ∈ d.reservation id,
        r.status = .ACTIVE → d.store.stock.Closable r (expireKey d.store.env.uuidText id)))
  | .reserve _ | .release .. | .sell .. | .expireDue _ | .«elsewhere» _ => isTrue trivial

/-! ### Sweeps -/

/-- **A sweep under way**: what was due is of its branch, and what has had its turn is closed. -/
structure SweepKept (d : Desk) (sweep : Sweep) : Prop where
  listed : ∀ id ∈ sweep.due, ∃ r, d.reservation id = some r ∧ r.branchId = sweep.branchId
  passed : ∀ id ∈ sweep.due.take sweep.turns, ∃ r, d.reservation id = some r ∧ r.status ≠ .ACTIVE
  goes : sweep.stopped = false

structure DeskKept (d : Desk) : Prop where
  books : BooksKept d.store
  sweeps : ∀ sweep ∈ d.sweeps, SweepKept d sweep

variable {commit} {d : Desk} {sweep : Sweep} {s : UInventario.Store}

theorem SweepKept.later {about : Uuid → Prop} {store : Store}
    (h : SweepKept d sweep) (htransacts : Transacts about d.store store) (sweeps : List Sweep) :
    SweepKept { store := store, sweeps := sweeps } sweep where
  listed := fun id hid ↦ by
    obtain ⟨r, hr, hbranch⟩ := h.listed id hid
    obtain ⟨r', hr', hsame⟩ := htransacts.branches id r hr
    exact ⟨r', hr', hsame.trans hbranch⟩
  passed := fun id hid ↦ by
    obtain ⟨r, hr, hclosed⟩ := h.passed id hid
    obtain ⟨r', hr', hgoes⟩ := htransacts.continues.reservations id r hr
    rw [hgoes.closed hclosed] at hr'
    exact ⟨r, hr', hclosed⟩
  goes := h.goes

theorem sweepKept_new (d : Desk) (branchId : Uuid) (sweeps : List Sweep) :
    SweepKept { d with sweeps := sweeps } {
      branchId := branchId, due := d.store.dueReservations branchId, turns := 0,
      stopped := false } where
  listed := fun id hid ↦ by
    obtain ⟨r, hr, rfl⟩ := mem_map.mp hid
    obtain ⟨hmem, hdue⟩ := mem_filter.mp (mem_orderBy.mp hr)
    simp only [Bool.and_eq_true, decide_eq_true_eq] at hdue
    exact ⟨r, Table.find?_key_of_mem hmem, hdue.1.1⟩
  passed := fun id hid ↦ by
    cases hid
  goes := rfl

theorem SweepKept.turned {id : Uuid} (h : SweepKept d sweep)
    (hnext : sweep.next = some id) {r : Reservation} (hr : d.reservation id = some r)
    (hclosed : r.status ≠ .ACTIVE) : SweepKept d { sweep with turns := sweep.turns + 1 } where
  listed := h.listed
  passed := fun id' hid' ↦ by
    rw [Sweep.next, h.goes, if_neg Bool.false_ne_true] at hnext
    rw [take_add_one, hnext, Option.toList_some, mem_append, mem_singleton] at hid'
    rcases hid' with hid' | rfl
    · exact h.passed id' hid'
    · exact ⟨r, hr, hclosed⟩
  goes := h.goes

theorem closed_of_expireReservation {s' : UInventario.Store} {uuidText : Uuid → Text}
    {branchId id : Uuid} (h : expireReservation uuidText s branchId id = .ok s') :
    ∃ r, s'.documents.reservations.find? id = some r ∧ r.status ≠ .ACTIVE := by
  obtain ⟨r, hfound, -, ⟨hclosed, -, rfl⟩ | ⟨-, -, hdocuments⟩⟩ := closeReservation_eq_ok h
  · exact ⟨r, hfound, hclosed⟩
  · rw [hdocuments]
    exact ⟨_, find?_update_reservation (CloseInput.apply _) (fun _ ↦ rfl) hfound, nofun⟩

theorem expireReservation_of_closed {uuidText : Uuid → Text}
    {branchId id : Uuid} {r : Reservation} (hr : s.documents.reservations.find? id = some r)
    (hbranch : r.branchId = branchId) (hclosed : r.status ≠ .ACTIVE) :
    expireReservation uuidText s branchId id = .ok s ∨
      expireReservation uuidText s branchId id = .error .productReservationNotActive := by
  have hfound : demand ((s.documents.reservations.find? id).filter fun r ↦ r.branchId = branchId)
      Failure.productReservationTargetNotFound = .ok r :=
    demand_eq_ok.mpr (Option.filter_eq_some_iff.mpr ⟨hr, decide_eq_true hbranch⟩)
  rw [expireReservation, closeReservation, hfound, ok_bind, if_pos hclosed, ensure]
  split
  · exact .inl rfl
  · exact .inr rfl

/-- **The turn.** When its condition is met, the sweep goes on and the reservation is closed. -/
theorem takeTurn_kept (h : DeskKept d) {n : ℕ} (hcan : CanTurn d (.turn n))
    (hsweep : d.sweeps[n]? = some sweep) {id : Uuid} (hnext : sweep.next = some id) :
    DeskKept (takeTurn d n sweep id) := by
  have hkept := h.sweeps sweep (mem_of_getElem? hsweep)
  have hmem : id ∈ sweep.due := by
    rw [Sweep.next, hkept.goes, if_neg Bool.false_ne_true] at hnext
    exact mem_of_getElem? hnext
  obtain ⟨r, hr, hbranch⟩ := hkept.listed id hmem
  -- what is left of the sweeps, once the reservation is closed
  have hset : ∀ {store : Store} {about : Uuid → Prop}, Transacts about d.store store →
      (∃ r, store.stock.documents.reservations.find? id = some r ∧ r.status ≠ .ACTIVE) →
      DeskKept {
        store := store, sweeps := d.sweeps.set n { sweep with turns := sweep.turns + 1 } } := by
    intro store about htransacts hclosed
    obtain ⟨r', hr', hclosed⟩ := hclosed
    refine ⟨htransacts.kept, fun x hx ↦ ?_⟩
    rcases mem_or_eq_of_mem_set hx with hx | rfl
    · exact (h.sweeps x hx).later htransacts _
    · exact (hkept.later htransacts _).turned hnext hr' hclosed
  by_cases hactive : r.status = .ACTIVE
  · obtain ⟨stock, hok⟩ : ∃ stock,
        expireReservation d.store.env.uuidText d.store.stock sweep.branchId id = .ok stock :=
      closeReservation_closable hr hbranch hactive (hcan sweep hsweep id hnext r hr hactive)
    rw [takeTurn, hok]
    exact hset (closeReservation_transacts h.books (.inr rfl) hok)
      (closed_of_expireReservation hok)
  · rw [takeTurn]
    rcases @expireReservation_of_closed d.store.stock d.store.env.uuidText sweep.branchId id r hr
      hbranch hactive with hok | herror
    · rw [hok]
      exact hset (.refl h.books fun _ ↦ False) ⟨r, hr, hactive⟩
    · rw [herror]
      dsimp only
      rw [if_pos rfl]
      exact hset (.refl h.books fun _ ↦ False) ⟨r, hr, hactive⟩

/-- **The step lemma.** -/
theorem step_kept (h : DeskKept d) {event : DeskEvent} (hcan : CanTurn d event) {d' : Desk}
    (hstep : step commit d event = .ok d') : DeskKept d' := by
  have htransacts : Transacts (event.about commit d) d.store (exec (step commit) d event).store :=
    exec_transacts h.books event
  rw [exec_of_ok hstep] at htransacts
  have hsame : d'.sweeps = d.sweeps → DeskKept d' := by
    intro hsweeps
    refine ⟨htransacts.kept, fun sweep hsweep ↦ ?_⟩
    rw [hsweeps] at hsweep
    exact (h.sweeps sweep hsweep).later htransacts d'.sweeps
  cases event with
  | reserve request =>
    simp only [step, eq_ok] at hstep
    obtain ⟨_, -, rfl⟩ := hstep
    exact hsame rfl
  | release branchId reservationId idempotencyKey reason =>
    simp only [step, eq_ok] at hstep
    obtain ⟨_, -, rfl⟩ := hstep
    exact hsame rfl
  | sell idempotencyKey fingerprint content =>
    simp only [step, eq_ok] at hstep
    obtain ⟨_, -, rfl⟩ := hstep
    exact hsame rfl
  | expireDue branchId =>
    cases hstep
    refine ⟨htransacts.kept, fun sweep hsweep ↦ ?_⟩
    rcases mem_append.mp hsweep with hsweep | hsweep
    · exact (h.sweeps sweep hsweep).later htransacts _
    · obtain rfl := mem_singleton.mp hsweep
      exact sweepKept_new d branchId _
  | turn n =>
    simp only [step, eq_ok] at hstep
    obtain ⟨sweep, hsweep, id, hnext, rfl⟩ := hstep
    exact takeTurn_kept h hcan hsweep hnext
  | «elsewhere» change =>
    simp only [step, eq_ok] at hstep
    obtain ⟨_, -, rfl⟩ := hstep
    exact hsame rfl

theorem DeskKept.closesDue (h : DeskKept d) : ClosesDue d := by
  intro sweep hsweep hended id hid r hr _
  have hkept := h.sweeps sweep hsweep
  have hlength : sweep.due.length ≤ sweep.turns := by
    rcases hended with hstopped | hlength
    · rw [hkept.goes] at hstopped
      cases hstopped
    · exact hlength
  rw [← take_of_length_le hlength] at hid
  obtain ⟨r', hr', hclosed⟩ := hkept.passed id hid
  rw [hr', Option.mem_some_iff] at hr
  exact hr ▸ hclosed

/-! ### Runs -/

/-- **The lifecycle holds over every run, and sweeps close what is due** when each reservation can
be closed in its turn. -/
theorem reservation_lifecycle (commit : Pos.Cart.Persist)
    (env : Env) (directory : Directory) (stock : UInventario.Store) (shop : Pos.Cart.Shop)
    (events : List DeskEvent) :
    ReservationLifecycle commit (.opening env directory stock shop) events ∧
      (Along (step commit) CanTurn (.opening env directory stock shop) events →
        ClosesDue (run (step commit) (.opening env directory stock shop) events)) := by
  have hopening := booksKept_opening env directory stock shop
  have hkept : BooksKept (run (step commit) (.opening env directory stock shop) events).store :=
    run_kept hopening events
  refine ⟨⟨?_, ?_, ?_, hkept.sales.once⟩, fun hcan ↦ ?_⟩
  · intro id r hr hclosed later
    rw [run_append]
    exact run_closed hkept hr hclosed later
  · intro id state w
    rw [effect_eq hopening id state w events]
    exact sub_zero _
  · intro r hr
    refine ⟨hkept.sales.consumed r hr, fun hsold ↦ ?_⟩
    obtain ⟨sale, hsale, hnamed⟩ := hsold
    obtain ⟨r', hr', hconsumed⟩ := hkept.service.sold sale hsale r.id hnamed
    have hfound : (run (step commit) (.opening env directory stock shop)
        events).store.stock.documents.reservations.find? r.id = some r := Table.find?_key_of_mem hr
    rw [hfound] at hr'
    obtain rfl := Option.some_inj.mp hr'
    exact hconsumed
  · have hstart : DeskKept (.opening env directory stock shop) :=
      ⟨hopening, forall_mem_nil _⟩
    exact (run_induct_along (P := DeskKept) (fun _ _ _ h hC hstep ↦ step_kept h hC hstep) hstart
      events hcan).closesDue

/-! ### Two reservations that are due -/

def countedProduct (id : Uuid) : Product :=
  .plain id 1000

def receiveFive (s : UInventario.Store) (productId : Uuid) : UInventario.Store :=
  match createMovement s {
    warehouseId := 1, idempotencyKey := [productId], productId := productId, locationId := 1,
    type := .INITIAL, quantity := 5000, reason := [] } with
  | .ok r => r.store
  | .error _ => s

def twoProducts : UInventario.Store :=
  [7, 8].foldl receiveFive { stockReserving Table.empty with
    products := ⟨[countedProduct 7, countedProduct 8], by decide⟩ }

def keepCounter (shop : Pos.Cart.Shop) (_ : Pos.Cart.SaleContent) :
    Except Pos.CartFailure Pos.Cart.Shop :=
  .ok shop

def reserveTwo (productId : Uuid) : DeskEvent :=
  .reserve {
    branchId := 1, warehouseId := 1, idempotencyKey := [productId], customerId := 3,
    locationId := 1, expiresInHours := 1,
    lines := [{ productId := productId, quantity := 2000, serialNumbers := [] }] }

def freeByHand (s : UInventario.Store) (productId : Uuid) : UInventario.Store :=
  match createStateTransition s {
    warehouseId := 1, idempotencyKey := [100], productId := productId, locationId := 1,
    fromState := .RESERVED, toState := .AVAILABLE, quantity := 2000, reason := [],
    reference := [] } with
  | .ok r => r.store
  | .error _ => s

def reservedStock : UInventario.Store :=
  (run (step keepCounter) (.opening default oneBranch twoProducts orderShop)
    [reserveTwo 7, reserveTwo 8]).store.stock

def twoHoursLater (stock : UInventario.Store) : DeskEvent :=
  .«elsewhere» {
    directory := oneBranch, stock := stock, shop := { orderShop with now := 1 + 2 * HOUR },
    sales := [], unreserved := unreserved_nil }

def sweepUp (stock : UInventario.Store) : List DeskEvent :=
  [reserveTwo 7, reserveTwo 8, twoHoursLater stock, .expireDue 1, .turn 0, .turn 0]

theorem reservation_lifecycle_inPlace :
    ReservationLifecycle keepCounter (.opening default oneBranch twoProducts orderShop)
      (sweepUp reservedStock) ∧
    ClosesDue (run (step keepCounter) (.opening default oneBranch twoProducts orderShop)
      (sweepUp reservedStock)) :=
  have h := reservation_lifecycle keepCounter default oneBranch twoProducts orderShop
    (sweepUp reservedStock)
  ⟨h.1, h.2 (by decide +kernel)⟩

/-- **A reservation is left active**: the one before it has lost its stock, which ends the sweep. -/
theorem missingStock :
    ¬ClosesDue (run (step keepCounter) (.opening default oneBranch twoProducts orderShop)
      (sweepUp (freeByHand reservedStock 7))) ∧
    (run (step keepCounter) (.opening default oneBranch twoProducts orderShop)
      (sweepUp (freeByHand reservedStock 7))).store.stock.documents.reservations.rows.map
        (fun r ↦ (r.id, r.status)) = [(0, .ACTIVE), (1, .ACTIVE)] := by
  constructor <;> decide +kernel

end UInventario.Orders
