import UInventario.Orders.RefusedRequests

/-!
# Orders that can go on

An order that is `CONFIRMED`, `PREPARING` or `READY` should have a way out: it can be cancelled, or,
once its sale has been made, delivered. `open_order_goes_on_iff` says when it has.

The sale of an order consumes its reservation, so that an order whose delivery failed after the sale
can neither be delivered nor cancelled; and an order whose reservation has expired cannot be
cancelled (`expired_order_stuck`).
-/

namespace UInventario.Orders

open Outcome Sagas Table List Option

/-! ### The way out -/

def Store.orderSale (s : Store) (order : CustomerOrder) : Option Sale :=
  (s.saleByKey (deliveryKey s.env order.id)).filter fun sale ↦
    sale.content.reservationId = order.reservationId

def Store.isCancelled (s : Store) (orderId : Uuid) : Prop :=
  (s.orders.find? orderId).any (fun order ↦ order.status = .CANCELLED) = true

def Store.isDelivered (s : Store) (orderId : Uuid) (sale : Sale) : Prop :=
  (s.orders.find? orderId).any
    (fun order ↦ order.status = .DELIVERED && order.saleId = some sale.id) = true

def CustomerOrder.request (order : CustomerOrder) (place : Pos.Cart.Workplace) (key reason : Text) :
    CustomerOrderTransitionInput where
  place := place
  orderId := order.id
  idempotencyKey := some key
  version := order.version
  reason := some reason

variable (commit : Pos.Cart.Persist)

/-- **The order goes on**: without a sale it can be cancelled, with one it can be delivered. -/
structure GoesOn (s : Store) (order : CustomerOrder) (request : CustomerOrderTransitionInput) :
    Prop where
  cancels : s.orderSale order = none → ((cancel request).alone s).2 = .ok () ∧
    ((cancel request).alone s).1.isCancelled order.id
  delivers : ∀ sale, s.orderSale order = some sale → ((deliver commit request).alone s).2 = .ok () ∧
    ((deliver commit request).alone s).1.isDelivered order.id sale

/-- **The condition**: no sale yet, and shipment and reservation can be released or have been. -/
structure Store.LetsGo (s : Store) (order : CustomerOrder) : Prop where
  unsold : s.orderSale order = none
  carrier : order.shipped → s.hasTakenBack order ∨ s.takesBack order
  stock : s.releases order ∨ s.hasReleased order

/-! ### Deliveries of what has been sold -/

variable {commit} {s : Store} {place : Pos.Cart.Workplace} {r : Reservation}

theorem keeps_of_closed
    (hr : s.stock.documents.reservations.find? r.id = some r) (hclosed : r.status ≠ .ACTIVE)
    (warehouseId productId : Uuid) : s.keeps warehouseId r.id productId = false := by
  rw [Store.keeps, hr, any_some, decide_eq_false hclosed]
  simp

theorem total_of_kept_nothing {permissions : Pos.Cart.Permissions}
    {dto : Pos.Cart.QuoteCartDto} {reservationId : Uuid} {quote : Pos.Cart.Quote}
    (hreservation : dto.reservationId = some reservationId) (hdiscount : dto.discount = none)
    (hkeeps : ∀ productId, s.keeps place.warehouseId reservationId productId = false)
    (h : Pos.Cart.quoteCart s.counter place permissions dto = .ok quote) :
    quote.totals.total = 0 := by
  simp only [Pos.Cart.quoteCart, Pos.Cart.prepareLines, eq_ok] at h
  obtain ⟨_, -, context, -, preparedLines, ⟨-, -, requested, -, -, -, -, -, -, hfound, normalized,
    hnormalized, demands, -, -, -, hprepared⟩, promotions, -, hquote⟩ := h
  have hnone : ∀ productId,
      s.counter.getProducts place.warehouseId dto.reservationId productId = none := by
    intro productId
    rw [hreservation]
    show (s.shop.getProducts _ _ _).filter (fun _ ↦ s.keeps _ _ _) = none
    rw [hkeeps, filter_eq_none_iff]
    exact fun _ _ ↦ Bool.false_ne_true
  have hempty : requested = [] := by
    refine List.eq_nil_iff_forall_not_mem.mpr fun r hr ↦ ?_
    have hsome := hfound (by rw [hreservation]; exact some_ne_none _) r hr
    rw [hnone] at hsome
    cases hsome
  subst hempty
  rw [mapM_nil, pure_eq_ok] at hnormalized
  subst hnormalized
  rw [mapM_nil, pure_eq_ok] at hprepared
  subst hprepared
  simp only [Pos.Cart.quoteLines, hdiscount, Pos.Cart.discountAmount, mapM_nil,
    eq_ok] at hquote
  obtain ⟨promoted, rfl, _, rfl, -, -, allocations, -, loyalty, -, rfl⟩ := hquote
  rfl

/-- **An order whose reservation is closed is not delivered.** -/
theorem alone_deliver_closed {input : CustomerOrderTransitionInput} {order : CustomerOrder}
    (hfound : s.findOrder input.place.branchId input.orderId = some order)
    (hopen : order.status ∈ [.CONFIRMED, .PREPARING, .READY]) (hpriced : 0 < order.total)
    (hreservation : order.reservationId = some r.id)
    (hr : s.stock.documents.reservations.find? r.id = some r) (hclosed : r.status ≠ .ACTIVE) :
    ((deliver commit input).alone s).2 ≠ .ok () := by
  intro h
  rw [deliver, Saga.alone_check_bind] at h
  cases hkey : assertKey input.idempotencyKey with
  | error e =>
    rw [hkey] at h
    cases h
  | ok key =>
    rw [hkey] at h
    dsimp only at h
    have hsale : ∃ e, (deliverySale commit input).alone s = (s, .error e) := by
      rw [deliverySale, requireOrder, Saga.alone_look_bind, hfound, demand]
      dsimp only
      rw [Saga.alone_look_bind]
      dsimp only [pure, Except.pure]
      rw [Saga.alone_check_bind]
      cases hdeliverable : assertDeliverable order with
      | error e => exact ⟨e, rfl⟩
      | ok reservationId =>
        simp only [assertDeliverable, eq_ok]
          at hdeliverable
        obtain ⟨-, hstatus, id, hid, -, -, rfl⟩ := hdeliverable
        cases hreservation.symm.trans hid
        have hready : order.status = .READY := by
          revert hopen hstatus
          cases order.status <;> decide
        dsimp only
        rw [Saga.alone_look_bind, if_pos hready]
        cases hprice : assertPrice s input.place order r.id with
        | error e => exact ⟨e, rfl⟩
        | ok _ =>
          obtain ⟨quote, hquote, hsame⟩ := bind_eq_ok.mp hprice
          have htotal := total_of_kept_nothing rfl rfl (keeps_of_closed hr hclosed _)
            (mapError_eq_ok.mp hquote)
          rw [(ensure_eq_ok.mp hsame).2] at htotal
          omega
    obtain ⟨e, hsale⟩ := hsale
    rw [Saga.alone_bind_error hsale] at h
    cases h

/-! ### Cancellations -/

/-- **The transition of a cancellation** goes through when the order is as read and the key is new.
-/
theorem alone_change_cancel {order : CustomerOrder} {input : CustomerOrderTransitionInput}
    {key reason : Text} (hfound : s.findOrder input.place.branchId input.orderId = some order)
    (hopen : order.status ∈ [.DRAFT, .CONFIRMED, .PREPARING, .READY])
    (hversion : order.version = input.version) (hfresh : s.transitionByKey key = none)
    (hid : s.transitions.find? (s.env.uuid s.drawn) = none) :
    ∃ s', (change fun now ↦ (input.change key now).cancel reason).alone s = (s', .ok ()) ∧
      s'.isCancelled input.orderId := by
  let request := (input.change key s.shop.now).cancel reason
  let row : Transition := {
    id := s.env.uuid s.drawn, orderId := input.orderId, fromStatus := order.status,
    toStatus := .CANCELLED, reason := some (trim reason), idempotencyKey := key,
    requestFingerprint := request.fingerprint }
  obtain ⟨transitions, hinsert⟩ := insert_isSome (t := s.transitions) (r := row) hid
  have hkeys : ∀ t ∈ s.transitions.rows, t.idempotencyKey ≠ key := fun t ht hkey ↦ by
    simpa [hkey] using List.find?_eq_none.mp hfresh t ht
  let cancelled : Store := { s with
    drawn := s.drawn + 1
    orders := s.orders.update input.orderId request.apply (fun _ ↦ rfl)
    transitions := transitions }
  have hlocked : transitionLocked s request = .ok cancelled := by
    refine bind_eq_ok.mpr ⟨order, demand_eq_ok.mpr hfound, ?_⟩
    refine bind_eq_ok.mpr ⟨⟨⟩, ensure_eq_ok.mpr hopen, ?_⟩
    refine bind_eq_ok.mpr ⟨⟨⟩, ensure_eq_ok.mpr hversion, ?_⟩
    refine bind_eq_ok.mpr ⟨⟨⟩, ensure_eq_ok.mpr (fun h ↦ ?_), ?_⟩
    · exact absurd h (show OrderStatus.CANCELLED ∉ [.PREPARING, .READY] by decide)
    refine bind_eq_ok.mpr ⟨(), ?_, ?_⟩
    · refine bind_eq_ok.mpr ⟨⟨⟩, ensure_eq_ok.mpr nofun, ?_⟩
      refine bind_eq_ok.mpr ⟨⟨⟩, ensure_eq_ok.mpr nofun, ?_⟩
      exact ensure_eq_ok.mpr fun _ _ _ ↦ ⟨nofun, nofun⟩
    refine bind_eq_ok.mpr ⟨⟨⟩, ensure_eq_ok.mpr hkeys, ?_⟩
    exact bind_eq_ok.mpr ⟨transitions, demand_eq_ok.mpr hinsert, rfl⟩
  have hnew : transitionNew s request = .ok cancelled := by
    rw [transitionNew, hlocked]
    rfl
  refine ⟨cancelled, ?_, ?_⟩
  · rw [change, Saga.alone_look_bind]
    have hlook : s.transitionByKey ((input.change key s.shop.now).cancel reason).idempotencyKey =
        none := hfresh
    rw [hlook]
    exact Saga.alone_commit_ok hnew
  · have hrow := find?_of_findOrder hfound
    have hafter : cancelled.orders.find? input.orderId =
        (s.orders.find? input.orderId).map request.apply :=
      @Table.find?_update_self _ _ _ _ s.orders input.orderId request.apply fun _ ↦ rfl
    rw [Store.isCancelled, hafter, hrow]
    rfl

theorem transitionId_fresh (hinv : ServiceInv s) (huuid : Function.Injective s.env.uuid) {n : ℕ}
    (hn : s.drawn ≤ n) : s.transitions.find? (s.env.uuid n) = none := by
  refine Table.find?_eq_none.mpr fun t ht heq ↦ ?_
  obtain ⟨k, hk, hid⟩ := hinv.transitionIds t ht
  have : k = n := huuid (hid.symm.trans heq)
  omega

/-- **The release and the transition** of a cancellation, in a store whose orders may have moved on.
-/
theorem alone_giveUp_cancel {order current : CustomerOrder} {input : CustomerOrderTransitionInput}
    {key reason : Text} (hfound : s.findOrder input.place.branchId input.orderId = some order)
    (hstatus : order.status = current.status)
    (hopen : current.status ∈ [.DRAFT, .CONFIRMED, .PREPARING, .READY])
    (hversion : order.version = input.version) (hfresh : s.transitionByKey key = none)
    (hid : s.transitions.find? (s.env.uuid s.drawn) = none)
    (hreserved : current.reservationId ≠ none) :
    let steps := giveUp current s.env >>= fun _ ↦
      change fun now ↦ (input.change key now).cancel reason
    ((steps.alone s).2 = .ok () ∧ (steps.alone s).1.isCancelled input.orderId) ↔
      s.releases current ∨ s.hasReleased current := by
  intro steps
  have hne : current.status ≠ .CANCELLED := by
    revert hopen
    cases current.status <;> decide
  rcases alone_giveUp current s with ⟨-, hreleases, stock, hfirst, -⟩ | ⟨hnot, hdone, hfirst⟩ |
    ⟨hnot, hdone, e, hfirst⟩
  · refine iff_of_true ?_ (.inl hreleases)
    obtain ⟨s', hchange, hcancelled⟩ := @alone_change_cancel { s with stock := stock } _ _ _
      reason hfound (hstatus ▸ hopen) hversion hfresh hid
    rw [show steps.alone s = (s', .ok ()) from (Saga.alone_bind_ok hfirst).trans hchange]
    exact ⟨rfl, hcancelled⟩
  · refine iff_of_true ?_ (.inr ((hdone.resolve_left hne).resolve_left hreserved))
    obtain ⟨s', hchange, hcancelled⟩ := @alone_change_cancel s _ _ _ reason hfound
      (hstatus ▸ hopen) hversion hfresh hid
    rw [show steps.alone s = (s', .ok ()) from (Saga.alone_bind_ok hfirst).trans hchange]
    exact ⟨rfl, hcancelled⟩
  · refine iff_of_false (fun h ↦ ?_) ?_
    · rw [show steps.alone s = (s, .error e) from Saga.alone_bind_error hfirst] at h
      cases h.1
    · rintro (h | h)
      · exact hnot ⟨hne, h⟩
      · exact hdone (.inr (.inr h))

/-- **A cancellation of an open order** goes through exactly when shipment and reservation let it.
-/
theorem cancels_iff (hinv : ServiceInv s) (huuid : Function.Injective s.env.uuid)
    {order : CustomerOrder} {input : CustomerOrderTransitionInput} {key reason : Text}
    (hfound : s.findOrder input.place.branchId input.orderId = some order)
    (hopen : order.status ∈ [.CONFIRMED, .PREPARING, .READY])
    (hversion : order.version = input.version) (hkey : assertKey input.idempotencyKey = .ok key)
    (hfresh : s.transitionByKey key = none) (hreason : assertReason input.reason = .ok reason) :
    (((cancel input).alone s).2 = .ok () ∧ ((cancel input).alone s).1.isCancelled input.orderId) ↔
      (order.shipped → s.hasTakenBack order ∨ s.takesBack order) ∧
        (s.releases order ∨ s.hasReleased order) := by
  have hrow := find?_of_findOrder hfound
  have hopen' : order.status ∈ [.DRAFT, .CONFIRMED, .PREPARING, .READY] :=
    mem_cons_of_mem _ hopen
  have hreserved : order.reservationId ≠ none := by
    refine (hinv.orders order (mem_of_find? hrow)).held ?_ ?_
    all_goals
      revert hopen
      cases order.status <;> decide
  have hsteps : (cancel input).alone s = (takeBack order s.env >>= fun _ ↦
      giveUp order s.env >>= fun _ ↦
        change fun now ↦ (input.change key now).cancel reason).alone s := by
    rw [cancel, Saga.alone_check_bind, hkey]
    dsimp only
    rw [Saga.alone_check_bind, hreason]
    dsimp only
    rw [requireOrder, Saga.alone_look_bind, hfound, demand]
    dsimp only
    rw [Saga.alone_look_bind]
    dsimp only [pure, Except.pure]
    have hread : order.status ∈ [.DRAFT, .CONFIRMED, .PREPARING, .READY, .CANCELLED] :=
      mem_append_left [OrderStatus.CANCELLED] hopen'
    rw [Saga.alone_check_bind, ensure, if_pos hread]
  rw [hsteps]
  rcases alone_takeBack (findOrder_self hfound) with ⟨-, htakes, a, actions, -, hfirst⟩ |
    ⟨-, hhas, hfirst⟩ | ⟨hnot, hhas, e, hfirst⟩
  · rw [Saga.alone_bind_ok hfirst]
    have hid : order.id = input.orderId := key_of_find? hrow
    have hmoved : (s.takenBack order actions).findOrder input.place.branchId input.orderId =
        some { order with fulfillment := CancelResult.CANCELLED.apply order.fulfillment } := by
      rw [Store.findOrder, filter_eq_some_iff]
      refine ⟨?_, (Option.filter_eq_some_iff.mp hfound).2⟩
      show (s.orders.update order.id (fun o ↦ { o with
        fulfillment := CancelResult.CANCELLED.apply o.fulfillment }) (fun _ ↦ rfl)).find?
          input.orderId = _
      rw [← hid] at hrow ⊢
      rw [find?_update_self, hrow]
      rfl
    refine (alone_giveUp_cancel (s := s.takenBack order actions) hmoved rfl hopen' hversion hfresh
      (transitionId_fresh hinv huuid (Nat.le_succ _)) hreserved).trans ?_
    exact ⟨fun h ↦ ⟨fun _ ↦ .inr htakes, h⟩, fun h ↦ h.2⟩
  · rw [Saga.alone_bind_ok hfirst]
    refine (alone_giveUp_cancel hfound rfl hopen' hversion hfresh
      (transitionId_fresh hinv huuid le_rfl) hreserved).trans ?_
    exact ⟨fun h ↦ ⟨fun hshipped ↦ .inl (hhas hshipped), h⟩, fun h ↦ h.2⟩
  · rw [Saga.alone_bind_error hfirst]
    refine iff_of_false (by rintro ⟨⟨⟩, _⟩) fun h ↦ ?_
    by_cases hshipped : order.shipped
    · rcases h.1 hshipped with h | h
      · exact hhas fun _ ↦ h
      · exact hnot ⟨hshipped, h⟩
    · exact hhas fun h ↦ absurd h hshipped

/-! ### Open orders -/

variable (commit)

/-- **An open order goes on** exactly when it has no sale yet and the shipment and the reservation
let it be cancelled. -/
theorem goesOn_iff (hinv : ServiceInv s) (huuid : Function.Injective s.env.uuid)
    {order : CustomerOrder} {key reason : Text}
    (horder : order ∈ s.orders.rows) (hplace : place.branchId = order.branchId)
    (hopen : order.status ∈ [.CONFIRMED, .PREPARING, .READY])
    (hkey : isIdempotencyKey key = true) (hfresh : s.transitionByKey key = none)
    (hreason : trim reason ≠ []) :
    GoesOn commit s order (order.request place key reason) ↔ s.LetsGo order := by
  have hrow : s.orders.find? order.id = some order := find?_key_of_mem horder
  have hfound : s.findOrder place.branchId order.id = some order :=
    Option.filter_eq_some_iff.mpr ⟨hrow, decide_eq_true hplace.symm⟩
  have hcancels := @cancels_iff s hinv huuid order (order.request place key reason) key reason
    hfound hopen rfl (bind_eq_ok.mpr ⟨key, rfl, bind_eq_ok.mpr ⟨⟨⟩, ensure_eq_ok.mpr hkey, rfl⟩⟩)
    hfresh (demand_eq_ok.mpr (Option.filter_eq_some_iff.mpr ⟨rfl, decide_eq_true hreason⟩))
  constructor
  · rintro ⟨hcancel, hdeliver⟩
    have hunsold : s.orderSale order = none := by
      by_contra hsold
      obtain ⟨sale, hsale⟩ := ne_none_iff_exists'.mp hsold
      obtain ⟨hkeyed, hsame⟩ := Option.filter_eq_some_iff.mp hsale
      rw [decide_eq_true_eq] at hsame
      have hsound := hinv.orders order horder
      have hreserved : order.reservationId ≠ none := by
        refine hsound.held ?_ ?_
        all_goals
          revert hopen
          cases order.status <;> decide
      obtain ⟨id, hid⟩ := ne_none_iff_exists'.mp hreserved
      obtain ⟨r, hr, hconsumed⟩ := hinv.sold sale (mem_of_find?_eq_some hkeyed) id
        (hsame.trans hid)
      have hrid : r.id = id := key_of_find? hr
      subst hrid
      refine @alone_deliver_closed commit _ _ _ _ hfound hopen hsound.priced hid hr ?_
        (hdeliver sale hsale).1
      rw [hconsumed]
      exact (show ReservationStatus.CONSUMED ≠ .ACTIVE from nofun)
    obtain ⟨hcarrier, hstock⟩ := hcancels.mp (hcancel hunsold)
    exact ⟨hunsold, hcarrier, hstock⟩
  · rintro ⟨hunsold, hcarrier, hstock⟩
    refine ⟨fun _ ↦ hcancels.mpr ⟨hcarrier, hstock⟩, fun sale hsale ↦ ?_⟩
    rw [hunsold] at hsale
    cases hsale

/-- **No order gets stuck** as long as it lets go: an open order can be cancelled without a sale,
and delivered with one, exactly when it lets go. -/
theorem open_order_goes_on_iff (env : Env) (huuid : Function.Injective env.uuid)
    (directory : Directory) (stock : UInventario.Store) (shop : Pos.Cart.Shop)
    (events : List ServiceEvent) (order : CustomerOrder)
    (horder : order ∈ (serviceRun commit env directory stock shop events).store.orders.rows)
    (hopen : order.status ∈ [.CONFIRMED, .PREPARING, .READY]) (place : Pos.Cart.Workplace)
    (hplace : place.branchId = order.branchId) (key reason : Text)
    (hkey : isIdempotencyKey key = true)
    (hfresh : (serviceRun commit env directory stock shop events).store.transitionByKey key = none)
    (hreason : trim reason ≠ []) :
    GoesOn commit (serviceRun commit env directory stock shop events).store order
        (order.request place key reason) ↔
      (serviceRun commit env directory stock shop events).store.LetsGo order := by
  refine goesOn_iff commit (serviceInv_run commit env directory stock shop events) ?_ horder hplace
    hopen hkey hfresh hreason
  rw [env_serviceRun]
  exact huuid

/-! ### An order whose reservation has expired -/

def confirmedOrder : CustomerOrder :=
  (confirmedStore.orders.find? 0).get (by decide +kernel)

/-- The order is confirmed; its reservation expires before anything else is done. -/
def expiredReservation : List ServiceEvent :=
  promptConfirmation ++ served (.«elsewhere» {
      directory := oneBranch, stock := confirmedStore.stock,
      shop := { orderShop with now := orderShop.now + 720 * HOUR }, sales := [],
      unreserved := fun _ h ↦ nomatch h }) 2 1 ++
    served (.expire 1 0) 3 2

def expiredStore : Store :=
  (serviceRun keepShop default oneBranch stockedBranch orderShop expiredReservation).store

theorem open_order_goes_on_iff_confirmed : (GoesOn keepShop confirmedStore confirmedOrder
        (confirmedOrder.request ⟨1, 1, 1, 1⟩ (textOf "cancel-1") (textOf "changed my mind")) ↔
      confirmedStore.LetsGo confirmedOrder) ∧
    ((cancel (confirmedOrder.request ⟨1, 1, 1, 1⟩ (textOf "cancel-1")
      (textOf "changed my mind"))).alone confirmedStore).2 = .ok () :=
  ⟨open_order_goes_on_iff keepShop default (fun _ _ h ↦ h) oneBranch stockedBranch orderShop
    promptConfirmation confirmedOrder (by decide +kernel) (by decide +kernel) ⟨1, 1, 1, 1⟩
    (by decide +kernel) (textOf "cancel-1") (textOf "changed my mind") (by decide +kernel)
    (by decide +kernel) (by decide +kernel), by decide +kernel⟩

/-- **An order whose reservation has expired is stuck**: it has no sale, and cannot be cancelled. -/
theorem expired_order_stuck :
    confirmedOrder ∈ expiredStore.orders.rows ∧ confirmedOrder.status = .CONFIRMED ∧
      expiredStore.orderSale confirmedOrder = none ∧
      expiredStore.transitionByKey (textOf "cancel-1") = none ∧
      ((cancel (confirmedOrder.request ⟨1, 1, 1, 1⟩ (textOf "cancel-1")
        (textOf "changed my mind"))).alone expiredStore).2 =
          .error (.stock .productReservationNotActive) ∧
      ¬GoesOn keepShop expiredStore confirmedOrder
        (confirmedOrder.request ⟨1, 1, 1, 1⟩ (textOf "cancel-1") (textOf "changed my mind")) := by
  have hunsold : expiredStore.orderSale confirmedOrder = none := by decide +kernel
  have hrefused : ((cancel (confirmedOrder.request ⟨1, 1, 1, 1⟩ (textOf "cancel-1")
      (textOf "changed my mind"))).alone expiredStore).2 =
        .error (.stock .productReservationNotActive) := by
    decide +kernel
  refine ⟨by decide +kernel, by decide +kernel, hunsold, by decide +kernel, hrefused, fun h ↦ ?_⟩
  have hok := (h.cancels hunsold).1
  cases hok

end UInventario.Orders
