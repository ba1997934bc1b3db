import UInventario.Orders.ServiceRuns

/-!
# A confirmed order holds its stock

An order that is confirmed refers to the reservation of its key, made at its location, for its
customer and with its lines. But the reservation need not be active: `confirm` releases it when the
version was stale, and a later confirmation under the same key is answered with the reservation that
has been released (`confirmed_after_release`).

In runs in which no reservation is closed while the order of its key is a draft, an order that is
confirmed holds its stock (`confirmed_order_holds_stock`).
-/

namespace UInventario.Orders

open Outcome Sagas Table Option

def OrderLine.reserved (line : OrderLine) : ReservationLineRequest :=
  ReservationLineRequest.canonical
    { productId := line.productId, quantity := line.quantity, serialNumbers := line.serialNumbers }

/-- **The order holds its stock**: its reservation is active, and keeps its lines for its customer
at its location. -/
def Store.holdsStock (s : Store) (order : CustomerOrder) : Prop :=
  ∃ r ∈ order.reservationId.bind s.stock.documents.reservations.find?, r.status = .ACTIVE ∧
    r.customerId = order.customerId ∧ r.locationId = order.locationId ∧
    (s.stock.reservedLines r.id).Perm (order.lines.map OrderLine.reserved)
deriving Decidable

def ConfirmsHeld (s s' : Store) : Prop :=
  ∀ order ∈ s'.orders.rows, order.status = .CONFIRMED →
    (s.orders.find? order.id).any (fun o ↦ o.status = .DRAFT) = true → s'.holdsStock order
deriving Decidable

/-- **The condition.** No reservation of a draft is closed, and no draft of a closed one made. -/
def LeavesDrafts (s s' : Store) : Prop :=
  (∀ order ∈ s.orders.rows, order.status = .DRAFT → ∀ r ∈ s'.stock.documents.reservations.rows,
    r.idempotencyKey = reservationKey s.env order.id → r.status ≠ .ACTIVE →
      (s.stock.documents.reservations.find? r.id).any (fun r₀ ↦ r₀.status ≠ .ACTIVE) = true) ∧
  ∀ order ∈ s'.orders.rows, s.orders.find? order.id = none →
    ∀ r ∈ s'.stock.documents.reservations.rows,
      r.idempotencyKey = reservationKey s.env order.id → r.status = .ACTIVE
deriving Decidable

def DraftsActive (s : Store) : Prop :=
  ∀ order ∈ s.orders.rows, order.status = .DRAFT → ∀ r ∈ s.stock.documents.reservations.rows,
    r.idempotencyKey = reservationKey s.env order.id → r.status = .ACTIVE

variable {s s' : Store}

theorem active_of_leavesDrafts (hstep : ServiceStep s s') (hdrafts : DraftsActive s)
    (hleaves : LeavesDrafts s s') {order : CustomerOrder} (horder : order ∈ s.orders.rows)
    (hdraft : order.status = .DRAFT) {r : Reservation}
    (hr : r ∈ s'.stock.documents.reservations.rows)
    (hkey : r.idempotencyKey = reservationKey s.env order.id) : r.status = .ACTIVE := by
  by_contra hclosed
  have hbefore := hleaves.1 order horder hdraft r hr hkey hclosed
  rw [any_eq_true] at hbefore
  obtain ⟨r₀, hr₀, hclosed₀⟩ := hbefore
  rw [decide_eq_true_eq] at hclosed₀
  obtain ⟨r', hr', hgoes⟩ := hstep.reservations r.id r₀ hr₀
  have hsame : r' = r := by
    have hfound : s'.stock.documents.reservations.find? r.id = some r := find?_key_of_mem hr
    rw [hfound] at hr'
    exact (Option.some_inj.mp hr').symm
  subst hsame
  refine hclosed₀ (hdrafts order horder hdraft r₀ (mem_of_find? hr₀) ?_)
  rw [← hgoes.idempotencyKey, hkey]

/-- **The step lemma.** -/
theorem draftsActive_step (hmoves : serviceLaw.Moves s s') (hdrafts : DraftsActive s)
    (hleaves : LeavesDrafts s s') : DraftsActive s' ∧ ConfirmsHeld s s' := by
  obtain ⟨hstep, hinv⟩ := hmoves
  constructor
  · intro order horder hdraft r hr hkey
    rw [hstep.env] at hkey
    cases hbefore : s.orders.find? order.id with
    | none => exact hleaves.2 order horder hbefore r hr hkey
    | some order₀ =>
      obtain ⟨order', horder', hgoes⟩ := hstep.orders order.id order₀ hbefore
      have hsame : order' = order := by
        have hfound : s'.orders.find? order.id = some order := find?_key_of_mem horder
        rw [hfound] at horder'
        exact (Option.some_inj.mp horder').symm
      subst hsame
      have hid : order₀.id = order'.id := key_of_find? hbefore
      have hdraft₀ : order₀.status = .DRAFT := by
        by_contra hne
        exact hgoes.status hne hdraft
      rw [← hid] at hkey
      exact active_of_leavesDrafts hstep hdrafts hleaves (mem_of_find? hbefore) hdraft₀ hr hkey
  · intro order horder hconfirmed hbefore
    rw [any_eq_true] at hbefore
    obtain ⟨order₀, horder₀, hdraft₀⟩ := hbefore
    rw [decide_eq_true_eq] at hdraft₀
    have hsound := hinv.orders order horder
    obtain ⟨id, hid⟩ := ne_none_iff_exists'.mp (hsound.held (by rw [hconfirmed]; nofun)
      (by rw [hconfirmed]; nofun))
    obtain ⟨r, hr, hkey, hfingerprint⟩ := hsound.reserved id hid
    have hmem := mem_of_find? hr
    have hoid : order₀.id = order.id := key_of_find? horder₀
    obtain ⟨hlocation, hcustomer⟩ := hinv.lines.placed r hmem
    refine ⟨r, ?_, ?_, ?_, ?_, ?_⟩
    · rw [hid]
      exact hr
    · rw [hstep.env, ← hoid] at hkey
      exact active_of_leavesDrafts hstep hdrafts hleaves (mem_of_find? horder₀) hdraft₀ hmem
        hkey
    · rw [hcustomer, hfingerprint]
      rfl
    · rw [hlocation, hfingerprint]
      rfl
    · rw [hinv.lines.asked r hmem, hfingerprint]
      refine (orderBy_perm _ _).trans ?_
      rw [List.map_map]
      exact .refl _

variable (commit : Pos.Cart.Persist)

/-- **A confirmed order holds its stock**, in every run in which no reservation is closed while the
order of its key is a draft. -/
theorem confirmed_order_holds_stock (env : Env) (directory : Directory)
    (stock : UInventario.Store) (shop : Pos.Cart.Shop) (events : List ServiceEvent)
    (hleaves : Steps (program commit) LeavesDrafts
      (State.idle (Store.opening env directory stock shop)) events) :
    Steps (program commit) ConfirmsHeld
      (State.idle (Store.opening env directory stock shop)) events := by
  refine Law.Good.along (L := serviceLaw) (fun request s _ ↦ safe_program commit request s)
    (J := DraftsActive) (fun _ hmoves hdrafts hleaves ↦ draftsActive_step hmoves hdrafts hleaves)
    (.idle (serviceInv_opening env directory stock shop)) ?_ events hleaves
  exact List.forall_mem_nil _

/-! ### A confirmation after a stale one -/

def stockedBranch : UInventario.Store :=
  { stockReserving Table.empty with
    products := .ofRow (.plain 7 1000)
    balances := .ofRow {
      productId := 7, locationId := 1, quantity := 5000, available := 5000, reserved := 0,
      damaged := 0, inTransit := 0 } }

def keepShop (shop : Pos.Cart.Shop) (_ : Pos.Cart.SaleContent) :
    Except Pos.CartFailure Pos.Cart.Shop :=
  .ok shop

def orderRequest (version : ℕ) (key : String) : CustomerOrderTransitionInput where
  place := ⟨1, 1, 1, 1⟩
  orderId := 0
  idempotencyKey := some (textOf key)
  version := version

/-- A request that comes in at a position and takes a number of turns, with nothing between. -/
def served (request : ServiceRequest) (position turns : ℕ) : List ServiceEvent :=
  .start request :: List.replicate turns (.turn position)

def promptConfirmation : List ServiceEvent :=
  served (.create deliveryOrder) 0 1 ++ served (.confirm (orderRequest 1 "confirm-1")) 1 6

/-- The order is confirmed on a version that it does not have, and then on the one that it has. -/
def staleConfirmation : List ServiceEvent :=
  served (.create deliveryOrder) 0 1 ++ served (.confirm (orderRequest 2 "confirm-1")) 1 8 ++
    served (.confirm (orderRequest 1 "confirm-2")) 2 5

theorem confirmed_order_holds_stock_prompt : Steps (program keepShop) ConfirmsHeld
      (State.idle (Store.opening default oneBranch stockedBranch orderShop)) promptConfirmation ∧
    (serviceRun keepShop default oneBranch stockedBranch orderShop
      promptConfirmation).store.orders.rows.map CustomerOrder.status = [.CONFIRMED] :=
  ⟨confirmed_order_holds_stock keepShop default oneBranch stockedBranch orderShop
    promptConfirmation (by decide +kernel), by decide +kernel⟩

/-- **The order is confirmed with a reservation that has been released** by the stale confirmation.
-/
theorem confirmed_after_release : ¬Steps (program keepShop) ConfirmsHeld
      (State.idle (Store.opening default oneBranch stockedBranch orderShop)) staleConfirmation ∧
    (serviceRun keepShop default oneBranch stockedBranch orderShop
      staleConfirmation).store.orders.rows.map
        (fun o ↦ (o.status, o.reservationId)) = [(.CONFIRMED, some 0)] ∧
    (serviceRun keepShop default oneBranch stockedBranch orderShop
      staleConfirmation).store.stock.documents.reservations.rows.map
        (fun r ↦ (r.id, r.status)) = [(0, .RELEASED)] := by
  refine ⟨?_, ?_, ?_⟩ <;> decide +kernel

end UInventario.Orders
