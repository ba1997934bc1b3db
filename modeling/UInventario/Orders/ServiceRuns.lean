import UInventario.Orders.CustomerOrderService
import UInventario.Orders.FulfillmentAgreement

/-!
# Runs of the service

Requests on orders, shipments and reservations and sales of what is reserved, each a saga, in any
interleaving. `Elsewhere` is what the rest of the application does between two turns: it may leave
any stock, shop and directory behind, but has no writes for orders and reservations.

`serviceLaw` is what all of them keep: a reservation goes on as it is but for its status, which is
final once it is closed; an order keeps what was ordered and its reservation, and does not become a
draft again. Its invariant (`ServiceInv`): the lines of a reservation are those it was asked for
with; the reservation of an order is the one of its key, made with its lines; what a sale names as
its reservation is consumed.
-/

namespace UInventario.Orders

open Outcome Sagas Table List Option

/-! ### The system -/

structure Elsewhere where
  directory : Directory
  stock : UInventario.Store
  shop : Pos.Cart.Shop
  sales : List Sale
  unreserved : ∀ sale ∈ sales, sale.content.reservationId = none

theorem unreserved_nil : ∀ sale ∈ ([] : List Sale), sale.content.reservationId = none :=
  forall_mem_nil _

/-- The stock another part of the application leaves; reservations are not its to write. -/
def keepReservations (s stock : UInventario.Store) : UInventario.Store :=
  { stock with
    env := s.env
    documents := { stock.documents with
      reservations := s.documents.reservations, reservationLines := s.documents.reservationLines } }

def Elsewhere.apply (e : Elsewhere) (s : Store) : Except Failure Store := do
  let s ← e.sales.foldlM insertSale s
  pure { s with
    directory := e.directory, stock := keepReservations s.stock e.stock, shop := e.shop }

inductive ServiceRequest
  | create (input : CreateInput)
  | confirm (input : CustomerOrderTransitionInput)
  | prepare (input : CustomerOrderTransitionInput)
  | ready (input : CustomerOrderTransitionInput)
  | dispatch (input : DispatchInput)
  | deliver (input : CustomerOrderTransitionInput)
  | cancel (input : CustomerOrderTransitionInput)
  | cancelShipment (input : ShippingInput)
  | poll (input : ShippingInput)
  | event (input : EventInput)
  | reserve (request : ReservationRequest)
  | release (branchId reservationId : Uuid) (idempotencyKey reason : Text)
  | expire (branchId reservationId : Uuid)
  | sell (request : Pos.Cart.SaleRequest)
  | «elsewhere» (change : Elsewhere)

/-- `dispatch` of the repository. -/
def dispatch (input : DispatchInput) : Saga Store Failure Unit := do
  let replayed ← .look fun s ↦
    match s.dispatchByKey input.idempotencyKey with
    | none => pure false
    | some attempt => (replayDispatch s input attempt).map fun _ ↦ true
  if replayed = true then pure () else .commit fun s ↦ dispatchNew s input

variable (commit : Pos.Cart.Persist)

def program : ServiceRequest → Saga Store Failure Unit
  | .create input => .commit fun s ↦ create s input
  | .confirm input => confirm input
  | .prepare input => prepare input
  | .ready input => ready input
  | .dispatch input => dispatch input
  | .deliver input => deliver commit input
  | .cancel input => cancel input
  | .cancelShipment input => .commit fun s ↦ Orders.cancelShipment s input
  | .poll input => .commit fun s ↦ Orders.poll s input
  | .event input => .commit fun s ↦ Orders.event s input
  | .reserve request => do
    let _key ← .check (assertKey (some request.idempotencyKey))
    let _reservation ← Orders.reserve request
    pure ()
  | .release branchId reservationId idempotencyKey reason => do
    let _key ← .check (assertKey (some idempotencyKey))
    Orders.release branchId reservationId idempotencyKey reason
  | .expire branchId reservationId => Orders.expire branchId reservationId
  | .sell request => do
    let _key ← .check (assertKey (some request.idempotencyKey))
    let _sale ← createSale commit request
    pure ()
  | .«elsewhere» change => .commit change.apply

/-! ### The law -/

/-- **A reservation goes on.** -/
structure Reservation.Continues (r r' : Reservation) : Prop where
  idempotencyKey : r'.idempotencyKey = r.idempotencyKey
  requestFingerprint : r'.requestFingerprint = r.requestFingerprint
  closed : r.status ≠ .ACTIVE → r' = r

def ReservationsContinue (s s' : UInventario.Store) : Prop :=
  ∀ id r, s.documents.reservations.find? id = some r →
    ∃ r', s'.documents.reservations.find? id = some r' ∧ Reservation.Continues r r'

def CustomerOrder.reservationFingerprint (order : CustomerOrder) : ReservationFingerprint where
  customerId := order.customerId
  locationId := order.locationId
  expiresInHours := order.expiresInHours
  lines := canonicalLines (order.lines.map fun line ↦
    { productId := line.productId, quantity := line.quantity, serialNumbers := line.serialNumbers })

/-- **An order goes on.** -/
structure CustomerOrder.Continues (o o' : CustomerOrder) : Prop where
  branchId : o'.branchId = o.branchId
  fingerprint : o'.reservationFingerprint = o.reservationFingerprint
  total : o'.total = o.total
  status : o.status ≠ .DRAFT → o'.status ≠ .DRAFT
  reservationId : ∀ id ∈ o.reservationId, o'.reservationId = some id

def OrdersContinue (s s' : Store) : Prop :=
  ∀ id o, s.orders.find? id = some o →
    ∃ o', s'.orders.find? id = some o' ∧ CustomerOrder.Continues o o'

/-- **What the store may become.** -/
structure ServiceStep (s s' : Store) : Prop where
  env : s'.env = s.env
  drawn : s.drawn ≤ s'.drawn
  reservations : ReservationsContinue s.stock s'.stock
  orders : OrdersContinue s s'

/-- **An order and its reservation.** -/
structure CustomerOrder.Sound (env : Env) (stock : UInventario.Store) (o : CustomerOrder) : Prop
    where
  priced : 0 < o.total
  draft : o.status = .DRAFT → o.reservationId = none
  held : o.status ≠ .DRAFT → o.status ≠ .CANCELLED → o.reservationId ≠ none
  reserved : ∀ id ∈ o.reservationId, ∃ r, stock.documents.reservations.find? id = some r ∧
    r.idempotencyKey = reservationKey env o.id ∧ r.requestFingerprint = o.reservationFingerprint

/-- The reservations are for the customer, the location and the lines they were asked for with. -/
structure LinesSound (s : UInventario.Store) : Prop where
  owned : ∀ l ∈ s.documents.reservationLines.rows,
    (s.documents.reservations.find? l.reservationId).isSome = true
  asked : ∀ r ∈ s.documents.reservations.rows, s.reservedLines r.id = r.requestFingerprint.lines
  placed : ∀ r ∈ s.documents.reservations.rows, r.locationId = r.requestFingerprint.locationId ∧
    r.customerId = r.requestFingerprint.customerId

/-- **The invariant.** -/
structure ServiceInv (s : Store) : Prop where
  orders : ∀ o ∈ s.orders.rows, o.Sound s.env s.stock
  lines : LinesSound s.stock
  sold : ∀ sale ∈ s.sales.rows, ∀ id ∈ sale.content.reservationId,
    ∃ r, s.stock.documents.reservations.find? id = some r ∧ r.status = .CONSUMED
  transitionIds : ∀ t ∈ s.transitions.rows, ∃ n < s.drawn, t.id = s.env.uuid n
  actionIds : ∀ a ∈ s.shippingActions.rows, ∃ n < s.drawn, a.id = s.env.uuid n

namespace Reservation.Continues

variable {r r' r'' : Reservation}

theorem refl (r : Reservation) : Continues r r :=
  ⟨rfl, rfl, fun _ ↦ rfl⟩

theorem trans (h : Continues r r') (h' : Continues r' r'') : Continues r r'' where
  idempotencyKey := h'.idempotencyKey.trans h.idempotencyKey
  requestFingerprint := h'.requestFingerprint.trans h.requestFingerprint
  closed := fun hclosed ↦ by
    have heq := h.closed hclosed
    subst heq
    exact h'.closed hclosed

end Reservation.Continues

namespace CustomerOrder.Continues

variable {o o' o'' : CustomerOrder}

theorem refl (o : CustomerOrder) : Continues o o :=
  ⟨rfl, rfl, rfl, fun h ↦ h, fun _ h ↦ h⟩

theorem trans (h : Continues o o') (h' : Continues o' o'') : Continues o o'' where
  branchId := h'.branchId.trans h.branchId
  fingerprint := h'.fingerprint.trans h.fingerprint
  total := h'.total.trans h.total
  status := fun hstatus ↦ h'.status (h.status hstatus)
  reservationId := fun id hid ↦ h'.reservationId id (h.reservationId id hid)

end CustomerOrder.Continues

theorem ReservationsContinue.refl (s : UInventario.Store) : ReservationsContinue s s :=
  fun _ r h ↦ ⟨r, h, .refl r⟩

theorem ReservationsContinue.of_eq {s s' : UInventario.Store}
    (h : s'.documents.reservations = s.documents.reservations) : ReservationsContinue s s' := by
  intro id r hr
  rw [h]
  exact ⟨r, hr, .refl r⟩

theorem OrdersContinue.of_eq {s s' : Store} (h : s'.orders = s.orders) : OrdersContinue s s' := by
  intro id o ho
  rw [h]
  exact ⟨o, ho, .refl o⟩

theorem ServiceStep.refl (s : Store) : ServiceStep s s :=
  ⟨rfl, le_rfl, .refl _, .of_eq rfl⟩

theorem ServiceStep.trans {s s' s'' : Store} (h : ServiceStep s s') (h' : ServiceStep s' s'') :
    ServiceStep s s'' where
  env := h'.env.trans h.env
  drawn := h.drawn.trans h'.drawn
  reservations := fun id r hr ↦ by
    obtain ⟨r', hr', hcontinues⟩ := h.reservations id r hr
    obtain ⟨r'', hr'', hcontinues'⟩ := h'.reservations id r' hr'
    exact ⟨r'', hr'', hcontinues.trans hcontinues'⟩
  orders := fun id o ho ↦ by
    obtain ⟨o', ho', hcontinues⟩ := h.orders id o ho
    obtain ⟨o'', ho'', hcontinues'⟩ := h'.orders id o' ho'
    exact ⟨o'', ho'', hcontinues.trans hcontinues'⟩

/-- **The law of the service.** -/
def serviceLaw : Law Store where
  Inv := ServiceInv
  Step := ServiceStep
  refl := ServiceStep.refl
  trans := ServiceStep.trans

/-! ### Transactions that write orders -/

variable {s s' : Store}

variable {stock : UInventario.Store} {o : CustomerOrder} {reservation : Reservation}
  {input : TransitionInput} {env : Env} {orderId id : Uuid} {n : ℕ}

theorem CustomerOrder.Sound.later {stock' : UInventario.Store} (h : o.Sound env stock)
    (hcontinue : ReservationsContinue stock stock') :
    o.Sound env stock' where
  priced := h.priced
  draft := h.draft
  held := h.held
  reserved := fun id hid ↦ by
    obtain ⟨r, hr, hkey, hfingerprint⟩ := h.reserved id hid
    obtain ⟨r', hr', hgoes⟩ := hcontinue id r hr
    exact ⟨r', hr', hgoes.idempotencyKey.trans hkey, hgoes.requestFingerprint.trans hfingerprint⟩

theorem CustomerOrder.Sound.congr {o' : CustomerOrder} (h : o.Sound env stock)
    (hid : o'.id = o.id) (htotal : o'.total = o.total) (hstatus : o'.status = o.status)
    (hreservation : o'.reservationId = o.reservationId)
    (hfingerprint : o'.reservationFingerprint = o.reservationFingerprint) : o'.Sound env stock where
  priced := htotal ▸ h.priced
  draft := by
    rw [hstatus, hreservation]
    exact h.draft
  held := by
    rw [hstatus, hreservation]
    exact h.held
  reserved := by
    rw [hreservation, hid, hfingerprint]
    exact h.reserved

/-- **A transaction that writes orders** keeps the law when each order goes on and is sound. -/
theorem moves_of_orders (h : ServiceInv s) (henv : s'.env = s.env) (hdrawn : s.drawn ≤ s'.drawn)
    (hstock : s'.stock = s.stock) (hsales : s'.sales = s.sales) (horders : OrdersContinue s s')
    (hsound : ∀ o ∈ s'.orders.rows, o.Sound s.env s.stock)
    (htransitions : ∀ t ∈ s'.transitions.rows, ∃ n < s'.drawn, t.id = s.env.uuid n)
    (hactions : ∀ a ∈ s'.shippingActions.rows, ∃ n < s'.drawn, a.id = s.env.uuid n) :
    serviceLaw.Moves s s' := by
  refine ⟨⟨henv, hdrawn, .of_eq (by rw [hstock]), horders⟩, ?_⟩
  constructor
  · rwa [henv, hstock]
  · rw [hstock]
    exact h.lines
  · rw [hstock, hsales]
    exact h.sold
  · rwa [henv]
  · rwa [henv]

theorem drawn_later {uuid : ℕ → Uuid} (h : ∃ k < n, id = uuid k) {m : ℕ}
    (hle : n ≤ m) : ∃ k < m, id = uuid k := by
  obtain ⟨k, hk, hid⟩ := h
  exact ⟨k, lt_of_lt_of_le hk hle, hid⟩

theorem ordersContinue_update (f : CustomerOrder → CustomerOrder)
    (hf : ∀ o, (f o).id = o.id) (horders : s'.orders = s.orders.update orderId f hf)
    (h : ∀ o, s.orders.find? orderId = some o → CustomerOrder.Continues o (f o)) :
    OrdersContinue s s' := by
  intro id o ho
  rw [horders, find?_update, ho, map_some]
  by_cases hid : id = orderId
  · subst hid
    rw [if_pos rfl]
    exact ⟨_, rfl, h o ho⟩
  · rw [if_neg hid]
    exact ⟨o, rfl, .refl o⟩

section

variable (h : ServiceInv s)
include h

theorem moves_of_fulfillment (henv : s'.env = s.env)
    (hdrawn : s.drawn ≤ s'.drawn) (hstock : s'.stock = s.stock) (hsales : s'.sales = s.sales)
    (htransitions : s'.transitions = s.transitions)
    (hactions : ∀ a ∈ s'.shippingActions.rows, ∃ n < s'.drawn, a.id = s.env.uuid n)
    (version : ℕ → ℕ) (f : Fulfillment → Fulfillment)
    (horders : s'.orders = s.orders.update orderId fun o ↦
      { o with version := version o.version, fulfillment := f o.fulfillment }) :
    serviceLaw.Moves s s' := by
  refine moves_of_orders h henv hdrawn hstock hsales ?_ ?_ ?_ hactions
  · exact ordersContinue_update
      (fun o ↦ { o with version := version o.version, fulfillment := f o.fulfillment })
      (fun _ ↦ rfl) horders fun o _ ↦
        ⟨rfl, rfl, rfl, fun hstatus ↦ hstatus, fun _ hid ↦ hid⟩
  · rw [horders]
    exact forall_mem_update _ h.orders fun o _ ho ↦ ho.congr rfl rfl rfl rfl rfl
  · rw [htransitions]
    exact fun t ht ↦ drawn_later (h.transitionIds t ht) hdrawn

theorem create_moves {input : CreateInput} (hok : create s input = .ok s') :
    serviceLaw.Moves s s' := by
  rcases create_writes hok with
    rfl | ⟨order, orders, hinsert, hstatus, -, htotal, hreservation, rfl⟩
  · exact .refl h
  · refine moves_of_orders h rfl (Nat.le_succ _) rfl rfl ?_ ?_ ?_ ?_
    · intro id o ho
      exact ⟨o, find?_insert_of_some hinsert ho, .refl o⟩
    · refine (forall_mem_insert hinsert).mpr ⟨h.orders, ?_⟩
      exact ⟨htotal, fun _ ↦ hreservation, fun hdraft ↦ absurd hstatus hdraft, by
        rw [hreservation]
        nofun⟩
    · exact fun t ht ↦ drawn_later (h.transitionIds t ht) (Nat.le_succ _)
    · exact fun a ha ↦ drawn_later (h.actionIds a ha) (Nat.le_succ _)

/-- **A transition**, when it takes a sound order to a sound one. -/
theorem transitionNew_moves (happly : ∀ o, s.findOrder input.branchId input.orderId = some o →
      o.status ∈ input.fromStatuses → o.Sound s.env s.stock →
      CustomerOrder.Continues o (input.apply o) ∧ (input.apply o).Sound s.env s.stock)
    (hok : transitionNew s input = .ok s') : serviceLaw.Moves s s' := by
  rcases transitionNew_writes hok with
    rfl | ⟨order, t, transitions, hfound, hstatus, -, -, -, -, hid, hinsert, rfl⟩
  · exact .refl h
  · have hboth : ∀ o, s.orders.find? input.orderId = some o → o.Sound s.env s.stock →
        CustomerOrder.Continues o (input.apply o) ∧ (input.apply o).Sound s.env s.stock := by
      intro o ho hsound
      rw [find?_of_findOrder hfound] at ho
      cases ho
      exact happly order hfound hstatus hsound
    refine moves_of_orders h rfl (Nat.le_succ _) rfl rfl ?_ ?_ ?_ ?_
    · exact ordersContinue_update input.apply (fun _ ↦ rfl) rfl fun o ho ↦
        (hboth o ho (h.orders o (mem_of_find? ho))).1
    · exact forall_mem_update (fun _ ↦ by rfl) h.orders fun o ho hsound ↦
        (hboth o ho hsound).2
    · intro t' ht'
      rcases (mem_insert hinsert).mp ht' with ht' | rfl
      · exact drawn_later (h.transitionIds t' ht') (Nat.le_succ _)
      · exact ⟨s.drawn, Nat.lt_succ_self _, hid⟩
    · exact fun a ha ↦ drawn_later (h.actionIds a ha) (Nat.le_succ _)

theorem dispatchNew_moves {input : DispatchInput}
    (hok : dispatchNew s input = .ok s') : serviceLaw.Moves s s' := by
  rcases dispatchNew_writes hok with rfl | ⟨order, attempts, result, -, -, rfl⟩
  · exact .refl h
  · exact moves_of_fulfillment h rfl (Nat.le_succ _) rfl rfl rfl
      (fun a ha ↦ drawn_later (h.actionIds a ha) (Nat.le_succ _)) (· + 1)
      (result.apply (order.fulfillment.attemptCount + 1)) rfl

theorem actionIds_insert {a : ShippingAction} {actions : Table ShippingAction} (hn : s.drawn < n)
    (hid : a.id = s.env.uuid (n - 1)) (hinsert : s.shippingActions.insert a = some actions) :
    ∀ a' ∈ actions.rows, ∃ k < n, a'.id = s.env.uuid k := by
  intro a' ha'
  rcases (mem_insert hinsert).mp ha' with ha' | rfl
  · exact drawn_later (h.actionIds a' ha') hn.le
  · exact ⟨n - 1, by omega, hid⟩

theorem cancelShipment_moves {input : ShippingInput}
    (hok : Orders.cancelShipment s input = .ok s') : serviceLaw.Moves s s' := by
  rcases cancelShipment_writes hok with
    rfl | ⟨order, a, actions, -, -, -, -, hid, hinsert, rfl⟩
  · exact .refl h
  · exact moves_of_fulfillment h rfl (Nat.le_succ _) rfl rfl rfl
      (actionIds_insert h (Nat.lt_succ_self _) hid hinsert) id
      (cancelAtCarrier input.scenario).apply rfl

theorem poll_moves {input : ShippingInput}
    (hok : Orders.poll s input = .ok s') : serviceLaw.Moves s s' := by
  rcases poll_writes hok with rfl | ⟨f, drawn, events, a, actions, -, hlt, hid, hinsert, rfl⟩
  · exact .refl h
  · exact moves_of_fulfillment h rfl hlt.le rfl rfl rfl
      (actionIds_insert h hlt hid hinsert) id f rfl

theorem event_moves {input : EventInput}
    (hok : Orders.event s input = .ok s') : serviceLaw.Moves s s' := by
  rcases event_writes hok with rfl | ⟨events, rfl⟩
  · exact .refl h
  · exact moves_of_fulfillment h rfl (Nat.le_succ _) rfl rfl rfl
      (fun a ha ↦ drawn_later (h.actionIds a ha) (Nat.le_succ _)) id
      (fun f ↦ f.afterEvent input.event) rfl

/-! ### Transactions that write reservations -/

/-- **A transaction that writes reservations** keeps the law when each reservation goes on. -/
theorem moves_of_reservations (henv : s'.env = s.env)
    (hdrawn : s.drawn ≤ s'.drawn) (horders : s'.orders = s.orders)
    (htransitions : s'.transitions = s.transitions)
    (hactions : s'.shippingActions = s.shippingActions)
    (hcontinue : ReservationsContinue s.stock s'.stock) (hlines : LinesSound s'.stock)
    (hsold : ∀ sale ∈ s'.sales.rows, sale ∈ s.sales.rows ∨ ∀ id ∈ sale.content.reservationId,
      ∃ r, s'.stock.documents.reservations.find? id = some r ∧ r.status = .CONSUMED) :
    serviceLaw.Moves s s' := by
  refine ⟨⟨henv, hdrawn, hcontinue, .of_eq horders⟩, ?_⟩
  constructor
  · rw [henv, horders]
    exact fun o ho ↦ (h.orders o ho).later hcontinue
  · exact hlines
  · intro sale hsale id hid
    rcases hsold sale hsale with hsale | hsale
    · obtain ⟨r, hr, hconsumed⟩ := h.sold sale hsale id hid
      obtain ⟨r', hr', hgoes⟩ := hcontinue id r hr
      have hsame := hgoes.closed (by rw [hconsumed]; nofun)
      exact ⟨r', hr', by rw [hsame, hconsumed]⟩
    · exact hsale id hid
  · rw [htransitions, henv]
    exact fun t ht ↦ drawn_later (h.transitionIds t ht) hdrawn
  · rw [hactions, henv]
    exact fun a ha ↦ drawn_later (h.actionIds a ha) hdrawn

end

section Stock

variable {stock stock' : UInventario.Store} {reservationId : Uuid}

theorem reservationsContinue_update (f : Reservation → Reservation) (hf : ∀ r, (f r).id = r.id)
    (hreservations : stock'.documents.reservations =
      stock.documents.reservations.update reservationId f hf)
    (h : ∀ r, stock.documents.reservations.find? reservationId = some r →
      Reservation.Continues r (f r)) : ReservationsContinue stock stock' := by
  intro id r hr
  rw [hreservations, find?_update, hr, map_some]
  by_cases hid : id = reservationId
  · subst hid
    rw [if_pos rfl]
    exact ⟨_, rfl, h r hr⟩
  · rw [if_neg hid]
    exact ⟨r, rfl, .refl r⟩

theorem find?_update_reservation {reservations : Table Reservation} {r : Reservation}
    (f : Reservation → Reservation) (hf : ∀ r, (f r).id = r.id)
    (h : reservations.find? id = some r) : (reservations.update id f hf).find? id = some (f r) := by
  rw [find?_update_self, h, map_some]

theorem LinesSound.of_update (h : LinesSound stock)
    (f : Reservation → Reservation) (hf : ∀ r, (f r).id = r.id)
    (hreservations : stock'.documents.reservations =
      stock.documents.reservations.update reservationId f hf)
    (hlines : stock'.documents.reservationLines = stock.documents.reservationLines)
    (hstatic : ∀ r, (f r).requestFingerprint = r.requestFingerprint ∧
      (f r).locationId = r.locationId ∧ (f r).customerId = r.customerId) : LinesSound stock' := by
  constructor
  · intro l hl
    rw [hlines] at hl
    rw [hreservations, find?_update, isSome_map]
    exact h.owned l hl
  · intro r hr
    rw [hreservations] at hr
    obtain ⟨r₀, hr₀, hkey, hsame, hother⟩ := exists_of_mem_update hr
    have hasked := h.asked r₀ hr₀
    have hid : r₀.id = r.id := hkey
    rw [Store.reservedLines, hlines, ← hid]
    by_cases heq : r₀.id = reservationId
    · rw [hsame heq, (hstatic r₀).1]
      exact hasked
    · rw [hother heq]
      exact hasked
  · rw [hreservations]
    refine forall_mem_update _ h.placed fun r₀ _ hplaced ↦ ?_
    rw [(hstatic r₀).1, (hstatic r₀).2.1, (hstatic r₀).2.2]
    exact hplaced

theorem LinesSound.of_insert (h : LinesSound stock)
    (hinsert : stock.documents.reservations.insert reservation = some stock'.documents.reservations)
    {added : List ReservationLine} (hadded : ∀ line ∈ added, line.reservationId = reservation.id)
    (hrequests : added.map ReservationLine.request = reservation.requestFingerprint.lines)
    (hplaced : reservation.locationId = reservation.requestFingerprint.locationId ∧
      reservation.customerId = reservation.requestFingerprint.customerId)
    (hrows : stock'.documents.reservationLines.rows =
      stock.documents.reservationLines.rows ++ added) : LinesSound stock' := by
  have hnew : stock.documents.reservations.find? reservation.id = none :=
    (insert_eq_some hinsert).1
  constructor
  · intro l hl
    rw [hrows, mem_append] at hl
    rcases hl with hl | hl
    · obtain ⟨r, hr⟩ := Option.isSome_iff_exists.mp (h.owned l hl)
      rw [find?_insert_of_some hinsert hr]
      rfl
    · rw [hadded l hl]
      show (stock'.documents.reservations.find? (Keyed.key reservation)).isSome = true
      rw [find?_insert_self hinsert]
      rfl
  · intro r hr
    rw [Store.reservedLines, hrows, filter_append, map_append]
    rcases (mem_insert hinsert).mp hr with hr | rfl
    · have hne : r.id ≠ reservation.id := by
        intro heq
        have hfound : stock.documents.reservations.find? r.id = some r :=
          find?_key_of_mem hr
        rw [heq, hnew] at hfound
        cases hfound
      have hnone : added.filter (fun l ↦ l.reservationId = r.id) = [] := by
        rw [filter_eq_nil_iff]
        intro l hl
        rw [decide_eq_true_eq, hadded l hl]
        exact hne.symm
      rw [hnone, map_nil, append_nil]
      exact h.asked r hr
    · have hold : stock.documents.reservationLines.rows.filter
          (fun l ↦ l.reservationId = r.id) = [] := by
        rw [filter_eq_nil_iff]
        intro l hl
        rw [decide_eq_true_eq]
        intro heq
        have howned := h.owned l hl
        rw [heq, hnew] at howned
        cases howned
      have hall : added.filter (fun l ↦ l.reservationId = r.id) = added := by
        rw [filter_eq_self]
        exact fun l hl ↦ decide_eq_true (hadded l hl)
      rw [hold, hall, map_nil, nil_append]
      exact hrequests
  · exact (forall_mem_insert hinsert).mpr ⟨h.placed, hplaced⟩

end Stock

/-- **A creation** keeps the law; the reservation it answers with is the one of the key, and was
asked for with the same. -/
theorem createReservation_moves (h : ServiceInv s) {input : ReservationInput}
    (hok : createReservation s.stock input = .ok (stock, reservation)) :
    serviceLaw.Moves s { s with stock := stock } ∧
      stock.documents.reservations.find? reservation.id = some reservation ∧
      reservation.idempotencyKey = input.idempotencyKey ∧
      reservation.requestFingerprint = input.fingerprint := by
  rcases createReservation_eq_ok hok with
    ⟨rfl, hkey, hfingerprint⟩ | ⟨id, hrow, -, hinsert, added, hadded, hrequests, hrows⟩
  · refine ⟨.refl h, ?_, ?_, hfingerprint⟩
    · exact find?_key_of_mem (mem_of_find?_eq_some hkey)
    · simpa using find?_some hkey
  · subst hrow
    refine ⟨?_, find?_insert_self hinsert, rfl, rfl⟩
    refine moves_of_reservations h rfl le_rfl rfl rfl rfl ?_ ?_ fun sale hsale ↦ .inl hsale
    · intro id' r hr
      exact ⟨r, find?_insert_of_some hinsert hr, .refl r⟩
    · exact h.lines.of_insert hinsert hadded hrequests ⟨rfl, rfl⟩ hrows

theorem closeReservation_moves (h : ServiceInv s) {input : CloseInput}
    (hok : closeReservation s.stock input = .ok stock) :
    serviceLaw.Moves s { s with stock := stock } := by
  obtain ⟨reservation, hfound, -, ⟨-, -, rfl⟩ | ⟨hactive, -, hdocuments⟩⟩ :=
    closeReservation_eq_ok hok
  · exact .refl h
  · refine moves_of_reservations h rfl le_rfl rfl rfl rfl ?_ ?_ fun sale hsale ↦ .inl hsale
    · refine reservationsContinue_update input.apply (fun _ ↦ rfl) (by rw [hdocuments])
        fun r hr ↦ ⟨rfl, rfl, fun hclosed ↦ ?_⟩
      rw [hfound] at hr
      cases hr
      exact absurd hactive hclosed
    · exact h.lines.of_update input.apply (fun _ ↦ rfl) (by rw [hdocuments]) (by rw [hdocuments])
        fun _ ↦ ⟨rfl, rfl, rfl⟩

/-- **A sale** keeps the law. -/
theorem persistSale_moves (h : ServiceInv s) {idempotencyKey : Text}
    {fingerprint : Pos.Cart.SaleFingerprint} {content : Pos.Cart.SaleContent} {saleId : Uuid}
    (hok : persistSale commit s idempotencyKey fingerprint content = .ok (s', saleId)) :
    serviceLaw.Moves s s' := by
  rcases persistSale_eq_ok hok with ⟨rfl, -⟩ | ⟨reservation, hlock, -, hnew⟩
  · exact .refl h
  · obtain ⟨hid, hfound, hactive⟩ := lockReservation_eq_ok hlock
    obtain ⟨drawn, hdrawn, stock, shop, sales, sale, rfl, hdocuments, -, -, hreservation,
      hinsert⟩ :=
      persistNew_eq_ok hnew
    refine moves_of_reservations h rfl hdrawn rfl rfl rfl ?_ ?_ ?_
    · refine reservationsContinue_update (Reservation.consumed idempotencyKey) (fun _ ↦ rfl)
        (by rw [hdocuments]) fun r hr ↦ ⟨rfl, rfl, fun hclosed ↦ ?_⟩
      rw [hfound] at hr
      cases hr
      exact absurd hactive hclosed
    · exact h.lines.of_update (Reservation.consumed idempotencyKey) (fun _ ↦ rfl)
        (by rw [hdocuments]) (by rw [hdocuments]) fun _ ↦ ⟨rfl, rfl, rfl⟩
    · intro x hx
      rcases (mem_insert hinsert).mp hx with hx | rfl
      · exact .inl hx
      · refine .inr fun id hx ↦ ?_
        rw [hreservation, hid, mem_some_iff] at hx
        subst hx
        refine ⟨Reservation.consumed idempotencyKey reservation, ?_, rfl⟩
        rw [hdocuments]
        exact find?_update_reservation (Reservation.consumed idempotencyKey) (fun _ ↦ rfl) hfound

theorem insertSales_eq_ok {sales : List Sale} (h : sales.foldlM insertSale s = .ok s') :
    ∃ table, s' = { s with sales := table } ∧
      ∀ sale ∈ table.rows, sale ∈ s.sales.rows ∨ sale ∈ sales := by
  induction sales generalizing s with
  | nil =>
    rw [foldlM_nil_eq_ok] at h
    subst h
    exact ⟨s.sales, rfl, fun _ hsale ↦ .inl hsale⟩
  | cons sale sales ih =>
    obtain ⟨s₁, hturn, hrest⟩ := foldlM_cons_eq_ok.mp h
    simp only [insertSale, eq_ok] at hturn
    obtain ⟨-, -, table₁, hinsert, rfl⟩ := hturn
    obtain ⟨table, rfl, hrows⟩ := ih hrest
    refine ⟨table, rfl, fun x hx ↦ ?_⟩
    rcases hrows x hx with hx | hx
    · rcases (mem_insert hinsert).mp hx with hx | rfl
      · exact .inl hx
      · exact .inr mem_cons_self
    · exact .inr (mem_cons_of_mem _ hx)

theorem elsewhere_moves (h : ServiceInv s) {change : Elsewhere} (hok : change.apply s = .ok s') :
    serviceLaw.Moves s s' := by
  simp only [Elsewhere.apply, eq_ok] at hok
  obtain ⟨s₁, hsales, rfl⟩ := hok
  obtain ⟨table, rfl, hrows⟩ := insertSales_eq_ok hsales
  refine moves_of_reservations h rfl le_rfl rfl rfl rfl (.of_eq rfl) 
    ⟨h.lines.owned, h.lines.asked, h.lines.placed⟩ ?_
  intro sale hsale
  rcases hrows sale hsale with hsale | hsale
  · exact .inl hsale
  · refine .inr fun id hid ↦ ?_
    rw [change.unreserved sale hsale] at hid
    cases hid

/-! ### The sagas keep the law -/

open Law

theorem safe_commit {t : Store → Except Failure Store}
    (h : ∀ s s', ServiceInv s → t s = .ok s' → serviceLaw.Moves s s') (s : Store) :
    serviceLaw.Safe Anything (.commit t) s :=
  .commit (fun s' s'' hinv _ hok ↦ ⟨h s' s'' hinv hok, trivial⟩) fun _ _ _ _ _ ↦ trivial

theorem safe_check {α β : Type} {post : Except Failure β → Store → Prop} {x : Except Failure α}
    {k : α → Saga Store Failure β} (hok : ∀ a, x = .ok a → serviceLaw.Safe post (k a) s)
    (herror : ∀ e, x = .error e → post (.error e) s) :
    serviceLaw.Safe post (.check x >>= k) s := by
  refine .bind ?_
  cases x with
  | ok a => exact hok a rfl
  | error e => exact herror e rfl

theorem safe_look {α β : Type} {f : Store → Except Failure α} {k : α → Saga Store Failure β}
    {post : Except Failure β → Store → Prop}
    (hok : ∀ s' a, ServiceInv s' → ServiceStep s s' → f s' = .ok a → serviceLaw.Safe post (k a) s')
    (herror : ∀ s' e, post (.error e) s') : serviceLaw.Safe post (.look f >>= k) s := by
  refine .bind (.look fun s' hinv hstep ↦ ?_)
  cases hf : f s' with
  | ok a => exact hok s' a hinv hstep hf
  | error e => exact herror s' e

/-- **A transition**, when it takes sound orders to sound ones. -/
theorem safe_change {input : Timestamp → TransitionInput}
    (happly : ∀ s' now o, ServiceInv s' → ServiceStep s s' →
      s'.findOrder (input now).branchId (input now).orderId = some o →
      o.status ∈ (input now).fromStatuses → o.Sound s'.env s'.stock →
      CustomerOrder.Continues o ((input now).apply o) ∧
        ((input now).apply o).Sound s'.env s'.stock) :
    serviceLaw.Safe Anything (change input) s := by
  refine safe_look (fun s₁ replayed _ hstep₁ _ ↦ ?_) fun _ _ ↦ trivial
  split
  · trivial
  · refine .commit (fun s₂ s₃ hinv hstep₂ hok ↦ ⟨?_, trivial⟩) fun _ _ _ _ _ ↦ trivial
    exact transitionNew_moves hinv
      (fun o ho hstatus hsound ↦
        happly s₂ s₂.shop.now o hinv (hstep₁.trans hstep₂) ho hstatus hsound)
      hok

theorem sound_apply (hreservation : input.reservationId = none) (hto : input.toStatus ≠ .DRAFT)
    (hsound : o.Sound env stock)
    (hheld : input.toStatus ≠ .CANCELLED → o.status ≠ .DRAFT ∧ o.status ≠ .CANCELLED) :
    CustomerOrder.Continues o (input.apply o) ∧ (input.apply o).Sound env stock := by
  have hsame : (input.apply o).reservationId = o.reservationId := by
    show input.reservationId.or o.reservationId = o.reservationId
    rw [hreservation, none_or]
  constructor
  · refine ⟨rfl, rfl, rfl, fun _ ↦ hto, fun id hid ↦ ?_⟩
    rw [hsame]
    exact hid
  · refine ⟨hsound.priced, fun hdraft ↦ absurd hdraft hto, fun _ hcancelled ↦ ?_, ?_⟩
    · rw [hsame]
      exact hsound.held (hheld hcancelled).1 (hheld hcancelled).2
    · rw [hsame]
      exact hsound.reserved

theorem safe_prepare (input : CustomerOrderTransitionInput) (s : Store) :
    serviceLaw.Safe Anything (prepare input) s := by
  refine safe_check (fun key _ ↦ ?_) fun _ _ ↦ trivial
  refine safe_change fun s' now o _ _ _ hstatus hsound ↦
    sound_apply rfl (show OrderStatus.PREPARING ≠ .DRAFT from nofun) hsound fun _ ↦ ?_
  rw [mem_singleton.mp hstatus]
  exact ⟨nofun, nofun⟩

theorem safe_ready (input : CustomerOrderTransitionInput) (s : Store) :
    serviceLaw.Safe Anything (ready input) s := by
  refine safe_check (fun key _ ↦ ?_) fun _ _ ↦ trivial
  refine safe_change fun s' now o _ _ _ hstatus hsound ↦
    sound_apply rfl (show OrderStatus.READY ≠ .DRAFT from nofun) hsound fun _ ↦ ?_
  rw [mem_singleton.mp hstatus]
  exact ⟨nofun, nofun⟩

theorem safe_release (branchId reservationId : Uuid) (idempotencyKey reason : Text) (s : Store) :
    serviceLaw.Safe Anything (release branchId reservationId idempotencyKey reason) s := by
  refine safe_commit (fun s₁ s₂ hinv hok ↦ ?_) s
  rw [mapError_eq_ok] at hok
  cases hrelease : releaseReservation s₁.stock branchId reservationId idempotencyKey reason with
  | error e =>
    rw [hrelease] at hok
    cases hok
  | ok stock =>
    rw [hrelease] at hok
    cases hok
    exact closeReservation_moves hinv (mapError_eq_ok.mp hrelease)

theorem safe_expire (branchId reservationId : Uuid) (s : Store) :
    serviceLaw.Safe Anything (expire branchId reservationId) s := by
  refine safe_look (fun s₁ due hinv _ _ ↦ ?_) fun _ _ ↦ trivial
  split
  · refine .rescue (.of_anything (safe_commit (fun s₂ s₃ hinv hok ↦ ?_) s₁) fun result s ↦ ?_)
    · rw [mapError_eq_ok] at hok
      cases hexpire : expireReservation s₂.env.uuidText s₂.stock branchId reservationId with
      | error e =>
        rw [hexpire] at hok
        cases hok
      | ok stock =>
        rw [hexpire] at hok
        cases hok
        exact closeReservation_moves hinv hexpire
    · cases result <;> trivial
  · trivial

/-- **The reservation that a request is answered with** is the one of its key. -/
theorem safe_reserve {request : ReservationRequest}
    {post : Except Failure Reservation → Store → Prop} (hok : ∀ s' reservation, ServiceStep s s' →
      s'.stock.documents.reservations.find? reservation.id = some reservation →
      reservation.idempotencyKey = request.idempotencyKey →
      reservation.requestFingerprint = (request.input s').fingerprint →
      post (.ok reservation) s')
    (herror : ∀ e s', post (.error e) s') : serviceLaw.Safe post (reserve request) s := by
  refine .assume (ServiceStep.refl s) ?_
  refine safe_check (fun _ _ ↦ ?_) fun e _ _ ↦ herror e s
  refine safe_look (fun s₁ found _ _ hfound ↦ ?_) fun s₁ e _ ↦ herror e s₁
  cases found with
  | some reservation =>
    intro hstep
    cases hkey : s₁.stock.reservationByKey request.idempotencyKey with
    | none =>
      rw [hkey] at hfound
      cases hfound
    | some stored =>
      rw [hkey, mapError_eq_ok] at hfound
      cases hreplay : replayReservation (request.input s₁) stored with
      | error e =>
        rw [hreplay] at hfound
        cases hfound
      | ok r =>
        rw [hreplay] at hfound
        cases hfound
        simp only [replayReservation, eq_ok] at hreplay
        obtain ⟨-, hfingerprint, rfl⟩ := hreplay
        exact hok s₁ stored hstep (find?_key_of_mem (mem_of_find?_eq_some hkey))
          (by simpa using find?_some hkey) hfingerprint
  | none =>
    refine .transaction (fun s₂ s₃ reservation hinv _ hcreate ↦ ?_) fun s₂ e _ _ _ _ ↦ herror e s₂
    rw [mapError_eq_ok] at hcreate
    cases hresult : createReservation s₂.stock (request.input s₂) with
    | error e =>
      rw [hresult] at hcreate
      cases hcreate
    | ok result =>
      rw [hresult] at hcreate
      cases hcreate
      obtain ⟨hmoves, hfound, hkey, hfingerprint⟩ := createReservation_moves hinv hresult
      exact ⟨hmoves, fun hstep ↦ hok _ _ hstep hfound hkey hfingerprint⟩

theorem safe_createSale (request : Pos.Cart.SaleRequest)
    {post : Except Failure Uuid → Store → Prop} (hpost : ∀ result s, post result s) (s : Store) :
    serviceLaw.Safe post (createSale commit request) s := by
  refine .of_anything ?_ hpost
  refine safe_check (fun _ _ ↦ ?_) fun _ _ ↦ trivial
  refine safe_look (fun s₁ found _ _ _ ↦ ?_) fun _ _ ↦ trivial
  obtain ⟨fingerprint, replayed⟩ := found
  cases replayed with
  | some id => trivial
  | none =>
    refine safe_look (fun s₂ content _ _ _ ↦ ?_) fun _ _ ↦ trivial
    refine safe_look (fun s₃ replayed _ _ _ ↦ ?_) fun _ _ ↦ trivial
    cases replayed with
    | some id => trivial
    | none =>
      exact .transaction (fun s₄ s₅ id hinv _ hok ↦ ⟨persistSale_moves commit hinv hok, trivial⟩)
        fun _ _ _ _ _ ↦ trivial

theorem safe_compensate (input : CustomerOrderTransitionInput) (reservationId : Uuid)
    (error : Failure) (s : Store) :
    serviceLaw.Safe Anything (compensate input reservationId error) s := by
  refine safe_look (fun s₁ found _ _ _ ↦ ?_) fun _ _ ↦ trivial
  obtain ⟨latest, env⟩ := found
  dsimp only
  split
  · trivial
  · refine .bind (.of_anything (safe_release _ _ _ _ s₁) fun result s ↦ ?_)
    cases result <;> trivial

/-- **The transition of a confirmation** takes a draft to an order that holds its reservation. -/
theorem sound_confirm {input : CustomerOrderTransitionInput} {key : Text} {now : Timestamp}
    (hsound : o.Sound s.env s.stock) (hdraft : o.status = .DRAFT)
    (hfound : s.stock.documents.reservations.find? reservation.id = some reservation)
    (hkey : reservation.idempotencyKey = reservationKey s.env o.id)
    (hfingerprint : reservation.requestFingerprint = o.reservationFingerprint) :
    CustomerOrder.Continues o (((input.change key now).confirm reservation.id).apply o) ∧
      (((input.change key now).confirm reservation.id).apply o).Sound s.env s.stock := by
  constructor
  · refine ⟨rfl, rfl, rfl, fun h ↦ absurd hdraft h, fun id hid ↦ ?_⟩
    rw [hsound.draft hdraft] at hid
    cases hid
  · refine ⟨hsound.priced, (fun h ↦ nomatch h), (fun _ _ h ↦ nomatch h), fun id hid ↦ ?_⟩
    cases hid
    exact ⟨reservation, hfound, hkey, hfingerprint⟩

theorem safe_confirm (input : CustomerOrderTransitionInput) (s : Store) :
    serviceLaw.Safe Anything (confirm input) s := by
  refine safe_check (fun key _ ↦ ?_) fun _ _ ↦ trivial
  refine safe_look (fun s₁ current _ _ hcurrent ↦ ?_) fun _ _ ↦ trivial
  refine safe_look (fun s₂ env _ hstep₂ henv ↦ ?_) fun _ _ ↦ trivial
  cases henv
  refine safe_check (fun _ _ ↦ ?_) fun _ _ ↦ trivial
  refine .bind (safe_reserve (fun s₃ reservation hstep₃ hfound hkey hfingerprint ↦ ?_)
    fun _ _ ↦ trivial)
  refine .rescue (.of_anything (safe_change fun s₄ now o hinv hstep₄ ho hstatus hsound ↦ ?_)
    fun result s ↦ ?_)
  · have hdraft : o.status = .DRAFT := mem_singleton.mp hstatus
    obtain ⟨reservation', hfound', hgoes⟩ := hstep₄.reservations _ _ hfound
    -- the order that is confirmed is the one that was read at the beginning
    have hread : s₁.orders.find? input.orderId = some current :=
      find?_of_findOrder (demand_eq_ok.mp hcurrent)
    obtain ⟨o', ho', hcontinues⟩ := ((hstep₂.trans hstep₃).trans hstep₄).orders _ _ hread
    have hfoundOrder : s₄.orders.find? input.orderId = some o := find?_of_findOrder ho
    rw [hfoundOrder] at ho'
    cases ho'
    have hid : current.id = o.id := by
      have hcurrentId : current.id = input.orderId := key_of_find? hread
      have hoId : o.id = input.orderId := key_of_find? hfoundOrder
      rw [hcurrentId, hoId]
    have hreservationId : reservation'.id = reservation.id := key_of_find? hfound'
    rw [← hreservationId]
    refine sound_confirm hsound hdraft (hreservationId ▸ hfound') ?_ ?_
    · rw [hgoes.idempotencyKey, hkey, ← hid, (hstep₃.trans hstep₄).env]
      rfl
    · rw [hgoes.requestFingerprint, hfingerprint, hcontinues.fingerprint]
      rfl
  · cases result with
    | ok _ => trivial
    | error e => exact safe_compensate input reservation.id e s

theorem safe_deliver (input : CustomerOrderTransitionInput) (s : Store) :
    serviceLaw.Safe Anything (deliver commit input) s := by
  refine safe_check (fun key _ ↦ ?_) fun _ _ ↦ trivial
  have hchange : ∀ saleId s₁, serviceLaw.Safe Anything
      (change fun now ↦ (input.change key now).deliver saleId) s₁ := by
    intro saleId s₁
    refine safe_change fun s₂ now o _ _ _ hstatus hsound ↦
      sound_apply rfl (show OrderStatus.DELIVERED ≠ .DRAFT from nofun) hsound fun _ ↦ ?_
    rw [mem_singleton.mp hstatus]
    exact ⟨nofun, nofun⟩
  refine .bind ?_
  refine safe_look (fun s₁ current _ _ _ ↦ ?_) fun _ _ ↦ trivial
  refine safe_look (fun s₂ env _ _ _ ↦ ?_) fun _ _ ↦ trivial
  refine safe_check (fun reservationId _ ↦ ?_) fun _ _ ↦ trivial
  refine safe_look (fun s₃ _ _ _ _ ↦ ?_) fun _ _ ↦ trivial
  refine safe_createSale commit _ (fun result s₄ ↦ ?_) s₃
  cases result with
  | ok saleId => exact hchange saleId s₄
  | error e => trivial

theorem safe_cancel (input : CustomerOrderTransitionInput) (s : Store) :
    serviceLaw.Safe Anything (cancel input) s := by
  refine safe_check (fun key _ ↦ ?_) fun _ _ ↦ trivial
  refine safe_check (fun reason _ ↦ ?_) fun _ _ ↦ trivial
  refine safe_look (fun s₁ current _ _ _ ↦ ?_) fun _ _ ↦ trivial
  refine safe_look (fun s₂ env _ _ _ ↦ ?_) fun _ _ ↦ trivial
  refine safe_check (fun _ _ ↦ ?_) fun _ _ ↦ trivial
  have hchange : ∀ s₃, serviceLaw.Safe Anything
      (change fun now ↦ (input.change key now).cancel reason) s₃ := fun s₃ ↦
    safe_change fun s₄ now o _ _ _ hstatus hsound ↦
      sound_apply rfl (show OrderStatus.CANCELLED ≠ .DRAFT from nofun) hsound fun h ↦ absurd rfl h
  have hgiveUp : ∀ s₃, serviceLaw.Safe Anything
      (giveUp current env >>= fun _ ↦ change fun now ↦ (input.change key now).cancel reason)
        s₃ := by
    intro s₃
    rw [giveUp]
    split
    · exact hchange s₃
    · split
      · exact hchange s₃
      · refine .bind (.of_anything (safe_release _ _ _ _ s₃) fun result s ↦ ?_)
        cases result with
        | ok _ => exact hchange s
        | error _ => trivial
  rw [takeBack]
  split
  · refine .bind (.of_anything (safe_commit (fun _ _ hinv hok ↦ cancelShipment_moves hinv hok) s₂)
      fun result s ↦ ?_)
    cases result with
    | ok _ => exact hgiveUp s
    | error _ => trivial
  · exact hgiveUp s₂

theorem safe_dispatch (input : DispatchInput) (s : Store) :
    serviceLaw.Safe Anything (dispatch input) s := by
  refine safe_look (fun s₁ replayed _ _ _ ↦ ?_) fun _ _ ↦ trivial
  split
  · trivial
  · exact safe_commit (fun _ _ hinv hok ↦ dispatchNew_moves hinv hok) s₁

/-- **Every request keeps the law.** -/
theorem safe_program (request : ServiceRequest) (s : Store) :
    serviceLaw.Safe Anything (program commit request) s := by
  cases request with
  | create input => exact safe_commit (fun _ _ hinv hok ↦ create_moves hinv hok) s
  | confirm input => exact safe_confirm input s
  | prepare input => exact safe_prepare input s
  | ready input => exact safe_ready input s
  | dispatch input => exact safe_dispatch input s
  | deliver input => exact safe_deliver commit input s
  | cancel input => exact safe_cancel input s
  | cancelShipment input => exact safe_commit (fun _ _ hinv hok ↦ cancelShipment_moves hinv hok) s
  | poll input => exact safe_commit (fun _ _ hinv hok ↦ poll_moves hinv hok) s
  | event input => exact safe_commit (fun _ _ hinv hok ↦ event_moves hinv hok) s
  | reserve request =>
    refine safe_check (fun _ _ ↦ ?_) fun _ _ ↦ trivial
    exact .bind (safe_reserve (fun _ _ _ _ _ _ ↦ trivial) fun _ _ ↦ trivial)
  | release branchId reservationId idempotencyKey reason =>
    exact safe_check (fun _ _ ↦ safe_release _ _ _ _ s) fun _ _ ↦ trivial
  | expire branchId reservationId => exact safe_expire branchId reservationId s
  | sell request =>
    refine safe_check (fun _ _ ↦ ?_) fun _ _ ↦ trivial
    refine .bind (safe_createSale commit request (fun result s ↦ ?_) s)
    cases result <;> trivial
  | «elsewhere» change => exact safe_commit (fun _ _ hinv hok ↦ elsewhere_moves hinv hok) s

/-! ### Where the runs begin -/

def Store.opening (env : Env) (directory : Directory) (stock : UInventario.Store)
    (shop : Pos.Cart.Shop) : Store :=
  Store.fresh env directory
    { stock with documents := { stock.documents with
      reservations := Table.empty, reservationLines := Table.empty } } shop Table.empty

theorem serviceInv_opening (env : Env) (directory : Directory) (stock : UInventario.Store)
    (shop : Pos.Cart.Shop) : ServiceInv (Store.opening env directory stock shop) where
  orders := forall_mem_nil _
  lines := ⟨forall_mem_nil _, forall_mem_nil _,
    forall_mem_nil _⟩
  sold := forall_mem_nil _
  transitionIds := forall_mem_nil _
  actionIds := forall_mem_nil _

abbrev ServiceEvent := Event ServiceRequest

/-- **The run of a list of events.** -/
def serviceRun (env : Env) (directory : Directory) (stock : UInventario.Store)
    (shop : Pos.Cart.Shop) (events : List ServiceEvent) : State Store Failure :=
  Outcome.run (Sagas.step (program commit))
    (State.idle (Store.opening env directory stock shop)) events

section

variable (env : Env) (directory : Directory) (stock : UInventario.Store) (shop : Pos.Cart.Shop)
  (events : List ServiceEvent)

theorem serviceInv_run :
    ServiceInv (serviceRun commit env directory stock shop events).store :=
  (Good.run (L := serviceLaw) (fun request s _ ↦ safe_program commit request s)
    (.idle (serviceInv_opening env directory stock shop)) events).inv

theorem env_serviceRun :
    (serviceRun commit env directory stock shop events).store.env = env :=
  (Good.reaches (L := serviceLaw) (fun request s _ ↦ safe_program commit request s)
    (.idle (serviceInv_opening env directory stock shop)) events).env

end

end UInventario.Orders
