import UInventario.Orders.HeldStock

/-!
# Refused requests

A request that is refused should leave everything as it was. But `cancel` has asked the carrier to
take the shipment back and has released the reservation, and `deliver` has made the sale, before the
version, the status and the key are looked at.

`refused_request_changes_nothing`: a refused request changes nothing exactly when it commits nothing
before its transition (`Refusable.writesFirst`).
-/

namespace UInventario.Orders

open Outcome Sagas Table List Option

variable (commit : Pos.Cart.Persist)

/-! ### The requests -/

inductive Refusable
  | cancel (input : CustomerOrderTransitionInput)
  | deliver (input : CustomerOrderTransitionInput)

def Refusable.saga : Refusable → Saga Store Failure Unit
  | .cancel input => Orders.cancel input
  | .deliver input => Orders.deliver commit input

/-- **Nothing has changed**: orders, shipments, stock, reservations and sales. -/
structure Unchanged (s s' : Store) : Prop where
  orders : s'.orders = s.orders
  shippingActions : s'.shippingActions = s.shippingActions
  stock : s'.stock = s.stock
  sales : s'.sales = s.sales

theorem Unchanged.refl (s : Store) : Unchanged s s :=
  ⟨rfl, rfl, rfl, rfl⟩

/-! ### What is committed before the transition -/

/-- The carrier takes the shipment back: it has not been asked before, and has not delivered it. -/
def Store.takesBack (s : Store) (current : CustomerOrder) : Prop :=
  (∀ a ∈ s.shippingActions.rows, a.idempotencyKey ≠ carrierCancelKey s.env current.id) ∧
    current.fulfillment.trackingStatus ≠ some .DELIVERED ∧
    s.shippingActions.find? (s.env.uuid s.drawn) = none

def Store.hasTakenBack (s : Store) (current : CustomerOrder) : Prop :=
  ∃ a ∈ s.shippingActions.rows.find? fun a ↦ a.idempotencyKey = carrierCancelKey s.env current.id,
    a.orderId = current.id ∧ a.action = .CANCEL ∧ a.scenario = .SUCCESS

/-- What `cancel` closes the reservation of an order with. -/
def CustomerOrder.closing (order : CustomerOrder) (env : Env) (reservationId : Uuid) :
    CloseInput where
  branchId := order.branchId
  reservationId := reservationId
  idempotencyKey := cancelReservationKey env order.id
  reason := order.cancelledText
  status := .RELEASED

/-- The stock of a reservation is where it was put: all its lines can be closed. -/
def Closable (s : UInventario.Store) (reservation : Reservation) : Prop :=
  ((s.linesToClose reservation.id).zipIdx.foldlM (closeLine reservation) s).toOption.isSome = true

def Store.releases (s : Store) (current : CustomerOrder) : Prop :=
  ∃ r ∈ current.reservationId.bind s.stock.documents.reservations.find?,
    r.branchId = current.branchId ∧ r.status = .ACTIVE ∧ Closable s.stock r ∧
    ∀ r' ∈ s.stock.documents.reservations.rows, r'.id ≠ r.id →
      r'.closedIdempotencyKey ≠ some (cancelReservationKey s.env current.id)

/-- The reservation of the order has been released by an earlier cancellation. -/
def Store.hasReleased (s : Store) (current : CustomerOrder) : Prop :=
  ∃ r ∈ current.reservationId.bind s.stock.documents.reservations.find?,
    r.branchId = current.branchId ∧ (current.closing s.env r.id).repeats r

/-- The cancellation of an order commits something before its transition. -/
def Store.givesBack (s : Store) (current : CustomerOrder) : Prop :=
  current.status ∈ [.DRAFT, .CONFIRMED, .PREPARING, .READY] ∧
    ((current.shipped ∧ s.takesBack current) ∨
      ((current.shipped → s.hasTakenBack current) ∧ s.releases current))

/-- The point of sale makes a sale now: there is none under its key, and it is accepted. -/
def Store.sells (s : Store) (request : Pos.Cart.SaleRequest) : Prop :=
  s.saleByKey request.idempotencyKey = none ∧
    ((createSale commit request).alone s).2.toOption.isSome = true

def Store.sellsOrder (s : Store) (place : Pos.Cart.Workplace) (current : CustomerOrder) : Prop :=
  ∃ reservationId, assertDeliverable current = .ok reservationId ∧
    (current.status = .READY → assertPrice s place current reservationId = .ok ()) ∧
    s.sells commit (current.saleRequest s.env place reservationId)

/-- **The request commits something before its transition**: a cancelled shipment, a released
reservation, or a sale. -/
def Refusable.writesFirst (s : Store) : Refusable → Prop
  | .cancel input => (assertKey input.idempotencyKey).toOption.isSome = true ∧
      (assertReason input.reason).toOption.isSome = true ∧
      ∃ current ∈ s.findOrder input.place.branchId input.orderId, s.givesBack current
  | .deliver input => (assertKey input.idempotencyKey).toOption.isSome = true ∧
      ∃ current ∈ s.findOrder input.place.branchId input.orderId,
        s.sellsOrder commit input.place current

variable {current : CustomerOrder}

theorem findOrder_self {s : Store} {branchId orderId : Uuid}
    (h : s.findOrder branchId orderId = some current) :
    s.findOrder current.branchId current.id = some current := by
  have hbranch := (Option.filter_eq_some_iff.mp h).2
  have hid : current.id = orderId := key_of_find? (find?_of_findOrder h)
  rw [decide_eq_true_eq] at hbranch
  rw [hbranch, hid]
  exact h

/-! ### The transition -/

variable {commit} {s : Store}

variable {input : Timestamp → TransitionInput} {e : Failure}

theorem alone_change_error (h : ((change input).alone s).2 = .error e) :
    ((change input).alone s).1 = s := by
  rw [change, Saga.alone_look_bind] at h ⊢
  split at h
  case h_2 => rfl
  case h_1 replayed _ =>
    cases replayed with
    | true => rfl
    | false =>
      cases hnew : transitionNew s (input s.shop.now) with
      | ok s' =>
        have halone := Saga.alone_commit_ok (t := fun s ↦ transitionNew s (input s.shop.now)) hnew
        simp only [Bool.false_eq_true, if_false, halone] at h
        cases h
      | error e' =>
        have halone :=
          Saga.alone_commit_error (t := fun s ↦ transitionNew s (input s.shop.now)) hnew
        simp only [Bool.false_eq_true, if_false, halone]

/-! ### The shipment -/

theorem cancelShipment_of_hasTakenBack (h : s.hasTakenBack current) :
    cancelShipment s (current.carrierCancellation s.env) = .ok s := by
  obtain ⟨a, haction, hmatches⟩ := h
  have hreplay : actionReplay s (current.carrierCancellation s.env) .CANCEL = .ok true := by
    rw [actionReplay]
    split
    case h_1 hnone => exact absurd (hnone.symm.trans haction) nofun
    case h_2 row hrow =>
      cases hrow.symm.trans haction
      exact bind_eq_ok.mpr ⟨⟨⟩, ensure_eq_ok.mpr hmatches, rfl⟩
  exact bind_eq_ok.mpr ⟨true, hreplay, rfl⟩

def Store.takenBack (s : Store) (current : CustomerOrder) (actions : Table ShippingAction) :
    Store :=
  { s.updateFulfillment current.id CancelResult.CANCELLED.apply with
    drawn := s.drawn + 1, shippingActions := actions }

theorem cancelShipment_of_takesBack
    (hfound : s.findOrder current.branchId current.id = some current) (hshipped : current.shipped)
    (h : s.takesBack current) :
    ∃ a actions, s.shippingActions.insert a = some actions ∧
      cancelShipment s (current.carrierCancellation s.env) = .ok (s.takenBack current actions) := by
  obtain ⟨hkeys, hdelivered, hnew⟩ := h
  have hreplay : actionReplay s (current.carrierCancellation s.env) .CANCEL = .ok false := by
    rw [actionReplay]
    split
    case h_1 => rfl
    case h_2 row hrow =>
      have hkey : row.idempotencyKey = (current.carrierCancellation s.env).idempotencyKey := by
        simpa using find?_some hrow
      exact absurd hkey (hkeys row (mem_of_find?_eq_some hrow))
  obtain ⟨reference, hreference⟩ := ne_none_iff_exists'.mp hshipped.2.2.2
  obtain ⟨actions, hinsert⟩ := insert_isSome (t := s.shippingActions) (r := {
      id := s.env.uuid s.drawn, orderId := current.id, action := .CANCEL, scenario := .SUCCESS,
      idempotencyKey := carrierCancelKey s.env current.id }) hnew
  refine ⟨_, actions, hinsert, bind_eq_ok.mpr ⟨false, hreplay, ?_⟩⟩
  rw [if_neg (by decide)]
  refine bind_eq_ok.mpr ⟨current, demand_eq_ok.mpr hfound, ?_⟩
  refine bind_eq_ok.mpr ⟨reference, demand_eq_ok.mpr hreference, ?_⟩
  refine bind_eq_ok.mpr ⟨⟨⟩, ensure_eq_ok.mpr hdelivered, ?_⟩
  refine bind_eq_ok.mpr ⟨⟨⟩, ensure_eq_ok.mpr hkeys, ?_⟩
  exact bind_eq_ok.mpr ⟨actions, demand_eq_ok.mpr hinsert, rfl⟩

/-- **The carrier** has taken the shipment back, or takes it back now. -/
theorem cancelShipment_eq_ok {s' : Store}
    (hfound : s.findOrder current.branchId current.id = some current)
    (h : cancelShipment s (current.carrierCancellation s.env) = .ok s') :
    (s.hasTakenBack current ∧ ¬s.takesBack current ∧ s' = s) ∨ s.takesBack current := by
  obtain ⟨replayed, hreplay, h⟩ := bind_eq_ok.mp h
  rw [actionReplay] at hreplay
  split at hreplay
  case h_1 hnone =>
    cases hreplay
    simp only [Bool.false_eq_true, if_false, eq_ok] at h
    obtain ⟨current', hfound', reference, -, -, hdelivered, h⟩ := h
    obtain ⟨hkeys, a, actions, hid, hinsert, -⟩ := saveAction_writes h
    have hsame : current' = current := Option.some_inj.mp (hfound'.symm.trans hfound)
    subst hsame
    have hfresh := (insert_eq_some hinsert).1
    refine .inr ⟨hkeys, hdelivered, ?_⟩
    have hid : a.id = s.env.uuid s.drawn := hid
    rw [← hid]
    exact hfresh
  case h_2 a haction =>
    simp only [eq_ok] at hreplay
    obtain ⟨-, hmatches, rfl⟩ := hreplay
    have hkey : a.idempotencyKey = (current.carrierCancellation s.env).idempotencyKey := by
      simpa using find?_some haction
    refine .inl ⟨⟨a, haction, hmatches⟩, ?_, (pure_eq_ok.mp h).symm⟩
    exact fun htakes ↦ htakes.1 a (mem_of_find?_eq_some haction) hkey

/-! ### The reservation -/

/-- What `giveUp` asks for. -/
def Store.releaseOf (s : Store) (current : CustomerOrder) (reservationId : Uuid) :
    Except UInventario.Failure UInventario.Store :=
  releaseReservation s.stock current.branchId reservationId
    (cancelReservationKey s.env current.id) current.cancelledText

theorem release_of_releases (h : s.releases current) : ∃ r, current.reservationId = some r.id ∧
      s.stock.documents.reservations.find? r.id = some r ∧ r.status = .ACTIVE ∧
      ∃ stock, s.releaseOf current r.id = .ok stock ∧
        stock.documents.reservations.find? r.id = some ((current.closing s.env r.id).apply r) := by
  obtain ⟨r, hr, hbranch, hactive, hclosable, hkeys⟩ := h
  obtain ⟨id, hid, hfound⟩ := Option.bind_eq_some_iff.mp hr
  have heq : r.id = id := key_of_find? hfound
  subst heq
  obtain ⟨stock, hloop⟩ := Option.isSome_iff_exists.mp hclosable
  have hok : (s.stock.linesToClose r.id).zipIdx.foldlM (closeLine r) s.stock = .ok stock := by
    rw [eq_ok_get hclosable]
    exact congrArg _ (get_of_eq_some _ hloop)
  have hdocuments : stock.documents = s.stock.documents :=
    foldlM_induct (P := fun _ (t : UInventario.Store) ↦ t.documents = s.stock.documents)
      (fun _ _ _ _ ht hturn ↦ (documents_closeLine hturn).trans ht) rfl hok
  have hclose : closeReservation s.stock (current.closing s.env r.id) = .ok
      { stock with documents := { stock.documents with
        reservations := stock.documents.reservations.update r.id
          (current.closing s.env r.id).apply (fun _ ↦ rfl) } } := by
    refine bind_eq_ok.mpr ⟨r, ?_, ?_⟩
    · rw [demand_eq_ok, filter_eq_some_iff]
      exact ⟨hfound, decide_eq_true hbranch⟩
    · rw [if_neg (not_not.mpr hactive)]
      refine bind_eq_ok.mpr ⟨stock, hok, bind_eq_ok.mpr ⟨⟨⟩, ensure_eq_ok.mpr ?_, rfl⟩⟩
      rw [hdocuments]
      exact hkeys
  refine ⟨r, hid, hfound, hactive, _, mapError_eq_ok.mpr hclose, ?_⟩
  exact find?_update_reservation (current.closing s.env r.id).apply (fun _ ↦ rfl)
    (by rw [hdocuments]; exact hfound)

theorem release_of_hasReleased (h : s.hasReleased current) :
    ∃ reservationId, current.reservationId = some reservationId ∧
      s.releaseOf current reservationId = .ok s.stock := by
  obtain ⟨r, hr, hbranch, hrepeats⟩ := h
  obtain ⟨id, hid, hfound⟩ := Option.bind_eq_some_iff.mp hr
  have heq : r.id = id := key_of_find? hfound
  subst heq
  refine ⟨r.id, hid, mapError_eq_ok.mpr (bind_eq_ok.mpr ⟨r, ?_, ?_⟩)⟩
  · rw [demand_eq_ok, filter_eq_some_iff]
    exact ⟨hfound, decide_eq_true hbranch⟩
  · have hclosed : r.status ≠ .ACTIVE := by
      rw [hrepeats.1]
      exact (show ReservationStatus.RELEASED ≠ .ACTIVE from nofun)
    rw [if_pos hclosed]
    exact bind_eq_ok.mpr ⟨⟨⟩, ensure_eq_ok.mpr hrepeats, rfl⟩

variable {reservationId : Uuid} {stock : UInventario.Store}

/-- **A release** that goes through is one of an active reservation, or repeats an earlier one. -/
theorem releases_of_release (hid : current.reservationId = some reservationId)
    (h : s.releaseOf current reservationId = .ok stock) :
    s.releases current ∨ (s.hasReleased current ∧ stock = s.stock) := by
  have hclose : closeReservation s.stock (current.closing s.env reservationId) = .ok stock :=
    mapError_eq_ok.mp h
  obtain ⟨r, hfound, hbranch, ⟨-, hrepeats, rfl⟩ | ⟨hactive, hkeys, -⟩⟩ :=
    closeReservation_eq_ok hclose
  · have hrid : r.id = reservationId := key_of_find? hfound
    refine .inr ⟨⟨r, ?_, hbranch, ?_⟩, rfl⟩
    · rw [hid]
      exact hfound
    · rw [hrid]
      exact hrepeats
  · have hrid : r.id = reservationId := key_of_find? hfound
    refine .inl ⟨r, ?_, hbranch, hactive, ?_, ?_⟩
    · rw [hid]
      exact hfound
    · obtain ⟨r', hfound', h⟩ := bind_eq_ok.mp hclose
      rw [demand_eq_ok, filter_eq_some_iff] at hfound'
      have hsame : r' = r := Option.some_inj.mp (hfound'.1.symm.trans hfound)
      subst hsame
      rw [if_neg (not_not.mpr hactive)] at h
      obtain ⟨stock₁, hloop, -⟩ := bind_eq_ok.mp h
      rw [Closable, hloop]
      rfl
    · rw [hrid]
      exact hkeys

/-! ### Cancellations -/

/-- **The first step of a cancellation.** -/
theorem alone_takeBack (hfound : s.findOrder current.branchId current.id = some current) :
    (current.shipped ∧ s.takesBack current ∧
      ∃ a actions, s.shippingActions.insert a = some actions ∧
      (takeBack current s.env).alone s = (s.takenBack current actions, .ok ())) ∨
    (¬(current.shipped ∧ s.takesBack current) ∧ (current.shipped → s.hasTakenBack current) ∧
      (takeBack current s.env).alone s = (s, .ok ())) ∨
    (¬(current.shipped ∧ s.takesBack current) ∧ ¬(current.shipped → s.hasTakenBack current) ∧
      ∃ e, (takeBack current s.env).alone s = (s, .error e)) := by
  rw [takeBack]
  by_cases hshipped : current.shipped
  case neg =>
    rw [if_neg hshipped]
    exact .inr (.inl ⟨fun h ↦ hshipped h.1, fun h ↦ absurd h hshipped, rfl⟩)
  rw [if_pos hshipped]
  by_cases htakes : s.takesBack current
  · obtain ⟨a, actions, hinsert, hok⟩ := cancelShipment_of_takesBack hfound hshipped htakes
    exact .inl ⟨hshipped, htakes, a, actions, hinsert, Saga.alone_commit_ok hok⟩
  · by_cases hhas : s.hasTakenBack current
    · have hok := cancelShipment_of_hasTakenBack hhas
      exact .inr (.inl ⟨fun h ↦ htakes h.2, fun _ ↦ hhas, Saga.alone_commit_ok hok⟩)
    · refine .inr (.inr ⟨fun h ↦ htakes h.2, fun h ↦ hhas (h hshipped), ?_⟩)
      cases hresult : cancelShipment s (current.carrierCancellation s.env) with
      | error e => exact ⟨e, Saga.alone_commit_error hresult⟩
      | ok s' =>
        rcases cancelShipment_eq_ok hfound hresult with ⟨h, -, -⟩ | h
        · exact absurd h hhas
        · exact absurd h htakes

theorem alone_release_ok (h : s.releaseOf current reservationId = .ok stock) :
    (release current.branchId reservationId (cancelReservationKey s.env current.id)
      current.cancelledText).alone s = ({ s with stock := stock }, .ok ()) := by
  rw [Store.releaseOf] at h
  refine Saga.alone_commit_ok ?_
  rw [h, Except.map, Except.mapError]

theorem alone_release_error {e : UInventario.Failure}
    (h : s.releaseOf current reservationId = .error e) :
    (release current.branchId reservationId (cancelReservationKey s.env current.id)
      current.cancelledText).alone s = (s, .error (.stock e)) := by
  rw [Store.releaseOf] at h
  refine Saga.alone_commit_error ?_
  rw [h, Except.map, Except.mapError]

/-- **The second step of a cancellation.** -/
theorem alone_giveUp (current : CustomerOrder) (s : Store) :
    (current.status ≠ .CANCELLED ∧ s.releases current ∧
      ∃ stock, (giveUp current s.env).alone s = ({ s with stock := stock }, .ok ()) ∧
        stock ≠ s.stock) ∨
    (¬(current.status ≠ .CANCELLED ∧ s.releases current) ∧
      (current.status = .CANCELLED ∨ current.reservationId = none ∨ s.hasReleased current) ∧
      (giveUp current s.env).alone s = (s, .ok ())) ∨
    (¬(current.status ≠ .CANCELLED ∧ s.releases current) ∧
      ¬(current.status = .CANCELLED ∨ current.reservationId = none ∨ s.hasReleased current) ∧
      ∃ e, (giveUp current s.env).alone s = (s, .error e)) := by
  rw [giveUp]
  cases hid : current.reservationId with
  | none =>
    refine .inr (.inl ⟨?_, .inr (.inl rfl), rfl⟩)
    rintro ⟨-, r, hr, -⟩
    rw [hid] at hr
    cases hr
  | some reservationId =>
    dsimp only
    by_cases hcancelled : current.status = .CANCELLED
    · rw [if_pos hcancelled]
      exact .inr (.inl ⟨fun h ↦ h.1 hcancelled, .inl hcancelled, rfl⟩)
    rw [if_neg hcancelled]
    by_cases hreleases : s.releases current
    · obtain ⟨r, hr, hfound, hactive, stock, hok, hclosed⟩ := release_of_releases hreleases
      rw [hid] at hr
      cases hr
      refine .inl ⟨hcancelled, hreleases, stock, alone_release_ok hok, ?_⟩
      rintro rfl
      rw [hfound] at hclosed
      have hstatus := congrArg Reservation.status (Option.some_inj.mp hclosed)
      rw [hactive] at hstatus
      cases hstatus
    by_cases hreleased : s.hasReleased current
    · obtain ⟨id, hid', hok⟩ := release_of_hasReleased hreleased
      rw [hid] at hid'
      cases hid'
      exact .inr (.inl ⟨fun h ↦ hreleases h.2, .inr (.inr hreleased), alone_release_ok hok⟩)
    · refine .inr (.inr ⟨fun h ↦ hreleases h.2, ?_, ?_⟩)
      · rintro (h | h | h)
        · exact hcancelled h
        · cases h
        · exact hreleased h
      · cases hresult : s.releaseOf current reservationId with
        | error e => exact ⟨_, alone_release_error hresult⟩
        | ok stock =>
          rcases releases_of_release hid hresult with h | ⟨h, -⟩
          · exact absurd h hreleases
          · exact absurd h hreleased

theorem alone_giveUp_change_error
    (h : ((giveUp current s.env >>= fun _ ↦ change input).alone s).2 = .error e) :
    ((giveUp current s.env >>= fun _ ↦ change input).alone s).1.shippingActions =
        s.shippingActions ∧
      (current.status ≠ .CANCELLED ∧ s.releases current →
        ((giveUp current s.env >>= fun _ ↦ change input).alone s).1.stock ≠ s.stock) ∧
      (¬(current.status ≠ .CANCELLED ∧ s.releases current) →
        ((giveUp current s.env >>= fun _ ↦ change input).alone s).1 = s) := by
  rcases alone_giveUp current s with ⟨hne, hreleases, stock, hfirst, hstock⟩ | ⟨hnot, -, hfirst⟩ |
    ⟨hnot, -, e', hfirst⟩
  · rw [Saga.alone_bind_ok hfirst] at h ⊢
    rw [alone_change_error h]
    exact ⟨rfl, fun _ ↦ hstock, fun hnot ↦ absurd ⟨hne, hreleases⟩ hnot⟩
  · rw [Saga.alone_bind_ok hfirst] at h ⊢
    rw [alone_change_error h]
    exact ⟨rfl, fun h ↦ absurd h hnot, fun _ ↦ rfl⟩
  · rw [Saga.alone_bind_error hfirst]
    exact ⟨rfl, fun h ↦ absurd h hnot, fun _ ↦ rfl⟩

/-- **A cancellation that is refused**, once the order has been read. -/
theorem unchanged_giveBack_iff (hfound : s.findOrder current.branchId current.id = some current)
    (hstatus : current.status ∈ [.DRAFT, .CONFIRMED, .PREPARING, .READY, .CANCELLED])
    (h : ((takeBack current s.env >>= fun _ ↦ giveUp current s.env >>= fun _ ↦
      change input).alone s).2 = .error e) :
    Unchanged s ((takeBack current s.env >>= fun _ ↦ giveUp current s.env >>= fun _ ↦
      change input).alone s).1 ↔ ¬s.givesBack current := by
  have hopen : current.status ≠ .CANCELLED →
      current.status ∈ [.DRAFT, .CONFIRMED, .PREPARING, .READY] := by
    intro hne
    revert hstatus hne
    cases current.status <;> decide
  have hclosed : current.status ∈ [.DRAFT, .CONFIRMED, .PREPARING, .READY] →
      current.status ≠ .CANCELLED := by
    cases current.status <;> decide
  rcases alone_takeBack hfound with ⟨hshipped, htakes, a, actions, hinsert, hfirst⟩ |
    ⟨hnot, hhas, hfirst⟩ | ⟨hnot, hhas, e', hfirst⟩
  · rw [Saga.alone_bind_ok hfirst] at h ⊢
    obtain ⟨hsame, -, -⟩ := alone_giveUp_change_error (s := s.takenBack current actions) h
    refine iff_of_false (fun hunchanged ↦ ne_of_insert hinsert ?_) (not_not.mpr ?_)
    · exact hsame.symm.trans hunchanged.shippingActions
    · exact ⟨hopen hshipped.1, .inl ⟨hshipped, htakes⟩⟩
  · rw [Saga.alone_bind_ok hfirst] at h ⊢
    obtain ⟨-, hchanged, hsame⟩ := alone_giveUp_change_error h
    by_cases hreleases : current.status ≠ .CANCELLED ∧ s.releases current
    · refine iff_of_false (fun hunchanged ↦ hchanged hreleases hunchanged.stock) (not_not.mpr ?_)
      exact ⟨hopen hreleases.1, .inr ⟨hhas, hreleases.2⟩⟩
    · rw [hsame hreleases]
      refine iff_of_true (.refl s) ?_
      rintro ⟨hmem, htakes | ⟨-, hrel⟩⟩
      · exact hnot htakes
      · exact hreleases ⟨hclosed hmem, hrel⟩
  · rw [Saga.alone_bind_error hfirst]
    refine iff_of_true (.refl s) ?_
    rintro ⟨-, htakes | ⟨hhas', -⟩⟩
    · exact hnot htakes
    · exact hhas hhas'

/-! ### Deliveries -/

variable (commit)

theorem alone_createSale_cases (request : Pos.Cart.SaleRequest) (s : Store) :
    (∃ result, (createSale commit request).alone s = (s, result) ∧
      (s.saleByKey request.idempotencyKey = none → result.toOption.isSome = false)) ∨
    (s.saleByKey request.idempotencyKey = none ∧ ∃ s' id,
      (createSale commit request).alone s = (s', .ok id) ∧ s'.sales ≠ s.sales) := by
  rw [createSale, Saga.alone_check_bind]
  split
  case h_2 => exact .inl ⟨_, rfl, fun _ ↦ rfl⟩
  rw [Saga.alone_look_bind]
  split
  case h_2 => exact .inl ⟨_, rfl, fun _ ↦ rfl⟩
  case h_1 found hfound =>
    obtain ⟨fingerprint, -, hfound⟩ := bind_eq_ok.mp hfound
    cases hkey : s.saleByKey request.idempotencyKey with
    | some sale =>
      rw [hkey] at hfound
      dsimp only at hfound
      cases hreplay : replaySale fingerprint sale with
      | error e =>
        rw [hreplay] at hfound
        cases hfound
      | ok id =>
        rw [hreplay] at hfound
        cases hfound
        exact .inl ⟨_, rfl, nofun⟩
    | none =>
      rw [hkey] at hfound
      cases hfound
      dsimp only
      rw [Saga.alone_look_bind]
      split
      case h_2 => exact .inl ⟨_, rfl, fun _ ↦ rfl⟩
      case h_1 content _ =>
        rw [Saga.alone_look_bind, hkey]
        dsimp only [pure, Except.pure]
        cases hpersist : persistSale commit s request.idempotencyKey fingerprint content with
        | error e =>
          rw [Saga.alone_transaction_error hpersist]
          exact .inl ⟨_, rfl, fun _ ↦ rfl⟩
        | ok result =>
          rw [Saga.alone_transaction_ok hpersist]
          refine .inr ⟨rfl, _, _, rfl, ?_⟩
          rcases persistSale_eq_ok hpersist with ⟨-, sale, hsale, -⟩ | ⟨reservation, -, -, hnew⟩
          · rw [hkey] at hsale
            cases hsale
          · obtain ⟨_, _, stock, shop, sales, sale, heq, -, -, -, -, hinsert⟩ :=
              persistNew_eq_ok hnew
            rw [heq]
            exact ne_of_insert hinsert

/-- **The point of sale** makes a sale, or leaves the store as it was. -/
theorem alone_createSale (request : Pos.Cart.SaleRequest) (s : Store) :
    (s.sells commit request ∧ ∃ s' id, (createSale commit request).alone s = (s', .ok id) ∧
      s'.sales ≠ s.sales) ∨
    (¬s.sells commit request ∧ ∃ result, (createSale commit request).alone s = (s, result)) := by
  rcases alone_createSale_cases commit request s with
    ⟨result, hresult, hnone⟩ | ⟨hkey, s', id, hresult, hsales⟩
  · refine .inr ⟨fun hsells ↦ ?_, result, hresult⟩
    have hok := hsells.2
    rw [hresult, hnone hsells.1] at hok
    cases hok
  · refine .inl ⟨⟨hkey, ?_⟩, s', id, hresult, hsales⟩
    rw [hresult]
    rfl

/-- **The sale of a delivery.** -/
theorem alone_deliverySale (input : CustomerOrderTransitionInput) (s : Store) :
    ((∃ current ∈ s.findOrder input.place.branchId input.orderId,
        s.sellsOrder commit input.place current) ∧
      ∃ s' id, (deliverySale commit input).alone s = (s', .ok id) ∧ s'.sales ≠ s.sales) ∨
    ((¬∃ current ∈ s.findOrder input.place.branchId input.orderId,
        s.sellsOrder commit input.place current) ∧
      ∃ result, (deliverySale commit input).alone s = (s, result)) := by
  rw [deliverySale, requireOrder, Saga.alone_look_bind]
  cases hfound : s.findOrder input.place.branchId input.orderId with
  | none =>
    refine .inr ⟨?_, _, rfl⟩
    rintro ⟨_, h, _⟩
    cases h
  | some current =>
    have honly : (∃ order ∈ some current, s.sellsOrder commit input.place order) ↔
        s.sellsOrder commit input.place current := by simp
    rw [honly, demand]
    dsimp only
    rw [Saga.alone_look_bind]
    dsimp only [pure, Except.pure]
    rw [Saga.alone_check_bind]
    cases hdeliverable : assertDeliverable current with
    | error e =>
      refine .inr ⟨?_, _, rfl⟩
      rintro ⟨_, h, _⟩
      rw [hdeliverable] at h
      cases h
    | ok reservationId =>
      dsimp only
      rw [Saga.alone_look_bind]
      have hsame : ∀ {id}, assertDeliverable current = .ok id → id = reservationId := fun h ↦
        Except.ok.inj (h.symm.trans hdeliverable)
      cases hprice : (if current.status = .READY then
          assertPrice s input.place current reservationId else .ok ()) with
      | error e =>
        refine .inr ⟨?_, _, rfl⟩
        rintro ⟨id, h, hok, _⟩
        cases hsame h
        by_cases hready : current.status = .READY
        · rw [if_pos hready, hok hready] at hprice
          cases hprice
        · rw [if_neg hready] at hprice
          cases hprice
      | ok _ =>
        have hok : current.status = .READY →
            assertPrice s input.place current reservationId = .ok () := fun hready ↦ by
          rw [if_pos hready] at hprice
          exact hprice
        rcases alone_createSale commit
          (current.saleRequest s.env input.place reservationId) s with
          ⟨hsells, hsale⟩ | ⟨hsells, hsale⟩
        · exact .inl ⟨⟨reservationId, hdeliverable, hok, hsells⟩, hsale⟩
        · refine .inr ⟨?_, hsale⟩
          rintro ⟨id, h, _, hsells'⟩
          cases hsame h
          exact hsells hsells'

/-! ### Refused requests -/

/-- **A cancellation that is refused.** -/
theorem unchanged_cancel_iff {input : CustomerOrderTransitionInput}
    (h : ((cancel input).alone s).2 = .error e) :
    Unchanged s ((cancel input).alone s).1 ↔ ¬(Refusable.cancel input).writesFirst commit s := by
  show Unchanged s ((cancel input).alone s).1 ↔ ¬(_ ∧ _ ∧ _)
  rw [cancel, Saga.alone_check_bind] at h ⊢
  cases hkey : assertKey input.idempotencyKey with
  | error e' =>
    refine iff_of_true (.refl s) ?_
    rintro ⟨hwrites, _⟩
    cases hwrites
  | ok key =>
    rw [hkey] at h
    dsimp only at h ⊢
    rw [Saga.alone_check_bind] at h ⊢
    cases hreason : assertReason input.reason with
    | error e' =>
      refine iff_of_true (.refl s) ?_
      rintro ⟨_, hwrites, _⟩
      cases hwrites
    | ok reason =>
      rw [hreason, requireOrder] at h
      rw [requireOrder]
      dsimp only at h ⊢
      rw [Saga.alone_look_bind] at h ⊢
      cases hfound : s.findOrder input.place.branchId input.orderId with
      | none =>
        refine iff_of_true (.refl s) ?_
        rintro ⟨_, _, _, hnone, _⟩
        cases hnone
      | some current =>
        rw [hfound] at h
        dsimp only [demand] at h ⊢
        rw [Saga.alone_look_bind] at h ⊢
        dsimp only [pure, Except.pure] at h ⊢
        rw [Saga.alone_check_bind] at h ⊢
        by_cases hstatus :
            current.status ∈ [.DRAFT, .CONFIRMED, .PREPARING, .READY, .CANCELLED]
        · rw [ensure, if_pos hstatus] at h ⊢
          refine (unchanged_giveBack_iff (findOrder_self hfound) hstatus h).trans (not_congr ?_)
          constructor
          · exact fun hgives ↦ ⟨rfl, rfl, current, rfl, hgives⟩
          · rintro ⟨_, _, order, hsome, hgives⟩
            exact Option.some_inj.mp hsome ▸ hgives
        · rw [ensure, if_neg hstatus] at h ⊢
          refine iff_of_true (.refl s) ?_
          rintro ⟨_, _, order, hsome, hopen, _⟩
          cases hsome
          refine hstatus ?_
          exact mem_append_left [.CANCELLED] hopen

/-- **A delivery that is refused.** -/
theorem unchanged_deliver_iff {input : CustomerOrderTransitionInput}
    (h : ((deliver commit input).alone s).2 = .error e) :
    Unchanged s ((deliver commit input).alone s).1 ↔
      ¬(Refusable.deliver input).writesFirst commit s := by
  show Unchanged s ((deliver commit input).alone s).1 ↔ ¬(_ ∧ _)
  rw [deliver, Saga.alone_check_bind] at h ⊢
  cases hkey : assertKey input.idempotencyKey with
  | error e' => exact iff_of_true (.refl s) fun hwrites ↦ nomatch hwrites.1
  | ok key =>
    rw [hkey] at h
    dsimp only at h ⊢
    rcases alone_deliverySale commit input s with
      ⟨hsells, s', id, hsale, hsales⟩ | ⟨hsells, result, hsale⟩
    · rw [Saga.alone_bind_ok hsale] at h ⊢
      rw [alone_change_error h]
      exact iff_of_false (fun hunchanged ↦ hsales hunchanged.sales) (not_not.mpr ⟨rfl, hsells⟩)
    · refine iff_of_true ?_ fun hwrites ↦ hsells hwrites.2
      cases result with
      | error e' =>
        rw [Saga.alone_bind_error hsale]
        exact .refl s
      | ok id =>
        rw [Saga.alone_bind_ok hsale] at h ⊢
        rw [alone_change_error h]
        exact .refl s

/-- **A refused request changes nothing** exactly when it commits nothing before its transition. -/
theorem refused_request_changes_nothing (s : Store) (r : Refusable) (e : Failure)
    (h : ((r.saga commit).alone s).2 = .error e) :
    Unchanged s ((r.saga commit).alone s).1 ↔ ¬r.writesFirst commit s := by
  cases r with
  | cancel input => exact unchanged_cancel_iff commit h
  | deliver input => exact unchanged_deliver_iff commit h

/-! ### A stale cancellation -/

def confirmedStore : Store :=
  (serviceRun keepShop default oneBranch stockedBranch orderShop promptConfirmation).store

def draftStore : Store :=
  (serviceRun keepShop default oneBranch stockedBranch orderShop
    (served (.create deliveryOrder) 0 1)).store

def staleCancellation (version : ℕ) : Refusable :=
  .cancel { orderRequest version "cancel-1" with reason := some (textOf "changed my mind") }

theorem refused_request_changes_nothing_draft :
    (((staleCancellation 2).saga keepShop).alone draftStore).2 =
        .error .customerOrderVersionConflict ∧
      (Unchanged draftStore (((staleCancellation 2).saga keepShop).alone draftStore).1 ↔
        ¬(staleCancellation 2).writesFirst keepShop draftStore) :=
  ⟨by decide +kernel,
    refused_request_changes_nothing keepShop draftStore (staleCancellation 2)
      .customerOrderVersionConflict (by decide +kernel)⟩

/-- **A refused cancellation gives the stock back**, though the order stays `CONFIRMED`. -/
theorem stale_cancellation_releases :
    (((staleCancellation 1).saga keepShop).alone confirmedStore).2 =
        .error .customerOrderVersionConflict ∧
      ¬Unchanged confirmedStore (((staleCancellation 1).saga keepShop).alone confirmedStore).1 ∧
      (((staleCancellation 1).saga keepShop).alone confirmedStore).1.orders.rows.map
        CustomerOrder.status = [.CONFIRMED] ∧
      confirmedStore.stock.documents.reservations.rows.map Reservation.status = [.ACTIVE] ∧
      (((staleCancellation 1).saga keepShop).alone
        confirmedStore).1.stock.documents.reservations.rows.map Reservation.status =
          [.RELEASED] := by
  have hbefore : confirmedStore.stock.documents.reservations.rows.map Reservation.status =
      [.ACTIVE] := by
    decide +kernel
  have hafter : (((staleCancellation 1).saga keepShop).alone
      confirmedStore).1.stock.documents.reservations.rows.map Reservation.status = [.RELEASED] := by
    decide +kernel
  refine ⟨by decide +kernel, fun h ↦ ?_, by decide +kernel, hbefore, hafter⟩
  rw [h.stock, hbefore] at hafter
  cases hafter

end UInventario.Orders
