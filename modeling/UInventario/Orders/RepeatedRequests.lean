import UInventario.Orders.OpenOrders
import UInventario.Orders.OrderCreation
import UInventario.Orders.OrderKeys

/-!
# Creations and confirmations that are repeated

A creation is answered with the order of its key, however far it has come. A confirmation asked for
in the version that the order has now goes through exactly when the order is still a draft and its
key has not been used, provided that the reservation is granted (`confirms_iff`): even the request
that has confirmed the order is refused when it is decided on the order as it is.
-/

namespace UInventario.Orders

open Outcome Sagas Law Table List Option

variable {s s' : Store} {parseDate : Text → Option Timestamp}

/-! ### Creation -/

theorem createdOrder_eq_some {branchId : Uuid} {key : Text} {order : CustomerOrder}
    (h : s.createdOrder branchId key = some order) :
    s.orders.find? order.id = some order ∧ order.idempotencyKey = key ∧
      order.branchId = branchId := by
  obtain ⟨found, hfound, hsame⟩ := Option.bind_eq_some_iff.mp h
  have hmem := mem_of_find?_eq_some hfound
  have hkey : found.idempotencyKey = key := by simpa using find?_some hfound
  obtain ⟨hrow, hbranch⟩ := Option.filter_eq_some_iff.mp hsame
  have hself : s.orders.find? found.id = some found := find?_key_of_mem hmem
  rw [hself] at hrow
  cases hrow
  exact ⟨hself, hkey, of_decide_eq_true hbranch⟩

theorem createAnswered_eq_ok {input : CreateInput} {order : CustomerOrder}
    (h : createAnswered s input = .ok (s', order)) :
    create s input = .ok s' ∧ s'.createdOrder input.branchId input.idempotencyKey = some order := by
  simp only [createAnswered, eq_ok, Prod.mk.injEq] at h
  obtain ⟨s₁, hcreate, order', hfound, rfl, rfl⟩ := h
  exact ⟨hcreate, hfound⟩

theorem prepareOrder_eq_ok {input : CreateOrderInput} {row : CreateInput}
    (h : prepareOrder parseDate s input = .ok row) :
    row.idempotencyKey = input.idempotencyKey ∧ row.branchId = input.place.branchId ∧
      row.fingerprint = input.fingerprint := by
  simp only [prepareOrder, eq_ok] at h
  obtain ⟨quote, -, payments, -, fulfillment, -, rfl⟩ := h
  exact ⟨rfl, rfl, rfl⟩

/-- **The order that a creation is answered with** has the key of the request. -/
theorem safe_createOrder (input : CreateOrderInput) (s : Store) :
    serviceLaw.Safe (fun result s' ↦ ∀ order, result = .ok order →
      s'.orders.find? order.id = some order ∧ order.idempotencyKey = input.idempotencyKey)
      (createOrder parseDate input) s := by
  refine .check_bind (fun _ _ ↦ ?_) fun _ _ _ h ↦ nomatch h
  refine .check_bind (fun _ _ ↦ ?_) fun _ _ _ h ↦ nomatch h
  refine .look_bind (fun s₁ found _ _ hfound ↦ ?_) fun _ _ _ _ _ _ h ↦ nomatch h
  cases found with
  | some order =>
    intro order' h
    cases h
    cases hcreated : s₁.createdOrder input.place.branchId input.idempotencyKey with
    | none =>
      rw [hcreated] at hfound
      cases hfound
    | some stored =>
      rw [hcreated] at hfound
      simp only [replayOrder] at hfound
      by_cases hsame : stored.requestFingerprint = input.fingerprint
      · rw [ensure, if_pos hsame] at hfound
        cases hfound
        obtain ⟨hrow, hkey, -⟩ := createdOrder_eq_some hcreated
        exact ⟨hrow, hkey⟩
      · rw [ensure, if_neg hsame] at hfound
        cases hfound
  | none =>
    refine .look_bind (fun s₂ row _ _ hrow ↦ ?_) fun _ _ _ _ _ _ h ↦ nomatch h
    refine .transaction (fun s₃ s₄ order hinv _ h ↦ ?_) fun _ _ _ _ _ _ h ↦ nomatch h
    obtain ⟨hcreate, hcreated⟩ := createAnswered_eq_ok (mapError_eq_ok.mp h)
    refine ⟨create_moves hinv hcreate, fun order' h' ↦ ?_⟩
    cases h'
    obtain ⟨hfound, hkey, -⟩ := createdOrder_eq_some hcreated
    exact ⟨hfound, hkey.trans (prepareOrder_eq_ok hrow).1⟩

def CreateOrderInput.makes (input : CreateOrderInput) (o : CustomerOrder) : Prop :=
  o.idempotencyKey = input.idempotencyKey ∧ o.requestFingerprint = input.fingerprint ∧
    o.branchId = input.place.branchId

theorem commits_createOrder (input : CreateOrderInput) :
    (createOrder parseDate input).Commits (KeepsKeys input.makes) := by
  refine .bind (.check _) fun _ ↦ .bind (.check _) fun _ ↦ .bind (.look .refl _) fun found ↦ ?_
  cases found with
  | some order => trivial
  | none =>
    refine .look_bind .refl fun _ row hrow ↦ .transaction .refl fun s s' order h ↦ ?_
    obtain ⟨hkey, hbranch, hfingerprint⟩ := prepareOrder_eq_ok hrow
    have hkeeps := create_keepsKeys (createAnswered_eq_ok (mapError_eq_ok.mp h)).1
    rw [show row.makes = input.makes by
      funext o
      rw [CreateInput.makes, CreateOrderInput.makes, hkey, hbranch, hfingerprint]] at hkeeps
    exact hkeeps

theorem createAnswered_new {input : CreateInput} {order : CustomerOrder}
    (hnew : s.createdOrder input.branchId input.idempotencyKey = none)
    (h : createAnswered s input = .ok (s', order)) :
    s.orderByKey input.idempotencyKey = none ∧ order.status = .DRAFT ∧
      s'.transitions = s.transitions := by
  obtain ⟨hcreate, hanswer⟩ := createAnswered_eq_ok h
  have hnone : s.orderByKey input.idempotencyKey = none := by
    cases hused : s.orderByKey input.idempotencyKey with
    | none => rfl
    | some found =>
      rw [create, hused] at hcreate
      obtain ⟨⟨⟩, hreplay, -⟩ := bind_eq_ok.mp hcreate
      obtain ⟨-, -, hplaced⟩ := bind_eq_ok.mp hreplay
      obtain ⟨placed, hplaced, -⟩ := bind_eq_ok.mp hplaced
      rw [Store.createdOrder, hused, bind_some, demand_eq_ok.mp hplaced] at hnew
      cases hnew
  rcases create_writes hcreate with rfl | ⟨made, orders, hinsert, hdraft, -, -, -, rfl⟩
  · rw [hnew] at hanswer
    cases hanswer
  · refine ⟨hnone, ?_, rfl⟩
    obtain ⟨hself, hkey, -⟩ := createdOrder_eq_some hanswer
    rcases (mem_insert hinsert).mp (mem_of_find? hself) with hold | rfl
    · exact absurd hkey (by simpa using List.find?_eq_none.mp hnone order hold)
    · exact hdraft

/-- **A creation on its own** answers with the order of its key, or with a new draft. -/
theorem createOrder_answers {input : CreateOrderInput} {order : CustomerOrder}
    (h : (createOrder parseDate input).alone s = (s', .ok order)) :
    s'.findOrder input.place.branchId order.id = some order ∧
      order.idempotencyKey = input.idempotencyKey ∧ s'.transitions = s.transitions ∧
      (s' = s ∨ s.orderByKey input.idempotencyKey = none ∧ order.status = .DRAFT) := by
  rw [createOrder, Saga.alone_check_bind] at h
  split at h
  case h_2 => cases h
  rw [Saga.alone_check_bind] at h
  split at h
  case h_2 => cases h
  rw [Saga.alone_look_bind] at h
  cases hcreated : s.createdOrder input.place.branchId input.idempotencyKey with
  | some found =>
    rw [hcreated] at h
    dsimp only [replayOrder] at h
    by_cases hsame : found.requestFingerprint = input.fingerprint
    · rw [ensure, if_pos hsame] at h
      cases h
      obtain ⟨hrow, hkey, hbranch⟩ := createdOrder_eq_some hcreated
      refine ⟨?_, hkey, rfl, .inl rfl⟩
      rw [Store.findOrder, hrow, filter_some, decide_eq_true hbranch, if_pos rfl]
    · rw [ensure, if_neg hsame] at h
      cases h
  | none =>
    rw [hcreated] at h
    dsimp only [pure, Except.pure] at h
    rw [Saga.alone_look_bind] at h
    cases hrow : prepareOrder parseDate s input with
    | error e =>
      rw [hrow] at h
      cases h
    | ok row =>
      rw [hrow] at h
      dsimp only at h
      cases hanswered : createAnswered s row with
      | error e =>
        have hrefused : (createAnswered s row).mapError CreationFailure.order =
            .error (.order e) := by
          rw [hanswered]
          rfl
        rw [Saga.alone_transaction_error hrefused] at h
        cases h
      | ok result =>
        obtain ⟨s₁, found⟩ := result
        rw [Saga.alone_transaction_ok (mapError_eq_ok.mpr hanswered)] at h
        cases h
        obtain ⟨hkey, hbranch, -⟩ := prepareOrder_eq_ok hrow
        rw [← hbranch, ← hkey] at hcreated
        rw [← hbranch, ← hkey]
        obtain ⟨hnone, hdraft, htransitions⟩ := createAnswered_new hcreated hanswered
        obtain ⟨hself, hown, hplace⟩ :=
          createdOrder_eq_some (createAnswered_eq_ok hanswered).2
        refine ⟨?_, hown, htransitions, .inr ⟨hnone, hdraft⟩⟩
        rw [Store.findOrder, hself, filter_some, decide_eq_true hplace, if_pos rfl]

/-- **A creation under the key of another one** is refused, and nothing is written. -/
theorem createOrder_refused {input : CreateOrderInput} {found : CustomerOrder}
    (hfound : s.orderByKey input.idempotencyKey = some found)
    (hother : found.requestFingerprint ≠ input.fingerprint) :
    ∃ e, (createOrder parseDate input).alone s = (s, .error e) := by
  rw [createOrder, Saga.alone_check_bind]
  split
  case h_2 e _ => exact ⟨e, rfl⟩
  rw [Saga.alone_check_bind]
  split
  case h_2 e _ => exact ⟨e, rfl⟩
  rw [Saga.alone_look_bind]
  cases hcreated : s.createdOrder input.place.branchId input.idempotencyKey with
  | some placed =>
    have hsame : placed = found := by
      rw [Store.createdOrder, hfound, bind_some] at hcreated
      have hself : s.orders.find? found.id = some found :=
        find?_key_of_mem (mem_of_find?_eq_some hfound)
      exact Option.some.inj ((find?_of_findOrder hcreated).symm.trans hself)
    rw [hsame]
    dsimp only [replayOrder]
    rw [ensure, if_neg hother]
    exact ⟨_, rfl⟩
  | none =>
    dsimp only [pure, Except.pure]
    rw [Saga.alone_look_bind]
    cases hrow : prepareOrder parseDate s input with
    | error e => exact ⟨e, rfl⟩
    | ok row =>
      obtain ⟨hkey, -, hfingerprint⟩ := prepareOrder_eq_ok hrow
      have hrefused : (createAnswered s row).mapError CreationFailure.order =
          .error (.order .customerOrderIdempotencyConflict) := by
        rw [createAnswered, create, hkey, hfound]
        dsimp only
        rw [replayCreate, hfingerprint, ensure, if_neg hother]
        rfl
      dsimp only
      rw [Saga.alone_transaction_error hrefused]
      exact ⟨_, rfl⟩

/-! ### The order of a confirmation that has succeeded -/

theorem change_answers {input : Timestamp → TransitionInput} {orderId : Uuid}
    (hid : ∀ now, (input now).orderId = orderId) (hto : ∀ now, (input now).toStatus ≠ .DRAFT)
    (s : Store) :
    (Law.any Store).Safe (fun result s' ↦ result = .ok () → KeysSound s' →
      ∃ o, s'.orders.find? orderId = some o ∧ o.status ≠ .DRAFT) (change input) s := by
  have hpast : ∀ (s₁ : Store) (t : Transition) (now : Timestamp), KeysSound s₁ →
      s₁.transitionByKey (input now).idempotencyKey = some t →
      replayTransition s₁ (input now) t = .ok () →
      ∃ o, s₁.orders.find? orderId = some o ∧ o.status ≠ .DRAFT := by
    intro s₁ t now hsound ht hreplay
    obtain ⟨⟨⟩, hsame, -⟩ := bind_eq_ok.mp hreplay
    obtain ⟨-, htid⟩ := ensure_eq_ok.mp hsame
    obtain ⟨o, ho, -, hleft⟩ := hsound.past t (mem_of_find?_eq_some ht)
    rw [htid, hid] at ho
    exact ⟨o, ho, hleft⟩
  refine .look_bind (fun s₁ replayed _ _ hreplayed ↦ ?_) fun _ _ _ _ _ h ↦ nomatch h
  split
  case isTrue htrue =>
    intro _ hsound
    cases ht : s₁.transitionByKey (input s₁.shop.now).idempotencyKey with
    | none =>
      rw [ht, htrue] at hreplayed
      cases hreplayed
    | some t =>
      rw [ht] at hreplayed
      dsimp only at hreplayed
      cases hreplay : replayTransition s₁ (input s₁.shop.now) t with
      | error e =>
        rw [hreplay] at hreplayed
        cases hreplayed
      | ok => exact hpast s₁ t _ hsound ht hreplay
  case isFalse =>
    refine .commit (fun s₂ s₃ _ _ h ↦ ⟨⟨trivial, trivial⟩, fun _ hsound ↦ ?_⟩)
      fun _ _ _ _ _ h ↦ nomatch h
    rcases transitionNew_cases h with
      ⟨rfl, t, ht, hreplay⟩ | ⟨order, t, transitions, hfound, -, -, -, -, -, rfl⟩
    · exact hpast s₃ t _ hsound ht hreplay
    · have hafter := @Table.find?_update_self _ _ _ _ s₂.orders (input s₂.shop.now).orderId
        (input s₂.shop.now).apply fun _ ↦ rfl
      rw [find?_of_findOrder hfound, map_some, hid] at hafter
      exact ⟨(input s₂.shop.now).apply order, (hid s₂.shop.now).symm ▸ hafter, hto _⟩

theorem compensate_fails (input : CustomerOrderTransitionInput) (reservationId : Uuid)
    (error : Failure) (s : Store) :
    (Law.any Store).Safe (fun result _ ↦ result ≠ .ok ()) (compensate input reservationId error)
      s := by
  refine .look_bind (fun s₁ found _ _ _ ↦ ?_) fun _ _ _ _ _ ↦ nofun
  obtain ⟨latest, env⟩ := found
  dsimp only
  split
  · exact nofun
  · refine .bind (.of_anything (.any _ _) fun result s ↦ ?_)
    cases result with
    | ok _ | error _ => exact nofun

/-- **A confirmation that is answered** leaves the order in a status other than `DRAFT`. -/
theorem confirm_answers (input : CustomerOrderTransitionInput) (s : Store) :
    (Law.any Store).Safe (fun result s' ↦ result = .ok () → KeysSound s' →
      ∃ o, s'.orders.find? input.orderId = some o ∧ o.status ≠ .DRAFT) (confirm input) s := by
  refine .check_bind (fun key _ ↦ ?_) fun _ _ h ↦ nomatch h
  refine .look_bind (fun s₁ current _ _ _ ↦ ?_) fun _ _ _ _ _ h ↦ nomatch h
  refine .look_bind (fun s₂ env _ _ _ ↦ ?_) fun _ _ _ _ _ h ↦ nomatch h
  refine .check_bind (fun _ _ ↦ ?_) fun _ _ h ↦ nomatch h
  refine .bind (.of_anything (.any _ _) fun result s₃ ↦ ?_)
  cases result with
  | error e => exact fun h ↦ nomatch h
  | ok reservation =>
    have hchange := @change_answers (fun now ↦ (input.change key now).confirm reservation.id)
      input.orderId (fun _ ↦ rfl)
        (fun _ h ↦ nomatch (show OrderStatus.CONFIRMED = .DRAFT from h)) s₃
    refine .rescue (hchange.mono fun result s₄ h ↦ ?_)
    cases result with
    | ok _ => exact h
    | error e =>
      exact (compensate_fails input reservation.id e s₄).mono fun _ _ hfails hok ↦
        absurd hok hfails

/-! ### The confirmation of the order as it is -/

theorem alone_reserve (request : ReservationRequest) (s : Store) :
    ((reserve request).alone s).1 = { s with stock := ((reserve request).alone s).1.stock } :=
  (commits_reserve_stock request).alone StockOnly.refl StockOnly.trans s

/-- **The transition of a confirmation** goes through for a draft and a reservation of its key. -/
theorem transitionNew_confirm (hinv : ServiceInv s) (huuid : Function.Injective s.env.uuid)
    {input : CustomerOrderTransitionInput} {key : Text} {now : Timestamp} {order : CustomerOrder}
    {reservation : Reservation}
    (hfound : s.findOrder input.place.branchId input.orderId = some order)
    (hdraft : order.status = .DRAFT) (hversion : order.version = input.version)
    (hfresh : s.transitionByKey key = none)
    (hreservation : s.stock.documents.reservations.find? reservation.id = some reservation)
    (hkey : reservation.idempotencyKey = reservationKey s.env order.id) :
    ∃ s', transitionNew s ((input.change key now).confirm reservation.id) = .ok s' := by
  have horder : order.id = input.orderId := key_of_find? (find?_of_findOrder hfound)
  have hreferences :
    assertReferences s ((input.change key now).confirm reservation.id) = .ok () := by
    refine bind_eq_ok.mpr ⟨⟨⟩, ensure_eq_ok.mpr fun id hid ↦ ?_, ?_⟩
    · cases hid
      rw [hreservation]
      rfl
    · refine bind_eq_ok.mpr ⟨⟨⟩, ensure_eq_ok.mpr nofun, ?_⟩
      refine ensure_eq_ok.mpr fun o ho hne ↦ ⟨fun id hid hsame ↦ hne ?_, nofun⟩
      -- the reservation of another order has the key of that order
      cases hid
      obtain ⟨r, hr, hrkey, -⟩ := (hinv.orders o ho).reserved reservation.id hsame
      rw [hreservation] at hr
      cases hr
      rw [hkey] at hrkey
      have hid := s.env.uuidText_injective (append_cancel_left hrkey)
      exact hid.symm.trans horder
  have hunused : ∀ t ∈ s.transitions.rows, t.idempotencyKey ≠ key := by
    intro t ht
    simpa using List.find?_eq_none.mp hfresh t ht
  obtain ⟨transitions, hinsert⟩ := insert_isSome
    (t := s.transitions)
    (r := {
      id := s.env.uuid s.drawn, orderId := input.orderId, fromStatus := order.status,
      toStatus := .CONFIRMED, reason := none, idempotencyKey := key,
      requestFingerprint := ((input.change key now).confirm reservation.id).fingerprint })
    (transitionId_fresh hinv huuid le_rfl)
  let confirmed : Store := { s with
    drawn := s.drawn + 1
    orders := s.orders.update input.orderId
      ((input.change key now).confirm reservation.id).apply (fun _ ↦ rfl)
    transitions := transitions }
  have hlocked : transitionLocked s ((input.change key now).confirm reservation.id) =
      .ok confirmed := by
    refine bind_eq_ok.mpr ⟨order, demand_eq_ok.mpr hfound, ?_⟩
    refine bind_eq_ok.mpr ⟨⟨⟩, ensure_eq_ok.mpr (mem_singleton.mpr hdraft), ?_⟩
    refine bind_eq_ok.mpr ⟨⟨⟩, ensure_eq_ok.mpr hversion, ?_⟩
    refine bind_eq_ok.mpr ⟨⟨⟩, ensure_eq_ok.mpr (fun h ↦ ?_), ?_⟩
    · exact absurd h (show OrderStatus.CONFIRMED ∉ [.PREPARING, .READY] by decide)
    refine bind_eq_ok.mpr ⟨⟨⟩, hreferences, ?_⟩
    refine bind_eq_ok.mpr ⟨⟨⟩, ensure_eq_ok.mpr hunused, ?_⟩
    exact bind_eq_ok.mpr ⟨transitions, demand_eq_ok.mpr hinsert, rfl⟩
  refine ⟨confirmed, ?_⟩
  rw [transitionNew, hlocked]
  rfl

theorem change_confirm_iff (hinv : ServiceInv s) (hsound : KeysSound s)
    (huuid : Function.Injective s.env.uuid) {input : CustomerOrderTransitionInput} {key : Text}
    {order : CustomerOrder} {reservation : Reservation}
    (hfound : s.findOrder input.place.branchId input.orderId = some order)
    (hversion : order.version = input.version)
    (hreservation : s.stock.documents.reservations.find? reservation.id = some reservation)
    (hkey : reservation.idempotencyKey = reservationKey s.env order.id) :
    ((change fun now ↦ (input.change key now).confirm reservation.id).alone s).2 = .ok () ↔
      order.status = .DRAFT ∧ s.transitionByKey key = none := by
  rw [change, Saga.alone_look_bind]
  cases ht : s.transitionByKey key with
  | some t =>
    have hreplay : replayTransition s ((input.change key s.shop.now).confirm reservation.id) t =
        .error .customerOrderIdempotencyConflict :=
      replayTransition_current hsound (mem_of_find?_eq_some ht) hfound hversion
    have hlook : s.transitionByKey
        ((input.change key s.shop.now).confirm reservation.id).idempotencyKey = some t := ht
    rw [hlook]
    dsimp only
    rw [hreplay]
    exact iff_of_false (by rintro ⟨⟩) (by rintro ⟨_, ⟨⟩⟩)
  | none =>
    have hlook : s.transitionByKey
        ((input.change key s.shop.now).confirm reservation.id).idempotencyKey = none := ht
    rw [hlook]
    by_cases hdraft : order.status = .DRAFT
    · obtain ⟨s', hnew⟩ : ∃ s', transitionNew s
          ((input.change key s.shop.now).confirm reservation.id) = .ok s' :=
        transitionNew_confirm hinv huuid hfound hdraft hversion ht hreservation hkey
      refine iff_of_true ?_ ⟨hdraft, rfl⟩
      show ((Saga.commit fun s : Store ↦ transitionNew s
        ((input.change key s.shop.now).confirm reservation.id)).alone s).2 = .ok ()
      rw [Saga.alone_commit_ok hnew]
    · refine iff_of_false (fun h ↦ hdraft ?_) fun h ↦ hdraft h.1
      cases hnew : transitionNew s ((input.change key s.shop.now).confirm reservation.id) with
      | error e =>
        have hrefused : ((Saga.commit fun s : Store ↦ transitionNew s
            ((input.change key s.shop.now).confirm reservation.id)).alone s).2 = .ok () := h
        rw [Saga.alone_commit_error hnew] at hrefused
        cases hrefused
      | ok s' =>
        rcases transitionNew_cases hnew with
          ⟨-, t, hrecorded, -⟩ | ⟨found, -, -, hfound', hstatus, -⟩
        · cases hlook.symm.trans hrecorded
        · cases hfound.symm.trans hfound'
          exact mem_singleton.mp hstatus

theorem alone_confirm {input : CustomerOrderTransitionInput} {key : Text} {order : CustomerOrder}
    (hkey : assertKey input.idempotencyKey = .ok key)
    (hfound : s.findOrder input.place.branchId input.orderId = some order) :
    (confirm input).alone s =
      if order.status ∈ [.DRAFT, .CONFIRMED] then
        (reserve (order.reservation s.env input.place) >>= fun reservation ↦
          (change fun now ↦ (input.change key now).confirm reservation.id).rescue
            (compensate input reservation.id)).alone s
      else (s, .error (.customerOrderState (.order order.status))) := by
  rw [confirm, Saga.alone_check_bind, hkey]
  dsimp only
  rw [requireOrder, Saga.alone_look_bind, hfound, demand]
  dsimp only
  rw [Saga.alone_look_bind]
  dsimp only [pure, Except.pure]
  rw [Saga.alone_check_bind, ensure]
  by_cases hread : order.status ∈ [.DRAFT, .CONFIRMED]
  · rw [if_pos hread, if_pos hread]
  · rw [if_neg hread, if_neg hread]

/-- **A confirmation decided on the order as it is** goes through exactly when the order is a draft
and the key is new. -/
theorem confirms_iff (hinv : ServiceInv s) (hsound : KeysSound s)
    (huuid : Function.Injective s.env.uuid) {input : CustomerOrderTransitionInput} {key : Text}
    {order : CustomerOrder} (hkey : assertKey input.idempotencyKey = .ok key)
    (hfound : s.findOrder input.place.branchId input.orderId = some order)
    (hversion : order.version = input.version) :
    ((confirm input).alone s).2 = .ok () ↔
      (∃ reservation, ((reserve (order.reservation s.env input.place)).alone s).2 =
        .ok reservation) ∧ order.status = .DRAFT ∧ s.transitionByKey key = none := by
  rw [alone_confirm hkey hfound]
  split
  case isFalse hread =>
    refine iff_of_false nofun fun h ↦ hread ?_
    rw [h.2.1]
    exact mem_cons_self
  case isTrue =>
    cases hreserve : ((reserve (order.reservation s.env input.place)).alone s).2 with
    | error e =>
      rw [Saga.alone_bind, hreserve]
      exact iff_of_false nofun fun h ↦ nomatch h.1.choose_spec
    | ok reservation =>
      obtain ⟨hmoves, hgranted⟩ := (@safe_reserve s (order.reservation s.env input.place)
        (fun result s' ↦ ∀ r, result = .ok r → s'.stock.documents.reservations.find? r.id = some r ∧
            r.idempotencyKey = reservationKey s.env order.id)
        (fun s' r _ hr hrkey _ r' h ↦ by cases h; exact ⟨hr, hrkey⟩)
        (fun _ _ _ h ↦ nomatch h)).alone hinv
      obtain ⟨hreservation, hreservationKey⟩ := hgranted reservation hreserve
      rw [Saga.alone_bind, hreserve]
      rw [alone_reserve]
      rw [alone_reserve] at hreservation hmoves
      generalize ((reserve (order.reservation s.env input.place)).alone s).1.stock = stock at *
      have hsound' : KeysSound { s with stock := stock } := ⟨hsound.distinct, hsound.past⟩
      have hchange := @change_confirm_iff { s with stock := stock } hmoves.2 hsound' huuid input key
        order reservation hfound hversion hreservation hreservationKey
      have hrescued : (((change fun now ↦ (input.change key now).confirm reservation.id).rescue
          (compensate input reservation.id)).alone { s with stock := stock }).2 = .ok () ↔
            ((change fun now ↦ (input.change key now).confirm reservation.id).alone
              { s with stock := stock }).2 = .ok () := by
        rw [Saga.alone_rescue]
        cases hlast : ((change fun now ↦ (input.change key now).confirm reservation.id).alone
            { s with stock := stock }).2 with
        | ok _ => exact Iff.rfl
        | error e =>
          refine iff_of_false ?_ nofun
          exact ((compensate_fails input reservation.id e _).alone trivial).2
      rw [hrescued, hchange]
      exact ⟨fun h ↦ ⟨⟨reservation, rfl⟩, h⟩, fun h ↦ h.2⟩

end UInventario.Orders
