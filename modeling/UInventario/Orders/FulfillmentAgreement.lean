import UInventario.Foundations.LockedRuns
import UInventario.Orders.Shipping

/-!
# Orders and their fulfilments agree

The transactions of the two repositories side by side. A transition, and a dispatch, looks its key
up before it locks the order; what follows is one step. `elsewhere` is whatever the rest of the
application does, which writes to no table of orders.

`OrderWrite` says what each transaction does to the orders. An order that ends takes its fulfilment
along, and only a `READY` order is dispatched; but the carrier can be asked to take back the
shipment of an order at its end, and the fulfilment is then `READY` again
(`shipment_cancelled_after_end`). In the other runs they agree (`fulfillment_agrees`).
-/

namespace UInventario.Orders

open Outcome LockedRuns

/-! ### The system -/

inductive Change
  | confirm (reservationId : Uuid)
  | prepare
  | ready
  | deliver (saleId : Uuid)
  | cancel (reason : Text)

/-- What `transition` is called with. -/
def Change.input (change : Change) (input : ChangeInput) : TransitionInput :=
  match change with
  | .confirm reservationId => input.confirm reservationId
  | .prepare => input.prepare
  | .ready => input.ready
  | .deliver saleId => input.deliver saleId
  | .cancel reason => input.cancel reason

inductive Request
  | create (input : CreateInput)
  | transition (change : Change) (input : ChangeInput)
  | dispatch (input : DispatchInput)
  | cancelShipment (input : ShippingInput)
  | poll (input : ShippingInput)
  | event (input : EventInput)
  | elsewhere (directory : Directory) (stock : UInventario.Store) (shop : Pos.Cart.Shop)
      (sales : Table Sale)

inductive Decision
  | go
  | replay

namespace Request

def read (request : Request) (s : Store) : Except Failure Decision :=
  match request with
  | .transition change input =>
    match s.transitionByKey input.idempotencyKey with
    | none => pure .go
    | some t => do
      replayTransition s (change.input input) t
      pure .replay
  | .dispatch input =>
    match s.dispatchByKey input.idempotencyKey with
    | none => pure .go
    | some attempt => do
      replayDispatch s input attempt
      pure .replay
  | _ => pure .go

def needs (request : Request) (_ : Decision) (_ : Store) : List Uuid :=
  match request with
  | .transition _ input => [input.orderId]
  | .dispatch input => [input.orderId]
  | .cancelShipment input | .poll input => [input.orderId]
  | .event input => [input.orderId]
  | _ => []

def write (request : Request) (decision : Decision) (s : Store) : Except Failure Store :=
  match request, decision with
  | .create input, .go => Orders.create s input
  | .transition change input, .go => transitionNew s (change.input input)
  | .dispatch input, .go => dispatchNew s input
  | .cancelShipment input, .go => Orders.cancelShipment s input
  | .poll input, .go => Orders.poll s input
  | .event input, .go => Orders.event s input
  | .elsewhere directory stock shop sales, .go =>
    pure { s with directory := directory, stock := stock, shop := shop, sales := sales }
  -- a replay has its answer and writes nothing
  | _, .replay => pure s

end Request

/-- **Orders and shipments.** -/
def protocol : Protocol Store Request Decision Uuid Failure where
  holds := fun _ ↦ []
  read := Request.read
  needs := Request.needs
  write := Request.write

/-! ### What the transactions do to the orders -/

variable {s s' : Store} {orderId : Uuid}

/-- The cancellation of a shipment is new, and the carrier can grant it. -/
def Store.grantsCancellation (s : Store) (input : ShippingInput) (order : CustomerOrder) : Prop :=
  input.scenario ≠ .TIMEOUT ∧
    (∀ a ∈ s.shippingActions.rows, a.idempotencyKey ≠ input.idempotencyKey) ∧
    order.fulfillment.shipment ≠ none ∧ order.fulfillment.trackingStatus ≠ some .DELIVERED
deriving Decidable

/-- **What a transaction does to the orders.** -/
inductive OrderWrite (s : Store) : Request → Table CustomerOrder → Prop
  | same (request) : OrderWrite s request s.orders
  | created (input) {order orders} (hinsert : s.orders.insert order = some orders)
      (hstatus : order.status = .DRAFT) (hfulfillment : order.fulfillment.status = .PENDING) :
      OrderWrite s (.create input) orders
  | changed {input : TransitionInput} (change changeInput)
      (hinput : input = change.input changeInput) {order}
      (hfound : s.orders.find? input.orderId = some order)
      (hstatus : order.status ∈ input.fromStatuses) :
      OrderWrite s (.transition change changeInput)
        (s.orders.update input.orderId input.apply (fun _ ↦ rfl))
  | dispatched (input) {order attempt result}
      (hfound : s.orders.find? input.orderId = some order) (hready : order.status = .READY) :
      OrderWrite s (.dispatch input) (s.orders.update input.orderId fun o ↦ { o with
        version := o.version + 1
        fulfillment := DispatchResult.apply result attempt o.fulfillment })
  | shipmentCancelled (input) {order}
      (hfound : s.findOrder input.branchId input.orderId = some order)
      (hgrants : s.grantsCancellation input order) :
      OrderWrite s (.cancelShipment input) (s.orders.update input.orderId fun o ↦ { o with
        fulfillment := CancelResult.CANCELLED.apply o.fulfillment })
  | tracked (request) {orderId} {f : Fulfillment → Fulfillment}
      (hf : ∀ x, (f x).status = x.status) :
      OrderWrite s request (s.orders.update orderId fun o ↦ { o with
        fulfillment := f o.fulfillment })

theorem onDuplicate_eq_ok {transaction : Except Failure Store} {replay : Except Failure Unit}
    (h : onDuplicate s transaction replay = .ok s') : transaction = .ok s' ∨ s' = s := by
  cases transaction with
  | ok s₁ => exact .inl h
  | error e =>
    cases e with
    | duplicateEntry =>
      obtain ⟨-, -, h⟩ := bind_eq_ok.mp h
      exact .inr (pure_eq_ok.mp h).symm
    | _ => cases h

theorem create_writes {input : CreateInput} (h : create s input = .ok s') :
    s' = s ∨ ∃ order orders, s.orders.insert order = some orders ∧ order.status = .DRAFT ∧
      order.fulfillment.status = .PENDING ∧ 0 < order.total ∧ order.reservationId = none ∧
      s' = { s with drawn := s.drawn + 1, orders := orders } := by
  rw [create] at h
  split at h
  · obtain ⟨-, -, h⟩ := bind_eq_ok.mp h
    exact .inl (pure_eq_ok.mp h).symm
  · rcases onDuplicate_eq_ok h with h | rfl
    · simp only [createLocked, Store.randomUUID, insertOrder, eq_ok] at h
      obtain ⟨-, -, lines, -, payments, -, -, ⟨htotal, -⟩, -, -, orders, hinsert, rfl⟩ := h
      exact .inr ⟨_, orders, hinsert, rfl, rfl, htotal, rfl, rfl⟩
    · exact .inl rfl

theorem find?_of_findOrder {branchId : Uuid} {order : CustomerOrder}
    (h : s.findOrder branchId orderId = some order) : s.orders.find? orderId = some order :=
  (Option.filter_eq_some_iff.mp h).1

/-- **A transition** of an order that is in one of the statuses it starts from. -/
theorem transitionNew_writes {input : TransitionInput} (h : transitionNew s input = .ok s') :
    s' = s ∨ ∃ order t transitions, s.findOrder input.branchId input.orderId = some order ∧
      order.status ∈ input.fromStatuses ∧ order.version = input.version ∧
      (input.toStatus ∈ [.PREPARING, .READY] → s.reservationHolds order.reservationId input.now) ∧
      (∀ t' ∈ s.transitions.rows, t'.idempotencyKey ≠ input.idempotencyKey) ∧
      t.idempotencyKey = input.idempotencyKey ∧ t.id = s.env.uuid s.drawn ∧
      s.transitions.insert t = some transitions ∧
      s' = { s with
        drawn := s.drawn + 1
        orders := s.orders.update input.orderId input.apply (fun _ ↦ rfl)
        transitions := transitions } := by
  rcases onDuplicate_eq_ok h with h | rfl
  · simp only [transitionLocked, Store.randomUUID, insertTransition, eq_ok] at h
    obtain ⟨order, hfound, -, hstatus, -, hversion, -, hholds, -, -, _, hkey, transitions, hinsert,
      rfl⟩ := h
    exact .inr ⟨order, _, transitions, hfound, hstatus, hversion, hholds, ensure_eq_ok.mp hkey, rfl,
      rfl, hinsert, rfl⟩
  · exact .inl rfl

theorem dispatchNew_writes {input : DispatchInput} (h : dispatchNew s input = .ok s') :
    s' = s ∨ ∃ order attempts result, s.findOrder input.branchId input.orderId = some order ∧
      order.status = .READY ∧
      s' = { s with
        drawn := s.drawn + 1
        dispatchAttempts := attempts
        orders := s.orders.update input.orderId fun o ↦ { o with
          version := o.version + 1
          fulfillment := DispatchResult.apply result (order.fulfillment.attemptCount + 1)
            o.fulfillment } } := by
  rcases onDuplicate_eq_ok h with h | rfl
  · simp only [dispatchLocked, Store.randomUUID, eq_ok] at h
    obtain ⟨order, hfound, -, ⟨hready, -⟩, -, -, carrierCode, -, -, -, attempts, -, rfl⟩ := h
    exact .inr ⟨order, attempts, _, hfound, hready, rfl⟩
  · exact .inl rfl

variable {input : ShippingInput} {decision : Decision} {request : Request}

theorem saveAction_writes {action : ShippingActionKind} (h : saveAction s input action = .ok s') :
    (∀ a ∈ s.shippingActions.rows, a.idempotencyKey ≠ input.idempotencyKey) ∧
      ∃ a actions, a.id = s.env.uuid s.drawn ∧ s.shippingActions.insert a = some actions ∧
        s' = { s with drawn := s.drawn + 1, shippingActions := actions } := by
  simp only [saveAction, Store.randomUUID, eq_ok] at h
  obtain ⟨-, hkey, actions, hinsert, rfl⟩ := h
  exact ⟨hkey, _, actions, rfl, hinsert, rfl⟩

theorem cancelShipment_writes (h : cancelShipment s input = .ok s') :
    s' = s ∨ ∃ order a actions, s.findOrder input.branchId input.orderId = some order ∧
      (∀ a ∈ s.shippingActions.rows, a.idempotencyKey ≠ input.idempotencyKey) ∧
      order.fulfillment.shipment ≠ none ∧ order.fulfillment.trackingStatus ≠ some .DELIVERED ∧
      a.id = s.env.uuid s.drawn ∧ s.shippingActions.insert a = some actions ∧
      s' = { s.updateFulfillment input.orderId (cancelAtCarrier input.scenario).apply with
        drawn := s.drawn + 1, shippingActions := actions } := by
  obtain ⟨replayed, -, h⟩ := bind_eq_ok.mp h
  split at h
  · exact .inl (pure_eq_ok.mp h).symm
  · simp only [eq_ok] at h
    obtain ⟨order, hfound, reference, hshipment, -, htracking, h⟩ := h
    obtain ⟨hkey, a, actions, hid, hinsert, rfl⟩ := saveAction_writes h
    exact .inr ⟨order, a, actions, hfound, hkey, by simp [hshipment], htracking, hid, hinsert,
      rfl⟩

theorem Fulfillment.status_afterEvent (f : Fulfillment) (event : CarrierTrackingEvent) :
    (f.afterEvent event).status = f.status := by
  rw [afterEvent]
  split <;> rfl

theorem insertEvent_writes {current : Fulfillment} {event : CarrierTrackingEvent}
    (h : insertEvent s orderId current event = .ok s') :
    ∃ events, s' = { s.updateFulfillment orderId fun f ↦ f.afterEvent event with
      drawn := s.drawn + 1, carrierEvents := events } := by
  simp only [insertEvent, Store.randomUUID, eq_ok] at h
  obtain ⟨-, -, events, -, rfl⟩ := h
  exact ⟨events, rfl⟩

theorem event_writes {input : EventInput} (h : event s input = .ok s') : s' = s ∨ ∃ events, s' = {
      s.updateFulfillment input.orderId fun f ↦ f.afterEvent input.event with
      drawn := s.drawn + 1
      carrierEvents := events } := by
  rw [event] at h
  split at h
  · obtain ⟨-, -, h⟩ := bind_eq_ok.mp h
    exact .inl (pure_eq_ok.mp h).symm
  · simp only [eq_ok] at h
    obtain ⟨order, -, reference, -, -, -, h⟩ := h
    exact .inr (insertEvent_writes h)

theorem poll_writes (h : poll s input = .ok s') :
    s' = s ∨ ∃ (f : Fulfillment → Fulfillment) (drawn : ℕ) (events : Table CarrierEvent)
        (a : ShippingAction) (actions : Table ShippingAction), (∀ x, (f x).status = x.status) ∧
      s.drawn < drawn ∧ a.id = s.env.uuid (drawn - 1) ∧
      s.shippingActions.insert a = some actions ∧
      s' = { s.updateFulfillment input.orderId f with
        drawn := drawn, carrierEvents := events, shippingActions := actions } := by
  obtain ⟨replayed, -, h⟩ := bind_eq_ok.mp h
  split at h
  · exact .inl (pure_eq_ok.mp h).symm
  · simp only [eq_ok] at h
    obtain ⟨order, -, reference, -, -, -, s₁, htrack, hsave⟩ := h
    obtain ⟨-, a, actions, hid, hinsert, rfl⟩ := saveAction_writes hsave
    revert htrack
    cases track s.env input.now input.scenario reference
        order.fulfillment.latestEventSequence with
    | FAILED_RETRYABLE code =>
      intro htrack
      rw [applyTrack, pure_eq_ok] at htrack
      subst htrack
      exact .inr ⟨fun f ↦ { f with lastErrorCode := some code, manualActionRequired := true },
        s.drawn + 1, s.carrierEvents, a, actions, fun _ ↦ rfl, Nat.lt_succ_self _, hid, hinsert,
        rfl⟩
    | SUCCEEDED e =>
      intro htrack
      obtain ⟨events, rfl⟩ := insertEvent_writes htrack
      exact .inr ⟨_, s.drawn + 1 + 1, events, a, actions, fun x ↦ x.status_afterEvent e,
        Nat.lt_succ_of_lt (Nat.lt_succ_self _), hid, hinsert, rfl⟩

theorem orderWrite
    (h : protocol.write request decision s = .ok s') : OrderWrite s request s'.orders := by
  have hsame : (pure s : Except Failure Store) = .ok s' → OrderWrite s request s'.orders := by
    intro hpure
    rw [pure_eq_ok] at hpure
    exact hpure ▸ .same _
  cases decision with
  | replay =>
    cases request <;> exact hsame h
  | go =>
    cases request with
    | create input =>
      rcases create_writes h with
        rfl | ⟨order, orders, hinsert, hstatus, hfulfillment, -, -, rfl⟩
      · exact .same _
      · exact .created input hinsert hstatus hfulfillment
    | transition change input =>
      rcases transitionNew_writes h with rfl | ⟨order, t, transitions, hfound, hstatus, -, -, -, -,
        -,
        -, rfl⟩
      · exact .same _
      · exact .changed change input rfl (find?_of_findOrder hfound) hstatus
    | dispatch input =>
      rcases dispatchNew_writes h with rfl | ⟨order, attempts, result, hfound, hready, rfl⟩
      · exact .same _
      · exact .dispatched input (find?_of_findOrder hfound) hready
    | cancelShipment input =>
      rcases cancelShipment_writes h with
        rfl | ⟨order, a, actions, hfound, hkey, hshipment, htracking, -, -, rfl⟩
      · exact .same _
      · by_cases htimeout : input.scenario = .TIMEOUT
        · rw [cancelAtCarrier, if_pos htimeout]
          exact .tracked _ fun _ ↦ rfl
        · rw [cancelAtCarrier, if_neg htimeout]
          exact .shipmentCancelled input hfound ⟨htimeout, hkey, hshipment, htracking⟩
    | poll input =>
      rcases poll_writes h with rfl | ⟨f, drawn, events, a, actions, hf, -, -, -, rfl⟩
      · exact .same _
      · exact .tracked _ hf
    | event input =>
      rcases event_writes h with rfl | ⟨events, rfl⟩
      · exact .same _
      · exact .tracked _ fun x ↦ x.status_afterEvent input.event
    | «elsewhere» directory stock shop sales =>
      have heq := pure_eq_ok.mp h
      subst heq
      exact .same _

/-! ### Agreement -/

namespace CustomerOrder

/-- **The fulfilment agrees with the order.** -/
structure Agrees (order : CustomerOrder) : Prop where
  delivered : order.status = .DELIVERED → order.fulfillment.status = .DELIVERED
  cancelled : order.status = .CANCELLED → order.fulfillment.status = .CANCELLED
  inShipment : order.fulfillment.status = .DISPATCHED ∨
    order.fulfillment.status = .RETRYABLE_FAILURE → order.status = .READY

def AtEnd (order : CustomerOrder) : Prop :=
  order.status = .DELIVERED ∨ order.status = .CANCELLED
deriving Decidable

namespace Agrees

variable {order : CustomerOrder}

theorem congr {order' : CustomerOrder} (h : order.Agrees) (hstatus : order'.status = order.status)
    (hfulfillment : order'.fulfillment.status = order.fulfillment.status) : order'.Agrees := by
  obtain ⟨hdelivered, hcancelled, hinShipment⟩ := h
  constructor
  · rwa [hstatus, hfulfillment]
  · rwa [hstatus, hfulfillment]
  · rwa [hstatus, hfulfillment]

theorem of_ready (h : order.status = .READY) : order.Agrees := by
  refine ⟨?_, ?_, fun _ ↦ h⟩
  · rw [h]
    rintro ⟨⟩
  · rw [h]
    rintro ⟨⟩

theorem transition (h : order.Agrees) {change : Change} {changeInput : ChangeInput}
    (hstatus : order.status ∈ (change.input changeInput).fromStatuses) :
    ((change.input changeInput).apply order).Agrees := by
  cases change with
  | confirm reservationId =>
    have hdraft : order.status = .DRAFT := List.mem_singleton.mp hstatus
    refine ⟨nofun, nofun, fun hshipment ↦ ?_⟩
    have hready := h.inShipment hshipment
    rw [hdraft] at hready
    cases hready
  | prepare => exact ⟨nofun, nofun, by rintro (h | h) <;> cases h⟩
  | ready => exact of_ready rfl
  | deliver saleId => exact ⟨fun _ ↦ rfl, nofun, by rintro (h | h) <;> cases h⟩
  | cancel reason => exact ⟨nofun, fun _ ↦ rfl, by rintro (h | h) <;> cases h⟩

end Agrees

end CustomerOrder

def KeepsEnd (s s' : Store) : Prop :=
  ∀ id order, s.orders.find? id = some order → order.AtEnd →
    ∃ order', s'.orders.find? id = some order' ∧ order'.status = order.status ∧
      order'.fulfillment.status = order.fulfillment.status

namespace KeepsEnd

variable {s₁ : Store}

theorem refl (s : Store) : KeepsEnd s s :=
  fun _ order hfound _ ↦ ⟨order, hfound, rfl, rfl⟩

theorem trans (h : KeepsEnd s s₁) (h' : KeepsEnd s₁ s') : KeepsEnd s s' := by
  intro id order hfound hend
  obtain ⟨order₁, hfound₁, hstatus₁, hfulfillment₁⟩ := h id order hfound hend
  have hend₁ : order₁.AtEnd := by
    rw [CustomerOrder.AtEnd, hstatus₁]
    exact hend
  obtain ⟨order', hfound', hstatus', hfulfillment'⟩ := h' id order₁ hfound₁ hend₁
  exact ⟨order', hfound', hstatus'.trans hstatus₁, hfulfillment'.trans hfulfillment₁⟩

theorem of_update (f : CustomerOrder → CustomerOrder)
    (hf : ∀ o, (f o).id = o.id) (horders : s'.orders = s.orders.update orderId f hf)
    (h : ∀ order, s.orders.find? orderId = some order → order.AtEnd →
      (f order).status = order.status ∧
        (f order).fulfillment.status = order.fulfillment.status) : KeepsEnd s s' := by
  intro id order hfound hend
  rw [horders, Table.find?_update, hfound, Option.map_some]
  by_cases hid : id = orderId
  · subst hid
    rw [if_pos rfl]
    exact ⟨_, rfl, h order hfound hend⟩
  · rw [if_neg hid]
    exact ⟨order, rfl, rfl, rfl⟩

end KeepsEnd

/-- **The condition.** A cancellation that the carrier grants is of an order that is not at its
end. -/
def LeavesEndedShipments (s : Store) (request : Request) (_ : Decision) : Prop :=
  match request with
  | .cancelShipment input => ∀ order ∈ s.findOrder input.branchId input.orderId,
      s.grantsCancellation input order → ¬order.AtEnd
  | _ => True

instance (s : Store) (request : Request) (decision : Decision) :
    Decidable (LeavesEndedShipments s request decision) := by
  cases request <;> unfold LeavesEndedShipments <;> infer_instance

/-- The invariant, from the point of view of an earlier state of the orders. -/
structure InAgreement (earlier s : Store) : Prop where
  agrees : ∀ order ∈ s.orders.rows, order.Agrees
  keepsEnd : KeepsEnd earlier s

namespace InAgreement

variable {earlier : Store}

theorem of_update (h : InAgreement earlier s)
    (f : CustomerOrder → CustomerOrder) (hf : ∀ o, (f o).id = o.id)
    (horders : s'.orders = s.orders.update orderId f hf)
    (hupdate : ∀ order, s.orders.find? orderId = some order → order.Agrees →
      (f order).Agrees ∧ (order.AtEnd → (f order).status = order.status ∧
        (f order).fulfillment.status = order.fulfillment.status)) :
    InAgreement earlier s' := by
  constructor
  · rw [horders]
    exact Table.forall_mem_update _ h.agrees fun y hy hagrees ↦ (hupdate y hy hagrees).1
  · refine h.keepsEnd.trans (KeepsEnd.of_update f hf horders fun order hfound hend ↦ ?_)
    exact (hupdate order hfound (h.agrees order (Table.mem_of_find? hfound))).2 hend

/-- **Each transaction** that meets the condition keeps the agreement. -/
theorem of_write (h : InAgreement earlier s) (hC : LeavesEndedShipments s request decision)
    (hwrite : protocol.write request decision s = .ok s') : InAgreement earlier s' := by
  have horders := orderWrite hwrite
  generalize hnew : s'.orders = orders at horders
  cases horders with
  | same =>
    obtain ⟨hagrees, hkeeps⟩ := h
    constructor
    · rwa [hnew]
    · intro id order hfound hend
      rw [hnew]
      exact hkeeps id order hfound hend
  | created input hinsert hstatus hfulfillment =>
    rw [← hnew] at hinsert
    constructor
    · refine (Table.forall_mem_insert hinsert).mpr ⟨h.agrees, ?_⟩
      refine ⟨?_, ?_, ?_⟩
      · rw [hstatus]
        rintro ⟨⟩
      · rw [hstatus]
        rintro ⟨⟩
      · rw [hfulfillment]
        rintro (h | h) <;> cases h
    · refine h.keepsEnd.trans fun id x hx _ ↦ ?_
      exact ⟨x, Table.find?_insert_of_some hinsert hx, rfl, rfl⟩
  | @changed input change changeInput hinput order hfound hstatus =>
    subst hinput
    refine h.of_update (change.input changeInput).apply (fun _ ↦ rfl) hnew fun x hx hagrees ↦ ?_
    rw [hfound] at hx
    cases hx
    refine ⟨hagrees.transition hstatus, fun hend ↦ ?_⟩
    -- no transition starts at an end
    exfalso
    have hfrom : ∀ status ∈ (change.input changeInput).fromStatuses,
        status ≠ .DELIVERED ∧ status ≠ .CANCELLED := by
      cases change <;> simp [Change.input, ChangeInput.confirm, ChangeInput.prepare,
        ChangeInput.ready, ChangeInput.deliver, ChangeInput.cancel, ChangeInput.transition]
    obtain ⟨hdelivered, hcancelled⟩ := hfrom _ hstatus
    exact hend.elim hdelivered hcancelled
  | @dispatched input order attempt result hfound hready =>
    refine h.of_update (fun o ↦ { o with
        version := o.version + 1
        fulfillment := DispatchResult.apply result attempt o.fulfillment })
      (fun _ ↦ rfl) hnew fun x hx hagrees ↦ ?_
    rw [hfound] at hx
    cases hx
    refine ⟨.of_ready hready, fun hend ↦ ?_⟩
    rw [CustomerOrder.AtEnd, hready] at hend
    rcases hend with hend | hend <;> cases hend
  | @shipmentCancelled input order hfound hgrants =>
    refine h.of_update (fun o ↦
      { o with fulfillment := CancelResult.CANCELLED.apply o.fulfillment })
      (fun _ ↦ rfl) hnew fun x hx hagrees ↦ ?_
    rw [find?_of_findOrder hfound] at hx
    cases hx
    have hopen : ¬order.AtEnd := hC order hfound hgrants
    refine ⟨⟨fun hend ↦ absurd (.inl hend) hopen, fun hend ↦ absurd (.inr hend) hopen, ?_⟩,
      fun hend ↦ absurd hend hopen⟩
    rintro (h | h) <;> cases h
  | @tracked _ orderId f hf =>
    refine h.of_update (fun o ↦ { o with fulfillment := f o.fulfillment }) (fun _ ↦ rfl) hnew
      fun x hx hagrees ↦ ?_
    exact ⟨hagrees.congr rfl (hf _), fun _ ↦ ⟨rfl, hf _⟩⟩

end InAgreement

theorem agreement_sound (earlier : Store) :
    Sound protocol LeavesEndedShipments (InAgreement earlier) fun _ _ _ ↦ True where
  read := fun _ _ ↦ trivial
  reread := fun _ _ _ ↦ trivial
  write := fun h _ hC hwrite ↦ h.of_write hC hwrite
  stable := fun _ _ _ _ _ _ ↦ trivial

def Store.idle (env : Env) (directory : Directory) (stock : UInventario.Store)
    (shop : Pos.Cart.Shop) (sales : Table Sale) : State Store Request Decision :=
  .idle (Store.fresh env directory stock shop sales)

/-- **Orders and fulfilments agree**, where the carrier takes back no shipment of an order that has
ended; and an end stays. -/
theorem fulfillment_agrees (env : Env) (directory : Directory) (stock : UInventario.Store)
    (shop : Pos.Cart.Shop) (sales : Table Sale) (events later : List (Event Request))
    (hC : protocol.Commits LeavesEndedShipments (Store.idle env directory stock shop sales)
      (events ++ later)) :
    let s := (Outcome.run protocol.step (Store.idle env directory stock shop sales) events).store
    ∀ order ∈ s.orders.rows, order.Agrees ∧ (order.AtEnd →
      ∃ order', (Outcome.run protocol.step (Store.idle env directory stock shop sales)
          (events ++ later)).store.orders.find? order.id = some order' ∧
        order'.status = order.status ∧
        order'.fulfillment.status = order.fulfillment.status) := by
  intro s order horder
  obtain ⟨hbefore, hafter⟩ := commits_append.mp hC
  have hfresh : InAgreement (Store.fresh env directory stock shop sales)
      (Store.fresh env directory stock shop sales) :=
    ⟨List.forall_mem_nil _, KeepsEnd.refl _⟩
  have hgood := (agreement_sound _).run (Good.idle hfresh) events hbefore
  refine ⟨hgood.inv.agrees order horder, fun hend ↦ ?_⟩
  have hnow : Good protocol (InAgreement s) (fun _ _ _ ↦ True)
      (Outcome.run protocol.step (Store.idle env directory stock shop sales) events) :=
    ⟨⟨hgood.inv.agrees, KeepsEnd.refl _⟩, hgood.known, hgood.exclusive⟩
  have hlater := (agreement_sound s).run hnow later hafter
  rw [Outcome.run_append]
  exact hlater.inv.keepsEnd _ order (Table.find?_key_of_mem horder) hend

/-! ### A shipment taken back twice -/

def oneBranch : Directory where
  activeBranch := fun id ↦ decide (id = 1)
  activeCustomer := fun _ ↦ true
  registerBranch := fun id ↦ if id = 1 then some 1 else none

def stockReserving (reservations : Table Reservation) : UInventario.Store :=
  { UInventario.Store.fresh default with
    locations := Table.ofRow { id := 1, warehouseId := 1, active := true, createdAt := 0 }
    documents := { Documents.empty with
      reservations := reservations
      warehouses := Table.ofRow { id := 1, branchId := 1, active := true } } }

def heldReservation : Reservation where
  id := 50
  branchId := 1
  warehouseId := 1
  locationId := 1
  customerId := 3
  status := .ACTIVE
  expiresAt := 100
  idempotencyKey := [9]
  requestFingerprint := ⟨3, 1, 24, []⟩
  closedIdempotencyKey := none
  closedRequestFingerprint := none

/-- A shop with a customer, an open shift and a product for eight units. -/
def orderShop : Pos.Cart.Shop :=
  .opened (Table.ofRow { id := 3, available := true }) 800

/-- The cart of the order: one unit of a product, ordered on the web. -/
def orderedCart : Pos.Cart.QuoteCartDto where
  customerId := some 3
  channel := some .WEB
  lines := [{ productId := 7, quantity := ⟨1, [], by decide⟩ }]

def orderedQuote : Pos.Cart.Quote :=
  (Pos.Cart.quoteCart orderShop ⟨1, 1, 1, 1⟩ {} orderedCart).toOption.get (by decide +kernel)

def deliveryOrder : CreateInput where
  branchId := 1
  warehouseId := 1
  cashRegisterId := 1
  locationId := 1
  customerId := 3
  channel := .WEB
  expiresInHours := 24
  lines := orderedCart.lines
  payments := [{ method := .CASH, amount := 800, amountReceived := 1000, reference := none }]
  quote := orderedQuote
  fulfillment := { method := .DELIVERY, carrierCode := some .SIMULATED }
  idempotencyKey := [1]
  fingerprint := [1]

def orderChange (version : ℕ) (idempotencyKey : Text) : ChangeInput where
  branchId := 1
  orderId := 0
  version := version
  idempotencyKey := idempotencyKey
  now := 10

def shippedOrder : List (Event Request) :=
  alone (.create deliveryOrder) ++
  alone (.elsewhere oneBranch (stockReserving (.ofRow heldReservation)) orderShop
    Table.empty) ++
  alone (.transition (.confirm 50) (orderChange 1 [2])) ++
  alone (.transition .prepare (orderChange 2 [3])) ++
  alone (.transition .ready (orderChange 3 [4])) ++
  alone (.dispatch { branchId := 1, orderId := 0, version := 4, idempotencyKey := [5] })

/-- The order is cancelled: the carrier takes the shipment back first. -/
def shipmentTakenBack : List (Event Request) :=
  alone (.cancelShipment
    { branchId := 1, orderId := 0, idempotencyKey := [6], scenario := .SUCCESS }) ++
  alone (.transition (.cancel [7]) (orderChange 5 [7]))

def Store.statuses (s : Store) : List (OrderStatus × FulfillmentStatus) :=
  s.orders.rows.map fun order ↦ (order.status, order.fulfillment.status)

abbrev runOfOrders (events : List (Event Request)) : State Store Request Decision :=
  Outcome.run protocol.step
    (Store.idle default oneBranch (stockReserving Table.empty) orderShop Table.empty) events

theorem fulfillment_agrees_takenBack : (runOfOrders shippedOrder).store.orders.rows.length = 1 ∧
    ∀ order ∈ (runOfOrders shippedOrder).store.orders.rows,
      order.Agrees ∧ (order.AtEnd → ∃ order',
        (runOfOrders (shippedOrder ++ shipmentTakenBack)).store.orders.find? order.id =
            some order' ∧
          order'.status = order.status ∧
          order'.fulfillment.status = order.fulfillment.status) :=
  ⟨by decide +kernel,
    fulfillment_agrees default oneBranch (stockReserving Table.empty) orderShop Table.empty
      shippedOrder shipmentTakenBack (by decide +kernel)⟩

/-- **The carrier is asked once more** to take the shipment back: the order is cancelled, its
fulfilment is ready. -/
theorem shipment_cancelled_after_end :
    (runOfOrders (shippedOrder ++ shipmentTakenBack)).store.statuses =
      [(.CANCELLED, .CANCELLED)] ∧
    (runOfOrders (shippedOrder ++ shipmentTakenBack ++ alone (.cancelShipment {
      branchId := 1, orderId := 0, idempotencyKey := [8], scenario := .SUCCESS }))).store.statuses =
        [(.CANCELLED, .READY)] := by
  decide +kernel

end UInventario.Orders
