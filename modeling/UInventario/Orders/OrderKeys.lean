import UInventario.Foundations.SagaParts
import UInventario.Orders.ServiceRuns

/-!
# The keys of orders

What every transaction on orders does: an order keeps the key and the fingerprint of its creation,
its version does not fall, no two orders have the same key, and a transition on record is one of an
earlier version of an order that is no draft any more. These are facts about single transactions
(`Saga.Commits`); `orderLaw` is the law of the service with them.

So a confirmation that is repeated under the version that the order has now is never answered with
what is on record (`replayTransition_current`).
-/

namespace UInventario.Orders

open Outcome Sagas Table List

/-! ### Keys and versions -/

structure OrderKept (o o' : CustomerOrder) : Prop where
  branchId : o'.branchId = o.branchId
  idempotencyKey : o'.idempotencyKey = o.idempotencyKey
  requestFingerprint : o'.requestFingerprint = o.requestFingerprint
  version : o.version ≤ o'.version

/-- The orders of a store go on under their keys, and what is on record stays. -/
structure OrdersKept (s s' : Store) : Prop where
  orders : ∀ id o, s.orders.find? id = some o → ∃ o', s'.orders.find? id = some o' ∧ OrderKept o o'
  transitions : ∀ t ∈ s.transitions.rows, t ∈ s'.transitions.rows

/-- The orders of the later store are those of the earlier one and `new` ones. -/
def OrdersFrom (new : CustomerOrder → Prop) (s s' : Store) : Prop :=
  ∀ o' ∈ s'.orders.rows, new o' ∨ ∃ o ∈ s.orders.rows, OrderKept o o'

/-- **The keys of orders and the record of their transitions.** -/
structure KeysSound (s : Store) : Prop where
  distinct : ∀ o ∈ s.orders.rows, ∀ o' ∈ s.orders.rows,
    o.idempotencyKey = o'.idempotencyKey → o = o'
  past : ∀ t ∈ s.transitions.rows, ∃ o, s.orders.find? t.orderId = some o ∧
    t.requestFingerprint.version < o.version ∧ o.status ≠ .DRAFT

/-- What a transaction keeps that makes `new` orders. -/
def KeepsKeys (new : CustomerOrder → Prop) (s s' : Store) : Prop :=
  ServiceInv s → KeysSound s → KeysSound s' ∧ OrdersKept s s' ∧ OrdersFrom new s s'

theorem OrderKept.refl (o : CustomerOrder) : OrderKept o o :=
  ⟨rfl, rfl, rfl, le_rfl⟩

variable {o : CustomerOrder}

theorem OrderKept.trans {o' o'' : CustomerOrder} (h : OrderKept o o') (h' : OrderKept o' o'') :
    OrderKept o o'' :=
  ⟨h'.branchId.trans h.branchId, h'.idempotencyKey.trans h.idempotencyKey,
    h'.requestFingerprint.trans h.requestFingerprint, h.version.trans h'.version⟩

theorem OrdersKept.refl (s : Store) : OrdersKept s s :=
  ⟨fun _ o ho ↦ ⟨o, ho, .refl o⟩, fun _ ht ↦ ht⟩

theorem OrdersKept.trans {s s' s'' : Store} (h : OrdersKept s s') (h' : OrdersKept s' s'') :
    OrdersKept s s'' := by
  refine ⟨fun id o ho ↦ ?_, fun t ht ↦ h'.transitions t (h.transitions t ht)⟩
  obtain ⟨o', ho', hkept⟩ := h.orders id o ho
  obtain ⟨o'', ho'', hkept'⟩ := h'.orders id o' ho'
  exact ⟨o'', ho'', hkept.trans hkept'⟩

variable {s s' : Store} {new : CustomerOrder → Prop} {idempotencyKey : Text} {orderId : Uuid}

theorem KeepsKeys.refl (s : Store) : KeepsKeys new s s :=
  fun _ h ↦ ⟨h, .refl s, fun o ho ↦ .inr ⟨o, ho, .refl o⟩⟩

theorem KeepsKeys.of_eq (horders : s'.orders = s.orders)
    (htransitions : s'.transitions = s.transitions) : KeepsKeys new s s' := by
  intro _ h
  refine ⟨⟨?_, ?_⟩, ⟨fun id o ho ↦ ⟨o, ?_, .refl o⟩, fun t ht ↦ ?_⟩,
    fun o ho ↦ .inr ⟨o, ?_, .refl o⟩⟩
  · rw [horders]
    exact h.distinct
  · rw [horders, htransitions]
    exact h.past
  · rw [horders]
    exact ho
  · rw [htransitions]
    exact ht
  · rw [horders] at ho
    exact ho

/-- **A transaction that rewrites an order** under its key, and records no transition but one of an
earlier version. -/
theorem keepsKeys_update (f : CustomerOrder → CustomerOrder)
    (hf : ∀ o, (f o).id = o.id) (horders : s'.orders = s.orders.update orderId f hf)
    (hkept : ∀ o, OrderKept o (f o)) (hstatus : ∀ o, o.status ≠ .DRAFT → (f o).status ≠ .DRAFT)
    (hpast : ∀ t ∈ s'.transitions.rows, t ∈ s.transitions.rows ∨ ∃ o, t.orderId = orderId ∧
      s.orders.find? orderId = some o ∧ t.requestFingerprint.version < (f o).version ∧
      (f o).status ≠ .DRAFT)
    (htransitions : ∀ t ∈ s.transitions.rows, t ∈ s'.transitions.rows) :
    KeepsKeys new s s' := by
  intro _ h
  have hfind : ∀ id, s'.orders.find? id =
      (s.orders.find? id).map fun o ↦ if id = orderId then f o else o := by
    intro id
    rw [horders]
    exact find?_update id
  have hback : ∀ o' ∈ s'.orders.rows, ∃ o ∈ s.orders.rows, OrderKept o o' ∧ o'.id = o.id := by
    intro o' ho'
    rw [horders] at ho'
    obtain ⟨o, ho, hid, hsame, hother⟩ := exists_of_mem_update ho'
    refine ⟨o, ho, ?_, hid.symm⟩
    by_cases heq : o.id = orderId
    · rw [hsame heq]
      exact hkept o
    · rw [hother heq]
      exact .refl o
  refine ⟨⟨?_, ?_⟩, ⟨?_, htransitions⟩, fun o' ho' ↦ ?_⟩
  · intro o₁ ho₁ o₂ ho₂ hkey
    obtain ⟨p₁, hp₁, hkept₁, hid₁⟩ := hback o₁ ho₁
    obtain ⟨p₂, hp₂, hkept₂, hid₂⟩ := hback o₂ ho₂
    have hsame := h.distinct p₁ hp₁ p₂ hp₂
      (hkept₁.idempotencyKey.symm.trans (hkey.trans hkept₂.idempotencyKey))
    refine s'.orders.eq_of_mem_of_key_eq ho₁ ho₂ ?_
    show o₁.id = o₂.id
    rw [hid₁, hid₂, hsame]
  · intro t ht
    rcases hpast t ht with ht | ⟨o, hid, ho, hversion, hleft⟩
    · obtain ⟨o, ho, hversion, hleft⟩ := h.past t ht
      refine ⟨if t.orderId = orderId then f o else o, ?_, ?_⟩
      · rw [hfind, ho]
        rfl
      · split
        · exact ⟨lt_of_lt_of_le hversion (hkept o).version, hstatus o hleft⟩
        · exact ⟨hversion, hleft⟩
    · refine ⟨f o, ?_, hversion, hleft⟩
      rw [hfind, hid, ho, Option.map_some, if_pos rfl]
  · intro id o ho
    refine ⟨if id = orderId then f o else o, ?_, ?_⟩
    · rw [hfind, ho]
      rfl
    · split
      · exact hkept o
      · exact .refl o
  · obtain ⟨o, ho, hkept', -⟩ := hback o' ho'
    exact .inr ⟨o, ho, hkept'⟩

theorem keepsKeys_fulfillment (version : ℕ → ℕ) (hversion : ∀ n, n ≤ version n)
    (f : Fulfillment → Fulfillment) (horders : s'.orders = s.orders.update orderId fun o ↦
      { o with version := version o.version, fulfillment := f o.fulfillment })
    (htransitions : s'.transitions = s.transitions) : KeepsKeys new s s' := by
  refine keepsKeys_update
    (fun o ↦ { o with version := version o.version, fulfillment := f o.fulfillment })
    (fun _ ↦ rfl) horders (fun o ↦ ⟨rfl, rfl, rfl, hversion o.version⟩) (fun _ h ↦ h)
    (fun t ht ↦ ?_) fun t ht ↦ ?_
  · rw [htransitions] at ht
    exact .inl ht
  · rw [htransitions]
    exact ht

theorem orderByKey_eq_some_iff (h : KeysSound s) :
    s.orderByKey idempotencyKey = some o ↔
      o ∈ s.orders.rows ∧ o.idempotencyKey = idempotencyKey := by
  constructor
  · intro hfound
    exact ⟨mem_of_find?_eq_some hfound, by simpa using find?_some hfound⟩
  · rintro ⟨ho, hkey⟩
    cases hfound : s.orderByKey idempotencyKey with
    | none => exact absurd hkey (by simpa using List.find?_eq_none.mp hfound o ho)
    | some o' =>
      have hkey' : o'.idempotencyKey = idempotencyKey := by simpa using find?_some hfound
      rw [h.distinct o ho o' (mem_of_find?_eq_some hfound) (hkey.trans hkey'.symm)]

/-! ### The transactions -/

def CreateInput.makes (input : CreateInput) (o : CustomerOrder) : Prop :=
  o.idempotencyKey = input.idempotencyKey ∧ o.requestFingerprint = input.fingerprint ∧
    o.branchId = input.branchId

theorem create_keepsKeys {input : CreateInput} (h : create s input = .ok s') :
    KeepsKeys input.makes s s' := by
  rw [create] at h
  split at h
  · obtain ⟨-, -, h⟩ := bind_eq_ok.mp h
    exact (pure_eq_ok.mp h) ▸ .refl s
  · rcases onDuplicate_eq_ok h with h | rfl
    · simp only [createLocked, Store.randomUUID, insertOrder, eq_ok] at h
      obtain ⟨-, -, lines, -, payments, -, -, -, ⟨⟩, hkeys, orders, hinsert, rfl⟩ := h
      intro _ hsound
      refine ⟨⟨?_, ?_⟩,
        ⟨fun id o ho ↦ ⟨o, find?_insert_of_some hinsert ho, .refl o⟩, fun _ ht ↦ ht⟩, ?_⟩
      · intro o₁ ho₁ o₂ ho₂ hkey
        rcases (mem_insert hinsert).mp ho₁ with ho₁ | rfl
        · rcases (mem_insert hinsert).mp ho₂ with ho₂ | rfl
          · exact hsound.distinct o₁ ho₁ o₂ ho₂ hkey
          · exact absurd hkey (ensure_eq_ok.mp hkeys o₁ ho₁).1
        · rcases (mem_insert hinsert).mp ho₂ with ho₂ | rfl
          · exact absurd hkey.symm (ensure_eq_ok.mp hkeys o₂ ho₂).1
          · rfl
      · intro t ht
        obtain ⟨o, ho, hpast⟩ := hsound.past t ht
        exact ⟨o, find?_insert_of_some hinsert ho, hpast⟩
      · intro o ho
        rcases (mem_insert hinsert).mp ho with ho | rfl
        · exact .inr ⟨o, ho, .refl o⟩
        · exact .inl ⟨rfl, rfl, rfl⟩
    · exact .refl s'

variable {input : TransitionInput}

/-- **A transition** is answered with the one on record, or made and recorded. -/
theorem transitionNew_cases (h : transitionNew s input = .ok s') :
    (s' = s ∧ ∃ t, s.transitionByKey input.idempotencyKey = some t ∧
      replayTransition s input t = .ok ()) ∨
    ∃ order t transitions, s.findOrder input.branchId input.orderId = some order ∧
      order.status ∈ input.fromStatuses ∧ order.version = input.version ∧
      t.orderId = input.orderId ∧ t.requestFingerprint = input.fingerprint ∧
      s.transitions.insert t = some transitions ∧
      s' = { s with
        drawn := s.drawn + 1
        orders := s.orders.update input.orderId input.apply (fun _ ↦ rfl)
        transitions := transitions } := by
  rw [transitionNew] at h
  cases hlocked : transitionLocked s input with
  | ok s₁ =>
    rw [hlocked] at h
    cases h
    simp only [transitionLocked, Store.randomUUID, insertTransition, eq_ok] at hlocked
    obtain ⟨order, hfound, -, hstatus, -, hversion, -, -, -, -, -, -, transitions, hinsert, rfl⟩ :=
      hlocked
    exact .inr ⟨order, _, transitions, hfound, hstatus, hversion, rfl, rfl, hinsert, rfl⟩
  | error e =>
    rw [hlocked] at h
    cases e with
    | duplicateEntry =>
      obtain ⟨⟨⟩, hreplay, h⟩ := bind_eq_ok.mp h
      obtain ⟨t, ht, hreplay⟩ := bind_eq_ok.mp hreplay
      exact .inl ⟨(pure_eq_ok.mp h).symm, t, demand_eq_ok.mp ht, hreplay⟩
    | _ => cases h

theorem transitionNew_keepsKeys (hto : input.toStatus ≠ .DRAFT)
    (h : transitionNew s input = .ok s') : KeepsKeys new s s' := by
  rcases transitionNew_cases h with
    ⟨rfl, -⟩ | ⟨order, t, transitions, hfound, -, hversion, hid, hfingerprint, hinsert, rfl⟩
  · exact .refl s'
  · refine keepsKeys_update input.apply (fun _ ↦ rfl) rfl
      (fun o ↦ ⟨rfl, rfl, rfl, Nat.le_succ o.version⟩) (fun _ _ ↦ hto) (fun t' ht' ↦ ?_)
      fun t' ht' ↦ (mem_insert hinsert).mpr (.inl ht')
    rcases (mem_insert hinsert).mp ht' with ht' | rfl
    · exact .inl ht'
    · refine .inr ⟨order, hid, find?_of_findOrder hfound, ?_, hto⟩
      rw [hfingerprint]
      show input.version < order.version + 1
      omega

theorem dispatchNew_keepsKeys {input : DispatchInput} (h : dispatchNew s input = .ok s') :
    KeepsKeys new s s' := by
  rcases dispatchNew_writes h with rfl | ⟨order, attempts, result, -, -, rfl⟩
  · exact .refl s'
  · exact keepsKeys_fulfillment (· + 1) Nat.le_succ
      (result.apply (order.fulfillment.attemptCount + 1)) rfl rfl

theorem cancelShipment_keepsKeys {input : ShippingInput}
    (h : Orders.cancelShipment s input = .ok s') : KeepsKeys new s s' := by
  rcases cancelShipment_writes h with rfl | ⟨order, a, actions, -, -, -, -, -, -, rfl⟩
  · exact .refl s'
  · exact keepsKeys_fulfillment id (fun _ ↦ le_rfl) (cancelAtCarrier input.scenario).apply rfl rfl

theorem poll_keepsKeys {input : ShippingInput} (h : Orders.poll s input = .ok s') :
    KeepsKeys new s s' := by
  rcases poll_writes h with rfl | ⟨f, drawn, events, a, actions, -, -, -, -, rfl⟩
  · exact .refl s'
  · exact keepsKeys_fulfillment id (fun _ ↦ le_rfl) f rfl rfl

theorem event_keepsKeys {input : EventInput} (h : Orders.event s input = .ok s') :
    KeepsKeys new s s' := by
  rcases event_writes h with rfl | ⟨events, rfl⟩
  · exact .refl s'
  · exact keepsKeys_fulfillment id (fun _ ↦ le_rfl) (fun f ↦ f.afterEvent input.event) rfl rfl

variable {commit : Pos.Cart.Persist}

theorem persistSale_keepsKeys {fingerprint : Pos.Cart.SaleFingerprint}
    {content : Pos.Cart.SaleContent} {saleId : Uuid}
    (h : persistSale commit s idempotencyKey fingerprint content = .ok (s', saleId)) :
    KeepsKeys new s s' := by
  rcases persistSale_eq_ok h with ⟨rfl, -⟩ | ⟨reservation, -, -, hnew⟩
  · exact .refl s'
  · obtain ⟨drawn, -, stock, shop, sales, sale, rfl, -⟩ := persistNew_eq_ok hnew
    exact .of_eq rfl rfl

theorem elsewhere_keepsKeys {change : Elsewhere} (h : change.apply s = .ok s') :
    KeepsKeys new s s' := by
  simp only [Elsewhere.apply, eq_ok] at h
  obtain ⟨s₁, hsales, rfl⟩ := h
  obtain ⟨table, rfl, -⟩ := insertSales_eq_ok hsales
  exact .of_eq rfl rfl

/-! ### The programs -/

open Saga.Commits

theorem commits_change {input : Timestamp → TransitionInput}
    (hto : ∀ now, (input now).toStatus ≠ .DRAFT) : (change input).Commits (KeepsKeys new) := by
  refine bind (look .refl _) fun replayed ↦ ?_
  split
  · trivial
  · exact Saga.Commits.commit .refl fun s s' h ↦ transitionNew_keepsKeys (hto _) h

theorem keepsKeys_stock {x : Except UInventario.Failure UInventario.Store}
    (h : (x.map fun stock ↦ { s with stock := stock }).mapError Failure.stock = .ok s') :
    KeepsKeys new s s' := by
  cases x with
  | error e => cases h
  | ok stock =>
    cases h
    exact .of_eq rfl rfl

theorem commits_release (branchId reservationId : Uuid) (idempotencyKey reason : Text) :
    (release branchId reservationId idempotencyKey reason).Commits (KeepsKeys new) :=
  Saga.Commits.commit .refl fun _ _ h ↦ keepsKeys_stock h

theorem commits_expire (branchId reservationId : Uuid) :
    (expire branchId reservationId).Commits (KeepsKeys new) := by
  refine bind (look .refl _) fun due ↦ ?_
  split
  · exact rescue (Saga.Commits.commit .refl fun _ _ h ↦ keepsKeys_stock h) fun e ↦ check _
  · trivial

def StockOnly (s s' : Store) : Prop :=
  s' = { s with stock := s'.stock }

theorem StockOnly.refl (s : Store) : StockOnly s s :=
  rfl

theorem StockOnly.trans {s'' : Store} (h : StockOnly s s') (h' : StockOnly s' s'') :
    StockOnly s s'' := by
  show s'' = { s with stock := s''.stock }
  rw [show s'' = { s' with stock := s''.stock } from h',
    show s' = { s with stock := s'.stock } from h]

theorem commits_reserve_stock (request : ReservationRequest) :
    (reserve request).Commits StockOnly := by
  refine bind (check _) fun _ ↦ bind (look StockOnly.refl _) fun found ↦ ?_
  cases found with
  | some reservation => trivial
  | none =>
    refine transaction StockOnly.refl fun s s' reservation h ↦ ?_
    cases hcreate : createReservation s.stock (request.input s) with
    | error e =>
      rw [hcreate] at h
      cases h
    | ok result =>
      rw [hcreate] at h
      cases h
      rfl

theorem commits_reserve (request : ReservationRequest) :
    (reserve request).Commits (KeepsKeys new) :=
  (commits_reserve_stock request).mono fun s s' h ↦ by
    rw [show s' = { s with stock := s'.stock } from h]
    exact .of_eq rfl rfl

theorem commits_createSale (request : Pos.Cart.SaleRequest) :
    (createSale commit request).Commits (KeepsKeys new) := by
  refine bind (check _) fun _ ↦ bind (look .refl _) fun found ↦ ?_
  obtain ⟨fingerprint, replayed⟩ := found
  cases replayed with
  | some id => trivial
  | none =>
    refine bind (look .refl _) fun content ↦ bind (look .refl _) fun replayed ↦ ?_
    cases replayed with
    | some id => trivial
    | none => exact transaction .refl fun _ _ _ h ↦ persistSale_keepsKeys h

theorem commits_compensate (input : CustomerOrderTransitionInput) (reservationId : Uuid)
    (error : Failure) : (compensate input reservationId error).Commits (KeepsKeys new) := by
  refine bind (look .refl _) fun found ↦ ?_
  obtain ⟨latest, env⟩ := found
  dsimp only
  split
  · trivial
  · exact bind (commits_release _ _ _ _) fun _ ↦ check _

theorem commits_confirm (input : CustomerOrderTransitionInput) :
    (confirm input).Commits (KeepsKeys new) := by
  refine bind (check _) fun key ↦ bind (look .refl _) fun current ↦ bind (look .refl _) fun env ↦
    bind (check _) fun _ ↦ bind (commits_reserve _) fun reservation ↦ ?_
  exact rescue (commits_change fun _ ↦ (show OrderStatus.CONFIRMED ≠ .DRAFT from nofun))
    fun e ↦ commits_compensate input reservation.id e

theorem commits_deliver (input : CustomerOrderTransitionInput) :
    (deliver commit input).Commits (KeepsKeys new) := by
  refine bind (check _) fun key ↦ bind ?_ fun saleId ↦
    commits_change fun _ ↦ (show OrderStatus.DELIVERED ≠ .DRAFT from nofun)
  exact bind (look .refl _) fun current ↦ bind (look .refl _) fun env ↦ bind (check _) fun _ ↦
    bind (look .refl _) fun _ ↦ commits_createSale _

theorem commits_cancel (input : CustomerOrderTransitionInput) :
    (cancel input).Commits (KeepsKeys new) := by
  refine bind (check _) fun key ↦ bind (check _) fun reason ↦ bind (look .refl _) fun current ↦
    bind (look .refl _) fun env ↦ bind (check _) fun _ ↦ bind ?_ fun _ ↦ bind ?_ fun _ ↦
    commits_change fun _ ↦ (show OrderStatus.CANCELLED ≠ .DRAFT from nofun)
  · rw [takeBack]
    split
    · exact Saga.Commits.commit .refl fun _ _ h ↦ cancelShipment_keepsKeys h
    · trivial
  · rw [giveUp]
    split
    · trivial
    · split
      · trivial
      · exact commits_release _ _ _ _

def ServiceRequest.makes : ServiceRequest → CustomerOrder → Prop
  | .create input, o => input.makes o
  | _, _ => False

/-- **Every request of the service.** -/
theorem commits_program (request : ServiceRequest) :
    (program commit request).Commits (KeepsKeys request.makes) := by
  cases request with
  | create input => exact Saga.Commits.commit .refl fun _ _ h ↦ create_keepsKeys h
  | confirm input => exact commits_confirm input
  | prepare input =>
    exact bind (check _) fun _ ↦
      commits_change fun _ ↦ (show OrderStatus.PREPARING ≠ .DRAFT from nofun)
  | ready input =>
    exact bind (check _) fun _ ↦
      commits_change fun _ ↦ (show OrderStatus.READY ≠ .DRAFT from nofun)
  | dispatch input =>
    refine bind (look .refl _) fun replayed ↦ ?_
    split
    · trivial
    · exact Saga.Commits.commit .refl fun _ _ h ↦ dispatchNew_keepsKeys h
  | deliver input => exact commits_deliver input
  | cancel input => exact commits_cancel input
  | cancelShipment input =>
    exact Saga.Commits.commit .refl fun _ _ h ↦ cancelShipment_keepsKeys h
  | poll input => exact Saga.Commits.commit .refl fun _ _ h ↦ poll_keepsKeys h
  | event input => exact Saga.Commits.commit .refl fun _ _ h ↦ event_keepsKeys h
  | reserve request =>
    exact bind (check _) fun _ ↦ bind (commits_reserve request) fun _ ↦ trivial
  | release branchId reservationId idempotencyKey reason =>
    exact bind (check _) fun _ ↦ commits_release _ _ _ _
  | expire branchId reservationId => exact commits_expire branchId reservationId
  | sell request =>
    exact bind (check _) fun _ ↦ bind (commits_createSale request) fun _ ↦ trivial
  | «elsewhere» change => exact Saga.Commits.commit .refl fun _ _ h ↦ elsewhere_keepsKeys h

/-! ### The law with the keys -/

/-- What is known of the key, the fingerprint and the branch of every order. -/
structure Record where
  holds : CustomerOrder → Prop
  later : ∀ {o o'}, OrderKept o o' → holds o → holds o'

def Record.Sound (record : Record) (s : Store) : Prop :=
  KeysSound s ∧ ∀ o ∈ s.orders.rows, record.holds o

/-- **The law of the service and of the keys of its orders.** -/
def orderLaw (record : Record) : Law Store :=
  serviceLaw.and record.Sound OrdersKept OrdersKept.refl OrdersKept.trans

theorem commits_orderLaw {ε α : Type} {record : Record} {saga : Saga Store ε α}
    (hcommits : saga.Commits (KeepsKeys new)) (hnew : ∀ o, new o → record.holds o) :
    saga.Commits fun s s' ↦
      serviceLaw.Inv s → record.Sound s → record.Sound s' ∧ OrdersKept s s' := by
  refine hcommits.mono fun s s' h hinv hsound ↦ ?_
  obtain ⟨hkeys, hkept, hfrom⟩ := h hinv hsound.1
  refine ⟨⟨hkeys, fun o' ho' ↦ ?_⟩, hkept⟩
  rcases hfrom o' ho' with hmade | ⟨o, ho, hsame⟩
  · exact hnew o' hmade
  · exact record.later hsame (hsound.2 o ho)

theorem replayTransition_current (hsound : KeysSound s) {t : Transition}
    (ht : t ∈ s.transitions.rows) {order : CustomerOrder}
    (hfound : s.findOrder input.branchId input.orderId = some order)
    (hversion : order.version = input.version) :
    replayTransition s input t = .error .customerOrderIdempotencyConflict := by
  rw [replayTransition, ensure, if_neg, error_bind]
  rintro ⟨hfingerprint, hid⟩
  obtain ⟨o, ho, hpast, -⟩ := hsound.past t ht
  rw [hid, find?_of_findOrder hfound] at ho
  cases ho
  rw [hfingerprint] at hpast
  have hcurrent : input.version < order.version := hpast
  omega

end UInventario.Orders
