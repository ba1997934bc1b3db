import UInventario.Commerce.OrderIntake
import UInventario.Orders.RepeatedRequests

/-!
# What becomes of external orders

An attempt may stop after any of its turns, and the staff goes on with the order meanwhile.
`intakeLaw` holds in every run of identical attempts: the orders and the links are those of the
request, and every link leads to an order under its key that is no draft.

An attempt is only repeated with success when the earlier ones have come to the link, or not as far
as the confirmation (`createOrder_retries`): the retry confirms the order in the version that it
finds, under the key recorded for an earlier version, or finds it further on than the confirmation
expects.
-/

namespace UInventario.Commerce

open Outcome Sagas Law Serialization Table List

/-! ### Fingerprints -/

theorem writeText_selfDelimiting : SelfDelimiting writeText :=
  SelfDelimiting.singleton.list

theorem writeDecimal_selfDelimiting {k : ℕ} :
    SelfDelimiting (writeDecimal : Pos.Cart.DecimalString k → List ℕ) := by
  refine (SelfDelimiting.singleton.pair
    (SelfDelimiting.singleton.comp Fin.val_injective).list).comp (fun a b h ↦ ?_)
  obtain ⟨hwhole, hfraction⟩ := Prod.mk.inj h
  cases a
  cases b
  cases hwhole
  cases hfraction
  rfl

theorem writeFulfillment_selfDelimiting : SelfDelimiting writeFulfillment := by
  have hmethod : SelfDelimiting fun m : Orders.FulfillmentMethod ↦ [if m = .PICKUP then 0 else 1] :=
    SelfDelimiting.singleton.comp fun a b h ↦ by
      revert h
      cases a <;> cases b <;> decide
  have hcarrier : SelfDelimiting fun c : Orders.CarrierCode ↦ [if c = .SIMULATED then 0 else 1] :=
    SelfDelimiting.singleton.comp fun a b h ↦ by
      revert h
      cases a <;> cases b <;> decide
  refine (hmethod.pair (hcarrier.option.pair
    (writeDecimal_selfDelimiting.pair writeText_selfDelimiting.option.list))).comp fun a b h ↦ ?_
  cases a
  cases b
  simp only [Prod.mk.injEq, List.cons.injEq, Option.some.injEq, and_true] at h
  obtain ⟨rfl, rfl, rfl, rfl, rfl, rfl, rfl, rfl, rfl, rfl, rfl, rfl, rfl⟩ := h
  rfl

theorem writeLine_selfDelimiting : SelfDelimiting writeLine := by
  refine (SelfDelimiting.singleton.pair writeDecimal_selfDelimiting).comp fun a b h ↦ ?_
  cases a
  cases b
  obtain ⟨rfl, rfl⟩ := Prod.mk.inj h
  rfl

theorem writePayment_selfDelimiting : SelfDelimiting writePayment := by
  have hmethod : SelfDelimiting fun m : CommercePaymentMethod ↦ [m.code] :=
    SelfDelimiting.singleton.comp fun a b h ↦ by
      revert h
      cases a <;> cases b <;> decide
  refine (hmethod.pair writeText_selfDelimiting).comp fun a b h ↦ ?_
  cases a
  cases b
  obtain ⟨rfl, rfl⟩ := Prod.mk.inj h
  rfl

variable {dto : CreateCommerceOrderDto}

/-- **Two bodies with one external id** have different fingerprints. -/
theorem write_injective {dto' : CreateCommerceOrderDto}
    (hid : dto.externalOrderId = dto'.externalOrderId) (h : dto.write = dto'.write) :
    dto = dto' := by
  have hpriority : SelfDelimiting fun p : OrderPriority ↦ [p.code] :=
    SelfDelimiting.singleton.comp fun a b h ↦ by
      revert h
      cases a <;> cases b <;> decide
  have hwrite := (hpriority.option.pair (SelfDelimiting.singleton.pair
    (writeFulfillment_selfDelimiting.pair
      (writeLine_selfDelimiting.list.pair writePayment_selfDelimiting)))).injective h
  cases dto
  cases dto'
  simp only [Prod.mk.injEq] at hwrite
  obtain ⟨rfl, rfl, rfl, rfl, rfl⟩ := hwrite
  cases hid
  rfl

section

variable {dto' : CreateCommerceOrderDto} (hid : dto'.externalOrderId = dto.externalOrderId)
  (hne : dto' ≠ dto)
include hid hne

theorem fingerprint_ne :
    dto.fingerprint ≠ dto'.fingerprint := by
  intro h
  obtain ⟨-, hwrite⟩ := writeText_selfDelimiting dto.externalOrderId dto'.externalOrderId _ _ h
  exact hne (write_injective hid hwrite.symm)

theorem orderFingerprint_ne {p : CommercePrincipal} :
    p.orderFingerprint dto ≠ p.orderFingerprint dto' :=
  fun h ↦ hne (write_injective hid (append_cancel_left h).symm)

end

/-! ### The law -/

section Law

variable (context : IntakeContext) (env : Orders.Env) (p : CommercePrincipal)
  (dto : CreateCommerceOrderDto)

/-- Something of the credential and the external id: it has the keys of the request, or its name. -/
def Concerns (credentialId : Uuid) (externalOrderId : Text) : Prop :=
  createKey context env credentialId externalOrderId =
      createKey context env p.credentialId dto.externalOrderId ∨
    credentialId = p.credentialId ∧
      context.collate externalOrderId = context.collate dto.externalOrderId

/-- **The requests of a run of identical attempts.** -/
def IntakeRequest.Identical : IntakeRequest → Prop
  | .createOrder p' dto' =>
    Concerns context env p dto p'.credentialId dto'.externalOrderId → p' = p ∧ dto' = dto
  | .service (.create input) =>
    input.idempotencyKey ≠ createKey context env p.credentialId dto.externalOrderId
  | .service _ => True

/-- An order under the key of the request is the one that it asks for. -/
def orderRecord : Orders.Record where
  holds o := o.idempotencyKey = createKey context env p.credentialId dto.externalOrderId →
    o.requestFingerprint = p.orderFingerprint dto ∧ o.branchId = p.branchId
  later hkept h hkey := by
    obtain ⟨hfingerprint, hbranch⟩ := h (hkept.idempotencyKey.symm.trans hkey)
    exact ⟨hkept.requestFingerprint.trans hfingerprint, hkept.branchId.trans hbranch⟩

/-- **A link**: its order has been created under its key, and has been confirmed. -/
def ExternalOrder.Sound (row : ExternalOrder) (s : Orders.Store) : Prop :=
  ∃ order, s.orders.find? row.orderId = some order ∧ order.status ≠ .DRAFT ∧
    order.idempotencyKey = createKey context env row.credentialId row.externalOrderId

def ExternalOrder.Recorded (row : ExternalOrder) : Prop :=
  Concerns context env p dto row.credentialId row.externalOrderId →
    row.credentialId = p.credentialId ∧ row.externalOrderId = dto.externalOrderId ∧
      row.requestFingerprint = dto.fingerprint

/-- **The invariant.** -/
structure IntakeInv (s : IntakeStore) : Prop where
  sameEnv : s.orders.env = env
  orders : (Orders.orderLaw (orderRecord context env p dto)).Inv s.orders
  sound : ∀ row ∈ s.external.rows, row.Sound context env s.orders
  recorded : ∀ row ∈ s.external.rows, row.Recorded context env p dto

/-- **The law of the intake.** -/
def intakeLaw : Law IntakeStore where
  Inv := IntakeInv context env p dto
  Step s s' := (Orders.orderLaw (orderRecord context env p dto)).Step s.orders s'.orders
  refl s := (Orders.orderLaw (orderRecord context env p dto)).refl s.orders
  trans h h' := (Orders.orderLaw (orderRecord context env p dto)).trans h h'

end Law

variable {context : IntakeContext} {env : Orders.Env} {p : CommercePrincipal}
  {dto : CreateCommerceOrderDto} {s : IntakeStore} {p' : CommercePrincipal}

theorem ExternalOrder.Sound.later {record : Orders.Record} {row : ExternalOrder}
    {s s' : Orders.Store} (h : row.Sound context env s)
    (hstep : (Orders.orderLaw record).Step s s') : row.Sound context env s' := by
  obtain ⟨order, horder, hleft, hkey⟩ := h
  obtain ⟨o, ho, hcontinues⟩ := hstep.1.orders row.orderId order horder
  obtain ⟨o', ho', hkept⟩ := hstep.2.orders row.orderId order horder
  cases ho.symm.trans ho'
  exact ⟨o, ho, hcontinues.status hleft, hkept.idempotencyKey.trans hkey⟩

/-- **The orders are a part of the intake.** -/
theorem part_orders : Part (Orders.orderLaw (orderRecord context env p dto))
    (intakeLaw context env p dto) IntakeStore.orders IntakeStore.withOrders where
  inv h := h.orders
  step h := h
  moves := by
    intro s orders hinv hmoves
    refine ⟨hmoves.1, ?_, hmoves.2, fun row hrow ↦ ?_, hinv.recorded⟩
    · exact hmoves.1.1.env.trans hinv.sameEnv
    · exact (hinv.sound row hrow).later hmoves.1
  get_set _ _ := rfl

theorem alone_orders {ε α : Type} {saga : Saga Orders.Store ε α} (wrap : ε → IntakeFailure)
    {orders : Orders.Store} {result : Except ε α} (h : saga.alone s.orders = (orders, result)) :
    (saga.within IntakeStore.orders IntakeStore.withOrders wrap).alone s =
      (s.withOrders orders, result.mapError wrap) := by
  have hwithin := @Saga.alone_within _ _ _ _ _ IntakeStore.orders IntakeStore.withOrders wrap
    (fun _ _ ↦ rfl) (fun _ _ _ ↦ rfl) (fun _ ↦ rfl) saga s
  rwa [h] at hwithin

/-! ### The requests keep the law -/

theorem safe_create {dto' : CreateCommerceOrderDto}
    (hidentical : (IntakeRequest.createOrder p' dto').Identical context env p dto)
    {s : Orders.Store} (hs : (orderRecord context env p dto).Sound s) :
    (Orders.orderLaw (orderRecord context env p dto)).Safe
      (fun result s' ↦ (∀ order, result = .ok order → s'.orders.find? order.id = some order ∧
        order.idempotencyKey = createKey context env p'.credentialId dto'.externalOrderId) ∧
          (orderRecord context env p dto).Sound s')
      (Orders.createOrder context.parseDate (dto'.creation context env p')) s := by
  refine (Orders.safe_createOrder (dto'.creation context env p') s).strengthen
    (Orders.commits_orderLaw (Orders.commits_createOrder _) fun o hmakes hkey ↦ ?_) hs
  obtain ⟨hown, hfingerprint, hbranch⟩ := hmakes
  obtain ⟨rfl, rfl⟩ := hidentical (.inl (hown.symm.trans hkey))
  exact ⟨hfingerprint, hbranch⟩

theorem safe_confirmation (input : Orders.CustomerOrderTransitionInput) {s : Orders.Store}
    (hs : (orderRecord context env p dto).Sound s) :
    (Orders.orderLaw (orderRecord context env p dto)).Safe
      (fun result s' ↦ result = .ok () →
        ∃ o, s'.orders.find? input.orderId = some o ∧ o.status ≠ .DRAFT) (Orders.confirm input)
      s := by
  have hcommits : (Orders.confirm input).Commits (Orders.KeepsKeys fun _ ↦ False) :=
    Orders.commits_confirm input
  refine (((Orders.safe_confirm input s).and_any (Orders.confirm_answers input s)).strengthen
    (Orders.commits_orderLaw hcommits fun _ h ↦ h.elim) hs).mono fun _ _ h hok ↦ h.1.2 hok h.2.1

section

variable {p' : CommercePrincipal} {dto' : CreateCommerceOrderDto}
  (hidentical : (IntakeRequest.createOrder p' dto').Identical context env p dto)
include hidentical

/-- **The link** of an attempt. -/
theorem moves_link (hinv : IntakeInv context env p dto s) {row : ExternalOrder}
    (hcredential : row.credentialId = p'.credentialId)
    (hexternal : row.externalOrderId = dto'.externalOrderId)
    (hfingerprint : row.requestFingerprint = dto'.fingerprint)
    (hsound : row.Sound context env s.orders) :
    (intakeLaw context env p dto).Moves s (s.linkExternalOrder context row) := by
  rw [IntakeStore.linkExternalOrder]
  split
  · exact .refl hinv
  · split
    case h_2 => exact .refl hinv
    case h_1 external hinsert =>
      refine ⟨(Orders.orderLaw (orderRecord context env p dto)).refl s.orders, hinv.sameEnv,
        hinv.orders, fun old hold ↦ ?_, fun old hold ↦ ?_⟩
      · rcases (mem_insert hinsert).mp hold with hold | rfl
        · exact hinv.sound old hold
        · exact hsound
      · rcases (mem_insert hinsert).mp hold with hold | rfl
        · exact hinv.recorded old hold
        · intro hconcerns
          rw [hcredential, hexternal] at hconcerns
          obtain ⟨rfl, rfl⟩ := hidentical hconcerns
          exact ⟨hcredential, hexternal, hfingerprint⟩

/-- **An attempt keeps the law**, wherever it stops. -/
theorem safe_intake (hs : (orderRecord context env p dto).Sound s.orders) :
    (intakeLaw context env p dto).Safe Anything (intake context p' dto' env) s := by
  refine .bind (.within part_orders (fun result s₁ h ↦ ?_) (safe_create hidentical hs))
  cases result with
  | error e => trivial
  | ok order =>
    obtain ⟨hcreated, hsound⟩ := h
    obtain ⟨horder, hkey⟩ := hcreated order rfl
    refine .bind (.assume ((intakeLaw context env p dto).refl s₁) (.within part_orders
      (fun result s₂ hconfirmed hstep ↦ ?_) (safe_confirmation _ hsound)))
    cases result with
    | error e => trivial
    | ok _ =>
      obtain ⟨o, ho, hleft⟩ := hconfirmed rfl
      obtain ⟨o', ho', hkept⟩ := hstep.2.orders order.id order horder
      cases ho.symm.trans ho'
      refine .transaction (fun s₃ s₄ id hinv hstep' h ↦ ⟨?_, trivial⟩) fun _ _ _ _ _ ↦ trivial
      cases h
      have hlater : (Orders.orderLaw (orderRecord context env p dto)).Step s₂.orders s₃.orders :=
        hstep'
      refine moves_link hidentical hinv rfl rfl rfl (ExternalOrder.Sound.later ?_ hlater)
      exact ⟨o, ho, hleft, hkept.idempotencyKey.trans hkey⟩

end

variable {commit : Pos.Cart.Persist}

theorem safe_attempt {dto' : CreateCommerceOrderDto}
    (hidentical : (IntakeRequest.createOrder p' dto').Identical context env p dto)
    (s : IntakeStore) :
    (intakeLaw context env p dto).Safe Anything (createOrder context p' dto') s := by
  refine .look_bind (fun s₁ found hinv _ hfound ↦ ?_) fun _ _ _ _ _ ↦ trivial
  cases hfound
  dsimp only
  split
  · refine .check_bind (fun _ _ ↦ ?_) fun _ _ ↦ trivial
    refine .look_bind (fun s₂ mapping _ _ _ ↦ ?_) fun _ _ _ _ _ ↦ trivial
    exact .look_bind (fun s₃ order _ _ _ ↦ trivial) fun _ _ _ _ _ ↦ trivial
  · rw [hinv.sameEnv]
    exact safe_intake hidentical hinv.orders.2

/-- **Every request keeps the law.** -/
theorem safe_intakeProgram {request : IntakeRequest}
    (hidentical : request.Identical context env p dto) (hinv : IntakeInv context env p dto s) :
    (intakeLaw context env p dto).Safe Anything (intakeProgram context commit request) s := by
  cases request with
  | createOrder p' dto' =>
    refine .bind (.of_anything (safe_attempt hidentical s) fun result s ↦ ?_)
    cases result <;> trivial
  | service request =>
    refine .within part_orders (fun _ _ _ ↦ trivial)
      ((Orders.safe_program commit request s.orders).strengthen (Orders.commits_orderLaw
        (Orders.commits_program request) fun o hmakes hkey ↦ ?_) hinv.orders.2)
    cases request with
    | create input => exact absurd (hmakes.1.symm.trans hkey) hidentical
    | _ => exact hmakes.elim

/-- **The invariant holds in every state of a run** of identical attempts. -/
theorem intakeInv_run {directory : Orders.Directory} {stock : UInventario.Store}
    {shop : Pos.Cart.Shop} {events : List (Event IntakeRequest)}
    (hidentical : ∀ request, .start request ∈ events → request.Identical context env p dto) :
    IntakeInv context env p dto
      (intakeRun context commit env directory stock shop events).store := by
  refine (Good.run_of (L := intakeLaw context env p dto)
    (fun _ _ hrequest hinv ↦ safe_intakeProgram hrequest hinv) (.idle ?_) hidentical).inv
  exact {
    sameEnv := rfl
    orders := ⟨Orders.serviceInv_opening env directory stock shop,
      ⟨forall_mem_nil _, forall_mem_nil _⟩,
      forall_mem_nil _⟩
    sound := forall_mem_nil _
    recorded := forall_mem_nil _ }

/-! ### What is asked of retries -/

section Retries

variable (context : IntakeContext) (p : CommercePrincipal) (dto : CreateCommerceOrderDto)
  (s : IntakeStore)

/-- An order of the external id: it has its key, or is linked to it. -/
def IntakeStore.IsOrderOf (orderId : Uuid) : Prop :=
  (∃ o ∈ s.orders.orders.rows, o.id = orderId ∧
    o.idempotencyKey = createKey context s.orders.env p.credentialId dto.externalOrderId) ∨
  ∃ row ∈ s.external.rows, row.credentialId = p.credentialId ∧
    row.externalOrderId = dto.externalOrderId ∧ row.orderId = orderId

def attempt : IntakeStore :=
  ((createOrder context p dto).alone s).1

/-- **The attempt succeeds**: it answers with the order of the external id, which is linked to it
then, and is no draft. -/
def Recovers : Prop :=
  ∃ orderId, ((createOrder context p dto).alone s).2 = .ok orderId ∧
    (attempt context p dto s).IsOrderOf context p dto orderId ∧
    ((attempt context p dto s).findExternalOrder context p dto.externalOrderId).map
      ExternalOrder.orderId = some orderId ∧
    ∃ order, (attempt context p dto s).orders.orders.find? orderId = some order ∧
      order.status ≠ .DRAFT

/-- **Nothing fails that an attempt depends on**: what is asked for is accepted, or has been before,
and its stock is granted. -/
def Unfailing : Prop :=
  s.findExternalOrder context p dto.externalOrderId = none → ∃ orders order reservation,
      (Orders.createOrder context.parseDate (dto.creation context s.orders.env p)).alone s.orders =
        (orders, .ok order) ∧
      ((Orders.reserve (order.reservation orders.env p.place)).alone orders).2 = .ok reservation

/-- **The condition**: the order has been linked, or it has not come as far as its confirmation. -/
def Recoverable : Prop :=
  (s.findExternalOrder context p dto.externalOrderId).isSome = true ∨
    s.orders.transitionByKey (confirmKey context s.orders.env p.credentialId dto.externalOrderId) =
      none ∧
    ∀ order, s.orders.orderByKey
      (createKey context s.orders.env p.credentialId dto.externalOrderId) = some order →
        order.status = .DRAFT

end Retries

/-! ### One order, and one body -/

variable {s : IntakeStore}

section

variable (hinv : IntakeInv context env p dto s)
include hinv

theorem isOrderOf_iff (orderId : Uuid) :
    s.IsOrderOf context p dto orderId ↔ ∃ o, s.orders.orderByKey
      (createKey context s.orders.env p.credentialId dto.externalOrderId) = some o ∧
        o.id = orderId := by
  constructor
  · rintro (⟨o, ho, hid, hkey⟩ | ⟨row, hrow, hcredential, hexternal, hid⟩)
    · exact ⟨o, (Orders.orderByKey_eq_some_iff hinv.orders.2.1).mpr ⟨ho, hkey⟩, hid⟩
    · obtain ⟨o, ho, -, hkey⟩ := hinv.sound row hrow
      rw [hcredential, hexternal, ← hinv.sameEnv] at hkey
      exact ⟨o, (Orders.orderByKey_eq_some_iff hinv.orders.2.1).mpr ⟨mem_of_find? ho, hkey⟩,
        (key_of_find? ho).trans hid⟩
  · rintro ⟨o, hfound, hid⟩
    obtain ⟨ho, hkey⟩ := (Orders.orderByKey_eq_some_iff hinv.orders.2.1).mp hfound
    exact .inl ⟨o, ho, hid, hkey⟩

theorem recorded_of_find {externalOrderId : Text}
    (hsame : externalOrderId = dto.externalOrderId) {row : ExternalOrder}
    (h : s.findExternalOrder context p externalOrderId = some row) :
    row ∈ s.external.rows ∧ row.credentialId = p.credentialId ∧
      row.externalOrderId = dto.externalOrderId ∧ row.requestFingerprint = dto.fingerprint := by
  have hrow := mem_of_find?_eq_some h
  have hnamed : row.credentialId = p.credentialId ∧
      context.collate row.externalOrderId = context.collate externalOrderId := by
    simpa using find?_some h
  rw [hsame] at hnamed
  exact ⟨hrow, hinv.recorded row hrow (.inr hnamed)⟩

theorem orderByKey_recorded {order : Orders.CustomerOrder} (h : s.orders.orderByKey
      (createKey context s.orders.env p.credentialId dto.externalOrderId) = some order) :
    order.requestFingerprint = p.orderFingerprint dto ∧ order.branchId = p.branchId := by
  obtain ⟨horder, hkey⟩ := (Orders.orderByKey_eq_some_iff hinv.orders.2.1).mp h
  rw [hinv.sameEnv] at hkey
  exact hinv.orders.2.2 order horder hkey

/-- **Another body for the external id** is refused, and nothing is written. -/
theorem other_body_refused {dto' : CreateCommerceOrderDto}
    (hid : dto'.externalOrderId = dto.externalOrderId) (hne : dto' ≠ dto) {orderId : Uuid}
    (horder : s.IsOrderOf context p dto orderId) :
    ∃ e, (createOrder context p dto').alone s = (s, .error e) := by
  rw [createOrder, Saga.alone_look_bind]
  dsimp only [pure, Except.pure]
  cases hfound : s.findExternalOrder context p dto'.externalOrderId with
  | some row =>
    rw [Saga.alone_check_bind, ensure, if_neg]
    · exact ⟨_, rfl⟩
    · rw [(recorded_of_find hinv hid hfound).2.2.2]
      exact fingerprint_ne hid hne
  | none =>
    obtain ⟨o, hcreated, -⟩ := (isOrderOf_iff hinv orderId).mp horder
    have hother : o.requestFingerprint ≠ (dto'.creation context s.orders.env p).fingerprint := by
      rw [(orderByKey_recorded hinv hcreated).1]
      exact orderFingerprint_ne hid hne
    rw [← hid] at hcreated
    obtain ⟨e, hrefused⟩ := @Orders.createOrder_refused s.orders context.parseDate
      (dto'.creation context s.orders.env p) o hcreated hother
    exact ⟨.creation e, Saga.alone_bind_error (alone_orders _ hrefused)⟩

end

/-! ### Retries -/

theorem alone_unlinked (hunlinked : s.findExternalOrder context p dto.externalOrderId = none) :
    (createOrder context p dto).alone s = (intake context p dto s.orders.env).alone s := by
  rw [createOrder, Saga.alone_look_bind]
  dsimp only [pure, Except.pure]
  rw [hunlinked]

/-- The creation of the order on its own. -/
abbrev created (context : IntakeContext) (p : CommercePrincipal) (dto : CreateCommerceOrderDto)
    (s : IntakeStore) : Orders.Store × Except Orders.CreationFailure Orders.CustomerOrder :=
  (Orders.createOrder context.parseDate (dto.creation context s.orders.env p)).alone s.orders

variable {orders : Orders.Store} {order : Orders.CustomerOrder}

theorem moves_created (hinv : IntakeInv context env p dto s)
    (hcreated : created context p dto s = (orders, .ok order)) :
    (Orders.orderLaw (orderRecord context env p dto)).Moves s.orders orders := by
  have h := ((@safe_create context env p dto p dto (fun _ ↦ ⟨rfl, rfl⟩) s.orders
    hinv.orders.2).alone hinv.orders).1
  rw [show dto.creation context env p = dto.creation context s.orders.env p by
    rw [hinv.sameEnv]] at h
  have horders : (created context p dto s).1 = orders := by rw [hcreated]
  exact horders ▸ h

/-- **An attempt that has created its order, or found it**: what its confirmation meets. -/
theorem confirmation_iff (hinv : IntakeInv context env p dto s)
    (huuid : Function.Injective env.uuid)
    (hkey : isIdempotencyKey (confirmKey context env p.credentialId dto.externalOrderId) = true)
    (hunlinked : s.findExternalOrder context p dto.externalOrderId = none)
    (hcreated : created context p dto s = (orders, .ok order)) :
    ((Orders.confirm (dto.confirmation context s.orders.env p order)).alone orders).2 = .ok () ↔
      (∃ reservation, ((Orders.reserve (order.reservation orders.env p.place)).alone orders).2 =
        .ok reservation) ∧ Recoverable context p dto s := by
  have henv := hinv.sameEnv
  obtain ⟨hfound, hown, htransitions, hnew⟩ := Orders.createOrder_answers hcreated
  have hmoves := moves_created hinv hcreated
  have hassert : Orders.assertKey (dto.confirmation context s.orders.env p order).idempotencyKey =
      .ok (confirmKey context env p.credentialId dto.externalOrderId) := by
    rw [henv]
    exact bind_eq_ok.mpr ⟨_, rfl, bind_eq_ok.mpr ⟨⟨⟩, ensure_eq_ok.mpr hkey, rfl⟩⟩
  have huuid' : Function.Injective orders.env.uuid := by
    rw [hmoves.1.1.env, henv]
    exact huuid
  rw [Orders.confirms_iff hmoves.2.1 hmoves.2.2.1 huuid' hassert hfound rfl]
  refine and_congr_right fun _ ↦ ?_
  have hrecord : orders.transitionByKey
      (confirmKey context env p.credentialId dto.externalOrderId) = s.orders.transitionByKey
        (confirmKey context env p.credentialId dto.externalOrderId) := by
    rw [Orders.Store.transitionByKey, htransitions, ← Orders.Store.transitionByKey]
  have hrow := mem_of_find? (Orders.find?_of_findOrder hfound)
  have hown' : order.idempotencyKey =
      createKey context s.orders.env p.credentialId dto.externalOrderId := hown
  rw [Recoverable, hunlinked, hrecord, ← henv]
  constructor
  · rintro ⟨hdraft, hunused⟩
    refine .inr ⟨hunused, fun o ho ↦ ?_⟩
    rcases hnew with rfl | ⟨hnone, -⟩
    · have hsame :=
        ((Orders.orderByKey_eq_some_iff hinv.orders.2.1).mpr ⟨hrow, hown'⟩).symm.trans ho
      exact Option.some.inj hsame ▸ hdraft
    · cases hnone.symm.trans ho
  · rintro (h | ⟨hunused, hdraft⟩)
    · cases h
    · refine ⟨?_, hunused⟩
      rcases hnew with rfl | ⟨-, hdraft'⟩
      · exact hdraft order ((Orders.orderByKey_eq_some_iff hinv.orders.2.1).mpr ⟨hrow, hown'⟩)
      · exact hdraft'

theorem alone_created (hunlinked : s.findExternalOrder context p dto.externalOrderId = none)
    (hcreated : created context p dto s = (orders, .ok order)) :
    (createOrder context p dto).alone s =
      ((Orders.confirm (dto.confirmation context s.orders.env p order)).within
        IntakeStore.orders IntakeStore.withOrders (fun e ↦ IntakeFailure.creation (.order e)) >>=
          fun _ ↦ link context p dto order.id).alone (s.withOrders orders) := by
  rw [alone_unlinked hunlinked, intake, Saga.alone_bind_ok (alone_orders _ hcreated)]

theorem alone_unconfirmed (hunlinked : s.findExternalOrder context p dto.externalOrderId = none)
    (hnot : ∀ orders order, created context p dto s = (orders, .ok order) →
        ((Orders.confirm (dto.confirmation context s.orders.env p order)).alone orders).2 ≠
          .ok ()) :
    ∃ orders e, (createOrder context p dto).alone s = (s.withOrders orders, .error e) := by
  cases hcreated : created context p dto s with
  | mk orders result =>
    cases result with
    | error e =>
      refine ⟨orders, .creation e, ?_⟩
      rw [alone_unlinked hunlinked, intake, Saga.alone_bind_error (alone_orders _ hcreated)]
    | ok order =>
      rw [alone_created hunlinked hcreated]
      cases hconfirmed : (Orders.confirm
          (dto.confirmation context s.orders.env p order)).alone orders with
      | mk orders' result =>
        cases result with
        | error e =>
          exact ⟨orders', _, Saga.alone_bind_error
            (@alone_orders (s.withOrders orders) _ _ _ _ _ _ hconfirmed)⟩
        | ok _ =>
          have hlast := hnot orders order hcreated
          rw [hconfirmed] at hlast
          exact absurd rfl hlast

/-- **An attempt without a way to its link** fails, and so do those that follow it. -/
theorem attempt_stuck (hinv : IntakeInv context env p dto s) (huuid : Function.Injective env.uuid)
    (hkey : isIdempotencyKey (confirmKey context env p.credentialId dto.externalOrderId) = true)
    (hstuck : ¬Recoverable context p dto s) :
    ¬Recovers context p dto s ∧ IntakeInv context env p dto (attempt context p dto s) ∧
      ¬Recoverable context p dto (attempt context p dto s) := by
  have hunlinked : s.findExternalOrder context p dto.externalOrderId = none := by
    cases hfound : s.findExternalOrder context p dto.externalOrderId with
    | none => rfl
    | some row => exact absurd (.inl (by rw [hfound]; rfl)) hstuck
  obtain ⟨orders, e, hfails⟩ := alone_unconfirmed hunlinked fun orders order hcreated hok ↦
    hstuck ((confirmation_iff hinv huuid hkey hunlinked hcreated).mp hok).2
  obtain ⟨⟨hstep, hinv'⟩, -⟩ :=
    (@safe_attempt context env p dto p dto (fun _ ↦ ⟨rfl, rfl⟩) s).alone hinv
  have hstore : attempt context p dto s = s.withOrders orders := by
    rw [attempt, hfails]
  rw [hfails] at hstep hinv'
  refine ⟨?_, hstore ▸ hinv', ?_⟩
  · rintro ⟨orderId, hok, -⟩
    rw [hfails] at hok
    cases hok
  · rw [hstore]
    have hkept := hstep.2
    have henv : (s.withOrders orders).orders.env = s.orders.env := hstep.1.env
    rintro (hlinked | ⟨hunused, hdraft⟩)
    · have hsame : (s.withOrders orders).findExternalOrder context p dto.externalOrderId = none :=
        hunlinked
      rw [hsame] at hlinked
      cases hlinked
    · rw [henv] at hunused hdraft
      refine hstuck (.inr ⟨?_, fun order horder ↦ ?_⟩)
      · refine List.find?_eq_none.mpr fun t ht hused ↦ ?_
        exact List.find?_eq_none.mp hunused t (hkept.transitions t ht) hused
      · obtain ⟨hrow, hown⟩ := (Orders.orderByKey_eq_some_iff hinv.orders.2.1).mp horder
        have hself : s.orders.orders.find? order.id = some order := find?_key_of_mem hrow
        obtain ⟨o, ho, hcontinues⟩ := hstep.1.orders order.id order hself
        obtain ⟨o', ho', hsame⟩ := hkept.orders order.id order hself
        cases ho.symm.trans ho'
        by_contra hleft
        refine hcontinues.status hleft (hdraft o ?_)
        exact (Orders.orderByKey_eq_some_iff hinv'.orders.2.1).mpr
          ⟨mem_of_find? ho, hsame.idempotencyKey.trans hown⟩

/-- **An attempt for what is linked** answers with it, and writes nothing. -/
theorem recovers_linked (hinv : IntakeInv context env p dto s) {row : ExternalOrder}
    (hlinked : s.findExternalOrder context p dto.externalOrderId = some row) :
    Recovers context p dto s := by
  obtain ⟨hrow, hcredential, hexternal, hfingerprint⟩ := recorded_of_find hinv rfl hlinked
  obtain ⟨order, horder, hleft, hkey⟩ := hinv.sound row hrow
  have hid : order.id = row.orderId := key_of_find? horder
  rw [hcredential, hexternal] at hkey
  have hplaced : s.orders.findOrder p.branchId row.orderId = some order := by
    rw [Orders.Store.findOrder, horder, Option.filter_some, decide_eq_true, if_pos rfl]
    exact (hinv.orders.2.2 order (mem_of_find? horder) hkey).2
  have halone : (createOrder context p dto).alone s = (s, .ok row.orderId) := by
    rw [createOrder, Saga.alone_look_bind]
    dsimp only [pure, Except.pure]
    rw [hlinked]
    rw [Saga.alone_check_bind, ensure, if_pos hfingerprint]
    rw [externalOrder, Saga.alone_look_bind, hlinked, demand]
    dsimp only
    rw [Saga.alone_look_bind, hplaced, demand]
    dsimp only
    rw [Saga.alone_pure, hid]
  have hstore : attempt context p dto s = s := by
    rw [attempt, halone]
  refine ⟨row.orderId, by rw [halone], ?_, ?_, ?_⟩
  · rw [hstore]
    exact .inr ⟨row, hrow, hcredential, hexternal, rfl⟩
  · rw [hstore, hlinked]
    rfl
  · rw [hstore]
    exact ⟨order, horder, hleft⟩

/-- **The link of a confirmed order** is found afterwards. -/
theorem findExternalOrder_link
    (hunlinked : s.findExternalOrder context p dto.externalOrderId = none)
    {order : Orders.CustomerOrder}
    (horder : ∀ row ∈ s.external.rows, row.orderId ≠ order.id) {row : ExternalOrder}
    (hcredential : row.credentialId = p.credentialId)
    (hexternal : row.externalOrderId = dto.externalOrderId) (hid : row.orderId = order.id) :
    (s.linkExternalOrder context row).orders = s.orders ∧
      (s.linkExternalOrder context row).findExternalOrder context p dto.externalOrderId =
        some row := by
  have hother : ∀ old ∈ s.external.rows, ¬(old.credentialId = p.credentialId ∧
      context.collate old.externalOrderId = context.collate dto.externalOrderId) := by
    intro old hold
    simpa using List.find?_eq_none.mp hunlinked old hold
  obtain ⟨external, hinsert⟩ := insert_isSome (t := s.external) (r := row) <| by
    refine Table.find?_eq_none.mpr fun old hold heq ↦ hother old hold ?_
    obtain ⟨hsame, hname⟩ := Prod.mk.inj heq
    exact ⟨hsame.trans hcredential, by rw [hname, hexternal]⟩
  rw [IntakeStore.linkExternalOrder, if_neg, hinsert]
  · refine ⟨rfl, ?_⟩
    show external.rows.find? _ = some row
    rw [(insert_eq_some hinsert).2, find?_append,
      show s.external.rows.find? _ = none from hunlinked, Option.none_or, find?_cons_of_pos]
    rw [hcredential, hexternal]
    simp
  · rintro ⟨old, hold, ⟨hsame, hname⟩ | hsame⟩
    · rw [hcredential] at hsame
      rw [hexternal] at hname
      exact hother old hold ⟨hsame, hname⟩
    · exact horder old hold (hsame.trans hid)

section

variable (hinv : IntakeInv context env p dto s) (huuid : Function.Injective env.uuid)
  (hkey : isIdempotencyKey (confirmKey context env p.credentialId dto.externalOrderId) = true)
include hinv huuid hkey

/-- **An attempt on what has come no further than its draft** goes through. -/
theorem recovers_unlinked (hunlinked : s.findExternalOrder context p dto.externalOrderId = none)
    (hunfailing : Unfailing context p dto s) (hrecoverable : Recoverable context p dto s) :
    Recovers context p dto s := by
  obtain ⟨orders, order, reservation, hcreated, hreserved⟩ := hunfailing hunlinked
  have hconfirmed := (confirmation_iff hinv huuid hkey hunlinked hcreated).mpr
    ⟨⟨reservation, hreserved⟩, hrecoverable⟩
  obtain ⟨hstep, hmoved⟩ := moves_created hinv hcreated
  obtain ⟨-, hleft⟩ := (safe_confirmation (dto.confirmation context s.orders.env p order)
    hmoved.2).alone hmoved
  obtain ⟨confirmed, hconfirmedRow, hnotDraft⟩ := hleft hconfirmed
  obtain ⟨hfound, hown, -⟩ := Orders.createOrder_answers hcreated
  have hunclaimed : ∀ row ∈ s.external.rows, row.orderId ≠ order.id := by
    intro row hrow hid
    obtain ⟨o, ho, -, hkeyed⟩ := hinv.sound row hrow
    obtain ⟨o', ho', hkept⟩ := hstep.2.orders row.orderId o ho
    rw [hid, Orders.find?_of_findOrder hfound] at ho'
    cases ho'
    have hconcerns : createKey context env row.credentialId row.externalOrderId =
        createKey context env p.credentialId dto.externalOrderId := by
      rw [← hkeyed, ← hkept.idempotencyKey, hown, ← hinv.sameEnv]
      rfl
    obtain ⟨hcredential, hexternal, -⟩ := hinv.recorded row hrow (.inl hconcerns)
    refine List.find?_eq_none.mp hunlinked row hrow ?_
    rw [hcredential, hexternal]
    simp
  let orders' := ((Orders.confirm (dto.confirmation context s.orders.env p order)).alone orders).1
  let row : ExternalOrder := {
    credentialId := p.credentialId, externalOrderId := dto.externalOrderId, orderId := order.id,
    requestFingerprint := dto.fingerprint }
  have halone : (createOrder context p dto).alone s =
      ((s.withOrders orders').linkExternalOrder context row, .ok order.id) := by
    have hdone : (Orders.confirm (dto.confirmation context s.orders.env p order)).alone orders =
        (orders', .ok ()) := Prod.ext rfl hconfirmed
    rw [alone_created hunlinked hcreated, Saga.alone_bind_ok
      (@alone_orders (s.withOrders orders) _ _ _ _ _ _ hdone)]
    exact Saga.alone_transaction_ok rfl
  obtain ⟨hsame, hlinked⟩ := @findExternalOrder_link context p dto (s.withOrders orders') hunlinked
    order hunclaimed row rfl rfl rfl
  have hstore : attempt context p dto s = (s.withOrders orders').linkExternalOrder context row := by
    rw [attempt, halone]
  refine ⟨order.id, by rw [halone], ?_, ?_, confirmed, ?_, hnotDraft⟩
  · rw [hstore]
    exact .inr ⟨row, mem_of_find?_eq_some hlinked, rfl, rfl, rfl⟩
  · rw [hstore, hlinked]
    rfl
  · rw [hstore, hsame]
    exact hconfirmedRow

/-- **Retries from a state without a way to the link** all fail. -/
theorem retries_stuck (hstuck : ¬Recoverable context p dto s) (n : ℕ) :
    ¬Recovers context p dto ((attempt context p dto)^[n] s) := by
  have hall : IntakeInv context env p dto ((attempt context p dto)^[n] s) ∧
      ¬Recoverable context p dto ((attempt context p dto)^[n] s) := by
    induction n with
    | zero => exact ⟨hinv, hstuck⟩
    | succ n ih =>
      rw [Function.iterate_succ_apply']
      exact (attempt_stuck ih.1 huuid hkey ih.2).2
  exact (attempt_stuck hall.1 huuid hkey hall.2).1

end

/-! ### The intake -/

/-- **The runs of identical attempts**: one order at most, which is linked exactly when no attempt
has broken off between its confirmation and the link. -/
theorem createOrder_retries (context : IntakeContext) (env : Orders.Env)
    (huuid : Function.Injective env.uuid) (p : CommercePrincipal) (dto : CreateCommerceOrderDto)
    (hkey : isIdempotencyKey (confirmKey context env p.credentialId dto.externalOrderId) = true)
    (commit : Pos.Cart.Persist)
    (directory : Orders.Directory) (stock : UInventario.Store) (shop : Pos.Cart.Shop)
    (events : List (Event IntakeRequest))
    (hidentical : ∀ request, .start request ∈ events → request.Identical context env p dto) :
    let s := (intakeRun context commit env directory stock shop events).store
    (∀ orderId orderId', s.IsOrderOf context p dto orderId → s.IsOrderOf context p dto orderId' →
      orderId = orderId') ∧
    (∀ dto' orderId, dto'.externalOrderId = dto.externalOrderId → dto' ≠ dto →
      s.IsOrderOf context p dto orderId → ∃ e, (createOrder context p dto').alone s =
        (s, .error e)) ∧
    (Unfailing context p dto s → ((∃ n, Recovers context p dto ((attempt context p dto)^[n] s)) ↔
        Recoverable context p dto s)) := by
  intro s
  have hinv : IntakeInv context env p dto s := intakeInv_run hidentical
  refine ⟨fun orderId orderId' horder horder' ↦ ?_, fun dto' orderId hid hne horder ↦
    other_body_refused hinv hid hne horder, fun hunfailing ↦ ⟨?_, fun hrecoverable ↦ ⟨0, ?_⟩⟩⟩
  · obtain ⟨o, ho, rfl⟩ := (isOrderOf_iff hinv orderId).mp horder
    obtain ⟨o', ho', rfl⟩ := (isOrderOf_iff hinv orderId').mp horder'
    cases ho.symm.trans ho'
    rfl
  · rintro ⟨n, hrecovers⟩
    by_contra hstuck
    exact retries_stuck hinv huuid hkey hstuck n hrecovers
  · cases hfound : s.findExternalOrder context p dto.externalOrderId with
    | some row => exact recovers_linked hinv hfound
    | none => exact recovers_unlinked hinv huuid hkey hfound hunfailing hrecoverable

def plainIntake : IntakeContext where
  collate := id
  hash := id
  parseDate := head?

/-- The credential `a`. -/
def shopCredential : CommercePrincipal where
  credentialId := 97
  actorUserId := 1
  branchId := 1
  warehouseId := 1
  cashRegisterId := 1
  locationId := 1
  customerId := 3

def externalRequest : CreateCommerceOrderDto where
  externalOrderId := textOf "A1"
  expiresInHours := 24
  fulfillment := {
    method := .PICKUP, windowStart := [1], windowEnd := [2], deliveryCost := .ofNat 0 }
  lines := [{ productId := 7, quantity := .ofNat 1 }]
  payment := { method := .CARD, reference := textOf "auth" }

def brokenOff (turns : ℕ) : List (Event IntakeRequest) :=
  .start (.createOrder shopCredential externalRequest) :: List.replicate turns (.turn 0)

def leftBy (turns : ℕ) : IntakeStore :=
  (intakeRun plainIntake Orders.keepShop default Orders.oneBranch Orders.stockedBranch
    Orders.orderShop (brokenOff turns)).store

theorem identical_brokenOff (turns : ℕ) (request : IntakeRequest)
    (h : .start request ∈ brokenOff turns) :
    request.Identical plainIntake default shopCredential externalRequest := by
  rcases mem_cons.mp h with heq | hmem
  · cases heq
    exact fun _ ↦ ⟨rfl, rfl⟩
  · cases eq_of_mem_replicate hmem

def granted (context : IntakeContext) (p : CommercePrincipal) (dto : CreateCommerceOrderDto)
    (s : IntakeStore) : Bool :=
  let (orders, result) := created context p dto s
  result.toOption.any fun order ↦
    ((Orders.reserve (order.reservation orders.env p.place)).alone orders).2.toOption.isSome

theorem unfailing_of_granted (h : granted context p dto s = true) : Unfailing context p dto s := by
  intro _
  rw [granted] at h
  cases hcreated : created context p dto s with
  | mk orders result =>
    rw [hcreated] at h
    cases result with
    | error e => cases h
    | ok order =>
      exact ⟨orders, order, _, hcreated, eq_ok_get h⟩

theorem createOrder_retries_created :
    Recoverable plainIntake shopCredential externalRequest (leftBy 4) ∧
      ∃ n, Recovers plainIntake shopCredential externalRequest
        ((attempt plainIntake shopCredential externalRequest)^[n] (leftBy 4)) := by
  have hdraft : ((leftBy 4).orders.orderByKey (createKey plainIntake (leftBy 4).orders.env 97
      (textOf "A1"))).all (fun order ↦ order.status = .DRAFT) = true := by decide +kernel
  have hrecoverable : Recoverable plainIntake shopCredential externalRequest (leftBy 4) := by
    refine Or.inr ⟨by decide +kernel, fun order horder ↦ ?_⟩
    have hkey : (leftBy 4).orders.orderByKey (createKey plainIntake (leftBy 4).orders.env 97
        (textOf "A1")) = some order := horder
    rw [hkey] at hdraft
    exact of_decide_eq_true hdraft
  exact ⟨hrecoverable, ((createOrder_retries plainIntake default (fun _ _ h ↦ h) shopCredential
    externalRequest (by decide +kernel) Orders.keepShop Orders.oneBranch Orders.stockedBranch
      Orders.orderShop (brokenOff 4) (identical_brokenOff 4)).2.2
        (unfailing_of_granted (by decide +kernel))).mpr hrecoverable⟩

/-- **The order is lost to the shop outside** when the attempt breaks off before the link. -/
theorem createOrder_retries_lost : (∀ request, .start request ∈ brokenOff 10 →
      request.Identical plainIntake default shopCredential externalRequest) ∧
    Unfailing plainIntake shopCredential externalRequest (leftBy 10) ∧
    ((createOrder plainIntake shopCredential externalRequest).alone (leftBy 10)).2 =
      .error (.creation (.order .customerOrderIdempotencyConflict)) ∧
    ∀ n, ¬Recovers plainIntake shopCredential externalRequest
      ((attempt plainIntake shopCredential externalRequest)^[n] (leftBy 10)) := by
  have hkey : isIdempotencyKey (confirmKey plainIntake default shopCredential.credentialId
    externalRequest.externalOrderId) = true := by decide +kernel
  have hinv : IntakeInv plainIntake default shopCredential externalRequest (leftBy 10) :=
    intakeInv_run (identical_brokenOff 10)
  have hstuck : ¬Recoverable plainIntake shopCredential externalRequest (leftBy 10) := by
    rintro (hlinked | ⟨hunused, -⟩)
    · revert hlinked
      decide +kernel
    · revert hunused
      decide +kernel
  exact ⟨identical_brokenOff 10, unfailing_of_granted (by decide +kernel), by decide +kernel,
    retries_stuck hinv (fun _ _ h ↦ h) hkey hstuck⟩

end UInventario.Commerce
