import UInventario.Foundations.LatestWins
import UInventario.Orders.FulfillmentAgreement

/-!
# What the carrier reports

The carrier reports on a shipment by a webhook (`event`) and when it is asked (`poll`). Every report
is a transaction that locks the tenant, so a run is a list of reports.

Status and sequence of the tracking are a register in which the latest event wins
(`Foundations.LatestWins`): an event is applied when its number is greater than the one known, and a
shipment that is delivered or cancelled takes no more. Which events of a list are stored is settled
before the first of them (`Store.awaits`), and what is stored stays (`EventsInv`).

## What is not so

A redelivery is compared in four columns, and `occurred_at` is none of them: an event that comes
again with another time is a repetition. And identifiers are compared by the collation of their
column: of two that differ in case only, the first one to come is stored.
-/

namespace UInventario.Orders

open Outcome LockedRuns Table Option List

/-! ### Reports -/

inductive CarrierReport
  | webhook (input : EventInput)
  | polled (input : ShippingInput)

def report (s : Store) : CarrierReport → Except Failure Store
  | .webhook input => event s input
  | .polled input => poll s input

/-- **The tracking of a shipment** as a register. -/
def tracking : LatestWins Fulfillment CarrierTrackingEvent ℕ where
  stamp := fun f ↦ f.latestEventSequence
  closed := fun f ↦ f.trackingStatus = some .DELIVERED ∨ f.trackingStatus = some .CANCELLED
  key := fun e ↦ e.sequence
  final := fun e ↦ e.status = .DELIVERED ∨ e.status = .CANCELLED
  write := fun f e ↦ { f with
    trackingStatus := some e.status
    latestEventSequence := e.sequence
    lastErrorCode := if e.status = .EXCEPTION then some (textOf "CARRIER_EXCEPTION") else none
    manualActionRequired := e.status = .EXCEPTION }
  stamp_write := fun _ _ ↦ rfl
  closed_write := fun _ _ ↦ by simp only [Option.some.injEq]

variable {s s' : Store} {e : CarrierTrackingEvent} {row : CarrierEvent} {decision : Decision}
  {request : Request} {input : ShippingInput} {order : CustomerOrder} {id : Text} {orderId : Uuid}

theorem takes_iff {f : Fulfillment} : tracking.Takes f e ↔ f.takes e := by
  show ¬(f.trackingStatus = some .DELIVERED ∨ f.trackingStatus = some .CANCELLED) ∧ _ ↔ _
  rw [not_or, and_assoc]
  rfl

instance (f : Fulfillment) (e : CarrierTrackingEvent) : Decidable (tracking.Takes f e) :=
  decidable_of_iff _ takes_iff.symm

theorem afterEvent_eq_put (f : Fulfillment) (e : CarrierTrackingEvent) :
    f.afterEvent e = tracking.put f e := by
  by_cases h : f.takes e
  · rw [LatestWins.put_of_takes (takes_iff.mpr h), Fulfillment.afterEvent, if_pos h]
    rfl
  · rw [LatestWins.put_of_not_takes fun htakes ↦ h (takes_iff.mp htakes), Fulfillment.afterEvent,
      if_neg h]

/-! ### What a report writes -/

def Store.Recorded (s : Store) (providerEventId : Text) : Prop :=
  ∃ row ∈ s.carrierEvents.rows,
    s.env.collate row.event.providerEventId = s.env.collate providerEventId
deriving Decidable

structure StoresEvent (s : Store) (orderId : Uuid) (e : CarrierTrackingEvent) (s' : Store) :
    Prop where
  env : s'.env = s.env
  drawn : s.drawn < s'.drawn
  fresh : ¬s.Recorded e.providerEventId
  row : ∃ row, row.id = s.env.uuid s.drawn ∧ row.orderId = orderId ∧ row.event = e ∧
    (∃ order, s.orders.find? orderId = some order ∧
      row.applied = decide (order.fulfillment.takes e)) ∧
    s'.carrierEvents.rows = s.carrierEvents.rows ++ [row]
  orders : s'.orders = s.orders.update orderId fun o ↦ { o with
    fulfillment := o.fulfillment.afterEvent e }

/-- **What a report writes.** -/
inductive ReportWrite (s s' : Store) : Prop
  | same (h : s' = s)
  | stored (orderId : Uuid) (e : CarrierTrackingEvent) (h : StoresEvent s orderId e s')
  | failed (orderId : Uuid) (code : Text) (henv : s'.env = s.env) (hdrawn : s.drawn ≤ s'.drawn)
      (hevents : s'.carrierEvents = s.carrierEvents)
      (horders : s'.orders = s.orders.update orderId fun o ↦ { o with
        fulfillment := { o.fulfillment with
          lastErrorCode := some code, manualActionRequired := true } })

theorem storesEvent_of_insertEvent {branchId : Uuid}
    (hfound : s.findOrder branchId orderId = some order)
    (h : insertEvent s orderId order.fulfillment e = .ok s') : StoresEvent s orderId e s' := by
  simp only [insertEvent, Store.randomUUID, eq_ok] at h
  obtain ⟨-, hnew, events, hinsert, rfl⟩ := h
  refine ⟨rfl, Nat.lt_succ_self _, ?_, ?_, rfl⟩
  · rintro ⟨row, hrow, hid⟩
    exact hnew row hrow hid
  · exact ⟨_, rfl, rfl, rfl, ⟨order, find?_of_findOrder hfound, rfl⟩,
      (insert_eq_some hinsert).2⟩

theorem StoresEvent.saveAction {s₁ : Store}
    {action : ShippingActionKind} (h : StoresEvent s orderId e s₁)
    (hsave : Orders.saveAction s₁ input action = .ok s') : StoresEvent s orderId e s' := by
  obtain ⟨-, a, actions, -, -, rfl⟩ := saveAction_writes hsave
  exact ⟨h.env, Nat.lt_succ_of_lt h.drawn, h.fresh, h.row, h.orders⟩

theorem event_reportWrite {input : EventInput} (h : event s input = .ok s') : ReportWrite s s' := by
  rw [event] at h
  split at h
  · obtain ⟨-, -, h⟩ := bind_eq_ok.mp h
    exact .same (pure_eq_ok.mp h).symm
  · simp only [eq_ok] at h
    obtain ⟨order, hfound, reference, -, -, -, h⟩ := h
    exact .stored _ _ (storesEvent_of_insertEvent hfound h)

theorem poll_reportWrite (h : poll s input = .ok s') : ReportWrite s s' := by
  obtain ⟨replayed, -, h⟩ := bind_eq_ok.mp h
  split at h
  · exact .same (pure_eq_ok.mp h).symm
  · simp only [eq_ok] at h
    obtain ⟨order, hfound, reference, -, -, -, s₁, htrack, hsave⟩ := h
    revert htrack
    cases track s.env input.now input.scenario reference order.fulfillment.latestEventSequence with
    | FAILED_RETRYABLE code =>
      intro htrack
      rw [applyTrack, pure_eq_ok] at htrack
      subst htrack
      obtain ⟨-, a, actions, -, -, rfl⟩ := saveAction_writes hsave
      exact .failed input.orderId code rfl (Nat.le_succ _) rfl rfl
    | SUCCEEDED e =>
      intro htrack
      exact .stored _ _ ((storesEvent_of_insertEvent hfound htrack).saveAction hsave)

/-- **Every report** stores an event, records a failure to ask, or changes nothing. -/
theorem reportWrite {r : CarrierReport} (h : report s r = .ok s') : ReportWrite s s' := by
  cases r with
  | webhook input => exact event_reportWrite h
  | polled input => exact poll_reportWrite h

theorem reportWrite_exec (s : Store) (r : CarrierReport) : ReportWrite s (exec report s r) :=
  exec_induct (.same rfl) fun _ h ↦ reportWrite h

theorem env_of_reportWrite (h : ReportWrite s s') : s'.env = s.env := by
  cases h with
  | same hsame => rw [hsame]
  | stored orderId e hstores => exact hstores.env
  | failed orderId code henv hdrawn hevents horders => exact henv

/-- **The transactions of the orders**: those of the reports, and those that leave the events alone.
-/
theorem protocol_write (h : protocol.write request decision s = .ok s') :
    (s'.env = s.env ∧ s.drawn ≤ s'.drawn ∧ s'.carrierEvents = s.carrierEvents) ∨
      ReportWrite s s' := by
  have hsame : (pure s : Except Failure Store) = .ok s' → ReportWrite s s' :=
    fun hpure ↦ .same (pure_eq_ok.mp hpure).symm
  cases decision with
  | replay => cases request <;> exact .inr (hsame h)
  | go =>
    cases request with
    | create input =>
      rcases create_writes h with rfl | ⟨_, _, -, -, -, -, -, rfl⟩
      · exact .inr (.same rfl)
      · exact .inl ⟨rfl, Nat.le_succ _, rfl⟩
    | transition change input =>
      rcases transitionNew_writes h with rfl | ⟨_, _, _, -, -, -, -, -, -, -, -, rfl⟩
      · exact .inr (.same rfl)
      · exact .inl ⟨rfl, Nat.le_succ _, rfl⟩
    | dispatch input =>
      rcases dispatchNew_writes h with rfl | ⟨_, _, _, -, -, rfl⟩
      · exact .inr (.same rfl)
      · exact .inl ⟨rfl, Nat.le_succ _, rfl⟩
    | cancelShipment input =>
      rcases cancelShipment_writes h with rfl | ⟨_, _, _, -, -, -, -, -, -, rfl⟩
      · exact .inr (.same rfl)
      · exact .inl ⟨rfl, Nat.le_succ _, rfl⟩
    | poll input => exact .inr (poll_reportWrite h)
    | event input => exact .inr (event_reportWrite h)
    | «elsewhere» directory stock shop sales =>
      rw [← pure_eq_ok.mp h]
      exact .inl ⟨rfl, le_rfl, rfl⟩

theorem env_of_write (h : protocol.write request decision s = .ok s') : s'.env = s.env :=
  (protocol_write h).elim (fun hkept ↦ hkept.1) env_of_reportWrite

/-! ### The stored events -/

/-- **The stored events** have identifiers of their own, the drawn ones and those of the carrier. -/
structure EventsInv (s : Store) : Prop where
  drawn : ∀ row ∈ s.carrierEvents.rows, ∃ n < s.drawn, row.id = s.env.uuid n
  distinct : ∀ row ∈ s.carrierEvents.rows, ∀ row' ∈ s.carrierEvents.rows,
    s.env.collate row.event.providerEventId = s.env.collate row'.event.providerEventId → row = row'

namespace EventsInv

theorem of_eq (h : EventsInv s) (henv : s'.env = s.env) (hdrawn : s.drawn ≤ s'.drawn)
    (hevents : s'.carrierEvents = s.carrierEvents) : EventsInv s' := by
  constructor
  · rw [hevents, henv]
    intro row hrow
    obtain ⟨n, hn, hid⟩ := h.drawn row hrow
    exact ⟨n, hn.trans_le hdrawn, hid⟩
  · rw [hevents, henv]
    exact h.distinct

theorem stores (h : EventsInv s) (hstores : StoresEvent s orderId e s') : EventsInv s' := by
  obtain ⟨row, hid, -, hevent, -, hrows⟩ := hstores.row
  constructor
  · rw [hrows, hstores.env]
    intro r hr
    rcases mem_append.mp hr with hr | hr
    · obtain ⟨n, hn, hrid⟩ := h.drawn r hr
      exact ⟨n, hn.trans hstores.drawn, hrid⟩
    · rw [mem_singleton.mp hr]
      exact ⟨s.drawn, hstores.drawn, hid⟩
  · rw [hrows, hstores.env]
    intro r hr r' hr' hsame
    rcases mem_append.mp hr with hr | hr <;> rcases mem_append.mp hr' with hr' | hr'
    · exact h.distinct r hr r' hr' hsame
    · rw [mem_singleton.mp hr', hevent] at hsame
      exact absurd ⟨r, hr, hsame⟩ hstores.fresh
    · rw [mem_singleton.mp hr, hevent] at hsame
      exact absurd ⟨r', hr', hsame.symm⟩ hstores.fresh
    · rw [mem_singleton.mp hr, mem_singleton.mp hr']

theorem reports (h : EventsInv s) (hwrite : ReportWrite s s') : EventsInv s' := by
  cases hwrite with
  | same hsame => exact hsame ▸ h
  | stored orderId e hstores => exact h.stores hstores
  | failed orderId code henv hdrawn hevents horders => exact h.of_eq henv hdrawn hevents

/-- **Every transaction of the orders** keeps the stored events. -/
theorem write (h : EventsInv s)
    (hwrite : protocol.write request decision s = .ok s') : EventsInv s' := by
  rcases protocol_write hwrite with ⟨henv, hdrawn, hevents⟩ | hreport
  · exact h.of_eq henv hdrawn hevents
  · exact h.reports hreport

theorem eventsInv_sound (env : Env) :
    Sound protocol (fun _ _ _ ↦ True) (fun s ↦ EventsInv s ∧ s.env = env) fun _ _ _ ↦ True where
  read := fun _ _ ↦ trivial
  reread := fun _ _ _ ↦ trivial
  write := fun h _ _ hwrite ↦ ⟨h.1.write hwrite, (env_of_write hwrite).trans h.2⟩
  stable := fun _ _ _ _ _ _ ↦ trivial

theorem of_run (env : Env) (directory : Directory) (stock : UInventario.Store)
    (shop : Pos.Cart.Shop) (sales : Table Sale) (events : List (Event Request)) :
    EventsInv (Outcome.run protocol.step (Store.idle env directory stock shop sales) events).store ∧
      (Outcome.run protocol.step (Store.idle env directory stock shop sales) events).store.env =
        env := by
  have hfresh : EventsInv (Store.fresh env directory stock shop sales) :=
    ⟨forall_mem_nil _, forall_mem_nil _⟩
  exact ((eventsInv_sound env).run (Good.idle ⟨hfresh, rfl⟩) events
    (commits_of_forall (fun _ _ _ ↦ trivial) _ _)).inv

end EventsInv

/-! ### Reports one after the other -/

theorem mem_of_reportWrite (h : ReportWrite s s')
    (hrow : row ∈ s.carrierEvents.rows) : row ∈ s'.carrierEvents.rows := by
  cases h with
  | same hsame => exact hsame ▸ hrow
  | stored orderId e hstores =>
    obtain ⟨r, -, -, -, -, hrows⟩ := hstores.row
    rw [hrows]
    exact mem_append_left _ hrow
  | failed orderId code henv hdrawn hevents horders => rwa [hevents]

/-- An event with this identifier **takes effect**: it is stored as applied. -/
def TakesEffect (s s' : Store) (providerEventId : Text) : Prop :=
  ∃ row ∈ s'.carrierEvents.rows, row ∉ s.carrierEvents.rows ∧ row.applied = true ∧
    s.env.collate row.event.providerEventId = s.env.collate providerEventId

/-- **An event that is stored does not take effect.** -/
theorem not_takesEffect (h : ReportWrite s s') (hid : s.Recorded id) : ¬TakesEffect s s' id := by
  rintro ⟨row, hrow, hnew, -, hsame⟩
  cases h with
  | same h => exact hnew (h ▸ hrow)
  | stored orderId e hstores =>
    obtain ⟨r, -, -, hevent, -, hrows⟩ := hstores.row
    rw [hrows] at hrow
    rcases mem_append.mp hrow with hrow | hrow
    · exact hnew hrow
    · obtain ⟨row', hrow', hid'⟩ := hid
      rw [mem_singleton.mp hrow, hevent] at hsame
      exact hstores.fresh ⟨row', hrow', hid'.trans hsame.symm⟩
  | failed orderId code henv hdrawn hevents horders => exact hnew (hevents ▸ hrow)

/-- What is known of a shipment goes on: the sequence does not go back, and the end is kept. -/
structure Fulfillment.Advances (f f' : Fulfillment) : Prop where
  sequence : f.latestEventSequence ≤ f'.latestEventSequence
  ended : tracking.closed f → f'.trackingStatus = f.trackingStatus

namespace Fulfillment.Advances

variable {f f' f'' : Fulfillment}

theorem refl (f : Fulfillment) : Advances f f :=
  ⟨le_rfl, fun _ ↦ rfl⟩

theorem trans (h : Advances f f') (h' : Advances f' f'') : Advances f f'' := by
  refine ⟨h.sequence.trans h'.sequence, fun hclosed ↦ ?_⟩
  have hstatus := h.ended hclosed
  have hclosed' : tracking.closed f' := by
    show f'.trackingStatus = _ ∨ f'.trackingStatus = _
    rw [hstatus]
    exact hclosed
  rw [h'.ended hclosed', hstatus]

theorem afterEvent (f : Fulfillment) (e : CarrierTrackingEvent) : Advances f (f.afterEvent e) := by
  rw [afterEvent_eq_put]
  refine ⟨LatestWins.stamp_le_put (R := tracking) f e, fun hclosed ↦ ?_⟩
  rw [LatestWins.put_of_closed hclosed]

end Fulfillment.Advances

/-- Every order is still there, and what is known of its shipment has gone on. -/
def TrackingAdvances (s s' : Store) : Prop :=
  ∀ id order, s.orders.find? id = some order → ∃ order', s'.orders.find? id = some order' ∧
    order.fulfillment.Advances order'.fulfillment

theorem TrackingAdvances.update {f : Fulfillment → Fulfillment}
    (hf : ∀ x : Fulfillment, x.Advances (f x))
    (h : s'.orders = s.orders.update orderId fun o ↦ { o with fulfillment := f o.fulfillment }) :
    TrackingAdvances s s' := by
  intro id order hfound
  rw [h, find?_update, hfound]
  by_cases hid : id = orderId
  · exact ⟨_, by rw [map_some, if_pos hid], hf _⟩
  · exact ⟨order, by rw [map_some, if_neg hid], .refl _⟩

theorem trackingAdvances_of_reportWrite (h : ReportWrite s s') : TrackingAdvances s s' := by
  cases h with
  | same hsame =>
    subst hsame
    exact fun id order hfound ↦ ⟨order, hfound, .refl _⟩
  | stored orderId e hstores =>
    exact .update (fun f ↦ Fulfillment.Advances.afterEvent f e) hstores.orders
  | failed orderId code henv hdrawn hevents horders =>
    exact .update (f := fun x ↦ { x with
      lastErrorCode := some code
      manualActionRequired := true }) (fun x ↦ ⟨le_rfl, fun _ ↦ rfl⟩) horders

section Run

theorem run_report_induct {P : Store → Prop} (hstep : ∀ s s', P s → ReportWrite s s' → P s')
    (hs : P s) (reports : List CarrierReport) : P (run report s reports) :=
  run_induct (fun _ _ _ hP h ↦ hstep _ _ hP (reportWrite h)) hs reports

theorem env_run_report (s : Store) (reports : List CarrierReport) :
    (run report s reports).env = s.env :=
  run_report_induct (P := fun t ↦ t.env = s.env)
    (fun _ _ henv hwrite ↦ (env_of_reportWrite hwrite).trans henv) rfl reports

theorem mem_run_report (hrow : row ∈ s.carrierEvents.rows)
    (reports : List CarrierReport) : row ∈ (run report s reports).carrierEvents.rows :=
  run_report_induct (P := fun t ↦ row ∈ t.carrierEvents.rows)
    (fun _ _ hmem hwrite ↦ mem_of_reportWrite hwrite hmem) hrow reports

theorem trackingAdvances_run (s : Store) (reports : List CarrierReport) :
    TrackingAdvances s (run report s reports) := by
  refine run_report_induct (P := TrackingAdvances s) (fun t t' hadvances hwrite id order h ↦ ?_)
    (fun id order hfound ↦ ⟨order, hfound, .refl _⟩) reports
  obtain ⟨order', hfound', hfirst⟩ := hadvances id order h
  obtain ⟨order'', hfound'', hthen⟩ := trackingAdvances_of_reportWrite hwrite id order' hfound'
  exact ⟨order'', hfound'', hfirst.trans hthen⟩

/-- **An event takes effect once**: what is stored does not take effect in a later report. -/
theorem not_takesEffect_later (hrow : row ∈ s.carrierEvents.rows)
    (later : List CarrierReport) (r : CarrierReport) :
    ¬TakesEffect (run report s later) (run report s (later ++ [r])) row.event.providerEventId := by
  rw [run_append, run_cons, run_nil]
  exact not_takesEffect (reportWrite_exec _ r) ⟨row, mem_run_report hrow later, rfl⟩

end Run

/-! ### Redeliveries -/

/-- **An event that comes again** is answered as a repetition, or refused. -/
theorem event_of_recorded (h : EventsInv s) (hrow : row ∈ s.carrierEvents.rows) {input : EventInput}
    (hid : s.env.collate input.event.providerEventId = s.env.collate row.event.providerEventId) :
    event s input =
      if row.repeatedBy input then .ok s else .error .customerOrderIdempotencyConflict := by
  have hfound : s.carrierEventById input.event.providerEventId = some row := by
    cases hfind : s.carrierEventById input.event.providerEventId with
    | none =>
      exact absurd (decide_eq_true hid.symm) (List.find?_eq_none.mp hfind row hrow)
    | some row' =>
      rw [Store.carrierEventById] at hfind
      have hid' := List.find?_some hfind
      rw [decide_eq_true_eq] at hid'
      rw [h.distinct row' (mem_of_find?_eq_some hfind) row hrow (hid'.trans hid)]
  rw [event, hfound]
  by_cases hrepeated : row.repeatedBy input
  · simp [ensure, hrepeated]
  · simp [ensure, hrepeated]

/-- **What changes the tracking of an order** is an event that takes effect. -/
theorem takesEffect_of_change (h : ReportWrite s s') {id : Uuid} {order' : CustomerOrder}
    (hfound : s.orders.find? id = some order) (hfound' : s'.orders.find? id = some order')
    (hchange : order'.fulfillment.trackingStatus ≠ order.fulfillment.trackingStatus ∨
      order'.fulfillment.latestEventSequence ≠ order.fulfillment.latestEventSequence) :
    ∃ providerEventId, TakesEffect s s' providerEventId := by
  cases h with
  | same hsame =>
    subst hsame
    obtain rfl := Option.some.inj (hfound.symm.trans hfound')
    simp at hchange
  | stored orderId e hstores =>
    rw [hstores.orders, find?_update, hfound, map_some, Option.some.injEq] at hfound'
    subst hfound'
    by_cases hid : id = orderId
    · subst hid
      rw [if_pos rfl] at hchange
      obtain ⟨row, -, -, hevent, ⟨order', hfound', happlied⟩, hrows⟩ := hstores.row
      obtain rfl := Option.some.inj (hfound.symm.trans hfound')
      have htakes : order.fulfillment.takes e := by
        by_contra hnot
        simp [Fulfillment.afterEvent, hnot] at hchange
      refine ⟨e.providerEventId, row, by simp [hrows], fun hold ↦ ?_, by simp [happlied, htakes],
        by rw [hevent]⟩
      exact hstores.fresh ⟨row, hold, by rw [hevent]⟩
    · simp [if_neg hid] at hchange
  | failed orderId code henv hdrawn hevents horders =>
    rw [horders, find?_update, hfound, map_some, Option.some.injEq] at hfound'
    subst hfound'
    by_cases hid : id = orderId
    · simp [if_pos hid] at hchange
    · simp [if_neg hid] at hchange

/-! ### Deliveries of a webhook -/

def Store.shipment (s : Store) (branchId orderId : Uuid) : Option Text :=
  (s.findOrder branchId orderId).bind fun order ↦ order.fulfillment.shipment

def Store.awaits (s : Store) (branchId orderId : Uuid) (e : CarrierTrackingEvent) : Prop :=
  s.shipment branchId orderId = some e.trackingReference ∧ ¬s.Recorded e.providerEventId
deriving Decidable

variable {branchId orderId : Uuid} {l l' : List CarrierTrackingEvent}

/-- **An event that is awaited is stored.** -/
theorem event_of_awaits (h : EventsInv s) (huuid : Function.Injective s.env.uuid)
    (hawaits : s.awaits branchId orderId e) :
    ∃ s', event s ⟨branchId, orderId, e⟩ = .ok s' ∧ StoresEvent s orderId e s' := by
  obtain ⟨order, hfound, hshipment⟩ := bind_eq_some_iff.mp hawaits.1
  have hnone : s.carrierEventById e.providerEventId = none := by
    rw [Store.carrierEventById, List.find?_eq_none]
    intro row hrow hid
    exact hawaits.2 ⟨row, hrow, of_decide_eq_true hid⟩
  have hnew : ∀ row ∈ s.carrierEvents.rows,
      s.env.collate row.event.providerEventId ≠ s.env.collate e.providerEventId :=
    fun row hrow hid ↦ hawaits.2 ⟨row, hrow, hid⟩
  have hfresh : s.carrierEvents.find? (s.env.uuid s.drawn) = none := by
    rw [Table.find?_eq_none]
    intro row hrow hid
    obtain ⟨n, hn, hrid⟩ := h.drawn row hrow
    exact absurd (huuid (hrid.symm.trans hid)) hn.ne
  obtain ⟨events, hinsert⟩ := insert_isSome (r := (⟨s.env.uuid s.drawn, orderId, e,
    decide (order.fulfillment.takes e)⟩ : CarrierEvent)) hfresh
  have hstored : insertEvent s orderId order.fulfillment e = .ok
      ({ s with drawn := s.drawn + 1, carrierEvents := events }.updateFulfillment orderId
        fun f ↦ f.afterEvent e) := by
    simp only [insertEvent, Store.randomUUID, eq_ok]
    exact ⟨⟨⟩, hnew, events, hinsert, rfl⟩
  refine ⟨_, ?_, storesEvent_of_insertEvent hfound hstored⟩
  simp only [event, hnone, eq_ok]
  exact ⟨order, hfound, _, hshipment, ⟨⟩, rfl, hstored⟩

/-- **An event that is not awaited** leaves the store as it was. -/
theorem exec_of_not_awaits (hawaits : ¬s.awaits branchId orderId e) :
    exec report s (.webhook ⟨branchId, orderId, e⟩) = s := by
  refine exec_induct (P := fun t ↦ t = s) rfl fun s' h ↦ ?_
  rw [report, event] at h
  split at h
  · obtain ⟨-, -, h⟩ := bind_eq_ok.mp h
    exact (pure_eq_ok.mp h).symm
  case h_2 hnone =>
    simp only [eq_ok] at h
    obtain ⟨order, hfound, reference, hshipment, -, rfl, -⟩ := h
    refine absurd ⟨bind_eq_some_iff.mpr ⟨order, hfound, hshipment⟩, ?_⟩ hawaits
    rintro ⟨row, hrow, hid⟩
    exact List.find?_eq_none.mp hnone row hrow (decide_eq_true hid)

def deliverEvents (s : Store) (branchId orderId : Uuid) (l : List CarrierTrackingEvent) : Store :=
  run report s (l.map fun e ↦ .webhook ⟨branchId, orderId, e⟩)

def Store.awaited (s : Store) (branchId orderId : Uuid) (l : List CarrierTrackingEvent) :
    List CarrierTrackingEvent :=
  l.filter fun e ↦ s.awaits branchId orderId e

/-- **What comes of the deliveries**: the register of the order has been given the awaited events,
in their order. -/
structure Delivered (s : Store) (branchId orderId : Uuid) (l : List CarrierTrackingEvent)
    (t : Store) : Prop where
  env : t.env = s.env
  inv : EventsInv t
  orders : ∀ id, t.orders.find? id = (s.orders.find? id).map fun o ↦ if id = orderId then
    { o with fulfillment := (s.awaited branchId orderId l).foldl tracking.put o.fulfillment } else o
  kept : ∀ row ∈ s.carrierEvents.rows, row ∈ t.carrierEvents.rows
  added : ∀ row ∈ t.carrierEvents.rows, row ∈ s.carrierEvents.rows ∨
    row.event ∈ s.awaited branchId orderId l

namespace Delivered

theorem shipment_foldl (f : Fulfillment) (l : List CarrierTrackingEvent) :
    (l.foldl tracking.put f).shipment = f.shipment := by
  induction l generalizing f with
  | nil => rfl
  | cons e l ih =>
    rw [foldl_cons, ih]
    by_cases h : tracking.Takes f e
    · rw [LatestWins.put_of_takes h]
      rfl
    · rw [LatestWins.put_of_not_takes h]

variable {t : Store}

theorem shipment (h : Delivered s branchId orderId l t) :
    t.shipment branchId orderId = s.shipment branchId orderId := by
  rw [Store.shipment, Store.findOrder, Store.shipment, Store.findOrder, h.orders orderId]
  cases s.orders.find? orderId with
  | none => rfl
  | some order =>
    by_cases hbranch : order.branchId = branchId
    · simp [Option.filter, hbranch, shipment_foldl]
    · simp [Option.filter, hbranch]

theorem recorded (h : Delivered s branchId orderId l t) (hid : s.Recorded id) : t.Recorded id := by
  obtain ⟨row, hrow, hsame⟩ := hid
  exact ⟨row, h.kept row hrow, h.env ▸ hsame⟩

/-- **One more delivery.** -/
theorem append (huuid : Function.Injective s.env.uuid) (h : Delivered s branchId orderId l t)
    (hdistinct : ∀ a ∈ l, s.env.collate a.providerEventId = s.env.collate e.providerEventId →
      a = e) :
    Delivered s branchId orderId (l ++ [e]) (exec report t (.webhook ⟨branchId, orderId, e⟩)) := by
  by_cases hs : s.awaits branchId orderId e
  · have hawaited :
      s.awaited branchId orderId (l ++ [e]) = s.awaited branchId orderId l ++ [e] := by
      simp [Store.awaited, filter_append, hs]
    by_cases ht : t.Recorded e.providerEventId
    · -- the event has been delivered before, and the register does not take it again
      have hgiven : e ∈ s.awaited branchId orderId l := by
        obtain ⟨row, hrow, hsame⟩ := ht
        rw [h.env] at hsame
        rcases h.added row hrow with hold | hnew
        · exact absurd ⟨row, hold, hsame⟩ hs.2
        · exact hdistinct row.event (mem_of_mem_filter hnew) hsame ▸ hnew
      rw [exec_of_not_awaits fun hawaits ↦ hawaits.2 ht]
      refine ⟨h.env, h.inv, fun id ↦ ?_, h.kept, fun row hrow ↦ ?_⟩
      · rw [h.orders id, hawaited]
        congr 1
        funext o
        rw [foldl_append, foldl_cons, foldl_nil,
          LatestWins.put_of_not_takes (LatestWins.not_takes_foldl _ hgiven)]
      · rw [hawaited]
        exact (h.added row hrow).imp_right (mem_append_left _)
    · have hawaits : t.awaits branchId orderId e := ⟨h.shipment.trans hs.1, ht⟩
      obtain ⟨t', hok, hstores⟩ := event_of_awaits h.inv (h.env ▸ huuid) hawaits
      rw [exec_of_ok (show report t (.webhook ⟨branchId, orderId, e⟩) = .ok t' from hok)]
      obtain ⟨row, -, -, hevent, -, hrows⟩ := hstores.row
      refine ⟨hstores.env.trans h.env, h.inv.stores hstores, fun id ↦ ?_, fun r hr ↦ ?_,
        fun r hr ↦ ?_⟩
      · rw [hstores.orders, find?_update, h.orders id, Option.map_map, hawaited]
        congr 1
        funext o
        by_cases hid : id = orderId
        · simp [if_pos hid, afterEvent_eq_put]
        · simp [if_neg hid]
      · rw [hrows]
        exact mem_append_left _ (h.kept r hr)
      · rw [hawaited]
        rw [hrows] at hr
        rcases mem_append.mp hr with hr | hr
        · exact (h.added r hr).imp_right (mem_append_left _)
        · rw [mem_singleton.mp hr, hevent]
          exact .inr (by simp)
  · have hawaited : s.awaited branchId orderId (l ++ [e]) = s.awaited branchId orderId l := by
      simp [Store.awaited, filter_append, hs]
    have ht : ¬t.awaits branchId orderId e := fun hawaits ↦
      hs ⟨h.shipment.symm.trans hawaits.1, fun hid ↦ hawaits.2 (h.recorded hid)⟩
    rw [exec_of_not_awaits ht]
    exact ⟨h.env, h.inv, hawaited ▸ h.orders, h.kept, hawaited ▸ h.added⟩

/-- **The deliveries of a list of events.** -/
theorem of_deliver (h : EventsInv s) (huuid : Function.Injective s.env.uuid)
    (hdistinct : ∀ a ∈ l, ∀ b ∈ l,
      s.env.collate a.providerEventId = s.env.collate b.providerEventId → a = b) :
    Delivered s branchId orderId l (deliverEvents s branchId orderId l) := by
  induction l using reverseRecOn with
  | nil => exact ⟨rfl, h, fun id ↦ by simp [deliverEvents, Store.awaited], fun _ ↦ id, fun _ ↦ .inl⟩
  | append_singleton l e ih =>
    have hbefore := ih fun a ha b hb ↦
      hdistinct a (mem_append_left _ ha) b (mem_append_left _ hb)
    have hlast := hbefore.append (e := e) huuid fun a ha ↦
      hdistinct a (mem_append_left _ ha) e (by simp)
    have hrun : deliverEvents s branchId orderId (l ++ [e]) =
        exec report (deliverEvents s branchId orderId l) (.webhook ⟨branchId, orderId, e⟩) := by
      rw [deliverEvents, map_append, run_append]
      rfl
    rwa [hrun]

end Delivered

/-! ### The order of the deliveries -/

structure Shown where
  trackingStatus : Option TrackingStatus
  latestEventSequence : ℕ
  manualActionRequired : Bool
  deriving DecidableEq

def Fulfillment.shown (f : Fulfillment) : Shown where
  trackingStatus := f.trackingStatus
  latestEventSequence := f.latestEventSequence
  manualActionRequired := f.manualActionRequired

def Store.shown (s : Store) (id : Uuid) : Option Shown :=
  (s.orders.find? id).map fun o ↦ o.fulfillment.shown

/-- **Two lists of deliveries of the same events**, told apart by number and identifier; an end has
the greatest number. -/
structure Reordered (env : Env) (l l' : List CarrierTrackingEvent) : Prop where
  same : ∀ e, e ∈ l ↔ e ∈ l'
  sequences : ∀ a ∈ l, ∀ b ∈ l, a.sequence = b.sequence → a = b
  identifiers : ∀ a ∈ l, ∀ b ∈ l,
    env.collate a.providerEventId = env.collate b.providerEventId → a = b
  endLast : ∀ a ∈ l, a.status = .DELIVERED ∨ a.status = .CANCELLED → ∀ b ∈ l,
    b.sequence ≤ a.sequence

/-- **The order of the deliveries makes no difference** to what the orders show. -/
theorem shown_deliver (h : EventsInv s) (huuid : Function.Injective s.env.uuid)
    (hreordered : Reordered s.env l l') (id : Uuid) :
    (deliverEvents s branchId orderId l).shown id =
      (deliverEvents s branchId orderId l').shown id := by
  have hidentifiers' : ∀ a ∈ l', ∀ b ∈ l',
      s.env.collate a.providerEventId = s.env.collate b.providerEventId → a = b :=
    fun a ha b hb ↦ hreordered.identifiers a ((hreordered.same a).mpr ha) b
      ((hreordered.same b).mpr hb)
  have hl : Delivered s branchId orderId l (deliverEvents s branchId orderId l) :=
    .of_deliver h huuid hreordered.identifiers
  have hl' : Delivered s branchId orderId l' (deliverEvents s branchId orderId l') :=
    .of_deliver h huuid hidentifiers'
  rw [Store.shown, Store.shown, hl.orders id, hl'.orders id, Option.map_map, Option.map_map]
  congr 1
  funext o
  by_cases hid : id = orderId
  · simp only [Function.comp_apply, if_pos hid]
    have hview : ∀ (f : Fulfillment) (e : CarrierTrackingEvent), (tracking.write f e).shown =
        ⟨some e.status, e.sequence, decide (e.status = .EXCEPTION)⟩ := fun _ _ ↦ rfl
    refine LatestWins.foldl_put_congr hview (fun e ↦ ?_) (fun a ha b hb ↦ ?_)
      (fun a ha hfinal b hb ↦ ?_) o.fulfillment
    · simp [Store.awaited, hreordered.same e]
    · exact hreordered.sequences a (mem_of_mem_filter ha) b (mem_of_mem_filter hb)
    · exact hreordered.endLast a (mem_of_mem_filter ha) hfinal b (mem_of_mem_filter hb)
  · simp only [Function.comp_apply, if_neg hid]

/-- **What the carrier reports**, in any store that requests lead to and after any reports from
there.
* An event that is stored never comes into effect again; it is answered as a repetition where order,
  reference, status and sequence are those of the row, and is refused otherwise.
* Status and sequence change only where an event takes effect.
* The sequence never goes back, and an end stays.
* The order of the events of a webhook makes no difference, as long as numbers and identifiers tell
  them apart and the end has the greatest number. -/
theorem carrier_reports (env : Env) (huuid : Function.Injective env.uuid) (directory : Directory)
    (stock : UInventario.Store) (shop : Pos.Cart.Shop) (sales : Table Sale)
    (events : List (Event Request)) (reports : List CarrierReport) :
    let s := (Outcome.run protocol.step (Store.idle env directory stock shop sales) events).store
    let t := run report s reports
    (∀ row ∈ t.carrierEvents.rows,
      (∀ input : EventInput,
        env.collate input.event.providerEventId = env.collate row.event.providerEventId →
        event t input =
          if row.repeatedBy input then .ok t else .error .customerOrderIdempotencyConflict) ∧
      ∀ later r, ¬TakesEffect (run report t later) (run report t (later ++ [r]))
        row.event.providerEventId) ∧
    (∀ r id order order', t.orders.find? id = some order →
      (exec report t r).orders.find? id = some order' →
      order'.fulfillment.trackingStatus ≠ order.fulfillment.trackingStatus ∨
        order'.fulfillment.latestEventSequence ≠ order.fulfillment.latestEventSequence →
      ∃ providerEventId, TakesEffect t (exec report t r) providerEventId) ∧
    (∀ later id order, t.orders.find? id = some order →
      ∃ order', (run report t later).orders.find? id = some order' ∧
        order.fulfillment.latestEventSequence ≤ order'.fulfillment.latestEventSequence ∧
        (order.fulfillment.trackingStatus = some .DELIVERED ∨
          order.fulfillment.trackingStatus = some .CANCELLED →
          order'.fulfillment.trackingStatus = order.fulfillment.trackingStatus)) ∧
    (∀ branchId orderId l l', Reordered env l l' → ∀ id,
      (deliverEvents t branchId orderId l).shown id = (deliverEvents t branchId orderId l').shown
    id) := by
  intro s t
  obtain ⟨hs, hsenv⟩ := EventsInv.of_run env directory stock shop sales events
  have ht : EventsInv t := run_report_induct (fun _ _ h hwrite ↦ h.reports hwrite) hs reports
  have henv : t.env = env := (env_run_report s reports).trans hsenv
  refine ⟨fun row hrow ↦ ⟨fun input hid ↦ ?_, not_takesEffect_later hrow⟩, ?_, ?_, ?_⟩
  · exact event_of_recorded ht hrow (by rw [henv, hid])
  · exact fun r id order order' ↦ takesEffect_of_change (reportWrite_exec t r)
  · intro later id order hfound
    obtain ⟨order', hfound', hadvances⟩ := trackingAdvances_run t later id order hfound
    exact ⟨order', hfound', hadvances.sequence, hadvances.ended⟩
  · intro branchId orderId l l' hreordered id
    rw [← henv] at hreordered
    exact shown_deliver ht (henv ▸ huuid) hreordered id

/-! ### A shipment and its events -/

def shippedReference : Text :=
  trackingReference default [0] 1

def shipmentEvent (providerEventId : Text) (status : TrackingStatus) (sequence : ℕ)
    (occurredAt : Timestamp) : CarrierTrackingEvent where
  providerEventId := providerEventId
  trackingReference := shippedReference
  status := status
  sequence := sequence
  occurredAt := occurredAt

def shippedStore (env : Env) : Store :=
  (Outcome.run protocol.step
    (Store.idle env oneBranch (stockReserving Table.empty) orderShop Table.empty)
      shippedOrder).store

theorem carrier_reports_delivered : (deliverEvents (shippedStore default) 1 0
        [shipmentEvent [1] .IN_TRANSIT 1 10, shipmentEvent [2] .DELIVERED 2 20]).shown 0 =
      some ⟨some .DELIVERED, 2, false⟩ ∧
    (deliverEvents (shippedStore default) 1 0
        [shipmentEvent [2] .DELIVERED 2 20, shipmentEvent [1] .IN_TRANSIT 1 10]).shown 0 =
      some ⟨some .DELIVERED, 2, false⟩ := by
  have hfirst : (deliverEvents (shippedStore default) 1 0
      [shipmentEvent [1] .IN_TRANSIT 1 10, shipmentEvent [2] .DELIVERED 2 20]).shown 0 =
        some ⟨some .DELIVERED, 2, false⟩ := by
    decide +kernel
  refine ⟨hfirst, ?_⟩
  have horder := (carrier_reports default (fun _ _ h ↦ h) oneBranch (stockReserving Table.empty)
    orderShop Table.empty shippedOrder []).2.2.2 1 0
    [shipmentEvent [1] .IN_TRANSIT 1 10, shipmentEvent [2] .DELIVERED 2 20]
    [shipmentEvent [2] .DELIVERED 2 20, shipmentEvent [1] .IN_TRANSIT 1 10]
    ⟨by simp [or_comm], by decide, by decide, by decide⟩ 0
  exact horder.symm.trans hfirst

def ignoringCase : Env :=
  { (default : Env) with
    collate := fun text ↦ text.map fun c ↦ if 65 ≤ c ∧ c ≤ 90 then c + 32 else c }

/-- **An event with another time** is a repetition. **Of two events whose identifiers differ in
case** only the first is stored. -/
theorem redelivered_with_another_time :
    (event (deliverEvents (shippedStore ignoringCase) 1 0 [shipmentEvent [65] .IN_TRANSIT 1 10])
        ⟨1, 0, shipmentEvent [65] .IN_TRANSIT 1 20⟩).toOption.isSome = true ∧
    (deliverEvents (shippedStore ignoringCase) 1 0
        [shipmentEvent [65] .IN_TRANSIT 1 10, shipmentEvent [97] .EXCEPTION 2 20]).shown 0 =
      some ⟨some .IN_TRANSIT, 1, false⟩ ∧
    (deliverEvents (shippedStore ignoringCase) 1 0
        [shipmentEvent [97] .EXCEPTION 2 20, shipmentEvent [65] .IN_TRANSIT 1 10]).shown 0 =
      some ⟨some .EXCEPTION, 2, true⟩ := by
  decide +kernel

end UInventario.Orders
