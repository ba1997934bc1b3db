import UInventario.Notifications.Reconciliation

/-!
# Notified of once, and of what may be seen

The two loops of `reconcile` only insert and renew notifications, so each step is a statement about
one `notify`: the key of the event is there afterwards (`find?_notify`), what is there stays
(`notify_keeps`), and a new row is the recipient's for an event it may see (`mem_notify`).

* An event of the first hundred rows of its query is read (`mem_events`), and for an immediate
  preference each of them is an event of the loop.
* A table has one row of a key, and events have keys of their own (`sourceKeys_nodup`).
* When `reconcile` is called again, every key it comes to is there.
-/

namespace UInventario.Notifications

open Outcome Table List

variable {env env' : NotificationEnv} {s : Tenant} {sources : Sources} {p : Progress}
  {preference : NotificationPreference} {count : ℕ} {event : SourceEvent} {k : NotificationKey}
  {events events' : List SourceEvent} {t : Table NotificationPreference}
  {eventType : NotificationEventType} {l : List NotificationPreference} {row : Notification}
  {q : SourceQuery}

/-! ### Keys of different events -/

def SourceKey.eventType? : SourceKey → Option NotificationEventType
  | .stock .. => some .STOCK_LOW
  | .lot .. => some .LOT_EXPIRING
  | .purchase .. => some .PURCHASE_PENDING
  | .cash .. => some .CASH_DIFFERENCE
  | .sync .. => some .SYNC_FAILED
  | .operation .. => some .OPERATION_FAILED
  | .digest .. => none

def typedQueries (env : NotificationEnv) (s : Sources) :
    List (NotificationEventType × SourceQuery) :=
  [(.STOCK_LOW, stockEvents s), (.LOT_EXPIRING, lotEvents env s),
    (.PURCHASE_PENDING, purchaseEvents s), (.CASH_DIFFERENCE, cashEvents s),
    (.SYNC_FAILED, syncEvents s), (.OPERATION_FAILED, operationEvents s)]

def SourceQuery.HasType (q : SourceQuery) (eventType : NotificationEventType) : Prop :=
  ∀ row event, q.event row = some event → event.sourceKey.eventType? = some eventType

theorem lotEvents_hasType : (lotEvents env sources).HasType .LOT_EXPIRING := by
  intro row event hevent
  rw [lotEvent_key hevent]
  rfl

theorem hasType_of_some {f : q.Row → SourceEvent} (hf : ∀ row, q.event row = some (f row))
    (htype : ∀ row, (f row).sourceKey.eventType? = some eventType) : q.HasType eventType := by
  intro row event hevent
  rw [hf, Option.some.injEq] at hevent
  rw [← hevent]
  exact htype row

theorem typedQueries_hasType : ∀ x ∈ typedQueries env sources, x.2.HasType x.1 := by
  simp only [typedQueries, forall_mem_cons, not_mem_nil, false_implies, implies_true,
    and_true]
  exact ⟨hasType_of_some (fun _ ↦ rfl) fun _ ↦ rfl, lotEvents_hasType,
    hasType_of_some (fun _ ↦ rfl) fun _ ↦ rfl, hasType_of_some (fun _ ↦ rfl) fun _ ↦ rfl,
    hasType_of_some (fun _ ↦ rfl) fun _ ↦ rfl, hasType_of_some (fun _ ↦ rfl) fun _ ↦ rfl⟩

theorem typedQueries_nodup :
    ∀ x ∈ typedQueries env sources, (x.2.present.map SourceEvent.sourceKey).Nodup := by
  simp only [typedQueries, forall_mem_cons, not_mem_nil, false_implies, implies_true,
    and_true]
  exact ⟨nodup_stock, nodup_lot, nodup_purchase, nodup_cash, nodup_sync, nodup_operation⟩

theorem typedQueries_pairwise : (typedQueries env sources).Pairwise fun x y ↦ x.1 ≠ y.1 := by
  refine pairwise_map.mp ?_
  show [NotificationEventType.STOCK_LOW, .LOT_EXPIRING, .PURCHASE_PENDING, .CASH_DIFFERENCE,
    .SYNC_FAILED, .OPERATION_FAILED].Pairwise (· ≠ ·)
  decide

theorem eventType?_of_mem {key : SourceKey}
    (hq : q.HasType eventType) (h : key ∈ q.present.map SourceEvent.sourceKey) :
    key.eventType? = some eventType := by
  obtain ⟨event, hevent, rfl⟩ := mem_map.mp h
  obtain ⟨row, -, hrow⟩ := mem_filterMap.mp hevent
  exact hq row event hrow

/-- **Events have keys of their own.** -/
theorem sourceKeys_nodup :
    (((sourceQueries env sources).flatMap SourceQuery.present).map
      SourceEvent.sourceKey).Nodup := by
  have hqueries : sourceQueries env sources = (typedQueries env sources).map Prod.snd := rfl
  rw [hqueries, flatMap_map, map_flatMap, nodup_flatMap]
  refine ⟨typedQueries_nodup, ?_⟩
  refine typedQueries_pairwise.imp_of_mem fun {x y} hx hy hne ↦ ?_
  intro key hkey hkey'
  have htype := eventType?_of_mem (typedQueries_hasType x hx) hkey
  rw [eventType?_of_mem (typedQueries_hasType y hy) hkey', Option.some.injEq] at htype
  exact hne htype.symm

/-! ### Preferences -/

theorem find?_insertIgnoreAll
    (h : preference ∈ l) : ((insertIgnoreAll t l).find? (Keyed.key preference)).isSome := by
  have hkeep : ∀ (x : NotificationPreference) (t : Table NotificationPreference),
      (t.find? (Keyed.key preference)).isSome →
        (((t.insert x).getD t).find? (Keyed.key preference)).isSome := by
    intro x t hfound
    obtain ⟨found, hfound⟩ := Option.isSome_iff_exists.mp hfound
    cases hinsert : t.insert x with
    | none =>
      rw [Option.getD_none, hfound]
      rfl
    | some t' =>
      rw [Option.getD_some, find?_insert_of_some hinsert hfound]
      rfl
  refine foldl_reaches h (fun t ↦ ?_) (fun x _ t ↦ hkeep x t) t
  cases hfound : t.find? (Keyed.key preference) with
  | some found =>
    exact hkeep preference t (by rw [hfound]; rfl)
  | none =>
    obtain ⟨t', ht'⟩ := insert_isSome hfound
    rw [ht', Option.getD_some, find?_insert_self ht']
    rfl

theorem insertIgnoreAll_of_found
    (h : ∀ preference ∈ l, (t.find? (Keyed.key preference)).isSome) : insertIgnoreAll t l = t := by
  induction l with
  | nil => rfl
  | cons x l ih =>
    have hx : (t.insert x).getD t = t := by
      cases hinsert : t.insert x with
      | none => rfl
      | some t' =>
        have hfound := h x mem_cons_self
        rw [(insert_eq_some hinsert).1] at hfound
        cases hfound
    show insertIgnoreAll ((t.insert x).getD t) l = t
    rw [hx]
    exact ih fun preference hp ↦ h preference (mem_cons_of_mem x hp)

theorem ensureDefaults_eq_self (h : ∀ preference ∈ defaultPreferences s.sources,
      (s.preferences.find? (Keyed.key preference)).isSome) : ensureDefaults s = s := by
  rw [ensureDefaults, insertIgnoreAll_of_found h]

/-! ### One notification -/

theorem find?_notify : ((notify preference count p event).tenant.notifications.find?
    (preference.keyOf event)).isSome :=
  find?_upsert_self (r := preference.row count event)

theorem notify_keeps (h : (p.tenant.notifications.find? k).isSome) :
    ((notify preference count p event).tenant.notifications.find? k).isSome :=
  find?_upsert_isSome h

theorem mem_notify (h : row ∈ (notify preference count p event).tenant.notifications.rows) :
    row = preference.row count event ∨
      ∃ old ∈ p.tenant.notifications.rows, old.key = row.key ∧ old.branchId = row.branchId := by
  rcases mem_upsert h with rfl | ⟨old, hold, hkey, rfl | rfl⟩
  · exact .inl rfl
  · exact .inr ⟨row, hold, rfl, rfl⟩
  · exact .inr ⟨old, hold, hkey, rfl⟩

theorem created_notify (h : (p.tenant.notifications.find? (preference.keyOf event)).isSome) :
    (notify preference count p event).created = p.created :=
  if_pos h

/-! ### The loops -/

/-- **What each `notify` keeps** the loops keep. -/
theorem loop_keeps {P : Progress → Prop} {preferences : List NotificationPreference}
    (h : ∀ preference ∈ preferences,
      ∀ event ∈ grouped sources.now preference (matching sources events preference), ∀ count p,
        P p → P (notify preference count p event)) (hp : P p) :
    P (preferences.foldl (notifyAll sources events) p) :=
  foldlRecOn preferences _ hp fun _ hp preference hpreference ↦
    foldlRecOn _ _ hp fun p hp event hevent ↦ h preference hpreference event hevent _ p hp

theorem reconcile_sources (env : NotificationEnv) (s : Tenant) :
    (reconcile env s).tenant.sources = s.sources ∧
      (reconcile env s).tenant.preferences = (ensureDefaults s).preferences :=
  loop_keeps (P := fun p ↦ p.tenant.sources = s.sources ∧
    p.tenant.preferences = (ensureDefaults s).preferences) (fun _ _ _ _ _ _ h ↦ h) ⟨rfl, rfl⟩

theorem enabled_reconcile : (reconcile env s).tenant.enabled = (ensureDefaults s).enabled := by
  obtain ⟨hsources, hpreferences⟩ := reconcile_sources env s
  rw [Tenant.enabled, Tenant.enabled, hsources, hpreferences]
  rfl

theorem find?_reconcile (hpreference : preference ∈ (reconcile env s).tenant.enabled)
    (hevent : event ∈ grouped s.sources.now preference
      (matching s.sources (listSourceEvents env s.sources) preference)) :
    ((reconcile env s).tenant.notifications.find? (preference.keyOf event)).isSome := by
  rw [enabled_reconcile] at hpreference
  refine foldl_reaches (P := fun p : Progress ↦
    (p.tenant.notifications.find? (preference.keyOf event)).isSome) hpreference (fun p ↦ ?_)
    (fun other _ p hp ↦ ?_) _
  · exact foldl_reaches (P := fun p : Progress ↦
      (p.tenant.notifications.find? (preference.keyOf event)).isSome) hevent
      (fun p ↦ find?_notify) (fun _ _ _ hp ↦ notify_keeps hp) p
  · exact foldlRecOn (motive := fun p : Progress ↦
      (p.tenant.notifications.find? (preference.keyOf event)).isSome) _ _ hp
      fun _ hp _ _ ↦ notify_keeps hp

/-- **Who is notified**: a notification that is new is about an event that its recipient may see. -/
theorem sees_of_mem_reconcile (h : row ∈ (reconcile env s).tenant.notifications.rows) :
    (∃ old ∈ s.notifications.rows, old.key = row.key) ∨
      ∀ branchId ∈ row.branchId, s.sources.MayAccess row.key.recipientUserId branchId := by
  refine loop_keeps (P := fun p : Progress ↦ ∀ row ∈ p.tenant.notifications.rows,
    (∃ old ∈ s.notifications.rows, old.key = row.key) ∨
      ∀ branchId ∈ row.branchId, s.sources.MayAccess row.key.recipientUserId branchId)
    (fun preference _ event hevent count p hp row hrow ↦ ?_) (fun row hrow ↦ ?_) row h
  · rcases mem_notify hrow with rfl | ⟨old, hold, hkey, hbranch⟩
    · -- A digest is about no branch; another event has been looked at by `matching`.
      refine .inr ?_
      rw [grouped] at hevent
      split at hevent
      · rw [mem_singleton] at hevent
        rw [hevent]
        exact fun branchId hbranch ↦ by cases hbranch
      · exact (of_decide_eq_true (mem_filter.mp hevent).2).2
    · rw [← hkey, ← hbranch]
      exact hp old hold
  · exact .inl ⟨row, hrow, rfl⟩

/-! ### A second call -/

theorem latest_eq_none : latest events = none ↔ events = [] := by
  rw [latest, head?_eq_none_iff]
  constructor
  · intro h
    have := orderBy_perm (fun a b : SourceEvent ↦ b.occurredAt ≤ a.occurredAt) events
    rw [h] at this
    exact this.nil_eq.symm
  · rintro rfl
    rfl

theorem exists_grouped {now : Timestamp} (hsub : ∀ event ∈ events', event ∈ events)
    (hevent : event ∈ grouped now preference events') :
    ∃ event' ∈ grouped now preference events, preference.keyOf event' = preference.keyOf event := by
  unfold grouped at hevent ⊢
  cases hfrequency : preference.frequency with
  | IMMEDIATE =>
    rw [hfrequency] at hevent
    exact ⟨event, hsub event hevent, rfl⟩
  | DAILY_DIGEST =>
    rw [hfrequency] at hevent
    cases hlatest' : latest events' with
    | none =>
      rw [hlatest', latest_eq_none.mp hlatest'] at hevent
      exact absurd hevent not_mem_nil
    | some latest' =>
      rw [hlatest', mem_singleton] at hevent
      cases hlatest : latest events with
      | none =>
        have hempty : events' = [] := by
          refine eq_nil_iff_forall_not_mem.mpr fun x hx ↦ ?_
          have := hsub x hx
          rw [latest_eq_none.mp hlatest] at this
          exact absurd this not_mem_nil
        rw [latest_eq_none.mpr hempty] at hlatest'
        cases hlatest'
      | some latest =>
        exact ⟨_, mem_singleton_self _, by rw [hevent]; rfl⟩

/-- **A second call** that reads no other event inserts nothing. -/
theorem created_again (hread : ∀ event ∈ listSourceEvents env' s.sources,
      event ∈ listSourceEvents env s.sources) :
    (reconcile env' (reconcile env s).tenant).created = 0 := by
  obtain ⟨hsources, hpreferences⟩ := reconcile_sources env s
  have hdefaults : ensureDefaults (reconcile env s).tenant = (reconcile env s).tenant := by
    refine ensureDefaults_eq_self fun preference hpreference ↦ ?_
    rw [hsources] at hpreference
    rw [hpreferences]
    exact find?_insertIgnoreAll hpreference
  -- Every key the loops come to has been inserted by the first call and stays.
  refine (loop_keeps (P := fun p : Progress ↦ p.created = 0 ∧
    ∀ k, ((reconcile env s).tenant.notifications.find? k).isSome →
      (p.tenant.notifications.find? k).isSome)
    (fun preference hpreference event hevent count p ⟨hcreated, hkept⟩ ↦ ?_) ⟨rfl, ?_⟩).1
  · rw [hdefaults] at hpreference
    rw [hdefaults, hsources] at hevent
    have hsub : ∀ event ∈ matching s.sources (listSourceEvents env' s.sources) preference,
        event ∈ matching s.sources (listSourceEvents env s.sources) preference := by
      intro event hevent
      obtain ⟨hmem, hsees⟩ := mem_filter.mp hevent
      exact mem_filter.mpr ⟨hread event hmem, hsees⟩
    obtain ⟨event', hevent', hkey⟩ := exists_grouped hsub hevent
    have hfound := find?_reconcile hpreference hevent'
    rw [hkey] at hfound
    exact ⟨(created_notify (hkept _ hfound)).trans hcreated, fun k hk ↦ notify_keeps (hkept k hk)⟩
  · intro k hk
    exact hk

/-! ### What `reconcile` leaves -/

def Tenant.countOf (s : Tenant) (preference : NotificationPreference) (event : SourceEvent) : ℕ :=
  s.notifications.rows.countP fun row ↦ row.key = preference.keyOf event

/-- **Everyone is notified once** of each event that they may see and that is among the first
hundred of its query. -/
theorem reconcile_notifies (env : NotificationEnv) (s : Tenant) :
    (∀ preference ∈ (reconcile env s).tenant.enabled, preference.frequency = .IMMEDIATE →
      ∀ q ∈ sourceQueries env s.sources, ∀ row ∈ q.rows, q.AmongFirst row →
        ∀ event ∈ q.event row, event.eventType = preference.eventType →
          s.sources.Sees preference.recipientUserId event →
            (reconcile env s).tenant.countOf preference event = 1) ∧
      (((sourceQueries env s.sources).flatMap SourceQuery.present).map
        SourceEvent.sourceKey).Nodup ∧
      (∀ row ∈ (reconcile env s).tenant.notifications.rows,
        (∀ old ∈ s.notifications.rows, old.key ≠ row.key) →
          ∀ branchId ∈ row.branchId, s.sources.MayAccess row.key.recipientUserId branchId) ∧
      ∀ env' : NotificationEnv, (∀ event ∈ listSourceEvents env' s.sources,
        event ∈ listSourceEvents env s.sources) →
          (reconcile env' (reconcile env s).tenant).created = 0 := by
  refine ⟨?_, sourceKeys_nodup, ?_, fun env' ↦ created_again⟩
  · intro preference hpreference hfrequency q hq row hrow hfirst event hevent htype hsees
    have hread : event ∈ listSourceEvents env s.sources :=
      mem_flatMap.mpr ⟨q, hq, mem_events hrow hfirst hevent⟩
    refine Table.countP_key_eq_one (find?_reconcile hpreference ?_)
    rw [grouped, hfrequency]
    exact mem_filter.mpr ⟨hread, decide_eq_true ⟨htype, hsees⟩⟩
  · intro row hrow hnew
    rcases sees_of_mem_reconcile hrow with ⟨old, hold, hkey⟩ | hsees
    · exact absurd hkey (hnew old hold)
    · exact hsees

/-! ### Purchases under way, and a difference in cash -/

def plainEnv : NotificationEnv where
  inventoryLocalDate := fun _ now ↦ now / dayLength
  dayText := fun _ ↦ []
  scan := id
  scan_perm := fun _ ↦ List.Perm.refl _

def sentPurchase (id : Uuid) : Purchase where
  id := id
  folio := textOf "OC"
  status := .SENT
  updatedAt := id

def buyerPreference : NotificationPreference where
  recipientUserId := 1
  eventType := .PURCHASE_PENDING
  enabled := true
  inApp := true
  email := false
  push := false
  frequency := .IMMEDIATE

def cashierPreference : NotificationPreference :=
  { buyerPreference with recipientUserId := 2, eventType := .CASH_DIFFERENCE }

def shortShift : Shift where
  id := 4
  branchId := 7
  cashRegisterId := 5
  currency := textOf "MXN"
  closure := some ⟨some (-150), 900⟩

def shortCash : CashRow :=
  ⟨shortShift, ⟨5, textOf "CAJA"⟩, -150, 900⟩

/-- What the buyer was notified of before the branch was taken from him. -/
def formerNotice : Notification where
  key := ⟨1, .CASH_DIFFERENCE, .cash 3 800⟩
  title := textOf "Diferencia en cierre de caja"
  body := []
  severity := .WARNING
  branchId := some 7
  inAppVisible := true
  digestCount := 1
  sourceOccurredAt := 800

/-- The cashier may access the branch, and the buyer no longer. -/
def purchasing (n : ℕ) : Tenant where
  sources := {
    users := ⟨[⟨1, false, []⟩, ⟨2, false, [7]⟩], by decide⟩
    branches := .ofRow ⟨7, true, []⟩
    warehouses := .empty
    locations := .empty
    products := .empty
    stockAlerts := .empty
    lots := .empty
    lotBalances := .empty
    purchases := ⟨(List.range n).map sentPurchase, by
      rw [map_map]
      exact (map_id _).symm ▸ nodup_range⟩
    registers := .ofRow ⟨5, textOf "CAJA"⟩
    shifts := .ofRow shortShift
    offlineCommands := .empty
    dataExports := .empty
    fulfillments := .empty
    now := 1000 }
  preferences := ⟨[buyerPreference, cashierPreference], by decide⟩
  notifications := .ofRow formerNotice
  deliveries := []

theorem reconcile_notifies_purchase :
    (reconcile plainEnv (purchasing 3)).tenant.countOf buyerPreference
        (purchaseEvent (sentPurchase 0)) = 1 ∧
      (reconcile plainEnv (purchasing 3)).tenant.countOf cashierPreference
        (cashEvent shortCash) = 1 :=
  ⟨(reconcile_notifies plainEnv (purchasing 3)).1 buyerPreference (by decide +kernel) rfl
    (purchaseEvents (purchasing 3).sources) (by simp [sourceQueries]) (sentPurchase 0)
    (mem_filter.mpr ⟨mem_map_of_mem (mem_range.mpr (by decide)), rfl⟩)
    (Nat.le_of_ble_eq_true rfl) (purchaseEvent (sentPurchase 0)) rfl rfl (by decide +kernel),
  (reconcile_notifies plainEnv (purchasing 3)).1 cashierPreference (by decide +kernel) rfl
    (cashEvents (purchasing 3).sources) (by simp [sourceQueries]) shortCash mem_cons_self
    (Nat.le_of_ble_eq_true rfl) (cashEvent shortCash) rfl rfl (by decide +kernel)⟩

/-- **Of a hundred and one purchases** the one that has waited longest is not notified of, and a
notification of a branch that the recipient has lost stays. -/
theorem unnotified :
    (¬∀ (env : NotificationEnv) (s : Tenant),
      ∀ preference ∈ (reconcile env s).tenant.enabled, preference.frequency = .IMMEDIATE →
        ∀ q ∈ sourceQueries env s.sources, ∀ row ∈ q.rows, ∀ event ∈ q.event row,
          event.eventType = preference.eventType → s.sources.Sees preference.recipientUserId event →
              (reconcile env s).tenant.countOf preference event = 1) ∧
    ¬∀ (env : NotificationEnv) (s : Tenant), ∀ row ∈ (reconcile env s).tenant.notifications.rows,
      ∀ branchId ∈ row.branchId, s.sources.MayAccess row.key.recipientUserId branchId := by
  refine ⟨fun h ↦ ?_, fun h ↦ ?_⟩
  · have hone := h plainEnv (purchasing 101) buyerPreference (by decide +kernel) rfl
      (purchaseEvents (purchasing 101).sources) (by simp [sourceQueries]) (sentPurchase 0)
      (mem_filter.mpr ⟨mem_map_of_mem (mem_range.mpr (by decide)), rfl⟩)
      (purchaseEvent (sentPurchase 0)) rfl rfl (by decide +kernel)
    have hnone : (reconcile plainEnv (purchasing 101)).tenant.countOf buyerPreference
        (purchaseEvent (sentPurchase 0)) = 0 := by decide +kernel
    rw [hnone] at hone
    cases hone
  · have hstays : formerNotice ∈ (reconcile plainEnv (purchasing 0)).tenant.notifications.rows :=
      mem_of_getElem? (i := 0) rfl
    exact absurd (h plainEnv (purchasing 0) formerNotice hstays 7 rfl) (by decide +kernel)

end UInventario.Notifications
