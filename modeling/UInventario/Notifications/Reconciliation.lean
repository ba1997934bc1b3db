import UInventario.Notifications.SourceEvents

/-!
# Notifications of what there is to notify of

`reconcile` fills in the default preferences, and inserts for each preference every event of its
type that its recipient may see, or one digest of them, or updates the notification that is there.

A query reads a hundred rows: `SourceQuery.AmongFirst` says that at most a hundred, this one
counted, do not come after it in the query's order (`mem_events`). A notification is not taken back.
-/

namespace UInventario.Notifications

open Outcome Option List

/-! ### Preferences -/

inductive NotificationFrequency
  | IMMEDIATE | DAILY_DIGEST
  deriving DecidableEq

structure NotificationPreference where
  recipientUserId : Uuid
  eventType : NotificationEventType
  (enabled inApp email push : Bool)
  frequency : NotificationFrequency
  deriving DecidableEq

instance : Keyed NotificationPreference (Uuid × NotificationEventType) :=
  ⟨fun preference ↦ (preference.recipientUserId, preference.eventType)⟩

/-- The unique key of `notifications`. -/
structure NotificationKey where
  recipientUserId : Uuid
  eventType : NotificationEventType
  sourceKey : SourceKey
  deriving DecidableEq

structure Notification where
  key : NotificationKey
  (title body : Text)
  severity : NotificationSeverity
  branchId : Option Uuid
  inAppVisible : Bool
  digestCount : ℕ
  sourceOccurredAt : Timestamp

instance : Keyed Notification NotificationKey := ⟨Notification.key⟩

/-- **A tenant.** A delivery is the notification and the channel it is for. -/
structure Tenant where
  sources : Sources
  preferences : Table NotificationPreference
  notifications : Table Notification
  deliveries : List (NotificationKey × DeliveryChannel)

def DEFAULT_EVENTS : List (NotificationEventType × NotificationFrequency) :=
  [(.STOCK_LOW, .IMMEDIATE), (.LOT_EXPIRING, .DAILY_DIGEST), (.PURCHASE_PENDING, .DAILY_DIGEST),
    (.CASH_DIFFERENCE, .IMMEDIATE), (.SYNC_FAILED, .IMMEDIATE), (.OPERATION_FAILED, .IMMEDIATE)]

/-- The preference that `ensureDefaults` inserts. -/
def defaultPreference (admin : Uuid) (event : NotificationEventType × NotificationFrequency) :
    NotificationPreference where
  recipientUserId := admin
  eventType := event.1
  enabled := true
  inApp := true
  email := false
  push := false
  frequency := event.2

/-- The preferences that `ensureDefaults` tries to insert. -/
def defaultPreferences (s : Sources) : List NotificationPreference :=
  (s.users.rows.filter fun user ↦ user.admin).flatMap fun admin ↦
    DEFAULT_EVENTS.map (defaultPreference admin.id)

/-- `INSERT IGNORE` of each. -/
def insertIgnoreAll (t : Table NotificationPreference) (l : List NotificationPreference) :
    Table NotificationPreference :=
  l.foldl (fun t preference ↦ (t.insert preference).getD t) t

def ensureDefaults (s : Tenant) : Tenant :=
  { s with preferences := insertIgnoreAll s.preferences (defaultPreferences s.sources) }

/-! ### `reconcile` -/

def Sources.MayAccess (s : Sources) (userId branchId : Uuid) : Prop :=
  ∃ user ∈ s.users.find? userId, (∃ branch ∈ s.branches.find? branchId, branch.active = true) ∧
    (user.admin = true ∨ branchId ∈ user.branchAccess)
deriving Decidable

def Sources.Sees (s : Sources) (userId : Uuid) (event : SourceEvent) : Prop :=
  ∀ branchId ∈ event.branchId, s.MayAccess userId branchId
deriving Decidable

def matching (s : Sources) (events : List SourceEvent) (preference : NotificationPreference) :
    List SourceEvent :=
  events.filter fun event ↦
    event.eventType = preference.eventType ∧ s.Sees preference.recipientUserId event

def eventLabel : NotificationEventType → Text
  | .STOCK_LOW => textOf "stock bajo o agotado"
  | .LOT_EXPIRING => textOf "lotes por vencer"
  | .PURCHASE_PENDING => textOf "compras pendientes"
  | .CASH_DIFFERENCE => textOf "diferencias de caja"
  | .SYNC_FAILED => textOf "fallos de sincronización"
  | .OPERATION_FAILED => textOf "procesos con error"

/-- `digest` of some events, of which `latest` comes first once they are sorted. -/
def digest (now : Timestamp) (eventType : NotificationEventType) (events : List SourceEvent)
    (latest : SourceEvent) : SourceEvent where
  eventType := eventType
  sourceKey := .digest eventType (now / dayLength)
  title := numberText events.length ++ textOf " aviso(s): " ++ eventLabel eventType
  body := textOf "Resumen diario con " ++ numberText events.length ++
    textOf " evento(s). Último: " ++ latest.title ++ textOf "."
  severity := if ∃ event ∈ events, event.severity = .CRITICAL then .CRITICAL else latest.severity
  branchId := none
  occurredAt := latest.occurredAt

def latest (events : List SourceEvent) : Option SourceEvent :=
  (orderBy (fun a b ↦ b.occurredAt ≤ a.occurredAt) events).head?

def grouped (now : Timestamp) (preference : NotificationPreference) (events : List SourceEvent) :
    List SourceEvent :=
  match preference.frequency, latest events with
  | .DAILY_DIGEST, some latest => [digest now preference.eventType events latest]
  | _, _ => events

variable (preference : NotificationPreference)

def NotificationPreference.keyOf (event : SourceEvent) :
    NotificationKey where
  recipientUserId := preference.recipientUserId
  eventType := event.eventType
  sourceKey := event.sourceKey

def NotificationPreference.row (count : ℕ) (event : SourceEvent) : Notification where
  key := preference.keyOf event
  title := event.title
  body := event.body
  severity := event.severity
  branchId := event.branchId
  inAppVisible := preference.inApp
  digestCount := count
  sourceOccurredAt := event.occurredAt

/-- What the `UPDATE` makes of a row that is there. -/
def NotificationPreference.renew (count : ℕ)
    (event : SourceEvent) (row : Notification) : Notification :=
  { row with
    title := event.title, body := event.body, severity := event.severity, digestCount := count,
    sourceOccurredAt := max row.sourceOccurredAt event.occurredAt,
    inAppVisible := preference.inApp }

def NotificationPreference.channels : List DeliveryChannel :=
  (if preference.email = true then [.EMAIL] else []) ++
    (if preference.push = true then [.PUSH] else [])

/-- The `INSERT IGNORE` of a delivery. -/
def insertDelivery (deliveries : List (NotificationKey × DeliveryChannel))
    (delivery : NotificationKey × DeliveryChannel) : List (NotificationKey × DeliveryChannel) :=
  if delivery ∈ deliveries then deliveries else deliveries ++ [delivery]

structure Progress where
  tenant : Tenant
  (created deduplicated : ℕ)

def notify (count : ℕ) (p : Progress) (event : SourceEvent) :
    Progress :=
  let found := (p.tenant.notifications.find? (preference.keyOf event)).isSome
  { tenant := { p.tenant with
      notifications := p.tenant.notifications.upsert (preference.row count event)
        (preference.renew count event)
      deliveries := preference.channels.foldl
        (fun deliveries channel ↦ insertDelivery deliveries (preference.keyOf event, channel))
        p.tenant.deliveries }
    created := if found = true then p.created else p.created + 1
    deduplicated := if found = true then p.deduplicated + 1 else p.deduplicated }

/-- What `digest_count` is set to. -/
def NotificationPreference.digestCount (events : List SourceEvent) : ℕ :=
  if preference.frequency = .DAILY_DIGEST then events.length else 1

def notifyAll (s : Sources) (events : List SourceEvent) (p : Progress)
    (preference : NotificationPreference) : Progress :=
  let found := matching s events preference
  (grouped s.now preference found).foldl (notify preference (preference.digestCount found)) p

/-- The preferences that are read: those that are on, of users there are. -/
def Tenant.enabled (s : Tenant) : List NotificationPreference :=
  s.preferences.rows.filter fun preference ↦
    preference.enabled = true ∧ (s.sources.users.find? preference.recipientUserId).isSome

/-- **`reconcile`.** -/
def reconcile (env : NotificationEnv) (s : Tenant) : Progress :=
  let s := ensureDefaults s
  (s.enabled).foldl (notifyAll s.sources (listSourceEvents env s.sources))
    { tenant := s, created := 0, deduplicated := 0 }

/-! ### What is read -/

/-- **A row is among the first hundred of its query**: at most a hundred rows, itself counted, do
not come after it. -/
def SourceQuery.AmongFirst (q : SourceQuery) (row : q.Row) : Prop :=
  (q.rows.countP fun other ↦ q.before other row) ≤ 100
deriving Decidable

def SourceQuery.present (q : SourceQuery) : List SourceEvent :=
  q.rows.filterMap q.event

variable {q : SourceQuery} {event : SourceEvent}

instance : Std.Total q.before where
  total a b := by
    rw [SourceQuery.before, SourceQuery.before]
    omega

instance : IsTrans q.Row q.before where
  trans a b c hab hbc := by
    rw [SourceQuery.before] at hab hbc ⊢
    omega

/-- **What is read**: the events of the first hundred rows. -/
theorem mem_events {env : NotificationEnv} {row : q.Row} (hrow : row ∈ q.rows)
    (hfirst : q.AmongFirst row) (hevent : q.event row = some event) :
    event ∈ q.events env := by
  refine mem_filterMap.mpr ⟨row, ?_, hevent⟩
  refine mem_limited_of_countP_le ((env.scan_perm q.rows).mem_iff.mpr hrow) ?_
  rw [(env.scan_perm q.rows).countP_eq]
  exact hfirst

/-! ### Keys of events -/

theorem pairwise_rows {ρ κ : Type} [Keyed ρ κ] (t : Table ρ) :
    t.rows.Pairwise fun r r' ↦ Keyed.key r ≠ Keyed.key r' :=
  pairwise_map.mp t.nodup

theorem nodup_present (h : q.rows.Pairwise fun row row' ↦ ∀ event ∈ q.event row,
    ∀ event' ∈ q.event row', event.sourceKey ≠ event'.sourceKey) :
    (q.present.map SourceEvent.sourceKey).Nodup := by
  rw [List.Nodup, pairwise_map, SourceQuery.present, pairwise_filterMap]
  exact h.imp fun hrow event hevent event' hevent' ↦ hrow event hevent event' hevent'

variable {s : Sources} {env : NotificationEnv} {operation : OperationRow} {row : LotRow}

theorem joinStock_alert {alert : StockAlert} {row : StockRow} (h : joinStock s alert = some row) :
    row.alert = alert := by
  simp only [joinStock, bind_eq_bind, bind_eq_some_iff] at h
  obtain ⟨_, -, _, -, _, -, _, -, h⟩ := h
  cases h
  rfl

theorem joinLot_balance {balance : LotBalance} (h : joinLot s balance = some row) :
    row.balance = balance := by
  simp only [joinLot, bind_eq_bind, bind_eq_some_iff] at h
  obtain ⟨_, -, _, -, _, -, _, -, _, -, _, -, _, -, h⟩ := h
  cases h
  rfl

theorem joinCash_shift {shift : Shift} {row : CashRow} (h : joinCash s shift = some row) :
    row.shift = shift := by
  simp only [joinCash, bind_eq_bind, bind_eq_some_iff] at h
  obtain ⟨_, -, _, -, _, -, _, -, h⟩ := h
  cases h
  rfl

theorem nodup_stock : ((stockEvents s).present.map SourceEvent.sourceKey).Nodup := by
  refine nodup_present (pairwise_filterMap.mpr ((pairwise_rows s.stockAlerts).imp ?_))
  rintro alert alert' hne row hrow row' hrow' event hevent event' hevent' hkey
  cases hevent
  cases hevent'
  obtain ⟨hproduct, hlocation, -, -⟩ := SourceKey.stock.inj hkey
  rw [joinStock_alert hrow, joinStock_alert hrow'] at hproduct hlocation
  exact hne (Prod.ext hproduct hlocation)

theorem lotEvent_key {now : Timestamp} (h : lotEvent env now row = some event) :
    event.sourceKey = .lot row.balance.lotId row.balance.locationId row.expiresOn := by
  rw [lotEvent] at h
  split at h
  · cases h
  · cases h
    rfl

theorem nodup_lot : ((lotEvents env s).present.map SourceEvent.sourceKey).Nodup := by
  refine nodup_present (pairwise_filterMap.mpr ((pairwise_rows s.lotBalances).imp ?_))
  rintro balance balance' hne row hrow row' hrow' event hevent event' hevent' hkey
  rw [lotEvent_key hevent, lotEvent_key hevent', joinLot_balance hrow, joinLot_balance hrow']
    at hkey
  obtain ⟨hlot, hlocation, -⟩ := SourceKey.lot.inj hkey
  exact hne (Prod.ext hlot hlocation)

theorem nodup_purchase : ((purchaseEvents s).present.map SourceEvent.sourceKey).Nodup := by
  refine nodup_present (((pairwise_rows s.purchases).filter _).imp ?_)
  rintro row row' hne event hevent event' hevent' hkey
  cases hevent
  cases hevent'
  exact hne (SourceKey.purchase.inj hkey).1

theorem nodup_cash : ((cashEvents s).present.map SourceEvent.sourceKey).Nodup := by
  refine nodup_present (pairwise_filterMap.mpr ((pairwise_rows s.shifts).imp ?_))
  rintro shift shift' hne row hrow row' hrow' event hevent event' hevent' hkey
  cases hevent
  cases hevent'
  have hid := (SourceKey.cash.inj hkey).1
  rw [joinCash_shift hrow, joinCash_shift hrow'] at hid
  exact hne hid

theorem nodup_sync : ((syncEvents s).present.map SourceEvent.sourceKey).Nodup := by
  refine nodup_present (((pairwise_rows s.offlineCommands).filter _).imp ?_)
  rintro row row' hne event hevent event' hevent' hkey
  cases hevent
  cases hevent'
  exact hne (SourceKey.sync.inj hkey)

theorem failedExport_eq {row : DataExport} (h : failedExport s row = some operation) :
    operation.sourceType = .DATA_EXPORT ∧ operation.sourceId = row.id := by
  rw [failedExport] at h
  split at h
  · cases h
    exact ⟨rfl, rfl⟩
  · cases h

theorem failedFulfillment_eq {row : OrderFulfillment}
    (h : failedFulfillment s row = some operation) :
    operation.sourceType = .ORDER_FULFILLMENT ∧ operation.sourceId = row.orderId := by
  rw [failedFulfillment] at h
  split at h
  · cases h
    exact ⟨rfl, rfl⟩
  · cases h

theorem nodup_operation : ((operationEvents s).present.map SourceEvent.sourceKey).Nodup := by
  have hkeys : ∀ {row row' : OperationRow}, (operationEvent row).sourceKey =
      (operationEvent row').sourceKey →
        row.sourceType = row'.sourceType ∧ row.sourceId = row'.sourceId := by
    intro row row' hkey
    obtain ⟨htype, hid, -⟩ := SourceKey.operation.inj hkey
    exact ⟨htype, hid⟩
  refine nodup_present (pairwise_append.mpr ⟨?_, ?_, ?_⟩)
  · refine pairwise_filterMap.mpr ((pairwise_rows s.dataExports).imp ?_)
    rintro x x' hne row hrow row' hrow' event hevent event' hevent' hkey
    cases hevent
    cases hevent'
    have hid := (hkeys hkey).2
    rw [(failedExport_eq hrow).2, (failedExport_eq hrow').2] at hid
    exact hne hid
  · refine pairwise_filterMap.mpr ((pairwise_rows s.fulfillments).imp ?_)
    rintro x x' hne row hrow row' hrow' event hevent event' hevent' hkey
    cases hevent
    cases hevent'
    have hid := (hkeys hkey).2
    rw [(failedFulfillment_eq hrow).2, (failedFulfillment_eq hrow').2] at hid
    exact hne hid
  · intro row hrow row' hrow' event hevent event' hevent' hkey
    cases hevent
    cases hevent'
    obtain ⟨x, -, hx⟩ := mem_filterMap.mp hrow
    obtain ⟨x', -, hx'⟩ := mem_filterMap.mp hrow'
    have htype := (hkeys hkey).1
    rw [(failedExport_eq hx).1, (failedFulfillment_eq hx').1] at htype
    cases htype

end UInventario.Notifications
