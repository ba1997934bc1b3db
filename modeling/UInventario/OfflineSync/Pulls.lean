import UInventario.Foundations.Replica
import UInventario.OfflineSync.Snapshot

/-!
# Bootstrap and changes

A device downloads a bootstrap, the list of `entities` as of the instant of its first request, page
by page. The first request of a later pull fixes the watermark; what is sent, page by page again,
are the entities as of the watermark with a stamp later than the instant of the cursor, and the
tombstones of the time between. Then the watermark becomes the instant of the cursor.

`Client` is a device, `Client.request` one request, and `Round` all the requests from one rest of
the client to the next while the tables stay as they are. Then the pages together are the whole
list: `Round.bootstrap` and `Round.pull`. A cursor is not signed here, and its session is the
session; the identifiers of changes are left out.
-/

namespace UInventario.OfflineSync.Snapshot

open Outcome List

inductive SyncFailure
  | pageSize | invalidOfflineBootstrapCursor | invalidOfflineSyncCursor
  | offlineSyncCursorExpired | offlineSyncScopeChanged

/-- `OfflineServerCursorV1`. -/
structure ServerCursor where
  (sessionId userId deviceId : Uuid)
  offset : ℕ
  snapshotAt : Instant
  (authorizedBranchIds authorizedCashRegisterIds : List Uuid)
  administrator : Bool
  deriving DecidableEq

structure ChangesCursor extends ServerCursor where
  watermarkAt : Option Instant := none
  deriving DecidableEq

structure Request where
  now : Instant
  pageSize : ℕ

abbrev OFFLINE_SYNC_MAX_PAGE_SIZE : ℕ := 500

def assertOfflineSyncPageSize (pageSize : ℕ) : Except SyncFailure PUnit :=
  ensure (1 ≤ pageSize ∧ pageSize ≤ OFFLINE_SYNC_MAX_PAGE_SIZE) .pageSize

abbrev ServerCursor.BelongsTo (cursor : ServerCursor) (viewer : Viewer) : Prop :=
  cursor.sessionId = viewer.sessionId ∧ cursor.userId = viewer.userId ∧
    cursor.deviceId = viewer.deviceId

def idsOf (kind : EntityKind) (entities : List Entity) : List Uuid :=
  orderBy (· ≤ ·) ((entities.filter fun e ↦ e.kind = kind).map Entity.id)

/-! ### `OfflineBootstrapService` -/

def initialCursor (viewer : Viewer) (now : Instant) : ServerCursor where
  sessionId := viewer.sessionId
  userId := viewer.userId
  deviceId := viewer.deviceId
  offset := 0
  snapshotAt := now
  authorizedBranchIds := []
  authorizedCashRegisterIds := []
  administrator := viewer.administrator

def decodeBootstrap (cursor : Option ServerCursor) (viewer : Viewer) (now : Instant) :
    Except SyncFailure ServerCursor :=
  match cursor with
  | some cursor => do
    ensure (cursor.BelongsTo viewer) .invalidOfflineBootstrapCursor
    pure cursor
  | none => pure (initialCursor viewer now)

/-- `page` of the response; it is complete when there is no next cursor. -/
structure BootstrapPage where
  initialSyncCursor : ServerCursor
  nextCursor : Option ServerCursor
  entities : List Entity

section Services

variable (ids : BalanceIds) (db : Db) (viewer : Viewer)

def bootstrap (cursor : Option ServerCursor) (request : Request) :
    Except SyncFailure BootstrapPage := do
  assertOfflineSyncPageSize request.pageSize
  let cursor ← decodeBootstrap cursor viewer request.now
  let entities := entities ids db viewer cursor.snapshotAt
  let pageEntities := page entities cursor.offset request.pageSize
  let nextOffset := cursor.offset + pageEntities.length
  pure {
    initialSyncCursor := { cursor with
      offset := 0, authorizedBranchIds := idsOf .BRANCH entities,
      authorizedCashRegisterIds := idsOf .CASH_REGISTER entities }
    nextCursor := if entities.length ≤ nextOffset then none
      else some { cursor with offset := nextOffset }
    entities := pageEntities }

/-! ### `OfflineChangesService` -/

inductive ChangeOperation
  | UPSERT | DELETE
  deriving DecidableEq

/-- `OfflineChangeV1`. -/
structure OfflineChange where
  operation : ChangeOperation
  entity : Entity
  deriving DecidableEq

def OfflineChange.sortKey (c : OfflineChange) : ℕ ×ₗ (ℕ ×ₗ ℕ) :=
  toLex (c.entity.updatedAt, c.entity.sortKey)

/-- Everything that a pull with this cursor and watermark has to send. -/
def candidates (cursor : ServerCursor) (watermarkAt : Instant) : List OfflineChange :=
  let entities := entities ids db viewer watermarkAt
  let branchIds := (idsOf .BRANCH entities ++ cursor.authorizedBranchIds).dedup
  let tombstones := tombstones db cursor.snapshotAt watermarkAt branchIds viewer.catalogAllowed
  orderBy (fun left right ↦ left.sortKey ≤ right.sortKey)
    ((entities.filter fun e ↦ cursor.snapshotAt < e.updatedAt ∧ e.updatedAt ≤ watermarkAt).map
        (OfflineChange.mk .UPSERT) ++
      tombstones.map (OfflineChange.mk .DELETE))

/-- The changes of a response; `hasMore` is that the next cursor has a watermark. -/
structure ChangesPage where
  nextCursor : ChangesCursor
  changes : List OfflineChange

def changes (cursor : ChangesCursor) (request : Request) : Except SyncFailure ChangesPage := do
  assertOfflineSyncPageSize request.pageSize
  ensure (cursor.BelongsTo viewer) .invalidOfflineSyncCursor
  ensure (request.now ≤ cursor.snapshotAt + 7 * 24 * 60 * 60000) .offlineSyncCursorExpired
  let watermarkAt := cursor.watermarkAt.getD request.now
  let entities := entities ids db viewer watermarkAt
  let branchIds := idsOf .BRANCH entities
  let cashRegisterIds := idsOf .CASH_REGISTER entities
  ensure (cursor.administrator = true ∨ branchIds = cursor.authorizedBranchIds ∧
    cashRegisterIds = cursor.authorizedCashRegisterIds) .offlineSyncScopeChanged
  let candidates := candidates ids db viewer cursor.toServerCursor watermarkAt
  let page := page candidates cursor.offset request.pageSize
  let nextOffset := cursor.offset + page.length
  pure {
    nextCursor := if nextOffset < candidates.length then
        { cursor with watermarkAt := some watermarkAt, offset := nextOffset }
      else
        { cursor with
          snapshotAt := watermarkAt, watermarkAt := none, offset := 0
          authorizedBranchIds := branchIds, authorizedCashRegisterIds := cashRegisterIds }
    changes := page }

/-! ### The device -/

def Entity.upsert (e : Entity) : Replica.Change EntityKey Entity := ⟨e.key, some e⟩

def OfflineChange.change (c : OfflineChange) : Replica.Change EntityKey Entity :=
  match c.operation with
  | .UPSERT => c.entity.upsert
  | .DELETE => ⟨c.entity.key, none⟩

inductive NextRequest
  | bootstrap (cursor : Option ServerCursor)
  | changes (cursor : ChangesCursor)
  deriving DecidableEq

/-- **A device**: what it has stored and how it goes on. -/
structure Client where
  device : Replica EntityKey Entity
  next : NextRequest

def Client.start : Client where
  device := fun _ ↦ none
  next := .bootstrap none

def Client.request (client : Client) (request : Request) : Except SyncFailure Client :=
  match client.next with
  | .bootstrap cursor => do
    let page ← bootstrap ids db viewer cursor request
    pure {
      device := client.device.applyAll (page.entities.map Entity.upsert)
      next := match page.nextCursor with
        | some cursor => .bootstrap (some cursor)
        | none => .changes { page.initialSyncCursor with } }
  | .changes cursor => do
    let page ← changes ids db viewer cursor request
    pure {
      device := client.device.applyAll (page.changes.map OfflineChange.change)
      next := .changes page.nextCursor }

def Client.Resting (client : Client) : Prop :=
  ∃ cursor, client.next = .changes cursor ∧ cursor.watermarkAt = none

/-- **The requests from one rest of the client to the next**, the tables staying as they are. -/
inductive Round : Client → Client → Prop
  | last {client client' : Client} {request : Request}
      (h : client.request ids db viewer request = .ok client') (hrest : client'.Resting) :
      Round client client'
  | more {client client₁ client' : Client} {request : Request}
      (h : client.request ids db viewer request = .ok client₁) (hmore : ¬client₁.Resting)
      (hround : Round client₁ client') : Round client client'

end Services

section Identifiers

variable {ids : BalanceIds} {db : Db} {viewer : Viewer} {t w : Instant} {id : Uuid}

theorem mem_idsOf {kind : EntityKind} {l : List Entity} :
    id ∈ idsOf kind l ↔ ∃ e ∈ l, e.kind = kind ∧ e.id = id := by
  simp only [idsOf, mem_orderBy, mem_map, mem_filter, decide_eq_true_eq, and_assoc]

theorem mem_idsOf_branch :
    id ∈ idsOf .BRANCH (entities ids db viewer t) ↔
      ∃ b, BranchListed db viewer t b ∧ b.id = id := by
  rw [mem_idsOf]
  constructor
  · rintro ⟨e, he, hkind, rfl⟩
    cases mem_entities.mp he with
    | branch hb => exact ⟨_, hb, rfl⟩
    | _ => exact nomatch hkind
  · rintro ⟨b, hb, rfl⟩
    exact ⟨b.entity, mem_entities.mpr (.branch hb), rfl, rfl⟩

theorem mem_candidates {cursor : ServerCursor} {scope : Uuid → Prop} {c : OfflineChange}
    (hscope : ∀ id, scope id ↔ id ∈ idsOf .BRANCH (entities ids db viewer w) ∨
      id ∈ cursor.authorizedBranchIds) :
    c ∈ candidates ids db viewer cursor w ↔
      (c.operation = .UPSERT ∧ Shows ids db viewer w c.entity ∧
        cursor.snapshotAt < c.entity.updatedAt ∧ c.entity.updatedAt ≤ w) ∨
      (c.operation = .DELETE ∧
        Buries db cursor.snapshotAt w scope viewer.catalogAllowed c.entity) := by
  have htombstones : ∀ e, e ∈ tombstones db cursor.snapshotAt w
        (idsOf .BRANCH (entities ids db viewer w) ++ cursor.authorizedBranchIds).dedup
        viewer.catalogAllowed ↔ Buries db cursor.snapshotAt w scope viewer.catalogAllowed e :=
    fun e ↦ mem_tombstones fun id ↦ by rw [hscope, mem_dedup, mem_append]
  simp only [candidates, mem_orderBy, mem_append, mem_map, mem_filter,
    decide_eq_true_eq, htombstones, mem_entities]
  cases c with
  | mk operation entity =>
    cases operation <;> simp

end Identifiers

/-! ### What a round does -/

section Rounds

variable {ids : BalanceIds} {db : Db} {viewer : Viewer} {client client' : Client}

variable {cursor? : Option ServerCursor} {cursor : ChangesCursor} {request : Request}

theorem decodeBootstrap_eq_ok {cursor : ServerCursor} {now : Instant}
    (h : decodeBootstrap cursor? viewer now = .ok cursor) :
    (∀ given, cursor? = some given → given.snapshotAt = cursor.snapshotAt) ∧
      cursor.offset = (cursor?.map ServerCursor.offset).getD 0 := by
  cases cursor? with
  | none =>
    simp only [decodeBootstrap, pure_eq_ok] at h
    subst h
    exact ⟨by rintro _ ⟨⟩, rfl⟩
  | some given =>
    simp only [decodeBootstrap, eq_ok] at h
    obtain ⟨⟨⟩, -, rfl⟩ := h
    refine ⟨fun given h ↦ ?_, rfl⟩
    cases h
    rfl

theorem request_bootstrap (hnext : client.next = .bootstrap cursor?)
    (h : client.request ids db viewer request = .ok client') :
    ∃ cursor, decodeBootstrap cursor? viewer request.now = .ok cursor ∧
      client'.device = client.device.applyAll
        ((page (entities ids db viewer cursor.snapshotAt) cursor.offset request.pageSize).map
          Entity.upsert) ∧
      ((entities ids db viewer cursor.snapshotAt).length ≤ cursor.offset +
          (page (entities ids db viewer cursor.snapshotAt) cursor.offset request.pageSize).length ∧
        client'.next = .changes {
          cursor with
          offset := 0
          authorizedBranchIds := idsOf .BRANCH (entities ids db viewer cursor.snapshotAt)
          authorizedCashRegisterIds :=
            idsOf .CASH_REGISTER (entities ids db viewer cursor.snapshotAt) } ∨
      cursor.offset +
          (page (entities ids db viewer cursor.snapshotAt) cursor.offset request.pageSize).length <
        (entities ids db viewer cursor.snapshotAt).length ∧
        client'.next = .bootstrap (some { cursor with
          offset := cursor.offset + (page (entities ids db viewer cursor.snapshotAt)
            cursor.offset request.pageSize).length })) := by
  simp only [Client.request, hnext, bootstrap, assertOfflineSyncPageSize, eq_ok] at h
  obtain ⟨answer, ⟨⟨⟩, -, cursor, hcursor, rfl⟩, rfl⟩ := h
  refine ⟨cursor, hcursor, rfl, ?_⟩
  by_cases hlast : (entities ids db viewer cursor.snapshotAt).length ≤ cursor.offset +
      (page (entities ids db viewer cursor.snapshotAt) cursor.offset request.pageSize).length
  · exact .inl ⟨hlast, by simp only [if_pos hlast]⟩
  · exact .inr ⟨not_le.mp hlast, by simp only [if_neg hlast]⟩

theorem request_changes (hnext : client.next = .changes cursor)
    (h : client.request ids db viewer request = .ok client') :
    ∃ w, w = cursor.watermarkAt.getD request.now ∧ client'.device = client.device.applyAll
        ((page (candidates ids db viewer cursor.toServerCursor w) cursor.offset
          request.pageSize).map OfflineChange.change) ∧
      (cursor.offset + (page (candidates ids db viewer cursor.toServerCursor w) cursor.offset
            request.pageSize).length <
          (candidates ids db viewer cursor.toServerCursor w).length ∧
        client'.next = .changes { cursor with
          watermarkAt := some w
          offset := cursor.offset + (page (candidates ids db viewer cursor.toServerCursor w)
            cursor.offset request.pageSize).length } ∨
      (candidates ids db viewer cursor.toServerCursor w).length ≤ cursor.offset +
          (page (candidates ids db viewer cursor.toServerCursor w) cursor.offset
            request.pageSize).length ∧
        client'.next = .changes { cursor with
          snapshotAt := w, watermarkAt := none, offset := 0
          authorizedBranchIds := idsOf .BRANCH (entities ids db viewer w)
          authorizedCashRegisterIds := idsOf .CASH_REGISTER (entities ids db viewer w) }) := by
  simp only [Client.request, hnext, changes, assertOfflineSyncPageSize, eq_ok] at h
  obtain ⟨answer, ⟨⟨⟩, -, ⟨⟩, -, ⟨⟩, -, ⟨⟩, -, rfl⟩, rfl⟩ := h
  refine ⟨_, rfl, rfl, ?_⟩
  by_cases hmore : cursor.offset + (page (candidates ids db viewer cursor.toServerCursor
      (cursor.watermarkAt.getD request.now)) cursor.offset request.pageSize).length <
        (candidates ids db viewer cursor.toServerCursor
          (cursor.watermarkAt.getD request.now)).length
  · exact .inl ⟨hmore, by simp only [if_pos hmore]⟩
  · exact .inr ⟨not_lt.mp hmore, by simp only [if_neg hmore]⟩

variable (ids db viewer) in
/-- The client has been brought up to date as of `t`. -/
def Client.RestsAt (client : Client) (t : Instant) : Prop :=
  ∃ cursor : ChangesCursor, client.next = .changes cursor ∧ cursor.snapshotAt = t ∧
    cursor.offset = 0 ∧ cursor.watermarkAt = none ∧
    cursor.authorizedBranchIds = idsOf .BRANCH (entities ids db viewer t)

/-- **The pages of a bootstrap are the snapshot**, from where its cursor stands. -/
theorem Round.bootstrap (h : Round ids db viewer client client')
    (hnext : client.next = .bootstrap cursor?) :
    ∃ t, (∀ cursor, cursor? = some cursor → cursor.snapshotAt = t) ∧
      client'.RestsAt ids db viewer t ∧
      client'.device = client.device.applyAll
        (((entities ids db viewer t).drop ((cursor?.map ServerCursor.offset).getD 0)).map
          Entity.upsert) := by
  induction h generalizing cursor? with
  | @last client client' request h hrest =>
    obtain ⟨cursor, hcursor, hdevice, ⟨hlast, hnext'⟩ | ⟨-, hnext'⟩⟩ := request_bootstrap hnext h
    · obtain ⟨hsnapshot, hoffset⟩ := decodeBootstrap_eq_ok hcursor
      refine ⟨cursor.snapshotAt, hsnapshot, ⟨_, hnext', rfl, rfl, rfl, rfl⟩, ?_⟩
      have hdrop := @page_append_drop _ (entities ids db viewer cursor.snapshotAt) cursor.offset
        request.pageSize
      rw [drop_of_length_le hlast, append_nil] at hdrop
      rw [hdevice, hdrop, hoffset]
    · obtain ⟨resting, hresting, -⟩ := hrest
      rw [hnext'] at hresting
      cases hresting
  | @more client client₁ client' request h hmore _ ih =>
    obtain ⟨cursor, hcursor, hdevice, ⟨-, hnext'⟩ | ⟨-, hnext'⟩⟩ := request_bootstrap hnext h
    · exact absurd ⟨_, hnext', rfl⟩ hmore
    · obtain ⟨hsnapshot, hoffset⟩ := decodeBootstrap_eq_ok hcursor
      obtain ⟨t, ht, hrests, hdevice'⟩ := ih hnext'
      obtain rfl := ht _ rfl
      refine ⟨_, hsnapshot, hrests, ?_⟩
      rw [hdevice', hdevice, ← Replica.applyAll_append, ← map_append, ← hoffset]
      exact congrArg _ (congrArg _ (page_append_drop cursor.offset request.pageSize))

/-- **The pages of a pull are its candidates**, from where its cursor stands. -/
theorem Round.pull (h : Round ids db viewer client client')
    (hnext : client.next = .changes cursor) :
    ∃ w, (∀ w', cursor.watermarkAt = some w' → w' = w) ∧ client'.RestsAt ids db viewer w ∧
      client'.device = client.device.applyAll
        (((candidates ids db viewer cursor.toServerCursor w).drop cursor.offset).map
          OfflineChange.change) := by
  induction h generalizing cursor with
  | @last client client' request h hrest =>
    obtain ⟨w, hw, hdevice, ⟨-, hnext'⟩ | ⟨hlast, hnext'⟩⟩ := request_changes hnext h
    · obtain ⟨resting, hresting, hnone⟩ := hrest
      rw [hnext'] at hresting
      cases hresting
      cases hnone
    · refine ⟨w, fun w' hw' ↦ ?_, ⟨_, hnext', rfl, rfl, rfl, rfl⟩, ?_⟩
      · rw [hw, hw', Option.getD_some]
      have hdrop := @page_append_drop _ (candidates ids db viewer cursor.toServerCursor w)
        cursor.offset request.pageSize
      rw [drop_of_length_le hlast, append_nil] at hdrop
      rw [hdevice, hdrop]
  | @more client client₁ client' request h hmore _ ih =>
    obtain ⟨w, hw, hdevice, ⟨-, hnext'⟩ | ⟨-, hnext'⟩⟩ := request_changes hnext h
    · obtain ⟨w', hw', hrests, hdevice'⟩ := ih hnext'
      have hsame : w = w' := hw' w rfl
      subst hsame
      refine ⟨w, fun w' hw' ↦ ?_, hrests, ?_⟩
      · rw [hw, hw', Option.getD_some]
      rw [hdevice', hdevice, ← Replica.applyAll_append, ← map_append]
      exact congrArg _ (congrArg _ (page_append_drop cursor.offset request.pageSize))
    · exact absurd ⟨_, hnext', rfl⟩ hmore

end Rounds

end UInventario.OfflineSync.Snapshot
