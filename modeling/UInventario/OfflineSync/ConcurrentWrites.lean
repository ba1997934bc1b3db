import UInventario.OfflineSync.Convergence
import UInventario.OfflineSync.SnapshotLists

/-!
# Pages while the tables are written

`System` puts a device among writes. When a pull has ended, the device should have everything that
was there at its watermark, in a version at least as new (`Delivered`).

Every page cuts a list that has been read anew by a number. So a write loses something when it takes
an entity off the list that the device has received already, when it takes a category off that is
still borne, when its stamp is not after the mark, and when it shows something with an old stamp.
`Undisturbed` is the condition, which `Client.Calm` computes from the lists, `paging_loses_nothing`
the result, and `shifted_product_lost` a run with a write that moves a product up. The invariant is
`System.Phase`.

`System.instant` and `System.marked` remember the tables up to the last full millisecond, and at the
last watermark. A stamp is taken when a statement begins, so it may be before the commit.
-/

namespace UInventario.OfflineSync.Snapshot

open Outcome List

/-! ### Writes -/

inductive Write
  | product (row : Product)
  | priceList (row : PriceList)
  | balance (row : Balance)

/-- A row is written with a stamp (`ON UPDATE CURRENT_TIMESTAMP`); not that of a deleted product. -/
def Db.write (db : Db) (write : Write) (stamp : Timestamp) : Option Db :=
  match write with
  | .product row =>
    if h : ∀ g ∈ db.offlineSyncTombstones.rows, row.id ≠ g.entityId then
      some { db with
        products := db.products.put { row with updatedAt := stamp }
        buried := fun g hg p hp ↦ by
          rcases Table.mem_put.mp hp with rfl | ⟨hp, -⟩
          · exact h g hg
          · exact db.buried g hg p hp }
    else none
  | .priceList row => some { db with
      priceLists := db.priceLists.put { row with updatedAt := stamp } }
  | .balance row => some { db with
      inventoryBalances := db.inventoryBalances.put { row with updatedAt := stamp } }

@[mk_iff]
structure Db.StampedBy (db : Db) (clock : Timestamp) : Prop where
  branches : ∀ b ∈ db.branches.rows, b.updatedAt ≤ clock
  warehouses : ∀ w ∈ db.warehouses.rows, w.updatedAt ≤ clock
  locations : ∀ l ∈ db.locations.rows, l.updatedAt ≤ clock
  cashRegisters : ∀ cr ∈ db.cashRegisters.rows, cr.updatedAt ≤ clock
  categories : ∀ c ∈ db.categories.rows, c.createdAt ≤ clock
  brands : ∀ c ∈ db.brands.rows, c.createdAt ≤ clock
  products : ∀ p ∈ db.products.rows, p.updatedAt ≤ clock
  priceLists : ∀ l ∈ db.priceLists.rows, l.updatedAt ≤ clock
  inventoryBalances : ∀ b ∈ db.inventoryBalances.rows, b.updatedAt ≤ clock

instance (db : Db) (clock : Timestamp) : Decidable (db.StampedBy clock) :=
  decidable_of_iff' _ (Db.stampedBy_iff db clock)

section Writes

variable {ids : BalanceIds} {db db' : Db} {viewer : Viewer} {t t' : Instant} {e : Entity}
  {clock clock' stamp : Timestamp} {write : Write}

theorem Db.StampedBy.mono (h : db.StampedBy clock) (hclock : clock ≤ clock') :
    db.StampedBy clock' where
  branches b hb := (h.branches b hb).trans hclock
  warehouses w hw := (h.warehouses w hw).trans hclock
  locations l hl := (h.locations l hl).trans hclock
  cashRegisters cr hcr := (h.cashRegisters cr hcr).trans hclock
  categories c hc := (h.categories c hc).trans hclock
  brands c hc := (h.brands c hc).trans hclock
  products p hp := (h.products p hp).trans hclock
  priceLists l hl := (h.priceLists l hl).trans hclock
  inventoryBalances b hb := (h.inventoryBalances b hb).trans hclock

theorem Db.later_write (h : db.write write stamp = some db') (hstamp : sqlDate t < stamp) :
    Later db db' t := by
  cases write with
  | product row =>
    simp only [Db.write] at h
    split at h
    case isTrue hbury =>
      cases h
      refine ⟨rfl, rfl, rfl, rfl, rfl, rfl, rfl, rfl, rfl, fun p hp hle ↦ ?_, fun _ h _ ↦ h,
        fun _ h _ ↦ h⟩
      rcases Table.mem_put.mp hp with rfl | ⟨hp, -⟩
      · exact absurd hle (not_le.mpr hstamp)
      · exact hp
    case isFalse => cases h
  | priceList row =>
    cases h
    refine ⟨rfl, rfl, rfl, rfl, rfl, rfl, rfl, rfl, rfl, fun _ h _ ↦ h, fun l hl hle ↦ ?_,
      fun _ h _ ↦ h⟩
    rcases Table.mem_put.mp hl with rfl | ⟨hl, -⟩
    · exact absurd hle (not_le.mpr hstamp)
    · exact hl
  | balance row =>
    cases h
    refine ⟨rfl, rfl, rfl, rfl, rfl, rfl, rfl, rfl, rfl, fun _ h _ ↦ h, fun _ h _ ↦ h,
      fun b hb hle ↦ ?_⟩
    rcases Table.mem_put.mp hb with rfl | ⟨hb, -⟩
    · exact absurd hle (not_le.mpr hstamp)
    · exact hb

theorem Db.StampedBy.of_write (hdb : db.StampedBy clock) (h : db.write write stamp = some db')
    (hstamp : stamp ≤ clock) : db'.StampedBy clock := by
  cases write with
  | product row =>
    simp only [Db.write] at h
    split at h
    case isTrue hbury =>
      cases h
      refine { hdb with products := fun p hp ↦ ?_ }
      rcases Table.mem_put.mp hp with rfl | ⟨hp, -⟩
      · exact hstamp
      · exact hdb.products p hp
    case isFalse => cases h
  | priceList row =>
    cases h
    refine { hdb with priceLists := fun l hl ↦ ?_ }
    rcases Table.mem_put.mp hl with rfl | ⟨hl, -⟩
    · exact hstamp
    · exact hdb.priceLists l hl
  | balance row =>
    cases h
    refine { hdb with inventoryBalances := fun b hb ↦ ?_ }
    rcases Table.mem_put.mp hb with rfl | ⟨hb, -⟩
    · exact hstamp
    · exact hdb.inventoryBalances b hb

theorem Shows.of_stampedBy (h : Shows ids db viewer t' e) (hdb : db.StampedBy (sqlDate t)) :
    Shows ids db viewer t e ∧ e.updatedAt ≤ t := by
  have hbranch : ∀ {b}, BranchListed db viewer t' b → BranchListed db viewer t b := fun hb ↦
    ⟨hb.1, hb.2.1, hdb.branches _ hb.1, hb.2.2.2⟩
  have hwarehouse : ∀ {w}, WarehouseListed db viewer t' w → WarehouseListed db viewer t w := by
    rintro w ⟨hw, hactive, -, b, hb, hbw⟩
    exact ⟨hw, hactive, hdb.warehouses w hw, b, hbranch hb, hbw⟩
  have hlocation : ∀ {l}, LocationListed db viewer t' l → LocationListed db viewer t l := by
    rintro l ⟨hl, hactive, -, w, hw, hwl⟩
    exact ⟨hl, hactive, hdb.locations l hl, w, hwarehouse hw, hwl⟩
  have hcatalog : CatalogListed db viewer t' → CatalogListed db viewer t := by
    rintro ⟨⟨b, hb⟩, hallowed⟩
    exact ⟨⟨b, hbranch hb⟩, hallowed⟩
  have hproduct : ∀ {p}, ProductListed db viewer t' p → ProductListed db viewer t p := by
    rintro p ⟨hlisted, hp, hactive, hschema, -⟩
    exact ⟨hcatalog hlisted, hp, hactive, hschema, hdb.products p hp⟩
  cases h with
  | branch hb => exact ⟨.branch (hbranch hb), iso_le_of_le_sqlDate (hdb.branches _ hb.1)⟩
  | warehouse hw => exact ⟨.warehouse (hwarehouse hw), iso_le_of_le_sqlDate (hdb.warehouses _ hw.1)⟩
  | location hl => exact ⟨.location (hlocation hl), iso_le_of_le_sqlDate (hdb.locations _ hl.1)⟩
  | cashRegister hcr =>
    obtain ⟨hrow, -, ⟨b, hb, hbcr⟩, haccess⟩ := hcr
    exact ⟨.cashRegister ⟨hrow, hdb.cashRegisters _ hrow, ⟨b, hbranch hb, hbcr⟩, haccess⟩,
      iso_le_of_le_sqlDate (hdb.cashRegisters _ hrow)⟩
  | category hp hc =>
    exact ⟨.category (hproduct hp) hc,
      iso_le_of_le_sqlDate (hdb.categories _ (Product.mem_of_category? hc))⟩
  | brand hp hc =>
    exact ⟨.brand (hproduct hp) hc,
      iso_le_of_le_sqlDate (hdb.brands _ (Product.mem_of_brand? hc))⟩
  | product hp => exact ⟨.product (hproduct hp), iso_le_of_le_sqlDate (hdb.products _ hp.2.1)⟩
  | priceList hl =>
    obtain ⟨hlisted, hsales, hl, -⟩ := hl
    exact ⟨.priceList ⟨hcatalog hlisted, hsales, hl, hdb.priceLists _ hl⟩,
      iso_le_of_le_sqlDate (hdb.priceLists _ hl)⟩
  | balance hb =>
    obtain ⟨hlisted, hstock, hb, -, l, hl, hlb⟩ := hb
    exact ⟨.balance ⟨hcatalog hlisted, hstock, hb, hdb.inventoryBalances _ hb, l, hlocation hl,
      hlb⟩,
      iso_le_of_le_sqlDate (hdb.inventoryBalances _ hb)⟩

end Writes

/-! ### The system -/

/-- **A device among writes.** -/
structure System where
  db : Db
  clock : Timestamp
  client : Client
  instant : Db
  marked : Option Db

inductive Event
  | wait (microseconds : ℕ)
  | write (write : Write) (stamp : Timestamp)
  | request (pageSize : ℕ)

section Steps

variable (ids : BalanceIds) (viewer : Viewer)

/-- The tables at the watermark of the pull that the client is in after a request. -/
def System.nextMarked (s : System) : Option Db :=
  match s.client.next with
  | .bootstrap _ => none
  | .changes cursor => if cursor.watermarkAt = none then some s.instant else s.marked

/-- One event. A request that is refused and a write that the tables refuse do nothing. -/
def System.step (s : System) : Event → Except (Option SyncFailure) System
  | .wait microseconds =>
    .ok { s with
      clock := s.clock + microseconds
      instant := if iso (s.clock + microseconds) = iso s.clock then s.instant else s.db }
  | .write write stamp => do
    ensure (stamp ≤ s.clock) none
    let db ← demand (s.db.write write stamp) none
    pure { s with db := db, instant := if s.clock = sqlDate (iso s.clock) then db else s.instant }
  | .request pageSize => do
    let client ← (s.client.request ids s.db viewer ⟨iso s.clock, pageSize⟩).mapError some
    pure { s with client := client, marked := s.nextMarked }

def Current (db : Db) (e : Entity) : Prop :=
  ∃ t, Shows ids db viewer t e

/-- The next request fixes the instant of a bootstrap or the watermark of a pull. -/
def Client.TakesMark (client : Client) : Prop :=
  match client.next with
  | .bootstrap cursor => cursor = none
  | .changes cursor => cursor.watermarkAt = none

/-- **A write disturbs no paging.** -/
def Client.Undisturbed (client : Client) (db db' : Db) (stamp : Timestamp) : Prop :=
  match client.next with
  | .bootstrap none => True
  | .bootstrap (some cursor) =>
    -- the stamp is of a later millisecond than the snapshot,
    cursor.snapshotAt < iso stamp ∧
    -- what leaves the list has not been received, and is not shown any more or has a later stamp,
    (∀ e, Shows ids db viewer cursor.snapshotAt e → ¬Shows ids db' viewer cursor.snapshotAt e →
      client.device e.key = none ∧ (Current ids viewer db' e → cursor.snapshotAt < e.updatedAt)) ∧
    -- and what comes to be shown has a later stamp, or is in the list or on the device
    ∀ e, Current ids viewer db' e → Current ids viewer db e ∨ client.device e.key = some e ∨
      Shows ids db' viewer cursor.snapshotAt e ∨ cursor.snapshotAt < e.updatedAt
  | .changes cursor =>
    match cursor.watermarkAt with
    | none =>
      ∀ e, Current ids viewer db' e → Current ids viewer db e ∨ client.device e.key = some e ∨
        cursor.snapshotAt < e.updatedAt
    | some w =>
      w < iso stamp ∧
      -- no change leaves the list
      (∀ c, Sends ids db viewer cursor.toServerCursor w c →
        Sends ids db' viewer cursor.toServerCursor w c) ∧
      ∀ e, Current ids viewer db' e → Current ids viewer db e ∨ client.device e.key = some e ∨
        w < e.updatedAt

/-- **An event disturbs no paging**: a mark is taken in a millisecond in which nothing has been
written, and a write does no harm. -/
def System.Undisturbed (s : System) : Event → Prop
  | .wait _ => True
  | .write write stamp =>
    ∀ db', s.db.write write stamp = some db' → s.client.Undisturbed ids viewer s.db db' stamp
  | .request _ => s.client.TakesMark → s.instant = s.db

/-- **Nothing has been lost**: after a pull the device has everything that was shown at its
watermark, in a version at least as new. -/
def System.Delivered (s : System) : Prop :=
  ∀ cursor db, s.client.next = .changes cursor → cursor.watermarkAt = none → s.marked = some db →
    ∀ e, Shows ids db viewer cursor.snapshotAt e →
      ∃ e', s.client.device e.key = some e' ∧ e.version ≤ e'.version ∧ e.updatedAt ≤ e'.updatedAt

/-- A device without anything, in a millisecond in which nothing has been written. -/
structure System.Starts (s : System) : Prop where
  client : s.client = .start
  marked : s.marked = none
  instant : s.instant = s.db
  stamped : s.db.StampedBy (sqlDate (iso s.clock))

/-! ### The invariant -/

def freshAt (db : Db) (t : Instant) : Replica EntityKey Entity :=
  (⟨db, viewer, t, fun _ ↦ none⟩ : SyncPoint).fresh ids

structure Bootstrapping (db : Db) (device : Replica EntityKey Entity) (cursor : ServerCursor) :
    Prop where
  read : ∀ e ∈ (entities ids db viewer cursor.snapshotAt).take cursor.offset,
    device e.key = some e
  due : ∀ e, Current ids viewer db e → device e.key = some e ∨
    e ∈ (entities ids db viewer cursor.snapshotAt).drop cursor.offset ∨
    cursor.snapshotAt < e.updatedAt

structure Pulling (db marked : Db) (device : Replica EntityKey Entity) (cursor : ServerCursor)
    (w : Instant) : Prop where
  tells : Replica.Tells ((candidates ids db viewer cursor w).map OfflineChange.change)
    (freshAt ids viewer marked w)
  marked : ∀ e, Shows ids marked viewer w e → device e.key = some e ∨
    ∃ c ∈ ((candidates ids db viewer cursor w).map OfflineChange.change).drop cursor.offset,
      c.key = e.key
  due : ∀ e, Current ids viewer db e → (device e.key = some e ∨
    ∃ c ∈ ((candidates ids db viewer cursor w).map OfflineChange.change).drop cursor.offset,
      c.key = e.key) ∨ w < e.updatedAt

/-- Nothing is under way, and everything is on the device or has a later stamp. -/
structure Rested (db : Db) (marked : Option Db) (device : Replica EntityKey Entity)
    (cursor : ServerCursor) : Prop where
  offset : cursor.offset = 0
  marked : ∀ m, marked = some m → ∀ e, Shows ids m viewer cursor.snapshotAt e →
    device e.key = some e
  due : ∀ e, Current ids viewer db e → device e.key = some e ∨ cursor.snapshotAt < e.updatedAt

def System.Phase (s : System) : Prop :=
  match s.client.next with
  | .bootstrap none => s.marked = none
  | .bootstrap (some cursor) => Bootstrapping ids viewer s.db s.client.device cursor
  | .changes cursor =>
    match cursor.watermarkAt with
    | none => Rested ids viewer s.db s.marked s.client.device cursor.toServerCursor
    | some w => ∃ m, s.marked = some m ∧
      Pulling ids viewer s.db m s.client.device cursor.toServerCursor w

structure System.Inv (s : System) : Prop where
  stamped : s.db.StampedBy s.clock
  instant : s.instant.StampedBy (sqlDate (iso s.clock))
  phase : s.Phase ids viewer

end Steps

section Invariant

variable {ids : BalanceIds} {viewer : Viewer} {s s' : System} {db db' marked : Db} {e : Entity}
  {device : Replica EntityKey Entity} {cursor : ServerCursor} {t w : Instant}

theorem freshAt_eq_some {k : EntityKey} :
    freshAt ids viewer db t k = some e ↔ Shows ids db viewer t e ∧ e.key = k :=
  SyncPoint.fresh_eq_some

theorem sqlDate_iso_le (clock : Timestamp) : sqlDate (iso clock) ≤ clock :=
  Nat.div_mul_le_self clock 1000

/-! ### Pages -/

theorem applyAll_page_of_shows {T : Instant} (hT : w ≤ T) (hshows : Shows ids db viewer T e)
    {offset size : ℕ} (hk : device e.key = some e ∨
      ∃ c ∈ ((candidates ids db viewer cursor w).map OfflineChange.change).drop offset,
        c.key = e.key) :
    device.applyAll (page ((candidates ids db viewer cursor w).map OfflineChange.change)
        offset size) e.key = some e ∨
      ∃ c ∈ ((candidates ids db viewer cursor w).map OfflineChange.change).drop (offset +
        (page ((candidates ids db viewer cursor w).map OfflineChange.change) offset size).length),
        c.key = e.key := by
  have hfresh : freshAt ids viewer db T e.key = some e := freshAt_eq_some.mpr ⟨hshows, rfl⟩
  have htells : Replica.Tells ((candidates ids db viewer cursor w).map OfflineChange.change)
      (freshAt ids viewer db T) :=
    @candidates_tell ids w ⟨db, viewer, T, fun _ ↦ none⟩ cursor hT
  rw [← hfresh] at hk ⊢
  exact htells.applyAll_page offset size hk

/-- **A page of a pull.** -/
theorem Pulling.after_page (h : Pulling ids viewer db marked device cursor w) (size : ℕ) :
    Pulling ids viewer db marked
      (device.applyAll ((page (candidates ids db viewer cursor w) cursor.offset size).map
        OfflineChange.change))
      { cursor with offset := cursor.offset +
        (page (candidates ids db viewer cursor w) cursor.offset size).length } w := by
  have hpage := @page_map _ (candidates ids db viewer cursor w) _ OfflineChange.change cursor.offset
    size
  have hlength : (page (candidates ids db viewer cursor w) cursor.offset size).length =
      (page ((candidates ids db viewer cursor w).map OfflineChange.change) cursor.offset
        size).length := by
    rw [hpage, length_map]
  rw [← hpage, hlength]
  refine ⟨h.tells, fun e he ↦ ?_, fun e he ↦ ?_⟩
  · have hfresh : freshAt ids viewer marked w e.key = some e := freshAt_eq_some.mpr ⟨he, rfl⟩
    have hk := h.marked e he
    rw [← hfresh] at hk ⊢
    exact h.tells.applyAll_page cursor.offset size hk
  · rcases h.due e he with hk | hlate
    · obtain ⟨T, hT⟩ := he
      exact .inl (applyAll_page_of_shows (le_max_left w T) (hT.mono (le_max_right w T)) hk)
    · exact .inr hlate

theorem upserts_tell (ht : t ≤ w) :
    Replica.Tells ((entities ids db viewer t).map Entity.upsert) (freshAt ids viewer db w) := by
  refine List.forall_mem_map.mpr fun e he ↦ ?_
  exact (freshAt_eq_some.mpr ⟨(mem_entities.mp he).mono ht, rfl⟩).symm

/-- **A page of a bootstrap.** -/
theorem Bootstrapping.after_page (h : Bootstrapping ids viewer db device cursor) (size : ℕ) :
    Bootstrapping ids viewer db
      (device.applyAll ((page (entities ids db viewer cursor.snapshotAt) cursor.offset size).map
        Entity.upsert))
      { cursor with offset := cursor.offset +
        (page (entities ids db viewer cursor.snapshotAt) cursor.offset size).length } := by
  have hsub : (page (entities ids db viewer cursor.snapshotAt) cursor.offset size).map
      Entity.upsert ⊆ (entities ids db viewer cursor.snapshotAt).map Entity.upsert :=
    map_subset _ fun e he ↦ mem_of_mem_page he
  have hkept : ∀ e T, Shows ids db viewer T e → cursor.snapshotAt ≤ T → device e.key = some e →
      device.applyAll ((page (entities ids db viewer cursor.snapshotAt) cursor.offset size).map
        Entity.upsert) e.key = some e := by
    intro e T he hT hk
    have hfresh : freshAt ids viewer db T e.key = some e := freshAt_eq_some.mpr ⟨he, rfl⟩
    rw [← hfresh] at hk ⊢
    exact ((upserts_tell hT).subset hsub).applyAll_of_eq hk
  have hreceived : ∀ e ∈ page (entities ids db viewer cursor.snapshotAt) cursor.offset size,
      device.applyAll ((page (entities ids db viewer cursor.snapshotAt) cursor.offset size).map
        Entity.upsert) e.key = some e := by
    intro e he
    have hshows := mem_entities.mp (mem_of_mem_page he)
    exact (((upserts_tell le_rfl).subset hsub).applyAll_of_mem (mem_map_of_mem he)).trans
      (freshAt_eq_some.mpr ⟨hshows, rfl⟩)
  refine ⟨fun e he ↦ ?_, fun e he ↦ ?_⟩
  · rw [take_add_page, mem_append] at he
    rcases he with he | he
    · exact hkept e _ (mem_entities.mp (mem_of_mem_take he)) le_rfl (h.read e he)
    · exact hreceived e he
  · rcases h.due e he with hk | hdrop | hlate
    · obtain ⟨T, hT⟩ := he
      exact .inl (hkept e _ (hT.mono (le_max_right cursor.snapshotAt T)) (le_max_left _ T) hk)
    · rw [← page_append_drop cursor.offset size, mem_append] at hdrop
      rcases hdrop with hpage | hdrop
      · exact .inl (hreceived e hpage)
      · exact .inr (.inl hdrop)
    · exact .inr (.inr hlate)

/-! ### Requests -/

theorem System.Inv.shows_of_current (h : s.Inv ids viewer) (hmark : s.instant = s.db)
    (he : Current ids viewer s.db e) :
    Shows ids s.db viewer (iso s.clock) e ∧ e.updatedAt ≤ iso s.clock := by
  obtain ⟨T, hT⟩ := he
  exact hT.of_stampedBy (hmark ▸ h.instant)

section

variable (h : s.Inv ids viewer) (hundisturbed : s.client.TakesMark → s.instant = s.db)
  {cursor? : Option ServerCursor} {request : Request} {client : Client}
include h hundisturbed

theorem bootstrapping_of_request (hnext : s.client.next = .bootstrap cursor?)
    (hcursor : decodeBootstrap cursor? viewer (iso s.clock) = .ok cursor) :
    Bootstrapping ids viewer s.db s.client.device cursor := by
  have hphase := h.phase
  simp only [System.Phase, hnext] at hphase
  cases cursor? with
  | some given =>
    simp only [decodeBootstrap, eq_ok] at hcursor
    obtain ⟨⟨⟩, -, rfl⟩ := hcursor
    exact hphase
  | none =>
    simp only [decodeBootstrap, pure_eq_ok] at hcursor
    subst hcursor
    have hmark : s.instant = s.db := hundisturbed (by simp only [Client.TakesMark, hnext])
    refine ⟨fun e he ↦ absurd he not_mem_nil, fun e he ↦ .inr (.inl ?_)⟩
    exact mem_entities.mpr (h.shows_of_current hmark he).1

/-- **A request for a page of the bootstrap.** -/
theorem phase_bootstrap (hnext : s.client.next = .bootstrap cursor?)
    (hnow : request.now = iso s.clock)
    (hrequest : s.client.request ids s.db viewer request = .ok client) :
    System.Phase ids viewer { s with client := client, marked := s.nextMarked } := by
  obtain ⟨cursor, hcursor, hdevice, hnext'⟩ := request_bootstrap hnext hrequest
  rw [hnow] at hcursor
  have hpage := (bootstrapping_of_request h hundisturbed hnext hcursor).after_page request.pageSize
  rw [← hdevice] at hpage
  rcases hnext' with ⟨hlast, hnext'⟩ | ⟨-, hnext'⟩
  · simp only [System.Phase, hnext']
    refine ⟨rfl, fun m hm ↦ ?_, fun e he ↦ ?_⟩
    · simp only [System.nextMarked, hnext] at hm
      cases hm
    · rcases hpage.due e he with hk | hdrop | hlate
      · exact .inl hk
      · rw [drop_of_length_le hlast] at hdrop
        exact absurd hdrop not_mem_nil
      · exact .inr hlate
  · simp only [System.Phase, hnext']
    exact hpage

theorem pulling_of_request {cursor : ChangesCursor}
    (hnext : s.client.next = .changes cursor) (hw : w = cursor.watermarkAt.getD (iso s.clock)) :
    ∃ m, s.nextMarked = some m ∧
      Pulling ids viewer s.db m s.client.device cursor.toServerCursor w := by
  have hphase := h.phase
  simp only [System.Phase, hnext] at hphase
  cases hwatermark : cursor.watermarkAt with
  | some w' =>
    rw [hwatermark] at hphase hw
    obtain ⟨m, hm, hpulling⟩ := hphase
    refine ⟨m, ?_, hw ▸ hpulling⟩
    rw [System.nextMarked, hnext]
    exact (if_neg (hwatermark ▸ nofun)).trans hm
  | none =>
    rw [hwatermark] at hphase hw
    have hmark : s.instant = s.db :=
      hundisturbed (by simp only [Client.TakesMark, hnext, hwatermark])
    have hw' : w = iso s.clock := hw
    subst hw'
    -- a key that is not on the device has a later stamp, so it is among the candidates
    have hdue : ∀ e, Current ids viewer s.db e → s.client.device e.key = some e ∨
        ∃ c ∈ ((candidates ids s.db viewer cursor.toServerCursor (iso s.clock)).map
          OfflineChange.change).drop cursor.offset, c.key = e.key := by
      intro e he
      obtain ⟨hshows, hstamp⟩ := h.shows_of_current hmark he
      refine (hphase.due e he).imp_right fun hlate ↦ ⟨Entity.upsert e, ?_, rfl⟩
      rw [hphase.offset, drop_zero]
      exact List.mem_map.mpr ⟨⟨.UPSERT, e⟩,
        mem_candidates_iff_sends.mpr (.inl ⟨rfl, hshows, hlate, hstamp⟩), rfl⟩
    refine ⟨s.instant, ?_, ?_⟩
    · rw [System.nextMarked, hnext]
      exact if_pos hwatermark
    · rw [hmark]
      exact ⟨@candidates_tell ids _ ⟨s.db, viewer, iso s.clock, fun _ ↦ none⟩ _ le_rfl,
        fun e he ↦ hdue e ⟨_, he⟩, fun e he ↦ .inl (hdue e he)⟩

/-- **A request for a page of changes.** -/
theorem phase_changes {cursor : ChangesCursor} (hnext : s.client.next = .changes cursor)
    (hnow : request.now = iso s.clock)
    (hrequest : s.client.request ids s.db viewer request = .ok client) :
    System.Phase ids viewer { s with client := client, marked := s.nextMarked } := by
  obtain ⟨w, hw, hdevice, hnext'⟩ := request_changes hnext hrequest
  rw [hnow] at hw
  obtain ⟨m, hm, hpulling⟩ := pulling_of_request h hundisturbed hnext hw
  have hpage := hpulling.after_page request.pageSize
  rw [← hdevice] at hpage
  rcases hnext' with ⟨-, hnext'⟩ | ⟨hlast, hnext'⟩
  · simp only [System.Phase, hnext']
    exact ⟨m, hm, hpage⟩
  · have hnone : ∀ k, ¬∃ c ∈ ((candidates ids s.db viewer cursor.toServerCursor w).map
        OfflineChange.change).drop (cursor.offset + (page (candidates ids s.db viewer
          cursor.toServerCursor w) cursor.offset request.pageSize).length), c.key = k := by
      rintro k ⟨c, hc, -⟩
      rw [← map_drop, drop_of_length_le hlast] at hc
      exact absurd hc not_mem_nil
    simp only [System.Phase, hnext']
    refine ⟨rfl, fun m' hm' e he ↦ ?_, fun e he ↦ ?_⟩
    · obtain rfl : m = m' := Option.some_injective _ (hm.symm.trans hm')
      exact (hpage.marked e he).resolve_right (hnone e.key)
    · exact (hpage.due e he).imp_left fun hk ↦ hk.resolve_right (hnone e.key)

end

/-! ### Writes -/

/-- **A write that disturbs no paging.** -/
theorem phase_write (h : s.Inv ids viewer) {stamp : Timestamp} {write : Write}
    (hwrite : s.db.write write stamp = some db') {instant : Db}
    (hundisturbed : s.client.Undisturbed ids viewer s.db db' stamp) :
    System.Phase ids viewer { s with db := db', instant := instant } := by
  have hphase := h.phase
  unfold System.Phase at hphase ⊢
  unfold Client.Undisturbed at hundisturbed
  cases hnext : s.client.next with
  | bootstrap cursor? =>
    rw [hnext] at hphase hundisturbed
    cases cursor? with
    | none => exact hphase
    | some cursor =>
      obtain ⟨hstamp, hleaves, hcomes⟩ := hundisturbed
      have hlater := Db.later_write hwrite (sqlDate_lt_of_lt_iso hstamp)
      have hread : (entities ids db' viewer cursor.snapshotAt).take cursor.offset =
          (entities ids s.db viewer cursor.snapshotAt).take cursor.offset := by
        refine take_eq_of_sublist hlater.entities_sublist nodup_entities cursor.offset fun e he ↦ ?_
        by_contra hgone
        have hshows := mem_entities.mp (mem_of_mem_take he)
        have hkey := (hleaves e hshows fun hshows' ↦ hgone (mem_entities.mpr hshows')).1
        rw [hphase.read e he] at hkey
        cases hkey
      refine ⟨fun e he ↦ hphase.read e (hread ▸ he), fun e he ↦ ?_⟩
      -- what is in the list is read or in what is left
      have hlisted : Shows ids db' viewer cursor.snapshotAt e → s.client.device e.key = some e ∨
          e ∈ (entities ids db' viewer cursor.snapshotAt).drop cursor.offset := by
        intro hshows
        have hmem := mem_entities.mpr hshows
        rw [← take_append_drop cursor.offset (entities ids db' viewer cursor.snapshotAt),
          mem_append, hread] at hmem
        exact hmem.imp_left (hphase.read e)
      rcases hcomes e he with hcurrent | hk | hshows | hlate
      · rcases hphase.due e hcurrent with hk | hdrop | hlate
        · exact .inl hk
        · by_cases hshows : Shows ids db' viewer cursor.snapshotAt e
          · exact or_assoc.mp (.inl (hlisted hshows))
          · have hold := mem_entities.mp (mem_of_mem_drop hdrop)
            exact .inr (.inr ((hleaves e hold hshows).2 he))
        · exact .inr (.inr hlate)
      · exact .inl hk
      · exact or_assoc.mp (.inl (hlisted hshows))
      · exact .inr (.inr hlate)
  | changes cursor =>
    rw [hnext] at hphase hundisturbed
    cases hwatermark : cursor.watermarkAt with
    | none =>
      simp only [hwatermark] at hphase hundisturbed ⊢
      refine ⟨hphase.offset, hphase.marked, fun e he ↦ ?_⟩
      rcases hundisturbed e he with hcurrent | hk | hlate
      · exact hphase.due e hcurrent
      · exact .inl hk
      · exact .inr hlate
    | some w =>
      simp only [hwatermark] at hphase hundisturbed ⊢
      obtain ⟨hstamp, hkeep, hcomes⟩ := hundisturbed
      obtain ⟨m, hm, htells, hmarked, hdue⟩ := hphase
      have hlater := Db.later_write hwrite (sqlDate_lt_of_lt_iso hstamp)
      have hsame := hlater.candidates_eq hkeep
      refine ⟨m, hm, hsame ▸ htells, hsame ▸ hmarked, fun e he ↦ ?_⟩
      rw [hsame]
      rcases hcomes e he with hcurrent | hk | hlate
      · exact hdue e hcurrent
      · exact .inl (.inl hk)
      · exact .inr hlate

/-! ### Runs -/

theorem System.Starts.inv (h : s.Starts) : s.Inv ids viewer where
  stamped := h.stamped.mono (sqlDate_iso_le s.clock)
  instant := h.instant ▸ h.stamped
  phase := by
    simp only [System.Phase, h.client, Client.start]
    exact h.marked

theorem le_sqlDate_of_iso_ne {clock : Timestamp} {n : ℕ} (h : iso (clock + n) ≠ iso clock) :
    clock ≤ sqlDate (iso (clock + n)) := by
  have hdiv : ∀ a b : ℕ, (a + b) / 1000 ≠ a / 1000 → a ≤ (a + b) / 1000 * 1000 := by omega
  exact hdiv clock n h

/-- **One event.** -/
theorem System.Inv.step {event : Event} (h : s.Inv ids viewer)
    (hundisturbed : s.Undisturbed ids viewer event) (hstep : s.step ids viewer event = .ok s') :
    s'.Inv ids viewer := by
  cases event with
  | wait n =>
    cases hstep
    refine ⟨h.stamped.mono (Nat.le_add_right _ _), ?_, h.phase⟩
    split
    case isTrue hsame => exact hsame ▸ h.instant
    case isFalse hlater => exact h.stamped.mono (le_sqlDate_of_iso_ne hlater)
  | write write stamp =>
    simp only [System.step, eq_ok] at hstep
    obtain ⟨⟨⟩, hstamp, db', hwrite, rfl⟩ := hstep
    have hstamped := h.stamped.of_write hwrite hstamp
    refine ⟨hstamped, ?_, phase_write h hwrite (hundisturbed db' hwrite)⟩
    split
    case isTrue hsharp => exact hsharp ▸ hstamped
    case isFalse => exact h.instant
  | request pageSize =>
    simp only [System.step, eq_ok, mapError_eq_ok] at hstep
    obtain ⟨client, hrequest, rfl⟩ := hstep
    refine ⟨h.stamped, h.instant, ?_⟩
    cases hnext : s.client.next with
    | bootstrap cursor? => exact phase_bootstrap h hundisturbed hnext rfl hrequest
    | changes cursor => exact phase_changes h hundisturbed hnext rfl hrequest

theorem System.Inv.delivered (h : s.Inv ids viewer) : s.Delivered ids viewer := by
  intro cursor db hnext hwatermark hmarked e he
  have hphase := h.phase
  simp only [System.Phase, hnext, hwatermark] at hphase
  exact ⟨e, hphase.marked db hmarked e he, le_rfl, le_rfl⟩

/-- **Nothing is lost in a run in which no event disturbs the paging.** -/
theorem paging_loses_nothing (hstarts : s.Starts) (events : List Event)
    (hundisturbed : Along (System.step ids viewer) (System.Undisturbed ids viewer) s events) :
    (run (System.step ids viewer) s events).Delivered ids viewer := by
  have hinv : (run (System.step ids viewer) s events).Inv ids viewer :=
    run_induct_along (fun _ _ _ h hundisturbed hstep ↦ h.step hundisturbed hstep) hstarts.inv events
      hundisturbed
  exact hinv.delivered

/-! ### The condition on lists -/

/-- When the rows are stamped up to `t`, what is shown is on the list at `t`. -/
theorem current_iff (h : db.StampedBy (sqlDate t)) :
    Current ids viewer db e ↔ e ∈ entities ids db viewer t := by
  refine ⟨?_, fun he ↦ ⟨t, mem_entities.mp he⟩⟩
  rintro ⟨t', he⟩
  exact mem_entities.mpr (he.of_stampedBy h).1

end Invariant

/-- `Client.Undisturbed`, on the lists, when the rows are stamped up to `t`. -/
def Client.Calm (ids : BalanceIds) (viewer : Viewer) (client : Client) (db db' : Db)
    (stamp : Timestamp) (t : Instant) : Prop :=
  match client.next with
  | .bootstrap none => True
  | .bootstrap (some cursor) =>
    cursor.snapshotAt < iso stamp ∧
    (∀ e ∈ entities ids db viewer cursor.snapshotAt,
      e ∉ entities ids db' viewer cursor.snapshotAt → client.device e.key = none ∧
        (e ∈ entities ids db' viewer t → cursor.snapshotAt < e.updatedAt)) ∧
    ∀ e ∈ entities ids db' viewer t, e ∈ entities ids db viewer t ∨
      client.device e.key = some e ∨ e ∈ entities ids db' viewer cursor.snapshotAt ∨
      cursor.snapshotAt < e.updatedAt
  | .changes cursor =>
    match cursor.watermarkAt with
    | none =>
      ∀ e ∈ entities ids db' viewer t, e ∈ entities ids db viewer t ∨
        client.device e.key = some e ∨ cursor.snapshotAt < e.updatedAt
    | some w =>
      w < iso stamp ∧
      (∀ c ∈ candidates ids db viewer cursor.toServerCursor w,
        c ∈ candidates ids db' viewer cursor.toServerCursor w) ∧
      ∀ e ∈ entities ids db' viewer t, e ∈ entities ids db viewer t ∨
        client.device e.key = some e ∨ w < e.updatedAt

instance (ids : BalanceIds) (viewer : Viewer) (client : Client) (db db' : Db) (stamp : Timestamp)
    (t : Instant) : Decidable (client.Calm ids viewer db db' stamp t) := by
  unfold Client.Calm
  split
  · infer_instance
  · infer_instance
  · split <;> infer_instance

section Lists

variable {ids : BalanceIds} {viewer : Viewer} {s : System} {db db' : Db} {stamp : Timestamp}
  {t : Instant} {write : Write}

/-- **The condition on a write can be computed.** -/
theorem undisturbed_iff_calm {client : Client} (h : db.StampedBy (sqlDate t))
    (h' : db'.StampedBy (sqlDate t)) :
    client.Undisturbed ids viewer db db' stamp ↔ client.Calm ids viewer db db' stamp t := by
  unfold Client.Undisturbed Client.Calm
  split
  · rfl
  · simp only [current_iff h, current_iff h', ← mem_entities]
  · split
    · simp only [current_iff h, current_iff h']
    · simp only [current_iff h, current_iff h', ← mem_candidates_iff_sends]

theorem undisturbed_of_lists (hwrite : s.db.StampedBy (sqlDate (iso s.clock)) ∧
    ∀ db' ∈ s.db.write write stamp, db'.StampedBy (sqlDate (iso s.clock)) ∧
      s.client.Calm ids viewer s.db db' stamp (iso s.clock)) :
    s.Undisturbed ids viewer (.write write stamp) := by
  intro db' hdb'
  obtain ⟨hstamped, hcalm⟩ := hwrite.2 db' hdb'
  exact (undisturbed_iff_calm hwrite.1 hstamped).mpr hcalm

end Lists

/-! ### A product moves up -/

def plainProduct (id : Uuid) (price : ℤ) : Product where
  id := id
  name := [id]
  sku := [id]
  barcode := none
  categoryId := none
  brandId := none
  price := price
  baseUnit := .UNIT
  quantityPrecision := 0
  quantityRounding := .HALF_UP
  minimumQuantity := 1000
  active := true
  variantSchema := false
  version := 1
  updatedAt := 2000

def twoProducts : Db where
  branches := .ofRow ⟨1, [1], [1], true, 1000⟩
  warehouses := .empty
  locations := .empty
  cashRegisters := .empty
  userBranchAccess := []
  userCashRegisterAccess := []
  categories := .empty
  brands := .empty
  products := ⟨[plainProduct 8 100, plainProduct 9 100], by decide⟩
  priceLists := .empty
  inventoryBalances := .empty
  offlineSyncTombstones := .empty
  buried := nofun

def twoProductSystem : System where
  db := twoProducts
  clock := 10000
  client := .start
  instant := twoProducts
  marked := none

theorem twoProductSystem_starts : twoProductSystem.Starts where
  client := rfl
  marked := rfl
  instant := rfl
  stamped := by decide

/-- Two pages of one entity each, then the product received gets another price, then the rest of the
bootstrap and a pull. -/
def shiftingRun : List Event :=
  [.request 1, .request 1, .wait 1000, .write (.product (plainProduct 8 200)) 11000, .wait 1000,
    .request 1, .request 10, .wait 1000, .request 10]

theorem shiftingRun_marked :
    (run (System.step pairIds administrator) twoProductSystem shiftingRun).marked.isSome =
      true := by
  decide +kernel

/-- **The other product is never received.** -/
theorem shifted_product_lost :
    ¬∀ (ids : BalanceIds) (viewer : Viewer) (s : System) (events : List Event), s.Starts →
      (run (System.step ids viewer) s events).Delivered ids viewer := by
  intro hall
  have hdelivered := hall pairIds administrator twoProductSystem shiftingRun twoProductSystem_starts
  let s := run (System.step pairIds administrator) twoProductSystem shiftingRun
  have hnext : s.client.next = .changes (namedCursor 13) := by decide +kernel
  have hshows : Shows pairIds (s.marked.get shiftingRun_marked) administrator 13
      (plainProduct 9 100).entity := mem_entities.mp (by decide +kernel)
  obtain ⟨e', hdevice, -⟩ :=
    hdelivered _ _ hnext rfl (Option.some_get shiftingRun_marked).symm _ hshows
  cases hdevice

/-- While the bootstrap is read the product not yet received gets another price; before the pull so
does the other one; and between the two pages of the pull a product is added, which the next pull
brings. -/
def calmRun : List Event :=
  [.wait 1000, .request 2, .wait 1000, .write (.product (plainProduct 9 200)) 12000, .request 2,
    .wait 1000, .write (.product (plainProduct 8 200)) 13000, .wait 1000, .request 1,
    .wait 1000, .write (.product (plainProduct 10 100)) 15000, .request 1,
    .wait 1000, .request 10]

set_option maxRecDepth 8000 in
theorem paging_loses_nothing_calmRun :
    (run (System.step pairIds administrator) twoProductSystem calmRun).Delivered pairIds
        administrator ∧
      [8, 9, 10].map (fun id ↦ ((run (System.step pairIds administrator) twoProductSystem
        calmRun).client.device ⟨.PRODUCT, id⟩).map Entity.updatedAt) =
          [some 13, some 12, some 15] :=
  ⟨paging_loses_nothing twoProductSystem_starts calmRun
    ⟨trivial, fun _ ↦ rfl, trivial, undisturbed_of_lists (by decide +kernel), fun _ ↦ rfl,
      trivial, undisturbed_of_lists (by decide +kernel), trivial, fun _ ↦ rfl,
      trivial, undisturbed_of_lists (by decide +kernel), fun _ ↦ rfl,
      trivial, fun _ ↦ rfl, trivial⟩, by decide +kernel⟩

end UInventario.OfflineSync.Snapshot
