import Mathlib.Data.Nat.Pairing
import UInventario.OfflineSync.Pulls

/-!
# When a device converges

`Synced` is the history of a device: a bootstrap and then any number of pulls, the tables and the
viewer being whatever they are at each. After each the device should have stored what a bootstrap as
of the same instant would show. It has exactly when between any two everything is *carried forward*
(`CarriedForward`): what is shown anew has a stamp of the time between, and what is not shown any
more is buried (`incremental_sync_converges_iff`).

The writes of the application do not all keep to this. A category has the stamp of its creation, so
a new name does not travel (`renamed_category_stays`); the same goes for a category that a product
comes to have later, for what is below a branch activated again, and for a row written in the
millisecond of the instant; and cash registers, categories and brands are never buried.
-/

namespace UInventario.OfflineSync.Snapshot

open Outcome List

/-- The end of a bootstrap or of a pull: the tables and the viewer, the instant that has been taken,
and what the device has stored. -/
structure SyncPoint where
  db : Db
  viewer : Viewer
  takenAt : Instant
  device : Replica EntityKey Entity

section Histories

variable (ids : BalanceIds)

/-- **The history of a device**, its last point first. -/
inductive Synced : List SyncPoint → Client → Prop
  | bootstrap {db : Db} {viewer : Viewer} {client : Client} {cursor : ChangesCursor}
      (h : Round ids db viewer .start client) (hnext : client.next = .changes cursor) :
      Synced [⟨db, viewer, cursor.snapshotAt, client.device⟩] client
  | pull {points : List SyncPoint} {db : Db} {viewer : Viewer} {client client' : Client}
      {cursor : ChangesCursor} (hpast : Synced points client)
        (h : Round ids db viewer client client')
      (hnext : client'.next = .changes cursor) :
      Synced (⟨db, viewer, cursor.snapshotAt, client'.device⟩ :: points) client'

def SyncPoint.Shows (p : SyncPoint) (e : Entity) : Prop :=
  Snapshot.Shows ids p.db p.viewer p.takenAt e

def SyncPoint.fresh (p : SyncPoint) : Replica EntityKey Entity :=
  Replica.listing Entity.key (entities ids p.db p.viewer p.takenAt)

/-- **The device has stored what a fresh bootstrap shows.** -/
def SyncPoint.InSync (p : SyncPoint) : Prop :=
  p.device = p.fresh ids

def inScope (p₀ p₁ : SyncPoint) (id : Uuid) : Prop :=
  (∃ b, BranchListed p₁.db p₁.viewer p₁.takenAt b ∧ b.id = id) ∨
    ∃ b, BranchListed p₀.db p₀.viewer p₀.takenAt b ∧ b.id = id

def BuriedBetween (p₀ p₁ : SyncPoint) (e : Entity) : Prop :=
  ∃ g, Buries p₁.db p₀.takenAt p₁.takenAt (inScope p₀ p₁) p₁.viewer.catalogAllowed g ∧ g.key = e.key

/-- **Everything is carried forward from one point to the next.** -/
structure CarriedForward (p₀ p₁ : SyncPoint) : Prop where
  changed : ∀ e, p₁.Shows ids e →
    p₀.Shows ids e ∨ p₀.takenAt < e.updatedAt ∧ e.updatedAt ≤ p₁.takenAt
  gone : ∀ e, p₀.Shows ids e → (∃ e', p₁.Shows ids e' ∧ e'.key = e.key) ∨ BuriedBetween p₀ p₁ e

end Histories

section Convergence

variable {ids : BalanceIds} {db : Db} {viewer : Viewer} {t w : Instant} {p p₀ p₁ : SyncPoint}
  {e : Entity} {points : List SyncPoint} {client : Client} {cursor : ChangesCursor} {k : EntityKey}

theorem SyncPoint.fresh_eq_some : p.fresh ids k = some e ↔ p.Shows ids e ∧ e.key = k := by
  have hunique : ∀ e ∈ entities ids p.db p.viewer p.takenAt,
      ∀ e' ∈ entities ids p.db p.viewer p.takenAt, e.key = e'.key → e = e' :=
    fun e he e' he' hkey ↦ (mem_entities.mp he).eq_of_key_eq (mem_entities.mp he') hkey
  rw [SyncPoint.fresh, Replica.listing_eq_some hunique, mem_entities, SyncPoint.Shows]

theorem SyncPoint.fresh_eq_none : p.fresh ids k = none ↔ ∀ e, p.Shows ids e → e.key ≠ k := by
  simp only [SyncPoint.fresh, Replica.listing_eq_none, mem_entities, SyncPoint.Shows]

/-! ### What a pull sends -/

theorem candidates_tell {cursor : ServerCursor} (hw : w ≤ p.takenAt) :
    Replica.Tells ((candidates ids p.db p.viewer cursor w).map OfflineChange.change)
      (p.fresh ids) := by
  refine forall_mem_map.mpr fun c hc ↦ ?_
  rcases (mem_candidates fun _ ↦ Iff.rfl).mp hc with ⟨hupsert, hshows, -⟩ | ⟨hdelete, hburies⟩
  · rw [OfflineChange.change, hupsert]
    exact (SyncPoint.fresh_eq_some.mpr ⟨hshows.mono hw, rfl⟩).symm
  · rw [OfflineChange.change, hdelete]
    refine (SyncPoint.fresh_eq_none.mpr fun e he hkey ↦ ?_).symm
    exact hburies.not_shows he hkey.symm

/-- **A device that was in sync is so after the next pull if and only if everything has been carried
forward.** -/
theorem applyAll_candidates_iff {cursor : ServerCursor} (hcursor : cursor.snapshotAt = p₀.takenAt)
    (hbranches : cursor.authorizedBranchIds =
      idsOf .BRANCH (entities ids p₀.db p₀.viewer p₀.takenAt)) :
    (p₀.fresh ids).applyAll ((candidates ids p₁.db p₁.viewer cursor p₁.takenAt).map
      OfflineChange.change) = p₁.fresh ids ↔ CarriedForward ids p₀ p₁ := by
  have hscope : ∀ id, inScope p₀ p₁ id ↔
      id ∈ idsOf .BRANCH (entities ids p₁.db p₁.viewer p₁.takenAt) ∨
        id ∈ cursor.authorizedBranchIds := by
    intro id
    rw [hbranches, mem_idsOf_branch, mem_idsOf_branch, inScope]
  have hmem : ∀ c, c ∈ candidates ids p₁.db p₁.viewer cursor p₁.takenAt ↔
      (c.operation = .UPSERT ∧ p₁.Shows ids c.entity ∧
        p₀.takenAt < c.entity.updatedAt ∧ c.entity.updatedAt ≤ p₁.takenAt) ∨
      (c.operation = .DELETE ∧ Buries p₁.db p₀.takenAt p₁.takenAt (inScope p₀ p₁)
        p₁.viewer.catalogAllowed c.entity) := by
    intro c
    rw [← hcursor]
    exact mem_candidates hscope
  rw [(candidates_tell le_rfl).applyAll_eq_iff]
  constructor
  · intro hall
    constructor
    · intro e he
      have hfresh := (SyncPoint.fresh_eq_some (k := e.key)).mpr ⟨he, rfl⟩
      rcases hall e.key with hsame | ⟨change, hchange, hkey⟩
      · left
        exact (SyncPoint.fresh_eq_some.mp (hsame.trans hfresh)).1
      obtain ⟨c, hc, rfl⟩ := mem_map.mp hchange
      rcases (hmem c).mp hc with ⟨hupsert, hshows, hlate⟩ | ⟨hdelete, hburies⟩
      · right
        have hkey' : c.entity.key = e.key := by
          rw [← hkey, OfflineChange.change, hupsert]
          rfl
        obtain rfl := hshows.eq_of_key_eq he hkey'
        exact hlate
      · refine absurd ?_ (hburies.not_shows he)
        rw [← hkey, OfflineChange.change, hdelete]
    · intro e he
      have hfresh := (SyncPoint.fresh_eq_some (k := e.key)).mpr ⟨he, rfl⟩
      rcases hall e.key with hsame | ⟨change, hchange, hkey⟩
      · left
        exact ⟨e, (SyncPoint.fresh_eq_some.mp (hsame.symm.trans hfresh)).1, rfl⟩
      obtain ⟨c, hc, rfl⟩ := mem_map.mp hchange
      rcases (hmem c).mp hc with ⟨hupsert, hshows, -⟩ | ⟨hdelete, hburies⟩
      · left
        refine ⟨c.entity, hshows, ?_⟩
        rw [← hkey, OfflineChange.change, hupsert]
        rfl
      · right
        refine ⟨c.entity, hburies, ?_⟩
        rw [← hkey, OfflineChange.change, hdelete]
  · rintro ⟨hchanged, hgone⟩ k
    cases hnew : p₁.fresh ids k with
    | some e =>
      obtain ⟨he, rfl⟩ := SyncPoint.fresh_eq_some.mp hnew
      rcases hchanged e he with hold | hlate
      · left
        exact SyncPoint.fresh_eq_some.mpr ⟨hold, rfl⟩
      · right
        refine ⟨_, mem_map_of_mem ((hmem ⟨.UPSERT, e⟩).mpr (.inl ⟨rfl, he, hlate⟩)), rfl⟩
    | none =>
      cases hold : p₀.fresh ids k with
      | none => exact .inl rfl
      | some e =>
        right
        obtain ⟨he, rfl⟩ := SyncPoint.fresh_eq_some.mp hold
        rcases hgone e he with ⟨e', he', hkey⟩ | ⟨g, hburies, hkey⟩
        · exact absurd hkey (SyncPoint.fresh_eq_none.mp hnew e' he')
        · exact ⟨_, mem_map_of_mem ((hmem ⟨.DELETE, g⟩).mpr (.inr ⟨rfl, hburies⟩)), hkey⟩

/-! ### Histories -/

theorem applyAll_entities : Replica.applyAll (fun _ ↦ none)
      ((entities ids p.db p.viewer p.takenAt).map Entity.upsert) = p.fresh ids := by
  have htells : Replica.Tells ((entities ids p.db p.viewer p.takenAt).map Entity.upsert)
      (p.fresh ids) := by
    refine forall_mem_map.mpr fun e he ↦ ?_
    exact (SyncPoint.fresh_eq_some.mpr ⟨mem_entities.mp he, rfl⟩).symm
  refine htells.applyAll_eq_iff.mpr fun k ↦ ?_
  cases hnew : p.fresh ids k with
  | none => exact .inl rfl
  | some e =>
    obtain ⟨he, rfl⟩ := SyncPoint.fresh_eq_some.mp hnew
    exact .inr ⟨_, mem_map_of_mem (mem_entities.mpr he), rfl⟩

theorem Synced.rests (h : Synced ids points client) :
    ∃ p rest, points = p :: rest ∧ p.device = client.device ∧
      client.RestsAt ids p.db p.viewer p.takenAt := by
  induction h with
  | bootstrap h hnext =>
    obtain ⟨t, -, ⟨cursor, hcursor, hrests⟩, -⟩ := h.bootstrap rfl
    rw [hnext] at hcursor
    cases hcursor
    exact ⟨_, _, rfl, rfl, _, hnext, rfl, hrests.1 ▸ hrests.2⟩
  | pull hpast h hnext ih =>
    obtain ⟨p, rest, -, -, cursor, hcursor, -⟩ := ih
    obtain ⟨w, -, ⟨cursor', hcursor', hrests⟩, -⟩ := h.pull hcursor
    rw [hnext] at hcursor'
    cases hcursor'
    exact ⟨_, _, rfl, rfl, _, hnext, rfl, hrests.1 ▸ hrests.2⟩

theorem inSync_of_bootstrap (h : Round ids db viewer .start client)
    (hnext : client.next = .changes cursor) :
    (⟨db, viewer, cursor.snapshotAt, client.device⟩ : SyncPoint).InSync ids := by
  obtain ⟨t, -, ⟨cursor', hcursor', rfl, -⟩, hdevice⟩ := h.bootstrap rfl
  rw [hnext] at hcursor'
  cases hcursor'
  exact hdevice.trans (@applyAll_entities ids ⟨db, viewer, cursor.snapshotAt, client.device⟩)

theorem inSync_pull_iff {client' : Client}
    (hrests : client.RestsAt ids p.db p.viewer p.takenAt) (hdevice : p.device = client.device)
    (hsync : p.InSync ids) (h : Round ids db viewer client client')
    (hnext : client'.next = .changes cursor) :
    (⟨db, viewer, cursor.snapshotAt, client'.device⟩ : SyncPoint).InSync ids ↔
      CarriedForward ids p ⟨db, viewer, cursor.snapshotAt, client'.device⟩ := by
  obtain ⟨cursor₀, hcursor₀, hsnapshot, hoffset, -, hbranches⟩ := hrests
  obtain ⟨w, -, ⟨cursor', hcursor', rfl, -⟩, hdevice'⟩ := h.pull hcursor₀
  rw [hnext] at hcursor'
  cases hcursor'
  rw [hoffset, drop_zero, ← hdevice, show p.device = p.fresh ids from hsync] at hdevice'
  rw [← applyAll_candidates_iff hsnapshot hbranches]
  exact Eq.congr_left hdevice'

/-- **Incremental sync converges exactly where everything is carried forward**: what is new is
stamped in time, what is gone is buried. -/
theorem incremental_sync_converges_iff (h : Synced ids points client) :
    (∀ p ∈ points, p.InSync ids) ↔ points.IsChain fun p₁ p₀ ↦ CarriedForward ids p₀ p₁ := by
  induction h with
  | bootstrap h hnext =>
    refine iff_of_true (fun p hp ↦ ?_) (isChain_singleton _)
    rw [mem_singleton.mp hp]
    exact inSync_of_bootstrap h hnext
  | pull hpast h hnext ih =>
    obtain ⟨p, rest, rfl, hdevice, hrests⟩ := hpast.rests
    rw [forall_mem_cons, isChain_cons_cons, ← ih]
    constructor
    · rintro ⟨hsync, hpoints⟩
      have hp := hpoints p mem_cons_self
      exact ⟨(inSync_pull_iff hrests hdevice hp h hnext).mp hsync, hpoints⟩
    · rintro ⟨hcarried, hpoints⟩
      have hp := hpoints p mem_cons_self
      exact ⟨(inSync_pull_iff hrests hdevice hp h hnext).mpr hcarried, hpoints⟩

/-! ### A category is given another name, a product another price -/

def namedShop (name : Text) (price : ℤ) (version : ℕ) (updatedAt : Timestamp) : Db where
  branches := .ofRow ⟨1, [1], [1], true, 1000⟩
  warehouses := .empty
  locations := .empty
  cashRegisters := .empty
  userBranchAccess := []
  userCashRegisterAccess := []
  categories := .ofRow ⟨5, name, 1000⟩
  brands := .empty
  products := .ofRow ⟨9, [9], [9], none, some 5, none, price, .UNIT, 0, .HALF_UP, 1000, true, false,
    version, updatedAt⟩
  priceLists := .empty
  inventoryBalances := .empty
  offlineSyncTombstones := .empty
  buried := nofun

def pairIds : BalanceIds where
  balanceId := Nat.pair
  injective := Nat.pair_eq_pair.mp

def administrator : Viewer := ⟨1, 1, 1, true, [.SALES_MANAGE]⟩

/-- The category is called `1`, and the product costs a unit. -/
def opened : Db :=
  namedShop [1] 100 1 2000

/-- The category is called `2`. -/
def renamed : Db :=
  namedShop [2] 100 1 2000

/-- The product costs a unit and a half, since the fifteenth millisecond. -/
def repriced : Db :=
  namedShop [1] 150 2 15_000

def downloaded : Client :=
  (Client.start.request pairIds opened administrator ⟨10, 100⟩).toOption.getD .start

def pulled (db : Db) : Client :=
  (downloaded.request pairIds db administrator ⟨20, 100⟩).toOption.getD .start

def namedPoints (db : Db) : List SyncPoint :=
  [⟨db, administrator, 20, (pulled db).device⟩, ⟨opened, administrator, 10, downloaded.device⟩]

def namedCursor (t : Instant) : ChangesCursor := ⟨⟨1, 1, 1, 0, t, [1], [], true⟩, none⟩

theorem synced_named {db : Db}
    (hanswer : (downloaded.request pairIds db administrator ⟨20, 100⟩).toOption.isSome = true)
    (hnext : (pulled db).next = .changes (namedCursor 20)) :
    Synced pairIds (namedPoints db) (pulled db) := by
  have hstart : downloaded.next = .changes (namedCursor 10) := by decide +kernel
  have hdownloaded : Round pairIds opened administrator .start downloaded :=
    .last (eq_ok_getD (by decide +kernel) _) ⟨_, hstart, rfl⟩
  have hpulled : Round pairIds db administrator downloaded (pulled db) :=
    .last (eq_ok_getD hanswer _) ⟨_, hnext, rfl⟩
  exact .pull (.bootstrap hdownloaded hstart) hpulled hnext

/-- **A renamed category keeps its old name on the device.** -/
theorem renamed_category_stays : ¬∀ (ids : BalanceIds) (points : List SyncPoint) (client : Client),
      Synced ids points client → ∀ p ∈ points, p.InSync ids := by
  intro hall
  have hsync := hall pairIds (namedPoints renamed) (pulled renamed)
    (synced_named (by decide +kernel) (by decide +kernel)) _ mem_cons_self
  have hkey := congrFun hsync ⟨.CATEGORY, 5⟩
  exact absurd hkey (by decide +kernel)

theorem incremental_sync_converges_iff_named :
    (pulled repriced).device ⟨.PRODUCT, 9⟩ ≠ downloaded.device ⟨.PRODUCT, 9⟩ ∧
      ((∀ p ∈ namedPoints repriced, p.InSync pairIds) ↔
        (namedPoints repriced).IsChain fun p₁ p₀ ↦ CarriedForward pairIds p₀ p₁) :=
  ⟨by decide +kernel,
    incremental_sync_converges_iff (synced_named (by decide +kernel) (by decide +kernel))⟩

end Convergence

end UInventario.OfflineSync.Snapshot
