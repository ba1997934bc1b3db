import Mathlib.Data.List.Dedup
import Mathlib.Data.Prod.Lex
import UInventario.Pos.Pricing

/-!
# What a device is shown

`entities` is the query behind bootstrap and changes: what a viewer may see as of an instant, in
nine kinds. `tombstones` is what has been deactivated or deleted in a window of time. `Shows` and
`Buries` say of one entity, without the queries, when it is in the one list and when in the other
(`mem_entities`, `mem_tombstones`).

## Representation

* Rows are stamped in microseconds, an instant is in milliseconds: `iso` rounds down.
* The tables are those of one tenant; the items of a price list are a part of its row, and the key
  of a tombstone is the product it buries (`Db.buried`).
* Prices are in cents and quantities in thousandths.
* `BalanceIds` is the truncated SHA-256 by which the rows of `inventory_balances` are called.
-/

namespace UInventario.OfflineSync.Snapshot

open Table List

abbrev Instant := ℕ

/-- `iso`: the milliseconds of a stamp. -/
def iso (stamp : Timestamp) : Instant := stamp / 1000

/-- `sqlDate`: an instant as the database compares stamps with it. -/
def sqlDate (instant : Instant) : Timestamp := instant * 1000

variable {stamp : Timestamp}

theorem iso_le_of_le_sqlDate {t : Instant} (h : stamp ≤ sqlDate t) : iso stamp ≤ t := by
  have hdiv : stamp / 1000 ≤ t * 1000 / 1000 := Nat.div_le_div_right h
  rwa [Nat.mul_div_cancel t (by decide)] at hdiv

theorem sqlDate_lt_of_lt_iso {t : Instant} (h : t < iso stamp) : sqlDate t < stamp := by
  by_contra hle
  exact absurd (iso_le_of_le_sqlDate (not_lt.mp hle)) (not_le.mpr h)

/-! ### Tables -/

inductive AppPermission
  | PRODUCTS_MANAGE | SALES_MANAGE | INVENTORY_VIEW
  deriving DecidableEq

/-- A device and the principal of its session. `administrator` says that `ADMIN` is one of the
roles. -/
structure Viewer where
  (sessionId userId deviceId : Uuid)
  administrator : Bool
  permissions : List AppPermission

structure Branch where
  id : Uuid
  (name timezone : Text)
  active : Bool
  updatedAt : Timestamp

structure Warehouse where
  (id branchId : Uuid)
  name : Text
  active : Bool
  updatedAt : Timestamp

structure Location where
  (id warehouseId : Uuid)
  (code name : Text)
  active : Bool
  updatedAt : Timestamp

structure CashRegister where
  (id branchId : Uuid)
  (code name : Text)
  updatedAt : Timestamp

/-- A row of `categories` or `brands`. -/
structure Classification where
  id : Uuid
  name : Text
  createdAt : Timestamp

/-- A row of `products`; `variantSchema` says that the column is not null. -/
structure Product where
  id : Uuid
  (name sku : Text)
  barcode : Option Text
  (categoryId brandId : Option Uuid)
  price : ℤ
  baseUnit : ProductBaseUnit
  quantityPrecision : ℕ
  quantityRounding : QuantityRoundingMode
  minimumQuantity : ℤ
  (active variantSchema : Bool)
  version : ℕ
  updatedAt : Timestamp

structure PriceListItem where
  productId : Uuid
  price : ℤ
  deriving DecidableEq

structure PriceList where
  id : Uuid
  name : Text
  currency : Currency
  (branchId customerId : Option Uuid)
  channel : Option Pos.PriceChannel
  priority : ℤ
  validFrom : Timestamp
  validTo : Option Timestamp
  active : Bool
  version : ℕ
  items : List PriceListItem
  updatedAt : Timestamp

structure Balance where
  (productId locationId : Uuid)
  availableQuantity : ℤ
  updatedAt : Timestamp

/-- A row of `offline_sync_tombstones`, its payload as the deletion of a product writes it. -/
structure Tombstone where
  entityId : Uuid
  sku : Text
  barcode : Option Text
  name : Text
  (categoryId brandId : Option Uuid)
  price : ℤ
  version : ℕ
  occurredAt : Timestamp

instance : Keyed Branch Uuid := ⟨Branch.id⟩
instance : Keyed Warehouse Uuid := ⟨Warehouse.id⟩
instance : Keyed Location Uuid := ⟨Location.id⟩
instance : Keyed CashRegister Uuid := ⟨CashRegister.id⟩
instance : Keyed Classification Uuid := ⟨Classification.id⟩
instance : Keyed Product Uuid := ⟨Product.id⟩
instance : Keyed PriceList Uuid := ⟨PriceList.id⟩
instance : Keyed Balance (Uuid × Uuid) := ⟨fun b ↦ (b.productId, b.locationId)⟩
instance : Keyed Tombstone Uuid := ⟨Tombstone.entityId⟩

structure Db where
  branches : Table Branch
  warehouses : Table Warehouse
  locations : Table Location
  cashRegisters : Table CashRegister
  /-- Users and branches. -/
  userBranchAccess : List (Uuid × Uuid)
  /-- Users, branches and cash registers. -/
  userCashRegisterAccess : List (Uuid × Uuid × Uuid)
  (categories brands : Table Classification)
  products : Table Product
  priceLists : Table PriceList
  inventoryBalances : Table Balance
  offlineSyncTombstones : Table Tombstone
  /-- A deleted product is not there any more. -/
  buried : ∀ g ∈ offlineSyncTombstones.rows, ∀ p ∈ products.rows, p.id ≠ g.entityId

/-- `balanceId`: what the rows of `inventory_balances` are called. -/
structure BalanceIds where
  balanceId : Uuid → Uuid → Uuid
  injective : ∀ {p l p' l'}, balanceId p l = balanceId p' l' → p = p' ∧ l = l'

/-! ### Entities -/

/-- `OFFLINE_SYNC_ENTITY_KINDS`, in alphabetical order. -/
inductive EntityKind
  | BRANCH | BRAND | CASH_REGISTER | CATEGORY | INVENTORY_AVAILABILITY | LOCATION | PRICE_LIST
  | PRODUCT | WAREHOUSE
  deriving DecidableEq

def EntityKind.rank : EntityKind → ℕ
  | .BRANCH => 0
  | .BRAND => 1
  | .CASH_REGISTER => 2
  | .CATEGORY => 3
  | .INVENTORY_AVAILABILITY => 4
  | .LOCATION => 5
  | .PRICE_LIST => 6
  | .PRODUCT => 7
  | .WAREHOUSE => 8

theorem EntityKind.rank_injective : Function.Injective EntityKind.rank := by
  intro a b
  cases a <;> cases b <;> decide

structure EntityKey where
  kind : EntityKind
  id : Uuid
  deriving DecidableEq

/-- What an entity of each kind says besides `OfflineSyncRecordV1`. -/
inductive EntityData
  | BRANCH (name timezone : Text) (active : Bool)
  | WAREHOUSE (branchId : Uuid) (name : Text) (active : Bool)
  | LOCATION (warehouseId : Uuid) (code name : Text) (active : Bool)
  | CASH_REGISTER (branchId : Uuid) (code name : Text) (active : Bool)
  | CATEGORY (name : Text) (active : Bool)
  | BRAND (name : Text) (active : Bool)
  | PRODUCT (sku : Text) (barcode : Option Text) (name : Text) (categoryId brandId : Option Uuid)
      (price : ℤ) (baseUnit : ProductBaseUnit) (quantityPrecision : ℕ)
      (quantityRounding : QuantityRoundingMode) (minimumQuantity : ℤ) (active : Bool)
  | PRICE_LIST (name : Text) (currency : Currency) (branchId customerId : Option Uuid)
      (channel : Option Pos.PriceChannel) (priority : ℤ) (validFrom : Instant)
        (validTo : Option Instant)
      (active : Bool) (items : List PriceListItem)
  | INVENTORY_AVAILABILITY (productId locationId : Uuid) (availableQuantity : ℤ)
  deriving DecidableEq

def EntityData.kind : EntityData → EntityKind
  | .BRANCH .. => .BRANCH
  | .WAREHOUSE .. => .WAREHOUSE
  | .LOCATION .. => .LOCATION
  | .CASH_REGISTER .. => .CASH_REGISTER
  | .CATEGORY .. => .CATEGORY
  | .BRAND .. => .BRAND
  | .PRODUCT .. => .PRODUCT
  | .PRICE_LIST .. => .PRICE_LIST
  | .INVENTORY_AVAILABILITY .. => .INVENTORY_AVAILABILITY

/-- `OfflineSyncEntityV1`. -/
structure Entity where
  id : Uuid
  version : ℕ
  updatedAt : Instant
  data : EntityData
  deriving DecidableEq

abbrev Entity.kind (e : Entity) : EntityKind := e.data.kind

def Entity.key (e : Entity) : EntityKey := ⟨e.kind, e.id⟩

def Entity.sortKey (e : Entity) : ℕ ×ₗ ℕ := toLex (e.kind.rank, e.id)

def Branch.entity (row : Branch) : Entity where
  id := row.id
  version := 1
  updatedAt := iso row.updatedAt
  data := .BRANCH row.name row.timezone true

def Warehouse.entity (row : Warehouse) : Entity where
  id := row.id
  version := 1
  updatedAt := iso row.updatedAt
  data := .WAREHOUSE row.branchId row.name true

def Location.entity (row : Location) : Entity where
  id := row.id
  version := 1
  updatedAt := iso row.updatedAt
  data := .LOCATION row.warehouseId row.code row.name true

def CashRegister.entity (row : CashRegister) : Entity where
  id := row.id
  version := 1
  updatedAt := iso row.updatedAt
  data := .CASH_REGISTER row.branchId row.code row.name true

def Classification.category (row : Classification) : Entity where
  id := row.id
  version := 1
  updatedAt := iso row.createdAt
  data := .CATEGORY row.name true

def Classification.brand (row : Classification) : Entity where
  id := row.id
  version := 1
  updatedAt := iso row.createdAt
  data := .BRAND row.name true

def Product.entity (row : Product) : Entity where
  id := row.id
  version := row.version
  updatedAt := iso row.updatedAt
  data := .PRODUCT row.sku row.barcode row.name row.categoryId row.brandId row.price row.baseUnit
    row.quantityPrecision row.quantityRounding row.minimumQuantity true

def PriceList.entity (row : PriceList) : Entity where
  id := row.id
  version := row.version
  updatedAt := iso row.updatedAt
  data := .PRICE_LIST row.name row.currency row.branchId row.customerId row.channel row.priority
    (iso row.validFrom) (row.validTo.map iso) row.active
    (orderBy (fun a b ↦ a.productId ≤ b.productId) row.items)

def Balance.entity (ids : BalanceIds) (row : Balance) : Entity where
  id := ids.balanceId row.productId row.locationId
  version := max 1 (iso row.updatedAt)
  updatedAt := iso row.updatedAt
  data := .INVENTORY_AVAILABILITY row.productId row.locationId row.availableQuantity

/-! ### `OfflineBootstrapRepository` -/

section Queries

variable (ids : BalanceIds) (db : Db) (viewer : Viewer) (snapshotAt : Instant)

def branchRows : List Branch :=
  orderBy (fun a b ↦ a.id ≤ b.id) <| db.branches.rows.filter fun b ↦
    b.active = true ∧ b.updatedAt ≤ sqlDate snapshotAt ∧
      (viewer.administrator = true ∨ (viewer.userId, b.id) ∈ db.userBranchAccess)

def warehouseRows (branchIds : List Uuid) : List Warehouse :=
  orderBy (fun a b ↦ a.id ≤ b.id) <| db.warehouses.rows.filter fun w ↦
    w.active = true ∧ w.updatedAt ≤ sqlDate snapshotAt ∧ w.branchId ∈ branchIds

def cashRegisterRows (branchIds : List Uuid) : List CashRegister :=
  orderBy (fun a b ↦ a.id ≤ b.id) <| db.cashRegisters.rows.filter fun cr ↦
    cr.updatedAt ≤ sqlDate snapshotAt ∧ cr.branchId ∈ branchIds ∧ (viewer.administrator = true ∨
        (viewer.userId, cr.branchId, cr.id) ∈ db.userCashRegisterAccess)

def locationRows (warehouseIds : List Uuid) : List Location :=
  orderBy (fun a b ↦ a.id ≤ b.id) <| db.locations.rows.filter fun l ↦
    l.active = true ∧ l.updatedAt ≤ sqlDate snapshotAt ∧ l.warehouseId ∈ warehouseIds

def productRows : List Product :=
  orderBy (fun a b ↦ a.id ≤ b.id) <| db.products.rows.filter fun p ↦
    p.active = true ∧ p.variantSchema = false ∧ p.updatedAt ≤ sqlDate snapshotAt

def Product.category? (p : Product) : Option Classification :=
  p.categoryId.bind db.categories.find?

def Product.brand? (p : Product) : Option Classification :=
  p.brandId.bind db.brands.find?

/-- `classifications.values()`: what is set twice under a key is twice the same. -/
def classifications (products : List Product) : List Entity :=
  (products.flatMap fun p ↦ ((p.category? db).map Classification.category).toList ++
    ((p.brand? db).map Classification.brand).toList).dedup

def priceListRows : List PriceList :=
  orderBy (fun a b ↦ a.id ≤ b.id) <| db.priceLists.rows.filter fun l ↦
    l.updatedAt ≤ sqlDate snapshotAt

def balanceRows (locationIds : List Uuid) : List Balance :=
  orderBy (fun a b ↦ toLex (a.productId, a.locationId) ≤ toLex (b.productId, b.locationId)) <|
    db.inventoryBalances.rows.filter fun b ↦
      b.updatedAt ≤ sqlDate snapshotAt ∧ b.locationId ∈ locationIds

abbrev Viewer.catalogAllowed : Prop :=
  ∃ permission ∈ viewer.permissions,
    permission ∈ [AppPermission.PRODUCTS_MANAGE, .SALES_MANAGE, .INVENTORY_VIEW]

abbrev Viewer.stockAllowed : Prop :=
  ∃ permission ∈ viewer.permissions, permission ∈ [AppPermission.SALES_MANAGE, .INVENTORY_VIEW]

def catalogEntities (locations : List Location) : List Entity :=
  let products := productRows db snapshotAt
  classifications db products ++ products.map Product.entity ++
    (if AppPermission.SALES_MANAGE ∈ viewer.permissions then
      (priceListRows db snapshotAt).map PriceList.entity else []) ++
    (if locations ≠ [] ∧ viewer.stockAllowed then
      (balanceRows db snapshotAt (locations.map Location.id)).map (Balance.entity ids) else [])

/-- **Everything the viewer is shown as of an instant.** -/
def entities : List Entity :=
  let branches := branchRows db viewer snapshotAt
  let branchIds := branches.map Branch.id
  if branchIds = [] then []
  else
    let warehouses := warehouseRows db snapshotAt branchIds
    let cashRegisters := cashRegisterRows db viewer snapshotAt branchIds
    let locations := locationRows db snapshotAt (warehouses.map Warehouse.id)
    let structureEntities := branches.map Branch.entity ++ warehouses.map Warehouse.entity ++
      locations.map Location.entity ++ cashRegisters.map CashRegister.entity
    if viewer.catalogAllowed then
      orderBy (fun left right ↦ left.sortKey ≤ right.sortKey)
        (structureEntities ++ catalogEntities ids db viewer snapshotAt locations)
    else structureEntities

end Queries

/-! ### `OfflineChangesRepository` -/

def Branch.tombstone (row : Branch) : Entity where
  id := row.id
  version := max 1 (iso row.updatedAt)
  updatedAt := iso row.updatedAt
  data := .BRANCH row.name row.timezone false

def Warehouse.tombstone (row : Warehouse) : Entity where
  id := row.id
  version := max 1 (iso row.updatedAt)
  updatedAt := iso row.updatedAt
  data := .WAREHOUSE row.branchId row.name false

def Location.tombstone (row : Location) : Entity where
  id := row.id
  version := max 1 (iso row.updatedAt)
  updatedAt := iso row.updatedAt
  data := .LOCATION row.warehouseId row.code row.name false

def Product.tombstone (row : Product) : Entity where
  id := row.id
  version := row.version
  updatedAt := iso row.updatedAt
  data := .PRODUCT row.sku row.barcode row.name row.categoryId row.brandId row.price row.baseUnit
    row.quantityPrecision row.quantityRounding row.minimumQuantity false

/-- The payload has no unit and no policy of quantities, so they are the defaults. -/
def Tombstone.entity (row : Tombstone) : Entity where
  id := row.entityId
  version := row.version
  updatedAt := iso row.occurredAt
  data :=
    .PRODUCT row.sku row.barcode row.name row.categoryId row.brandId row.price .UNIT 3 .HALF_UP
    1 false

/-- `> since AND <= until`. -/
abbrev InWindow (since upTo : Instant) (stamp : Timestamp) : Prop :=
  sqlDate since < stamp ∧ stamp ≤ sqlDate upTo

section Tombstones

variable (db : Db) (since upTo : Instant) (branchIds : List Uuid)

def structureTombstones : List Entity :=
  let branches := db.branches.rows.filter fun b ↦
    b.active = false ∧ InWindow since upTo b.updatedAt ∧ b.id ∈ branchIds
  let warehouses := db.warehouses.rows.filter fun w ↦
    w.active = false ∧ InWindow since upTo w.updatedAt ∧ w.branchId ∈ branchIds
  let warehouseIds := warehouses.map Warehouse.id
  let locations := db.locations.rows.filter fun l ↦
    l.active = false ∧ InWindow since upTo l.updatedAt ∧ l.warehouseId ∈ warehouseIds
  branches.map Branch.tombstone ++ warehouses.map Warehouse.tombstone ++
    locations.map Location.tombstone

def productTombstones : List Entity :=
  let products := db.products.rows.filter fun p ↦
    p.active = false ∧ p.variantSchema = false ∧ InWindow since upTo p.updatedAt
  let hardDeletes := db.offlineSyncTombstones.rows.filter fun g ↦
    InWindow since upTo g.occurredAt
  products.map Product.tombstone ++ hardDeletes.map Tombstone.entity

/-- **What has been deactivated or deleted in a window.** -/
def tombstones (catalogAllowed : Prop) [Decidable catalogAllowed] : List Entity :=
  (if branchIds = [] then [] else structureTombstones db since upTo branchIds) ++
    (if catalogAllowed then productTombstones db since upTo else [])

end Tombstones

/-! ### Row by row -/

section Rows

variable (ids : BalanceIds) (db : Db) (viewer : Viewer) (t : Instant)

def BranchListed (b : Branch) : Prop :=
  b ∈ db.branches.rows ∧ b.active = true ∧ b.updatedAt ≤ sqlDate t ∧
    (viewer.administrator = true ∨ (viewer.userId, b.id) ∈ db.userBranchAccess)

def WarehouseListed (w : Warehouse) : Prop :=
  w ∈ db.warehouses.rows ∧ w.active = true ∧ w.updatedAt ≤ sqlDate t ∧
    ∃ b, BranchListed db viewer t b ∧ b.id = w.branchId

def CashRegisterListed (cr : CashRegister) : Prop :=
  cr ∈ db.cashRegisters.rows ∧ cr.updatedAt ≤ sqlDate t ∧
    (∃ b, BranchListed db viewer t b ∧ b.id = cr.branchId) ∧
    (viewer.administrator = true ∨ (viewer.userId, cr.branchId, cr.id) ∈ db.userCashRegisterAccess)

def LocationListed (l : Location) : Prop :=
  l ∈ db.locations.rows ∧ l.active = true ∧ l.updatedAt ≤ sqlDate t ∧
    ∃ w, WarehouseListed db viewer t w ∧ w.id = l.warehouseId

/-- Of the catalogue a viewer sees something who sees a branch and has one of the permissions. -/
def CatalogListed : Prop :=
  (∃ b, BranchListed db viewer t b) ∧ viewer.catalogAllowed

def ProductListed (p : Product) : Prop :=
  CatalogListed db viewer t ∧ p ∈ db.products.rows ∧ p.active = true ∧ p.variantSchema = false ∧
    p.updatedAt ≤ sqlDate t

def PriceListListed (l : PriceList) : Prop :=
  CatalogListed db viewer t ∧ AppPermission.SALES_MANAGE ∈ viewer.permissions ∧
    l ∈ db.priceLists.rows ∧ l.updatedAt ≤ sqlDate t

def BalanceListed (b : Balance) : Prop :=
  CatalogListed db viewer t ∧ viewer.stockAllowed ∧ b ∈ db.inventoryBalances.rows ∧
    b.updatedAt ≤ sqlDate t ∧ ∃ l, LocationListed db viewer t l ∧ l.id = b.locationId

/-- **What is shown, row by row.** -/
inductive Shows : Entity → Prop
  | branch {b} (h : BranchListed db viewer t b) : Shows b.entity
  | warehouse {w} (h : WarehouseListed db viewer t w) : Shows w.entity
  | location {l} (h : LocationListed db viewer t l) : Shows l.entity
  | cashRegister {cr} (h : CashRegisterListed db viewer t cr) : Shows cr.entity
  | category {p c} (h : ProductListed db viewer t p) (hc : p.category? db = some c) :
      Shows c.category
  | brand {p c} (h : ProductListed db viewer t p) (hc : p.brand? db = some c) : Shows c.brand
  | product {p} (h : ProductListed db viewer t p) : Shows p.entity
  | priceList {l} (h : PriceListListed db viewer t l) : Shows l.entity
  | balance {b} (h : BalanceListed db viewer t b) : Shows (b.entity ids)

end Rows

section Shown

variable {ids : BalanceIds} {db : Db} {viewer : Viewer} {t : Instant} {e e' : Entity}

variable {p : Product} {c : Classification}

theorem Product.mem_of_category? (h : p.category? db = some c) : c ∈ db.categories.rows := by
  obtain ⟨id, -, hc⟩ := Option.bind_eq_some_iff.mp h
  exact mem_of_find? hc

theorem Product.mem_of_brand? (h : p.brand? db = some c) : c ∈ db.brands.rows := by
  obtain ⟨id, -, hc⟩ := Option.bind_eq_some_iff.mp h
  exact mem_of_find? hc

/-- **No two entities that are shown have one key.** -/
theorem Shows.eq_of_key_eq (h : Shows ids db viewer t e) (h' : Shows ids db viewer t e')
    (hkey : e.key = e'.key) : e = e' := by
  have hid : e.id = e'.id := congrArg EntityKey.id hkey
  have hkind : e.kind = e'.kind := congrArg EntityKey.kind hkey
  cases h with
  | branch hb =>
    cases h' with
    | branch hb' => rw [eq_of_mem_of_key_eq hb.1 hb'.1 hid]
    | _ => exact nomatch hkind
  | warehouse hw =>
    cases h' with
    | warehouse hw' => rw [eq_of_mem_of_key_eq hw.1 hw'.1 hid]
    | _ => exact nomatch hkind
  | location hl =>
    cases h' with
    | location hl' => rw [eq_of_mem_of_key_eq hl.1 hl'.1 hid]
    | _ => exact nomatch hkind
  | cashRegister hcr =>
    cases h' with
    | cashRegister hcr' => rw [eq_of_mem_of_key_eq hcr.1 hcr'.1 hid]
    | _ => exact nomatch hkind
  | category _ hc =>
    cases h' with
    | category _ hc' =>
      rw [eq_of_mem_of_key_eq (Product.mem_of_category? hc) (Product.mem_of_category? hc')
        hid]
    | _ => exact nomatch hkind
  | brand _ hc =>
    cases h' with
    | brand _ hc' =>
      rw [eq_of_mem_of_key_eq (Product.mem_of_brand? hc) (Product.mem_of_brand? hc') hid]
    | _ => exact nomatch hkind
  | product hp =>
    cases h' with
    | product hp' => rw [eq_of_mem_of_key_eq hp.2.1 hp'.2.1 hid]
    | _ => exact nomatch hkind
  | priceList hl =>
    cases h' with
    | priceList hl' => rw [eq_of_mem_of_key_eq hl.2.2.1 hl'.2.2.1 hid]
    | _ => exact nomatch hkind
  | balance hb =>
    cases h' with
    | balance hb' =>
      rw [eq_of_mem_of_key_eq hb.2.2.1 hb'.2.2.1 (Prod.ext_iff.mpr (ids.injective hid))]
    | _ => exact nomatch hkind

/-! ### What is shown stays shown -/

theorem sqlDate_mono {t' : Instant} (h : t ≤ t') : sqlDate t ≤ sqlDate t' :=
  Nat.mul_le_mul_right 1000 h

variable {t' : Instant} {cr : CashRegister} {w : Warehouse} {l : Location} {b : Branch}

theorem BranchListed.mono (h : BranchListed db viewer t b) (ht : t ≤ t') :
    BranchListed db viewer t' b :=
  ⟨h.1, h.2.1, h.2.2.1.trans (sqlDate_mono ht), h.2.2.2⟩

theorem WarehouseListed.mono (h : WarehouseListed db viewer t w) (ht : t ≤ t') :
    WarehouseListed db viewer t' w := by
  obtain ⟨hw, hactive, hstamp, b, hb, hbw⟩ := h
  exact ⟨hw, hactive, hstamp.trans (sqlDate_mono ht), b, hb.mono ht, hbw⟩

theorem LocationListed.mono (h : LocationListed db viewer t l) (ht : t ≤ t') :
    LocationListed db viewer t' l := by
  obtain ⟨hl, hactive, hstamp, w, hw, hwl⟩ := h
  exact ⟨hl, hactive, hstamp.trans (sqlDate_mono ht), w, hw.mono ht, hwl⟩

theorem CashRegisterListed.mono (h : CashRegisterListed db viewer t cr)
    (ht : t ≤ t') : CashRegisterListed db viewer t' cr := by
  obtain ⟨hcr, hstamp, ⟨b, hb, hbcr⟩, haccess⟩ := h
  exact ⟨hcr, hstamp.trans (sqlDate_mono ht), ⟨b, hb.mono ht, hbcr⟩, haccess⟩

theorem CatalogListed.mono (h : CatalogListed db viewer t) (ht : t ≤ t') :
    CatalogListed db viewer t' := by
  obtain ⟨⟨b, hb⟩, hallowed⟩ := h
  exact ⟨⟨b, hb.mono ht⟩, hallowed⟩

theorem ProductListed.mono (h : ProductListed db viewer t p) (ht : t ≤ t') :
    ProductListed db viewer t' p := by
  obtain ⟨hcatalog, hp, hactive, hschema, hstamp⟩ := h
  exact ⟨hcatalog.mono ht, hp, hactive, hschema, hstamp.trans (sqlDate_mono ht)⟩

theorem Shows.mono (h : Shows ids db viewer t e) (ht : t ≤ t') : Shows ids db viewer t' e := by
  cases h with
  | branch hb => exact .branch (hb.mono ht)
  | warehouse hw => exact .warehouse (hw.mono ht)
  | location hl => exact .location (hl.mono ht)
  | cashRegister hcr => exact .cashRegister (hcr.mono ht)
  | category hp hc => exact .category (hp.mono ht) hc
  | brand hp hc => exact .brand (hp.mono ht) hc
  | product hp => exact .product (hp.mono ht)
  | priceList hl =>
    obtain ⟨hcatalog, hsales, hl, hstamp⟩ := hl
    exact .priceList ⟨hcatalog.mono ht, hsales, hl, hstamp.trans (sqlDate_mono ht)⟩
  | balance hb =>
    obtain ⟨hcatalog, hstock, hb, hstamp, l, hl, hlb⟩ := hb
    exact .balance ⟨hcatalog.mono ht, hstock, hb, hstamp.trans (sqlDate_mono ht), l, hl.mono ht,
      hlb⟩

/-! ### The queries find what is shown -/

theorem mem_branchRows : b ∈ branchRows db viewer t ↔ BranchListed db viewer t b := by
  rw [branchRows, mem_orderBy, mem_filter, decide_eq_true_eq, BranchListed]

theorem mem_warehouseRows : w ∈ warehouseRows db t ((branchRows db viewer t).map Branch.id) ↔
      WarehouseListed db viewer t w := by
  simp only [warehouseRows, mem_orderBy, mem_filter, decide_eq_true_eq, WarehouseListed,
    mem_map, mem_branchRows]

theorem mem_cashRegisterRows :
    cr ∈ cashRegisterRows db viewer t ((branchRows db viewer t).map Branch.id) ↔
      CashRegisterListed db viewer t cr := by
  simp only [cashRegisterRows, mem_orderBy, mem_filter, decide_eq_true_eq,
    CashRegisterListed, mem_map, mem_branchRows]

theorem mem_locationRows :
    l ∈ locationRows db t ((warehouseRows db t ((branchRows db viewer t).map Branch.id)).map
      Warehouse.id) ↔ LocationListed db viewer t l := by
  simp only [locationRows, mem_orderBy, mem_filter, decide_eq_true_eq, LocationListed,
    mem_map, mem_warehouseRows]

theorem mem_productRows (hcatalog : CatalogListed db viewer t) :
    p ∈ productRows db t ↔ ProductListed db viewer t p := by
  simp only [productRows, mem_orderBy, mem_filter, decide_eq_true_eq, ProductListed, hcatalog,
    true_and]

theorem mem_classifications {products : List Product} : e ∈ classifications db products ↔
      ∃ p ∈ products, (∃ c, p.category? db = some c ∧ c.category = e) ∨
        ∃ c, p.brand? db = some c ∧ c.brand = e := by
  simp only [classifications, mem_dedup, mem_flatMap, mem_append, Option.mem_toList,
    Option.map_eq_some_iff]

variable (ids db viewer t) in
abbrev shownLocations : List Location :=
  locationRows db t ((warehouseRows db t ((branchRows db viewer t).map Branch.id)).map Warehouse.id)

theorem mem_catalogEntities (hcatalog : CatalogListed db viewer t) :
    e ∈ catalogEntities ids db viewer t (shownLocations db viewer t) ↔ Shows ids db viewer t e ∧
        e.kind ∉ [EntityKind.BRANCH, .WAREHOUSE, .LOCATION, .CASH_REGISTER] := by
  simp only [catalogEntities, mem_append, mem_classifications, mem_map]
  constructor
  · rintro (((⟨p, hp, ⟨c, hc, rfl⟩ | ⟨c, hc, rfl⟩⟩ | ⟨p, hp, rfl⟩) | hlist) | hbalance)
    · exact ⟨.category ((mem_productRows hcatalog).mp hp) hc, of_decide_eq_true rfl⟩
    · exact ⟨.brand ((mem_productRows hcatalog).mp hp) hc, of_decide_eq_true rfl⟩
    · exact ⟨.product ((mem_productRows hcatalog).mp hp), of_decide_eq_true rfl⟩
    · split at hlist
      case isTrue hsales =>
        obtain ⟨l, hl, rfl⟩ := mem_map.mp hlist
        simp only [priceListRows, mem_orderBy, mem_filter, decide_eq_true_eq] at hl
        exact ⟨.priceList ⟨hcatalog, hsales, hl⟩, of_decide_eq_true rfl⟩
      case isFalse => exact absurd hlist not_mem_nil
    · split at hbalance
      case isTrue hstock =>
        obtain ⟨b, hb, rfl⟩ := mem_map.mp hbalance
        simp only [balanceRows, mem_orderBy, mem_filter, decide_eq_true_eq, mem_map,
          mem_locationRows] at hb
        exact ⟨.balance ⟨hcatalog, hstock.2, hb⟩, of_decide_eq_true rfl⟩
      case isFalse => exact absurd hbalance not_mem_nil
  · rintro ⟨hshows, hkind⟩
    cases hshows with
    | branch | warehouse | location | cashRegister =>
      exact absurd (of_decide_eq_true rfl) hkind
    | category hp hc =>
      exact .inl (.inl (.inl ⟨_, (mem_productRows hcatalog).mpr hp, .inl ⟨_, hc, rfl⟩⟩))
    | brand hp hc =>
      exact .inl (.inl (.inl ⟨_, (mem_productRows hcatalog).mpr hp, .inr ⟨_, hc, rfl⟩⟩))
    | product hp => exact .inl (.inl (.inr ⟨_, (mem_productRows hcatalog).mpr hp, rfl⟩))
    | priceList hl =>
      obtain ⟨-, hsales, hl⟩ := hl
      refine .inl (.inr ?_)
      rw [if_pos hsales, mem_map]
      refine ⟨_, ?_, rfl⟩
      simpa only [priceListRows, mem_orderBy, mem_filter, decide_eq_true_eq] using hl
    | balance hb =>
      obtain ⟨-, hstock, hb, hstamp, l, hl, hlb⟩ := hb
      have hlocations : l ∈ shownLocations db viewer t := mem_locationRows.mpr hl
      refine .inr ?_
      rw [if_pos ⟨ne_nil_of_mem hlocations, hstock⟩, mem_map]
      refine ⟨_, ?_, rfl⟩
      simp only [balanceRows, mem_orderBy, mem_filter, decide_eq_true_eq, mem_map]
      exact ⟨hb, hstamp, l, hlocations, hlb⟩

theorem Shows.branchListed (h : Shows ids db viewer t e) : ∃ b, BranchListed db viewer t b := by
  cases h with
  | branch h => exact ⟨_, h⟩
  | warehouse h =>
    obtain ⟨-, -, -, b, hb, -⟩ := h
    exact ⟨b, hb⟩
  | location h =>
    obtain ⟨-, -, -, w, ⟨-, -, -, b, hb, -⟩, -⟩ := h
    exact ⟨b, hb⟩
  | cashRegister h =>
    obtain ⟨-, -, ⟨b, hb, -⟩, -⟩ := h
    exact ⟨b, hb⟩
  | category h _ => exact h.1.1
  | brand h _ => exact h.1.1
  | product h => exact h.1.1
  | priceList h => exact h.1.1
  | balance h => exact h.1.1

theorem Shows.catalogAllowed (h : Shows ids db viewer t e)
    (hkind : e.kind ∉ [EntityKind.BRANCH, .WAREHOUSE, .LOCATION, .CASH_REGISTER]) :
    viewer.catalogAllowed := by
  cases h with
  | branch | warehouse | location | cashRegister => exact absurd (of_decide_eq_true rfl) hkind
  | category h _ => exact h.1.2
  | brand h _ => exact h.1.2
  | product h => exact h.1.2
  | priceList h => exact h.1.2
  | balance h => exact h.1.2

/-- The branches, warehouses, locations and cash registers of a snapshot. -/
def structureEntities (db : Db) (viewer : Viewer) (t : Instant) : List Entity :=
  let branchIds := (branchRows db viewer t).map Branch.id
  (branchRows db viewer t).map Branch.entity ++
    (warehouseRows db t branchIds).map Warehouse.entity ++
    (shownLocations db viewer t).map Location.entity ++
    (cashRegisterRows db viewer t branchIds).map CashRegister.entity

theorem mem_structureEntities : e ∈ structureEntities db viewer t ↔ Shows ids db viewer t e ∧
        e.kind ∈ [EntityKind.BRANCH, .WAREHOUSE, .LOCATION, .CASH_REGISTER] := by
  simp only [structureEntities, mem_append, mem_map, mem_branchRows, mem_warehouseRows,
    mem_locationRows, mem_cashRegisterRows]
  constructor
  · rintro (((⟨b, hb, rfl⟩ | ⟨w, hw, rfl⟩) | ⟨l, hl, rfl⟩) | ⟨cr, hcr, rfl⟩)
    · exact ⟨.branch hb, of_decide_eq_true rfl⟩
    · exact ⟨.warehouse hw, of_decide_eq_true rfl⟩
    · exact ⟨.location hl, of_decide_eq_true rfl⟩
    · exact ⟨.cashRegister hcr, of_decide_eq_true rfl⟩
  · rintro ⟨hshows, hkind⟩
    cases hshows with
    | branch hb => exact .inl (.inl (.inl ⟨_, hb, rfl⟩))
    | warehouse hw => exact .inl (.inl (.inr ⟨_, hw, rfl⟩))
    | location hl => exact .inl (.inr ⟨_, hl, rfl⟩)
    | cashRegister hcr => exact .inr ⟨_, hcr, rfl⟩
    | category | brand | product | priceList | balance =>
      exact absurd hkind (of_decide_eq_true rfl)

theorem entities_eq : entities ids db viewer t = if branchRows db viewer t = [] then []
      else if viewer.catalogAllowed then
        orderBy (fun left right ↦ left.sortKey ≤ right.sortKey)
          (structureEntities db viewer t ++
            catalogEntities ids db viewer t (shownLocations db viewer t))
      else structureEntities db viewer t := by
  simp only [entities, structureEntities, map_eq_nil_iff]

/-- **The snapshot is what is shown.** -/
theorem mem_entities : e ∈ entities ids db viewer t ↔ Shows ids db viewer t e := by
  rw [entities_eq]
  split
  case isTrue hnone =>
    refine ⟨fun h ↦ absurd h not_mem_nil, fun h ↦ ?_⟩
    obtain ⟨b, hb⟩ := h.branchListed
    exact absurd (mem_branchRows.mpr hb) (hnone ▸ not_mem_nil)
  case isFalse hsome =>
    obtain ⟨b, hb⟩ := exists_mem_of_ne_nil _ hsome
    split
    case isTrue hallowed =>
      have hcatalog : CatalogListed db viewer t := ⟨⟨b, mem_branchRows.mp hb⟩, hallowed⟩
      rw [mem_orderBy, mem_append, @mem_structureEntities ids,
        mem_catalogEntities hcatalog, ← and_or_left]
      exact and_iff_left (em _)
    case isFalse hdenied =>
      rw [@mem_structureEntities ids]
      refine and_iff_left_of_imp fun hshows ↦ ?_
      by_contra hkind
      exact hdenied (hshows.catalogAllowed hkind)

end Shown

/-! ### What is buried -/

section Buried

variable (db : Db) (since upTo : Instant) (inScope : Uuid → Prop) (catalogAllowed : Prop)

def WarehouseBuried (w : Warehouse) : Prop :=
  w ∈ db.warehouses.rows ∧ w.active = false ∧ InWindow since upTo w.updatedAt ∧ inScope w.branchId

/-- **What is buried in a window, row by row.** A location is buried with its warehouse only. -/
inductive Buries : Entity → Prop
  | branch {b} (h : b ∈ db.branches.rows) (hinactive : b.active = false)
      (hwindow : InWindow since upTo b.updatedAt) (hscope : inScope b.id) : Buries b.tombstone
  | warehouse {w} (h : WarehouseBuried db since upTo inScope w) : Buries w.tombstone
  | location {l w} (h : l ∈ db.locations.rows) (hinactive : l.active = false)
      (hwindow : InWindow since upTo l.updatedAt)
      (hw : WarehouseBuried db since upTo inScope w) (hlw : w.id = l.warehouseId) :
      Buries l.tombstone
  | product {p} (hallowed : catalogAllowed) (h : p ∈ db.products.rows)
      (hinactive : p.active = false)
      (hschema : p.variantSchema = false) (hwindow : InWindow since upTo p.updatedAt) :
      Buries p.tombstone
  | deleted {g} (hallowed : catalogAllowed) (h : g ∈ db.offlineSyncTombstones.rows)
      (hwindow : InWindow since upTo g.occurredAt) : Buries g.entity

end Buried

section Tombstones

variable {ids : BalanceIds} {db : Db} {viewer : Viewer} {t since upTo : Instant} {e e' : Entity}
  {inScope : Uuid → Prop} {catalogAllowed : Prop} {branchIds : List Uuid}

/-- **The tombstones are what is buried.** -/
theorem mem_tombstones [Decidable catalogAllowed] (hscope : ∀ id, inScope id ↔ id ∈ branchIds) :
    e ∈ tombstones db since upTo branchIds catalogAllowed ↔
      Buries db since upTo inScope catalogAllowed e := by
  have hwarehouse : ∀ w, WarehouseBuried db since upTo inScope w ↔
      w ∈ db.warehouses.rows.filter fun w ↦
        w.active = false ∧ InWindow since upTo w.updatedAt ∧ w.branchId ∈ branchIds := by
    intro w
    rw [mem_filter, decide_eq_true_eq, WarehouseBuried, hscope]
  constructor
  · intro h
    rcases mem_append.mp h with h | h
    · split at h
      case isTrue => exact absurd h not_mem_nil
      case isFalse =>
        simp only [structureTombstones, mem_append, mem_map] at h
        rcases h with (⟨b, hb, rfl⟩ | ⟨w, hw, rfl⟩) | ⟨l, hl, rfl⟩
        · rw [mem_filter, decide_eq_true_eq] at hb
          exact .branch hb.1 hb.2.1 hb.2.2.1 ((hscope _).mpr hb.2.2.2)
        · exact .warehouse ((hwarehouse w).mpr hw)
        · rw [mem_filter, decide_eq_true_eq] at hl
          obtain ⟨hl, hinactive, hwindow, w, hw, hlw⟩ := hl
          exact .location hl hinactive hwindow ((hwarehouse w).mpr hw) hlw
    · split at h
      case isTrue hallowed =>
        simp only [productTombstones, mem_append, mem_map, mem_filter,
          decide_eq_true_eq] at h
        rcases h with ⟨p, ⟨hp, hinactive, hschema, hwindow⟩, rfl⟩ | ⟨g, ⟨hg, hwindow⟩, rfl⟩
        · exact .product hallowed hp hinactive hschema hwindow
        · exact .deleted hallowed hg hwindow
      case isFalse => exact absurd h not_mem_nil
  · intro h
    rw [tombstones, mem_append]
    cases h with
    | branch hb hinactive hwindow hs =>
      have hid := (hscope _).mp hs
      left
      rw [if_neg (ne_nil_of_mem hid)]
      refine mem_append_left _ (mem_append_left _ (mem_map.mpr ⟨_, ?_, rfl⟩))
      exact mem_filter.mpr ⟨hb, decide_eq_true ⟨hinactive, hwindow, hid⟩⟩
    | warehouse hw =>
      left
      rw [if_neg (ne_nil_of_mem ((hscope _).mp hw.2.2.2))]
      exact mem_append_left _
        (mem_append_right _ (mem_map.mpr ⟨_, (hwarehouse _).mp hw, rfl⟩))
    | location hl hinactive hwindow hw hlw =>
      left
      rw [if_neg (ne_nil_of_mem ((hscope _).mp hw.2.2.2))]
      refine mem_append_right _ (mem_map.mpr ⟨_, ?_, rfl⟩)
      refine mem_filter.mpr ⟨hl, decide_eq_true ⟨hinactive, hwindow, ?_⟩⟩
      exact mem_map.mpr ⟨_, (hwarehouse _).mp hw, hlw⟩
    | product hallowed hp hinactive hschema hwindow =>
      right
      rw [if_pos hallowed]
      refine mem_append_left _ (mem_map.mpr ⟨_, ?_, rfl⟩)
      exact mem_filter.mpr ⟨hp, decide_eq_true ⟨hinactive, hschema, hwindow⟩⟩
    | deleted hallowed hg hwindow =>
      right
      rw [if_pos hallowed]
      refine mem_append_right _ (mem_map.mpr ⟨_, ?_, rfl⟩)
      exact mem_filter.mpr ⟨hg, decide_eq_true hwindow⟩

/-- **What is buried is not shown.** -/
theorem Buries.not_shows (h : Buries db since upTo inScope catalogAllowed e)
    (hshows : Shows ids db viewer t e') : e.key ≠ e'.key := by
  intro hkey
  have hid : e.id = e'.id := congrArg EntityKey.id hkey
  have hkind : e.kind = e'.kind := congrArg EntityKey.kind hkey
  cases h with
  | branch hb hinactive =>
    cases hshows with
    | branch hb' =>
      exact absurd (eq_of_mem_of_key_eq hb hb'.1 hid ▸ hinactive) (by simp [hb'.2.1])
    | _ => exact nomatch hkind
  | warehouse hw =>
    cases hshows with
    | warehouse hw' =>
      exact absurd (eq_of_mem_of_key_eq hw.1 hw'.1 hid ▸ hw.2.1) (by simp [hw'.2.1])
    | _ => exact nomatch hkind
  | location hl hinactive =>
    cases hshows with
    | location hl' =>
      exact absurd (eq_of_mem_of_key_eq hl hl'.1 hid ▸ hinactive) (by simp [hl'.2.1])
    | _ => exact nomatch hkind
  | product _ hp hinactive =>
    cases hshows with
    | product hp' =>
      exact absurd (eq_of_mem_of_key_eq hp hp'.2.1 hid ▸ hinactive) (by simp [hp'.2.2.1])
    | _ => exact nomatch hkind
  | deleted _ hg =>
    cases hshows with
    | product hp' => exact db.buried _ hg _ hp'.2.1 hid.symm
    | _ => exact nomatch hkind

end Tombstones

end UInventario.OfflineSync.Snapshot
