import Mathlib.Data.Prod.Lex
import UInventario.Foundations.CursorFeed
import UInventario.Inventory.Schema

/-!
# The catalogue of the commerce service

`catalog` lists the products of a tenant in the order of their last change, their own or that of
their balance at the location of the credential, page by page. Only the last page has no cursor; a
client that goes on later keeps the one it was given before. `catalogFeed`: this is a feed by
cursor.

What a kit of the mode `DERIVED` can be sold from is not among the rows that are joined; `published`
has it beside the item. `changedAt` of an item is in milliseconds, the cursor in microseconds.
-/

namespace UInventario.Commerce

open Outcome Option

/-! ### Rows -/

structure CatalogProduct where
  id : Uuid
  (name sku : Text)
  barcode : Option Text
  baseUnit : Text
  quantityPrecision : ℕ
  (minimumQuantity price : ℤ)
  active : Bool
  stockBehavior : StockBehavior
  updatedAt : Timestamp

instance : Keyed CatalogProduct Uuid := ⟨CatalogProduct.id⟩

/-- A row of `inventory_balances`. -/
structure CatalogBalance where
  (productId locationId : Uuid)
  (quantity availableQuantity : ℤ)
  updatedAt : Timestamp

instance : Keyed CatalogBalance (Uuid × Uuid) := ⟨fun b ↦ (b.productId, b.locationId)⟩

/-- A row of `product_kits`, with its components. -/
structure CatalogKit where
  productId : Uuid
  stockMode : KitStockMode
  components : List Uuid

instance : Keyed CatalogKit Uuid := ⟨CatalogKit.productId⟩

/-- **The catalogue of a tenant**, and the clock of the database. -/
structure CatalogStore where
  now : Timestamp
  countryCode : Text
  products : Table CatalogProduct
  balances : Table CatalogBalance
  kits : Table CatalogKit

/-- `CASE t.country_code WHEN 'MX' THEN 'MXN' WHEN 'CL' THEN 'CLP' ELSE 'USD' END`. -/
def currencyOf (countryCode : Text) : Currency :=
  if countryCode = [77, 88] then .MXN else if countryCode = [67, 76] then .CLP else .USD

/-- What `catalog` asks of the credential: its location, and whether it has the scope `STOCK_READ`.
-/
structure CatalogPrincipal where
  locationId : Uuid
  stockRead : Bool

structure CommerceCatalogRow where
  product : CatalogProduct
  (quantity availableQuantity : ℤ)
  changedAt : Timestamp
  currency : Currency

variable (s : CatalogStore)

/-- The row of a product, `LEFT JOIN inventory_balances`. -/
def CatalogStore.row (locationId : Uuid) (product : CatalogProduct) :
    CommerceCatalogRow :=
  let balance := s.balances.find? (product.id, locationId)
  { product := product
    quantity := (balance.map CatalogBalance.quantity).getD 0
    availableQuantity := (balance.map CatalogBalance.availableQuantity).getD 0
    changedAt := max product.updatedAt
      ((balance.map CatalogBalance.updatedAt).getD product.updatedAt)
    currency := currencyOf s.countryCode }

def CatalogStore.rows (locationId : Uuid) : List CommerceCatalogRow :=
  s.products.rows.map (s.row locationId)

/-! ### Pages -/

structure CatalogCursor where
  updatedAt : Timestamp
  id : Uuid

/-- `changed > ? OR (changed = ? AND p.id > ?)`. -/
def CommerceCatalogRow.after (row : CommerceCatalogRow) (cursor : CatalogCursor) : Prop :=
  cursor.updatedAt < row.changedAt ∨ row.changedAt = cursor.updatedAt ∧ cursor.id < row.product.id
deriving Decidable

/-- `catalog` of the repository, for a limit. -/
def catalogRows (locationId : Uuid) (cursor : Option CatalogCursor)
    (limit : ℕ) : List CommerceCatalogRow :=
  (orderBy (fun a b : CommerceCatalogRow ↦
      a.changedAt < b.changedAt ∨ a.changedAt = b.changedAt ∧ a.product.id ≤ b.product.id)
    ((s.rows locationId).filter fun row ↦ ∀ c ∈ cursor, row.after c)).take (limit + 1)

/-- `stock` of an item. -/
structure CatalogStock where
  behavior : StockBehavior
  (onHand available : ℤ)
  deriving DecidableEq

structure CatalogData where
  id : Uuid
  (name sku : Text)
  barcode : Option Text
  unit : Text
  quantityPrecision : ℕ
  (minimumQuantity price : ℤ)
  currency : Currency
  active : Bool
  stock : Option CatalogStock
  deriving DecidableEq

structure CatalogItem where
  data : CatalogData
  changedAt : Timestamp

def CommerceCatalogRow.data (row : CommerceCatalogRow) (principal : CatalogPrincipal) :
    CatalogData where
  id := row.product.id
  name := row.product.name
  sku := row.product.sku
  barcode := row.product.barcode
  unit := row.product.baseUnit
  quantityPrecision := row.product.quantityPrecision
  minimumQuantity := row.product.minimumQuantity
  price := row.product.price
  currency := row.currency
  active := row.product.active
  stock := if principal.stockRead then some {
      behavior := row.product.stockBehavior, onHand := row.quantity,
      available := row.availableQuantity }
    else none

structure CatalogPage where
  data : List CatalogItem
  hasMore : Bool
  nextCursor : Option CatalogCursor

/-- `encodeCursor(last.changed_cursor, String(last.id))`. -/
def CommerceCatalogRow.cursor (row : CommerceCatalogRow) : CatalogCursor where
  updatedAt := row.changedAt
  id := row.product.id

def catalog (principal : CatalogPrincipal) (cursor : Option CatalogCursor)
    (limit : ℕ) : CatalogPage :=
  let rows := catalogRows s principal.locationId cursor limit
  let hasMore := decide (limit < rows.length)
  let page := rows.take limit
  { data := page.map fun row ↦ { data := row.data principal, changedAt := row.changedAt / 1000 }
    hasMore := hasMore
    nextCursor := if hasMore then page.getLast?.map CommerceCatalogRow.cursor else none }

/-! ### The feed -/

def CommerceCatalogRow.key (row : CommerceCatalogRow) : Timestamp ×ₗ Uuid :=
  toLex (row.changedAt, row.product.id)

def CatalogCursor.key (cursor : CatalogCursor) : Timestamp ×ₗ Uuid :=
  toLex (cursor.updatedAt, cursor.id)

def catalogCursor (k : Timestamp ×ₗ Uuid) : CatalogCursor :=
  ⟨(ofLex k).1, (ofLex k).2⟩

theorem CommerceCatalogRow.after_iff {row : CommerceCatalogRow} {cursor : CatalogCursor} :
    row.after cursor ↔ cursor.key < row.key := by
  rw [Prod.Lex.lt_iff]
  exact or_congr Iff.rfl (and_congr eq_comm Iff.rfl)

theorem CommerceCatalogRow.key_le_iff {a b : CommerceCatalogRow} :
    a.changedAt < b.changedAt ∨ a.changedAt = b.changedAt ∧ a.product.id ≤ b.product.id ↔
      a.key ≤ b.key := by
  rw [Prod.Lex.le_iff]
  exact Iff.rfl

def CommerceCatalogRow.id (row : CommerceCatalogRow) : Uuid :=
  row.product.id

theorem CatalogStore.rows_ids (locationId : Uuid) :
    (s.rows locationId).map CommerceCatalogRow.id = s.products.rows.map CatalogProduct.id := by
  rw [rows, List.map_map]
  rfl

theorem CatalogStore.rows_nodup (locationId : Uuid) :
    ((s.rows locationId).map CommerceCatalogRow.id).Nodup :=
  s.rows_ids locationId ▸ s.products.nodup

/-- **What the query selects** is what lies beyond the cursor, as far as the limit goes. -/
theorem catalogRows_eq (locationId : Uuid) (cursor : Option CatalogCursor)
    (limit : ℕ) : catalogRows s locationId cursor limit =
      (beyond CommerceCatalogRow.key (s.rows locationId) (cursor.map CatalogCursor.key)).take
        (limit + 1) := by
  have hfilter : (fun row : CommerceCatalogRow ↦ decide (∀ c ∈ cursor, row.after c)) =
      fun row ↦ decide (Beyond (cursor.map CatalogCursor.key) row.key) := by
    funext row
    refine decide_eq_decide.mpr ?_
    cases cursor with
    | none => exact iff_of_true (fun _ hc ↦ nomatch hc) fun _ hc ↦ nomatch hc
    | some c =>
      simp only [mem_some_iff, forall_eq', Beyond, map_some]
      exact CommerceCatalogRow.after_iff
  rw [catalogRows, beyond, hfilter]
  exact congrArg (List.take (limit + 1)) (orderBy_congr_le fun _ _ ↦ CommerceCatalogRow.key_le_iff)

/-- **How the store changes**: the clock goes on, no row is stamped after it, and a row is written
by later and later statements. -/
@[mk_iff]
structure CatalogStore.Grows (s s' : CatalogStore) : Prop where
  now : s.now ≤ s'.now
  country : s'.countryCode = s.countryCode
  products : ∀ p' ∈ s'.products.rows, p'.updatedAt ≤ s'.now ∧
    ∀ p ∈ s.products.find? p'.id, p.updatedAt ≤ p'.updatedAt ∧
      ∀ b ∈ s.balances.rows, b.productId = p'.id →
        ∃ b' ∈ s'.balances.find? (b.productId, b.locationId), b.updatedAt ≤ b'.updatedAt
  balances : ∀ b' ∈ s'.balances.rows, b'.updatedAt ≤ s'.now

instance : DecidableRel CatalogStore.Grows := fun s s' ↦
  decidable_of_iff' _ (CatalogStore.grows_iff s s')

theorem CatalogStore.Grows.changedAt_le {s s' : CatalogStore} (h : s.Grows s') {locationId : Uuid}
    {p p' : CatalogProduct} (hp : p ∈ s.products.rows) (hp' : p' ∈ s'.products.rows)
    (hid : p.id = p'.id) :
    (s.row locationId p).changedAt ≤ (s'.row locationId p').changedAt := by
  have hfound : s.products.find? p'.id = some p := hid ▸ Table.find?_key_of_mem hp
  obtain ⟨hle, hbalances⟩ := (h.products p' hp').2 p hfound
  rw [row, row]
  dsimp only
  cases hb : s.balances.find? (p.id, locationId) with
  | none =>
    rw [map_none, getD_none, max_self]
    exact hle.trans (le_max_left _ _)
  | some b =>
    have hkey : (b.productId, b.locationId) = (p.id, locationId) := Table.key_of_find? hb
    obtain ⟨b', hb', hle'⟩ := hbalances b (Table.mem_of_find? hb)
      ((Prod.mk.inj hkey).1.trans hid)
    rw [hkey, hid, mem_def] at hb'
    rw [hb', map_some, map_some, getD_some, getD_some]
    exact max_le_max hle hle'

def CatalogStore.componentStock (locationId productId : Uuid) :
    List (Uuid × Option (ℤ × ℤ)) :=
  match s.kits.find? productId with
  | some kit => if kit.stockMode = .DERIVED then kit.components.map fun id ↦
      (id, (s.balances.find? (id, locationId)).map fun b ↦ (b.quantity, b.availableQuantity))
    else []
  | none => []

/-- **What is published of a product**: its item, and the stock of its components where the
credential may read it. -/
structure PublishedProduct where
  data : CatalogData
  componentStock : List (Uuid × Option (ℤ × ℤ))
  deriving DecidableEq

def CatalogStore.published (principal : CatalogPrincipal) (id : Uuid) :
    Option PublishedProduct :=
  ((s.rows principal.locationId).find? fun row ↦ row.id = id).map fun row ↦ {
    data := row.data principal
    componentStock :=
      if principal.stockRead then s.componentStock principal.locationId id else [] }

/-- **The catalogue is a feed by cursor.** -/
def catalogFeed (principal : CatalogPrincipal) :
    Feed CatalogStore CommerceCatalogRow Uuid (Timestamp ×ₗ Uuid)
      (Option PublishedProduct) where
  rows := fun s ↦ s.rows principal.locationId
  ident := CommerceCatalogRow.id
  key := CommerceCatalogRow.key
  version := fun s ↦ s.published principal
  grows := CatalogStore.Grows
  ask := fun s cursor limit ↦
    let rows := catalogRows s principal.locationId (cursor.map catalogCursor) limit
    { rows := rows.take limit
      next := if limit < rows.length then (rows.take limit).getLast?.map CommerceCatalogRow.key
        else none
      more := decide (limit < rows.length) }
  ident_nodup := fun s ↦ s.rows_nodup principal.locationId
  key_injective := fun s r hr r' hr' hkey ↦ by
    have hid : r.id = r'.id := congrArg (fun k : Timestamp ×ₗ Uuid ↦ (ofLex k).2) hkey
    exact List.inj_on_of_nodup_map (s.rows_nodup principal.locationId) hr hr' hid
  key_mono := fun s s' hgrows r hr r' hr' hid ↦ by
    obtain ⟨p, hp, rfl⟩ := List.mem_map.mp hr
    obtain ⟨p', hp', rfl⟩ := List.mem_map.mp hr'
    have hid : p.id = p'.id := hid
    refine CommerceCatalogRow.key_le_iff.mp ?_
    rcases (hgrows.changedAt_le hp hp' hid).lt_or_eq with hlt | heq
    · exact .inl hlt
    · exact .inr ⟨heq, hid.le⟩
  ask_rows := fun s cursor limit ↦ by
    have hcursor : (cursor.map catalogCursor).map CatalogCursor.key = cursor := by
      cases cursor <;> rfl
    rw [catalogRows_eq, hcursor]
    exact take_take_succ limit
  ask_more := fun s cursor limit ↦ by
    have hcursor : (cursor.map catalogCursor).map CatalogCursor.key = cursor := by
      cases cursor <;> rfl
    rw [catalogRows_eq, hcursor]
    exact more_take_succ limit
  ask_next := fun s cursor limit ↦ by
    by_cases hmore : limit < (catalogRows s principal.locationId (cursor.map catalogCursor)
        limit).length
    · refine .inl ?_
      dsimp only
      rw [if_pos hmore]
    · refine .inr ⟨if_neg hmore, decide_eq_false hmore⟩

end UInventario.Commerce
