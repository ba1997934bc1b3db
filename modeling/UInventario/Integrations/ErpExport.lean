import Mathlib.Data.Prod.Lex
import UInventario.Foundations.CursorFeed
import UInventario.Inventory.Schema

/-!
# The export to an ERP

`export` of the integration service: the records of a resource in the order of their change, page by
page, each with the identity that the ERP has for it. `erpFeed` shows that the export of a resource
is a feed by cursor. What a record is exported with comes from its own table, whose timestamp is the
one of the cursor, and from the mapping of its identity.

* A cursor is what its text is made of, and is decoded by comparing its scope.
* `changedAt` of an item is a time in milliseconds; the cursor has the microseconds of the database.
-/

namespace UInventario.Integrations

open Outcome List

/-! ### Records -/

/-- `ERP_RESOURCES`. -/
inductive ErpResource
  | PRODUCT | SUPPLIER | CUSTOMER | PURCHASE_ORDER | PURCHASE_RECEIPT | SALE
  deriving DecidableEq

structure ErpProduct where
  id : Uuid
  (name sku : Text)
  barcode : Option Text
  (cost price : ℤ)
  active : Bool
  updatedAt : Timestamp

instance : Keyed ErpProduct Uuid := ⟨ErpProduct.id⟩

structure ErpSupplier where
  id : Uuid
  legalName : Text
  tradeName : Option Text
  (countryCode identifierType taxIdentifier : Text)
  active : Bool
  updatedAt : Timestamp

instance : Keyed ErpSupplier Uuid := ⟨ErpSupplier.id⟩

structure ErpCustomer where
  id : Uuid
  name : Text
  identifier : Option Text
  active : Bool
  updatedAt : Timestamp

instance : Keyed ErpCustomer Uuid := ⟨ErpCustomer.id⟩

structure ErpPurchaseOrder where
  id : Uuid
  folio : Text
  supplierId : Uuid
  currency : Currency
  status : Text
  (subtotal total : ℤ)
  version : ℕ
  updatedAt : Timestamp

instance : Keyed ErpPurchaseOrder Uuid := ⟨ErpPurchaseOrder.id⟩

structure ErpPurchaseReceipt where
  (id purchaseOrderId locationId : Uuid)
  documentReference : Text
  createdAt : Timestamp

instance : Keyed ErpPurchaseReceipt Uuid := ⟨ErpPurchaseReceipt.id⟩

structure ErpSale where
  id : Uuid
  receiptNumber : Text
  branchId : Uuid
  customerId : Option Uuid
  currency : Currency
  status : Text
  (subtotal taxTotal total : ℤ)
  createdAt : Timestamp
  voidedAt : Option Timestamp

instance : Keyed ErpSale Uuid := ⟨ErpSale.id⟩

/-- A row of `erp_external_mappings`. -/
structure ErpMapping where
  provider : Text
  resource : ErpResource
  externalId : Text
  internalId : Uuid

instance : Keyed ErpMapping (Text × ErpResource × Uuid) :=
  ⟨fun m ↦ (m.provider, m.resource, m.internalId)⟩

/-- `payload` of a definition. -/
inductive ErpPayload
  | product (name sku : Text) (barcode : Option Text) (cost price : ℤ) (active : Bool)
  | supplier (legalName : Text) (tradeName : Option Text)
    (countryCode identifierType taxIdentifier : Text) (active : Bool)
  | customer (name : Text) (identifier : Option Text) (active : Bool)
  | purchaseOrder (folio : Text) (supplierId : Uuid) (currency : Currency) (status : Text)
    (subtotal total : ℤ) (version : ℕ)
  | purchaseReceipt (purchaseOrderId locationId : Uuid) (documentReference : Text)
  | sale (receiptNumber : Text) (branchId : Uuid) (customerId : Option Uuid) (currency : Currency)
    (status : Text) (subtotal tax total : ℤ)
  deriving DecidableEq

/-- What a definition selects of a table: `id`, `changedAt` and `payload`. -/
structure ErpRecord where
  id : Uuid
  changedAt : Timestamp
  payload : ErpPayload

/-- **The exported tables of a tenant**, and the clock of the database. -/
structure ErpStore where
  now : Timestamp
  products : Table ErpProduct
  suppliers : Table ErpSupplier
  customers : Table ErpCustomer
  purchaseOrders : Table ErpPurchaseOrder
  purchaseReceipts : Table ErpPurchaseReceipt
  sales : Table ErpSale
  mappings : Table ErpMapping

variable (s : ErpStore)

def ErpStore.definition : ErpResource → List ErpRecord
  | .PRODUCT => s.products.rows.map fun p ↦
    ⟨p.id, p.updatedAt, .product p.name p.sku p.barcode p.cost p.price p.active⟩
  | .SUPPLIER => s.suppliers.rows.map fun x ↦
    ⟨x.id, x.updatedAt,
      .supplier x.legalName x.tradeName x.countryCode x.identifierType x.taxIdentifier x.active⟩
  | .CUSTOMER => s.customers.rows.map fun c ↦
    ⟨c.id, c.updatedAt, .customer c.name c.identifier c.active⟩
  | .PURCHASE_ORDER => s.purchaseOrders.rows.map fun o ↦
    ⟨o.id, o.updatedAt,
      .purchaseOrder o.folio o.supplierId o.currency o.status o.subtotal o.total o.version⟩
  | .PURCHASE_RECEIPT => s.purchaseReceipts.rows.map fun r ↦
    ⟨r.id, r.createdAt, .purchaseReceipt r.purchaseOrderId r.locationId r.documentReference⟩
  | .SALE => s.sales.rows.map fun x ↦
    ⟨x.id, x.voidedAt.getD x.createdAt,
      .sale x.receiptNumber x.branchId x.customerId x.currency x.status x.subtotal x.taxTotal
        x.total⟩

/-! ### Pages -/

structure ErpCursor where
  provider : Text
  resource : ErpResource
  changedAt : Timestamp
  id : Uuid

/-- `ErpExportQueryDto`; the limit is from 1 to 100. -/
structure ErpExportQuery where
  provider : Text
  resource : ErpResource
  cursor : Option ErpCursor
  limit : ℕ

inductive ErpFailure
  | erpCursorInvalid

def decodeCursor (value : Option ErpCursor) (provider : Text) (resource : ErpResource) :
    Except ErpFailure (Option (Timestamp × Uuid)) :=
  match value with
  | none => pure none
  | some cursor => do
    ensure (cursor.provider = provider ∧ cursor.resource = resource) .erpCursorInvalid
    pure (some (cursor.changedAt, cursor.id))

/-- A row of `exportRows`. -/
structure ErpExportRow where
  id : Uuid
  externalId : Option Text
  changedAt : Timestamp
  payload : ErpPayload

def ErpStore.row (provider : Text) (resource : ErpResource) (record : ErpRecord) :
    ErpExportRow where
  id := record.id
  externalId := (s.mappings.find? (provider, resource, record.id)).map ErpMapping.externalId
  changedAt := record.changedAt
  payload := record.payload

def ErpStore.rows (provider : Text) (resource : ErpResource) : List ErpExportRow :=
  (s.definition resource).map (s.row provider resource)

/-- `changedAt > ? OR (changedAt = ? AND id > ?)`. -/
def ErpExportRow.after (row : ErpExportRow) (cursor : Timestamp × Uuid) : Prop :=
  cursor.1 < row.changedAt ∨ row.changedAt = cursor.1 ∧ cursor.2 < row.id
deriving Decidable

def exportRows (provider : Text) (resource : ErpResource)
    (cursor : Option (Timestamp × Uuid)) (limit : ℕ) : List ErpExportRow :=
  (orderBy (fun a b : ErpExportRow ↦
      a.changedAt < b.changedAt ∨ a.changedAt = b.changedAt ∧ a.id ≤ b.id)
    ((s.rows provider resource).filter fun row ↦ ∀ c ∈ cursor, row.after c)).take limit

structure ErpItem where
  resource : ErpResource
  internalId : Uuid
  externalId : Option Text
  payload : ErpPayload
  changedAt : Timestamp

structure ErpPage where
  data : List ErpItem
  hasMore : Bool
  nextCursor : Option ErpCursor

/-- `export`, once the cursor has been decoded. -/
def exportPage (query : ErpExportQuery) (cursor : Option (Timestamp × Uuid)) :
    ErpPage :=
  let rows := exportRows s query.provider query.resource cursor (query.limit + 1)
  let page := rows.take query.limit
  { data := page.map fun row ↦ {
      resource := query.resource, internalId := row.id, externalId := row.externalId,
      payload := row.payload, changedAt := row.changedAt / 1000 }
    hasMore := decide (query.limit < rows.length)
    nextCursor := match page.getLast? with
      | some last => some {
          provider := query.provider, resource := query.resource, changedAt := last.changedAt,
          id := last.id }
      | none => query.cursor }

/-- `export`. -/
def «export» (query : ErpExportQuery) : Except ErpFailure ErpPage := do
  let cursor ← decodeCursor query.cursor query.provider query.resource
  pure (exportPage s query cursor)

/-! ### The feed -/

def ErpExportRow.key (row : ErpExportRow) : Timestamp ×ₗ Uuid :=
  toLex (row.changedAt, row.id)

theorem ErpExportRow.after_iff {row : ErpExportRow} {cursor : Timestamp × Uuid} :
    row.after cursor ↔ toLex cursor < row.key := by
  rw [Prod.Lex.lt_iff]
  exact or_congr Iff.rfl (and_congr eq_comm Iff.rfl)

theorem ErpExportRow.key_le_iff {a b : ErpExportRow} :
    a.changedAt < b.changedAt ∨ a.changedAt = b.changedAt ∧ a.id ≤ b.id ↔ a.key ≤ b.key := by
  rw [Prod.Lex.le_iff]
  exact Iff.rfl

theorem ErpStore.rows_ids (provider : Text) (resource : ErpResource) :
    (s.rows provider resource).map ErpExportRow.id = (s.definition resource).map ErpRecord.id := by
  rw [rows, map_map]
  rfl

theorem ErpStore.definition_nodup (resource : ErpResource) :
    ((s.definition resource).map ErpRecord.id).Nodup := by
  cases resource with
  | PRODUCT => exact map_map (l := s.products.rows) ▸ s.products.nodup
  | SUPPLIER => exact map_map (l := s.suppliers.rows) ▸ s.suppliers.nodup
  | CUSTOMER => exact map_map (l := s.customers.rows) ▸ s.customers.nodup
  | PURCHASE_ORDER => exact map_map (l := s.purchaseOrders.rows) ▸ s.purchaseOrders.nodup
  | PURCHASE_RECEIPT => exact map_map (l := s.purchaseReceipts.rows) ▸ s.purchaseReceipts.nodup
  | SALE => exact map_map (l := s.sales.rows) ▸ s.sales.nodup

/-- **What the query selects** is what lies beyond the cursor, as far as the limit goes. -/
theorem exportRows_eq (provider : Text) (resource : ErpResource)
    (cursor : Option (Timestamp × Uuid)) (limit : ℕ) : exportRows s provider resource cursor limit =
      (beyond ErpExportRow.key (s.rows provider resource) (cursor.map toLex)).take limit := by
  have hfilter : (fun row : ErpExportRow ↦ decide (∀ c ∈ cursor, row.after c)) =
      fun row ↦ decide (Beyond (cursor.map toLex) row.key) := by
    funext row
    refine decide_eq_decide.mpr ?_
    cases cursor with
    | none => exact iff_of_true (fun _ hc ↦ nomatch hc) fun _ hc ↦ nomatch hc
    | some c =>
      simp only [Option.mem_some_iff, forall_eq', Beyond, Option.map_some]
      exact ErpExportRow.after_iff
  rw [exportRows, beyond, hfilter]
  exact congrArg (List.take limit) (orderBy_congr_le fun _ _ ↦ ErpExportRow.key_le_iff)

/-- **How the store changes**: the clock goes on, and a row is written by later and later
statements. -/
def ErpStore.Grows (s s' : ErpStore) : Prop :=
  s.now ≤ s'.now ∧ ∀ resource ∈ [ErpResource.PRODUCT, .SUPPLIER, .CUSTOMER, .PURCHASE_ORDER,
      .PURCHASE_RECEIPT, .SALE], ∀ r' ∈ s'.definition resource, r'.changedAt ≤ s'.now ∧
    ∀ r ∈ s.definition resource, r.id = r'.id → r.changedAt ≤ r'.changedAt
deriving Decidable

theorem ErpStore.Grows.changedAt_le {s s' : ErpStore} (h : s.Grows s') {resource : ErpResource}
    {r r' : ErpRecord} (hr : r ∈ s.definition resource) (hr' : r' ∈ s'.definition resource)
    (hid : r.id = r'.id) : r.changedAt ≤ r'.changedAt :=
  (h.2 resource (by cases resource <;> decide) r' hr').2 r hr hid

def ErpStore.exported (provider : Text) (resource : ErpResource) (id : Uuid) :
    Option (Option Text × ErpPayload) :=
  ((s.rows provider resource).find? fun row ↦ row.id = id).map fun row ↦
    (row.externalId, row.payload)

theorem map_toLex_ofLex (cursor : Option (Timestamp ×ₗ Uuid)) :
    (cursor.map ofLex).map toLex = cursor := by
  cases cursor <;> rfl

/-- **The export of a resource is a feed by cursor.** -/
def erpFeed (provider : Text) (resource : ErpResource) :
    Feed ErpStore ErpExportRow Uuid (Timestamp ×ₗ Uuid) (Option (Option Text × ErpPayload)) where
  rows := fun s ↦ s.rows provider resource
  ident := ErpExportRow.id
  key := ErpExportRow.key
  version := fun s ↦ s.exported provider resource
  grows := ErpStore.Grows
  ask := fun s cursor limit ↦
    let rows := exportRows s provider resource (cursor.map ofLex) (limit + 1)
    { rows := rows.take limit
      next := ((rows.take limit).getLast?.map ErpExportRow.key).or cursor
      more := decide (limit < rows.length) }
  ident_nodup := fun s ↦ s.rows_ids provider resource ▸ s.definition_nodup resource
  key_injective := fun s r hr r' hr' hkey ↦ by
    have hid : r.id = r'.id := congrArg (fun k : Timestamp ×ₗ Uuid ↦ (ofLex k).2) hkey
    exact inj_on_of_nodup_map (s.rows_ids provider resource ▸ s.definition_nodup resource) hr
      hr' hid
  key_mono := fun s s' hgrows r hr r' hr' hid ↦ by
    obtain ⟨record, hrecord, rfl⟩ := List.mem_map.mp hr
    obtain ⟨record', hrecord', rfl⟩ := List.mem_map.mp hr'
    have hid : record.id = record'.id := hid
    have hle := hgrows.changedAt_le hrecord hrecord' hid
    refine ErpExportRow.key_le_iff.mp ?_
    rcases hle.lt_or_eq with hlt | heq
    · exact .inl hlt
    · exact .inr ⟨heq, hid.le⟩
  ask_rows := fun s cursor limit ↦ by
    rw [exportRows_eq, map_toLex_ofLex]
    exact take_take_succ limit
  ask_more := fun s cursor limit ↦ by
    rw [exportRows_eq, map_toLex_ofLex]
    exact more_take_succ limit
  ask_next := fun s cursor limit ↦ .inl (by
    rw [Option.or_assoc, Option.or_self])

end UInventario.Integrations
