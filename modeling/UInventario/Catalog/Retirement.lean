import UInventario.Foundations.Outcome
import UInventario.Inventory.Schema

/-!
# The retirement of a product

`retireProduct` deactivates a product, with its variants, when there are movements, sales, stock or
variants of it, and deletes it otherwise. The database looks at every foreign key to `products`: it
deletes the records that are the product's own along with it, and refuses to delete it while a row
of a document refers to it.

A retirement keeps its word (`Declared`) exactly when the product is preserved, or nothing but its
own records refers to it (`declared_iff`). Codes are columns of the product.
-/

namespace UInventario.Catalog

open Outcome

/-! ### What refers to products -/

/-- The tables with the identifier of a product, `products` itself aside. -/
inductive ReferringTable
  | inventory_balances | inventory_valuations | inventory_stock_thresholds
  | inventory_stock_alert_states | product_kits
  | inventory_movements | sale_lines | inventory_transfer_lines | inventory_import_rows
  | supplier_products | purchase_order_lines | purchase_return_lines | product_reservation_lines
  | inventory_counts | inventory_count_session_lines | inventory_lots | inventory_fifo_layers
  | inventory_serials | inventory_reconciliation_findings | sale_return_lines
  | suspended_sale_lines | price_list_items | customer_order_lines | sales_quotation_lines
  | product_kit_components | kit_inventory_operations | sale_kit_components | promotion_products
  | product_import_rows | erp_external_mappings
  deriving DecidableEq

inductive DeleteRule
  | CASCADE | RESTRICT
  deriving DecidableEq

/-- `ON DELETE` of the foreign key. The rows of a product import and of an ERP mapping have none. -/
def ReferringTable.onDelete : ReferringTable → Option DeleteRule
  | .inventory_balances | .inventory_valuations | .inventory_stock_thresholds
  | .inventory_stock_alert_states | .product_kits => some .CASCADE
  | .product_import_rows | .erp_external_mappings => none
  | _ => some .RESTRICT

/-- A row that refers to a product; `quantity` is that of a balance, and `kitProductId` the kit of a
component, which goes with the row of `product_kits`. -/
structure Reference where
  table : ReferringTable
  productId : Uuid
  quantity : ℤ := 0
  kitProductId : Option Uuid := none

/-- The payload in `offline_sync_tombstones`. -/
structure ProductTombstone where
  entityId : Uuid
  sku : Text
  barcode : Option Text
  version : ℕ

structure RetirementStore where
  products : Table Product
  references : List Reference
  tombstones : List ProductTombstone

variable (s : RetirementStore) (id : Uuid)

/-- Only records of the product's own refer to it, which go with it. -/
def RetirementStore.Unreferenced : Prop :=
  ∀ r ∈ s.references, r.productId = id → r.table.onDelete = some .CASCADE
  deriving Decidable

/-! ### Retirement -/

inductive RetirementOutcome
  | DELETED | DEACTIVATED
  deriving DecidableEq

/-- `ER_ROW_IS_REFERENCED`. -/
inductive RetirementFailure
  | rowIsReferenced
  deriving DecidableEq

def RetirementStore.mustPreserve : Bool :=
  (s.references.any fun r ↦ r.table = .inventory_movements ∧ r.productId = id) ||
  (s.references.any fun r ↦ r.table = .sale_lines ∧ r.productId = id) ||
  (s.references.any fun r ↦ r.table = .inventory_balances ∧ r.productId = id ∧ r.quantity ≠ 0) ||
  s.products.rows.any fun p ↦ p.parentProductId = some id

/-- `DELETE FROM products`, as the database does it. -/
def deleteProduct : Except RetirementFailure RetirementStore := do
  ensure (∀ r ∈ s.references, r.productId = id → r.table.onDelete ≠ some .RESTRICT) .rowIsReferenced
  ensure (∀ p ∈ s.products.rows, p.parentProductId ≠ some id) .rowIsReferenced
  return { s with
    products := s.products.delete fun p ↦ p.id = id
    references := s.references.filter fun r ↦
      ¬(r.productId = id ∧ r.table.onDelete = some .CASCADE ∨ r.kitProductId = some id) }

/-- `retireProduct`; there is no outcome for a product that is not found. -/
def retireProduct : Except RetirementFailure (RetirementStore × Option RetirementOutcome) :=
  match s.products.find? id with
  | none => pure (s, none)
  | some removed =>
    if s.mustPreserve id then
      pure ({ s with
        products := s.products.updateWhere
          (fun p ↦ p.active ∧ (p.id = id ∨ p.parentProductId = some id))
          fun p ↦ { p with active := false, version := p.version + 1 } }, some .DEACTIVATED)
    else do
      let s ← deleteProduct { s with tombstones := s.tombstones ++ [{
        entityId := id, sku := removed.sku, barcode := removed.barcode,
        version := removed.version + 1 }] } id
      return (s, some .DELETED)

/-- The transaction of `retireProduct`: what fails is rolled back. -/
def retire : RetirementStore × Except RetirementFailure (Option RetirementOutcome) :=
  match retireProduct s id with
  | .ok r => (r.1, .ok r.2)
  | .error e => (s, .error e)

/-- **What a retirement owes**: no error of the database, no row of a document left behind, and
nothing changed by a call that fails. -/
structure Declared : Prop where
  outcome : (retire s id).2 ≠ .error .rowIsReferenced
  deleted : (retire s id).2 = .ok (some .DELETED) → s.Unreferenced id
  failed : ∀ e, (retire s id).2 = .error e → (retire s id).1 = s

variable {s id}

theorem retire_outcome : (retire s id).2 = if (s.products.find? id).isNone then .ok none
    else if s.mustPreserve id then .ok (some .DEACTIVATED)
    else if ∀ r ∈ s.references, r.productId = id → r.table.onDelete ≠ some .RESTRICT then
      .ok (some .DELETED)
    else .error .rowIsReferenced := by
  rw [retire, retireProduct]
  cases hfound : s.products.find? id with
  | none => rfl
  | some removed =>
    cases hpreserve : s.mustPreserve id with
    | true => rfl
    | false =>
      have hparent : ∀ p ∈ s.products.rows, p.parentProductId ≠ some id := by
        simp only [RetirementStore.mustPreserve, Bool.or_eq_false_iff, List.any_eq_false,
          decide_eq_true_eq] at hpreserve
        exact hpreserve.2
      dsimp only
      by_cases hrestrict : ∀ r ∈ s.references, r.productId = id → r.table.onDelete ≠ some .RESTRICT
      · rw [deleteProduct, ensure, if_pos hrestrict, ok_bind, ensure, if_pos hparent,
          if_pos hrestrict]
        rfl
      · rw [deleteProduct, ensure, if_neg hrestrict, if_neg hrestrict]
        rfl

/-- A call that fails changes nothing. -/
theorem retire_failed (e : RetirementFailure) (h : (retire s id).2 = .error e) :
    (retire s id).1 = s := by
  rw [retire] at h ⊢
  split at h
  · cases h
  · rfl

theorem RetirementStore.Unreferenced.unrestricted (h : s.Unreferenced id) :
    ∀ r ∈ s.references, r.productId = id → r.table.onDelete ≠ some .RESTRICT := by
  intro r hr hid heq
  cases (h r hr hid).symm.trans heq

/-- **Retirement keeps its word** exactly when the product is preserved or not referred to. -/
theorem declared_iff :
    Declared s id ↔ (s.products.find? id).isNone ∨ s.mustPreserve id ∨ s.Unreferenced id := by
  constructor
  · rintro ⟨houtcome, hdeleted, -⟩
    rw [retire_outcome] at houtcome hdeleted
    by_cases hnone : (s.products.find? id).isNone
    · exact Or.inl hnone
    · by_cases hpreserve : s.mustPreserve id
      · exact Or.inr (Or.inl hpreserve)
      · rw [if_neg hnone, if_neg hpreserve] at houtcome hdeleted
        split_ifs at houtcome hdeleted with hrestrict
        · exact Or.inr (Or.inr (hdeleted rfl))
        · exact absurd rfl houtcome
  · intro h
    refine ⟨?_, ?_, retire_failed⟩
    all_goals
      rw [retire_outcome]
      by_cases hnone : (s.products.find? id).isNone
      · rw [if_pos hnone]
        rintro ⟨⟩
      rw [if_neg hnone]
      by_cases hpreserve : s.mustPreserve id
      · rw [if_pos hpreserve]
        rintro ⟨⟩
      have hunreferenced := (h.resolve_left hnone).resolve_left hpreserve
      rw [if_neg hpreserve, if_pos hunreferenced.unrestricted]
    · rintro ⟨⟩
    · exact fun _ ↦ hunreferenced

/-! ### A component -/

def rice : Product :=
  .plain 1 10000

/-- A kit, and its component, of which there was never any stock. -/
def basket : RetirementStore where
  products := ⟨[rice, { rice with id := 2 }], by decide⟩
  references := [{ table := .product_kits, productId := 2 },
    { table := .product_kit_components, productId := 1, kitProductId := some 2 }]
  tombstones := []

/-- **A component** is neither preserved nor deleted. -/
theorem component_refused :
    (retire basket 1).2 = .error .rowIsReferenced ∧ ¬Declared basket 1 :=
  ⟨rfl, fun h ↦ h.outcome rfl⟩

end UInventario.Catalog
