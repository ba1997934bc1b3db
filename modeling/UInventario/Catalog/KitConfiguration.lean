import UInventario.Catalog.Products

/-!
# Configuring kits

`updateProductKit` makes a product a kit, changes its components, or takes the configuration away.
It looks at the product and at its components: a kit is sold by whole units and tracks neither lots
nor serial numbers, and a component is neither a kit nor tracked. It does not look at the kits the
product is itself a component of.
-/

namespace UInventario

open Outcome

namespace Catalog

/-! ### Requests -/

/-- The part of `UpdateProductKitDto` that is there when `enabled` is true. -/
structure KitSettings where
  stockMode : KitStockMode
  effectiveFrom : Option Day := none
  effectiveTo : Option Day := none
  components : List KitComponent

/-- `UpdateProductKitDto`; without settings the configuration is taken away. -/
structure KitDto where
  version : ℕ
  settings : Option KitSettings

/-! ### The checks -/

/-- `existing_stock`. -/
def existingStock (s : Store) (productId : Uuid) : ℤ :=
  s.balances.total fun b ↦ if b.productId = productId then b.quantity else 0

/-- A product of whole units that tracks neither lots nor serial numbers. -/
def KitShaped (p : Product) : Prop :=
  wholeUnits p.quantityPolicy ∧ p.trackLots = false ∧ p.trackSerials = false
deriving Decidable

def sellable (p : Product) : Bool :=
  p.active && !p.variantParent

/-- A product that is neither a kit nor tracked by lots or serial numbers. -/
def ComponentShaped (s : Store) (p : Product) : Prop :=
  ¬isKit s p.id ∧ p.trackLots = false ∧ p.trackSerials = false
deriving Decidable

def findComponent (s : Store) (item : KitComponent) :
    Except CatalogFailure (KitComponent × Product) := do
  let component ← demand ((s.products.find? item.productId).filter sellable)
    (.productKitConfigurationInvalid .missingComponents)
  pure (item, component)

def normalizeComponent (s : Store) (requested : KitComponent × Product) :
    Except CatalogFailure KitComponent := do
  ensure (ComponentShaped s requested.2)
    (.productKitConfigurationInvalid .nestedOrTrackedComponent)
  let quantity ← (normalizeProductQuantity requested.1.quantity
    requested.2.quantityPolicy).mapError .inventory
  pure { requested.1 with quantity := quantity }

/-- The components in the order of their products, as the signatures list them. -/
def signature (components : List KitComponent) : List KitComponent :=
  orderBy (fun a b : KitComponent ↦ a.productId ≤ b.productId) components

def prepareKit (s : Store) (product : Product) (settings : KitSettings) :
    Except CatalogFailure ProductKit := do
  let existingKit := s.documents.kits.find? product.id
  let hasOwnStock := existingStock s product.id ≠ 0
  ensure (¬(hasOwnStock ∧ existingKit.map ProductKit.stockMode ≠ some settings.stockMode))
    (.productKitConfigurationInvalid .ownStockBeforeConfiguration)
  ensure (product.variantParent = false ∧ KitShaped product)
    (.productKitConfigurationInvalid .notSoldByWholeUnits)
  let componentIds := settings.components.map KitComponent.productId
  ensure (componentIds.Nodup ∧ product.id ∉ componentIds)
    (.productKitConfigurationInvalid .repeatedComponents)
  let requested ← settings.components.mapM (findComponent s)
  let components ← requested.mapM (normalizeComponent s)
  ensure (¬(hasOwnStock ∧ signature ((existingKit.map ProductKit.components).getD []) ≠
    signature components)) (.productKitConfigurationInvalid .assembledStock)
  -- `ck_kit_component_quantity`
  ensure (∀ c ∈ components, 0 < c.quantity) (.inventory .checkViolation)
  pure {
    productId := product.id, stockMode := settings.stockMode,
    effectiveFrom := settings.effectiveFrom, effectiveTo := settings.effectiveTo,
    components := components }

/-! ### The transaction -/

def writeKit (s : Store) (product : Product) :
    Option KitSettings → Except CatalogFailure (Table ProductKit)
  | none => do
    ensure (¬(existingStock s product.id ≠ 0 ∧ isKit s product.id))
      (.productKitConfigurationInvalid .ownStockBeforeRemoval)
    pure (s.documents.kits.delete fun kit ↦ kit.productId = product.id)
  | some settings => do
    let kit ← prepareKit s product settings
    pure (s.documents.kits.put kit)

def updateProductKit (s : Store) (productId : Uuid) (dto : KitDto) :
    Except CatalogFailure Store := do
  ensure (∀ settings ∈ dto.settings, ∀ first ∈ settings.effectiveFrom,
    ∀ last ∈ settings.effectiveTo, first ≤ last) .productKitValidityInvalid
  let product ← demand (s.products.find? productId) .notFound
  ensure (product.version = dto.version) (.productVersionConflict product.version)
  let kits ← writeKit s product dto.settings
  pure { s with
    documents := { s.documents with kits := kits }
    products := s.products.update productId fun p ↦ { p with version := p.version + 1 } }

end Catalog

end UInventario
