import UInventario.Inventory.QuantityPolicy
import UInventario.Inventory.ValuationPolicyService

/-!
# Products

The catalogue creates products and changes them. A product says how its stock is kept and in which
quantities it is sold, and some of these settings are closed once stock has moved. The variants of a
product start with the settings of their parent, and every later update of the parent writes its
settings over theirs (`propagate`), whatever they have become in between.

`Checked` is what the constraints of the table `products` say about one row.
-/

namespace UInventario

open Outcome

namespace Catalog

/-! ### Failures -/

/-- The reasons of `ProductKitConfigurationError`. -/
inductive KitReason
  | ownStockBeforeRemoval | ownStockBeforeConfiguration | notSoldByWholeUnits | repeatedComponents
  | missingComponents | nestedOrTrackedComponent | assembledStock | keepsUnitsAndNoTracking

/-- The reasons of `ProductVariantConfigurationError`. -/
inductive VariantReason
  | kit | variantOfVariant | inactiveParent | repeatedAttribute | repeatedValue (name : Text)
  | tooManyCombinations | missingCombinations | wrongValueCount | invalidCombination
  | repeatedVariant | foreignVariant

inductive CatalogFailure
  | notFound
  | skuAlreadyExists | barcodeAlreadyExists
  | productVersionConflict (currentVersion : ℕ)
  | productLotTrackingLocked | productQuantityPolicyLocked | productSaleBehaviorInvalid
  | untrackedProductCannotTrackInventory | lotExpirationRequiresTracking
  | invalidLotExpirationAlertDays | lotExpirationOverrideRequiresPolicy
  | productVariantsRequireZeroStock
  | productVariantConfigurationInvalid (reason : VariantReason)
  | productKitConfigurationInvalid (reason : KitReason)
  | productKitValidityInvalid
  | productImportStale
  | inventory (failure : Failure)

/-! ### Rows -/

/-- **What the constraints of `products` say about a row.** -/
@[mk_iff]
structure Checked (p : Product) : Prop where
  precision : p.quantityPolicy.precision ≤ 3
  minimum : 0 < p.quantityPolicy.minimumQuantity
  serials : p.trackSerials = true → p.quantityPolicy.baseUnit = .UNIT ∧
    p.quantityPolicy.precision = 0 ∧ p.quantityPolicy.minimumQuantity = QUANTITY_SCALE
  expiration : p.lotExpirationPolicy = .NONE ∨ p.trackLots = true
  behavior : p.stockBehavior = .TRACKED ∨ p.trackLots = false ∧ p.trackSerials = false
  alertDays : 1 ≤ p.lotExpirationAlertDays ∧ p.lotExpirationAlertDays ≤ 365
  variantShape : p.parentProductId ≠ none → p.variantParent = false

instance (p : Product) : Decidable (Checked p) := decidable_of_iff' _ (checked_iff p)

variable (s : Store)

/-- The unique keys `uq_products_tenant_sku` and `uq_products_tenant_barcode`. -/
def uniqueCodes (p : Product) : Except CatalogFailure Unit := do
  ensure (∀ q ∈ s.products.rows, q.id ≠ p.id →
    s.env.collate q.normalizedSku ≠ s.env.collate p.normalizedSku) .skuAlreadyExists
  ensure (∀ q ∈ s.products.rows, q.id ≠ p.id →
    ∀ code ∈ q.barcode, ∀ code' ∈ p.barcode, s.env.collate code ≠ s.env.collate code')
    .barcodeAlreadyExists

/-- `INSERT INTO products`. -/
def insertProduct (p : Product) : Except CatalogFailure Store := do
  ensure (Checked p) (.inventory .checkViolation)
  uniqueCodes s p
  let products ← demand (s.products.insert p) (.inventory .duplicateEntry)
  pure { s with products := products }

/-- The row `p` written over the row `r`. -/
def Product.over (p r : Product) : Product :=
  { p with id := r.id }

def writeSettings (p : Product) : Except CatalogFailure Store := do
  ensure (Checked p) (.inventory .checkViolation)
  pure { s with products := s.products.update p.id (Product.over p) }

def writeProduct (p : Product) : Except CatalogFailure Store := do
  uniqueCodes s p
  writeSettings s p

/-! ### Requests -/

/-- `CreateProductDto`, its name, classification, tax and price left out. -/
structure ProductDto where
  sku : Option Text := none
  withoutCode : Option Bool := none
  stockBehavior : Option StockBehavior := none
  barcode : Option Text := none
  baseUnit : Option ProductBaseUnit := none
  quantityPrecision : Option ℕ := none
  quantityRounding : Option QuantityRoundingMode := none
  minimumQuantity : Option ℤ := none
  trackLots : Option Bool := none
  lotExpirationPolicy : Option LotExpirationPolicy := none
  lotExpirationAlertDays : Option ℕ := none
  allowExpiredStockOverride : Option Bool := none
  trackSerials : Option Bool := none
  cost : ℤ := 0

structure UpdateProductDto extends ProductDto where
  version : ℕ

def assertSaleBehavior (dto : ProductDto) : Except CatalogFailure Unit :=
  ensure (¬(dto.stockBehavior = some .UNTRACKED ∧
    (dto.trackLots = some true ∨ dto.trackSerials = some true)))
    .untrackedProductCannotTrackInventory

def assertLotExpirationPolicy (dto : ProductDto) (creating : Bool) :
    Except CatalogFailure Unit := do
  let policy := dto.lotExpirationPolicy.getD .NONE
  ensure (¬(policy ≠ .NONE ∧ (dto.trackLots = some false ∨
    creating = true ∧ dto.trackLots ≠ some true))) .lotExpirationRequiresTracking
  let days := dto.lotExpirationAlertDays.getD 30
  ensure (1 ≤ days ∧ days ≤ 365) .invalidLotExpirationAlertDays
  ensure (¬(dto.allowExpiredStockOverride = some true ∧ policy = .NONE))
    .lotExpirationOverrideRequiresPolicy

def specificLotPolicy : Bool :=
  s.policy.any fun policy ↦ policy.method = .SPECIFIC_LOT

def hexDigit (n : ℕ) : ℕ :=
  if n < 10 then 48 + n else 55 + n

/-- `id.replaceAll('-', '').slice(0, 12).toUpperCase()` behind `NC-`: the first twelve of the 32
digits of an identifier. -/
def generatedSku (id : Uuid) : Text :=
  textOf "NC-" ++ (List.range 12).map fun n ↦ hexDigit (id / 16 ^ (31 - n) % 16)

/-- The code and its mode, once it is known whether the product goes without a code. -/
def skuFor (id : Uuid) (sku : Option Text) (withoutCode : Bool) : Except CatalogFailure Text :=
  if withoutCode then pure (generatedSku id) else demand sku (.inventory .typeError)

/-! ### Creation -/

def ProductDto.newQuantityPolicy (dto : ProductDto) : QuantityPolicy where
  baseUnit := dto.baseUnit.getD .UNIT
  precision := dto.quantityPrecision.getD (if dto.trackSerials = some true then 0 else 3)
  rounding := dto.quantityRounding.getD .HALF_UP
  minimumQuantity :=
    dto.minimumQuantity.getD (if dto.trackSerials = some true then QUANTITY_SCALE else 1)

def ProductDto.newProduct (dto : ProductDto) (s : Store) (id : Uuid) (sku : Text) : Product where
  id := id
  active := true
  variantParent := false
  cost := dto.cost
  trackLots :=
    if dto.stockBehavior = some .UNTRACKED then false
    else specificLotPolicy s || dto.trackLots.getD false
  lotExpirationPolicy := dto.lotExpirationPolicy.getD .NONE
  trackSerials := dto.trackSerials.getD false
  quantityPolicy := dto.newQuantityPolicy
  stockBehavior := dto.stockBehavior.getD .TRACKED
  lotExpirationAlertDays := dto.lotExpirationAlertDays.getD 30
  allowExpiredStockOverride := dto.allowExpiredStockOverride.getD false
  codeMode := if dto.withoutCode.getD false then .GENERATED else .EXPLICIT
  sku := sku
  normalizedSku := s.env.normalize sku
  barcode := dto.barcode

/-- `createProduct`; `id` is the identifier drawn for the product. -/
def createProduct (id : Uuid) (dto : ProductDto) : Except CatalogFailure Store := do
  assertSaleBehavior dto
  assertLotExpirationPolicy dto true
  (assertProductQuantityPolicy dto.newQuantityPolicy (dto.trackSerials.getD false)).mapError
    .inventory
  let sku ← skuFor id dto.sku (dto.withoutCode.getD false)
  insertProduct s (dto.newProduct s id sku)

/-! ### Update -/

/-- The products whose `parent_product_id` is `id`. -/
def variantsOf (id : Uuid) : List Product :=
  s.products.rows.filter fun p ↦ p.parentProductId = some id

/-- `has_movements`: stock of the product or of a variant has moved. -/
def hasMovements (id : Uuid) : Prop :=
  ∃ m ∈ s.movements.rows, m.productId = id ∨ m.productId ∈ (variantsOf s id).map Product.id
deriving Decidable

/-- `is_kit`, `nested_kit`. -/
def isKit (id : Uuid) : Prop :=
  s.documents.kits.find? id ≠ none
deriving Decidable

/-- `nextQuantityPolicy`: switching on serial numbers brings whole units along. -/
def UpdateProductDto.nextQuantityPolicy (dto : UpdateProductDto) (current : Product) :
    QuantityPolicy where
  baseUnit := dto.baseUnit.getD
    (if dto.trackSerials = some true then .UNIT else current.quantityPolicy.baseUnit)
  precision := dto.quantityPrecision.getD
    (if dto.trackSerials = some true then 0 else current.quantityPolicy.precision)
  rounding := dto.quantityRounding.getD current.quantityPolicy.rounding
  minimumQuantity := dto.minimumQuantity.getD
    (if dto.trackSerials = some true then QUANTITY_SCALE
      else current.quantityPolicy.minimumQuantity)

def wholeUnits (policy : QuantityPolicy) : Prop :=
  policy.baseUnit = .UNIT ∧ policy.precision = 0 ∧ policy.minimumQuantity = QUANTITY_SCALE
deriving Decidable

def changes {α : Type} (field : Option α) (current : α) : Prop :=
  ∃ value ∈ field, value ≠ current

instance {α : Type} [DecidableEq α] (field : Option α) (current : α) :
    Decidable (changes field current) :=
  inferInstanceAs (Decidable (∃ value ∈ field, value ≠ current))

/-- The checks of `updateProduct` against the row and what depends on it. -/
def assertUpdatable (dto : UpdateProductDto) (current : Product) :
    Except CatalogFailure Unit := do
  let nextTrackLots := dto.trackLots.getD current.trackLots
  let nextTrackSerials := dto.trackSerials.getD current.trackSerials
  ensure (¬(dto.stockBehavior.getD current.stockBehavior = .UNTRACKED ∧
    (nextTrackLots = true ∨ nextTrackSerials = true))) .productSaleBehaviorInvalid
  ensure (¬(changes dto.stockBehavior current.stockBehavior ∧ hasMovements s current.id))
    .productQuantityPolicyLocked
  ensure (¬(changes dto.trackLots current.trackLots ∧
    (hasMovements s current.id ∨ specificLotPolicy s = true))) .productLotTrackingLocked
  ensure (¬(changes dto.trackSerials current.trackSerials ∧ hasMovements s current.id))
    .productLotTrackingLocked
  (assertProductQuantityPolicy (dto.nextQuantityPolicy current) nextTrackSerials).mapError
    .inventory
  ensure (¬(isKit s current.id ∧ (¬wholeUnits (dto.nextQuantityPolicy current) ∨
    nextTrackLots = true ∨ nextTrackSerials = true)))
    (.productKitConfigurationInvalid .keepsUnitsAndNoTracking)
  ensure (¬(dto.nextQuantityPolicy current ≠ current.quantityPolicy ∧ hasMovements s current.id))
    .productQuantityPolicyLocked

/-- The row the `UPDATE` leaves. -/
def UpdateProductDto.updated (dto : UpdateProductDto) (s : Store) (current : Product)
    (withoutCode : Bool) (sku : Text) : Product :=
  { current with
    sku := sku
    normalizedSku := s.env.normalize sku
    barcode := dto.barcode
    codeMode := if withoutCode then .GENERATED else .EXPLICIT
    stockBehavior := dto.stockBehavior.getD current.stockBehavior
    trackLots := dto.trackLots.getD current.trackLots
    lotExpirationPolicy := dto.lotExpirationPolicy.getD current.lotExpirationPolicy
    lotExpirationAlertDays := dto.lotExpirationAlertDays.getD current.lotExpirationAlertDays
    allowExpiredStockOverride :=
      dto.allowExpiredStockOverride.getD current.allowExpiredStockOverride
    trackSerials := dto.trackSerials.getD current.trackSerials
    quantityPolicy := dto.nextQuantityPolicy current
    cost := dto.cost
    version := current.version + 1 }

/-- The settings of a parent written over those of a variant; serial numbers are not among them. -/
def inherit (parent child : Product) : Product :=
  { child with
    trackLots := parent.trackLots, stockBehavior := parent.stockBehavior,
    lotExpirationPolicy := parent.lotExpirationPolicy,
    lotExpirationAlertDays := parent.lotExpirationAlertDays,
    allowExpiredStockOverride := parent.allowExpiredStockOverride,
    quantityPolicy := parent.quantityPolicy, version := child.version + 1 }

/-- The `UPDATE` of the variants of a product. -/
def propagate (parent : Product) : Except CatalogFailure Store :=
  (variantsOf s parent.id).foldlM (fun s child ↦ writeSettings s (inherit parent child)) s

/-- The code after an update: a generated one is kept, unless the product gets one of its own. -/
def nextSku (current : Product) (drawn : Uuid) (sku : Option Text) (withoutCode : Bool) :
    Except CatalogFailure Text :=
  if withoutCode = true ∧ current.codeMode = .GENERATED then pure current.sku
  else skuFor drawn sku withoutCode

/-- `updateProduct`; `drawn` is the identifier from which a new generated code is made. -/
def updateProduct (id drawn : Uuid) (dto : UpdateProductDto) :
    Except CatalogFailure Store := do
  assertSaleBehavior dto.toProductDto
  assertLotExpirationPolicy dto.toProductDto false
  let current ← demand (s.products.find? id) .notFound
  assertUpdatable s dto current
  let withoutCode := dto.withoutCode.getD (current.codeMode = .GENERATED)
  let sku ← nextSku current drawn dto.sku withoutCode
  ensure (current.version = dto.version) (.productVersionConflict current.version)
  let updated := dto.updated s current withoutCode sku
  let s ← writeProduct s updated
  propagate s updated

/-! ### Variants -/

/-- `ProductVariantAttributeDto`. -/
structure VariantAttribute where
  name : Text
  values : List Text

/-- `ProductVariantInputDto`; `drawn` is the identifier of a variant that is new. -/
structure VariantInput where
  id : Option Uuid := none
  version : Option ℕ := none
  drawn : Uuid
  values : List Text
  sku : Text
  barcode : Option Text := none
  cost : ℤ := 0
  active : Bool := true

/-- `UpdateProductVariantsDto`. -/
structure VariantsDto where
  version : ℕ
  attributes : List VariantAttribute
  variants : List VariantInput

/-- `join('\u0000')` of normalised values. -/
def combinationKey (values : List Text) : Text :=
  [0].intercalate (values.map s.env.normalize)

def cartesian (values : List (List Text)) : List Text :=
  (values.foldl (fun combinations options ↦ combinations.flatMap fun combination ↦
    options.map fun option ↦ combination ++ [option]) [[]]).map (combinationKey s)

/-- One turn of the loop over the attributes: the normalised names so far. -/
def validateAttribute (names : List Text) (a : VariantAttribute) :
    Except CatalogFailure (List Text) := do
  ensure (s.env.normalize a.name ∉ names)
    (.productVariantConfigurationInvalid .repeatedAttribute)
  ensure (a.values.map s.env.normalize).Nodup
    (.productVariantConfigurationInvalid (.repeatedValue a.name))
  pure (names ++ [s.env.normalize a.name])

/-- One turn of the loop over the variants: the combinations so far. -/
def validateVariant (attributes : List VariantAttribute) (received : List Text)
    (variant : VariantInput) : Except CatalogFailure (List Text) := do
  ensure (variant.values.length = attributes.length)
    (.productVariantConfigurationInvalid .wrongValueCount)
  let key := combinationKey s variant.values
  ensure (key ∈ cartesian s (attributes.map VariantAttribute.values) ∧ key ∉ received)
    (.productVariantConfigurationInvalid .invalidCombination)
  pure (received ++ [key])

def validateVariantConfiguration (dto : VariantsDto) :
    Except CatalogFailure Unit := do
  let _ ← dto.attributes.foldlM (validateAttribute s) []
  let combinationCount := (dto.attributes.map fun a ↦ a.values.length).prod
  ensure (combinationCount ≤ 100) (.productVariantConfigurationInvalid .tooManyCombinations)
  ensure (dto.variants.length = combinationCount)
    (.productVariantConfigurationInvalid .missingCombinations)
  let _ ← dto.variants.foldlM (validateVariant s dto.attributes) []
  pure ()

def newVariant (parent : Product) (input : VariantInput) : Product where
  id := input.drawn
  active := input.active
  variantParent := false
  cost := input.cost
  trackLots := parent.trackLots
  lotExpirationPolicy := parent.lotExpirationPolicy
  trackSerials := parent.trackSerials
  quantityPolicy := parent.quantityPolicy
  stockBehavior := parent.stockBehavior
  lotExpirationAlertDays := parent.lotExpirationAlertDays
  allowExpiredStockOverride := parent.allowExpiredStockOverride
  parentProductId := some parent.id
  sku := input.sku
  normalizedSku := s.env.normalize input.sku
  barcode := input.barcode

def keptVariant (current : Product) (input : VariantInput) : Product :=
  { current with
    sku := input.sku, normalizedSku := s.env.normalize input.sku, barcode := input.barcode,
    cost := input.cost, active := input.active, version := current.version + 1 }

structure VariantProgress where
  store : Store
  retainedIds : List Uuid

def writeVariant (parent : Product) (existing : List Product) (p : VariantProgress)
    (input : VariantInput) : Except CatalogFailure VariantProgress :=
  match input.id with
  | some id => do
    ensure (id ∉ p.retainedIds) (.productVariantConfigurationInvalid .repeatedVariant)
    let current ← demand (existing.find? fun c ↦ c.id = id)
      (.productVariantConfigurationInvalid .foreignVariant)
    let version ← demand input.version (.productVariantConfigurationInvalid .foreignVariant)
    ensure (current.version = version) (.productVersionConflict current.version)
    let s ← writeProduct p.store (keptVariant p.store current input)
    pure { store := s, retainedIds := p.retainedIds ++ [id] }
  | none => do
    let s ← insertProduct p.store (newVariant p.store parent input)
    pure { store := s, retainedIds := p.retainedIds ++ [input.drawn] }

/-- `SET active = FALSE, version = version + 1`. -/
def Product.deactivated (p : Product) : Product :=
  { p with active := false, version := p.version + 1 }

def deactivateVariants (ids : List Uuid) : Store :=
  { s with products := s.products.updateEach ids id fun _ ↦ Product.deactivated }

def updateProductVariants (parentId : Uuid) (dto : VariantsDto) :
    Except CatalogFailure Store := do
  let parent ← demand (s.products.find? parentId) .notFound
  ensure (¬isKit s parentId) (.productVariantConfigurationInvalid .kit)
  ensure (parent.parentProductId = none) (.productVariantConfigurationInvalid .variantOfVariant)
  ensure (parent.active = true) (.productVariantConfigurationInvalid .inactiveParent)
  ensure (parent.version = dto.version) (.productVersionConflict parent.version)
  validateVariantConfiguration s dto
  ensure (¬(parent.variantParent = false ∧
    ∃ b ∈ s.balances.rows, b.productId = parentId ∧
      b.quantity ≠ 0)) .productVariantsRequireZeroStock
  let existing := variantsOf s parentId
  let p ← dto.variants.foldlM (writeVariant parent existing) { store := s, retainedIds := [] }
  let removedIds := (existing.filter fun c ↦ c.id ∉ p.retainedIds ∧ c.active = true).map Product.id
  let s := deactivateVariants p.store removedIds
  writeSettings s { parent with variantParent := true, version := parent.version + 1 }

/-! ### Products from a file -/

/-- A row of `product_import_rows` that is to be applied. -/
inductive ImportRow
  | create (drawn : Uuid) (sku : Text) (barcode : Option Text) (cost : ℤ) (active : Bool)
  | update (productId : Uuid) (previewVersion : ℕ) (barcode : Option Text) (cost : ℤ)
      (active : Bool)

/-- A product that a file creates; what the statement does not name gets the column's default. -/
def importedProduct (drawn : Uuid) (sku : Text) (barcode : Option Text) (cost : ℤ)
    (active : Bool) : Product where
  id := drawn
  active := active
  variantParent := false
  cost := cost
  trackLots := specificLotPolicy s
  lotExpirationPolicy := .NONE
  trackSerials := false
  quantityPolicy := { precision := 3, rounding := .HALF_UP, minimumQuantity := 1 }
  sku := sku
  normalizedSku := s.env.normalize sku
  barcode := barcode

/-- `apply` of `ProductImportService`. -/
def applyImportRow : ImportRow → Except CatalogFailure Store
  | .create drawn sku barcode cost active =>
    insertProduct s (importedProduct s drawn sku barcode cost active)
  | .update productId previewVersion barcode cost active => do
    let current ← demand (s.products.find? productId) .productImportStale
    ensure (current.version = previewVersion) .productImportStale
    writeProduct s { current with
      barcode := barcode, cost := cost, active := active, version := current.version + 1 }

end Catalog

end UInventario
