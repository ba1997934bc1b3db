import UInventario.Catalog.System

/-!
# The structure of kits

A kit is sold by whole units and tracks neither lots nor serial numbers, and no component of a kit
is a kit itself or tracked (`KitStructure`). The catalogue checks it where a kit is configured and
nowhere else, so it is lost when

* a component is configured as a kit, or lots or serial numbers are switched on for it,
* a parent is updated whose variants are kits or components, with settings these must not have,
* the valuation method becomes `SPECIFIC_LOT` while a kit or a component has no lots.

`KeepsKits` is the condition that none of this is asked for, and `kit_structure` the result for
runs.
-/

namespace UInventario

open Outcome Table

namespace Catalog

/-! ### The structure -/

def isComponent (s : Store) (id : Uuid) : Prop :=
  ∃ kit ∈ s.documents.kits.rows, ∃ c ∈ kit.components, c.productId = id
deriving Decidable

/-- **The structure of kits.** -/
structure KitStructure (s : Store) : Prop where
  kits : ∀ id, isKit s id → ∃ p, s.products.find? id = some p ∧ KitShaped p
  components : ∀ id, isComponent s id → ∃ p, s.products.find? id = some p ∧ ComponentShaped s p

variable {s : Store}

theorem kitStructure_iff : KitStructure s ↔ ∀ kit ∈ s.documents.kits.rows,
    (∃ p ∈ s.products.find? kit.productId, KitShaped p) ∧
      ∀ c ∈ kit.components, ∃ p ∈ s.products.find? c.productId, ComponentShaped s p := by
  constructor
  · intro h kit hkit
    have his : isKit s kit.productId := fun hnone ↦
      Table.find?_eq_none.mp hnone kit hkit rfl
    exact ⟨h.kits kit.productId his, fun c hc ↦ h.components c.productId ⟨kit, hkit, c, hc, rfl⟩⟩
  · intro h
    refine ⟨fun id his ↦ ?_, fun id his ↦ ?_⟩
    · obtain ⟨kit, hfind⟩ := Option.ne_none_iff_exists'.mp his
      have hid : kit.productId = id := key_of_find? hfind
      exact hid ▸ (h kit (mem_of_find? hfind)).1
    · obtain ⟨kit, hkit, c, hc, rfl⟩ := his
      exact (h kit hkit).2 c hc

instance (s : Store) : Decidable (KitStructure s) :=
  decidable_of_iff _ kitStructure_iff.symm

theorem KitStructure.empty (env : Env) : KitStructure (Store.fresh env) where
  kits id hkit := absurd rfl hkit
  components id hcomponent := by
    obtain ⟨kit, hmem, -⟩ := hcomponent
    cases hmem

/-- **The condition on an event.** -/
def KeepsKits (s : Store) : CatalogEvent → Prop
  | .updateProduct id _ dto =>
    (isComponent s id → dto.trackLots ≠ some true ∧ dto.trackSerials ≠ some true) ∧
      ∀ parent ∈ s.products.find? id, ∀ child ∈ variantsOf s id,
        (isKit s child.id ∨ isComponent s child.id → dto.trackLots.getD parent.trackLots = false) ∧
        (isKit s child.id → wholeUnits (dto.nextQuantityPolicy parent))
  | .updateProductKit productId dto => dto.settings ≠ none → ¬isComponent s productId
  | .changePolicy input =>
    input.targetMethod = .SPECIFIC_LOT → s.policyHistory.find? input.idempotencyKey = none →
      ∀ p ∈ productsWithoutLots s, ¬isKit s p.id ∧ ¬isComponent s p.id
  | _ => True

instance (s : Store) (e : CatalogEvent) : Decidable (KeepsKits s e) := by
  cases e <;> (unfold KeepsKits; infer_instance)

/-! ### Products that change their settings -/

variable {s' : Store} {product : Product} {kit : ProductKit}

theorem KitStructure.of_rows (h : KitStructure s) (hkits : s'.documents.kits = s.documents.kits)
    (hrows : ∀ id p, s.products.find? id = some p → ∃ p', s'.products.find? id = some p' ∧
      (isKit s id → KitShaped p → KitShaped p') ∧
      (isComponent s id → p.trackLots = false → p.trackSerials = false →
        p'.trackLots = false ∧ p'.trackSerials = false)) : KitStructure s' := by
  have hkit : ∀ id, isKit s' id ↔ isKit s id := fun id ↦ by rw [isKit, isKit, hkits]
  have hcomponent : ∀ id, isComponent s' id ↔ isComponent s id := fun id ↦ by
    rw [isComponent, isComponent, hkits]
  refine ⟨fun id his ↦ ?_, fun id his ↦ ?_⟩
  · obtain ⟨p, hp, hshape⟩ := h.kits id ((hkit id).mp his)
    obtain ⟨p', hp', hkeeps, -⟩ := hrows id p hp
    exact ⟨p', hp', hkeeps ((hkit id).mp his) hshape⟩
  · obtain ⟨p, hp, hnot, hlots, hserials⟩ := h.components id ((hcomponent id).mp his)
    obtain ⟨p', hp', -, hkeeps⟩ := hrows id p hp
    have hid : p.id = id := key_of_find? hp
    have hid' : p'.id = id := key_of_find? hp'
    refine ⟨p', hp', fun hnested ↦ hnot ?_, hkeeps ((hcomponent id).mp his) hlots hserials⟩
    rw [hid]
    exact (hkit id).mp (hid' ▸ hnested)

theorem KitShaped.of_same {p p' : Product} (h : KitShaped p) (hsame : SameSettings p p') :
    KitShaped p' :=
  ⟨hsame.quantityPolicy ▸ h.1, hsame.trackLots.trans h.2.1, hsame.trackSerials.trans h.2.2⟩

theorem KitStructure.of_keeps (h : KitStructure s) (hkeeps : KeepsProducts s s')
    (hkits : s'.documents.kits = s.documents.kits) : KitStructure s' := by
  refine h.of_rows hkits fun id p hp ↦ ?_
  obtain ⟨p', hp', hsame⟩ := hkeeps id p hp
  exact ⟨p', hp', fun _ hshape ↦ hshape.of_same hsame, fun _ hlots hserials ↦
    ⟨hsame.trackLots.trans hlots, hsame.trackSerials.trans hserials⟩⟩

theorem getD_eq_false {field : Option Bool} {current : Bool} (h : field ≠ some true)
    (hcurrent : current = false) : field.getD current = false := by
  cases field with
  | none => exact hcurrent
  | some value =>
    cases value with
    | false => rfl
    | true => exact absurd rfl h

theorem updateProduct_structure {id drawn : Uuid} {dto : UpdateProductDto} (hs : KitStructure s)
    (hkeeps : KeepsKits s (.updateProduct id drawn dto))
    (h : updateProduct s id drawn dto = .ok s') : KitStructure s' := by
  obtain ⟨current, withoutCode, sku, s₁, hfind, hupdatable, hwrite, hpropagate⟩ :=
    updateProduct_eq_ok h
  obtain ⟨hown, hvariants⟩ := hkeeps
  have hid : current.id = id := key_of_find? hfind
  subst hid
  have hkit := fun his ↦ kitShaped_of_updatable hupdatable his withoutCode sku
  set updated := dto.updated s current withoutCode sku with hupdated
  have hcomponent : isComponent s current.id → current.trackLots = false →
      current.trackSerials = false →
        updated.trackLots = false ∧ updated.trackSerials = false := fun his hlots hserials ↦
    ⟨getD_eq_false (hown his).1 hlots, getD_eq_false (hown his).2 hserials⟩
  obtain ⟨-, rfl⟩ := writeSettings_eq_ok.mp (writeProduct_eq_ok hwrite)
  have hdocuments : s'.documents.kits = s.documents.kits := by
    obtain ⟨-, rfl⟩ := propagate_eq_ok.mp hpropagate
    rfl
  refine hs.of_rows hdocuments fun id p hp ↦ ?_
  have hpid : p.id = id := key_of_find? hp
  subst hpid
  -- the row between the two statements: the updated one, or the one there was
  by_cases hself : p.id = current.id
  · obtain rfl : current = p := Option.some_inj.mp (hfind.symm.trans (hself ▸ hp))
    have hrow : ((s.products.update updated.id (Product.over updated)).find? current.id) =
        some updated := by
      rw [show updated.id = current.id from rfl, find?_update_self, hfind]
      rfl
    have hafter := find?_propagate hpropagate hrow
    by_cases hchild : updated.parentProductId = some updated.id
    · rw [if_pos hchild] at hafter
      exact ⟨_, hafter, fun his _ ↦ hkit his, hcomponent⟩
    · rw [if_neg hchild] at hafter
      exact ⟨_, hafter, fun his _ ↦ hkit his, hcomponent⟩
  · have hrow : ((s.products.update updated.id (Product.over updated)).find? p.id) = some p := by
      rw [show updated.id = current.id from rfl, find?_update_of_ne hself, hp]
    have hafter := find?_propagate hpropagate hrow
    by_cases hchild : p.parentProductId = some updated.id
    · rw [if_pos hchild] at hafter
      have hmem : p ∈ variantsOf s current.id :=
        mem_variantsOf.mpr ⟨mem_of_find? hp, hchild⟩
      obtain ⟨hlots, hunits⟩ := hvariants current hfind p hmem
      refine ⟨_, hafter, fun his hshape ↦ ⟨hunits his, hlots (Or.inl his), hshape.2.2⟩,
        fun his _ hserials ↦ ⟨hlots (Or.inr his), hserials⟩⟩
    · rw [if_neg hchild] at hafter
      exact ⟨p, hafter, fun _ hshape ↦ hshape, fun _ hlots hserials ↦ ⟨hlots, hserials⟩⟩

theorem changePolicy_structure {input : ChangePolicyInput} (hs : KitStructure s)
    (hkeeps : KeepsKits s (.changePolicy input)) (h : changeValuationPolicy s input = .ok s') :
    KitStructure s' := by
  have hdocuments : s'.documents.kits = s.documents.kits := by
    rw [(changeValuationPolicy_sameStock h).store_eq]
  refine hs.of_rows hdocuments fun id p hp ↦ ⟨_, find?_changeValuationPolicy h hp, ?_⟩
  have hid : p.id = id := key_of_find? hp
  subst hid
  split
  case isTrue hopened =>
    obtain ⟨hnew, htarget, hmem⟩ := hopened
    obtain ⟨hkit, hcomponent⟩ := hkeeps htarget hnew p hmem
    exact ⟨fun his ↦ absurd his hkit, fun his ↦ absurd his hcomponent⟩
  case isFalse => exact ⟨fun _ hshape ↦ hshape, fun _ hlots hserials ↦ ⟨hlots, hserials⟩⟩

/-! ### Kits that are configured -/

/-- **What a configuration has checked.** -/
theorem prepareKit_eq_ok {settings : KitSettings} (h : prepareKit s product settings = .ok kit) :
    kit.productId = product.id ∧ KitShaped product ∧
      ∀ c ∈ kit.components, c.productId ≠ product.id ∧
        ∃ p, s.products.find? c.productId = some p ∧ ComponentShaped s p := by
  simp only [prepareKit, eq_ok] at h
  obtain ⟨-, -, -, ⟨-, hshape⟩, -, ⟨-, hnotSelf⟩, requested, hrequested, components, hcomponents,
    -, -, -, -, rfl⟩ := h
  refine ⟨rfl, hshape, fun c hc ↦ ?_⟩
  obtain ⟨r, hr, hnormalized⟩ := exists_of_mem_mapM hcomponents hc
  obtain ⟨item, hitem, hfound⟩ := exists_of_mem_mapM hrequested hr
  simp only [findComponent, eq_ok] at hfound
  obtain ⟨p, hp, rfl⟩ := hfound
  simp only [normalizeComponent, eq_ok] at hnormalized
  obtain ⟨-, hcomponent, quantity, -, rfl⟩ := hnormalized
  refine ⟨fun heq ↦ hnotSelf (List.mem_map.mpr ⟨item, hitem, heq⟩), p, ?_, hcomponent⟩
  exact (Option.filter_eq_some_iff.mp hp).1

theorem KitStructure.put (hs : KitStructure s)
    (hfind : s.products.find? product.id = some product) (hid : kit.productId = product.id)
    (hshape : KitShaped product) (hcomponents : ∀ c ∈ kit.components, c.productId ≠ product.id ∧
      ∃ p, s.products.find? c.productId = some p ∧ ComponentShaped s p)
    (hnot : ¬isComponent s product.id) :
    KitStructure { s with documents := { s.documents with kits := s.documents.kits.put kit } } := by
  have hkit : ∀ id, id ≠ product.id → ¬isKit s id →
      ¬((s.documents.kits.put kit).find? id ≠ none) := by
    intro id hne hnone hsome
    refine hsome (Table.find?_eq_none.mpr fun r hr hkey ↦ ?_)
    rcases Table.mem_put.mp hr with rfl | ⟨hmem, -⟩
    · exact hne (hkey.symm.trans hid)
    · refine hnone fun hfind ↦ ?_
      exact Table.find?_eq_none.mp hfind r hmem hkey
  refine ⟨fun id his ↦ ?_, fun id his ↦ ?_⟩
  · by_cases hself : id = product.id
    · exact ⟨product, hself ▸ hfind, hshape⟩
    · exact hs.kits id (not_not.mp fun hnone ↦ hkit id hself hnone his)
  · have hold : id ≠ product.id ∧ ∃ p, s.products.find? id = some p ∧ ComponentShaped s p := by
      obtain ⟨k, hk, c, hc, rfl⟩ := his
      rcases Table.mem_put.mp hk with rfl | ⟨hmem, -⟩
      · exact hcomponents c hc
      · have hcomponent : isComponent s c.productId := ⟨k, hmem, c, hc, rfl⟩
        exact ⟨fun heq ↦ hnot (heq ▸ hcomponent), hs.components _ hcomponent⟩
    obtain ⟨hne, p, hp, hnested, htracking⟩ := hold
    have hpid : p.id = id := key_of_find? hp
    exact ⟨p, hp, hkit p.id (hpid ▸ hne) hnested, htracking⟩

theorem KitStructure.delete (hs : KitStructure s) (productId : Uuid) :
    KitStructure { s with documents := { s.documents with
      kits := s.documents.kits.delete fun kit ↦ kit.productId = productId } } := by
  have hkit : ∀ id, (s.documents.kits.delete fun kit ↦ kit.productId = productId).find? id ≠ none →
      isKit s id := by
    intro id hsome hnone
    refine hsome (Table.find?_eq_none.mpr fun r hr hkey ↦ ?_)
    exact Table.find?_eq_none.mp hnone r (Table.mem_delete.mp hr).1 hkey
  refine ⟨fun id his ↦ hs.kits id (hkit id his), fun id his ↦ ?_⟩
  obtain ⟨k, hk, c, hc, rfl⟩ := his
  obtain ⟨p, hp, hnested, htracking⟩ :=
    hs.components c.productId ⟨k, (Table.mem_delete.mp hk).1, c, hc, rfl⟩
  exact ⟨p, hp, fun his ↦ hnested (hkit p.id his), htracking⟩

theorem updateProductKit_structure {productId : Uuid} {dto : KitDto} (hs : KitStructure s)
    (hkeeps : KeepsKits s (.updateProductKit productId dto))
    (h : updateProductKit s productId dto = .ok s') : KitStructure s' := by
  simp only [updateProductKit, eq_ok] at h
  obtain ⟨-, -, product, hfind, -, -, kits, hwrite, rfl⟩ := h
  have hid : product.id = productId := key_of_find? hfind
  subst hid
  have hconfigured : KitStructure { s with documents := { s.documents with kits := kits } } := by
    cases hsettings : dto.settings with
    | none =>
      rw [hsettings] at hwrite
      simp only [writeKit, eq_ok] at hwrite
      obtain ⟨-, -, rfl⟩ := hwrite
      exact hs.delete product.id
    | some settings =>
      rw [hsettings] at hwrite
      simp only [writeKit, eq_ok] at hwrite
      obtain ⟨kit, hprepare, rfl⟩ := hwrite
      obtain ⟨hkitId, hshape, hcomponents⟩ := prepareKit_eq_ok hprepare
      have hnot : ¬isComponent s product.id := hkeeps (hsettings ▸ Option.some_ne_none settings)
      exact hs.put hfind hkitId hshape hcomponents hnot
  exact hconfigured.of_keeps
    (@KeepsProducts.update _ _ product.id (fun p ↦ { p with version := p.version + 1 })
      (fun _ ↦ rfl) rfl fun p _ ↦ ⟨rfl, rfl, rfl⟩) rfl

/-! ### Runs -/

/-- **One event keeps the structure** when it meets the condition. -/
theorem catalogStep_structure {e : CatalogEvent} (hs : KitStructure s) (hkeeps : KeepsKits s e)
    (h : catalogStep s e = .ok s') : KitStructure s' := by
  cases e with
  | createProduct id dto =>
    obtain ⟨sku, hinsert⟩ := createProduct_eq_ok h
    have hproducts := insertProduct_keeps hinsert
    obtain ⟨-, products, -, rfl⟩ := insertProduct_eq_ok hinsert
    exact hs.of_keeps hproducts rfl
  | updateProduct id drawn dto => exact updateProduct_structure hs hkeeps h
  | updateProductVariants parentId dto =>
    obtain ⟨hproducts, hdocuments⟩ := updateProductVariants_keeps h
    exact hs.of_keeps hproducts (by rw [hdocuments])
  | updateProductKit productId dto => exact updateProductKit_structure hs hkeeps h
  | importRow row =>
    obtain ⟨hproducts, hdocuments⟩ := applyImportRow_keeps h
    exact hs.of_keeps hproducts (by rw [hdocuments])
  | changePolicy input => exact changePolicy_structure hs hkeeps (mapError_eq_ok.mp h)
  | stock tables =>
    simp only [catalogStep, eq_ok] at h
    obtain ⟨-, -, rfl⟩ := h
    exact hs.of_keeps (.refl _) rfl
  | recost productId cost =>
    obtain rfl := pure_eq_ok.mp h
    refine hs.of_keeps (@KeepsProducts.update _ _ productId (Product.recosted cost)
      (Product.recosted_id cost) rfl fun p _ ↦ ?_) rfl
    rw [Product.recosted]
    split
    · exact .refl p
    · exact ⟨rfl, rfl, rfl⟩

/-- **The structure of kits holds in every state of a run whose events meet the condition.** -/
theorem kit_structure {env : Env} {events : List CatalogEvent}
    (hs : s = run catalogStep (emptyCatalog env) events)
    (hkeeps : Along catalogStep KeepsKits (emptyCatalog env) events) : KitStructure s := by
  subst hs
  exact run_induct_along (fun s e s' hs hkeeps h ↦ catalogStep_structure hs hkeeps h)
    (KitStructure.empty env) events hkeeps

/-! ### Runs that lose the structure -/

def unitProduct (sku : Text) : ProductDto where
  sku := some sku
  quantityPrecision := some 0
  minimumQuantity := some QUANTITY_SCALE

def twoUnitsOf (productId : Uuid) : KitSettings where
  stockMode := .DERIVED
  components := [{ productId := productId, quantity := 2 * QUANTITY_SCALE }]

def oneKit : List CatalogEvent :=
  [.createProduct 1 (unitProduct [1]), .createProduct 2 (unitProduct [2]),
    .updateProductKit 2 { version := 1, settings := some (twoUnitsOf 1) }]

theorem kit_structure_recosted : isKit (run catalogStep (emptyCatalog default) (oneKit ++
      [.updateProduct 1 0 { unitProduct [1] with version := 1, cost := 100 }])) 2 ∧
    KitStructure (run catalogStep (emptyCatalog default) (oneKit ++
      [.updateProduct 1 0 { unitProduct [1] with version := 1, cost := 100 }])) :=
  ⟨by decide +kernel, kit_structure rfl (by decide +kernel)⟩

/-- The method becomes `SPECIFIC_LOT`, with the plan a preview shows. -/
def lotsFrom (products : ℕ) : CatalogEvent :=
  .changePolicy {
    idempotencyKey := [1]
    targetMethod := .SPECIFIC_LOT
    expectedVersion := 1
    planFingerprint := {
      current := { method := .MOVING_AVERAGE, version := 1 }, targetMethod := .SPECIFIC_LOT,
      blockingReasons := [], productsToMigrate := products, locationsToMigrate := 0 } }

/-- A variant of product 3, product 4, that is the component of a kit. -/
def variantComponent : List CatalogEvent :=
  [.createProduct 3 (unitProduct [3]),
    .updateProductVariants 3 {
      version := 1, attributes := [{ name := [1], values := [[1]] }],
      variants := [{ drawn := 4, values := [[1]], sku := [4] }] },
    .createProduct 2 (unitProduct [2]),
    .updateProductKit 2 { version := 1, settings := some (twoUnitsOf 4) }]

/-- **Each way to lose the structure**, by the method, by kits and by lots. -/
theorem kit_structure_lost :
    ¬KitStructure (run catalogStep (emptyCatalog default) (oneKit ++ [lotsFrom 2])) ∧
    ¬KitStructure (run catalogStep (emptyCatalog default) (oneKit ++
      [.createProduct 5 (unitProduct [5]),
        .updateProductKit 1 { version := 1, settings := some (twoUnitsOf 5) }])) ∧
    ¬KitStructure (run catalogStep (emptyCatalog default) (oneKit ++
      [.updateProduct 1 0 { unitProduct [1] with version := 1, trackLots := some true }])) ∧
    ¬KitStructure (run catalogStep (emptyCatalog default) (variantComponent ++
      [.updateProduct 3 0 { unitProduct [3] with version := 2, trackLots := some true }])) := by
  decide +kernel

end Catalog

end UInventario
