import UInventario.Catalog.KitConfiguration
import UInventario.Inventory.Balances

/-!
# What happens to the catalogue

The catalogue changes by the transactions of `CatalogRepository`, by the rows of an imported file
and by a change of the valuation method; the rest of the application writes the stock it looks at.

What one event can do to the products and to the kits is said by the lemmas of this file. A product
keeps its settings unless it is updated itself, its parent is, or it gets an opening lot; a kit is
there only after a request for its product.
-/

namespace UInventario

open Outcome Table List

namespace Catalog

/-! ### Events -/

structure StockTables where
  balances : Table Balance
  movements : Table Movement
  valuations : Table Valuation
  fifo : FifoBook
  lots : LotBook

/-- The constraints of these tables: the check of a balance and the foreign key of a lot balance. -/
def StockTables.Checked (t : StockTables) : Prop :=
  (∀ b ∈ t.balances.rows, b.Valid) ∧ ∀ b ∈ t.lots.balances.rows, t.lots.lots.find? b.lotId ≠ none
deriving Decidable

inductive CatalogEvent
  | createProduct (id : Uuid) (dto : ProductDto)
  | updateProduct (id drawn : Uuid) (dto : UpdateProductDto)
  | updateProductVariants (parentId : Uuid) (dto : VariantsDto)
  | updateProductKit (productId : Uuid) (dto : KitDto)
  | importRow (row : ImportRow)
  | changePolicy (input : ChangePolicyInput)
  /-- Another part of the application writes the stock. -/
  | stock (tables : StockTables)
  /-- The cost of a product follows its valuation. -/
  | recost (productId : Uuid) (cost : ℤ)

def catalogStep (s : Store) : CatalogEvent → Except CatalogFailure Store
  | .createProduct id dto => createProduct s id dto
  | .updateProduct id drawn dto => updateProduct s id drawn dto
  | .updateProductVariants parentId dto => updateProductVariants s parentId dto
  | .updateProductKit productId dto => updateProductKit s productId dto
  | .importRow row => applyImportRow s row
  | .changePolicy input => (changeValuationPolicy s input).mapError .inventory
  | .stock tables => do
    ensure tables.Checked (.inventory .checkViolation)
    pure { s with
      balances := tables.balances, movements := tables.movements, valuations := tables.valuations,
      fifo := tables.fifo, lots := tables.lots }
  | .recost productId cost =>
    pure { s with
      products := s.products.update productId (Product.recosted cost) (Product.recosted_id cost) }

abbrev emptyCatalog (env : Env) : Store := Store.fresh env

/-! ### Rows that keep their settings -/

/-- The two rows keep their stock in the same way and are sold in the same quantities. -/
structure SameSettings (p p' : Product) : Prop where
  trackLots : p'.trackLots = p.trackLots
  trackSerials : p'.trackSerials = p.trackSerials
  quantityPolicy : p'.quantityPolicy = p.quantityPolicy

theorem SameSettings.refl (p : Product) : SameSettings p p := ⟨rfl, rfl, rfl⟩

variable {p : Product}

theorem SameSettings.trans {p' p'' : Product} (h : SameSettings p p') (h' : SameSettings p' p'') :
    SameSettings p p'' :=
  ⟨h'.trackLots.trans h.trackLots, h'.trackSerials.trans h.trackSerials,
    h'.quantityPolicy.trans h.quantityPolicy⟩

def KeepsProducts (s s' : Store) : Prop :=
  ∀ id p, s.products.find? id = some p → ∃ p', s'.products.find? id = some p' ∧ SameSettings p p'

theorem KeepsProducts.refl (s : Store) : KeepsProducts s s :=
  fun _ p hp ↦ ⟨p, hp, .refl p⟩

variable {s s' : Store}

theorem KeepsProducts.trans {s'' : Store} (h : KeepsProducts s s') (h' : KeepsProducts s' s'') :
    KeepsProducts s s'' := by
  intro id p hp
  obtain ⟨p', hp', hsame⟩ := h id p hp
  obtain ⟨p'', hp'', hsame'⟩ := h' id p' hp'
  exact ⟨p'', hp'', hsame.trans hsame'⟩

variable {id : Uuid} {parent : Product} {dto : UpdateProductDto} {parentId : Uuid}

theorem KeepsProducts.update {f : Product → Product} {hf : ∀ p, Keyed.key (f p) = Keyed.key p}
    (h : s'.products = s.products.update id f hf)
    (hsame : ∀ p, s.products.find? id = some p → SameSettings p (f p)) : KeepsProducts s s' := by
  intro id' p hp
  rw [h]
  by_cases hid : id' = id
  · subst hid
    exact ⟨f p, by rw [find?_update_self, hp, Option.map_some], hsame p hp⟩
  · exact ⟨p, by rw [find?_update_of_ne hid, hp], .refl p⟩

/-! ### What the statements do -/

theorem insertProduct_eq_ok (h : insertProduct s p = .ok s') :
    Checked p ∧ ∃ products, s.products.insert p = some products ∧
      s' = { s with products := products } := by
  simp only [insertProduct, eq_ok] at h
  obtain ⟨-, hchecked, -, -, products, hinsert, rfl⟩ := h
  exact ⟨hchecked, products, hinsert, rfl⟩

theorem insertProduct_keeps (h : insertProduct s p = .ok s') : KeepsProducts s s' := by
  obtain ⟨-, products, hinsert, rfl⟩ := insertProduct_eq_ok h
  exact fun id q hq ↦ ⟨q, find?_insert_of_some hinsert hq, .refl q⟩

theorem writeSettings_eq_ok : writeSettings s p = .ok s' ↔ Checked p ∧
      { s with products := s.products.update p.id (Product.over p) } = s' := by
  simp only [writeSettings, eq_ok]
  exact ⟨fun ⟨_, hchecked, hs⟩ ↦ ⟨hchecked, hs⟩, fun ⟨hchecked, hs⟩ ↦ ⟨⟨⟩, hchecked, hs⟩⟩

theorem writeSettings_keeps {q : Product} (h : writeSettings s p = .ok s')
    (hq : s.products.find? p.id = some q) (hsame : SameSettings q p) : KeepsProducts s s' := by
  obtain ⟨-, rfl⟩ := writeSettings_eq_ok.mp h
  refine @KeepsProducts.update s _ p.id (Product.over p) (fun _ ↦ rfl) rfl fun r hr ↦ ?_
  obtain rfl := Option.some_inj.mp (hq.symm.trans hr)
  exact ⟨hsame.trackLots, hsame.trackSerials, hsame.quantityPolicy⟩

theorem writeProduct_eq_ok (h : writeProduct s p = .ok s') : writeSettings s p = .ok s' := by
  obtain ⟨-, -, h⟩ := bind_eq_ok.mp h
  exact h

/-- **The variants of a product that is updated** get its settings, all of them or none. -/
theorem propagate_eq_ok : propagate s parent = .ok s' ↔
      (∀ child ∈ variantsOf s parent.id, Checked (inherit parent child)) ∧ { s with
          products := s.products.updateEach (variantsOf s parent.id) Product.id
            fun child ↦ Product.over (inherit parent child) } = s' := by
  have hloop : ∀ (l : List Product) (t : Store),
      l.foldlM (fun s child ↦ writeSettings s (inherit parent child)) t = .ok s' ↔
        (∀ child ∈ l, Checked (inherit parent child)) ∧ { t with
            products := t.products.updateEach l Product.id
              fun child ↦ Product.over (inherit parent child) } = s' := by
    intro l
    induction l with
    | nil => intro t; simp [Table.updateEach]
    | cons child l ih =>
      intro t
      rw [foldlM_cons_eq_ok]
      constructor
      · rintro ⟨t₁, hturn, hrest⟩
        obtain ⟨hchecked, rfl⟩ := writeSettings_eq_ok.mp hturn
        obtain ⟨hall, hs⟩ := (ih _).mp hrest
        exact ⟨List.forall_mem_cons.mpr ⟨hchecked, hall⟩, hs⟩
      · rintro ⟨hall, hs⟩
        obtain ⟨hchecked, hrest⟩ := List.forall_mem_cons.mp hall
        exact ⟨_, writeSettings_eq_ok.mpr ⟨hchecked, rfl⟩, (ih _).mpr ⟨hrest, hs⟩⟩
  exact hloop _ s

theorem nodup_variantsOf (s : Store) (id : Uuid) : ((variantsOf s id).map Product.id).Nodup :=
  s.products.nodup.sublist ((filter_sublist).map Product.id)

theorem mem_variantsOf :
    p ∈ variantsOf s id ↔ p ∈ s.products.rows ∧ p.parentProductId = some id := by
  rw [variantsOf, mem_filter, decide_eq_true_eq]

theorem find?_propagate (h : propagate s parent = .ok s') (hp : s.products.find? id = some p) :
    s'.products.find? id =
      some (if p.parentProductId = some parent.id then inherit parent p else p) := by
  obtain ⟨-, rfl⟩ := propagate_eq_ok.mp h
  have hid : p.id = id := key_of_find? hp
  subst hid
  have hmem := mem_of_find? hp
  by_cases hchild : p.parentProductId = some parent.id
  · rw [if_pos hchild]
    rw [find?_updateEach_of_mem (nodup_variantsOf s parent.id)
      (mem_variantsOf.mpr ⟨hmem, hchild⟩), hp]
    rfl
  · rw [if_neg hchild]
    rw [find?_updateEach_of_forall, hp]
    intro child hchild' heq
    have hsame : child = p := s.products.eq_of_mem_of_key_eq (mem_variantsOf.mp hchild').1 hmem heq
    exact hchild (hsame ▸ (mem_variantsOf.mp hchild').2)

/-! ### What the transactions do -/

theorem createProduct_eq_ok {dto : ProductDto} (h : createProduct s id dto = .ok s') :
    ∃ sku, insertProduct s (dto.newProduct s id sku) = .ok s' := by
  simp only [createProduct, bind_eq_ok] at h
  obtain ⟨-, -, -, -, -, -, sku, -, h⟩ := h
  exact ⟨sku, h⟩

/-- **An update** writes the row of the product and then its settings over those of its variants. -/
theorem updateProduct_eq_ok {drawn : Uuid} (h : updateProduct s id drawn dto = .ok s') :
    ∃ current withoutCode sku s₁, s.products.find? id = some current ∧
      assertUpdatable s dto current = .ok () ∧
      writeProduct s (dto.updated s current withoutCode sku) = .ok s₁ ∧
      propagate s₁ (dto.updated s current withoutCode sku) = .ok s' := by
  simp only [updateProduct, eq_ok] at h
  obtain ⟨-, -, -, -, current, hfind, ⟨⟩, hupdatable, sku, -, -, -, s₁, hwrite, h⟩ := h
  exact ⟨current, _, sku, s₁, hfind, hupdatable, hwrite, h⟩

theorem kitShaped_of_updatable {current : Product}
    (h : assertUpdatable s dto current = .ok ()) (his : isKit s current.id) (withoutCode : Bool)
    (sku : Text) : KitShaped (dto.updated s current withoutCode sku) := by
  simp only [assertUpdatable, eq_ok] at h
  obtain ⟨-, -, -, -, -, -, -, -, -, -, -, hkit, -⟩ := h
  have hshape := not_or.mp (not_and.mp hkit his)
  obtain ⟨hlots, hserials⟩ := not_or.mp hshape.2
  exact ⟨not_not.mp hshape.1, Bool.eq_false_of_not_eq_true hlots,
    Bool.eq_false_of_not_eq_true hserials⟩

theorem writeVariant_keeps {progress progress' : VariantProgress} {input : VariantInput}
    (hkeeps : KeepsProducts s progress.store) (hkits : progress.store.documents = s.documents)
    (h : writeVariant parent (variantsOf s parentId) progress input = .ok progress') :
    KeepsProducts s progress'.store ∧ progress'.store.documents = s.documents := by
  unfold writeVariant at h
  cases hid : input.id with
  | none =>
    rw [hid] at h
    simp only [eq_ok] at h
    obtain ⟨s₁, hinsert, rfl⟩ := h
    obtain ⟨-, products, -, rfl⟩ := insertProduct_eq_ok hinsert
    exact ⟨hkeeps.trans (insertProduct_keeps hinsert), hkits⟩
  | some id =>
    rw [hid] at h
    simp only [eq_ok] at h
    obtain ⟨-, -, current, hcurrent, version, -, -, -, s₁, hwrite, rfl⟩ := h
    have hwrite := writeProduct_eq_ok hwrite
    -- the row was read before the loop, and its settings have not changed since
    have hmem := (mem_variantsOf.mp (mem_of_find?_eq_some hcurrent)).1
    obtain ⟨q, hq, hsame⟩ := hkeeps current.id current (s.products.find?_key_of_mem hmem)
    have hkept : SameSettings q (keptVariant progress.store current input) :=
      ⟨hsame.trackLots.symm, hsame.trackSerials.symm, hsame.quantityPolicy.symm⟩
    refine ⟨hkeeps.trans (writeSettings_keeps hwrite hq hkept), ?_⟩
    obtain ⟨-, rfl⟩ := writeSettings_eq_ok.mp hwrite
    exact hkits

theorem deactivateVariants_keeps (s : Store) {ids : List Uuid} (hnodup : ids.Nodup) :
    KeepsProducts s (deactivateVariants s ids) := by
  intro productId p hp
  by_cases hmem : productId ∈ ids
  · refine ⟨Product.deactivated p, ?_, ⟨rfl, rfl, rfl⟩⟩
    refine (find?_updateEach_of_mem (k := id) ?_ hmem).trans ?_
    · rwa [map_id]
    · rw [id_eq, hp]
      rfl
  · refine ⟨p, ?_, .refl p⟩
    exact (find?_updateEach_of_forall fun a ha (heq : a = productId) ↦
      hmem (heq ▸ ha)).trans hp

theorem updateProductVariants_keeps {dto : VariantsDto}
    (h : updateProductVariants s parentId dto = .ok s') :
    KeepsProducts s s' ∧ s'.documents = s.documents := by
  simp only [updateProductVariants, eq_ok] at h
  obtain ⟨parent, hfind, -, -, -, -, -, -, -, -, -, -, -, -, progress, hloop, hlast⟩ := h
  have hid : parent.id = parentId := key_of_find? hfind
  have hvariants := foldlM_invariant
    (P := fun p : VariantProgress ↦ KeepsProducts s p.store ∧ p.store.documents = s.documents)
    (fun input _ p p' hp hturn ↦ writeVariant_keeps hp.1 hp.2 hturn) ⟨.refl s, rfl⟩ hloop
  have hnodup : ((variantsOf s parentId).filter fun c ↦
      c.id ∉ progress.retainedIds ∧ c.active = true).map Product.id |>.Nodup :=
    (nodup_variantsOf s parentId).sublist (List.filter_sublist.map Product.id)
  have hkeeps := hvariants.1.trans (deactivateVariants_keeps progress.store hnodup)
  obtain ⟨q, hq, hsame⟩ := hkeeps parent.id parent (hid ▸ hfind)
  refine ⟨hkeeps.trans (writeSettings_keeps hlast hq
    ⟨hsame.trackLots.symm, hsame.trackSerials.symm, hsame.quantityPolicy.symm⟩), ?_⟩
  obtain ⟨-, rfl⟩ := writeSettings_eq_ok.mp hlast
  exact hvariants.2

theorem applyImportRow_keeps {row : ImportRow} (h : applyImportRow s row = .ok s') :
    KeepsProducts s s' ∧ s'.documents = s.documents := by
  cases row with
  | create drawn sku barcode cost active =>
    have hkeeps := insertProduct_keeps h
    obtain ⟨-, products, -, rfl⟩ := insertProduct_eq_ok h
    exact ⟨hkeeps, rfl⟩
  | update productId previewVersion barcode cost active =>
    simp only [applyImportRow, eq_ok] at h
    obtain ⟨current, hfind, -, -, hwrite⟩ := h
    have hwrite := writeProduct_eq_ok hwrite
    have hid : current.id = productId := key_of_find? hfind
    subst hid
    refine ⟨writeSettings_keeps hwrite hfind ⟨rfl, rfl, rfl⟩, ?_⟩
    obtain ⟨-, rfl⟩ := writeSettings_eq_ok.mp hwrite
    rfl

theorem mem_productsWithoutLots :
    p ∈ productsWithoutLots s ↔ p ∈ s.products.rows ∧ p.active = true ∧ p.trackLots = false := by
  rw [productsWithoutLots, (orderBy_perm _ _).mem_iff, mem_filter, Bool.and_eq_true,
    Bool.not_eq_true']

theorem nodup_productsWithoutLots (s : Store) : ((productsWithoutLots s).map Product.id).Nodup :=
  ((orderBy_perm _ _).map Product.id).nodup_iff.mpr
    (s.products.nodup.sublist ((filter_sublist).map Product.id))

theorem find?_createOpeningLots {version : ℕ} (h : createOpeningLots s version = .ok s')
    (hp : s.products.find? id = some p) :
    s'.products.find? id = some (if p ∈ productsWithoutLots s then p.withOpeningLot else p) := by
  have hid : p.id = id := key_of_find? hp
  subst hid
  rw [createOpeningLots_products h]
  by_cases hmem : p ∈ productsWithoutLots s
  · rw [if_pos hmem, find?_updateEach_of_mem (nodup_productsWithoutLots s) hmem, hp]
    rfl
  · rw [if_neg hmem, find?_updateEach_of_forall, hp]
    intro q hq heq
    have hsame : q = p := s.products.eq_of_mem_of_key_eq
      (mem_productsWithoutLots.mp hq).1 (mem_of_find? hp) heq
    exact hmem (hsame ▸ hq)

/-- **A change of method** tracks by lots what has an opening lot, and no other product. -/
theorem find?_changeValuationPolicy {input : ChangePolicyInput}
    (h : changeValuationPolicy s input = .ok s') (hp : s.products.find? id = some p) :
    s'.products.find? id = some (if s.policyHistory.find? input.idempotencyKey = none ∧
      input.targetMethod = .SPECIFIC_LOT ∧ p ∈ productsWithoutLots s
        then p.withOpeningLot else p) := by
  rw [changeValuationPolicy] at h
  cases hreplay : s.policyHistory.find? input.idempotencyKey with
  | some replay =>
    rw [hreplay] at h
    simp only [eq_ok] at h
    obtain ⟨-, -, rfl⟩ := h
    simp [hp]
  | none =>
    rw [hreplay] at h
    simp only [eq_ok] at h
    obtain ⟨-, -, -, -, -, -, t, ht, history, -, rfl⟩ := h
    rw [loadInventoryValuationPolicy_fst, migrateLots] at ht
    by_cases htarget : input.targetMethod = .SPECIFIC_LOT
    · rw [if_pos htarget] at ht
      rw [find?_createOpeningLots (p := p) ht hp]
      simp only [htarget, true_and]
      rfl
    · rw [if_neg htarget, pure_eq_ok] at ht
      rw [if_neg fun hall ↦ htarget hall.2.1, ← ht]
      exact hp

end Catalog

end UInventario
