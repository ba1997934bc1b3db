import UInventario.Foundations.Remainders
import UInventario.Foundations.Sums
import UInventario.Inventory.LayerLedger

/-!
# The value of the layers

An allocation keeps its value rounded to the scale of costs, a layer its quantity and its unit cost.
`FifoBook.allocated` adds up the allocations under any weight of their layer, quantity and cost, and
what a movement adds to it is known before the movement: `layerPieces` and `exitDraws`
(`moveLayers_allocated`, `consumeLayers_allocated`).

With the exact weight the sum is the value of the layers (`LayerWrites.valueOf`), with the rounded
one what the movements show (`LayerWrites.value_eq`); `FifoBook.bookedValue` is the latter over the
allocations of one layer.
-/

namespace UInventario

open Outcome Rounding Table List

variable {env : Env} {movements : Table Movement} {movement : Movement} {book book' : FifoBook}

/-! ### Sums over the allocations -/

/-- What the allocations add up to, under a weight of their layer, quantity and unit cost. -/
def FifoBook.allocated (book : FifoBook) (f : Uuid → ℤ → ℤ → ℤ) : ℤ :=
  book.allocations.total fun a ↦ f a.layerId a.quantityChange a.unitCost

/-- `SUM(value_change)` of the allocations of a layer. -/
def FifoBook.bookedValue (book : FifoBook) (layerId : Uuid) : ℤ :=
  book.allocations.total fun a ↦ if a.layerId = layerId then a.valueChange else 0

def exactWorth : Uuid → ℤ → ℤ → ℤ :=
  fun _ quantity unitCost ↦ quantity * unitCost

def roundedWorth : Uuid → ℤ → ℤ → ℤ :=
  fun _ quantity unitCost ↦ quantityTimesCost quantity unitCost

def worthOn (layerId : Uuid) : Uuid → ℤ → ℤ → ℤ :=
  fun id quantity unitCost ↦ if id = layerId then quantityTimesCost quantity unitCost else 0

variable {input : AllocationInput} {layers : Table FifoLayer}

theorem allocated_insert {allocations : Table FifoAllocation} {n : ℕ}
    (hinsert : book.allocations.insert (input.row env movement.id n) = some allocations)
    (f : Uuid → ℤ → ℤ → ℤ) :
    ({ layers := layers, allocations := allocations } : FifoBook).allocated f =
      book.allocated f + f input.layerId input.quantity input.unitCost :=
  total_insert hinsert _

variable {r : FifoBook × ℤ} {l : FifoLayer}

theorem insertAllocation_allocated
    (h : insertAllocation env { book with layers := layers } movement input = .ok r)
    (f : Uuid → ℤ → ℤ → ℤ) :
    r.1.allocated f = book.allocated f + f input.layerId input.quantity input.unitCost := by
  obtain ⟨-, allocations, hinsert, rfl⟩ := insertAllocation_eq_ok h
  exact total_insert hinsert _

theorem createLayer_allocated {input : LayerInput} (h : createLayer env book movement input = .ok r)
    (g : ℤ → ℤ → ℤ) :
    r.1.allocated (fun _ ↦ g) = book.allocated (fun _ ↦ g) + g input.quantity input.unitCost := by
  simp only [createLayer, eq_ok] at h
  obtain ⟨-, -, -, -, layers, -, h⟩ := h
  exact insertAllocation_allocated h _

/-! ### Books that are costed -/

/-- **What layers and allocations agree on**: unit costs and values. -/
structure FifoBook.Costed (book : FifoBook) : Prop where
  remaining_nonneg : ∀ l ∈ book.layers.rows, 0 ≤ l.remainingQuantity
  unitCost_nonneg : ∀ l ∈ book.layers.rows, 0 ≤ l.unitCost
  value : ∀ a ∈ book.allocations.rows,
    a.valueChange = quantityTimesCost a.quantityChange a.unitCost
  layer : ∀ a ∈ book.allocations.rows, ∃ l, book.layers.find? a.layerId = some l ∧
    l.unitCost = a.unitCost

theorem LayerChange.cost (hchange : LayerChange env movements movement book input layers)
    (hcosted : book.Costed) :
    ∃ layer, layers.find? input.layerId = some layer ∧ layer.unitCost = input.unitCost ∧
      0 ≤ layer.remainingQuantity ∧ 0 ≤ layer.unitCost := by
  cases hchange with
  | @draw old quantity mode _ hold _ _ hpos hle =>
    have hmem := mem_of_find? hold
    exact ⟨_, find?_setRemaining_self hold _, rfl, sub_nonneg.mpr hle,
      hcosted.unitCost_nonneg old hmem⟩
  | @restore source sourceMovement old quantity _ hsource _ _ hold hpos =>
    have hmem := mem_of_find? hold
    obtain ⟨l, hl, hcost⟩ := hcosted.layer source hsource
    obtain rfl := Option.some_inj.mp (hl.symm.trans hold)
    exact ⟨_, find?_setRemaining_self hold _, hcost,
      add_nonneg (hcosted.remaining_nonneg l hmem) hpos.le, hcosted.unitCost_nonneg l hmem⟩
  | @opened input layers _ hpos hinsert hcost =>
    exact ⟨_, find?_insert_self hinsert, rfl, hpos.le, hcost⟩

theorem LayerChange.mem (hchange : LayerChange env movements movement book input layers)
    (hl : l ∈ layers.rows) : l.id = input.layerId ∨ l ∈ book.layers.rows := by
  by_cases hid : l.id = input.layerId
  · exact .inl hid
  · have hfind := hchange.find?_of_ne hid
    rw [show l.id = Keyed.key l from rfl, find?_key_of_mem hl] at hfind
    exact .inr (mem_of_find? hfind.symm)

variable {quantity value : ℤ} {layer : FifoLayer}

/-- **A pass keeps the book costed.** -/
theorem LayerWrites.costed (hwrites : LayerWrites env movements movement book quantity value book')
    (hcosted : book.Costed) : book'.Costed := by
  induction hwrites with
  | done => exact hcosted
  | @change book₁ _ _ input layers allocations _ hchange _ hinsert ih =>
    obtain ⟨layer, hlayer, hcost, hremaining, hnonneg⟩ := hchange.cost ih
    have hlayers : ∀ l ∈ layers.rows, l = layer ∨ l ∈ book₁.layers.rows := by
      intro l hl
      rcases hchange.mem hl with hid | hmem
      · have hfind := find?_key_of_mem hl
        rw [show Keyed.key l = input.layerId from hid, hlayer] at hfind
        exact .inl (Option.some_inj.mp hfind).symm
      · exact .inr hmem
    refine ⟨fun l hl ↦ ?_, fun l hl ↦ ?_, fun a ha ↦ ?_, fun a ha ↦ ?_⟩
    · rcases hlayers l hl with rfl | hmem
      · exact hremaining
      · exact ih.remaining_nonneg l hmem
    · rcases hlayers l hl with rfl | hmem
      · exact hnonneg
      · exact ih.unitCost_nonneg l hmem
    · rcases (mem_insert hinsert).mp ha with ha | rfl
      · exact ih.value a ha
      · rfl
    · rcases (mem_insert hinsert).mp ha with ha | rfl
      · obtain ⟨l, hl, hunit⟩ := ih.layer a ha
        obtain ⟨remaining, hl'⟩ := hchange.find?_of_some hl
        exact ⟨_, hl', hunit⟩
      · exact ⟨layer, hlayer, hcost⟩

theorem FifoBook.Costed.bookedValue_eq (hcosted : book.Costed) (layerId : Uuid) :
    book.bookedValue layerId = book.allocated (worthOn layerId) := by
  refine total_congr fun a ha ↦ ?_
  show (if a.layerId = layerId then a.valueChange else 0) =
    if a.layerId = layerId then quantityTimesCost a.quantityChange a.unitCost else 0
  rw [hcosted.value a ha]

theorem FifoBook.Costed.valueOf_nonneg (hcosted : book.Costed) (productId : Uuid) :
    0 ≤ book.valueOf productId := by
  refine total_nonneg fun l hl ↦ ?_
  split
  · exact mul_nonneg (hcosted.remaining_nonneg l hl) (hcosted.unitCost_nonneg l hl)
  · exact le_rfl

/-! ### What a pass adds -/

theorem LayerWrites.value_eq
    (hwrites : LayerWrites env movements movement book quantity value book') :
    book'.allocated roundedWorth = book.allocated roundedWorth + value := by
  induction hwrites with
  | done => rw [add_zero]
  | @change book₁ _ value input layers allocations _ _ _ hinsert ih =>
    rw [allocated_insert hinsert, ih, add_assoc]
    rfl

theorem valueOf_setRemaining {layerId : Uuid}
    (hlayer : book.layers.find? layerId = some layer) (remaining : ℤ) (productId : Uuid) :
    (setRemaining book layerId remaining).valueOf productId = book.valueOf productId +
      if layer.productId = productId then (remaining - layer.remainingQuantity) * layer.unitCost
      else 0 := by
  rw [FifoBook.valueOf, FifoBook.valueOf, setRemaining, total_update _ hlayer]
  split <;> ring

theorem LayerChange.valueOf (hchange : LayerChange env movements movement book input layers)
    (hcosted : book.Costed) (hlayer : layers.find? input.layerId = some layer) (productId : Uuid) :
    ({ book with layers := layers } : FifoBook).valueOf productId = book.valueOf productId +
      if layer.productId = productId then input.quantity * input.unitCost else 0 := by
  cases hchange with
  | @draw old quantity mode _ hold =>
    have hfind := find?_setRemaining_self hold (old.remainingQuantity - quantity)
    obtain rfl := Option.some_inj.mp (hlayer.symm.trans hfind)
    refine (valueOf_setRemaining hold (old.remainingQuantity - quantity) productId).trans ?_
    rw [sub_sub_cancel_left]
  | @restore source sourceMovement old quantity _ hsource _ _ hold =>
    have hfind := find?_setRemaining_self hold (old.remainingQuantity + quantity)
    obtain rfl := Option.some_inj.mp (hlayer.symm.trans hfind)
    obtain ⟨l, hl, hcost⟩ := hcosted.layer source hsource
    obtain rfl := Option.some_inj.mp (hl.symm.trans hold)
    refine (valueOf_setRemaining hold (l.remainingQuantity + quantity) productId).trans ?_
    rw [add_sub_cancel_left, hcost]
  | @opened input layers _ _ hinsert =>
    obtain rfl := Option.some_inj.mp (hlayer.symm.trans (find?_insert_self hinsert))
    exact total_insert hinsert _

section

variable (hwrites : LayerWrites env movements movement book quantity value book') {id : Uuid}
include hwrites

/-- **The exact value of a pass** over layers of one product. -/
theorem LayerWrites.valueOf {place : Uuid} (hcosted : book.Costed)
    (hplaced : ∀ a ∈ book'.allocations.rows, a.movementId = movement.id →
      ∃ l, book'.layers.find? a.layerId = some l ∧ l.productId = place) (productId : Uuid) :
    book'.valueOf productId = book.valueOf productId +
      if place = productId then book'.allocated exactWorth - book.allocated exactWorth
      else 0 := by
  induction hwrites with
  | done => simp
  | @change book₁ _ _ input layers allocations hwrites hchange _ hinsert ih =>
    have hcosted₁ := hwrites.costed hcosted
    have hold := ih fun a ha hid ↦ by
      obtain ⟨l, hl, -⟩ := hcosted₁.layer a ha
      obtain ⟨l', hl', hproduct⟩ := hplaced a ((mem_insert hinsert).mpr (.inl ha)) hid
      obtain ⟨remaining, hkept⟩ := hchange.find?_of_some hl
      obtain rfl := Option.some_inj.mp (hl'.symm.trans hkept)
      exact ⟨l, hl, hproduct⟩
    obtain ⟨layer, hlayer, hproduct⟩ :=
      hplaced _ ((mem_insert hinsert).mpr (.inr rfl)) rfl
    have hvalue := hchange.valueOf hcosted₁ hlayer productId
    rw [hproduct] at hvalue
    rw [allocated_insert hinsert]
    refine hvalue.trans ?_
    rw [hold, exactWorth]
    split <;> ring

/-! ### Layers that are empty -/

theorem LayerWrites.find?_of_exit (hexit : movement.quantityChange < 0)
    (h : book'.layers.find? id = some l) : ∃ l₀, book.layers.find? id = some l₀ := by
  induction hwrites generalizing l with
  | done => exact ⟨l, h⟩
  | @change book₁ _ _ input layers _ _ hchange _ _ ih =>
    by_cases hid : id = input.layerId
    · obtain ⟨l₁, hl₁⟩ : ∃ l₁, book₁.layers.find? id = some l₁ := by
        cases hchange with
        | draw _ hlayer => exact ⟨_, (congrArg book₁.layers.find? hid).trans hlayer⟩
        | restore _ _ _ _ hlayer => exact ⟨_, (congrArg book₁.layers.find? hid).trans hlayer⟩
        | opened hentry => omega
      exact ih hl₁
    · exact ih ((hchange.find?_of_ne hid).symm.trans h)

/-- **A layer that is empty after an entry** was there as it is, and nothing has been booked on
it. -/
theorem LayerWrites.empty_of_entry (hcosted : book.Costed) (hentry : 0 < movement.quantityChange)
    (h : book'.layers.find? id = some l) (hempty : l.remainingQuantity = 0) :
    book.layers.find? id = some l ∧ book'.bookedValue id = book.bookedValue id := by
  induction hwrites generalizing l with
  | done => exact ⟨h, rfl⟩
  | @change book₁ _ _ input layers allocations hwrites hchange _ hinsert ih =>
    have hne : id ≠ input.layerId := by
      rintro rfl
      have hcosted₁ := hwrites.costed hcosted
      cases hchange with
      | draw hexit => omega
      | @restore _ _ layer quantity _ _ _ _ hlayer hpos =>
        rw [find?_setRemaining_self hlayer] at h
        obtain rfl := Option.some_inj.mp h
        have hnonneg := hcosted₁.remaining_nonneg layer (mem_of_find? hlayer)
        have hsum : layer.remainingQuantity + quantity = 0 := hempty
        omega
      | @opened input layers _ hpos hopened =>
        have hfind := find?_insert_self hopened
        obtain rfl := Option.some_inj.mp (h.symm.trans hfind)
        have hzero : input.quantity = 0 := hempty
        omega
    obtain ⟨hold, hbooked⟩ := ih ((hchange.find?_of_ne hne).symm.trans h) hempty
    refine ⟨hold, ?_⟩
    have hsame : FifoBook.bookedValue { layers := layers, allocations := allocations } id =
        book₁.bookedValue id + if input.layerId = id then _ else 0 :=
      total_insert hinsert _
    rw [hsame, if_neg (Ne.symm hne), add_zero, hbooked]

end

/-! ### What the loops will write -/

variable {f : Uuid → ℤ → ℤ → ℤ} {p' p : Progress}

theorem consumeLayer_allocated {mode : AllocationMode} {rest : List FifoLayer}
    (hf : ∀ id unitCost, f id 0 unitCost = 0) (hpositive : ∀ l ∈ rest, 0 < l.remainingQuantity)
    (hnonneg : 0 ≤ p.quantity) (h : rest.foldlM (consumeLayer env movement mode) p = .ok p') :
    p'.book.allocated f = p.book.allocated f +
      ((Greedy.draws FifoLayer.remainingQuantity p.quantity rest).map fun d ↦
        f d.1.id (-d.2) d.1.unitCost).sum := by
  induction rest generalizing p with
  | nil =>
    obtain rfl := foldlM_nil_eq_ok.mp h
    exact (add_zero _).symm
  | cons layer rest ih =>
    obtain ⟨p₁, h₁, h⟩ := foldlM_cons_eq_ok.mp h
    have hlayer := hpositive layer mem_cons_self
    -- a turn that writes nothing has nothing to draw
    have hturn : p₁.quantity = p.quantity - min layer.remainingQuantity p.quantity ∧
        p₁.book.allocated f = p.book.allocated f +
          f layer.id (-min layer.remainingQuantity p.quantity) layer.unitCost := by
      rw [consumeLayer] at h₁
      split at h₁
      case isTrue hzero =>
        obtain rfl := pure_eq_ok.mp h₁
        have hmin : min layer.remainingQuantity p.quantity = 0 := by omega
        rw [hmin, neg_zero, hf, add_zero, sub_zero]
        exact ⟨rfl, rfl⟩
      case isFalse =>
        dsimp only at h₁
        split at h₁
        case isTrue => omega
        case isFalse =>
          obtain ⟨r, hinsert, h₁⟩ := bind_eq_ok.mp h₁
          obtain rfl := pure_eq_ok.mp h₁
          exact ⟨rfl, insertAllocation_allocated hinsert f⟩
    rw [ih (fun l hl ↦ hpositive l (mem_cons_of_mem layer hl)) (by omega) h, hturn.2,
      hturn.1, Greedy.draws_cons, map_cons, sum_cons, add_assoc]

theorem consumeLayers_allocated {requested : ℤ} {source : LayerSource}
    (hf : ∀ id unitCost, f id 0 unitCost = 0) (hnonneg : 0 ≤ requested)
    (h : consumeLayers env movements book movement requested source = .ok r) :
    r.1.allocated f = book.allocated f +
      ((Greedy.draws FifoLayer.remainingQuantity requested (consumableLayers movements book
        movement.productId movement.locationId source)).map fun d ↦
          f d.1.id (-d.2) d.1.unitCost).sum := by
  simp only [consumeLayers, eq_ok] at h
  obtain ⟨p, hp, -, -, rfl⟩ := h
  exact consumeLayer_allocated hf (consumable_consumableLayers _ _ _ source).positive hnonneg hp

def leftToRestore (book : FifoBook) (source : SourceAllocation) : ℤ :=
  max 0 (-source.allocation.quantityChange - priorRestored book source.allocation.id)

variable {g : ℤ → ℤ → ℤ} {rest : List SourceAllocation} {s : Store} {expected : ℤ}

theorem restoreAllocation_allocated (hg : ∀ unitCost, g 0 unitCost = 0)
    (hnodup : (rest.map fun x ↦ x.allocation.id).Nodup)
    (hprior : ∀ x ∈ rest, priorRestored p.book x.allocation.id =
      priorRestored book x.allocation.id) (hnonneg : 0 ≤ p.quantity)
    (h : rest.foldlM (restoreAllocation env movement) p = .ok p') :
    p'.book.allocated (fun _ ↦ g) = p.book.allocated (fun _ ↦ g) +
      ((Greedy.draws (leftToRestore book) p.quantity rest).map fun d ↦
        g d.2 d.1.allocation.unitCost).sum := by
  induction rest generalizing p with
  | nil =>
    obtain rfl := foldlM_nil_eq_ok.mp h
    exact (add_zero _).symm
  | cons x rest ih =>
    obtain ⟨p₁, h₁, h⟩ := foldlM_cons_eq_ok.mp h
    obtain ⟨hnotin, hnodup⟩ := List.nodup_cons.mp hnodup
    have hx : -x.allocation.quantityChange - priorRestored p.book x.allocation.id =
        -x.allocation.quantityChange - priorRestored book x.allocation.id := by
      rw [hprior x mem_cons_self]
    have hturn : p₁.quantity = p.quantity - min (leftToRestore book x) p.quantity ∧
        p₁.book.allocated (fun _ ↦ g) = p.book.allocated (fun _ ↦ g) +
          g (min (leftToRestore book x) p.quantity) x.allocation.unitCost ∧
        ∀ y ∈ rest, priorRestored p₁.book y.allocation.id =
          priorRestored p.book y.allocation.id := by
      rw [restoreAllocation] at h₁
      rw [hx] at h₁
      split at h₁
      case isTrue hnone =>
        obtain rfl := pure_eq_ok.mp h₁
        have hmin : min (leftToRestore book x) p.quantity = 0 := by
          rw [leftToRestore]
          omega
        rw [hmin, hg, add_zero, sub_zero]
        exact ⟨rfl, rfl, fun _ _ ↦ rfl⟩
      case isFalse hsome =>
        simp only [eq_ok] at h₁
        obtain ⟨layer, -, -, -, r, hinsert, rfl⟩ := h₁
        have hmin : min (leftToRestore book x) p.quantity =
            min (-x.allocation.quantityChange - priorRestored book x.allocation.id)
              p.quantity := by
          rw [leftToRestore]
          omega
        rw [hmin]
        refine ⟨rfl, insertAllocation_allocated hinsert _, fun y hy ↦ ?_⟩
        obtain ⟨-, allocations, hrow, rfl⟩ := insertAllocation_eq_ok hinsert
        have hne : ¬some x.allocation.id = some y.allocation.id := fun hid ↦ by
          refine hnotin (List.mem_map.mpr ⟨y, hy, ?_⟩)
          exact (Option.some_inj.mp hid).symm
        refine (total_insert hrow _).trans ?_
        show _ + (if some x.allocation.id = some y.allocation.id then _ else 0) = _
        rw [if_neg hne, add_zero]
        rfl
    rw [ih hnodup (fun y hy ↦ (hturn.2.2 y hy).trans
      (hprior y (mem_cons_of_mem x hy))) (by omega) h, hturn.2.1, hturn.1,
      Greedy.draws_cons, map_cons, sum_cons, add_assoc]

theorem sourceAllocations_nodup (movements : Table Movement) (book : FifoBook)
    (p : Movement → Bool) :
    ((sourceAllocations movements book p).map fun x ↦ x.allocation.id).Nodup := by
  refine ((orderBy_perm SourceAllocation.before _).map _).nodup_iff.mpr ?_
  rw [map_filterMap]
  have hsub : ∀ {f : FifoAllocation → Option SourceAllocation},
      (∀ a x, f a = some x → x.allocation = a) → ∀ rows : List FifoAllocation,
        (rows.filterMap fun a ↦ (f a).map fun x ↦ x.allocation.id).Sublist
          (rows.map FifoAllocation.id) := by
    intro f hf rows
    induction rows with
    | nil => exact List.Sublist.slnil
    | cons a rows ih =>
      rw [filterMap_cons, map_cons]
      split
      · exact ih.cons _
      case h_2 id hid =>
        obtain ⟨x, hx, rfl⟩ := Option.map_eq_some_iff.mp hid
        rw [hf a x hx]
        exact ih.cons_cons _
  refine List.Nodup.sublist (hsub (fun a x hx ↦ ?_) book.allocations.rows) book.allocations.nodup
  split at hx
  · split at hx
    · exact (Option.some_inj.mp hx) ▸ rfl
    · cases hx
  · cases hx

section

variable (hg : ∀ unitCost, g 0 unitCost = 0)
include hg

theorem restoreSale_allocated
    (hnonneg : 0 ≤ expected) (h : restoreSale env movements book movement expected = .ok r) :
    r.1.allocated (fun _ ↦ g) = book.allocated (fun _ ↦ g) +
      ((Greedy.draws (leftToRestore book) expected
        (sourceAllocations movements book (isRestoreSource movement))).map fun d ↦
          g d.2 d.1.allocation.unitCost).sum := by
  simp only [restoreSale, eq_ok] at h
  obtain ⟨p, hp, -, -, rfl⟩ := h
  exact restoreAllocation_allocated hg (sourceAllocations_nodup _ _ _) (fun _ _ ↦ rfl) hnonneg hp

theorem transferAllocation_allocated
    (h : rest.foldlM (transferAllocation env movement) p = .ok p') :
    p'.book.allocated (fun _ ↦ g) = p.book.allocated (fun _ ↦ g) +
      (rest.map fun x ↦ g (max 0 (-x.allocation.quantityChange)) x.allocation.unitCost).sum := by
  induction rest generalizing p with
  | nil =>
    obtain rfl := foldlM_nil_eq_ok.mp h
    exact (add_zero _).symm
  | cons x rest ih =>
    obtain ⟨p₁, h₁, h⟩ := foldlM_cons_eq_ok.mp h
    have hturn : p₁.book.allocated (fun _ ↦ g) = p.book.allocated (fun _ ↦ g) +
        g (max 0 (-x.allocation.quantityChange)) x.allocation.unitCost := by
      rw [transferAllocation] at h₁
      split at h₁
      case isTrue hnone =>
        obtain rfl := pure_eq_ok.mp h₁
        rw [max_eq_left hnone, hg, add_zero]
      case isFalse hsome =>
        simp only [eq_ok] at h₁
        obtain ⟨r, hcreate, rfl⟩ := h₁
        rw [max_eq_right (not_le.mp hsome).le]
        exact createLayer_allocated hcreate g
    rw [ih h, hturn, map_cons, sum_cons, add_assoc]

theorem transferLayers_allocated (h : transferLayers env movements book movement expected = .ok r) :
    r.1.allocated (fun _ ↦ g) = book.allocated (fun _ ↦ g) +
      ((sourceAllocations movements book (isTransferSource movement)).map fun x ↦
        g (max 0 (-x.allocation.quantityChange)) x.allocation.unitCost).sum := by
  simp only [transferLayers, eq_ok] at h
  obtain ⟨p, hp, -, -, rfl⟩ := h
  exact transferAllocation_allocated hg hp

end

/-- The layers an exit will draw from, with what it will draw from each. -/
def exitDraws (s : Store) (movement : Movement) : List (FifoLayer × ℤ) :=
  if movement.quantityChange < 0 then
    match exitSource s movement with
    | .ok source => Greedy.draws FifoLayer.remainingQuantity (-movement.quantityChange)
        (consumableLayers s.movements s.fifo movement.productId movement.locationId source)
    | .error _ => []
  else []

/-- **The pieces of a movement**: what the allocations it will write have for quantity and cost. -/
def layerPieces (s : Store) (movement : Movement) (entryCost : ℤ) : List (ℤ × ℤ) :=
  if 0 < movement.quantityChange then
    match movement.type with
    | .SALE_VOID | .SALE_RETURN =>
      (Greedy.draws (leftToRestore s.fifo) movement.quantityChange
        (sourceAllocations s.movements s.fifo (isRestoreSource movement))).map fun d ↦
          (d.2, d.1.allocation.unitCost)
    | .TRANSFER_IN =>
      (sourceAllocations s.movements s.fifo (isTransferSource movement)).map fun x ↦
        (max 0 (-x.allocation.quantityChange), x.allocation.unitCost)
    | _ => [(movement.quantityChange, entryCost)]
  else (exitDraws s movement).map fun d ↦ (-d.2, d.1.unitCost)

theorem moveLayers_exit (hf : ∀ id unitCost, f id 0 unitCost = 0)
    (hexit : movement.quantityChange < 0) (h : moveLayers s movement = .ok r) :
    r.1.allocated f = s.fifo.allocated f +
      ((exitDraws s movement).map fun d ↦ f d.1.id (-d.2) d.1.unitCost).sum := by
  rw [moveLayers, if_neg (by omega), if_pos hexit] at h
  obtain ⟨source, hsource, h⟩ := bind_eq_ok.mp h
  rw [exitDraws, if_pos hexit, hsource]
  exact consumeLayers_allocated hf (by omega) h

theorem moveLayers_exit_remaining (hexit : movement.quantityChange < 0)
    (h : moveLayers s movement = .ok r) {P : FifoLayer → Bool} (hP : IgnoresRemaining P) :
    r.1.remaining P = s.fifo.remaining P -
      ((exitDraws s movement).map fun d ↦ if P d.1 then d.2 else 0).sum := by
  rw [moveLayers, if_neg (by omega), if_pos hexit] at h
  obtain ⟨source, hsource, h⟩ := bind_eq_ok.mp h
  rw [exitDraws, if_pos hexit, hsource]
  exact (consumeLayers_eq_ok hexit (by omega) h).2.2 P hP

theorem exitDraws_current (s : Store) (movement : Movement) :
    ((exitDraws s movement).map fun d ↦ d.1.id).Nodup ∧
      ∀ d ∈ exitDraws s movement, s.fifo.layers.find? d.1.id = some d.1 := by
  have hnil : (([] : List (FifoLayer × ℤ)).map fun d ↦ d.1.id).Nodup ∧
      ∀ d ∈ ([] : List (FifoLayer × ℤ)), s.fifo.layers.find? d.1.id = some d.1 :=
    ⟨nodup_nil, forall_mem_nil _⟩
  rw [exitDraws]
  split
  · split
    case h_1 source _ =>
      have hconsumable := consumable_consumableLayers s.movements s.fifo movement source
      generalize consumableLayers s.movements s.fifo movement.productId movement.locationId
        source = layers at hconsumable ⊢
      have hfst : (Greedy.draws FifoLayer.remainingQuantity (-movement.quantityChange) layers).map
          Prod.fst = layers := Greedy.map_fst_draws _ _
      constructor
      · have hids := hconsumable.nodup
        rw [← hfst, map_map] at hids
        exact hids
      · intro d hd
        refine hconsumable.current d.1 ?_
        rw [← hfst]
        exact mem_map_of_mem hd
    case h_2 => exact hnil
  · exact hnil

/-- **What a movement adds to the allocations** is the weight of its pieces. -/
theorem moveLayers_allocated {entryCost : ℤ} (hg : ∀ unitCost, g 0 unitCost = 0)
    (hcost : 0 < movement.quantityChange → ∀ unitCost currency,
      sourceCost s movement = .ok (unitCost, currency) → unitCost = entryCost)
    (h : moveLayers s movement = .ok r) :
    r.1.allocated (fun _ ↦ g) = s.fifo.allocated (fun _ ↦ g) +
      ((layerPieces s movement entryCost).map fun x ↦ g x.1 x.2).sum := by
  rcases lt_trichotomy movement.quantityChange 0 with hexit | hzero | hentry
  · rw [moveLayers_exit (fun _ ↦ hg) hexit h, layerPieces, if_neg (by omega), map_map]
    rfl
  · obtain rfl := moveLayers_zero hzero h
    rw [layerPieces, if_neg (by omega), exitDraws, if_neg (by omega)]
    exact (add_zero _).symm
  · rw [moveLayers, if_pos hentry] at h
    split at h
    case h_1 htype =>
      rw [layerPieces, if_pos hentry, htype, restoreSale_allocated hg hentry.le h, map_map]
      rfl
    case h_2 htype =>
      rw [layerPieces, if_pos hentry, htype, restoreSale_allocated hg hentry.le h, map_map]
      rfl
    case h_3 htype =>
      rw [layerPieces, if_pos hentry, htype, transferLayers_allocated hg h, map_map]
      rfl
    case h_4 hvoid hreturn htransfer =>
      obtain ⟨cost, hsource, h⟩ := bind_eq_ok.mp h
      obtain rfl := hcost hentry cost.1 cost.2 hsource
      rw [layerPieces, if_pos hentry]
      split
      case h_1 htype => exact absurd htype hvoid
      case h_2 htype => exact absurd htype hreturn
      case h_3 htype => exact absurd htype htransfer
      case h_4 =>
        rw [createLayer_allocated h g]
        simp

end UInventario
