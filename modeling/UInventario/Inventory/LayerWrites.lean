import UInventario.Foundations.Greedy
import UInventario.Inventory.FifoValuation

/-!
# What a movement does to the layers

Each turn of a loop of the FIFO pass draws from a layer of the movement's product and location, puts
back a part of an allocation of a source movement, or opens a layer. `LayerChange` lists the three
with everything the code has checked, `LayerWrites` is a sequence of them with the allocations they
write, and `moveLayers_writes` says that the pass of a movement is such a sequence, whose
allocations add up to its quantity. An invariant of the book is an induction over `LayerWrites`.

`consumeLayers_eq_ok`: an exit that succeeds has drawn greedily from layers that hold the quantity.
-/

namespace UInventario

open Outcome Table List

/-! ### One write -/

def MovementType.undoesSale : MovementType → Bool
  | .SALE_VOID | .SALE_RETURN => true
  | _ => false

/-- **One change of the layers**, with the allocation that records it. -/
inductive LayerChange (env : Env) (movements : Table Movement) (movement : Movement)
    (book : FifoBook) : AllocationInput → Table FifoLayer → Prop
  /-- An exit draws from a layer of its product and location. -/
  | draw {layer : FifoLayer} {quantity : ℤ} {mode : AllocationMode}
      (hexit : movement.quantityChange < 0)
      (hlayer : book.layers.find? layer.id = some layer)
      (hproduct : layer.productId = movement.productId)
      (hlocation : layer.locationId = movement.locationId)
      (hpos : 0 < quantity) (hle : quantity ≤ layer.remainingQuantity) :
      LayerChange env movements movement book
        { layerId := layer.id
          quantity := -quantity
          unitCost := layer.unitCost
          currency := layer.currency
          mode := mode }
        (setRemaining book layer.id (layer.remainingQuantity - quantity)).layers
  /-- A void or a return puts back what is left of an allocation of its source. -/
  | restore {source : FifoAllocation} {sourceMovement : Movement} {layer : FifoLayer}
      {quantity : ℤ} (hundoes : movement.type.undoesSale = true)
      (hsource : source ∈ book.allocations.rows)
      (hmovement : movements.find? source.movementId = some sourceMovement)
      (hrestores : isRestoreSource movement sourceMovement = true)
      (hlayer : book.layers.find? source.layerId = some layer) (hpos : 0 < quantity)
      (hle : quantity ≤ -source.quantityChange - priorRestored book source.id)
      (hroom : layer.remainingQuantity + quantity ≤ layer.originalQuantity) :
      LayerChange env movements movement book
        { layerId := source.layerId
          quantity := quantity
          unitCost := source.unitCost
          currency := source.currency
          mode := .RESTORE
          sourceAllocationId := some source.id }
        (setRemaining book source.layerId (layer.remainingQuantity + quantity)).layers
  /-- An entry opens a layer. -/
  | opened {input : LayerInput} {layers : Table FifoLayer}
      (hentry : 0 < movement.quantityChange) (hpos : 0 < input.quantity)
      (hinsert : book.layers.insert (input.row env movement book.layers.rows.length) =
        some layers) (hcost : 0 ≤ input.unitCost) :
      LayerChange env movements movement book
        { layerId := (input.row env movement book.layers.rows.length).id
          quantity := input.quantity
          unitCost := input.unitCost
          currency := input.currency
          mode := input.mode
          sourceAllocationId := input.sourceAllocationId }
        layers

/-- **A sequence of changes** of the layers by one movement, with the sums of its allocations. -/
inductive LayerWrites (env : Env) (movements : Table Movement) (movement : Movement)
    (book : FifoBook) : ℤ → ℤ → FifoBook → Prop
  | done : LayerWrites env movements movement book 0 0 book
  | change {book' : FifoBook} {quantity value : ℤ} {input : AllocationInput}
      {layers : Table FifoLayer} {allocations : Table FifoAllocation}
      (hwrites : LayerWrites env movements movement book quantity value book')
      (hchange : LayerChange env movements movement book' input layers)
      (hunique : ∀ a ∈ book'.allocations.rows,
        ¬(a.movementId = movement.id ∧ a.layerId = input.layerId))
      (hinsert : book'.allocations.insert
        (input.row env movement.id book'.allocations.rows.length) = some allocations) :
      LayerWrites env movements movement book (quantity + input.quantity)
        (value + quantityTimesCost input.quantity input.unitCost)
        { layers := layers, allocations := allocations }

variable {env : Env} {movements : Table Movement} {movement : Movement} {book book' : FifoBook}

variable {input : AllocationInput} {r : FifoBook × ℤ}

theorem insertAllocation_eq_ok (h : insertAllocation env book movement input = .ok r) :
    (∀ a ∈ book.allocations.rows, ¬(a.movementId = movement.id ∧ a.layerId = input.layerId)) ∧
      ∃ allocations, book.allocations.insert
        (input.row env movement.id book.allocations.rows.length) = some allocations ∧
        r = ({ book with allocations := allocations },
          quantityTimesCost input.quantity input.unitCost) := by
  simp only [insertAllocation, eq_ok] at h
  obtain ⟨-, -, -, hunique, allocations, hinsert, rfl⟩ := h
  exact ⟨hunique, allocations, hinsert, rfl⟩

variable {quantity : ℤ} {layers : Table FifoLayer} {value : ℤ}

theorem LayerWrites.insertAllocation
    (hwrites : LayerWrites env movements movement book quantity value book')
    (hchange : LayerChange env movements movement book' input layers)
    (h : insertAllocation env { book' with layers := layers } movement input = .ok r) :
    r.2 = quantityTimesCost input.quantity input.unitCost ∧ r.1.layers = layers ∧
      LayerWrites env movements movement book (quantity + input.quantity) (value + r.2) r.1 := by
  obtain ⟨hunique, allocations, hinsert, rfl⟩ := insertAllocation_eq_ok h
  exact ⟨rfl, rfl, hwrites.change hchange hunique hinsert⟩

theorem LayerWrites.createLayer {input : LayerInput}
    (hwrites : LayerWrites env movements movement book quantity value book')
    (hentry : 0 < movement.quantityChange) (h : createLayer env book' movement input = .ok r) :
    r.2 = quantityTimesCost input.quantity input.unitCost ∧
      LayerWrites env movements movement book (quantity + input.quantity) (value + r.2) r.1 := by
  simp only [UInventario.createLayer, eq_ok] at h
  obtain ⟨-, -, -, ⟨hpos, hcost⟩, layers, hinsert, h⟩ := h
  obtain ⟨hvalue, -, hwrites⟩ := hwrites.insertAllocation (.opened hentry hpos hinsert hcost) h
  exact ⟨hvalue, hwrites⟩

/-! ### The effect of a write on what remains -/

/-- `P` does not look at what remains of a layer. -/
def IgnoresRemaining (P : FifoLayer → Bool) : Prop :=
  ∀ l remaining, P { l with remainingQuantity := remaining } = P l

variable {layerId : Uuid} {layer : FifoLayer} {P : FifoLayer → Bool}

theorem find?_setRemaining_self (hlayer : book.layers.find? layerId = some layer) (remaining : ℤ) :
    (setRemaining book layerId remaining).layers.find? layerId =
      some { layer with remainingQuantity := remaining } := by
  rw [setRemaining, find?_update_self, hlayer]
  rfl

theorem find?_setRemaining_of_ne {layerId' : Uuid} (hne : layerId' ≠ layerId) (remaining : ℤ) :
    (setRemaining book layerId remaining).layers.find? layerId' = book.layers.find? layerId' := by
  rw [setRemaining, find?_update_of_ne hne]

theorem remaining_setRemaining (hP : IgnoresRemaining P)
    (hlayer : book.layers.find? layerId = some layer) (remaining : ℤ) :
    (setRemaining book layerId remaining).remaining P =
      book.remaining P + if P layer then remaining - layer.remainingQuantity else 0 := by
  rw [FifoBook.remaining, FifoBook.remaining, setRemaining]
  rw [total_update _ hlayer, hP]
  split <;> simp

theorem LayerChange.remaining (hchange : LayerChange env movements movement book input layers)
    (hP : IgnoresRemaining P) : ∃ layer, layers.find? input.layerId = some layer ∧
      ({ book with layers := layers } : FifoBook).remaining P =
        book.remaining P + if P layer then input.quantity else 0 := by
  cases hchange with
  | @draw layer quantity mode _ hlayer =>
    refine ⟨_, find?_setRemaining_self hlayer _, ?_⟩
    refine (remaining_setRemaining hP hlayer (layer.remainingQuantity - quantity)).trans ?_
    rw [hP layer (layer.remainingQuantity - quantity)]
    split <;> simp
  | @restore source sourceMovement layer quantity _ _ _ _ hlayer =>
    refine ⟨_, find?_setRemaining_self hlayer _, ?_⟩
    refine (remaining_setRemaining hP hlayer (layer.remainingQuantity + quantity)).trans ?_
    rw [hP layer (layer.remainingQuantity + quantity)]
    split <;> simp
  | @opened input layers _ _ hinsert =>
    refine ⟨input.row env movement book.layers.rows.length, find?_insert_self hinsert, ?_⟩
    exact total_insert hinsert _

theorem LayerChange.find?_of_ne (hchange : LayerChange env movements movement book input layers)
    (hne : layerId ≠ input.layerId) : layers.find? layerId = book.layers.find? layerId := by
  cases hchange with
  | draw | restore => exact find?_setRemaining_of_ne hne _
  | opened _ _ hinsert => exact find?_insert_of_ne hinsert (Ne.symm hne)

/-! ### The loop of an exit -/

structure Consumable (movement : Movement) (book : FifoBook) (rest : List FifoLayer) : Prop where
  nodup : (rest.map FifoLayer.id).Nodup
  current : ∀ l ∈ rest, book.layers.find? l.id = some l
  product : ∀ l ∈ rest, l.productId = movement.productId
  location : ∀ l ∈ rest, l.locationId = movement.locationId
  positive : ∀ l ∈ rest, 0 < l.remainingQuantity

theorem consumable_consumableLayers (movements : Table Movement) (book : FifoBook)
    (movement : Movement) (source : LayerSource) :
    Consumable movement book
      (consumableLayers movements book movement.productId movement.locationId source) := by
  have hmem : ∀ l ∈ consumableLayers movements book movement.productId movement.locationId source,
      l ∈ book.layers.rows ∧ l.productId = movement.productId ∧
        l.locationId = movement.locationId ∧ 0 < l.remainingQuantity := by
    intro l hl
    rw [consumableLayers, mem_orderBy, mem_filter] at hl
    simp only [decide_eq_true_eq] at hl
    exact ⟨hl.1, hl.2.1, hl.2.2.1, hl.2.2.2.1⟩
  refine ⟨?_, fun l hl ↦ find?_key_of_mem (hmem l hl).1, fun l hl ↦ (hmem l hl).2.1,
    fun l hl ↦ (hmem l hl).2.2.1, fun l hl ↦ (hmem l hl).2.2.2⟩
  have hfilter : ((book.layers.rows.filter fun l ↦ decide (l.productId = movement.productId ∧
      l.locationId = movement.locationId ∧ 0 < l.remainingQuantity ∧
        source.admits movements l = true)).map FifoLayer.id).Nodup :=
    List.Nodup.sublist (filter_sublist.map _) book.layers.nodup
  exact ((orderBy_perm FifoLayer.consumedBefore _).map FifoLayer.id).nodup_iff.mpr hfilter

variable {rest : List FifoLayer}

theorem Consumable.tail (h : Consumable movement book (layer :: rest))
    (hlayers : ∀ id, id ≠ layer.id → book'.layers.find? id = book.layers.find? id) :
    Consumable movement book' rest := by
  obtain ⟨hnotin, hnodup⟩ := nodup_cons.mp h.nodup
  refine ⟨hnodup, fun l hl ↦ ?_, fun l hl ↦ h.product l (mem_cons_of_mem _ hl),
    fun l hl ↦ h.location l (mem_cons_of_mem _ hl),
    fun l hl ↦ h.positive l (mem_cons_of_mem _ hl)⟩
  have hne : l.id ≠ layer.id := fun hid ↦ hnotin (hid ▸ mem_map_of_mem hl)
  exact (hlayers l.id hne).trans (h.current l (mem_cons_of_mem _ hl))

variable {p p' : Progress} {s : Store} {expected : ℤ}

section

variable
  (hwrites : LayerWrites env movements movement book (quantity + p.quantity) p.totalValue p.book)
  (hexit : movement.quantityChange < 0) {mode : AllocationMode}
include hwrites hexit

theorem consumeLayer_eq_ok (hconsumable : Consumable movement p.book (layer :: rest))
    (hnonneg : 0 ≤ p.quantity) (h : consumeLayer env movement mode p layer = .ok p') :
    LayerWrites env movements movement book (quantity + p'.quantity) p'.totalValue p'.book ∧
      Consumable movement p'.book rest ∧
      p'.quantity = p.quantity - min layer.remainingQuantity p.quantity ∧
      ∀ P, IgnoresRemaining P → p'.book.remaining P =
        p.book.remaining P - if P layer then min layer.remainingQuantity p.quantity else 0 := by
  have hpositive := hconsumable.positive layer mem_cons_self
  have hlayer := hconsumable.current layer mem_cons_self
  rw [consumeLayer] at h
  split at h
  case isTrue hzero =>
    obtain rfl := pure_eq_ok.mp h
    have hmin : min layer.remainingQuantity p.quantity = 0 := by omega
    refine ⟨hwrites, hconsumable.tail fun _ _ ↦ rfl, by omega, fun P _ ↦ ?_⟩
    rw [hmin]
    simp
  case isFalse hwanted =>
    dsimp only at h
    split at h
    case isTrue => omega
    case isFalse =>
      obtain ⟨r, hinsert, h⟩ := bind_eq_ok.mp h
      obtain rfl := pure_eq_ok.mp h
      have hdraw : LayerChange env movements movement p.book
          { layerId := layer.id
            quantity := -min layer.remainingQuantity p.quantity
            unitCost := layer.unitCost
            currency := layer.currency
            mode := mode } _ :=
        .draw hexit hlayer (hconsumable.product layer mem_cons_self)
          (hconsumable.location layer mem_cons_self) (by omega) (min_le_left _ _)
      obtain ⟨hvalue, hlayers, hwrites'⟩ := hwrites.insertAllocation hdraw hinsert
      refine ⟨?_, ?_, rfl, fun P hP ↦ ?_⟩
      · have hsum : quantity + p.quantity + -min layer.remainingQuantity p.quantity =
            quantity + (p.quantity - min layer.remainingQuantity p.quantity) := by ring
        exact hsum ▸ hwrites'
      · refine hconsumable.tail fun id hne ↦ ?_
        rw [hlayers]
        exact hdraw.find?_of_ne hne
      · rw [show r.1.remaining P = (setRemaining p.book layer.id
            (layer.remainingQuantity - min layer.remainingQuantity p.quantity)).remaining P by
          rw [FifoBook.remaining, hlayers]
          rfl]
        rw [remaining_setRemaining hP hlayer]
        split <;> omega

/-- **The loop of an exit** draws greedily. -/
theorem consumeLayer_foldlM (hconsumable : Consumable movement p.book rest)
    (hnonneg : 0 ≤ p.quantity) (h : rest.foldlM (consumeLayer env movement mode) p = .ok p') :
    LayerWrites env movements movement book (quantity + p'.quantity) p'.totalValue p'.book ∧
      p'.quantity = Greedy.unmet FifoLayer.remainingQuantity p.quantity rest ∧
      ∀ P, IgnoresRemaining P → p'.book.remaining P = p.book.remaining P -
        Greedy.drawnFrom FifoLayer.remainingQuantity P p.quantity rest := by
  induction rest generalizing p with
  | nil =>
    obtain rfl := foldlM_nil_eq_ok.mp h
    exact ⟨hwrites, rfl, fun P _ ↦ by simp⟩
  | cons layer rest ih =>
    obtain ⟨p₁, h₁, h⟩ := foldlM_cons_eq_ok.mp h
    obtain ⟨hwrites₁, hconsumable₁, hquantity₁, hremaining₁⟩ :=
      consumeLayer_eq_ok hwrites hexit hconsumable hnonneg h₁
    obtain ⟨hwrites', hquantity', hremaining'⟩ := ih hwrites₁ hconsumable₁ (by omega) h
    refine ⟨hwrites', ?_, fun P hP ↦ ?_⟩
    · rw [hquantity', hquantity₁, Greedy.unmet_cons]
    · rw [hremaining' P hP, hremaining₁ P hP, hquantity₁, Greedy.drawnFrom_cons]
      ring

end

theorem consumeLayers_eq_ok {requested : ℤ} {source : LayerSource}
    (hexit : movement.quantityChange < 0) (hnonneg : 0 ≤ requested)
    (h : consumeLayers env movements book movement requested source = .ok r) :
    LayerWrites env movements movement book (-requested) r.2 r.1 ∧
      requested ≤ ((consumableLayers movements book movement.productId movement.locationId
        source).map FifoLayer.remainingQuantity).sum ∧
      ∀ P, IgnoresRemaining P → r.1.remaining P = book.remaining P -
        Greedy.drawnFrom FifoLayer.remainingQuantity P requested
          (consumableLayers movements book movement.productId movement.locationId source) := by
  simp only [consumeLayers, eq_ok] at h
  obtain ⟨p, hp, -, hzero, rfl⟩ := h
  have hstart : LayerWrites env movements movement book (-requested + requested) 0 book := by
    rw [neg_add_cancel]
    exact .done
  obtain ⟨hwrites, hquantity, hremaining⟩ :=
    consumeLayer_foldlM hstart hexit (consumable_consumableLayers _ _ _ source) hnonneg hp
  refine ⟨?_, ?_, hremaining⟩
  · rw [hzero, add_zero] at hwrites
    exact hwrites
  · have hpositive := (consumable_consumableLayers movements book movement source).positive
    exact (Greedy.unmet_eq_zero_iff (fun l hl ↦ (hpositive l hl).le) hnonneg).mp
      (hquantity.symm.trans hzero)

/-! ### The loops of the entries -/

theorem LayerWrites.allocations
    (hwrites : LayerWrites env movements movement book quantity value book') :
    ∃ new, book'.allocations.rows = book.allocations.rows ++ new ∧
      ∀ a ∈ new, a.movementId = movement.id := by
  induction hwrites with
  | done => exact ⟨[], by simp, by simp⟩
  | @change book' _ _ input _ allocations _ _ _ hinsert ih =>
    obtain ⟨new, hrows, hnew⟩ := ih
    refine ⟨new ++ [input.row env movement.id book'.allocations.rows.length], ?_, ?_⟩
    · rw [(insert_eq_some hinsert).2, hrows, append_assoc]
    · intro a ha
      rcases mem_append.mp ha with ha | ha
      · exact hnew a ha
      · rw [mem_singleton.mp ha]
        rfl

/-- **The loop of a void or a return.** -/
theorem restoreAllocation_foldlM {rest : List SourceAllocation}
    (hwrites : LayerWrites env movements movement book (quantity - p.quantity) p.totalValue p.book)
    (hundoes : movement.type.undoesSale = true)
    (hsources : ∀ x ∈ rest, x ∈ sourceAllocations movements book (isRestoreSource movement))
    (h : rest.foldlM (restoreAllocation env movement) p = .ok p') :
    LayerWrites env movements movement book (quantity - p'.quantity) p'.totalValue p'.book := by
  induction rest generalizing p with
  | nil =>
    obtain rfl := foldlM_nil_eq_ok.mp h
    exact hwrites
  | cons x rest ih =>
    obtain ⟨p₁, h₁, h⟩ := foldlM_cons_eq_ok.mp h
    refine ih ?_ (fun y hy ↦ hsources y (mem_cons_of_mem x hy)) h
    rw [restoreAllocation] at h₁
    split at h₁
    case isTrue =>
      obtain rfl := pure_eq_ok.mp h₁
      exact hwrites
    case isFalse hpos =>
      simp only [eq_ok] at h₁
      obtain ⟨layer, hlayer, -, hroom, r, hinsert, rfl⟩ := h₁
      obtain ⟨hmem, ⟨_, hmovement, -, hrestores⟩, -⟩ :=
        mem_sourceAllocations.mp (hsources x mem_cons_self)
      obtain ⟨new, hrows, -⟩ := hwrites.allocations
      have hsource : x.allocation ∈ p.book.allocations.rows := by
        rw [hrows]
        exact mem_append_left new hmem
      have hchange :=
        @LayerChange.restore env _ _ _ _ _ _ _ hundoes hsource hmovement hrestores hlayer
        (not_le.mp hpos) (min_le_left _ _) hroom
      obtain ⟨-, -, hwrites'⟩ := hwrites.insertAllocation hchange hinsert
      have hsum : quantity - p.quantity +
          min (-x.allocation.quantityChange - priorRestored p.book x.allocation.id) p.quantity =
          quantity - (p.quantity -
            min (-x.allocation.quantityChange - priorRestored p.book x.allocation.id)
              p.quantity) := by ring
      exact hsum ▸ hwrites'

theorem restoreSale_writes (hundoes : movement.type.undoesSale = true)
    (h : restoreSale env movements book movement expected = .ok r) :
    LayerWrites env movements movement book expected r.2 r.1 := by
  simp only [restoreSale, eq_ok] at h
  obtain ⟨p, hp, -, hzero, rfl⟩ := h
  have hstart : LayerWrites env movements movement book (expected - expected) 0 book := by
    rw [sub_self]
    exact .done
  have hwrites := restoreAllocation_foldlM hstart hundoes (fun _ hx ↦ hx) hp
  rw [hzero, sub_zero] at hwrites
  exact hwrites

/-- **The loop of an arrival.** -/
theorem transferAllocation_foldlM {rest : List SourceAllocation}
    (hwrites : LayerWrites env movements movement book p.quantity p.totalValue p.book)
    (hentry : 0 < movement.quantityChange)
    (h : rest.foldlM (transferAllocation env movement) p = .ok p') :
    LayerWrites env movements movement book p'.quantity p'.totalValue p'.book := by
  refine foldlM_invariant
    (P := fun p ↦ LayerWrites env movements movement book p.quantity p.totalValue p.book)
    (fun x _ p p' hwrites hstep ↦ ?_) hwrites h
  rw [transferAllocation] at hstep
  split at hstep
  · obtain rfl := pure_eq_ok.mp hstep
    exact hwrites
  · simp only [eq_ok] at hstep
    obtain ⟨r, hcreate, rfl⟩ := hstep
    exact (hwrites.createLayer hentry hcreate).2

theorem transferLayers_writes (hentry : 0 < movement.quantityChange)
    (h : transferLayers env movements book movement expected = .ok r) :
    LayerWrites env movements movement book expected r.2 r.1 := by
  simp only [transferLayers, eq_ok] at h
  obtain ⟨p, hp, -, hexpected, rfl⟩ := h
  exact hexpected ▸ transferAllocation_foldlM .done hentry hp

/-! ### The movement -/

/-- **What a movement does to the layers**: writes whose allocations add up to its quantity. -/
theorem moveLayers_writes (h : moveLayers s movement = .ok r) :
    LayerWrites s.env s.movements movement s.fifo movement.quantityChange r.2 r.1 := by
  rw [moveLayers] at h
  split at h
  case isTrue hentry =>
    split at h
    case h_1 htype => exact restoreSale_writes (by rw [htype]; rfl) h
    case h_2 htype => exact restoreSale_writes (by rw [htype]; rfl) h
    case h_3 => exact transferLayers_writes hentry h
    case h_4 =>
      obtain ⟨cost, -, h⟩ := bind_eq_ok.mp h
      obtain ⟨-, hwrites⟩ := LayerWrites.done.createLayer hentry h
      simpa using hwrites
  case isFalse =>
    split at h
    case isTrue hexit =>
      obtain ⟨source, -, h⟩ := bind_eq_ok.mp h
      have hwrites := (consumeLayers_eq_ok hexit (by omega) h).1
      rwa [neg_neg] at hwrites
    case isFalse =>
      obtain rfl := pure_eq_ok.mp h
      have hzero : movement.quantityChange = 0 := by omega
      rw [hzero]
      exact .done

theorem moveLayers_zero (hzero : movement.quantityChange = 0)
    (h : moveLayers s movement = .ok r) : r = (s.fifo, 0) := by
  rw [moveLayers, hzero] at h
  exact (pure_eq_ok.mp h).symm

theorem moveLayers_entry (hentry : 0 < movement.quantityChange)
    (hvoid : movement.type ≠ .SALE_VOID) (hreturn : movement.type ≠ .SALE_RETURN)
    (htransfer : movement.type ≠ .TRANSFER_IN) (h : moveLayers s movement = .ok r) :
    ∃ unitCost currency, sourceCost s movement = .ok (unitCost, currency) ∧
      r.2 = quantityTimesCost movement.quantityChange unitCost := by
  rw [moveLayers, if_pos hentry] at h
  split at h
  case h_1 htype => exact absurd htype hvoid
  case h_2 htype => exact absurd htype hreturn
  case h_3 htype => exact absurd htype htransfer
  case h_4 =>
    obtain ⟨cost, hcost, h⟩ := bind_eq_ok.mp h
    have hstart : LayerWrites s.env s.movements movement s.fifo 0 0 s.fifo := .done
    obtain ⟨hvalue, -⟩ := hstart.createLayer hentry h
    exact ⟨cost.1, cost.2, hcost, hvalue⟩

end UInventario
