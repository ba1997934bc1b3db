import UInventario.Inventory.StockWrites

/-!
# The layers hold what the journal says

The layers of a product at a location hold the sum of the movements there, and the valuation of a
product the sum of its movements, in every store that is reached by postings (`Store.Booked`).

The one pass that might touch other layers is the restoration of a void or a return, which looks for
its source by the sale, its line and the location. What it adds to the layers of another product is
missing from its own, and `updateMovementSummary` compares exactly that. `LayerWrites.stray`
measures the amount that went astray.
-/

namespace UInventario

open Outcome Table Option

variable {env : Env} {movements : Table Movement} {movement : Movement} {book book' : FifoBook}
  {layers : Table FifoLayer} {input : AllocationInput} {quantity value : ℤ} {l : FifoLayer}
  {productId id : Uuid}

/-! ### Where a change takes place -/

def FifoBook.Placed (book : FifoBook) (a : FifoAllocation) (productId locationId : Uuid) : Prop :=
  ∃ l, book.layers.find? a.layerId = some l ∧ l.productId = productId ∧ l.locationId = locationId

theorem LayerChange.find?_of_some (hchange : LayerChange env movements movement book input layers)
    (h : book.layers.find? id = some l) :
    ∃ remaining, layers.find? id = some { l with remainingQuantity := remaining } := by
  by_cases hid : id = input.layerId
  · cases hchange with
    | @draw layer quantity mode _ hlayer =>
      have hsame : l = layer := some_inj.mp (h.symm.trans (hid ▸ hlayer))
      exact ⟨_, by rw [hid, hsame]; exact find?_setRemaining_self hlayer _⟩
    | @restore source sourceMovement layer quantity _ _ _ _ hlayer =>
      have hsame : l = layer := some_inj.mp (h.symm.trans (hid ▸ hlayer))
      exact ⟨_, by rw [hid, hsame]; exact find?_setRemaining_self hlayer _⟩
    | opened _ _ hinsert => exact ⟨l.remainingQuantity, find?_insert_of_some hinsert h⟩
  · exact ⟨l.remainingQuantity, (hchange.find?_of_ne hid).trans h⟩

theorem LayerWrites.find?_of_some
    (hwrites : LayerWrites env movements movement book quantity value book')
    (h : book.layers.find? id = some l) :
    ∃ remaining, book'.layers.find? id = some { l with remainingQuantity := remaining } := by
  induction hwrites with
  | done => exact ⟨l.remainingQuantity, h⟩
  | change _ hchange _ _ ih =>
    obtain ⟨remaining, hfind⟩ := ih
    obtain ⟨remaining', hfind'⟩ := hchange.find?_of_some hfind
    exact ⟨remaining', hfind'⟩

theorem LayerWrites.placed
    (hwrites : LayerWrites env movements movement book quantity value book') {a : FifoAllocation}
    {locationId : Uuid} (h : book.Placed a productId locationId) :
    book'.Placed a productId locationId := by
  obtain ⟨l, hfind, hproduct, hlocation⟩ := h
  obtain ⟨remaining, hfind'⟩ := hwrites.find?_of_some hfind
  exact ⟨_, hfind', hproduct, hlocation⟩

/-- **Where a change takes place**: at the movement's own layers, or at an allocation's. -/
theorem LayerChange.place
    (hchange : LayerChange env movements movement book input layers) {layer : FifoLayer}
    (hlayer : layers.find? input.layerId = some layer) :
    (layer.productId = movement.productId ∧ layer.locationId = movement.locationId) ∨
      0 < input.quantity ∧ movement.type.undoesSale = true ∧
        ∃ source ∈ book.allocations.rows, source.layerId = input.layerId ∧
          ∃ sourceMovement, movements.find? source.movementId = some sourceMovement ∧
            isRestoreSource movement sourceMovement = true := by
  cases hchange with
  | @draw old quantity mode _ hold hproduct hlocation =>
    have hfind := find?_setRemaining_self hold (old.remainingQuantity - quantity)
    obtain rfl := some_inj.mp (hlayer.symm.trans hfind)
    exact .inl ⟨hproduct, hlocation⟩
  | restore hundoes hsource hmovement hrestores _ hpos =>
    exact .inr ⟨hpos, hundoes, _, hsource, rfl, _, hmovement, hrestores⟩
  | opened _ _ hinsert =>
    obtain rfl := some_inj.mp (hlayer.symm.trans (find?_insert_self hinsert))
    exact .inl ⟨rfl, rfl⟩

theorem isRestoreSource_eq_true {m : Movement} (h : isRestoreSource movement m = true) :
    m.type = .SALE ∧ m.locationId = movement.locationId := by
  simp only [isRestoreSource, Bool.and_eq_true, decide_eq_true_eq] at h
  exact ⟨h.1.2, h.1.1.2⟩

/-! ### A whole pass -/

structure LayerWrites.InPlace (movement : Movement) (book : FifoBook) (quantity : ℤ)
    (book' : FifoBook) : Prop where
  remaining : ∀ w : Uuid → Uuid → Bool,
    book'.remaining (fun l ↦ w l.productId l.locationId) =
      book.remaining (fun l ↦ w l.productId l.locationId) +
        if w movement.productId movement.locationId then quantity else 0
  placed : ∀ a ∈ book'.allocations.rows, a.movementId = movement.id →
    book'.Placed a movement.productId movement.locationId
  others : ∀ id l, book.layers.find? id = some l → l.productId ≠ movement.productId →
    book'.layers.find? id = some l

theorem ignoresRemaining_pair (w : Uuid → Uuid → Bool) :
    IgnoresRemaining fun l ↦ w l.productId l.locationId :=
  fun _ _ ↦ rfl

/-- **What goes astray in a pass** is missing from the layers of the movement's product. -/
theorem LayerWrites.stray (hwrites : LayerWrites env movements movement book quantity value book')
    (hrow : ∀ m, movements.find? movement.id = some m → m.type = movement.type)
    (hfresh : ∀ a ∈ book.allocations.rows, a.movementId ≠ movement.id)
    (hplaced : ∀ a ∈ book.allocations.rows, ∀ m, movements.find? a.movementId = some m →
      book.Placed a m.productId m.locationId) :
    ∃ stray, 0 ≤ stray ∧ book'.remainingOf movement.productId =
        book.remainingOf movement.productId + (quantity - stray) ∧
      (stray = 0 → InPlace movement book quantity book') := by
  induction hwrites with
  | done =>
    refine ⟨0, le_rfl, by ring, fun _ ↦ ⟨fun w ↦ by simp, fun a ha hid ↦ ?_, fun _ _ h _ ↦ h⟩⟩
    exact absurd hid (hfresh a ha)
  | @change book₁ quantity value input layers allocations hwrites hchange _ hinsert ih =>
    obtain ⟨stray, hstray, hremaining, hplace⟩ := ih
    obtain ⟨layer, hlayer, hlayers⟩ : ∃ layer, layers.find? input.layerId = some layer ∧
        ∀ P, IgnoresRemaining P → ({ layers := layers, allocations := allocations } :
          FifoBook).remaining P = book₁.remaining P + if P layer then input.quantity else 0 := by
      obtain ⟨layer, hlayer, -⟩ := hchange.remaining (P := fun _ ↦ true) fun _ _ ↦ rfl
      refine ⟨layer, hlayer, fun P hP ↦ ?_⟩
      obtain ⟨layer', hlayer', hsum⟩ := hchange.remaining hP
      obtain rfl := some_inj.mp (hlayer.symm.trans hlayer')
      exact hsum
    have hown := hlayers (fun l ↦ decide (l.productId = movement.productId)) fun _ _ ↦ rfl
    -- the layer is at the movement's location, whatever its product
    have hwhere : layer.locationId = movement.locationId ∧
        (layer.productId = movement.productId ∨ 0 < input.quantity) := by
      rcases hchange.place hlayer with ⟨hproduct, hlocation⟩ |
        ⟨hpos, hundoes, source, hsource, hid, m, hm, hrestores⟩
      · exact ⟨hlocation, .inl hproduct⟩
      · obtain ⟨htype, hlocation⟩ := isRestoreSource_eq_true hrestores
        have hold : source ∈ book.allocations.rows := by
          obtain ⟨new, hrows, hnew⟩ := hwrites.allocations
          rw [hrows] at hsource
          refine (List.mem_append.mp hsource).resolve_right fun hmem ↦ ?_
          rw [hnew source hmem] at hm
          rw [← hrow m hm, htype] at hundoes
          cases hundoes
        obtain ⟨l, hl, -, hat⟩ := hwrites.placed (hplaced source hold m hm)
        obtain ⟨remaining, hl'⟩ := hchange.find?_of_some hl
        rw [hid, hlayer] at hl'
        obtain rfl := some_inj.mp hl'
        exact ⟨hat.trans hlocation, .inr hpos⟩
    by_cases hproduct : layer.productId = movement.productId
    · refine ⟨stray, hstray, ?_, fun hzero ↦ ?_⟩
      · show FifoBook.remaining _ _ = _
        rw [hown, show book₁.remaining _ = book₁.remainingOf movement.productId from rfl,
          hremaining]
        simp only [hproduct, decide_true, if_true]
        ring
      · obtain ⟨hremaining, hallocated, hothers⟩ := hplace hzero
        refine ⟨fun w ↦ ?_, fun a ha hid ↦ ?_, fun id l hl hne ↦ ?_⟩
        · rw [hlayers _ (ignoresRemaining_pair w), hremaining w, hproduct, hwhere.1]
          split
          · ring
          · ring
        · rcases (mem_insert hinsert).mp ha with ha | rfl
          · obtain ⟨l, hl, hat⟩ := hallocated a ha hid
            obtain ⟨remaining, hl'⟩ := hchange.find?_of_some hl
            exact ⟨_, hl', hat⟩
          · exact ⟨layer, hlayer, hproduct, hwhere.1⟩
        · have hl₁ := hothers id l hl hne
          refine (hchange.find?_of_ne fun hid ↦ ?_).trans hl₁
          obtain ⟨remaining, hl'⟩ := hchange.find?_of_some hl₁
          rw [hid, hlayer] at hl'
          obtain rfl := some_inj.mp hl'
          exact hne hproduct
    · have hpos := hwhere.2.resolve_left hproduct
      refine ⟨stray + input.quantity, by omega, ?_, fun hzero ↦ by omega⟩
      show FifoBook.remaining _ _ = _
      rw [hown, show book₁.remaining _ = book₁.remainingOf movement.productId from rfl, hremaining]
      simp only [hproduct, decide_false, Bool.false_eq_true, if_false]
      ring

/-! ### Stores in which the layers are booked -/

def ofProduct (productId : Uuid) : Uuid → Uuid → Bool := fun p _ ↦ decide (p = productId)

/-- **The journal explains layers and valuations.** -/
structure Store.Booked (s : Store) : Prop where
  settled : s.Settled
  quantities : ∀ v ∈ s.valuations.rows, v.quantity = s.moved (ofProduct v.productId)
  layers : ∀ w, s.fifo.remaining (fun l ↦ w l.productId l.locationId) = s.moved w
  placed : ∀ a ∈ s.fifo.allocations.rows, ∀ m, s.movements.find? a.movementId = some m →
    s.fifo.Placed a m.productId m.locationId

theorem Store.booked_fresh (env : Env) : (Store.fresh env).Booked where
  settled := Store.settled_fresh env
  quantities := List.forall_mem_nil _
  layers := fun _ ↦ rfl
  placed := List.forall_mem_nil _

theorem Store.Booked.quantity_of_none {s : Store} (hs : s.Booked)
    (h : s.valuations.find? productId = none) : s.moved (ofProduct productId) = 0 := by
  refine total_eq_zero fun m hm ↦ ?_
  obtain ⟨v, hv⟩ := hs.settled.valued m hm
  rw [ofProduct, if_neg]
  intro hproduct
  rw [of_decide_eq_true hproduct, h] at hv
  cases hv

namespace Posting

variable {s s' : Store} {n : NewMovement} {tracking : Tracking} (p : Posting s n tracking s')

theorem valuation_quantity (hs : s.Booked) :
    p.valuation.quantity = s.moved (ofProduct n.productId) := by
  rcases p.valuation_cases with h | ⟨hnone, product, -, h⟩
  · have hid : p.valuation.productId = n.productId := key_of_find? h
    rw [← hid]
    exact hs.quantities _ (mem_of_find? h)
  · rw [hs.quantity_of_none hnone, h]

/-- **Nothing strays.** A posting on a booked store changes the layers of its own product at its own
location, and no other. -/
theorem inPlace (hs : s.Booked) :
    LayerWrites.InPlace (n.valuedRow s p.valuation p.unitCost) s.fifo n.quantityChange s'.fifo := by
  obtain ⟨_, -, -, hsummary, -⟩ := p.layers_of_linked hs.settled.linked
  obtain ⟨value, hwrites⟩ := p.writes_of_linked hs.settled.linked
  have hfresh : ∀ a ∈ s.fifo.allocations.rows, a.movementId ≠ s.freshMovementId := by
    intro a ha hid
    obtain ⟨m, hm, hmovement⟩ := hs.settled.linked.allocations a ha
    exact p.id_fresh m hm (hmovement.trans hid)
  obtain ⟨stray, -, hremaining, hplace⟩ := hwrites.stray
    (fun m hm ↦ congrArg Movement.type
      (some_inj.mp (hm.symm.trans (find?_of_rows_append p.valued_rows))))
    hfresh
    (fun a ha m hm ↦ by
      obtain ⟨m₀, hm₀, hid⟩ := hs.settled.linked.allocations a ha
      have hfind : s.movements.find? a.movementId = some m₀ :=
        Table.find?_eq_some.mpr ⟨hm₀, hid⟩
      rw [find?_eq_of_rows_append p.valued_rows hfind] at hm
      exact some_inj.mp hm ▸ hs.placed a ha m₀ hfind)
  have hlayers : s.fifo.remainingOf n.productId = s.moved (ofProduct n.productId) :=
    hs.layers (ofProduct n.productId)
  have hproduct : (n.valuedRow s p.valuation p.unitCost).productId = n.productId := rfl
  rw [hproduct, hsummary, p.valuation_quantity hs, hlayers] at hremaining
  exact hplace (by omega)

include p in
/-- **A posting keeps the books.** -/
theorem booked (hs : s.Booked) : s'.Booked where
  settled := p.settled hs.settled
  quantities := by
    intro v hv
    have hfind := find?_key_of_mem hv
    rw [p.moved_eq]
    by_cases hproduct : v.productId = n.productId
    · rw [show Keyed.key v = n.productId from hproduct, p.find?_valuation] at hfind
      obtain rfl := some_inj.mp hfind
      show p.valuation.quantity + n.quantityChange = _
      have hid : p.next.productId = n.productId := hproduct
      rw [p.valuation_quantity hs, hid]
      simp [ofProduct]
    · rw [show Keyed.key v = v.productId from rfl, p.find?_valuation_of_ne hproduct] at hfind
      rw [hs.quantities v (mem_of_find? hfind)]
      simp [ofProduct, Ne.symm hproduct]
  layers := fun w ↦ by
    rw [(p.inPlace hs).remaining w, hs.layers w, p.moved_eq]
    rfl
  placed := by
    intro a ha m hm
    obtain ⟨value, hwrites⟩ := p.writes_of_linked hs.settled.linked
    rcases p.find?_cases hm with ⟨hne, hm⟩ | ⟨hid, rfl⟩
    · obtain ⟨new, hrows, hnew⟩ := hwrites.allocations
      rw [hrows] at ha
      rcases List.mem_append.mp ha with ha | ha
      · exact hwrites.placed (hs.placed a ha m hm)
      · exact absurd (hnew a ha) hne
    · rw [p.row_productId, p.row_locationId]
      exact (p.inPlace hs).placed a ha hid

end Posting

theorem Store.Booked.of_eq {s s' : Store} (hs : s.Booked) (hmovements : s'.movements = s.movements)
    (hvaluations : s'.valuations = s.valuations) (hfifo : s'.fifo = s.fifo)
    (hlots : s'.lots.movementLots = s.lots.movementLots)
    (hproducts : ∀ id p, s.products.find? id = some p → ∃ p', s'.products.find? id = some p') :
    s'.Booked where
  settled := hs.settled.of_eq hmovements hvaluations (by rw [hfifo]) hlots hproducts
  quantities := by
    intro v hv
    rw [hvaluations] at hv
    rw [Store.moved_congr hmovements]
    exact hs.quantities v hv
  layers := by
    intro w
    rw [hfifo, Store.moved_congr hmovements]
    exact hs.layers w
  placed := by
    rw [hfifo, hmovements]
    exact hs.placed

end UInventario
