import Mathlib.Data.Prod.Lex
import UInventario.Inventory.LayerLedger
import UInventario.Inventory.ReconciliationSoundness

/-!
# The order of FIFO and its bounds

An exit draws from the layers of its product and location in the order of acquisition
(`consumeLayers`), and a void or a return puts back what is left of the allocations of its sale
(`restoreSale`). Both write as they go.

`FifoBook.Bounded` is the invariant: a layer holds between nothing and what it was opened with, an
allocation that points to another one adds stock, and none has been given back more than it drew.
The loop sums up everything that points to an allocation, so the restorations among it are at most
that (`restored_le_priorRestored`).

`exit_takes_in_order` says of any bounded book: the layers suffice or the exit is refused, and then
they fall into those emptied, at most one that keeps something, and later ones that stay.
`bounded_run` carries the bounds through everything that happens afterwards.
-/

namespace UInventario

open Outcome Table List

/-! ### What is kept -/

def FifoBook.restored (book : FifoBook) (allocationId : Uuid) : ℤ :=
  book.allocations.total fun a ↦
    if a.mode = .RESTORE ∧ a.sourceAllocationId = some allocationId then a.quantityChange else 0

/-- **What layers and allocations keep.** -/
structure FifoBook.Bounded (book : FifoBook) : Prop where
  /-- `ck_inventory_fifo_layers_remaining_quantity`. -/
  layers : ∀ l ∈ book.layers.rows, 0 ≤ l.remainingQuantity ∧
    l.remainingQuantity ≤ l.originalQuantity
  /-- `ck_inventory_fifo_layers_cost`. -/
  cost : ∀ l ∈ book.layers.rows, 0 ≤ l.unitCost
  /-- An allocation with a source adds stock, and its source is there. -/
  sources : ∀ a ∈ book.allocations.rows, ∀ id ∈ a.sourceAllocationId,
    0 < a.quantityChange ∧ ∃ b ∈ book.allocations.rows, b.id = id
  /-- What is put back of an allocation is at most what it drew. -/
  restored : ∀ a ∈ book.allocations.rows, book.restored a.id ≤ max 0 (-a.quantityChange)

variable {env : Env} {movements : Table Movement} {movement : Movement} {book : FifoBook}
  {mode : AllocationMode} {p' : Progress} {s : Store} {requested expected : ℤ} {book' : FifoBook}
  {r : FifoBook × ℤ}

theorem FifoBook.Bounded.restored_le_priorRestored (hbook : book.Bounded) (allocationId : Uuid) :
    book.restored allocationId ≤ priorRestored book allocationId := by
  refine sum_le_sum fun a ha ↦ ?_
  by_cases hsource : a.sourceAllocationId = some allocationId
  · have hpos := (hbook.sources a ha allocationId hsource).1
    rw [if_pos hsource]
    split
    · exact le_rfl
    · exact hpos.le
  · rw [if_neg hsource, if_neg fun h ↦ hsource h.2]

theorem FifoBook.Bounded.restored_of_fresh (hbook : book.Bounded) {id : Uuid}
    (hfresh : ∀ a ∈ book.allocations.rows, a.id ≠ id) : book.restored id = 0 := by
  refine total_eq_zero fun a ha ↦ if_neg fun h ↦ ?_
  obtain ⟨b, hb, hid⟩ := (hbook.sources a ha id h.2).2
  exact hfresh b hb hid

/-- **An allocation that is inserted** keeps the bounds when it has room where it points to. -/
theorem FifoBook.Bounded.insert (hbook : book.Bounded) {layers : Table FifoLayer}
    {a : FifoAllocation} {allocations : Table FifoAllocation}
    (hlayers : ∀ l ∈ layers.rows, 0 ≤ l.remainingQuantity ∧
      l.remainingQuantity ≤ l.originalQuantity)
    (hcost : ∀ l ∈ layers.rows, 0 ≤ l.unitCost)
    (hsource : ∀ id ∈ a.sourceAllocationId, 0 < a.quantityChange ∧
      ∃ b ∈ book.allocations.rows, b.id = id ∧
        (a.mode = .RESTORE → a.quantityChange ≤ -b.quantityChange - priorRestored book b.id))
    (hinsert : book.allocations.insert a = some allocations) :
    ({ layers := layers, allocations := allocations } : FifoBook).Bounded where
  layers := hlayers
  cost := hcost
  sources := by
    intro r hr id hid
    rcases (mem_insert hinsert).mp hr with hr | rfl
    · obtain ⟨hpos, b, hb, hbid⟩ := hbook.sources r hr id hid
      exact ⟨hpos, b, (mem_insert hinsert).mpr (.inl hb), hbid⟩
    · obtain ⟨hpos, b, hb, hbid, -⟩ := hsource id hid
      exact ⟨hpos, b, (mem_insert hinsert).mpr (.inl hb), hbid⟩
  restored := by
    have hfresh : ∀ r ∈ book.allocations.rows, r.id ≠ a.id := fun r hr hid ↦
      Table.find?_eq_none.mp (insert_eq_some hinsert).1 r hr hid
    have hadds : ∀ id, ({ layers := layers, allocations := allocations } : FifoBook).restored id =
        book.restored id + if a.mode = .RESTORE ∧ a.sourceAllocationId = some id
          then a.quantityChange else 0 := fun id ↦ total_insert hinsert _
    intro r hr
    rw [hadds]
    rcases (mem_insert hinsert).mp hr with hr | rfl
    · have hold := hbook.restored r hr
      split
      case isTrue hrestores =>
        -- the row that is restored is the source, which had as much left
        obtain ⟨-, b, hb, hbid, hleft⟩ := hsource r.id hrestores.2
        obtain rfl := eq_of_mem_of_key_eq hb hr hbid
        have hprior := hbook.restored_le_priorRestored b.id
        have := hleft hrestores.1
        omega
      case isFalse =>
        omega
    · have hnone : ¬(r.mode = .RESTORE ∧ r.sourceAllocationId = some r.id) := fun h ↦ by
        obtain ⟨-, b, hb, hbid, -⟩ := hsource r.id h.2
        exact hfresh b hb hbid
      rw [hbook.restored_of_fresh hfresh, if_neg hnone]
      exact le_max_left _ _

/-! ### The loops keep the bounds -/

theorem FifoBook.Bounded.setRemaining (hbook : book.Bounded) {layer : FifoLayer} {remaining : ℤ}
    (hlayer : book.layers.find? layer.id = some layer)
    (hremaining : 0 ≤ remaining ∧ remaining ≤ layer.originalQuantity) :
    ∀ l ∈ (UInventario.setRemaining book layer.id remaining).layers.rows,
      (0 ≤ l.remainingQuantity ∧ l.remainingQuantity ≤ l.originalQuantity) ∧ 0 ≤ l.unitCost := by
  intro l hl
  rcases of_mem_update (fun _ ↦ by rfl) hlayer hl with rfl | ⟨hl, -⟩
  · exact ⟨hremaining, hbook.cost layer (mem_of_find? hlayer)⟩
  · exact ⟨hbook.layers l hl, hbook.cost l hl⟩

/-- **One turn of an exit**: nothing is wanted any more, or the layer is drawn from. -/
theorem consumeLayer_cases {p : Progress} {layer : FifoLayer}
    (hpositive : 0 < layer.remainingQuantity) (hwanted : 0 ≤ p.quantity)
    (h : consumeLayer env movement mode p layer = .ok p') :
    p.quantity = 0 ∧ p' = p ∨ 0 < min layer.remainingQuantity p.quantity ∧
      p'.quantity = p.quantity - min layer.remainingQuantity p.quantity ∧
      ∃ a allocations, p.book.allocations.insert a = some allocations ∧
        (a.movementId = movement.id ∧ a.layerId = layer.id ∧ a.sourceAllocationId = none ∧
          a.quantityChange = -min layer.remainingQuantity p.quantity) ∧
        p'.book = {
          layers := (setRemaining p.book layer.id
            (layer.remainingQuantity - min layer.remainingQuantity p.quantity)).layers
          allocations := allocations } := by
  rw [consumeLayer] at h
  split at h
  case isTrue hzero => exact .inl ⟨hzero, (pure_eq_ok.mp h).symm⟩
  case isFalse hsome =>
    dsimp only at h
    split at h
    case isTrue => omega
    case isFalse =>
      obtain ⟨r, hinsert, h⟩ := bind_eq_ok.mp h
      obtain rfl := pure_eq_ok.mp h
      obtain ⟨-, allocations, hrow, rfl⟩ := insertAllocation_eq_ok hinsert
      exact .inr ⟨by omega, rfl, _, allocations, hrow, ⟨rfl, rfl, rfl, rfl⟩, rfl⟩

theorem consumeLayer_bounded {rest : List FifoLayer} {p : Progress}
    (hbook : p.book.Bounded) (hconsumable : Consumable movement p.book rest)
    (hwanted : 0 ≤ p.quantity) (h : rest.foldlM (consumeLayer env movement mode) p = .ok p') :
    p'.book.Bounded := by
  induction rest generalizing p with
  | nil =>
    obtain rfl := foldlM_nil_eq_ok.mp h
    exact hbook
  | cons layer rest ih =>
    obtain ⟨p₁, h₁, hrest⟩ := foldlM_cons_eq_ok.mp h
    have hpositive := hconsumable.positive layer mem_cons_self
    have hlayer := hconsumable.current layer mem_cons_self
    rcases consumeLayer_cases hpositive hwanted h₁ with
      ⟨-, rfl⟩ | ⟨hmin, hquantity, a, allocations, hinsert, ⟨-, -, hsource, -⟩, hbook₁⟩
    · exact ih hbook (hconsumable.tail fun _ _ ↦ rfl) hwanted hrest
    · have hroom : 0 ≤ layer.remainingQuantity - min layer.remainingQuantity p.quantity ∧
          layer.remainingQuantity - min layer.remainingQuantity p.quantity ≤
            layer.originalQuantity := by
        have := (hbook.layers layer (mem_of_find? hlayer)).2
        constructor <;> omega
      have hlayers := hbook.setRemaining hlayer hroom
      refine ih ?_ ?_ (by omega) hrest
      · rw [hbook₁]
        refine hbook.insert (fun l hl ↦ (hlayers l hl).1) (fun l hl ↦ (hlayers l hl).2) ?_ hinsert
        intro id hid
        rw [hsource] at hid
        cases hid
      · refine hconsumable.tail fun id hne ↦ ?_
        rw [hbook₁]
        exact find?_setRemaining_of_ne hne _

theorem consumeLayers_bounded {source : LayerSource}
    (hbook : book.Bounded) (hwanted : 0 ≤ requested)
    (h : consumeLayers env movements book movement requested source = .ok r) : r.1.Bounded := by
  simp only [consumeLayers, eq_ok] at h
  obtain ⟨p, hp, -, -, rfl⟩ := h
  exact consumeLayer_bounded hbook (consumable_consumableLayers _ _ _ source) hwanted hp

/-- **One turn of a void or a return** keeps the bounds and the allocations there are. -/
theorem restoreAllocation_bounded {p : Progress} {source : SourceAllocation}
    (hbook : p.book.Bounded) (hsource : source.allocation ∈ p.book.allocations.rows)
    (h : restoreAllocation env movement p source = .ok p') :
    p'.book.Bounded ∧ ∀ a ∈ p.book.allocations.rows, a ∈ p'.book.allocations.rows := by
  rw [restoreAllocation] at h
  split at h
  case isTrue =>
    obtain rfl := pure_eq_ok.mp h
    exact ⟨hbook, fun _ ha ↦ ha⟩
  case isFalse hpos =>
    simp only [eq_ok] at h
    obtain ⟨layer, hlayer, -, hroom, r, hinsert, rfl⟩ := h
    obtain ⟨-, allocations, hrow, rfl⟩ := insertAllocation_eq_ok hinsert
    have hid : layer.id = source.allocation.layerId := key_of_find? hlayer
    rw [← hid] at hlayer
    have hlow := (hbook.layers layer (mem_of_find? hlayer)).1
    have hlayers := hbook.setRemaining hlayer
      (⟨by omega, hroom⟩ : 0 ≤ layer.remainingQuantity + min (-source.allocation.quantityChange -
        priorRestored p.book source.allocation.id) p.quantity ∧ _)
    rw [hid] at hlayers
    refine ⟨hbook.insert (fun l hl ↦ (hlayers l hl).1) (fun l hl ↦ (hlayers l hl).2) ?_ hrow,
      fun a ha ↦ (mem_insert hrow).mpr (.inl ha)⟩
    intro id hid'
    obtain rfl := Option.mem_some_iff.mp hid'
    exact ⟨not_le.mp hpos, source.allocation, hsource, rfl, fun _ ↦ min_le_left _ _⟩

/-- **A loop over source allocations** keeps the bounds, and the sources, when its turns do. -/
theorem sources_bounded {sources : List SourceAllocation}
    {f : Progress → SourceAllocation → Except Failure Progress} {p : Progress}
    (hstep : ∀ x p p', p.book.Bounded → x.allocation ∈ p.book.allocations.rows → f p x = .ok p' →
      p'.book.Bounded ∧ ∀ a ∈ p.book.allocations.rows, a ∈ p'.book.allocations.rows)
    (hsources : ∀ x ∈ sources, x.allocation ∈ p.book.allocations.rows) (hbook : p.book.Bounded)
    (h : sources.foldlM f p = .ok p') : p'.book.Bounded := by
  have hloop : p'.book.Bounded ∧ ∀ a ∈ p.book.allocations.rows, a ∈ p'.book.allocations.rows := by
    refine foldlM_invariant (P := fun q : Progress ↦
      q.book.Bounded ∧ ∀ a ∈ p.book.allocations.rows, a ∈ q.book.allocations.rows)
      (fun x hx q q' hq hturn ↦ ?_) ⟨hbook, fun _ ha ↦ ha⟩ h
    obtain ⟨hbounded, hkeeps⟩ := hstep x q q' hq.1 (hq.2 x.allocation (hsources x hx)) hturn
    exact ⟨hbounded, fun a ha ↦ hkeeps a (hq.2 a ha)⟩
  exact hloop.1

theorem restoreSale_bounded (hbook : book.Bounded)
    (h : restoreSale env movements book movement expected = .ok r) : r.1.Bounded := by
  simp only [restoreSale, eq_ok] at h
  obtain ⟨p, hp, -, -, rfl⟩ := h
  exact sources_bounded (fun x p p' hbounded hx hturn ↦ restoreAllocation_bounded hbounded hx hturn)
    (fun x hx ↦ (mem_sourceAllocations.mp hx).1) hbook hp

theorem createLayer_bounded {input : LayerInput} (hbook : book.Bounded)
    (hmode : input.mode ≠ .RESTORE)
    (hsource : ∀ id ∈ input.sourceAllocationId, ∃ b ∈ book.allocations.rows, b.id = id)
    (h : createLayer env book movement input = .ok r) :
    r.1.Bounded ∧ ∀ a ∈ book.allocations.rows, a ∈ r.1.allocations.rows := by
  simp only [createLayer, eq_ok] at h
  obtain ⟨-, -, -, ⟨hpos, hcost⟩, layers, hinsert, h⟩ := h
  obtain ⟨-, allocations, hrow, rfl⟩ := insertAllocation_eq_ok h
  refine ⟨hbook.insert ((forall_mem_insert hinsert).mpr ⟨hbook.layers, hpos.le, le_rfl⟩)
    ((forall_mem_insert hinsert).mpr ⟨hbook.cost, hcost⟩) ?_ hrow,
    fun a ha ↦ (mem_insert hrow).mpr (.inl ha)⟩
  intro id hid
  obtain ⟨b, hb, hbid⟩ := hsource id hid
  exact ⟨hpos, b, hb, hbid, fun hrestore ↦ absurd hrestore hmode⟩

theorem transferLayers_bounded (hbook : book.Bounded)
    (h : transferLayers env movements book movement expected = .ok r) : r.1.Bounded := by
  simp only [transferLayers, eq_ok] at h
  obtain ⟨p, hp, -, -, rfl⟩ := h
  refine sources_bounded (fun x p p' hbounded hx hturn ↦ ?_)
    (fun x hx ↦ (mem_sourceAllocations.mp hx).1) hbook hp
  rw [transferAllocation] at hturn
  split at hturn
  · obtain rfl := pure_eq_ok.mp hturn
    exact ⟨hbounded, fun _ ha ↦ ha⟩
  · simp only [eq_ok] at hturn
    obtain ⟨r, hcreate, rfl⟩ := hturn
    refine createLayer_bounded hbounded (show AllocationMode.TRANSFER ≠ .RESTORE by decide)
      (fun id hid ↦ ?_) hcreate
    obtain rfl := Option.mem_some_iff.mp hid
    exact ⟨x.allocation, hx, rfl⟩

/-- **A movement keeps the bounds.** -/
theorem moveLayers_bounded (hbook : s.fifo.Bounded)
    (h : moveLayers s movement = .ok r) : r.1.Bounded := by
  rw [moveLayers] at h
  split at h
  · split at h
    · exact restoreSale_bounded hbook h
    · exact restoreSale_bounded hbook h
    · exact transferLayers_bounded hbook h
    · simp only [bind_eq_ok] at h
      obtain ⟨⟨unitCost, currency⟩, -, h⟩ := h
      refine (createLayer_bounded hbook (show AllocationMode.ENTRY ≠ .RESTORE by decide)
        (fun id hid ↦ ?_) h).1
      cases hid
  · split at h
    · obtain ⟨source, -, h⟩ := bind_eq_ok.mp h
      exact consumeLayers_bounded hbook (by omega) h
    · obtain rfl := pure_eq_ok.mp h
      exact hbook

theorem Posting.bounded {s' : Store} {n : NewMovement} {tracking : Tracking}
    (p : Posting s n tracking s') (hbook : s.fifo.Bounded) : s'.fifo.Bounded := by
  rcases p.layers_eq with ⟨-, hsame, -⟩ | ⟨value, _, hmove, -⟩
  · rw [hsame]
    exact hbook
  · have hfifo : p.valuedStore.fifo = s.fifo := by rw [p.valued_eq]
    exact @moveLayers_bounded _ p.valuedStore _ (hfifo ▸ hbook) hmove

/-- **The bounds hold of every run**: whatever is sold, returned, voided, received or transferred.
-/
theorem bounded_run (hbook : s.fifo.Bounded) (events : List StockEvent) :
    (run stockStep s events).fifo.Bounded := by
  refine run_induct (P := fun s : Store ↦ s.fifo.Bounded) (fun s e s' hs h ↦ ?_) hbook events
  rcases stockStep_cases h with ⟨n, tracking, -, ⟨p⟩⟩ | hkeeps
  · exact p.bounded hs
  · rw [hkeeps.fifo]
    exact hs

/-! ### What an exit takes -/

/-- The identifiers `randomUUID` draws for the next allocations are new, and no two of them agree.
-/
structure Drawn (env : Env) (book : FifoBook) : Prop where
  fresh : ∀ n, book.allocations.rows.length ≤ n → ∀ a ∈ book.allocations.rows,
    a.id ≠ env.uuid .inventory_movement_fifo_layers n
  apart : ∀ m n, book.allocations.rows.length ≤ m → m < n →
    env.uuid .inventory_movement_fifo_layers m ≠ env.uuid .inventory_movement_fifo_layers n

/-- **What is left of a book** when the draws have been taken from it. -/
structure Taken (movement : Movement) (book book' : FifoBook) (draws : List (FifoLayer × ℤ)) :
    Prop where
  drawn : ∀ d ∈ draws, book'.layers.find? d.1.id =
    some { d.1 with remainingQuantity := d.1.remainingQuantity - d.2 }
  others : ∀ id, (∀ d ∈ draws, d.1.id ≠ id) → book'.layers.find? id = book.layers.find? id
  allocations : ∃ new, book'.allocations.rows = book.allocations.rows ++ new ∧
    new.map (fun a ↦ (a.movementId, a.layerId, a.quantityChange)) =
      (draws.filter fun d ↦ d.2 ≠ 0).map fun d ↦ (movement.id, d.1.id, -d.2)

theorem Taken.refl (movement : Movement) (book : FifoBook) : Taken movement book book [] where
  drawn := forall_mem_nil _
  others := fun _ _ ↦ rfl
  allocations := ⟨[], by simp, rfl⟩

theorem Taken.trans {book₁ : FifoBook} {ds ds' : List (FifoLayer × ℤ)}
    (h : Taken movement book book₁ ds) (h' : Taken movement book₁ book' ds')
    (hapart : ∀ d ∈ ds, ∀ d' ∈ ds', d'.1.id ≠ d.1.id) : Taken movement book book' (ds ++ ds') where
  drawn := by
    intro d hd
    rcases mem_append.mp hd with hd | hd
    · rw [h'.others d.1.id (hapart d hd), h.drawn d hd]
    · exact h'.drawn d hd
  others := by
    intro id hid
    rw [h'.others id fun d hd ↦ hid d (mem_append_right _ hd),
      h.others id fun d hd ↦ hid d (mem_append_left _ hd)]
  allocations := by
    obtain ⟨new, hrows, hnew⟩ := h.allocations
    obtain ⟨new', hrows', hnew'⟩ := h'.allocations
    refine ⟨new ++ new', by rw [hrows', hrows, append_assoc], ?_⟩
    rw [map_append, hnew, hnew', filter_append, map_append]

structure Takeable (env : Env) (movement : Movement) (book : FifoBook) (rest : List FifoLayer) :
    Prop where
  cost : ∀ l ∈ rest, 0 ≤ l.unitCost
  unallocated : ∀ a ∈ book.allocations.rows, a.movementId = movement.id →
    ∀ l ∈ rest, a.layerId ≠ l.id
  drawn : Drawn env book

/-- **One turn of an exit goes through**, and takes what is wanted and there. -/
theorem consumeLayer_taken {p : Progress} {layer : FifoLayer}
    {rest : List FifoLayer} (hconsumable : Consumable movement p.book (layer :: rest))
    (htakeable : Takeable env movement p.book (layer :: rest)) (hwanted : 0 ≤ p.quantity) :
    ∃ p', consumeLayer env movement mode p layer = .ok p' ∧
      p'.quantity = p.quantity - min layer.remainingQuantity p.quantity ∧
      Consumable movement p'.book rest ∧ Takeable env movement p'.book rest ∧
      Taken movement p.book p'.book [(layer, min layer.remainingQuantity p.quantity)] := by
  have hpositive := hconsumable.positive layer mem_cons_self
  have hlayer := hconsumable.current layer mem_cons_self
  rcases hwanted.lt_or_eq with hsome | hzero
  · set consumed := min layer.remainingQuantity p.quantity with hconsumed
    set book₁ := setRemaining p.book layer.id (layer.remainingQuantity - consumed) with hbook₁
    set input : AllocationInput := {
      layerId := layer.id, quantity := -consumed, unitCost := layer.unitCost,
      currency := layer.currency, mode := mode } with hinput
    have hfresh : book₁.allocations.find?
        (Keyed.key (input.row env movement.id book₁.allocations.rows.length)) = none :=
      Table.find?_eq_none.mpr fun a ha ↦ htakeable.drawn.fresh _ le_rfl a ha
    obtain ⟨allocations, hallocations⟩ := insert_isSome hfresh
    have hinsert : insertAllocation env book₁ movement input =
        .ok ({ book₁ with allocations := allocations },
          quantityTimesCost input.quantity input.unitCost) := by
      have hcheck : input.quantity ≠ 0 ∧ 0 ≤ input.unitCost :=
        ⟨show -consumed ≠ 0 by omega, htakeable.cost layer mem_cons_self⟩
      have hunique : ∀ a ∈ book₁.allocations.rows,
          ¬(a.movementId = movement.id ∧ a.layerId = input.layerId) := fun a ha h ↦
        htakeable.unallocated a ha h.1 layer mem_cons_self h.2
      rw [insertAllocation, ensure, if_pos hcheck, ensure, if_pos hunique, hallocations]
      rfl
    have hturn : consumeLayer env movement mode p layer = .ok {
        book := { book₁ with allocations := allocations }, quantity := p.quantity - consumed,
        totalValue := p.totalValue + quantityTimesCost input.quantity input.unitCost } := by
      rw [consumeLayer, if_neg (by omega)]
      dsimp only
      rw [← hconsumed, if_neg (by omega), ← hbook₁, ← hinput, hinsert]
      rfl
    have hrows : allocations.rows = p.book.allocations.rows ++
        [input.row env movement.id book₁.allocations.rows.length] :=
      (insert_eq_some hallocations).2
    have hlength : allocations.rows.length = p.book.allocations.rows.length + 1 := by
      rw [hrows, length_append, length_singleton]
    have hnotin := (nodup_cons.mp hconsumable.nodup).1
    refine ⟨_, hturn, rfl, hconsumable.tail fun id hne ↦ find?_setRemaining_of_ne hne _, ?_, ?_⟩
    · refine ⟨fun l hl ↦ htakeable.cost l (mem_cons_of_mem _ hl), fun a ha hmovement l hl ↦ ?_,
        fun n hn a ha ↦ ?_, fun m n hm hmn ↦ htakeable.drawn.apart m n ?_ hmn⟩
      · rcases (mem_insert hallocations).mp ha with ha | rfl
        · exact htakeable.unallocated a ha hmovement l (mem_cons_of_mem _ hl)
        · exact fun hid ↦ hnotin (mem_map.mpr ⟨l, hl, hid.symm⟩)
      · have hn' : p.book.allocations.rows.length + 1 ≤ n := hlength ▸ hn
        rcases (mem_insert hallocations).mp ha with ha | rfl
        · exact htakeable.drawn.fresh n (by omega) a ha
        · exact htakeable.drawn.apart _ n le_rfl (by exact hn')
      · have hm' : p.book.allocations.rows.length + 1 ≤ m := hlength ▸ hm
        omega
    · refine ⟨fun d hd ↦ ?_, fun id hid ↦ ?_, _, hrows, ?_⟩
      · obtain rfl := mem_singleton.mp hd
        exact find?_setRemaining_self hlayer _
      · exact find?_setRemaining_of_ne (hid _ (mem_singleton_self _)).symm _
      · have hne : consumed ≠ 0 := by omega
        rw [filter_cons_of_pos (by simpa using hne)]
        rfl
  · have hmin : min layer.remainingQuantity p.quantity = 0 := by omega
    refine ⟨p, by rw [consumeLayer, if_pos hzero.symm]; rfl, by omega,
      hconsumable.tail fun _ _ ↦ rfl,
      ⟨fun l hl ↦ htakeable.cost l (mem_cons_of_mem _ hl), fun a ha hmovement l hl ↦
        htakeable.unallocated a ha hmovement l (mem_cons_of_mem _ hl), htakeable.drawn⟩, ?_⟩
    rw [hmin]
    refine ⟨fun d hd ↦ ?_, fun _ _ ↦ rfl, [], by simp, by simp⟩
    obtain rfl := mem_singleton.mp hd
    rw [hlayer, sub_zero]

/-- **The loop of an exit goes through**, and takes the greedy draws. -/
theorem consumeLayer_foldlM_taken {rest : List FifoLayer} {p : Progress}
    (hconsumable : Consumable movement p.book rest)
    (htakeable : Takeable env movement p.book rest) (hwanted : 0 ≤ p.quantity) :
    ∃ p', rest.foldlM (consumeLayer env movement mode) p = .ok p' ∧
      p'.quantity = Greedy.unmet FifoLayer.remainingQuantity p.quantity rest ∧
      Taken movement p.book p'.book
        (Greedy.draws FifoLayer.remainingQuantity p.quantity rest) := by
  induction rest generalizing p with
  | nil => exact ⟨p, rfl, rfl, .refl movement p.book⟩
  | cons layer rest ih =>
    obtain ⟨p₁, h₁, hquantity, hconsumable₁, htakeable₁, htaken⟩ :=
      @consumeLayer_taken env movement mode p layer rest hconsumable htakeable hwanted
    obtain ⟨p', hrest, hquantity', htaken'⟩ := ih hconsumable₁ htakeable₁ (by omega)
    refine ⟨p', foldlM_cons_eq_ok.mpr ⟨p₁, h₁, hrest⟩, ?_, ?_⟩
    · rw [hquantity', hquantity, Greedy.unmet_cons]
    · rw [Greedy.draws_cons, ← hquantity]
      refine htaken.trans htaken' fun d hd d' hd' hid ↦ ?_
      obtain rfl := mem_singleton.mp hd
      have hmem := mem_map_of_mem (f := Prod.fst) hd'
      rw [Greedy.map_fst_draws] at hmem
      exact (nodup_cons.mp hconsumable.nodup).1 (mem_map.mpr ⟨_, hmem, hid⟩)

/-! ### The order of an exit -/

theorem pairwise_consumableLayers (movements : Table Movement) (book : FifoBook)
    (productId locationId : Uuid) (source : LayerSource) :
    (consumableLayers movements book productId locationId source).Pairwise
      FifoLayer.consumedBefore := by
  let key : FifoLayer → ℕ ×ₗ ℕ ×ₗ ℕ := fun l ↦ toLex (l.acquiredAt, toLex (l.createdAt, l.id))
  refine @pairwise_orderBy_key _ _ _ _ _ _ key fun a b ↦ ?_
  rw [Prod.Lex.le_iff, FifoLayer.consumedBefore]
  rw [Prod.Lex.le_iff]
  exact Iff.rfl

theorem sum_consumableLayers (movements : Table Movement) (hbook : book.Bounded)
    (productId locationId : Uuid) :
    ((consumableLayers movements book productId locationId .any).map
      FifoLayer.remainingQuantity).sum = book.remainingAt productId locationId := by
  have hsum : ∀ rows : List FifoLayer, (∀ l ∈ rows, 0 ≤ l.remainingQuantity) →
      ((rows.filter fun l ↦ l.productId = productId ∧ l.locationId = locationId ∧
        0 < l.remainingQuantity ∧ LayerSource.any.admits movements l).map
          FifoLayer.remainingQuantity).sum =
        (rows.map fun l ↦ if decide (l.productId = productId ∧ l.locationId = locationId) = true
          then l.remainingQuantity else 0).sum := by
    intro rows hrows
    induction rows with
    | nil => rfl
    | cons l rows ih =>
      have hl := hrows l mem_cons_self
      rw [map_cons, sum_cons, ← ih fun l' hl' ↦ hrows l' (mem_cons_of_mem _ hl'),
        filter_cons]
      by_cases hplace : l.productId = productId ∧ l.locationId = locationId
      · rcases hl.lt_or_eq with hpos | hzero
        · rw [if_pos (by simpa [LayerSource.admits] using ⟨hplace.1, hplace.2, hpos⟩),
            if_pos (by simpa using hplace), map_cons, sum_cons]
        · rw [if_neg (by simp [← hzero]), if_pos (by simpa using hplace), ← hzero, zero_add]
      · rw [if_neg (fun h ↦ hplace (by simp at h; exact ⟨h.1, h.2.1⟩)),
          if_neg (by simpa using hplace), zero_add]
  rw [consumableLayers, ((orderBy_perm _ _).map FifoLayer.remainingQuantity).sum_eq]
  exact hsum book.layers.rows fun l hl ↦ (hbook.layers l hl).1

/-- **A quantity is taken in order**: some layers are emptied, one at most is drawn from in part,
and the later ones stay. -/
structure TakenInOrder (movement : Movement) (book book' : FifoBook) (queue : List FifoLayer)
    (requested : ℤ) where
  split : Greedy.Split FifoLayer.remainingQuantity requested queue
  emptied : ∀ l ∈ split.emptied, book'.layers.find? l.id = some { l with remainingQuantity := 0 }
  partly : ∀ d ∈ split.partly, book'.layers.find? d.1.id =
    some { d.1 with remainingQuantity := d.1.remainingQuantity - d.2 }
  later : ∀ l ∈ split.later, book'.layers.find? l.id = some l
  others : ∀ id, (∀ l ∈ queue, l.id ≠ id) → book'.layers.find? id = book.layers.find? id
  allocations : ∃ new, book'.allocations.rows = book.allocations.rows ++ new ∧
    new.map (fun a ↦ (a.movementId, a.layerId, a.quantityChange)) =
      (split.emptied.map fun l ↦ (movement.id, l.id, -l.remainingQuantity)) ++
        split.partly.toList.map fun d ↦ (movement.id, d.1.id, -d.2)

theorem takenInOrder_of_taken {queue : List FifoLayer}
    (hpositive : ∀ l ∈ queue, 0 < l.remainingQuantity) (hrequested : 0 ≤ requested)
    (henough : requested ≤ (queue.map FifoLayer.remainingQuantity).sum)
    (h : Taken movement book book'
      (Greedy.draws FifoLayer.remainingQuantity requested queue)) :
    Nonempty (TakenInOrder movement book book' queue requested) := by
  obtain ⟨t⟩ := Greedy.exists_split (fun l hl ↦ (hpositive l hl).le) hrequested henough
  have hmem : ∀ d, d ∈ Greedy.draws FifoLayer.remainingQuantity requested queue ↔
      (∃ l ∈ t.emptied, (l, l.remainingQuantity) = d) ∨ d ∈ t.partly ∨
        ∃ l ∈ t.later, (l, 0) = d := by
    intro d
    rw [t.draws_eq, mem_append, mem_append, mem_map, mem_map, Option.mem_toList,
      or_assoc]
    exact Iff.rfl
  refine ⟨⟨t, fun l hl ↦ ?_, fun d hd ↦ ?_, fun l hl ↦ ?_, fun id hid ↦ ?_, ?_⟩⟩
  · rw [h.drawn _ ((hmem _).mpr (.inl ⟨l, hl, rfl⟩)), sub_self]
  · exact h.drawn d ((hmem d).mpr (.inr (.inl hd)))
  · rw [h.drawn _ ((hmem _).mpr (.inr (.inr ⟨l, hl, rfl⟩))), sub_zero]
  · refine h.others id fun d hd ↦ hid d.1 ?_
    have hfst := mem_map_of_mem (f := Prod.fst) hd
    rwa [Greedy.map_fst_draws] at hfst
  · obtain ⟨new, hrows, hnew⟩ := h.allocations
    refine ⟨new, hrows, hnew.trans ?_⟩
    have hemptied : ∀ d ∈ t.emptied.map fun l ↦ (l, l.remainingQuantity),
        decide (d.2 ≠ 0) = true := by
      refine forall_mem_map.mpr fun l hl ↦ ?_
      have hqueue : l ∈ queue := by
        rw [t.sources_eq]
        exact mem_append_left _ (mem_append_left _ hl)
      exact decide_eq_true (hpositive l hqueue).ne'
    have hpartly : ∀ d ∈ t.partly.toList, decide (d.2 ≠ 0) = true := fun d hd ↦
      decide_eq_true (t.partly_lt d (Option.mem_toList.mp hd)).1.ne'
    have hlater : (t.later.map fun l ↦ (l, (0 : ℤ))).filter (fun d ↦ decide (d.2 ≠ 0)) = [] := by
      rw [filter_eq_nil_iff]
      refine forall_mem_map.mpr fun l _ ↦ ?_
      simp
    rw [t.draws_eq, filter_append, filter_append, filter_eq_self.mpr hemptied,
      filter_eq_self.mpr hpartly, hlater, append_nil, map_append, map_map]
    rfl

/-- **FIFO takes in order and keeps its bounds.** An exit is refused exactly for want of stock; else
it takes the oldest layers first. -/
theorem exit_takes_in_order {s : Store} {movement : Movement} {requested : ℤ}
    (hbook : s.fifo.Bounded) (hnew : ∀ a ∈ s.fifo.allocations.rows, a.movementId ≠ movement.id)
    (hdrawn : Drawn s.env s.fifo) (hrequested : 0 ≤ requested) :
    let queue := consumableLayers s.movements s.fifo movement.productId movement.locationId .any
    let outcome := consumeLayers s.env s.movements s.fifo movement requested .any
    queue.Pairwise FifoLayer.consumedBefore ∧
    (outcome = .error .inventoryFifoLayerShortage ↔
      s.fifo.remainingAt movement.productId movement.locationId < requested) ∧
    (requested ≤ s.fifo.remainingAt movement.productId movement.locationId →
      ∃ book value, outcome = .ok (book, value) ∧
        Nonempty (TakenInOrder movement s.fifo book queue requested)) ∧
    ∀ book value, outcome = .ok (book, value) → ∀ s', s'.fifo = book → ∀ events,
      (run stockStep s' events).fifo.Bounded := by
  intro queue outcome
  have hconsumable : Consumable movement s.fifo queue :=
    consumable_consumableLayers s.movements s.fifo movement .any
  have htakeable : Takeable s.env movement s.fifo queue :=
    ⟨fun l hl ↦ hbook.cost l (Table.mem_of_find? (hconsumable.current l hl)),
      fun a ha hmovement ↦ absurd hmovement (hnew a ha), hdrawn⟩
  have hsum : (queue.map FifoLayer.remainingQuantity).sum =
      s.fifo.remainingAt movement.productId movement.locationId :=
    sum_consumableLayers s.movements hbook movement.productId movement.locationId
  obtain ⟨p, hloop, hquantity, htaken⟩ := @consumeLayer_foldlM_taken s.env movement .FIFO queue
    { book := s.fifo, quantity := requested, totalValue := 0 } hconsumable htakeable hrequested
  have hunmet : p.quantity = 0 ↔
      requested ≤ s.fifo.remainingAt movement.productId movement.locationId := by
    rw [hquantity, ← hsum]
    exact Greedy.unmet_eq_zero_iff (fun l hl ↦ (hconsumable.positive l hl).le) hrequested
  have houtcome : outcome =
      if p.quantity = 0 then .ok (p.book, p.totalValue)
        else .error .inventoryFifoLayerShortage := by
    show (queue.foldlM (consumeLayer s.env movement .FIFO)
        { book := s.fifo, quantity := requested, totalValue := 0 } >>= fun p ↦ do
      ensure (p.quantity = 0) .inventoryFifoLayerShortage
      pure (p.book, p.totalValue)) = _
    rw [hloop, ok_bind, ensure]
    by_cases hzero : p.quantity = 0
    · rw [if_pos hzero, if_pos hzero]
      rfl
    · rw [if_neg hzero, if_neg hzero]
      rfl
  refine ⟨pairwise_consumableLayers _ _ _ _ _, ?_, fun henough ↦ ?_, fun book value h s' hs' ↦ ?_⟩
  · rw [← not_le, ← hunmet, houtcome]
    split
    case isTrue hzero => exact iff_of_false (fun h ↦ by cases h) fun h ↦ h hzero
    case isFalse hsome => exact iff_of_true rfl hsome
  · refine ⟨p.book, p.totalValue, by rw [houtcome, if_pos (hunmet.mpr henough)], ?_⟩
    exact takenInOrder_of_taken hconsumable.positive hrequested (hsum.symm ▸ henough) htaken
  · exact bounded_run (hs'.symm ▸ consumeLayers_bounded hbook hrequested h)

def unitLayer (id : Uuid) (acquiredAt : Timestamp) : FifoLayer where
  id := id
  productId := 1
  locationId := 1
  sourceMovementId := none
  sourceLayerId := none
  purchaseReceiptLineId := none
  origin := .ENTRY
  originalQuantity := 1000
  remainingQuantity := 1000
  unitCost := 100
  currency := .USD
  acquiredAt := acquiredAt
  createdAt := 0

def twoLayers : Store :=
  { Store.fresh default with
    fifo := { layers := ⟨[unitLayer 1 20, unitLayer 2 10], by decide⟩, allocations := .empty } }

theorem exit_takes_in_order_twoLayers :
    (∃ book value, consumeLayers default twoLayers.movements twoLayers.fifo
        ((withdrawUnit 1 0).toMovement twoLayers) 1500 .any = .ok (book, value) ∧
      Nonempty (TakenInOrder ((withdrawUnit 1 0).toMovement twoLayers) twoLayers.fifo book
        [unitLayer 2 10, unitLayer 1 20] 1500)) ∧
      consumeLayers default twoLayers.movements twoLayers.fifo
        ((withdrawUnit 1 0).toMovement twoLayers) 2500 .any =
          .error .inventoryFifoLayerShortage := by
  have hbook : twoLayers.fifo.Bounded := ⟨by decide, by decide, by decide, by decide⟩
  have hdrawn : Drawn twoLayers.env twoLayers.fifo := by
    refine ⟨fun n _ a ha ↦ absurd ha not_mem_nil, fun m n _ hmn ↦ ?_⟩
    show m ≠ n
    omega
  obtain ⟨-, -, htaken, -⟩ := @exit_takes_in_order twoLayers
    ((withdrawUnit 1 0).toMovement twoLayers) 1500 hbook (by decide) hdrawn (by decide)
  obtain ⟨-, hrefused, -⟩ := @exit_takes_in_order twoLayers
    ((withdrawUnit 1 0).toMovement twoLayers) 2500 hbook (by decide) hdrawn (by decide)
  exact ⟨htaken (by decide +kernel), hrefused.mpr (by decide +kernel)⟩

end UInventario
