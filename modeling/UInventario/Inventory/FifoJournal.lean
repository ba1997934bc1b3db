import UInventario.Foundations.Prefixes
import UInventario.Inventory.LayerValue
import UInventario.Inventory.ReconciliationSoundness

/-!
# What the journal of the layers adds up to

A movement shows two FIFO amounts: its value, the sum of its allocations, each rounded, and what the
layers of its product are worth after it, rounded once. The journal follows when every movement
takes the value from where the one before left it.

* The layers are worth their exact value, and the movement shows it rounded (`Store.Layered`). So
  the journal follows exactly when, movement by movement, what rounding cuts off the pieces and off
  the value before them still rounds to nothing (`RemaindersFit`).
* A layer that is used up has given back what it entered with exactly when each exit that takes the
  rest finds booked on it what the rest is worth (`RestsFit`).
* `halves_are_lost`: a hundredth of a unit worth 0.0001 leaves in two halves.
-/

namespace UInventario

open Outcome Rounding Table List

/-! ### The journal of a product -/

/-- What the last of the movements left the layers worth; nothing before the first. -/
def resultingValue (rows : List Movement) : ℤ :=
  (rows.getLast?.bind Movement.fifoResultingInventoryValue).getD 0

/-- The movement takes the value of the layers from where the ones before it left it. -/
def Follows (before : List Movement) (m : Movement) : Prop :=
  ∃ change, m.fifoValueChange = some change ∧
    m.fifoResultingInventoryValue = some (resultingValue before + change)
deriving Decidable

/-- **Every movement follows** the ones before it. -/
def FifoJournal (rows : List Movement) : Prop :=
  ∀ before m, before ++ [m] <+: rows → Follows before m

theorem resultingValue_append (rows : List Movement) (m : Movement) :
    resultingValue (rows ++ [m]) = m.fifoResultingInventoryValue.getD 0 := by
  simp [resultingValue]

theorem fifoJournal_append {rows : List Movement} {m : Movement} :
    FifoJournal (rows ++ [m]) ↔ FifoJournal rows ∧ Follows rows m := by
  constructor
  · intro h
    exact ⟨fun before m' hprefix ↦ h before m'
      (List.IsPrefix.trans hprefix (prefix_append rows [m])),
      h rows m (prefix_refl _)⟩
  · rintro ⟨hrows, hm⟩ before m' hprefix
    rcases prefix_concat_iff.mp hprefix with heq | hprefix
    · obtain ⟨rfl, hlast⟩ := append_inj' heq rfl
      obtain rfl := singleton_inj.mp hlast
      exact hm
    · exact hrows before m' hprefix

def Store.movementsOf (s : Store) (productId : Uuid) : List Movement :=
  s.movements.rows.filter fun m ↦ m.productId = productId

/-- **The journal of every product follows.** -/
def Store.JournalFollows (s : Store) : Prop :=
  ∀ productId, FifoJournal (s.movementsOf productId)

/-- **A layer that is used up has given back what it entered with.** -/
def Store.LayersGiveBack (s : Store) : Prop :=
  ∀ l ∈ s.fifo.layers.rows, l.remainingQuantity = 0 → s.fifo.bookedValue l.id = 0
deriving Decidable

/-! ### What a movement has to find -/

/-- The unit cost at which an entry opens its layer: the one the moving average takes it at. -/
def entryCost (s : Store) (n : NewMovement) : ℤ :=
  match (ensureValuation s n.productId).valuations.find? n.productId with
  | some valuation =>
    ((movementCost s (n.toMovement s) valuation.averageUnitCost).toOption).getD 0
  | none => 0

/-- The quantities and unit costs of the allocations a movement will write. -/
def NewMovement.pieces (n : NewMovement) (s : Store) : List (ℤ × ℤ) :=
  layerPieces s (n.toMovement s) (entryCost s n)

/-- What rounding cuts off the value of the layers and off the pieces of a movement, together. -/
def NewMovement.remainders (n : NewMovement) (s : Store) : ℤ :=
  remainder (s.fifo.valueOf n.productId) QUANTITY_SCALE +
    ((n.pieces s).map fun x ↦ remainder (x.1 * x.2) QUANTITY_SCALE).sum

/-- **The remainders fit**: together they round to nothing. -/
def RemaindersFit (s : Store) : StockEvent → Prop
  | .move n _ => -QUANTITY_SCALE ≤ 2 * n.remainders s ∧ 2 * n.remainders s < QUANTITY_SCALE
  | _ => True

/-- **The rests fit**: what is booked on a layer of which the exit takes the rest is what the rest
is worth at its cost. -/
def RestsFit (s : Store) : StockEvent → Prop
  | .move n _ => ∀ d ∈ exitDraws s (n.toMovement s), d.2 = d.1.remainingQuantity →
    s.fifo.bookedValue d.1.id = quantityTimesCost d.1.remainingQuantity d.1.unitCost
  | _ => True

/-! ### What a posting reads -/

variable {s : Store} {movement : Movement} {l : FifoLayer} {r : FifoBook × ℤ}

theorem transferLine_type {line : Uuid} (h : exitSource s movement = .ok (.transferLine line)) :
    movement.type ≠ .TRANSFER_IN := by
  rw [exitSource] at h
  split at h
  case isTrue htype =>
    rw [htype]
    exact fun hcase ↦ by cases hcase
  case isFalse =>
    split at h
    case isTrue htype =>
      rw [htype]
      exact fun hcase ↦ by cases hcase
    case isFalse => cases h

namespace Posting

variable {s s' : Store} {n : NewMovement} {tracking : Tracking} (p : Posting s n tracking s')

theorem entryCost_eq : entryCost s n = p.unitCost := by
  rw [entryCost, p.valuation_eq]
  show ((movementCost s (n.toMovement s) p.valuation.averageUnitCost).toOption).getD 0 = _
  rw [p.cost_eq]
  rfl

theorem sourceAllocations_eq (hs : s.Linked) (P : Movement → Bool) :
    sourceAllocations p.valuedStore.movements s.fifo P =
      sourceAllocations s.movements s.fifo P := by
  rw [sourceAllocations, sourceAllocations]
  congr 1
  refine filterMap_congr fun a ha ↦ ?_
  obtain ⟨m, hm, hid⟩ := hs.allocations a ha
  have hfind : s.movements.find? a.movementId = some m := Table.find?_eq_some.mpr ⟨hm, hid⟩
  rw [hfind, find?_eq_of_rows_append p.valued_rows hfind]

theorem exitDraws_eq : exitDraws p.valuedStore (n.valuedRow s p.valuation p.unitCost) =
      exitDraws s (n.toMovement s) := by
  have hfifo : p.valuedStore.fifo = s.fifo := by rw [p.valued_eq]
  have hreturns : p.valuedStore.purchaseReturnLines = s.purchaseReturnLines := by rw [p.valued_eq]
  have hsource : exitSource p.valuedStore (n.valuedRow s p.valuation p.unitCost) =
      exitSource s (n.toMovement s) := by
    rw [exitSource, exitSource, receiptLineForReturn, receiptLineForReturn, hreturns]
    rfl
  rw [exitDraws, exitDraws, hsource, hfifo]
  show (if n.quantityChange < 0 then _ else _) = if n.quantityChange < 0 then _ else _
  split
  case isFalse => rfl
  case isTrue =>
    cases hexit : exitSource s (n.toMovement s) with
    | error e => rfl
    | ok source =>
      -- a movement that looks for arrivals is not one
      have hadmits : ∀ l, source.admits p.valuedStore.movements l =
          source.admits s.movements l := by
        intro l
        cases source with
        | any | receiptLine id => rfl
        | transferLine line =>
          have htype : n.type ≠ .TRANSFER_IN := transferLine_type hexit
          refine decide_eq_decide.mpr ⟨?_, ?_⟩
          · rintro ⟨m, hm, hsource⟩
            rw [p.valued_rows, mem_append, mem_singleton] at hm
            rcases hm with hm | rfl
            · exact ⟨m, hm, hsource⟩
            · exact absurd hsource.2.2 htype
          · rintro ⟨m, hm, hsource⟩
            refine ⟨m, ?_, hsource⟩
            rw [p.valued_rows]
            exact mem_append_left _ hm
      have hlayers : consumableLayers p.valuedStore.movements s.fifo n.productId n.locationId
          source = consumableLayers s.movements s.fifo n.productId n.locationId source := by
        simp only [consumableLayers, hadmits]
      exact congrArg (Greedy.draws FifoLayer.remainingQuantity (-n.quantityChange)) hlayers

include p in
/-- **What a posting adds to the allocations** is known before it. -/
theorem allocated_eq (hs : s.Linked) {g : ℤ → ℤ → ℤ} (hg : ∀ unitCost, g 0 unitCost = 0) :
    s'.fifo.allocated (fun _ ↦ g) = s.fifo.allocated (fun _ ↦ g) +
      ((n.pieces s).map fun x ↦ g x.1 x.2).sum := by
  obtain ⟨value, -, hmove, -⟩ := p.layers_of_linked hs
  have hfifo : p.valuedStore.fifo = s.fifo := by rw [p.valued_eq]
  have hpieces : layerPieces p.valuedStore (n.valuedRow s p.valuation p.unitCost) p.unitCost =
      n.pieces s := by
    rw [NewMovement.pieces, p.entryCost_eq, layerPieces, layerPieces, hfifo,
      p.sourceAllocations_eq hs, p.sourceAllocations_eq hs, p.exitDraws_eq]
    rfl
  have hadds := moveLayers_allocated hg
    (fun hentry _ _ hcost ↦ p.sourceCost_entry hentry hcost) hmove
  rw [hpieces, hfifo] at hadds
  exact hadds

theorem row_fifo (hs : s.Linked) : ∃ value,
    moveLayers p.valuedStore (n.valuedRow s p.valuation p.unitCost) = .ok (s'.fifo, value) ∧
      p.row.fifoValueChange = some value ∧
      p.row.fifoResultingInventoryValue =
        some (divideRounded (s'.fifo.valueOf n.productId) QUANTITY_SCALE) := by
  obtain ⟨value, inventoryValue, hmove, -, hlayered⟩ := p.layers_of_linked hs
  have hresulting : p.layeredRow.fifoResultingInventoryValue =
      some (divideRounded (s'.fifo.valueOf n.productId) QUANTITY_SCALE) := by
    refine p.summary_eq.resolve_left fun hnone ↦ ?_
    rw [hlayered] at hnone
    cases hnone
  have hchange : p.layeredRow.fifoValueChange = some value := by rw [hlayered]; rfl
  refine ⟨value, hmove, ?_⟩
  rcases p.row_eq with hrow | ⟨-, -, _, _, hrow⟩
  · rw [hrow]
    exact ⟨hchange, hresulting⟩
  · rw [hrow]
    exact ⟨hchange, hresulting⟩

include p in
theorem valueOf_eq (hs : s.Booked) (hcosted : s.fifo.Costed) (productId : Uuid) :
    s'.fifo.valueOf productId = s.fifo.valueOf productId +
      if n.productId = productId then ((n.pieces s).map fun x ↦ x.1 * x.2).sum else 0 := by
  obtain ⟨value, hwrites⟩ := p.writes_of_linked hs.settled.linked
  have hplaced := (p.inPlace hs).placed
  have hlayers : ∀ a ∈ s'.fifo.allocations.rows,
      a.movementId = (n.valuedRow s p.valuation p.unitCost).id →
      ∃ l, s'.fifo.layers.find? a.layerId = some l ∧ l.productId = n.productId := by
    intro a ha hid
    obtain ⟨l, hl, hproduct, -⟩ := hplaced a ha hid
    exact ⟨l, hl, hproduct⟩
  have hvalue := hwrites.valueOf hcosted hlayers productId
  have hexact : s'.fifo.allocated exactWorth = s.fifo.allocated exactWorth +
      ((n.pieces s).map fun x ↦ x.1 * x.2).sum :=
    p.allocated_eq hs.settled.linked (g := fun quantity unitCost ↦ quantity * unitCost)
      fun unitCost ↦ zero_mul unitCost
  rw [hvalue, hexact, add_sub_cancel_left]

include p in
theorem costed (hs : s.Linked) (hcosted : s.fifo.Costed) : s'.fifo.Costed := by
  obtain ⟨value, hwrites⟩ := p.writes_of_linked hs
  exact hwrites.costed hcosted

include p in
theorem movementsOf_eq (productId : Uuid) : s'.movementsOf productId =
    s.movementsOf productId ++ if n.productId = productId then [p.row] else [] := by
  rw [Store.movementsOf, p.journal, filter_append, filter_cons, p.row_productId]
  by_cases hproduct : n.productId = productId
  · rw [if_pos (decide_eq_true hproduct), if_pos hproduct]
    rfl
  · rw [if_neg (by simpa using hproduct), if_neg hproduct]
    rfl

end Posting

/-! ### One movement -/

/-- **What holds in every run.** The last movement of a product shows what its layers are worth. -/
structure Store.Layered (s : Store) : Prop where
  booked : s.Booked
  costed : s.fifo.Costed
  resulting : ∀ productId, resultingValue (s.movementsOf productId) =
    divideRounded (s.fifo.valueOf productId) QUANTITY_SCALE

theorem Store.layered_fresh (env : Env) : (Store.fresh env).Layered where
  booked := Store.booked_fresh env
  costed := {
    remaining_nonneg := forall_mem_nil _, unitCost_nonneg := forall_mem_nil _,
    value := forall_mem_nil _, layer := forall_mem_nil _ }
  resulting := fun _ ↦ rfl

namespace Posting

variable {s s' : Store} {n : NewMovement} {tracking : Tracking} (p : Posting s n tracking s')

include p in
theorem layered (hs : s.Layered) : s'.Layered where
  booked := p.booked hs.booked
  costed := p.costed hs.booked.settled.linked hs.costed
  resulting := by
    intro productId
    rw [p.movementsOf_eq]
    by_cases hproduct : n.productId = productId
    · obtain ⟨value, -, -, hresulting⟩ := p.row_fifo hs.booked.settled.linked
      rw [if_pos hproduct, resultingValue_append, hresulting, hproduct]
      rfl
    · rw [if_neg hproduct, append_nil, p.valueOf_eq hs.booked hs.costed, if_neg hproduct,
        add_zero]
      exact hs.resulting productId

/-- **When a movement follows**: exactly when its remainders fit. -/
theorem follows_iff (hs : s.Layered) :
    Follows (s.movementsOf n.productId) p.row ↔ RemaindersFit s (.move n tracking) := by
  have hlinked := hs.booked.settled.linked
  obtain ⟨value, hmove, hchange, hresulting⟩ := p.row_fifo hlinked
  have hafter := p.valueOf_eq hs.booked hs.costed n.productId
  rw [if_pos rfl] at hafter
  have hnonneg : 0 ≤ s.fifo.valueOf n.productId + ((n.pieces s).map fun x ↦ x.1 * x.2).sum := by
    rw [← hafter]
    exact (p.costed hlinked hs.costed).valueOf_nonneg n.productId
  -- the value of the movement is the sum of its rounded pieces
  have hvalue : value =
      (((n.pieces s).map fun x ↦ x.1 * x.2).map fun x ↦ roundDiv x QUANTITY_SCALE).sum := by
    have hfifo : p.valuedStore.fifo = s.fifo := by rw [p.valued_eq]
    have hrounded := (moveLayers_writes hmove).value_eq
    rw [hfifo] at hrounded
    have hadds := p.allocated_eq hlinked (g := quantityTimesCost) quantityTimesCost_zero_left
    rw [map_map]
    exact (add_left_cancel (hrounded.symm.trans hadds) :)
  have hrounds := roundDiv_add_sum_iff hnonneg (show (0 : ℤ) < QUANTITY_SCALE by norm_num)
  rw [← hafter, ← hvalue, map_map] at hrounds
  refine Iff.trans ?_ hrounds
  rw [Follows, hchange, hresulting, hs.resulting]
  constructor
  · rintro ⟨change, hsame, hfollows⟩
    obtain rfl := Option.some_inj.mp hsame
    exact Option.some_inj.mp hfollows
  · intro hfollows
    exact ⟨value, rfl, congrArg some hfollows⟩

include p in
theorem journalFollows_iff (hs : s.Layered) (hfollows : s.JournalFollows) :
    s'.JournalFollows ↔ RemaindersFit s (.move n tracking) := by
  rw [← p.follows_iff hs]
  constructor
  · intro h
    have hproduct := h n.productId
    rw [p.movementsOf_eq, if_pos rfl] at hproduct
    exact (fifoJournal_append.mp hproduct).2
  · intro h productId
    rw [p.movementsOf_eq]
    by_cases hproduct : n.productId = productId
    · rw [if_pos hproduct]
      exact fifoJournal_append.mpr ⟨hfollows productId, hproduct ▸ h⟩
    · rw [if_neg hproduct, append_nil]
      exact hfollows productId

end Posting

/-! ### Layers that are used up -/

theorem remaining_single {book : FifoBook} (h : book.layers.find? l.id = some l) :
    book.remaining (fun l' ↦ decide (l'.id = l.id)) = l.remainingQuantity := by
  have hsum := Sums.sum_key_eq FifoLayer.id FifoLayer.remainingQuantity book.layers.nodup
    (mem_of_find? h)
  rw [← hsum]
  simp only [FifoBook.remaining, Table.total, decide_eq_true_eq]

/-- **What an exit does to a layer it draws from.** -/
theorem exit_of_mem (hexit : movement.quantityChange < 0)
    (h : moveLayers s movement = .ok r) {d : FifoLayer × ℤ} (hd : d ∈ exitDraws s movement)
    (hl : r.1.layers.find? d.1.id = some l) : l.remainingQuantity = d.1.remainingQuantity - d.2 ∧
      r.1.allocated (worthOn d.1.id) = s.fifo.allocated (worthOn d.1.id) -
        quantityTimesCost d.2 d.1.unitCost := by
  obtain ⟨hnodup, hcurrent⟩ := exitDraws_current s movement
  have hid : l.id = d.1.id := key_of_find? hl
  constructor
  · have hremaining := moveLayers_exit_remaining hexit h
      (P := fun l' ↦ decide (l'.id = d.1.id)) fun _ _ ↦ rfl
    rw [remaining_single (hcurrent d hd)] at hremaining
    rw [← hid] at hl hremaining
    rw [remaining_single hl, hid] at hremaining
    rw [hremaining]
    simp only [decide_eq_true_eq]
    rw [Sums.sum_key_eq (fun d : FifoLayer × ℤ ↦ d.1.id) Prod.snd hnodup hd]
  · rw [moveLayers_exit (fun _ _ ↦ by simp [worthOn]) hexit h]
    simp only [worthOn]
    rw [Sums.sum_key_eq (fun d : FifoLayer × ℤ ↦ d.1.id)
      (fun d ↦ quantityTimesCost (-d.2) d.1.unitCost) hnodup hd, quantityTimesCost_neg]
    rfl

theorem exit_of_not_mem (hexit : movement.quantityChange < 0)
    (h : moveLayers s movement = .ok r) {l' : FifoLayer} (hl : s.fifo.layers.find? l.id = some l)
    (hl' : r.1.layers.find? l.id = some l') (hnone : ∀ d ∈ exitDraws s movement, d.1.id ≠ l.id) :
    l'.remainingQuantity = l.remainingQuantity ∧
      r.1.allocated (worthOn l.id) = s.fifo.allocated (worthOn l.id) := by
  have hid : l'.id = l.id := key_of_find? hl'
  have hzero : ∀ w : FifoLayer × ℤ → ℤ,
      ((exitDraws s movement).map fun d ↦ if d.1.id = l.id then w d else 0).sum = 0 := by
    intro w
    refine sum_eq_zero fun x hx ↦ ?_
    obtain ⟨d, hd, rfl⟩ := mem_map.mp hx
    exact if_neg (hnone d hd)
  constructor
  · have hremaining := moveLayers_exit_remaining hexit h
      (P := fun l' ↦ decide (l'.id = l.id)) fun _ _ ↦ rfl
    rw [remaining_single hl] at hremaining
    rw [← hid] at hl' hremaining
    rw [remaining_single hl', hid] at hremaining
    rw [hremaining]
    simp only [decide_eq_true_eq]
    rw [hzero Prod.snd, sub_zero]
  · rw [moveLayers_exit (fun _ _ ↦ by simp [worthOn]) hexit h]
    exact (congrArg _ (hzero fun d ↦ quantityTimesCost (-d.2) d.1.unitCost)).trans (add_zero _)

namespace Posting

variable {s s' : Store} {n : NewMovement} {tracking : Tracking} (p : Posting s n tracking s')

include p in
/-- **When the layers give back**: exactly when the rests fit. -/
theorem layersGiveBack_iff (hs : s.Layered) (hback : s.LayersGiveBack) :
    s'.LayersGiveBack ↔ RestsFit s (.move n tracking) := by
  have hlinked := hs.booked.settled.linked
  have hcosted' := p.costed hlinked hs.costed
  have hfifo : p.valuedStore.fifo = s.fifo := by rw [p.valued_eq]
  have hdraws := p.exitDraws_eq
  obtain ⟨value, hmove, -⟩ := p.row_fifo hlinked
  have hwrites := moveLayers_writes hmove
  rw [hfifo] at hwrites
  rcases lt_or_ge n.quantityChange 0 with hexit | hentry
  · constructor
    · intro h d hd hrest
      rw [← hdraws] at hd
      have hcurrent := (exitDraws_current _ _).2 d hd
      rw [hfifo] at hcurrent
      obtain ⟨remaining, hl⟩ := hwrites.find?_of_some hcurrent
      obtain ⟨hremaining, hworth⟩ := exit_of_mem hexit hmove hd hl
      have hempty := h _ (mem_of_find? hl) (by rw [hremaining, hrest, sub_self])
      have hbooked : s'.fifo.bookedValue d.1.id = 0 := hempty
      rw [hcosted'.bookedValue_eq, hworth, hfifo, ← hs.costed.bookedValue_eq, hrest] at hbooked
      exact sub_eq_zero.mp hbooked
    · intro h l hl hempty
      have hl' : s'.fifo.layers.find? l.id = some l := find?_key_of_mem hl
      obtain ⟨l₀, hl₀⟩ := hwrites.find?_of_exit hexit hl'
      have hid : l₀.id = l.id := key_of_find? hl₀
      rw [hcosted'.bookedValue_eq]
      by_cases hsome : ∃ d ∈ exitDraws s (n.toMovement s), d.1.id = l.id
      · obtain ⟨d, hd, hdl⟩ := hsome
        rw [← hdraws] at hd
        obtain ⟨hremaining, hworth⟩ := exit_of_mem hexit hmove hd
          ((congrArg s'.fifo.layers.find? hdl).trans hl')
        rw [hempty] at hremaining
        have hrest : d.2 = d.1.remainingQuantity := by omega
        rw [hfifo, ← hs.costed.bookedValue_eq, h d (hdraws ▸ hd) hrest, hrest, sub_self] at hworth
        exact hdl ▸ hworth
      · have hnone : ∀ d ∈ exitDraws p.valuedStore (n.valuedRow s p.valuation p.unitCost),
            d.1.id ≠ l₀.id := fun d hd hdl ↦ hsome ⟨d, hdraws ▸ hd, hdl.trans hid⟩
        have hfind : p.valuedStore.fifo.layers.find? l₀.id = some l₀ := by
          rw [hfifo, hid]
          exact hl₀
        obtain ⟨hremaining, hworth⟩ := exit_of_not_mem hexit hmove hfind
          ((congrArg s'.fifo.layers.find? hid).trans hl') hnone
        rw [hid, hfifo, ← hs.costed.bookedValue_eq] at hworth
        rw [hworth, ← hid]
        exact hback l₀ (mem_of_find? hl₀) (hremaining.symm.trans hempty)
  · have hnone : exitDraws s (n.toMovement s) = [] := if_neg (not_lt.mpr hentry)
    refine iff_of_true (fun l hl hempty ↦ ?_) fun d hd ↦ ?_
    · have hl' := find?_key_of_mem hl
      rcases hentry.lt_or_eq with hpos | hzero
      · obtain ⟨hold, hbooked⟩ := hwrites.empty_of_entry hs.costed hpos hl' hempty
        exact hbooked.trans (hback l (mem_of_find? hold) hempty)
      · have hsame := congrArg Prod.fst (moveLayers_zero hzero.symm hmove)
        have hbook : s'.fifo = s.fifo := hsame.trans hfifo
        rw [hbook] at hl ⊢
        exact hback l hl hempty
    · rw [hnone] at hd
      exact absurd hd not_mem_nil

end Posting

/-! ### Every run -/

variable {s' : Store}

theorem KeepsJournal.layered (h : KeepsJournal s s') (hs : s.Layered) : s'.Layered where
  booked := hs.booked.of_eq h.movements h.valuations h.fifo h.movementLots h.products
  costed := by
    rw [h.fifo]
    exact hs.costed
  resulting := by
    intro productId
    rw [Store.movementsOf, h.movements, h.fifo]
    exact hs.resulting productId

variable {e : StockEvent}

theorem stockStep_layered (hs : s.Layered) (h : stockStep s e = .ok s') : s'.Layered := by
  rcases stockStep_cases h with ⟨n, tracking, -, ⟨p⟩⟩ | hkeeps
  · exact p.layered hs
  · exact hkeeps.layered hs

theorem stockStep_keepsJournal (he : ∀ n tracking, e ≠ .move n tracking)
    (h : stockStep s e = .ok s') : KeepsJournal s s' := by
  rcases stockStep_cases h with ⟨n, tracking, hmove, -⟩ | hkeeps
  · exact absurd hmove (he n tracking)
  · exact hkeeps

theorem journalFollows_step_iff (hs : s.Layered) (hfollows : s.JournalFollows)
    (h : stockStep s e = .ok s') :
    s'.JournalFollows ↔ RemaindersFit s e := by
  cases e with
  | move n tracking =>
    obtain ⟨p⟩ := postMovement_eq_ok h
    exact p.journalFollows_iff hs hfollows
  | _ =>
    have hkeeps := stockStep_keepsJournal (fun _ _ he ↦ by cases he) h
    refine iff_of_true (fun productId ↦ ?_) trivial
    rw [Store.movementsOf, hkeeps.movements]
    exact hfollows productId

theorem layersGiveBack_step_iff (hs : s.Layered) (hback : s.LayersGiveBack)
    (h : stockStep s e = .ok s') :
    s'.LayersGiveBack ↔ RestsFit s e := by
  cases e with
  | move n tracking =>
    obtain ⟨p⟩ := postMovement_eq_ok h
    exact p.layersGiveBack_iff hs hback
  | _ =>
    have hkeeps := stockStep_keepsJournal (fun _ _ he ↦ by cases he) h
    refine iff_of_true (fun l hl hempty ↦ ?_) trivial
    rw [hkeeps.fifo] at hl ⊢
    exact hback l hl hempty

/-- **When journal and layers add up**: when the remainders of every accepted movement fit. -/
theorem fifo_adds_up_iff (env : Env) (events : List StockEvent) : ((∀ reached, reached <+: events →
        (run stockStep (Store.fresh env) reached).JournalFollows) ↔
      Along stockStep (Accepted stockStep RemaindersFit) (Store.fresh env) events) ∧
    ((∀ reached, reached <+: events → (run stockStep (Store.fresh env) reached).LayersGiveBack) ↔
      Along stockStep (Accepted stockStep RestsFit) (Store.fresh env) events) := by
  have hjournal : (Store.fresh env).JournalFollows := fun productId before m hprefix ↦ by
    exact absurd (prefix_nil.mp hprefix) (by simp)
  have hback : (Store.fresh env).LayersGiveBack := forall_mem_nil _
  constructor
  · exact forall_prefix_iff_along (I := Store.Layered) (fun _ _ _ hs h ↦ stockStep_layered hs h)
      (fun _ _ _ hs hfollows h ↦ journalFollows_step_iff hs hfollows h)
      (Store.layered_fresh env) hjournal events
  · exact forall_prefix_iff_along (I := Store.Layered) (fun _ _ _ hs h ↦ stockStep_layered hs h)
      (fun _ _ _ hs hback h ↦ layersGiveBack_step_iff hs hback h)
      (Store.layered_fresh env) hback events

/-! ### Two halves of a hundredth -/

def receiveHundredth : NewMovement :=
  { receiveUnit 1 1 10 with quantityChange := 10 }

def withdrawHalf (key : ℕ) (resulting : ℤ) : NewMovement :=
  { withdrawUnit 1 resulting with quantityChange := -5, idempotencyKey := .request [key] }

/-- A hundredth of a unit is received at 0.01 and leaves in two halves. -/
def twoHalves : List StockEvent :=
  [.addProduct (widget 1),
    .addLocation { id := 1, warehouseId := 1, active := true, createdAt := 0 },
    .addReceiptLine (costLine 1 1 100), .openBalance (availableStock 1 10),
    .move receiveHundredth {}, .writeBalance (availableStock 1 5), .move (withdrawHalf 1 5) {},
    .writeBalance (availableStock 1 0), .move (withdrawHalf 2 0) {}]

/-- **The halves are lost.** The receipt brings 0.0001, each of the exits takes 0.0001, and after
the first of them 0.0001 is there. -/
theorem halves_are_lost :
    ((run stockStep (Store.fresh default) twoHalves).movements.rows.map fun m ↦
      (m.fifoValueChange, m.fifoResultingInventoryValue)) =
        [(some 1, some 1), (some (-1), some 1), (some (-1), some 0)] ∧
    ¬(run stockStep (Store.fresh default) twoHalves).JournalFollows ∧
    ¬(run stockStep (Store.fresh default) twoHalves).LayersGiveBack := by
  refine ⟨by decide +kernel, fun h ↦ ?_, by decide +kernel⟩
  let rows := (run stockStep (Store.fresh default) twoHalves).movementsOf 1
  have hexit := h 1 (rows.take 1) (rows[1]?.get (by decide +kernel)) (by decide +kernel)
  exact absurd hexit (by decide +kernel)

end UInventario
