import UInventario.Inventory.ReconciliationSoundness

/-!
# What the active method changes in the moving average

Two runs of the same movements, in which the method was `MOVING_AVERAGE` or `FIFO` at each step
independently, keep the same valuations as long as every void and return finds the same cost on the
sale row it takes its cost from: the seal under `FIFO` overwrites the unit cost of the row, and a
void reads it back.

`TwoRuns` are the pairs of stores two such runs reach, `Agree` is the relation they keep, and
`valuations_eq_of_twoRuns` its consequence. Without the condition a sale that is voided leaves 30 in
one run and 25 in the other (`valuations_differ_after_void`).
-/

namespace UInventario

open Outcome List

/-! ### Two runs -/

def StockEvent.SteersMethod : StockEvent → Prop
  | .changePolicy input => input.targetMethod ≠ .SPECIFIC_LOT
  | .reconcile _ => True
  | _ => False

def StockEvent.WritesDocument : StockEvent → Prop
  | .move _ _ | .changePolicy _ | .reconcile _ => False
  | _ => True

/-- **Two runs of the same movements** from one store, with changes of the method in one of them. -/
inductive TwoRuns (C : Store → Store → NewMovement → Prop) : Store → Store → Prop
  | start {s : Store} (hs : ReachableStock s) : TwoRuns C s s
  | move {s₁ s₂ s₁' s₂' : Store} {n : NewMovement} {tracking : Tracking}
      (hruns : TwoRuns C s₁ s₂) (hmethod₁ : s₁.method ≠ .SPECIFIC_LOT)
      (hmethod₂ : s₂.method ≠ .SPECIFIC_LOT) (hC : C s₁ s₂ n)
      (h₁ : postMovement s₁ n tracking = .ok s₁') (h₂ : postMovement s₂ n tracking = .ok s₂') :
      TwoRuns C s₁' s₂'
  | document {s₁ s₂ s₁' s₂' : Store} {e : StockEvent} (hruns : TwoRuns C s₁ s₂)
      (he : e.WritesDocument) (h₁ : stockStep s₁ e = .ok s₁') (h₂ : stockStep s₂ e = .ok s₂') :
      TwoRuns C s₁' s₂'
  | steerLeft {s₁ s₂ s₁' : Store} {e : StockEvent} (hruns : TwoRuns C s₁ s₂)
      (he : e.SteersMethod) (h : stockStep s₁ e = .ok s₁') : TwoRuns C s₁' s₂
  | steerRight {s₁ s₂ s₂' : Store} {e : StockEvent} (hruns : TwoRuns C s₁ s₂)
      (he : e.SteersMethod) (h : stockStep s₂ e = .ok s₂') : TwoRuns C s₁ s₂'

/-- **The condition on a movement.** The sale row it takes its cost from shows the same in both
runs. -/
def SameSourceCost (s₁ s₂ : Store) (n : NewMovement) : Prop :=
  n.type = .SALE_VOID ∨ n.type = .SALE_RETURN →
    ∀ m₁ ∈ originalSaleMovement s₁.movements (n.toMovement s₁),
      ∀ m₂ ∈ originalSaleMovement s₂.movements (n.toMovement s₂),
        m₁.valuationMethod = m₂.valuationMethod ∨ m₁.unitCost = m₂.unitCost
deriving Decidable

/-! ### What the passes read of the journal -/

def SameStatic (movements₁ movements₂ : Table Movement) : Prop :=
  movements₁.rows.map Movement.static = movements₂.rows.map Movement.static

variable {movements₁ movements₂ : Table Movement}

section

variable (h : SameStatic movements₁ movements₂)
include h

theorem SameStatic.find? (id : Uuid) :
    (movements₁.find? id).map Movement.static = (movements₂.find? id).map Movement.static :=
  Table.map_find?_eq (fun r r' hr ↦ show r.static.id = r'.static.id by rw [hr]) h id

theorem SameStatic.exists_mem {P : Movement → Prop} (hP : ∀ m, P m ↔ P m.static) :
    (∃ m ∈ movements₁.rows, P m) ↔ ∃ m ∈ movements₂.rows, P m := by
  have himage : ∀ rows : List Movement,
      (∃ m ∈ rows, P m) ↔ ∃ m ∈ rows.map Movement.static, P m := by
    intro rows
    constructor
    · rintro ⟨m, hm, hPm⟩
      exact ⟨m.static, mem_map_of_mem hm, (hP m).mp hPm⟩
    · rintro ⟨_, himage, hPm⟩
      obtain ⟨m, hm, rfl⟩ := List.mem_map.mp himage
      exact ⟨m, hm, (hP m).mpr hPm⟩
  rw [himage, himage movements₂.rows, h]

theorem SameStatic.sourceAllocations {book : FifoBook}
    {p : Movement → Bool} (hp : ∀ m, p m = p m.static) :
    UInventario.sourceAllocations movements₁ book p =
      UInventario.sourceAllocations movements₂ book p := by
  rw [UInventario.sourceAllocations, UInventario.sourceAllocations]
  congr 1
  apply filterMap_congr
  intro a _
  have hfind := h.find? a.movementId
  cases h₁ : movements₁.find? a.movementId with
  | none =>
    rw [h₁] at hfind
    have h₂ : movements₂.find? a.movementId = none := Option.map_eq_none_iff.mp hfind.symm
    rw [h₂]
  | some m₁ =>
    rw [h₁] at hfind
    obtain ⟨m₂, h₂, hstatic⟩ := Option.map_eq_some_iff.mp hfind.symm
    have hcreated : m₂.createdAt = m₁.createdAt := (congrArg Movement.createdAt hstatic :)
    have hsame : p m₂ = p m₁ := by rw [hp m₂, hp m₁, hstatic]
    rw [h₂]
    cases book.layers.find? a.layerId with
    | none => rfl
    | some l => simp only [hsame, hcreated]

theorem SameStatic.consumableLayers (book : FifoBook)
    (productId locationId : Uuid) (source : LayerSource) :
    UInventario.consumableLayers movements₁ book productId locationId source =
      UInventario.consumableLayers movements₂ book productId locationId source := by
  have hadmits : ∀ l, source.admits movements₁ l = source.admits movements₂ l := by
    intro l
    cases source with
    | any | receiptLine id => rfl
    | transferLine id =>
      exact decide_eq_decide.mpr (h.exists_mem fun m ↦ Iff.rfl)
  rw [UInventario.consumableLayers, UInventario.consumableLayers]
  simp only [hadmits]

end

/-- The receipt lines and the return lines of two stores agree but for their lots. -/
structure SameDocuments (s₁ s₂ : Store) : Prop where
  receiptLines : ∀ id, (s₁.purchaseReceiptLines.find? id).map (fun l ↦ { l with lotId := none }) =
    (s₂.purchaseReceiptLines.find? id).map fun l ↦ { l with lotId := none }
  returnLines : ∀ id, (s₁.purchaseReturnLines.find? id).map (fun l ↦ { l with lotId := none }) =
    (s₂.purchaseReturnLines.find? id).map fun l ↦ { l with lotId := none }

variable {s₁ s₂ : Store} {C : Store → Store → NewMovement → Prop}

theorem SameDocuments.receiptLine (h : SameDocuments s₁ s₂) (id : Option Uuid) :
    (id.bind s₁.purchaseReceiptLines.find?).map (fun l ↦ (l.unitCost, l.currency)) =
      (id.bind s₂.purchaseReceiptLines.find?).map fun l ↦ (l.unitCost, l.currency) := by
  cases id with
  | none => rfl
  | some id =>
    have hlines := congrArg
      (Option.map fun l : PurchaseReceiptLine ↦ (l.unitCost, l.currency)) (h.receiptLines id)
    rw [Option.map_map, Option.map_map] at hlines
    exact hlines

theorem SameDocuments.returnLine (h : SameDocuments s₁ s₂) (id : Option Uuid) :
    (id.bind s₁.purchaseReturnLines.find?).map PurchaseReturnLine.purchaseReceiptLineId =
      (id.bind s₂.purchaseReturnLines.find?).map PurchaseReturnLine.purchaseReceiptLineId := by
  cases id with
  | none => rfl
  | some id =>
    have hlines := congrArg (Option.map PurchaseReturnLine.purchaseReceiptLineId) (h.returnLines id)
    rw [Option.map_map, Option.map_map] at hlines
    exact hlines

theorem demand_bind_congr {α β : Type} {o₁ o₂ : Option α} {e : Failure} {f : α → β}
    (h : o₁.map f = o₂.map f) :
    (demand o₁ e >>= fun a ↦ pure (f a)) = (demand o₂ e >>= fun a ↦ pure (f a)) := by
  cases o₁ <;> cases o₂ <;> simp_all [demand]

theorem sourceCost_congr (henv : s₁.env = s₂.env) (hdocuments : SameDocuments s₁ s₂)
    (movement : Movement) :
    sourceCost s₁ movement = sourceCost s₂ movement := by
  rw [sourceCost, sourceCost, henv]
  split
  · exact demand_bind_congr (hdocuments.receiptLine movement.purchaseReceiptLineId)
  · rfl

theorem exitSource_congr (hdocuments : SameDocuments s₁ s₂) (movement : Movement) :
    exitSource s₁ movement = exitSource s₂ movement := by
  have hline : receiptLineForReturn s₁ movement = receiptLineForReturn s₂ movement :=
    demand_bind_congr (hdocuments.returnLine movement.purchaseReturnLineId)
  rw [exitSource, exitSource, hline]

/-- **The pass over the layers reads the static columns of the journal**, layers and documents. -/
theorem moveLayers_congr (henv : s₁.env = s₂.env) (hfifo : s₁.fifo = s₂.fifo)
    (hjournal : SameStatic s₁.movements s₂.movements) (hdocuments : SameDocuments s₁ s₂)
    (movement : Movement) : moveLayers s₁ movement = moveLayers s₂ movement := by
  have hrestore : ∀ q, restoreSale s₁.env s₁.movements s₁.fifo movement q =
      restoreSale s₂.env s₂.movements s₂.fifo movement q := by
    intro q
    rw [restoreSale, restoreSale, henv, hfifo, hjournal.sourceAllocations fun _ ↦ rfl]
  have htransfer : ∀ q, transferLayers s₁.env s₁.movements s₁.fifo movement q =
      transferLayers s₂.env s₂.movements s₂.fifo movement q := by
    intro q
    rw [transferLayers, transferLayers, henv, hfifo, hjournal.sourceAllocations fun _ ↦ rfl]
  have hconsume : ∀ q source, consumeLayers s₁.env s₁.movements s₁.fifo movement q source =
      consumeLayers s₂.env s₂.movements s₂.fifo movement q source := by
    intro q source
    unfold consumeLayers
    rw [henv, hfifo, hjournal.consumableLayers]
  have hcreate : ∀ input, createLayer s₁.env s₁.fifo movement input =
      createLayer s₂.env s₂.fifo movement input := by
    intro input
    rw [henv, hfifo]
  rw [moveLayers, moveLayers]
  simp only [hrestore, htransfer, hconsume, hcreate, sourceCost_congr henv hdocuments,
    exitSource_congr hdocuments]
  rw [hfifo]

/-! ### The cost of a void or a return -/

def Store.Priced (s : Store) : Prop :=
  ∀ m ∈ s.movements.rows, ∃ c, m.unitCost = some c

theorem SameStatic.originalSaleMovement (h : SameStatic s₁.movements s₂.movements) (h₁ : s₁.Priced)
    (h₂ : s₂.Priced) (movement : Movement) :
    (UInventario.originalSaleMovement s₁.movements movement).map Movement.static =
      (UInventario.originalSaleMovement s₂.movements movement).map Movement.static := by
  have hsorted : ∀ s : Store, s.Priced →
      (UInventario.originalSaleMovement s.movements movement).map Movement.static =
        (orderBy Movement.createdBefore ((s.movements.rows.map Movement.static).filter fun m ↦
          sqlEq m.saleId movement.saleId && sqlEq m.saleLineId movement.saleLineId &&
            decide (m.locationId = movement.locationId) && decide (m.type = .SALE))).head? := by
    intro s hs
    have hfilter : (s.movements.rows.filter (isCostSource movement)).map Movement.static =
        (s.movements.rows.map Movement.static).filter fun m ↦
          sqlEq m.saleId movement.saleId && sqlEq m.saleLineId movement.saleLineId &&
            decide (m.locationId = movement.locationId) && decide (m.type = .SALE) := by
      rw [filter_map]
      congr 1
      apply filter_congr
      intro m hm
      obtain ⟨c, hc⟩ := hs m hm
      show (_ && m.unitCost.isSome) = _
      rw [hc]
      exact Bool.and_true _
    rw [UInventario.originalSaleMovement, ← hfilter, orderBy, orderBy,
      ← map_insertionSort Movement.createdBefore Movement.createdBefore Movement.static _
        (fun _ _ _ _ ↦ Iff.rfl), head?_map]
  rw [hsorted s₁ h₁, hsorted s₂ h₂, h]

/-! ### What one posting does in both runs -/

namespace Posting

variable {s s' : Store} {n : NewMovement} {tracking : Tracking} (p : Posting s n tracking s')

include p in
theorem documents : SameDocuments s' s := by
  have hstart : p.sealedStore.purchaseReceiptLines = s.purchaseReceiptLines ∧
      p.sealedStore.purchaseReturnLines = s.purchaseReturnLines := by
    rw [p.sealed_eq, p.valued_eq]
    exact ⟨rfl, rfl⟩
  have hend : s'.purchaseReceiptLines = p.trackedStore.purchaseReceiptLines ∧
      s'.purchaseReturnLines = p.trackedStore.purchaseReturnLines :=
    ⟨(congrArg Store.purchaseReceiptLines p.tracked_eq :),
      (congrArg Store.purchaseReturnLines p.tracked_eq :)⟩
  constructor
  · intro id
    rw [hend.1, ← hstart.1]
    exact p.documents_eq.receiptLines id
  · intro id
    rw [hend.2, ← hstart.2]
    exact p.documents_eq.returnLines id

theorem row_priced (hs : s.Linked) : ∃ c, p.row.unitCost = some c := by
  rcases p.row_eq with hrow | ⟨-, -, c, _, hrow⟩
  · rw [hrow]
    by_cases hmethod : s.method = .FIFO
    · obtain ⟨value, -, -, hcost⟩ := p.sealedRow_of_fifo hs hmethod
      exact ⟨_, hcost⟩
    · exact ⟨_, (p.sealedRow_of_ne_fifo hmethod).2⟩
  · exact ⟨c, by rw [hrow]; rfl⟩

include p in
theorem priced (hs : s.Linked) (hpriced : s.Priced) : s'.Priced := by
  intro m hm
  rcases p.eq_of_mem hm with hm | rfl
  · exact hpriced m hm
  · exact p.row_priced hs

theorem row_method : p.row.valuationMethod = s.method := by
  rcases p.row_eq with hrow | ⟨-, -, _, _, hrow⟩ <;> rw [hrow] <;> rfl

end Posting

/-- **What the two runs have in common**: all but unit costs under different methods. -/
structure Agree (s₁ s₂ : Store) : Prop where
  env : s₁.env = s₂.env
  products : s₁.products = s₂.products
  valuations : s₁.valuations = s₂.valuations
  fifo : s₁.fifo = s₂.fifo
  journal : SameStatic s₁.movements s₂.movements
  documents : SameDocuments s₁ s₂
  costs : ∀ id m₁ m₂, s₁.movements.find? id = some m₁ → s₂.movements.find? id = some m₂ →
    m₁.valuationMethod = m₂.valuationMethod → m₁.unitCost = m₂.unitCost

namespace Agree

variable {s₁ s₂ s₁' s₂' : Store} {n : NewMovement} {tracking : Tracking}

theorem refl (s : Store) : Agree s s where
  env := rfl
  products := rfl
  valuations := rfl
  fifo := rfl
  journal := rfl
  documents := ⟨fun _ ↦ rfl, fun _ ↦ rfl⟩
  costs := fun _ _ _ h₁ h₂ _ ↦ by rw [Option.some_inj.mp (h₁.symm.trans h₂)]

section

variable (h : Agree s₁ s₂) {e : StockEvent}
include h

theorem toMovement (n : NewMovement) : n.toMovement s₁ = n.toMovement s₂ := by
  have hlength : s₁.movements.rows.length = s₂.movements.rows.length := by
    have := congrArg List.length h.journal
    rwa [length_map, length_map] at this
  rw [NewMovement.toMovement, NewMovement.toMovement, Store.freshMovementId,
    Store.freshMovementId, Store.movementTime, Store.movementTime, h.env, hlength]

theorem freshMovementId : s₁.freshMovementId = s₂.freshMovementId :=
  congrArg Movement.id (h.toMovement {
    productId := 0, locationId := 0, type := .ENTRY, quantityChange := 0, resultingQuantity := 0,
    idempotencyKey := .request [] })

theorem movementCost (hpriced₁ : s₁.Priced) (hpriced₂ : s₂.Priced)
    (hsource : SameSourceCost s₁ s₂ n) (average : ℤ) :
    UInventario.movementCost s₁ (n.toMovement s₁) average =
      UInventario.movementCost s₂ (n.toMovement s₂) average := by
  have hundo : n.type = .SALE_VOID ∨ n.type = .SALE_RETURN →
      (originalSaleMovement s₁.movements (n.toMovement s₁)).bind Movement.unitCost =
        (originalSaleMovement s₂.movements (n.toMovement s₂)).bind Movement.unitCost := by
    intro htype
    have hstatic := h.journal.originalSaleMovement hpriced₁ hpriced₂ (n.toMovement s₁)
    have hsame := hsource htype
    rw [← h.toMovement n] at hsame ⊢
    cases h₁ : originalSaleMovement s₁.movements (n.toMovement s₁) with
    | none =>
      rw [h₁] at hstatic
      rw [Option.map_eq_none_iff.mp hstatic.symm]
    | some m₁ =>
      rw [h₁] at hstatic
      obtain ⟨m₂, h₂, hm⟩ := Option.map_eq_some_iff.mp hstatic.symm
      rw [h₂]
      rcases hsame m₁ h₁ m₂ h₂ with hmethod | hcost
      · have hid : m₂.id = m₁.id := (congrArg Movement.id hm :)
        have hmem : ∀ {t : Table Movement} {m : Movement},
            originalSaleMovement t (n.toMovement s₁) = some m → t.find? m.id = some m := by
          intro t m ht
          have := mem_of_mem_head? ht
          rw [mem_orderBy, mem_filter] at this
          exact Table.find?_key_of_mem this.1
        exact h.costs m₁.id m₁ m₂ (hmem h₁) (hid ▸ hmem h₂) hmethod
      · exact hcost
  rw [UInventario.movementCost, UInventario.movementCost, h.toMovement n]
  congr 1
  rw [resolveSourceCost, resolveSourceCost]
  split
  case h_1 =>
    have hline := congrArg (Option.map Prod.fst)
      (h.documents.receiptLine (n.toMovement s₂).purchaseReceiptLineId)
    rw [Option.map_map, Option.map_map] at hline
    exact demand_bind_congr hline
  case h_2 htype => rw [← h.toMovement n, hundo (Or.inl htype), h.toMovement n]
  case h_3 htype => rw [← h.toMovement n, hundo (Or.inr htype), h.toMovement n]
  case h_4 => rfl

/-- **The step.** Postings of one movement from stores that agree lead to stores that agree. -/
theorem posting (hlinked₁ : s₁.Linked) (hlinked₂ : s₂.Linked)
    (hpriced₁ : s₁.Priced) (hpriced₂ : s₂.Priced) (hmethod₁ : s₁.method ≠ .SPECIFIC_LOT)
    (hmethod₂ : s₂.method ≠ .SPECIFIC_LOT) (hsource : SameSourceCost s₁ s₂ n)
    (p₁ : Posting s₁ n tracking s₁') (p₂ : Posting s₂ n tracking s₂') : Agree s₁' s₂' := by
  have hmovement := h.toMovement n
  have hensure : (ensureValuation s₁ n.productId).valuations =
      (ensureValuation s₂ n.productId).valuations :=
    ensureValuation_congr h.products h.valuations n.productId
  -- the moving average
  have hvaluation : p₁.valuation = p₂.valuation := by
    have h₁ := p₁.valuation_eq
    rw [hensure] at h₁
    exact Option.some_inj.mp (h₁.symm.trans p₂.valuation_eq)
  have hcost : p₁.unitCost = p₂.unitCost := by
    have h₁ := p₁.cost_eq
    rw [h.movementCost hpriced₁ hpriced₂ hsource, hvaluation, p₂.cost_eq] at h₁
    exact (Except.ok.inj h₁).symm
  have hrow : n.valuedRow s₁ p₁.valuation p₁.unitCost =
      n.valuedRow s₂ p₂.valuation p₂.unitCost := by
    rw [hvaluation, hcost, NewMovement.valuedRow, NewMovement.valuedRow, hmovement]
  -- the layers
  have hvalued : SameStatic p₁.valuedStore.movements p₂.valuedStore.movements := by
    rw [SameStatic, p₁.valued_rows, p₂.valued_rows, map_append, map_append, h.journal,
      hrow]
  have hlayers : moveLayers p₁.valuedStore (n.valuedRow s₁ p₁.valuation p₁.unitCost) =
      moveLayers p₂.valuedStore (n.valuedRow s₂ p₂.valuation p₂.unitCost) := by
    have hstart₁ := p₁.valued_eq
    have hstart₂ := p₂.valued_eq
    rw [hrow]
    refine moveLayers_congr ?_ ?_ hvalued ⟨fun id ↦ ?_, fun id ↦ ?_⟩ _
    · rw [hstart₁, hstart₂, h.env]
    · rw [hstart₁, hstart₂, h.fifo]
    · rw [hstart₁, hstart₂]
      exact h.documents.receiptLines id
    · rw [hstart₁, hstart₂]
      exact h.documents.returnLines id
  obtain ⟨value₁, _, hmove₁, -⟩ := p₁.layers_of_linked hlinked₁
  obtain ⟨value₂, _, hmove₂, -⟩ := p₂.layers_of_linked hlinked₂
  have hmoved : (s₁'.fifo, value₁) = (s₂'.fifo, value₂) := by
    rw [hmove₁, hmove₂] at hlayers
    exact Except.ok.inj hlayers
  refine ⟨?_, ?_, ?_, congrArg Prod.fst hmoved, ?_, ?_, ?_⟩
  · rw [p₁.store_eq, p₂.store_eq]
    exact h.env
  · rw [p₁.products_eq, p₂.products_eq, hmovement, h.products, hvaluation, hcost]
  · rw [p₁.valuations_eq, p₂.valuations_eq, hensure, hmovement, hvaluation, hcost]
  · rw [SameStatic, p₁.journal, p₂.journal, map_append, map_append, h.journal]
    simp only [map_cons, map_nil, p₁.static_row, p₂.static_row, hmovement]
  · exact ⟨fun id ↦ (p₁.documents.receiptLines id).trans
        ((h.documents.receiptLines id).trans (p₂.documents.receiptLines id).symm),
      fun id ↦ (p₁.documents.returnLines id).trans
        ((h.documents.returnLines id).trans (p₂.documents.returnLines id).symm)⟩
  · intro id m₁ m₂ h₁ h₂ hmethod
    rcases p₁.find?_cases h₁ with ⟨hne, h₁⟩ | ⟨rfl, rfl⟩
    · rcases p₂.find?_cases h₂ with ⟨-, h₂⟩ | ⟨rfl, -⟩
      · exact h.costs id m₁ m₂ h₁ h₂ hmethod
      · exact absurd h.freshMovementId.symm hne
    · rcases p₂.find?_cases h₂ with ⟨hne, -⟩ | ⟨-, rfl⟩
      · exact absurd h.freshMovementId hne
      rw [p₁.row_method, p₂.row_method] at hmethod
      rw [p₁.row_of_ne_specificLot hmethod₁, p₂.row_of_ne_specificLot hmethod₂]
      by_cases hfifo : s₁.method = .FIFO
      · obtain ⟨v₁, hv₁, -, hc₁⟩ := p₁.sealedRow_of_fifo hlinked₁ hfifo
        obtain ⟨v₂, hv₂, -, hc₂⟩ := p₂.sealedRow_of_fifo hlinked₂ (hmethod ▸ hfifo)
        rw [hlayers, hv₂] at hv₁
        have hvalue : v₂ = v₁ := congrArg Prod.snd (Except.ok.inj hv₁)
        rw [hc₁, hc₂, hvalue]
      · rw [(p₁.sealedRow_of_ne_fifo hfifo).2,
          (p₂.sealedRow_of_ne_fifo (hmethod ▸ hfifo)).2, hcost]

theorem steer (henv : s₁'.env = s₁.env) (hproducts : s₁'.products = s₁.products)
    (hvaluations : s₁'.valuations = s₁.valuations) (hfifo : s₁'.fifo = s₁.fifo)
    (hmovements : s₁'.movements = s₁.movements)
    (hreceipts : s₁'.purchaseReceiptLines = s₁.purchaseReceiptLines)
    (hreturns : s₁'.purchaseReturnLines = s₁.purchaseReturnLines) : Agree s₁' s₂ where
  env := henv.trans h.env
  products := hproducts.trans h.products
  valuations := hvaluations.trans h.valuations
  fifo := hfifo.trans h.fifo
  journal := by rw [hmovements]; exact h.journal
  documents := ⟨by rw [hreceipts]; exact h.documents.receiptLines,
    by rw [hreturns]; exact h.documents.returnLines⟩
  costs := by rw [hmovements]; exact h.costs

theorem symm : Agree s₂ s₁ where
  env := h.env.symm
  products := h.products.symm
  valuations := h.valuations.symm
  fifo := h.fifo.symm
  journal := Eq.symm h.journal
  documents := ⟨fun id ↦ (h.documents.receiptLines id).symm,
    fun id ↦ (h.documents.returnLines id).symm⟩
  costs := fun id m₁ m₂ h₁ h₂ hmethod ↦ (h.costs id m₂ m₁ h₂ h₁ hmethod.symm).symm

theorem steerMethod (he : e.SteersMethod) (hstep : stockStep s₁ e = .ok s₁') : Agree s₁' s₂ := by
  cases e with
  | changePolicy input =>
    have hchange := changeValuationPolicy_of_ne he hstep
    apply h.steer <;> rw [hchange]
  | reconcile idempotencyKey =>
    have hrun := runReconciliation_eq_ok hstep
    apply h.steer <;> rw [hrun]
  | _ => exact he.elim

theorem document (he : e.WritesDocument)
    (h₁ : stockStep s₁ e = .ok s₁') (h₂ : stockStep s₂ e = .ok s₂') : Agree s₁' s₂' := by
  cases e with
  | move | changePolicy | reconcile => exact he.elim
  | addProduct product =>
    obtain ⟨products₁, hinsert₁, h₁⟩ := bind_eq_ok.mp h₁
    obtain ⟨products₂, hinsert₂, h₂⟩ := bind_eq_ok.mp h₂
    obtain rfl := pure_eq_ok.mp h₁
    obtain rfl := pure_eq_ok.mp h₂
    rw [h.products, hinsert₂] at hinsert₁
    exact { h with products := (Except.ok.inj hinsert₁).symm
                   documents := ⟨h.documents.receiptLines, h.documents.returnLines⟩ }
  | editProduct product =>
    obtain rfl := pure_eq_ok.mp h₁
    obtain rfl := pure_eq_ok.mp h₂
    exact { h with products := by dsimp only; rw [h.products]
                   documents := ⟨h.documents.receiptLines, h.documents.returnLines⟩ }
  | writeBalance balance =>
    obtain rfl := pure_eq_ok.mp h₁
    obtain rfl := pure_eq_ok.mp h₂
    exact { h with documents := ⟨h.documents.receiptLines, h.documents.returnLines⟩ }
  | addLocation | openBalance | addSaleReturnLine =>
    obtain ⟨_, -, h₁⟩ := bind_eq_ok.mp h₁
    obtain ⟨_, -, h₂⟩ := bind_eq_ok.mp h₂
    obtain rfl := pure_eq_ok.mp h₁
    obtain rfl := pure_eq_ok.mp h₂
    exact { h with documents := ⟨h.documents.receiptLines, h.documents.returnLines⟩ }
  | addReceiptLine line =>
    obtain ⟨_, hinsert₁, h₁⟩ := bind_eq_ok.mp h₁
    obtain ⟨_, hinsert₂, h₂⟩ := bind_eq_ok.mp h₂
    obtain rfl := pure_eq_ok.mp h₁
    obtain rfl := pure_eq_ok.mp h₂
    exact { h with documents := ⟨Table.map_find?_insert h.documents.receiptLines
      (demand_eq_ok.mp hinsert₁) (demand_eq_ok.mp hinsert₂), h.documents.returnLines⟩ }
  | addPurchaseReturnLine line =>
    obtain ⟨_, hinsert₁, h₁⟩ := bind_eq_ok.mp h₁
    obtain ⟨_, hinsert₂, h₂⟩ := bind_eq_ok.mp h₂
    obtain rfl := pure_eq_ok.mp h₁
    obtain rfl := pure_eq_ok.mp h₂
    exact { h with documents := ⟨h.documents.receiptLines, Table.map_find?_insert
      h.documents.returnLines (demand_eq_ok.mp hinsert₁) (demand_eq_ok.mp hinsert₂)⟩ }

end

end Agree

/-! ### The runs -/

theorem ReachableStock.priced {s : Store} (hs : ReachableStock s) : s.Priced := by
  obtain ⟨env, events, rfl⟩ := hs
  have hrun : (run stockStep (Store.fresh env) events).Settled ∧
      (run stockStep (Store.fresh env) events).Priced := by
    refine run_induct (P := fun t : Store ↦ t.Settled ∧ t.Priced)
      (fun t e t' ⟨ht, hpriced⟩ hstep ↦ ⟨stockStep_settled ht hstep, ?_⟩)
      ⟨Store.settled_fresh env, forall_mem_nil _⟩ events
    rcases stockStep_cases hstep with ⟨n, tracking, -, ⟨p⟩⟩ | hkeeps
    · exact p.priced ht.linked hpriced
    · intro m hm
      rw [hkeeps.movements] at hm
      exact hpriced m hm
  exact hrun.2

theorem TwoRuns.reachable (h : TwoRuns C s₁ s₂) : ReachableStock s₁ ∧ ReachableStock s₂ := by
  induction h with
  | start hs => exact ⟨hs, hs⟩
  | @move _ _ _ _ n tracking _ _ _ _ h₁ h₂ ih =>
    exact ⟨@ReachableStock.step _ _ (.move n tracking) ih.1 h₁,
      @ReachableStock.step _ _ (.move n tracking) ih.2 h₂⟩
  | document _ _ h₁ h₂ ih => exact ⟨ih.1.step h₁, ih.2.step h₂⟩
  | steerLeft _ _ h ih => exact ⟨ih.1.step h, ih.2⟩
  | steerRight _ _ h ih => exact ⟨ih.1, ih.2.step h⟩

/-- **Two runs whose voids and returns find the same cost stay in agreement.** -/
theorem TwoRuns.agree (h : TwoRuns SameSourceCost s₁ s₂) : Agree s₁ s₂ := by
  induction h with
  | start => exact .refl _
  | move hruns hmethod₁ hmethod₂ hsource h₁ h₂ ih =>
    obtain ⟨hs₁, hs₂⟩ := hruns.reachable
    obtain ⟨p₁⟩ := postMovement_eq_ok h₁
    obtain ⟨p₂⟩ := postMovement_eq_ok h₂
    exact ih.posting hs₁.settled.linked hs₂.settled.linked hs₁.priced hs₂.priced hmethod₁ hmethod₂
      hsource p₁ p₂
  | document _ he h₁ h₂ ih => exact ih.document he h₁ h₂
  | steerLeft _ he h ih => exact ih.steerMethod he h
  | steerRight _ he h ih => exact (ih.symm.steerMethod he h).symm

/-- **The active method does not show in the moving average** of two runs whose voids and returns
find the same cost. -/
theorem valuations_eq_of_twoRuns (h : TwoRuns SameSourceCost s₁ s₂) (productId : Uuid) :
    s₁.valuations.find? productId = s₂.valuations.find? productId := by
  rw [h.agree.valuations]

/-! ### A voided sale

The first tenant stays on the moving average, the second goes over to `FIFO` before anything is
received. -/

def StockEvent.shared (test : NewMovement → Bool) : StockEvent → Bool
  | .move n _ => test n
  | .changePolicy _ | .reconcile _ => false
  | _ => true

/-- Both stores accept the events one by one, and the movements among them meet `C`. -/
def bothAccept (C : Store → Store → NewMovement → Prop) [∀ s₁ s₂ n, Decidable (C s₁ s₂ n)]
    (s₁ s₂ : Store) : List StockEvent → Bool
  | [] => true
  | e :: events =>
    e.shared (fun n ↦ s₁.method ≠ .SPECIFIC_LOT ∧ s₂.method ≠ .SPECIFIC_LOT ∧ C s₁ s₂ n) &&
      match stockStep s₁ e, stockStep s₂ e with
      | .ok s₁', .ok s₂' => bothAccept C s₁' s₂' events
      | _, _ => false

theorem TwoRuns.run [∀ s₁ s₂ n, Decidable (C s₁ s₂ n)]
    (h : TwoRuns C s₁ s₂) (events : List StockEvent) (haccept : bothAccept C s₁ s₂ events = true) :
    TwoRuns C (run stockStep s₁ events) (run stockStep s₂ events) := by
  induction events generalizing s₁ s₂ with
  | nil => exact h
  | cons e events ih =>
    rw [bothAccept, Bool.and_eq_true] at haccept
    obtain ⟨hshared, hrest⟩ := haccept
    cases h₁ : stockStep s₁ e with
    | error => simp [h₁] at hrest
    | ok s₁' =>
      cases h₂ : stockStep s₂ e with
      | error => simp [h₂] at hrest
      | ok s₂' =>
        rw [h₁, h₂] at hrest
        rw [run_cons, run_cons, exec_of_ok h₁, exec_of_ok h₂]
        refine ih ?_ hrest
        cases e with
        | move n tracking =>
          obtain ⟨hmethod₁, hmethod₂, hC⟩ := of_decide_eq_true hshared
          exact h.move hmethod₁ hmethod₂ hC h₁ h₂
        | changePolicy | reconcile => cases hshared
        | _ => exact h.document (by exact trivial) h₁ h₂

/-- The sale of one unit at location 1, on the first line of the first sale. -/
def sellUnit (productId : Uuid) (resulting : ℤ) : NewMovement where
  productId := productId
  locationId := 1
  type := .SALE
  quantityChange := -1000
  resultingQuantity := resulting
  idempotencyKey := .sale 1 1 1 1
  saleId := some 1
  saleLineId := some 1

def voidUnit (productId : Uuid) (resulting : ℤ) : NewMovement where
  productId := productId
  locationId := 1
  type := .SALE_VOID
  quantityChange := 1000
  resultingQuantity := resulting
  idempotencyKey := .saleVoid 1 1
  saleId := some 1
  saleLineId := some 1

def soldAndVoided : List StockEvent :=
  [.move (sellUnit 1 1000) {}, .move (voidUnit 1 2000) {}]

theorem twoRuns_tenants (C : Store → Store → NewMovement → Prop) :
    TwoRuns C averageTenant fifoTenant := by
  have haverage : ReachableStock averageTenant := ⟨_, _, rfl⟩
  have hchange : (stockStep averageTenant (changeTo .FIFO)).toBool = true := by decide +kernel
  cases h : stockStep averageTenant (changeTo .FIFO) with
  | error => rw [h] at hchange; cases hchange
  | ok s =>
    have hs : fifoTenant = s := by
      show exec stockStep averageTenant (changeTo .FIFO) = s
      exact exec_of_ok h
    rw [hs]
    have hsteers : (changeTo .FIFO).SteersMethod :=
      show ValuationMethod.FIFO ≠ .SPECIFIC_LOT by decide
    exact (TwoRuns.start haverage).steerRight hsteers h

theorem valuations_eq_of_twoRuns_oneReceipt : ((run stockStep averageTenant
        [.move (receiveUnit 1 1 1000) {}, .move (sellUnit 1 0) {},
          .move (voidUnit 1 1000) {}]).valuations.find? 1) =
      ((run stockStep fifoTenant
        [.move (receiveUnit 1 1 1000) {}, .move (sellUnit 1 0) {},
          .move (voidUnit 1 1000) {}]).valuations.find? 1) :=
  valuations_eq_of_twoRuns ((twoRuns_tenants SameSourceCost).run _ (by decide +kernel)) 1

theorem valuations_differ_after_void :
    ¬∀ s₁ s₂ : Store, TwoRuns (fun _ _ _ ↦ True) s₁ s₂ → ∀ productId : Uuid,
      s₁.valuations.find? productId = s₂.valuations.find? productId := by
  intro h
  have hruns := (twoRuns_tenants fun _ _ _ ↦ True).run (twoReceipts ++ soldAndVoided)
    (by decide +kernel)
  have hne : ((run stockStep averageTenant (twoReceipts ++ soldAndVoided)).valuations.find? 1).map
      Valuation.inventoryValue = some 300000 ∧
    ((run stockStep fifoTenant (twoReceipts ++ soldAndVoided)).valuations.find? 1).map
      Valuation.inventoryValue = some 250000 := by decide +kernel
  rw [h _ _ hruns 1, hne.2] at hne
  cases hne.1

end UInventario
