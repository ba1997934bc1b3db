import UInventario.Inventory.Journal

/-!
# When a transition between two buckets is posted

A movement of type `STATE_TRANSITION` changes no quantity. What can stop it are the keys of the
journal (`Drawable`), the books of the product, which are compared at every posting
(`Store.BooksAgree`), and the serial numbers, which have to stand in the first bucket at the
location (`Store.SerialsStand`); `postMovement_transition` says that these are enough. A transition
leaves them as they are for every other product (`Posting.booksAgree_of_ne`,
`Posting.serialsStand_of_ne`), so a loop over lines goes through when each line would.
-/

namespace UInventario

open Outcome Table List

/-! ### Identifiers -/

/-- The next `count` identifiers that a table draws are new. -/
def Drawable (draw : ℕ → Uuid) (ids : List Uuid) (count : ℕ) : Prop :=
  ∀ k < count, draw (ids.length + k) ∉ ids ++ (List.range k).map fun j ↦ draw (ids.length + j)

instance (draw : ℕ → Uuid) (ids : List Uuid) (count : ℕ) : Decidable (Drawable draw ids count) := by
  unfold Drawable
  infer_instance

namespace Drawable

variable {draw : ℕ → Uuid} {ids : List Uuid} {count : ℕ}

theorem head (h : Drawable draw ids (count + 1)) : draw ids.length ∉ ids := by
  have hfirst := h 0 (Nat.succ_pos count)
  rw [range_zero, map_nil, append_nil] at hfirst
  exact hfirst

theorem mono (h : Drawable draw ids count) {count' : ℕ} (hle : count' ≤ count) :
    Drawable draw ids count' :=
  fun k hk ↦ h k (hk.trans_le hle)

theorem tail (h : Drawable draw ids (count + 1)) :
    Drawable draw (ids ++ [draw ids.length]) count := by
  intro k hk
  have hnext := h (k + 1) (Nat.succ_lt_succ hk)
  have hlength : (ids ++ [draw ids.length]).length = ids.length + 1 := by
    rw [length_append, length_singleton]
  have hsame : ∀ j, ids.length + 1 + j = ids.length + (j + 1) := fun j ↦ by omega
  rw [hlength, hsame]
  rw [range_succ_eq_map, map_cons, map_map, add_zero] at hnext
  simp only [hsame]
  rw [append_assoc, singleton_append]
  exact hnext

theorem drop {n : ℕ} : ∀ {ids ids' : List Uuid}, Drawable draw ids (n + count) →
    ids' = ids ++ (List.range n).map (fun j ↦ draw (ids.length + j)) →
      Drawable draw ids' count := by
  induction n with
  | zero =>
    rintro ids ids' h rfl
    rw [Nat.zero_add] at h
    rw [range_zero, map_nil, append_nil]
    exact h
  | succ n ih =>
    rintro ids ids' h rfl
    have hfirst : Drawable draw (ids ++ [draw ids.length]) (n + count) :=
      (h.mono (by omega : n + count + 1 ≤ n + 1 + count)).tail
    refine ih hfirst ?_
    rw [length_append, length_singleton, append_assoc, singleton_append,
      range_succ_eq_map, map_cons, map_map, add_zero]
    have hsame : ∀ j, ids.length + 1 + j = ids.length + (j + 1) := fun j ↦ by omega
    simp only [hsame]
    rfl

end Drawable

/-! ### The books of a product -/

/-- The valuation of a product: its row, or the empty one that its first movement opens. -/
def Store.valuationOf (s : Store) (product : Product) : Valuation :=
  (s.valuations.find? product.id).getD {
    productId := product.id, quantity := 0, inventoryValue := 0, averageUnitCost := product.cost }

/-- **The books of a product agree**: valuation, layers and, where they are its valuation, lots. -/
@[mk_iff]
structure Store.BooksAgree (s : Store) (product : Product) : Prop where
  quantity_nonneg : 0 ≤ (s.valuationOf product).quantity
  value_nonneg : 0 ≤ (s.valuationOf product).inventoryValue
  layers : s.fifo.remainingOf product.id = (s.valuationOf product).quantity
  lots : s.method = .SPECIFIC_LOT → product.trackLots = true ∧
    s.lots.balanceTotal product.id (fun _ b ↦ b.quantity) = (s.valuationOf product).quantity

instance (s : Store) (product : Product) : Decidable (s.BooksAgree product) :=
  decidable_of_iff' _ (s.booksAgree_iff product)

theorem find?_ensureValuation_self {s : Store} {product : Product}
    (h : s.products.find? product.id = some product) :
    (ensureValuation s product.id).valuations.find? product.id = some (s.valuationOf product) := by
  rw [Store.valuationOf]
  cases hfind : s.valuations.find? product.id with
  | some v => rw [ensureValuation_of_some hfind, hfind, Option.getD_some]
  | none =>
    obtain ⟨valuations, hinsert⟩ := insert_isSome (t := s.valuations) (r := {
      productId := product.id, quantity := 0, inventoryValue := 0,
      averageUnitCost := product.cost }) hfind
    rw [ensureValuation, h]
    dsimp only
    rw [hinsert]
    exact find?_insert_self hinsert

/-! ### The passes of one posting -/

theorem Valuation.valueAfter_zero {v : Valuation} (hvalue : 0 ≤ v.inventoryValue) (unitCost : ℤ) :
    0 ≤ v.valueAfter 0 unitCost := by
  rw [valueAfter]
  split
  · exact le_rfl
  · rw [quantityTimesCost_zero_left, add_zero]
    exact hvalue

/-- **Between two passes** of the posting of a movement that changes no quantity: its row, and what
the passes compare. -/
structure Staged (s : Store) (n : NewMovement) (product : Product) (t : Store) (row : Movement) :
    Prop where
  find? : t.movements.find? s.freshMovementId = some row
  id : row.id = s.freshMovementId
  productId : row.productId = n.productId
  quantityChange : row.quantityChange = 0
  products : t.products = s.products
  fifo : t.fifo = s.fifo
  lots : t.lots = s.lots
  policy : (loadInventoryValuationPolicy t).2 = (loadInventoryValuationPolicy s).2
  valuation : ∃ v, t.valuations.find? n.productId = some v ∧
    v.quantity = (s.valuationOf product).quantity

variable {id : Uuid}

section Passes

variable {s t : Store} {n : NewMovement} {product : Product} {row : Movement}
  {movements : Table Movement}

theorem find?_update_row
    (h : movements.find? id = some row) (f : Movement → Movement) (hf : ∀ r, (f r).id = r.id) :
    (movements.update id f hf).find? id = some (f row) := by
  rw [find?_update_self, h]
  rfl

theorem insertMovement_new (hkind : (n.toMovement s).quantityKind)
    (hlink : (n.toMovement s).saleLink) (hresulting : 0 ≤ n.resultingQuantity)
    (hkey : ∀ m ∈ s.movements.rows, m.idempotencyKey ≠ n.idempotencyKey)
    (hinsert : s.movements.insert (n.toMovement s) = some movements) :
    insertMovement s (n.toMovement s) = .ok { s with movements := movements } := by
  refine bind_eq_ok.mpr ⟨⟨⟩, ensure_eq_ok.mpr ⟨hkind, hlink, hresulting⟩, ?_⟩
  refine bind_eq_ok.mpr ⟨⟨⟩, ensure_eq_ok.mpr hkey, ?_⟩
  exact bind_eq_ok.mpr ⟨movements, demand_eq_ok.mpr hinsert, rfl⟩

theorem staged_average (hzero : n.quantityChange = 0)
    (hfind : movements.find? s.freshMovementId = some (n.toMovement s))
    (hproduct : s.products.find? n.productId = some product) (hbooks : s.BooksAgree product) :
    ∃ t row, applyMovingAverage { s with movements := movements } (n.toMovement s) = .ok t ∧
      Staged s n product t row := by
  have hproductId : product.id = n.productId := key_of_find? hproduct
  have hzero' : (n.toMovement s).quantityChange = 0 := hzero
  have hvaluation : (ensureValuation { s with movements := movements }
      (n.toMovement s).productId).valuations.find? (n.toMovement s).productId =
        some (s.valuationOf product) := by
    show (ensureValuation _ n.productId).valuations.find? n.productId = _
    rw [ensureValuation_congr rfl rfl, ← hproductId]
    exact find?_ensureValuation_self (hproductId ▸ hproduct)
  have hvalued : isValuedEntry (n.toMovement s) = false := by
    rw [isValuedEntry, hzero']
    rfl
  have hcost : ∀ t : Store, movementCost t (n.toMovement s)
      (s.valuationOf product).averageUnitCost = .ok (s.valuationOf product).averageUnitCost := by
    intro t
    rw [movementCost, hvalued]
    rfl
  have hnext : nextValuation (s.valuationOf product) (n.toMovement s).quantityChange false
      (.ok (s.valuationOf product).averageUnitCost) = .ok ((s.valuationOf product).averageUnitCost,
        (s.valuationOf product).after (n.toMovement s).quantityChange false
          (s.valuationOf product).averageUnitCost) := by
    refine nextValuation_eq_ok.mpr ⟨?_, rfl, ?_, rfl⟩
    · rw [hzero', add_zero]
      exact hbooks.quantity_nonneg
    · rw [hzero']
      exact Valuation.valueAfter_zero hbooks.value_nonneg _
  have haverage : ∃ t, applyMovingAverage { s with movements := movements } (n.toMovement s) =
      .ok t := by
    simp only [applyMovingAverage, hvaluation, hvalued, hcost, hnext, demand, ok_bind]
    exact ⟨_, rfl⟩
  obtain ⟨t, ht⟩ := haverage
  obtain ⟨v, unitCost, hv, -, -, -, hstore⟩ := applyMovingAverage_eq_ok ht
  cases hvaluation.symm.trans hv
  rw [hvalued] at hstore
  have hrow : t.movements.find? s.freshMovementId = some (Movement.valuedBy unitCost
      ((s.valuationOf product).valueAfter (n.toMovement s).quantityChange unitCost -
        (s.valuationOf product).inventoryValue)
      ((s.valuationOf product).after (n.toMovement s).quantityChange false unitCost)
      (n.toMovement s)) := by
    rw [hstore]
    exact find?_update_row hfind (Movement.valuedBy unitCost _ _) fun _ ↦ rfl
  refine ⟨t, _, ht, ⟨hrow, rfl, rfl, hzero, ?_, ?_, ?_, ?_, ?_⟩⟩
  · rw [hstore]
    rfl
  · rw [hstore]
  · rw [hstore]
  · exact loadInventoryValuationPolicy_congr (by rw [hstore])
  · refine ⟨_, by rw [hstore]; exact find?_update_moved hvaluation _ _ _, ?_⟩
    show (s.valuationOf product).quantity + (n.toMovement s).quantityChange = _
    rw [hzero', add_zero]

theorem staged_layers (h : Staged s n product t row) (hbooks : s.BooksAgree product)
    (hproductId : product.id = n.productId)
    (hunallocated : ∀ a ∈ s.fifo.allocations.rows, a.movementId ≠ s.freshMovementId) :
    ∃ t' row', applyInventoryFifoValuation t s.freshMovementId = .ok t' ∧
      Staged s n product t' row' ∧ row'.fifoUnitCost ≠ none ∧ row'.fifoValueChange ≠ none ∧
      row'.fifoResultingInventoryValue ≠ none := by
  obtain ⟨v, hvaluation, hquantity⟩ := h.valuation
  have hmove : moveLayers t row = .ok (t.fifo, 0) := by
    rw [moveLayers, h.quantityChange]
    rfl
  have hnone : ¬∃ a ∈ t.fifo.allocations.rows, a.movementId = row.id := by
    rintro ⟨a, ha, hid⟩
    exact hunallocated a (h.fifo ▸ ha) (hid.trans h.id)
  have hlayers : t.fifo.remainingOf row.productId = v.quantity := by
    rw [h.fifo, h.productId, ← hproductId, hquantity]
    exact hbooks.layers
  have hvaluation' : t.valuations.find? row.productId = some v := by
    rw [h.productId]
    exact hvaluation
  have hpass : ∃ inventoryValue, applyInventoryFifoValuation t s.freshMovementId = .ok { t with
      movements := t.movements.update row.id
        (Movement.summarised row.quantityChange 0 inventoryValue) } := by
    simp only [applyInventoryFifoValuation, updateMovementSummary, h.find?, hmove, hvaluation',
      hlayers, demand, ensure, ok_bind, if_neg hnone, if_true]
    exact ⟨_, rfl⟩
  obtain ⟨inventoryValue, hpass⟩ := hpass
  refine ⟨_, Movement.summarised row.quantityChange 0 inventoryValue row, hpass,
    ⟨?_, h.id, h.productId, h.quantityChange, h.products, h.fifo, h.lots,
      ?_, ⟨v, hvaluation, hquantity⟩⟩, Option.some_ne_none _, Option.some_ne_none _,
    Option.some_ne_none _⟩
  · rw [h.id]
    exact find?_update_row h.find? (Movement.summarised row.quantityChange 0 inventoryValue)
      fun _ ↦ rfl
  · rw [← h.policy]
    exact loadInventoryValuationPolicy_congr rfl

theorem staged_seal (h : Staged s n product t row) (hunit : row.fifoUnitCost ≠ none)
    (hvalue : row.fifoValueChange ≠ none) (hresulting : row.fifoResultingInventoryValue ≠ none) :
    ∃ t' row', sealInventoryMovementValuation t s.freshMovementId = .ok t' ∧
      Staged s n product t' row' ∧ row'.valuationMethod = s.method := by
  have hpass : sealInventoryMovementValuation t s.freshMovementId = .ok { t with
      policy := some (loadInventoryValuationPolicy t).2
      movements := t.movements.update s.freshMovementId
        (Movement.sealed (loadInventoryValuationPolicy t).2) } := by
    rw [sealInventoryMovementValuation, h.find?]
    refine bind_eq_ok.mpr ⟨row, rfl, ?_⟩
    have hloaded := loadInventoryValuationPolicy_fst t
    cases hpolicy : loadInventoryValuationPolicy t with
    | mk t' policy =>
      rw [hpolicy] at hloaded
      dsimp only at hloaded ⊢
      subst hloaded
      refine bind_eq_ok.mpr ⟨⟨⟩, ensure_eq_ok.mpr ?_, rfl⟩
      rintro ⟨-, hnone | hnone | hnone⟩
      · exact hunit hnone
      · exact hvalue hnone
      · exact hresulting hnone
  refine ⟨_, Movement.sealed (loadInventoryValuationPolicy t).2 row, hpass,
    ⟨?_, h.id, h.productId, h.quantityChange, h.products, h.fifo, h.lots, h.policy, h.valuation⟩,
    ?_⟩
  · exact find?_update_row h.find? (Movement.sealed (loadInventoryValuationPolicy t).2) fun _ ↦ rfl
  · show (loadInventoryValuationPolicy t).2.method = (loadInventoryValuationPolicy s).2.method
    rw [h.policy]

theorem staged_lots (h : Staged s n product t row) (hmethod : row.valuationMethod = s.method)
    (hproduct : s.products.find? n.productId = some product) (hbooks : s.BooksAgree product)
    (hunallocated : ∀ a ∈ s.lots.movementLots.rows, a.movementId ≠ s.freshMovementId) :
    ∃ t', applyInventoryLotTracking t s.freshMovementId {} = .ok t' := by
  have hproductId : product.id = n.productId := key_of_find? hproduct
  have hproduct' : t.products.find? row.productId = some product := by
    rw [h.products, h.productId]
    exact hproduct
  obtain ⟨v, hvaluation, hquantity⟩ := h.valuation
  rw [applyInventoryLotTracking, trackedMovement, h.find?, Option.bind_some, hproduct']
  dsimp only [Option.map_some]
  rw [if_pos (.inr (.inr h.quantityChange)), finalizeSpecificLotMovementValuation, h.find?]
  dsimp only
  split
  · exact ⟨t, rfl⟩
  case isFalse hspecific =>
    obtain ⟨htrack, htotal⟩ := hbooks.lots (hmethod.symm.trans (not_not.mp hspecific))
    have hallocated : t.lots.allocatedQuantity s.freshMovementId = row.quantityChange := by
      rw [h.quantityChange, h.lots, LotBook.allocatedQuantity]
      exact total_eq_zero fun a ha ↦ if_neg (hunallocated a ha)
    have htotal' : t.lots.balanceTotal row.productId (fun _ b ↦ b.quantity) = v.quantity := by
      rw [h.lots, h.productId, ← hproductId, htotal, hquantity]
    have hvaluation' : t.valuations.find? row.productId = some v := by
      rw [h.productId]
      exact hvaluation
    simp only [hproduct', hvaluation', htrack, hallocated, htotal', demand, ensure, ok_bind,
      and_self, if_true]
    exact ⟨_, rfl⟩

/-- **A movement without a change of quantity is posted** when the journal takes its row and the
books agree. -/
theorem postMovement_zero (hzero : n.quantityChange = 0) (hkind : (n.toMovement s).quantityKind)
    (hlink : (n.toMovement s).saleLink) (hresulting : 0 ≤ n.resultingQuantity)
    (hkey : ∀ m ∈ s.movements.rows, m.idempotencyKey ≠ n.idempotencyKey)
    (hid : ∀ m ∈ s.movements.rows, m.id ≠ s.freshMovementId)
    (hoperational : s.operationsBlocked = false)
    (hproduct : s.products.find? n.productId = some product) (hbooks : s.BooksAgree product)
    (hlinked : s.Linked) : ∃ t, postMovement s n { lots := some {} } = .ok t := by
  have hunallocated : ∀ a ∈ s.fifo.allocations.rows, a.movementId ≠ s.freshMovementId := by
    intro a ha heq
    obtain ⟨m, hm, howner⟩ := hlinked.allocations a ha
    exact hid m hm (howner.trans heq)
  have hunallocatedLots : ∀ a ∈ s.lots.movementLots.rows, a.movementId ≠ s.freshMovementId := by
    intro a ha heq
    obtain ⟨m, hm, howner⟩ := hlinked.movementLots a ha
    exact hid m hm (howner.trans heq)
  obtain ⟨movements, hinsert⟩ := insert_isSome (t := s.movements) (r := n.toMovement s)
    (Table.find?_eq_none.mpr hid)
  have hfind : movements.find? s.freshMovementId = some (n.toMovement s) :=
    find?_insert_self hinsert
  obtain ⟨t₁, row₁, haverage, h₁⟩ := staged_average hzero hfind hproduct hbooks
  obtain ⟨t₂, row₂, hlayers, h₂, hunit, hvalue, hresulting₂⟩ :=
    staged_layers h₁ hbooks (key_of_find? hproduct) hunallocated
  obtain ⟨t₃, row₃, hseal, h₃, hmethod⟩ := staged_seal h₂ hunit hvalue hresulting₂
  obtain ⟨t₄, hlots⟩ := staged_lots h₃ hmethod hproduct hbooks hunallocatedLots
  refine ⟨t₄, bind_eq_ok.mpr ⟨_, insertMovement_new hkind hlink hresulting hkey hinsert, ?_⟩⟩
  refine bind_eq_ok.mpr ⟨t₃, ?_, bind_eq_ok.mpr ⟨t₄, hlots, rfl⟩⟩
  refine bind_eq_ok.mpr ⟨n.toMovement s, demand_eq_ok.mpr hfind, ?_⟩
  refine bind_eq_ok.mpr ⟨⟨⟩, ensure_eq_ok.mpr hoperational, ?_⟩
  exact bind_eq_ok.mpr ⟨t₁, haverage, bind_eq_ok.mpr ⟨t₂, hlayers, hseal⟩⟩

end Passes

/-! ### The serial numbers of a transition -/

/-- The rows of the serial numbers that a transition of a quantity names. -/
def SerialBook.named (book : SerialBook) (env : Env) (productId : Uuid) (quantity : ℤ)
    (serialNumbers : List Text) : Except Failure (List Serial) := do
  let count ← wholeUnits quantity
  let requested ← requestedSerials env serialNumbers count
  selectSerials env book productId requested

/-- **The serial numbers stand** in a status at a location, where the product has any. -/
def Store.SerialsStand (s : Store) (product : Product) (locationId : Uuid) (status : SerialStatus)
    (quantity : ℤ) (serialNumbers : List Text) : Prop :=
  product.trackSerials = true →
    ∃ rows ∈ (s.serials.named s.env product.id quantity serialNumbers).toOption,
      ∀ r ∈ rows, r.status = status ∧ r.currentLocationId = some locationId
deriving Decidable

section Serials

variable {s : Store} {env : Env} {book book' : SerialBook} {productId : Uuid} {rows : List Serial}
  {movement : Movement} {serialNumbers : List Text}

theorem selectSerials_eq_ok (h : selectSerials env book productId serialNumbers = .ok rows) :
    rows.length = serialNumbers.length ∧ (rows.map Serial.id).Nodup ∧
      ∀ r ∈ rows, r ∈ book.serials.rows ∧ r.productId = productId := by
  simp only [selectSerials, eq_ok] at h
  obtain ⟨-, hnodup, hrows⟩ := h
  have hfound : ∀ r ∈ rows, r ∈ book.serials.rows ∧ r.productId = productId := by
    intro r hr
    obtain ⟨value, -, hvalue⟩ := exists_of_mem_mapM hrows hr
    rw [demand_eq_ok] at hvalue
    have hnamed : r.productId = productId ∧ r.normalizedSerial = value := by
      simpa using find?_some hvalue
    exact ⟨mem_of_find?_eq_some hvalue, hnamed.1⟩
  have hnormalized : rows.map Serial.normalizedSerial =
      orderBy Text.before (serialNumbers.map (normalizeSerial env)) := by
    refine (map_mapM (g := id) (fun value r hvalue ↦ ?_) hrows).trans (map_id _)
    rw [demand_eq_ok] at hvalue
    have hnamed : r.productId = productId ∧ r.normalizedSerial = value := by
      simpa using find?_some hvalue
    exact hnamed.2
  refine ⟨?_, ?_, hfound⟩
  · rw [← length_map (f := Serial.normalizedSerial), hnormalized, (orderBy_perm _ _).length_eq,
      length_map]
  · have hserials : (rows.map Serial.normalizedSerial).Nodup := hnormalized ▸ hnodup
    refine List.Nodup.of_map (fun id ↦ (book.serials.find? id).map Serial.normalizedSerial) ?_
    rw [map_map]
    have hsame : rows.map ((fun id ↦ (book.serials.find? id).map Serial.normalizedSerial) ∘
        Serial.id) = (rows.map Serial.normalizedSerial).map some := by
      rw [map_map]
      refine map_congr_left fun r hr ↦ ?_
      show (book.serials.find? r.id).map Serial.normalizedSerial = some r.normalizedSerial
      rw [show book.serials.find? r.id = some r from find?_key_of_mem (hfound r hr).1]
      rfl
    rw [hsame]
    exact hserials.map (Option.some_injective _)

theorem named_eq_ok {quantity : ℤ}
    (h : book.named env productId quantity serialNumbers = .ok rows) :
    (rows.length : ℤ) = quantity / QUANTITY_SCALE ∧ (rows.map Serial.id).Nodup ∧
      ∀ r ∈ rows, r ∈ book.serials.rows ∧ r.productId = productId := by
  simp only [SerialBook.named, wholeUnits, requestedSerials, eq_ok] at h
  obtain ⟨count, ⟨-, -, rfl⟩, requested, ⟨-, ⟨-, -, hlength, -⟩, rfl⟩, hselect⟩ := h
  obtain ⟨hrows, hnodup, hfound⟩ := selectSerials_eq_ok hselect
  exact ⟨by rw [hrows]; exact hlength, hnodup, hfound⟩

/-- **Rows that stand in the first bucket** are moved to the second. -/
theorem moveSerials_ok {fromState toState : StockState} {destination : Option Uuid}
    (htype : movement.type = .STATE_TRANSITION) (hfrom : movement.fromState = some fromState)
    (hto : movement.toState = some toState) (hnodup : (rows.map Serial.id).Nodup)
    (hstand : ∀ r ∈ rows, r.status = fromState.toSerialStatus ∧
      r.currentLocationId = some movement.locationId)
    (hevents : ∀ e ∈ book.events.rows, e.movementId = movement.id → ∀ r ∈ rows, e.serialId ≠ r.id)
    (hdraw : Drawable (s.env.uuid .inventory_serial_events)
      (book.events.rows.map SerialEvent.id) rows.length) :
    ∃ book', rows.foldlM (moveSerial s movement destination) book = .ok book' := by
  induction rows generalizing book with
  | nil => exact ⟨book, rfl⟩
  | cons r rows ih =>
    obtain ⟨hstatus, hlocation⟩ := hstand r mem_cons_self
    obtain ⟨hr, hnodup⟩ := nodup_cons.mp hnodup
    have hlength : (book.events.rows.map SerialEvent.id).length = book.events.rows.length :=
      length_map _
    have hhead := hdraw.head
    rw [hlength] at hhead
    obtain ⟨events, hinsert⟩ := insert_isSome (t := book.events) (r := {
        id := s.env.uuid .inventory_serial_events book.events.rows.length, serialId := r.id,
        movementId := movement.id, fromStatus := some r.status, toStatus := toState.toSerialStatus,
        fromLocationId := r.currentLocationId, toLocationId := some movement.locationId,
        createdAt := s.env.clock .inventory_serial_events book.events.rows.length })
      (Table.find?_eq_none.mpr fun e he hid ↦ hhead (mem_map.mpr ⟨e, he, hid⟩))
    have hrows := (insert_eq_some hinsert).2
    have hturn : moveSerial s movement destination book r = .ok {
        serials := book.serials.update r.id fun r ↦
          { r with status := toState.toSerialStatus, currentLocationId := some movement.locationId }
        events := events } := by
      rw [moveSerial, transitionFor, htype, hfrom, hto]
      refine bind_eq_ok.mpr ⟨⟨⟩, ensure_eq_ok.mpr nofun, ?_⟩
      refine bind_eq_ok.mpr ⟨_, rfl, ?_⟩
      refine bind_eq_ok.mpr ⟨⟨⟩, ensure_eq_ok.mpr ⟨?_, .inl hlocation⟩, ?_⟩
      · rw [hstatus]
        exact mem_singleton_self _
      · refine bind_eq_ok.mpr ⟨⟨⟩, ensure_eq_ok.mpr ?_, ?_⟩
        · rintro e he ⟨hmovement, hserial⟩
          exact hevents e he hmovement r mem_cons_self hserial
        · exact bind_eq_ok.mpr ⟨events, demand_eq_ok.mpr hinsert, rfl⟩
    obtain ⟨book', hrest⟩ := @ih { serials := _, events := events } hnodup
      (fun r' hr' ↦ hstand r' (mem_cons_of_mem _ hr'))
      (by
        intro e he hmovement r' hr' hserial
        rw [hrows, mem_append, mem_singleton] at he
        rcases he with he | rfl
        · exact hevents e he hmovement r' (mem_cons_of_mem _ hr') hserial
        · exact hr (mem_map.mpr ⟨r', hr', hserial.symm⟩))
      (by
        have htail := hdraw.tail
        rw [hlength] at htail
        rw [hrows, map_append]
        exact htail)
    exact ⟨book', foldlM_cons_eq_ok.mpr ⟨_, hturn, hrest⟩⟩

theorem moveSerial_eq_ok {destination : Option Uuid} {r : Serial}
    (h : moveSerial s movement destination book r = .ok book') :
    (∃ f : Serial → Serial, ∃ hf : ∀ r, (f r).id = r.id,
      book'.serials = book.serials.update r.id f hf ∧
      ∀ r, (f r).productId = r.productId ∧ (f r).normalizedSerial = r.normalizedSerial) ∧
    ∃ e : SerialEvent, e.id = s.env.uuid .inventory_serial_events book.events.rows.length ∧
      book'.events.rows = book.events.rows ++ [e] := by
  simp only [moveSerial, appendEvent, eq_ok] at h
  obtain ⟨-, -, transition, -, -, -, -, -, events, hinsert, rfl⟩ := h
  refine ⟨⟨fun r ↦ { r with
      status := transition.toStatus
      currentLocationId := transition.toLocationId }, fun _ ↦ rfl, rfl, fun _ ↦ ⟨rfl, rfl⟩⟩,
    ⟨_, rfl, (insert_eq_some hinsert).2⟩⟩

theorem find?_update_of_forall {serials : Table Serial} {f : Serial → Serial}
    {hf : ∀ r, (f r).id = r.id} {P : Serial → Bool} (hP : ∀ r, P (f r) = P r)
    (hnone : ∀ r ∈ serials.rows, r.id = id → P r = false) :
    (serials.update id f hf).rows.find? P = serials.rows.find? P := by
  rw [rows_update]
  generalize serials.rows = l at hnone
  induction l with
  | nil => rfl
  | cons r l ih =>
    have hrest := ih fun r' hr' ↦ hnone r' (mem_cons_of_mem _ hr')
    rw [map_cons, find?_cons, find?_cons, hrest]
    by_cases hid : (Keyed.key r : Uuid) = id
    · rw [if_pos hid, hP, hnone r mem_cons_self hid]
    · rw [if_neg hid]

/-- **A loop over rows of one product** appends its events, and is not seen in a search for serial
numbers of another. -/
theorem moveSerials_eq_ok {destination : Option Uuid} {otherId : Uuid} (hne : otherId ≠ productId)
    (hrows : ∀ r ∈ rows, ∃ r' ∈ book.serials.rows, r'.id = r.id ∧ r'.productId = productId)
    (h : rows.foldlM (moveSerial s movement destination) book = .ok book') :
    (book'.events.rows.map SerialEvent.id = book.events.rows.map SerialEvent.id ++
      (List.range rows.length).map fun j ↦
        s.env.uuid .inventory_serial_events ((book.events.rows.map SerialEvent.id).length + j)) ∧
    ∀ value, (book'.serials.rows.find? fun r ↦ r.productId = otherId ∧ r.normalizedSerial = value) =
      book.serials.rows.find? fun r ↦ r.productId = otherId ∧ r.normalizedSerial = value := by
  induction rows generalizing book with
  | nil =>
    obtain rfl := foldlM_nil_eq_ok.mp h
    exact ⟨(append_nil _).symm, fun _ ↦ rfl⟩
  | cons r rows ih =>
    obtain ⟨book₁, hturn, hrest⟩ := foldlM_cons_eq_ok.mp h
    obtain ⟨⟨f, hf, hserials, hsame⟩, e, he, hevents⟩ := moveSerial_eq_ok hturn
    have hrows₁ : ∀ r ∈ rows, ∃ r' ∈ book₁.serials.rows, r'.id = r.id ∧
        r'.productId = productId := by
      intro r₁ hr₁
      obtain ⟨r', hr', hid, hproduct⟩ := hrows r₁ (mem_cons_of_mem _ hr₁)
      rw [hserials]
      refine ⟨_, Table.mem_update.mpr ⟨r', hr', rfl⟩, ?_, ?_⟩
      · split
        · exact (hf r').trans hid
        · exact hid
      · split
        · exact (hsame r').1.trans hproduct
        · exact hproduct
    obtain ⟨hids, hfind⟩ := ih hrows₁ hrest
    constructor
    · rw [hids, hevents, map_append, map_singleton, append_assoc, length_append,
        length_map, length_singleton, he, length_cons, range_succ_eq_map,
        map_cons, map_map, add_zero, singleton_append]
      have hshift : ∀ j, book.events.rows.length + 1 + j = book.events.rows.length + (j + 1) :=
        fun j ↦ by omega
      simp only [hshift]
      rfl
    · intro value
      rw [hfind value, hserials]
      refine find?_update_of_forall (fun r ↦ ?_) fun r₀ hr₀ hid ↦ ?_
      · rw [(hsame r).1, (hsame r).2]
      · obtain ⟨r', hr', hid', hproduct⟩ := hrows r mem_cons_self
        have hkey : r₀ = r' := eq_of_mem_of_key_eq hr₀ hr' (hid.trans hid'.symm)
        rw [decide_eq_false_iff_not, hkey, hproduct]
        exact fun heq ↦ hne heq.1.symm

end Serials

/-! ### A transition -/

theorem ok_of_mem_toOption {α : Type} {x : Except Failure α} {a : α} (h : a ∈ x.toOption) :
    x = .ok a := by
  cases x with
  | error e => cases h
  | ok b => exact congrArg Except.ok (Option.some.inj h)

section Transition

variable {s t : Store} {n : NewMovement} {product : Product} {events : ℕ} {movements : ℕ}

/-- **The columns of a transition** between two different buckets. -/
structure NewMovement.IsTransition (n : NewMovement) (fromState toState : StockState)
    (quantity : ℤ) : Prop where
  type : n.type = .STATE_TRANSITION
  quantityChange : n.quantityChange = 0
  source : n.fromState = some fromState
  target : n.toState = some toState
  ne : fromState ≠ toState
  stateQuantity : n.stateQuantity = some quantity
  pos : 0 < quantity
  saleId : n.saleId = none
  saleLineId : n.saleLineId = none
  saleReturnId : n.saleReturnId = none
  saleReturnLineId : n.saleReturnLineId = none
  sourceSaleMovementId : n.sourceSaleMovementId = none

/-- **When a line of a document can be moved** from one bucket to another. -/
structure Store.Ready (s : Store) (product : Product) (locationId : Uuid) (status : SerialStatus)
    (quantity : ℤ) (serialNumbers : List Text) : Prop where
  known : s.products.find? product.id = some product
  books : s.BooksAgree product
  serials : s.SerialsStand product locationId status quantity serialNumbers

/-- The next identifiers of movements and of events of serial numbers are new. -/
@[mk_iff]
structure Store.Draws (s : Store) (movements events : ℕ) : Prop where
  linked : s.Linked
  movements : Drawable (s.env.uuid .inventory_movements)
    (s.movements.rows.map Movement.id) movements
  events : Drawable (s.env.uuid .inventory_serial_events)
    (s.serials.events.rows.map SerialEvent.id) events

theorem Store.Draws.mono_events {events' : ℕ} (h : s.Draws movements events)
    (hle : events' ≤ events) : s.Draws movements events' :=
  ⟨h.linked, h.movements, h.events.mono hle⟩

theorem Store.Draws.id_fresh (h : s.Draws (movements + 1) events) :
    ∀ m ∈ s.movements.rows, m.id ≠ s.freshMovementId := by
  intro m hm hid
  have hhead := h.movements.head
  rw [length_map] at hhead
  exact hhead (mem_map.mpr ⟨m, hm, hid⟩)

variable {fromState toState : StockState} {quantity : ℤ} {serialNumbers : List Text}
  {movement : Movement}

theorem serialTracking_transition
    (hfind : t.movements.find? id = some movement) (htype : movement.type = .STATE_TRANSITION)
    (hzero : movement.quantityChange = 0) (hfrom : movement.fromState = some fromState)
    (hto : movement.toState = some toState) (hquantity : movement.stateQuantity = some quantity)
    (hpos : 0 < quantity) (hproduct : t.products.find? movement.productId = some product)
    (hstand : t.SerialsStand product movement.locationId fromState.toSerialStatus quantity
      serialNumbers)
    (hdraw : Drawable (t.env.uuid .inventory_serial_events)
      (t.serials.events.rows.map SerialEvent.id) (quantity / QUANTITY_SCALE).toNat) :
    ∃ t', applyInventorySerialTracking t id { serialNumbers := some serialNumbers } = .ok t' := by
  have hproductId : product.id = movement.productId := key_of_find? hproduct
  rw [applyInventorySerialTracking, trackedMovement, hfind, Option.bind_some, hproduct]
  dsimp only [Option.map_some]
  split
  · exact ⟨t, rfl⟩
  case isFalse htracked =>
    obtain ⟨htrack, htracked⟩ := not_or.mp htracked
    obtain ⟨hnew, -⟩ := not_or.mp htracked
    obtain ⟨rows, hrows, hstand⟩ := hstand (eq_true_of_ne_false htrack)
    have hnamed := ok_of_mem_toOption hrows
    obtain ⟨hlength, hnodup, -⟩ := named_eq_ok hnamed
    simp only [SerialBook.named, bind_eq_ok] at hnamed
    obtain ⟨count, hcount, requested, hrequested, hselect⟩ := hnamed
    have hwhole := hcount
    simp only [wholeUnits, eq_ok] at hwhole
    obtain ⟨-, hmod, hdiv⟩ := hwhole
    have hcountPos : 0 < count := by
      rw [← hdiv]
      have hscale : (0 : ℤ) < QUANTITY_SCALE := by decide
      exact Int.ediv_pos_of_pos_of_dvd hpos hscale.le (Int.dvd_of_emod_eq_zero hmod)
    have hserialCount : serialCount movement = .ok count := by
      rw [serialCount, hzero, hquantity]
      refine bind_eq_ok.mpr ⟨0, rfl, bind_eq_ok.mpr ⟨count, hcount, ?_⟩⟩
      show pure (if 0 < count then count else |0|) = Except.ok count
      rw [if_pos hcountPos]
      rfl
    have hserials : movementSerials t movement { serialNumbers := some serialNumbers } =
        serialNumbers := by
      rw [movementSerials, htype]
      rfl
    obtain ⟨book', hbook'⟩ := @moveSerials_ok t t.serials rows movement fromState toState none htype
      hfrom hto hnodup hstand (fun e he hid ↦ absurd ⟨e, he, hid⟩ hnew)
      (hdraw.mono (by omega))
    refine ⟨{ t with serials := book' }, bind_eq_ok.mpr ⟨count, hserialCount, ?_⟩⟩
    rw [hserials]
    refine bind_eq_ok.mpr ⟨requested, hrequested, ?_⟩
    rw [if_neg fun h ↦ absurd h.1 (by rw [hzero]; exact lt_irrefl 0)]
    rw [← hproductId]
    exact bind_eq_ok.mpr ⟨rows, hselect, bind_eq_ok.mpr ⟨book', hbook', rfl⟩⟩

theorem NewMovement.IsTransition.quantityKind (hn : n.IsTransition fromState toState quantity) :
    (n.toMovement s).quantityKind := by
  have hkind : n.quantityChange = 0 ∧ (∃ q ∈ n.stateQuantity, 0 < q) ∧ n.fromState ≠ none ∧
      n.toState ≠ none ∧ n.fromState ≠ n.toState := by
    rw [hn.source, hn.target, hn.stateQuantity]
    exact ⟨hn.quantityChange, ⟨quantity, rfl, hn.pos⟩, nofun, nofun,
      fun h ↦ hn.ne (Option.some.inj h)⟩
  rw [Movement.quantityKind, show (n.toMovement s).type = .STATE_TRANSITION from hn.type]
  exact hkind

theorem NewMovement.IsTransition.saleLink (hn : n.IsTransition fromState toState quantity) :
    (n.toMovement s).saleLink := by
  rw [Movement.saleLink, show (n.toMovement s).type = .STATE_TRANSITION from hn.type]
  exact ⟨hn.saleId, hn.saleLineId, hn.saleReturnId, hn.saleReturnLineId, hn.sourceSaleMovementId⟩

theorem Posting.serials_tracked {tracking : Tracking} (p : Posting s n tracking t) :
    p.trackedStore.serials = s.serials ∧ p.trackedStore.env = s.env ∧
      p.trackedStore.products = t.products ∧ p.trackedStore.movements = t.movements := by
  have hlots := p.documents_eq.store_eq
  refine ⟨?_, ?_, (congrArg Store.products p.tracked_eq :).symm,
    (congrArg Store.movements p.tracked_eq :).symm⟩
  · rw [hlots, p.sealed_eq, p.valued_eq]
  · rw [hlots, p.sealed_eq, p.valued_eq]

/-- **A transition is posted** when the journal and the line are ready for it. -/
theorem postMovement_transition (hn : n.IsTransition fromState toState quantity)
    (hresulting : 0 ≤ n.resultingQuantity)
    (hkey : ∀ m ∈ s.movements.rows, m.idempotencyKey ≠ n.idempotencyKey)
    (hoperational : s.operationsBlocked = false)
    (hdraws : s.Draws (movements + 1) (quantity / QUANTITY_SCALE).toNat)
    (hready : s.Ready product n.locationId fromState.toSerialStatus quantity serialNumbers)
    (hproductId : product.id = n.productId) :
    ∃ t, postMovement s n
    { lots := some {}, serials := some { serialNumbers := some serialNumbers } } = .ok t := by
  have hproduct : s.products.find? n.productId = some product := hproductId ▸ hready.known
  obtain ⟨t, ht⟩ := postMovement_zero hn.quantityChange hn.quantityKind hn.saleLink hresulting hkey
    hdraws.id_fresh hoperational hproduct hready.books hdraws.linked
  obtain ⟨p⟩ := postMovement_eq_ok ht
  have htracked : p.trackedStore = t := pure_eq_ok.mp p.serials_eq
  obtain ⟨hserials, henv, -, -⟩ := p.serials_tracked
  rw [htracked] at hserials henv
  have hvalued : isValuedEntry (n.toMovement s) = false := by
    rw [isValuedEntry, show (n.toMovement s).quantityChange = 0 from hn.quantityChange]
    rfl
  have hproducts : t.products = s.products := by
    rw [p.products_eq, hvalued]
    rfl
  have hstand : t.SerialsStand product p.row.locationId fromState.toSerialStatus quantity
      serialNumbers := by
    rw [p.row_locationId, Store.SerialsStand, hserials, henv]
    exact hready.serials
  obtain ⟨t', ht'⟩ := serialTracking_transition p.find?_row
    ((congrArg Movement.type p.static_row :).trans hn.type)
    (p.row_quantityChange.trans hn.quantityChange)
    ((congrArg Movement.fromState p.static_row :).trans hn.source)
    ((congrArg Movement.toState p.static_row :).trans hn.target)
    ((congrArg Movement.stateQuantity p.static_row :).trans hn.stateQuantity) hn.pos
    (by rw [p.row_productId, hproducts]; exact hproduct) hstand
    (by rw [hserials, henv]; exact hdraws.events)
  refine ⟨t', ?_⟩
  simp only [postMovement, bind_eq_ok] at ht ⊢
  obtain ⟨s₁, hinserted, s₂, hvaluedStore, s₃, hlots, hnone⟩ := ht
  obtain rfl := pure_eq_ok.mp hnone
  exact ⟨s₁, hinserted, s₂, hvaluedStore, s₃, hlots, ht'⟩

/-! ### What a transition leaves alone -/

/-- **What a transition does to the serial numbers** of other products: nothing. -/
structure SerialsMoved (env : Env) (productId : Uuid) (count : ℕ) (book book' : SerialBook) :
    Prop where
  events : ∃ k ≤ count, book'.events.rows.map SerialEvent.id =
    book.events.rows.map SerialEvent.id ++ (List.range k).map fun j ↦
      env.uuid .inventory_serial_events ((book.events.rows.map SerialEvent.id).length + j)
  others : ∀ otherId ≠ productId, ∀ value,
    (book'.serials.rows.find? fun r ↦ r.productId = otherId ∧ r.normalizedSerial = value) =
      book.serials.rows.find? fun r ↦ r.productId = otherId ∧ r.normalizedSerial = value

theorem SerialsMoved.refl {env : Env} {productId : Uuid} {count : ℕ} {book : SerialBook} :
    SerialsMoved env productId count book book :=
  ⟨⟨0, Nat.zero_le count, (append_nil _).symm⟩, fun _ _ _ ↦ rfl⟩

theorem serialTracking_moved {u : Store} {options : SerialOptions}
    (hfind : u.movements.find? id = some movement) (hzero : movement.quantityChange = 0)
    (hquantity : movement.stateQuantity = some quantity) (hpos : 0 < quantity)
    (h : applyInventorySerialTracking u id options = .ok t) :
    SerialsMoved u.env movement.productId (quantity / QUANTITY_SCALE).toNat u.serials
      t.serials := by
  rw [applyInventorySerialTracking, trackedMovement, hfind, Option.bind_some] at h
  cases hproduct : u.products.find? movement.productId with
  | none =>
    rw [hproduct] at h
    rw [← pure_eq_ok.mp h]
    exact .refl
  | some product =>
    rw [hproduct, Option.map_some] at h
    dsimp only at h
    split at h
    · rw [← pure_eq_ok.mp h]
      exact .refl
    · obtain ⟨count, hcount, h⟩ := bind_eq_ok.mp h
      obtain ⟨requested, hrequested, h⟩ := bind_eq_ok.mp h
      rw [if_neg fun h ↦ absurd h.1 (by rw [hzero]; exact lt_irrefl 0)] at h
      obtain ⟨rows, hselect, h⟩ := bind_eq_ok.mp h
      obtain ⟨book', hloop, h⟩ := bind_eq_ok.mp h
      obtain rfl := pure_eq_ok.mp h
      obtain ⟨hlength, -, hfound⟩ := selectSerials_eq_ok hselect
      have hrows : ∀ r ∈ rows, ∃ r' ∈ u.serials.serials.rows, r'.id = r.id ∧
          r'.productId = movement.productId :=
        fun r hr ↦ ⟨r, (hfound r hr).1, rfl, (hfound r hr).2⟩
      have hcountEq : count = quantity / QUANTITY_SCALE := by
        rw [serialCount, hzero, hquantity] at hcount
        simp only [wholeUnits, eq_ok] at hcount
        obtain ⟨_, ⟨-, -, rfl⟩, units, ⟨-, hmod, rfl⟩, rfl⟩ := hcount
        have hscale : (0 : ℤ) < QUANTITY_SCALE := by decide
        rw [if_pos (Int.ediv_pos_of_pos_of_dvd hpos hscale.le (Int.dvd_of_emod_eq_zero hmod))]
      have hunits : rows.length = (quantity / QUANTITY_SCALE).toNat := by
        simp only [requestedSerials, eq_ok] at hrequested
        obtain ⟨-, ⟨-, -, hmany, -⟩, rfl⟩ := hrequested
        omega
      refine ⟨⟨rows.length, hunits.le, ?_⟩, fun otherId hne ↦ ?_⟩
      · exact (moveSerials_eq_ok (Nat.succ_ne_self movement.productId) hrows hloop).1
      · exact (moveSerials_eq_ok hne hrows hloop).2

section Frame

variable {tracking : Tracking} (p : Posting s n tracking t)
  (hn : n.IsTransition fromState toState quantity) {other : Product} {serialNumbers' : List Text}
  {status : SerialStatus} {locationId : Uuid} {quantity' : ℤ}

include p hn

theorem Posting.products_transition : t.products = s.products := by
  have hvalued : isValuedEntry (n.toMovement s) = false := by
    rw [isValuedEntry, show (n.toMovement s).quantityChange = 0 from hn.quantityChange]
    rfl
  rw [p.products_eq, hvalued]
  rfl

theorem Posting.fifo_transition : t.fifo = s.fifo := by
  rcases p.layers_eq with ⟨-, hsame, -⟩ | ⟨value, -, hmove, -⟩
  · exact hsame
  · have hzero : moveLayers p.valuedStore (n.valuedRow s p.valuation p.unitCost) =
        .ok (p.valuedStore.fifo, 0) := by
      rw [moveLayers, show (n.valuedRow s p.valuation p.unitCost).quantityChange = 0 from
        hn.quantityChange]
      rfl
    rw [hzero] at hmove
    obtain ⟨hfifo, -⟩ := Prod.mk.inj (Except.ok.inj hmove)
    rw [← hfifo, p.valued_eq]

theorem Posting.lots_transition : t.lots = s.lots := by
  rcases p.lots_cases with ⟨hsame, -⟩ | ⟨_, _, _, -, hchange, -⟩
  · exact hsame
  · exact absurd ((congrArg Movement.quantityChange p.sealedRow_static :).trans hn.quantityChange)
      hchange

theorem Posting.booksAgree_of_ne (hne : other.id ≠ n.productId)
    (h : s.BooksAgree other) : t.BooksAgree other := by
  have hvaluation : t.valuationOf other = s.valuationOf other := by
    rw [Store.valuationOf, Store.valuationOf, p.find?_valuation_of_ne hne]
  have hmethod : t.method = s.method := by
    have hpolicy : t.policy = some (loadInventoryValuationPolicy s).2 := by rw [p.store_eq]
    rw [Store.method, loadInventoryValuationPolicy, hpolicy]
    rfl
  constructor
  · rw [hvaluation]
    exact h.quantity_nonneg
  · rw [hvaluation]
    exact h.value_nonneg
  · rw [hvaluation, p.fifo_transition hn]
    exact h.layers
  · rw [hvaluation, p.lots_transition hn, hmethod]
    exact h.lots

theorem Posting.serials_transition :
    SerialsMoved s.env n.productId (quantity / QUANTITY_SCALE).toNat s.serials t.serials := by
  obtain ⟨hserials, henv, -, hmovements⟩ := p.serials_tracked
  have hpass := p.serials_eq
  cases hoptions : tracking.serials with
  | none =>
    rw [hoptions] at hpass
    rw [← pure_eq_ok.mp hpass, hserials]
    exact .refl
  | some options =>
    rw [hoptions] at hpass
    have hfind : p.trackedStore.movements.find? s.freshMovementId = some p.row := by
      rw [hmovements]
      exact p.find?_row
    have hmoved := serialTracking_moved hfind (p.row_quantityChange.trans hn.quantityChange)
      ((congrArg Movement.stateQuantity p.static_row :).trans hn.stateQuantity) hn.pos hpass
    rw [hserials, henv, p.row_productId] at hmoved
    exact hmoved

theorem Posting.serialsStand_of_ne (hne : other.id ≠ n.productId)
    (h : s.SerialsStand other locationId status quantity' serialNumbers') :
    t.SerialsStand other locationId status quantity' serialNumbers' := by
  have hmoved := p.serials_transition hn
  have henv : t.env = s.env := (congrArg Store.env p.store_eq :)
  have hnamed : t.serials.named t.env other.id quantity' serialNumbers' =
      s.serials.named s.env other.id quantity' serialNumbers' := by
    rw [henv, SerialBook.named, SerialBook.named]
    refine bind_congr fun count ↦ bind_congr fun requested ↦ ?_
    rw [selectSerials, selectSerials]
    refine bind_congr fun _ ↦ ?_
    refine congrArg (fun f ↦ List.mapM f _) (funext fun value ↦ ?_)
    rw [hmoved.others other.id hne value]
  intro htrack
  rw [hnamed]
  exact h htrack

theorem Posting.ready_of_ne (hne : other.id ≠ n.productId)
    (h : s.Ready other locationId status quantity' serialNumbers') :
    t.Ready other locationId status quantity' serialNumbers' :=
  ⟨by rw [p.products_transition hn]; exact h.known, p.booksAgree_of_ne hn hne h.books,
    p.serialsStand_of_ne hn hne h.serials⟩

theorem Posting.draws_transition
    (h : s.Draws (movements + 1) ((quantity / QUANTITY_SCALE).toNat + events)) :
    t.Draws movements events := by
  have henv : t.env = s.env := (congrArg Store.env p.store_eq :)
  refine ⟨p.linked h.linked, ?_, ?_⟩
  · have htail := h.movements.tail
    have hid : p.row.id = s.env.uuid .inventory_movements s.movements.rows.length := p.row_id
    rw [length_map] at htail
    rw [henv, p.journal, map_append, map_singleton, hid]
    exact htail
  · obtain ⟨⟨k, hk, hids⟩, -⟩ := p.serials_transition hn
    rw [henv]
    refine Drawable.drop (n := k) (h.events.mono ?_) hids
    omega

end Frame

end Transition

end UInventario
