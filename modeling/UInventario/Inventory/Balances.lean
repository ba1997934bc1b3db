import UInventario.Inventory.Store

/-!
# Balances

The row of a product at a location keeps a total and four buckets. The database accepts a row only
when no bucket is negative and they add up to the total (`Balance.Valid`), so a transaction that
would write any other one is rolled back. `ensureBalance` and `updateBalance` are the two statements
by which every operation writes a row. `Buckets` is the change of one row by such a statement.
-/

namespace UInventario

open Outcome

/-! ### Changes -/

structure Buckets where
  available : ℤ := 0
  reserved : ℤ := 0
  damaged : ℤ := 0
  inTransit : ℤ := 0

namespace Buckets

def state (c : Buckets) : StockState → ℤ
  | .AVAILABLE => c.available
  | .RESERVED => c.reserved
  | .DAMAGED => c.damaged
  | .IN_TRANSIT => c.inTransit

def single : StockState → ℤ → Buckets
  | .AVAILABLE, q => { available := q }
  | .RESERVED, q => { reserved := q }
  | .DAMAGED, q => { damaged := q }
  | .IN_TRANSIT, q => { inTransit := q }

def moved (fromState toState : StockState) (q : ℤ) : Buckets where
  available := (single toState q).available - (single fromState q).available
  reserved := (single toState q).reserved - (single fromState q).reserved
  damaged := (single toState q).damaged - (single fromState q).damaged
  inTransit := (single toState q).inTransit - (single fromState q).inTransit

theorem state_moved (fromState toState state : StockState) (q : ℤ) :
    (moved fromState toState q).state state =
      (single toState q).state state - (single fromState q).state state := by
  cases state <;> rfl

end Buckets

namespace Balance

/-- `ck_inventory_balances_nonnegative`, `ck_inventory_balance_states_nonnegative` and
`ck_inventory_balance_states_reconcile`. -/
structure Valid (b : Balance) : Prop where
  quantity_nonneg : 0 ≤ b.quantity
  state_nonneg : ∀ state, 0 ≤ b.state state
  reconcile : b.quantity = b.available + b.reserved + b.damaged + b.inTransit

theorem valid_iff {b : Balance} : b.Valid ↔ 0 ≤ b.quantity ∧
    (0 ≤ b.available ∧ 0 ≤ b.reserved ∧ 0 ≤ b.damaged ∧ 0 ≤ b.inTransit) ∧
      b.quantity = b.available + b.reserved + b.damaged + b.inTransit := by
  constructor
  · exact fun h ↦ ⟨h.quantity_nonneg, ⟨h.state_nonneg .AVAILABLE, h.state_nonneg .RESERVED,
      h.state_nonneg .DAMAGED, h.state_nonneg .IN_TRANSIT⟩, h.reconcile⟩
  · rintro ⟨hquantity, ⟨havailable, hreserved, hdamaged, hinTransit⟩, hsum⟩
    refine ⟨hquantity, fun state ↦ ?_, hsum⟩
    cases state with
    | AVAILABLE => exact havailable
    | RESERVED => exact hreserved
    | DAMAGED => exact hdamaged
    | IN_TRANSIT => exact hinTransit

instance (b : Balance) : Decidable b.Valid := decidable_of_iff _ valid_iff.symm

def opened (productId locationId : Uuid) : Balance where
  productId := productId
  locationId := locationId
  quantity := 0
  available := 0
  reserved := 0
  damaged := 0
  inTransit := 0

/-- What takes the row `b` to the row `b'`. -/
def change (b b' : Balance) : Buckets where
  available := b'.available - b.available
  reserved := b'.reserved - b.reserved
  damaged := b'.damaged - b.damaged
  inTransit := b'.inTransit - b.inTransit

theorem state_change (b b' : Balance) (state : StockState) :
    (b.change b').state state = b'.state state - b.state state := by
  cases state <;> rfl

end Balance

theorem Balance.opened_valid (productId locationId : Uuid) :
    (Balance.opened productId locationId).Valid :=
  valid_iff.mpr ⟨le_rfl, ⟨le_rfl, le_rfl, le_rfl, le_rfl⟩, rfl⟩

/-! ### Statements -/

/-- `INSERT INTO inventory_balances … ON DUPLICATE KEY UPDATE quantity = quantity`. -/
def ensureBalance (s : Store) (productId locationId : Uuid) : Store :=
  match s.balances.insert (.opened productId locationId) with
  | none => s
  | some balances => { s with balances := balances }

/-- `SELECT … FROM inventory_balances WHERE product_id = ? AND location_id = ? FOR UPDATE`. -/
def Store.balance? (s : Store) (productId locationId : Uuid) : Option Balance :=
  s.balances.find? (productId, locationId)

/-- The columns of `b` in the row `r`. -/
def Balance.written (b r : Balance) : Balance :=
  { b with productId := r.productId, locationId := r.locationId }

/-- `UPDATE inventory_balances SET … WHERE product_id = ? AND location_id = ?`. -/
def updateBalance (s : Store) (b : Balance) : Except Failure Store := do
  ensure b.Valid .checkViolation
  pure { s with balances := s.balances.update (b.productId, b.locationId) b.written }

theorem updateBalance_eq_ok {s s' : Store} {b : Balance} (h : updateBalance s b = .ok s') :
    b.Valid ∧
      s' = { s with balances := s.balances.update (b.productId, b.locationId) b.written } := by
  simp only [updateBalance, eq_ok] at h
  obtain ⟨-, hvalid, rfl⟩ := h
  exact ⟨hvalid, rfl⟩

/-! ### What the statements do -/

theorem balance?_ensureBalance_self (s : Store) (productId locationId : Uuid) :
    (ensureBalance s productId locationId).balance? productId locationId =
      some ((s.balance? productId locationId).getD (.opened productId locationId)) := by
  rw [ensureBalance]
  split
  case h_1 hinsert =>
    cases hfind : s.balance? productId locationId with
    | some b => rfl
    | none =>
      obtain ⟨t, ht⟩ := Table.insert_isSome (t := s.balances)
        (r := Balance.opened productId locationId) hfind
      rw [hinsert] at ht
      cases ht
  case h_2 balances hinsert =>
    have hnone : s.balance? productId locationId = none := (Table.insert_eq_some hinsert).1
    rw [hnone]
    exact Table.find?_insert_self hinsert

theorem balance?_ensureBalance_of_ne {s : Store}
    {productId locationId productId' locationId' : Uuid}
    (hne : (productId', locationId') ≠ (productId, locationId)) :
    (ensureBalance s productId locationId).balance? productId' locationId' =
      s.balance? productId' locationId' := by
  rw [ensureBalance]
  split
  · rfl
  case h_2 balances hinsert => exact Table.find?_insert_of_ne hinsert fun h ↦ hne h.symm

theorem ensureBalance_eq (s : Store) (productId locationId : Uuid) :
    ensureBalance s productId locationId =
      { s with balances := (ensureBalance s productId locationId).balances } := by
  rw [ensureBalance]
  split <;> rfl

end UInventario
