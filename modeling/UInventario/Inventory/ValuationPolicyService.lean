import UInventario.Inventory.LotTracking

/-!
# Changing the valuation method

`InventoryValuationPolicyService.change` checks the version and the plan the client saw, refuses a
plan with blocking reasons, and writes the new policy. Only a change to `SPECIFIC_LOT` touches the
stock: every active product that is not tracked by lots becomes tracked, with one opening lot that
holds what each location has; of a product whose stock is not tracked it fails
(`ck_products_sale_behavior`). No change touches a movement or a valuation.
-/

namespace UInventario

open Outcome

/-! ### The plan -/

/-- The products a change to `SPECIFIC_LOT` will open lots for, in the order of their identifiers.
-/
def productsWithoutLots (s : Store) : List Product :=
  orderBy (fun a b : Product ↦ a.id ≤ b.id)
    (s.products.rows.filter fun p ↦ p.active && !p.trackLots)

/-- A balance of a product tracked by lots that its lots do not add up to. -/
def hasLotIssue (s : Store) (b : Balance) : Prop :=
  ∃ p ∈ s.products.find? b.productId, p.trackLots = true ∧
    differs b.quantity (s.lots.balanceTotal b.productId fun _ lb ↦
      if lb.locationId = b.locationId then lb.quantity else 0)
deriving Decidable

def hasFifoIssue (s : Store) (b : Balance) : Prop :=
  differs b.quantity (s.fifo.remainingAt b.productId b.locationId)
deriving Decidable

/-- `plan`. -/
def migrationPlan (s : Store) (targetMethod : ValuationMethod) (current : ValuationPolicy) :
    MigrationPlan where
  current := current
  targetMethod := targetMethod
  blockingReasons :=
    (if targetMethod = current.method then [.METHOD_ALREADY_ACTIVE] else []) ++
    (if targetMethod = .FIFO ∧ ∃ b ∈ s.balances.rows, hasFifoIssue s b
      then [.FIFO_LAYER_RECONCILIATION_REQUIRED] else []) ++
    (if targetMethod = .SPECIFIC_LOT ∧ ∃ b ∈ s.balances.rows, hasLotIssue s b
      then [.LOT_RECONCILIATION_REQUIRED] else [])
  productsToMigrate :=
    if targetMethod = .SPECIFIC_LOT then (productsWithoutLots s).length else 0
  locationsToMigrate :=
    if targetMethod = .SPECIFIC_LOT then
      ((s.balances.rows.filter fun b ↦ 0 < b.quantity ∧
        b.productId ∈ (productsWithoutLots s).map Product.id).map Balance.locationId).dedup.length
    else 0

/-! ### The opening lots -/

def textOf (t : String) : Text :=
  t.toList.map Char.toNat

/-- The keys of requests: `/^[A-Za-z0-9][A-Za-z0-9._:-]{7,127}$/`. -/
def isIdempotencyKey : Text → Bool
  | [] => false
  | c :: rest => isAlphanumeric c && decide (7 ≤ rest.length ∧ rest.length ≤ 127) &&
      rest.all fun c ↦ isAlphanumeric c || decide (c ∈ textOf "._:-")

/-- One turn of `createOpeningLots`. -/
def createOpeningLot (version : ℕ) (s : Store) (product : Product) : Except Failure Store := do
  let code := textOf s!"VALUATION-CUT-V{version}"
  let n := s.lots.lots.rows.length
  let lotId := s.env.uuid .inventory_lots n
  let averageUnitCost := match s.valuations.find? product.id with
    | some v => v.averageUnitCost
    | none => product.cost
  -- `uq_inventory_lots_tenant_product_code`
  ensure (∀ l ∈ s.lots.lots.rows, ¬(l.productId = product.id ∧ l.normalizedCode = code))
    .duplicateEntry
  let lots ← demand (s.lots.lots.insert {
    id := lotId, productId := product.id, code := code, normalizedCode := code,
    manufacturedOn := none, expiresOn := none, unitCost := averageUnitCost,
    currency := tenantCurrency s.env.country,
    createdAt := s.env.clock .inventory_lots n }) .duplicateEntry
  let balances ← (s.balances.rows.filter fun b ↦
      b.productId = product.id ∧ 0 < b.quantity).foldlM (fun balances b ↦
        demand (balances.insert
          { lotId := lotId, locationId := b.locationId, quantity := b.quantity }) .duplicateEntry)
    s.lots.balances
  -- `ck_products_sale_behavior`
  ensure (product.stockBehavior = .TRACKED) .checkViolation
  pure { s with
    lots := { s.lots with lots := lots, balances := balances }
    products := s.products.update product.id fun p ↦
      { p with trackLots := true, version := p.version + 1 } }

def createOpeningLots (s : Store) (version : ℕ) : Except Failure Store :=
  (productsWithoutLots s).foldlM (createOpeningLot version) s

/-- Only a change to `SPECIFIC_LOT` opens lots. -/
def migrateLots (s : Store) (targetMethod : ValuationMethod) (version : ℕ) :
    Except Failure Store :=
  if targetMethod = .SPECIFIC_LOT then createOpeningLots s version else pure s

/-! ### The change -/

structure ChangePolicyInput where
  idempotencyKey : Text
  targetMethod : ValuationMethod
  expectedVersion : ℕ
  planFingerprint : MigrationPlan

/-- `change`. -/
def changeValuationPolicy (s : Store) (input : ChangePolicyInput) : Except Failure Store :=
  match s.policyHistory.find? input.idempotencyKey with
  | some replay => do
    ensure (replay.toMethod = input.targetMethod ∧ replay.fromVersion = input.expectedVersion ∧
      replay.planFingerprint = input.planFingerprint) .valuationPolicyIdempotencyConflict
    pure s
  | none => do
    let (s, current) := loadInventoryValuationPolicy s
    ensure (current.version = input.expectedVersion) .valuationPolicyVersionConflict
    let plan := migrationPlan s input.targetMethod current
    ensure (plan = input.planFingerprint) .valuationMigrationPlanStale
    ensure (plan.blockingReasons = []) .valuationMethodChangeBlocked
    let s ← migrateLots s input.targetMethod (current.version + 1)
    let policyHistory ← demand (s.policyHistory.insert {
      idempotencyKey := input.idempotencyKey, toMethod := input.targetMethod,
      fromVersion := current.version, toVersion := current.version + 1,
      planFingerprint := plan }) .duplicateEntry
    pure { s with
      policy := some { method := input.targetMethod, version := current.version + 1 }
      policyHistory := policyHistory }

/-! ### What a change leaves alone -/

/-- Only the policy, its history, the lots and the lot flag and version of products have changed. -/
structure SameStock (s s' : Store) : Prop where
  store_eq : s' = { s with
    policy := s'.policy, policyHistory := s'.policyHistory,
    lots := { s.lots with lots := s'.lots.lots, balances := s'.lots.balances },
    products := s'.products }
  products : ∀ id, (s'.products.find? id).map (fun p ↦ { p with trackLots := true, version := 0 }) =
    (s.products.find? id).map fun p ↦ { p with trackLots := true, version := 0 }

theorem SameStock.refl (s : Store) : SameStock s s := ⟨rfl, fun _ ↦ rfl⟩

variable {s s' : Store} {input : ChangePolicyInput} {version : ℕ}

theorem SameStock.trans {s'' : Store} (h : SameStock s s') (h' : SameStock s' s'') :
    SameStock s s'' := by
  refine ⟨?_, fun id ↦ (h'.products id).trans (h.products id)⟩
  have hs := h.store_eq
  have hs' := h'.store_eq
  rw [hs] at hs'
  exact hs'

theorem SameStock.find?_product (h : SameStock s s') {id : Uuid} {p : Product}
    (hp : s.products.find? id = some p) : ∃ p', s'.products.find? id = some p' := by
  have hmap := h.products id
  rw [hp] at hmap
  obtain ⟨p', hp', -⟩ := Option.map_eq_some_iff.mp hmap
  exact ⟨p', hp'⟩

theorem createOpeningLots_sameStock (h : createOpeningLots s version = .ok s') :
    SameStock s s' := by
  refine foldlM_invariant (P := SameStock s) (fun product _ t t' ht hstep ↦ ht.trans ?_) (.refl s) h
  simp only [createOpeningLot, eq_ok] at hstep
  obtain ⟨-, -, lots, -, balances, -, -, -, rfl⟩ := hstep
  refine ⟨rfl, fun id ↦ ?_⟩
  rw [Table.find?_update, Option.map_map]
  congr 1
  funext p
  by_cases hid : id = product.id <;> simp [hid]

def Product.withOpeningLot (p : Product) : Product :=
  { p with trackLots := true, version := p.version + 1 }

theorem createOpeningLots_products (h : createOpeningLots s version = .ok s') :
    s'.products = s.products.updateEach (productsWithoutLots s) Product.id
      fun _ ↦ Product.withOpeningLot := by
  have hloop : ∀ (l : List Product) (t t' : Store),
      l.foldlM (createOpeningLot version) t = .ok t' →
        t'.products = t.products.updateEach l Product.id
          fun _ ↦ Product.withOpeningLot := by
    intro l
    induction l with
    | nil =>
      intro t t' ht
      rw [foldlM_nil_eq_ok.mp ht]
      rfl
    | cons product l ih =>
      intro t t' ht
      obtain ⟨t₁, hturn, hrest⟩ := foldlM_cons_eq_ok.mp ht
      rw [ih t₁ t' hrest]
      simp only [createOpeningLot, eq_ok] at hturn
      obtain ⟨-, -, lots, -, balances, -, -, -, rfl⟩ := hturn
      rfl
  exact hloop _ s s' h

/-- **A change of method moves no stock.** -/
theorem changeValuationPolicy_sameStock
    (h : changeValuationPolicy s input = .ok s') : SameStock s s' := by
  rw [changeValuationPolicy] at h
  split at h
  · simp only [eq_ok] at h
    obtain ⟨-, -, rfl⟩ := h
    exact .refl s
  · have hload : SameStock s (loadInventoryValuationPolicy s).1 := by
      rw [loadInventoryValuationPolicy_fst]
      exact ⟨rfl, fun _ ↦ rfl⟩
    simp only [eq_ok] at h
    obtain ⟨-, -, -, -, -, -, t, ht, history, -, rfl⟩ := h
    have hlots : SameStock (loadInventoryValuationPolicy s).1 t := by
      rw [migrateLots] at ht
      split at ht
      · exact createOpeningLots_sameStock ht
      · rw [pure_eq_ok] at ht
        exact ht ▸ .refl _
    exact (hload.trans hlots).trans ⟨rfl, fun _ ↦ rfl⟩

theorem changeValuationPolicy_of_ne
    (htarget : input.targetMethod ≠ .SPECIFIC_LOT) (h : changeValuationPolicy s input = .ok s') :
    s' = { s with policy := s'.policy, policyHistory := s'.policyHistory } := by
  rw [changeValuationPolicy] at h
  split at h
  · simp only [eq_ok] at h
    obtain ⟨-, -, rfl⟩ := h
    rfl
  · simp only [eq_ok] at h
    obtain ⟨-, -, -, -, -, -, t, ht, history, -, rfl⟩ := h
    rw [migrateLots, if_neg htarget, pure_eq_ok, loadInventoryValuationPolicy_fst] at ht
    rw [← ht]

end UInventario
