import UInventario.Inventory.LotChoice
import UInventario.Operations.Stock

/-!
# What the fingerprint of an inventory request covers

A manual movement, a count and a transition between buckets are each answered with the recorded
result when their idempotency key is known and the stored fingerprint is theirs. `InventoryRequest`
puts the three behind one interface: `serve_eq` splits an answer into the fingerprint, what is
stored under the key and the transaction, and `execute_eq_ok` says what a transaction leaves behind.

The fingerprint lists product, location, type, quantity, reason, reference and serial numbers. It
has neither the warehouse, which `assertTarget` compares with that of the location, nor the lot code
and the dates of a manual movement. So a second request is told apart by a field of the list, or by
leaving the same store when it names the warehouse and the lots of the first (`toldApart_iff`).
-/

namespace UInventario

open Outcome List

/-! ### One transaction of each kind -/

def MovementInput.resolve (s : Store) (input : MovementInput) : Except Failure ℤ := do
  let policy ← productQuantityPolicy s input.productId
  let normalized ← normalizeProductQuantity input.quantity policy true
  quantityChange input.type normalized

def MovementInput.fingerprint (input : MovementInput) (change : ℤ) : Fingerprint :=
  .movement input.productId input.locationId input.type.toMovementType change input.reason
    input.reference (input.serialNumbers.getD [])

def MovementInput.execute (s : Store) (input : MovementInput) (change : ℤ) :
    Except Failure MovementResult := do
  assertTarget s input.warehouseId input.productId input.locationId
  let s := ensureBalance s input.productId input.locationId
  let balance ← demand (s.balance? input.productId input.locationId) .typeError
  createMovementLocked s input change (input.fingerprint change) balance

def MovementInput.lotOptions (input : MovementInput) : LotOptions where
  lotCode := input.lotCode
  manufacturedOn := input.manufacturedOn
  expiresOn := input.expiresOn

/-- The quantities of a count: what was expected and what was counted. -/
def CountInput.resolve (s : Store) (input : CountInput) : Except Failure (ℤ × ℤ) := do
  let policy ← productQuantityPolicy s input.productId
  let snapshot ← normalizeProductQuantity input.snapshotQuantity policy false false
  let counted ← normalizeProductQuantity input.countedQuantity policy false false
  pure (snapshot, counted)

def CountInput.fingerprint (input : CountInput) (snapshot counted : ℤ) : Fingerprint :=
  .count input.productId input.locationId snapshot counted input.reason input.reference
    input.capturedAt

def CountInput.execute (s : Store) (input : CountInput) (snapshot counted : ℤ) :
    Except Failure CountResult := do
  assertTarget s input.warehouseId input.productId input.locationId
  let s := ensureBalance s input.productId input.locationId
  let balance ← demand (s.balance? input.productId input.locationId) .typeError
  createCountLocked s input snapshot counted (input.fingerprint snapshot counted) balance

def StateTransitionInput.resolve (s : Store) (input : StateTransitionInput) :
    Except Failure ℤ := do
  ensure (¬(input.fromState = input.toState ∨
    (input.fromState ≠ .AVAILABLE ∧ input.toState ≠ .AVAILABLE))) .invalidStockStateTransition
  let policy ← productQuantityPolicy s input.productId
  let quantity ← normalizeProductQuantity input.quantity policy
  ensure (0 < quantity) .invalidStockStateTransition
  pure quantity

def StateTransitionInput.fingerprint (input : StateTransitionInput) (quantity : ℤ) : Fingerprint :=
  .stateTransition input.productId input.locationId input.fromState input.toState quantity
    input.reason input.reference (input.serialNumbers.getD [])

def StateTransitionInput.execute (s : Store) (input : StateTransitionInput) (quantity : ℤ) :
    Except Failure MovementResult := do
  assertTarget s input.warehouseId input.productId input.locationId
  let s := ensureBalance s input.productId input.locationId
  let balance ← demand (s.balance? input.productId input.locationId) .typeError
  ensure (quantity ≤ balance.state input.fromState) .insufficientStockState
  let s ← updateBalance s (balance.transferred input.fromState input.toState quantity)
  let s ← postMovement s (input.newMovement quantity balance.quantity (input.fingerprint quantity))
    input.tracking
  let movement ← demand (s.findMovement input.idempotencyKey) .typeError
  pure { store := s, movement := movement, replay := false }

/-! ### Requests -/

inductive InventoryRequest
  | movement (input : MovementInput)
  | count (input : CountInput)
  | stateTransition (input : StateTransitionInput)

/-- What a request is answered with: the store it leaves, the fingerprint of the answered row, and
whether the row was there before. -/
structure ServedRequest where
  store : Store
  fingerprint : Fingerprint
  replay : Bool

def MovementResult.served (r : MovementResult) : ServedRequest :=
  ⟨r.store, r.movement.requestFingerprint, r.replay⟩

def CountResult.served (r : CountResult) : ServedRequest :=
  ⟨r.store, r.count.requestFingerprint, r.replay⟩

namespace InventoryRequest

def idempotencyKey : InventoryRequest → Text
  | movement input => input.idempotencyKey
  | count input => input.idempotencyKey
  | stateTransition input => input.idempotencyKey

def warehouseId : InventoryRequest → Uuid
  | movement input => input.warehouseId
  | count input => input.warehouseId
  | stateTransition input => input.warehouseId

def SameOperation : InventoryRequest → InventoryRequest → Prop
  | movement _, movement _ | count _, count _ | stateTransition _, stateTransition _ => True
  | _, _ => False

def serve (s : Store) : InventoryRequest → Except Failure ServedRequest
  | movement input => do pure (← createMovement s input).served
  | count input => do pure (← createCount s input).served
  | stateTransition input => do pure (← createStateTransition s input).served

def leaves (s : Store) (a : InventoryRequest) : Store :=
  match a.serve s with
  | .ok served => served.store
  | .error _ => s

def fingerprint (s : Store) : InventoryRequest → Except Failure Fingerprint
  | movement input => do pure (input.fingerprint (← input.resolve s))
  | count input => do
    let (snapshot, counted) ← input.resolve s
    pure (input.fingerprint snapshot counted)
  | stateTransition input => do pure (input.fingerprint (← input.resolve s))

def stored (s : Store) : InventoryRequest → Option Fingerprint
  | movement input => (s.findMovement input.idempotencyKey).map Movement.requestFingerprint
  | count input => (s.findCount input.idempotencyKey).map InventoryCount.requestFingerprint
  | stateTransition input => (s.findMovement input.idempotencyKey).map Movement.requestFingerprint

def execute (s : Store) : InventoryRequest → Except Failure ServedRequest
  | movement input => do pure (← input.execute s (← input.resolve s)).served
  | count input => do
    let (snapshot, counted) ← input.resolve s
    pure (← input.execute s snapshot counted).served
  | stateTransition input => do pure (← input.execute s (← input.resolve s)).served

/-- **The lots of a movement**: both requests name the same, where the product is tracked by lots.
The other operations name none. -/
def NamesLots (s : Store) : InventoryRequest → InventoryRequest → Prop
  | movement a, movement b => ∀ change, a.resolve s = .ok change →
      SameLots s a.productId change a.lotOptions b.lotOptions
  | _, _ => True

/-- **The second request is told apart**: where it would leave another store, it is refused. -/
def ToldApart (s : Store) (b : InventoryRequest) (served : ServedRequest) : Prop :=
  b.leaves s ≠ served.store → b.fingerprint s ≠ .ok served.fingerprint ∧
    ∃ e, b.serve served.store = .error e ∧ ∀ f, b.fingerprint s = .ok f → e = .idempotencyConflict

end InventoryRequest

/-! ### Answers -/

def answerStored (s : Store) (fingerprint stored : Fingerprint) :
    Except Failure ServedRequest := do
  ensure (stored = fingerprint) .idempotencyConflict
  pure { store := s, fingerprint := stored, replay := true }

variable {α : Type}

theorem onDuplicate_bind_pure {β : Type} (x : Except Failure α) (e : Failure) (f : α → β) :
    (do pure (f (← onDuplicate x (.error e)))) = onDuplicate (do pure (f (← x))) (.error e) := by
  cases x with
  | ok a => rfl
  | error e' => cases e' <;> rfl

theorem onDuplicate_replay {c : Prop} [Decidable c] {a : α} {recover : Except Failure α} :
    onDuplicate (do ensure c Failure.idempotencyConflict; pure a) recover =
      (do ensure c Failure.idempotencyConflict; pure a) := by
  by_cases hc : c
  · rw [ensure, if_pos hc]
    rfl
  · rw [ensure, if_neg hc]
    rfl

section

variable (s : Store)
include s

theorem createMovement_eq (input : MovementInput) :
    createMovement s input = input.resolve s >>= fun change ↦
      match s.findMovement input.idempotencyKey with
      | some existing => replayMovement s (input.fingerprint change) existing
      | none => onDuplicate (input.execute s change) (.error .idempotencyConflict) := by
  rw [createMovement, MovementInput.resolve]
  simp only [bind_assoc]
  refine bind_congr fun policy ↦ bind_congr fun normalized ↦ bind_congr fun change ↦ ?_
  cases hkey : s.findMovement input.idempotencyKey with
  | some existing => exact onDuplicate_replay
  | none =>
    simp only [MovementInput.execute, Store.findMovement_ensureBalance, hkey, recoverMovement]
    rfl

theorem findCount_ensureBalance (productId locationId : Uuid) (idempotencyKey : Text) :
    (ensureBalance s productId locationId).findCount idempotencyKey =
      s.findCount idempotencyKey := by
  rw [ensureBalance_eq]
  rfl

theorem createCount_eq (input : CountInput) :
    createCount s input = input.resolve s >>= fun (snapshot, counted) ↦
      match s.findCount input.idempotencyKey with
      | some existing => replayCount s (input.fingerprint snapshot counted) existing
      | none => onDuplicate (input.execute s snapshot counted) (.error .idempotencyConflict) := by
  rw [createCount, CountInput.resolve]
  simp only [bind_assoc, pure_bind]
  refine bind_congr fun policy ↦ bind_congr fun snapshot ↦ bind_congr fun counted ↦ ?_
  cases hkey : s.findCount input.idempotencyKey with
  | some existing => exact onDuplicate_replay
  | none =>
    simp only [CountInput.execute, findCount_ensureBalance, hkey]
    rfl

theorem createStateTransition_eq (input : StateTransitionInput) :
    createStateTransition s input = input.resolve s >>= fun quantity ↦
      match s.findMovement input.idempotencyKey with
      | some existing => replayMovement s (input.fingerprint quantity) existing
      | none => onDuplicate (input.execute s quantity) (.error .idempotencyConflict) := by
  rw [createStateTransition, StateTransitionInput.resolve]
  simp only [bind_assoc, pure_bind]
  refine bind_congr fun _ ↦ bind_congr fun policy ↦ bind_congr fun quantity ↦
    bind_congr fun _ ↦ ?_
  cases hkey : s.findMovement input.idempotencyKey with
  | some existing => exact onDuplicate_replay
  | none =>
    simp only [StateTransitionInput.execute, Store.findMovement_ensureBalance, hkey,
      recoverMovement]
    rfl

theorem served_replayMovement (f : Fingerprint) (movement : Movement) :
    (do pure (← replayMovement s f movement).served) =
      answerStored s f movement.requestFingerprint := by
  rw [replayMovement, answerStored, bind_assoc]
  rfl

theorem served_replayCount (f : Fingerprint) (count : InventoryCount) :
    (do pure (← replayCount s f count).served) = answerStored s f count.requestFingerprint := by
  rw [replayCount, answerStored, bind_assoc]
  rfl

/-- **An answer**: the fingerprint first, then what is stored under the key, and the transaction
when nothing is. -/
theorem InventoryRequest.serve_eq (a : InventoryRequest) :
    a.serve s = a.fingerprint s >>= fun f ↦
      match a.stored s with
      | some g => answerStored s f g
      | none => onDuplicate (a.execute s) (.error .idempotencyConflict) := by
  cases a with
  | movement input =>
    rw [serve, fingerprint, stored, execute, createMovement_eq, bind_assoc, bind_assoc]
    cases hresolve : input.resolve s with
    | error e => rfl
    | ok change =>
      cases s.findMovement input.idempotencyKey with
      | some existing => exact served_replayMovement _ _ _
      | none => exact onDuplicate_bind_pure _ _ _
  | count input =>
    rw [serve, fingerprint, stored, execute, createCount_eq, bind_assoc, bind_assoc]
    cases hresolve : input.resolve s with
    | error e => rfl
    | ok quantities =>
      cases s.findCount input.idempotencyKey with
      | some existing => exact served_replayCount _ _ _
      | none => exact onDuplicate_bind_pure _ _ _
  | stateTransition input =>
    rw [serve, fingerprint, stored, execute, createStateTransition_eq, bind_assoc, bind_assoc]
    cases hresolve : input.resolve s with
    | error e => rfl
    | ok quantity =>
      cases s.findMovement input.idempotencyKey with
      | some existing => exact served_replayMovement _ _ _
      | none => exact onDuplicate_bind_pure _ _ _

end

/-! ### What a transaction leaves -/

def SamePolicies (s t : Store) : Prop :=
  ∀ productId, productQuantityPolicy t productId = productQuantityPolicy s productId

variable {s t : Store} {tracking : Tracking} {n : NewMovement}

theorem Posting.samePolicies (p : Posting s n tracking t) : SamePolicies s t := by
  intro productId
  have hfind : (t.products.find? productId).map Product.quantityPolicy =
      (s.products.find? productId).map Product.quantityPolicy := by
    rw [p.products_eq]
    split
    · generalize catalogCost _ = cost
      rw [Table.find?_update, Option.map_map]
      congr 1
      funext product
      show (if productId = n.productId then product.recosted cost else product).quantityPolicy =
        product.quantityPolicy
      split
      · rw [Product.recosted]
        split <;> rfl
      · rfl
    · rfl
  rw [productQuantityPolicy, productQuantityPolicy]
  cases hs : s.products.find? productId with
  | none =>
    rw [hs, Option.map_none, Option.map_eq_none_iff] at hfind
    rw [hfind]
  | some product =>
    rw [hs, Option.map_some] at hfind
    obtain ⟨product', hproduct', hpolicy⟩ := Option.map_eq_some_iff.mp hfind
    rw [hproduct']
    exact congrArg Except.ok hpolicy

variable {idempotencyKey : Text}

theorem Posting.findMovement (p : Posting s n tracking t)
    (hkey : n.idempotencyKey = .request idempotencyKey) :
    t.findMovement idempotencyKey = some p.row := by
  rw [Store.findMovement, p.journal, find?_append, List.find?_eq_none.mpr]
  · have hrow : p.row.idempotencyKey = .request idempotencyKey :=
      (congrArg Movement.idempotencyKey p.static_row :).trans hkey
    rw [Option.none_or, find?_cons_of_pos (by simpa using hrow)]
  · intro m hm
    simpa using hkey ▸ p.key_fresh m hm

variable {productId locationId : Uuid}

/-- **What the balance of a request becomes** before its movement is posted: the stores differ in
their balances alone. -/
theorem updateBalance_ensureBalance {b : Balance}
    (h : updateBalance (ensureBalance s productId locationId) b = .ok t) :
    t = { s with balances := t.balances } := by
  rw [ensureBalance_eq] at h
  obtain ⟨-, rfl⟩ := updateBalance_eq_ok h
  rfl

theorem posted_request {s₁ : Store} {movement : Movement}
    (hstore : s₁ = { s with balances := s₁.balances })
    (hkey : n.idempotencyKey = .request idempotencyKey) (hpost : postMovement s₁ n tracking = .ok t)
    (hfound : t.findMovement idempotencyKey = some movement) :
    movement.requestFingerprint = n.requestFingerprint ∧ SamePolicies s t := by
  obtain ⟨p⟩ := postMovement_eq_ok hpost
  cases (p.findMovement hkey).symm.trans hfound
  refine ⟨(congrArg Movement.requestFingerprint p.static_row :), fun productId ↦ ?_⟩
  rw [p.samePolicies productId, hstore]
  rfl

variable {r : MovementResult} {input : MovementInput} {change : ℤ}

theorem MovementInput.execute_eq_ok (h : input.execute s change = .ok r) :
    r.replay = false ∧ r.store.findMovement input.idempotencyKey = some r.movement ∧
      r.movement.requestFingerprint = input.fingerprint change ∧ SamePolicies s r.store := by
  simp only [execute, createMovementLocked, eq_ok] at h
  obtain ⟨-, -, balance, -, -, -, -, -, -, -, s₁, hupdate, t, hpost, movement, hfound, rfl⟩ := h
  obtain ⟨hfingerprint, hpolicies⟩ :=
    posted_request (updateBalance_ensureBalance hupdate) rfl hpost hfound
  exact ⟨rfl, hfound, hfingerprint, hpolicies⟩

variable {quantity : ℤ}

theorem StateTransitionInput.execute_eq_ok {input : StateTransitionInput}
    (h : input.execute s quantity = .ok r) :
    r.replay = false ∧ r.store.findMovement input.idempotencyKey = some r.movement ∧
      r.movement.requestFingerprint = input.fingerprint quantity ∧ SamePolicies s r.store := by
  simp only [execute, eq_ok] at h
  obtain ⟨-, -, balance, -, -, -, s₁, hupdate, t, hpost, movement, hfound, rfl⟩ := h
  obtain ⟨hfingerprint, hpolicies⟩ :=
    posted_request (updateBalance_ensureBalance hupdate) rfl hpost hfound
  exact ⟨rfl, hfound, hfingerprint, hpolicies⟩

variable {snapshot counted : ℤ}

theorem CountInput.execute_eq_ok {input : CountInput}
    {r : CountResult} (h : input.execute s snapshot counted = .ok r) :
    r.replay = false ∧
      (r.store.findCount input.idempotencyKey).map InventoryCount.requestFingerprint =
        some r.count.requestFingerprint ∧
      r.count.requestFingerprint = input.fingerprint snapshot counted ∧
      SamePolicies s r.store := by
  simp only [execute, createCountLocked, insertCount, eq_ok] at h
  obtain ⟨-, -, balance, -, -, -, -, -, ⟨s₁, movementId⟩, hadjust, t,
    ⟨-, hfresh, counts, hinsert, rfl⟩, rfl⟩ := h
  refine ⟨rfl, ?_, rfl, ?_⟩
  · have hrows := (Table.insert_eq_some hinsert).2
    rw [Store.findCount]
    dsimp only at hrows hfresh ⊢
    rw [hrows, find?_append, List.find?_eq_none.mpr fun c hc ↦ by simpa using hfresh c hc,
      Option.none_or, find?_cons_of_pos (by simp), Option.map_some]
  · have hsame : SamePolicies (ensureBalance s input.productId input.locationId) s₁ := by
      rw [adjustCount] at hadjust
      split at hadjust
      · simp only [eq_ok] at hadjust
        obtain ⟨s₂, hupdate, s₃, hpost, hresult⟩ := hadjust
        obtain ⟨rfl, rfl⟩ := Prod.mk.inj hresult
        obtain ⟨p⟩ := postMovement_eq_ok hpost
        intro productId
        rw [p.samePolicies productId, (updateBalance_eq_ok hupdate).2]
        rfl
      · obtain ⟨rfl, rfl⟩ := Prod.mk.inj (pure_eq_ok.mp hadjust)
        exact fun _ ↦ rfl
    intro productId
    refine (hsame productId).trans ?_
    rw [ensureBalance_eq]
    rfl

variable {served : ServedRequest} {a b : InventoryRequest}

namespace InventoryRequest

/-- **What a transaction leaves behind**: a row under the key of its request, with its fingerprint.
-/
theorem execute_eq_ok (h : a.execute s = .ok served) :
    served.replay = false ∧ a.fingerprint s = .ok served.fingerprint ∧
      a.stored served.store = some served.fingerprint ∧ SamePolicies s served.store := by
  cases a with
  | movement input =>
    obtain ⟨change, hchange, h⟩ := bind_eq_ok.mp h
    obtain ⟨r, hr, h⟩ := bind_eq_ok.mp h
    obtain rfl := pure_eq_ok.mp h
    obtain ⟨hreplay, hfound, hfingerprint, hpolicies⟩ := input.execute_eq_ok hr
    refine ⟨hreplay, ?_, ?_, hpolicies⟩
    · rw [fingerprint, hchange]
      exact congrArg Except.ok hfingerprint.symm
    · show (r.store.findMovement input.idempotencyKey).map _ = _
      rw [hfound]
      rfl
  | count input =>
    obtain ⟨⟨snapshot, counted⟩, hquantities, h⟩ := bind_eq_ok.mp h
    obtain ⟨r, hr, h⟩ := bind_eq_ok.mp h
    obtain rfl := pure_eq_ok.mp h
    obtain ⟨hreplay, hfound, hfingerprint, hpolicies⟩ := input.execute_eq_ok hr
    refine ⟨hreplay, ?_, hfound, hpolicies⟩
    rw [fingerprint, hquantities]
    exact congrArg Except.ok hfingerprint.symm
  | stateTransition input =>
    obtain ⟨quantity, hquantity, h⟩ := bind_eq_ok.mp h
    obtain ⟨r, hr, h⟩ := bind_eq_ok.mp h
    obtain rfl := pure_eq_ok.mp h
    obtain ⟨hreplay, hfound, hfingerprint, hpolicies⟩ := input.execute_eq_ok hr
    refine ⟨hreplay, ?_, ?_, hpolicies⟩
    · rw [fingerprint, hquantity]
      exact congrArg Except.ok hfingerprint.symm
    · show (r.store.findMovement input.idempotencyKey).map _ = _
      rw [hfound]
      rfl

theorem fingerprint_congr (h : SamePolicies s t) (b : InventoryRequest) :
    b.fingerprint t = b.fingerprint s := by
  cases b with
  | movement input => rw [fingerprint, fingerprint, MovementInput.resolve, MovementInput.resolve,
      h input.productId]
  | count input => rw [fingerprint, fingerprint, CountInput.resolve, CountInput.resolve,
      h input.productId]
  | stateTransition input => rw [fingerprint, fingerprint, StateTransitionInput.resolve,
      StateTransitionInput.resolve, h input.productId]

theorem stored_congr (hoperation : a.SameOperation b)
    (hkey : a.idempotencyKey = b.idempotencyKey) (s : Store) : b.stored s = a.stored s := by
  cases a <;> cases b <;> try cases hoperation
  · exact congrArg (fun key ↦ (s.findMovement key).map Movement.requestFingerprint) hkey.symm
  · exact congrArg (fun key ↦ (s.findCount key).map InventoryCount.requestFingerprint) hkey.symm
  · exact congrArg (fun key ↦ (s.findMovement key).map Movement.requestFingerprint) hkey.symm

end InventoryRequest

/-! ### Requests of one fingerprint -/

theorem UserMovementType.toMovementType_injective :
    Function.Injective UserMovementType.toMovementType := by
  intro t t' h
  cases t <;> cases t' <;> first | rfl | cases h

theorem UserMovementType.isManual (type : UserMovementType) :
    type.toMovementType.isManual = true := by
  cases type <;> rfl

theorem MovementInput.resolve_ne_zero (h : input.resolve s = .ok change) : change ≠ 0 := by
  simp only [resolve, quantityChange, eq_ok] at h
  obtain ⟨-, -, units, -, -, hunits, -, -, rfl⟩ := h
  split
  · exact neg_ne_zero.mpr hunits
  · exact neg_ne_zero.mpr hunits
  · exact neg_ne_zero.mpr hunits
  · exact hunits

theorem sameLots_balances (hstore : t = { s with balances := t.balances })
    {o o' : LotOptions} : SameLots t productId change o o' ↔ SameLots s productId change o o' := by
  rw [hstore]
  exact ⟨fun h ↦ ⟨h.entry, h.exit⟩, fun h ↦ ⟨h.entry, h.exit⟩⟩

section

variable {a b : MovementInput} {change change' : ℤ} (hkey : a.idempotencyKey = b.idempotencyKey)
  (hf : b.fingerprint change' = a.fingerprint change)
include hkey hf

theorem MovementInput.newMovement_congr (resultingQuantity : ℤ) :
    b.newMovement change' resultingQuantity (b.fingerprint change') =
      a.newMovement change resultingQuantity (a.fingerprint change) := by
  rw [newMovement, newMovement, hf, hkey]
  obtain ⟨hproduct, hlocation, htype, hchange, -⟩ := Fingerprint.movement.inj hf
  rw [hproduct, hlocation, htype, hchange]

/-- **Two movements of one fingerprint**, warehouse and lots are one transaction. -/
theorem MovementInput.execute_congr (hresolve : a.resolve s = .ok change)
    (hwarehouse : b.warehouseId = a.warehouseId)
    (hlots : SameLots s a.productId change a.lotOptions b.lotOptions) :
    b.execute s change' = a.execute s change := by
  obtain ⟨hproduct, hlocation, htype, hchange, -, hreference, hserials⟩ :=
    Fingerprint.movement.inj hf
  have htype' : b.type = a.type := UserMovementType.toMovementType_injective htype
  rw [execute, execute, hwarehouse, hproduct, hlocation]
  refine bind_congr fun _ ↦ bind_congr fun balance ↦ ?_
  rw [createMovementLocked, createMovementLocked, htype', hreference, hproduct, hlocation, hchange,
    hkey]
  refine bind_congr fun _ ↦ bind_congr fun _ ↦ bind_congr fun _ ↦ ?_
  cases hupdate : updateBalance (ensureBalance s a.productId a.locationId)
      { balance with
        quantity := balance.quantity + change, available := balance.available + change } with
  | error e => rfl
  | ok s₁ =>
    have hstore := updateBalance_ensureBalance hupdate
    have hrow := newMovement_congr hkey hf (balance.quantity + change)
    rw [hchange] at hrow
    rw [ok_bind, ok_bind, hrow]
    have hpost : postMovement s₁
        (a.newMovement change (balance.quantity + change) (a.fingerprint change)) b.tracking =
        postMovement s₁
          (a.newMovement change (balance.quantity + change) (a.fingerprint change)) a.tracking := by
      have hmanual := a.type.isManual
      refine postMovement_congr (fun h ↦ ?_) (fun h ↦ ?_) (fun t ht ↦ ?_) rfl hserials
      · rw [show a.type.toMovementType = _ from h] at hmanual
        cases hmanual
      · rw [show a.type.toMovementType = _ from h] at hmanual
        cases hmanual
      · obtain ⟨row, htracked⟩ := tracked_posted ht
        have hsame : SameLots s₁ a.productId change a.lotOptions b.lotOptions :=
          (sameLots_balances hstore).mpr hlots
        have htracking := @Tracked.sameLots_congr b.lotOptions a.lotOptions s₁ t _ row
          htracked hmanual (resolve_ne_zero hresolve) rfl rfl rfl hsame
        exact htracking.symm
    rw [hpost]

theorem MovementInput.sameLots_of_execute
    {r' : MovementResult} (hresolve : a.resolve s = .ok change)
    (h : a.execute s change = .ok r) (h' : b.execute s change' = .ok r')
    (hlots : r.store.lots = r'.store.lots) :
    SameLots s a.productId change a.lotOptions b.lotOptions := by
  obtain ⟨hproduct, hlocation, -, hchange, -⟩ := Fingerprint.movement.inj hf
  simp only [execute, createMovementLocked, eq_ok] at h h'
  obtain ⟨-, -, balance, hbalance, -, -, -, -, -, -, s₁, hupdate, t, hpost, m, -, rfl⟩ := h
  obtain ⟨-, -, balance', hbalance', -, -, -, -, -, -, s₁', hupdate', t', hpost', m', -, rfl⟩ := h'
  rw [hproduct, hlocation] at hbalance' hupdate'
  cases hbalance.symm.trans hbalance'
  rw [hchange] at hupdate'
  cases hupdate.symm.trans hupdate'
  rw [hchange] at hpost'
  have hrow := newMovement_congr hkey hf (balance.quantity + change)
  rw [hchange] at hrow
  rw [hrow] at hpost'
  have hsame := @postMovement_lots_iff s₁ _ b.lotOptions a.lotOptions t t' _ _ a.type.isManual
    (resolve_ne_zero hresolve) rfl rfl rfl hpost hpost'
  exact (sameLots_balances (updateBalance_ensureBalance hupdate)).mp (hsame.mp hlots)

end

theorem CountInput.execute_congr {a b : CountInput}
    {snapshot' counted' : ℤ} (hkey : a.idempotencyKey = b.idempotencyKey)
    (hf : b.fingerprint snapshot' counted' = a.fingerprint snapshot counted)
    (hwarehouse : b.warehouseId = a.warehouseId) :
    b.execute s snapshot' counted' = a.execute s snapshot counted := by
  rw [execute, execute, hf]
  obtain ⟨hproduct, hlocation, rfl, rfl, -⟩ := Fingerprint.count.inj hf
  simp only [createCountLocked, adjustCount, CountInput.newMovement, hproduct, hlocation,
    hwarehouse, hkey]

theorem StateTransitionInput.execute_congr {a b : StateTransitionInput}
    {quantity' : ℤ} (hkey : a.idempotencyKey = b.idempotencyKey)
    (hf : b.fingerprint quantity' = a.fingerprint quantity)
    (hwarehouse : b.warehouseId = a.warehouseId) :
    b.execute s quantity' = a.execute s quantity := by
  rw [execute, execute, hf]
  obtain ⟨hproduct, hlocation, hfrom, hto, rfl, -, -, hserials⟩ :=
    Fingerprint.stateTransition.inj hf
  simp only [StateTransitionInput.newMovement, hproduct, hlocation, hfrom, hto, hwarehouse, hkey]
  refine bind_congr fun _ ↦ bind_congr fun balance ↦ bind_congr fun _ ↦ bind_congr fun s₁ ↦ ?_
  congr 1
  exact postMovement_congr (by rintro ⟨⟩) (by rintro ⟨⟩) (fun _ _ ↦ rfl) rfl hserials

theorem warehouseId_of_assertTarget {warehouseId warehouseId' productId' : Uuid} {u u' : PUnit}
    (h : assertTarget s warehouseId productId locationId = .ok u)
    (h' : assertTarget s warehouseId' productId' locationId = .ok u') :
    warehouseId' = warehouseId := by
  simp only [assertTarget, eq_ok] at h h'
  obtain ⟨location, hlocation, -, -, hwarehouse, -⟩ := h
  obtain ⟨location', hlocation', -, -, hwarehouse', -⟩ := h'
  cases hlocation.symm.trans hlocation'
  exact hwarehouse'.symm.trans hwarehouse

namespace InventoryRequest

/-- **The fields outside of the fingerprint** that decide what a request writes are the warehouse
and the lots. -/
theorem execute_congr {f : Fingerprint}
    (hoperation : a.SameOperation b) (hkey : a.idempotencyKey = b.idempotencyKey)
    (hfa : a.fingerprint s = .ok f) (hfb : b.fingerprint s = .ok f)
    (hwarehouse : b.warehouseId = a.warehouseId) (hlots : a.NamesLots s b) :
    b.execute s = a.execute s := by
  cases a <;> cases b <;> try cases hoperation
  case movement.movement a b =>
    obtain ⟨change, hchange, hfa⟩ := bind_eq_ok.mp hfa
    obtain ⟨change', hchange', hfb⟩ := bind_eq_ok.mp hfb
    have hf := (Except.ok.inj hfb).trans (Except.ok.inj hfa).symm
    rw [execute, execute, hchange, hchange', ok_bind, ok_bind,
      MovementInput.execute_congr hkey hf hchange hwarehouse (hlots change hchange)]
  case count.count a b =>
    obtain ⟨⟨snapshot, counted⟩, hresolve, hfa⟩ := bind_eq_ok.mp hfa
    obtain ⟨⟨snapshot', counted'⟩, hresolve', hfb⟩ := bind_eq_ok.mp hfb
    have hf := (Except.ok.inj hfb).trans (Except.ok.inj hfa).symm
    rw [execute, execute, hresolve, hresolve', ok_bind, ok_bind]
    dsimp only
    rw [CountInput.execute_congr hkey hf hwarehouse]
  case stateTransition.stateTransition a b =>
    obtain ⟨quantity, hquantity, hfa⟩ := bind_eq_ok.mp hfa
    obtain ⟨quantity', hquantity', hfb⟩ := bind_eq_ok.mp hfb
    have hf := (Except.ok.inj hfb).trans (Except.ok.inj hfa).symm
    rw [execute, execute, hquantity, hquantity', ok_bind, ok_bind,
      StateTransitionInput.execute_congr hkey hf hwarehouse]

theorem names_of_execute {served' : ServedRequest}
    (hoperation : a.SameOperation b) (hkey : a.idempotencyKey = b.idempotencyKey)
    (hf : b.fingerprint s = a.fingerprint s) (h : a.execute s = .ok served)
    (h' : b.execute s = .ok served') (hstore : served'.store = served.store) :
    b.warehouseId = a.warehouseId ∧ a.NamesLots s b := by
  cases a <;> cases b <;> try cases hoperation
  case movement.movement a b =>
    obtain ⟨change, hchange, h⟩ := bind_eq_ok.mp h
    obtain ⟨change', hchange', h'⟩ := bind_eq_ok.mp h'
    obtain ⟨r, hr, h⟩ := bind_eq_ok.mp h
    obtain ⟨r', hr', h'⟩ := bind_eq_ok.mp h'
    obtain rfl := pure_eq_ok.mp h
    obtain rfl := pure_eq_ok.mp h'
    rw [fingerprint, fingerprint, hchange, hchange'] at hf
    have hf := Except.ok.inj hf
    have hlocation := (Fingerprint.movement.inj hf).2.1
    refine ⟨?_, fun change₀ hchange₀ ↦ ?_⟩
    · obtain ⟨_, htarget, -⟩ := bind_eq_ok.mp hr
      obtain ⟨_, htarget', -⟩ := bind_eq_ok.mp hr'
      exact warehouseId_of_assertTarget htarget (hlocation ▸ htarget')
    · cases hchange.symm.trans hchange₀
      exact MovementInput.sameLots_of_execute hkey hf hchange hr hr'
        (congrArg Store.lots hstore).symm
  case count.count a b =>
    obtain ⟨⟨snapshot, counted⟩, hresolve, h⟩ := bind_eq_ok.mp h
    obtain ⟨⟨snapshot', counted'⟩, hresolve', h'⟩ := bind_eq_ok.mp h'
    obtain ⟨r, hr, -⟩ := bind_eq_ok.mp h
    obtain ⟨r', hr', -⟩ := bind_eq_ok.mp h'
    rw [fingerprint, fingerprint, hresolve, hresolve'] at hf
    have hlocation := (Fingerprint.count.inj (Except.ok.inj hf)).2.1
    obtain ⟨_, htarget, -⟩ := bind_eq_ok.mp hr
    obtain ⟨_, htarget', -⟩ := bind_eq_ok.mp hr'
    exact ⟨warehouseId_of_assertTarget htarget (hlocation ▸ htarget'), trivial⟩
  case stateTransition.stateTransition a b =>
    obtain ⟨quantity, hquantity, h⟩ := bind_eq_ok.mp h
    obtain ⟨quantity', hquantity', h'⟩ := bind_eq_ok.mp h'
    obtain ⟨r, hr, -⟩ := bind_eq_ok.mp h
    obtain ⟨r', hr', -⟩ := bind_eq_ok.mp h'
    rw [fingerprint, fingerprint, hquantity, hquantity'] at hf
    have hlocation := (Fingerprint.stateTransition.inj (Except.ok.inj hf)).2.1
    obtain ⟨_, htarget, -⟩ := bind_eq_ok.mp hr
    obtain ⟨_, htarget', -⟩ := bind_eq_ok.mp hr'
    exact ⟨warehouseId_of_assertTarget htarget (hlocation ▸ htarget'), trivial⟩

/-! ### Second requests -/

/-- **A request that is new** was answered by its transaction. -/
theorem serve_new (h : a.serve s = .ok served) (hnew : served.replay = false) :
    a.stored s = none ∧ a.execute s = .ok served := by
  rw [serve_eq] at h
  obtain ⟨f, -, h⟩ := bind_eq_ok.mp h
  cases hstored : a.stored s with
  | some g =>
    rw [hstored] at h
    simp only [answerStored, eq_ok] at h
    obtain ⟨-, -, rfl⟩ := h
    cases hnew
  | none =>
    rw [hstored] at h
    rcases onDuplicate_eq_ok h with h | h
    · exact ⟨rfl, h⟩
    · cases h

/-- **The store that a second request would leave** is that of the first exactly when both name one
warehouse and the same lots. -/
theorem leaves_eq_iff (hoperation : a.SameOperation b) (hkey : a.idempotencyKey = b.idempotencyKey)
    (hfingerprint : b.fingerprint s = .ok served.fingerprint) (h : a.serve s = .ok served)
    (hnew : served.replay = false) :
    b.leaves s = served.store ↔ b.warehouseId = a.warehouseId ∧ a.NamesLots s b := by
  obtain ⟨hunknown, hexecute⟩ := serve_new h hnew
  obtain ⟨-, hfa, hstored, -⟩ := execute_eq_ok hexecute
  have hunknown' : b.stored s = none := (stored_congr hoperation hkey s).trans hunknown
  have hserve : b.serve s = onDuplicate (b.execute s) (.error .idempotencyConflict) := by
    rw [serve_eq, hfingerprint, ok_bind, hunknown']
  constructor
  · intro hleaves
    cases hb : b.serve s with
    | error e =>
      -- a request that is refused leaves the store, in which the key is unknown
      rw [leaves, hb] at hleaves
      rw [← hleaves, hunknown] at hstored
      cases hstored
    | ok served' =>
      rw [leaves, hb] at hleaves
      rw [hserve] at hb
      rcases onDuplicate_eq_ok hb with hb | hb
      · exact names_of_execute hoperation hkey (hfingerprint.trans hfa.symm) hexecute hb hleaves
      · cases hb
  · rintro ⟨hwarehouse, hlots⟩
    have hsame := execute_congr hoperation hkey hfa hfingerprint hwarehouse hlots
    rw [leaves, hserve, hsame, hexecute]
    rfl

/-- **Second requests** are told apart exactly when they differ in a field of the fingerprint, or
name the same warehouse and lots. -/
theorem toldApart_iff {s : Store} {a b : InventoryRequest} {served : ServedRequest}
    (hoperation : a.SameOperation b) (hkey : a.idempotencyKey = b.idempotencyKey)
    (h : a.serve s = .ok served) (hnew : served.replay = false) :
    b.ToldApart s served ↔ b.fingerprint s ≠ .ok served.fingerprint ∨
      b.warehouseId = a.warehouseId ∧ a.NamesLots s b := by
  constructor
  · intro htold
    by_cases hfingerprint : b.fingerprint s = .ok served.fingerprint
    · refine Or.inr ((leaves_eq_iff hoperation hkey hfingerprint h hnew).mp ?_)
      by_contra hleaves
      exact (htold hleaves).1 hfingerprint
    · exact Or.inl hfingerprint
  · intro hcondition hleaves
    have hfingerprint : b.fingerprint s ≠ .ok served.fingerprint := by
      rcases hcondition with hfingerprint | hnames
      · exact hfingerprint
      · intro hfingerprint
        exact hleaves ((leaves_eq_iff hoperation hkey hfingerprint h hnew).mpr hnames)
    refine ⟨hfingerprint, ?_⟩
    obtain ⟨-, hexecute⟩ := serve_new h hnew
    obtain ⟨-, -, hstored, hpolicies⟩ := execute_eq_ok hexecute
    rw [serve_eq, fingerprint_congr hpolicies, stored_congr hoperation hkey, hstored]
    cases hf : b.fingerprint s with
    | error e => exact ⟨e, rfl, nofun⟩
    | ok f =>
      refine ⟨.idempotencyConflict, ?_, fun _ _ ↦ rfl⟩
      have hne : served.fingerprint ≠ f := fun heq ↦ hfingerprint (heq ▸ hf)
      show answerStored served.store f served.fingerprint = _
      rw [answerStored, ensure, if_neg hne]
      rfl

/-! ### Two lots under one key -/

/-- A catalogue of one product that is tracked by lots, with one location. -/
def lotCatalogue : Store :=
  { Store.fresh default with
    products := .ofRow { Product.plain 5 1000 with
      trackLots := true, lotExpirationPolicy := .OPTIONAL }
    locations := .ofRow { id := 11, warehouseId := 1, active := true, createdAt := 0 } }

/-- Eight units enter the lot `A1`, under the key `move-001`. -/
def enterFirstLot : MovementInput where
  warehouseId := 1
  idempotencyKey := [109, 111, 118, 101, 45, 48, 48, 49]
  productId := 5
  locationId := 11
  type := .ENTRY
  quantity := 8000
  reason := [82, 101, 115, 116, 111, 99, 107]
  reference := some [82, 45, 49]
  lotCode := some [65, 49]
  expiresOn := some 20500

/-- The same units enter the lot `B2`, under the same key. -/
def enterSecondLot : MovementInput :=
  { enterFirstLot with lotCode := some [66, 50], expiresOn := some 20800 }

def firstEntry : ServedRequest :=
  ((movement enterFirstLot).serve lotCatalogue).toOption.getD
    { store := lotCatalogue, fingerprint := .internal, replay := true }

theorem serve_firstEntry : (movement enterFirstLot).serve lotCatalogue = .ok firstEntry :=
  eq_ok_getD (by decide +kernel) _

theorem toldApart_sameLot : (movement enterFirstLot).ToldApart lotCatalogue firstEntry := by
  refine (@toldApart_iff lotCatalogue (movement enterFirstLot) (movement enterFirstLot) firstEntry
    trivial rfl serve_firstEntry (by decide +kernel)).mpr
    (Or.inr ⟨rfl, fun change _ ↦ ⟨fun _ _ ↦ ?_, fun _ _ ↦ ?_⟩⟩)
  · exact ⟨⟨[65, 49], [65, 49], by decide, by decide, rfl, Or.inl rfl⟩, rfl, rfl⟩
  · exact Or.inr ⟨[65, 49], [65, 49], by decide, by decide, rfl⟩

/-- **An entry to another lot** is answered with the first of its key. -/
theorem not_toldApart_secondLot :
    ((movement enterFirstLot).SameOperation (movement enterSecondLot) ∧
      enterFirstLot.idempotencyKey = enterSecondLot.idempotencyKey ∧
      (movement enterFirstLot).serve lotCatalogue = .ok firstEntry ∧ firstEntry.replay = false) ∧
    (movement enterSecondLot).leaves lotCatalogue ≠ firstEntry.store ∧
      (movement enterSecondLot).fingerprint lotCatalogue = .ok firstEntry.fingerprint ∧
      (((movement enterSecondLot).serve firstEntry.store).toOption.map ServedRequest.replay) =
        some true ∧
      ¬(movement enterSecondLot).ToldApart lotCatalogue firstEntry := by
  have hleaves : (movement enterSecondLot).leaves lotCatalogue ≠ firstEntry.store := by
    intro hstore
    have hcodes := congrArg (fun t : Store ↦ t.lots.lots.rows.map Lot.code) hstore
    revert hcodes
    decide +kernel
  have hfingerprint : (movement enterSecondLot).fingerprint lotCatalogue =
      .ok firstEntry.fingerprint := by decide +kernel
  exact ⟨⟨trivial, rfl, serve_firstEntry, by decide +kernel⟩, hleaves, hfingerprint,
    by decide +kernel, fun htold ↦ (htold hleaves).1 hfingerprint⟩

end InventoryRequest

end UInventario
