import UInventario.Operations.Stock

/-!
# Count sessions

A session lists products at one location with what is available of each when it is opened. Counts
are recorded line by line, and closing the session adjusts every line that differs, provided that
nothing has moved. `closeSession` reads all balances in a first loop and writes them in a second
one; a line occurs once per product, so no write makes a later one stale.
-/

namespace UInventario

open Outcome List

/-! ### Opening a session -/

/-- A request for a session; `productIds` has no duplicates. -/
structure CountSessionInput where
  (branchId warehouseId : Uuid)
  idempotencyKey : Text
  locationId : Uuid
  productIds : List Uuid
  blind : Bool

structure CountSessionResult where
  store : Store
  sessionId : Uuid
  replay : Bool

def replayCountSession (s : Store) (fingerprint : CountSessionFingerprint)
    (session : CountSession) : Except Failure CountSessionResult := do
  ensure (session.requestFingerprint = fingerprint) .idempotencyConflict
  pure { store := s, sessionId := session.id, replay := true }

/-- `findByIdempotency`. -/
def Store.findCountSession (s : Store) (idempotencyKey : Text) : Option CountSession :=
  s.documents.countSessions.rows.find? fun c ↦ c.idempotencyKey = idempotencyKey

def assertCountLocation (s : Store) (input : CountSessionInput) : Except Failure PUnit := do
  let location ← demand (s.locations.find? input.locationId) .inventoryTargetNotFound
  let warehouse ← demand (s.documents.warehouses.find? location.warehouseId)
    .inventoryTargetNotFound
  ensure (location.warehouseId = input.warehouseId ∧ warehouse.branchId = input.branchId ∧
    location.active = true ∧ warehouse.active = true) .inventoryTargetNotFound

/-- `INSERT INTO inventory_count_sessions`. -/
def insertCountSession (s : Store) (session : CountSession) : Except Failure Store := do
  ensure (∀ c ∈ s.documents.countSessions.rows, c.idempotencyKey ≠ session.idempotencyKey)
    .duplicateEntry
  let sessions ← demand (s.documents.countSessions.insert session) .duplicateEntry
  pure { s with documents := { s.documents with countSessions := sessions } }

def snapshotProduct (sessionId locationId : Uuid) (s : Store) (product : Product) :
    Except Failure Store := do
  let s := ensureBalance s product.id locationId
  let balance ← demand (s.balance? product.id locationId) .typeError
  let lines ← demand (s.documents.countSessionLines.insert {
    sessionId := sessionId, productId := product.id, snapshotQuantity := balance.available,
    countedQuantity := none, varianceQuantity := none, attemptCount := 0,
    movementId := none }) .duplicateEntry
  pure { s with documents := { s.documents with countSessionLines := lines } }

def countableProducts (s : Store) (productIds : List Uuid) : List Product :=
  orderBy (fun a b : Product ↦ a.id ≤ b.id) (s.products.rows.filter fun p ↦
    p.active = true ∧ p.variantParent = false ∧ p.id ∈ productIds)

def createSession (s : Store) (input : CountSessionInput) : Except Failure CountSessionResult := do
  let fingerprint : CountSessionFingerprint := {
    branchId := input.branchId
    warehouseId := input.warehouseId
    locationId := input.locationId
    productIds := orderBy (fun a b : Uuid ↦ a ≤ b) input.productIds
    blind := input.blind }
  onDuplicate
    (match s.findCountSession input.idempotencyKey with
    | some existing => replayCountSession s fingerprint existing
    | none => do
      assertCountLocation s input
      let products := countableProducts s input.productIds
      ensure (products.length = input.productIds.length) .inventoryTargetNotFound
      let sessionId := s.env.uuid .inventory_count_sessions s.documents.countSessions.rows.length
      let s ← insertCountSession s {
        id := sessionId, warehouseId := input.warehouseId, locationId := input.locationId,
        status := .OPEN, idempotencyKey := input.idempotencyKey, requestFingerprint := fingerprint }
      let s ← products.foldlM (snapshotProduct sessionId input.locationId) s
      pure { store := s, sessionId := sessionId, replay := false })
    (do
      let existing ← demand (s.findCountSession input.idempotencyKey) .idempotencyConflict
      replayCountSession s fingerprint existing)

/-! ### Recording counts -/

structure RecordCountInput where
  (warehouseId sessionId productId : Uuid)
  countedQuantity : ℤ
  expectedAttempt : ℕ

def recordCount (s : Store) (input : RecordCountInput) : Except Failure Store := do
  let product ← demand (s.products.find? input.productId) .inventoryCountSessionNotFound
  ensure (product.active = true) .inventoryCountSessionNotFound
  let quantity ← normalizeProductQuantity input.countedQuantity product.quantityPolicy false false
  let session ← demand (s.documents.countSessions.find? input.sessionId)
    .inventoryCountSessionNotFound
  ensure (session.warehouseId = input.warehouseId) .inventoryCountSessionNotFound
  ensure (session.status = .OPEN) .inventoryCountSessionClosed
  let line ← demand (s.documents.countSessionLines.find? (input.sessionId, input.productId))
    .inventoryCountSessionNotFound
  ensure (line.attemptCount = input.expectedAttempt) .inventoryCountAttemptConflict
  pure { s with documents := { s.documents with
    countSessionLines := s.documents.countSessionLines.update (input.sessionId, input.productId)
      fun l ↦ { l with countedQuantity := some quantity, attemptCount := line.attemptCount + 1 } } }

/-! ### Closing a session -/

structure CloseSessionInput where
  (warehouseId sessionId : Uuid)

structure CountedLine where
  line : CountSessionLine
  counted : ℤ
  balance : Balance

/-- The lines of a session, which the source shows in the order of the products' names. -/
def countSessionLines (s : Store) (sessionId : Uuid) : List CountSessionLine :=
  orderBy (fun a b : CountSessionLine ↦ a.productId ≤ b.productId)
    (s.documents.countSessionLines.rows.filter fun l ↦ l.sessionId = sessionId)

/-- One turn of the first loop: the balance still has what the snapshot says. -/
def readCountedLine (s : Store) (locationId : Uuid) (line : CountSessionLine) :
    Except Failure CountedLine := do
  let counted ← demand line.countedQuantity .inventoryCountSessionIncomplete
  let balance ← demand (s.balance? line.productId locationId) .typeError
  ensure (balance.available = line.snapshotQuantity) .inventoryCountStockChanged
  pure { line := line, counted := counted, balance := balance }

namespace CountedLine

def newMovement (c : CountedLine) (locationId : Uuid) : NewMovement where
  productId := c.line.productId
  locationId := locationId
  type := .ADJUSTMENT
  quantityChange := c.counted - c.balance.available
  resultingQuantity := c.balance.quantity + (c.counted - c.balance.available)
  idempotencyKey := .countSession c.line.sessionId c.line.productId

/-- The balance and the movement of a line that differs; the id of the movement. -/
def adjust (s : Store) (locationId : Uuid) (c : CountedLine) :
    Except Failure (Store × Option Uuid) :=
  if c.counted - c.balance.available ≠ 0 then do
    let movementId := s.freshMovementId
    let s ← updateBalance s { c.balance with
      quantity := c.balance.quantity + (c.counted - c.balance.available), available := c.counted }
    let s ← postMovement s (c.newMovement locationId) { lots := some {}, serials := some {} }
    pure (s, some movementId)
  else pure (s, none)

def writes (c : CountedLine) (locationId : Uuid) : List StockWrite :=
  if c.counted - c.balance.available ≠ 0 then
    [.balance c.line.productId locationId { available := c.counted - c.balance.available },
      .post (c.newMovement locationId) { lots := some {}, serials := some {} }]
  else []

end CountedLine

def closeCountedLine (locationId : Uuid) (s : Store) (c : CountedLine) : Except Failure Store := do
  let (s, movementId) ← c.adjust s locationId
  pure { s with documents := { s.documents with
    countSessionLines := s.documents.countSessionLines.update
      (c.line.sessionId, c.line.productId) fun l ↦ { l with
        varianceQuantity := some (c.counted - c.balance.available), movementId := movementId } } }

def closeSession (s : Store) (input : CloseSessionInput) : Except Failure Store := do
  let session ← demand (s.documents.countSessions.find? input.sessionId)
    .inventoryCountSessionNotFound
  ensure (session.warehouseId = input.warehouseId) .inventoryCountSessionNotFound
  if session.status = .CLOSED then pure s
  else do
    let lines := countSessionLines s input.sessionId
    ensure (lines ≠ [] ∧ ∀ l ∈ lines, l.countedQuantity ≠ none) .inventoryCountSessionIncomplete
    let counted ← lines.mapM (readCountedLine s session.locationId)
    let s ← counted.foldlM (closeCountedLine session.locationId) s
    pure { s with documents := { s.documents with
      countSessions := s.documents.countSessions.update input.sessionId fun c ↦
        { c with status := .CLOSED } } }

/-- The lines still to be closed have the balances that were read for them. -/
def CountedLine.Current (s : Store) (locationId : Uuid) (rest : List CountedLine) : Prop :=
  (rest.map fun c ↦ c.line.productId).Nodup ∧
    ∀ c ∈ rest, s.balance? c.line.productId locationId = some c.balance

variable {s : Store} {locationId : Uuid} {rest : List CountedLine} {s' : Store} {c : CountedLine}

theorem closeCountedLine_writes (hcurrent : CountedLine.Current s locationId (c :: rest))
    (h : closeCountedLine locationId s c = .ok s') :
    StockWrites s (c.writes locationId) s' ∧ CountedLine.Current s' locationId rest := by
  obtain ⟨hnodup, hread⟩ := hcurrent
  obtain ⟨hnotin, hnodup⟩ := List.nodup_cons.mp hnodup
  simp only [closeCountedLine, CountedLine.adjust, eq_ok] at h
  obtain ⟨⟨s₁, movementId⟩, hadjust, rfl⟩ := h
  have hrest : ∀ c' ∈ rest, (c'.line.productId, locationId) ≠ (c.line.productId, locationId) := by
    intro c' hc' heq
    exact hnotin (List.mem_map.mpr ⟨c', hc', (Prod.mk.inj heq).1⟩)
  split at hadjust
  case isTrue hvariance =>
    simp only [eq_ok] at hadjust
    obtain ⟨s₂, hupdate, s₃, hpost, hresult⟩ := hadjust
    obtain ⟨rfl, rfl⟩ := Prod.mk.inj hresult
    have hfind := hread c mem_cons_self
    have hmoved := StockWrites.done.updated (s := s)
      { available := c.counted - c.balance.available } hfind hupdate rfl (by simp [Balance.change])
    refine ⟨?_, hnodup, fun c' hc' ↦ ?_⟩
    · rw [CountedLine.writes, if_pos hvariance]
      exact (hmoved.posted hpost).document (.documents _ _ rfl)
    · obtain ⟨p⟩ := postMovement_eq_ok hpost
      have hkey : (c.balance.productId, c.balance.locationId) = (c.line.productId, locationId) :=
        Table.key_of_find? hfind
      rw [Store.balance?, p.balances_eq]
      exact (balance?_updateBalance_of_ne hupdate (hkey ▸ hrest c' hc')).trans
        (hread c' (mem_cons_of_mem _ hc'))
  case isFalse hvariance =>
    obtain ⟨rfl, rfl⟩ := Prod.mk.inj (pure_eq_ok.mp hadjust)
    refine ⟨?_, hnodup, fun c' hc' ↦ hread c' (mem_cons_of_mem _ hc')⟩
    rw [CountedLine.writes, if_neg hvariance]
    exact StockWrites.done.document (.documents _ _ rfl)

theorem closeCountedLine_foldlM (hcurrent : CountedLine.Current s locationId rest)
    (h : rest.foldlM (closeCountedLine locationId) s = .ok s') :
    StockWrites s (rest.flatMap fun c ↦ c.writes locationId) s' := by
  induction rest generalizing s with
  | nil =>
    obtain rfl := foldlM_nil_eq_ok.mp h
    exact .done
  | cons c rest ih =>
    obtain ⟨s₁, hturn, h⟩ := foldlM_cons_eq_ok.mp h
    obtain ⟨hwrites, hcurrent⟩ := closeCountedLine_writes hcurrent hturn
    exact hwrites.trans (ih hcurrent h)

theorem readCountedLine_eq_ok {line : CountSessionLine}
    (h : readCountedLine s locationId line = .ok c) :
    c.line = line ∧ s.balance? c.line.productId locationId = some c.balance := by
  simp only [readCountedLine, eq_ok] at h
  obtain ⟨q, -, b, hfind, -, -, rfl⟩ := h
  exact ⟨rfl, hfind⟩

theorem mapM_readCountedLine {lines : List CountSessionLine} {counted : List CountedLine}
    (h : lines.mapM (readCountedLine s locationId) = .ok counted) :
    counted.map CountedLine.line = lines ∧
      ∀ c ∈ counted, s.balance? c.line.productId locationId = some c.balance := by
  have hmap := map_mapM (g := id) (fun _ _ hread ↦ (readCountedLine_eq_ok hread).1) h
  refine ⟨hmap.trans (map_id _), fun c hc ↦ ?_⟩
  obtain ⟨line, -, hread⟩ := exists_of_mem_mapM h hc
  exact (readCountedLine_eq_ok hread).2

theorem countSessionLines_nodup (s : Store) (sessionId : Uuid) :
    ((countSessionLines s sessionId).map CountSessionLine.productId).Nodup := by
  have hperm := (orderBy_perm (fun a b : CountSessionLine ↦ a.productId ≤ b.productId)
    (s.documents.countSessionLines.rows.filter fun l ↦ l.sessionId = sessionId)).map
    CountSessionLine.productId
  refine hperm.nodup_iff.mpr ?_
  refine (nodup_map_iff_inj_on (List.Nodup.filter _
    (List.Nodup.of_map _ s.documents.countSessionLines.nodup))).mpr ?_
  intro a ha b hb hproduct
  rw [mem_filter, decide_eq_true_eq] at ha hb
  exact Table.eq_of_mem_of_key_eq ha.1 hb.1 (Prod.ext (ha.2.trans hb.2.symm) hproduct)

/-- **What closing a session does**: nothing when it is closed, else it adjusts the lines that
differ, one after the other. -/
theorem closeSession_writes {input : CloseSessionInput} (h : closeSession s input = .ok s') :
    s' = s ∨ ∃ (counted : List CountedLine) (locationId : Uuid),
      StockWrites s (counted.flatMap fun c ↦ c.writes locationId) s' := by
  simp only [closeSession, eq_ok] at h
  obtain ⟨session, -, -, -, h⟩ := h
  split at h
  · exact Or.inl (pure_eq_ok.mp h).symm
  · simp only [eq_ok] at h
    obtain ⟨-, -, counted, hread, s₁, hloop, rfl⟩ := h
    obtain ⟨hlines, hbalances⟩ := mapM_readCountedLine hread
    have hnodup : (counted.map fun c ↦ c.line.productId).Nodup := by
      have := countSessionLines_nodup s input.sessionId
      rwa [← hlines, map_map] at this
    exact Or.inr ⟨counted, session.locationId,
      (closeCountedLine_foldlM ⟨hnodup, hbalances⟩ hloop).document (.documents _ _ rfl)⟩

end UInventario
