import UInventario.Foundations.Decimal
import UInventario.Foundations.Sums
import UInventario.Operations.CountSessions

/-!
# The variance of a closed session

Closing a session writes the difference between count and snapshot twice: into the line
(`variance_quantity`) and into the adjustment (`quantity_change`). `Sound` says that every line of a
closed session is `Closed` in every store that requests lead to (`Reachable.sound`).

`readSession` hands every quantity through `normalize`, whose reader takes whole part and fraction
one by one: the fraction of a negative variance is added where it has to be subtracted
(`Decimal.misread`). So the adjustments are always right, and what is shown is exactly when every
line has a surplus or a variance of whole units (`trueVariances_iff`). `half_shown_as_surplus` is
half a kilogram that is missing and is shown as half a kilogram too many.
-/

namespace UInventario.Counts

open Outcome Table List

/-! ### The session as it is shown -/

/-- `toUnits`: whole part and fraction one by one. -/
def toUnits (value : List Char) : Option ℤ :=
  Decimal.readUnsigned 3 value

def fromUnits (value : ℤ) : List Char :=
  Decimal.fixedText 3 value

/-- `normalize`; what is not a number for `BigInt` throws. -/
def normalize (value : List Char) : Except Failure (List Char) := do
  let units ← demand (toUnits value) .typeError
  pure (fromUnits units)

/-- A column `DECIMAL(18,3)` as the driver hands it over. -/
def column (value : ℤ) : List Char :=
  Decimal.fixedText 3 value

/-- `value === null ? null : this.normalize(value)`. -/
def normalizeColumn : Option ℤ → Except Failure (Option (List Char))
  | none => pure none
  | some value => do
    let text ← normalize (column value)
    pure (some text)

/-- `InventoryCountSessionLineData`. -/
structure SessionLineData where
  productId : Uuid
  (snapshotQuantity countedQuantity varianceQuantity : Option (List Char))
  attemptCount : ℕ
  movementId : Option Uuid
  deriving DecidableEq

/-- `InventoryCountSessionData`. -/
structure SessionData where
  id : Uuid
  status : CountSessionStatus
  blind : Bool
  (warehouseId locationId : Uuid)
  lines : List SessionLineData
  deriving DecidableEq

/-- One line; `hidden` keeps what the count is compared with from the one who counts. -/
def toLineData (hidden : Bool) (line : CountSessionLine) : Except Failure SessionLineData := do
  let snapshotQuantity ← normalizeColumn (if hidden then none else some line.snapshotQuantity)
  let countedQuantity ← normalizeColumn line.countedQuantity
  let varianceQuantity ← normalizeColumn (if hidden then none else line.varianceQuantity)
  pure {
    productId := line.productId, snapshotQuantity := snapshotQuantity,
    countedQuantity := countedQuantity, varianceQuantity := varianceQuantity,
    attemptCount := line.attemptCount, movementId := line.movementId }

/-- `readSession`. The column `blind` has the value that was hashed. -/
def readSession (s : Store) (warehouseId sessionId : Uuid) :
    Except Failure (Option SessionData) :=
  match s.documents.countSessions.find? sessionId with
  | none => pure none
  | some session =>
    if session.warehouseId = warehouseId then do
      let blind := session.requestFingerprint.blind
      let lines ← (countSessionLines s sessionId).mapM
        (toLineData (blind && decide (session.status = .OPEN)))
      pure (some {
        id := session.id, status := session.status, blind := blind,
        warehouseId := session.warehouseId, locationId := session.locationId, lines := lines })
    else pure none

/-! ### Requests and runs -/

/-- The rest of the application may do anything, except to sessions, accepted balances, and what
movements say beyond their valuation. -/
@[mk_iff]
structure Elsewhere (s s' : Store) : Prop where
  sessions_eq : s'.documents.countSessions.rows = s.documents.countSessions.rows
  lines_eq : s'.documents.countSessionLines.rows = s.documents.countSessionLines.rows
  movements : ∀ m ∈ s.movements.rows, ∃ m' ∈ s'.movements.rows, m'.static = m.static
  balancesValid : s'.BalancesValid

instance (s s' : Store) : Decidable (Elsewhere s s') := decidable_of_iff' _ (elsewhere_iff s s')

/-- **A request about a session**, or what happens elsewhere. -/
inductive Request
  | create (input : CountSessionInput)
  | record (input : RecordCountInput)
  | close (input : CloseSessionInput)
  | elsewhere (operation : Store → Store)

def step (s : Store) : Request → Except Failure Store
  | .create input => do
    let r ← createSession s input
    pure r.store
  | .record input => recordCount s input
  | .close input => closeSession s input
  | .elsewhere operation => do
    ensure (Elsewhere s (operation s)) .otherPart
    pure (operation s)

/-! ### What a closed line says -/

/-- **The adjustment of a line**: none where nothing differs, else a movement of the difference. -/
def Adjusted (s : Store) (productId : Uuid) (movementId : Option Uuid) (difference : ℤ) : Prop :=
  (difference = 0 ∧ movementId = none) ∨
    ∃ m ∈ s.movements.rows, movementId = some m.id ∧ m.type = .ADJUSTMENT ∧
      m.productId = productId ∧ m.quantityChange = difference

/-- **What closing a session leaves in a line.** -/
structure Closed (s : Store) (l : CountSessionLine) : Prop where
  recorded : ∃ counted, l.countedQuantity = some counted ∧
    l.varianceQuantity = some (counted - l.snapshotQuantity) ∧
    Adjusted s l.productId l.movementId (counted - l.snapshotQuantity)

/-- **The sessions of a store are in order.** -/
structure Sound (s : Store) : Prop where
  balancesValid : s.BalancesValid
  /-- `fk_inventory_count_session_lines_session`. -/
  session : ∀ l ∈ s.documents.countSessionLines.rows,
    ∃ c ∈ s.documents.countSessions.rows, c.id = l.sessionId
  /-- `ck_inventory_count_session_lines_quantities`. -/
  nonneg : ∀ l ∈ s.documents.countSessionLines.rows,
    0 ≤ l.snapshotQuantity ∧ ∀ q ∈ l.countedQuantity, 0 ≤ q
  closed : ∀ c ∈ s.documents.countSessions.rows, c.status = .CLOSED →
    ∀ l ∈ s.documents.countSessionLines.rows, l.sessionId = c.id → Closed s l

variable {s s' : Store}

theorem Adjusted.of_kept {productId : Uuid} {movementId : Option Uuid} {difference : ℤ}
    (hkept : ∀ m ∈ s.movements.rows, ∃ m' ∈ s'.movements.rows, m'.static = m.static)
    (h : Adjusted s productId movementId difference) :
    Adjusted s' productId movementId difference := by
  rcases h with h | ⟨m, hm, hid, htype, hproduct, hchange⟩
  · exact .inl h
  · obtain ⟨m', hm', hstatic⟩ := hkept m hm
    refine .inr ⟨m', hm', ?_, ?_, ?_, ?_⟩
    · rw [hid]
      exact congrArg some (congrArg Movement.id hstatic :).symm
    · exact (congrArg Movement.type hstatic :).trans htype
    · exact (congrArg Movement.productId hstatic :).trans hproduct
    · exact (congrArg Movement.quantityChange hstatic :).trans hchange

variable {l : CountSessionLine}

theorem Closed.of_kept
    (hkept : ∀ m ∈ s.movements.rows, ∃ m' ∈ s'.movements.rows, m'.static = m.static)
    (h : Closed s l) : Closed s' l := by
  obtain ⟨counted, hcounted, hvariance, hadjusted⟩ := h.recorded
  exact ⟨counted, hcounted, hvariance, hadjusted.of_kept hkept⟩

theorem kept_of_subset (h : ∀ m ∈ s.movements.rows, m ∈ s'.movements.rows) :
    ∀ m ∈ s.movements.rows, ∃ m' ∈ s'.movements.rows, m'.static = m.static :=
  fun m hm ↦ ⟨m, h m hm, rfl⟩

/-! ### Closing, line by line -/

/-- What the second loop knows: its lines are the rows the first has read, with their snapshots. -/
structure Pending (s : Store) (c : CountedLine) : Prop where
  row : c.line ∈ s.documents.countSessionLines.rows
  counted : c.line.countedQuantity = some c.counted
  available : c.balance.available = c.line.snapshotQuantity

variable {locationId : Uuid} {c : CountedLine} {sessions : Table CountSession}
  {r : Store × Option Uuid} {sessionId : Uuid}

theorem adjust_documents (h : c.adjust s locationId = .ok r) : r.1.documents = s.documents := by
  rw [CountedLine.adjust] at h
  split at h
  · simp only [eq_ok] at h
    obtain ⟨s₂, hupdate, s₃, hpost, rfl⟩ := h
    obtain ⟨-, rfl⟩ := updateBalance_eq_ok hupdate
    obtain ⟨p⟩ := postMovement_eq_ok hpost
    exact (congrArg Store.documents p.store_eq :)
  · obtain rfl := pure_eq_ok.mp h
    rfl

theorem adjust_adjusted (h : c.adjust s locationId = .ok r) :
    (∀ m ∈ s.movements.rows, m ∈ r.1.movements.rows) ∧
      Adjusted r.1 c.line.productId r.2 (c.counted - c.balance.available) := by
  rw [CountedLine.adjust] at h
  split at h
  case isTrue hvariance =>
    simp only [eq_ok] at h
    obtain ⟨s₂, hupdate, s₃, hpost, rfl⟩ := h
    obtain ⟨-, rfl⟩ := updateBalance_eq_ok hupdate
    obtain ⟨p⟩ := postMovement_eq_ok hpost
    refine ⟨fun m hm ↦ p.mem_of_mem hm,
      .inr ⟨p.row, p.row_mem, ?_, ?_, p.row_productId, p.row_quantityChange⟩⟩
    · exact congrArg some p.row_id.symm
    · exact congrArg Movement.type p.static_row
  case isFalse hvariance =>
    obtain rfl := pure_eq_ok.mp h
    exact ⟨fun m hm ↦ hm, .inl ⟨not_not.mp hvariance, rfl⟩⟩

/-- **One turn** posts the difference and writes it into the line; nothing else changes. -/
theorem closeCountedLine_spec (hc : Pending s c) (h : closeCountedLine locationId s c = .ok s') :
    s'.documents.countSessions = s.documents.countSessions ∧
      (∀ m ∈ s.movements.rows, m ∈ s'.movements.rows) ∧
      ∀ l ∈ s'.documents.countSessionLines.rows,
        (l ∈ s.documents.countSessionLines.rows ∧
            (l.sessionId, l.productId) ≠ (c.line.sessionId, c.line.productId)) ∨
          ((l.sessionId, l.productId) = (c.line.sessionId, c.line.productId) ∧
            l.snapshotQuantity = c.line.snapshotQuantity ∧
            l.countedQuantity = c.line.countedQuantity ∧ Closed s' l) := by
  simp only [closeCountedLine, eq_ok] at h
  obtain ⟨⟨s₁, movementId⟩, hadjust, rfl⟩ := h
  have hdocuments := adjust_documents hadjust
  obtain ⟨hkept, hadjusted⟩ := adjust_adjusted hadjust
  refine ⟨(congrArg Documents.countSessions hdocuments :), hkept, fun l hl ↦ ?_⟩
  dsimp only at hl
  rw [hdocuments] at hl
  rcases of_mem_update _ (find?_key_of_mem hc.row) hl with rfl | hl
  · refine .inr ⟨rfl, rfl, rfl, ⟨c.counted, hc.counted, ?_, ?_⟩⟩
    · rw [hc.available]
    · rw [← hc.available]
      exact hadjusted
  · exact .inl hl

theorem closeCountedLine_keeps (h : closeCountedLine locationId s c = .ok s')
    (hl : l ∈ s.documents.countSessionLines.rows)
    (hne : (l.sessionId, l.productId) ≠ (c.line.sessionId, c.line.productId)) :
    l ∈ s'.documents.countSessionLines.rows := by
  simp only [closeCountedLine, eq_ok] at h
  obtain ⟨⟨s₁, movementId⟩, hadjust, rfl⟩ := h
  have hdocuments : s₁.documents = s.documents := adjust_documents hadjust
  rw [mem_update, hdocuments]
  exact ⟨l, hl, if_neg hne⟩

/-- **All turns**: every line of the session is closed, every other line stays as it is. -/
theorem closeCountedLine_foldlM_spec {rest : List CountedLine} (hpending : ∀ c ∈ rest, Pending s c)
    (hnodup : (rest.map fun c ↦ (c.line.sessionId, c.line.productId)).Nodup)
    (h : rest.foldlM (closeCountedLine locationId) s = .ok s') :
    s'.documents.countSessions = s.documents.countSessions ∧
      (∀ m ∈ s.movements.rows, m ∈ s'.movements.rows) ∧
      ∀ l ∈ s'.documents.countSessionLines.rows,
        (l ∈ s.documents.countSessionLines.rows ∧
            ∀ c ∈ rest, (l.sessionId, l.productId) ≠ (c.line.sessionId, c.line.productId)) ∨
          ∃ c ∈ rest, (l.sessionId, l.productId) = (c.line.sessionId, c.line.productId) ∧
            l.snapshotQuantity = c.line.snapshotQuantity ∧
            l.countedQuantity = c.line.countedQuantity ∧ Closed s' l := by
  induction rest generalizing s with
  | nil =>
    obtain rfl := foldlM_nil_eq_ok.mp h
    exact ⟨rfl, fun m hm ↦ hm, fun l hl ↦ .inl ⟨hl, fun c hc ↦ absurd hc not_mem_nil⟩⟩
  | cons c rest ih =>
    obtain ⟨s₁, hturn, h⟩ := foldlM_cons_eq_ok.mp h
    obtain ⟨hnotin, hnodup⟩ := nodup_cons.mp hnodup
    have hc := hpending c mem_cons_self
    obtain ⟨hsessions, hmovements, hlines⟩ := closeCountedLine_spec hc hturn
    have hpending₁ : ∀ c' ∈ rest, Pending s₁ c' := by
      intro c' hc'
      have hold := hpending c' (mem_cons_of_mem _ hc')
      refine ⟨?_, hold.counted, hold.available⟩
      -- the turn has rewritten the line of `c` only
      have hne : (c'.line.sessionId, c'.line.productId) ≠ (c.line.sessionId, c.line.productId) :=
        fun heq ↦ hnotin (mem_map.mpr ⟨c', hc', heq⟩)
      exact closeCountedLine_keeps hturn hold.row hne
    obtain ⟨hsessions', hmovements', hlines'⟩ := ih hpending₁ hnodup h
    refine ⟨hsessions'.trans hsessions, fun m hm ↦ hmovements' m (hmovements m hm),
      fun l hl ↦ ?_⟩
    rcases hlines' l hl with ⟨hl₁, hother⟩ | ⟨c', hc', hrest⟩
    · rcases hlines l hl₁ with ⟨hold, hne⟩ | ⟨hkey, hsnapshot, hcounted, hclosed⟩
      · refine .inl ⟨hold, fun c' hc' ↦ ?_⟩
        rcases mem_cons.mp hc' with rfl | hc'
        · exact hne
        · exact hother c' hc'
      · exact .inr ⟨c, mem_cons_self, hkey, hsnapshot, hcounted,
          hclosed.of_kept (kept_of_subset hmovements')⟩
    · exact .inr ⟨c', mem_cons_of_mem _ hc', hrest⟩

/-! ### Every run keeps the sessions in order -/

theorem mem_countSessionLines : l ∈ countSessionLines s sessionId ↔
      l ∈ s.documents.countSessionLines.rows ∧ l.sessionId = sessionId := by
  rw [countSessionLines, mem_orderBy, mem_filter, decide_eq_true_eq]

theorem exists_mem_closed {c : CountSession} (hc : c ∈ sessions.rows) (sessionId : Uuid) :
    ∃ c' ∈ (sessions.update sessionId (fun c ↦ { c with status := .CLOSED }) fun _ ↦ rfl).rows,
      c'.id = c.id := by
  refine ⟨_, Table.mem_update.mpr ⟨c, hc, rfl⟩, ?_⟩
  split <;> rfl

theorem closeSession_sound {input : CloseSessionInput} (hs : Sound s)
    (h : closeSession s input = .ok s') : Sound s' := by
  have hwrites := closeSession_writes h
  simp only [closeSession, eq_ok] at h
  obtain ⟨session, hsession, -, hwarehouse, h⟩ := h
  split at h
  · obtain rfl := pure_eq_ok.mp h
    exact hs
  simp only [eq_ok] at h
  obtain ⟨-, hcounted, counted, hread, s₁, hloop, rfl⟩ := h
  obtain ⟨hlines, -⟩ := mapM_readCountedLine hread
  have hmem : ∀ c ∈ counted, c.line ∈ countSessionLines s input.sessionId := fun c hc ↦
    hlines ▸ mem_map_of_mem hc
  have hpending : ∀ c ∈ counted, Pending s c := by
    intro c hc
    obtain ⟨line, -, hline⟩ := exists_of_mem_mapM hread hc
    simp only [readCountedLine, eq_ok] at hline
    obtain ⟨q, hq, b, -, -, havailable, rfl⟩ := hline
    exact ⟨(mem_countSessionLines.mp (hmem _ hc)).1, hq, havailable⟩
  have hnodup : (counted.map fun c ↦ (c.line.sessionId, c.line.productId)).Nodup := by
    have hproducts := countSessionLines_nodup s input.sessionId
    rw [← hlines, map_map] at hproducts
    exact List.Nodup.of_map Prod.snd (by rwa [map_map])
  obtain ⟨hsessions, hmovements, hrows⟩ := closeCountedLine_foldlM_spec hpending hnodup hloop
  have hkept := kept_of_subset hmovements
  -- every line has the session and the snapshot of a line that was there
  have hold : ∀ l ∈ s₁.documents.countSessionLines.rows, ∃ l₀ ∈ s.documents.countSessionLines.rows,
      l.sessionId = l₀.sessionId ∧ l.snapshotQuantity = l₀.snapshotQuantity ∧
        l.countedQuantity = l₀.countedQuantity := by
    intro l hl
    rcases hrows l hl with ⟨hl, -⟩ | ⟨c, hc, hkey, hsnapshot, hcount, -⟩
    · exact ⟨l, hl, rfl, rfl, rfl⟩
    · exact ⟨c.line, (hpending c hc).row, (Prod.mk.inj hkey).1, hsnapshot, hcount⟩
  constructor
  case balancesValid =>
    rcases hwrites with hsame | ⟨_, _, hwrites⟩
    · exact hsame ▸ hs.balancesValid
    · exact hwrites.balancesValid hs.balancesValid
  case session =>
    intro l hl
    obtain ⟨l₀, hl₀, hid, -⟩ := hold l hl
    obtain ⟨c, hc, hcid⟩ := hs.session l₀ hl₀
    rw [← hsessions] at hc
    obtain ⟨c', hc', hcid'⟩ := exists_mem_closed hc input.sessionId
    exact ⟨c', hc', hcid'.trans (hcid.trans hid.symm)⟩
  case nonneg =>
    intro l hl
    obtain ⟨l₀, hl₀, -, hsnapshot, hcount⟩ := hold l hl
    rw [hsnapshot, hcount]
    exact hs.nonneg l₀ hl₀
  case closed =>
    intro c hc hclosed l hl hid
    rcases hrows l hl with ⟨hl, hnone⟩ | ⟨c', -, -, -, -, hline⟩
    · have hother : l.sessionId ≠ input.sessionId := by
        intro hsession
        have hread : l ∈ counted.map CountedLine.line :=
          hlines ▸ mem_countSessionLines.mpr ⟨hl, hsession⟩
        obtain ⟨c', hc', rfl⟩ := mem_map.mp hread
        exact hnone c' hc' rfl
      rw [mem_update, hsessions] at hc
      obtain ⟨c₀, hc₀, hc⟩ := hc
      split at hc
      case isTrue hkey =>
        subst hc
        exact absurd (hid.trans hkey) hother
      case isFalse =>
        subst hc
        exact (hs.closed c₀ hc₀ hclosed l hl hid).of_kept hkept
    · exact @Closed.of_kept s₁ _ _ (fun m hm ↦ ⟨m, hm, rfl⟩) hline

theorem recordCount_sound {input : RecordCountInput} (hs : Sound s)
    (h : recordCount s input = .ok s') : Sound s' := by
  simp only [recordCount, eq_ok] at h
  obtain ⟨product, -, -, -, quantity, hquantity, session, hsession, -, -, -, hopen, line, hfound, -,
    -, rfl⟩ := h
  have hrows : ∀ l ∈ (s.documents.countSessionLines.update (input.sessionId, input.productId)
      (fun l ↦ { l with countedQuantity := some quantity, attemptCount := line.attemptCount + 1 })
      fun _ ↦ rfl).rows, l ∈ s.documents.countSessionLines.rows ∨
        l.sessionId = input.sessionId ∧ l.countedQuantity = some quantity ∧
          ∃ l₀ ∈ s.documents.countSessionLines.rows,
            l₀.sessionId = l.sessionId ∧ l₀.snapshotQuantity = l.snapshotQuantity := by
    intro l hl
    rcases of_mem_update _ hfound hl with rfl | ⟨hl, -⟩
    · exact .inr ⟨(Prod.mk.inj (key_of_find? hfound)).1, rfl, line,
        mem_of_find? hfound, rfl, rfl⟩
    · exact .inl hl
  constructor
  case balancesValid => exact hs.balancesValid
  case session =>
    intro l hl
    rcases hrows l hl with hl | ⟨-, -, l₀, hl₀, hid, -⟩
    · exact hs.session l hl
    · exact hid ▸ hs.session l₀ hl₀
  case nonneg =>
    intro l hl
    rcases hrows l hl with hl | ⟨-, hcounted, l₀, hl₀, -, hsnapshot⟩
    · exact hs.nonneg l hl
    · refine ⟨hsnapshot ▸ (hs.nonneg l₀ hl₀).1, fun q hq ↦ ?_⟩
      rw [hcounted] at hq
      obtain rfl := Option.mem_some_iff.mp hq
      exact normalizeProductQuantity_nonneg hquantity
  case closed =>
    intro c hc hclosed l hl hid
    rcases hrows l hl with hl | ⟨hsession', -⟩
    · exact @Closed.of_kept s _ _ (fun m hm ↦ ⟨m, hm, rfl⟩) (hs.closed c hc hclosed l hl hid)
    · -- the session of the line is open
      obtain rfl := eq_of_mem_of_key_eq hc (mem_of_find? hsession)
        ((hid.symm.trans hsession').trans (key_of_find? hsession).symm)
      rw [hclosed] at hopen
      cases hopen

structure Opened (s : Store) (sessionId : Uuid) (sessions : Table CountSession) (t : Store) :
    Prop where
  balancesValid : t.BalancesValid
  sessions_eq : t.documents.countSessions = sessions
  movements_eq : t.movements = s.movements
  lines : ∀ l ∈ t.documents.countSessionLines.rows, l ∈ s.documents.countSessionLines.rows ∨
    l.sessionId = sessionId ∧ 0 ≤ l.snapshotQuantity ∧ l.countedQuantity = none

theorem snapshotProduct_opened {t t' : Store}
    {product : Product} (ht : Opened s sessionId sessions t)
    (h : snapshotProduct sessionId locationId t product = .ok t') :
    Opened s sessionId sessions t' := by
  simp only [snapshotProduct, eq_ok] at h
  obtain ⟨balance, hbalance, lines, hinsert, rfl⟩ := h
  have hvalid := (StockWrites.done.opened (s := t) product.id locationId).balancesValid
    ht.balancesValid
  have hdocuments : (ensureBalance t product.id locationId).documents = t.documents := by
    rw [ensureBalance_eq]
  refine ⟨hvalid, ?_, ?_, fun l hl ↦ ?_⟩
  · rw [hdocuments]
    exact ht.sessions_eq
  · exact (ensureBalance_movements t product.id locationId).trans ht.movements_eq
  · rw [hdocuments] at hinsert
    rcases (mem_insert hinsert).mp hl with hl | rfl
    · exact ht.lines l hl
    · exact .inr ⟨rfl, (hvalid balance (mem_of_find? hbalance)).state_nonneg .AVAILABLE, rfl⟩

/-- **Opening a session** adds an open session and lines of it. -/
theorem createSession_sound {input : CountSessionInput} {r : CountSessionResult} (hs : Sound s)
    (h : createSession s input = .ok r) : Sound r.store := by
  have hreplay : ∀ (fingerprint : CountSessionFingerprint) (session : CountSession),
      replayCountSession s fingerprint session = .ok r → Sound r.store := by
    intro fingerprint session h
    simp only [replayCountSession, eq_ok] at h
    obtain ⟨-, -, rfl⟩ := h
    exact hs
  rw [createSession] at h
  rcases onDuplicate_eq_ok h with h | h
  · split at h
    · exact hreplay _ _ h
    · simp only [insertCountSession, eq_ok] at h
      obtain ⟨-, -, -, -, _, ⟨-, -, sessions, hinsert, rfl⟩, s₁, hloop, rfl⟩ := h
      set session : CountSession := {
        id := s.env.uuid .inventory_count_sessions s.documents.countSessions.rows.length,
        warehouseId := input.warehouseId, locationId := input.locationId, status := .OPEN,
        idempotencyKey := input.idempotencyKey, requestFingerprint := _ } with hopen
      have hstart : Opened s session.id sessions
          { s with documents := { s.documents with countSessions := sessions } } :=
        ⟨hs.balancesValid, rfl, rfl, fun l hl ↦ .inl hl⟩
      have hopened : Opened s session.id sessions s₁ :=
        foldlM_invariant (P := Opened s session.id sessions)
          (fun product _ t t' ht hturn ↦ snapshotProduct_opened ht hturn) hstart hloop
      constructor
      case balancesValid => exact hopened.balancesValid
      case session =>
        intro l hl
        rw [hopened.sessions_eq]
        rcases hopened.lines l hl with hl | ⟨hid, -⟩
        · obtain ⟨c, hc, hcid⟩ := hs.session l hl
          exact ⟨c, (mem_insert hinsert).mpr (.inl hc), hcid⟩
        · exact ⟨session, (mem_insert hinsert).mpr (.inr rfl), hid.symm⟩
      case nonneg =>
        intro l hl
        rcases hopened.lines l hl with hl | ⟨-, hsnapshot, hcounted⟩
        · exact hs.nonneg l hl
        · exact ⟨hsnapshot, fun q hq ↦ by rw [hcounted] at hq; cases hq⟩
      case closed =>
        intro c hc hclosed l hl hid
        rw [hopened.sessions_eq] at hc
        rcases (mem_insert hinsert).mp hc with hc | rfl
        · rcases hopened.lines l hl with hl | ⟨hsession, -⟩
          · refine Closed.of_kept (fun m hm ↦ ⟨m, ?_, rfl⟩) (hs.closed c hc hclosed l hl hid)
            rw [hopened.movements_eq]
            exact hm
          · exact absurd (hid.symm.trans hsession)
              (Table.find?_eq_none.mp (insert_eq_some hinsert).1 c hc)
        · cases hclosed
  · obtain ⟨existing, -, h⟩ := bind_eq_ok.mp h
    exact hreplay _ _ h

theorem step_sound {i : Request} (hs : Sound s) (h : step s i = .ok s') : Sound s' := by
  cases i with
  | create input =>
    simp only [step, eq_ok] at h
    obtain ⟨r, hcreate, rfl⟩ := h
    exact createSession_sound hs hcreate
  | record input => exact recordCount_sound hs h
  | close input => exact closeSession_sound hs h
  | elsewhere operation =>
    simp only [step, eq_ok] at h
    obtain ⟨-, helse, rfl⟩ := h
    constructor
    case balancesValid => exact helse.balancesValid
    case session =>
      intro l hl
      rw [helse.lines_eq] at hl
      rw [helse.sessions_eq]
      exact hs.session l hl
    case nonneg =>
      intro l hl
      rw [helse.lines_eq] at hl
      exact hs.nonneg l hl
    case closed =>
      intro c hc hclosed l hl hid
      rw [helse.sessions_eq] at hc
      rw [helse.lines_eq] at hl
      exact (hs.closed c hc hclosed l hl hid).of_kept helse.movements

/-- **The stores that requests on sessions lead to.** -/
def Reachable (s : Store) : Prop :=
  ∃ env requests, s = run step (Store.fresh env) requests

theorem sound_fresh (env : Env) : Sound (Store.fresh env) where
  balancesValid := forall_mem_nil _
  session := forall_mem_nil _
  nonneg := forall_mem_nil _
  closed := forall_mem_nil _

/-- **Every run keeps the sessions in order.** -/
theorem Reachable.sound (hs : Reachable s) : Sound s := by
  obtain ⟨env, requests, rfl⟩ := hs
  exact run_induct (fun _ _ _ hs h ↦ step_sound hs h) (sound_fresh env) requests

/-! ### What a closed session shows -/

@[simp] theorem normalizeColumn_some (value : ℤ) :
    normalizeColumn (some value) = .ok (some (fromUnits (Decimal.misread 3 value))) := by
  show (normalize (column value) >>= fun text ↦ pure (some text)) = _
  rw [normalize, toUnits, column, Decimal.readUnsigned_fixedText (by decide)]
  rfl

def number (text : Option (List Char)) : ℤ :=
  (text.bind (Decimal.readSigned 3)).getD 0

@[simp] theorem number_fromUnits (value : ℤ) : number (some (fromUnits value)) = value := by
  rw [number, fromUnits, Option.bind_some, Decimal.readSigned_fixedText (by decide)]
  rfl

namespace SessionLineData

def shown (l : SessionLineData) : ℤ :=
  number l.varianceQuantity

def difference (l : SessionLineData) : ℤ :=
  number l.countedQuantity - number l.snapshotQuantity

end SessionLineData

/-- What a reader of a session's lines adds up: positive and negative differences, and all of them.
-/
structure Totals where
  (surplus shortage net : ℤ)

def totals (differences : List ℤ) : Totals where
  surplus := (differences.map fun d ↦ max d 0).sum
  shortage := (differences.map fun d ↦ min d 0).sum
  net := differences.sum

/-- **The session shows the true variance**: of every line, in the adjustment of the line, and in
what the lines add up to. -/
structure TrueVariances (s : Store) (data : SessionData) : Prop where
  lines : ∀ l ∈ data.lines, l.varianceQuantity = some (fromUnits l.difference)
  adjusted : ∀ l ∈ data.lines, Adjusted s l.productId l.movementId l.difference
  totals : totals (data.lines.map SessionLineData.shown) =
    totals (data.lines.map SessionLineData.difference)

def closedLineData (l : CountSessionLine) : SessionLineData where
  productId := l.productId
  snapshotQuantity := some (fromUnits l.snapshotQuantity)
  countedQuantity := l.countedQuantity.map fromUnits
  varianceQuantity := l.varianceQuantity.map fun v ↦ fromUnits (Decimal.misread 3 v)
  attemptCount := l.attemptCount
  movementId := l.movementId

/-- **A closed session hides nothing.** -/
theorem readSession_closed (hs : Sound s) {session : CountSession}
    (hsession : s.documents.countSessions.find? session.id = some session)
    (hclosed : session.status = .CLOSED) :
    readSession s session.warehouseId session.id = .ok (some {
      id := session.id, status := .CLOSED, blind := session.requestFingerprint.blind,
      warehouseId := session.warehouseId, locationId := session.locationId,
      lines := (countSessionLines s session.id).map closedLineData }) := by
  have hopen : decide (session.status = .OPEN) = false := by
    rw [hclosed]
    rfl
  have hlines : (countSessionLines s session.id).mapM (toLineData false) =
      .ok ((countSessionLines s session.id).map closedLineData) := by
    refine mapM_of_forall fun l hl ↦ ?_
    obtain ⟨hl, hid⟩ := mem_countSessionLines.mp hl
    obtain ⟨counted, hcounted, hvariance, -⟩ :=
      (hs.closed session (mem_of_find? hsession) hclosed l hl hid).recorded
    obtain ⟨hsnapshot, hcount⟩ := hs.nonneg l hl
    rw [toLineData, closedLineData, if_neg (by decide), if_neg (by decide), hcounted, hvariance,
      normalizeColumn_some, normalizeColumn_some, normalizeColumn_some,
      Decimal.misread_of_nonneg hsnapshot, Decimal.misread_of_nonneg (hcount counted hcounted)]
    rfl
  rw [readSession, hsession]
  show (if session.warehouseId = session.warehouseId then _ else _) = _
  rw [if_pos rfl]
  dsimp only
  rw [hopen, Bool.and_false, hlines, hclosed]
  rfl

theorem sum_misread_eq_iff (k : ℕ) (ds : List ℤ) :
    (ds.map (Decimal.misread k)).sum = ds.sum ↔ ∀ d ∈ ds, Decimal.misread k d = d := by
  have hle : ∀ ds : List ℤ, ds.sum ≤ (ds.map (Decimal.misread k)).sum := fun ds ↦ by
    have := sum_le_sum (l := ds) (f := id) fun d _ ↦ Decimal.le_misread k d
    rwa [map_id] at this
  induction ds with
  | nil => simp
  | cons d ds ih =>
    have hd := Decimal.le_misread k d
    have hds := hle ds
    rw [map_cons, sum_cons, sum_cons, forall_mem_cons]
    constructor
    · intro h
      exact ⟨by omega, ih.mp (by omega)⟩
    · rintro ⟨hhead, hrest⟩
      rw [hhead, ih.mpr hrest]

/-- **The condition on a line**: a surplus, or a variance of whole units. -/
def Whole (l : CountSessionLine) : Prop :=
  ∀ q ∈ l.countedQuantity, l.snapshotQuantity ≤ q ∨ 1000 ∣ q - l.snapshotQuantity
deriving Decidable

/-- **When a closed session shows the true variance**: exactly when every line has a surplus or a
variance of whole units. -/
theorem trueVariances_iff (hs : Reachable s) {session : CountSession}
    (hsession : s.documents.countSessions.find? session.id = some session)
    (hclosed : session.status = .CLOSED) :
    ∃ data, readSession s session.warehouseId session.id = .ok (some data) ∧
      (∀ l ∈ data.lines, Adjusted s l.productId l.movementId l.difference) ∧
      (TrueVariances s data ↔ ∀ l ∈ countSessionLines s session.id, Whole l) ∧
      ((totals (data.lines.map SessionLineData.shown)).net =
          (totals (data.lines.map SessionLineData.difference)).net ↔
        ∀ l ∈ countSessionLines s session.id, Whole l) := by
  refine ⟨_, readSession_closed hs.sound hsession hclosed, ?_⟩
  have hline : ∀ l ∈ countSessionLines s session.id, ∃ counted, l.countedQuantity = some counted ∧
      (closedLineData l).difference = counted - l.snapshotQuantity ∧
      (closedLineData l).varianceQuantity =
        some (fromUnits (Decimal.misread 3 (counted - l.snapshotQuantity))) ∧
      Adjusted s l.productId l.movementId (counted - l.snapshotQuantity) := by
    intro l hl
    obtain ⟨hl, hid⟩ := mem_countSessionLines.mp hl
    obtain ⟨counted, hcounted, hvariance, hadjusted⟩ :=
      (hs.sound.closed session (Table.mem_of_find? hsession) hclosed l hl hid).recorded
    refine ⟨counted, hcounted, ?_, ?_, hadjusted⟩
    · rw [SessionLineData.difference, closedLineData, hcounted, Option.map_some, number_fromUnits,
        number_fromUnits]
    · rw [closedLineData, hvariance]
      rfl
  have hadjusted : ∀ l ∈ (countSessionLines s session.id).map closedLineData,
      Adjusted s l.productId l.movementId l.difference := by
    refine forall_mem_map.mpr fun l hl ↦ ?_
    obtain ⟨counted, -, hdifference, -, hadjusted⟩ := hline l hl
    rw [hdifference]
    exact hadjusted
  -- a line is read right exactly under the condition
  have hwhole : ∀ l ∈ countSessionLines s session.id,
      (Decimal.misread 3 (closedLineData l).difference = (closedLineData l).difference ↔
        Whole l) := by
    intro l hl
    obtain ⟨counted, hcounted, hdifference, -, -⟩ := hline l hl
    have hcondition : Whole l ↔
        l.snapshotQuantity ≤ counted ∨ 1000 ∣ counted - l.snapshotQuantity := by
      rw [Whole, hcounted]
      simp only [Option.mem_some_iff, forall_eq']
    rw [hdifference, Decimal.misread_eq_self_iff, hcondition, sub_nonneg]
    exact Iff.rfl
  have hshown : ∀ l ∈ countSessionLines s session.id, (closedLineData l).varianceQuantity =
      some (fromUnits (Decimal.misread 3 (closedLineData l).difference)) := by
    intro l hl
    obtain ⟨counted, -, hdifference, hvariance, -⟩ := hline l hl
    rw [hvariance, hdifference]
  refine ⟨hadjusted, ⟨fun h l hl ↦ ?_, fun h ↦ ?_⟩, ?_⟩
  · have hright := h.lines _ (mem_map_of_mem hl)
    rw [hshown l hl, Option.some.injEq, fromUnits, fromUnits,
      Decimal.fixedText_inj (by decide)] at hright
    exact (hwhole l hl).mp hright
  · have hright : ∀ l ∈ (countSessionLines s session.id).map closedLineData,
        l.varianceQuantity = some (fromUnits l.difference) := by
      refine forall_mem_map.mpr fun l hl ↦ ?_
      rw [hshown l hl, (hwhole l hl).mpr (h l hl)]
    refine ⟨hright, hadjusted, congrArg totals (map_congr_left fun l hl ↦ ?_)⟩
    rw [SessionLineData.shown, hright l hl, number_fromUnits]
  · have hread : ((countSessionLines s session.id).map closedLineData).map SessionLineData.shown =
        (((countSessionLines s session.id).map closedLineData).map
          SessionLineData.difference).map (Decimal.misread 3) := by
      rw [map_map, map_map, map_map]
      refine map_congr_left fun l hl ↦ ?_
      show (closedLineData l).shown = Decimal.misread 3 (closedLineData l).difference
      rw [SessionLineData.shown, hshown l hl, number_fromUnits]
    rw [totals, totals, hread, sum_misread_eq_iff, map_map, forall_mem_map]
    exact forall₂_congr hwhole

/-! ### Half a kilogram -/

def flour : Product :=
  { Product.plain 1 10000 with quantityPolicy := ⟨.KILOGRAM, 3, .HALF_UP, 1⟩ }

def tenKilograms (s : Store) : Store :=
  let s := { s with
    products := .ofRow flour
    locations := .ofRow { id := 1, warehouseId := 1, active := true, createdAt := 0 }
    documents := { s.documents with
      warehouses := .ofRow { id := 1, branchId := 1, active := true } } }
  match createMovement s {
    warehouseId := 1, idempotencyKey := [0], productId := 1, locationId := 1, type := .INITIAL,
    quantity := 10000, reason := [] } with
  | .ok r => r.store
  | .error _ => s

def countedOnce (quantity : ℤ) : List Request :=
  [.elsewhere tenKilograms,
    .create {
      branchId := 1, warehouseId := 1, idempotencyKey := [1], locationId := 1, productIds := [1],
      blind := false },
    .record {
      warehouseId := 1, sessionId := 0, productId := 1, countedQuantity := quantity,
      expectedAttempt := 0 },
    .close { warehouseId := 1, sessionId := 0 }]

def closedSession : CountSession where
  id := 0
  warehouseId := 1
  locationId := 1
  status := .CLOSED
  idempotencyKey := [1]
  requestFingerprint := {
    branchId := 1, warehouseId := 1, locationId := 1, productIds := [1], blind := false }

theorem trueVariances_iff_wholeKilogram :
    ∃ data, readSession (run step (Store.fresh default) (countedOnce 9000)) 1 0 = .ok (some data) ∧
      TrueVariances (run step (Store.fresh default) (countedOnce 9000)) data := by
  obtain ⟨data, hread, -, hiff, -⟩ := @trueVariances_iff
    (run step (Store.fresh default) (countedOnce 9000)) ⟨default, _, rfl⟩ closedSession
    (by decide +kernel) rfl
  exact ⟨data, hread, hiff.mpr (by decide +kernel)⟩

/-- **Half a kilogram is missing**: the adjustment takes it, and the session shows a surplus. -/
theorem half_shown_as_surplus : ∃ s data, Reachable s ∧ readSession s 1 0 = .ok (some data) ∧
      data.status = .CLOSED ∧ ¬TrueVariances s data ∧
      ∃ l ∈ data.lines, l.snapshotQuantity = some (fromUnits 10000) ∧
        l.countedQuantity = some (fromUnits 9500) ∧ l.varianceQuantity = some (fromUnits 500) ∧
        Adjusted s l.productId l.movementId (-500) := by
  refine ⟨run step (Store.fresh default) (countedOnce 9500), {
    id := 0
    status := .CLOSED
    blind := false
    warehouseId := 1
    locationId := 1
    lines := [{
      productId := 1, snapshotQuantity := some (fromUnits 10000),
      countedQuantity := some (fromUnits 9500), varianceQuantity := some (fromUnits 500),
      attemptCount := 1,
      movementId := some 1 }] }, ⟨default, _, rfl⟩, by decide +kernel, rfl, fun h ↦ ?_, _,
    mem_singleton_self _, rfl, rfl, rfl, Or.inr (by decide +kernel)⟩
  exact absurd (h.lines _ (mem_singleton_self _)) (by decide +kernel)

end UInventario.Counts
