import UInventario.Foundations.Queries
import UInventario.Foundations.TwoRuns
import UInventario.Operations.CountVariance

/-!
# Blind counts

A counter shows a session, lists those of a warehouse, records counts and closes sessions. No answer
to these requests depends on what an open blind session expects to be counted (`answers_hide`), as
long as every close comes before it gets to the balances (`Early`): the close of a session all of
whose lines have a count is refused when the stock has changed, and that error carries the current
quantity.
-/

namespace UInventario.Counts

open Outcome List

/-! ### Requests and answers -/

/-- A request of one who counts. -/
inductive CounterRequest
  | get (warehouseId sessionId : Uuid)
  | list (warehouseId : Uuid)
  | record (input : RecordCountInput)
  | close (input : CloseSessionInput)

/-- An error, with what it carries. -/
inductive CountError
  | plain (failure : Failure)
  | attemptConflict (currentAttempt : ℕ)
  | stockChanged (productId : Uuid) (currentQuantity : List Char)

/-- `ORDER BY (status = 'OPEN') DESC, created_at DESC`, of rows with their numbers. -/
def listedBefore (env : Env) (a b : CountSession × ℕ) : Prop :=
  (a.1.status = .OPEN ∧ b.1.status ≠ .OPEN) ∨ ((a.1.status = .OPEN ↔ b.1.status = .OPEN) ∧
    env.clock .inventory_count_sessions b.2 ≤ env.clock .inventory_count_sessions a.2)
  deriving Decidable

variable (s : Store)

def listSessions (warehouseId : Uuid) : Except Failure (List SessionData) := do
  let rows := limited (listedBefore s.env) 20
    (s.documents.countSessions.rows.zipIdx.filter fun c ↦ c.1.warehouseId = warehouseId)
  let sessions ← rows.mapM fun c ↦ readSession s warehouseId c.1.id
  pure (sessions.filterMap id)

def recordError (input : RecordCountInput) : Failure → CountError
  | .inventoryCountAttemptConflict => .attemptConflict
      (((s.documents.countSessionLines.find? (input.sessionId, input.productId)).map
        CountSessionLine.attemptCount).getD 0)
  | failure => .plain failure

/-- The first balance that is not what it was is in the error. -/
def closeError (input : CloseSessionInput) : Failure → CountError
  | .inventoryCountStockChanged =>
    ((s.documents.countSessions.find? input.sessionId).bind fun session ↦
      (countSessionLines s input.sessionId).findSome? fun line ↦
        ((s.balance? line.productId session.locationId).filter fun balance ↦
          balance.available ≠ line.snapshotQuantity).map fun balance ↦
            .stockChanged line.productId (fromUnits balance.available)).getD
      (.plain .inventoryCountStockChanged)
  | failure => .plain failure

def counterStep : CounterRequest → Except CountError Store
  | .get .. | .list _ => pure s
  | .record input => (recordCount s input).mapError (recordError s input)
  | .close input => (closeSession s input).mapError (closeError s input)

def shownSession (warehouseId sessionId : Uuid) : Except Failure (List SessionData) := do
  let session ← readSession s warehouseId sessionId
  let data ← demand session .inventoryCountSessionNotFound
  pure [data]

/-- What is read in the store that a request leaves. -/
def response : CounterRequest → Except Failure (List SessionData)
  | .get warehouseId sessionId => shownSession s warehouseId sessionId
  | .list warehouseId => listSessions s warehouseId
  | .record input => shownSession s input.warehouseId input.sessionId
  | .close input => shownSession s input.warehouseId input.sessionId

def answer (request : CounterRequest) : Except CountError (List SessionData) := do
  let s ← counterStep s request
  (response s request).mapError .plain

/-! ### What a blind session hides -/

def CounterRequest.closing : CounterRequest → Option CloseSessionInput
  | .close input => some input
  | _ => none

/-- No close gets to the balances: the session is closed already, or of another warehouse, or a line
has no count. -/
def Early (request : CounterRequest) : Prop :=
  ∀ input ∈ request.closing, ∀ c ∈ s.documents.countSessions.find? input.sessionId,
    c.warehouseId = input.warehouseId →
      c.status = .CLOSED ∨ ∃ l ∈ s.documents.countSessionLines.rows,
        l.sessionId = input.sessionId ∧ l.countedQuantity = none
  deriving Decidable

def masked (sessionId : Uuid) (l : CountSessionLine) : CountSessionLine :=
  { l with snapshotQuantity := if l.sessionId = sessionId then 0 else l.snapshotQuantity }

/-- **Stores that a counter cannot tell apart**: they have the sessions and the products in common,
the lines but for what a blind session expects, and nothing of their stock. -/
structure Alike (sessionId : Uuid) (s s' : Store) : Prop where
  hidden : ∃ c, s.documents.countSessions.find? sessionId = some c ∧
    c.requestFingerprint.blind = true ∧ c.status = .OPEN
  env : s'.env = s.env
  products : s'.products = s.products
  sessions : s'.documents.countSessions = s.documents.countSessions
  lines : s'.documents.countSessionLines.rows.map (masked sessionId) =
    s.documents.countSessionLines.rows.map (masked sessionId)

variable {s} {s' : Store} {sessionId : Uuid}

namespace Alike

section

variable (h : Alike sessionId s s')
include h

theorem attemptCount (key : Uuid × Uuid) :
    (s'.documents.countSessionLines.find? key).map CountSessionLine.attemptCount =
      (s.documents.countSessionLines.find? key).map CountSessionLine.attemptCount := by
  have hfind : ∀ t : Table CountSessionLine, (t.find? key).map CountSessionLine.attemptCount =
      ((t.rows.map (masked sessionId)).find? fun l ↦ Keyed.key l = key).map
        CountSessionLine.attemptCount := by
    intro t
    rw [find?_map, Option.map_map]
    rfl
  rw [hfind, hfind, h.lines]

theorem countSessionLines (id : Uuid) :
    (countSessionLines s' id).map (masked sessionId) =
      (countSessionLines s id).map (masked sessionId) := by
  have hsorted : ∀ t : Store, (UInventario.countSessionLines t id).map (masked sessionId) =
      orderBy (fun a b : CountSessionLine ↦ a.productId ≤ b.productId)
        ((t.documents.countSessionLines.rows.map (masked sessionId)).filter fun l ↦
          l.sessionId = id) := by
    intro t
    rw [filter_map]
    exact map_insertionSort _ _ _ _ fun _ _ _ _ ↦ Iff.rfl
  rw [hsorted, hsorted, h.lines]

/-- **A blind session shows nothing** of what it expects. -/
theorem readSession (warehouseId id : Uuid) :
    readSession s' warehouseId id = readSession s warehouseId id := by
  obtain ⟨c, hc, hblind, hopen⟩ := h.hidden
  have hlines := h.countSessionLines id
  rw [Counts.readSession, Counts.readSession, h.sessions]
  by_cases hid : id = sessionId
  · have hhidden : toLineData true ∘ masked sessionId = toLineData true := rfl
    subst hid
    rw [hc]
    dsimp only
    rw [hblind, hopen, show (true && decide (CountSessionStatus.OPEN = .OPEN)) = true from rfl,
      ← hhidden, ← mapM_map, ← mapM_map, hlines]
  · have hsame : ∀ t, (UInventario.countSessionLines t id).map (masked sessionId) =
        UInventario.countSessionLines t id := by
      intro t
      refine (map_congr_left fun l hl ↦ ?_).trans (map_id _)
      rw [masked, if_neg ((mem_countSessionLines.mp hl).2.trans_ne hid)]
      rfl
    rw [hsame, hsame] at hlines
    rw [hlines]

theorem response (request : CounterRequest) :
    response s' request = response s request := by
  have hshown : ∀ warehouseId id, shownSession s' warehouseId id = shownSession s warehouseId id :=
    fun warehouseId id ↦ by rw [shownSession, shownSession, h.readSession]
  cases request with
  | list warehouseId =>
    rw [Counts.response, Counts.response, listSessions, listSessions, h.env, h.sessions]
    simp only [h.readSession]
  | _ => exact hshown _ _

end

end Alike

/-! ### Steps and runs -/

/-- An update that leaves the expected quantities alone writes the same into masked lines. -/
theorem map_update {t t' : Table CountSessionLine} {key : Uuid × Uuid}
    {f : CountSessionLine → CountSessionLine} (hf : ∀ l, Keyed.key (f l) = Keyed.key l)
    (hmasked : ∀ l, masked sessionId (f l) = f (masked sessionId l))
    (h : t.rows.map (masked sessionId) = t'.rows.map (masked sessionId)) :
    (t.update key f hf).rows.map (masked sessionId) =
      (t'.update key f hf).rows.map (masked sessionId) := by
  have hupdate : ∀ t : Table CountSessionLine, (t.update key f hf).rows.map (masked sessionId) =
      (t.rows.map (masked sessionId)).map fun l ↦ if Keyed.key l = key then f l else l := by
    intro t
    rw [Table.update, map_map, map_map]
    refine map_congr_left fun l _ ↦ ?_
    show masked sessionId (if Keyed.key l = key then _ else l) = if Keyed.key l = key then _ else _
    split
    · exact hmasked l
    · rfl
  rw [hupdate, hupdate, h]

theorem agree_record (h : Alike sessionId s s') (input : RecordCountInput) :
    Outcome.Agree (Alike sessionId) (counterStep s (.record input))
      (counterStep s' (.record input)) := by
  have hcount := h.attemptCount (input.sessionId, input.productId)
  have herror : recordError s' input = recordError s input := by
    funext e
    cases e <;> simp only [recordError, hcount]
  rw [counterStep, counterStep, herror]
  refine agree_mapError ?_
  rw [recordCount, recordCount, show s'.products.find? input.productId = _ by rw [h.products],
    show s'.documents.countSessions.find? input.sessionId = _ by rw [h.sessions]]
  refine agree_bind fun product ↦ agree_bind fun _ ↦ agree_bind fun quantity ↦
    agree_bind fun session ↦ agree_bind fun _ ↦ agree_bind fun _ ↦ ?_
  cases hline : s.documents.countSessionLines.find? (input.sessionId, input.productId) with
  | none =>
    rw [hline, Option.map_none, Option.map_eq_none_iff] at hcount
    rw [hcount]
    exact .error _
  | some l =>
    rw [hline, Option.map_some, Option.map_eq_some_iff] at hcount
    obtain ⟨l', hline', hl⟩ := hcount
    rw [hline']
    show Outcome.Agree _ (ensure (l.attemptCount = _) _ >>= _)
      (ensure (l'.attemptCount = _) _ >>= _)
    rw [hl]
    exact agree_bind fun _ ↦ .ok ⟨h.hidden, h.env, h.products, h.sessions,
      map_update (fun _ ↦ by rfl) (fun _ ↦ by rfl) h.lines⟩

theorem closeSession_early {input : CloseSessionInput} (hearly : Early s (.close input)) :
    closeSession s input = (do
      let session ← demand (s.documents.countSessions.find? input.sessionId)
        .inventoryCountSessionNotFound
      ensure (session.warehouseId = input.warehouseId) .inventoryCountSessionNotFound
      if session.status = .CLOSED then pure s else .error .inventoryCountSessionIncomplete) := by
  rw [closeSession]
  cases hfind : s.documents.countSessions.find? input.sessionId with
  | none => rfl
  | some session =>
    show (ensure _ _ >>= _) = (ensure _ _ >>= _)
    by_cases hwarehouse : session.warehouseId = input.warehouseId
    case neg =>
      rw [ensure, if_neg hwarehouse]
      rfl
    refine congrArg (_ >>= ·) (funext fun _ ↦ ?_)
    split
    · rfl
    · rcases hearly input rfl session hfind hwarehouse with hclosed | ⟨l, hl, hid, hnone⟩
      · contradiction
      · exact congrArg (· >>= _)
          (if_neg fun hall ↦ hall.2 l (mem_countSessionLines.mpr ⟨hl, hid⟩) hnone)

theorem Alike.early (h : Alike sessionId s s') {request : CounterRequest}
    (hearly : Early s request) : Early s' request := by
  intro input hclosing c hc hwarehouse
  rw [h.sessions] at hc
  refine (hearly input hclosing c hc hwarehouse).imp_right fun ⟨l, hl, hid, hnone⟩ ↦ ?_
  have hmem : masked sessionId l ∈ s'.documents.countSessionLines.rows.map (masked sessionId) := by
    rw [h.lines]
    exact mem_map_of_mem hl
  obtain ⟨l', hl', heq⟩ := List.mem_map.mp hmem
  exact ⟨l', hl', (congrArg CountSessionLine.sessionId heq :).trans hid,
    (congrArg CountSessionLine.countedQuantity heq :).trans hnone⟩

theorem agree_step (h : Alike sessionId s s') (request : CounterRequest)
    (hearly : Early s request) :
    Outcome.Agree (Alike sessionId) (counterStep s request) (counterStep s' request) := by
  cases request with
  | get _ _ | list _ => exact .ok h
  | record input => exact agree_record h input
  | close input =>
    rw [counterStep, counterStep, closeSession_early hearly, closeSession_early (h.early hearly),
      h.sessions]
    cases s.documents.countSessions.find? input.sessionId with
    | none => exact .error _
    | some session =>
      show Outcome.Agree _ ((ensure _ _ >>= _).mapError _) ((ensure _ _ >>= _).mapError _)
      rw [ensure]
      split
      · rw [ok_bind, ok_bind]
        split
        · exact .ok h
        · exact .error _
      · exact .error _

/-- **A blind count reveals nothing**: neither answers nor errors depend on the expected quantities,
and the session stays open and blind. -/
theorem answers_hide (h : Alike sessionId s s') (requests : List CounterRequest)
    (hearly : Along counterStep Early s requests) :
    Alike sessionId (run counterStep s requests) (run counterStep s' requests) ∧
      ∀ request, Early (run counterStep s requests) request →
        answer (run counterStep s' requests) request =
          answer (run counterStep s requests) request := by
  have halike := run_agree (R := Alike sessionId) (C := Early)
    (fun _ _ request h hearly ↦ agree_step h request hearly) h requests hearly
  refine ⟨halike, fun request hrequest ↦ ?_⟩
  have hstep := agree_step halike request hrequest
  rw [answer, answer]
  revert hstep
  generalize counterStep (run counterStep s requests) request = x
  generalize counterStep (run counterStep s' requests) request = y
  rintro (e | hafter)
  · rfl
  · exact congrArg (Except.mapError _) (hafter.response request)

/-! ### Two stores -/

/-- Two lines of a blind session, with what is expected of the first. -/
def expecting (quantity : ℤ) : Store :=
  { Store.fresh default with documents := { Documents.empty with
      countSessions := .ofRow {
        id := 1, warehouseId := 1, locationId := 1, status := .OPEN, idempotencyKey := []
        requestFingerprint := {
          branchId := 1, warehouseId := 1, locationId := 1, productIds := [1, 2],
          blind := true } }
      countSessionLines := ⟨[1, 2].map fun id ↦ {
        sessionId := 1, productId := id, snapshotQuantity := id * quantity, countedQuantity := none
        varianceQuantity := none, attemptCount := 0, movementId := none }, by simp [Keyed.key]⟩ } }

theorem answers_hide_expecting : Alike 1 (run counterStep (expecting 5) [.list 1, .close ⟨1, 1⟩])
        (run counterStep (expecting 7) [.list 1, .close ⟨1, 1⟩]) ∧
      ∀ request, Early (run counterStep (expecting 5) [.list 1, .close ⟨1, 1⟩]) request →
        answer (run counterStep (expecting 7) [.list 1, .close ⟨1, 1⟩]) request =
          answer (run counterStep (expecting 5) [.list 1, .close ⟨1, 1⟩]) request := by
  have halike : Alike 1 (expecting 5) (expecting 7) :=
    ⟨⟨_, rfl, rfl, rfl⟩, rfl, rfl, rfl, by decide⟩
  exact answers_hide halike [.list 1, .close ⟨1, 1⟩] (by decide +kernel)

/-- A blind session whose only line is counted, after the stock it was opened with has changed. -/
def restocked (quantity : ℤ) : Store :=
  { Store.fresh default with
    balances := .ofRow ⟨1, 1, quantity, quantity, 0, 0, 0⟩
    documents := { Documents.empty with
      countSessions := .ofRow {
        id := 1, warehouseId := 1, locationId := 1, status := .OPEN, idempotencyKey := []
        requestFingerprint := {
          branchId := 1, warehouseId := 1, locationId := 1, productIds := [1], blind := true } }
      countSessionLines := .ofRow {
        sessionId := 1, productId := 1, snapshotQuantity := 5000, countedQuantity := some 5000
        varianceQuantity := none, attemptCount := 1, movementId := none } } }

/-- **The stock is told**: a close is refused with the quantity, and the session stays open. -/
theorem close_tells : answer (restocked 6000) (.close ⟨1, 1⟩) =
        .error (.stockChanged 1 ['6', '.', '0', '0', '0']) ∧
      answer (restocked 8000) (.close ⟨1, 1⟩) =
        .error (.stockChanged 1 ['8', '.', '0', '0', '0']) ∧
      Alike 1 (restocked 6000) (restocked 8000) ∧
      Alike 1 (run counterStep (restocked 6000) [.close ⟨1, 1⟩])
        (run counterStep (restocked 8000) [.close ⟨1, 1⟩]) :=
  ⟨by rfl, by rfl, ⟨⟨_, rfl, rfl, rfl⟩, rfl, rfl, rfl, by decide⟩,
    ⟨⟨_, rfl, rfl, rfl⟩, rfl, rfl, rfl, by decide⟩⟩

end UInventario.Counts
