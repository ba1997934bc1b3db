import UInventario.Foundations.LockedRuns
import UInventario.Procurement.PurchaseReceipts

/-!
# Procurement as a system of transactions

The requests on purchase orders side by side. A change of status looks its key up, and a receipt
normalises its quantities, before its transaction begins; what follows is one step under the lock of
the order's row. `elsewhere` may leave any stock and any catalogue behind, but writes to no table of
procurement. The second half of the file says what each of these transactions writes.
-/

namespace UInventario.Procurement

open Outcome LockedRuns Table List

inductive Request
  | create (dto : SaveInput)
  | update (orderId : Uuid) (version : ℕ) (dto : SaveInput)
  | approve (input : ChangeInput)
  | send (input : ChangeInput) (recipient : Option Text)
  | cancel (input : ChangeInput)
  | receive (input : ReceiptInput)
  | elsewhere (catalog : Catalog) (stock : UInventario.Store)

inductive Decision
  | go
  | replay
  | receive (lines : List ReceivedLine)

def readTransition (s : Store) (input : TransitionInput) : Except Failure Decision := do
  let replayed ← findTransitionRequest s input
  pure (if replayed = true then .replay else .go)

namespace Request

def read (request : Request) (s : Store) : Except Failure Decision :=
  match request with
  | .approve input => readTransition s input.approve
  | .send input recipient => readTransition s (input.send recipient)
  | .cancel input => readTransition s input.cancel
  | .receive input => (readReceipt s input).map .receive
  | _ => pure .go

def needs (request : Request) (_ : Decision) (_ : Store) : List Uuid :=
  match request with
  | .update orderId _ _ => [orderId]
  | .approve input | .send input _ | .cancel input => [input.orderId]
  | .receive input => [input.orderId]
  | _ => []

def write (request : Request) (decision : Decision) (s : Store) : Except Failure Store :=
  match request, decision with
  | .create dto, .go => Procurement.create s dto
  | .update orderId version dto, .go => Procurement.update s orderId version dto
  | .approve input, .go => transition s input.approve
  | .send input recipient, .go => transition s (input.send recipient)
  | .cancel input, .go => transition s input.cancel
  | .receive input, .receive lines => Procurement.receive s input lines
  | .elsewhere catalog stock, .go => pure { s with catalog := catalog, stock := stock }
  -- a replay has its answer and writes nothing
  | _, _ => pure s

end Request

/-- **Procurement.** -/
def protocol : Protocol Store Request Decision Uuid Failure where
  holds := fun _ ↦ []
  read := Request.read
  needs := Request.needs
  write := Request.write

/-! ### What the transactions write -/

variable {s s' : Store} {dto : SaveInput} {lines : List PersistedLine} {orderId : Uuid}
  {input : ReceiptInput}

theorem onRace_eq_ok {transaction : Except Failure Store} {replay : Except Failure Bool}
    (h : onRace s transaction replay = .ok s') : transaction = .ok s' ∨ s' = s := by
  cases transaction with
  | ok s₁ => exact .inl h
  | error e =>
    refine .inr ?_
    simp only [onRace] at h
    split at h
    · obtain ⟨replayed, -, h⟩ := bind_eq_ok.mp h
      split at h
      · rw [pure_eq_ok] at h
        exact h.symm
      · cases h
    · cases h

/-- **Lines have been added** to an order: new rows, nothing received on them yet. -/
structure InsertedLines (orderId : Uuid) (s s' : Store) : Prop where
  store_eq : s' = { s with lines := s'.lines, drawn := s'.drawn }
  old : ∀ line ∈ s.lines.rows, line ∈ s'.lines.rows
  new : ∀ line ∈ s'.lines.rows, line ∈ s.lines.rows ∨
    (s.lines.find? line.id = none ∧ line.purchaseOrderId = orderId ∧ line.receivedQuantity = 0 ∧
      0 < line.quantity)

theorem insertLine_writes {line : PurchaseOrderLine} (h : insertLine s line = .ok s') :
    0 < line.quantity ∧ ∃ lines, s.lines.insert line = some lines ∧
      s' = { s with lines := lines } := by
  simp only [insertLine, eq_ok] at h
  obtain ⟨-, ⟨-, hquantity, -⟩, -, -, lines, hinsert, rfl⟩ := h
  exact ⟨hquantity, lines, hinsert, rfl⟩

theorem insertLines_writes (h : insertLines s orderId lines = .ok s') : InsertedLines orderId s s' ∧
      (lines ≠ [] → ∃ line ∈ s'.lines.rows, line.purchaseOrderId = orderId) := by
  have hloop : ∀ (entries : List (PersistedLine × ℕ)) (s : Store),
      entries.foldlM (insertNewLine orderId) s = .ok s' → InsertedLines orderId s s' ∧
          (entries ≠ [] → ∃ line ∈ s'.lines.rows, line.purchaseOrderId = orderId) := by
    intro entries
    induction entries with
    | nil =>
      intro s h
      rw [foldlM_nil_eq_ok] at h
      subst h
      exact ⟨⟨rfl, fun _ hline ↦ hline, fun _ hline ↦ .inl hline⟩, fun hne ↦ absurd rfl hne⟩
    | cons entry entries ih =>
      intro s h
      obtain ⟨s₁, h₁, h⟩ := foldlM_cons_eq_ok.mp h
      obtain ⟨hquantity, table, hinsert, rfl⟩ := insertLine_writes h₁
      obtain ⟨hrest, -⟩ := ih _ h
      have hfresh := (insert_eq_some hinsert).1
      refine ⟨⟨?_, ?_, ?_⟩, fun _ ↦ ⟨_, hrest.old _ ((mem_insert hinsert).mpr (.inr rfl)),
        rfl⟩⟩
      · rw [hrest.store_eq]
      · exact fun line hline ↦ hrest.old line ((mem_insert hinsert).mpr (.inl hline))
      · intro line hline
        rcases hrest.new line hline with hline | ⟨hnone, hvalues⟩
        · rcases (mem_insert hinsert).mp hline with hline | rfl
          · exact .inl hline
          · exact .inr ⟨hfresh, rfl, rfl, hquantity⟩
        · refine .inr ⟨?_, hvalues⟩
          cases hfind : s.lines.find? line.id with
          | none => rfl
          | some x =>
            have hx : table.find? line.id = some x := find?_insert_of_some hinsert hfind
            rw [show ({ s.randomUUID.2 with lines := table } : Store).lines = table from rfl, hx]
              at hnone
            cases hnone
  obtain ⟨hinserted, hsome⟩ := hloop lines.zipIdx s h
  refine ⟨hinserted, fun hne ↦ hsome ?_⟩
  rw [ne_eq, zipIdx_eq_nil_iff]
  exact hne

theorem prepareLines_ne (h : prepareLines s dto = .ok lines) : lines ≠ [] := by
  simp only [prepareLines, eq_ok] at h
  obtain ⟨-, -, h⟩ := h
  intro hnil
  have hlength := (mapM_eq_ok h).length_eq
  rw [hnil, length_nil, length_eq_zero_iff] at hlength
  exact dto.lines_ne hlength

theorem create_writes (h : create s dto = .ok s') :
    ∃ order orders s₁, order.status = .DRAFT ∧ s.orders.insert order = some orders ∧
      s₁ = { s with drawn := s.drawn + 1, orders := orders } ∧ InsertedLines order.id s₁ s' ∧
      ∃ line ∈ s'.lines.rows, line.purchaseOrderId = order.id := by
  simp only [create, Store.randomUUID, eq_ok] at h
  obtain ⟨-, -, lines, hlines, orders, hinsert, h⟩ := h
  obtain ⟨hinserted, hsome⟩ := insertLines_writes h
  exact ⟨_, orders, _, rfl, hinsert, rfl, hinserted, hsome (prepareLines_ne hlines)⟩

theorem update_writes {version : ℕ} (h : update s orderId version dto = .ok s') :
    ∃ order s₁, s.orders.find? orderId = some order ∧ order.status = .DRAFT ∧
      (∀ line ∈ s.linesOf orderId, ∀ l ∈ s.receiptLines.rows,
        l.purchaseOrderLineId ≠ line.id) ∧
      s₁ = { s with
        orders := s.orders.update orderId fun o ↦ { o with
          supplierId := dto.supplierId, currency := dto.currency, version := o.version + 1 }
        lines := s.lines.delete fun line ↦ line.purchaseOrderId = orderId } ∧
      InsertedLines orderId s₁ s' ∧ ∃ line ∈ s'.lines.rows, line.purchaseOrderId = orderId := by
  simp only [update, deleteLines, eq_ok] at h
  obtain ⟨-, -, order, hfind, -, -, -, hdraft, lines, hlines, s₁, ⟨-, hkeep, rfl⟩, h⟩ := h
  obtain ⟨hinserted, hsome⟩ := insertLines_writes h
  exact ⟨order, _, hfind, hdraft, hkeep, rfl, hinserted, hsome (prepareLines_ne hlines)⟩

theorem insertTransition_writes {t : Transition} (h : insertTransition s t = .ok s') :
    ∃ transitions, s.transitions.insert t = some transitions ∧
      s' = { s with transitions := transitions } := by
  simp only [insertTransition, eq_ok] at h
  obtain ⟨-, -, -, -, transitions, hinsert, rfl⟩ := h
  exact ⟨transitions, hinsert, rfl⟩

/-- **A change of status**: of the order found in one of the statuses asked for. -/
theorem transition_writes {input : TransitionInput} (h : transition s input = .ok s') :
    s' = s ∨ ∃ order t transitions, s.orders.find? input.orderId = some order ∧
      order.status ∈ input.fromStatuses ∧ t.purchaseOrderId = input.orderId ∧
      t.fromStatus = order.status ∧ t.toStatus = input.toStatus ∧
      s.transitions.insert t = some transitions ∧
      s' = { s with
        drawn := s.drawn + 1
        orders := s.orders.update input.orderId fun o ↦ { o with
          status := input.toStatus, version := o.version + 1,
          cancellationReason := input.cancellationReason o }
        transitions := transitions } := by
  rcases onRace_eq_ok h with h | rfl
  · simp only [transitionLocked, Store.randomUUID, eq_ok] at h
    obtain ⟨order, hfind, -, -, -, hstatus, h⟩ := h
    obtain ⟨transitions, hinsert, rfl⟩ := insertTransition_writes h
    exact .inr ⟨order, _, transitions, hfind, hstatus, rfl, rfl, rfl, hinsert, rfl⟩
  · exact .inl rfl

/-! ### What a receipt writes -/

theorem insertReceipt_writes {receipt : Receipt} (h : insertReceipt s receipt = .ok s') :
    ∃ receipts, s.receipts.insert receipt = some receipts ∧
      s' = { s with receipts := receipts } := by
  simp only [insertReceipt, eq_ok] at h
  obtain ⟨-, -, receipts, hinsert, rfl⟩ := h
  exact ⟨receipts, hinsert, rfl⟩

theorem receiveLine_writes {context : ReceiptContext} {entry : RequestedLine × ℕ}
    (h : receiveLine context s entry = .ok s') :
    ∃ (l : ReceiptLine) (table : Table ReceiptLine) (catalog : ReceiptLine → ℤ),
      l.receiptId = context.receiptId ∧
      l.purchaseOrderLineId = entry.1.orderLine.id ∧ l.receivedQuantity = entry.1.received ∧
      l.overageQuantity = entry.1.overage ∧ 0 < l.receivedQuantity ∧
      l.totalCost = receiptCost l.receivedQuantity l.unitCost ∧
      s.receiptLines.insert l = some table ∧
      s' = { s with
        drawn := s.drawn + 1
        stock := s'.stock
        lines := s.lines.update entry.1.orderLine.id fun x ↦ { x with
          receivedQuantity := x.receivedQuantity + entry.1.received }
        receiptLines := table.update l.id fun x ↦ { x with
          resultingCatalogCost := catalog x } } := by
  simp only [receiveLine, Store.randomUUID, insertReceiptLine, eq_ok] at h
  obtain ⟨product, -, -, -, ⟨stock, resulting⟩, -, s₁, ⟨-, ⟨-, hpositive, -⟩, -, -, table, hinsert,
    rfl⟩, stock', -, rfl⟩ := h
  exact ⟨_, table, fun x ↦ ((stock'.products.find? entry.1.orderLine.productId).map
    catalogCents).getD x.resultingCatalogCost, rfl, rfl, rfl, rfl, hpositive, rfl, hinsert, rfl⟩

theorem requestLine_writes {line : ReceivedLine} {item : RequestedLine}
    (h : requestLine s orderId line = .ok item) :
    s.lines.find? item.orderLine.id = some item.orderLine ∧
      item.orderLine.purchaseOrderId = orderId ∧ item.orderLine.id = line.purchaseOrderLineId ∧
      item.overage = overageQuantity item.received
        (pendingQuantity item.orderLine.quantity item.orderLine.receivedQuantity) := by
  simp only [requestLine, eq_ok, Option.filter_eq_some_iff, decide_eq_true_eq] at h
  obtain ⟨orderLine, ⟨hfind, horder⟩, -, -, rfl⟩ := h
  have hid : orderLine.id = line.purchaseOrderLineId := key_of_find? hfind
  exact ⟨by rw [hid]; exact hfind, horder, hid, rfl⟩

/-- **A receipt**: of an order that can be received, its own row, the turns of the loop, and the
status that the lines then give. -/
theorem receive_writes {lines : List ReceivedLine} (h : receive s input lines = .ok s') :
    s' = s ∨ ∃ order requested receipt receipts s₁,
      s.orders.find? input.orderId = some order ∧
      order.status ∈ [.APPROVED, .SENT, .PARTIALLY_RECEIVED, .RECEIVED] ∧
      lines.mapM (requestLine s input.orderId) = .ok requested ∧
      receipt.purchaseOrderId = input.orderId ∧ s.receipts.insert receipt = some receipts ∧
      requested.zipIdx.foldlM (receiveLine {
        receiptId := receipt.id, locationId := input.locationId, currency := order.currency })
        { s with drawn := s.drawn + 1, receipts := receipts } = .ok s₁ ∧
      finishReceipt s₁ input order receipt.id (input.fingerprint lines) = .ok s' := by
  rcases onRace_eq_ok h with h | rfl
  · obtain ⟨replayed, -, h⟩ := bind_eq_ok.mp h
    split at h
    · rw [pure_eq_ok] at h
      exact .inl h.symm
    · simp only [receiveNew, Store.randomUUID, eq_ok] at h
      obtain ⟨order, hfind, -, -, -, hstatus, -, -, requested, hrequested, -, -, s₁, hreceipt, s₂,
        hloop, hfinish⟩ := h
      obtain ⟨receipts, hinsert, rfl⟩ := insertReceipt_writes hreceipt
      exact .inr ⟨order, requested, _, receipts, s₂, hfind, hstatus, hrequested, rfl, hinsert,
        hloop, hfinish⟩
  · exact .inl rfl

theorem finishReceipt_writes {order : PurchaseOrder} {receiptId : Uuid}
    {fingerprint : Fingerprint} (h : finishReceipt s input order receiptId fingerprint = .ok s') :
    ∃ transitions drawn,
      ((s.progressStatus input.orderId = order.status ∧ transitions = s.transitions) ∨
        ∃ t, t.purchaseOrderId = input.orderId ∧ t.fromStatus = order.status ∧
          t.toStatus = s.progressStatus input.orderId ∧
          s.transitions.insert t = some transitions) ∧
      s' = { s with
        drawn := drawn
        orders := s.orders.update input.orderId fun o ↦ { o with
          status := s.progressStatus input.orderId, version := o.version + 1 }
        transitions := transitions } := by
  simp only [finishReceipt, insertProgress, Store.randomUUID] at h
  split at h
  · obtain ⟨transitions, hinsert, rfl⟩ := insertTransition_writes h
    exact ⟨transitions, _, .inr ⟨_, rfl, rfl, rfl, hinsert⟩, rfl⟩
  case isFalse hsame =>
    rw [pure_eq_ok] at h
    subst h
    exact ⟨_, _, .inl ⟨not_not.mp hsame, rfl⟩, rfl⟩

end UInventario.Procurement
