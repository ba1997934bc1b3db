import UInventario.Foundations.StatusLog
import UInventario.Procurement.System

/-!
# The progress of a purchase order

What the receipts have booked on an order, the quantities on its lines, its status and the log of
its status changes agree in every state that the requests can reach (`purchase_order_progress`).

`Booked` is about lines and receipts: every line carries the sum of its receipt lines, and their
overages, which telescope (`overageQuantity_add`). `Staged` is about the orders: the status is read
off the lines once there is a receipt, and the log leads from `DRAFT` to it. A receipt breaks
`Staged` until its last statement, so its loop is treated with `Booked` alone.
-/

namespace UInventario.Procurement

open Outcome LockedRuns StatusLog Table List

/-! ### Overages telescope -/

/-- **The overage of a receipt** is what it adds to the overage of the line. -/
theorem overageQuantity_add {ordered accumulated received : ℤ} (h : 0 < received) :
    max 0 (accumulated + received - ordered) = max 0 (accumulated - ordered) +
      overageQuantity received (pendingQuantity ordered accumulated) := by
  simp only [overageQuantity, pendingQuantity]
  split
  · split <;> omega
  · omega

/-! ### Receipts and lines -/

def Store.receivedOn (s : Store) (lineId : Uuid) : ℤ :=
  s.receiptLines.total fun l ↦ if l.purchaseOrderLineId = lineId then l.receivedQuantity else 0

def Store.overageOn (s : Store) (lineId : Uuid) : ℤ :=
  s.receiptLines.total fun l ↦ if l.purchaseOrderLineId = lineId then l.overageQuantity else 0

/-- **Lines and receipts agree.** -/
structure Booked (s : Store) : Prop where
  positive : ∀ line ∈ s.lines.rows, 0 < line.quantity
  receiptPositive : ∀ l ∈ s.receiptLines.rows, 0 < l.receivedQuantity
  received : ∀ line ∈ s.lines.rows, line.receivedQuantity = s.receivedOn line.id
  overage : ∀ line ∈ s.lines.rows,
    s.overageOn line.id = max 0 (line.receivedQuantity - line.quantity)
  linked : ∀ l ∈ s.receiptLines.rows, ∃ receipt line, s.receipts.find? l.receiptId = some receipt ∧
    s.lines.find? l.purchaseOrderLineId = some line ∧ line.purchaseOrderId = receipt.purchaseOrderId

variable {s s' : Store} {order : PurchaseOrder} {receipt : Receipt} {input : TransitionInput}
  {lines : List ReceivedLine} {context : ReceiptContext} {decision : Decision} {request : Request}
  {orderId : Uuid}

namespace Booked

variable {line : PurchaseOrderLine}

section

variable (h : Booked s)
include h

theorem exists_receipt (hline : line ∈ s.lines.rows) (hreceived : 0 < line.receivedQuantity) :
    ∃ receipt ∈ s.receipts.rows, receipt.purchaseOrderId = line.purchaseOrderId := by
  by_contra hnone
  rw [h.received line hline] at hreceived
  have hzero : s.receivedOn line.id = 0 := by
    apply total_eq_zero
    intro l hl
    refine if_neg fun hid ↦ hnone ?_
    obtain ⟨receipt, x, hreceipt, hx, horder⟩ := h.linked l hl
    rw [hid, show s.lines.find? line.id = some line from find?_key_of_mem hline] at hx
    cases hx
    exact ⟨receipt, mem_of_find? hreceipt, horder.symm⟩
  omega

theorem received_pos {l : ReceiptLine} (hl : l ∈ s.receiptLines.rows)
    (hfind : s.lines.find? l.purchaseOrderLineId = some line) : 0 < line.receivedQuantity := by
  have hid : line.id = l.purchaseOrderLineId := key_of_find? hfind
  rw [h.received line (mem_of_find? hfind), Store.receivedOn, Table.total]
  have hnonneg : ∀ x ∈ s.receiptLines.rows.map (fun l ↦
      if l.purchaseOrderLineId = line.id then l.receivedQuantity else 0), 0 ≤ x := by
    refine forall_mem_map.mpr fun l' hl' ↦ ?_
    split
    · exact (h.receiptPositive l' hl').le
    · exact le_rfl
  have hone := single_le_sum hnonneg _ (mem_map_of_mem hl)
  rw [if_pos hid.symm] at hone
  exact (h.receiptPositive l hl).trans_le hone

theorem of_insertedLines (hlines : InsertedLines orderId s s') : Booked s' := by
  have hreceipts : s'.receipts = s.receipts := by rw [hlines.store_eq]
  have hreceiptLines : s'.receiptLines = s.receiptLines := by rw [hlines.store_eq]
  have hnew : ∀ {line : PurchaseOrderLine}, s.lines.find? line.id = none →
      ∀ l ∈ s.receiptLines.rows, l.purchaseOrderLineId ≠ line.id := by
    intro line hnone l hl hid
    obtain ⟨-, x, -, hx, -⟩ := h.linked l hl
    rw [hid, hnone] at hx
    cases hx
  refine ⟨?_, ?_, ?_, ?_, ?_⟩
  · intro line hline
    rcases hlines.new line hline with hline | ⟨-, -, -, hpositive⟩
    · exact h.positive line hline
    · exact hpositive
  · rw [hreceiptLines]
    exact h.receiptPositive
  · intro line hline
    show _ = s'.receiptLines.total _
    rw [hreceiptLines]
    rcases hlines.new line hline with hline | ⟨hnone, -, hzero, -⟩
    · exact h.received line hline
    · rw [hzero, total_eq_zero fun l hl ↦ if_neg (hnew hnone l hl)]
  · intro line hline
    show s'.receiptLines.total _ = _
    rw [hreceiptLines]
    rcases hlines.new line hline with hline | ⟨hnone, -, hzero, hpositive⟩
    · exact h.overage line hline
    · rw [hzero, total_eq_zero fun l hl ↦ if_neg (hnew hnone l hl)]
      omega
  · intro l hl
    rw [hreceiptLines] at hl
    obtain ⟨receipt, line, hreceipt, hline, horder⟩ := h.linked l hl
    refine ⟨receipt, line, by rw [hreceipts]; exact hreceipt, ?_, horder⟩
    exact Table.find?_eq_some.mpr
      ⟨hlines.old line (mem_of_find? hline), key_of_find? hline⟩

theorem of_deletedLines (hkeep : ∀ line ∈ s.linesOf orderId, ∀ l ∈ s.receiptLines.rows,
      l.purchaseOrderLineId ≠ line.id) (orders : Table PurchaseOrder) :
    Booked { s with
      orders := orders, lines := s.lines.delete fun line ↦ line.purchaseOrderId = orderId } := by
  refine ⟨?_, h.receiptPositive, ?_, ?_, ?_⟩
  · exact fun line hline ↦ h.positive line (Table.mem_delete.mp hline).1
  · exact fun line hline ↦ h.received line (Table.mem_delete.mp hline).1
  · exact fun line hline ↦ h.overage line (Table.mem_delete.mp hline).1
  · intro l hl
    obtain ⟨receipt, line, hreceipt, hline, horder⟩ := h.linked l hl
    refine ⟨receipt, line, hreceipt, ?_, horder⟩
    have hmem := mem_of_find? hline
    refine Table.find?_eq_some.mpr ⟨Table.mem_delete.mpr ⟨hmem, ?_⟩, key_of_find? hline⟩
    intro heq
    exact hkeep line (Store.mem_linesOf.mpr ⟨hmem, heq⟩) l hl (key_of_find? hline).symm

theorem congr (hlines : s'.lines = s.lines) (hreceipts : s'.receipts = s.receipts)
    (hreceiptLines : s'.receiptLines = s.receiptLines) : Booked s' := by
  obtain ⟨hpositive, hreceiptPositive, hreceived, hoverage, hlinked⟩ := h
  refine ⟨?_, ?_, ?_, ?_, ?_⟩
  · rwa [hlines]
  · rwa [hreceiptLines]
  · simp only [Store.receivedOn, hlines, hreceiptLines] at hreceived ⊢
    exact hreceived
  · simp only [Store.overageOn, hlines, hreceiptLines] at hoverage ⊢
    exact hoverage
  · rwa [hlines, hreceipts, hreceiptLines]

theorem of_receipt {receipts : Table Receipt} {drawn : ℕ}
    (hinsert : s.receipts.insert receipt = some receipts) :
    Booked { s with drawn := drawn, receipts := receipts } := by
  refine ⟨h.positive, h.receiptPositive, h.received, h.overage, ?_⟩
  intro l hl
  obtain ⟨r, line, hr, hline, horder⟩ := h.linked l hl
  exact ⟨r, line, find?_insert_of_some hinsert hr, hline, horder⟩

end

end Booked

/-! ### The loop of a receipt -/

/-- What the loop of a receipt leaves alone: everything but the lines of its order. -/
structure Receives (orderId : Uuid) (s s' : Store) : Prop where
  store_eq : s' = { s with
    drawn := s'.drawn, stock := s'.stock, lines := s'.lines, receiptLines := s'.receiptLines }
  forth : ∀ line ∈ s.lines.rows, ∃ line' ∈ s'.lines.rows,
    line'.purchaseOrderId = line.purchaseOrderId
  back : ∀ line' ∈ s'.lines.rows, ∃ line ∈ s.lines.rows,
    line.purchaseOrderId = line'.purchaseOrderId ∧ line.quantity = line'.quantity ∧
      line.receivedQuantity ≤ line'.receivedQuantity
  others : ∀ line, line.purchaseOrderId ≠ orderId → (line ∈ s'.lines.rows ↔ line ∈ s.lines.rows)

namespace Receives

variable {s₁ : Store} {orderId : Uuid}

theorem refl (orderId : Uuid) (s : Store) : Receives orderId s s :=
  ⟨rfl, fun line hline ↦ ⟨line, hline, rfl⟩, fun line hline ↦ ⟨line, hline, rfl, rfl, le_rfl⟩,
    fun _ _ ↦ Iff.rfl⟩

theorem trans (h : Receives orderId s s₁) (h' : Receives orderId s₁ s') :
    Receives orderId s s' := by
  refine ⟨?_, ?_, ?_, ?_⟩
  · rw [h'.store_eq, h.store_eq]
  · intro line hline
    obtain ⟨line₁, hline₁, h₁⟩ := h.forth line hline
    obtain ⟨line', hline', h₂⟩ := h'.forth line₁ hline₁
    exact ⟨line', hline', h₂.trans h₁⟩
  · intro line' hline'
    obtain ⟨line₁, hline₁, hof₁, hquantity₁, hle₁⟩ := h'.back line' hline'
    obtain ⟨line, hline, hof, hquantity, hle⟩ := h.back line₁ hline₁
    exact ⟨line, hline, hof.trans hof₁, hquantity.trans hquantity₁, hle.trans hle₁⟩
  · exact fun line hne ↦ (h'.others line hne).trans (h.others line hne)

end Receives

/-- What is known of an item that the loop has still to book: its line is as it was read. -/
structure Ready (orderId : Uuid) (s : Store) (item : RequestedLine) : Prop where
  found : s.lines.find? item.orderLine.id = some item.orderLine
  ofOrder : item.orderLine.purchaseOrderId = orderId
  overage : item.overage = overageQuantity item.received
    (pendingQuantity item.orderLine.quantity item.orderLine.receivedQuantity)

/-- **One turn of the loop.** -/
theorem booked_receiveLine (h : Booked s) {entry : RequestedLine × ℕ}
    (hready : Ready receipt.purchaseOrderId s entry.1)
    (hreceipt : s.receipts.find? context.receiptId = some receipt)
    (hturn : receiveLine context s entry = .ok s') :
    Booked s' ∧ Receives receipt.purchaseOrderId s s' ∧
      (∀ item : RequestedLine, item.orderLine.id ≠ entry.1.orderLine.id →
        Ready receipt.purchaseOrderId s item → Ready receipt.purchaseOrderId s' item) ∧
      ∃ l ∈ s'.receiptLines.rows, l.receiptId = context.receiptId := by
  obtain ⟨l, table, catalog, hof, honline, hreceived, hoverage, hpositive, -, hinsert, hs'⟩ :=
    receiveLine_writes hturn
  obtain ⟨item, index⟩ := entry
  have hlines : s'.lines = s.lines.update item.orderLine.id fun x ↦ { x with
      receivedQuantity := x.receivedQuantity + item.received } := by rw [hs']
  have hreceiptLines : s'.receiptLines = table.update l.id fun x ↦ { x with
      resultingCatalogCost := catalog x } := by rw [hs']
  have hreceipts : s'.receipts = s.receipts := by rw [hs']
  have hmem : item.orderLine ∈ s.lines.rows := mem_of_find? hready.found
  -- a total over the receipt lines grows by the weight of the new one
  have htotal : ∀ w : ReceiptLine → ℤ, (∀ x cost, w { x with resultingCatalogCost := cost } = w x) →
      s'.receiptLines.total w = s.receiptLines.total w + w l := by
    intro w hw
    rw [hreceiptLines, total_update_of_forall fun x _ _ ↦ hw x _, total_insert hinsert]
  have hrow : ∀ {line}, line ∈ s'.lines.rows → line = { item.orderLine with
      receivedQuantity := item.orderLine.receivedQuantity + item.received } ∨
      line ∈ s.lines.rows ∧ line.id ≠ item.orderLine.id := by
    intro line hline
    rw [hlines] at hline
    exact of_mem_update _ (find?_key_of_mem hmem) hline
  have hfind : ∀ {id x}, s.lines.find? id = some x → ∃ y, s'.lines.find? id = some y ∧
      y.purchaseOrderId = x.purchaseOrderId := by
    intro id x hx
    rw [hlines, find?_update, hx, Option.map_some]
    refine ⟨_, rfl, ?_⟩
    split <;> rfl
  have hitem : 0 < item.received := hreceived ▸ hpositive
  have hsum := @overageQuantity_add item.orderLine.quantity item.orderLine.receivedQuantity
    item.received hitem
  have hbooked : Booked s' := by
    refine ⟨?_, ?_, ?_, ?_, ?_⟩
    · intro line hline
      rcases hrow hline with rfl | ⟨hline, -⟩
      · exact h.positive item.orderLine hmem
      · exact h.positive line hline
    · rw [hreceiptLines]
      exact forall_mem_update _
        ((forall_mem_insert hinsert).mpr ⟨h.receiptPositive, hpositive⟩) fun _ _ hx ↦ hx
    · intro line hline
      rw [Store.receivedOn, htotal _ fun _ _ ↦ rfl, honline, hreceived, ← Store.receivedOn]
      rcases hrow hline with rfl | ⟨hline, hne⟩
      · rw [if_pos rfl, h.received _ hmem]
      · rw [if_neg hne.symm, add_zero, h.received line hline]
    · intro line hline
      rw [Store.overageOn, htotal _ fun _ _ ↦ rfl, honline, hoverage, ← Store.overageOn]
      rcases hrow hline with rfl | ⟨hline, hne⟩
      · rw [if_pos rfl, h.overage _ hmem, hready.overage]
        exact hsum.symm
      · rw [if_neg hne.symm, add_zero, h.overage line hline]
    · have hlinked := (forall_mem_insert hinsert).mpr ⟨h.linked, receipt, item.orderLine,
        by rw [hof]; exact hreceipt, by rw [honline]; exact hready.found, hready.ofOrder⟩
      intro l' hl'
      rw [hreceiptLines] at hl'
      obtain ⟨r, line, hr, hline, horder⟩ :=
        forall_mem_update (fun _ ↦ by rfl) hlinked (fun _ _ hx ↦ by exact hx) l' hl'
      obtain ⟨y, hy, hyorder⟩ := hfind hline
      rw [hreceipts]
      exact ⟨r, y, hr, hy, hyorder.trans horder⟩
  refine ⟨hbooked, ⟨?_, ?_, ?_, ?_⟩, ?_, ?_⟩
  · rw [hs']
  · intro line hline
    obtain ⟨y, hy, horder⟩ := hfind (find?_key_of_mem hline)
    exact ⟨y, mem_of_find? hy, horder⟩
  · intro line hline
    rcases hrow hline with rfl | ⟨hline, -⟩
    · exact ⟨item.orderLine, hmem, rfl, rfl, (by simpa using hitem.le)⟩
    · exact ⟨line, hline, rfl, rfl, le_rfl⟩
  · intro line hne
    constructor
    · intro hline
      rcases hrow hline with rfl | ⟨hline, -⟩
      · exact absurd hready.ofOrder hne
      · exact hline
    · intro hline
      have hid : line.id ≠ item.orderLine.id := by
        intro heq
        obtain rfl : line = item.orderLine := eq_of_mem_of_key_eq hline hmem heq
        exact hne hready.ofOrder
      rw [hlines, mem_update]
      exact ⟨line, hline, if_neg (show Keyed.key line ≠ item.orderLine.id from hid)⟩
  · intro other hne hother
    refine ⟨?_, hother.ofOrder, hother.overage⟩
    rw [hlines, find?_update_of_ne hne]
    exact hother.found
  · rw [hreceiptLines]
    refine ⟨_, Table.mem_update.mpr ⟨l, (mem_insert hinsert).mpr (.inr rfl), rfl⟩, ?_⟩
    split
    · exact hof
    · exact hof

/-- **The loop of a receipt.** -/
theorem booked_loop : ∀ {entries : List (RequestedLine × ℕ)} {s s' : Store}, Booked s →
      s.receipts.find? context.receiptId = some receipt →
      (∀ entry ∈ entries, Ready receipt.purchaseOrderId s entry.1) →
      (entries.map fun entry ↦ entry.1.orderLine.id).Nodup →
      entries.foldlM (receiveLine context) s = .ok s' →
      Booked s' ∧ Receives receipt.purchaseOrderId s s' ∧
        (entries ≠ [] → ∃ l ∈ s'.receiptLines.rows, l.receiptId = context.receiptId) := by
  intro entries
  induction entries with
  | nil =>
    intro s s' h _ _ _ hloop
    rw [foldlM_nil_eq_ok] at hloop
    subst hloop
    exact ⟨h, Receives.refl _ _, fun hne ↦ absurd rfl hne⟩
  | cons entry entries ih =>
    intro s s' h hreceipt hready hnodup hloop
    obtain ⟨s₁, hturn, hloop⟩ := foldlM_cons_eq_ok.mp hloop
    rw [map_cons, nodup_cons] at hnodup
    obtain ⟨hbooked, hreceives, hkeep, hrow⟩ := booked_receiveLine h
      (hready entry mem_cons_self) hreceipt hturn
    have hreceipt₁ : s₁.receipts.find? context.receiptId = some receipt := by
      rw [hreceives.store_eq]
      exact hreceipt
    have hready₁ : ∀ e ∈ entries, Ready receipt.purchaseOrderId s₁ e.1 := by
      intro e he
      refine hkeep e.1 ?_ (hready e (mem_cons_of_mem _ he))
      intro hid
      rw [← hid] at hnodup
      exact hnodup.1 (mem_map.mpr ⟨e, he, rfl⟩)
    obtain ⟨hbooked', hreceives', hrows⟩ := ih hbooked hreceipt₁ hready₁ hnodup.2 hloop
    refine ⟨hbooked', hreceives.trans hreceives', fun _ ↦ ?_⟩
    cases entries with
    | nil =>
      rw [foldlM_nil_eq_ok] at hloop
      exact hloop ▸ hrow
    | cons e entries => exact hrows (cons_ne_nil _ _)

/-! ### The orders -/

/-- **Orders, lines, receipts and the log agree.** -/
structure Staged (s : Store) : Prop where
  owned : ∀ line ∈ s.lines.rows, (s.orders.find? line.purchaseOrderId).isSome
  hasLine : ∀ order ∈ s.orders.rows, ∃ line ∈ s.lines.rows, line.purchaseOrderId = order.id
  receipts : ∀ receipt ∈ s.receipts.rows, ∃ order,
    s.orders.find? receipt.purchaseOrderId = some order ∧
      (order.status = .PARTIALLY_RECEIVED ∨ order.status = .RECEIVED)
  partly : ∀ order ∈ s.orders.rows, order.status = .PARTIALLY_RECEIVED →
    (∃ line ∈ s.linesOf order.id, 0 < line.receivedQuantity) ∧
      ∃ line ∈ s.linesOf order.id, line.receivedQuantity < line.quantity
  complete : ∀ order ∈ s.orders.rows, order.status = .RECEIVED →
    ∀ line ∈ s.linesOf order.id, line.quantity ≤ line.receivedQuantity
  logged : ∀ t ∈ s.transitions.rows, (s.orders.find? t.purchaseOrderId).isSome
  log : ∀ order ∈ s.orders.rows,
    Leads Transition.fromStatus Transition.toStatus .DRAFT (s.transitionsOf order.id) order.status

theorem transitionsOf_insert {t : Transition} {transitions : Table Transition}
    (h : s.transitions.insert t = some transitions) (hs' : s'.transitions = transitions)
    (orderId : Uuid) : s'.transitionsOf orderId =
      s.transitionsOf orderId ++ if t.purchaseOrderId = orderId then [t] else [] := by
  rw [Store.transitionsOf, hs', (insert_eq_some h).2, filter_append, Store.transitionsOf]
  congr 1
  by_cases hid : t.purchaseOrderId = orderId
  · rw [if_pos hid, filter_cons_of_pos (by simpa using hid), filter_nil]
  · rw [if_neg hid, filter_cons_of_neg (by simpa using hid), filter_nil]

/-- **The progress of an order**: its lines, its status and its log say what its receipts say. -/
structure Progress (s : Store) (order : PurchaseOrder) : Prop where
  received : ∀ line ∈ s.linesOf order.id, line.receivedQuantity = s.receivedOn line.id
  overage : ∀ line ∈ s.linesOf order.id,
    s.overageOn line.id = max 0 (line.receivedQuantity - line.quantity)
  complete : order.status = .RECEIVED ↔
    ∀ line ∈ s.linesOf order.id, line.quantity ≤ line.receivedQuantity
  partly : order.status = .PARTIALLY_RECEIVED ↔
    (∃ line ∈ s.linesOf order.id, 0 < line.receivedQuantity) ∧
      ∃ line ∈ s.linesOf order.id, line.receivedQuantity < line.quantity
  unreceived : order.status = .DRAFT ∨ order.status = .CANCELLED →
    ∀ receipt ∈ s.receipts.rows, receipt.purchaseOrderId ≠ order.id
  chain : (s.transitionsOf order.id).IsChain fun t t' ↦ t'.fromStatus = t.toStatus

namespace Staged

theorem status_of_receipt (h : Staged s) (horder : order ∈ s.orders.rows)
    (hreceipt : receipt ∈ s.receipts.rows) (hid : receipt.purchaseOrderId = order.id) :
    order.status = .PARTIALLY_RECEIVED ∨ order.status = .RECEIVED := by
  obtain ⟨x, hx, hstatus⟩ := h.receipts receipt hreceipt
  rw [hid, show s.orders.find? order.id = some order from find?_key_of_mem horder] at hx
  cases hx
  exact hstatus

theorem progress (h : Staged s) (hbooked : Booked s)
    (horder : order ∈ s.orders.rows) : Progress s order where
  received := fun line hline ↦ hbooked.received line (Store.mem_linesOf.mp hline).1
  overage := fun line hline ↦ hbooked.overage line (Store.mem_linesOf.mp hline).1
  complete := by
    refine ⟨h.complete order horder, ?_⟩
    intro hall
    obtain ⟨line, hline, hid⟩ := h.hasLine order horder
    have hmem : line ∈ s.linesOf order.id := Store.mem_linesOf.mpr ⟨hline, hid⟩
    have hreceived : 0 < line.receivedQuantity :=
      (hbooked.positive line hline).trans_le (hall line hmem)
    obtain ⟨receipt, hreceipt, hof⟩ := hbooked.exists_receipt hline hreceived
    rcases h.status_of_receipt horder hreceipt (hof.trans hid) with hstatus | hstatus
    · obtain ⟨-, x, hx, hless⟩ := h.partly order horder hstatus
      exact absurd (hall x hx) (not_le.mpr hless)
    · exact hstatus
  partly := by
    refine ⟨h.partly order horder, ?_⟩
    rintro ⟨⟨line, hline, hreceived⟩, x, hx, hless⟩
    obtain ⟨hmem, hid⟩ := Store.mem_linesOf.mp hline
    obtain ⟨receipt, hreceipt, hof⟩ := hbooked.exists_receipt hmem hreceived
    rcases h.status_of_receipt horder hreceipt (hof.trans hid) with hstatus | hstatus
    · exact hstatus
    · exact absurd (h.complete order horder hstatus x hx) (not_le.mpr hless)
  unreceived := by
    intro hstatus receipt hreceipt hid
    rcases h.status_of_receipt horder hreceipt hid with h' | h'
    · rw [h'] at hstatus
      rcases hstatus with hstatus | hstatus <;> cases hstatus
    · rw [h'] at hstatus
      rcases hstatus with hstatus | hstatus <;> cases hstatus
  chain := (h.log order horder).isChain

end Staged

/-! ### What keeps the orders in order -/

theorem linesOf_congr (h : s'.lines = s.lines) (orderId : Uuid) :
    s'.linesOf orderId = s.linesOf orderId := by
  rw [Store.linesOf, h, Store.linesOf]

namespace Staged

theorem congr (h : Staged s) (horders : s'.orders = s.orders) (hlines : s'.lines = s.lines)
    (hreceipts : s'.receipts = s.receipts) (htransitions : s'.transitions = s.transitions) :
    Staged s' := by
  obtain ⟨howned, hhasLine, hreceipt, hpartly, hcomplete, hlogged, hlog⟩ := h
  refine ⟨?_, ?_, ?_, ?_, ?_, ?_, ?_⟩
  · rwa [hlines, horders]
  · rwa [hlines, horders]
  · rwa [hreceipts, horders]
  · simp only [linesOf_congr hlines, horders]
    exact hpartly
  · simp only [linesOf_congr hlines, horders]
    exact hcomplete
  · rwa [htransitions, horders]
  · simp only [Store.transitionsOf, htransitions, horders] at hlog ⊢
    exact hlog

variable {dto : SaveInput}

theorem of_create (h : Staged s) (hcreate : create s dto = .ok s') : Staged s' := by
  obtain ⟨order, orders, s₁, hdraft, hinsert, rfl, hlines, hsome⟩ := create_writes hcreate
  have horders : s'.orders = orders := by rw [hlines.store_eq]
  have hreceipts : s'.receipts = s.receipts := by rw [hlines.store_eq]
  have htransitions : s'.transitions = s.transitions := by rw [hlines.store_eq]
  have hfresh : s.orders.find? order.id = none := (insert_eq_some hinsert).1
  have hfind : ∀ {id x}, s.orders.find? id = some x → s'.orders.find? id = some x := by
    intro id x hx
    rw [horders]
    exact find?_insert_of_some hinsert hx
  have hmem : ∀ {x}, x ∈ s'.orders.rows → x ∈ s.orders.rows ∨ x = order := by
    intro x hx
    rw [horders] at hx
    exact (mem_insert hinsert).mp hx
  -- the lines of an order that was there are those it had
  have hold : ∀ x ∈ s.orders.rows, ∀ line,
      line ∈ s'.linesOf x.id ↔ line ∈ s.linesOf x.id := by
    intro x hx line
    rw [Store.mem_linesOf, Store.mem_linesOf]
    refine and_congr_left fun hid ↦ ⟨fun hline ↦ ?_, fun hline ↦ hlines.old line hline⟩
    rcases hlines.new line hline with hline | ⟨-, hnew, -⟩
    · exact hline
    · rw [← hnew, hid, show s.orders.find? x.id = some x from find?_key_of_mem hx] at hfresh
      cases hfresh
  refine ⟨?_, ?_, ?_, ?_, ?_, ?_, ?_⟩
  · intro line hline
    rcases hlines.new line hline with hline | ⟨-, hid, -⟩
    · obtain ⟨x, hx⟩ := Option.isSome_iff_exists.mp (h.owned line hline)
      rw [hfind hx]
      rfl
    · rw [hid, horders, show orders.find? order.id = some order from find?_insert_self hinsert]
      rfl
  · intro x hx
    rcases hmem hx with hx | rfl
    · obtain ⟨line, hline, hid⟩ := h.hasLine x hx
      exact ⟨line, hlines.old line hline, hid⟩
    · exact hsome
  · intro receipt hreceipt
    rw [hreceipts] at hreceipt
    obtain ⟨x, hx, hstatus⟩ := h.receipts receipt hreceipt
    exact ⟨x, hfind hx, hstatus⟩
  · intro x hx hstatus
    rcases hmem hx with hx | rfl
    · simp only [hold x hx]
      exact h.partly x hx hstatus
    · rw [hdraft] at hstatus
      cases hstatus
  · intro x hx hstatus
    rcases hmem hx with hx | rfl
    · simp only [hold x hx]
      exact h.complete x hx hstatus
    · rw [hdraft] at hstatus
      cases hstatus
  · intro t ht
    rw [htransitions] at ht
    obtain ⟨x, hx⟩ := Option.isSome_iff_exists.mp (h.logged t ht)
    rw [hfind hx]
    rfl
  · intro x hx
    rw [Store.transitionsOf, htransitions, ← Store.transitionsOf]
    rcases hmem hx with hx | rfl
    · exact h.log x hx
    · have hnone : s.transitionsOf x.id = [] := by
        rw [Store.transitionsOf, filter_eq_nil_iff]
        intro t ht hid
        rw [decide_eq_true_eq] at hid
        have hsome := h.logged t ht
        rw [hid, hfresh] at hsome
        cases hsome
      rw [hnone, hdraft]
      exact leads_nil.mpr rfl

theorem of_update (h : Staged s) {version : ℕ}
    (hupdate : update s orderId version dto = .ok s') : Staged s' := by
  obtain ⟨order, s₁, hfound, hdraft, -, rfl, hlines, hsome⟩ := update_writes hupdate
  have hreceipts : s'.receipts = s.receipts := by rw [hlines.store_eq]
  have htransitions : s'.transitions = s.transitions := by rw [hlines.store_eq]
  have horders : s'.orders = s.orders.update orderId fun o ↦ { o with
      supplierId := dto.supplierId, currency := dto.currency,
      version := o.version + 1 } := by rw [hlines.store_eq]
  have hfind : ∀ {id x}, s.orders.find? id = some x → ∃ y, s'.orders.find? id = some y ∧
      y.status = x.status := by
    intro id x hx
    rw [horders, find?_update, hx, Option.map_some]
    refine ⟨_, rfl, ?_⟩
    split <;> rfl
  have hmem : ∀ {x}, x ∈ s'.orders.rows → ∃ y ∈ s.orders.rows, y.id = x.id ∧
      y.status = x.status := by
    intro x hx
    rw [horders] at hx
    obtain ⟨y, hy, hid, hsame, hother⟩ := exists_of_mem_update hx
    refine ⟨y, hy, hid, ?_⟩
    by_cases hkey : y.id = orderId
    · rw [hsame hkey]
    · rw [hother hkey]
  -- the lines of the other orders are those they had
  have hold : ∀ id, id ≠ orderId → ∀ line, line ∈ s'.linesOf id ↔ line ∈ s.linesOf id := by
    intro id hne line
    rw [Store.mem_linesOf, Store.mem_linesOf]
    refine and_congr_left fun hid ↦ ⟨fun hline ↦ ?_, fun hline ↦ ?_⟩
    · rcases hlines.new line hline with hline | ⟨-, hnew, -⟩
      · exact (Table.mem_delete.mp hline).1
      · exact absurd (hid.symm.trans hnew) hne
    · exact hlines.old line (Table.mem_delete.mpr ⟨hline, fun heq ↦ hne (hid.symm.trans heq)⟩)
  have hnot : ∀ x ∈ s.orders.rows, x.status ≠ .DRAFT → x.id ≠ orderId := by
    rintro x hx hstatus rfl
    rw [show s.orders.find? x.id = some x from find?_key_of_mem hx] at hfound
    cases hfound
    exact hstatus hdraft
  refine ⟨?_, ?_, ?_, ?_, ?_, ?_, ?_⟩
  · intro line hline
    rcases hlines.new line hline with hline | ⟨-, hid, -⟩
    · obtain ⟨x, hx⟩ := Option.isSome_iff_exists.mp (h.owned line (Table.mem_delete.mp hline).1)
      obtain ⟨y, hy, -⟩ := hfind hx
      rw [hy]
      rfl
    · obtain ⟨y, hy, -⟩ := hfind hfound
      rw [hid, hy]
      rfl
  · intro x hx
    obtain ⟨y, hy, hid, -⟩ := hmem hx
    by_cases hne : x.id = orderId
    · rw [hne]
      exact hsome
    · obtain ⟨line, hline, hof⟩ := h.hasLine y hy
      have hline' := (hold x.id hne line).mpr (Store.mem_linesOf.mpr ⟨hline, hof.trans hid⟩)
      exact ⟨line, Store.mem_linesOf.mp hline'⟩
  · intro receipt hreceipt
    rw [hreceipts] at hreceipt
    obtain ⟨x, hx, hstatus⟩ := h.receipts receipt hreceipt
    obtain ⟨y, hy, hsame⟩ := hfind hx
    exact ⟨y, hy, by rw [hsame]; exact hstatus⟩
  · intro x hx hstatus
    obtain ⟨y, hy, hid, hsame⟩ := hmem hx
    have hne := hnot y hy (by rw [hsame, hstatus]; decide)
    rw [← hid]
    simp only [hold y.id hne]
    exact h.partly y hy (hsame.trans hstatus)
  · intro x hx hstatus
    obtain ⟨y, hy, hid, hsame⟩ := hmem hx
    have hne := hnot y hy (by rw [hsame, hstatus]; decide)
    rw [← hid]
    simp only [hold y.id hne]
    exact h.complete y hy (hsame.trans hstatus)
  · intro t ht
    rw [htransitions] at ht
    obtain ⟨x, hx⟩ := Option.isSome_iff_exists.mp (h.logged t ht)
    obtain ⟨y, hy, -⟩ := hfind hx
    rw [hy]
    rfl
  · intro x hx
    obtain ⟨y, hy, hid, hsame⟩ := hmem hx
    rw [Store.transitionsOf, htransitions, ← Store.transitionsOf, ← hid, ← hsame]
    exact h.log y hy

/-- **A new status of one order**, with its entry in the log when it is a new one. -/
theorem of_status (h : Staged s)
    (status : PurchaseOrderStatus) (f : PurchaseOrder → PurchaseOrder) (hf : ∀ o, (f o).id = o.id)
    (hfound : s.orders.find? orderId = some order) (hstatus : ∀ o, (f o).status = status)
    (horders : s'.orders = s.orders.update orderId f hf)
    (hlines : (∀ line ∈ s.lines.rows, ∃ line' ∈ s'.lines.rows,
        line'.purchaseOrderId = line.purchaseOrderId) ∧
      (∀ line' ∈ s'.lines.rows, ∃ line ∈ s.lines.rows,
        line.purchaseOrderId = line'.purchaseOrderId) ∧
      ∀ line, line.purchaseOrderId ≠ orderId → (line ∈ s'.lines.rows ↔ line ∈ s.lines.rows))
    (hlog : (status = order.status ∧ s'.transitions = s.transitions) ∨
      ∃ t, t.purchaseOrderId = orderId ∧ t.fromStatus = order.status ∧ t.toStatus = status ∧
        s.transitions.insert t = some s'.transitions)
    (hreceipts : ∀ receipt ∈ s'.receipts.rows, receipt ∈ s.receipts.rows ∨
      receipt.purchaseOrderId = orderId)
    (hlast : ∀ receipt ∈ s'.receipts.rows, receipt.purchaseOrderId = orderId →
      status = .PARTIALLY_RECEIVED ∨ status = .RECEIVED)
    (hpartly : status = .PARTIALLY_RECEIVED →
      (∃ line ∈ s'.linesOf orderId, 0 < line.receivedQuantity) ∧
        ∃ line ∈ s'.linesOf orderId, line.receivedQuantity < line.quantity)
    (hcomplete : status = .RECEIVED →
      ∀ line ∈ s'.linesOf orderId, line.quantity ≤ line.receivedQuantity) : Staged s' := by
  obtain ⟨hforth, hback, hothers⟩ := hlines
  have hsome : ∀ {id}, (s.orders.find? id).isSome → (s'.orders.find? id).isSome := by
    intro id hid
    rw [horders, find?_update, Option.isSome_map]
    exact hid
  have hfind : ∀ {id x}, id ≠ orderId → s.orders.find? id = some x →
      s'.orders.find? id = some x := by
    intro id x hne hx
    rw [horders, find?_update_of_ne hne]
    exact hx
  have hself : s'.orders.find? orderId = some (f order) := by
    rw [horders, find?_update_self, hfound, Option.map_some]
  have hmem : ∀ {x}, x ∈ s'.orders.rows → (x = f order ∧ x.id = orderId) ∨
      (x ∈ s.orders.rows ∧ x.id ≠ orderId) := by
    intro x hx
    rw [horders] at hx
    obtain ⟨y, hy, hid, hsame, hother⟩ := exists_of_mem_update hx
    by_cases hkey : y.id = orderId
    · subst hkey
      have hyx : s.orders.find? y.id = some y := find?_key_of_mem hy
      rw [hyx] at hfound
      cases hfound
      exact .inl ⟨hsame rfl, hid.symm⟩
    · rw [hother hkey]
      exact .inr ⟨hy, hkey⟩
  have hold : ∀ id, id ≠ orderId → ∀ line, line ∈ s'.linesOf id ↔ line ∈ s.linesOf id := by
    intro id hne line
    rw [Store.mem_linesOf, Store.mem_linesOf]
    exact and_congr_left fun hid ↦ hothers line fun heq ↦ hne (hid.symm.trans heq)
  refine ⟨?_, ?_, ?_, ?_, ?_, ?_, ?_⟩
  · intro line' hline'
    obtain ⟨line, hline, hid⟩ := hback line' hline'
    exact hsome (hid ▸ h.owned line hline)
  · intro x hx
    have hline : ∃ line ∈ s.lines.rows, line.purchaseOrderId = x.id := by
      rcases hmem hx with ⟨-, hid⟩ | ⟨hx, -⟩
      · obtain ⟨line, hline, hof⟩ := h.hasLine order (mem_of_find? hfound)
        exact ⟨line, hline, hof.trans ((key_of_find? hfound).trans hid.symm)⟩
      · exact h.hasLine x hx
    obtain ⟨line, hline, hof⟩ := hline
    obtain ⟨line', hline', hid⟩ := hforth line hline
    exact ⟨line', hline', hid.trans hof⟩
  · intro receipt hreceipt
    by_cases hid : receipt.purchaseOrderId = orderId
    · exact ⟨f order, hid ▸ hself, by rw [hstatus]; exact hlast receipt hreceipt hid⟩
    · obtain ⟨x, hx, hx'⟩ := h.receipts receipt ((hreceipts receipt hreceipt).resolve_right hid)
      exact ⟨x, hfind hid hx, hx'⟩
  · intro x hx hx'
    rcases hmem hx with ⟨rfl, hid⟩ | ⟨hx, hne⟩
    · rw [hid]
      exact hpartly ((hstatus order).symm.trans hx')
    · simp only [hold x.id hne]
      exact h.partly x hx hx'
  · intro x hx hx'
    rcases hmem hx with ⟨rfl, hid⟩ | ⟨hx, hne⟩
    · rw [hid]
      exact hcomplete ((hstatus order).symm.trans hx')
    · simp only [hold x.id hne]
      exact h.complete x hx hx'
  · intro t ht
    rcases hlog with ⟨-, hsame⟩ | ⟨t', hof, -, -, hinsert⟩
    · rw [hsame] at ht
      exact hsome (h.logged t ht)
    · rcases (mem_insert hinsert).mp ht with ht | rfl
      · exact hsome (h.logged t ht)
      · rw [hof, hself]
        rfl
  · intro x hx
    have horder := h.log order (mem_of_find? hfound)
    rw [show order.id = orderId from key_of_find? hfound] at horder
    rcases hlog with ⟨hsame, htransitions⟩ | ⟨t, hof, hfrom, hto, hinsert⟩
    · rw [Store.transitionsOf, htransitions, ← Store.transitionsOf]
      rcases hmem hx with ⟨rfl, hid⟩ | ⟨hx, -⟩
      · rw [hid, hstatus, hsame]
        exact horder
      · exact h.log x hx
    · rw [transitionsOf_insert hinsert rfl]
      rcases hmem hx with ⟨rfl, hid⟩ | ⟨hx, hne⟩
      · rw [hid, if_pos hof, hstatus, ← hto]
        exact horder.concat hfrom
      · rw [if_neg (fun heq ↦ hne (heq.symm.trans hof)), append_nil]
        exact h.log x hx

theorem of_transition (h : Staged s) (hfrom : ∀ status ∈ input.fromStatuses,
      ¬(status = .PARTIALLY_RECEIVED ∨ status = .RECEIVED))
    (hto : ¬(input.toStatus = .PARTIALLY_RECEIVED ∨ input.toStatus = .RECEIVED))
    (htransition : transition s input = .ok s') : Staged s' := by
  rcases transition_writes htransition with
    rfl | ⟨order, t, transitions, hfound, hstatus, hof, htfrom, htto, hinsert, rfl⟩
  · exact h
  have hid : order.id = input.orderId := key_of_find? hfound
  refine h.of_status input.toStatus _ (fun _ ↦ by rfl) hfound (fun _ ↦ rfl) rfl ?_
    (.inr ⟨t, hof, htfrom, htto, hinsert⟩) (fun _ hreceipt ↦ .inl hreceipt) ?_ ?_ ?_
  · exact ⟨fun line hline ↦ ⟨line, hline, rfl⟩, fun line hline ↦ ⟨line, hline, rfl⟩,
      fun _ _ ↦ Iff.rfl⟩
  · intro receipt hreceipt hreceiptOf
    exact absurd (h.status_of_receipt (mem_of_find? hfound) hreceipt
      (hreceiptOf.trans hid.symm)) (hfrom _ hstatus)
  · exact fun heq ↦ absurd (.inl heq) hto
  · exact fun heq ↦ absurd (.inr heq) hto

end Staged

/-! ### The last statuses -/

/-- **The last statuses are kept**: an order that is received or cancelled stays so. -/
def KeepsLast (s s' : Store) : Prop :=
  ∀ id order, s.orders.find? id = some order →
    order.status = .RECEIVED ∨ order.status = .CANCELLED →
    ∃ order', s'.orders.find? id = some order' ∧ order'.status = order.status

namespace KeepsLast

variable {s₁ : Store}

theorem refl (s : Store) : KeepsLast s s :=
  fun _ _ hfound _ ↦ ⟨_, hfound, rfl⟩

theorem trans (h : KeepsLast s s₁) (h' : KeepsLast s₁ s') : KeepsLast s s' := by
  intro id order hfound hlast
  obtain ⟨order₁, hfound₁, hstatus₁⟩ := h id order hfound hlast
  obtain ⟨order', hfound', hstatus'⟩ := h' id order₁ hfound₁ (by rw [hstatus₁]; exact hlast)
  exact ⟨order', hfound', hstatus'.trans hstatus₁⟩

theorem of_update (f : PurchaseOrder → PurchaseOrder)
    (hf : ∀ o, (f o).id = o.id) (hfound : s.orders.find? orderId = some order)
    (horders : s'.orders = s.orders.update orderId f hf)
    (h : order.status = .RECEIVED ∨ order.status = .CANCELLED →
      (f order).status = order.status) : KeepsLast s s' := by
  intro id x hx hlast
  rw [horders, find?_update, hx, Option.map_some]
  by_cases hid : id = orderId
  · rw [hid, hfound] at hx
    cases hx
    rw [if_pos hid]
    exact ⟨_, rfl, h hlast⟩
  · rw [if_neg hid]
    exact ⟨x, rfl, rfl⟩

theorem of_transition
    (hfrom : ∀ status ∈ input.fromStatuses, ¬(status = .RECEIVED ∨ status = .CANCELLED))
    (htransition : transition s input = .ok s') : KeepsLast s s' := by
  rcases transition_writes htransition with
    rfl | ⟨order, t, transitions, hfound, hstatus, -, -, -, -, rfl⟩
  · exact refl _
  · exact of_update _ (fun _ ↦ by rfl) hfound rfl fun hlast ↦ absurd hlast (hfrom _ hstatus)

end KeepsLast

/-! ### The receipt as a whole -/

theorem progressStatus_eq (s : Store) (orderId : Uuid) : (s.progressStatus orderId = .RECEIVED ∧
      ∀ line ∈ s.linesOf orderId, line.quantity ≤ line.receivedQuantity) ∨
    (s.progressStatus orderId = .PARTIALLY_RECEIVED ∧
      ∃ line ∈ s.linesOf orderId, line.receivedQuantity < line.quantity) := by
  rw [Store.progressStatus]
  split
  case isTrue hnone =>
    refine .inl ⟨rfl, fun line hline ↦ ?_⟩
    have := countP_eq_zero.mp hnone line hline
    simpa using this
  case isFalse hsome =>
    obtain ⟨line, hline, hless⟩ := countP_pos_iff.mp (Nat.pos_of_ne_zero hsome)
    exact .inr ⟨rfl, line, hline, by simpa using hless⟩

theorem ready_requested {requested : List RequestedLine}
    (hrequested : lines.mapM (requestLine s orderId) = .ok requested)
    (hnodup : (lines.map ReceivedLine.purchaseOrderLineId).Nodup) :
    (∀ item ∈ requested, Ready orderId s item) ∧
      (requested.map fun item ↦ item.orderLine.id).Nodup := by
  constructor
  · intro item hitem
    obtain ⟨line, -, hline⟩ := exists_of_mem_mapM hrequested hitem
    obtain ⟨hfound, hof, -, hoverage⟩ := requestLine_writes hline
    exact ⟨hfound, hof, hoverage⟩
  · rw [map_mapM (g := ReceivedLine.purchaseOrderLineId)
      (fun line item hline ↦ (requestLine_writes hline).2.2.1) hrequested]
    exact hnodup

/-- **A receipt** keeps the invariant, and the last statuses. -/
theorem receive_keeps (hbooked : Booked s) (hstaged : Staged s) {input : ReceiptInput}
    (hne : lines ≠ []) (hnodup : (lines.map ReceivedLine.purchaseOrderLineId).Nodup)
    (hreceive : receive s input lines = .ok s') : Booked s' ∧ Staged s' ∧ KeepsLast s s' := by
  rcases receive_writes hreceive with
    rfl | ⟨order, requested, receipt, receipts, s₁, hfound, hstatus, hrequested, hof, hinsert,
      hloop,
      hfinish⟩
  · exact ⟨hbooked, hstaged, KeepsLast.refl _⟩
  obtain ⟨hready, hdistinct⟩ := ready_requested hrequested hnodup
  have hrows : requested ≠ [] := by
    rintro rfl
    exact hne (length_eq_zero_iff.mp (mapM_eq_ok hrequested).length_eq)
  have hentries : requested.zipIdx.map (fun entry ↦ entry.1.orderLine.id) =
      requested.map fun item ↦ item.orderLine.id := by
    conv_rhs => rw [← zipIdx_map_fst 0 requested, map_map]
    rfl
  have hreceipt : receipts.find? receipt.id = some receipt := find?_insert_self hinsert
  have hbooked₀ : Booked { s with drawn := s.drawn + 1, receipts := receipts } :=
    hbooked.of_receipt hinsert
  obtain ⟨hbooked₁, hreceives, hrow⟩ := booked_loop hbooked₀ hreceipt
    (by
      intro entry hentry
      have hitem := hready entry.1 (fst_mem_of_mem_zipIdx hentry)
      rw [hof]
      exact ⟨hitem.found, hitem.ofOrder, hitem.overage⟩)
    (by rw [hentries]; exact hdistinct) hloop
  rw [hof] at hreceives
  obtain ⟨l, hl, hlof⟩ := hrow (by rw [ne_eq, zipIdx_eq_nil_iff]; exact hrows)
  have horders : s₁.orders = s.orders := by rw [hreceives.store_eq]
  have htransitions : s₁.transitions = s.transitions := by rw [hreceives.store_eq]
  have hreceipts : s₁.receipts = receipts := by rw [hreceives.store_eq]
  -- something has been received on the order
  have hsome : ∃ line ∈ s₁.linesOf input.orderId, 0 < line.receivedQuantity := by
    obtain ⟨r, line, hr, hline, hlineOf⟩ := hbooked₁.linked l hl
    rw [hlof, hreceipts, show receipts.find? receipt.id = some receipt from
      find?_insert_self hinsert] at hr
    cases hr
    exact ⟨line, Store.mem_linesOf.mpr ⟨mem_of_find? hline, hlineOf.trans hof⟩,
      hbooked₁.received_pos hl hline⟩
  obtain ⟨transitions, drawn, hlog, rfl⟩ := finishReceipt_writes hfinish
  have hupdate : s₁.orders.update input.orderId (fun o ↦ { o with
      status := s₁.progressStatus input.orderId
      version := o.version + 1 }) = s.orders.update input.orderId fun o ↦ { o with
      status := s₁.progressStatus input.orderId, version := o.version + 1 } := by rw [horders]
  rw [htransitions] at hlog
  refine ⟨hbooked₁.congr rfl rfl rfl, ?_, ?_⟩
  case refine_2 =>
    refine KeepsLast.of_update _ (fun _ ↦ by rfl) hfound hupdate fun hlast ↦ ?_
    rcases hlast with hlast | hlast
    · rw [hlast]
      rcases progressStatus_eq s₁ input.orderId with ⟨hall, -⟩ | ⟨-, line', hline', hless⟩
      · exact hall
      -- what was complete before the receipt is complete after it
      · obtain ⟨hmem', hof'⟩ := Store.mem_linesOf.mp hline'
        obtain ⟨line, hline, hlineOf, hquantity, hle⟩ := hreceives.back line' hmem'
        have hid : order.id = input.orderId := key_of_find? hfound
        have := hstaged.complete order (mem_of_find? hfound) hlast line
          (Store.mem_linesOf.mpr ⟨hline, hlineOf.trans (hof'.trans hid.symm)⟩)
        omega
    · rw [hlast] at hstatus
      exact absurd hstatus (by decide)
  refine hstaged.of_status (s₁.progressStatus input.orderId) _ (fun _ ↦ by rfl) hfound (fun _ ↦ rfl)
    hupdate ?_ hlog ?_ ?_ ?_ ?_
  · refine ⟨hreceives.forth, fun line' hline' ↦ ?_, hreceives.others⟩
    obtain ⟨line, hline, hlineOf, -⟩ := hreceives.back line' hline'
    exact ⟨line, hline, hlineOf⟩
  · intro r hr
    rw [show _ = receipts from hreceipts] at hr
    rcases (mem_insert hinsert).mp hr with hr | rfl
    · exact .inl hr
    · exact .inr hof
  · intro r _ _
    rcases progressStatus_eq s₁ input.orderId with ⟨hstatus, -⟩ | ⟨hstatus, -⟩
    · exact .inr hstatus
    · exact .inl hstatus
  · intro hstatus
    rcases progressStatus_eq s₁ input.orderId with ⟨hother, -⟩ | ⟨-, hless⟩
    · rw [hother] at hstatus
      cases hstatus
    · exact ⟨hsome, hless⟩
  · intro hstatus
    rcases progressStatus_eq s₁ input.orderId with ⟨-, hall⟩ | ⟨hother, -⟩
    · exact hall
    · rw [hother] at hstatus
      cases hstatus

/-! ### Every transaction -/

/-- **The invariant**, from the point of view of an earlier state of the orders. -/
structure Consistent (earlier s : Store) : Prop where
  booked : Booked s
  staged : Staged s
  keepsLast : KeepsLast earlier s

/-- A receipt knows before its transaction that its lines are there and pairwise different. -/
def KnownLines (decision : Decision) : Prop :=
  ∀ lines, decision = .receive lines →
    lines ≠ [] ∧ (lines.map ReceivedLine.purchaseOrderLineId).Nodup

theorem readReceiptLine_id {line : ReceiptLineInput} {received : ReceivedLine}
    (h : readReceiptLine s orderId line = .ok received) :
    received.purchaseOrderLineId = line.purchaseOrderLineId := by
  simp only [readReceiptLine, eq_ok] at h
  obtain ⟨-, -, -, -, rfl⟩ := h
  rfl

theorem knownLines_of_read (h : protocol.read request s = .ok decision) : KnownLines decision := by
  rintro lines rfl
  cases request with
  | receive input =>
    change (readReceipt s input).map Decision.receive = _ at h
    cases hread : readReceipt s input with
    | error e =>
      rw [hread] at h
      cases h
    | ok received =>
      rw [hread] at h
      cases h
      simp only [readReceipt, eq_ok] at hread
      obtain ⟨-, hnodup, hlines⟩ := hread
      constructor
      · rintro rfl
        exact input.lines_ne (length_eq_zero_iff.mp (mapM_eq_ok hlines).length_eq)
      · rw [map_mapM (fun _ _ hline ↦ readReceiptLine_id hline) hlines]
        exact hnodup
  | approve input | send input | cancel input =>
    obtain ⟨replayed, -, h⟩ := bind_eq_ok.mp h
    cases replayed <;> cases h
  | create | update | elsewhere => cases h

namespace Consistent

variable {earlier : Store}

theorem of_transition (h : Consistent earlier s)
    (hfrom : ∀ status ∈ input.fromStatuses, status ∈ [PurchaseOrderStatus.DRAFT, .APPROVED, .SENT])
    (hto : input.toStatus ∈ [PurchaseOrderStatus.APPROVED, .SENT, .CANCELLED])
    (htransition : transition s input = .ok s') : Consistent earlier s' := by
  refine ⟨?_, h.staged.of_transition ?_ ?_ htransition,
    h.keepsLast.trans (KeepsLast.of_transition ?_ htransition)⟩
  · rcases transition_writes htransition with rfl | ⟨order, t, transitions, -, -, -, -, -, -, rfl⟩
    · exact h.booked
    · exact h.booked.congr rfl rfl rfl
  · intro status hstatus hlast
    have := hfrom status hstatus
    rcases hlast with rfl | rfl <;> revert this <;> decide
  · intro hlast
    rcases hlast with hlast | hlast <;> rw [hlast] at hto <;> revert hto <;> decide
  · intro status hstatus hlast
    have := hfrom status hstatus
    rcases hlast with rfl | rfl <;> revert this <;> decide

theorem of_write (h : Consistent earlier s)
    (hknown : KnownLines decision) (hwrite : protocol.write request decision s = .ok s') :
    Consistent earlier s' := by
  have hsame : (pure s : Except Failure Store) = .ok s' → Consistent earlier s' := by
    intro hpure
    rw [pure_eq_ok] at hpure
    exact hpure ▸ h
  cases request with
  | create dto =>
    cases decision with
    | go =>
      obtain ⟨order, orders, s₁, -, hinsert, rfl, hlines, -⟩ := create_writes hwrite
      refine ⟨?_, h.staged.of_create hwrite, h.keepsLast.trans fun _ _ hfound _ ↦ ?_⟩
      · have hbooked : Booked { s with drawn := s.drawn + 1, orders := orders } :=
          h.booked.congr rfl rfl rfl
        exact hbooked.of_insertedLines hlines
      · have horders : s'.orders = orders := by rw [hlines.store_eq]
        rw [horders]
        exact ⟨_, find?_insert_of_some hinsert hfound, rfl⟩
    | replay | receive => exact hsame hwrite
  | update orderId version dto =>
    cases decision with
    | go =>
      obtain ⟨order, s₁, hfound, -, hkeep, rfl, hlines, -⟩ := update_writes hwrite
      refine ⟨?_, h.staged.of_update hwrite, h.keepsLast.trans ?_⟩
      · exact Booked.of_insertedLines (h.booked.of_deletedLines hkeep _) hlines
      · have horders : s'.orders = s.orders.update orderId fun o ↦ { o with
            supplierId := dto.supplierId, currency := dto.currency,
            version := o.version + 1 } := by rw [hlines.store_eq]
        exact KeepsLast.of_update _ (fun _ ↦ by rfl) hfound horders fun _ ↦ rfl
    | replay | receive => exact hsame hwrite
  | approve input =>
    cases decision with
    | go =>
      refine h.of_transition (show ∀ status ∈ [PurchaseOrderStatus.DRAFT], _ from ?_)
        (show PurchaseOrderStatus.APPROVED ∈ _ from ?_) hwrite <;> decide
    | replay | receive => exact hsame hwrite
  | send input recipient =>
    cases decision with
    | go =>
      refine h.of_transition (show ∀ status ∈ [PurchaseOrderStatus.APPROVED], _ from ?_)
        (show PurchaseOrderStatus.SENT ∈ _ from ?_) hwrite <;> decide
    | replay | receive => exact hsame hwrite
  | cancel input =>
    cases decision with
    | go =>
      refine h.of_transition
        (show ∀ status ∈ [PurchaseOrderStatus.DRAFT, .APPROVED, .SENT], _ from ?_)
        (show PurchaseOrderStatus.CANCELLED ∈ _ from ?_) hwrite <;> decide
    | replay | receive => exact hsame hwrite
  | receive input =>
    cases decision with
    | receive lines =>
      obtain ⟨hne, hnodup⟩ := hknown lines rfl
      obtain ⟨hbooked, hstaged, hlast⟩ := receive_keeps h.booked h.staged hne hnodup hwrite
      exact ⟨hbooked, hstaged, h.keepsLast.trans hlast⟩
    | go | replay => exact hsame hwrite
  | «elsewhere» catalog stock =>
    cases decision with
    | go =>
      have heq := pure_eq_ok.mp hwrite
      subst heq
      exact ⟨h.booked.congr rfl rfl rfl, h.staged.congr rfl rfl rfl rfl,
        h.keepsLast.trans fun _ _ hfound _ ↦ ⟨_, hfound, rfl⟩⟩
    | replay | receive => exact hsame hwrite

end Consistent

theorem consistent_protocol (earlier : Store) :
    LockedRuns.Sound protocol (fun _ _ _ ↦ True) (Consistent earlier) fun _ decision _ ↦
      KnownLines decision where
  read := fun _ hread ↦ knownLines_of_read hread
  write := fun h hknown _ hwrite ↦ h.of_write hknown hwrite
  reread := fun _ hknown hread ↦ Except.ok.inj hread ▸ hknown
  stable := fun _ hknown _ _ _ _ ↦ hknown

theorem consistent_fresh (env : Env) (catalog : Catalog) (stock : UInventario.Store) :
    Consistent (Store.fresh env catalog stock) (Store.fresh env catalog stock) := by
  refine ⟨⟨?_, ?_, ?_, ?_, ?_⟩, ⟨?_, ?_, ?_, ?_, ?_, ?_, ?_⟩, KeepsLast.refl _⟩ <;>
    exact forall_mem_nil _

/-- **The progress of purchase orders.** In every run, lines, status and log say what the receipts
say; and an end stays. -/
theorem purchase_order_progress (env : Env) (catalog : Catalog) (stock : UInventario.Store)
    (events later : List (Event Request)) :
    let s := (Outcome.run protocol.step (.idle (Store.fresh env catalog stock)) events).store
    ∀ order ∈ s.orders.rows, Progress s order ∧
      (order.status = .RECEIVED ∨ order.status = .CANCELLED →
        ∃ order', (Outcome.run protocol.step (.idle (Store.fresh env catalog stock))
            (events ++ later)).store.orders.find? order.id = some order' ∧
          order'.status = order.status) := by
  intro s order horder
  have hgood := (consistent_protocol (Store.fresh env catalog stock)).run
    (Good.idle (consistent_fresh env catalog stock)) events
    (commits_of_forall (fun _ _ _ ↦ trivial) _ _)
  refine ⟨hgood.inv.staged.progress hgood.inv.booked horder, fun hlast ↦ ?_⟩
  -- the later events start from the state reached, which is then the earlier one
  have hnow : Good protocol (Consistent s) (fun _ decision _ ↦ KnownLines decision)
      (Outcome.run protocol.step (.idle (Store.fresh env catalog stock)) events) :=
    ⟨⟨hgood.inv.booked, hgood.inv.staged, KeepsLast.refl _⟩, hgood.known, hgood.exclusive⟩
  have hlater := (consistent_protocol s).run hnow later
    (commits_of_forall (fun _ _ _ ↦ trivial) _ _)
  rw [Outcome.run_append]
  exact hlater.inv.keepsLast _ _ (Table.find?_key_of_mem horder) hlast

end UInventario.Procurement
