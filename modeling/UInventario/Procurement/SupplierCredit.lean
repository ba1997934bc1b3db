import UInventario.Procurement.PurchaseReturns

/-!
# What a supplier owes for what has been returned

In every state that the requests reach, what has been returned of a line of a receipt is at most
what has been received, and the credit of a return is the sum of its lines. Whether the credits of a
line stay within what has been paid for it is a question of roundings, since each return is rounded
on its own and the receipt once (`supplier_credit_iff`): with `roundingGain`, what rounding to a
cent adds, the gains of the returns together are to be at most the gain of the receipt and the price
of what is left.

The invariant is `Credited`: every row is priced by its quantity, and no line is returned beyond its
receipt. The loop of a return keeps the first part of it, `Priced` (`priced_loop`).
-/

namespace UInventario.Procurement

open Outcome LockedRuns Table List

/-! ### Credits -/

namespace ReturnStore

def creditedOn (s : ReturnStore) (lineId : Uuid) : ℤ :=
  s.returnLines.total fun l ↦ if l.purchaseReceiptLineId = lineId then l.totalCost else 0

def creditOf (s : ReturnStore) (returnId : Uuid) : ℤ :=
  s.returnLines.total fun l ↦ if l.purchaseReturnId = returnId then l.totalCost else 0

end ReturnStore

/-- **Supplier credit is within what was paid**, and complete when all is returned. -/
structure SupplierCredit (s : ReturnStore) : Prop where
  quantity : ∀ l ∈ s.receiptLines.rows, s.returnedOn l.id ≤ l.receivedQuantity
  cost : ∀ l ∈ s.receiptLines.rows, s.creditedOn l.id ≤ l.totalCost
  complete : ∀ l ∈ s.receiptLines.rows, s.returnedOn l.id = l.receivedQuantity →
    s.creditedOn l.id = l.totalCost
  total : ∀ r ∈ s.returns.rows, r.expectedCreditTotal = s.creditOf r.id

/-- What rounding to a cent adds to the price of a quantity, in thousandths of a cent: less than
half a cent either way. -/
def roundingGain (unitCost quantity : ℤ) : ℤ :=
  500 - (quantity * unitCost + 500) % 1000

def ReturnStore.gainOn (s : ReturnStore) (line : ReceiptLine) : ℤ :=
  s.returnLines.total fun l ↦
    if l.purchaseReceiptLineId = line.id then roundingGain line.unitCost l.returnedQuantity else 0

/-- **The roundings of the returned quantities fit that of the received one.** -/
structure RoundsWithin (s : ReturnStore) (line : ReceiptLine) : Prop where
  within : s.gainOn line ≤ roundingGain line.unitCost line.receivedQuantity +
    (line.receivedQuantity - s.returnedOn line.id) * line.unitCost
  complete : s.returnedOn line.id = line.receivedQuantity →
    s.gainOn line = roundingGain line.unitCost line.receivedQuantity

theorem lineCost_eq (quantity unitCost : ℤ) :
    1000 * lineCost quantity unitCost = quantity * unitCost + roundingGain unitCost quantity := by
  rw [lineCost, roundingGain]
  omega

theorem receiptCost_eq (quantity unitCost : ℤ) :
    1000 * receiptCost quantity unitCost = quantity * unitCost + roundingGain unitCost quantity :=
  lineCost_eq quantity unitCost

/-! ### The invariant -/

/-- **Every row is priced by its quantity**, and nothing is returned beyond its receipt. -/
structure Priced (s : ReturnStore) : Prop where
  receipt : ∀ l ∈ s.receiptLines.rows, l.totalCost = receiptCost l.receivedQuantity l.unitCost
  line : ∀ l ∈ s.returnLines.rows, ∃ r ∈ s.receiptLines.rows, r.id = l.purchaseReceiptLineId ∧
    l.totalCost = lineCost l.returnedQuantity r.unitCost
  capped : ∀ l ∈ s.receiptLines.rows, s.returnedOn l.id ≤ l.receivedQuantity

/-- The rows are priced, and the credit of every return is that of its lines. -/
structure Credited (s : ReturnStore) : Prop where
  priced : Priced s
  owned : ∀ l ∈ s.returnLines.rows, ∃ r ∈ s.returns.rows, r.id = l.purchaseReturnId
  total : ∀ r ∈ s.returns.rows, r.expectedCreditTotal = s.creditOf r.id

variable {s s' : ReturnStore}

namespace Priced

variable {line : ReceiptLine}

section

variable (h : Priced s) (hline : line ∈ s.receiptLines.rows)
include h hline

theorem creditedOn_eq :
    1000 * s.creditedOn line.id = s.returnedOn line.id * line.unitCost + s.gainOn line := by
  rw [ReturnStore.creditedOn, ReturnStore.returnedOn, ReturnStore.gainOn, ← total_mul,
    mul_comm (Table.total _ _), ← total_mul, ← total_add]
  apply total_congr
  intro l hl
  by_cases hid : l.purchaseReceiptLineId = line.id
  · obtain ⟨r, hr, hrid, hcost⟩ := h.line l hl
    obtain rfl : r = line := eq_of_mem_of_key_eq hr hline (hrid.trans hid)
    rw [if_pos hid, if_pos hid, if_pos hid, hcost, lineCost_eq, mul_comm l.returnedQuantity]
  · rw [if_neg hid, if_neg hid, if_neg hid, mul_zero, mul_zero, add_zero]

theorem cost_iff :
    s.creditedOn line.id ≤ line.totalCost ↔
      s.gainOn line ≤ roundingGain line.unitCost line.receivedQuantity +
        (line.receivedQuantity - s.returnedOn line.id) * line.unitCost := by
  have hcredited := h.creditedOn_eq hline
  have hpaid := receiptCost_eq line.receivedQuantity line.unitCost
  rw [← h.receipt line hline] at hpaid
  rw [sub_mul]
  omega

theorem complete_iff (hall : s.returnedOn line.id = line.receivedQuantity) :
    s.creditedOn line.id = line.totalCost ↔
      s.gainOn line = roundingGain line.unitCost line.receivedQuantity := by
  have hcredited := h.creditedOn_eq hline
  have hpaid := receiptCost_eq line.receivedQuantity line.unitCost
  rw [← h.receipt line hline] at hpaid
  rw [hall] at hcredited
  omega

end

end Priced

/-- **Within what was paid exactly when the roundings fit.** -/
theorem Credited.supplierCredit_iff (h : Credited s) :
    SupplierCredit s ↔ ∀ line ∈ s.receiptLines.rows, RoundsWithin s line := by
  constructor
  · intro hs line hline
    exact ⟨(h.priced.cost_iff hline).mp (hs.cost line hline),
      fun hall ↦ (h.priced.complete_iff hline hall).mp (hs.complete line hline hall)⟩
  · intro hs
    refine ⟨h.priced.capped, ?_, ?_, h.total⟩
    · exact fun line hline ↦ (h.priced.cost_iff hline).mpr (hs line hline).within
    · exact fun line hline hall ↦
        (h.priced.complete_iff hline hall).mpr ((hs line hline).complete hall)

/-- **The roundings fit** when every return is worth a whole number of cents. -/
theorem roundsWithin_of_whole {line : ReceiptLine}
    (hcap : s.returnedOn line.id ≤ line.receivedQuantity) (hcost : 0 ≤ line.unitCost)
    (hwhole : ∀ l ∈ s.returnLines.rows, l.purchaseReceiptLineId = line.id →
      1000 ∣ l.returnedQuantity * line.unitCost) : RoundsWithin s line := by
  have hgain : s.gainOn line = 0 := by
    refine total_eq_zero fun l hl ↦ ?_
    split
    case isTrue hid =>
      have hdvd := hwhole l hl hid
      rw [roundingGain]
      omega
    case isFalse => rfl
  have hdvd : 1000 ∣ s.returnedOn line.id * line.unitCost := by
    rw [ReturnStore.returnedOn, mul_comm, ← total_mul]
    refine dvd_sum (forall_mem_map.mpr fun l hl ↦ ?_)
    split
    case isTrue hid => exact mul_comm line.unitCost _ ▸ hwhole l hl hid
    case isFalse => exact dvd_mul_of_dvd_right (dvd_zero 1000) _
  have hle := mul_le_mul_of_nonneg_right hcap hcost
  constructor
  · rw [hgain, roundingGain, sub_mul]
    omega
  · intro hall
    rw [hall] at hdvd
    rw [hgain, roundingGain]
    omega

/-! ### The requests of procurement -/

def ReceiptLine.fixed (l : ReceiptLine) : ReceiptLine :=
  { l with resultingCatalogCost := 0 }

theorem ReceiptLine.of_fixed_eq {l l' : ReceiptLine} (h : l.fixed = l'.fixed) :
    l.id = l'.id ∧ l.receivedQuantity = l'.receivedQuantity ∧ l.unitCost = l'.unitCost ∧
      l.totalCost = l'.totalCost := by
  have hid : l.fixed.id = l'.fixed.id := congrArg _ h
  have hquantity : l.fixed.receivedQuantity = l'.fixed.receivedQuantity := congrArg _ h
  have hunit : l.fixed.unitCost = l'.fixed.unitCost := congrArg _ h
  have htotal : l.fixed.totalCost = l'.fixed.totalCost := congrArg _ h
  exact ⟨hid, hquantity, hunit, htotal⟩

/-- **Receipt lines are added and not changed**; the new ones are priced by their quantity. -/
structure GrownReceipts (s s' : Store) : Prop where
  old : ∀ l ∈ s.receiptLines.rows, ∃ l' ∈ s'.receiptLines.rows, l'.fixed = l.fixed
  new : ∀ l' ∈ s'.receiptLines.rows, (∃ l ∈ s.receiptLines.rows, l.fixed = l'.fixed) ∨
    ((∀ l ∈ s.receiptLines.rows, l.id ≠ l'.id) ∧ 0 < l'.receivedQuantity ∧
      l'.totalCost = receiptCost l'.receivedQuantity l'.unitCost)

namespace GrownReceipts

variable {s s' : Store}

theorem of_eq (h : s'.receiptLines = s.receiptLines) : GrownReceipts s s' := by
  constructor
  · exact fun l hl ↦ ⟨l, h ▸ hl, rfl⟩
  · exact fun l hl ↦ .inl ⟨l, h ▸ hl, rfl⟩

theorem trans {s₁ : Store} (h : GrownReceipts s s₁) (h' : GrownReceipts s₁ s') :
    GrownReceipts s s' := by
  constructor
  · intro l hl
    obtain ⟨l₁, hl₁, hfixed₁⟩ := h.old l hl
    obtain ⟨l', hl', hfixed'⟩ := h'.old l₁ hl₁
    exact ⟨l', hl', hfixed'.trans hfixed₁⟩
  · intro l' hl'
    rcases h'.new l' hl' with ⟨l₁, hl₁, hfixed₁⟩ | ⟨hfresh, hvalues⟩
    · rcases h.new l₁ hl₁ with ⟨l, hl, hfixed⟩ | ⟨hfresh, hpositive, hcost⟩
      · exact .inl ⟨l, hl, hfixed.trans hfixed₁⟩
      · obtain ⟨hid, hquantity, hunit, htotal⟩ := ReceiptLine.of_fixed_eq hfixed₁
        refine .inr ⟨hid ▸ hfresh, hquantity ▸ hpositive, ?_⟩
        rw [← htotal, hcost, hquantity, hunit]
    · refine .inr ⟨?_, hvalues⟩
      intro l hl hid
      obtain ⟨l₁, hl₁, hfixed⟩ := h.old l hl
      exact hfresh l₁ hl₁ ((ReceiptLine.of_fixed_eq hfixed).1.trans hid)

theorem of_receiveLine {context : ReceiptContext} {entry : RequestedLine × ℕ}
    (h : receiveLine context s entry = .ok s') : GrownReceipts s s' := by
  obtain ⟨l, table, catalog, -, -, -, -, hpositive, hcost, hinsert, hs'⟩ := receiveLine_writes h
  have htable : s'.receiptLines = table.update l.id fun x ↦ { x with
      resultingCatalogCost := catalog x } := by rw [hs']
  constructor
  · intro x hx
    refine ⟨_, htable ▸ Table.mem_update.mpr ⟨x, (mem_insert hinsert).mpr (.inl hx), rfl⟩,
      ?_⟩
    split <;> rfl
  · intro x' hx'
    rw [htable] at hx'
    obtain ⟨x, hx, rfl⟩ := Table.mem_update.mp hx'
    have hfixed : ((if Keyed.key x = l.id then { x with resultingCatalogCost := catalog x } else x :
        ReceiptLine)).fixed = x.fixed := by split <;> rfl
    rcases (mem_insert hinsert).mp hx with hx | rfl
    · exact .inl ⟨x, hx, hfixed.symm⟩
    · right
      rw [if_pos (show Keyed.key x = x.id from rfl)]
      exact ⟨Table.find?_eq_none.mp (insert_eq_some hinsert).1, hpositive, hcost⟩

theorem of_receive {input : ReceiptInput} {lines : List ReceivedLine}
    (h : receive s input lines = .ok s') : GrownReceipts s s' := by
  rcases receive_writes h with rfl | ⟨order, requested, receipt, receipts, s₁, -, -, -, -, -, hloop,
    hfinish⟩
  · exact of_eq rfl
  · have hturns : GrownReceipts s s₁ := by
      have hstart : GrownReceipts s { s with drawn := s.drawn + 1, receipts := receipts } :=
        of_eq rfl
      exact foldlM_invariant
        (fun _ _ _ _ hbefore hturn ↦ hbefore.trans (of_receiveLine hturn)) hstart hloop
    obtain ⟨transitions, drawn, -, rfl⟩ := finishReceipt_writes hfinish
    exact hturns.trans (of_eq rfl)

/-- **Every request of procurement** leaves the receipt lines there are as they are. -/
theorem of_write {request : Request} {decision : Decision} (h : request.write decision s = .ok s') :
    GrownReceipts s s' := by
  have hsame : (pure s : Except Failure Store) = .ok s' → GrownReceipts s s' := by
    intro hpure
    rw [pure_eq_ok] at hpure
    exact hpure ▸ of_eq rfl
  have htransition : ∀ {input}, transition s input = .ok s' → GrownReceipts s s' := by
    intro input ht
    rcases transition_writes ht with rfl | ⟨order, t, transitions, -, -, -, -, -, -, rfl⟩
    · exact of_eq rfl
    · exact of_eq rfl
  cases request with
  | create dto =>
    cases decision with
    | go =>
      obtain ⟨order, orders, s₁, -, -, rfl, hlines, -⟩ := create_writes h
      exact of_eq (by rw [hlines.store_eq])
    | replay | receive => exact hsame h
  | update orderId version dto =>
    cases decision with
    | go =>
      obtain ⟨order, s₁, -, -, -, rfl, hlines, -⟩ := update_writes h
      exact of_eq (by rw [hlines.store_eq])
    | replay | receive => exact hsame h
  | approve input | send input recipient | cancel input =>
    cases decision with
    | go => exact htransition h
    | replay | receive => exact hsame h
  | receive input =>
    cases decision with
    | receive lines => exact of_receive h
    | go | replay => exact hsame h
  | «elsewhere» catalog stock =>
    cases decision with
    | go =>
      have heq := pure_eq_ok.mp h
      subst heq
      exact of_eq rfl
    | replay | receive => exact hsame h

end GrownReceipts

theorem Credited.of_grown (h : Credited s) {store : Store}
    (hgrown : GrownReceipts s.toStore store) : Credited { s with toStore := store } := by
  refine ⟨⟨?_, ?_, ?_⟩, h.owned, h.total⟩
  · intro l' hl'
    rcases hgrown.new l' hl' with ⟨l, hl, hfixed⟩ | ⟨-, -, hcost⟩
    · obtain ⟨-, hquantity, hunit, htotal⟩ := ReceiptLine.of_fixed_eq hfixed
      rw [← hquantity, ← hunit, ← htotal]
      exact h.priced.receipt l hl
    · exact hcost
  · intro x hx
    obtain ⟨l, hl, hid, hcost⟩ := h.priced.line x hx
    obtain ⟨l', hl', hfixed⟩ := hgrown.old l hl
    obtain ⟨hid', -, hunit, -⟩ := ReceiptLine.of_fixed_eq hfixed
    exact ⟨l', hl', hid'.trans hid, by rw [hunit, hcost]⟩
  · intro l' hl'
    show s.returnedOn l'.id ≤ l'.receivedQuantity
    rcases hgrown.new l' hl' with ⟨l, hl, hfixed⟩ | ⟨hfresh, hpositive, -⟩
    · obtain ⟨hid, hquantity, -, -⟩ := ReceiptLine.of_fixed_eq hfixed
      rw [← hid, ← hquantity]
      exact h.priced.capped l hl
    · have hnone : s.returnedOn l'.id = 0 := by
        apply total_eq_zero
        intro x hx
        obtain ⟨l, hl, hid, -⟩ := h.priced.line x hx
        exact if_neg fun heq ↦ hfresh l hl (hid.trans heq)
      omega

/-! ### A return -/

theorem requestReturn_writes {receiptId : Uuid} {line : ReturnedLine} {item : RequestedReturn}
    (h : requestReturn s receiptId line = .ok item) :
    item.receiptLine ∈ s.receiptLines.rows ∧ item.receiptLine.id = line.purchaseReceiptLineId ∧
      s.returnedOn item.receiptLine.id + item.returned ≤ item.receiptLine.receivedQuantity ∧
      item.totalCost = lineCost item.returned item.receiptLine.unitCost := by
  simp only [requestReturn, eq_ok, Option.filter_eq_some_iff, decide_eq_true_eq] at h
  obtain ⟨receiptLine, ⟨hfind, -⟩, orderLine, -, -, ⟨-, hcap⟩, rfl⟩ := h
  exact ⟨mem_of_find? hfind, key_of_find? hfind, hcap, rfl⟩

variable {context : ReturnContext} {entry : RequestedReturn × ℕ} {lines : List ReturnedLine}
  {decision : ReturnDecision} {request : ReturnRequest} {input : ReturnInput}

theorem returnItem_writes (h : returnItem context s entry = .ok s') :
    ∃ id table, s.returnLines.insert (context.returnLine entry.1 (entry.2 + 1) id) = some table ∧
      s' = { s with drawn := s.drawn + 1, stock := s'.stock, returnLines := table } := by
  simp only [returnItem, ReturnStore.randomUUID, insertReturnLine, eq_ok] at h
  obtain ⟨⟨stock, resulting⟩, -, s₁, ⟨-, -, -, -, table, hinsert, rfl⟩, stock', -, rfl⟩ := h
  exact ⟨_, table, hinsert, rfl⟩

/-- **What a loop of returns does**: rows of one return, credited with the sum of their costs. -/
structure Returns (context : ReturnContext) (items : List RequestedReturn) (s s' : ReturnStore) :
    Prop where
  receiptLines : s'.receiptLines = s.receiptLines
  returns : s'.returns = s.returns
  rows : ∀ l ∈ s'.returnLines.rows, l ∈ s.returnLines.rows ∨ l.purchaseReturnId = context.returnId
  creditOf : ∀ id, s'.creditOf id =
    s.creditOf id + if context.returnId = id then (items.map RequestedReturn.totalCost).sum else 0

structure Returnable (s : ReturnStore) (item : RequestedReturn) : Prop where
  found : item.receiptLine ∈ s.receiptLines.rows
  capped : s.returnedOn item.receiptLine.id + item.returned ≤ item.receiptLine.receivedQuantity
  cost : item.totalCost = lineCost item.returned item.receiptLine.unitCost

/-- **One turn of the loop.** -/
theorem priced_returnItem (h : Priced s)
    (hitem : Returnable s entry.1) (hturn : returnItem context s entry = .ok s') :
    Priced s' ∧ Returns context [entry.1] s s' ∧
      ∀ item : RequestedReturn, item.receiptLine.id ≠ entry.1.receiptLine.id →
        Returnable s item → Returnable s' item := by
  obtain ⟨id, table, hinsert, hs'⟩ := returnItem_writes hturn
  obtain ⟨item, index⟩ := entry
  have htable : s'.returnLines = table := by rw [hs']
  have hreceiptLines : s'.receiptLines = s.receiptLines := by rw [hs']
  have hreturned : ∀ lineId, s'.returnedOn lineId =
      s.returnedOn lineId + if item.receiptLine.id = lineId then item.returned else 0 := by
    intro lineId
    rw [ReturnStore.returnedOn, htable, total_insert hinsert]
    rfl
  refine ⟨⟨?_, ?_, ?_⟩, ⟨hreceiptLines, by rw [hs'], ?_, ?_⟩, ?_⟩
  · rw [hreceiptLines]
    exact h.receipt
  · rw [hreceiptLines, htable]
    exact (forall_mem_insert hinsert).mpr
      ⟨h.line, ⟨item.receiptLine, hitem.found, rfl, hitem.cost⟩⟩
  · rw [hreceiptLines]
    intro l hl
    rw [hreturned]
    by_cases hid : item.receiptLine.id = l.id
    · obtain rfl : item.receiptLine = l := eq_of_mem_of_key_eq hitem.found hl hid
      rw [if_pos rfl]
      exact hitem.capped
    · rw [if_neg hid, add_zero]
      exact h.capped l hl
  · rw [htable]
    intro l hl
    rcases (mem_insert hinsert).mp hl with hl | rfl
    · exact .inl hl
    · exact .inr rfl
  · intro returnId
    rw [ReturnStore.creditOf, htable, total_insert hinsert, map_singleton,
      sum_singleton]
    rfl
  · intro other hne hother
    refine ⟨hreceiptLines ▸ hother.found, ?_, hother.cost⟩
    rw [hreturned, if_neg (Ne.symm hne), add_zero]
    exact hother.capped

/-- **The loop of a return.** -/
theorem priced_loop : ∀ {entries : List (RequestedReturn × ℕ)} {s s' : ReturnStore}, Priced s →
      (∀ entry ∈ entries, Returnable s entry.1) →
      (entries.map fun entry ↦ entry.1.receiptLine.id).Nodup →
      entries.foldlM (returnItem context) s = .ok s' →
      Priced s' ∧ Returns context (entries.map Prod.fst) s s' := by
  intro entries
  induction entries with
  | nil =>
    intro s s' h _ _ hloop
    rw [foldlM_nil_eq_ok] at hloop
    subst hloop
    refine ⟨h, rfl, rfl, fun _ hl ↦ .inl hl, ?_⟩
    intro id
    rw [map_nil, map_nil, sum_nil, ite_self, add_zero]
  | cons entry entries ih =>
    intro s s' h hitems hnodup hloop
    obtain ⟨s₁, hturn, hloop⟩ := foldlM_cons_eq_ok.mp hloop
    rw [map_cons, nodup_cons] at hnodup
    obtain ⟨hpriced, hfirst, hkeep⟩ := priced_returnItem h (hitems entry mem_cons_self) hturn
    have hitems₁ : ∀ e ∈ entries, Returnable s₁ e.1 := by
      intro e he
      refine hkeep e.1 ?_ (hitems e (mem_cons_of_mem _ he))
      intro hid
      rw [← hid] at hnodup
      exact hnodup.1 (List.mem_map.mpr ⟨e, he, rfl⟩)
    obtain ⟨hpriced', hrest⟩ := ih hpriced hitems₁ hnodup.2 hloop
    refine ⟨hpriced', hrest.receiptLines.trans hfirst.receiptLines,
      hrest.returns.trans hfirst.returns, ?_, ?_⟩
    · intro l hl
      rcases hrest.rows l hl with hl | hid
      · exact hfirst.rows l hl
      · exact .inr hid
    · intro id
      rw [hrest.creditOf, hfirst.creditOf, map_singleton, sum_singleton, map_cons,
        map_cons, sum_cons]
      split
      · rw [add_assoc]
      · rw [add_zero]

theorem insertReturn_writes {row : PurchaseReturn} (h : insertReturn s row = .ok s') :
    ∃ returns, s.returns.insert row = some returns ∧ s' = { s with returns := returns } := by
  simp only [insertReturn, eq_ok] at h
  obtain ⟨-, -, -, -, returns, hinsert, rfl⟩ := h
  exact ⟨returns, hinsert, rfl⟩

namespace Credited

/-- **A return** keeps the rows priced and is credited with its lines. -/
theorem of_returnNew (h : Credited s) {receipt : Receipt}
    (hnodup : (lines.map ReturnedLine.purchaseReceiptLineId).Nodup)
    (hreturn : returnNew s input receipt lines = .ok s') : Credited s' := by
  simp only [returnNew, ReturnStore.randomUUID, bind_eq_ok] at hreturn
  obtain ⟨requested, hrequested, s₁, hrow, hloop⟩ := hreturn
  obtain ⟨returns, hinsert, rfl⟩ := insertReturn_writes hrow
  have hitems : ∀ item ∈ requested, Returnable s item := by
    intro item hitem
    obtain ⟨line, -, hline⟩ := exists_of_mem_mapM hrequested hitem
    obtain ⟨hfound, -, hcap, hcost⟩ := requestReturn_writes hline
    exact ⟨hfound, hcap, hcost⟩
  have hids : requested.map (fun item ↦ item.receiptLine.id) =
      lines.map ReturnedLine.purchaseReceiptLineId :=
    map_mapM (fun _ _ hline ↦ (requestReturn_writes hline).2.1) hrequested
  have hfirst : requested.zipIdx.map Prod.fst = requested := zipIdx_map_fst 0 requested
  obtain ⟨hpriced, hreturns⟩ := priced_loop (s := { s with
      drawn := s.drawn + 1, returns := returns }) ⟨h.priced.receipt, h.priced.line, h.priced.capped⟩
    (fun entry hentry ↦ by
      obtain ⟨hfound, hcap, hcost⟩ := hitems entry.1 (hfirst ▸ mem_map_of_mem hentry)
      exact ⟨hfound, hcap, hcost⟩)
    (by
      rw [show (requested.zipIdx.map fun entry ↦ entry.1.receiptLine.id) =
        (requested.zipIdx.map Prod.fst).map fun item ↦ item.receiptLine.id by rw [map_map]; rfl,
        hfirst, hids]
      exact hnodup)
    hloop
  rw [hfirst] at hreturns
  refine ⟨hpriced, ?_, ?_⟩
  · rw [hreturns.returns]
    intro l hl
    rcases hreturns.rows l hl with hl | hid
    · obtain ⟨r, hr, hrid⟩ := h.owned l hl
      exact ⟨r, (mem_insert hinsert).mpr (.inl hr), hrid⟩
    · exact ⟨_, (mem_insert hinsert).mpr (.inr rfl), hid.symm⟩
  · rw [hreturns.returns]
    intro r hr
    rw [hreturns.creditOf]
    rcases (mem_insert hinsert).mp hr with hr | rfl
    · have hne : r.id ≠ s.env.uuid s.drawn :=
        Table.find?_eq_none.mp (insert_eq_some hinsert).1 r hr
      rw [if_neg hne.symm, add_zero]
      exact h.total r hr
    · have hnone : s.creditOf (s.env.uuid s.drawn) = 0 := by
        apply total_eq_zero
        intro l hl
        obtain ⟨r, hr, hrid⟩ := h.owned l hl
        refine if_neg fun hid ↦ ?_
        exact Table.find?_eq_none.mp (insert_eq_some hinsert).1 r hr (hrid.trans hid)
      rw [if_pos rfl]
      show _ = s.creditOf (s.env.uuid s.drawn) + _
      rw [hnone, zero_add]

end Credited

theorem returnToSupplier_writes (h : returnToSupplier s input lines = .ok s') :
    s' = s ∨ ∃ receipt, s.receiptOf input = some receipt ∧
      returnNew s input receipt lines = .ok s' := by
  unfold returnToSupplier at h
  cases hlocked : returnLocked s input lines with
  | ok s₁ =>
    rw [hlocked] at h
    cases h
    simp only [returnLocked, eq_ok] at hlocked
    obtain ⟨receipt, hreceipt, replayed, -, hlocked⟩ := hlocked
    split at hlocked
    · rw [pure_eq_ok] at hlocked
      exact .inl hlocked.symm
    · exact .inr ⟨receipt, hreceipt, hlocked⟩
  | error e =>
    rw [hlocked] at h
    left
    dsimp only at h
    split at h
    · obtain ⟨replayed, -, h⟩ := bind_eq_ok.mp h
      split at h
      · rw [pure_eq_ok] at h
        exact h.symm
      · cases h
    · cases h

/-! ### Runs -/

def KnownReturns (decision : ReturnDecision) : Prop :=
  ∀ lines, decision = .lines (some lines) → (lines.map ReturnedLine.purchaseReceiptLineId).Nodup

theorem knownReturns_of_read (h : request.read s = .ok decision) : KnownReturns decision := by
  rintro lines rfl
  cases request with
  | procurement request =>
    obtain ⟨decision, -, h⟩ := bind_eq_ok.mp h
    cases h
  | returnToSupplier input =>
    obtain ⟨found, hread, h⟩ := bind_eq_ok.mp h
    cases h
    simp only [readReturn, eq_ok] at hread
    obtain ⟨-, hnodup, received, hlines, replayed, -, hfound⟩ := hread
    split at hfound
    · cases hfound
    · cases hfound
      rw [map_mapM (fun _ _ hline ↦ ?_) hlines]
      · exact hnodup
      · simp only [readReturnLine, eq_ok] at hline
        obtain ⟨-, -, -, -, rfl⟩ := hline
        rfl

theorem Credited.of_write (h : Credited s)
    (hknown : KnownReturns decision) (hwrite : request.write decision s = .ok s') :
    Credited s' := by
  have hsame : (pure s : Except ReturnFailure ReturnStore) = .ok s' → Credited s' := by
    intro hpure
    rw [pure_eq_ok] at hpure
    exact hpure ▸ h
  cases request with
  | procurement request =>
    cases decision with
    | procurement decision =>
      obtain ⟨store, hstore, hwrite⟩ := bind_eq_ok.mp hwrite
      rw [pure_eq_ok] at hwrite
      subst hwrite
      exact h.of_grown (GrownReceipts.of_write (mapError_eq_ok.mp hstore))
    | lines => exact hsame hwrite
  | returnToSupplier input =>
    cases decision with
    | procurement => exact hsame hwrite
    | lines lines =>
      cases lines with
      | none => exact hsame hwrite
      | some lines =>
        rcases returnToSupplier_writes hwrite with rfl | ⟨receipt, -, hreturn⟩
        · exact h
        · exact h.of_returnNew (hknown lines rfl) hreturn

theorem credited_protocol :
    LockedRuns.Sound returnProtocol (fun _ _ _ ↦ True) Credited fun _ decision _ ↦
      KnownReturns decision where
  read := fun _ hread ↦ knownReturns_of_read hread
  write := fun h hknown _ hwrite ↦ h.of_write hknown hwrite
  reread := fun _ hknown hread ↦ Except.ok.inj hread ▸ hknown
  stable := fun _ hknown _ _ _ _ ↦ hknown

def returnRun (env : Env) (catalog : Catalog) (stock : UInventario.Store)
    (events : List (Event ReturnRequest)) : ReturnStore :=
  (Outcome.run returnProtocol.step (.idle (ReturnStore.fresh env catalog stock)) events).store

theorem credited_run (env : Env) (catalog : Catalog) (stock : UInventario.Store)
    (events : List (Event ReturnRequest)) : Credited (returnRun env catalog stock events) := by
  have hfresh : Credited (ReturnStore.fresh env catalog stock) := by
    refine ⟨⟨?_, ?_, ?_⟩, ?_, ?_⟩ <;> exact forall_mem_nil _
  exact (credited_protocol.run (Good.idle hfresh) events
    (commits_of_forall (fun _ _ _ ↦ trivial) _ _)).inv

/-- **Supplier credit** is within what was paid exactly when the roundings fit. -/
theorem supplier_credit_iff (env : Env) (catalog : Catalog) (stock : UInventario.Store)
    (events : List (Event ReturnRequest)) :
    SupplierCredit (returnRun env catalog stock events) ↔
      ∀ line ∈ (returnRun env catalog stock events).receiptLines.rows,
        RoundsWithin (returnRun env catalog stock events) line :=
  (credited_run env catalog stock events).supplierCredit_iff

/-- A supplier that sells product `3` by the kilogram. -/
def cheeseCatalog : Catalog where
  suppliers := .ofRow { id := 1, active := true }
  supplierProducts := .ofRow {
    id := 2, supplierId := 1, productId := 3, active := true,
    priceCurrency := some .MXN }

/-- The product, to three decimals, and a location to receive it at. -/
def cheeseStock : UInventario.Store :=
  { UInventario.Store.fresh default with
    products := .ofRow { Product.plain 3 100100 with
      quantityPolicy := ⟨.KILOGRAM, 3, .HALF_UP, 1⟩ }
    locations := .ofRow { id := 4, warehouseId := 5, active := true, createdAt := 0 } }

def cheeseReceived : List (Event ReturnRequest) :=
  alone (.procurement (.create {
      supplierId := 1, currency := .MXN,
      lines := [{ supplierProductId := 2, quantity := 3000, unitCost := 1001 }],
      lines_ne := cons_ne_nil _ _ })) ++
    alone (.procurement (.approve {
      orderId := 0, version := 1, reason := none, idempotencyKey := [1] })) ++
    alone (.procurement (.receive {
      orderId := 0
      warehouseId := 5
      allowOverage := false
      idempotencyKey := [2]
      version := 2
      locationId := 4
      documentReference := [1]
      overageReason := none
      lines := [{
        purchaseOrderLineId := 1, receivedQuantity := 3000, lotCode := none, manufacturedOn := none,
        expiresOn := none, serialNumbers := none }]
      lines_ne := cons_ne_nil _ _ }))

def halfReturned (key : Text) : ReturnInput where
  orderId := 0
  warehouseId := 5
  idempotencyKey := key
  purchaseReceiptId := 3
  documentReference := [1]
  reason := [98, 97, 100]
  lines := [{ purchaseReceiptLineId := 4, returnedQuantity := 1500, serialNumbers := none }]
  lines_ne := cons_ne_nil _ _

def cheeseReturned : List (Event ReturnRequest) :=
  cheeseReceived ++ alone (.returnToSupplier (halfReturned [3])) ++
    alone (.returnToSupplier (halfReturned [4]))

/-- **Two halves are credited with more than the whole**: each of them is worth 15.015. -/
theorem halves_credited_beyond_cost : ¬∀ (env : Env) (catalog : Catalog)
    (stock : UInventario.Store) (events : List (Event ReturnRequest)),
    SupplierCredit (returnRun env catalog stock events) := by
  intro h
  have hcost := (h default cheeseCatalog cheeseStock cheeseReturned).cost
  revert hcost
  decide +kernel

end UInventario.Procurement
