import UInventario.Integrations.AccountingRuns
import UInventario.Pos.ReturnedLines

/-!
# Undone sales in the accounting

`sourceCandidates` over the tables of `Pos`: sales, voids and returns as sources of journals.

* Every source balances, and so does its journal.
* A sale and its void add up to nothing in every account.
* A sale that its returns cover in full adds up to nothing in clearing and taxes, and revenue makes
  up for returns (`ReturnInv.complete`).

The cost of a source is rounded to cents by itself, and no return takes what is left of the cost.
What the returns of a sale leave in inventory and cost of goods is nothing exactly when the balanced
remainders together are no more than one can be (`Pos.Store.RemaindersCancel`).

`SourceColumns` has the columns that `Pos` leaves out; `unit_cost` has two decimals.
-/

namespace UInventario.Integrations.Accounting

open Outcome Rounding List

/-! ### The candidates of the point of sale -/

/-- The columns of sales, lines and returns that `Pos` leaves out. -/
structure SourceColumns where
  /-- `sale_lines.unit_cost` of a line of a sale, in cents. -/
  unitCost : (saleId : Uuid) → (saleLine : ℕ) → ℕ
  occurredAt : EventKey → Timestamp
  referenceKey : EventKey → Text
  currency : Currency → Text

/-- `ROUND(…, 2)` of a sum of quantities times unit costs, which is in thousandths of a cent. -/
def roundedCost (cost : ℕ) : ℕ :=
  (roundDiv cost (1000 : ℕ)).toNat

variable (columns : SourceColumns) {kind : AccountKind}

/-- `SUM(line.quantity * line.unit_cost)`. -/
def saleCost (sale : Pos.Sale) : ℕ :=
  (sale.lines.zipIdx.map fun x ↦ x.1.quantity * columns.unitCost sale.id x.2).sum

/-- `SUM(return_line.quantity * sale_line.unit_cost)`. -/
def returnCost (saleReturn : Pos.SaleReturn) : ℕ :=
  (saleReturn.lines.map fun line ↦
    line.quantity * columns.unitCost saleReturn.saleId line.saleLine).sum

/-- The candidate of a sale, and with the other type that of its void. -/
def saleCandidate (sourceType : AccountingSourceType) (sale : Pos.Sale) :
    AccountingSourceCandidate where
  eventKey := { sourceType := sourceType, sourceId := sale.id }
  occurredAt := columns.occurredAt { sourceType := sourceType, sourceId := sale.id }
  currency := columns.currency sale.currency
  referenceKey := columns.referenceKey { sourceType := sourceType, sourceId := sale.id }
  subtotal := (sale.lines.map Pos.SaleLine.subtotal).sum
  taxTotal := (sale.lines.map Pos.SaleLine.tax).sum
  total := sale.total
  costTotal := roundedCost (saleCost columns sale)
  cashType := none
  reversedCashType := none

def returnCandidate (sale : Pos.Sale) (saleReturn : Pos.SaleReturn) :
    AccountingSourceCandidate where
  eventKey := { sourceType := .SALE_RETURN, sourceId := saleReturn.id }
  occurredAt := columns.occurredAt { sourceType := .SALE_RETURN, sourceId := saleReturn.id }
  currency := columns.currency sale.currency
  referenceKey := columns.referenceKey { sourceType := .SALE_RETURN, sourceId := saleReturn.id }
  subtotal := (saleReturn.lines.map Pos.SaleReturnLine.subtotal).sum
  taxTotal := (saleReturn.lines.map Pos.SaleReturnLine.tax).sum
  total := saleReturn.total
  costTotal := roundedCost (returnCost columns saleReturn)
  cashType := none
  reversedCashType := none

theorem saleCandidate_balanced (sourceType : AccountingSourceType) (sale : Pos.Sale) :
    (saleCandidate columns sourceType sale).Balanced := by
  intro _
  exact sum_map_add

theorem returnCandidate_balanced (sale : Pos.Sale) (saleReturn : Pos.SaleReturn) :
    (returnCandidate columns sale saleReturn).Balanced := by
  intro _
  exact sum_map_add

def sourceOfSale (sourceType : AccountingSourceType) (sale : Pos.Sale) : AccountingSource :=
  ⟨saleCandidate columns sourceType sale, saleCandidate_balanced columns sourceType sale⟩

def sourceOfReturn (sale : Pos.Sale) (saleReturn : Pos.SaleReturn) : AccountingSource :=
  ⟨returnCandidate columns sale saleReturn, returnCandidate_balanced columns sale saleReturn⟩

def returnsOf (s : Pos.Store) (sale : Pos.Sale) : List Pos.SaleReturn :=
  s.saleReturns.rows.filter fun r ↦ r.saleId = sale.id ∧ r.lines ≠ []

/-- The sources a sale has a part in: itself, its void and its returns. -/
def sourcesOf (s : Pos.Store) (sale : Pos.Sale) : List AccountingSource :=
  (if sale.lines = [] then [] else
    sourceOfSale columns .SALE sale ::
      (if sale.isCompleted then [] else [sourceOfSale columns .SALE_VOID sale])) ++
  (returnsOf s sale).map (sourceOfReturn columns sale)

/-! ### What journals add up to -/

/-- What a line moves in the account of a kind: a debit is positive. -/
def JournalLine.inAccount (kind : AccountKind) (line : JournalLine) : ℤ :=
  if line.kind = kind then (line.debit : ℤ) - line.credit else 0

def Journal.net (kind : AccountKind) (journal : Journal) : ℤ :=
  (journal.entries.map (JournalLine.inAccount kind)).sum

/-- What the journals of some sources move in the account of a kind. -/
def net (kind : AccountKind) (sources : List AccountingSource) : ℤ :=
  (sources.map fun source ↦ ((journal source.val).toOption.map (Journal.net kind)).getD 0).sum

/-- **The accounts are as if nothing had been sold.** -/
structure NetsToZero (sources : List AccountingSource) : Prop where
  clearing : net .paymentClearing sources = 0
  tax : net .taxPayable sources = 0
  revenue : net .salesRevenue sources + net .salesReturns sources = 0
  inventory : net .inventoryAsset sources = 0
  cost : net .costOfGoodsSold sources = 0

/-- **The remainders of the returns' costs cancel.** -/
def RemaindersCancel (s : Pos.Store) (sale : Pos.Sale) : Prop :=
  -500 ≤ ((returnsOf s sale).map fun r ↦ (returnCost columns r : ℤ).bmod 1000).sum ∧
    ((returnsOf s sale).map fun r ↦ (returnCost columns r : ℤ).bmod 1000).sum < 500
deriving Decidable

/-! ### One journal -/

def moved (kind : AccountKind) (source : AccountingSource) : ℤ :=
  (source.val.lines.map (JournalLine.inAccount kind)).sum

theorem inAccount_eq_zero {line : JournalLine}
    (h : ¬(line.debit ≠ 0 ∨ line.credit ≠ 0)) : line.inAccount kind = 0 := by
  rw [JournalLine.inAccount, debit_eq_zero h, credit_eq_zero h]
  simp

theorem net_journal {source : AccountingSource} {j : Journal}
    (h : journal source.val = .ok j) : j.net kind = moved kind source := by
  simp only [journal, eq_ok] at h
  obtain ⟨⟨⟩, -, rfl⟩ := h
  show ((source.val.lines.filter _).map (JournalLine.inAccount kind)).sum = _
  rw [Sums.sum_filter, moved]
  congr 1
  refine map_congr_left fun line _ ↦ ?_
  split
  case isTrue => rfl
  case isFalse hzero =>
    rw [decide_eq_true_eq] at hzero
    exact (inAccount_eq_zero hzero).symm

theorem net_eq (kind : AccountKind) (sources : List AccountingSource) :
    net kind sources = (sources.map (moved kind)).sum := by
  rw [net]
  congr 1
  refine map_congr_left fun source _ ↦ ?_
  obtain ⟨j, hj⟩ := exists_journal source
  rw [hj]
  exact net_journal hj

theorem journal_balanced (source : AccountingSource) :
    ∃ j, journal source.val = .ok j ∧ j.debitTotal = j.creditTotal := by
  obtain ⟨j, hj⟩ := exists_journal source
  refine ⟨j, hj, ?_⟩
  simp only [journal, eq_ok] at hj
  obtain ⟨⟨⟩, hbalanced, rfl⟩ := hj
  exact hbalanced

variable {columns} {s : Pos.Store} {sale : Pos.Sale}

theorem moved_void (kind : AccountKind) : moved kind (sourceOfSale columns .SALE_VOID sale) =
      -moved kind (sourceOfSale columns .SALE sale) := by
  cases kind <;>
    simp [moved, sourceOfSale, saleCandidate, AccountingSourceCandidate.lines, entry,
      JournalLine.inAccount]

theorem moved_sale (kind : AccountKind) : moved kind (sourceOfSale columns .SALE sale) =
      match kind with
      | .paymentClearing => (sale.total : ℤ)
      | .salesRevenue => -((sale.lines.map Pos.SaleLine.subtotal).sum : ℕ)
      | .taxPayable => -((sale.lines.map Pos.SaleLine.tax).sum : ℕ)
      | .inventoryAsset => -(roundedCost (saleCost columns sale) : ℤ)
      | .costOfGoodsSold => (roundedCost (saleCost columns sale) : ℤ)
      | _ => 0 := by
  cases kind <;>
    simp [moved, sourceOfSale, saleCandidate, AccountingSourceCandidate.lines, entry,
      JournalLine.inAccount]

theorem moved_return (kind : AccountKind) (r : Pos.SaleReturn) :
    moved kind (sourceOfReturn columns sale r) =
      match kind with
      | .paymentClearing => -(r.total : ℤ)
      | .salesReturns => ((r.lines.map Pos.SaleReturnLine.subtotal).sum : ℕ)
      | .taxPayable => ((r.lines.map Pos.SaleReturnLine.tax).sum : ℕ)
      | .inventoryAsset => (roundedCost (returnCost columns r) : ℤ)
      | .costOfGoodsSold => -(roundedCost (returnCost columns r) : ℤ)
      | _ => 0 := by
  cases kind <;>
    simp [moved, sourceOfReturn, returnCandidate, AccountingSourceCandidate.lines, entry,
      JournalLine.inAccount]

theorem cast_roundedCost (cost : ℕ) : (roundedCost cost : ℤ) = roundDiv cost (1000 : ℕ) :=
  Int.toNat_of_nonneg (roundDiv_nonneg (Int.natCast_nonneg cost) (by norm_num))

/-! ### The void of a sale -/

theorem returnsOf_voided (hinv : Pos.ReturnInv s) (hsale : sale ∈ s.sales.rows)
    (hvoided : ¬sale.isCompleted) : returnsOf s sale = [] := by
  refine List.filter_eq_nil_iff.mpr fun r hr hof ↦ hvoided ?_
  obtain ⟨hid, -⟩ := of_decide_eq_true hof
  refine hinv.completed r hr sale ?_
  rw [hid]
  exact Table.find?_key_of_mem hsale

/-- **A sale and its void.** -/
theorem netsToZero_of_voided (hinv : Pos.ReturnInv s) (hsale : sale ∈ s.sales.rows)
    (hvoided : ¬sale.isCompleted) : NetsToZero (sourcesOf columns s sale) := by
  have hnet (kind : AccountKind) : net kind (sourcesOf columns s sale) = 0 := by
    rw [net_eq, sourcesOf, returnsOf_voided hinv hsale hvoided, if_neg hvoided]
    split
    · rfl
    · simp [moved_void]
  exact ⟨hnet _, hnet _, by rw [hnet, hnet, add_zero], hnet _, hnet _⟩

/-! ### The returns of a sale -/

theorem net_sourcesOf (hcompleted : sale.isCompleted) (kind : AccountKind) :
    net kind (sourcesOf columns s sale) = moved kind (sourceOfSale columns .SALE sale) +
      ((returnsOf s sale).map fun r ↦ moved kind (sourceOfReturn columns sale r)).sum := by
  rw [net_eq, sourcesOf, if_pos hcompleted, map_append, sum_append, map_map]
  congr 1
  split
  case isTrue hlines =>
    rw [moved_sale, Pos.Sale.total, Pos.linesTotal, saleCost, hlines]
    cases kind <;> simp [roundedCost]
  case isFalse => simp

theorem sum_returnsOf (hinv : Pos.ReturnInv s) (hsale : sale ∈ s.sales.rows)
    (column : Pos.SaleReturnLine → ℕ) :
    ((returnsOf s sale).map fun r ↦ ((r.lines.map column).sum : ℤ)).sum =
      (sale.lines.zipIdx.map fun x ↦ s.returned sale.id x.2 column).sum := by
  rw [Pos.sum_returned hinv.linked hsale, returnsOf, Sums.sum_filter, Table.total]
  congr 1
  refine map_congr_left fun r _ ↦ ?_
  by_cases hid : r.saleId = sale.id
  · by_cases hlines : r.lines = []
    · simp [hid, hlines]
    · simp [hid, hlines, Nat.cast_list_sum, Function.comp_def]
  · simp [hid]

theorem sum_zipIdx (lines : List Pos.SaleLine) (column : Pos.SaleLine → ℕ) :
    (lines.zipIdx.map fun x ↦ (column x.1 : ℤ)).sum = ((lines.map column).sum : ℕ) := by
  rw [Nat.cast_list_sum, map_map]
  conv_rhs => rw [← zipIdx_map_fst 0 lines]
  rw [map_map]
  rfl

theorem sum_map_neg {α : Type} (l : List α) (f : α → ℤ) :
    (l.map fun a ↦ -f a).sum = -(l.map f).sum := by
  rw [← neg_one_mul, ← sum_map_mul_left]
  simp

theorem returned_cost (cost : ℕ → ℕ) (n : ℕ) :
    s.returned sale.id n (fun line ↦ line.quantity * cost line.saleLine) =
      cost n * s.returned sale.id n Pos.SaleReturnLine.quantity := by
  rw [Pos.Store.returned, Pos.Store.returned, ← Table.total_mul]
  refine Table.total_congr fun r _ ↦ ?_
  split
  · rw [← sum_map_mul_left]
    congr 1
    refine map_congr_left fun line _ ↦ ?_
    split
    case isTrue hline =>
      rw [hline]
      push_cast
      ring
    case isFalse => exact (mul_zero _).symm
  · exact (mul_zero _).symm

section

variable (hinv : Pos.ReturnInv s) (hsale : sale ∈ s.sales.rows)
include hinv hsale

/-- **What the returns of a sale cost together**, before rounding: what the sale has cost. -/
theorem sum_returnCost (hfull : s.FullyReturned sale) :
    ((returnsOf s sale).map fun r ↦ (returnCost columns r : ℤ)).sum = saleCost columns sale := by
  have hcosts : ((returnsOf s sale).map fun r ↦ (returnCost columns r : ℤ)).sum =
      ((returnsOf s sale).map fun r ↦ ((r.lines.map fun line ↦
        line.quantity * columns.unitCost sale.id line.saleLine).sum : ℤ)).sum := by
    congr 1
    refine map_congr_left fun r hr ↦ ?_
    obtain ⟨hid, -⟩ := of_decide_eq_true (List.mem_filter.mp hr).2
    rw [returnCost, hid]
  rw [hcosts, sum_returnsOf hinv hsale, saleCost, Nat.cast_list_sum, map_map]
  congr 1
  refine map_congr_left fun x hx ↦ ?_
  rw [returned_cost (columns.unitCost sale.id), hfull x hx]
  show _ = ((x.1.quantity * columns.unitCost sale.id x.2 : ℕ) : ℤ)
  push_cast
  ring

theorem sum_returned {column : Pos.SaleReturnLine → ℕ} {part : Pos.SaleLine → ℕ}
    (hcomplete : ∀ x ∈ sale.lines.zipIdx, s.returned sale.id x.2 column = part x.1) :
    ((returnsOf s sale).map fun r ↦ ((r.lines.map column).sum : ℤ)).sum =
      ((sale.lines.map part).sum : ℕ) := by
  rw [sum_returnsOf hinv hsale, ← sum_zipIdx]
  congr 1
  exact map_congr_left hcomplete

/-- **The money of a sale that is covered by its returns.** -/
theorem money_of_fullyReturned (hcompleted : sale.isCompleted) (hfull : s.FullyReturned sale) :
    net .paymentClearing (sourcesOf columns s sale) = 0 ∧
      net .taxPayable (sourcesOf columns s sale) = 0 ∧
      net .salesRevenue (sourcesOf columns s sale) +
        net .salesReturns (sourcesOf columns s sale) = 0 := by
  have hcomplete := fun x hx ↦ hinv.complete sale hsale x hx (hfull x hx)
  have hsubtotal := sum_returned hinv hsale fun x hx ↦ (hcomplete x hx).1
  have htax := sum_returned hinv hsale fun x hx ↦ (hcomplete x hx).2
  have htotal : ((returnsOf s sale).map fun r ↦ (r.total : ℤ)).sum = sale.total := by
    have hparts : ∀ r : Pos.SaleReturn, (r.total : ℤ) =
        (r.lines.map Pos.SaleReturnLine.subtotal).sum +
          (r.lines.map Pos.SaleReturnLine.tax).sum := by
      intro r
      rw [Pos.SaleReturn.total, sum_map_add]
      exact Nat.cast_add _ _
    have hwhole : (sale.total : ℤ) =
        (sale.lines.map Pos.SaleLine.subtotal).sum + (sale.lines.map Pos.SaleLine.tax).sum := by
      rw [Pos.Sale.total, Pos.linesTotal, ← Nat.cast_add]
      congr 1
      exact sum_map_add
    simp only [hparts]
    rw [sum_map_add, hsubtotal, htax, hwhole]
  refine ⟨?_, ?_, ?_⟩
  · rw [net_sourcesOf hcompleted, moved_sale]
    simp only [moved_return, sum_map_neg]
    rw [htotal]
    exact add_neg_cancel _
  · rw [net_sourcesOf hcompleted, moved_sale]
    simp only [moved_return]
    rw [htax]
    exact neg_add_cancel _
  · rw [net_sourcesOf hcompleted, net_sourcesOf hcompleted, moved_sale, moved_sale]
    simp only [moved_return]
    rw [hsubtotal]
    simp

/-- **The cost of a sale covered by its returns** comes back exactly when the remainders cancel. -/
theorem cost_of_fullyReturned (hfull : s.FullyReturned sale) :
    ((returnsOf s sale).map fun r ↦ (roundedCost (returnCost columns r) : ℤ)).sum =
      roundedCost (saleCost columns sale) ↔ RemaindersCancel columns s sale := by
  have h := sum_roundDiv_eq_iff (m := 1000) (by norm_num)
    (l := (returnsOf s sale).map fun r ↦ (returnCost columns r : ℤ)) (by
      refine List.forall_mem_map.mpr fun r _ ↦ ?_
      exact Int.natCast_nonneg _)
  rw [sum_returnCost hinv hsale hfull, map_map, map_map] at h
  have hlow : ((1000 : ℕ) : ℤ) / 2 = 500 := by norm_num
  have hhigh : (((1000 : ℕ) : ℤ) + 1) / 2 = 500 := by norm_num
  rw [hlow, hhigh] at h
  simp only [Function.comp_def] at h
  rw [RemaindersCancel, cast_roundedCost]
  simp only [cast_roundedCost]
  exact h

theorem netsToZero_iff (hcompleted : sale.isCompleted) (hfull : s.FullyReturned sale) :
    NetsToZero (sourcesOf columns s sale) ↔ RemaindersCancel columns s sale := by
  rw [← cost_of_fullyReturned hinv hsale hfull]
  have hmoney : net .paymentClearing (sourcesOf columns s sale) = 0 ∧
      net .taxPayable (sourcesOf columns s sale) = 0 ∧
      net .salesRevenue (sourcesOf columns s sale) +
        net .salesReturns (sourcesOf columns s sale) = 0 :=
    money_of_fullyReturned hinv hsale hcompleted hfull
  obtain ⟨hclearing, htax, hrevenue⟩ := hmoney
  have hinventory : net .inventoryAsset (sourcesOf columns s sale) =
      -(roundedCost (saleCost columns sale) : ℤ) +
        ((returnsOf s sale).map fun r ↦ (roundedCost (returnCost columns r) : ℤ)).sum := by
    rw [net_sourcesOf hcompleted, moved_sale]
    simp only [moved_return]
  have hcost : net .costOfGoodsSold (sourcesOf columns s sale) =
      (roundedCost (saleCost columns sale) : ℤ) -
        ((returnsOf s sale).map fun r ↦ (roundedCost (returnCost columns r) : ℤ)).sum := by
    rw [net_sourcesOf hcompleted, moved_sale]
    simp only [moved_return, sum_map_neg]
    exact (sub_eq_add_neg _ _).symm
  constructor
  · intro h
    have hzero := h.inventory
    rw [hinventory] at hzero
    omega
  · intro heq
    exact ⟨hclearing, htax, hrevenue, by rw [hinventory]; omega, by rw [hcost]; omega⟩

end

/-! ### Runs of the point of sale -/

def reached (env : Pos.Env) (customers : Table Pos.Customer)
    (events : List (LockedRuns.Event Pos.Request)) : Pos.Store :=
  (run Pos.protocol.step (LockedRuns.State.idle (Pos.Store.fresh env customers)) events).store

theorem returnInv_reached (env : Pos.Env) (customers : Table Pos.Customer)
    (events : List (LockedRuns.Event Pos.Request)) : Pos.ReturnInv (reached env customers events) :=
  (Pos.returns_sound.run (LockedRuns.Good.idle (Pos.ReturnInv.fresh env customers)) events
    (LockedRuns.commits_of_forall (fun _ _ _ ↦ trivial) ..)).inv

/-- **What undone sales leave in the accounts**: nothing, but for the remainders of their costs. -/
theorem reversals_net (columns : SourceColumns) (env : Pos.Env) (customers : Table Pos.Customer)
    (events : List (LockedRuns.Event Pos.Request)) (sale : Pos.Sale)
    (hsale : sale ∈ (reached env customers events).sales.rows) :
    (∀ source ∈ sourcesOf columns (reached env customers events) sale,
      ∃ j, journal source.val = .ok j ∧ j.debitTotal = j.creditTotal) ∧
    (¬sale.isCompleted → NetsToZero (sourcesOf columns (reached env customers events) sale)) ∧
    (sale.isCompleted → (reached env customers events).FullyReturned sale →
      (net .paymentClearing (sourcesOf columns (reached env customers events) sale) = 0 ∧
        net .taxPayable (sourcesOf columns (reached env customers events) sale) = 0 ∧
        net .salesRevenue (sourcesOf columns (reached env customers events) sale) +
          net .salesReturns (sourcesOf columns (reached env customers events) sale) = 0) ∧
      (NetsToZero (sourcesOf columns (reached env customers events) sale) ↔
        RemaindersCancel columns (reached env customers events) sale)) := by
  have hinv := returnInv_reached env customers events
  exact ⟨fun source _ ↦ journal_balanced source, netsToZero_of_voided hinv hsale,
    fun hcompleted hfull ↦ ⟨money_of_fullyReturned hinv hsale hcompleted hfull,
      netsToZero_iff hinv hsale hcompleted hfull⟩⟩

/-! ### A unit that is returned at once, and in halves -/

def centColumns : SourceColumns where
  unitCost := fun _ _ ↦ 1
  occurredAt := fun _ ↦ 0
  referenceKey := fun _ ↦ []
  currency := fun _ ↦ textOf "MXN"

def kilogram : Pos.Sale where
  id := 0
  branchId := 1
  cashRegisterId := 1
  shiftId := 0
  createdByUserId := 1
  customerId := none
  currency := .MXN
  lines := [{ quantity := 1000, subtotal := 50, tax := 0 }]
  payments := [{
    method := .CASH, status := .COMPLETED, amountApplied := 50, externalReference := none }]
  loyaltyPointsRedeemed := 0
  loyaltyValue := 0
  loyaltyPointsEarned := 0
  idempotencyKey := [1]
  requestFingerprint := [1]
  voided := none

def returnSome (quantity : ℕ) (idempotencyKey : Text) : List (LockedRuns.Event Pos.Request) :=
  LockedRuns.alone (.saleReturn {
    branchId := 1, saleId := 0, exchangeSaleId := none
    lines := [{ saleLine := 0, quantity := quantity }]
    idempotencyKey := idempotencyKey, fingerprint := idempotencyKey, clock := ⟨0, 0, 0⟩ })

def kilogramSold : List (LockedRuns.Event Pos.Request) :=
  LockedRuns.alone (.opening 0) ++
  LockedRuns.alone (.selling none kilogram.lines (Pos.inCash 50))

theorem reversals_net_whole : NetsToZero (sourcesOf centColumns
      (reached default Table.empty (kilogramSold ++ returnSome 1000 [2])) kilogram) :=
  ((reversals_net centColumns default Table.empty (kilogramSold ++ returnSome 1000 [2]) kilogram
    (by decide +kernel)).2.2 rfl (by decide +kernel)).2.mpr (by decide +kernel)

theorem halves_cost_more : kilogram ∈ (reached default Table.empty
        (kilogramSold ++ returnSome 500 [2] ++ returnSome 500 [3])).sales.rows ∧
      (reached default Table.empty
        (kilogramSold ++ returnSome 500 [2] ++ returnSome 500 [3])).FullyReturned kilogram ∧
      net .inventoryAsset (sourcesOf centColumns (reached default Table.empty
        (kilogramSold ++ returnSome 500 [2] ++ returnSome 500 [3])) kilogram) = 1 ∧
      net .costOfGoodsSold (sourcesOf centColumns (reached default Table.empty
        (kilogramSold ++ returnSome 500 [2] ++ returnSome 500 [3])) kilogram) = -1 := by
  decide +kernel

end UInventario.Integrations.Accounting
