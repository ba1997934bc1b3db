import Mathlib.Algebra.BigOperators.Ring.Finset
import Mathlib.Tactic.Linarith
import UInventario.Foundations.Sums
import UInventario.Pos.SaleCommits

/-!
# What has been returned of a sale

A return reads, under the lock of the sale, what has been returned of it before: of each line, to
know what is left of it, and in total, to know the share of the loyalty value that is to be
restored. Since no other return of the sale commits before it, it adds to exactly what it has read.
-/

namespace UInventario.Pos

open Outcome LockedRuns Table List

variable {s s' : Store} {saleId : Uuid}

/-! ### The share of the loyalty value -/

section Target

variable {loyaltyTotal saleTotal : ℕ} {c x : ℤ}

theorem targetLoyalty_of_ge (h : c ≥ saleTotal) :
    targetLoyalty loyaltyTotal saleTotal c = loyaltyTotal := by
  rw [targetLoyalty, if_pos h]

theorem targetLoyalty_zero (hle : loyaltyTotal ≤ saleTotal) :
    targetLoyalty loyaltyTotal saleTotal 0 = 0 := by
  rw [targetLoyalty]
  split
  · omega
  · rw [mul_zero, zero_add]
    exact Int.ediv_eq_zero_of_lt (by omega) (by omega)

/-- **A return restores at most what it returns**, and takes nothing back. -/
theorem targetLoyalty_step (hle : loyaltyTotal ≤ saleTotal) (hc : 0 ≤ c) (hx : 0 ≤ x) :
    0 ≤ targetLoyalty loyaltyTotal saleTotal (c + x) - targetLoyalty loyaltyTotal saleTotal c ∧
      targetLoyalty loyaltyTotal saleTotal (c + x) -
        targetLoyalty loyaltyTotal saleTotal c ≤ x := by
  have hhalf' : 2 * ((saleTotal / 2 : ℕ) : ℤ) ≤ saleTotal := by omega
  rcases le_or_gt (saleTotal : ℤ) c with hfull | hpart
  · rw [targetLoyalty_of_ge hfull, targetLoyalty_of_ge (by omega)]
    omega
  have hpos : 0 < (saleTotal : ℤ) := by omega
  rw [targetLoyalty, targetLoyalty, if_neg (not_le.mpr hpart)]
  split
  case isTrue hreached =>
    -- the last share: what was left of the value, which is at most what was left of the total
    constructor
    · have : (loyaltyTotal * c + (saleTotal / 2 : ℕ)) / (saleTotal : ℤ) < loyaltyTotal + 1 := by
        rw [Int.ediv_lt_iff_lt_mul hpos]
        nlinarith
      omega
    · have : (loyaltyTotal : ℤ) - x ≤
          (loyaltyTotal * c + (saleTotal / 2 : ℕ)) / (saleTotal : ℤ) := by
        rw [Int.le_ediv_iff_mul_le hpos]
        nlinarith
      omega
  case isFalse =>
    constructor
    · have := Int.ediv_le_ediv hpos
        (show (loyaltyTotal : ℤ) * c + (saleTotal / 2 : ℕ) ≤
          loyaltyTotal * (c + x) + (saleTotal / 2 : ℕ) by nlinarith)
      omega
    · have : (loyaltyTotal * (c + x) + (saleTotal / 2 : ℕ)) / (saleTotal : ℤ) <
          (loyaltyTotal * c + (saleTotal / 2 : ℕ)) / (saleTotal : ℤ) + x + 1 := by
        rw [Int.ediv_lt_iff_lt_mul hpos]
        have := Int.lt_ediv_add_one_mul_self
          ((loyaltyTotal : ℤ) * c + (saleTotal / 2 : ℕ)) hpos
        nlinarith
      omega

theorem targetLoyalty_le (hle : loyaltyTotal ≤ saleTotal) (hc : 0 ≤ c) :
    targetLoyalty loyaltyTotal saleTotal c ≤ loyaltyTotal := by
  have h := (targetLoyalty_step hle hc (Nat.cast_nonneg saleTotal)).1
  rw [targetLoyalty_of_ge (show c + saleTotal ≥ saleTotal by omega)] at h
  omega

end Target

/-! ### What has been returned of a sale -/

def ReturnsLinked (s : Store) : Prop :=
  ∀ r ∈ s.saleReturns.rows, ∃ sale, s.sales.find? r.saleId = some sale ∧
    ∀ line ∈ r.lines, line.saleLine < sale.lines.length

def Store.FullyReturned (s : Store) (sale : Sale) : Prop :=
  ∀ x ∈ sale.lines.zipIdx,
    s.returned sale.id x.2 SaleReturnLine.quantity = x.1.quantity
deriving Decidable

theorem total_returns_eq_zero (h : ReturnsLinked s)
    (hnew : s.sales.find? saleId = none) (w : SaleReturn → ℤ) :
    (s.saleReturns.total fun r ↦ if r.saleId = saleId then w r else 0) = 0 := by
  apply total_eq_zero
  intro r hr
  obtain ⟨sale, hfind, -⟩ := h r hr
  refine if_neg fun hid ↦ ?_
  rw [hid, hnew] at hfind
  cases hfind

theorem returnedTotal_nonneg (saleId : Uuid) : 0 ≤ s.returnedTotal saleId := by
  apply total_nonneg
  intro r _
  split
  · positivity
  · exact le_rfl

variable {sale : Sale}

theorem sum_returned (h : ReturnsLinked s) (hmem : sale ∈ s.sales.rows)
    (column : SaleReturnLine → ℕ) :
    (sale.lines.zipIdx.map fun x ↦ s.returned sale.id x.2 column).sum = s.saleReturns.total fun r ↦
        if r.saleId = sale.id then (r.lines.map fun line ↦ (column line : ℤ)).sum else 0 := by
  simp only [Store.returned, Table.total]
  rw [Sums.sum_comm]
  congr 1
  apply map_congr_left
  intro r hr
  by_cases hid : r.saleId = sale.id
  · simp only [if_pos hid]
    rw [Sums.sum_comm]
    congr 1
    apply map_congr_left
    intro line hline
    obtain ⟨owner, hfind, hlines⟩ := h r hr
    rw [hid] at hfind
    obtain rfl : sale = owner :=
      eq_of_mem_of_key_eq hmem (mem_of_find? hfind) (key_of_find? hfind).symm
    have hflip : ∀ x : SaleLine × ℕ, (if line.saleLine = x.2 then (column line : ℤ) else 0) =
        if x.2 = line.saleLine then (column line : ℤ) else 0 :=
      fun x ↦ if_congr eq_comm rfl rfl
    simp only [hflip]
    rw [Sums.sum_zipIdx_single, if_pos ⟨Nat.zero_le _, by simpa using hlines line hline⟩]
  · simp only [if_neg hid]
    simp

theorem returnedTotal_eq (h : ReturnsLinked s) (hmem : sale ∈ s.sales.rows) :
    s.returnedTotal sale.id = (sale.lines.zipIdx.map fun x ↦
      s.returned sale.id x.2 SaleReturnLine.subtotal +
        s.returned sale.id x.2 SaleReturnLine.tax).sum := by
  rw [sum_map_add, sum_returned h hmem, sum_returned h hmem, ← total_add,
    Store.returnedTotal]
  apply total_congr
  intro r _
  split
  · rw [SaleReturn.total, Nat.cast_list_sum, map_map, ← sum_map_add]
    rfl
  · rfl


/-! ### The invariant -/

/-- **The invariant of sales and returns.** -/
structure ReturnInv (s : Store) : Prop where
  linked : ReturnsLinked s
  /-- Only completed sales have returns. -/
  completed : ∀ r ∈ s.saleReturns.rows, ∀ sale, s.sales.find? r.saleId = some sale →
    sale.isCompleted
  value : ∀ sale ∈ s.sales.rows, sale.loyaltyValue ≤ sale.total
  positive : ∀ sale ∈ s.sales.rows, ∀ line ∈ sale.lines, 0 < line.quantity
  share : ∀ r ∈ s.saleReturns.rows, 0 ≤ r.loyaltyValueRestored ∧ r.loyaltyValueRestored ≤ r.total
  target : ∀ sale ∈ s.sales.rows, s.loyaltyRestored sale.id =
    targetLoyalty sale.loyaltyValue sale.total (s.returnedTotal sale.id)
  /-- The return that completes a line takes what is left of its money. -/
  complete : ∀ sale ∈ s.sales.rows, ∀ x ∈ sale.lines.zipIdx,
    s.returned sale.id x.2 SaleReturnLine.quantity = x.1.quantity →
      s.returned sale.id x.2 SaleReturnLine.subtotal = x.1.subtotal ∧
        s.returned sale.id x.2 SaleReturnLine.tax = x.1.tax

theorem ReturnInv.of_eq (h : ReturnInv s) (hsales : s'.sales = s.sales)
    (hreturns : s'.saleReturns = s.saleReturns) : ReturnInv s' := by
  cases s
  cases s'
  simp only at hsales hreturns
  subst hsales hreturns
  exact ⟨h.linked, h.completed, h.value, h.positive, h.share, h.target, h.complete⟩

theorem ReturnInv.loyaltyRestored_nonneg (h : ReturnInv s) (saleId : Uuid) :
    0 ≤ s.loyaltyRestored saleId := by
  apply total_nonneg
  intro r hr
  split
  · exact (h.share r hr).1
  · exact le_rfl

/-- **A sale that has been returned in full** has been returned to the last cent. -/
theorem ReturnInv.returnedTotal_of_fullyReturned (h : ReturnInv s) (hmem : sale ∈ s.sales.rows)
    (hfull : s.FullyReturned sale) :
    s.returnedTotal sale.id = sale.total := by
  rw [returnedTotal_eq h.linked hmem, Sale.total, linesTotal, Nat.cast_list_sum, map_map]
  have hlines : sale.lines.map ((Nat.cast : ℕ → ℤ) ∘ SaleLine.total) =
      sale.lines.zipIdx.map fun x ↦ ((x.1.total : ℕ) : ℤ) := by
    conv_lhs => rw [← zipIdx_map_fst 0 sale.lines]
    rw [map_map]
    rfl
  rw [hlines]
  congr 1
  apply map_congr_left
  intro x hx
  obtain ⟨hsubtotal, htax⟩ := h.complete sale hmem x hx (hfull x hx)
  rw [hsubtotal, htax, SaleLine.total]
  exact (Nat.cast_add _ _).symm

/-! ### What a return in flight knows -/

/-- **What a return in flight knows** of the sale and of the returns before it. -/
structure ReturnRead (s : Store) (sale : Sale) (prepared : List PreparedLine) (restored : ℤ) :
    Prop where
  found : s.sales.find? sale.id = some sale
  completed : sale.isCompleted
  nodup : (prepared.map PreparedLine.saleLine).Nodup
  line : ∀ line ∈ prepared, ∃ source, sale.lines[line.saleLine]? = some source ∧
    (s.returned sale.id line.saleLine SaleReturnLine.quantity + line.quantity = source.quantity →
      line.subtotal = source.subtotal - s.returned sale.id line.saleLine SaleReturnLine.subtotal ∧
        line.tax = source.tax - s.returned sale.id line.saleLine SaleReturnLine.tax)
  restored : restored = targetLoyalty sale.loyaltyValue sale.total
    (s.returnedTotal sale.id + preparedTotal prepared) - s.loyaltyRestored sale.id

def KnownOfReturn (request : Request) (decision : Decision) (s : Store) : Prop :=
  ∀ input sale prepared restored, request = .saleReturn input →
    decision = .saleReturn (.persist sale prepared restored) →
      sale.id = input.saleId ∧ ReturnRead s sale prepared restored

/-- A credit payment has nothing to know: it writes no return. -/
theorem knownOfReturn_payment (input : CreditPaymentInput) (decision : Decision) (s : Store) :
    KnownOfReturn (.creditPayment input) decision s := by
  rintro _ _ _ _ ⟨⟩

theorem prepareLine_eq_ok {requested : ReturnLineInput} {line : PreparedLine}
    (h : prepareLine s sale requested = .ok line) :
    line.saleLine = requested.saleLine ∧ ∃ source, sale.lines[line.saleLine]? = some source ∧
        (s.returned sale.id line.saleLine SaleReturnLine.quantity + line.quantity =
            source.quantity →
          line.subtotal = source.subtotal -
              s.returned sale.id line.saleLine SaleReturnLine.subtotal ∧
            line.tax = source.tax - s.returned sale.id line.saleLine SaleReturnLine.tax) := by
  simp only [prepareLine, eq_ok] at h
  obtain ⟨source, hsource, -, -, rfl⟩ := h
  refine ⟨rfl, source, hsource, ?_⟩
  intro hcomplete
  simp only [prorateMoney, hcomplete, decide_true, if_true, and_self]

variable {request : Request} {decision : Decision} {status : SettlementStatus} {id : Uuid}

theorem knownOfReturn_of_read (hinv : ReturnInv s) (h : protocol.read request s = .ok decision) :
    KnownOfReturn request decision s := by
  rintro input sale prepared restored rfl rfl
  obtain ⟨_, hread, ⟨⟩⟩ := map_eq_ok.mp h
  rw [readReturn] at hread
  split at hread
  · simp only [eq_ok, reduceCtorEq, and_false, exists_false] at hread
  simp only [eq_ok, Option.filter_eq_some_iff, SaleReturns.toMoney_columnText, Option.some.injEq,
    exists_eq_left', ReturnDecision.persist.injEq, misread_of_nonneg (returnedTotal_nonneg _),
    misread_of_nonneg (hinv.loyaltyRestored_nonneg _)] at hread
  obtain ⟨sale, ⟨hfind, -⟩, -, hcompleted, -, -, -, hnodup, prepared, hprepared, rfl, rfl, rfl⟩ :=
    hread
  have hid : sale.id = input.saleId := key_of_find? hfind
  refine ⟨hid, by rw [hid]; exact hfind, hcompleted, ?_, ?_, rfl⟩
  · rw [map_mapM (fun _ _ hline ↦ (prepareLine_eq_ok hline).1) hprepared]
    exact hnodup
  · intro line hline
    obtain ⟨requested, -, hrequested⟩ := exists_of_mem_mapM hprepared hline
    exact (prepareLine_eq_ok hrequested).2

/-! ### What the others leave alone -/

/-- The weight of a return does not depend on how much of it has been settled. -/
def IgnoresStatus (w : SaleReturn → ℤ) : Prop :=
  ∀ r status, w { r with settlementStatus := status } = w r

theorem total_settled {w : SaleReturn → ℤ} (hw : IgnoresStatus w) :
    (s.saleReturns.update id fun r ↦ { r with settlementStatus := status }).total w =
      s.saleReturns.total w :=
  total_update_of_forall fun r _ _ ↦ hw r status

/-- **What stays of a sale**: its row, and the sums over its returns. -/
structure SameReturns (s : Store) (sales : Table Sale) (saleReturns : Table SaleReturn)
    (saleId : Uuid) : Prop where
  found : ∀ sale, s.sales.find? saleId = some sale → sales.find? saleId = some sale
  total : ∀ w : SaleReturn → ℤ, IgnoresStatus w →
    (saleReturns.total fun r ↦ if r.saleId = saleId then w r else 0) =
      s.saleReturns.total fun r ↦ if r.saleId = saleId then w r else 0

/-- **A transaction that does not lock the sale** leaves it and its returns alone. -/
theorem sameReturns_of_not_locked (hknown : KnownOfReturn request decision s)
    (hholds : LockedRow.sale saleId ∉ protocol.holds request)
    (hneeds : LockedRow.sale saleId ∉ protocol.needs request decision s)
    (h : protocol.write request decision s = .ok s') :
    SameReturns s s'.sales s'.saleReturns saleId := by
  have hcommit := saleCommit h
  revert hcommit
  generalize s'.sales = sales, s'.saleReturns = saleReturns, s'.settlements = settlements,
    s'.loyalty = loyalty
  intro hcommit
  cases hcommit with
  | same | rules | view => exact ⟨fun _ h ↦ h, fun _ _ ↦ rfl⟩
  | sale _ hinsert => exact ⟨fun _ h ↦ find?_insert_of_some hinsert h, fun _ _ ↦ rfl⟩
  | @voidSale input sale _ _ hfind =>
    have hne : saleId ≠ sale.id := by
      rintro rfl
      refine hneeds ?_
      have hid : sale.id = input.saleId := key_of_find? hfind
      rw [hid]
      exact mem_cons_self
    refine ⟨fun other hother ↦ ?_, fun _ _ ↦ rfl⟩
    rw [find?_update_of_ne hne]
    exact hother
  | @saleReturn input sale prepared restored saleReturn _ _ _ hsale _ _ _ hinsert =>
    have hne : saleReturn.saleId ≠ saleId := by
      rintro rfl
      refine hholds ?_
      rw [hsale, (hknown input sale prepared restored rfl rfl).1]
      exact mem_cons_self
    refine ⟨fun _ h ↦ h, fun w _ ↦ ?_⟩
    rw [total_insert hinsert, if_neg hne, add_zero]
  | settlement =>
    refine ⟨fun _ h ↦ h, fun w hw ↦ ?_⟩
    split
    · apply total_settled
      intro r status
      show (if r.saleId = saleId then w { r with settlementStatus := status } else 0) = _
      rw [hw r status]
    · rfl

theorem ReturnRead.of_same {prepared : List PreparedLine} {restored : ℤ}
    (h : ReturnRead s sale prepared restored)
    (hsame : SameReturns s s'.sales s'.saleReturns sale.id) :
    ReturnRead s' sale prepared restored := by
  have hreturned (n : ℕ) (column : SaleReturnLine → ℕ) :
      s'.returned sale.id n column = s.returned sale.id n column := by
    rw [Store.returned, Store.returned]
    exact hsame.total _ fun _ _ ↦ rfl
  have htotal : s'.returnedTotal sale.id = s.returnedTotal sale.id :=
    hsame.total (fun r ↦ r.total) fun _ _ ↦ rfl
  have hrestored : s'.loyaltyRestored sale.id = s.loyaltyRestored sale.id :=
    hsame.total (fun r ↦ r.loyaltyValueRestored) fun _ _ ↦ rfl
  refine ⟨hsame.found _ h.found, h.completed, h.nodup, ?_, ?_⟩
  · intro line hline
    rw [hreturned, hreturned, hreturned]
    exact h.line line hline
  · rw [htotal, hrestored]
    exact h.restored

/-! ### What keeps the invariant -/

namespace ReturnInv

variable {sale : Sale}

theorem insertSale (h : ReturnInv s) {sales : Table Sale}
    (hinsert : s.sales.insert sale = some sales) (hvalue : sale.loyaltyValue ≤ sale.total)
    (hpositive : ∀ line ∈ sale.lines, 0 < line.quantity) : ReturnInv { s with sales := sales } := by
  have hnew : s.sales.find? sale.id = none := (insert_eq_some hinsert).1
  refine ⟨?_, ?_, ?_, ?_, h.share, ?_, ?_⟩
  · intro r hr
    obtain ⟨owner, hfind, hlines⟩ := h.linked r hr
    exact ⟨owner, find?_insert_of_some hinsert hfind, hlines⟩
  · intro r hr owner hfind
    obtain ⟨found, hfound, -⟩ := h.linked r hr
    have hsame : sales.find? r.saleId = some found := find?_insert_of_some hinsert hfound
    obtain rfl : found = owner := Option.some.inj (hsame.symm.trans hfind)
    exact h.completed r hr found hfound
  · exact (forall_mem_insert hinsert).mpr ⟨h.value, hvalue⟩
  · exact (forall_mem_insert hinsert).mpr ⟨h.positive, hpositive⟩
  · refine (forall_mem_insert hinsert).mpr ⟨h.target, ?_⟩
    have htotal : s.returnedTotal sale.id = 0 := total_returns_eq_zero h.linked hnew _
    have hrestored : s.loyaltyRestored sale.id = 0 := total_returns_eq_zero h.linked hnew _
    show s.loyaltyRestored sale.id = targetLoyalty _ _ (s.returnedTotal sale.id)
    rw [htotal, hrestored, targetLoyalty_zero hvalue]
  · refine (forall_mem_insert hinsert).mpr ⟨h.complete, fun line hline hcomplete ↦ ?_⟩
    have hnone : s.returned sale.id line.2 SaleReturnLine.quantity = 0 :=
      total_returns_eq_zero h.linked hnew _
    have hzero : (0 : ℤ) = line.1.quantity := hnone.symm.trans hcomplete
    have := hpositive line.1 (fst_mem_of_mem_zipIdx hline)
    omega

theorem voidSale (h : ReturnInv s) {voided : SaleVoid}
    (hreturns : ∀ r ∈ s.saleReturns.rows, r.saleId ≠ sale.id) :
    ReturnInv { s with sales := s.sales.update sale.id fun x ↦ { x with
      payments := x.payments.map SalePayment.reversed, voided := some voided } } := by
  have hother : ∀ r ∈ s.saleReturns.rows,
      (s.sales.update sale.id fun x ↦ { x with
        payments := x.payments.map SalePayment.reversed
        voided := some voided }).find? r.saleId = s.sales.find? r.saleId :=
    fun r hr ↦ find?_update_of_ne (hreturns r hr)
  refine ⟨?_, ?_, ?_, ?_, h.share, ?_, ?_⟩
  · intro r hr
    obtain ⟨owner, hfind, hlines⟩ := h.linked r hr
    exact ⟨owner, (hother r hr).trans hfind, hlines⟩
  · intro r hr owner hfind
    exact h.completed r hr owner ((hother r hr).symm.trans hfind)
  · exact forall_mem_update (fun _ ↦ by rfl) h.value fun _ _ hx ↦ hx
  · exact forall_mem_update (fun _ ↦ by rfl) h.positive fun _ _ hx ↦ hx
  · exact forall_mem_update (fun _ ↦ by rfl) h.target fun _ _ hx ↦ hx
  · exact forall_mem_update (fun _ ↦ by rfl) h.complete fun _ _ hx ↦ hx

variable {saleReturn : SaleReturn} {prepared : List PreparedLine}

theorem total_of_prepared
    (hpositive : ∀ line ∈ prepared, 0 < line.quantity ∧ 0 ≤ line.subtotal ∧ 0 ≤ line.tax)
    (hlines : saleReturn.lines = prepared.map PreparedLine.row) :
    preparedTotal prepared = saleReturn.total := by
  rw [SaleReturn.total, hlines, preparedTotal, Nat.cast_list_sum, map_map, map_map]
  congr 1
  apply map_congr_left
  intro line hline
  obtain ⟨-, hsubtotal, htax⟩ := hpositive line hline
  show line.subtotal + line.tax = ((line.subtotal.toNat + line.tax.toNat : ℕ) : ℤ)
  omega

variable {saleReturns : Table SaleReturn}

section

variable {restored : ℤ} (h : ReturnInv s) (hread : ReturnRead s sale prepared restored)
  (hpositive : ∀ line ∈ prepared, 0 < line.quantity ∧ 0 ≤ line.subtotal ∧ 0 ≤ line.tax)
  (hsale : saleReturn.saleId = sale.id)
include h hread hpositive hsale

/-- **The return that completes a line** takes what is left of its money. -/
theorem completes (hlines : saleReturn.lines = prepared.map PreparedLine.row)
    (hinsert : s.saleReturns.insert saleReturn = some saleReturns) {x : SaleLine × ℕ}
    (hx : x ∈ sale.lines.zipIdx)
    (hcomplete : ({ s with saleReturns := saleReturns } : Store).returned sale.id x.2
      SaleReturnLine.quantity = x.1.quantity) :
    ({ s with saleReturns := saleReturns } : Store).returned sale.id x.2 SaleReturnLine.subtotal =
        x.1.subtotal ∧
      ({ s with saleReturns := saleReturns } : Store).returned sale.id x.2 SaleReturnLine.tax =
        x.1.tax := by
  have hmem : sale ∈ s.sales.rows := mem_of_find? hread.found
  have hgrows (column : SaleReturnLine → ℕ) :
      ({ s with saleReturns := saleReturns } : Store).returned sale.id x.2 column =
        s.returned sale.id x.2 column +
          (prepared.map fun p ↦ if p.saleLine = x.2 then (column p.row : ℤ) else 0).sum := by
    show saleReturns.total _ = _
    rw [total_insert hinsert, if_pos hsale, hlines, map_map]
    rfl
  rw [hgrows] at hcomplete
  rw [hgrows, hgrows]
  by_cases hprepared : ∃ p ∈ prepared, p.saleLine = x.2
  · obtain ⟨p, hp, hpx⟩ := hprepared
    have hone (column : SaleReturnLine → ℕ) :
        (prepared.map fun q ↦ if q.saleLine = x.2 then (column q.row : ℤ) else 0).sum =
          column p.row := by
      rw [← hpx]
      exact Sums.sum_key_eq PreparedLine.saleLine (fun q ↦ (column q.row : ℤ)) hread.nodup hp
    obtain ⟨source, hsource, hline⟩ := hread.line p hp
    obtain rfl : x.1 = source := by
      rw [hpx, mem_zipIdx_iff_getElem?.mp hx] at hsource
      exact Option.some.inj hsource
    obtain ⟨-, hsubtotal, htax⟩ := hpositive p hp
    rw [hone] at hcomplete
    rw [hpx] at hline
    obtain ⟨hsub, htx⟩ := hline hcomplete
    rw [hone, hone]
    show _ + ((p.subtotal.toNat : ℕ) : ℤ) = _ ∧ _ + ((p.tax.toNat : ℕ) : ℤ) = _
    omega
  · have hnone (column : SaleReturnLine → ℕ) :
        (prepared.map fun q ↦ if q.saleLine = x.2 then (column q.row : ℤ) else 0).sum = 0 := by
      refine sum_eq_zero (List.forall_mem_map.mpr fun q hq ↦ ?_)
      exact if_neg fun hqx ↦ hprepared ⟨q, hq, hqx⟩
    rw [hnone, add_zero] at hcomplete
    rw [hnone, hnone, add_zero, add_zero]
    exact h.complete sale hmem x hx hcomplete

/-- **A return adds to what it has read**: to the money, to the loyalty value, and to each line the
line it has prepared for it. -/
theorem insertReturn (hrestored : saleReturn.loyaltyValueRestored = restored)
    (hlines : saleReturn.lines = prepared.map PreparedLine.row)
    (hinsert : s.saleReturns.insert saleReturn = some saleReturns) :
    ReturnInv { s with saleReturns := saleReturns } := by
  have hmem : sale ∈ s.sales.rows := mem_of_find? hread.found
  have htotal := total_of_prepared hpositive hlines
  refine ⟨?_, ?_, h.value, h.positive, ?_, ?_, ?_⟩
  · refine (forall_mem_insert hinsert).mpr ⟨h.linked, ?_⟩
    refine ⟨sale, by rw [hsale]; exact hread.found, ?_⟩
    rw [hlines]
    refine List.forall_mem_map.mpr fun p hp ↦ ?_
    obtain ⟨source, hsource, -⟩ := hread.line p hp
    exact (List.getElem?_eq_some_iff.mp hsource).1
  · refine (forall_mem_insert hinsert).mpr ⟨h.completed, fun owner hfind ↦ ?_⟩
    rw [hsale] at hfind
    obtain rfl : sale = owner := Option.some.inj (hread.found.symm.trans hfind)
    exact hread.completed
  · refine (forall_mem_insert hinsert).mpr ⟨h.share, ?_⟩
    have hstep := targetLoyalty_step (h.value sale hmem) (returnedTotal_nonneg (s := s) sale.id)
      (Nat.cast_nonneg saleReturn.total)
    rw [hrestored, hread.restored, h.target sale hmem, htotal]
    exact hstep
  · intro x hx
    show saleReturns.total _ = targetLoyalty _ _ (saleReturns.total _)
    rw [total_insert hinsert, total_insert hinsert]
    have hold := h.target x hx
    rw [Store.loyaltyRestored, Store.returnedTotal] at hold
    by_cases hid : saleReturn.saleId = x.id
    · obtain rfl : sale = x :=
        eq_of_mem_of_key_eq hmem hx (show sale.id = x.id from hsale.symm.trans hid)
      rw [if_pos hid, if_pos hid, hrestored, hread.restored, htotal, Store.loyaltyRestored,
        Store.returnedTotal]
      ring
    · rw [if_neg hid, if_neg hid, add_zero, add_zero]
      exact hold
  · intro x hx line hline
    by_cases hid : saleReturn.saleId = x.id
    · obtain rfl : sale = x :=
        eq_of_mem_of_key_eq hmem hx (show sale.id = x.id from hsale.symm.trans hid)
      exact completes h hread hpositive hsale hlines hinsert hline
    · have hsame (column : SaleReturnLine → ℕ) :
          ({ s with saleReturns := saleReturns } : Store).returned x.id line.2 column =
            s.returned x.id line.2 column := by
        show saleReturns.total _ = _
        rw [total_insert hinsert, if_neg hid, add_zero]
        rfl
      rw [hsame, hsame, hsame]
      exact h.complete x hx line hline

end

theorem settle (h : ReturnInv s) (hupdate : saleReturns = s.saleReturns.update id fun r ↦
      { r with settlementStatus := status }) : ReturnInv { s with saleReturns := saleReturns } := by
  have hsum {w : SaleReturn → ℤ} (hw : IgnoresStatus w) :
      saleReturns.total w = s.saleReturns.total w := hupdate ▸ total_settled hw
  have hrows {r : SaleReturn} (hr : r ∈ saleReturns.rows) : ∃ old ∈ s.saleReturns.rows,
      (if old.id = id then { old with settlementStatus := status } else old) = r := by
    rw [hupdate, mem_update] at hr
    exact hr
  have hreturned (saleId : Uuid) (n : ℕ) (column : SaleReturnLine → ℕ) :
      ({ s with saleReturns := saleReturns } : Store).returned saleId n column =
        s.returned saleId n column := hsum fun _ _ ↦ rfl
  have htotal (saleId : Uuid) : ({ s with saleReturns := saleReturns } : Store).returnedTotal
      saleId = s.returnedTotal saleId := hsum fun _ _ ↦ rfl
  have hrestored (saleId : Uuid) : ({ s with saleReturns := saleReturns } : Store).loyaltyRestored
      saleId = s.loyaltyRestored saleId := hsum fun _ _ ↦ rfl
  refine ⟨?_, ?_, h.value, h.positive, ?_, ?_, ?_⟩
  · intro r hr
    obtain ⟨old, hold, rfl⟩ := hrows hr
    have := h.linked old hold
    split <;> exact this
  · intro r hr
    obtain ⟨old, hold, rfl⟩ := hrows hr
    have := h.completed old hold
    split <;> exact this
  · intro r hr
    obtain ⟨old, hold, rfl⟩ := hrows hr
    have := h.share old hold
    split <;> exact this
  · intro sale hsale
    rw [hrestored, htotal]
    exact h.target sale hsale
  · intro sale hsale x hx
    rw [hreturned, hreturned, hreturned]
    exact h.complete sale hsale x hx

/-- **Every commit keeps the invariant.** -/
theorem write (h : ReturnInv s) (hknown : KnownOfReturn request decision s)
    (hwrite : protocol.write request decision s = .ok s') : ReturnInv s' := by
  have hcommit : ∀ sales saleReturns settlements loyalty,
      SaleCommit s request decision sales saleReturns settlements loyalty →
        ReturnInv { s with sales := sales, saleReturns := saleReturns } := by
    intro sales saleReturns settlements loyalty hcommit
    cases hcommit with
    | same | rules | view => exact h
    | sale hrow hinsert hlines hloyalty =>
      refine h.insertSale hinsert ?_ fun line hline ↦ (hlines line hline).1
      rw [hrow]
      exact loyaltyValue_le hloyalty
    | voidSale _ _ hreturns => exact h.voidSale hreturns
    | @saleReturn input sale prepared restored _ _ _ hpositive hsale _ hrestored hlines hinsert =>
      obtain ⟨-, hread⟩ := hknown input sale prepared restored rfl rfl
      exact h.insertReturn hread hpositive hsale hrestored hlines hinsert
    | settlement =>
      split
      · exact h.settle rfl
      · exact h
  exact (hcommit _ _ _ _ (saleCommit hwrite)).of_eq rfl rfl

end ReturnInv

theorem ReturnInv.fresh (env : Env) (customers : Table Customer) :
    ReturnInv (Store.fresh env customers) where
  linked := by
    intro r hr
    cases hr
  completed := by
    intro r hr
    cases hr
  value := by
    intro sale hsale
    cases hsale
  positive := by
    intro sale hsale
    cases hsale
  share := by
    intro r hr
    cases hr
  target := by
    intro sale hsale
    cases hsale
  complete := by
    intro sale hsale
    cases hsale

/-! ### Runs -/

theorem KnownOfReturn.stable {request' : Request} {decision' : Decision}
    (hknown : KnownOfReturn request decision s) (hknown' : KnownOfReturn request' decision' s)
    (hdisjoint : ∀ row ∈ protocol.holds request,
      row ∉ protocol.holds request' ∧ row ∉ protocol.needs request' decision' s)
    (hwrite : protocol.write request' decision' s = .ok s') :
      KnownOfReturn request decision s' := by
  intro input sale prepared restored hrequest hdecision
  obtain ⟨hid, hread⟩ := hknown input sale prepared restored hrequest hdecision
  have hholds : LockedRow.sale sale.id ∈ protocol.holds request := by
    subst hrequest
    rw [hid]
    exact mem_cons_self
  obtain ⟨hholds', hneeds'⟩ := hdisjoint _ hholds
  exact ⟨hid, hread.of_same (sameReturns_of_not_locked hknown' hholds' hneeds' hwrite)⟩

/-- **The invariant of sales and returns** holds in every run. -/
theorem returns_sound : Sound protocol (fun _ _ _ ↦ True) ReturnInv KnownOfReturn where
  read := fun hinv hread ↦ knownOfReturn_of_read hinv hread
  reread := fun _ hknown hread ↦
    known_of_reread KnownOfReturn (fun input decision ↦ knownOfReturn_payment input decision _)
      hread hknown
  write := fun hinv hknown _ hwrite ↦ hinv.write hknown hwrite
  stable := fun _ hknown hknown' _ hdisjoint hwrite ↦ hknown.stable hknown' hdisjoint hwrite

end UInventario.Pos
