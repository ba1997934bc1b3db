import UInventario.Pos.PointEntries
import UInventario.Pos.ReturnedLines

/-!
# No point is lost or invented

The balance that authorises a redemption adds up all entries of a customer, and the debit that
follows consumes credits. Both stay in step over every run: the balance is what the credits have
left, and it is never negative. What comes back of a sale is bounded by what the sale redeemed and
earned, and is all of it once the sale is voided or returned in full.
-/

namespace UInventario.Pos

open Outcome LockedRuns LoyaltyBook Table Option

variable {s s' : Store} {saleReturns : Table SaleReturn} {saleId : Uuid} {saleReturn : SaleReturn}
  {input : SaleInput}

/-! ### The share of the points -/

section Prorate

variable {points : ℕ} {part part' total : ℤ}

theorem proratePoints_zero_part : proratePoints points 0 total = 0 := by
  rw [proratePoints, if_pos (Or.inr le_rfl)]

theorem proratePoints_zero_points : proratePoints 0 part total = 0 := by
  rw [proratePoints]
  split
  · rfl
  · split <;> simp

theorem proratePoints_total (htotal : 0 < total) : proratePoints points total total = points := by
  rw [proratePoints, if_neg (by omega), if_pos le_rfl]

theorem proratePoints_le : proratePoints points part total ≤ points := by
  rw [proratePoints]
  split
  · exact Nat.cast_nonneg _
  case isFalse hpos =>
    split
    · exact le_rfl
    · apply Int.ediv_le_of_le_mul (by omega)
      exact mul_le_mul_of_nonneg_left (by omega) (Nat.cast_nonneg _)

/-- **The share grows** with what has been returned. -/
theorem proratePoints_mono (h : part ≤ part') :
    proratePoints points part total ≤ proratePoints points part' total := by
  by_cases hzero : total ≤ 0 ∨ part ≤ 0
  · rw [proratePoints, if_pos hzero, proratePoints]
    split
    · exact le_rfl
    case isFalse hpos =>
      split
      · exact Nat.cast_nonneg _
      · have hpart : 0 ≤ part' := by omega
        exact Int.ediv_nonneg (mul_nonneg (Nat.cast_nonneg _) hpart) (by omega)
  · by_cases hfull : part' ≥ total
    · rw [proratePoints.eq_1 points part', if_neg (by omega), if_pos hfull]
      exact proratePoints_le
    · rw [proratePoints, proratePoints, if_neg hzero, if_neg (by omega), if_neg (by omega),
        if_neg hfull]
      exact Int.ediv_le_ediv (by omega) (mul_le_mul_of_nonneg_left h (Nat.cast_nonneg _))

end Prorate

/-! ### The invariant -/

/-- **The invariant of the points.** -/
structure PointInv (s : Store) : Prop where
  ledger : LedgerInv s.loyalty
  rules : ∀ rule ∈ s.loyalty.rules.rows, 0 < rule.redeemPoints ∧ 0 < rule.redeemAmount
  /-- An entry that belongs to a sale belongs to one that is there. -/
  entries : ∀ e ∈ s.loyalty.entries.rows, ∀ id, e.saleId = some id → (s.sales.find? id).isSome
  /-- Only a sale to a customer has points. -/
  customer : ∀ sale ∈ s.sales.rows, sale.customerId = none →
    sale.loyaltyPointsRedeemed = 0 ∧ sale.loyaltyPointsEarned = 0
  /-- A sale of nothing has no points. -/
  empty : ∀ sale ∈ s.sales.rows, sale.total = 0 →
    sale.loyaltyPointsRedeemed = 0 ∧ sale.loyaltyPointsEarned = 0
  points : ∀ sale ∈ s.sales.rows, ∀ type,
    s.loyalty.pointsOf sale.id type = sale.points (s.returnedTotal sale.id) type

theorem PointInv.of_eq (h : PointInv s) (hsales : s'.sales = s.sales)
    (hreturns : s'.saleReturns = s.saleReturns) (hloyalty : s'.loyalty = s.loyalty) :
    PointInv s' := by
  cases s
  cases s'
  simp only at hsales hreturns hloyalty
  subst hsales hreturns hloyalty
  exact ⟨h.ledger, h.rules, h.entries, h.customer, h.empty, h.points⟩

namespace PointInv

variable {sale : Sale}

theorem pointsOf_new (h : PointInv s) (hnew : s.sales.find? saleId = none)
    (type : LoyaltyEntryType) : s.loyalty.pointsOf saleId type = 0 := by
  apply total_eq_zero
  intro e he
  refine if_neg fun hsame ↦ ?_
  have hsome := h.entries e he saleId hsame.1
  rw [hnew] at hsome
  cases hsome

/-- **A void** gives back all that a completed sale has redeemed and takes back all it has earned.
-/
theorem compensable_void (h : PointInv s) (hmem : sale ∈ s.sales.rows)
    (hcompleted : sale.isCompleted) :
    restoredPoints s sale .VOID = sale.loyaltyPointsRedeemed ∧
      reversedPoints s sale .VOID = sale.loyaltyPointsEarned ∧ Compensable s sale .VOID := by
  have hrestored : restoredPoints s sale .VOID = sale.loyaltyPointsRedeemed := by
    rw [restoredPoints, Compensation.restoreType, h.points sale hmem, Sale.points,
      if_pos hcompleted, compensationTarget]
    omega
  have hreversed : reversedPoints s sale .VOID = sale.loyaltyPointsEarned := by
    rw [reversedPoints, Compensation.reversalType, h.points sale hmem, Sale.points,
      if_pos hcompleted, compensationTarget]
    omega
  refine ⟨hrestored, hreversed, h.points sale hmem _, h.points sale hmem _, h.customer sale hmem,
    ?_, ?_⟩
  · intro hzero
    rw [hrestored, hzero]
    rfl
  · intro hzero
    rw [hreversed, hzero]
    rfl

/-- **A return** gives and takes back what its share of the sale adds to the shares before. -/
theorem compensable_return (h : PointInv s) (hmem : sale ∈ s.sales.rows)
    (hsale : saleReturn.saleId = sale.id)
    (hinsert : s.saleReturns.insert saleReturn = some saleReturns) :
    restoredPoints { s with saleReturns := saleReturns } sale (.RETURN saleReturn.id) =
        proratePoints sale.loyaltyPointsRedeemed
          (s.returnedTotal sale.id + saleReturn.total) sale.total -
          proratePoints sale.loyaltyPointsRedeemed (s.returnedTotal sale.id) sale.total ∧
      reversedPoints { s with saleReturns := saleReturns } sale (.RETURN saleReturn.id) =
        proratePoints sale.loyaltyPointsEarned
          (s.returnedTotal sale.id + saleReturn.total) sale.total -
          proratePoints sale.loyaltyPointsEarned (s.returnedTotal sale.id) sale.total ∧
      Compensable { s with saleReturns := saleReturns } sale (.RETURN saleReturn.id) := by
  have htotal : ({ s with saleReturns := saleReturns } : Store).returnedTotal sale.id =
      s.returnedTotal sale.id + saleReturn.total := by
    show saleReturns.total _ = _
    rw [total_insert hinsert, if_pos hsale]
    rfl
  have hmono (points : ℕ) : proratePoints points (s.returnedTotal sale.id) sale.total ≤
      proratePoints points (s.returnedTotal sale.id + saleReturn.total) sale.total :=
    proratePoints_mono (by omega)
  have hrestored : restoredPoints { s with saleReturns := saleReturns } sale
      (.RETURN saleReturn.id) = proratePoints sale.loyaltyPointsRedeemed
        (s.returnedTotal sale.id + saleReturn.total) sale.total -
        proratePoints sale.loyaltyPointsRedeemed (s.returnedTotal sale.id) sale.total := by
    rw [restoredPoints, Compensation.restoreType, h.points sale hmem, Sale.points,
      compensationTarget, htotal, max_eq_right (sub_nonneg.mpr (hmono _))]
  have hreversed : reversedPoints { s with saleReturns := saleReturns } sale
      (.RETURN saleReturn.id) = proratePoints sale.loyaltyPointsEarned
        (s.returnedTotal sale.id + saleReturn.total) sale.total -
        proratePoints sale.loyaltyPointsEarned (s.returnedTotal sale.id) sale.total := by
    rw [reversedPoints, Compensation.reversalType, h.points sale hmem, Sale.points,
      compensationTarget, htotal, neg_neg, max_eq_right (sub_nonneg.mpr (hmono _))]
  refine ⟨hrestored, hreversed, h.points sale hmem _, h.points sale hmem _, h.customer sale hmem,
    ?_, ?_⟩
  · intro hzero
    rw [hrestored, hzero, proratePoints_zero_points, proratePoints_zero_points, sub_zero]
  · intro hzero
    rw [hreversed, hzero, proratePoints_zero_points, proratePoints_zero_points, sub_zero]

end PointInv

/-! ### New sales -/

def SaleInput.redeemed (input : SaleInput) : ℕ :=
  (input.loyalty.map LoyaltyQuote.pointsRedeemed).getD 0

def SaleInput.earned (input : SaleInput) : ℕ :=
  (input.loyalty.map LoyaltyQuote.pointsEarned).getD 0

/-- **A new sale** books the points of its request, and none if it is a sale of nothing. -/
theorem saleLoyalty_adds {loyalty : LoyaltyBook}
    (hrules : ∀ rule ∈ s.loyalty.rules.rows, 0 < rule.redeemPoints ∧ 0 < rule.redeemAmount)
    (h : saleLoyalty s input saleId = .ok loyalty) :
    Adds s.loyalty saleId (fun type ↦ single .REDEEM (-(input.redeemed : ℤ)) type +
      single .EARN input.earned type) loyalty ∧
      (input.total = 0 → input.redeemed = 0 ∧ input.earned = 0) := by
  have hnothing (hnone : input.loyalty = none) :
      Adds s.loyalty saleId (fun type ↦ single .REDEEM (-(input.redeemed : ℤ)) type +
        single .EARN input.earned type) s.loyalty ∧
        (input.total = 0 → input.redeemed = 0 ∧ input.earned = 0) := by
    have hredeemed : input.redeemed = 0 := by rw [SaleInput.redeemed, hnone]; rfl
    have hearned : input.earned = 0 := by rw [SaleInput.earned, hnone]; rfl
    have hzero :
      (fun type ↦ single .REDEEM (-((0 : ℕ) : ℤ)) type + single .EARN ((0 : ℕ) : ℤ) type) =
        fun _ ↦ 0 := by
      funext type
      rw [single, single, Nat.cast_zero, neg_zero, ite_self, ite_self, add_zero]
    rw [hredeemed, hearned, hzero]
    exact ⟨.refl _, fun _ ↦ ⟨rfl, rfl⟩⟩
  rw [saleLoyalty] at h
  split at h
  case h_1 hnone =>
    rw [pure_eq_ok] at h
    exact h ▸ hnothing (by rw [SaleInput.loyalty, hnone]; rfl)
  case h_2 customer hcustomer =>
    split at h
    case h_1 hnone =>
      rw [pure_eq_ok] at h
      exact h ▸ hnothing (by rw [SaleInput.loyalty, hcustomer]; exact hnone)
    case h_2 quote hquote =>
      obtain ⟨book, rule, current, hbook, hrule, hcurrent, -, hearned, hentries⟩ :=
        applySale_eq_ok h
      have hloyalty : input.loyalty = some quote := by
        rw [SaleInput.loyalty, hcustomer]
        exact hquote
      have hcurrentRedeemed : current.pointsRedeemed = input.redeemed := by
        rw [(quoteLoyalty_eq_ok hcurrent).2.1, SaleInput.redeemed, hloyalty]
        rfl
      have hcurrentEarned : current.pointsEarned = input.earned := by
        rw [hearned, SaleInput.earned, hloyalty]
        rfl
      have hexpired := Adds.materializeExpirations saleId hbook
      constructor
      · have htotal := hexpired.trans (Adds.insertSaleEntries hentries)
        simpa only [zero_add, hcurrentRedeemed, hcurrentEarned] using htotal
      · intro hempty
        rw [hexpired.rules] at hrule
        obtain ⟨-, hamount⟩ := hrules rule hrule
        have hsaleTotal : quoteLoyalty rule (book.balance customer.id) input.total
            quote.pointsRedeemed = .ok current := hcurrent
        rw [hempty] at hsaleTotal
        rw [← hcurrentRedeemed, ← hcurrentEarned]
        exact quoteLoyalty_of_total_zero hamount hsaleTotal

/-! ### What keeps the invariant -/

namespace PointInv

variable {sale : Sale} {loyalty : LoyaltyBook}

variable {sales : Table Sale} {id : Uuid}

theorem entries_of_adds (h : PointInv s) {points : LoyaltyEntryType → ℤ}
    (hadds : Adds s.loyalty saleId points loyalty)
    (hkeeps : ∀ id, (s.sales.find? id).isSome → (sales.find? id).isSome)
    (hsale : (sales.find? saleId).isSome) {e : LoyaltyEntry} (he : e ∈ loyalty.entries.rows)
    (hid : e.saleId = some id) : (sales.find? id).isSome := by
  rcases hadds.sales e he id hid with rfl | ⟨e₀, he₀, hid₀⟩
  · exact hsale
  · exact hkeeps id (h.entries e₀ he₀ id hid₀)

theorem insertSale (h : PointInv s) (hreturns : ReturnsLinked s)
    {payments : List SalePayment} (hrow : sale = input.row sale.id payments)
    (hinsert : s.sales.insert sale = some sales)
    (hloyalty : saleLoyalty s input sale.id = .ok loyalty) :
    PointInv { s with sales := sales, loyalty := loyalty } := by
  obtain ⟨hadds, hempty⟩ := saleLoyalty_adds h.rules hloyalty
  have hnew : s.sales.find? sale.id = none := (insert_eq_some hinsert).1
  have hredeemed : sale.loyaltyPointsRedeemed = input.redeemed := by rw [hrow]; rfl
  have hearned : sale.loyaltyPointsEarned = input.earned := by rw [hrow]; rfl
  refine ⟨hadds.ledger h.ledger, ?_, ?_, ?_, ?_, ?_⟩
  · rw [hadds.rules]
    exact h.rules
  · intro e he id hid
    refine h.entries_of_adds hadds ?_ ?_ he hid
    · intro id hfound
      obtain ⟨owner, howner⟩ := isSome_iff_exists.mp hfound
      exact isSome_iff_exists.mpr ⟨owner, find?_insert_of_some hinsert howner⟩
    · exact isSome_iff_exists.mpr ⟨sale, find?_insert_self hinsert⟩
  · refine (forall_mem_insert hinsert).mpr ⟨h.customer, fun hcustomer ↦ ?_⟩
    rw [hrow] at hcustomer
    have hnone : input.customer = none := map_eq_none_iff.mp hcustomer
    have hloyalty : input.loyalty = none := by
      rw [SaleInput.loyalty, hnone]
      rfl
    rw [hredeemed, hearned, SaleInput.redeemed, SaleInput.earned, hloyalty]
    exact ⟨rfl, rfl⟩
  · refine (forall_mem_insert hinsert).mpr ⟨h.empty, fun htotal ↦ ?_⟩
    rw [hredeemed, hearned]
    refine hempty ?_
    rw [hrow] at htotal
    exact htotal
  · intro x hx type
    show loyalty.pointsOf x.id type = x.points (s.returnedTotal x.id) type
    rw [hadds.points]
    rcases (mem_insert hinsert).mp hx with hx | rfl
    · have hne : x.id ≠ sale.id := Table.find?_eq_none.mp hnew x hx
      rw [if_neg hne, add_zero, h.points x hx]
    · have hreturned : s.returnedTotal x.id = 0 := total_returns_eq_zero hreturns hnew _
      have hcompleted : x.isCompleted := by
        rw [hrow]
        rfl
      rw [if_pos rfl, h.pointsOf_new hnew, hreturned, zero_add]
      cases type <;>
        simp [Sale.points, single, hredeemed, hearned, hcompleted, proratePoints_zero_part]

variable {clock : LoyaltyClock}

section

variable (h : PointInv s)
include h

theorem voidSale (hmem : sale ∈ s.sales.rows) (hcompleted : sale.isCompleted)
    (hloyalty : compensateSale s clock sale .VOID = .ok loyalty)
    {voided : SaleVoid} (hupdate : sales = s.sales.update sale.id fun x ↦
      { x with
        payments := x.payments.map SalePayment.reversed
        voided := some voided }) : PointInv { s with sales := sales, loyalty := loyalty } := by
  obtain ⟨hrestored, hreversed, hcompensable⟩ := h.compensable_void hmem hcompleted
  have hadds := hcompensable.adds hloyalty
  rw [hrestored, hreversed] at hadds
  have hrows : ∀ x ∈ sales.rows, ∃ old ∈ s.sales.rows, (if old.id = sale.id then { old with
      payments := old.payments.map SalePayment.reversed, voided := some voided } else old) = x := by
    intro x hx
    rw [hupdate, mem_update] at hx
    exact hx
  refine ⟨hadds.ledger h.ledger, ?_, ?_, ?_, ?_, ?_⟩
  · rw [hadds.rules]
    exact h.rules
  · have hkeeps : ∀ id, (s.sales.find? id).isSome → (sales.find? id).isSome := by
      intro id hfound
      rw [hupdate, find?_update, isSome_map]
      exact hfound
    intro e he id hid
    refine h.entries_of_adds hadds hkeeps (hkeeps _ ?_) he hid
    exact isSome_iff_exists.mpr ⟨sale, find?_key_of_mem hmem⟩
  · intro x hx
    obtain ⟨old, hold, rfl⟩ := hrows x hx
    have := h.customer old hold
    split <;> exact this
  · intro x hx
    obtain ⟨old, hold, rfl⟩ := hrows x hx
    have := h.empty old hold
    split <;> exact this
  · intro x hx type
    obtain ⟨old, hold, rfl⟩ := hrows x hx
    have hpoints := h.points old hold type
    split
    case isTrue hid =>
      obtain rfl : old = sale := eq_of_mem_of_key_eq hold hmem hid
      show loyalty.pointsOf old.id type = Sale.points { old with
        payments := old.payments.map SalePayment.reversed
        voided := some voided } (s.returnedTotal old.id) type
      have hvoided : ¬Sale.isCompleted { old with
        payments := old.payments.map SalePayment.reversed
        voided := some voided } := some_ne_none _
      rw [hadds.points, if_pos rfl, hpoints]
      cases type <;>
        simp [Sale.points, single, Compensation.restoreType, Compensation.reversalType, hcompleted,
          hvoided, Sale.total]
    case isFalse hid =>
      show loyalty.pointsOf old.id type = old.points (s.returnedTotal old.id) type
      rw [hadds.points, if_neg hid, add_zero, hpoints]

theorem insertReturn (hmem : sale ∈ s.sales.rows) (hsale : saleReturn.saleId = sale.id)
    (hinsert : s.saleReturns.insert saleReturn = some saleReturns)
    (hloyalty : compensateSale { s with saleReturns := saleReturns } clock sale
      (.RETURN saleReturn.id) = .ok loyalty) :
    PointInv { s with saleReturns := saleReturns, loyalty := loyalty } := by
  obtain ⟨hrestored, hreversed, hcompensable⟩ := h.compensable_return hmem hsale hinsert
  have hadds := hcompensable.adds hloyalty
  rw [hrestored, hreversed] at hadds
  refine ⟨hadds.ledger h.ledger, ?_, ?_, h.customer, h.empty, ?_⟩
  · rw [hadds.rules]
    exact h.rules
  · intro e he id hid
    refine h.entries_of_adds hadds (fun _ hfound ↦ hfound) ?_ he hid
    exact isSome_iff_exists.mpr ⟨sale, find?_key_of_mem hmem⟩
  · intro x hx type
    have hpoints := h.points x hx type
    show loyalty.pointsOf x.id type = x.points (saleReturns.total _) type
    have hold : s.loyalty.pointsOf x.id type =
      ({ s with saleReturns := saleReturns } : Store).loyalty.pointsOf x.id type := rfl
    rw [hadds.points, ← hold, hpoints, total_insert hinsert]
    by_cases hid : saleReturn.saleId = x.id
    · obtain rfl : x = sale := eq_of_mem_of_key_eq hx hmem (show x.id = sale.id by
        rw [← hid, hsale])
      rw [if_pos rfl, if_pos hid]
      show x.points (s.returnedTotal x.id) type + _ =
        x.points (s.returnedTotal x.id + saleReturn.total) type
      cases type with
      | RETURN_EARN_REVERSAL =>
        simp only [Sale.points, single, Compensation.restoreType, Compensation.reversalType,
          reduceCtorEq, if_false, if_true]
        ring
      | _ => simp [Sale.points, single, Compensation.restoreType, Compensation.reversalType]
    · have hne : x.id ≠ sale.id := fun heq ↦ hid (hsale.trans heq.symm)
      rw [if_neg hne, if_neg hid, add_zero, add_zero]
      rfl

theorem unrelated (hledger : LedgerInv loyalty)
    (hrules : ∀ rule ∈ loyalty.rules.rows, 0 < rule.redeemPoints ∧ 0 < rule.redeemAmount)
    (hentries : ∀ e ∈ loyalty.entries.rows, ∀ id, e.saleId = some id →
      ∃ e₀ ∈ s.loyalty.entries.rows, e₀.saleId = some id)
    (hpoints : ∀ id type, loyalty.pointsOf id type = s.loyalty.pointsOf id type) :
    PointInv { s with loyalty := loyalty } := by
  refine ⟨hledger, hrules, ?_, h.customer, h.empty, ?_⟩
  · intro e he id hid
    obtain ⟨e₀, he₀, hid₀⟩ := hentries e he id hid
    exact h.entries e₀ he₀ id hid₀
  · intro sale hsale type
    show loyalty.pointsOf sale.id type = sale.points (s.returnedTotal sale.id) type
    rw [hpoints, h.points sale hsale]

theorem view {customerId : Uuid}
    (hloyalty : s.loyalty.materializeExpirations s.env clock customerId = .ok loyalty) :
    PointInv { s with loyalty := loyalty } := by
  have hadds (saleId : Uuid) := Adds.materializeExpirations saleId hloyalty
  refine h.unrelated ((hadds 0).ledger h.ledger) ?_ ?_ ?_
  · rw [(hadds 0).rules]
    exact h.rules
  · -- an entry of a sale is not one of the expirations: take another sale as the one they are of
    intro e he id hid
    exact ((hadds (id + 1)).sales e he id hid).resolve_left (Nat.succ_ne_self id).symm
  · intro id type
    rw [(hadds 0).points, ite_self, add_zero]

theorem insertRule {rule : LoyaltyRule} {rules : Table LoyaltyRule}
    (hpoints : 0 < rule.redeemPoints) (hamount : 0 < rule.redeemAmount)
    (hinsert : s.loyalty.rules.insert rule = some rules) :
    PointInv { s with loyalty := { s.loyalty with rules := rules } } := by
  refine h.unrelated ⟨h.ledger.credit, h.ledger.debit, h.ledger.reference, h.ledger.within⟩ ?_
    (fun e he _ hid ↦ ⟨e, he, hid⟩) (fun _ _ ↦ rfl)
  exact (forall_mem_insert hinsert).mpr ⟨h.rules, ⟨hpoints, hamount⟩⟩

theorem settle {status : SettlementStatus} (hupdate : saleReturns = s.saleReturns.update id fun r ↦
      { r with settlementStatus := status }) : PointInv { s with saleReturns := saleReturns } := by
  refine ⟨h.ledger, h.rules, h.entries, h.customer, h.empty, ?_⟩
  intro sale hsale type
  have htotal : ({ s with saleReturns := saleReturns } : Store).returnedTotal sale.id =
      s.returnedTotal sale.id := by
    rw [hupdate]
    exact total_settled fun _ _ ↦ rfl
  rw [htotal]
  exact h.points sale hsale type

/-- **Every commit keeps the invariant.** -/
theorem write (hreturns : ReturnInv s) {request : Request} {decision : Decision}
    (hknown : KnownOfReturn request decision s)
    (hwrite : protocol.write request decision s = .ok s') : PointInv s' := by
  have hcommit : ∀ sales saleReturns settlements loyalty,
      SaleCommit s request decision sales saleReturns settlements loyalty →
        PointInv { s with sales := sales, saleReturns := saleReturns, loyalty := loyalty } := by
    intro sales saleReturns settlements loyalty hcommit
    cases hcommit with
    | same => exact h
    | sale hrow hinsert _ hloyalty => exact h.insertSale hreturns.linked hrow hinsert hloyalty
    | voidSale hfind hcompleted _ hloyalty =>
      exact h.voidSale (mem_of_find? hfind) hcompleted hloyalty rfl
    | @saleReturn input sale prepared restored _ _ _ _ hsale _ _ _ hinsert hloyalty =>
      obtain ⟨-, hread⟩ := hknown input sale prepared restored rfl rfl
      exact h.insertReturn (mem_of_find? hread.found) hsale hinsert hloyalty
    | settlement =>
      split
      · exact h.settle rfl
      · exact h
    | rules hpoints hamount hinsert => exact h.insertRule hpoints hamount hinsert
    | view hloyalty => exact h.view hloyalty
  exact (hcommit _ _ _ _ (saleCommit hwrite)).of_eq rfl rfl rfl

end

theorem fresh (env : Env) (customers : Table Customer) : PointInv (Store.fresh env customers) where
  ledger := by
    constructor <;>
    · intro e he
      cases he
  rules := by
    intro rule hrule
    cases hrule
  entries := by
    intro e he
    cases he
  customer := by
    intro sale hsale
    cases hsale
  empty := by
    intro sale hsale
    cases hsale
  points := by
    intro sale hsale
    cases hsale

end PointInv

theorem points_sound :
    Sound protocol (fun _ _ _ ↦ True) (fun s ↦ ReturnInv s ∧ PointInv s) KnownOfReturn where
  read := fun hinv hread ↦ knownOfReturn_of_read hinv.1 hread
  reread := fun _ hknown hread ↦
    known_of_reread KnownOfReturn (fun input decision ↦ knownOfReturn_payment input decision _)
      hread hknown
  write := fun hinv hknown _ hwrite ↦
    ⟨hinv.1.write hknown hwrite, hinv.2.write hinv.1 hknown hwrite⟩
  stable := fun _ hknown hknown' _ hdisjoint hwrite ↦ hknown.stable hknown' hdisjoint hwrite

/-! ### Conservation -/

def LoyaltyBook.restoredOf (book : LoyaltyBook) (saleId : Uuid) : ℤ :=
  book.pointsOf saleId .VOID_REDEEM_RESTORE + book.pointsOf saleId .RETURN_REDEEM_RESTORE

def LoyaltyBook.reversedOf (book : LoyaltyBook) (saleId : Uuid) : ℤ :=
  -(book.pointsOf saleId .VOID_EARN_REVERSAL + book.pointsOf saleId .RETURN_EARN_REVERSAL)

/-- **The points of a store.** -/
structure PointLedger (s : Store) : Prop where
  /-- Every debit is covered by its allocations. -/
  covered : ∀ e ∈ s.loyalty.entries.rows, e.pointsDelta < 0 → e.spent = -e.pointsDelta
  /-- No credit is allocated beyond its points. -/
  within : ∀ e ∈ s.loyalty.entries.rows, 0 < e.pointsDelta →
    s.loyalty.allocatedTo e.id ≤ e.pointsDelta
  /-- The balance is what the credits have left, and it is not negative. -/
  balance : ∀ customerId, s.loyalty.balance customerId =
    ((s.loyalty.credits customerId).map s.loyalty.availablePoints).sum ∧
      0 ≤ s.loyalty.balance customerId
  /-- No more comes back of a sale than it redeemed and earned, -/
  caps : ∀ sale ∈ s.sales.rows, s.loyalty.restoredOf sale.id ≤ sale.loyaltyPointsRedeemed ∧
    s.loyalty.reversedOf sale.id ≤ sale.loyaltyPointsEarned
  /-- and all of it once the sale is voided or returned in full. -/
  whole : ∀ sale ∈ s.sales.rows, ¬sale.isCompleted ∨ s.FullyReturned sale →
    s.loyalty.restoredOf sale.id = sale.loyaltyPointsRedeemed ∧
      s.loyalty.reversedOf sale.id = sale.loyaltyPointsEarned

namespace PointInv

variable {sale : Sale}

theorem returnedTotal_of_voided (hreturns : ReturnInv s) (hmem : sale ∈ s.sales.rows)
    (hvoided : ¬sale.isCompleted) : s.returnedTotal sale.id = 0 := by
  apply total_eq_zero
  intro r hr
  refine if_neg fun hid ↦ hvoided (hreturns.completed r hr sale ?_)
  rw [hid]
  exact find?_key_of_mem hmem

theorem restoredOf_eq (h : PointInv s) (hreturns : ReturnInv s) (hmem : sale ∈ s.sales.rows) :
    s.loyalty.restoredOf sale.id = (if sale.isCompleted then
        proratePoints sale.loyaltyPointsRedeemed (s.returnedTotal sale.id) sale.total
      else sale.loyaltyPointsRedeemed) ∧
    s.loyalty.reversedOf sale.id = if sale.isCompleted then
        proratePoints sale.loyaltyPointsEarned (s.returnedTotal sale.id) sale.total
      else sale.loyaltyPointsEarned := by
  rw [LoyaltyBook.restoredOf, LoyaltyBook.reversedOf, h.points sale hmem, h.points sale hmem,
    h.points sale hmem, h.points sale hmem]
  by_cases hcompleted : sale.isCompleted
  · simp [Sale.points, hcompleted]
  · rw [returnedTotal_of_voided hreturns hmem hcompleted]
    simp [Sale.points, hcompleted, proratePoints_zero_part]

theorem prorate_whole (h : PointInv s) (hmem : sale ∈ s.sales.rows) :
    proratePoints sale.loyaltyPointsRedeemed sale.total sale.total = sale.loyaltyPointsRedeemed ∧
      proratePoints sale.loyaltyPointsEarned sale.total sale.total = sale.loyaltyPointsEarned := by
  rcases Nat.eq_zero_or_pos sale.total with hzero | hpos
  · obtain ⟨hredeemed, hearned⟩ := h.empty sale hmem hzero
    rw [hredeemed, hearned, proratePoints_zero_points]
    exact ⟨rfl, rfl⟩
  · have htotal : 0 < (sale.total : ℤ) := by exact_mod_cast hpos
    exact ⟨proratePoints_total htotal, proratePoints_total htotal⟩

theorem pointLedger (h : PointInv s) (hreturns : ReturnInv s) : PointLedger s where
  covered := by
    intro e he hneg
    cases htype : e.type.isCredit with
    | true =>
      have := (h.ledger.credit e he htype).1
      omega
    | false => exact (h.ledger.debit e he htype).2
  within := h.ledger.within
  balance := fun customerId ↦ ⟨h.ledger.balance_eq customerId, h.ledger.balance_nonneg customerId⟩
  caps := by
    intro sale hmem
    obtain ⟨hrestored, hreversed⟩ := h.restoredOf_eq hreturns hmem
    rw [hrestored, hreversed]
    split
    · exact ⟨proratePoints_le, proratePoints_le⟩
    · exact ⟨le_rfl, le_rfl⟩
  whole := by
    intro sale hmem hwhole
    obtain ⟨hrestored, hreversed⟩ := h.restoredOf_eq hreturns hmem
    rw [hrestored, hreversed]
    split
    case isTrue hcompleted =>
      have hfull := hwhole.resolve_left (not_not_intro hcompleted)
      rw [hreturns.returnedTotal_of_fullyReturned hmem hfull]
      exact h.prorate_whole hmem
    case isFalse => exact ⟨rfl, rfl⟩

end PointInv

/-- **Points are conserved**, in every run and every interleaving: the ledger of points is in order.
-/
theorem points_conserved (env : Env) (customers : Table Customer) (events : List (Event Request)) :
    PointLedger
      (Outcome.run protocol.step (State.idle (Store.fresh env customers)) events).store := by
  have hgood := points_sound.run
    (Good.idle ⟨ReturnInv.fresh env customers, PointInv.fresh env customers⟩) events
    (commits_of_forall (fun _ _ _ ↦ trivial) ..)
  exact hgood.inv.2.pointLedger hgood.inv.1

end UInventario.Pos
