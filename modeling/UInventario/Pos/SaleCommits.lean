import UInventario.Pos.Writes

/-!
# What the commits do to sales, returns and points

`SaleCommit` is the view that the caps on refunds and the ledger of points have of a commit: which
sale, return or settlement it writes, and which points it books for it. Every transaction of the
system is one of its cases (`saleCommit`).

The last section has what a sale with points has passed before it is persisted.
-/

namespace UInventario.Pos

open Outcome Option

variable {s s' : Store} {loyalty : LoyaltyBook} {quote : LoyaltyQuote} {rule : LoyaltyRule}
  {pointsToRedeem : ℕ} {balance : ℤ}

/-! ### The commits -/

/-- **What a commit does to sales, returns, settlements and points.** -/
inductive SaleCommit (s : Store) :
    Request → Decision → Table Sale → Table SaleReturn → Table Settlement → LoyaltyBook → Prop
  | same {request decision} :
    SaleCommit s request decision s.sales s.saleReturns s.settlements s.loyalty
  | sale {input profile sale sales loyalty}
    (hrow : sale = input.row sale.id (input.paymentRows (input.creditTerms profile).isSome))
    (hinsert : s.sales.insert sale = some sales)
    (hlines : ∀ line ∈ sale.lines, 0 < line.quantity ∧ 0 < line.total)
    (hloyalty : saleLoyalty s input sale.id = .ok loyalty) :
    SaleCommit s (.sale input) (.sale (.persist profile)) sales s.saleReturns s.settlements loyalty
  | voidSale {input sale voided loyalty} (hfind : s.sales.find? input.saleId = some sale)
    (hcompleted : sale.isCompleted) (hreturns : ∀ r ∈ s.saleReturns.rows, r.saleId ≠ sale.id)
    (hloyalty : compensateSale s input.clock sale .VOID = .ok loyalty) :
    SaleCommit s (.voidSale input) .idle
      (s.sales.update sale.id fun x ↦ { x with
        payments := x.payments.map SalePayment.reversed, voided := some voided })
      s.saleReturns s.settlements loyalty
  | saleReturn {input sale prepared restored saleReturn saleReturns loyalty}
    (hpositive : ∀ line ∈ prepared, 0 < line.quantity ∧ 0 ≤ line.subtotal ∧ 0 ≤ line.tax)
    (hsale : saleReturn.saleId = sale.id) (hpending : saleReturn.settlementStatus = .PENDING)
    (hrestored : saleReturn.loyaltyValueRestored = restored)
    (hlines : saleReturn.lines = prepared.map PreparedLine.row)
    (hinsert : s.saleReturns.insert saleReturn = some saleReturns)
    (hloyalty : compensateSale { s with saleReturns := saleReturns } input.clock sale
      (.RETURN saleReturn.id) = .ok loyalty) :
    SaleCommit s (.saleReturn input) (.saleReturn (.persist sale prepared restored))
      s.sales saleReturns s.settlements loyalty
  | settlement {input saleReturn settledAmount returnTotal payment x settlements}
    (hreturn : x.saleReturnId = saleReturn.id) (hpayment : x.originalPayment = payment.map Prod.fst)
    (hamount : x.amount = input.amount) (hinsert : s.settlements.insert x = some settlements) :
    SaleCommit s (.settlement input)
      (.settlement (.settle saleReturn settledAmount returnTotal payment)) s.sales
      (if x.status = .COMPLETED then
        s.saleReturns.update saleReturn.id fun r ↦ { r with
          settlementStatus := settlementStatusAfter (settledAmount + input.amount) returnTotal }
      else s.saleReturns) settlements s.loyalty
  | rules {input rule rules} (hpoints : 0 < rule.redeemPoints) (hamount : 0 < rule.redeemAmount)
    (hinsert : s.loyalty.rules.insert rule = some rules) :
    SaleCommit s (.createRuleVersion input) .idle s.sales s.saleReturns s.settlements
      { s.loyalty with rules := rules }
  | view {clock customerId loyalty}
    (h : s.loyalty.materializeExpirations s.env clock customerId = .ok loyalty) :
    SaleCommit s (.viewLoyalty clock customerId) .idle s.sales s.saleReturns s.settlements loyalty

theorem saleCommit {request : Request} {decision : Decision}
    (h : protocol.write request decision s = .ok s') :
    SaleCommit s request decision s'.sales s'.saleReturns s'.settlements s'.loyalty := by
  have hframe := frame h
  cases committed h with
  | sale h =>
    rcases writeSale_writes h with
      rfl | ⟨_, _, sale, _, _, _, rfl, -, hrow, hinsert, hloyalty, ⟨hlines, -⟩, -, rfl⟩
    · exact .same
    · exact .sale hrow hinsert hlines hloyalty
  | voidSale h =>
    rcases voidSale_writes h with
      rfl | ⟨_, _, _, _, _, hfind, hcompleted, hreturns, -, -, -, -, hloyalty, rfl⟩
    · exact .same
    · exact .voidSale hfind hcompleted hreturns hloyalty
  | saleReturn h =>
    rcases writeReturn_writes h with
      rfl | ⟨_, _, _, _, _, _, rfl, hpositive, hsale, hpending, hrestored, hlines, -, hinsert,
        hloyalty, rfl⟩
    · exact .same
    · exact .saleReturn hpositive hsale hpending hrestored hlines hinsert hloyalty
  | settlement h =>
    rcases writeSettlement_writes h with
      rfl | ⟨_, _, _, _, _, _, rfl, -, hreturn, hpayment, hamount, hinsert, rfl⟩
    · exact .same
    · exact .settlement hreturn hpayment hamount hinsert
  | createRuleVersion h =>
    obtain ⟨_, _, hpoints, hamount, hinsert, rfl⟩ := createRuleVersion_writes h
    exact .rules hpoints hamount hinsert
  | viewLoyalty h =>
    obtain ⟨_, hloyalty, rfl⟩ := viewLoyalty_writes h
    exact .view hloyalty
  | openShift | movement | closeShift | creditPayment | creditReversal | configureCredit =>
    rw [hframe.sales (by simp [Request.writes]), hframe.saleReturns (by simp [Request.writes]),
      hframe.settlements (by simp [Request.writes]), hframe.loyalty (by simp [Request.writes])]
    exact .same

/-! ### The points of a sale -/

theorem quoteLoyalty_eq_ok {saleTotal : ℕ}
    (h : quoteLoyalty rule balance saleTotal pointsToRedeem = .ok quote) :
    (pointsToRedeem : ℤ) ≤ balance ∧ quote.pointsRedeemed = pointsToRedeem ∧
      quote.redemptionValue ≤ saleTotal := by
  simp only [quoteLoyalty, eq_ok] at h
  obtain ⟨-, hbalance, -, -, -, hpayable, rfl⟩ := h
  refine ⟨not_lt.mp hbalance, rfl, ?_⟩
  show pointsToRedeem / rule.redeemPoints * rule.redeemAmount ≤ saleTotal
  omega

theorem applySale_eq_ok {input : ApplySaleInput} (h : applySale s input = .ok loyalty) :
    ∃ book rule current,
      s.loyalty.materializeExpirations s.env input.clock input.customerId = .ok book ∧
      rule ∈ book.rules.rows ∧
      quoteLoyalty rule (book.balance input.customerId) input.saleTotal
        input.quote.pointsRedeemed = .ok current ∧
      current.redemptionValue = input.quote.redemptionValue ∧
      current.pointsEarned = input.quote.pointsEarned ∧
      insertSaleEntries s.env book rule input current = .ok loyalty := by
  simp only [applySale, eq_ok] at h
  obtain ⟨-, -, book, hbook, rule, hrule, -, -, current, hquote, -, ⟨hvalue, hearned⟩, hentries⟩ :=
    h
  have hmem : rule ∈ book.rules.rows := mem_orderBy.mp (List.mem_of_mem_head? hrule)
  exact ⟨book, rule, current, hbook, hmem, hquote, hvalue, hearned, hentries⟩

theorem quoteLoyalty_of_total_zero (hamount : 0 < rule.redeemAmount)
    (h : quoteLoyalty rule balance 0 pointsToRedeem = .ok quote) :
    quote.pointsRedeemed = 0 ∧ quote.pointsEarned = 0 := by
  simp only [quoteLoyalty, eq_ok] at h
  obtain ⟨-, -, -, hmod, -, hpayable, rfl⟩ := h
  constructor
  · -- a redemption that is worth nothing is one of no points
    have hzero : pointsToRedeem / rule.redeemPoints * rule.redeemAmount = 0 := by omega
    rcases Nat.mul_eq_zero.mp hzero with hdiv | hnone
    · have := Nat.div_add_mod pointsToRedeem rule.redeemPoints
      rw [hdiv, hmod, Nat.mul_zero] at this
      exact this.symm
    · omega
  · rw [Nat.zero_sub, Nat.zero_div, Nat.zero_mul]

theorem loyaltyValue_le {input : SaleInput} {saleId : Uuid}
    (h : saleLoyalty s input saleId = .ok loyalty) :
    (input.loyalty.map LoyaltyQuote.redemptionValue).getD 0 ≤ input.total := by
  rw [saleLoyalty] at h
  rw [SaleInput.loyalty]
  split at h
  case h_1 hnone =>
    rw [hnone]
    exact Nat.zero_le _
  case h_2 customer hcustomer =>
    rw [hcustomer]
    split at h
    case h_1 hnone =>
      rw [bind_some, hnone]
      exact Nat.zero_le _
    case h_2 quote hquote =>
      obtain ⟨_, _, _, -, -, hcurrent, hvalue, -, -⟩ := applySale_eq_ok h
      rw [bind_some, hquote, map_some, getD_some, ← hvalue]
      exact (quoteLoyalty_eq_ok hcurrent).2.2

end UInventario.Pos
