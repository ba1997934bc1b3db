import UInventario.Pos.System

/-!
# What the transactions write

One inversion lemma for each transaction: when it commits, either it has answered a repeated request
and left the store as it was, or it has passed these checks and written these rows. The invariants
of the point of sale are proved from these lemmas and from nothing else of the transactions.
-/

namespace UInventario.Pos

open Outcome Table List Option

variable {s s' : Store} {shift : CashRegisterShift} {decision : Decision} {request : Request}
  {x : PUnit}

/-! ### The cash book -/

namespace CashBook

variable {cash cash' : CashBook} {m : CashRegisterMovement}

section

variable (h : cash.insertMovement m = .ok cash')
include h

theorem insertMovement_writes : 0 < m.amount ∧
      (∀ m' ∈ cash.movements.rows, m'.idempotencyKey ≠ m.idempotencyKey) ∧
      (∀ id, m.kind.reversalOfId = some id → (cash.movements.find? id).isSome) ∧
      cash.movements.insert m = some cash'.movements ∧ cash'.shifts = cash.shifts := by
  simp only [insertMovement, eq_ok] at h
  obtain ⟨-, hpos, -, hkey, -, -, h⟩ := h
  split at h
  · cases h
  case h_2 movements hinsert =>
    split at h
    case isFalse => cases h
    case isTrue hlink =>
      cases h
      refine ⟨hpos, hkey, ?_, hinsert, rfl⟩
      intro id hid
      rw [hid] at hlink
      exact hlink

/-- **An old movement keeps its sign**: the row it reverses is in the book already. -/
theorem signed_insertMovement {m₀ : CashRegisterMovement} (hm₀ : m₀ ∈ cash.movements.rows) :
    cash'.signed m₀ = cash.signed m₀ := by
  obtain ⟨-, -, -, hinsert, -⟩ := insertMovement_writes h
  rw [signed, signed]
  cases hkind : m₀.kind with
  | INCOME | WITHDRAWAL => rfl
  | REVERSAL id =>
    obtain ⟨original, horiginal⟩ :=
      isSome_iff_exists.mp (cash.linked m₀ hm₀ id (by rw [hkind]; rfl))
    have hnew : cash'.movements.find? id = some original :=
      find?_insert_of_some hinsert horiginal
    simp only [horiginal, hnew]

theorem total_insertMovement (w : ℤ → ℤ) (shiftId : Uuid) :
    (cash'.movements.total fun x ↦ if x.shiftId = shiftId then w (cash'.signed x) else 0) =
      (cash.movements.total fun x ↦ if x.shiftId = shiftId then w (cash.signed x) else 0) +
        if m.shiftId = shiftId then w (cash'.signed m) else 0 := by
  obtain ⟨-, -, -, hinsert, -⟩ := insertMovement_writes h
  rw [total_insert hinsert]
  congr 1
  apply total_congr
  intro x hx
  rw [signed_insertMovement h hx]

theorem signed_new : (m.kind = .INCOME → cash'.signed m = m.amount) ∧
      (m.kind = .WITHDRAWAL → cash'.signed m = -m.amount) ∧
      ∀ id original, m.kind = .REVERSAL id → cash.movements.find? id = some original →
        cash'.signed m = if original.kind = .INCOME then -(m.amount : ℤ) else m.amount := by
  obtain ⟨-, -, -, hinsert, -⟩ := insertMovement_writes h
  refine ⟨?_, ?_, ?_⟩
  · intro hkind
    simp only [signed, hkind]
  · intro hkind
    simp only [signed, hkind]
  · intro id original hkind horiginal
    simp only [signed, hkind, find?_insert_of_some hinsert horiginal]

end

end CashBook

/-! ### Shifts, movements and closures -/

theorem openShift_writes {input : OpenShiftInput} (h : openShift s input = .ok s') :
    s' = s ∨ ∃ shift shifts, shift.isOpen ∧ shift.cashRegisterId = input.cashRegisterId ∧
      (∀ x ∈ s.cash.shifts.rows, x.isOpen → x.cashRegisterId ≠ input.cashRegisterId ∧
        x.openedByUserId ≠ input.userId) ∧
      s.cash.shifts.insert shift = some shifts ∧
      s' = { s with cash := { s.cash with shifts := shifts } } := by
  rw [openShift] at h
  split at h
  · simp only [eq_ok] at h
    obtain ⟨-, -, rfl⟩ := h
    exact .inl rfl
  · simp only [eq_ok] at h
    obtain ⟨-, hfree, shifts, hinsert, rfl⟩ := h
    exact .inr ⟨_, shifts, show _ = none from rfl, rfl, hfree, hinsert, rfl⟩

theorem lockShift_eq_ok {context : MovementContext} {e : Failure} :
    s.lockShift context e = .ok shift ↔
      s.cash.shifts.find? context.shiftId = some shift ∧ shift.branchId = context.branchId ∧
        shift.cashRegisterId = context.cashRegisterId ∧
        shift.openedByUserId = context.userId ∧ shift.isOpen := by
  simp only [Store.lockShift, eq_ok]
  constructor
  · rintro ⟨shift, hfind, -, hshift, rfl⟩
    exact ⟨hfind, hshift⟩
  · rintro ⟨hfind, hshift⟩
    exact ⟨shift, hfind, ⟨⟩, hshift, rfl⟩

theorem assertAvailable_eq_ok {amount : ℕ} :
    assertAvailable s shift amount = .ok x ↔ (amount : ℤ) ≤ misread (s.expectedCash shift) := by
  simp only [assertAvailable, CashRegisterMovements.cents_columnText, eq_ok, Option.some.injEq,
    exists_eq_left', gt_iff_lt, not_lt]

theorem persistMovement_writes {input : MovementInput} (h : persistMovement s input = .ok s') :
    s' = s ∨ ∃ shift m outgoing cash,
      s.lockShift input.toMovementContext .cashRegisterMovementNotFound = .ok shift ∧
      resolveMovement s input = .ok (m.kind, m.amount, outgoing) ∧
      (outgoing = true → (m.amount : ℤ) ≤ misread (s.expectedCash shift)) ∧
      m.shiftId = input.shiftId ∧ s.cash.insertMovement m = .ok cash ∧
      s' = { s with cash := cash } := by
  simp only [persistMovement, bind_eq_ok] at h
  obtain ⟨shift, hshift, ⟨kind, amount, outgoing⟩, hresolve, h⟩ := h
  split at h
  · simp only [eq_ok] at h
    obtain ⟨-, -, rfl⟩ := h
    exact .inl rfl
  · simp only [eq_ok] at h
    obtain ⟨_, -, _, havailable, cash, hinsert, rfl⟩ := h
    refine .inr ⟨shift, _, outgoing, cash, hshift, hresolve, ?_, rfl, hinsert, rfl⟩
    intro houtgoing
    rw [assertOutgoing, if_pos houtgoing, assertAvailable_eq_ok] at havailable
    exact havailable

theorem closureExpected_eq (shift : CashRegisterShift) :
    s.closureExpected shift = .ok (s.expectedCash shift) := by
  simp only [Store.closureExpected, Store.closureAmounts, CashRegisterClosures.money_columnText,
    CashRegisterClosures.cents_columnText, demand, ok_bind, pure, Except.pure]
  rw [Store.expectedCash]
  congr 1
  ring

theorem shiftToClose_eq_some {input : CloseShiftInput} (h : s.shiftToClose input = some shift) :
    shift ∈ s.cash.shifts.rows ∧ shift.cashRegisterId = input.cashRegisterId := by
  have hmine : ∀ {p : CashRegisterShift → Bool} {x : CashRegisterShift},
      (s.cash.shifts.rows.filter fun x ↦ x.branchId = input.branchId ∧
        x.cashRegisterId = input.cashRegisterId ∧ x.openedByUserId = input.userId).find? p =
          some x → x ∈ s.cash.shifts.rows ∧ x.cashRegisterId = input.cashRegisterId := by
    intro p x hx
    have hmem := List.mem_filter.mp (mem_of_find?_eq_some hx)
    simp only [decide_eq_true_eq] at hmem
    exact ⟨hmem.1, hmem.2.2.1⟩
  simp only [Store.shiftToClose] at h
  split at h
  case h_1 x hx =>
    cases h
    exact hmine hx
  case h_2 => exact hmine h

theorem closeShift_writes {input : CloseShiftInput} (h : closeShift s input = .ok s') :
    s' = s ∨ ∃ shift closing, s.shiftToClose input = some shift ∧ shift.isOpen ∧
      closing.countedAmount = input.countedAmount ∧
      closing.expectedCash = s.expectedCash shift ∧
      closing.difference = input.countedAmount - s.expectedCash shift ∧
      s' = { s with cash := { s.cash with
        shifts := s.cash.shifts.update shift.id fun x ↦ { x with closing := some closing } } } := by
  simp only [closeShift, eq_ok] at h
  obtain ⟨shift, hshift, h⟩ := h
  split at h
  · simp only [eq_ok] at h
    obtain ⟨-, -, rfl⟩ := h
    exact .inl rfl
  case h_2 hopen =>
    simp only [closureExpected_eq, CashRegisterClosures.fromSignedCents_eq,
      CashRegisterClosures.readColumn_columnText, CashRegisterClosures.readColumn_fromCents, eq_ok,
      Except.ok.injEq, Option.some.injEq, exists_eq_left'] at h
    obtain ⟨-, -, expectedCash, hexpected, -, -, rfl⟩ := h
    have heq : s.expectedCash shift = expectedCash := by
      split at hexpected
      · exact Option.some.inj hexpected
      · cases hexpected
    exact .inr ⟨shift, _, hshift, hopen, rfl, heq.symm, rfl, rfl⟩

/-! ### Sales and voids -/

theorem writeSale_writes {input : SaleInput} {decision : SaleDecision}
    (h : writeSale s input decision = .ok s') :
    s' = s ∨ ∃ profile shift sale sales loyalty credit, decision = .persist profile ∧
      s.lockShift input.context .cashRegisterShiftRequired = .ok shift ∧
      sale = input.row sale.id (input.paymentRows (input.creditTerms profile).isSome) ∧
      s.sales.insert sale = some sales ∧ saleLoyalty s input sale.id = .ok loyalty ∧
      ((∀ line ∈ sale.lines, 0 < line.quantity ∧ 0 < line.total) ∧
        ∀ p ∈ sale.payments, 0 < p.amountApplied) ∧
      saleCredit s input sale.id profile = .ok credit ∧
      s' = { s with sales := sales, loyalty := loyalty, credit := credit } := by
  cases decision with
  | replay =>
    simp only [writeSale, pure_eq_ok] at h
    exact .inl h.symm
  | persist profile =>
    simp only [writeSale, bind_eq_ok] at h
    obtain ⟨shift, hshift, h⟩ := h
    split at h
    · simp only [eq_ok] at h
      obtain ⟨-, -, rfl⟩ := h
      exact .inl rfl
    · simp only [eq_ok] at h
      obtain ⟨sales, hinsert, loyalty, hloyalty, _, hrows, credit, hcredit, rfl⟩ := h
      rw [assertSaleRows, ensure_eq_ok] at hrows
      exact .inr ⟨profile, shift, _, sales, loyalty, credit, rfl, hshift, rfl, hinsert, hloyalty,
        hrows, hcredit, rfl⟩

theorem assertVoidable_eq_ok {input : VoidInput} {sale : Sale}
    (h : assertVoidable s input sale = .ok x) :
    (∀ r ∈ s.saleReturns.rows, r.saleId ≠ sale.id) ∧
      ∃ shift, s.cash.shifts.find? sale.shiftId = some shift ∧
        shift.cashRegisterId = input.cashRegisterId ∧ shift.isOpen := by
  simp only [assertVoidable, eq_ok] at h
  obtain ⟨-, hreturns, shift, hfind, -, hregister, hopen⟩ := h
  exact ⟨hreturns, shift, hfind, hregister, hopen⟩

theorem voidSale_writes {input : VoidInput} (h : voidSale s input = .ok s') :
    s' = s ∨ ∃ sale shift credit loyalty voided, s.sales.find? input.saleId = some sale ∧
      sale.isCompleted ∧ (∀ r ∈ s.saleReturns.rows, r.saleId ≠ sale.id) ∧
      s.cash.shifts.find? sale.shiftId = some shift ∧
      shift.cashRegisterId = input.cashRegisterId ∧ shift.isOpen ∧
      s.credit.cancelAccount s.env sale.id input.idempotencyKey input.now = .ok credit ∧
      compensateSale s input.clock sale .VOID = .ok loyalty ∧
      s' = { s with
        credit := credit
        loyalty := loyalty
        sales := s.sales.update sale.id fun x ↦ { x with
          payments := x.payments.map SalePayment.reversed, voided := some voided } } := by
  rw [voidSale] at h
  split at h
  · simp only [eq_ok] at h
    obtain ⟨-, -, rfl⟩ := h
    exact .inl rfl
  · simp only [eq_ok, filter_eq_some_iff] at h
    obtain ⟨sale, ⟨hfind, -⟩, -, hcompleted, _, hvoidable, credit, hcredit, -, -, loyalty, hloyalty,
      rfl⟩ := h
    obtain ⟨hreturns, shift, hshift, hregister, hopen⟩ := assertVoidable_eq_ok hvoidable
    exact .inr ⟨sale, shift, credit, loyalty, _, hfind, hcompleted, hreturns, hshift, hregister,
      hopen, hcredit, hloyalty, rfl⟩

/-! ### Returns and settlements -/

theorem writeReturn_writes {input : ReturnInput} {decision : ReturnDecision}
    (h : writeReturn s input decision = .ok s') :
    s' = s ∨ ∃ sale prepared restored saleReturn saleReturns loyalty,
      decision = .persist sale prepared restored ∧
      (∀ line ∈ prepared, 0 < line.quantity ∧ 0 ≤ line.subtotal ∧ 0 ≤ line.tax) ∧
      saleReturn.saleId = sale.id ∧ saleReturn.settlementStatus = .PENDING ∧
      saleReturn.loyaltyValueRestored = restored ∧
      saleReturn.lines = prepared.map PreparedLine.row ∧
      saleReturn.idempotencyKey = input.idempotencyKey ∧
      s.saleReturns.insert saleReturn = some saleReturns ∧
      compensateSale { s with saleReturns := saleReturns } input.clock sale
        (.RETURN saleReturn.id) = .ok loyalty ∧
      s' = { s with saleReturns := saleReturns, loyalty := loyalty } := by
  cases decision with
  | replay =>
    simp only [writeReturn, pure_eq_ok] at h
    exact .inl h.symm
  | persist sale prepared restored =>
    simp only [writeReturn, assertReturnLines, eq_ok] at h
    obtain ⟨-, -, -, hlines, saleReturns, hinsert, loyalty, hloyalty, rfl⟩ := h
    exact .inr ⟨sale, prepared, restored, _, saleReturns, loyalty, rfl, hlines, rfl, rfl, rfl,
      rfl, rfl, hinsert, hloyalty, rfl⟩

theorem refundShift_eq_ok {input : SettlementInput} {method : PaymentMethod} {id : Option Uuid}
    (h : refundShift s input method = .ok id) :
    (method ≠ .CASH ∧ id = none) ∨ (method = .CASH ∧ ∃ shift, shift ∈ s.cash.shifts.rows ∧
      shift.isOpen ∧ shift.cashRegisterId = input.cashRegisterId ∧ id = some shift.id ∧
      (input.amount : ℤ) ≤ misread (s.expectedCash shift)) := by
  rw [refundShift] at h
  split at h
  case isTrue hcash =>
    simp only [eq_ok, lockShift_eq_ok, SaleReturnSettlements.toMoney_columnText, Option.some.injEq,
      exists_eq_left', not_lt] at h
    obtain ⟨shiftId, -, shift, ⟨hfind, -, hregister, -, hopen⟩, -, hamount, rfl⟩ := h
    exact .inr ⟨hcash, shift, mem_of_find? hfind, hopen, hregister, rfl, hamount⟩
  case isFalse hcash =>
    rw [pure_eq_ok] at h
    exact .inl ⟨hcash, h.symm⟩

theorem payOut_eq_ok {input : SettlementInput} {payment : Option (PaymentId × SalePayment)}
    {shiftId : Option Uuid} {method : Option PaymentMethod} {status : RefundStatus}
    (h : payOut s input payment = .ok (shiftId, method, status)) :
    (payment = none ∧ shiftId = none ∧ method = none ∧ status = .COMPLETED) ∨
      ∃ id p, payment = some (id, p) ∧ method = some p.method ∧
        refundShift s input p.method = .ok shiftId := by
  cases payment with
  | none =>
    simp only [payOut, pure_eq_ok, Prod.mk.injEq] at h
    exact .inl ⟨rfl, h.1.symm, h.2.1.symm, h.2.2.symm⟩
  | some payment =>
    simp only [payOut, eq_ok, Prod.mk.injEq] at h
    obtain ⟨_, hshift, rfl, rfl, -⟩ := h
    exact .inr ⟨payment.1, payment.2, rfl, rfl, hshift⟩

theorem writeSettlement_writes {input : SettlementInput} {decision : SettlementDecision}
    (h : writeSettlement s input decision = .ok s') :
    s' = s ∨ ∃ saleReturn settledAmount returnTotal payment x settlements,
      decision = .settle saleReturn settledAmount returnTotal payment ∧
      payOut s input payment = .ok (x.shiftId, x.method, x.status) ∧
      x.saleReturnId = saleReturn.id ∧ x.originalPayment = payment.map Prod.fst ∧
      x.amount = input.amount ∧ s.settlements.insert x = some settlements ∧
      s' = { s with
        settlements := settlements
        saleReturns :=
          if x.status = .COMPLETED then
            s.saleReturns.update saleReturn.id fun r ↦ { r with
              settlementStatus := settlementStatusAfter (settledAmount + input.amount) returnTotal }
          else s.saleReturns } := by
  cases decision with
  | replay =>
    simp only [writeSettlement, pure_eq_ok] at h
    exact .inl h.symm
  | settle saleReturn settledAmount returnTotal payment =>
    simp only [writeSettlement, eq_ok] at h
    obtain ⟨⟨shiftId, method, status⟩, hpaid, -, -, settlements, hinsert, rfl⟩ := h
    exact .inr ⟨saleReturn, settledAmount, returnTotal, payment, _, settlements, rfl, hpaid, rfl,
      rfl, rfl, hinsert, rfl⟩

/-! ### Credit payments, reversals and profiles -/

theorem currentShift_eq_some {branchId cashRegisterId userId : Uuid}
    (h : s.currentShift branchId cashRegisterId userId = some shift) :
    shift ∈ s.cash.shifts.rows ∧ shift.cashRegisterId = cashRegisterId ∧ shift.isOpen := by
  have hp := find?_some h
  simp only [decide_eq_true_eq] at hp
  exact ⟨mem_of_find?_eq_some h, hp.2.1, hp.2.2.2⟩

theorem writePayment_writes {input : CreditPaymentInput} {decision : PaymentDecision}
    (h : writePayment s input decision = .ok s') :
    s' = s ∨ ∃ shift currency allocations cash payment credit,
      decision = .pay shift currency allocations ∧
      ((input.method ≠ .CASH ∧ cash = s.cash) ∨ (input.method = .CASH ∧ ∃ m, m.kind = .INCOME ∧
        m.shiftId = shift.id ∧ m.amount = input.amount ∧ s.cash.insertMovement m = .ok cash ∧
        payment.cashMovementId = some m.id)) ∧
      payment.customerId = input.customerId ∧ payment.amount = input.amount ∧
      payment.method = input.method ∧ payment.idempotencyKey = input.idempotencyKey ∧
      payment.reversal = none ∧ payment.allocations = allocations ∧
      s.credit.recordPayment s.env payment = .ok credit ∧
      s' = { s with cash := cash, credit := credit } := by
  cases decision with
  | replay =>
    simp only [writePayment, pure_eq_ok] at h
    exact .inl h.symm
  | check => cases h
  | pay shift currency allocations =>
    simp only [writePayment, eq_ok] at h
    obtain ⟨⟨cash, cashMovementId⟩, hmovement, credit, hcredit, rfl⟩ := h
    refine .inr ⟨shift, currency, allocations, cash, _, credit, rfl, ?_, rfl, rfl, rfl, rfl, rfl,
      rfl, hcredit, rfl⟩
    rw [paymentMovement] at hmovement
    split at hmovement
    case isTrue hcash =>
      simp only [eq_ok, Prod.mk.injEq] at hmovement
      obtain ⟨_, hinsert, rfl, rfl⟩ := hmovement
      exact .inr ⟨hcash, _, rfl, rfl, rfl, hinsert, rfl⟩
    case isFalse hcash =>
      rw [pure_eq_ok, Prod.mk.injEq] at hmovement
      exact .inl ⟨hcash, hmovement.1.symm⟩

theorem writeReversal_writes {input : ReversalInput} {decision : ReversalDecision}
    (h : writeReversal s input decision = .ok s') :
    s' = s ∨ ∃ payment shift cash reversal credit, decision = .reverse payment ∧
      s.currentShift input.branchId input.cashRegisterId input.userId = some shift ∧
      ((payment.method ≠ .CASH ∧ cash = s.cash) ∨ (payment.method = .CASH ∧ ∃ m original,
        m.kind = .REVERSAL original ∧ m.shiftId = shift.id ∧ m.amount = payment.amount ∧
        payment.cashMovementId = some original ∧
        (payment.amount : ℤ) ≤ misread (s.expectedCash shift) ∧
        s.cash.insertMovement m = .ok cash)) ∧
      s.credit.recordReversal s.env payment reversal = .ok credit ∧
      s' = { s with cash := cash, credit := credit } := by
  cases decision with
  | replay =>
    simp only [writeReversal, pure_eq_ok] at h
    exact .inl h.symm
  | reverse payment =>
    simp only [writeReversal, eq_ok] at h
    obtain ⟨shift, hshift, -, -, ⟨cash, cashMovementId⟩, hback, credit, hcredit, rfl⟩ := h
    refine .inr ⟨payment, shift, cash, _, credit, rfl, hshift, ?_, hcredit, rfl⟩
    rw [payBack] at hback
    split at hback
    case isTrue hcash =>
      simp only [eq_ok, Prod.mk.injEq, CreditPayments.cents_columnText, Option.some.injEq,
        exists_eq_left', not_lt] at hback
      obtain ⟨original, horiginal, -, hamount, _, hinsert, rfl, -⟩ := hback
      exact .inr ⟨hcash, _, original, rfl, rfl, rfl, horiginal, hamount, hinsert⟩
    case isFalse hcash =>
      simp only [eq_ok, Prod.mk.injEq] at hback
      obtain ⟨-, -, rfl, -⟩ := hback
      exact .inl ⟨hcash, rfl⟩

theorem configureCredit_writes {profile : CreditProfile} (h : configureCredit s profile = .ok s') :
    ∃ profiles : Table CreditProfile,
      (∀ id, id ≠ profile.customerId → profiles.find? id = s.credit.profiles.find? id) ∧
      s' = { s with credit := { s.credit with profiles := profiles } } := by
  simp only [configureCredit, eq_ok] at h
  obtain ⟨_, -, -, -, h⟩ := h
  split at h
  · simp only [eq_ok] at h
    obtain ⟨profiles, hinsert, rfl⟩ := h
    exact ⟨profiles, fun id hid ↦ find?_insert_of_ne hinsert hid.symm, rfl⟩
  · rw [pure_eq_ok] at h
    exact ⟨_, fun id hid ↦ find?_update_of_ne hid, h.symm⟩

/-! ### Rules and views of points -/

theorem createRuleVersion_writes {input : RuleInput} (h : createRuleVersion s input = .ok s') :
    ∃ rule rules, 0 < rule.redeemPoints ∧ 0 < rule.redeemAmount ∧
      s.loyalty.rules.insert rule = some rules ∧
      s' = { s with loyalty := { s.loyalty with rules := rules } } := by
  simp only [createRuleVersion, eq_ok] at h
  obtain ⟨-, ⟨-, -, hpoints, hamount, -⟩, rules, hinsert, rfl⟩ := h
  exact ⟨_, rules, hpoints, hamount, hinsert, rfl⟩

theorem viewLoyalty_writes {clock : LoyaltyClock} {customerId : Uuid}
    (h : viewLoyalty s clock customerId = .ok s') :
    ∃ loyalty, s.loyalty.materializeExpirations s.env clock customerId = .ok loyalty ∧
      s' = { s with loyalty := loyalty } := by
  simp only [viewLoyalty, eq_ok] at h
  obtain ⟨-, -, loyalty, hloyalty, rfl⟩ := h
  exact ⟨loyalty, hloyalty, rfl⟩

/-! ### The commits of the system -/

/-- **A commit**: the transaction of the request, from the decision of its first half. -/
inductive Committed (s : Store) : Request → Decision → Store → Prop
  | openShift {input s'} (h : openShift s input = .ok s') : Committed s (.openShift input) .idle s'
  | movement {input s'} (h : persistMovement s input = .ok s') :
    Committed s (.movement input) .idle s'
  | closeShift {input s'} (h : closeShift s input = .ok s') :
    Committed s (.closeShift input) .idle s'
  | sale {input decision s'} (h : writeSale s input decision = .ok s') :
    Committed s (.sale input) (.sale decision) s'
  | voidSale {input s'} (h : voidSale s input = .ok s') : Committed s (.voidSale input) .idle s'
  | saleReturn {input decision s'} (h : writeReturn s input decision = .ok s') :
    Committed s (.saleReturn input) (.saleReturn decision) s'
  | settlement {input decision s'} (h : writeSettlement s input decision = .ok s') :
    Committed s (.settlement input) (.settlement decision) s'
  | creditPayment {input decision s'} (h : writePayment s input decision = .ok s') :
    Committed s (.creditPayment input) (.creditPayment decision) s'
  | creditReversal {input decision s'} (h : writeReversal s input decision = .ok s') :
    Committed s (.creditReversal input) (.creditReversal decision) s'
  | configureCredit {profile s'} (h : configureCredit s profile = .ok s') :
    Committed s (.configureCredit profile) .idle s'
  | createRuleVersion {input s'} (h : createRuleVersion s input = .ok s') :
    Committed s (.createRuleVersion input) .idle s'
  | viewLoyalty {clock customerId s'} (h : viewLoyalty s clock customerId = .ok s') :
    Committed s (.viewLoyalty clock customerId) .idle s'

theorem committed
    (h : protocol.write request decision s = .ok s') : Committed s request decision s' := by
  change request.write decision s = .ok s' at h
  unfold Request.write at h
  split at h
  · exact .openShift h
  · exact .movement h
  · exact .closeShift h
  · exact .sale h
  · exact .voidSale h
  · exact .saleReturn h
  · exact .settlement h
  · exact .creditPayment h
  · exact .creditReversal h
  · exact .configureCredit h
  · exact .createRuleVersion h
  · exact .viewLoyalty h
  · cases h

/-! ### What a commit leaves alone -/

inductive Part
  | cash | sales | saleReturns | settlements | loyalty | credit

def Request.writes : Request → List Part
  | .openShift _ | .movement _ | .closeShift _ => [.cash]
  | .sale _ | .voidSale _ => [.sales, .loyalty, .credit]
  | .saleReturn _ => [.saleReturns, .loyalty]
  | .settlement _ => [.saleReturns, .settlements]
  | .creditPayment _ | .creditReversal _ => [.cash, .credit]
  | .configureCredit _ => [.credit]
  | .createRuleVersion _ | .viewLoyalty _ _ => [.loyalty]

/-- **The frame of a request**: what it does not write is as it was. -/
structure Frame (request : Request) (s s' : Store) : Prop where
  env : s'.env = s.env
  cash : .cash ∉ request.writes → s'.cash = s.cash
  sales : .sales ∉ request.writes → s'.sales = s.sales
  saleReturns : .saleReturns ∉ request.writes → s'.saleReturns = s.saleReturns
  settlements : .settlements ∉ request.writes → s'.settlements = s.settlements
  loyalty : .loyalty ∉ request.writes → s'.loyalty = s.loyalty
  credit : .credit ∉ request.writes → s'.credit = s.credit

theorem frame (h : protocol.write request decision s = .ok s') : Frame request s s' := by
  cases committed h with
  | openShift h =>
    rcases openShift_writes h with rfl | ⟨_, _, -, -, -, -, rfl⟩ <;>
      constructor <;> simp [Request.writes]
  | movement h =>
    rcases persistMovement_writes h with rfl | ⟨_, _, _, _, -, -, -, -, -, rfl⟩ <;>
      constructor <;> simp [Request.writes]
  | closeShift h =>
    rcases closeShift_writes h with rfl | ⟨_, _, -, -, -, -, -, rfl⟩ <;>
      constructor <;> simp [Request.writes]
  | sale h =>
    rcases writeSale_writes h with rfl | ⟨_, _, _, _, _, _, -, -, -, -, -, -, -, rfl⟩ <;>
      constructor <;> simp [Request.writes]
  | voidSale h =>
    rcases voidSale_writes h with rfl | ⟨_, _, _, _, _, -, -, -, -, -, -, -, -, rfl⟩ <;>
      constructor <;> simp [Request.writes]
  | saleReturn h =>
    rcases writeReturn_writes h with
      rfl | ⟨_, _, _, _, _, _, -, -, -, -, -, -, -, -, -, rfl⟩ <;>
        constructor <;> simp [Request.writes]
  | settlement h =>
    rcases writeSettlement_writes h with rfl | ⟨_, _, _, _, _, _, -, -, -, -, -, -, rfl⟩ <;>
      constructor <;> simp [Request.writes]
  | creditPayment h =>
    rcases writePayment_writes h with
      rfl | ⟨_, _, _, _, _, _, -, -, -, -, -, -, -, -, -, rfl⟩ <;>
        constructor <;> simp [Request.writes]
  | creditReversal h =>
    rcases writeReversal_writes h with rfl | ⟨_, _, _, _, _, -, -, -, -, rfl⟩ <;>
      constructor <;> simp [Request.writes]
  | configureCredit h =>
    obtain ⟨_, -, rfl⟩ := configureCredit_writes h
    constructor <;> simp [Request.writes]
  | createRuleVersion h =>
    obtain ⟨_, _, -, -, -, rfl⟩ := createRuleVersion_writes h
    constructor <;> simp [Request.writes]
  | viewLoyalty h =>
    obtain ⟨_, -, rfl⟩ := viewLoyalty_writes h
    constructor <;> simp [Request.writes]

/-! ### What a reversal has read -/

/-- What a reversal in flight knows: the payment is one of the customer and not reversed. -/
structure Reversible (book : CreditBook) (customerId : Uuid) (payment : CreditPayment) : Prop where
  own : payment.customerId = customerId
  completed : payment.reversal = none
  found : book.payments.find? payment.id = some payment

theorem reversible_of_read {input : ReversalInput} {payment : CreditPayment}
    (h : protocol.read (.creditReversal input) s = .ok (.creditReversal (.reverse payment))) :
    Reversible s.credit input.customerId payment := by
  obtain ⟨_, hread, ⟨⟩⟩ := map_eq_ok.mp h
  simp only [readReversal, eq_ok, filter_eq_some_iff, decide_eq_true_eq] at hread
  obtain ⟨_, -, p, ⟨hfind, hcustomer⟩, hread⟩ := hread
  split at hread
  · simp only [eq_ok, reduceCtorEq, and_false, exists_false] at hread
  case h_2 hcompleted =>
    rw [pure_eq_ok, ReversalDecision.reverse.injEq] at hread
    subst hread
    have hid : p.id = input.paymentId := key_of_find? hfind
    exact ⟨hcustomer, hcompleted, by rw [hid]; exact hfind⟩

/-! ### What a credit payment has read -/

/-- A payment that has passed its first part is a replay, or has found the open shift and checked
its amount. -/
theorem read_creditPayment {input : CreditPaymentInput} {decision : PaymentDecision}
    (h : protocol.read (.creditPayment input) s = .ok (.creditPayment decision)) :
    decision = .replay ∨ ∃ shift currency x, decision = .check shift currency ∧
      s.currentShift input.branchId input.cashRegisterId input.userId = some shift ∧
      s.credit.assertPaymentAmount input.customerId input.amount = .ok x := by
  obtain ⟨_, hread, ⟨⟩⟩ := map_eq_ok.mp h
  rw [readPayment] at hread
  split at hread
  · simp only [eq_ok] at hread
    obtain ⟨_, -, rfl⟩ := hread
    exact .inl rfl
  · simp only [eq_ok] at hread
    obtain ⟨_, -, shift, hshift, -, -, x, hamount, -, -, rfl⟩ := hread
    exact .inr ⟨shift, _, x, rfl, hshift, hamount⟩

theorem shift_of_read {input : CreditPaymentInput} {decision : PaymentDecision}
    {shift : CashRegisterShift}
    (h : protocol.read (.creditPayment input) s = .ok (.creditPayment decision))
    (hshift : decision.shift = some shift) :
    s.currentShift input.branchId input.cashRegisterId input.userId = some shift := by
  rcases read_creditPayment h with rfl | ⟨x, currency, _, rfl, hx, -⟩
  · cases hshift
  · cases hshift
    exact hx

/-- **The second read** leaves the decision, or allocates a payment whose amount has been checked.
-/
theorem reread_cases {decision' : Decision}
    (h : protocol.reread request decision s = .ok decision') :
    decision' = decision ∨ ∃ input shift currency allocations, request = .creditPayment input ∧
      decision = .creditPayment (.check shift currency) ∧
      decision' = .creditPayment (.pay shift currency allocations) ∧
      s.credit.allocatePayment input.customerId input.amount = .ok allocations := by
  change Request.reread request decision s = _ at h
  rw [Request.reread.eq_def] at h
  split at h
  case h_1 input decision =>
    cases decision with
    | replay | pay =>
      cases h
      exact .inl rfl
    | check shift currency =>
      cases hread : s.credit.allocatePayment input.customerId input.amount with
      | error e =>
        rw [readObligations, hread] at h
        cases h
      | ok allocations =>
        rw [readObligations, hread] at h
        cases h
        exact .inr ⟨input, shift, currency, allocations, rfl, rfl, rfl, hread⟩
  case h_2 =>
    cases h
    exact .inl rfl

/-- What is known of the other requests is known after the second read as well. -/
theorem known_of_reread (Holds : Request → Decision → Store → Prop) {decision' : Decision}
    (hpayment : ∀ input decision, Holds (.creditPayment input) decision s)
    (h : protocol.reread request decision s = .ok decision') (hknown : Holds request decision s) :
    Holds request decision' s := by
  rcases reread_cases h with rfl | ⟨input, _, _, _, rfl, -, -, -⟩
  · exact hknown
  · exact hpayment input decision'

end UInventario.Pos
