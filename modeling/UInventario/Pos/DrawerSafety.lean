import UInventario.Pos.Writes

/-!
# No outflow beyond the drawer

Cash leaves the drawer of a shift by a withdrawal, by the reversal of an income, by a cash refund
and by the reversal of a cash credit payment. Each is checked against the expected cash, under the
lock of the shift, and reads that amount out of a text without looking at its sign: `-0.50` is read
as fifty cents.

`WithinDrawer` is the property of a commit that what it takes is there, `takes_of_write` says what
one can take, and `cashOut_within_drawer` that over whole runs the property fails exactly at commits
that take cash while the expected cash lies between -0.99 and -0.01.
-/

namespace UInventario.Pos

open Outcome LockedRuns

variable {s s' : Store} {m : CashRegisterMovement} {decision : Decision} {request : Request}
  {cash : CashBook}

def CashBook.movementsOut (cash : CashBook) (shiftId : Uuid) : ℤ :=
  cash.movements.total fun m ↦ if m.shiftId = shiftId then max 0 (-cash.signed m) else 0

/-- **The cash that has left the drawer of a shift.** A void takes a sale off the expected cash, not
cash out of the drawer. -/
def Store.cashOut (s : Store) (shiftId : Uuid) : ℤ :=
  s.cashRefunds shiftId + s.cash.movementsOut shiftId

/-- What the commit takes out of a drawer is in it: at most the expected cash just before. -/
def WithinDrawer (s : Store) (request : Request) (decision : Decision) : Prop :=
  ∀ s', protocol.write request decision s = .ok s' → ∀ shift ∈ s.cash.shifts.rows,
    s.cashOut shift.id < s'.cashOut shift.id →
      s'.cashOut shift.id - s.cashOut shift.id ≤ s.expectedCash shift

def CentsOverdrawn (s : Store) (shift : CashRegisterShift) : Prop :=
  -100 < s.expectedCash shift ∧ s.expectedCash shift < 0

/-- A commit that takes cash out of a drawer does not find it overdrawn by some cents. -/
def DrawerReadable (s : Store) (request : Request) (decision : Decision) : Prop :=
  ∀ s', protocol.write request decision s = .ok s' → ∀ shift ∈ s.cash.shifts.rows,
    s.cashOut shift.id < s'.cashOut shift.id → ¬CentsOverdrawn s shift

/-! ### What one commit takes -/

/-- Either nothing leaves the drawer, or an amount that is at most what is read of its expected
cash. -/
def Takes (s s' : Store) (shiftId : Uuid) : Prop :=
  s'.cashOut shiftId = s.cashOut shiftId ∨ ∃ shift ∈ s.cash.shifts.rows, shift.id = shiftId ∧
    ∃ amount : ℕ, (amount : ℤ) ≤ misread (s.expectedCash shift) ∧
      s'.cashOut shiftId = s.cashOut shiftId + amount

theorem takes_of_eq (hsettlements : s'.settlements = s.settlements)
    (hmovements : s'.cash.movements = s.cash.movements) (shiftId : Uuid) : Takes s s' shiftId := by
  refine .inl ?_
  rw [Store.cashOut, Store.cashOut, Store.cashRefunds, Store.cashRefunds, hsettlements,
    CashBook.movementsOut, CashBook.movementsOut, hmovements]
  congr 1
  apply Table.total_congr
  intro m _
  rw [CashBook.signed, CashBook.signed, hmovements]

theorem takes_of_insertMovement (h : s.cash.insertMovement m = .ok cash)
    (hout : cash.signed m < 0 → cash.signed m = -m.amount ∧ ∃ shift ∈ s.cash.shifts.rows,
      shift.id = m.shiftId ∧ (m.amount : ℤ) ≤ misread (s.expectedCash shift))
    {credit : CreditBook} (shiftId : Uuid) :
    Takes s { s with cash := cash, credit := credit } shiftId := by
  have htotal : cash.movementsOut shiftId = s.cash.movementsOut shiftId +
      if m.shiftId = shiftId then max 0 (-cash.signed m) else 0 :=
    CashBook.total_insertMovement h (fun v ↦ max 0 (-v)) shiftId
  by_cases htakes : m.shiftId = shiftId ∧ cash.signed m < 0
  · obtain ⟨rfl, hneg⟩ := htakes
    obtain ⟨hsigned, shift, hshift, hid, hamount⟩ := hout hneg
    refine .inr ⟨shift, hshift, hid, m.amount, hamount, ?_⟩
    show s.cashRefunds m.shiftId + cash.movementsOut m.shiftId = _
    rw [htotal, if_pos rfl, hsigned, neg_neg, max_eq_right (by positivity), Store.cashOut,
      add_assoc]
  · refine .inl ?_
    show s.cashRefunds shiftId + cash.movementsOut shiftId = _
    have hzero : (if m.shiftId = shiftId then max 0 (-cash.signed m) else 0) = 0 := by
      split
      case isTrue hid => exact max_eq_left (by have := not_and.mp htakes hid; omega)
      case isFalse => rfl
    rw [htotal, hzero, add_zero, Store.cashOut]

theorem resolveMovement_outgoing {input : MovementInput} {outgoing : Bool}
    (hresolve : resolveMovement s input = .ok (m.kind, m.amount, outgoing))
    (hinsert : s.cash.insertMovement m = .ok cash) (hneg : cash.signed m < 0) :
    outgoing = true ∧ cash.signed m = -m.amount := by
  obtain ⟨hincome, hwithdrawal, hreversal⟩ := CashBook.signed_new hinsert
  rw [resolveMovement] at hresolve
  cases haction : input.action with
  | income amount =>
    simp only [haction, pure_eq_ok, Prod.mk.injEq] at hresolve
    obtain ⟨hkind, -, -⟩ := hresolve
    have := hincome hkind.symm
    omega
  | withdrawal amount =>
    simp only [haction, pure_eq_ok, Prod.mk.injEq] at hresolve
    obtain ⟨hkind, -, houtgoing⟩ := hresolve
    exact ⟨houtgoing.symm, hwithdrawal hkind.symm⟩
  | reverse id =>
    simp only [haction, eq_ok, Prod.mk.injEq] at hresolve
    obtain ⟨original, hfind, hkind, -, houtgoing⟩ := hresolve
    rw [Store.findOriginal, Option.filter_eq_some_iff] at hfind
    have hsigned := hreversal id original hkind.symm hfind.1
    split at hsigned
    case isTrue hincome =>
      rw [decide_eq_true hincome] at houtgoing
      exact ⟨houtgoing.symm, hsigned⟩
    case isFalse => omega

theorem takes_of_settlement {input : SettlementInput} {decision : SettlementDecision}
    (h : writeSettlement s input decision = .ok s') (shiftId : Uuid) : Takes s s' shiftId := by
  rcases writeSettlement_writes h with
    rfl | ⟨saleReturn, settledAmount, returnTotal, payment, x, settlements, -, hpaid, -, -, hamount,
      hinsert, rfl⟩
  · exact takes_of_eq rfl rfl shiftId
  have htotal : ({ s with settlements := settlements } : Store).cashRefunds shiftId =
      s.cashRefunds shiftId +
        if x.shiftId = some shiftId ∧ x.method = some .CASH ∧ x.status = .COMPLETED then
          (x.amount : ℤ) else 0 :=
    Table.total_insert hinsert _
  have hcashOut : ∀ saleReturns, ({ s with
      settlements := settlements
      saleReturns := saleReturns } : Store).cashOut shiftId = s.cashOut shiftId +
        if x.shiftId = some shiftId ∧ x.method = some .CASH ∧ x.status = .COMPLETED then
          (x.amount : ℤ) else 0 := by
    intro saleReturns
    show ({ s with settlements := settlements } : Store).cashRefunds shiftId +
      s.cash.movementsOut shiftId = _
    rw [htotal, Store.cashOut]
    ring
  by_cases htakes : x.shiftId = some shiftId ∧ x.method = some .CASH ∧ x.status = .COMPLETED
  · rcases payOut_eq_ok hpaid with ⟨-, hnone, -⟩ | ⟨id, p, -, hmethod, hrefund⟩
    · rw [htakes.1] at hnone
      cases hnone
    rcases refundShift_eq_ok hrefund with ⟨-, hnone⟩ | ⟨-, shift, hshift, -, -, hid, hcash⟩
    · rw [htakes.1] at hnone
      cases hnone
    refine .inr ⟨shift, hshift, ?_, x.amount, ?_, ?_⟩
    · rw [htakes.1] at hid
      exact (Option.some.inj hid).symm
    · rw [hamount]
      exact hcash
    · rw [hcashOut, if_pos htakes]
  · refine .inl ?_
    rw [hcashOut, if_neg htakes, add_zero]

theorem takes_of_reversal {input : ReversalInput} {decision : ReversalDecision}
    (h : writeReversal s input decision = .ok s') (shiftId : Uuid) : Takes s s' shiftId := by
  rcases writeReversal_writes h with
    rfl | ⟨payment, shift, cash, reversal, credit, -, hshift, hback, -, rfl⟩
  · exact takes_of_eq rfl rfl shiftId
  rcases hback with ⟨-, rfl⟩ | ⟨-, m, original, hkind, hm, hamount, -, hcash, hinsert⟩
  · exact takes_of_eq (by rfl) (by rfl) shiftId
  refine takes_of_insertMovement hinsert ?_ shiftId
  intro hneg
  obtain ⟨hmem, -, -⟩ := currentShift_eq_some hshift
  obtain ⟨-, -, hlinked, -, -⟩ := CashBook.insertMovement_writes hinsert
  obtain ⟨row, hrow⟩ := Option.isSome_iff_exists.mp (hlinked original (by rw [hkind]; rfl))
  have hsigned := (CashBook.signed_new hinsert).2.2 original row hkind hrow
  refine ⟨?_, shift, hmem, hm.symm, by rw [hamount]; exact hcash⟩
  split at hsigned
  case isTrue => exact hsigned
  case isFalse => omega

/-- **What one commit takes**, whatever the request. -/
theorem takes_of_write
    (h : protocol.write request decision s = .ok s') (shiftId : Uuid) : Takes s s' shiftId := by
  have hframe := frame h
  cases committed h with
  | openShift h =>
    rcases openShift_writes h with rfl | ⟨_, _, -, -, -, -, rfl⟩ <;>
      exact takes_of_eq (by rfl) (by rfl) shiftId
  | movement h =>
    rcases persistMovement_writes h with
      rfl | ⟨shift, m, outgoing, cash, hshift, hresolve, havailable, hm, hinsert, rfl⟩
    · exact takes_of_eq rfl rfl shiftId
    refine takes_of_insertMovement hinsert ?_ shiftId
    intro hneg
    obtain ⟨houtgoing, hsigned⟩ := resolveMovement_outgoing hresolve hinsert hneg
    obtain ⟨hfind, -⟩ := lockShift_eq_ok.mp hshift
    exact ⟨hsigned, shift, Table.mem_of_find? hfind,
      (show shift.id = _ from Table.key_of_find? hfind).trans hm.symm, havailable houtgoing⟩
  | closeShift h =>
    rcases closeShift_writes h with rfl | ⟨_, _, -, -, -, -, -, rfl⟩ <;>
      exact takes_of_eq (by rfl) (by rfl) shiftId
  | settlement h => exact takes_of_settlement h shiftId
  | creditPayment h =>
    rcases writePayment_writes h with
      rfl | ⟨_, _, _, _, _, _, -, ⟨-, rfl⟩ | ⟨-, m, hkind, -, -, hinsert, -⟩, -, -, -, -, -, -, -,
        rfl⟩
    · exact takes_of_eq rfl rfl shiftId
    · exact takes_of_eq (by rfl) (by rfl) shiftId
    refine takes_of_insertMovement hinsert ?_ shiftId
    intro hneg
    have := (CashBook.signed_new hinsert).1 hkind
    omega
  | creditReversal h => exact takes_of_reversal h shiftId
  | sale | voidSale | saleReturn | configureCredit | createRuleVersion | viewLoyalty =>
    exact takes_of_eq (hframe.settlements (by simp [Request.writes]))
      (congrArg CashBook.movements (hframe.cash (by simp [Request.writes]))) shiftId

/-! ### Whole runs -/

theorem withinDrawer_iff : WithinDrawer s request decision ↔ DrawerReadable s request decision := by
  refine forall₅_congr fun s' h shift hshift hgrows ↦ ?_
  rcases takes_of_write h shift.id with heq | ⟨x, hx, hid, amount, hamount, htakes⟩
  · omega
  obtain rfl : x = shift := Table.eq_of_mem_of_key_eq hx hshift hid
  rw [CentsOverdrawn]
  rcases lt_or_ge (s.expectedCash x) 0 with hneg | hnonneg
  · have := (misread_pos_iff hneg).mp (by omega)
    omega
  · rw [misread_of_nonneg hnonneg] at hamount
    omega

/-- **No outflow beyond the drawer**: exactly when none takes cash out of a drawer that is overdrawn
by some cents. -/
theorem cashOut_within_drawer (st : State Store Request Decision) (events : List (Event Request)) :
    protocol.Commits WithinDrawer st events ↔ protocol.Commits DrawerReadable st events :=
  commits_congr (fun _ _ _ ↦ withinDrawer_iff) st events

/-! ### A drawer overdrawn by fifty cents -/

def withdrawFifty (idempotencyKey : Text) : Request :=
  .movement {
    branchId := 1, cashRegisterId := 1, userId := 1, shiftId := 0
    action := .withdrawal 50, reason := [1], idempotencyKey := idempotencyKey }

/-- Fifty cents are sold in cash and withdrawn, and the sale is voided. -/
def overdrawnRun : List (Event Request) :=
  alone (.opening 0) ++
  alone (.selling none [{ quantity := 1000, subtotal := 50, tax := 0 }] (inCash 50)) ++
  alone (withdrawFifty [1]) ++
  alone (.voidSale {
    branchId := 1, cashRegisterId := 1, saleId := 0, userId := 1, idempotencyKey := [2]
    fingerprint := [2], clock := ⟨0, 0, 0⟩, now := 0 })

def overdrawn : State Store Request Decision :=
  Outcome.run protocol.step (State.idle (Store.fresh default Table.empty)) overdrawnRun

theorem overdrawn_withdrawal_accepted :
    ¬protocol.Commits WithinDrawer (State.idle (Store.fresh default Table.empty))
      (overdrawnRun ++ alone (withdrawFifty [2])) := by
  intro h
  have hlast : WithinDrawer overdrawn.store (withdrawFifty [2]) .idle :=
    commits_alone h (by decide +kernel) rfl rfl
  have hshifts : overdrawn.store.cash.shifts.rows.map (fun x ↦
      (x.id, overdrawn.store.expectedCash x, overdrawn.store.cashOut x.id)) = [(0, -50, 50)] := by
    decide +kernel
  have htaken : (protocol.write (withdrawFifty [2]) .idle overdrawn.store).toOption.map
      (fun s ↦ s.cashOut 0) = some 100 := by decide +kernel
  obtain ⟨shift, hshift, hvalues⟩ : ∃ shift ∈ overdrawn.store.cash.shifts.rows,
      (shift.id, overdrawn.store.expectedCash shift, overdrawn.store.cashOut shift.id) =
        (0, -50, 50) := by
    apply List.mem_map.mp
    exact List.mem_singleton_self _
  simp only [Prod.mk.injEq] at hvalues
  obtain ⟨hid, hexpected, hbefore⟩ := hvalues
  cases hwrite : protocol.write (withdrawFifty [2]) .idle overdrawn.store with
  | error e =>
    rw [hwrite] at htaken
    cases htaken
  | ok s' =>
    rw [hwrite] at htaken
    have hafter : s'.cashOut shift.id = 100 := hid ▸ Option.some.inj htaken
    have := hlast s' hwrite shift hshift (by omega)
    omega

end UInventario.Pos
