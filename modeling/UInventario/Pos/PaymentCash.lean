import UInventario.Pos.DebtRuns

/-!
# The cash of a credit payment

A credit payment in cash brings an income into the drawer, and its reversal takes the same amount
out again, by a row that reverses the income. The requests for cash movements can reverse that
income too, and then the payment stays completed.

* `CashFollows` is the agreement of a payment with the cash book and the debt ledger.
* `Tied` is the same, told from the status of the payment, and `CashInv` what a run maintains.
* `LeavesIncomes` is the condition on the requests for movements. The reversals in flight know their
  payment by the lock of the customer.
-/

namespace UInventario.Pos

open Outcome LockedRuns Table List Option

/-! ### Reversals and debits -/

def CashBook.reversalsOf (cash : CashBook) (id : Uuid) : List CashRegisterMovement :=
  cash.movements.rows.filter fun m ↦ m.kind = .REVERSAL id

/-- What a payment had taken off the debt is back on it under the key: a debit for every account
the payment was booked on. -/
def CreditBook.DebitedBack (book : CreditBook) (payment : CreditPayment) (key : Text) : Prop :=
  ∀ part ∈ accountAmounts payment.allocations, ∃ e ∈ book.ledger.rows,
    e.type = .DEBIT ∧ e.customerId = payment.customerId ∧ e.accountId = part.1 ∧
      e.amount = part.2 ∧ e.idempotencyKey = .payment key part.1

/-- **The cash of a payment follows the payment.** -/
structure CashFollows (s : Store) (payment : CreditPayment) : Prop where
  income : ∃ id m, payment.cashMovementId = some id ∧ s.cash.movements.find? id = some m ∧
    m.kind = .INCOME ∧ m.amount = payment.amount
  completed : ∀ id, payment.cashMovementId = some id →
    (payment.reversal = none ↔ s.cash.reversalsOf id = [])
  reversed : ∀ id, payment.cashMovementId = some id →
    (payment.reversal ≠ none ↔ ∃ m key, s.cash.reversalsOf id = [m] ∧
      m.idempotencyKey = .creditReversal key ∧ s.credit.DebitedBack payment key)

variable {id : Uuid}

namespace CashBook

variable {cash cash' : CashBook} {m : CashRegisterMovement}

theorem reversalsOf_insertMovement (h : cash.insertMovement m = .ok cash') (id : Uuid) :
    cash'.reversalsOf id = cash.reversalsOf id ++ if m.kind = .REVERSAL id then [m] else [] := by
  obtain ⟨-, -, -, hinsert, -⟩ := insertMovement_writes h
  rw [reversalsOf, (insert_eq_some hinsert).2, filter_append, reversalsOf]
  congr 1
  by_cases hkind : m.kind = .REVERSAL id
  · rw [if_pos hkind, filter_cons_of_pos (by simpa using hkind), filter_nil]
  · rw [if_neg hkind, filter_cons_of_neg (by simpa using hkind), filter_nil]

theorem reversalsOf_eq_nil (h : cash.movements.find? id = none) : cash.reversalsOf id = [] := by
  rw [reversalsOf, filter_eq_nil_iff]
  intro m hm hkind
  rw [decide_eq_true_eq] at hkind
  have hlinked := cash.linked m hm id (by rw [hkind]; rfl)
  rw [h] at hlinked
  cases hlinked

end CashBook

variable {customerId : Uuid}

namespace CreditBook

variable {book book' : CreditBook} {env : Env}

variable {payment : CreditPayment} {key : Text}

theorem DebitedBack.mono (h : book.DebitedBack payment key)
    (hledger : book.ledger.rows ⊆ book'.ledger.rows) :
    book'.DebitedBack payment key := by
  intro part hpart
  obtain ⟨e, he, hvalues⟩ := h part hpart
  exact ⟨e, hledger he, hvalues⟩

theorem entries_of_foldlM {type : DebtEntryType} :
    ∀ {parts : List (Uuid × ℕ)} {book book' : CreditBook},
      parts.foldlM (insertPaymentDebt env type customerId key) book = .ok book' →
        book.ledger.rows ⊆ book'.ledger.rows ∧ ∀ part ∈ parts, ∃ e ∈ book'.ledger.rows,
          e.type = type ∧ e.customerId = customerId ∧ e.accountId = part.1 ∧ e.amount = part.2 ∧
            e.idempotencyKey = .payment key part.1 := by
  intro parts
  induction parts with
  | nil =>
    intro book book' h
    rw [foldlM_nil_eq_ok] at h
    subst h
    exact ⟨List.Subset.refl _, by simp⟩
  | cons part parts ih =>
    intro book book' h
    obtain ⟨book₁, h₁, h⟩ := foldlM_cons_eq_ok.mp h
    obtain ⟨hrest, hparts⟩ := ih h
    simp only [insertPaymentDebt, eq_ok] at h₁
    obtain ⟨account, -, h₁⟩ := h₁
    obtain ⟨-, ledger, hinsert, rfl⟩ := insertDebt_writes h₁
    refine ⟨fun e he ↦ hrest ((mem_insert hinsert).mpr (.inl he)), ?_⟩
    intro q hq
    rcases List.mem_cons.mp hq with rfl | hq
    · exact ⟨_, hrest ((mem_insert hinsert).mpr (.inr rfl)), rfl, rfl, rfl, rfl, rfl⟩
    · exact hparts q hq

theorem ledger_subset_recordPayment (h : book.recordPayment env payment = .ok book') :
    book.ledger.rows ⊆ book'.ledger.rows := by
  simp only [recordPayment, eq_ok] at h
  obtain ⟨-, -, -, -, _, -, h⟩ := h
  exact (entries_of_foldlM h).1

theorem debitedBack_recordReversal {reversal : CreditReversal}
    (h : book.recordReversal env payment reversal = .ok book') :
    book.ledger.rows ⊆ book'.ledger.rows ∧ book'.DebitedBack payment reversal.idempotencyKey := by
  simp only [recordReversal, eq_ok] at h
  obtain ⟨-, -, h⟩ := h
  obtain ⟨hledger, hentries⟩ := entries_of_foldlM h
  exact ⟨hledger, hentries⟩

theorem ledger_subset_openAccount {profile : CreditProfile} {input : AccountInput}
    (h : book.openAccount env profile input = .ok book') :
    book'.payments = book.payments ∧ book.ledger.rows ⊆ book'.ledger.rows := by
  obtain ⟨_, _, _, ledger, -, -, -, -, -, -, -, -, -, -, -, -, -, hinsert, rfl⟩ :=
    openAccount_writes h
  exact ⟨rfl, fun e he ↦ (mem_insert hinsert).mpr (.inl he)⟩

theorem ledger_subset_cancelAccount {saleId : Uuid} {now : Timestamp}
    (h : book.cancelAccount env saleId key now = .ok book') :
    book'.payments = book.payments ∧ book.ledger.rows ⊆ book'.ledger.rows := by
  rcases cancelAccount_writes h with rfl | ⟨_, ledger, -, -, -, hledger, rfl⟩
  · exact ⟨rfl, List.Subset.refl _⟩
  · refine ⟨rfl, ?_⟩
    rcases hledger with ⟨-, rfl⟩ | ⟨_, -, -, -, -, -, hinsert⟩
    · exact List.Subset.refl _
    · exact fun e he ↦ (mem_insert hinsert).mpr (.inl he)

end CreditBook

/-! ### The invariant -/

variable {s s' : Store}

def Tied (s : Store) (payment : CreditPayment) (id : Uuid) : Prop :=
  match payment.reversal with
  | none => s.cash.reversalsOf id = []
  | some reversal => ∃ m, s.cash.reversalsOf id = [m] ∧
      m.idempotencyKey = .creditReversal reversal.idempotencyKey ∧
      s.credit.DebitedBack payment reversal.idempotencyKey

/-- **What a run maintains.** -/
structure CashInv (s : Store) : Prop where
  income : ∀ p ∈ s.credit.payments.rows, p.method = .CASH → ∃ id m, p.cashMovementId = some id ∧
    s.cash.movements.find? id = some m ∧ m.kind = .INCOME ∧ m.amount = p.amount
  tied : ∀ p ∈ s.credit.payments.rows, p.method = .CASH → ∀ id, p.cashMovementId = some id →
    Tied s p id
  own : ∀ p ∈ s.credit.payments.rows, ∀ q ∈ s.credit.payments.rows, p.method = .CASH →
    q.method = .CASH → ∀ id, p.cashMovementId = some id → q.cashMovementId = some id → p.id = q.id

variable {payment : CreditPayment} {input : MovementInput}

theorem CashInv.follows (h : CashInv s) (hmem : payment ∈ s.credit.payments.rows)
    (hcash : payment.method = .CASH) :
    CashFollows s payment where
  income := h.income payment hmem hcash
  completed := by
    intro id hid
    have htied := h.tied payment hmem hcash id hid
    rw [Tied] at htied
    cases hreversal : payment.reversal with
    | none =>
      rw [hreversal] at htied
      exact iff_of_true rfl htied
    | some reversal =>
      rw [hreversal] at htied
      obtain ⟨m, hm, -⟩ := htied
      exact iff_of_false (some_ne_none _) (by rw [hm]; exact cons_ne_nil _ _)
  reversed := by
    intro id hid
    have htied := h.tied payment hmem hcash id hid
    rw [Tied] at htied
    cases hreversal : payment.reversal with
    | none =>
      rw [hreversal] at htied
      refine iff_of_false (fun hne ↦ hne rfl) ?_
      rintro ⟨m, key, hm, -⟩
      rw [htied] at hm
      cases hm
    | some reversal =>
      rw [hreversal] at htied
      obtain ⟨m, hm, hkey, hback⟩ := htied
      exact iff_of_true (some_ne_none _) ⟨m, _, hm, hkey, hback⟩

theorem Tied.mono (h : Tied s payment id)
    (hreversals : s'.cash.reversalsOf id = s.cash.reversalsOf id)
    (hledger : s.credit.ledger.rows ⊆ s'.credit.ledger.rows) : Tied s' payment id := by
  rw [Tied] at h ⊢
  cases hreversal : payment.reversal with
  | none =>
    rw [hreversal] at h
    rw [hreversals]
    exact h
  | some reversal =>
    rw [hreversal] at h
    obtain ⟨m, hm, hkey, hback⟩ := h
    exact ⟨m, hreversals.trans hm, hkey, hback.mono hledger⟩

theorem CashInv.mono (h : CashInv s) (hpayments : s'.credit.payments.rows = s.credit.payments.rows)
    (hledger : s.credit.ledger.rows ⊆ s'.credit.ledger.rows)
    (hfind : ∀ id m, s.cash.movements.find? id = some m → s'.cash.movements.find? id = some m)
    (hreversals : ∀ p ∈ s.credit.payments.rows, p.method = .CASH → ∀ id,
      p.cashMovementId = some id → s'.cash.reversalsOf id = s.cash.reversalsOf id) :
    CashInv s' := by
  refine ⟨?_, ?_, ?_⟩
  · intro p hp hcash
    rw [hpayments] at hp
    obtain ⟨id, m, hid, hm, hvalues⟩ := h.income p hp hcash
    exact ⟨id, m, hid, hfind id m hm, hvalues⟩
  · intro p hp hcash id hid
    rw [hpayments] at hp
    exact (h.tied p hp hcash id hid).mono (hreversals p hp hcash id hid) hledger
  · rw [hpayments]
    exact h.own

/-! ### A request for a movement -/

def Request.reversedMovement : Request → Option Uuid
  | .movement input => match input.action with
    | .reverse id => some id
    | _ => none
  | _ => none

/-- **The condition**: no request for a movement reverses the income of a completed payment. -/
def LeavesIncomes (s : Store) (request : Request) (_ : Decision) : Prop :=
  ∀ id ∈ request.reversedMovement, ∀ p ∈ s.credit.payments.rows,
    p.method = .CASH → p.reversal = none → p.cashMovementId ≠ some id
deriving Decidable

theorem persistMovement_reverses (h : persistMovement s input = .ok s') :
    s' = s ∨ ∃ m cash, s.cash.insertMovement m = .ok cash ∧ s' = { s with cash := cash } ∧
      ∀ id, m.kind = .REVERSAL id →
        (Request.movement input).reversedMovement = some id ∧ s.cash.reversalsOf id = [] := by
  simp only [persistMovement, bind_eq_ok] at h
  obtain ⟨shift, -, ⟨kind, amount, outgoing⟩, hresolve, h⟩ := h
  split at h
  · simp only [eq_ok] at h
    obtain ⟨-, -, rfl⟩ := h
    exact .inl rfl
  · simp only [eq_ok] at h
    obtain ⟨_, honce, _, -, cash, hinsert, rfl⟩ := h
    refine .inr ⟨_, cash, hinsert, rfl, ?_⟩
    intro id hkind
    have hkind : kind = .REVERSAL id := hkind
    subst hkind
    rw [assertNotReversed, ensure_eq_ok] at honce
    refine ⟨?_, ?_⟩
    · rw [Request.reversedMovement]
      cases haction : input.action with
      | income amount | withdrawal amount =>
        simp only [resolveMovement, haction, pure_eq_ok, Prod.mk.injEq] at hresolve
        cases hresolve.1
      | reverse movementId =>
        simp only [resolveMovement, haction, eq_ok, Prod.mk.injEq,
          CashMovementKind.REVERSAL.injEq] at hresolve
        obtain ⟨_, -, hid, -⟩ := hresolve
        rw [hid]
    · rw [CashBook.reversalsOf, filter_eq_nil_iff]
      intro m hm hm'
      rw [decide_eq_true_eq] at hm'
      rcases honce m hm with hnone | hne
      · cases hnone
      · exact hne (by rw [hm'])

theorem cashInv_movement (h : CashInv s) (hleaves : LeavesIncomes s (.movement input) .idle)
    (hwrite : persistMovement s input = .ok s') : CashInv s' := by
  rcases persistMovement_reverses hwrite with rfl | ⟨m, cash, hinsert, rfl, hreverses⟩
  · exact h
  obtain ⟨-, -, -, htable, -⟩ := CashBook.insertMovement_writes hinsert
  refine h.mono rfl (List.Subset.refl _) (fun id x hx ↦ find?_insert_of_some htable hx) ?_
  intro p hp hcash id hid
  rw [CashBook.reversalsOf_insertMovement hinsert, if_neg, append_nil]
  intro hkind
  obtain ⟨hasked, hnone⟩ := hreverses id hkind
  have htied := h.tied p hp hcash id hid
  rw [Tied] at htied
  cases hreversal : p.reversal with
  | none => exact hleaves id hasked p hp hcash hreversal hid
  | some reversal =>
    rw [hreversal, hnone] at htied
    obtain ⟨_, hm, -⟩ := htied
    cases hm

/-! ### Payments and reversals -/

theorem cashInv_payment (h : CashInv s) {input : CreditPaymentInput} {decision : PaymentDecision}
    (hwrite : writePayment s input decision = .ok s') : CashInv s' := by
  rcases writePayment_writes hwrite with
    rfl | ⟨shift, _, _, cash, payment, credit, rfl, hmoney, -, hamount, hmethod, -, hreversal, -,
      hrecord, rfl⟩
  · exact h
  obtain ⟨-, payments, hinsert, hposted⟩ := CreditBook.recordPayment_writes hrecord
  have hledger := CreditBook.ledger_subset_recordPayment hrecord
  have hpayments : ∀ {p}, p ∈ credit.payments.rows ↔ p ∈ s.credit.payments.rows ∨ p = payment := by
    intro p
    rw [hposted.payments]
    exact mem_insert hinsert
  rcases hmoney with ⟨hcash, rfl⟩ | ⟨-, m, hkind, -, hm, hbook, hid⟩
  · -- a payment that is not in cash is under no obligation
    have hold : ∀ p ∈ credit.payments.rows, p.method = .CASH → p ∈ s.credit.payments.rows := by
      intro p hp hmethod'
      rcases hpayments.mp hp with hp | rfl
      · exact hp
      · exact absurd (hmethod.symm.trans hmethod') hcash
    refine ⟨fun p hp hc ↦ h.income p (hold p hp hc) hc, ?_, ?_⟩
    · intro p hp hc id hid
      exact (h.tied p (hold p hp hc) hc id hid).mono rfl hledger
    · intro p hp q hq hc hc'
      exact h.own p (hold p hp hc) q (hold q hq hc') hc hc'
  obtain ⟨-, -, -, htable, -⟩ := CashBook.insertMovement_writes hbook
  have hfresh : s.cash.movements.find? m.id = none := (insert_eq_some htable).1
  have hsame : ∀ id, cash.reversalsOf id = s.cash.reversalsOf id := by
    intro id
    rw [CashBook.reversalsOf_insertMovement hbook, hkind, if_neg (by simp), append_nil]
  have hother : ∀ p ∈ s.credit.payments.rows, p.method = .CASH → p.cashMovementId ≠ some m.id := by
    intro p hp hc hpid
    obtain ⟨id, x, hid, hx, -⟩ := h.income p hp hc
    rw [hid, some_inj] at hpid
    rw [hpid, hfresh] at hx
    cases hx
  refine ⟨?_, ?_, ?_⟩
  · intro p hp hc
    rcases hpayments.mp hp with hp | rfl
    · obtain ⟨id, x, hid, hx, hvalues⟩ := h.income p hp hc
      exact ⟨id, x, hid, find?_insert_of_some htable hx, hvalues⟩
    · exact ⟨m.id, m, hid, find?_insert_self htable, hkind, hm.trans hamount.symm⟩
  · intro p hp hc id hpid
    rcases hpayments.mp hp with hp | rfl
    · exact (h.tied p hp hc id hpid).mono (hsame id) hledger
    · rw [hid, some_inj] at hpid
      subst hpid
      rw [Tied, hreversal]
      rw [hsame, CashBook.reversalsOf_eq_nil hfresh]
  · intro p hp q hq hc hc' id hpid hqid
    rcases hpayments.mp hp with hp | rfl <;> rcases hpayments.mp hq with hq | rfl
    · exact h.own p hp q hq hc hc' id hpid hqid
    · exact absurd (hpid.trans (hqid.symm.trans hid)) (hother p hp hc)
    · exact absurd (hqid.trans (hpid.symm.trans hid)) (hother q hq hc')
    · rfl

theorem writeReversal_keys {input : ReversalInput}
    (h : writeReversal s input (.reverse payment) = .ok s') :
    ∃ cash reversal credit, reversal.idempotencyKey = input.idempotencyKey ∧
      (payment.method = .CASH → ∃ m original, payment.cashMovementId = some original ∧
        m.kind = .REVERSAL original ∧ m.idempotencyKey = .creditReversal input.idempotencyKey ∧
        s.cash.insertMovement m = .ok cash) ∧
      (payment.method ≠ .CASH → cash = s.cash) ∧
      s.credit.recordReversal s.env payment reversal = .ok credit ∧
      s' = { s with cash := cash, credit := credit } := by
  simp only [writeReversal, eq_ok] at h
  obtain ⟨shift, -, -, -, ⟨cash, cashMovementId⟩, hback, credit, hcredit, rfl⟩ := h
  refine ⟨cash, _, credit, rfl, ?_, ?_, hcredit, rfl⟩
  · intro hcash
    simp only [payBack, if_pos hcash, eq_ok, Prod.mk.injEq] at hback
    obtain ⟨original, horiginal, _, -, _, -, _, hinsert, rfl, -⟩ := hback
    exact ⟨_, original, horiginal, rfl, rfl, hinsert⟩
  · intro hcash
    simp only [payBack, if_neg hcash, eq_ok, Prod.mk.injEq] at hback
    obtain ⟨_, -, rfl, -⟩ := hback
    rfl

theorem cashInv_reversal (h : CashInv s) {input : ReversalInput}
    (hknown : Reversible s.credit input.customerId payment)
    (hwrite : writeReversal s input (.reverse payment) = .ok s') : CashInv s' := by
  obtain ⟨cash, reversal, credit, hkey, hincash, hother, hrecord, rfl⟩ := writeReversal_keys hwrite
  obtain ⟨hledger, hback⟩ := CreditBook.debitedBack_recordReversal hrecord
  have hmem : payment ∈ s.credit.payments.rows := mem_of_find? hknown.found
  have hpayments : ∀ {p}, p ∈ credit.payments.rows → ∃ q ∈ s.credit.payments.rows,
      q.id = p.id ∧ q.method = p.method ∧ q.cashMovementId = p.cashMovementId ∧
        q.amount = p.amount ∧ (q.id ≠ payment.id → q = p) ∧
        (q.id = payment.id → p = { payment with reversal := some reversal }) := by
    intro p hp
    rw [(CreditBook.recordReversal_writes hrecord).payments] at hp
    rw [mem_update] at hp
    obtain ⟨q, hq, rfl⟩ := hp
    by_cases hid : q.id = payment.id
    · obtain rfl : q = payment := eq_of_mem_of_key_eq hq hmem hid
      refine ⟨q, hq, ?_⟩
      rw [if_pos (show Keyed.key q = q.id from rfl)]
      exact ⟨rfl, rfl, rfl, rfl, fun hne ↦ absurd rfl hne, fun _ ↦ rfl⟩
    · refine ⟨q, hq, ?_⟩
      rw [if_neg (show Keyed.key q ≠ payment.id from hid)]
      exact ⟨rfl, rfl, rfl, rfl, fun _ ↦ rfl, fun heq ↦ absurd heq hid⟩
  have hrows : ∀ id, (∀ p ∈ s.credit.payments.rows, p.id = payment.id → p.method = .CASH →
      p.cashMovementId ≠ some id) → cash.reversalsOf id = s.cash.reversalsOf id := by
    intro id hne
    by_cases hcash : payment.method = .CASH
    · obtain ⟨m, original, horiginal, hkind, -, hinsert⟩ := hincash hcash
      rw [CashBook.reversalsOf_insertMovement hinsert, if_neg, append_nil]
      rw [hkind, CashMovementKind.REVERSAL.injEq]
      rintro rfl
      exact hne payment hmem rfl hcash horiginal
    · rw [hother hcash]
  have hfind : ∀ id m, s.cash.movements.find? id = some m → cash.movements.find? id = some m := by
    intro id x hx
    by_cases hcash : payment.method = .CASH
    · obtain ⟨m, _, -, -, -, hinsert⟩ := hincash hcash
      exact find?_insert_of_some (CashBook.insertMovement_writes hinsert).2.2.2.1 hx
    · rw [hother hcash]
      exact hx
  refine ⟨?_, ?_, ?_⟩
  · intro p hp hc
    obtain ⟨q, hq, -, hmethod, hmovement, hamount, -⟩ := hpayments hp
    obtain ⟨id, m, hid, hm, hkind, hvalue⟩ := h.income q hq (hmethod.trans hc)
    exact ⟨id, m, hmovement ▸ hid, hfind id m hm, hkind, hvalue.trans hamount⟩
  · intro p hp hc id hid
    obtain ⟨q, hq, -, hmethod, hmovement, -, hsame, hreversed⟩ := hpayments hp
    have hq' := h.tied q hq (hmethod.trans hc) id (hmovement.trans hid)
    by_cases heq : q.id = payment.id
    · have hp := hreversed heq
      obtain rfl : q = payment := eq_of_mem_of_key_eq hq hmem heq
      subst hp
      obtain ⟨m, original, horiginal, hkind, hmkey, hinsert⟩ := hincash hc
      rw [show q.cashMovementId = some id from hid, some_inj] at horiginal
      subst horiginal
      rw [Tied, hknown.completed] at hq'
      refine ⟨m, ?_, hmkey.trans (by rw [hkey]), hback⟩
      rw [CashBook.reversalsOf_insertMovement hinsert, hq', if_pos hkind, nil_append]
    · obtain rfl := hsame heq
      refine hq'.mono (hrows id ?_) hledger
      intro x hx hxid hxcash hxmovement
      exact heq ((h.own q hq x hx hc hxcash id hid hxmovement).trans hxid)
  · intro p hp q hq hc hc' id hid hid'
    obtain ⟨p', hp', hpid, hpm, hpmove, -⟩ := hpayments hp
    obtain ⟨q', hq', hqid, hqm, hqmove, -⟩ := hpayments hq
    rw [← hpid, ← hqid]
    exact h.own p' hp' q' hq' (hpm.trans hc) (hqm.trans hc') id (hpmove.trans hid)
      (hqmove.trans hid')

/-! ### The system -/

variable {request : Request} {decision : Decision}

theorem creditCommit_keeps {credit : CreditBook} (h : CreditCommit s request decision credit)
    (hpayment : ∀ d, decision ≠ .creditPayment d) (hreversal : ∀ d, decision ≠ .creditReversal d) :
    credit.payments = s.credit.payments ∧ s.credit.ledger.rows ⊆ credit.ledger.rows := by
  cases h with
  | same | profiles => exact ⟨rfl, List.Subset.refl _⟩
  | sale _ _ h => exact CreditBook.ledger_subset_openAccount h
  | voidSale h => exact CreditBook.ledger_subset_cancelAccount h
  | payment => exact absurd rfl (hpayment _)
  | reversal => exact absurd rfl (hreversal _)

theorem CashInv.of_kept (h : CashInv s) (hmovements : s'.cash.movements = s.cash.movements)
    (hcredit : s'.credit.payments = s.credit.payments ∧
      s.credit.ledger.rows ⊆ s'.credit.ledger.rows) : CashInv s' := by
  refine h.mono (by rw [hcredit.1]) hcredit.2 ?_ ?_
  · intro id m hm
    rw [hmovements]
    exact hm
  · intro _ _ _ id _
    rw [CashBook.reversalsOf, hmovements, CashBook.reversalsOf]

def KnownOfCash (request : Request) (decision : Decision) (s : Store) : Prop :=
  ∀ input payment, request = .creditReversal input →
    decision = .creditReversal (.reverse payment) → Reversible s.credit input.customerId payment

theorem knownOfCash_of_read (h : protocol.read request s = .ok decision) :
    KnownOfCash request decision s := by
  rintro input payment rfl rfl
  exact reversible_of_read h

theorem cashInv_write (hinv : CashInv s) (hknown : KnownOfCash request decision s)
    (hleaves : LeavesIncomes s request decision) (h : protocol.write request decision s = .ok s') :
    CashInv s' := by
  have hkept := creditCommit_keeps (creditCommit h)
  have hframe := frame h
  cases committed h with
  | movement h => exact cashInv_movement hinv hleaves h
  | creditPayment h => exact cashInv_payment hinv h
  | @creditReversal input decision _ h =>
    cases decision with
    | replay =>
      simp only [writeReversal, pure_eq_ok] at h
      exact h ▸ hinv
    | reverse payment => exact cashInv_reversal hinv (hknown input payment rfl rfl) h
  | openShift h =>
    refine hinv.of_kept ?_ (hkept (by simp) (by simp))
    rcases openShift_writes h with rfl | ⟨_, _, -, -, -, -, rfl⟩ <;> rfl
  | closeShift h =>
    refine hinv.of_kept ?_ (hkept (by simp) (by simp))
    rcases closeShift_writes h with rfl | ⟨_, _, -, -, -, -, -, rfl⟩ <;> rfl
  | sale | voidSale | saleReturn | settlement | configureCredit | createRuleVersion | viewLoyalty =>
    exact hinv.of_kept (congrArg CashBook.movements (hframe.cash (by simp [Request.writes])))
      (hkept (by simp) (by simp))

/-- **A payment of a locked customer** is found as it was after a commit of another transaction. -/
theorem reversible_stable (h : Reversible s.credit customerId payment)
    (hknown : KnownOfCash request decision s)
    (hholds : LockedRow.customer customerId ∉ protocol.holds request)
    (hwrite : protocol.write request decision s = .ok s') :
    Reversible s'.credit customerId payment := by
  have hcommit := creditCommit hwrite
  revert hcommit
  generalize s'.credit = credit
  intro hcommit
  refine ⟨h.own, h.completed, ?_⟩
  cases hcommit with
  | same | profiles => exact h.found
  | sale _ _ hrecord =>
    rw [(CreditBook.ledger_subset_openAccount hrecord).1]
    exact h.found
  | voidSale hrecord =>
    rw [(CreditBook.ledger_subset_cancelAccount hrecord).1]
    exact h.found
  | payment _ _ _ hrecord =>
    obtain ⟨-, payments, hinsert, hposted⟩ := CreditBook.recordPayment_writes hrecord
    rw [hposted.payments]
    exact find?_insert_of_some hinsert h.found
  | @reversal input other _ _ hrecord =>
    have hother := hknown input other rfl rfl
    have hne : payment.id ≠ other.id := by
      intro hid
      have hsame : some payment = some other := by rw [← h.found, ← hother.found, hid]
      refine hholds ?_
      show LockedRow.customer customerId ∈ [LockedRow.customer input.customerId]
      rw [← h.own, ← hother.own, Option.some.inj hsame]
      exact mem_singleton_self _
    rw [(CreditBook.recordReversal_writes hrecord).payments]
    rw [find?_update_of_ne hne]
    exact h.found

theorem cash_sound : Sound protocol LeavesIncomes CashInv KnownOfCash where
  read := fun _ hread ↦ knownOfCash_of_read hread
  reread := by
    intro s request decision decision' _ hknown hread
    exact known_of_reread KnownOfCash (fun _ _ ↦ by rintro _ _ ⟨⟩) hread hknown
  write := fun hinv hknown hleaves hwrite ↦ cashInv_write hinv hknown hleaves hwrite
  stable := by
    intro s request decision request' decision' s' _ hknown hknown' _ hdisjoint hwrite
    rintro input payment rfl rfl
    have hholds := (hdisjoint (.customer input.customerId) (mem_singleton_self _)).1
    exact reversible_stable (hknown input payment rfl rfl) hknown' hholds hwrite

/-! ### The result -/

/-- **The cash of credit payments follows the payments** in runs in which no movement reverses the
income of a completed payment. -/
theorem cash_follows_payments (env : Env) (customers : Table Customer)
    (events : List (Event Request)) {st : State Store Request Decision}
    (hst : st = Outcome.run protocol.step (State.idle (Store.fresh env customers)) events)
    (hleaves : protocol.Commits LeavesIncomes (State.idle (Store.fresh env customers)) events) :
    ∀ payment ∈ st.store.credit.payments.rows, payment.method = .CASH →
      CashFollows st.store payment := by
  have hfresh : CashInv (Store.fresh env customers) :=
    ⟨by simp [Store.fresh], by simp [Store.fresh], by simp [Store.fresh]⟩
  have hgood := cash_sound.run (Good.idle hfresh) events hleaves
  rw [← hst] at hgood
  exact fun payment hmem hcash ↦ hgood.inv.follows hmem hcash

/-- The payment of `creditRun` is reversed. -/
def reversedPayment : List (Event Request) :=
  creditRun ++ alone (.creditReversal {
    branchId := 1, cashRegisterId := 1, userId := 1, customerId := 7, paymentId := 0
    idempotencyKey := [2], fingerprint := [2], reason := [1] })

theorem cash_follows_payments_reversedPayment :
    (Outcome.run protocol.step (State.idle (Store.fresh default oneCustomer))
      reversedPayment).store.credit.payments.rows.map (fun payment ↦
        (payment.method, payment.cashMovementId)) = [(.CASH, some 0)] ∧
    ∀ payment ∈ (Outcome.run protocol.step (State.idle (Store.fresh default oneCustomer))
      reversedPayment).store.credit.payments.rows, payment.method = .CASH →
        CashFollows (Outcome.run protocol.step (State.idle (Store.fresh default oneCustomer))
          reversedPayment).store payment :=
  ⟨by decide +kernel,
    cash_follows_payments default oneCustomer reversedPayment rfl (by decide +kernel)⟩

/-- The cash of the payment is taken out by a request for a movement. -/
def incomeReversed : List (Event Request) :=
  creditRun ++ alone (.movement {
    branchId := 1, cashRegisterId := 1, userId := 1, shiftId := 0, action := .reverse 0
    reason := [1], idempotencyKey := [2] })

theorem cash_taken_back :
    ¬∀ payment ∈ (Outcome.run protocol.step (State.idle (Store.fresh default oneCustomer))
      incomeReversed).store.credit.payments.rows, payment.method = .CASH →
        CashFollows (Outcome.run protocol.step (State.idle (Store.fresh default oneCustomer))
          incomeReversed).store payment := by
  intro h
  have hpayments : (Outcome.run protocol.step (State.idle (Store.fresh default oneCustomer))
      incomeReversed).store.credit.payments.rows.map (fun payment ↦
        (payment.method, payment.cashMovementId, payment.reversal)) =
          [(.CASH, some 0, none)] := by decide +kernel
  have hreversals : ((Outcome.run protocol.step (State.idle (Store.fresh default oneCustomer))
      incomeReversed).store.cash.reversalsOf 0).length = 1 := by decide +kernel
  obtain ⟨payment, hmem, hvalues⟩ := List.mem_map.mp (hpayments ▸ List.mem_singleton_self _)
  obtain ⟨hcash, hid, hcompleted⟩ := Prod.mk.inj hvalues |>.imp_right Prod.mk.inj
  rw [((h payment hmem hcash).completed 0 hid).mp hcompleted] at hreversals
  cases hreversals

end UInventario.Pos
