import UInventario.Pos.Writes

/-!
# What the transactions book on the debt ledger

A credit sale, a void, a credit payment and the reversal of one each write to the credit book: this
file says which rows they insert, and what they add to the ledger (`CreditCommit`).

Every balance is a total over the entries that weighs an entry by its account and its customer, so
the booking of a payment is described once, for all such weights (`Posted`): it adds, with the sign
of its type, the allocations weighed by their accounts (`weighed_of_posted`).
-/

namespace UInventario.Pos

open Outcome List

def DebtEntryType.sign : DebtEntryType → ℤ
  | .DEBIT => 1
  | .CREDIT => -1

theorem DebtEntry.signed_eq (entry : DebtEntry) :
    entry.signed = entry.type.sign * entry.amount := by
  rw [DebtEntry.signed]
  cases entry.type with
  | DEBIT => simp only [DebtEntryType.sign, one_mul]
  | CREDIT => simp only [DebtEntryType.sign, neg_one_mul]

/-! ### The allocations by account -/

private theorem sum_addToAccount (w : Uuid → ℤ) (a : CreditAllocation) : ∀ totals : List (Uuid × ℕ),
      ((addToAccount totals a).map fun p ↦ w p.1 * p.2).sum =
        (totals.map fun p ↦ w p.1 * p.2).sum + w a.installment.1 * a.amount := by
  intro totals
  induction totals with
  | nil => simp [addToAccount]
  | cons p totals ih =>
    obtain ⟨id, total⟩ := p
    rw [addToAccount]
    split
    case isTrue hid =>
      subst hid
      simp only [map_cons, sum_cons, Nat.cast_add]
      ring
    case isFalse =>
      rw [map_cons, sum_cons, ih, map_cons, sum_cons, add_assoc]

/-- **Adding up by account** keeps every weighted sum. -/
theorem sum_accountAmounts (w : Uuid → ℤ) (allocations : List CreditAllocation) :
    ((accountAmounts allocations).map fun p ↦ w p.1 * p.2).sum =
      (allocations.map fun a ↦ w a.installment.1 * a.amount).sum := by
  have hfold : ∀ (l : List CreditAllocation) (totals : List (Uuid × ℕ)),
      ((l.foldl addToAccount totals).map fun p ↦ w p.1 * p.2).sum =
        (totals.map fun p ↦ w p.1 * p.2).sum +
          (l.map fun a ↦ w a.installment.1 * a.amount).sum := by
    intro l
    induction l with
    | nil => simp
    | cons a l ih =>
      intro totals
      rw [foldl_cons, ih, sum_addToAccount, map_cons, sum_cons, add_assoc]
  rw [accountAmounts, hfold]
  simp

variable {p : Uuid × ℕ}

private theorem mem_addToAccount {a : CreditAllocation} :
    ∀ {totals : List (Uuid × ℕ)}, p ∈ addToAccount totals a →
      p.1 = a.installment.1 ∨ ∃ q ∈ totals, q.1 = p.1 := by
  intro totals
  induction totals with
  | nil =>
    intro hp
    rw [addToAccount, mem_singleton] at hp
    exact .inl (hp ▸ rfl)
  | cons q totals ih =>
    obtain ⟨id, total⟩ := q
    intro hp
    rw [addToAccount] at hp
    split at hp
    · rcases List.mem_cons.mp hp with rfl | hp
      · exact .inr ⟨_, mem_cons_self, rfl⟩
      · exact .inr ⟨p, mem_cons_of_mem _ hp, rfl⟩
    · rcases List.mem_cons.mp hp with rfl | hp
      · exact .inr ⟨_, mem_cons_self, rfl⟩
      · rcases ih hp with hid | ⟨q, hq, hid⟩
        · exact .inl hid
        · exact .inr ⟨q, mem_cons_of_mem _ hq, hid⟩

variable {allocations : List CreditAllocation}

theorem mem_accountAmounts
    (hp : p ∈ accountAmounts allocations) : ∃ a ∈ allocations, a.installment.1 = p.1 := by
  have hfold : ∀ (l : List CreditAllocation) (totals : List (Uuid × ℕ)),
      p ∈ l.foldl addToAccount totals →
        (∃ a ∈ l, a.installment.1 = p.1) ∨ ∃ q ∈ totals, q.1 = p.1 := by
    intro l
    induction l with
    | nil => exact fun totals h ↦ .inr ⟨p, h, rfl⟩
    | cons a l ih =>
      intro totals h
      rcases ih _ h with ⟨b, hb, hid⟩ | ⟨q, hq, hid⟩
      · exact .inl ⟨b, mem_cons_of_mem _ hb, hid⟩
      · rcases mem_addToAccount hq with hqa | ⟨q', hq', hid'⟩
        · exact .inl ⟨a, mem_cons_self, hqa.symm.trans hid⟩
        · exact .inr ⟨q', hq', hid'.trans hid⟩
  rcases hfold allocations [] hp with h | ⟨q, hq, -⟩
  · exact h
  · cases hq

/-! ### Entries -/

namespace CreditBook

variable {book book' : CreditBook} {env : Env} {entry : DebtEntry}

def weighed (book : CreditBook) (w : Uuid → Uuid → ℤ) : ℤ :=
  book.ledger.total fun e ↦ w e.accountId e.customerId * e.signed

theorem balance_eq_weighed (customerId : Uuid) :
    book.balance customerId = book.weighed fun _ c ↦ if c = customerId then 1 else 0 := by
  rw [balance, weighed]
  apply Table.total_congr
  intro e _
  rw [ite_mul, one_mul, zero_mul]

theorem accountBalance_eq_weighed (accountId : Uuid) :
    book.accountBalance accountId = book.weighed fun a _ ↦ if a = accountId then 1 else 0 := by
  rw [accountBalance, weighed]
  apply Table.total_congr
  intro e _
  rw [ite_mul, one_mul, zero_mul]

theorem insertDebt_writes (h : book.insertDebt entry = .ok book') :
    0 < entry.amount ∧ ∃ ledger, book.ledger.insert entry = some ledger ∧
      book' = { book with ledger := ledger } := by
  simp only [insertDebt, eq_ok] at h
  obtain ⟨-, hpos, -, -, ledger, hinsert, rfl⟩ := h
  exact ⟨hpos, ledger, hinsert, rfl⟩

theorem weighed_insertDebt (h : book.insertDebt entry = .ok book') (w : Uuid → Uuid → ℤ) :
    book'.weighed w =
      book.weighed w + w entry.accountId entry.customerId * (entry.type.sign * entry.amount) := by
  obtain ⟨-, ledger, hinsert, rfl⟩ := insertDebt_writes h
  rw [weighed, Table.total_insert hinsert, DebtEntry.signed_eq]
  rfl

/-- **What a payment or its reversal books** on the accounts: an entry for each, of this type and
this customer. -/
structure Posted (type : DebtEntryType) (customerId : Uuid) (parts : List (Uuid × ℕ))
    (book book' : CreditBook) : Prop where
  profiles : book'.profiles = book.profiles
  accounts : book'.accounts = book.accounts
  payments : book'.payments = book.payments
  weighed : ∀ w, book'.weighed w =
    book.weighed w + type.sign * (parts.map fun p ↦ w p.1 customerId * p.2).sum
  entries : ∀ e ∈ book'.ledger.rows, e ∈ book.ledger.rows ∨
    e.customerId = customerId ∧ ∃ p ∈ parts, e.accountId = p.1
  known : ∀ p ∈ parts, (book.accounts.find? p.1).isSome

variable {type : DebtEntryType} {customerId : Uuid} {payment : CreditPayment} {key : Text}

theorem insertPaymentDebt_writes {part : Uuid × ℕ}
    (h : book.insertPaymentDebt env type customerId key part = .ok book') :
    (book.accounts.find? part.1).isSome ∧ ∃ entry, entry.type = type ∧
      entry.customerId = customerId ∧ entry.accountId = part.1 ∧ entry.amount = part.2 ∧
      book.insertDebt entry = .ok book' := by
  simp only [insertPaymentDebt, eq_ok] at h
  obtain ⟨account, hfind, h⟩ := h
  exact ⟨by rw [hfind]; rfl, _, rfl, rfl, rfl, rfl, h⟩

theorem posted_of_foldlM : ∀ {parts : List (Uuid × ℕ)} {book book' : CreditBook},
      parts.foldlM (insertPaymentDebt env type customerId key) book = .ok book' →
        Posted type customerId parts book book' := by
  intro parts
  induction parts with
  | nil =>
    intro book book' h
    rw [foldlM_nil_eq_ok] at h
    subst h
    exact ⟨rfl, rfl, rfl, by simp, fun e he ↦ .inl he, by simp⟩
  | cons part parts ih =>
    intro book book' h
    obtain ⟨book₁, h₁, h⟩ := foldlM_cons_eq_ok.mp h
    obtain ⟨hknown, entry, htype, hcustomer, haccount, hamount, hdebt⟩ :=
      insertPaymentDebt_writes h₁
    have hweighed := weighed_insertDebt hdebt
    obtain ⟨-, ledger, hinsert, rfl⟩ := insertDebt_writes hdebt
    have hrest := ih h
    refine ⟨hrest.profiles, hrest.accounts, hrest.payments, ?_, ?_, ?_⟩
    · intro w
      rw [hrest.weighed, hweighed, htype, hcustomer, haccount, hamount, map_cons,
        sum_cons]
      ring
    · intro e he
      rcases hrest.entries e he with he | ⟨hc, p, hp, hid⟩
      · rcases (Table.mem_insert hinsert).mp he with he | rfl
        · exact .inl he
        · exact .inr ⟨hcustomer, part, mem_cons_self, haccount⟩
      · exact .inr ⟨hc, p, mem_cons_of_mem _ hp, hid⟩
    · intro p hp
      rcases List.mem_cons.mp hp with rfl | hp
      · exact hknown
      · exact hrest.known p hp

def allocated (allocations : List CreditAllocation) (w : Uuid → ℤ) : ℤ :=
  (allocations.map fun a ↦ w a.installment.1 * a.amount).sum

theorem weighed_of_posted
    (h : Posted type customerId (accountAmounts allocations) book book') (w : Uuid → Uuid → ℤ) :
    book'.weighed w =
      book.weighed w + type.sign * allocated allocations fun a ↦ w a customerId := by
  rw [h.weighed, sum_accountAmounts fun a ↦ w a customerId]
  rfl

/-! ### The four operations -/

theorem recordPayment_writes (h : book.recordPayment env payment = .ok book') :
    0 < payment.amount ∧ ∃ payments, book.payments.insert payment = some payments ∧
      Posted .CREDIT payment.customerId (accountAmounts payment.allocations)
        { book with payments := payments } book' := by
  simp only [recordPayment, eq_ok] at h
  obtain ⟨-, hpos, -, -, payments, hinsert, h⟩ := h
  exact ⟨hpos, payments, hinsert, posted_of_foldlM h⟩

theorem recordReversal_writes {reversal : CreditReversal}
    (h : book.recordReversal env payment reversal = .ok book') :
    Posted .DEBIT payment.customerId (accountAmounts payment.allocations)
      { book with payments := book.payments.update payment.id fun p ↦
        { p with reversal := some reversal } } book' := by
  simp only [recordReversal, eq_ok] at h
  obtain ⟨-, -, h⟩ := h
  exact posted_of_foldlM h

theorem openAccount_writes {profile : CreditProfile} {input : AccountInput}
    (h : book.openAccount env profile input = .ok book') :
    ∃ account entry accounts ledger, 0 < input.amount ∧ 1 ≤ input.installmentCount ∧
      account.customerId = input.customerId ∧ account.saleId = input.saleId ∧
      account.originalAmount = input.amount ∧ account.canceledAt = none ∧
      account.installments =
        installments input.today input.amount profile.termDays input.installmentCount ∧
      (∀ x ∈ book.accounts.rows, x.saleId ≠ input.saleId) ∧
      book.accounts.insert account = some accounts ∧
      entry.customerId = input.customerId ∧ entry.accountId = account.id ∧ entry.type = .DEBIT ∧
      entry.amount = input.amount ∧ book.ledger.insert entry = some ledger ∧
      book' = { book with accounts := accounts, ledger := ledger } := by
  simp only [openAccount, eq_ok] at h
  obtain ⟨-, ⟨hpos, hcount, -, -, -⟩, -, hsale, -, -, accounts, hinsert, h⟩ := h
  obtain ⟨-, ledger, hledger, rfl⟩ := insertDebt_writes h
  exact ⟨_, _, accounts, ledger, hpos, hcount, rfl, rfl, rfl, rfl, rfl, hsale, hinsert, rfl, rfl,
    rfl, rfl, hledger, rfl⟩

theorem cancelAccount_writes {saleId : Uuid} {now : Timestamp}
    (h : book.cancelAccount env saleId key now = .ok book') :
    book' = book ∨ ∃ account ledger, account ∈ book.accounts.rows ∧ account.saleId = saleId ∧
      account.canceledAt = none ∧
      ((book.accountBalance account.id ≤ 0 ∧ ledger = book.ledger) ∨
        ∃ entry, 0 < book.accountBalance account.id ∧ entry.customerId = account.customerId ∧
          entry.accountId = account.id ∧ entry.type = .CREDIT ∧
          (entry.amount : ℤ) = book.accountBalance account.id ∧
          book.ledger.insert entry = some ledger) ∧
      book' = { book with
        ledger := ledger
        accounts :=
          book.accounts.update account.id fun a ↦ { a with canceledAt := some now } } := by
  rw [cancelAccount] at h
  split at h
  · rw [pure_eq_ok] at h
    exact .inl h.symm
  case h_2 account hfind =>
    have hsale := find?_some hfind
    simp only [decide_eq_true_eq] at hsale
    split at h
    · rw [pure_eq_ok] at h
      exact .inl h.symm
    case h_2 hopen =>
      simp only [Sales.toMoney_columnText, eq_ok, Option.some.injEq, exists_eq_left'] at h
      obtain ⟨book₁, hdebt, rfl⟩ := h
      refine .inr ⟨account, book₁.ledger, mem_of_find?_eq_some hfind, hsale, hopen, ?_⟩
      rw [insertVoidCredit] at hdebt
      split at hdebt
      case isTrue hpos =>
        obtain ⟨-, ledger, hinsert, rfl⟩ := insertDebt_writes hdebt
        exact ⟨.inr ⟨_, hpos, rfl, rfl, rfl, Int.toNat_of_nonneg hpos.le, hinsert⟩, rfl⟩
      case isFalse hpos =>
        rw [pure_eq_ok] at hdebt
        subst hdebt
        exact ⟨.inl ⟨by omega, rfl⟩, rfl⟩

end CreditBook

/-! ### The commits of the system on the credit book -/

/-- **What a commit does to the credit book.** -/
inductive CreditCommit (s : Store) : Request → Decision → CreditBook → Prop
  | same {request decision} : CreditCommit s request decision s.credit
  | sale {input customer profile installmentCount saleId credit}
    (hcustomer : input.customer = some customer) (hcredit : customer.credit = some installmentCount)
    (h : s.credit.openAccount s.env profile {
      customerId := customer.id, saleId := saleId, amount := input.payable,
      installmentCount := installmentCount, idempotencyKey := input.idempotencyKey,
      now := input.now, today := input.today } = .ok credit) :
    CreditCommit s (.sale input) (.sale (.persist (some profile))) credit
  | voidSale {input saleId credit}
    (h : s.credit.cancelAccount s.env saleId input.idempotencyKey input.now = .ok credit) :
    CreditCommit s (.voidSale input) .idle credit
  | payment {input shift currency payment credit}
      (hcustomer : payment.customerId = input.customerId)
    (hamount : payment.amount = input.amount) (hreversal : payment.reversal = none)
    (h : s.credit.recordPayment s.env payment = .ok credit) :
    CreditCommit s (.creditPayment input)
      (.creditPayment (.pay shift currency payment.allocations)) credit
  | reversal {input payment reversal credit}
    (h : s.credit.recordReversal s.env payment reversal = .ok credit) :
    CreditCommit s (.creditReversal input) (.creditReversal (.reverse payment)) credit
  | profiles {profile profiles}
    (h : ∀ id, id ≠ profile.customerId → profiles.find? id = s.credit.profiles.find? id) :
    CreditCommit s (.configureCredit profile) .idle { s.credit with profiles := profiles }

variable {s s' : Store}

theorem creditCommit_of_sale {input : SaleInput} {decision : SaleDecision}
    (h : writeSale s input decision = .ok s') :
    CreditCommit s (.sale input) (.sale decision) s'.credit := by
  rcases writeSale_writes h with
    rfl | ⟨profile, _, sale, sales, _, credit, rfl, -, -, -, -, -, hcredit, rfl⟩
  · exact .same
  rw [saleCredit] at hcredit
  split at hcredit
  · rw [pure_eq_ok] at hcredit
    subst hcredit
    exact .same
  case h_2 customer installmentCount profile' hterms =>
    simp only [SaleInput.creditTerms, Option.bind_eq_bind, Option.bind_eq_some_iff,
      Option.some.injEq, Prod.mk.injEq] at hterms
    obtain ⟨c, hcustomer, n, hcount, p, rfl, rfl, rfl, rfl⟩ := hterms
    exact .sale hcustomer hcount hcredit

theorem creditCommit {request : Request} {decision : Decision}
    (h : protocol.write request decision s = .ok s') :
    CreditCommit s request decision s'.credit := by
  have hframe := frame h
  cases committed h with
  | sale h => exact creditCommit_of_sale h
  | voidSale h =>
    rcases voidSale_writes h with rfl | ⟨_, _, _, _, _, -, -, -, -, -, -, hcredit, -, rfl⟩
    · exact .same
    · exact .voidSale hcredit
  | creditPayment h =>
    rcases writePayment_writes h with
      rfl | ⟨_, _, _, _, payment, credit, rfl, -, hcustomer, hamount, -, -, hreversal, rfl, hcredit,
        rfl⟩
    · exact .same
    · exact .payment hcustomer hamount hreversal hcredit
  | creditReversal h =>
    rcases writeReversal_writes h with rfl | ⟨payment, _, _, reversal, _, rfl, -, -, hcredit, rfl⟩
    · exact .same
    · exact .reversal hcredit
  | configureCredit h =>
    obtain ⟨_, hprofiles, rfl⟩ := configureCredit_writes h
    exact .profiles hprofiles
  | openShift | movement | closeShift | saleReturn | settlement | createRuleVersion | viewLoyalty =>
    rw [hframe.credit (by simp [Request.writes])]
    exact .same

end UInventario.Pos
