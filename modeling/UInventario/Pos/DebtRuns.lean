import UInventario.Pos.DebtCoherence

/-!
# The debt over whole runs

`DebtInv` is kept by every transaction that meets `BooksOnOpen`: a payment or a reversal commits on
accounts that are not canceled by then, though the void may come any time before. A payment whose
amount has been checked is allocated completely if the customer still owes as much when it reads the
open installments (`StillOwed`): a void may have committed since.

* A new account, a void, and a booking (`debtBooked_of_posted`) keep the invariant.
* `Bookable` is what a payment in flight knows, `Reversible` what a reversal knows; both hold the
  lock of the customer.
* `debt_coherent` is the result; in `debt_incoherent_after_void` a payment is reversed after the
  void of its sale, and in `refused_after_void` the void comes between the two reads of a payment.
-/

namespace UInventario.Pos

open Outcome LockedRuns Table List

variable {account : CreditAccount} {amount : ℕ} {customerId : Uuid}

namespace CreditBook

variable {book book₁ book' : CreditBook} {env : Env} {profile : CreditProfile}
  {input : AccountInput} {id : InstallmentId} {now : Timestamp} {saleId : Uuid} {key : Text}

/-! ### A new account -/

section

variable (h : DebtBooked book)
include h

theorem paid_eq_zero (hnew : book.accounts.find? id.1 = none) : book.paid id = 0 := by
  apply total_eq_zero
  intro p hp
  split
  case isTrue =>
    refine sum_eq_zero (List.forall_mem_map.mpr fun a ha ↦ ?_)
    obtain ⟨account, hfind, -⟩ := h.allocated p hp a ha
    refine if_neg fun hid ↦ ?_
    rw [hid, hnew] at hfind
    cases hfind
  case isFalse => rfl

theorem accountBalance_eq_zero {id : Uuid}
    (hnew : book.accounts.find? id = none) : book.accountBalance id = 0 := by
  apply total_eq_zero
  intro e he
  obtain ⟨account, hfind, -⟩ := h.owned e he
  refine if_neg fun hid ↦ ?_
  rw [hid, hnew] at hfind
  cases hfind

theorem debtBooked_openAccount (hopen : book.openAccount env profile input = .ok book') :
    DebtBooked book' ∧ ∀ P, CanceledOwe P book → CanceledOwe P book' := by
  obtain ⟨account, entry, accounts, ledger, -, hcount, hcustomer, -, -, hcanceled, hparts, -,
    hinsert, hentry, hon, htype, hamount, hledger, rfl⟩ := openAccount_writes hopen
  have hnew : book.accounts.find? account.id = none := (insert_eq_some hinsert).1
  have hold : ∀ {id x}, book.accounts.find? id = some x → accounts.find? id = some x :=
    fun hx ↦ find?_insert_of_some hinsert hx
  have hpaid : ∀ n, book.paid (account.id, n) = 0 := fun n ↦ paid_eq_zero h hnew
  have hsum : ∀ k, ledger.total (fun e ↦ if e.accountId = k then e.signed else 0) =
      book.accountBalance k + if account.id = k then (input.amount : ℤ) else 0 := by
    intro k
    rw [total_insert hledger, hon, DebtEntry.signed_eq, htype, hamount, DebtEntryType.sign,
      one_mul]
    rfl
  have hkept : ∀ x ∈ book.accounts.rows,
      ledger.total (fun e ↦ if e.accountId = x.id then e.signed else 0) =
        book.accountBalance x.id := by
    intro x hx
    rw [hsum, if_neg fun hid ↦ Table.find?_eq_none.mp hnew x hx hid.symm, add_zero]
  refine ⟨⟨?_, ?_, ?_, ?_⟩, ?_⟩
  · intro x hx hxopen
    show ledger.total _ = book.outstanding x
    rcases (mem_insert hinsert).mp hx with hx | rfl
    · rw [hkept x hx]
      exact h.ledger x hx hxopen
    · rw [hsum, if_pos rfl, accountBalance_eq_zero h hnew, zero_add, outstanding_eq]
      simp only [hpaid, sub_zero]
      have hamounts := sum_installments input.today input.amount profile.termDays hcount
      rw [← hparts, ← zipIdx_map_fst 0 x.installments, map_map] at hamounts
      rw [← hamounts, Nat.cast_list_sum, map_map]
      rfl
  · refine (forall_mem_insert hinsert).mpr ⟨h.covered, fun part hpart ↦ ?_⟩
    show book.paid (account.id, part.2) ≤ _
    rw [hpaid]
    positivity
  · intro e he
    rcases (mem_insert hledger).mp he with he | rfl
    · obtain ⟨x, hfind, hx⟩ := h.owned e he
      exact ⟨x, hold hfind, hx⟩
    · refine ⟨account, ?_, hcustomer.trans hentry.symm⟩
      rw [hon]
      exact find?_insert_self hinsert
  · intro p hp a ha
    obtain ⟨x, hfind, hx⟩ := h.allocated p hp a ha
    exact ⟨x, hold hfind, hx⟩
  · intro P howe x hx hxcanceled
    show P (ledger.total _)
    rcases (mem_insert hinsert).mp hx with hx | rfl
    · rw [hkept x hx]
      exact howe x hx hxcanceled
    · exact absurd hcanceled hxcanceled

/-! ### A void -/

theorem outstanding_nonneg
    (hmem : account ∈ book.accounts.rows) : 0 ≤ book.outstanding account := by
  rw [outstanding_eq]
  refine sum_nonneg (List.forall_mem_map.mpr fun part hpart ↦ ?_)
  exact sub_nonneg.mpr (h.covered account hmem part hpart)

theorem debtBooked_cancelAccount (hcancel : book.cancelAccount env saleId key now = .ok book') :
    DebtBooked book' ∧ ∀ P, P 0 → CanceledOwe P book → CanceledOwe P book' := by
  rcases cancelAccount_writes hcancel with rfl | ⟨account, ledger, hmem, -, hopen, hrest, rfl⟩
  · exact ⟨h, fun _ _ howe ↦ howe⟩
  have hbalance : 0 ≤ book.accountBalance account.id := by
    rw [h.ledger account hmem hopen]
    exact outstanding_nonneg h hmem
  -- the entry of the void, if there is one, brings the account to zero and no other anywhere
  have hsum : ∀ k, ledger.total (fun e ↦ if e.accountId = k then e.signed else 0) =
      if account.id = k then 0 else book.accountBalance k := by
    intro k
    rcases hrest with ⟨hnone, rfl⟩ | ⟨entry, -, -, hon, htype, hamount, hinsert⟩
    · split
      case isTrue hid =>
        subst hid
        exact le_antisymm hnone hbalance
      case isFalse => rfl
    · rw [total_insert hinsert, hon, DebtEntry.signed_eq, htype, hamount, DebtEntryType.sign]
      split
      case isTrue hid =>
        subst hid
        show book.accountBalance account.id + -1 * book.accountBalance account.id = 0
        ring
      case isFalse =>
        show book.accountBalance k + 0 = book.accountBalance k
        ring
  have hfind : ∀ {id x}, book.accounts.find? id = some x → ∃ y,
      (book.accounts.update account.id fun a ↦ { a with canceledAt := some now }).find? id =
        some y ∧ y.customerId = x.customerId ∧ y.installments = x.installments := by
    intro id x hx
    rw [find?_update, hx, Option.map_some]
    refine ⟨_, rfl, ?_⟩
    split <;> exact ⟨rfl, rfl⟩
  refine ⟨⟨?_, ?_, ?_, ?_⟩, ?_⟩
  · intro x hx hxopen
    rw [mem_update] at hx
    obtain ⟨y, hy, rfl⟩ := hx
    show ledger.total _ = _
    by_cases hid : y.id = account.id
    · rw [if_pos (show Keyed.key y = account.id from hid)] at hxopen
      cases hxopen
    · rw [if_neg (show Keyed.key y ≠ account.id from hid)] at hxopen ⊢
      rw [hsum, if_neg fun h ↦ hid h.symm]
      exact h.ledger y hy hxopen
  · exact forall_mem_update (fun _ ↦ by rfl) h.covered fun _ _ hy ↦ hy
  · intro e he
    have howned : ∃ x, book.accounts.find? e.accountId = some x ∧ x.customerId = e.customerId := by
      rcases hrest with ⟨-, rfl⟩ | ⟨entry, -, hcustomer, hon, -, -, hinsert⟩
      · exact h.owned e he
      · rcases (mem_insert hinsert).mp he with he | rfl
        · exact h.owned e he
        · exact ⟨account, by rw [hon]; exact find?_key_of_mem hmem, hcustomer.symm⟩
    obtain ⟨x, hx, hcustomer⟩ := howned
    obtain ⟨y, hy, hyx, -⟩ := hfind hx
    exact ⟨y, hy, hyx.trans hcustomer⟩
  · intro p hp a ha
    obtain ⟨x, hx, hcustomer, hindex⟩ := h.allocated p hp a ha
    obtain ⟨y, hy, hyx, hparts⟩ := hfind hx
    exact ⟨y, hy, hyx.trans hcustomer, by rw [hparts]; exact hindex⟩
  · intro P hzero howe x hx hxcanceled
    rw [mem_update] at hx
    obtain ⟨y, hy, rfl⟩ := hx
    show P (ledger.total _)
    rw [hsum]
    by_cases hid : y.id = account.id
    · rw [if_pos (show Keyed.key y = account.id from hid), if_pos hid.symm]
      exact hzero
    · rw [if_neg (show Keyed.key y ≠ account.id from hid)] at hxcanceled ⊢
      rw [if_neg fun h ↦ hid h.symm]
      exact howe y hy hxcanceled

end

/-! ### Payments and reversals -/

def AllocatedOwn (book : CreditBook) (customerId : Uuid) (allocations : List CreditAllocation) :
    Prop :=
  ∀ a ∈ allocations, ∃ account, book.accounts.find? a.installment.1 = some account ∧
    account.customerId = customerId ∧ a.installment.2 < account.installments.length

def OnOpen (book : CreditBook) (allocations : List CreditAllocation) : Prop :=
  ∀ a ∈ allocations, ∀ account ∈ book.accounts.find? a.installment.1, account.canceledAt = none
deriving Decidable

variable {allocations : List CreditAllocation}

def onAccount (allocations : List CreditAllocation) (accountId : Uuid) : ℤ :=
  allocated allocations fun id ↦ if id = accountId then 1 else 0

/-- **A booking keeps the invariant**: the ledger follows the change of the payments. -/
theorem debtBooked_of_posted (h : DebtBooked book) {type : DebtEntryType}
    (hposted : Posted type customerId (accountAmounts allocations) book₁ book')
    (haccounts : book₁.accounts = book.accounts) (hledger : book₁.ledger = book.ledger)
    (hpaid : ∀ id, book₁.paid id = book.paid id - type.sign * allocatedTo allocations id)
    (hown : book.AllocatedOwn customerId allocations)
    (hcovered : ∀ account ∈ book.accounts.rows, ∀ part ∈ account.installments.zipIdx,
      book₁.paid (account.id, part.2) ≤ part.1.amount)
    (hpayments : ∀ p ∈ book₁.payments.rows, book.AllocatedOwn p.customerId p.allocations) :
    DebtBooked book' ∧ book'.accounts = book.accounts ∧ ∀ k, book'.accountBalance k =
      book.accountBalance k + type.sign * onAccount allocations k := by
  have hsame : book'.accounts = book.accounts := hposted.accounts.trans haccounts
  have hpaid' : ∀ id, book'.paid id = book₁.paid id := by
    intro id
    rw [paid_eq_total, paid_eq_total, hposted.payments]
  have hbalance : ∀ k, book'.accountBalance k = book.accountBalance k +
      type.sign * onAccount allocations k := by
    intro k
    rw [accountBalance_eq_weighed, weighed_of_posted hposted, accountBalance_eq_weighed, weighed,
      hledger]
    rfl
  refine ⟨⟨?_, ?_, ?_, ?_⟩, hsame, hbalance⟩
  · intro account hmem hopen
    rw [hsame] at hmem
    have hfind : book.accounts.find? account.id = some account := find?_key_of_mem hmem
    have hindex : ∀ a ∈ allocations, a.installment.1 = account.id →
        a.installment.2 < account.installments.length := by
      intro a ha hid
      obtain ⟨x, hx, -, hlt⟩ := hown a ha
      rw [hid, hfind] at hx
      cases hx
      exact hlt
    rw [hbalance, h.ledger account hmem hopen, onAccount, ← sum_allocatedTo hindex, outstanding_eq,
      outstanding_eq, ← sum_map_mul_left, ← sum_map_add]
    congr 1
    apply map_congr_left
    intro part _
    rw [hpaid', hpaid]
    ring
  · intro account hmem part hpart
    rw [hsame] at hmem
    rw [hpaid']
    exact hcovered account hmem part hpart
  · intro e he
    rw [hsame]
    rcases hposted.entries e he with he | ⟨hcustomer, p, hp, hon⟩
    · rw [hledger] at he
      exact h.owned e he
    · obtain ⟨a, ha, hid⟩ := mem_accountAmounts hp
      obtain ⟨account, hfind, hown, -⟩ := hown a ha
      exact ⟨account, by rw [hon, ← hid]; exact hfind, hown.trans hcustomer.symm⟩
  · intro p hp
    rw [hposted.payments] at hp
    rw [hsame]
    exact hpayments p hp

/-- A payment in flight has allocated to installments of the customer, within their amounts. -/
structure Bookable (book : CreditBook) (customerId : Uuid) (allocations : List CreditAllocation) :
    Prop where
  own : book.AllocatedOwn customerId allocations
  covered : ∀ account ∈ book.accounts.rows, account.customerId = customerId →
    ∀ part ∈ account.installments.zipIdx,
      book.paid (account.id, part.2) + allocatedTo allocations (account.id, part.2) ≤ part.1.amount

theorem AllocatedOwn.allocatedTo_eq_zero (h : book.AllocatedOwn customerId allocations)
    (hfind : book.accounts.find? id.1 = some account) (hne : account.customerId ≠ customerId) :
    allocatedTo allocations id = 0 := by
  refine sum_eq_zero (List.forall_mem_map.mpr fun a ha ↦ ?_)
  obtain ⟨own, hown, hcustomer, -⟩ := h a ha
  refine if_neg fun hid ↦ hne ?_
  rw [hid, hfind] at hown
  cases hown
  exact hcustomer

variable {payment : CreditPayment} {reversal : CreditReversal}

theorem paid_recordPayment {payments : Table CreditPayment}
    (hinsert : book.payments.insert payment = some payments) (hreversal : payment.reversal = none)
    (id : InstallmentId) : ({ book with payments := payments } : CreditBook).paid id =
      book.paid id + allocatedTo payment.allocations id := by
  rw [paid_eq_total, total_insert hinsert, if_pos hreversal]
  rfl

theorem debtBooked_recordPayment (h : DebtBooked book) (hreversal : payment.reversal = none)
    (hknown : book.Bookable payment.customerId payment.allocations)
    (hrecord : book.recordPayment env payment = .ok book') :
    DebtBooked book' ∧ book'.accounts = book.accounts ∧ ∀ k, book'.accountBalance k =
      book.accountBalance k + DebtEntryType.CREDIT.sign * onAccount payment.allocations k := by
  obtain ⟨-, payments, hinsert, hposted⟩ := recordPayment_writes hrecord
  have hpaid := paid_recordPayment hinsert hreversal
  refine debtBooked_of_posted h hposted rfl rfl ?_ hknown.own ?_ ?_
  · intro id
    rw [hpaid, DebtEntryType.sign]
    ring
  · intro account hmem part hpart
    rw [hpaid]
    by_cases hcustomer : account.customerId = payment.customerId
    · exact hknown.covered account hmem hcustomer part hpart
    · rw [hknown.own.allocatedTo_eq_zero (find?_key_of_mem hmem) hcustomer, add_zero]
      exact h.covered account hmem part hpart
  · exact (forall_mem_insert hinsert).mpr ⟨h.allocated, hknown.own⟩

theorem paid_recordReversal (reversal : CreditReversal)
    (hfind : book.payments.find? payment.id = some payment) (hreversal : payment.reversal = none)
    (id : InstallmentId) :
    ({ book with payments := book.payments.update payment.id fun p ↦
      { p with reversal := some reversal } } : CreditBook).paid id =
      book.paid id - allocatedTo payment.allocations id := by
  rw [paid_eq_total]
  rw [total_update _ hfind, if_neg (Option.some_ne_none _), if_pos hreversal,
    ← paid_eq_total]
  ring

theorem debtBooked_recordReversal (h : DebtBooked book)
    (hfind : book.payments.find? payment.id = some payment) (hreversal : payment.reversal = none)
    (hrecord : book.recordReversal env payment reversal = .ok book') :
    DebtBooked book' ∧ book'.accounts = book.accounts ∧ ∀ k, book'.accountBalance k =
      book.accountBalance k + DebtEntryType.DEBIT.sign * onAccount payment.allocations k := by
  have hposted := recordReversal_writes hrecord
  have hpaid := paid_recordReversal reversal hfind hreversal
  refine debtBooked_of_posted h hposted rfl rfl ?_
    (h.allocated payment (mem_of_find? hfind)) ?_ ?_
  · intro id
    rw [hpaid, DebtEntryType.sign, one_mul]
  · intro account hmem part hpart
    rw [hpaid]
    have := h.covered account hmem part hpart
    have := allocatedTo_nonneg payment.allocations (account.id, part.2)
    omega
  · exact forall_mem_update (fun _ ↦ by rfl) h.allocated fun _ _ hq ↦ hq

/-! ### What the others leave alone -/

/-- Installments and payments of a customer are as they were; an account may have been canceled. -/
structure SameDebt (customerId : Uuid) (book book' : CreditBook) : Prop where
  account : ∀ {id x}, book.accounts.find? id = some x → ∃ y, book'.accounts.find? id = some y ∧
    y.customerId = x.customerId ∧ y.installments = x.installments
  old : ∀ y ∈ book'.accounts.rows, y.customerId = customerId → ∃ x ∈ book.accounts.rows,
    x.id = y.id ∧ x.customerId = y.customerId ∧ x.installments = y.installments
  paid : ∀ id account, book.accounts.find? id.1 = some account → account.customerId = customerId →
    book'.paid id = book.paid id
  payment : ∀ p, book.payments.find? p.id = some p → p.customerId = customerId →
    book'.payments.find? p.id = some p

variable {customerId : Uuid}

theorem sameDebt_of_eq (haccounts : book'.accounts = book.accounts)
    (hpayments : book'.payments = book.payments) : SameDebt customerId book book' where
  account := fun {id x} hx ↦ ⟨x, by rw [haccounts]; exact hx, rfl, rfl⟩
  old := fun y hy _ ↦ ⟨y, haccounts ▸ hy, rfl, rfl, rfl⟩
  paid := fun id _ _ _ ↦ by rw [paid_eq_total, paid_eq_total, hpayments]
  payment := fun p hp _ ↦ by rw [hpayments]; exact hp

theorem sameDebt_openAccount (hne : input.customerId ≠ customerId)
    (hopen : book.openAccount env profile input = .ok book') : SameDebt customerId book book' := by
  obtain ⟨account, entry, accounts, ledger, -, -, hcustomer, -, -, -, -, -, hinsert, -, -, -, -, -,
    rfl⟩ := openAccount_writes hopen
  refine ⟨fun {id x} hx ↦ ⟨x, find?_insert_of_some hinsert hx, rfl, rfl⟩, ?_,
    fun _ _ _ _ ↦ rfl, fun _ hp _ ↦ hp⟩
  intro y hy hown
  rcases (mem_insert hinsert).mp hy with hy | rfl
  · exact ⟨y, hy, rfl, rfl, rfl⟩
  · exact absurd (hcustomer.symm.trans hown) hne

theorem sameDebt_cancelAccount (hcancel : book.cancelAccount env saleId key now = .ok book') :
    SameDebt customerId book book' := by
  rcases cancelAccount_writes hcancel with rfl | ⟨account, ledger, -, -, -, -, rfl⟩
  · exact sameDebt_of_eq rfl rfl
  refine ⟨?_, ?_, fun _ _ _ _ ↦ rfl, fun _ hp _ ↦ hp⟩
  · intro id x hx
    rw [find?_update, hx, Option.map_some]
    refine ⟨_, rfl, ?_⟩
    split <;> exact ⟨rfl, rfl⟩
  · intro y hy _
    rw [mem_update] at hy
    obtain ⟨x, hx, rfl⟩ := hy
    refine ⟨x, hx, ?_⟩
    split <;> exact ⟨rfl, rfl, rfl⟩

theorem sameDebt_recordPayment (hne : payment.customerId ≠ customerId)
    (hreversal : payment.reversal = none)
    (hown : book.AllocatedOwn payment.customerId payment.allocations)
    (hrecord : book.recordPayment env payment = .ok book') : SameDebt customerId book book' := by
  obtain ⟨-, payments, hinsert, hposted⟩ := recordPayment_writes hrecord
  refine ⟨fun {id x} hx ↦ ⟨x, by rw [hposted.accounts]; exact hx, rfl, rfl⟩,
    fun y hy _ ↦ ⟨y, hposted.accounts ▸ hy, rfl, rfl, rfl⟩, ?_, ?_⟩
  · intro id account hfind hcustomer
    rw [paid_eq_total, hposted.payments, ← paid_eq_total, paid_recordPayment hinsert hreversal,
      hown.allocatedTo_eq_zero hfind (hcustomer.trans_ne hne.symm), add_zero]
  · intro p hp _
    rw [hposted.payments]
    exact find?_insert_of_some hinsert hp

theorem sameDebt_recordReversal (hne : payment.customerId ≠ customerId)
    (hreversal : payment.reversal = none) (hfind : book.payments.find? payment.id = some payment)
    (hown : book.AllocatedOwn payment.customerId payment.allocations)
    (hrecord : book.recordReversal env payment reversal = .ok book') :
    SameDebt customerId book book' := by
  have hposted := recordReversal_writes hrecord
  refine ⟨fun {id x} hx ↦ ⟨x, by rw [hposted.accounts]; exact hx, rfl, rfl⟩,
    fun y hy _ ↦ ⟨y, hposted.accounts ▸ hy, rfl, rfl, rfl⟩, ?_, ?_⟩
  · intro id account haccount hcustomer
    rw [paid_eq_total, hposted.payments, ← paid_eq_total,
      paid_recordReversal reversal hfind hreversal,
      hown.allocatedTo_eq_zero haccount (hcustomer.trans_ne hne.symm), sub_zero]
  · intro p hp hcustomer
    have hid : p.id ≠ payment.id := by
      intro hid
      rw [hid, hfind] at hp
      cases hp
      exact hne hcustomer
    rw [hposted.payments]
    rw [find?_update_of_ne hid]
    exact hp

theorem Bookable.of_sameDebt (h : book.Bookable customerId allocations)
    (hsame : SameDebt customerId book book') :
    book'.Bookable customerId allocations := by
  refine ⟨?_, ?_⟩
  · intro a ha
    obtain ⟨x, hx, hcustomer, hindex⟩ := h.own a ha
    obtain ⟨y, hy, hyx, hparts⟩ := hsame.account hx
    exact ⟨y, hy, hyx.trans hcustomer, by rw [hparts]; exact hindex⟩
  · intro y hy hcustomer part hpart
    obtain ⟨x, hx, hid, hxy, hparts⟩ := hsame.old y hy hcustomer
    rw [← hid, hsame.paid _ x (find?_key_of_mem hx) (hxy.trans hcustomer)]
    exact h.covered x hx (hxy.trans hcustomer) part (by rw [hparts]; exact hpart)

/-- **What a payment reads can be booked.** -/
theorem bookable_of_allocatePayment (h : DebtBooked book)
    (hread : book.allocatePayment customerId amount = .ok allocations) :
    book.Bookable customerId allocations := by
  simp only [allocatePayment, eq_ok] at hread
  obtain ⟨-, -, rfl⟩ := hread
  refine ⟨?_, ?_⟩
  · refine List.forall_mem_map.mpr fun d hd ↦ ?_
    obtain ⟨hmem, -, -⟩ :=
      Greedy.mem_draws (openObligations_nonneg customerId) (Nat.cast_nonneg amount) d
      (mem_of_mem_filter hd)
    obtain ⟨-, account, haccount, hcustomer, -, ho⟩ := mem_openObligations hmem
    obtain ⟨part, hpart, ho⟩ := mem_obligations.mp ho
    refine ⟨account, ?_, hcustomer, ?_⟩
    · rw [ho]
      exact find?_key_of_mem haccount
    · rw [ho]
      exact snd_lt_of_mem_zipIdx hpart
  · intro account haccount _ part hpart
    have hcovered := h.covered account haccount part hpart
    have hdrawn : allocatedTo (allocationsOf amount (book.openObligations customerId))
        (account.id, part.2) = Greedy.drawnFrom Obligation.outstanding
          (fun o ↦ decide (o.installment = (account.id, part.2))) amount
          (book.openObligations customerId) := by
      rw [← sum_allocationsOf (openObligations_nonneg customerId)
        fun id ↦ decide (id = (account.id, part.2))]
      simp only [allocatedTo, decide_eq_true_eq]
    have hbounds := (Greedy.drawnFrom_bounds
      (P := fun o ↦ decide (o.installment = (account.id, part.2)))
      (book.openObligations_nonneg customerId) (Nat.cast_nonneg amount)).2
    have hone := Sums.sum_key_le Obligation.installment Obligation.outstanding
      (k := (account.id, part.2)) (sub_nonneg.mpr hcovered)
      (book.openObligations_nodup customerId) (by
        intro o ho hid
        obtain ⟨-, other, hother, -, -, ho⟩ := mem_openObligations ho
        obtain ⟨part', hpart', rfl⟩ := mem_obligations.mp ho
        obtain ⟨hid, hindex⟩ := Prod.mk.inj hid
        obtain rfl : other = account := eq_of_mem_of_key_eq hother haccount hid
        have hsame : part'.1 = part.1 := by
          rw [mem_zipIdx_iff_getElem?] at hpart hpart'
          rw [hindex, hpart] at hpart'
          exact (Option.some.inj hpart').symm
        rw [Obligation.outstanding, hsame, hindex])
    simp only [decide_eq_true_eq] at hbounds
    omega

theorem DebtInv.coherent (h : DebtInv book) : DebtCoherent book where
  ledger := h.ledger
  installments := by
    intro account hmem _ o ho
    obtain ⟨part, hpart, rfl⟩ := mem_obligations.mp ho
    exact ⟨paid_nonneg _, h.covered account hmem part hpart⟩
  canceled := h.canceled
  balance := balance_eq_openObligations h
  allocation := by
    intro customerId amount _ hamount
    obtain ⟨hbooked, hsum⟩ := allocatePayment_eq h hamount
    exact ⟨_, hbooked, hsum⟩

end CreditBook

/-! ### The transactions -/

variable {s s' : Store}

def Decision.allocations : Decision → List CreditAllocation
  | .creditPayment (.pay _ _ allocations) => allocations
  | .creditReversal (.reverse payment) => payment.allocations
  | _ => []

/-- **The condition**: no account that the commit books on has been canceled by then. -/
def BooksOnOpen (s : Store) (_ : Request) (decision : Decision) : Prop :=
  s.credit.OnOpen decision.allocations
deriving Decidable

structure KnownOfDebt (request : Request) (decision : Decision) (s : Store) : Prop where
  payment : ∀ input shift currency allocations, request = .creditPayment input →
    decision = .creditPayment (.pay shift currency allocations) →
      s.credit.Bookable input.customerId allocations
  reversal : ∀ input payment, request = .creditReversal input →
    decision = .creditReversal (.reverse payment) → Reversible s.credit input.customerId payment

variable {request : Request} {decision : Decision} {book : CreditBook}

theorem knownOfDebt_of_read (h : protocol.read request s = .ok decision) :
    KnownOfDebt request decision s := by
  constructor
  · rintro input shift currency allocations rfl rfl
    rcases read_creditPayment h with h | ⟨_, _, _, h, -, -⟩ <;> cases h
  · rintro input payment rfl rfl
    exact reversible_of_read h

theorem KnownOfDebt.reread {decision' : Decision} (hknown : KnownOfDebt request decision s)
    (hinv : s.credit.DebtBooked) (h : protocol.reread request decision s = .ok decision') :
    KnownOfDebt request decision' s := by
  rcases reread_cases h with rfl | ⟨input, shift, currency, allocations, rfl, rfl, rfl, hallocate⟩
  · exact hknown
  constructor
  · rintro _ _ _ _ ⟨⟩ ⟨⟩
    exact CreditBook.bookable_of_allocatePayment hinv hallocate
  · rintro _ _ ⟨⟩

/-- What a transaction adds to the ledger of an account, by what it books on. -/
def Decision.booked : Decision → Uuid → ℤ
  | .creditPayment (.pay _ _ allocations), accountId => -CreditBook.onAccount allocations accountId
  | .creditReversal (.reverse payment), accountId =>
    CreditBook.onAccount payment.allocations accountId
  | _, _ => 0

theorem debtBooked_write {P : ℤ → Prop} (hzero : P 0) (hinv : s.credit.DebtBooked)
    (hknown : KnownOfDebt request decision s)
    (howe : ∀ account ∈ s.credit.accounts.rows, account.canceledAt ≠ none →
      P (s.credit.accountBalance account.id) ∧
        P (s.credit.accountBalance account.id + decision.booked account.id))
    (h : protocol.write request decision s = .ok s') :
    s'.credit.DebtBooked ∧ CreditBook.CanceledOwe P s'.credit := by
  have hbefore : CreditBook.CanceledOwe P s.credit := fun account hmem hnot ↦
    (howe account hmem hnot).1
  have hcommit := creditCommit h
  revert hcommit
  generalize s'.credit = credit
  intro hcommit
  cases hcommit with
  | same => exact ⟨hinv, hbefore⟩
  | sale _ _ hrecord =>
    have hkept := CreditBook.debtBooked_openAccount hinv hrecord
    exact ⟨hkept.1, hkept.2 P hbefore⟩
  | voidSale hcancel =>
    have hkept := CreditBook.debtBooked_cancelAccount hinv hcancel
    exact ⟨hkept.1, hkept.2 P hzero hbefore⟩
  | @payment input shift currency payment _ hcustomer _ hreversal hrecord =>
    have hbookable := hknown.payment input shift currency payment.allocations rfl rfl
    rw [← hcustomer] at hbookable
    obtain ⟨hbooked, haccounts, hbalance⟩ :=
      CreditBook.debtBooked_recordPayment hinv hreversal hbookable hrecord
    refine ⟨hbooked, fun account hmem hnot ↦ ?_⟩
    rw [hbalance, DebtEntryType.sign, neg_one_mul]
    exact (howe account (haccounts ▸ hmem) hnot).2
  | @reversal input payment _ _ hrecord =>
    obtain ⟨-, hcompleted, hfound⟩ := hknown.reversal input payment rfl rfl
    obtain ⟨hbooked, haccounts, hbalance⟩ :=
      CreditBook.debtBooked_recordReversal hinv hfound hcompleted hrecord
    refine ⟨hbooked, fun account hmem hnot ↦ ?_⟩
    rw [hbalance, DebtEntryType.sign, one_mul]
    exact (howe account (haccounts ▸ hmem) hnot).2
  | profiles => exact ⟨⟨hinv.ledger, hinv.covered, hinv.owned, hinv.allocated⟩, hbefore⟩

theorem booked_of_onOpen (hopen : BooksOnOpen s request decision)
    (hmem : account ∈ s.credit.accounts.rows) (hnot : account.canceledAt ≠ none) :
    decision.booked account.id = 0 := by
  have hnone : CreditBook.onAccount decision.allocations account.id = 0 := by
    refine sum_eq_zero (List.forall_mem_map.mpr fun a ha ↦ ?_)
    have hne : a.installment.1 ≠ account.id := fun hid ↦
      hnot (hopen a ha account (hid ▸ find?_key_of_mem hmem))
    simp only [if_neg hne, zero_mul]
  rw [Decision.booked.eq_def]
  split
  · exact neg_eq_zero.mpr hnone
  · exact hnone
  · rfl

theorem debtInv_write (hinv : s.credit.DebtInv) (hknown : KnownOfDebt request decision s)
    (hopen : BooksOnOpen s request decision) (h : protocol.write request decision s = .ok s') :
    s'.credit.DebtInv := by
  obtain ⟨hbooked, hcanceled⟩ := debtBooked_write (P := (· = 0)) rfl hinv.toDebtBooked hknown
    (fun account hmem hnot ↦ by
      rw [booked_of_onOpen hopen hmem hnot, add_zero, and_self]
      exact hinv.canceled account hmem hnot) h
  exact ⟨hbooked, hcanceled⟩

/-- **A transaction that does not lock the customer** leaves the installments and the payments of
the customer alone. -/
theorem sameDebt_of_not_locks (hinv : s.credit.DebtBooked)
    (hknown : KnownOfDebt request decision s) (hlocks : ¬Locks request decision s customerId)
    (h : protocol.write request decision s = .ok s') :
    CreditBook.SameDebt customerId s.credit s'.credit := by
  have hcommit := creditCommit h
  revert hcommit
  generalize s'.credit = credit
  intro hcommit
  cases hcommit with
  | same | profiles => exact CreditBook.sameDebt_of_eq rfl rfl
  | @sale input customer profile _ _ _ hcustomer _ hrecord =>
    refine CreditBook.sameDebt_openAccount ?_ hrecord
    rintro rfl
    refine hlocks (.inl ?_)
    show LockedRow.customer customer.id ∈ input.customer.toList.map _
    rw [hcustomer]
    exact mem_singleton_self _
  | voidSale hcancel => exact CreditBook.sameDebt_cancelAccount hcancel
  | @payment input shift currency payment _ hcustomer _ hreversal hrecord =>
    have hbookable := hknown.payment input shift currency payment.allocations rfl rfl
    refine CreditBook.sameDebt_recordPayment ?_ hreversal (hcustomer ▸ hbookable.own) hrecord
    intro heq
    refine hlocks (.inl ?_)
    show LockedRow.customer customerId ∈ [LockedRow.customer input.customerId, _]
    rw [← hcustomer, heq]
    exact mem_cons_self
  | @reversal input payment _ _ hrecord =>
    obtain ⟨hown, hcompleted, hfound⟩ := hknown.reversal input payment rfl rfl
    refine CreditBook.sameDebt_recordReversal ?_ hcompleted hfound
      (hinv.allocated payment (mem_of_find? hfound)) hrecord
    intro heq
    refine hlocks (.inl ?_)
    show LockedRow.customer customerId ∈ [LockedRow.customer input.customerId]
    rw [← hown, heq]
    exact mem_singleton_self _

theorem sameDebt_of_disjoint {request' : Request} {decision' : Decision}
    (hinv : s.credit.DebtBooked) (hknown' : KnownOfDebt request' decision' s)
    (hdisjoint : ∀ row ∈ protocol.holds request,
      row ∉ protocol.holds request' ∧ row ∉ protocol.needs request' decision' s)
    (hwrite : protocol.write request' decision' s = .ok s') :
    ∀ customerId, LockedRow.customer customerId ∈ protocol.holds request →
      CreditBook.SameDebt customerId s.credit s'.credit := by
  intro customerId hholds
  obtain ⟨hholds', hneeds'⟩ := hdisjoint _ hholds
  exact sameDebt_of_not_locks hinv hknown' (not_or.mpr ⟨hholds', hneeds'⟩) hwrite

theorem KnownOfDebt.of_sameDebt (hknown : KnownOfDebt request decision s)
    (hsame : ∀ customerId, LockedRow.customer customerId ∈ protocol.holds request →
      CreditBook.SameDebt customerId s.credit s'.credit) : KnownOfDebt request decision s' := by
  constructor
  · rintro input shift currency allocations rfl hdecision
    exact (hknown.payment input shift currency allocations rfl hdecision).of_sameDebt
      (hsame _ mem_cons_self)
  · rintro input payment rfl hdecision
    obtain ⟨hown, hcompleted, hfound⟩ := hknown.reversal input payment rfl hdecision
    exact ⟨hown, hcompleted, (hsame _ (mem_singleton_self _)).payment payment hfound hown⟩

theorem debt_sound : Sound protocol BooksOnOpen (fun s ↦ s.credit.DebtInv) KnownOfDebt where
  read := fun _ hread ↦ knownOfDebt_of_read hread
  reread := fun hinv hknown hread ↦ hknown.reread hinv.toDebtBooked hread
  write := fun hinv hknown hopen hwrite ↦ debtInv_write hinv hknown hopen hwrite
  stable := fun hinv hknown hknown' _ hdisjoint hwrite ↦
    hknown.of_sameDebt (sameDebt_of_disjoint hinv.toDebtBooked hknown' hdisjoint hwrite)

/-! ### The second read of a payment -/

theorem balance_nonneg (h : book.DebtInv) (customerId : Uuid) : 0 ≤ book.balance customerId := by
  rw [CreditBook.balance_eq_openObligations h]
  refine sum_nonneg (List.forall_mem_map.mpr fun o ho ↦ ?_)
  exact CreditBook.openObligations_nonneg customerId o ho

theorem assertPaymentAmount_eq_ok (h : book.DebtInv)
    {x : PUnit} (hok : book.assertPaymentAmount customerId amount = .ok x) :
    (amount : ℤ) ≤ book.balance customerId := by
  simp only [CreditBook.assertPaymentAmount, CreditPayments.cents_columnText, eq_ok,
    Option.some.injEq, exists_eq_left', misread_of_nonneg (balance_nonneg h customerId)] at hok
  omega

/-- **When a payment cannot be allocated**: it is above what the customer owes. -/
theorem avoids_allocatePayment_iff (h : book.DebtInv) (customerId : Uuid) (amount : ℕ) :
    Avoids (book.allocatePayment customerId amount) .customerCreditPaymentAllocation ↔
      (amount : ℤ) ≤ book.balance customerId := by
  constructor
  · intro havoids
    by_contra hlt
    rw [CreditBook.balance_eq_openObligations h, ← Greedy.unmet_eq_zero_iff
      (CreditBook.openObligations_nonneg customerId) (Nat.cast_nonneg amount)] at hlt
    refine havoids ?_
    rw [CreditBook.allocatePayment, ensure, if_neg hlt]
    rfl
  · intro hamount
    rw [(CreditBook.allocatePayment_eq h hamount).1]
    exact avoids_ok _

/-- The payment that has checked its amount and is to read the open installments. -/
def Request.unallocated : Request → Decision → Option CreditPaymentInput
  | .creditPayment input, .creditPayment (.check _ _) => some input
  | _, _ => none

/-- **The condition on the second read**: the customer still owes what the payment is to pay. -/
def StillOwed (s : Store) (request : Request) (decision : Decision) : Prop :=
  ∀ input ∈ request.unallocated decision, (input.amount : ℤ) ≤ s.credit.balance input.customerId
deriving Decidable

/-- The second read does not end in `CustomerCreditPaymentAllocationError`. -/
def NotRefused (s : Store) (request : Request) (decision : Decision) : Prop :=
  Avoids (protocol.reread request decision s) .customerCreditPaymentAllocation
deriving Decidable

theorem unallocated_eq_some {input : CreditPaymentInput} :
    request.unallocated decision = some input ↔ ∃ shift currency,
      request = .creditPayment input ∧ decision = .creditPayment (.check shift currency) := by
  constructor
  · intro h
    rw [Request.unallocated.eq_def] at h
    split at h
    case h_1 shift currency => exact ⟨shift, currency, by rw [Option.some.inj h], rfl⟩
    case h_2 => cases h
  · rintro ⟨shift, currency, rfl, rfl⟩
    rfl

theorem reread_of_unallocated (h : request.unallocated decision = none) :
    protocol.reread request decision s = .ok decision := by
  show request.reread decision s = _
  rw [Request.reread.eq_def]
  split
  case h_1 input decision =>
    cases decision with
    | replay | pay => rfl
    | check => cases h
  case h_2 => rfl

/-- **The second read is refused** exactly when the customer does not owe as much any more. -/
theorem notRefused_iff (h : s.credit.DebtInv) :
    NotRefused s request decision ↔ StillOwed s request decision := by
  rw [NotRefused, StillOwed]
  cases hpending : request.unallocated decision with
  | none =>
    rw [reread_of_unallocated hpending]
    exact iff_of_true (avoids_ok _) fun _ hnone ↦ absurd hnone (Option.not_mem_none _)
  | some input =>
    obtain ⟨shift, currency, rfl, rfl⟩ := unallocated_eq_some.mp hpending
    have hreread : protocol.reread (.creditPayment input)
        (.creditPayment (.check shift currency)) s =
          (readObligations s input (.check shift currency)).map Decision.creditPayment := rfl
    have hall : (∀ i ∈ some input, (i.amount : ℤ) ≤ s.credit.balance i.customerId) ↔
        (input.amount : ℤ) ≤ s.credit.balance input.customerId := by simp
    rw [hall, ← avoids_allocatePayment_iff h, hreread, readObligations]
    cases s.credit.allocatePayment input.customerId input.amount with
    | error e => simp [Avoids, Except.map]
    | ok allocations => exact iff_of_true (avoids_ok _) (avoids_ok _)

/-- After its first read a payment is owed. -/
theorem stillOwed_of_read (h : s.credit.DebtInv) (hread : protocol.read request s = .ok decision) :
    StillOwed s request decision := by
  intro input hinput
  obtain ⟨shift, currency, rfl, rfl⟩ := unallocated_eq_some.mp hinput
  rcases read_creditPayment hread with hread | ⟨_, _, x, -, -, hamount⟩
  · cases hread
  · exact assertPaymentAmount_eq_ok h hamount

/-- **Only a void** that commits beside it can make what a payment is to pay no longer owed. -/
theorem StillOwed.beside {request' : Request} {decision' : Decision}
    (h : StillOwed s request decision) (hreverses : ReversesOwn request' decision')
    (hdisjoint : ∀ row ∈ protocol.holds request,
      row ∉ protocol.holds request' ∧ row ∉ protocol.needs request' decision' s)
    (hvoid : ∀ input, request' ≠ .voidSale input)
    (hwrite : protocol.write request' decision' s = .ok s') : StillOwed s' request decision := by
  intro input hinput
  have howed := h input hinput
  obtain ⟨shift, currency, rfl, rfl⟩ := unallocated_eq_some.mp hinput
  have hlocks := not_or.mpr (hdisjoint (.customer input.customerId) mem_cons_self)
  rcases (balance_of_not_locks hreverses hlocks hwrite).1 with hsame | ⟨⟨_, hvoided⟩, -⟩
  · exact hsame ▸ howed
  · exact absurd hvoided (hvoid _)

/-! ### The result -/

/-- A customer with credit buys for ten units on credit and pays four of them in cash. -/
def creditRun : List (Event Request) :=
  alone (.opening 0) ++
  alone (.configureCredit {
    customerId := 7, enabled := true, creditLimit := 5000, currency := .MXN, termDays := 30
    maxInstallments := 2 }) ++
  alone (.selling (some { id := 7, loyalty := none, credit := some 2 })
    [{ quantity := 1000, subtotal := 1000, tax := 0 }] []) ++
  alone (.creditPayment {
    branchId := 1, cashRegisterId := 1, userId := 1, customerId := 7, idempotencyKey := [1]
    fingerprint := [1], amount := 400, method := .CASH, reference := none })

def oneCustomer : Table Customer :=
  (.ofRow { id := 7, available := true })

def reversedAfterVoid : List (Event Request) :=
  creditRun ++
  alone (.voidSale {
    branchId := 1, cashRegisterId := 1, saleId := 0, userId := 1, idempotencyKey := [2]
    fingerprint := [2], clock := ⟨0, 0, 0⟩, now := 1 }) ++
  alone (.creditReversal {
    branchId := 1, cashRegisterId := 1, userId := 1, customerId := 7, paymentId := 0
    idempotencyKey := [2], fingerprint := [2], reason := [1] })

/-- At another register a payment of the rest checks its amount, then the sale is voided. -/
def voidedBetweenReads : List (Event Request) :=
  creditRun ++
  alone (.openShift {
    branchId := 1, cashRegisterId := 2, userId := 2, openingAmount := 0, currency := .MXN
    idempotencyKey := [2] }) ++
  [.start (.creditPayment {
    branchId := 1, cashRegisterId := 2, userId := 2, customerId := 7, idempotencyKey := [3]
    fingerprint := [3], amount := 600, method := .CASH, reference := none }),
  .start (.voidSale {
    branchId := 1, cashRegisterId := 1, saleId := 0, userId := 1, idempotencyKey := [2]
    fingerprint := [2], clock := ⟨0, 0, 0⟩, now := 1 }),
  .finish 1, .reread 0]

/-- **A payment that fits the balance is refused**, and no commit books on a canceled account. -/
theorem refused_after_void :
    protocol.Commits BooksOnOpen (State.idle (Store.fresh default oneCustomer))
        voidedBetweenReads ∧
      ¬protocol.Rereads NotRefused (State.idle (Store.fresh default oneCustomer))
        voidedBetweenReads := by
  decide +kernel

end UInventario.Pos
