import Mathlib.Algebra.BigOperators.Ring.Finset
import UInventario.Foundations.Sums
import UInventario.Pos.CreditLimit

/-!
# The debt of a customer, kept twice

What an account owes is on the ledger and, again, in its installments and the payments allocated to
them. The two agree but when a payment or a reversal is booked on an account that has been canceled:
the void has taken it off the ledger for good.

* `DebtCoherent`: the ledger of an open account is what is outstanding on its installments, that of
  a canceled account is zero, and so the balance of a customer is the sum of the open obligations.
* `DebtInv` is the invariant behind it, `BooksOnOpen` the condition under which a commit keeps it,
  and `debt_coherent` the result for runs.
-/

namespace UInventario.Pos

open Outcome LockedRuns List

def allocatedTo (allocations : List CreditAllocation) (id : InstallmentId) : ℤ :=
  (allocations.map fun a ↦ if a.installment = id then (a.amount : ℤ) else 0).sum

namespace CreditBook

def outstanding (book : CreditBook) (account : CreditAccount) : ℤ :=
  ((book.obligations account).map Obligation.outstanding).sum

def owed (book : CreditBook) (account : CreditAccount) : ℤ :=
  if account.canceledAt = none then book.outstanding account else 0

/-- **The debt is coherent.** -/
structure DebtCoherent (book : CreditBook) : Prop where
  /-- The ledger of an account that is not canceled is what its installments leave open. -/
  ledger : ∀ account ∈ book.accounts.rows, account.canceledAt = none →
    book.accountBalance account.id = book.outstanding account
  /-- No installment is paid by less than nothing or by more than its amount. -/
  installments : ∀ account ∈ book.accounts.rows, account.canceledAt = none →
    ∀ o ∈ book.obligations account, 0 ≤ o.paidAmount ∧ o.paidAmount ≤ o.amount
  /-- The ledger of a canceled account is zero. -/
  canceled : ∀ account ∈ book.accounts.rows, account.canceledAt ≠ none →
    book.accountBalance account.id = 0
  /-- The balance of a customer is the sum of the open obligations. -/
  balance : ∀ customerId, book.balance customerId =
    ((book.openObligations customerId).map Obligation.outstanding).sum
  /-- A payment up to the balance is booked completely. -/
  allocation : ∀ customerId (amount : ℕ), 0 < amount → (amount : ℤ) ≤ book.balance customerId →
    ∃ allocations, book.allocatePayment customerId amount = .ok allocations ∧
      (allocations.map CreditAllocation.amount).sum = amount

/-- **What every transaction keeps**: the invariant of the accounts that are not canceled. -/
structure DebtBooked (book : CreditBook) : Prop where
  /-- The ledger of an account is what the account owes. -/
  ledger : ∀ account ∈ book.accounts.rows, account.canceledAt = none →
    book.accountBalance account.id = book.outstanding account
  /-- No installment is paid by more than its amount. -/
  covered : ∀ account ∈ book.accounts.rows, ∀ part ∈ account.installments.zipIdx,
    book.paid (account.id, part.2) ≤ part.1.amount
  /-- An entry is of the customer whose account it is on. -/
  owned : ∀ e ∈ book.ledger.rows, ∃ account, book.accounts.find? e.accountId = some account ∧
    account.customerId = e.customerId
  /-- A payment is allocated to installments of its customer. -/
  allocated : ∀ p ∈ book.payments.rows, ∀ a ∈ p.allocations, ∃ account,
    book.accounts.find? a.installment.1 = some account ∧ account.customerId = p.customerId ∧
      a.installment.2 < account.installments.length

def CanceledOwe (P : ℤ → Prop) (book : CreditBook) : Prop :=
  ∀ account ∈ book.accounts.rows, account.canceledAt ≠ none → P (book.accountBalance account.id)

/-- **The invariant of the credit book.** -/
structure DebtInv (book : CreditBook) : Prop extends DebtBooked book where
  canceled : CanceledOwe (· = 0) book

variable {book book' : CreditBook}

theorem DebtInv.balance_eq_owed (h : DebtInv book) {account : CreditAccount}
    (hmem : account ∈ book.accounts.rows) :
    book.accountBalance account.id = book.owed account := by
  rw [owed]
  split
  case isTrue hopen => exact h.ledger account hmem hopen
  case isFalse hnot => exact h.canceled account hmem hnot

theorem paid_eq_total (id : InstallmentId) : book.paid id = book.payments.total fun p ↦
      if p.reversal = none then allocatedTo p.allocations id else 0 := rfl

theorem allocatedTo_nonneg (allocations : List CreditAllocation) (id : InstallmentId) :
    0 ≤ allocatedTo allocations id := by
  refine sum_nonneg (forall_mem_map.mpr fun a _ ↦ ?_)
  split
  · positivity
  · exact le_rfl

theorem paid_nonneg (id : InstallmentId) : 0 ≤ book.paid id := by
  apply Table.total_nonneg
  intro p _
  split
  · exact allocatedTo_nonneg p.allocations id
  · exact le_rfl

theorem outstanding_eq (account : CreditAccount) :
    book.outstanding account = (account.installments.zipIdx.map fun part ↦
      (part.1.amount : ℤ) - book.paid (account.id, part.2)).sum := by
  rw [outstanding, obligations, map_map]
  rfl

variable {account : CreditAccount} {customerId : Uuid} {o : Obligation} {amount : ℕ}

theorem sum_allocatedTo {allocations : List CreditAllocation}
    (h : ∀ a ∈ allocations, a.installment.1 = account.id →
      a.installment.2 < account.installments.length) :
    (account.installments.zipIdx.map fun part ↦ allocatedTo allocations (account.id, part.2)).sum =
      CreditBook.allocated allocations fun id ↦ if id = account.id then 1 else 0 := by
  simp only [allocatedTo]
  rw [Sums.sum_comm, CreditBook.allocated]
  congr 1
  apply map_congr_left
  intro a ha
  by_cases hid : a.installment.1 = account.id
  · have hsame : ∀ part : Installment × ℕ,
        (if a.installment = (account.id, part.2) then (a.amount : ℤ) else 0) =
          if part.2 = a.installment.2 then (a.amount : ℤ) else 0 := by
      intro part
      refine if_congr ?_ rfl rfl
      rw [Prod.ext_iff]
      exact ⟨fun h ↦ h.2.symm, fun h ↦ ⟨hid, h.symm⟩⟩
    simp only [hsame]
    rw [Sums.sum_zipIdx_single, if_pos hid, if_pos ⟨Nat.zero_le _, by simpa using h a ha hid⟩,
      one_mul]
  · rw [if_neg hid, zero_mul]
    refine sum_eq_zero (forall_mem_map.mpr fun part _ ↦ ?_)
    exact if_neg fun h ↦ hid (congrArg Prod.fst h)

/-! ### What the invariant says -/

private theorem signed_eq_sum (h : DebtBooked book) (customerId : Uuid) {e : DebtEntry}
    (he : e ∈ book.ledger.rows) :
    (if e.customerId = customerId then e.signed else 0) =
      (book.accounts.rows.map fun account ↦ if account.customerId = customerId then
        if e.accountId = account.id then e.signed else 0 else 0).sum := by
  obtain ⟨account, hfind, hcustomer⟩ := h.owned e he
  obtain ⟨hmem, hid⟩ := Table.find?_eq_some.mp hfind
  change account.id = e.accountId at hid
  have hone := Sums.sum_key_eq CreditAccount.id
    (fun account ↦ if account.customerId = customerId then e.signed else 0) book.accounts.nodup hmem
  rw [← hcustomer, ← hone]
  congr 1
  apply map_congr_left
  intro x _
  rw [← hid]
  by_cases hx : x.id = account.id
  · rw [if_pos hx, if_pos hx.symm]
  · rw [if_neg hx]
    split
    · exact (if_neg fun h ↦ hx h.symm).symm
    · rfl

/-- **The balance of a customer** is what the ledger has of the customer's accounts. -/
theorem balance_eq_accounts (h : DebtBooked book) (customerId : Uuid) :
    book.balance customerId = (book.accounts.rows.map fun account ↦
      if account.customerId = customerId then book.accountBalance account.id else 0).sum := by
  rw [balance, Table.total, map_congr_left fun e he ↦ signed_eq_sum h customerId he,
    Sums.sum_comm]
  congr 1
  apply map_congr_left
  intro account _
  split
  · rfl
  · simp

theorem balance_eq_outstanding (h : DebtInv book) (customerId : Uuid) :
    book.balance customerId = ((book.openAccounts customerId).map book.outstanding).sum := by
  rw [balance_eq_accounts h.toDebtBooked, openAccounts, Sums.sum_filter]
  congr 1
  apply map_congr_left
  intro account hmem
  rw [h.balance_eq_owed hmem, owed]
  by_cases hcustomer : account.customerId = customerId
  · simp [hcustomer]
  · simp [hcustomer]

theorem mem_obligations : o ∈ book.obligations account ↔ ∃ part ∈ account.installments.zipIdx,
      o = { installment := (account.id, part.2)
            dueDate := part.1.dueDate
            createdAt := account.createdAt
            amount := part.1.amount
            paidAmount := book.paid (account.id, part.2) } := by
  rw [obligations, mem_map]
  exact ⟨fun ⟨part, hpart, ho⟩ ↦ ⟨part, hpart, ho.symm⟩,
    fun ⟨part, hpart, ho⟩ ↦ ⟨part, hpart, ho.symm⟩⟩

theorem outstanding_eq_filter (h : DebtInv book) (hmem : account ∈ book.accounts.rows) :
    book.outstanding account =
      (((book.obligations account).filter fun o ↦ (o.amount : ℤ) > o.paidAmount).map
        Obligation.outstanding).sum := by
  rw [Sums.sum_filter, outstanding]
  congr 1
  apply map_congr_left
  intro o ho
  obtain ⟨part, hpart, rfl⟩ := mem_obligations.mp ho
  have hcovered := h.covered account hmem part hpart
  simp only [decide_eq_true_eq, Obligation.outstanding]
  split <;> omega

/-- **The balance of a customer is the sum of the open obligations.** -/
theorem balance_eq_openObligations (h : DebtInv book) (customerId : Uuid) :
    book.balance customerId =
      ((book.openObligations customerId).map Obligation.outstanding).sum := by
  have hperm := (orderBy_perm Obligation.before (((book.openAccounts customerId).flatMap
    book.obligations).filter fun o ↦ (o.amount : ℤ) > o.paidAmount)).map Obligation.outstanding
  rw [openObligations, hperm.sum_eq, balance_eq_outstanding h, filter_flatMap, Sums.sum_flatMap]
  congr 1
  apply map_congr_left
  intro account hmem
  exact outstanding_eq_filter h (mem_of_mem_filter hmem)

theorem mem_openObligations (ho : o ∈ book.openObligations customerId) :
    0 < o.outstanding ∧ ∃ account ∈ book.accounts.rows, account.customerId = customerId ∧
      account.canceledAt = none ∧ o ∈ book.obligations account := by
  rw [openObligations, mem_orderBy, mem_filter, mem_flatMap] at ho
  obtain ⟨⟨account, haccount, ho⟩, hopen⟩ := ho
  obtain ⟨hmem, hcond⟩ := mem_filter.mp haccount
  simp only [decide_eq_true_eq] at hopen hcond
  exact ⟨sub_pos.mpr hopen, account, hmem, hcond.1, hcond.2, ho⟩

/-! ### Booking a payment -/

theorem openObligations_nonneg (customerId : Uuid) :
    ∀ o ∈ book.openObligations customerId, 0 ≤ o.outstanding :=
  fun _ ho ↦ (mem_openObligations ho).1.le

theorem sum_allocationsOf {obligations : List Obligation}
    (hopen : ∀ o ∈ obligations, 0 ≤ o.outstanding) (P : InstallmentId → Bool) :
    ((allocationsOf amount obligations).map fun a ↦
      if P a.installment = true then (a.amount : ℤ) else 0).sum =
      Greedy.drawnFrom Obligation.outstanding (fun o ↦ P o.installment) amount obligations := by
  rw [allocationsOf, map_map, Sums.sum_filter, Greedy.drawnFrom]
  congr 1
  apply map_congr_left
  intro d hd
  obtain ⟨-, hlow, -⟩ := Greedy.mem_draws hopen (Nat.cast_nonneg amount) d hd
  simp only [Function.comp_apply, decide_eq_true_eq, Int.toNat_of_nonneg hlow]
  split
  · rfl
  · have : d.2 = 0 := by omega
    rw [this, ite_self]

theorem openObligations_nodup (customerId : Uuid) :
    ((book.openObligations customerId).map Obligation.installment).Nodup := by
  have hperm := (orderBy_perm Obligation.before (((book.openAccounts customerId).flatMap
    book.obligations).filter fun o ↦ (o.amount : ℤ) > o.paidAmount)).map Obligation.installment
  rw [openObligations, hperm.nodup_iff]
  refine List.Nodup.sublist (List.Sublist.map _ filter_sublist) ?_
  rw [map_flatMap, nodup_flatMap]
  constructor
  · intro account _
    have hindices : (book.obligations account).map Obligation.installment =
        ((account.installments.zipIdx.map Prod.snd).map fun n ↦ (account.id, n)) := by
      rw [obligations, map_map, map_map]
      rfl
    rw [hindices, zipIdx_map_snd]
    exact List.Nodup.map (fun _ _ h ↦ congrArg Prod.snd h) nodup_range'
  · have hids : (book.openAccounts customerId).Pairwise fun a b ↦ a.id ≠ b.id := by
      have := book.accounts.nodup
      rw [List.Nodup, pairwise_map] at this
      exact this.filter _
    refine hids.imp ?_
    intro a b hne x hxa hxb
    obtain ⟨o, ho, rfl⟩ := mem_map.mp hxa
    obtain ⟨o', ho', hsame⟩ := mem_map.mp hxb
    obtain ⟨part, -, rfl⟩ := mem_obligations.mp ho
    obtain ⟨part', -, rfl⟩ := mem_obligations.mp ho'
    exact hne (congrArg Prod.fst hsame).symm

/-- **A payment up to the balance is booked completely.** -/
theorem allocatePayment_eq (h : DebtInv book) (hamount : (amount : ℤ) ≤ book.balance customerId) :
    book.allocatePayment customerId amount =
        .ok (allocationsOf amount (book.openObligations customerId)) ∧
      ((allocationsOf amount (book.openObligations customerId)).map
        CreditAllocation.amount).sum = amount := by
  rw [balance_eq_openObligations h] at hamount
  have hunmet := (Greedy.unmet_eq_zero_iff (openObligations_nonneg customerId)
    (Nat.cast_nonneg amount)).mpr
    hamount
  refine ⟨?_, ?_⟩
  · rw [allocatePayment]
    simp only [ensure, if_pos hunmet, ok_bind]
    rfl
  · have hall : ((allocationsOf amount (book.openObligations customerId)).map fun a ↦
        (a.amount : ℤ)).sum = Greedy.drawnFrom Obligation.outstanding (fun _ ↦ true) amount
          (book.openObligations customerId) :=
      sum_allocationsOf (openObligations_nonneg customerId) fun _ ↦ true
    rw [Greedy.drawnFrom_of_forall fun _ _ ↦ rfl, hunmet, sub_zero] at hall
    rw [← Int.natCast_inj, ← hall, Nat.cast_list_sum, map_map]
    rfl

end CreditBook

end UInventario.Pos
