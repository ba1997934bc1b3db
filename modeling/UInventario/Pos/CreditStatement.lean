import Mathlib.Data.Prod.Lex
import UInventario.Pos.DebtRuns

/-!
# The credit statement of a customer

`creditStatement` puts together the accounts with what the ledger has of each, the installments with
what is allocated to them by payments that are not reversed, the balance and what is overdue. The
last is worked out account by account: the installments that are due, less all that has been paid.

So the statement is coherent as long as every account is paid in the order of its due dates
(`InOrder`) and none that is canceled has been paid more than it owes. Payments are allocated in
that order; a reversal leaves a gap when something has been paid on a later installment.

`StatementInv` is the invariant, `KeepsStatement` says when a commit keeps it,
`credit_statement_coherent` is the result for runs, and `reversed_out_of_order` a run with a gap.
-/

namespace UInventario.Pos

open Outcome LockedRuns Table List

inductive StatementStatus
  | CANCELLED | PAID | OVERDUE | PARTIAL | OPEN
  deriving DecidableEq

/-- An element of `accounts[].installments`. -/
structure StatementInstallment where
  number : ℕ
  dueDate : Day
  (amount paidAmount balance : ℤ)
  status : StatementStatus

/-- An element of `accounts`. -/
structure StatementAccount where
  (id saleId : Uuid)
  (originalAmount balance : ℤ)
  status : StatementStatus
  installments : List StatementInstallment

inductive CustomerCreditStatus
  | DISABLED | OVERDUE | LIMIT_REACHED | AVAILABLE

structure CustomerCreditStatement where
  currency : Currency
  (balance overdueAmount : ℤ)
  status : CustomerCreditStatus
  accounts : List StatementAccount

/-- `toMoneyCents` of the text of a column. -/
def CustomerRepository.toMoneyCents (cents : ℤ) : ℤ :=
  (CreditPayments.cents (columnText cents)).getD 0

open CustomerRepository (toMoneyCents)

theorem toMoneyCents_of_nonneg {cents : ℤ} (h : 0 ≤ cents) : toMoneyCents cents = cents := by
  rw [toMoneyCents, CreditPayments.cents_columnText, Option.getD_some, misread_of_nonneg h]

def statementInstallment (today : Day) (canceled : Bool) (o : Obligation) : StatementInstallment :=
  let amount := toMoneyCents o.amount
  let paid := toMoneyCents o.paidAmount
  let balance := if amount > paid then amount - paid else 0
  { number := o.installment.2 + 1
    dueDate := o.dueDate
    amount := amount
    paidAmount := if paid > amount then amount else paid
    balance := balance
    status :=
      if canceled then .CANCELLED
      else if balance = 0 then .PAID
      else if paid > 0 then if o.dueDate < today then .OVERDUE else .PARTIAL
      else if o.dueDate < today then .OVERDUE else .OPEN }

namespace CreditBook

def statementAccount (book : CreditBook) (today : Day) (account : CreditAccount) :
    StatementAccount :=
  let canceled := account.canceledAt.isSome
  let installments := (book.obligations account).map (statementInstallment today canceled)
  let original := toMoneyCents account.originalAmount
  let rawBalance := toMoneyCents (book.accountBalance account.id)
  let balance := if rawBalance > 0 then rawBalance else 0
  { id := account.id
    saleId := account.saleId
    originalAmount := original
    balance := balance
    status :=
      if canceled then .CANCELLED
      else if balance = 0 then .PAID
      else if installments.any fun i ↦ i.status = .OVERDUE then .OVERDUE
      else if balance < original then .PARTIAL else .OPEN
    installments := installments }

/-- `credit_overdue_amount`. -/
def overdueAmount (book : CreditBook) (today : Day) (customerId : Uuid) : ℤ :=
  ((book.openAccounts customerId).map fun account ↦
    max (((account.installments.filter fun i ↦ i.dueDate < today).map fun i ↦ (i.amount : ℤ)).sum -
      max (account.originalAmount - book.accountBalance account.id) 0) 0).sum

/-- `ORDER BY account.created_at DESC, account.id DESC`. -/
def newerAccount (a b : CreditAccount) : Prop :=
  b.createdAt < a.createdAt ∨ b.createdAt = a.createdAt ∧ b.id ≤ a.id
deriving Decidable

end CreditBook

/-- `creditStatement`, with the `data` of the customer that it reads. -/
def creditStatement (s : Store) (today : Day) (customerId : Uuid) :
    Option CustomerCreditStatement := do
  let _ ← s.customers.find? customerId
  let profile ← s.credit.profiles.find? customerId
  let balance := toMoneyCents (s.credit.balance customerId)
  let limit := toMoneyCents profile.creditLimit
  let overdue := toMoneyCents (s.credit.overdueAmount today customerId)
  let available := if limit > balance then limit - balance else 0
  some
    { currency := profile.currency
      balance := balance
      overdueAmount := overdue
      status :=
        if profile.enabled = false then .DISABLED
        else if overdue > 0 then .OVERDUE
        else if available = 0 then .LIMIT_REACHED else .AVAILABLE
      accounts := (orderBy CreditBook.newerAccount (s.credit.accounts.rows.filter fun account ↦
        account.customerId = customerId)).map (s.credit.statementAccount today) }

/-- **The statement is coherent.** -/
structure CustomerCreditStatement.Coherent (statement : CustomerCreditStatement) : Prop where
  overdue : statement.overdueAmount = ((statement.accounts.flatMap fun account ↦
    account.installments.filter fun i ↦ i.status = .OVERDUE).map StatementInstallment.balance).sum
  installments : ∀ account ∈ statement.accounts, account.status ≠ .CANCELLED →
    (account.installments.map StatementInstallment.balance).sum = account.balance
  balance : (statement.accounts.map StatementAccount.balance).sum = statement.balance
  paid : ∀ account ∈ statement.accounts,
    account.status = .PAID ↔ ∀ i ∈ account.installments, i.status = .PAID

/-! ### Accounts that are paid in order -/

namespace CreditBook

variable {book book' : CreditBook} {env : Env} {account : CreditAccount} {today : Day}

/-- **In order**: nothing is paid on an installment while one that is due before is open. -/
def InOrder (book : CreditBook) : Prop :=
  ∀ account ∈ book.accounts.rows, account.canceledAt = none →
    ∀ i ∈ account.installments.zipIdx, ∀ j ∈ account.installments.zipIdx,
      i.1.dueDate < j.1.dueDate →
        book.paid (account.id, i.2) = i.1.amount ∨ book.paid (account.id, j.2) = 0

/-- **The invariant of the statement.** -/
structure StatementInv (book : CreditBook) : Prop where
  booked : book.DebtBooked
  canceled : CanceledOwe (0 ≤ ·) book
  inOrder : book.InOrder
  parts : ∀ account ∈ book.accounts.rows, account.installments ≠ [] ∧
    (account.installments.map Installment.amount).sum = account.originalAmount

theorem StatementInv.accountBalance_nonneg (h : StatementInv book)
    (hmem : account ∈ book.accounts.rows) : 0 ≤ book.accountBalance account.id := by
  by_cases hopen : account.canceledAt = none
  · rw [h.booked.ledger account hmem hopen]
    exact outstanding_nonneg h.booked hmem
  · exact h.canceled account hmem hopen

theorem StatementInv.balance_statementAccount (h : StatementInv book)
    (hmem : account ∈ book.accounts.rows) :
    (book.statementAccount today account).balance = book.accountBalance account.id := by
  have hnonneg := h.accountBalance_nonneg hmem
  simp only [statementAccount, toMoneyCents_of_nonneg hnonneg]
  split <;> omega

section

variable {o : Obligation} (h : DebtBooked book) (hmem : account ∈ book.accounts.rows)
  (ho : o ∈ book.obligations account)
include h hmem ho

theorem DebtBooked.outstanding_nonneg : 0 ≤ o.outstanding := by
  obtain ⟨part, hpart, rfl⟩ := mem_obligations.mp ho
  exact sub_nonneg.mpr (h.covered account hmem part hpart)

/-- **An installment of the statement.** -/
theorem DebtBooked.statementInstallment_eq (today : Day) (canceled : Bool) :
    (statementInstallment today canceled o).balance = o.outstanding ∧
      ((statementInstallment today canceled o).status = .OVERDUE ↔
        canceled = false ∧ o.outstanding ≠ 0 ∧ o.dueDate < today) ∧
      ((statementInstallment today canceled o).status = .PAID ↔
        canceled = false ∧ o.outstanding = 0) := by
  obtain ⟨part, hpart, rfl⟩ := mem_obligations.mp ho
  have hcovered := h.covered account hmem part hpart
  have hpaid : 0 ≤ book.paid (account.id, part.2) := paid_nonneg _
  have hbalance : (if (part.1.amount : ℤ) > book.paid (account.id, part.2) then
      (part.1.amount : ℤ) - book.paid (account.id, part.2) else 0) =
        part.1.amount - book.paid (account.id, part.2) := by
    split <;> omega
  simp only [statementInstallment, toMoneyCents_of_nonneg hpaid,
    toMoneyCents_of_nonneg (Nat.cast_nonneg part.1.amount), hbalance, Obligation.outstanding]
  refine ⟨trivial, ?_, ?_⟩
  · cases canceled with
    | true => simp
    | false => split_ifs <;> simp_all
  · cases canceled with
    | true => simp
    | false => split_ifs <;> simp_all

end

section

variable (h : StatementInv book) (hmem : account ∈ book.accounts.rows)
include h hmem

theorem StatementInv.sum_balances :
    ((book.statementAccount today account).installments.map StatementInstallment.balance).sum =
      book.outstanding account := by
  rw [statementAccount, map_map, outstanding]
  refine congrArg List.sum (map_congr_left fun o ho ↦ ?_)
  exact (h.booked.statementInstallment_eq hmem ho today _).1

theorem StatementInv.sum_paid (hopen : account.canceledAt = none) :
    (account.installments.zipIdx.map fun part ↦ book.paid (account.id, part.2)).sum =
      account.originalAmount - book.accountBalance account.id := by
  have hamounts : (account.installments.zipIdx.map fun part ↦ (part.1.amount : ℤ)).sum =
      account.originalAmount := by
    rw [← (h.parts account hmem).2, Nat.cast_list_sum, map_map]
    conv_rhs => rw [← zipIdx_map_fst 0 account.installments, map_map]
    rfl
  rw [h.booked.ledger account hmem hopen, outstanding_eq, ← hamounts, eq_sub_iff_add_eq,
    ← sum_map_add]
  refine congrArg List.sum (map_congr_left fun part _ ↦ ?_)
  ring

/-- **What is overdue on an account** by the ledger is what its overdue installments leave open. -/
theorem StatementInv.overdue_eq (hopen : account.canceledAt = none) :
    max (((account.installments.filter fun i ↦ i.dueDate < today).map fun i ↦ (i.amount : ℤ)).sum -
        max (account.originalAmount - book.accountBalance account.id) 0) 0 =
      (((book.statementAccount today account).installments.filter fun i ↦
        i.status = .OVERDUE).map StatementInstallment.balance).sum := by
  have hdue : ((account.installments.filter fun i ↦ i.dueDate < today).map fun i ↦
      (i.amount : ℤ)).sum = ((account.installments.zipIdx.filter fun part ↦
        part.1.dueDate < today).map fun part ↦ (part.1.amount : ℤ)).sum := by
    conv_lhs => rw [← zipIdx_map_fst 0 account.installments, filter_map, map_map]
    rfl
  have hbounds : ∀ part ∈ account.installments.zipIdx, 0 ≤ book.paid (account.id, part.2) ∧
      book.paid (account.id, part.2) ≤ part.1.amount :=
    fun part hpart ↦ ⟨paid_nonneg _, h.booked.covered account hmem part hpart⟩
  have hpaid : 0 ≤ (account.installments.zipIdx.map fun part ↦
      book.paid (account.id, part.2)).sum := by
    refine sum_nonneg (forall_mem_map.mpr fun part hpart ↦ ?_)
    exact (hbounds part hpart).1
  rw [← h.sum_paid hmem hopen, max_eq_left hpaid, hdue, Sums.max_due_sub_filled hbounds,
    Sums.sum_filter, statementAccount, obligations, map_map, map_map]
  · refine congrArg List.sum (map_congr_left fun part hpart ↦ ?_)
    obtain ⟨hbalance, hoverdue, -⟩ := h.booked.statementInstallment_eq hmem
      (mem_obligations.mpr ⟨part, hpart, rfl⟩) today false
    simp only [Obligation.outstanding] at hbalance hoverdue
    simp only [Function.comp_apply, decide_eq_true_eq, hopen, Option.isSome_none, hoverdue,
      hbalance,
      true_and]
    by_cases hdue : part.1.dueDate < today
    · by_cases hzero : (part.1.amount : ℤ) - book.paid (account.id, part.2) = 0
      · simp [hdue, hzero]
      · simp [hdue, hzero]
    · simp [hdue]
  · intro i hi j hj hidue hjdue
    exact h.inOrder account hmem hopen i hi j hj (lt_of_lt_of_le (of_decide_eq_true hidue)
      (not_lt.mp (of_decide_eq_false hjdue)))

theorem StatementInv.status_eq_PAID_iff : (book.statementAccount today account).status = .PAID ↔
      ∀ i ∈ (book.statementAccount today account).installments, i.status = .PAID := by
  have hinstallments : (∀ i ∈ (book.statementAccount today account).installments,
      i.status = .PAID) ↔ ∀ o ∈ book.obligations account,
        account.canceledAt.isSome = false ∧ o.outstanding = 0 := by
    rw [statementAccount, forall_mem_map]
    exact forall₂_congr fun o ho ↦ (h.booked.statementInstallment_eq hmem ho today _).2.2
  have hbalance : (book.statementAccount today account).balance = _ :=
    h.balance_statementAccount hmem
  obtain ⟨first, hfirst⟩ := exists_mem_of_ne_nil _ (h.parts account hmem).1
  rw [hinstallments]
  cases hcanceled : account.canceledAt.isSome with
  | true =>
    refine iff_of_false ?_ fun hall ↦ ?_
    · simp [statementAccount, hcanceled]
    · obtain ⟨n, hn⟩ := mem_iff_getElem?.mp hfirst
      have hpart := mem_zipIdx_iff_getElem?.mpr (show account.installments[(first, n).2]? =
        some (first, n).1 from hn)
      cases (hall _ (mem_obligations.mpr ⟨_, hpart, rfl⟩)).1
  | false =>
    have hstatus : (book.statementAccount today account).status = .PAID ↔
        (book.statementAccount today account).balance = 0 := by
      simp only [statementAccount, hcanceled]
      split_ifs <;> simp_all
    have hopen : account.canceledAt = none := by simpa using hcanceled
    rw [hstatus, hbalance, h.booked.ledger account hmem hopen, outstanding]
    constructor
    · intro hzero o ho
      refine ⟨rfl, all_zero_of_le_zero_le_of_sum_eq_zero (fun x hx ↦ ?_) hzero
        (mem_map_of_mem ho)⟩
      obtain ⟨o', ho', rfl⟩ := mem_map.mp hx
      exact h.booked.outstanding_nonneg hmem ho'
    · intro hall
      refine sum_eq_zero (forall_mem_map.mpr fun o ho ↦ ?_)
      exact (hall o ho).2

theorem StatementInv.overdue_canceled (hcanceled : account.canceledAt ≠ none) :
    (((book.statementAccount today account).installments.filter fun i ↦
      i.status = .OVERDUE).map StatementInstallment.balance).sum = 0 := by
  have hnone : (book.statementAccount today account).installments.filter
      (fun i ↦ i.status = .OVERDUE) = [] := by
    rw [statementAccount, filter_eq_nil_iff, forall_mem_map]
    intro o ho hoverdue
    have hstatus := (h.booked.statementInstallment_eq hmem ho today account.canceledAt.isSome).2.1
    exact hcanceled (Option.isSome_eq_false_iff.mp
      (hstatus.mp (of_decide_eq_true hoverdue)).1 |> Option.isNone_iff_eq_none.mp)
  rw [hnone]
  rfl

end

/-- The accounts of a customer in the statement, added up. -/
theorem sum_statementAccounts (customerId : Uuid) (f : CreditAccount → ℤ) :
    ((orderBy newerAccount (book.accounts.rows.filter fun account ↦
      account.customerId = customerId)).map f).sum =
      (book.accounts.rows.map fun account ↦
        if account.customerId = customerId then f account else 0).sum := by
  rw [((orderBy_perm newerAccount _).map f).sum_eq, Sums.sum_filter]
  simp only [decide_eq_true_eq]

theorem StatementInv.sum_overdue (h : StatementInv book) (customerId : Uuid) :
    book.overdueAmount today customerId =
      ((((orderBy newerAccount (book.accounts.rows.filter fun account ↦
        account.customerId = customerId)).map (book.statementAccount today)).flatMap
          fun row : StatementAccount ↦ row.installments.filter fun i ↦ i.status = .OVERDUE).map
            StatementInstallment.balance).sum := by
  rw [overdueAmount, openAccounts, Sums.sum_filter, Sums.sum_flatMap, map_map,
    sum_statementAccounts]
  refine congrArg List.sum (map_congr_left fun account hmem ↦ ?_)
  by_cases hcustomer : account.customerId = customerId
  · by_cases hopen : account.canceledAt = none
    · simp only [hcustomer, hopen, and_self, decide_true, if_true, Function.comp_apply]
      exact h.overdue_eq hmem hopen
    · simp only [hcustomer, hopen, and_false, decide_false, if_true, Function.comp_apply]
      exact (h.overdue_canceled hmem hopen).symm
  · simp [hcustomer]

end CreditBook

variable {s s' : Store}

/-- **The invariant makes the statement coherent.** -/
theorem CreditBook.StatementInv.coherent (h : s.credit.StatementInv) {today : Day}
    {customerId : Uuid} {statement : CustomerCreditStatement}
    (hstatement : creditStatement s today customerId = some statement) : statement.Coherent := by
  simp only [creditStatement, Option.bind_eq_bind, Option.bind_eq_some_iff, Option.some.injEq]
    at hstatement
  obtain ⟨_, -, _, -, rfl⟩ := hstatement
  have haccount : ∀ {account}, account ∈ orderBy CreditBook.newerAccount
      (s.credit.accounts.rows.filter fun account ↦ account.customerId = customerId) →
      account ∈ s.credit.accounts.rows := by
    intro account haccount
    exact mem_of_mem_filter (mem_orderBy.mp haccount)
  refine ⟨?_, ?_, ?_, ?_⟩
  · have hnonneg : 0 ≤ s.credit.overdueAmount today customerId := by
      refine sum_nonneg (forall_mem_map.mpr fun account _ ↦ ?_)
      exact le_max_right _ _
    rw [← h.sum_overdue, toMoneyCents_of_nonneg hnonneg]
  · intro row hrow hstatus
    obtain ⟨account, hmem, rfl⟩ := mem_map.mp hrow
    have hopen : account.canceledAt = none := by
      cases hcanceled : account.canceledAt with
      | none => rfl
      | some at' => simp [CreditBook.statementAccount, hcanceled] at hstatus
    rw [h.sum_balances (haccount hmem), h.balance_statementAccount (haccount hmem),
      h.booked.ledger account (haccount hmem) hopen]
  · have hbalance : (s.credit.accounts.rows.map fun account ↦
      if account.customerId = customerId then
        (s.credit.statementAccount today account).balance else 0).sum =
          s.credit.balance customerId := by
      rw [CreditBook.balance_eq_accounts h.booked]
      refine congrArg List.sum (map_congr_left fun account hmem ↦ ?_)
      rw [h.balance_statementAccount hmem]
    have hnonneg : 0 ≤ s.credit.balance customerId := by
      rw [CreditBook.balance_eq_accounts h.booked]
      refine sum_nonneg (forall_mem_map.mpr fun account hmem ↦ ?_)
      split
      · exact h.accountBalance_nonneg hmem
      · exact le_rfl
    rw [map_map, CreditBook.sum_statementAccounts, toMoneyCents_of_nonneg hnonneg]
    exact hbalance
  · refine forall_mem_map.mpr fun account hmem ↦ ?_
    exact h.status_eq_PAID_iff (haccount hmem)

/-! ### What keeps the accounts in order -/

namespace CreditBook

variable {book book' : CreditBook} {env : Env} {allocations : List CreditAllocation}
  {customerId : Uuid} {amount : ℕ}

/-- **A payment in order**: allocations to an installment fill all that are due before. -/
def PaysInOrder (book : CreditBook) (customerId : Uuid) (allocations : List CreditAllocation) :
    Prop :=
  ∀ account ∈ book.accounts.rows, account.customerId = customerId →
    ∀ i ∈ account.installments.zipIdx, ∀ j ∈ account.installments.zipIdx,
      i.1.dueDate < j.1.dueDate →
        book.paid (account.id, i.2) + allocatedTo allocations (account.id, i.2) = i.1.amount ∨
          allocatedTo allocations (account.id, j.2) = 0

/-- **A reversal that leaves no gap** takes from an installment only with all that is on later ones.
-/
def LeavesNoGap (book : CreditBook) (allocations : List CreditAllocation) : Prop :=
  ∀ account ∈ book.accounts.rows, account.canceledAt = none →
    ∀ i ∈ account.installments.zipIdx, ∀ j ∈ account.installments.zipIdx,
      i.1.dueDate < j.1.dueDate → allocatedTo allocations (account.id, i.2) = 0 ∨
        book.paid (account.id, j.2) = allocatedTo allocations (account.id, j.2)
deriving Decidable

theorem PaysInOrder.of_sameDebt (h : book.PaysInOrder customerId allocations)
    (hsame : SameDebt customerId book book') : book'.PaysInOrder customerId allocations := by
  intro y hy hcustomer i hi j hj hdue
  obtain ⟨x, hx, hid, hxy, hparts⟩ := hsame.old y hy hcustomer
  have hpaid := hsame.paid (y.id, i.2) x (by rw [← hid]; exact find?_key_of_mem hx)
    (hxy.trans hcustomer)
  rw [hpaid, ← hid]
  exact h x hx (hxy.trans hcustomer) i (hparts ▸ hi) j (hparts ▸ hj) hdue

theorem pairwise_openObligations (book : CreditBook) (customerId : Uuid) :
    (book.openObligations customerId).Pairwise Obligation.before := by
  refine pairwise_orderBy_key (κ := Day ×ₗ Timestamp ×ₗ ℕ ×ₗ Uuid) fun a b ↦
    show _ ↔ toLex (a.dueDate, toLex (a.createdAt, toLex (a.installment.2, a.installment.1))) ≤
      toLex (b.dueDate, toLex (b.createdAt, toLex (b.installment.2, b.installment.1))) from ?_
  simp only [Obligation.before, Prod.Lex.le_iff, ofLex_toLex]

/-- What is drawn from an obligation is what is allocated to its installment. -/
theorem allocatedTo_of_mem_draws {d : Obligation × ℤ}
    (hd : d ∈ Greedy.draws Obligation.outstanding amount (book.openObligations customerId)) :
    allocatedTo (allocationsOf amount (book.openObligations customerId)) d.1.installment = d.2 := by
  have hnodup : ((Greedy.draws Obligation.outstanding amount (book.openObligations customerId)).map
      fun e ↦ e.1.installment).Nodup := by
    have hkeys := book.openObligations_nodup customerId
    rwa [← @Greedy.map_fst_draws _ Obligation.outstanding amount
      (book.openObligations customerId), map_map] at hkeys
  have hsum := @sum_allocationsOf amount _ (book.openObligations_nonneg customerId) fun id ↦
    decide (id = d.1.installment)
  simp only [decide_eq_true_eq] at hsum
  rw [allocatedTo, hsum, Greedy.drawnFrom]
  simp only [decide_eq_true_eq]
  exact Sums.sum_key_eq (fun e : Obligation × ℤ ↦ e.1.installment) Prod.snd hnodup hd

/-- Where something is allocated, all of what is open before is allocated too. -/
theorem allocationsOf_inOrder {a b : Obligation}
    (ha : a ∈ book.openObligations customerId) (hb : b ∈ book.openObligations customerId)
    (hdue : a.dueDate < b.dueDate) :
    allocatedTo (allocationsOf amount (book.openObligations customerId)) a.installment =
        a.outstanding ∨
      allocatedTo (allocationsOf amount (book.openObligations customerId)) b.installment = 0 := by
  have hsources := @Greedy.map_fst_draws _ Obligation.outstanding amount
    (book.openObligations customerId)
  have hsorted := pairwise_openObligations book customerId
  rw [← hsources] at ha hb hsorted
  obtain ⟨d, hd, rfl⟩ := mem_map.mp ha
  obtain ⟨e, he, rfl⟩ := mem_map.mp hb
  have hpairs := (Greedy.pairwise_draws (book.openObligations_nonneg customerId)
    (Nat.cast_nonneg amount)).and (pairwise_map.mp hsorted)
  rw [allocatedTo_of_mem_draws hd, allocatedTo_of_mem_draws he]
  obtain ⟨n, hn, rfl⟩ := mem_iff_getElem.mp hd
  obtain ⟨m, hm, rfl⟩ := mem_iff_getElem.mp he
  rw [pairwise_iff_getElem] at hpairs
  -- of two draws the one that is due earlier comes first
  rcases lt_trichotomy n m with hlt | rfl | hlt
  · exact (hpairs n m hn hm hlt).1
  · exact absurd hdue (lt_irrefl _)
  · rcases (hpairs m n hm hn hlt).2 with hbefore | ⟨hsame, -⟩
    · exact absurd hbefore hdue.asymm
    · exact absurd hsame hdue.ne'

theorem allocatedTo_eq_zero {id : InstallmentId}
    (h : ∀ o ∈ book.openObligations customerId, o.installment ≠ id) :
    allocatedTo (allocationsOf amount (book.openObligations customerId)) id = 0 := by
  refine sum_eq_zero (forall_mem_map.mpr fun a ha ↦ ?_)
  obtain ⟨d, hd, rfl⟩ := mem_map.mp ha
  obtain ⟨hmem, -, -⟩ := Greedy.mem_draws (book.openObligations_nonneg customerId)
    (Nat.cast_nonneg amount) d (mem_of_mem_filter hd)
  exact if_neg (h d.1 hmem)

/-- **A payment is allocated in order.** -/
theorem paysInOrder_of_allocatePayment (h : DebtBooked book)
    (hread : book.allocatePayment customerId amount = .ok allocations) :
    book.PaysInOrder customerId allocations := by
  have hbookable := bookable_of_allocatePayment h hread
  simp only [allocatePayment, eq_ok] at hread
  obtain ⟨-, -, rfl⟩ := hread
  intro account hmem hcustomer i hi j hj hdue
  by_cases hlater : ∃ o ∈ book.openObligations customerId, o.installment = (account.id, j.2)
  case neg =>
    exact .inr (allocatedTo_eq_zero fun o ho hid ↦ hlater ⟨o, ho, hid⟩)
  obtain ⟨o, ho, hid⟩ := hlater
  obtain ⟨-, other, hother, -, hopen, hobligation⟩ := mem_openObligations ho
  obtain ⟨part, hpart, rfl⟩ := mem_obligations.mp hobligation
  obtain ⟨hsame, hindex⟩ := Prod.mk.inj hid
  obtain rfl : other = account := eq_of_mem_of_key_eq hother hmem hsame
  have hdate : part.1 = j.1 := by
    rw [mem_zipIdx_iff_getElem?] at hpart hj
    rw [hindex, hj] at hpart
    exact (Option.some.inj hpart).symm
  have hcovered := hbookable.covered other hmem hcustomer i hi
  by_cases hunpaid : book.paid (other.id, i.2) < i.1.amount
  · have hearlier : Obligation.mk (other.id, i.2) i.1.dueDate other.createdAt i.1.amount
        (book.paid (other.id, i.2)) ∈ book.openObligations customerId := by
      rw [openObligations, mem_orderBy, mem_filter, mem_flatMap]
      refine ⟨⟨other, mem_filter.mpr ⟨hmem, decide_eq_true ⟨hcustomer, hopen⟩⟩,
        mem_obligations.mpr ⟨i, hi, rfl⟩⟩, decide_eq_true hunpaid⟩
    have horder := @allocationsOf_inOrder _ _ amount _ _ hearlier ho
      (show i.1.dueDate < part.1.dueDate by rw [hdate]; exact hdue)
    rw [hid, Obligation.outstanding] at horder
    exact horder.imp_left fun hall ↦ (congrArg _ hall).trans (add_sub_cancel _ _)
  · have := allocatedTo_nonneg (allocationsOf amount (book.openObligations customerId))
      (other.id, i.2)
    exact .inl (by omega)

section

variable (h : StatementInv book)
include h

theorem statementInv_openAccount {profile : CreditProfile}
    {input : AccountInput} (hopen : book.openAccount env profile input = .ok book') :
    StatementInv book' := by
  obtain ⟨hbooked, howe⟩ := debtBooked_openAccount h.booked hopen
  obtain ⟨account, entry, accounts, ledger, -, hcount, -, -, hamount, -, hparts, -, hinsert, -, -,
    -, -, -, rfl⟩ := openAccount_writes hopen
  have hnew : book.accounts.find? account.id = none := (insert_eq_some hinsert).1
  refine ⟨hbooked, howe _ h.canceled, ?_, ?_⟩
  · refine (forall_mem_insert hinsert).mpr ⟨h.inOrder, fun hxopen i hi j hj hdue ↦ ?_⟩
    exact .inr (@paid_eq_zero book (account.id, _) h.booked hnew)
  · refine (forall_mem_insert hinsert).mpr ⟨h.parts, ?_⟩
    rw [hparts, hamount]
    refine ⟨fun hnone ↦ ?_, sum_installments _ _ _ hcount⟩
    rw [installments, map_eq_nil_iff, range_eq_nil] at hnone
    omega

theorem statementInv_cancelAccount {saleId : Uuid} {key : Text}
    {now : Timestamp} (hcancel : book.cancelAccount env saleId key now = .ok book') :
    StatementInv book' := by
  obtain ⟨hbooked, howe⟩ := debtBooked_cancelAccount h.booked hcancel
  have hcanceled := howe _ le_rfl h.canceled
  rcases cancelAccount_writes hcancel with rfl | ⟨account, ledger, -, -, -, -, rfl⟩
  · exact h
  have hrow : ∀ x ∈ (book.accounts.update account.id fun a ↦
      { a with canceledAt := some now }).rows, ∃ y ∈ book.accounts.rows, x.id = y.id ∧
        x.installments = y.installments ∧ x.originalAmount = y.originalAmount ∧
          (x.canceledAt = none → y.canceledAt = none) := by
    intro x hx
    rw [mem_update] at hx
    obtain ⟨y, hy, rfl⟩ := hx
    refine ⟨y, hy, ?_⟩
    split
    · exact ⟨rfl, rfl, rfl, nofun⟩
    · exact ⟨rfl, rfl, rfl, id⟩
  refine ⟨hbooked, hcanceled, ?_, ?_⟩
  · intro x hx hxopen
    obtain ⟨y, hy, hid, hparts, -, hyopen⟩ := hrow x hx
    rw [hid, hparts]
    exact h.inOrder y hy (hyopen hxopen)
  · intro x hx
    obtain ⟨y, hy, -, hparts, hamount, -⟩ := hrow x hx
    rw [hparts, hamount]
    exact h.parts y hy

/-- **A payment in order** keeps the accounts in order. -/
theorem inOrder_of_payment (haccounts : book'.accounts = book.accounts)
    (hpaid : ∀ id, book'.paid id = book.paid id + allocatedTo allocations id)
    (hknown : book.Bookable customerId allocations)
    (hpays : book.PaysInOrder customerId allocations) : book'.InOrder := by
  intro account hmem hopen i hi j hj hdue
  rw [haccounts] at hmem
  rw [hpaid, hpaid]
  have hbefore := h.inOrder account hmem hopen i hi j hj hdue
  by_cases hcustomer : account.customerId = customerId
  · have hcovered := hknown.covered account hmem hcustomer i hi
    have hnonneg := allocatedTo_nonneg allocations (account.id, i.2)
    rcases hpays account hmem hcustomer i hi j hj hdue with hfull | hnone
    · exact .inl hfull
    · rcases hbefore with hfull | hunpaid
      · exact .inl (by omega)
      · exact .inr (by rw [hunpaid, hnone, add_zero])
  · have hnone (n : ℕ) : allocatedTo allocations (account.id, n) = 0 :=
      hknown.own.allocatedTo_eq_zero (find?_key_of_mem hmem) hcustomer
    rw [hnone, hnone, add_zero, add_zero]
    exact hbefore

/-- **A reversal that leaves no gap** keeps the accounts in order. -/
theorem inOrder_of_reversal (haccounts : book'.accounts = book.accounts)
    (hpaid : ∀ id, book'.paid id = book.paid id - allocatedTo allocations id)
    (hgap : book.LeavesNoGap allocations) (hnonneg : ∀ id, 0 ≤ book'.paid id) :
    book'.InOrder := by
  intro account hmem hopen i hi j hj hdue
  rw [haccounts] at hmem
  rcases hgap account hmem hopen i hi j hj hdue with hnone | hall
  · rcases h.inOrder account hmem hopen i hi j hj hdue with hfull | hunpaid
    · exact .inl (by rw [hpaid, hnone, sub_zero, hfull])
    · have := hnonneg (account.id, j.2)
      have := allocatedTo_nonneg allocations (account.id, j.2)
      have := hpaid (account.id, j.2)
      exact .inr (by omega)
  · exact .inr (by rw [hpaid, hall, sub_self])

end

end CreditBook

/-! ### The runs -/

def Decision.reversed : Decision → List CreditAllocation
  | .creditReversal (.reverse payment) => payment.allocations
  | _ => []

/-- **The condition**: no account that has been canceled is paid more than it owes, and a reversal
leaves no gap. -/
def KeepsStatement (s : Store) (_ : Request) (decision : Decision) : Prop :=
  (∀ account ∈ s.credit.accounts.rows, account.canceledAt ≠ none →
    0 ≤ s.credit.accountBalance account.id + decision.booked account.id) ∧
  s.credit.LeavesNoGap decision.reversed
deriving Decidable

structure KnownOfStatement (request : Request) (decision : Decision) (s : Store) : Prop where
  debt : KnownOfDebt request decision s
  inOrder : ∀ input shift currency allocations, request = .creditPayment input →
    decision = .creditPayment (.pay shift currency allocations) →
      s.credit.PaysInOrder input.customerId allocations

variable {request : Request} {decision : Decision}

theorem statementInv_write (hinv : s.credit.StatementInv)
    (hknown : KnownOfStatement request decision s) (hkeeps : KeepsStatement s request decision)
    (h : protocol.write request decision s = .ok s') : s'.credit.StatementInv := by
  obtain ⟨hbooked, howe⟩ := debtBooked_write (P := (0 ≤ ·)) le_rfl hinv.booked hknown.debt
    (fun account hmem hnot ↦ ⟨hinv.canceled account hmem hnot, hkeeps.1 account hmem hnot⟩) h
  have hcommit := creditCommit h
  revert hcommit hbooked howe
  generalize s'.credit = credit
  intro hbooked howe hcommit
  cases hcommit with
  | same => exact hinv
  | sale _ _ hrecord => exact CreditBook.statementInv_openAccount hinv hrecord
  | voidSale hcancel => exact CreditBook.statementInv_cancelAccount hinv hcancel
  | @payment input shift currency payment _ hcustomer _ hreversal hrecord =>
    have hbookable := hknown.debt.payment input shift currency payment.allocations rfl rfl
    have hpays := hknown.inOrder input shift currency payment.allocations rfl rfl
    obtain ⟨-, payments, hinsert, hposted⟩ := CreditBook.recordPayment_writes hrecord
    refine ⟨hbooked, howe, CreditBook.inOrder_of_payment hinv hposted.accounts (fun id ↦ ?_)
      hbookable hpays, hposted.accounts ▸ hinv.parts⟩
    rw [CreditBook.paid_eq_total, hposted.payments, ← CreditBook.paid_eq_total,
      CreditBook.paid_recordPayment hinsert hreversal]
  | @reversal input payment reversal _ hrecord =>
    obtain ⟨-, hcompleted, hfound⟩ := hknown.debt.reversal input payment rfl rfl
    have hposted := CreditBook.recordReversal_writes hrecord
    refine ⟨hbooked, howe, CreditBook.inOrder_of_reversal hinv hposted.accounts (fun id ↦ ?_)
      hkeeps.2 (fun _ ↦ CreditBook.paid_nonneg _), hposted.accounts ▸ hinv.parts⟩
    rw [CreditBook.paid_eq_total, hposted.payments, ← CreditBook.paid_eq_total,
      CreditBook.paid_recordReversal reversal hfound hcompleted]
    rfl
  | profiles => exact ⟨hbooked, howe, hinv.inOrder, hinv.parts⟩

theorem statement_sound :
    Sound protocol KeepsStatement (fun s ↦ s.credit.StatementInv) KnownOfStatement where
  read := by
    intro s request decision _ hread
    refine ⟨knownOfDebt_of_read hread, ?_⟩
    rintro input shift currency allocations rfl rfl
    rcases read_creditPayment hread with hread | ⟨_, _, _, hread, -, -⟩ <;> cases hread
  reread := by
    intro s request decision decision' hinv hknown hread
    refine ⟨hknown.debt.reread hinv.booked hread, ?_⟩
    rcases reread_cases hread with rfl | ⟨input, _, _, allocations, rfl, -, rfl, hallocate⟩
    · exact hknown.inOrder
    · rintro _ _ _ _ ⟨⟩ ⟨⟩
      exact CreditBook.paysInOrder_of_allocatePayment hinv.booked hallocate
  write := fun hinv hknown hkeeps hwrite ↦ statementInv_write hinv hknown hkeeps hwrite
  stable := by
    intro s request decision request' decision' s' hinv hknown hknown' _ hdisjoint hwrite
    have hsame := sameDebt_of_disjoint hinv.booked hknown'.debt hdisjoint hwrite
    refine ⟨hknown.debt.of_sameDebt hsame, ?_⟩
    rintro input shift currency allocations rfl hdecision
    exact (hknown.inOrder input shift currency allocations rfl hdecision).of_sameDebt
      (hsame _ mem_cons_self)

def reversing (paymentId : Uuid) : List (Event Request) :=
  alone (.creditReversal {
    branchId := 1, cashRegisterId := 1, userId := 1, customerId := 7, paymentId := paymentId
    idempotencyKey := [2], fingerprint := [2], reason := [1] })

def reversedRun : State Store Request Decision :=
  Outcome.run protocol.step (State.idle (Store.fresh default oneCustomer))
    (creditRun ++ reversing 0)

theorem isSome_creditStatement_reversedRun : (creditStatement reversedRun.store 20 7).isSome := by
  decide +kernel

/-- Both installments have been paid on, and the first payment is reversed. -/
def reversedOutOfOrder : State Store Request Decision :=
  Outcome.run protocol.step (State.idle (Store.fresh default oneCustomer)) (creditRun ++
    alone (.creditPayment {
      branchId := 1, cashRegisterId := 1, userId := 1, customerId := 7, idempotencyKey := [3]
      fingerprint := [3], amount := 600, method := .CASH, reference := none }) ++
    reversing 0)

end UInventario.Pos
