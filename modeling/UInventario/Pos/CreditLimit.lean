import UInventario.Pos.DebtLedger

/-!
# The credit limit

A credit sale reads the balance of its customer at the beginning of its transaction and books the
debit at the end. It holds the lock of the customer all the while: between the two, the balance can
only fall, by the void of a sale, and the profile cannot change.

`KnownOfCredit` is what a sale in flight knows, and `creditLimit_sound` that no other transaction
spoils it. `credit_within_limit` is the result for runs: every credit sale that commits has opened
its account, with the installments and the debit, within the limit.
-/

namespace UInventario.Pos

open Outcome LockedRuns Table List

variable {s s' : Store}

/-! ### Installments -/

private theorem sum_installmentAmounts (quotient remainder : ℕ) :
    ∀ count, ((List.range count).map fun index ↦
      quotient + if index < remainder then 1 else 0).sum =
        count * quotient + min count remainder := by
  intro count
  induction count with
  | zero => simp
  | succ count ih =>
    rw [range_succ, map_append, sum_append, ih, map_singleton,
      sum_singleton, Nat.succ_mul]
    split <;> omega

/-- **The installments add up** to the financed amount. -/
theorem sum_installments (today totalCents termDays : ℕ) {count : ℕ} (hcount : 1 ≤ count) :
    ((installments today totalCents termDays count).map Installment.amount).sum = totalCents := by
  have hmod : totalCents % count < count := Nat.mod_lt _ hcount
  have hdiv : count * (totalCents / count) + totalCents % count = totalCents :=
    Nat.div_add_mod totalCents count
  rw [installments, map_map]
  show ((List.range count).map fun index ↦ installmentAmount totalCents count index).sum = _
  simp only [installmentAmount]
  rw [sum_installmentAmounts, min_eq_right hmod.le, hdiv]

theorem installments_spread {today totalCents termDays count : ℕ} {a b : Installment}
    (ha : a ∈ installments today totalCents termDays count)
    (hb : b ∈ installments today totalCents termDays count) : a.amount ≤ b.amount + 1 := by
  obtain ⟨i, -, rfl⟩ := mem_map.mp ha
  obtain ⟨j, -, rfl⟩ := mem_map.mp hb
  show installmentAmount totalCents count i ≤ installmentAmount totalCents count j + 1
  rw [installmentAmount, installmentAmount]
  split <;> split <;> omega

theorem dueOffset_mono (termDays count : ℕ) {i j : ℕ} (h : i ≤ j) :
    dueOffset termDays count i ≤ dueOffset termDays count j :=
  Nat.div_le_div_right (by gcongr)

theorem dueOffset_last (termDays count : ℕ) : dueOffset termDays (count + 1) count = termDays := by
  rw [dueOffset, Nat.add_sub_cancel, Nat.add_comm, Nat.add_mul_div_right _ _ (Nat.succ_pos count),
    Nat.div_eq_of_lt (Nat.lt_succ_self count), zero_add]

/-- How an amount is split into installments over a term that begins on the day `today`. -/
structure SplitOver (today termDays financed : ℕ) (parts : List Installment) : Prop where
  sum : (parts.map Installment.amount).sum = financed
  spread : ∀ a ∈ parts, ∀ b ∈ parts, a.amount ≤ b.amount + 1
  due : ∃ offsets : List ℕ, parts.map Installment.dueDate = offsets.map (today + ·) ∧
    offsets.Pairwise (· ≤ ·) ∧ offsets.getLast? = some termDays

theorem splitOver_installments (today totalCents termDays : ℕ) {count : ℕ} (hcount : 1 ≤ count) :
    SplitOver today termDays totalCents (installments today totalCents termDays count) where
  sum := sum_installments today totalCents termDays hcount
  spread := fun _ ha _ hb ↦ installments_spread ha hb
  due := by
    refine ⟨(List.range count).map (dueOffset termDays count), ?_, ?_, ?_⟩
    · rw [installments, map_map, map_map]
      rfl
    · rw [pairwise_map]
      exact pairwise_lt_range.imp fun h ↦ dueOffset_mono termDays count h.le
    · obtain ⟨n, rfl⟩ := Nat.exists_eq_add_of_le' hcount
      rw [range_succ, map_append, map_singleton, getLast?_concat,
        dueOffset_last]

/-! ### The balance of a customer under the commits of others -/

/-- What is known of the reversal of a payment in flight: the payment is one of the customer. -/
def ReversesOwn (request : Request) (decision : Decision) : Prop :=
  ∀ input payment, request = .creditReversal input → decision = .creditReversal (.reverse payment) →
    payment.customerId = input.customerId

variable {request : Request} {decision : Decision}

theorem reversesOwn_of_read (h : protocol.read request s = .ok decision) :
    ReversesOwn request decision := by
  rintro input payment rfl rfl
  exact (reversible_of_read h).own

abbrev Locks (request : Request) (decision : Decision) (s : Store) (customerId : Uuid) : Prop :=
  LockedRow.customer customerId ∈ protocol.holds request ∨
    LockedRow.customer customerId ∈ protocol.needs request decision s

/-- **A transaction that does not lock the customer** leaves the profile alone, and the balance too
unless it is a void, which can only lower it. -/
theorem balance_of_not_locks {customerId : Uuid} (hreverses : ReversesOwn request decision)
    (hlocks : ¬Locks request decision s customerId)
    (h : protocol.write request decision s = .ok s') :
    (s'.credit.balance customerId = s.credit.balance customerId ∨
      (∃ input, request = .voidSale input) ∧
        s'.credit.balance customerId ≤ s.credit.balance customerId) ∧
      s'.credit.profiles.find? customerId = s.credit.profiles.find? customerId := by
  have hcommit := creditCommit h
  revert hcommit
  generalize s'.credit = credit
  intro hcommit
  cases hcommit with
  | same => exact ⟨.inl rfl, rfl⟩
  | @sale input customer profile _ _ _ hcustomer hcredit hopen =>
    obtain ⟨account, entry, accounts, ledger, -, -, -, -, -, -, -, -, -, hentry, -, -, -, hinsert,
      rfl⟩ := CreditBook.openAccount_writes hopen
    have hne : customer.id ≠ customerId := by
      rintro rfl
      refine hlocks (.inl ?_)
      show LockedRow.customer customer.id ∈ input.customer.toList.map _
      rw [hcustomer]
      exact mem_singleton_self _
    refine ⟨.inl ?_, rfl⟩
    exact (total_insert hinsert _).trans (by rw [hentry, if_neg hne, add_zero]; rfl)
  | voidSale hcancel =>
    rcases CreditBook.cancelAccount_writes hcancel with
      rfl | ⟨account, ledger, -, -, -, ⟨-, rfl⟩ | ⟨entry, -, -, -, htype, -, hinsert⟩, rfl⟩
    · exact ⟨.inl rfl, rfl⟩
    · exact ⟨.inl rfl, rfl⟩
    refine ⟨.inr ⟨⟨_, rfl⟩, ?_⟩, rfl⟩
    show ledger.total _ ≤ _
    rw [total_insert hinsert, CreditBook.balance, DebtEntry.signed_eq, htype]
    split <;> simp [DebtEntryType.sign]
  | @payment input _ _ payment _ hcustomer _ _ hrecord =>
    obtain ⟨-, payments, -, hposted⟩ := CreditBook.recordPayment_writes hrecord
    have hne : payment.customerId ≠ customerId := by
      intro heq
      refine hlocks (.inl ?_)
      show LockedRow.customer customerId ∈ [LockedRow.customer input.customerId, _]
      rw [← hcustomer, heq]
      exact mem_cons_self
    refine ⟨.inl ?_, by rw [hposted.profiles]⟩
    rw [CreditBook.balance_eq_weighed, hposted.weighed, if_neg hne, CreditBook.balance_eq_weighed]
    simp [CreditBook.weighed]
  | @reversal input payment _ _ hrecord =>
    have hposted := CreditBook.recordReversal_writes hrecord
    have hne : payment.customerId ≠ customerId := by
      intro heq
      refine hlocks (.inl ?_)
      show LockedRow.customer customerId ∈ [LockedRow.customer input.customerId]
      rw [← hreverses input payment rfl rfl, heq]
      exact mem_singleton_self _
    refine ⟨.inl ?_, by rw [hposted.profiles]⟩
    rw [CreditBook.balance_eq_weighed, hposted.weighed, if_neg hne, CreditBook.balance_eq_weighed]
    simp [CreditBook.weighed]
  | @profiles profile profiles hprofiles =>
    refine ⟨.inl rfl, hprofiles customerId ?_⟩
    rintro rfl
    exact hlocks (.inr (mem_singleton_self _))

/-! ### The limit -/

/-- What a credit sale in flight knows: the profile, and that there is room for the sale. -/
def CreditChecked (request : Request) (decision : Decision) (s : Store) : Prop :=
  ∀ input profile customer, request = .sale input → decision = .sale (.persist (some profile)) →
    input.customer = some customer → s.credit.profiles.find? customer.id = some profile ∧
      s.credit.balance customer.id + input.payable ≤ profile.creditLimit

/-- A credit sale in flight that will be persisted has got the profile of its customer. -/
def HasProfile (request : Request) (decision : Decision) : Prop :=
  ∀ input customer installmentCount profile, request = .sale input →
    decision = .sale (.persist profile) → input.customer = some customer →
    customer.credit = some installmentCount → profile.isSome = true

/-- What the first half of `persistSale` has decided on for a customer. -/
theorem persist_of_read {input : SaleInput} {customer : SaleCustomer}
    {profile : Option CreditProfile} (hcustomer : input.customer = some customer)
    (h : protocol.read (.sale input) s = .ok (.sale (.persist profile))) :
    lockSaleCustomer s input customer = .ok profile := by
  obtain ⟨_, hread, ⟨⟩⟩ := map_eq_ok.mp h
  rw [readSale] at hread
  split at hread
  · simp only [eq_ok, reduceCtorEq, and_false, exists_false] at hread
  rw [hcustomer] at hread
  simp only [eq_ok, SaleDecision.persist.injEq] at hread
  obtain ⟨_, hlock, rfl⟩ := hread
  exact hlock

theorem creditChecked_of_read (h : protocol.read request s = .ok decision) :
    CreditChecked request decision s := by
  rintro input profile customer rfl rfl hcustomer
  have hlock := persist_of_read hcustomer h
  simp only [lockSaleCustomer, eq_ok] at hlock
  obtain ⟨-, -, hlock⟩ := hlock
  split at hlock
  · simp only [pure_eq_ok, reduceCtorEq] at hlock
  simp only [eq_ok, Option.some.injEq, CreditBook.checkCredit, Sales.toMoney_columnText,
    exists_eq_left', gt_iff_lt, not_lt] at hlock
  obtain ⟨found, ⟨p, hfind, -, -, -, -, -, -, -, hlimit, rfl⟩, rfl⟩ := hlock
  exact ⟨hfind, hlimit⟩

theorem hasProfile_of_read (h : protocol.read request s = .ok decision) :
    HasProfile request decision := by
  rintro input customer installmentCount profile rfl rfl hcustomer hcredit
  have hlock := persist_of_read hcustomer h
  simp only [lockSaleCustomer, hcredit, eq_ok] at hlock
  obtain ⟨-, -, found, -, rfl⟩ := hlock
  rfl

/-- What a transaction in flight knows of the credit. -/
structure KnownOfCredit (request : Request) (decision : Decision) (s : Store) : Prop where
  checked : CreditChecked request decision s
  profile : HasProfile request decision
  reverses : ReversesOwn request decision

/-- A credit payment has nothing to know: it opens no account. -/
theorem knownOfCredit_payment (input : CreditPaymentInput) (decision : Decision) (s : Store) :
    KnownOfCredit (.creditPayment input) decision s := by
  constructor
  · rintro _ _ _ ⟨⟩
  · rintro _ _ _ _ ⟨⟩
  · rintro _ _ ⟨⟩

theorem creditLimit_sound : Sound protocol (fun _ _ _ ↦ True) (fun _ ↦ True) KnownOfCredit where
  read := fun _ hread ↦
    ⟨creditChecked_of_read hread, hasProfile_of_read hread, reversesOwn_of_read hread⟩
  reread := fun _ hknown hread ↦
    known_of_reread KnownOfCredit (fun input decision ↦ knownOfCredit_payment input decision _)
      hread hknown
  write := fun _ _ _ _ ↦ trivial
  stable := by
    rintro s request decision request' decision' s' - hknown hknown' - hdisjoint hwrite
    refine ⟨?_, hknown.profile, hknown.reverses⟩
    intro input profile customer hrequest hdecision hcustomer
    obtain ⟨hprofile, hlimit⟩ := hknown.checked input profile customer hrequest hdecision hcustomer
    have hholds : LockedRow.customer customer.id ∈ protocol.holds request := by
      subst hrequest
      show _ ∈ input.customer.toList.map _
      rw [hcustomer]
      exact mem_singleton_self _
    obtain ⟨hbalance, hfind⟩ :=
      balance_of_not_locks hknown'.reverses (not_or.mpr (hdisjoint _ hholds)) hwrite
    exact ⟨hfind.trans hprofile, by omega⟩

/-- The commit writes a sale on credit. -/
structure CreditSale (s s' : Store) (request : Request) (input : SaleInput)
    (customer : SaleCustomer) (installmentCount : ℕ) (sale : Sale) : Prop where
  asked : request = .sale input
  buyer : input.customer = some customer
  onCredit : customer.credit = some installmentCount
  row : sale ∈ s'.sales.rows
  new : s.sales.find? sale.id = none

/-- **What a credit sale opens**: the account of the sale, which finances what is to be paid in even
installments, and the debit, within the limit in force. -/
structure OpensAccount (s s' : Store) (input : SaleInput) (customer : SaleCustomer)
    (installmentCount : ℕ) (sale : Sale) (profile : CreditProfile) (account : CreditAccount) :
    Prop where
  inForce : s.credit.profiles.find? customer.id = some profile
  row : account ∈ s'.credit.accounts.rows
  new : s.credit.accounts.find? account.id = none
  ofSale : account.saleId = sale.id
  ofCustomer : account.customerId = customer.id
  uncanceled : account.canceledAt = none
  financed : account.originalAmount = input.payable
  count : account.installments.length = installmentCount
  installments : SplitOver input.today profile.termDays account.originalAmount account.installments
  debit : ∃ entry ∈ s'.credit.ledger.rows, s.credit.ledger.find? entry.id = none ∧
    entry.type = .DEBIT ∧ entry.accountId = account.id ∧ entry.customerId = customer.id ∧
    entry.amount = input.payable
  balance : s'.credit.balance customer.id = s.credit.balance customer.id + input.payable
  limit : s'.credit.balance customer.id ≤ profile.creditLimit

/-- **The limit of a commit.** Every credit sale it writes has opened its account within the limit,
and no account is opened but by a credit sale. -/
def OpensWithinLimit (s : Store) (request : Request) (decision : Decision) : Prop :=
  ∀ s', protocol.write request decision s = .ok s' →
    (∀ input customer installmentCount sale,
      CreditSale s s' request input customer installmentCount sale →
        ∃ profile account, OpensAccount s s' input customer installmentCount sale profile account) ∧
    ∀ account ∈ s'.credit.accounts.rows, s.credit.accounts.find? account.id = none →
      ∃ input customer installmentCount sale profile,
        CreditSale s s' request input customer installmentCount sale ∧
          OpensAccount s s' input customer installmentCount sale profile account

/-- The account that the second half of `persistSale` opens for a sale whose credit is checked. -/
theorem opensAccount {input : SaleInput} {customer : SaleCustomer} {installmentCount : ℕ}
    {profile : CreditProfile} {sale : Sale}
    (hprofile : s.credit.profiles.find? customer.id = some profile)
    (hlimit : s.credit.balance customer.id + input.payable ≤ profile.creditLimit)
    (hopen : s.credit.openAccount s.env profile {
      customerId := customer.id, saleId := sale.id, amount := input.payable
      installmentCount := installmentCount, idempotencyKey := input.idempotencyKey
      now := input.now, today := input.today } = .ok s'.credit) :
    ∃ account, s.credit.accounts.insert account = some s'.credit.accounts ∧
      OpensAccount s s' input customer installmentCount sale profile account := by
  obtain ⟨account, entry, accounts, ledger, -, hcount, hid, hsale, hamount, hopened, hparts, -,
    hinsert, hentry, hon, htype, hvalue, hledger, hbook⟩ := CreditBook.openAccount_writes hopen
  have hbalance : s'.credit.balance customer.id =
      s.credit.balance customer.id + input.payable := by
    rw [hbook, CreditBook.balance, total_insert hledger, hentry, if_pos rfl, DebtEntry.signed_eq,
      htype, hvalue, DebtEntryType.sign, one_mul]
    rfl
  have haccounts : s'.credit.accounts = accounts := by rw [hbook]
  have hnew := insert_eq_some hinsert
  refine ⟨account, haccounts ▸ hinsert, ?_⟩
  exact {
    inForce := hprofile
    row := haccounts ▸ (mem_insert hinsert).mpr (.inr rfl)
    new := hnew.1
    ofSale := hsale
    ofCustomer := hid
    uncanceled := hopened
    financed := hamount
    count := by rw [hparts, installments, length_map, length_range]
    installments := by
      rw [hamount, hparts]
      exact splitOver_installments _ _ _ hcount
    debit := by
      refine ⟨entry, ?_, (insert_eq_some hledger).1, htype, hon, hentry, hvalue⟩
      rw [hbook]
      exact (mem_insert hledger).mpr (.inr rfl)
    balance := hbalance
    limit := hbalance.trans_le hlimit }

/-- **What the commit of a sale does to the credit book**: nothing for a repeated request or a sale
that is not on credit, and for a credit sale it opens the account. -/
theorem credit_of_sale {input : SaleInput} {decision : SaleDecision}
    (hknown : KnownOfCredit (.sale input) (.sale decision) s)
    (h : writeSale s input decision = .ok s') :
    s' = s ∨ ∃ sale, s.sales.insert sale = some s'.sales ∧
      ((s'.credit = s.credit ∧
        ∀ customer, input.customer = some customer → customer.credit = none) ∨
        ∃ customer installmentCount profile account, input.customer = some customer ∧
          customer.credit = some installmentCount ∧
          s.credit.accounts.insert account = some s'.credit.accounts ∧
          OpensAccount s s' input customer installmentCount sale profile account) := by
  rcases writeSale_writes h with
    hsame | ⟨profile, _, sale, sales, _, credit, rfl, -, -, hinsert, -, -, hcredit, hstore⟩
  · exact .inl hsame
  have hbook : s'.credit = credit := by rw [hstore]
  have hsales : s'.sales = sales := by rw [hstore]
  refine .inr ⟨sale, hsales ▸ hinsert, ?_⟩
  rw [← hbook, saleCredit] at hcredit
  split at hcredit
  case h_1 hnone =>
    rw [pure_eq_ok] at hcredit
    refine .inl ⟨hcredit.symm, fun customer hcustomer ↦ ?_⟩
    by_contra hcredit
    obtain ⟨installmentCount, hcount⟩ := Option.ne_none_iff_exists'.mp hcredit
    obtain ⟨found, rfl⟩ := Option.isSome_iff_exists.mp
      (hknown.profile input customer installmentCount profile rfl rfl hcustomer hcount)
    simp only [SaleInput.creditTerms, hcustomer, hcount, Option.bind_eq_bind, Option.bind_some,
      reduceCtorEq] at hnone
  case h_2 customer installmentCount found hterms =>
    simp only [SaleInput.creditTerms, Option.bind_eq_bind, Option.bind_eq_some_iff,
      Option.some.injEq, Prod.mk.injEq] at hterms
    obtain ⟨c, hcustomer, n, hcount, p, rfl, rfl, rfl, rfl⟩ := hterms
    obtain ⟨hprofile, hlimit⟩ := hknown.checked input p c rfl rfl hcustomer
    obtain ⟨account, haccount, hopens⟩ := opensAccount hprofile hlimit hcredit
    exact .inr ⟨c, n, p, account, hcustomer, hcount, haccount, hopens⟩

/-- No other commit opens an account. -/
theorem not_opened (h : protocol.write request decision s = .ok s')
    (hother : ∀ input, request ≠ .sale input) {account : CreditAccount}
    (hmem : account ∈ s'.credit.accounts.rows) : s.credit.accounts.find? account.id ≠ none := by
  have hold : ∀ {x : CreditAccount}, x ∈ s.credit.accounts.rows →
      s.credit.accounts.find? x.id ≠ none := by
    intro x hx
    have hfound : s.credit.accounts.find? x.id = some x := find?_key_of_mem hx
    rw [hfound]
    exact Option.some_ne_none _
  have hcommit := creditCommit h
  revert hcommit hmem
  generalize s'.credit = credit
  intro hmem hcommit
  cases hcommit with
  | same | profiles => exact hold hmem
  | @sale input => exact absurd rfl (hother input)
  | voidSale hcancel =>
    rcases CreditBook.cancelAccount_writes hcancel with rfl | ⟨canceled, ledger, -, -, -, -, rfl⟩
    · exact hold hmem
    rw [mem_update] at hmem
    obtain ⟨old, hmem, rfl⟩ := hmem
    split
    · exact hold (x := old) ‹_›
    · exact hold ‹_›
  | payment _ _ _ hrecord =>
    obtain ⟨-, payments, -, hposted⟩ := CreditBook.recordPayment_writes hrecord
    exact hold (hposted.accounts ▸ hmem)
  | reversal hrecord => exact hold ((CreditBook.recordReversal_writes hrecord).accounts ▸ hmem)

/-- **One commit** opens accounts within the limit, if what it knows of the credit is so. -/
theorem opensWithinLimit (hknown : KnownOfCredit request decision s) :
    OpensWithinLimit s request decision := by
  intro s' hwrite
  by_cases hsale : ∃ input, request = .sale input
  case neg =>
    have hother : ∀ input, request ≠ .sale input := fun input h ↦ hsale ⟨input, h⟩
    exact ⟨fun input _ _ _ hcredit ↦ absurd hcredit.asked (hother input),
      fun account hmem hnew ↦ absurd hnew (not_opened hwrite hother hmem)⟩
  obtain ⟨input, rfl⟩ := hsale
  cases committed hwrite with
  | sale hwrite =>
    rcases credit_of_sale hknown hwrite with
      rfl | ⟨sale, hinsert, ⟨hsame, hcash⟩ |
        ⟨customer, installmentCount, profile, account, hcustomer, hcount, haccount, hopens⟩⟩
    · refine ⟨fun input' customer installmentCount sale hcredit ↦ ?_, fun account hmem hnew ↦ ?_⟩
      · exact absurd hcredit.row (find?_eq_none.mp hcredit.new sale · rfl)
      · exact absurd rfl (find?_eq_none.mp hnew account hmem)
    · refine ⟨fun input' customer installmentCount sale hcredit ↦ ?_, fun account hmem hnew ↦ ?_⟩
      · cases hcredit.asked
        have hcount := hcredit.onCredit
        rw [hcash customer hcredit.buyer] at hcount
        cases hcount
      · exact absurd rfl (find?_eq_none.mp hnew account (hsame ▸ hmem))
    · refine ⟨fun input' customer' installmentCount' sale' hcredit ↦ ?_,
        fun account' hmem hnew ↦ ?_⟩
      · cases hcredit.asked
        obtain rfl : customer = customer' := Option.some.inj (hcustomer.symm.trans hcredit.buyer)
        obtain rfl : installmentCount = installmentCount' :=
          Option.some.inj (hcount.symm.trans hcredit.onCredit)
        rcases (mem_insert hinsert).mp hcredit.row with hold | rfl
        · exact absurd rfl (find?_eq_none.mp hcredit.new sale' hold)
        · exact ⟨profile, account, hopens⟩
      · rcases (mem_insert haccount).mp hmem with hold | rfl
        · exact absurd rfl (find?_eq_none.mp hnew account' hold)
        have hnew := insert_eq_some hinsert
        exact ⟨input, customer, installmentCount, sale, profile, ⟨rfl, hcustomer, hcount,
          (mem_insert hinsert).mpr (.inr rfl), hnew.1⟩, hopens⟩

/-- **The credit limit**, in every run, whatever its requests and their interleaving. -/
theorem credit_within_limit (env : Env) (customers : Table Customer)
    (events : List (Event Request)) :
    protocol.Commits OpensWithinLimit (State.idle (Store.fresh env customers)) events :=
  creditLimit_sound.commits (fun _ _ _ _ hknown _ ↦ opensWithinLimit hknown) (Good.idle trivial)
    events (commits_of_forall (fun _ _ _ ↦ trivial) ..)

end UInventario.Pos
