import UInventario.Pos.PointKeys

/-!
# When a compensation is refused

A void or a full return takes back the points that the sale has earned, and is refused with
`LoyaltyInsufficientBalanceError` when the customer has too few unexpired points: it takes whichever
points the customer can use, and not those the sale has earned. If these have expired it looks for
as many again among the other credits. So a sale whose points nobody used can be refused its void
(`expired_points_block_void`), and `blocksOnlySpent_iff` has the exact condition.
-/

namespace UInventario.Pos

open Outcome LockedRuns Table List

namespace LoyaltyBook

variable {env : Env} {clock : LoyaltyClock} {book book' : LoyaltyBook} {entry : LoyaltyEntry}
  {customerId : Uuid} {P : LoyaltyKey → Prop}

/-! ### What can be used -/

/-- What the credits of a customer have left that are unexpired for a query. -/
def usableAt (book : LoyaltyBook) (customerId : Uuid) (now : Timestamp) : ℤ :=
  book.entries.total fun e ↦ if e.customerId = customerId ∧ 0 < e.pointsDelta ∧
    (e.expiresAt.all fun t ↦ t > now) = true then book.availablePoints e else 0

/-- **The unexpired points of a customer**, at the times of a call. -/
def unexpiredPoints (book : LoyaltyBook) (customerId : Uuid) (clock : LoyaltyClock) : ℤ :=
  book.entries.total fun e ↦ if e.customerId = customerId ∧ 0 < e.pointsDelta ∧
    (e.expiresAt.all fun t ↦ t > clock.expiring ∧ t > clock.allocating) = true
      then book.availablePoints e else 0

theorem sum_usablePoints (hledger : LedgerInv book) (now : Timestamp) :
    ((book.availableCredits customerId now).map book.usablePoints).sum =
      book.usableAt customerId now := by
  have hperm := ((orderBy_perm (fun a b ↦ usedBefore a b = true)
    ((book.credits customerId).filter fun e ↦ (e.expiresAt.all fun t ↦ t > now) ∧
      0 < book.availablePoints e)).map book.usablePoints).sum_eq
  rw [availableCredits, hperm, Sums.sum_filter, credits, Sums.sum_filter, usableAt, Table.total]
  congr 1
  apply map_congr_left
  intro e he
  simp only [decide_eq_true_eq]
  by_cases hcredit : e.customerId = customerId ∧ 0 < e.pointsDelta
  · have hnonneg := hledger.available_nonneg he hcredit.2
    rw [if_pos hcredit, usablePoints, max_eq_right hnonneg]
    by_cases hunexpired : (e.expiresAt.all fun t ↦ t > now) = true
    · simp only [hcredit, hunexpired, and_self, true_and, if_true]
      split
      · rfl
      · omega
    · simp [hunexpired]
  · rw [if_neg hcredit, if_neg fun h ↦ hcredit ⟨h.1, h.2.1⟩]

theorem Expired.usableAt
    (h : Expired env P book (book.expiredCredits customerId clock.expiring) book') :
    book'.usableAt customerId clock.allocating = book.unexpiredPoints customerId clock := by
  obtain ⟨debits, hrows, hdebits⟩ := h.rows
  rw [LoyaltyBook.usableAt, LoyaltyBook.unexpiredPoints, Table.total, Table.total, hrows,
    map_append, sum_append]
  have hnone : (debits.map fun e ↦ if e.customerId = customerId ∧ 0 < e.pointsDelta ∧
      (e.expiresAt.all fun t ↦ t > clock.allocating) = true then book'.availablePoints e
        else 0).sum = 0 := by
    refine sum_eq_zero (List.forall_mem_map.mpr fun e he ↦ ?_)
    exact if_neg fun hcredit ↦ absurd hcredit.2.1 (hdebits e he).le.not_gt
  rw [hnone, add_zero]
  congr 1
  apply map_congr_left
  intro c hc
  rw [h.available c hc]
  by_cases hcredit : c.customerId = customerId ∧ 0 < c.pointsDelta
  · have hquery : c ∈ book.expiredCredits customerId clock.expiring ↔
        (c.expiresAt.any fun t ↦ t ≤ clock.expiring) = true := by
      rw [mem_expiredCredits, mem_credits]
      exact and_iff_right ⟨hc, hcredit⟩
    cases htime : c.expiresAt with
    | none => simp [hquery, hcredit, htime]
    | some t =>
      by_cases hexpired : t ≤ clock.expiring
      · simp [hquery, hcredit, htime, hexpired]
      · simp [hquery, hcredit, htime, hexpired, not_le.mp hexpired]
  · simp only [← and_assoc, hcredit, false_and, if_false]

theorem Books.usableAt (hledger : LedgerInv book) (hbooks : Books book entry book')
    (hcustomer : entry.customerId = customerId) (hpos : 0 < entry.pointsDelta)
    (hexpires : entry.expiresAt = none) (hallocations : entry.allocations = []) (now : Timestamp) :
    book'.usableAt customerId now = book.usableAt customerId now + entry.pointsDelta := by
  have hnothing (creditId : Uuid) : entry.allocatedTo creditId = 0 := by
    rw [LoyaltyEntry.allocatedTo, hallocations]
    rfl
  have hold : ∀ e, book'.availablePoints e = book.availablePoints e := by
    intro e
    rw [hbooks.availablePoints, hnothing, sub_zero]
  have hnew : book.allocatedTo entry.id = 0 := by
    apply total_eq_zero
    intro e he
    refine sum_eq_zero (List.forall_mem_map.mpr fun a ha ↦ ?_)
    obtain ⟨c, hc, hid, -⟩ := hledger.reference e he a ha
    refine if_neg fun heq ↦ ?_
    exact Table.find?_eq_none.mp (insert_eq_some hbooks.insert).1 c hc (hid.trans heq)
  rw [LoyaltyBook.usableAt, total_insert hbooks.insert, hold, LoyaltyBook.availablePoints,
    hnew, sub_zero, hexpires, if_pos ⟨hcustomer, hpos, rfl⟩]
  simp only [hold]
  rfl

theorem KeyInv.unused (h : KeyInv env P book) {key : LoyaltyKey} (hkey : ¬P key) :
    ∀ e ∈ book.entries.rows, e.idempotencyKey ≠ key := by
  rintro e he rfl
  exact hkey (h.accounted e he)

theorem insertDebit_refused_iff {input : EntryInput} {now : Timestamp} (hledger : LedgerInv book)
    (hkeys : KeyInv env P book) (hkey : ¬P input.idempotencyKey)
    (hids : Function.Injective (env.uuid .loyalty_point_entries))
    (htype : input.type.isCredit = false) :
    (∃ available requested, book.insertDebit env clock input
        (book.availableCredits input.customerId now) =
          .error (.loyaltyInsufficientBalance available requested)) ↔
      0 < input.points ∧ book.usableAt input.customerId now < input.points := by
  rw [← sum_usablePoints hledger]
  constructor
  · rintro ⟨available, requested, hrefused⟩
    by_contra hcovered
    obtain ⟨book', hok⟩ := hkeys.insertDebit_ok clock (book.availableCredits input.customerId now)
      hids (hkeys.unused hkey) htype (by omega)
    rw [hok] at hrefused
    cases hrefused
  · rintro ⟨hpos, hless⟩
    exact ⟨_, _, insertDebit_insufficient hpos hless⟩

/-- **The two entries of a compensation** are refused exactly when the points do not cover it. -/
theorem insertCompensation_refused_iff {sale : Sale} {mode : Compensation}
    {redeemRuleId earnRuleId : Uuid} {restore reverse : ℤ} (hledger : LedgerInv book)
    (hkeys : KeyInv env P book) (hrestoreKey : ¬P (mode.restoreKey sale.id))
    (hreverseKey : ¬P (mode.reversalKey sale.id))
    (hids : Function.Injective (env.uuid .loyalty_point_entries)) (hrestore : 0 ≤ restore)
    (hreverse : 0 ≤ reverse) :
    (∃ available requested, insertCompensation env book clock sale customerId mode redeemRuleId
        earnRuleId restore reverse = .error (.loyaltyInsufficientBalance available requested)) ↔
      book.usableAt customerId clock.allocating + restore < reverse := by
  have hrestoreType : mode.restoreType.isCredit = true := by cases mode <;> rfl
  have hreversalType : mode.reversalType.isCredit = false := by cases mode <;> rfl
  have hkeysDiffer : mode.reversalKey sale.id ≠ mode.restoreKey sale.id := by
    cases mode <;> exact LoyaltyKey.noConfusion
  have husable : 0 ≤ book.usableAt customerId clock.allocating := by
    apply total_nonneg
    intro e he
    split
    case isTrue hcredit => exact hledger.available_nonneg he hcredit.2.1
    case isFalse => exact le_rfl
  rw [insertCompensation]
  obtain ⟨book₁, hok⟩ : ∃ book₁, book.insertCredit env clock {
      customerId := customerId, ruleId := redeemRuleId, saleId := some sale.id,
      saleReturnId := mode.saleReturnId, type := mode.restoreType, points := restore,
      idempotencyKey := mode.restoreKey sale.id, expiresAt := none } = .ok book₁ :=
    hkeys.insertCredit_ok clock hids (hkeys.unused hrestoreKey) hrestoreType
  have hledger₁ : LedgerInv book₁ := hledger.insertCredit hok
  have hkeys₁ : KeyInv env (fun key ↦ P key ∨ key = mode.restoreKey sale.id) book₁ := by
    refine (hkeys.mono fun _ h ↦ .inl h).insertCredit (.inr rfl) ?_ hok
    cases mode <;> exact fun _ ↦ LoyaltyKey.noConfusion
  have husable₁ : book₁.usableAt customerId clock.allocating =
      book.usableAt customerId clock.allocating + restore := by
    rcases insertCredit_writes hok with
      ⟨hzero, rfl⟩ | ⟨entry, hpos, -, hof, hpoints, hexpires, hnone, hbooks⟩
    · have : restore = 0 := le_antisymm hzero hrestore
      rw [this, add_zero]
    · have hentry : entry.pointsDelta = restore := hpoints
      rw [hbooks.usableAt hledger hof.customer (by rw [hentry]; exact hpos) hexpires hnone, hentry]
  rw [hok, ok_bind]
  refine (insertDebit_refused_iff hledger₁ hkeys₁ ?_ hids hreversalType).trans ?_
  · rintro (hused | hsame)
    · exact hreverseKey hused
    · exact hkeysDiffer hsame
  · show 0 < reverse ∧ book₁.usableAt customerId clock.allocating < reverse ↔ _
    rw [husable₁]
    omega

end LoyaltyBook

/-! ### Compensations -/

variable {s t : Store} {sale : Sale} {mode : Compensation} {clock : LoyaltyClock}
  {customerId : Uuid} {P : LoyaltyKey → Prop}

def RefusesForPoints (t : Store) (clock : LoyaltyClock) (sale : Sale) (mode : Compensation) :
    Prop :=
  ∃ available requested,
    compensateSale t clock sale mode = .error (.loyaltyInsufficientBalance available requested)

/-- **A compensation is refused** exactly when the points do not cover what it takes back. -/
theorem compensateSale_refused_iff (hcompensable : Compensable t sale mode)
    (hledger : LoyaltyBook.LedgerInv t.loyalty) (hkeys : LoyaltyBook.KeyInv t.env P t.loyalty)
    (hP : ∀ id, P (.expire id)) (hrestoreKey : ¬P (mode.restoreKey sale.id))
    (hreverseKey : ¬P (mode.reversalKey sale.id))
    (hids : Function.Injective (t.env.uuid .loyalty_point_entries))
    (hcustomer : sale.customerId = some customerId)
    (hpoints : ¬(sale.loyaltyPointsRedeemed = 0 ∧ sale.loyaltyPointsEarned = 0))
    (havailable : t.customerAvailable customerId) :
    RefusesForPoints t clock sale mode ↔
      t.loyalty.unexpiredPoints customerId clock + restoredPoints t sale mode <
        reversedPoints t sale mode := by
  obtain ⟨book, hbook, hexpired⟩ := hkeys.materializeExpirations_ok clock customerId hledger hP hids
  have hadds := LoyaltyBook.Adds.materializeExpirations sale.id hbook
  obtain ⟨source, hsource⟩ := hcompensable.source hadds hpoints
  have hbooked (type : LoyaltyEntryType) : book.pointsOf sale.id type =
      t.loyalty.pointsOf sale.id type := by
    rw [hadds.points, ite_self, add_zero]
  have hcompute : compensateSale t clock sale mode = insertCompensation t.env book clock sale
      customerId mode ((book.sourceOf sale.id .REDEEM).getD source).ruleId
      ((book.sourceOf sale.id .EARN).getD source).ruleId (restoredPoints t sale mode)
      (reversedPoints t sale mode) := by
    rw [compensateSale, hcustomer]
    simp only [if_neg hpoints, assertLoyaltyCustomer, ensure, if_pos havailable, ok_bind, hbook,
      compensate, hsource, hbooked, restoredPoints, reversedPoints]
  rw [RefusesForPoints, hcompute, ← hexpired.usableAt]
  exact LoyaltyBook.insertCompensation_refused_iff (hadds.ledger hledger) hexpired.keys hrestoreKey
    hreverseKey hids restoredPoints_nonneg reversedPoints_nonneg

/-! ### Voids and full returns -/

/-- **What takes a whole sale back**: its void, or the return that completes its total. -/
inductive TakesBack (s : Store) (sale : Sale) : Store → Compensation → Prop
  | void (hreturns : ∀ r ∈ s.saleReturns.rows, r.saleId ≠ sale.id) : TakesBack s sale s .VOID
  | fullReturn {saleReturn saleReturns} (hsale : saleReturn.saleId = sale.id)
    (hinsert : s.saleReturns.insert saleReturn = some saleReturns)
    (htotal : s.returnedTotal sale.id + saleReturn.total = sale.total) :
    TakesBack s sale { s with saleReturns := saleReturns } (.RETURN saleReturn.id)

/-- **Nobody used the points the sale has earned**: what has been taken from them has expired. -/
def Unspent (s : Store) (sale : Sale) : Prop :=
  ∀ c ∈ s.loyalty.entries.rows, c.saleId = some sale.id → c.type = .EARN →
    ∀ e ∈ s.loyalty.entries.rows, ∀ a ∈ e.allocations, a.creditId = c.id → e.type = .EXPIRE
deriving Decidable

/-- A compensation is refused for want of points only if some of those the sale has earned were
used. -/
def BlocksOnlySpent (s t : Store) (clock : LoyaltyClock) (sale : Sale) (mode : Compensation) :
    Prop :=
  Unspent s sale → ¬RefusesForPoints t clock sale mode

/-- **The points of the customer cover the sale**: those unexpired and those to be given back. -/
def PointsCover (s : Store) (sale : Sale) (customerId : Uuid) (clock : LoyaltyClock) : Prop :=
  sale.loyaltyPointsEarned - s.loyalty.reversedOf sale.id ≤
    s.loyalty.unexpiredPoints customerId clock +
      (sale.loyaltyPointsRedeemed - s.loyalty.restoredOf sale.id)
deriving Decidable

theorem TakesBack.amounts (h : TakesBack s sale t mode) (hreturns : ReturnInv s) (hinv : PointInv s)
    (hmem : sale ∈ s.sales.rows) (hcompleted : sale.isCompleted) :
    Compensable t sale mode ∧
      restoredPoints t sale mode = sale.loyaltyPointsRedeemed - s.loyalty.restoredOf sale.id ∧
      reversedPoints t sale mode = sale.loyaltyPointsEarned - s.loyalty.reversedOf sale.id := by
  obtain ⟨hrestoredOf, hreversedOf⟩ := hinv.restoredOf_eq hreturns hmem
  rw [if_pos hcompleted] at hrestoredOf hreversedOf
  rw [hrestoredOf, hreversedOf]
  cases h with
  | void hnone =>
    obtain ⟨hrestored, hreversed, hcompensable⟩ := hinv.compensable_void hmem hcompleted
    have hzero : s.returnedTotal sale.id = 0 := total_eq_zero fun r hr ↦ if_neg (hnone r hr)
    rw [hzero, proratePoints_zero_part, proratePoints_zero_part, sub_zero, sub_zero]
    exact ⟨hcompensable, hrestored, hreversed⟩
  | fullReturn hsale hinsert htotal =>
    obtain ⟨hrestored, hreversed, hcompensable⟩ := hinv.compensable_return hmem hsale hinsert
    obtain ⟨hredeemed, hearned⟩ := hinv.prorate_whole hmem
    rw [htotal, hredeemed] at hrestored
    rw [htotal, hearned] at hreversed
    exact ⟨hcompensable, hrestored, hreversed⟩

theorem TakesBack.unused (h : TakesBack s sale t mode) (hmem : sale ∈ s.sales.rows)
    (hcompleted : sale.isCompleted) :
    ¬s.accountsFor (mode.restoreKey sale.id) ∧ ¬s.accountsFor (mode.reversalKey sale.id) := by
  cases h with
  | void =>
    have hcompleted : ¬∃ x, s.sales.find? sale.id = some x ∧ ¬x.isCompleted := by
      rintro ⟨x, hfind, hvoided⟩
      have hself : s.sales.find? sale.id = some sale := find?_key_of_mem hmem
      obtain rfl : sale = x := Option.some.inj (hself.symm.trans hfind)
      exact hvoided hcompleted
    exact ⟨hcompleted, hcompleted⟩
  | @fullReturn saleReturn _ _ hinsert =>
    have hnew : s.saleReturns.find? saleReturn.id = none := (insert_eq_some hinsert).1
    have hunused : ¬(s.saleReturns.find? saleReturn.id).isSome := by
      rw [hnew]
      exact Bool.false_ne_true
    exact ⟨hunused, hunused⟩

/-- **When points are missing.** Only sales whose points were used are blocked exactly if the points
of the customer cover the sale. -/
theorem blocksOnlySpent_iff (env : Env) (customers : Table Customer) (events : List (Event Request))
    (hids : Function.Injective (env.uuid .loyalty_point_entries))
    (hs : s = (Outcome.run protocol.step (State.idle (Store.fresh env customers)) events).store)
    (hmem : sale ∈ s.sales.rows) (hcompleted : sale.isCompleted)
    (hearned : 0 < sale.loyaltyPointsEarned) (hback : TakesBack s sale t mode) :
    BlocksOnlySpent s t clock sale mode ↔ (Unspent s sale → ∀ customerId,
      sale.customerId = some customerId → s.customerAvailable customerId →
        PointsCover s sale customerId clock) := by
  have hgood := points_sound.run
    (Good.idle ⟨ReturnInv.fresh env customers, PointInv.fresh env customers⟩) events
    (commits_of_forall (fun _ _ _ ↦ trivial) ..)
  obtain ⟨henv, hkeys⟩ := pointKeys_run env customers events
  have hstore := hgood.inv
  rw [← hs] at hstore henv hkeys
  obtain ⟨hreturns, hinv⟩ := hstore
  obtain ⟨hcompensable, hrestored, hreversed⟩ := hback.amounts hreturns hinv hmem hcompleted
  obtain ⟨hrestoreKey, hreverseKey⟩ := hback.unused hmem hcompleted
  have hsame : t.env = env ∧ t.loyalty = s.loyalty ∧
      ∀ customerId, t.customerAvailable customerId ↔ s.customerAvailable customerId := by
    cases hback <;> exact ⟨henv, rfl, fun _ ↦ Iff.rfl⟩
  obtain ⟨htenv, hloyalty, hcustomers⟩ := hsame
  refine forall_congr' fun _ ↦ ?_
  cases hcustomer : sale.customerId with
  | none =>
    have := (hinv.customer sale hmem hcustomer).2
    omega
  | some customerId =>
    have hiff : s.customerAvailable customerId → (RefusesForPoints t clock sale mode ↔
        ¬PointsCover s sale customerId clock) := by
      intro havailable
      rw [compensateSale_refused_iff hcompensable (hloyalty ▸ hinv.ledger)
        (htenv.symm ▸ hloyalty.symm ▸ hkeys) (fun _ ↦ trivial) hrestoreKey hreverseKey
        (htenv.symm ▸ hids) hcustomer (by omega) ((hcustomers customerId).mpr havailable),
        hrestored, hreversed, hloyalty, PointsCover, not_le]
    constructor
    · intro hok x hx havailable
      obtain rfl : customerId = x := Option.some.inj hx
      exact not_not.mp fun hnot ↦ hok ((hiff havailable).mpr hnot)
    · intro hcover hrefused
      by_cases havailable : s.customerAvailable customerId
      · exact (hiff havailable).mp hrefused (hcover customerId rfl havailable)
      · -- a customer that is not available is refused before any points are looked at
        obtain ⟨available, requested, hrefused⟩ := hrefused
        have hpoints : ¬(sale.loyaltyPointsRedeemed = 0 ∧ sale.loyaltyPointsEarned = 0) := by omega
        rw [compensateSale, hcustomer] at hrefused
        simp only [if_neg hpoints, assertLoyaltyCustomer, ensure,
          if_neg (fun h ↦ havailable ((hcustomers customerId).mp h)), error_bind] at hrefused
        cases hrefused

/-! ### Points that have expired -/

def loyalCustomer : Table Customer :=
  Table.ofRow { id := 7, available := true }

/-- Points expire after a day. A customer buys for a hundred units and earns ten points. -/
def earnRun : List (Event Request) :=
  alone (.opening 0) ++
  alone (.createRuleVersion {
    active := true, earnAmount := 1000, earnPoints := 1, redeemPoints := 1, redeemAmount := 1
    expirationDays := some 1 }) ++
  alone (.selling (some {
      id := 7, credit := none
      loyalty := some {
        ruleId := 0, pointsRedeemed := 0, redemptionValue := 0, pointsEarned := 10 } })
    [{ quantity := 1000, subtotal := 10000, tax := 0 }] (inCash 10000))

def earned : Store :=
  (Outcome.run protocol.step (State.idle (Store.fresh default loyalCustomer)) earnRun).store

def earningSale : Sale where
  id := 0
  branchId := 1
  cashRegisterId := 1
  shiftId := 0
  createdByUserId := 1
  customerId := some 7
  currency := .MXN
  lines := [{ quantity := 1000, subtotal := 10000, tax := 0 }]
  payments := [{ method := .CASH, status := .COMPLETED, amountApplied := 10000
                 externalReference := none }]
  loyaltyPointsRedeemed := 0
  loyaltyValue := 0
  loyaltyPointsEarned := 10
  idempotencyKey := [1]
  requestFingerprint := [1]
  voided := none

def sameDay : LoyaltyClock := ⟨1, 1, 1⟩
def twoDaysLater : LoyaltyClock := ⟨2 * DAY, 2 * DAY, 2 * DAY⟩

theorem blocksOnlySpent_sameDay :
    BlocksOnlySpent earned earned sameDay earningSale .VOID ↔ (Unspent earned earningSale →
      ∀ customerId, earningSale.customerId = some customerId → earned.customerAvailable customerId →
        PointsCover earned earningSale customerId sameDay) :=
  blocksOnlySpent_iff default loyalCustomer earnRun (fun _ _ h ↦ h) rfl (by decide +kernel) rfl
    (by decide) (.void (by decide +kernel))

theorem expired_points_block_void :
    ¬BlocksOnlySpent earned earned twoDaysLater earningSale .VOID := by
  intro h
  have hunspent : Unspent earned earningSale := by decide +kernel
  refine h hunspent ⟨0, 10, ?_⟩
  have hrefused : (match compensateSale earned twoDaysLater earningSale .VOID with
      | .error e => some e
      | .ok _ => none) = some (.loyaltyInsufficientBalance 0 10) := by decide +kernel
  split at hrefused
  case h_1 e heq =>
    rw [heq, Option.some.inj hrefused]
  case h_2 => cases hrefused

end UInventario.Pos
