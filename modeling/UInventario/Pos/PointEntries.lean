import UInventario.Pos.PointLedger

/-!
# The points of a sale

Every entry of the ledger belongs to a sale, or it is an expiration. What the ledger has booked for
a sale is its redemption and its earnings, and for a void or for its returns what has come back of
both (`Sale.points`). The operations that write entries are the expirations, a new sale and a
compensation; this module says what each of them adds to the points of each sale.
-/

namespace UInventario.Pos

open Outcome List

namespace LoyaltyBook

variable {env : Env} {clock : LoyaltyClock} {book book' : LoyaltyBook} {entry : LoyaltyEntry}
  {input : EntryInput} {customerId : Uuid}

/-! ### Entries of sales -/

/-- **What a few entries of one sale add to the book.** -/
structure Adds (book : LoyaltyBook) (saleId : Uuid) (points : LoyaltyEntryType → ℤ)
    (book' : LoyaltyBook) : Prop where
  ledger : LedgerInv book → LedgerInv book'
  rules : book'.rules = book.rules
  keeps : ∀ e ∈ book.entries.rows, e ∈ book'.entries.rows
  points : ∀ id type, book'.pointsOf id type =
    book.pointsOf id type + if id = saleId then points type else 0
  /-- The entries of other sales were there before. -/
  sales : ∀ e ∈ book'.entries.rows, ∀ id, e.saleId = some id →
    id = saleId ∨ ∃ e₀ ∈ book.entries.rows, e₀.saleId = some id

def single (type : LoyaltyEntryType) (points : ℤ) (t : LoyaltyEntryType) : ℤ :=
  if t = type then points else 0

namespace Adds

variable {saleId : Uuid}

theorem refl (saleId : Uuid) : Adds book saleId (fun _ ↦ 0) book where
  ledger := id
  rules := rfl
  keeps := fun _ he ↦ he
  points := by
    intro id type
    rw [ite_self, add_zero]
  sales := fun e he _ hid ↦ .inr ⟨e, he, hid⟩

theorem trans {points points' : LoyaltyEntryType → ℤ} {book₁ : LoyaltyBook}
    (h : Adds book saleId points book₁) (h' : Adds book₁ saleId points' book') :
    Adds book saleId (fun type ↦ points type + points' type) book' where
  ledger := fun hledger ↦ h'.ledger (h.ledger hledger)
  rules := h'.rules.trans h.rules
  keeps := fun e he ↦ h'.keeps e (h.keeps e he)
  points := by
    intro id type
    rw [h'.points, h.points]
    split <;> ring
  sales := by
    intro e he id hid
    rcases h'.sales e he id hid with heq | ⟨e₁, he₁, hid₁⟩
    · exact .inl heq
    · exact h.sales e₁ he₁ id hid₁

theorem books (hledger : LedgerInv book → LedgerInv book') (hsale : entry.saleId = some saleId)
    (hbooks : Books book entry book') :
    Adds book saleId (single entry.type entry.pointsDelta) book' where
  ledger := hledger
  rules := hbooks.rules
  keeps := fun e he ↦ hbooks.mem.mpr (.inl he)
  points := by
    intro id type
    rw [LoyaltyBook.pointsOf, LoyaltyBook.pointsOf, Table.total_insert hbooks.insert, hsale, single]
    congr 1
    by_cases hid : id = saleId
    · subst hid
      rw [if_pos rfl]
      exact if_congr (by rw [eq_self, true_and, eq_comm]) rfl rfl
    · rw [if_neg hid, if_neg]
      rintro ⟨hsome, -⟩
      exact hid (Option.some.inj hsome).symm
  sales := by
    intro e he id hid
    rcases hbooks.mem.mp he with he | rfl
    · exact .inr ⟨e, he, hid⟩
    · rw [hsale] at hid
      exact .inl (Option.some.inj hid).symm

theorem unrelated (hledger : LedgerInv book → LedgerInv book') (hsale : entry.saleId = none)
    (hbooks : Books book entry book') : Adds book saleId (fun _ ↦ 0) book' where
  ledger := hledger
  rules := hbooks.rules
  keeps := fun e he ↦ hbooks.mem.mpr (.inl he)
  points := by
    intro id type
    rw [LoyaltyBook.pointsOf, LoyaltyBook.pointsOf, Table.total_insert hbooks.insert, hsale,
      if_neg (by simp), ite_self]
  sales := by
    intro e he id hid
    rcases hbooks.mem.mp he with he | rfl
    · exact .inr ⟨e, he, hid⟩
    · rw [hsale] at hid
      cases hid

theorem insertCredit (hsale : input.saleId = some saleId)
    (h : book.insertCredit env clock input = .ok book') :
    Adds book saleId (single input.type (max 0 input.points)) book' := by
  have hledger : LedgerInv book → LedgerInv book' := fun hinv ↦ hinv.insertCredit h
  rcases insertCredit_writes h with ⟨hzero, rfl⟩ | ⟨entry, hpos, -, hof, hpoints, -, -, hbooks⟩
  · have hnone : single input.type 0 = fun _ ↦ 0 := funext fun _ ↦ ite_self _
    rw [max_eq_left hzero, hnone]
    exact refl saleId
  · rw [max_eq_right hpos.le, ← hof.type, ← hpoints]
    exact books hledger (hof.sale.trans hsale) hbooks

theorem insertDebit {now : Timestamp} (hsale : input.saleId = some saleId)
    (h : book.insertDebit env clock input (book.availableCredits input.customerId now) =
      .ok book') : Adds book saleId (single input.type (-max 0 input.points)) book' := by
  have hledger : LedgerInv book → LedgerInv book' := fun hinv ↦
    hinv.insertDebit (nodup_availableCredits _ _) (fun c hc ↦ (mem_availableCredits.mp hc).1) h
  rcases insertDebit_writes h with ⟨hzero, rfl⟩ | ⟨entry, hpos, -, -, hof, hpoints, -, -, hbooks⟩
  · have hnone : single input.type (-0) = fun _ ↦ 0 := funext fun _ ↦ ite_self _
    rw [max_eq_left hzero, hnone]
    exact refl saleId
  · rw [max_eq_right hpos.le, ← hof.type, ← hpoints]
    exact books hledger (hof.sale.trans hsale) hbooks

end Adds

/-! ### Expirations -/

theorem mem_expiredCredits {now : Timestamp} {e : LoyaltyEntry} :
    e ∈ book.expiredCredits customerId now ↔
      e ∈ book.credits customerId ∧ (e.expiresAt.any fun t ↦ t ≤ now) = true := by
  rw [expiredCredits, mem_orderBy, mem_filter]

theorem Adds.expireCredit {saleId : Uuid} {credit : LoyaltyEntry × ℤ}
    (hmem : credit.1 ∈ book.entries.rows) (hpos : 0 < credit.1.pointsDelta)
    (h : expireCredit env clock book credit = .ok book') :
    Adds book saleId (fun _ ↦ 0) book' := by
  have hfind : book.entries.find? credit.1.id = some credit.1 := Table.find?_key_of_mem hmem
  rw [LoyaltyBook.expireCredit, hfind] at h
  have hledger : LedgerInv book → LedgerInv book' := by
    intro hinv
    have hnodup : ([credit.1].map LoyaltyEntry.id).Nodup := nodup_singleton _
    refine hinv.insertDebit hnodup ?_ h
    intro c hc
    obtain rfl : c = credit.1 := List.mem_singleton.mp hc
    exact mem_credits.mpr ⟨hmem, rfl, hpos⟩
  rcases insertDebit_writes h with ⟨-, rfl⟩ | ⟨entry, -, -, -, hof, -, -, -, hbooks⟩
  · exact refl saleId
  · exact unrelated hledger hof.sale hbooks

/-- **Expirations** belong to no sale. -/
theorem Adds.materializeExpirations (saleId : Uuid)
    (h : book.materializeExpirations env clock customerId = .ok book') :
    Adds book saleId (fun _ ↦ 0) book' := by
  rw [LoyaltyBook.materializeExpirations] at h
  refine foldlM_invariant (P := fun b ↦ Adds book saleId (fun _ ↦ 0) b) ?_ (refl saleId) h
  intro credit hcredit b b' hadds hexpire
  obtain ⟨e, he, rfl⟩ := List.mem_map.mp hcredit
  obtain ⟨hmem, -, hpos⟩ := mem_credits.mp (mem_expiredCredits.mp he).1
  exact hadds.trans (expireCredit (hadds.keeps e hmem) hpos hexpire)

/-! ### Sales and compensations -/

/-- **The points of a new sale.** -/
theorem Adds.insertSaleEntries {rule : LoyaltyRule} {input : ApplySaleInput}
    {current : LoyaltyQuote} (h : Pos.insertSaleEntries env book rule input current = .ok book') :
    Adds book input.saleId (fun type ↦ single .REDEEM (-(current.pointsRedeemed : ℤ)) type +
      single .EARN current.pointsEarned type) book' := by
  simp only [Pos.insertSaleEntries, bind_eq_ok] at h
  obtain ⟨book₁, hredeem, hearn⟩ := h
  have hfirst := Adds.insertDebit rfl hredeem
  have hsecond := Adds.insertCredit rfl hearn
  rw [max_eq_right (Nat.cast_nonneg _)] at hfirst hsecond
  exact hfirst.trans hsecond

/-- **The points of a compensation.** -/
theorem Adds.insertCompensation {sale : Sale} {mode : Compensation} {redeemRuleId earnRuleId : Uuid}
    {restore reverse : ℤ} (hrestore : 0 ≤ restore) (hreverse : 0 ≤ reverse)
    (h : Pos.insertCompensation env book clock sale customerId mode redeemRuleId earnRuleId restore
      reverse = .ok book') :
    Adds book sale.id (fun type ↦ single mode.restoreType restore type +
      single mode.reversalType (-reverse) type) book' := by
  simp only [Pos.insertCompensation, bind_eq_ok] at h
  obtain ⟨book₁, hcredit, hdebit⟩ := h
  have hfirst := Adds.insertCredit rfl hcredit
  have hsecond := Adds.insertDebit rfl hdebit
  rw [max_eq_right hrestore] at hfirst
  rw [max_eq_right hreverse] at hsecond
  exact hfirst.trans hsecond

end LoyaltyBook

/-! ### What the ledger has booked for a sale -/

/-- **What the ledger has booked for a sale**: its redemption and its earnings, and what has come
back of both. -/
def Sale.points (sale : Sale) (returnedTotal : ℤ) : LoyaltyEntryType → ℤ
  | .REDEEM => -sale.loyaltyPointsRedeemed
  | .EARN => sale.loyaltyPointsEarned
  | .EXPIRE => 0
  | .VOID_REDEEM_RESTORE => if sale.isCompleted then 0 else sale.loyaltyPointsRedeemed
  | .VOID_EARN_REVERSAL => -if sale.isCompleted then 0 else (sale.loyaltyPointsEarned : ℤ)
  | .RETURN_REDEEM_RESTORE => proratePoints sale.loyaltyPointsRedeemed returnedTotal sale.total
  | .RETURN_EARN_REVERSAL => -proratePoints sale.loyaltyPointsEarned returnedTotal sale.total

def restoredPoints (s : Store) (sale : Sale) (mode : Compensation) : ℤ :=
  max 0 (compensationTarget s sale mode sale.loyaltyPointsRedeemed -
    s.loyalty.pointsOf sale.id mode.restoreType)

def reversedPoints (s : Store) (sale : Sale) (mode : Compensation) : ℤ :=
  max 0 (compensationTarget s sale mode sale.loyaltyPointsEarned -
    -s.loyalty.pointsOf sale.id mode.reversalType)

variable {s : Store} {sale : Sale} {mode : Compensation} {clock : LoyaltyClock}

theorem restoredPoints_nonneg : 0 ≤ restoredPoints s sale mode :=
  le_max_left _ _

theorem reversedPoints_nonneg : 0 ≤ reversedPoints s sale mode :=
  le_max_left _ _

/-- What is known of the points of a sale before they are compensated. -/
structure Compensable (s : Store) (sale : Sale) (mode : Compensation) : Prop where
  redeemed : s.loyalty.pointsOf sale.id .REDEEM = -sale.loyaltyPointsRedeemed
  earned : s.loyalty.pointsOf sale.id .EARN = sale.loyaltyPointsEarned
  /-- Only a sale to a customer has points. -/
  customer : sale.customerId = none → sale.loyaltyPointsRedeemed = 0 ∧ sale.loyaltyPointsEarned = 0
  restored : sale.loyaltyPointsRedeemed = 0 → restoredPoints s sale mode = 0
  reversed : sale.loyaltyPointsEarned = 0 → reversedPoints s sale mode = 0

theorem Compensable.source (h : Compensable s sale mode) {book : LoyaltyBook}
    (hadds : LoyaltyBook.Adds s.loyalty sale.id (fun _ ↦ 0) book)
    (hpoints : ¬(sale.loyaltyPointsRedeemed = 0 ∧ sale.loyaltyPointsEarned = 0)) :
    ∃ source, book.entries.rows.find? (fun e ↦
      e.saleId = some sale.id ∧ (e.type = .EARN ∨ e.type = .REDEEM)) = some source := by
  have hbooked (type : LoyaltyEntryType) : book.pointsOf sale.id type =
      s.loyalty.pointsOf sale.id type := by
    rw [hadds.points, ite_self, add_zero]
  rw [← Option.ne_none_iff_exists']
  intro hnone
  rw [find?_eq_none] at hnone
  have hzero (type : LoyaltyEntryType) (htype : type = .EARN ∨ type = .REDEEM) :
      book.pointsOf sale.id type = 0 := by
    apply Table.total_eq_zero
    intro e he
    refine if_neg fun hsame ↦ hnone e he ?_
    rw [decide_eq_true_eq, hsame.2]
    exact ⟨hsame.1, htype⟩
  have hredeemed := hzero .REDEEM (.inr rfl)
  have hearned := hzero .EARN (.inl rfl)
  rw [hbooked, h.redeemed] at hredeemed
  rw [hbooked, h.earned] at hearned
  omega

/-- **A compensation books what is left to come back.** -/
theorem Compensable.adds (h : Compensable s sale mode) {loyalty : LoyaltyBook}
    (hok : compensateSale s clock sale mode = .ok loyalty) :
    LoyaltyBook.Adds s.loyalty sale.id (fun type ↦
      LoyaltyBook.single mode.restoreType (restoredPoints s sale mode) type +
        LoyaltyBook.single mode.reversalType (-reversedPoints s sale mode) type) loyalty := by
  have hnothing (hpoints : sale.loyaltyPointsRedeemed = 0 ∧ sale.loyaltyPointsEarned = 0) :
      LoyaltyBook.Adds s.loyalty sale.id (fun type ↦
        LoyaltyBook.single mode.restoreType (restoredPoints s sale mode) type +
          LoyaltyBook.single mode.reversalType (-reversedPoints s sale mode) type) s.loyalty := by
    have hzero : (fun type ↦ LoyaltyBook.single mode.restoreType (restoredPoints s sale mode) type +
        LoyaltyBook.single mode.reversalType (-reversedPoints s sale mode) type) = fun _ ↦ 0 := by
      funext type
      rw [h.restored hpoints.1, h.reversed hpoints.2, LoyaltyBook.single, LoyaltyBook.single,
        neg_zero, ite_self, ite_self, add_zero]
    rw [hzero]
    exact .refl _
  rw [compensateSale] at hok
  split at hok
  case h_1 hnone =>
    rw [pure_eq_ok] at hok
    exact hok ▸ hnothing (h.customer hnone)
  case h_2 customerId _ =>
    split at hok
    case isTrue hpoints =>
      rw [pure_eq_ok] at hok
      exact hok ▸ hnothing hpoints
    case isFalse hpoints =>
      simp only [bind_eq_ok] at hok
      obtain ⟨-, -, book, hbook, hok⟩ := hok
      have hadds := LoyaltyBook.Adds.materializeExpirations sale.id hbook
      obtain ⟨source, hsource⟩ := h.source hadds hpoints
      have hbooked (type : LoyaltyEntryType) : book.pointsOf sale.id type =
          s.loyalty.pointsOf sale.id type := by
        rw [hadds.points, ite_self, add_zero]
      simp only [compensate, hsource, hbooked] at hok
      have htotal := hadds.trans (LoyaltyBook.Adds.insertCompensation restoredPoints_nonneg
        reversedPoints_nonneg hok)
      simpa only [zero_add] using htotal

end UInventario.Pos
