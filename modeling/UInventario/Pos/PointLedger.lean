import UInventario.Foundations.Sums
import UInventario.Pos.SaleCommits

/-!
# The ledger of points

Every debit of the ledger is covered by allocations to credits of the same customer, and no credit
is allocated beyond its points (`LedgerInv`). So the balance, which adds up all entries, is what the
credits have left (`LedgerInv.balance_eq`).

`insertCredit_writes` and `insertDebit_writes` say which entry each function adds; a debit is a
greedy draw from the credits it is given, so `LedgerInv` is kept whatever these credits are.
-/

namespace UInventario.Pos

open Outcome List

/-! ### Allocations -/

def LoyaltyEntry.spent (entry : LoyaltyEntry) : ℤ :=
  (entry.allocations.map fun a ↦ (a.points : ℤ)).sum

namespace LoyaltyBook

variable {env : Env} {clock : LoyaltyClock} {book book' : LoyaltyBook} {entry : LoyaltyEntry}
  {input : EntryInput} {customerId : Uuid} {e c : LoyaltyEntry} {credits : List LoyaltyEntry}

/-- **The invariant of the ledger.** -/
structure LedgerInv (book : LoyaltyBook) : Prop where
  credit : ∀ e ∈ book.entries.rows, e.type.isCredit = true → 0 < e.pointsDelta ∧ e.allocations = []
  debit : ∀ e ∈ book.entries.rows, e.type.isCredit = false →
    e.pointsDelta < 0 ∧ e.spent = -e.pointsDelta
  /-- What a debit takes, it takes from credits of its customer. -/
  reference : ∀ e ∈ book.entries.rows, ∀ a ∈ e.allocations,
    ∃ c ∈ book.entries.rows, c.id = a.creditId ∧ c.customerId = e.customerId ∧ 0 < c.pointsDelta
  within : ∀ c ∈ book.entries.rows, 0 < c.pointsDelta → book.allocatedTo c.id ≤ c.pointsDelta

theorem mem_credits : e ∈ book.credits customerId ↔
    e ∈ book.entries.rows ∧ e.customerId = customerId ∧ 0 < e.pointsDelta := by
  rw [credits, mem_filter, decide_eq_true_eq]

namespace LedgerInv

theorem available_nonneg (h : LedgerInv book) (hc : c ∈ book.entries.rows)
    (hpos : 0 < c.pointsDelta) : 0 ≤ book.availablePoints c :=
  sub_nonneg.mpr (h.within c hc hpos)

theorem sum_allocatedTo (h : LedgerInv book) (customerId : Uuid) {d : LoyaltyEntry}
    (hd : d ∈ book.entries.rows) :
    (book.entries.rows.map fun e ↦
      if e.customerId = customerId ∧ 0 < e.pointsDelta then d.allocatedTo e.id else 0).sum =
      if d.customerId = customerId then d.spent else 0 := by
  have hswap : (book.entries.rows.map fun e ↦
      if e.customerId = customerId ∧ 0 < e.pointsDelta then d.allocatedTo e.id else 0).sum =
      (d.allocations.map fun a ↦ (book.entries.rows.map fun e ↦ if e.id = a.creditId then
        (if e.customerId = customerId ∧ 0 < e.pointsDelta then (a.points : ℤ) else 0)
          else 0).sum).sum := by
    rw [← Sums.sum_comm]
    congr 1
    apply map_congr_left
    intro e _
    rw [LoyaltyEntry.allocatedTo]
    split
    · congr 1
      apply map_congr_left
      intro a _
      exact if_congr eq_comm rfl rfl
    · simp
  have hcredit : ∀ a ∈ d.allocations, (book.entries.rows.map fun e ↦ if e.id = a.creditId then
      (if e.customerId = customerId ∧ 0 < e.pointsDelta then (a.points : ℤ) else 0) else 0).sum =
        if d.customerId = customerId then (a.points : ℤ) else 0 := by
    intro a ha
    obtain ⟨c, hc, hid, hcustomer, hpos⟩ := h.reference d hd a ha
    rw [← hid, ← hcustomer]
    refine (Sums.sum_key_eq LoyaltyEntry.id (fun e ↦ if e.customerId = customerId ∧
      0 < e.pointsDelta then (a.points : ℤ) else 0) book.entries.nodup hc).trans ?_
    exact if_congr (and_iff_left hpos) rfl rfl
  rw [hswap, map_congr_left hcredit]
  split
  · rfl
  · simp

/-- **The balance is what the credits have left.** -/
theorem balance_eq (h : LedgerInv book) (customerId : Uuid) :
    book.balance customerId = ((book.credits customerId).map book.availablePoints).sum := by
  have hallocated : (book.entries.rows.map fun e ↦
      if e.customerId = customerId ∧ 0 < e.pointsDelta then book.allocatedTo e.id else 0).sum =
      (book.entries.rows.map fun d ↦ if d.customerId = customerId then d.spent else 0).sum := by
    rw [← map_congr_left fun d hd ↦ h.sum_allocatedTo customerId hd, Sums.sum_comm]
    congr 1
    apply map_congr_left
    intro e _
    rw [allocatedTo, Table.total]
    split
    · rfl
    · simp
  have hentry : ∀ e ∈ book.entries.rows, (if e.customerId = customerId then e.pointsDelta else 0) +
      (if e.customerId = customerId then e.spent else 0) =
        if e.customerId = customerId ∧ 0 < e.pointsDelta then e.pointsDelta else 0 := by
    intro e he
    by_cases hcustomer : e.customerId = customerId
    · cases htype : e.type.isCredit with
      | true =>
        obtain ⟨hpos, hnone⟩ := h.credit e he htype
        rw [if_pos hcustomer, if_pos hcustomer, if_pos ⟨hcustomer, hpos⟩, LoyaltyEntry.spent, hnone]
        simp
      | false =>
        obtain ⟨hneg, hspent⟩ := h.debit e he htype
        rw [if_pos hcustomer, if_pos hcustomer, if_neg fun hpos ↦ by omega, hspent]
        omega
    · rw [if_neg hcustomer, if_neg hcustomer, if_neg fun hpos ↦ hcustomer hpos.1, add_zero]
  have hsplit : ∀ e : LoyaltyEntry,
    (if decide (e.customerId = customerId ∧ 0 < e.pointsDelta) = true
      then book.availablePoints e else 0) +
      (if e.customerId = customerId ∧ 0 < e.pointsDelta then book.allocatedTo e.id else 0) =
        if e.customerId = customerId ∧ 0 < e.pointsDelta then e.pointsDelta else 0 := by
    intro e
    by_cases hcredit : e.customerId = customerId ∧ 0 < e.pointsDelta
    · rw [if_pos hcredit, if_pos hcredit, if_pos (decide_eq_true hcredit), availablePoints]
      omega
    · rw [if_neg hcredit, if_neg hcredit, if_neg (by rw [decide_eq_true_eq]; exact hcredit),
        add_zero]
  have hcredits : ((book.credits customerId).map book.availablePoints).sum +
      (book.entries.rows.map fun e ↦ if e.customerId = customerId ∧ 0 < e.pointsDelta then
        book.allocatedTo e.id else 0).sum = book.balance customerId +
      (book.entries.rows.map fun d ↦ if d.customerId = customerId then d.spent else 0).sum := by
    rw [credits, Sums.sum_filter, ← sum_map_add, balance, Table.total, ← sum_map_add,
      map_congr_left hentry]
    simp only [hsplit]
  omega

theorem balance_nonneg (h : LedgerInv book) (customerId : Uuid) : 0 ≤ book.balance customerId := by
  rw [h.balance_eq]
  refine sum_nonneg (forall_mem_map.mpr fun c hc ↦ ?_)
  obtain ⟨hmem, -, hpos⟩ := mem_credits.mp hc
  exact h.available_nonneg hmem hpos

end LedgerInv

/-! ### Entries -/

/-- **One more entry**, whose key no other has. -/
structure Books (book : LoyaltyBook) (entry : LoyaltyEntry) (book' : LoyaltyBook) : Prop where
  insert : book.entries.insert entry = some book'.entries
  rules : book'.rules = book.rules
  fresh : ∀ e ∈ book.entries.rows, e.idempotencyKey ≠ entry.idempotencyKey

theorem insertEntry_eq_ok (h : book.insertEntry entry = .ok book') :
    (if entry.type.isCredit = true then 0 < entry.pointsDelta else entry.pointsDelta < 0) ∧
      Books book entry book' := by
  simp only [insertEntry, eq_ok] at h
  obtain ⟨-, hsign, -, hkey, entries, hinsert, rfl⟩ := h
  exact ⟨hsign, hinsert, rfl, hkey⟩

structure EntryOf (env : Env) (book : LoyaltyBook) (input : EntryInput) (entry : LoyaltyEntry) :
    Prop where
  id : entry.id = env.uuid .loyalty_point_entries book.entries.rows.length
  customer : entry.customerId = input.customerId
  sale : entry.saleId = input.saleId
  type : entry.type = input.type
  key : entry.idempotencyKey = input.idempotencyKey

theorem insertCredit_writes (h : book.insertCredit env clock input = .ok book') :
    (input.points ≤ 0 ∧ book' = book) ∨
      ∃ entry, 0 < input.points ∧ input.type.isCredit = true ∧ EntryOf env book input entry ∧
        entry.pointsDelta = input.points ∧ entry.expiresAt = input.expiresAt ∧
        entry.allocations = [] ∧ Books book entry book' := by
  rw [insertCredit] at h
  split at h
  case isTrue hpoints =>
    rw [pure_eq_ok] at h
    exact .inl ⟨hpoints, h.symm⟩
  case isFalse hpoints =>
    obtain ⟨hsign, hbooks⟩ := insertEntry_eq_ok h
    refine .inr ⟨_, not_le.mp hpoints, ?_, ⟨rfl, rfl, rfl, rfl, rfl⟩, rfl, rfl, rfl, hbooks⟩
    split at hsign
    case isTrue hcredit => exact hcredit
    case isFalse => exact absurd hsign.le hpoints

theorem insertDebit_writes (h : book.insertDebit env clock input credits = .ok book') :
    (input.points ≤ 0 ∧ book' = book) ∨ ∃ entry, 0 < input.points ∧ input.type.isCredit = false ∧
        input.points ≤ (credits.map book.usablePoints).sum ∧ EntryOf env book input entry ∧
        entry.pointsDelta = -input.points ∧ entry.expiresAt = none ∧
        entry.allocations = book.allocate input.points credits ∧ Books book entry book' := by
  rw [insertDebit] at h
  split at h
  case isTrue hpoints =>
    rw [pure_eq_ok] at h
    exact .inl ⟨hpoints, h.symm⟩
  case isFalse hpoints =>
    simp only [eq_ok, not_lt] at h
    obtain ⟨-, henough, h⟩ := h
    obtain ⟨hsign, hbooks⟩ := insertEntry_eq_ok h
    refine .inr ⟨_, not_le.mp hpoints, ?_, henough, ⟨rfl, rfl, rfl, rfl, rfl⟩, rfl, rfl, rfl,
      hbooks⟩
    split at hsign
    case isTrue =>
      have hneg : 0 < -input.points := hsign
      omega
    case isFalse hdebit => exact eq_false_of_ne_true hdebit

theorem Books.mem (h : Books book entry book') :
    e ∈ book'.entries.rows ↔ e ∈ book.entries.rows ∨ e = entry :=
  Table.mem_insert h.insert

theorem Books.allocatedTo (h : Books book entry book') (creditId : Uuid) :
    book'.allocatedTo creditId = book.allocatedTo creditId + entry.allocatedTo creditId :=
  Table.total_insert h.insert _

/-! ### What a debit allocates -/

section Allocate

variable {credits : List LoyaltyEntry} {points : ℤ}

theorem usablePoints_nonneg (c : LoyaltyEntry) : 0 ≤ book.usablePoints c :=
  le_max_left _ _

theorem mem_allocate (hpoints : 0 ≤ points) {a : PointAllocation}
    (ha : a ∈ book.allocate points credits) :
    ∃ d ∈ Greedy.draws book.usablePoints points credits, d.1 ∈ credits ∧ 0 < d.2 ∧
      d.2 ≤ book.usablePoints d.1 ∧ a = { creditId := d.1.id, points := d.2.toNat } := by
  obtain ⟨d, hd, rfl⟩ := mem_map.mp ha
  obtain ⟨hd, hpos⟩ := mem_filter.mp hd
  obtain ⟨hmem, -, hle⟩ := Greedy.mem_draws (fun c _ ↦ usablePoints_nonneg c) hpoints d hd
  exact ⟨d, hd, hmem, of_decide_eq_true hpos, hle, rfl⟩

theorem sum_allocate (book : LoyaltyBook) (credits : List LoyaltyEntry) (hpoints : 0 ≤ points)
    (p : LoyaltyEntry → Bool) (q : Uuid → Bool) (hpq : ∀ c, p c = q c.id) :
    ((book.allocate points credits).map fun a ↦
      if q a.creditId = true then (a.points : ℤ) else 0).sum =
      Greedy.drawnFrom book.usablePoints p points credits := by
  rw [allocate, map_map, Sums.sum_filter, Greedy.drawnFrom]
  congr 1
  apply map_congr_left
  intro d hd
  obtain ⟨-, hlow, -⟩ := Greedy.mem_draws (fun c _ ↦ usablePoints_nonneg c) hpoints d hd
  show (if decide (0 < d.2) = true then (if q d.1.id = true then ((d.2.toNat : ℕ) : ℤ) else 0)
    else 0) = if p d.1 = true then d.2 else 0
  rw [hpq, Int.toNat_of_nonneg hlow]
  simp only [decide_eq_true_eq]
  split
  · rfl
  · split <;> omega

/-- **A debit is covered**: its allocations add up to its points, if the credits have enough. -/
theorem spent_allocate (hpoints : 0 ≤ points)
    (henough : points ≤ (credits.map book.usablePoints).sum) :
    ((book.allocate points credits).map fun a ↦ (a.points : ℤ)).sum = points := by
  have hall := sum_allocate book credits hpoints (fun _ ↦ true) (fun _ ↦ true) fun _ ↦ rfl
  simp only [if_true] at hall
  have hunmet : Greedy.unmet book.usablePoints points credits = 0 :=
    (Greedy.unmet_eq_zero_iff (fun c _ ↦ usablePoints_nonneg c) hpoints).mpr henough
  have hdrawn : Greedy.drawnFrom book.usablePoints (fun _ ↦ true) points credits +
      Greedy.unmet book.usablePoints points credits = points :=
    Greedy.drawn_add_unmet points credits
  rw [hall]
  omega

theorem allocatedTo_allocate (hpoints : 0 ≤ points) (hnodup : (credits.map LoyaltyEntry.id).Nodup)
    (hcredits : ∀ c ∈ credits, c ∈ book.entries.rows) (hc : c ∈ book.entries.rows) :
    ((book.allocate points credits).map fun a ↦
      if a.creditId = c.id then (a.points : ℤ) else 0).sum ≤ book.usablePoints c := by
  have hdrawn := sum_allocate book credits hpoints
    (fun d ↦ decide (d.id = c.id)) (fun id ↦ decide (id = c.id)) fun _ ↦ rfl
  simp only [decide_eq_true_eq] at hdrawn
  rw [hdrawn, Greedy.drawnFrom]
  simp only [decide_eq_true_eq]
  refine Sums.sum_key_le (fun d : LoyaltyEntry × ℤ ↦ d.1.id) Prod.snd (usablePoints_nonneg c) ?_ ?_
  · have hkeys : (Greedy.draws book.usablePoints points credits).map
        (fun d : LoyaltyEntry × ℤ ↦ d.1.id) = credits.map LoyaltyEntry.id := by
      have hfst : (Greedy.draws book.usablePoints points credits).map Prod.fst = credits :=
        Greedy.map_fst_draws points credits
      rw [← congrArg (List.map LoyaltyEntry.id) hfst, map_map]
      rfl
    rw [hkeys]
    exact hnodup
  · intro d hd hid
    obtain ⟨hmem, -, hle⟩ := Greedy.mem_draws (fun c _ ↦ usablePoints_nonneg c) hpoints d hd
    obtain rfl : d.1 = c := Table.eq_of_mem_of_key_eq (hcredits _ hmem) hc hid
    exact hle

end Allocate

/-! ### What keeps the invariant -/

namespace LedgerInv

theorem insert (h : LedgerInv book) (hbooks : Books book entry book')
    (hcredit : entry.type.isCredit = true → 0 < entry.pointsDelta ∧ entry.allocations = [])
    (hdebit : entry.type.isCredit = false →
      entry.pointsDelta < 0 ∧ entry.spent = -entry.pointsDelta)
    (hreference : ∀ a ∈ entry.allocations, ∃ c ∈ book.entries.rows,
      c.id = a.creditId ∧ c.customerId = entry.customerId ∧ 0 < c.pointsDelta)
    (hwithin : ∀ c ∈ book.entries.rows, 0 < c.pointsDelta →
      entry.allocatedTo c.id ≤ book.availablePoints c) : LedgerInv book' := by
  have hnew : ∀ e ∈ book.entries.rows, e.id ≠ entry.id :=
    Table.find?_eq_none.mp (Table.insert_eq_some hbooks.insert).1
  refine ⟨?_, ?_, ?_, ?_⟩
  · intro e he htype
    rcases hbooks.mem.mp he with he | rfl
    · exact h.credit e he htype
    · exact hcredit htype
  · intro e he htype
    rcases hbooks.mem.mp he with he | rfl
    · exact h.debit e he htype
    · exact hdebit htype
  · intro e he a ha
    have hfound : ∃ c ∈ book.entries.rows, c.id = a.creditId ∧ c.customerId = e.customerId ∧
        0 < c.pointsDelta := by
      rcases hbooks.mem.mp he with he | rfl
      · exact h.reference e he a ha
      · exact hreference a ha
    obtain ⟨c, hc, hcredit⟩ := hfound
    exact ⟨c, hbooks.mem.mpr (.inl hc), hcredit⟩
  · intro c hc hpos
    rw [hbooks.allocatedTo]
    rcases hbooks.mem.mp hc with hc | rfl
    · have := hwithin c hc hpos
      rw [availablePoints] at this
      omega
    · -- nothing has been taken from the new entry, by an old one or by itself
      have hold : book.allocatedTo c.id = 0 := by
        apply Table.total_eq_zero
        intro e he
        refine sum_eq_zero (forall_mem_map.mpr fun a ha ↦ ?_)
        obtain ⟨d, hd, hid, -⟩ := h.reference e he a ha
        exact if_neg fun heq ↦ hnew d hd (hid.trans heq)
      have hself : c.allocatedTo c.id = 0 := by
        refine sum_eq_zero (forall_mem_map.mpr fun a ha ↦ ?_)
        obtain ⟨d, hd, hid, -⟩ := hreference a ha
        exact if_neg fun heq ↦ hnew d hd (hid.trans heq)
      omega

theorem insertCredit (h : LedgerInv book)
    (hinsert : book.insertCredit env clock input = .ok book') : LedgerInv book' := by
  rcases insertCredit_writes hinsert with
    ⟨-, rfl⟩ | ⟨entry, hpos, htype, hof, hpoints, -, hnone, hbooks⟩
  · exact h
  refine h.insert hbooks ?_ ?_ ?_ ?_
  · exact fun _ ↦ ⟨by omega, hnone⟩
  · intro hdebit
    rw [hof.type, htype] at hdebit
    cases hdebit
  · rw [hnone]
    exact fun a ha ↦ absurd ha not_mem_nil
  · intro c hc hcpos
    rw [LoyaltyEntry.allocatedTo, hnone]
    exact h.available_nonneg hc hcpos

/-- **A debit** keeps the ledger, whichever credits of its customer it is given. -/
theorem insertDebit (h : LedgerInv book) (hnodup : (credits.map LoyaltyEntry.id).Nodup)
    (hcredits : ∀ c ∈ credits, c ∈ book.credits input.customerId)
    (hinsert : book.insertDebit env clock input credits = .ok book') : LedgerInv book' := by
  rcases insertDebit_writes hinsert with
    ⟨-, rfl⟩ | ⟨entry, hpos, htype, henough, hof, hpoints, -, hallocations, hbooks⟩
  · exact h
  have hrows : ∀ c ∈ credits, c ∈ book.entries.rows := fun c hc ↦ (mem_credits.mp (hcredits c hc)).1
  refine h.insert hbooks ?_ ?_ ?_ ?_
  · intro hcredit
    rw [hof.type, htype] at hcredit
    cases hcredit
  · refine fun _ ↦ ⟨by omega, ?_⟩
    rw [LoyaltyEntry.spent, hallocations, spent_allocate hpos.le henough, hpoints, neg_neg]
  · intro a ha
    rw [hallocations] at ha
    obtain ⟨d, -, hd, -, -, rfl⟩ := mem_allocate hpos.le ha
    obtain ⟨hmem, hcustomer, hcpos⟩ := mem_credits.mp (hcredits d.1 hd)
    exact ⟨d.1, hmem, rfl, hcustomer.trans hof.customer.symm, hcpos⟩
  · intro c hc hcpos
    rw [LoyaltyEntry.allocatedTo, hallocations]
    refine (allocatedTo_allocate hpos.le hnodup hrows hc).trans ?_
    rw [usablePoints, max_eq_right (h.available_nonneg hc hcpos)]

end LedgerInv

theorem nodup_availableCredits (customerId : Uuid) (now : Timestamp) :
    ((book.availableCredits customerId now).map LoyaltyEntry.id).Nodup := by
  have hperm := (orderBy_perm (fun a b ↦ usedBefore a b = true)
    ((book.credits customerId).filter fun e ↦
      (e.expiresAt.all fun t ↦ t > now) ∧ 0 < book.availablePoints e)).map LoyaltyEntry.id
  refine hperm.nodup_iff.mpr (book.entries.nodup.sublist ?_)
  exact ((filter_sublist).trans filter_sublist).map _

theorem mem_availableCredits {now : Timestamp} :
    e ∈ book.availableCredits customerId now ↔ e ∈ book.credits customerId ∧
      (e.expiresAt.all fun t ↦ t > now) = true ∧ 0 < book.availablePoints e := by
  rw [availableCredits, mem_orderBy, mem_filter, decide_eq_true_eq]

end LoyaltyBook

end UInventario.Pos
