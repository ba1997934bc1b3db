import UInventario.Pos.PointConservation

/-!
# The keys of the point entries

An entry is refused when another one has its idempotency key or its identifier. Neither happens in a
run, as long as the identifiers are drawn apart: every key names an expired credit, a voided sale or
a return, and each of them is booked once (`KeyInv`). With it the expirations of a customer always
succeed, and what they leave is known (`materializeExpirations_ok`).
-/

namespace UInventario.Pos

open Outcome LockedRuns Table List Option

namespace LoyaltyBook

variable {env : Env} {clock : LoyaltyClock} {book book' : LoyaltyBook} {entry : LoyaltyEntry}
  {input : EntryInput} {customerId : Uuid} {P Q : LoyaltyKey → Prop} {credits : List LoyaltyEntry}
  {c : LoyaltyEntry}

/-! ### The invariant -/

/-- **The invariant of the keys.** `P` holds of the keys that the rest of the store accounts for. -/
structure KeyInv (env : Env) (P : LoyaltyKey → Prop) (book : LoyaltyBook) : Prop where
  drawn : ∀ e ∈ book.entries.rows, ∃ n < book.entries.rows.length,
    e.id = env.uuid .loyalty_point_entries n
  /-- A credit that has been expired has nothing left. -/
  expired : ∀ e ∈ book.entries.rows, ∀ id, e.idempotencyKey = .expire id →
    ∃ c ∈ book.entries.rows, c.id = id ∧ book.availablePoints c ≤ 0
  accounted : ∀ e ∈ book.entries.rows, P e.idempotencyKey

theorem KeyInv.mono (h : KeyInv env P book) (hPQ : ∀ key, P key → Q key) : KeyInv env Q book :=
  ⟨h.drawn, h.expired, fun e he ↦ hPQ _ (h.accounted e he)⟩

theorem allocatedTo_nonneg (entry : LoyaltyEntry) (creditId : Uuid) :
    0 ≤ entry.allocatedTo creditId := by
  refine sum_nonneg (forall_mem_map.mpr fun a _ ↦ ?_)
  split
  · exact Nat.cast_nonneg _
  · exact le_rfl

theorem Books.availablePoints (h : Books book entry book') (c : LoyaltyEntry) :
    book'.availablePoints c = book.availablePoints c - entry.allocatedTo c.id := by
  rw [LoyaltyBook.availablePoints, LoyaltyBook.availablePoints, h.allocatedTo]
  omega

theorem Books.length (h : Books book entry book') :
    book'.entries.rows.length = book.entries.rows.length + 1 := by
  rw [(insert_eq_some h.insert).2, length_append, length_singleton]

/-- **One more entry**, for a key that is accounted for. -/
theorem KeyInv.books (h : KeyInv env P book) (hbooks : Books book entry book')
    (hid : entry.id = env.uuid .loyalty_point_entries book.entries.rows.length)
    (hkey : P entry.idempotencyKey) (hexpired : ∀ id, entry.idempotencyKey = .expire id →
      ∃ c ∈ book.entries.rows, c.id = id ∧ book'.availablePoints c ≤ 0) : KeyInv env P book' := by
  refine ⟨?_, ?_, ?_⟩
  · intro e he
    rw [hbooks.length]
    rcases hbooks.mem.mp he with he | rfl
    · obtain ⟨n, hn, heq⟩ := h.drawn e he
      exact ⟨n, by omega, heq⟩
    · exact ⟨_, Nat.lt_succ_self _, hid⟩
  · intro e he id hexpire
    have hfound : ∃ c ∈ book.entries.rows, c.id = id ∧ book'.availablePoints c ≤ 0 := by
      rcases hbooks.mem.mp he with he | rfl
      · obtain ⟨c, hc, hcid, havailable⟩ := h.expired e he id hexpire
        refine ⟨c, hc, hcid, ?_⟩
        have := allocatedTo_nonneg entry c.id
        rw [hbooks.availablePoints]
        omega
      · exact hexpired id hexpire
    obtain ⟨c, hc, hleft⟩ := hfound
    exact ⟨c, hbooks.mem.mpr (.inl hc), hleft⟩
  · intro e he
    rcases hbooks.mem.mp he with he | rfl
    · exact h.accounted e he
    · exact hkey

section

variable (h : KeyInv env P book) (hkey : P input.idempotencyKey)
  (hexpire : ∀ id, input.idempotencyKey ≠ .expire id)
include h hkey hexpire

theorem KeyInv.insertCredit
    (hinsert : book.insertCredit env clock input = .ok book') : KeyInv env P book' := by
  rcases insertCredit_writes hinsert with ⟨-, rfl⟩ | ⟨entry, -, -, hof, -, -, -, hbooks⟩
  · exact h
  · refine h.books hbooks hof.id (hof.key.symm ▸ hkey) ?_
    intro id hid
    exact absurd (hof.key.symm.trans hid) (hexpire id)

theorem KeyInv.insertDebit
    (hinsert : book.insertDebit env clock input credits = .ok book') : KeyInv env P book' := by
  rcases insertDebit_writes hinsert with ⟨-, rfl⟩ | ⟨entry, -, -, -, hof, -, -, -, hbooks⟩
  · exact h
  · refine h.books hbooks hof.id (hof.key.symm ▸ hkey) ?_
    intro id hid
    exact absurd (hof.key.symm.trans hid) (hexpire id)

end

/-! ### The expiration of one credit -/

theorem allocatedTo_single {points : ℤ} (hpoints : 0 ≤ points)
    (henough : points ≤ book.usablePoints c)
    (hallocations : entry.allocations = book.allocate points [c]) (creditId : Uuid) :
    entry.allocatedTo creditId = if c.id = creditId then points else 0 := by
  have hdrawn := sum_allocate book [c] hpoints
    (fun d ↦ decide (d.id = creditId)) (fun id ↦ decide (id = creditId)) fun _ ↦ rfl
  simp only [decide_eq_true_eq] at hdrawn
  rw [LoyaltyEntry.allocatedTo, hallocations, hdrawn, Greedy.drawnFrom_cons, Greedy.drawnFrom_nil,
    add_zero, min_eq_right henough]
  simp only [decide_eq_true_eq]

/-- **What an expiration books**: a debit that takes the points from the credit. -/
theorem expireCredit_writes {credit : LoyaltyEntry × ℤ} (hmem : credit.1 ∈ book.entries.rows)
    (h : expireCredit env clock book credit = .ok book') :
    (credit.2 ≤ 0 ∧ book' = book) ∨ ∃ entry, 0 < credit.2 ∧ Books book entry book' ∧
      entry.id = env.uuid .loyalty_point_entries book.entries.rows.length ∧
      entry.idempotencyKey = .expire credit.1.id ∧ entry.pointsDelta < 0 ∧
      ∀ creditId, entry.allocatedTo creditId = if credit.1.id = creditId then credit.2 else 0 := by
  have hfind : book.entries.find? credit.1.id = some credit.1 := find?_key_of_mem hmem
  rw [LoyaltyBook.expireCredit, hfind] at h
  rcases insertDebit_writes h with
    ⟨hzero, rfl⟩ | ⟨entry, hpos, -, henough, hof, hpoints, -, hallocations, hbooks⟩
  · exact .inl ⟨hzero, rfl⟩
  have hsum : credit.2 ≤ book.usablePoints credit.1 := by
    simpa using henough
  exact .inr ⟨entry, hpos, hbooks, hof.id, hof.key, by rw [hpoints]; omega,
    allocatedTo_single hpos.le hsum hallocations⟩

theorem KeyInv.materializeExpirations (h : KeyInv env P book) (hP : ∀ id, P (.expire id))
    (hok : book.materializeExpirations env clock customerId = .ok book') : KeyInv env P book' := by
  rw [LoyaltyBook.materializeExpirations] at hok
  have hloop := foldlM_invariant (P := fun b : LoyaltyBook ↦ KeyInv env P b ∧
    (∀ e ∈ book.entries.rows, e ∈ b.entries.rows) ∧
      ∀ e, b.availablePoints e ≤ book.availablePoints e) ?_
    ⟨h, fun _ he ↦ he, fun _ ↦ le_rfl⟩ hok
  · exact hloop.1
  rintro credit hcredit b b' ⟨hkeys, hkeeps, hless⟩ hexpire
  obtain ⟨c, hc, rfl⟩ := mem_map.mp hcredit
  have hmem := hkeeps c (mem_credits.mp (mem_expiredCredits.mp hc).1).1
  rcases expireCredit_writes hmem hexpire with
    ⟨-, rfl⟩ | ⟨entry, -, hbooks, hid, hkey, -, hallocated⟩
  · exact ⟨hkeys, hkeeps, hless⟩
  refine ⟨hkeys.books hbooks hid (hkey ▸ hP c.id) ?_, ?_, ?_⟩
  · intro id hexpired
    rw [hkey, LoyaltyKey.expire.injEq] at hexpired
    subst hexpired
    refine ⟨c, hmem, rfl, ?_⟩
    have := hless c
    rw [hbooks.availablePoints, hallocated, if_pos rfl]
    omega
  · exact fun e he ↦ hbooks.mem.mpr (.inl (hkeeps e he))
  · intro e
    have := hless e
    have := allocatedTo_nonneg entry e.id
    rw [hbooks.availablePoints]
    omega

/-! ### What succeeds -/

section

variable (h : KeyInv env P book) (hids : Function.Injective (env.uuid .loyalty_point_entries))
include h hids

theorem KeyInv.fresh :
    book.entries.find? (env.uuid .loyalty_point_entries book.entries.rows.length) = none := by
  refine Table.find?_eq_none.mpr fun e he hid ↦ ?_
  obtain ⟨n, hn, heq⟩ := h.drawn e he
  have hsame : e.id = env.uuid .loyalty_point_entries book.entries.rows.length := hid
  rw [heq] at hsame
  exact absurd (hids hsame) (by omega)

theorem KeyInv.insertEntry_ok
    (hid : entry.id = env.uuid .loyalty_point_entries book.entries.rows.length)
    (hkey : ∀ e ∈ book.entries.rows, e.idempotencyKey ≠ entry.idempotencyKey)
    (hsign : if entry.type.isCredit = true then 0 < entry.pointsDelta else entry.pointsDelta < 0) :
    ∃ book', book.insertEntry entry = .ok book' := by
  have hfresh : book.entries.find? (Keyed.key entry) = none := by
    show book.entries.find? entry.id = none
    rw [hid]
    exact h.fresh hids
  obtain ⟨entries, hinsert⟩ := insert_isSome hfresh
  refine ⟨{ book with entries := entries }, ?_⟩
  simp only [insertEntry, eq_ok]
  exact ⟨⟨⟩, hsign, ⟨⟩, hkey, entries, hinsert, rfl⟩

end

theorem KeyInv.insertCredit_ok (clock : LoyaltyClock) (h : KeyInv env P book)
    (hids : Function.Injective (env.uuid .loyalty_point_entries))
    (hkey : ∀ e ∈ book.entries.rows, e.idempotencyKey ≠ input.idempotencyKey)
    (htype : input.type.isCredit = true) :
    ∃ book', book.insertCredit env clock input = .ok book' := by
  rw [LoyaltyBook.insertCredit]
  split
  case isTrue => exact ⟨book, rfl⟩
  case isFalse hpoints =>
    refine h.insertEntry_ok hids rfl hkey ?_
    rw [if_pos htype]
    exact not_le.mp hpoints

/-- **A debit succeeds** when its credits have enough. -/
theorem KeyInv.insertDebit_ok (clock : LoyaltyClock) (credits : List LoyaltyEntry)
    (h : KeyInv env P book) (hids : Function.Injective (env.uuid .loyalty_point_entries))
    (hkey : ∀ e ∈ book.entries.rows, e.idempotencyKey ≠ input.idempotencyKey)
    (htype : input.type.isCredit = false)
    (henough : input.points ≤ 0 ∨ input.points ≤ (credits.map book.usablePoints).sum) :
    ∃ book', book.insertDebit env clock input credits = .ok book' := by
  rw [LoyaltyBook.insertDebit]
  split
  case isTrue => exact ⟨book, rfl⟩
  case isFalse hpoints =>
    simp only [ensure, if_pos (not_lt.mpr (henough.resolve_left hpoints)), ok_bind]
    refine h.insertEntry_ok hids rfl hkey ?_
    rw [if_neg (by rw [htype]; decide)]
    exact neg_neg_of_pos (not_le.mp hpoints)

theorem insertDebit_insufficient (hpoints : 0 < input.points)
    (hless : (credits.map book.usablePoints).sum < input.points) :
    book.insertDebit env clock input credits = .error
      (.loyaltyInsufficientBalance (credits.map book.usablePoints).sum input.points) := by
  rw [LoyaltyBook.insertDebit, if_neg (by omega)]
  simp only [ensure, if_neg (not_not_intro hless), error_bind]

/-! ### The expirations of a customer -/

structure Expired (env : Env) (P : LoyaltyKey → Prop) (book : LoyaltyBook)
    (credits : List LoyaltyEntry) (book' : LoyaltyBook) : Prop where
  keys : KeyInv env P book'
  rows : ∃ debits, book'.entries.rows = book.entries.rows ++ debits ∧
    ∀ e ∈ debits, e.pointsDelta < 0
  available : ∀ c ∈ book.entries.rows,
    book'.availablePoints c = if c ∈ credits then 0 else book.availablePoints c

/-- **One expiration** succeeds, and leaves nothing on the credit. -/
theorem KeyInv.expireCredit_ok (clock : LoyaltyClock) (h : KeyInv env P book)
    (hP : ∀ id, P (.expire id)) (hids : Function.Injective (env.uuid .loyalty_point_entries))
    (hmem : c ∈ book.entries.rows) (hnonneg : 0 ≤ book.availablePoints c) :
    ∃ book', expireCredit env clock book (c, book.availablePoints c) = .ok book' ∧
      Expired env P book [c] book' := by
  have hfind : book.entries.find? c.id = some c := find?_key_of_mem hmem
  have hok : ∃ book', expireCredit env clock book (c, book.availablePoints c) = .ok book' := by
    rw [LoyaltyBook.expireCredit, hfind]
    by_cases hzero : book.availablePoints c ≤ 0
    · exact ⟨book, if_pos hzero⟩
    refine h.insertDebit_ok clock _ hids ?_ rfl (.inr ?_)
    · intro e he hkey
      obtain ⟨d, hd, hid, hleft⟩ := h.expired e he c.id hkey
      obtain rfl : d = c := eq_of_mem_of_key_eq hd hmem hid
      exact hzero hleft
    · show book.availablePoints c ≤ ([c].map book.usablePoints).sum
      rw [map_singleton, sum_singleton]
      exact le_max_right _ _
  obtain ⟨book', hok⟩ := hok
  refine ⟨book', hok, ?_⟩
  rcases expireCredit_writes hmem hok with
    ⟨hzero, rfl⟩ | ⟨entry, hpos, hbooks, hid, hkey, hneg, hallocated⟩
  · refine ⟨h, ⟨[], by simp, by simp⟩, ?_⟩
    intro d hd
    split
    case isTrue hdc =>
      obtain rfl := mem_singleton.mp hdc
      exact le_antisymm hzero hnonneg
    case isFalse => rfl
  · refine ⟨h.books hbooks hid (hkey ▸ hP c.id) ?_, ⟨[entry], ?_, ?_⟩, ?_⟩
    · intro id hexpired
      rw [hkey, LoyaltyKey.expire.injEq] at hexpired
      subst hexpired
      refine ⟨c, hmem, rfl, ?_⟩
      rw [hbooks.availablePoints, hallocated, if_pos rfl]
      omega
    · exact (insert_eq_some hbooks.insert).2
    · intro e he
      rw [mem_singleton] at he
      subst he
      exact hneg
    · intro d hd
      rw [hbooks.availablePoints, hallocated]
      by_cases hdc : d = c
      · subst hdc
        rw [if_pos rfl, if_pos (mem_singleton_self d), sub_self]
      · have hne : c.id ≠ d.id := fun heq ↦ hdc (eq_of_mem_of_key_eq hd hmem heq.symm)
        rw [if_neg hne, if_neg (fun hmem ↦ hdc (mem_singleton.mp hmem)), sub_zero]

/-- **The expirations of different credits** succeed one after the other: none of them touches the
credits of the others. -/
theorem KeyInv.expireCredits_ok (hP : ∀ id, P (.expire id))
    (hids : Function.Injective (env.uuid .loyalty_point_entries)) :
    ∀ {credits : List LoyaltyEntry} {book : LoyaltyBook}, KeyInv env P book → credits.Nodup →
      (∀ c ∈ credits, c ∈ book.entries.rows ∧ 0 ≤ book.availablePoints c) →
      ∃ book', (credits.map fun c ↦ (c, book.availablePoints c)).foldlM (expireCredit env clock)
        book = .ok book' ∧ Expired env P book credits book' := by
  intro credits
  induction credits with
  | nil =>
    intro book h _ _
    exact ⟨book, rfl, h, ⟨[], by simp, by simp⟩, by simp⟩
  | cons c credits ih =>
    intro book h hnodup hcredits
    obtain ⟨hnotin, hnodup⟩ := nodup_cons.mp hnodup
    obtain ⟨hmem, hnonneg⟩ := hcredits c mem_cons_self
    obtain ⟨book₁, hfirst, hexpired⟩ := h.expireCredit_ok clock hP hids hmem hnonneg
    obtain ⟨debits, hrows, hdebits⟩ := hexpired.rows
    have hrest : ∀ d ∈ credits, book₁.availablePoints d = book.availablePoints d := by
      intro d hd
      rw [hexpired.available d (hcredits d (mem_cons_of_mem c hd)).1, if_neg]
      intro hdc
      exact hnotin (mem_singleton.mp hdc ▸ hd)
    obtain ⟨book', hloop, hexpired'⟩ := ih hexpired.keys hnodup (by
      intro d hd
      obtain ⟨hdmem, hdnonneg⟩ := hcredits d (mem_cons_of_mem c hd)
      rw [hrest d hd, hrows]
      exact ⟨mem_append_left _ hdmem, hdnonneg⟩)
    obtain ⟨debits', hrows', hdebits'⟩ := hexpired'.rows
    refine ⟨book', ?_, hexpired'.keys, ⟨debits ++ debits', ?_, ?_⟩, ?_⟩
    · rw [map_cons, foldlM_cons_eq_ok]
      refine ⟨book₁, hfirst, ?_⟩
      rw [← hloop]
      congr 1
      apply map_congr_left
      intro d hd
      rw [hrest d hd]
    · rw [hrows', hrows, append_assoc]
    · intro e he
      rcases mem_append.mp he with he | he
      · exact hdebits e he
      · exact hdebits' e he
    · intro d hd
      rw [hexpired'.available d (by rw [hrows]; exact mem_append_left _ hd),
        hexpired.available d hd]
      by_cases hdc : d = c
      · subst hdc
        simp [hnotin]
      · simp [hdc]

theorem nodup_expiredCredits (now : Timestamp) : (book.expiredCredits customerId now).Nodup := by
  refine (orderBy_perm _ _).nodup_iff.mpr (List.Nodup.sublist ?_ book.entries.nodup.of_map)
  exact filter_sublist.trans filter_sublist

/-- **The expirations of a customer** succeed: the credits that have expired have nothing left, and
the others all they had. -/
theorem KeyInv.materializeExpirations_ok (clock : LoyaltyClock) (customerId : Uuid)
    (h : KeyInv env P book) (hledger : LedgerInv book)
    (hP : ∀ id, P (.expire id)) (hids : Function.Injective (env.uuid .loyalty_point_entries)) :
    ∃ book', book.materializeExpirations env clock customerId = .ok book' ∧
      Expired env P book (book.expiredCredits customerId clock.expiring) book' := by
  refine h.expireCredits_ok hP hids (nodup_expiredCredits _) ?_
  intro c hc
  obtain ⟨hmem, -, hpos⟩ := mem_credits.mp (mem_expiredCredits.mp hc).1
  exact ⟨hmem, hledger.available_nonneg hmem hpos⟩

end LoyaltyBook

/-! ### Runs -/

variable {s s' : Store}

/-- The keys that the sales and the returns of the store account for. -/
def Store.accountsFor (s : Store) : LoyaltyKey → Prop
  | .voidRestore id | .voidReverse id =>
    ∃ sale, s.sales.find? id = some sale ∧ ¬sale.isCompleted
  | .returnRestore id | .returnReverse id => (s.saleReturns.find? id).isSome
  | _ => True

theorem Store.accountsFor_mono (s : Store) (sales : Table Sale) (saleReturns : Table SaleReturn)
    (hsales : ∀ id sale, s.sales.find? id = some sale → ¬sale.isCompleted →
      ∃ sale', sales.find? id = some sale' ∧ ¬sale'.isCompleted)
    (hreturns : ∀ id, (s.saleReturns.find? id).isSome → (saleReturns.find? id).isSome)
    (loyalty : LoyaltyBook) (key : LoyaltyKey) (h : s.accountsFor key) :
    ({ s with sales := sales, saleReturns := saleReturns, loyalty := loyalty } : Store).accountsFor
      key := by
  cases key with
  | voidRestore id | voidReverse id =>
    obtain ⟨sale, hfind, hvoided⟩ := h
    exact hsales id sale hfind hvoided
  | returnRestore id | returnReverse id => exact hreturns id h
  | redeem | earn | expire => trivial

/-- **The invariant of the keys of a store.** -/
def PointKeys (env : Env) (s : Store) : Prop :=
  s.env = env ∧ LoyaltyBook.KeyInv env s.accountsFor s.loyalty

namespace LoyaltyBook.KeyInv

variable {P : LoyaltyKey → Prop} {loyalty : LoyaltyBook}

theorem saleLoyalty {input : SaleInput} {saleId : Uuid} (h : KeyInv s.env P s.loyalty)
    (hP : (∀ id, P (.expire id)) ∧ (∀ key, P (.redeem key)) ∧ ∀ key, P (.earn key))
    (hok : Pos.saleLoyalty s input saleId = .ok loyalty) : KeyInv s.env P loyalty := by
  rw [Pos.saleLoyalty] at hok
  split at hok
  · rw [pure_eq_ok] at hok
    exact hok ▸ h
  split at hok
  · rw [pure_eq_ok] at hok
    exact hok ▸ h
  obtain ⟨book, rule, current, hbook, -, -, -, -, hentries⟩ := applySale_eq_ok hok
  simp only [insertSaleEntries, bind_eq_ok] at hentries
  obtain ⟨book₁, hredeem, hearn⟩ := hentries
  have hexpired := h.materializeExpirations hP.1 hbook
  have hredeemed := hexpired.insertDebit (hP.2.1 _) (fun _ ↦ LoyaltyKey.noConfusion) hredeem
  exact hredeemed.insertCredit (hP.2.2 _) (fun _ ↦ LoyaltyKey.noConfusion) hearn

theorem compensateSale {sale : Sale} {clock : LoyaltyClock} {mode : Compensation}
    (h : KeyInv s.env P s.loyalty) (hP : ∀ id, P (.expire id))
    (hrestore : P (mode.restoreKey sale.id)) (hreverse : P (mode.reversalKey sale.id))
    (hok : Pos.compensateSale s clock sale mode = .ok loyalty) : KeyInv s.env P loyalty := by
  have hrestoreKey : ∀ id, mode.restoreKey sale.id ≠ .expire id := by
    cases mode <;> exact fun _ ↦ LoyaltyKey.noConfusion
  have hreversalKey : ∀ id, mode.reversalKey sale.id ≠ .expire id := by
    cases mode <;> exact fun _ ↦ LoyaltyKey.noConfusion
  rw [Pos.compensateSale] at hok
  split at hok
  · rw [pure_eq_ok] at hok
    exact hok ▸ h
  split at hok
  · rw [pure_eq_ok] at hok
    exact hok ▸ h
  simp only [bind_eq_ok] at hok
  obtain ⟨-, -, book, hbook, hok⟩ := hok
  have hexpired := h.materializeExpirations hP hbook
  rw [compensate] at hok
  split at hok
  · rw [pure_eq_ok] at hok
    exact hok ▸ hexpired
  simp only [insertCompensation, bind_eq_ok] at hok
  obtain ⟨book₁, hcredit, hdebit⟩ := hok
  have hrestored := hexpired.insertCredit hrestore hrestoreKey hcredit
  exact hrestored.insertDebit hreverse hreversalKey hdebit

end LoyaltyBook.KeyInv

/-- **Every commit keeps the keys in order.** -/
theorem PointKeys.write {env : Env} (h : PointKeys env s) {request : Request} {decision : Decision}
    (hwrite : protocol.write request decision s = .ok s') : PointKeys env s' := by
  obtain ⟨henv, hkeys⟩ := h
  subst henv
  have hcommit : ∀ sales saleReturns settlements loyalty,
      SaleCommit s request decision sales saleReturns settlements loyalty → LoyaltyBook.KeyInv s.env
          ({ s with sales := sales, saleReturns := saleReturns, loyalty := loyalty } :
            Store).accountsFor loyalty := by
    intro sales saleReturns settlements loyalty hcommit
    have hmono := s.accountsFor_mono sales saleReturns
    cases hcommit with
    | same => exact hkeys.mono (hmono (fun _ sale h hv ↦ ⟨sale, h, hv⟩) (fun _ h ↦ h) _)
    | sale _ hinsert _ hloyalty =>
      refine (hkeys.mono (hmono ?_ (fun _ h ↦ h) loyalty)).saleLoyalty
        ⟨fun _ ↦ trivial, fun _ ↦ trivial, fun _ ↦ trivial⟩ hloyalty
      exact fun _ sale h hv ↦ ⟨sale, find?_insert_of_some hinsert h, hv⟩
    | @voidSale input sale voided _ hfind _ _ hloyalty =>
      have hself : s.sales.find? sale.id = some sale :=
        find?_key_of_mem (mem_of_find? hfind)
      have hvoided : ({ s with
          sales := s.sales.update sale.id fun x ↦ { x with
            payments := x.payments.map SalePayment.reversed, voided := some voided }
          loyalty := loyalty } : Store).accountsFor (.voidRestore sale.id) := by
        refine ⟨{ sale with
          payments := sale.payments.map SalePayment.reversed
          voided := some voided }, ?_, some_ne_none voided⟩
        rw [find?_update_self, hself]
        rfl
      refine (hkeys.mono (hmono ?_ (fun _ h ↦ h) loyalty)).compensateSale (fun _ ↦ trivial)
        ?_ ?_ hloyalty
      · intro id x hx hxvoided
        rw [find?_update, hx]
        refine ⟨_, rfl, ?_⟩
        split
        · exact some_ne_none voided
        · exact hxvoided
      · exact hvoided
      · exact hvoided
    | @saleReturn input sale _ _ saleReturn _ _ _ _ _ _ _ hinsert hloyalty =>
      have hfound : ({ s with saleReturns := saleReturns, loyalty := loyalty } : Store).accountsFor
          (.returnRestore saleReturn.id) :=
        Option.isSome_iff_exists.mpr ⟨saleReturn, find?_insert_self hinsert⟩
      have hkept := hkeys.mono (hmono (fun _ sale h hv ↦ ⟨sale, h, hv⟩) (by
        intro id hid
        obtain ⟨r, hr⟩ := Option.isSome_iff_exists.mp hid
        exact Option.isSome_iff_exists.mpr ⟨r, find?_insert_of_some hinsert hr⟩) loyalty)
      refine LoyaltyBook.KeyInv.compensateSale (s := { s with saleReturns := saleReturns }) hkept
        (fun _ ↦ trivial) ?_ ?_ hloyalty
      · exact hfound
      · exact hfound
    | settlement =>
      refine hkeys.mono (hmono (fun _ sale h hv ↦ ⟨sale, h, hv⟩) ?_ _)
      intro id hid
      split
      · rw [find?_update, isSome_map]
        exact hid
      · exact hid
    | rules =>
      exact ⟨hkeys.drawn, hkeys.expired, fun e he ↦ hmono (fun _ sale h hv ↦ ⟨sale, h, hv⟩)
        (fun _ h ↦ h) _ _ (hkeys.accounted e he)⟩
    | view hloyalty =>
      exact (hkeys.mono (hmono (fun _ sale h hv ↦ ⟨sale, h, hv⟩) (fun _ h ↦ h) _))
        |>.materializeExpirations (fun _ ↦ trivial) hloyalty
  refine ⟨(frame hwrite).env, (hcommit _ _ _ _ (saleCommit hwrite)).mono ?_⟩
  intro key hkey
  cases key <;> exact hkey

/-- **The keys are in order** in every run. -/
theorem pointKeys_run (env : Env) (customers : Table Customer) (events : List (Event Request)) :
    PointKeys env
      (Outcome.run protocol.step (State.idle (Store.fresh env customers)) events).store := by
  have hsound : Sound protocol (fun _ _ _ ↦ True) (PointKeys env) (fun _ _ _ ↦ True) := {
    read := fun _ _ ↦ trivial
    reread := fun _ _ _ ↦ trivial
    write := fun hinv _ _ hwrite ↦ hinv.write hwrite
    stable := fun _ _ _ _ _ _ ↦ trivial }
  have hfresh : PointKeys env (Store.fresh env customers) := by
    refine ⟨rfl, ?_, ?_, ?_⟩ <;>
    · intro e he
      cases he
  exact (hsound.run (Good.idle hfresh) events (commits_of_forall (fun _ _ _ ↦ trivial) ..)).inv

end UInventario.Pos
