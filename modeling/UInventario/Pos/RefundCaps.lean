import UInventario.Pos.ReturnedLines

/-!
# The caps on refunds

Three amounts must not be exceeded: what a return leaves to be refunded, what each payment of a sale
has brought in, and the loyalty value of the sale. Each cap is read before the money moves, under
the lock of the sale, so that no other return and no other settlement of the sale commits between.
-/

namespace UInventario.Pos

open Outcome LockedRuns Table List

variable {s s' : Store}

/-! ### What a settlement in flight knows -/

theorem settled_nonneg (returnId : Uuid) : 0 ≤ s.settled returnId := by
  apply total_nonneg
  intro x _
  split
  · positivity
  · exact le_rfl

theorem refunded_nonneg (id : PaymentId) : 0 ≤ s.refunded id := by
  apply total_nonneg
  intro x _
  split
  · positivity
  · exact le_rfl

/-- **What a settlement in flight knows**: how much of the return and of the payment is left. -/
structure SettlementRead (s : Store) (input : SettlementInput) (saleReturn : SaleReturn)
    (settledAmount returnTotal : ℤ) (payment : Option (PaymentId × SalePayment)) : Prop where
  found : s.saleReturns.find? saleReturn.id = some saleReturn
  owner : saleReturn.saleId = input.saleId
  settled : settledAmount = s.settled saleReturn.id
  total : returnTotal = saleReturn.refundable
  positive : 0 < input.amount
  room : settledAmount + input.amount ≤ returnTotal
  payment : ∀ id p, payment = some (id, p) → ∃ sale, s.sales.find? input.saleId = some sale ∧
    id.1 = sale.id ∧ sale.payments[id.2]? = some p ∧ s.refunded id + input.amount ≤ p.amountApplied

def KnownOfSettlement (request : Request) (decision : Decision) (s : Store) : Prop :=
  ∀ input saleReturn settledAmount returnTotal payment, request = .settlement input →
    decision = .settlement (.settle saleReturn settledAmount returnTotal payment) →
      SettlementRead s input saleReturn settledAmount returnTotal payment

variable {input : SettlementInput} {payment : Option (PaymentId × SalePayment)} {sale : Sale}

theorem readMode_eq_ok (h : readMode s input sale = .ok payment) {id : PaymentId}
    {p : SalePayment} (hpayment : payment = some (id, p)) :
    id.1 = sale.id ∧ sale.payments[id.2]? = some p ∧
      s.refunded id + input.amount ≤ p.amountApplied := by
  subst hpayment
  rw [readMode] at h
  split at h
  · simp only [eq_ok, reduceCtorEq, and_false, exists_false] at h
  · simp only [readRefund, eq_ok, Option.some.injEq, SaleReturnSettlements.toMoney_columnText,
      exists_eq_left', misread_of_nonneg (refunded_nonneg _), not_lt, gt_iff_lt] at h
    obtain ⟨_, ⟨position, -, found, hfound, -, -, -, hroom, rfl⟩, rfl, rfl⟩ := h
    exact ⟨rfl, hfound, hroom⟩

variable {returnTotal : ℤ} {decision : Decision} {request : Request} {settledAmount : ℤ}
  {saleId : Uuid} {saleReturn : SaleReturn}

theorem settlementRead_of_read (hinv : ReturnInv s)
    (h : readSettlement s input = .ok (.settle saleReturn settledAmount returnTotal payment)) :
    SettlementRead s input saleReturn settledAmount returnTotal payment := by
  rw [readSettlement] at h
  split at h
  · simp only [eq_ok, reduceCtorEq, and_false, exists_false] at h
  simp only [eq_ok, Option.filter_eq_some_iff, SaleReturnSettlements.toMoney_columnText,
    Option.some.injEq, exists_eq_left', SettlementDecision.settle.injEq,
    misread_of_nonneg (settled_nonneg _), decide_eq_true_eq, not_or, not_le, not_lt, gt_iff_lt] at h
  obtain ⟨r, ⟨hfind, howner⟩, sale, ⟨hsale, -⟩, -, ⟨hpositive, hroom⟩, paid, hmode, rfl, rfl, rfl,
    rfl⟩ := h
  have hid : r.id = input.returnId := key_of_find? hfind
  have hshare := (hinv.share r (mem_of_find? hfind)).1
  rw [misread_of_nonneg hshare] at hroom
  refine ⟨by rw [hid]; exact hfind, howner, rfl, ?_, by omega, ?_, ?_⟩
  · rw [misread_of_nonneg hshare, SaleReturn.refundable]
  · rw [misread_of_nonneg hshare]
    exact hroom
  · intro id p hpayment
    exact ⟨sale, hsale, readMode_eq_ok hmode hpayment⟩

theorem knownOfSettlement_of_read (hinv : ReturnInv s)
    (h : protocol.read request s = .ok decision) : KnownOfSettlement request decision s := by
  rintro input saleReturn settledAmount returnTotal payment rfl rfl
  obtain ⟨_, hread, ⟨⟩⟩ := map_eq_ok.mp h
  exact settlementRead_of_read hinv hread

/-! ### What the others leave alone -/

/-- **What stays of the settlements of a sale.** -/
structure SameSettlements (s s' : Store) (saleId : Uuid) : Prop where
  found : ∀ id r, s.saleReturns.find? id = some r → r.saleId = saleId →
    s'.saleReturns.find? id = some r
  settled : ∀ id r, s.saleReturns.find? id = some r → r.saleId = saleId →
    s'.settled id = s.settled id
  refunded : ∀ n, s'.refunded (saleId, n) = s.refunded (saleId, n)

theorem sameSettlements_of_not_locked (hknown : KnownOfSettlement request decision s)
    (hholds : LockedRow.sale saleId ∉ protocol.holds request)
    (h : protocol.write request decision s = .ok s') : SameSettlements s s' saleId := by
  have hcommit : ∀ sales saleReturns settlements loyalty,
      SaleCommit s request decision sales saleReturns settlements loyalty →
        SameSettlements s { s with saleReturns := saleReturns, settlements := settlements }
          saleId := by
    intro sales saleReturns settlements loyalty hcommit
    cases hcommit with
    | same | sale | voidSale | rules | view =>
      exact ⟨fun _ _ h _ ↦ h, fun _ _ _ _ ↦ rfl, fun _ ↦ rfl⟩
    | saleReturn _ _ _ _ _ hinsert =>
      exact ⟨fun _ _ h _ ↦ find?_insert_of_some hinsert h, fun _ _ _ _ ↦ rfl, fun _ ↦ rfl⟩
    | @settlement input saleReturn settledAmount returnTotal payment x settlements hreturn hpayment
        hamount hinsert =>
      have hread := hknown input saleReturn settledAmount returnTotal payment rfl rfl
      have hsale : saleId ≠ input.saleId := by
        rintro rfl
        exact hholds (mem_singleton_self _)
      have hne {id : Uuid} {r : SaleReturn} (hfind : s.saleReturns.find? id = some r)
          (hr : r.saleId = saleId) : id ≠ saleReturn.id := by
        rintro rfl
        obtain rfl : saleReturn = r := Option.some.inj (hread.found.symm.trans hfind)
        exact hsale (hr.symm.trans hread.owner)
      refine ⟨?_, ?_, ?_⟩
      · intro id r hfind hr
        split
        · rw [find?_update_of_ne (hne hfind hr)]
          exact hfind
        · exact hfind
      · intro id r hfind hr
        show settlements.total _ = _
        rw [total_insert hinsert, hreturn, if_neg, add_zero]
        · rfl
        · rintro ⟨rfl, -⟩
          exact hne hfind hr rfl
      · intro n
        show settlements.total _ = _
        rw [total_insert hinsert, if_neg, add_zero]
        · rfl
        · rintro ⟨hsame, -⟩
          rw [hpayment, Option.map_eq_some_iff] at hsame
          obtain ⟨⟨id, p⟩, hpaid, rfl⟩ := hsame
          obtain ⟨sale, hfind, hid, -, -⟩ := hread.payment _ _ hpaid
          exact hsale (hid.trans (key_of_find? hfind))
  have hsame := hcommit _ _ _ _ (saleCommit h)
  exact ⟨hsame.found, hsame.settled, hsame.refunded⟩

theorem SettlementRead.of_same
    (h : SettlementRead s input saleReturn settledAmount returnTotal payment)
    (hsale : SameReturns s s'.sales s'.saleReturns input.saleId)
    (hsame : SameSettlements s s' input.saleId) :
    SettlementRead s' input saleReturn settledAmount returnTotal payment where
  found := hsame.found _ _ h.found h.owner
  owner := h.owner
  settled := by
    rw [hsame.settled _ _ h.found h.owner]
    exact h.settled
  total := h.total
  positive := h.positive
  room := h.room
  payment := by
    intro id p hpayment
    obtain ⟨sale, hfind, hid, hp, hroom⟩ := h.payment id p hpayment
    have hrefunded : s'.refunded id = s.refunded id := by
      have hpair : id = (input.saleId, id.2) :=
        Prod.ext (hid.trans (key_of_find? hfind)) rfl
      rw [hpair]
      exact hsame.refunded id.2
    exact ⟨sale, hsale.found sale hfind, hid, hp, by rw [hrefunded]; exact hroom⟩

/-! ### The invariant -/

/-- **The invariant of settlements.** -/
structure SettleInv (s : Store) : Prop where
  /-- A settlement is of a return and refunds a payment of a sale. -/
  references : ∀ x ∈ s.settlements.rows, (s.saleReturns.find? x.saleReturnId).isSome ∧
    ∀ id, x.originalPayment = some id → (s.sales.find? id.1).isSome
  settled : ∀ r ∈ s.saleReturns.rows, s.settled r.id ≤ r.refundable
  refunded : ∀ sale ∈ s.sales.rows, ∀ x ∈ sale.payments.zipIdx,
    s.refunded (sale.id, x.2) ≤ x.1.amountApplied
  status : ∀ r ∈ s.saleReturns.rows, r.settlementStatus = .SETTLED ↔
    s.settled r.id = r.refundable ∧ 0 < r.refundable

theorem settlementStatusAfter_eq_settled {totalSettled : ℤ} :
    settlementStatusAfter totalSettled returnTotal = .SETTLED ↔ totalSettled = returnTotal := by
  rw [settlementStatusAfter]
  split
  case isTrue heq => exact iff_of_true rfl heq
  case isFalse hne => exact iff_of_false (by decide) hne

namespace SettleInv

theorem refunded_new (h : SettleInv s) (hnew : s.sales.find? saleId = none)
    (n : ℕ) : s.refunded (saleId, n) = 0 := by
  apply total_eq_zero
  intro x hx
  refine if_neg fun hsame ↦ ?_
  have hsome := (h.references x hx).2 _ hsame.1
  rw [hnew] at hsome
  cases hsome

theorem settled_new (h : SettleInv s) {returnId : Uuid}
    (hnew : s.saleReturns.find? returnId = none) : s.settled returnId = 0 := by
  apply total_eq_zero
  intro x hx
  refine if_neg fun hsame ↦ ?_
  have hsome := (h.references x hx).1
  rw [hsame.1, hnew] at hsome
  cases hsome

variable {sales : Table Sale}

theorem insertSale (h : SettleInv s)
    (hinsert : s.sales.insert sale = some sales) : SettleInv { s with sales := sales } := by
  refine ⟨?_, h.settled, ?_, h.status⟩
  · intro x hx
    obtain ⟨hreturn, hpayment⟩ := h.references x hx
    refine ⟨hreturn, fun id hid ↦ ?_⟩
    obtain ⟨owner, howner⟩ := Option.isSome_iff_exists.mp (hpayment id hid)
    exact Option.isSome_iff_exists.mpr ⟨owner, find?_insert_of_some hinsert howner⟩
  · refine (forall_mem_insert hinsert).mpr ⟨h.refunded, fun x hx ↦ ?_⟩
    have hnew : s.sales.find? sale.id = none := (insert_eq_some hinsert).1
    show s.refunded (sale.id, x.2) ≤ _
    rw [h.refunded_new hnew]
    exact Nat.cast_nonneg _

theorem voidSale (h : SettleInv s) {id : Uuid} {voided : SaleVoid}
    (hupdate : sales = s.sales.update id fun x ↦ { x with
      payments := x.payments.map SalePayment.reversed
      voided := some voided }) : SettleInv { s with sales := sales } := by
  refine ⟨?_, h.settled, ?_, h.status⟩
  · intro x hx
    obtain ⟨hreturn, hpayment⟩ := h.references x hx
    refine ⟨hreturn, fun id hid ↦ ?_⟩
    rw [hupdate, find?_update, Option.isSome_map]
    exact hpayment id hid
  · intro y hy x hx
    rw [hupdate, mem_update] at hy
    obtain ⟨old, hold, rfl⟩ := hy
    split at hx
    · have hmem : x ∈ (old.payments.map SalePayment.reversed).zipIdx := hx
      rw [zipIdx_map, mem_map] at hmem
      obtain ⟨z, hz, rfl⟩ := hmem
      split <;> exact h.refunded old hold z hz
    · split <;> exact h.refunded old hold x hx

variable {saleReturn : SaleReturn}

theorem insertReturn (h : SettleInv s) {saleReturns : Table SaleReturn}
    (hpending : saleReturn.settlementStatus = .PENDING)
    (hshare : saleReturn.loyaltyValueRestored ≤ saleReturn.total)
    (hinsert : s.saleReturns.insert saleReturn = some saleReturns) :
    SettleInv { s with saleReturns := saleReturns } := by
  have hnew : s.settled saleReturn.id = 0 := h.settled_new (insert_eq_some hinsert).1
  refine ⟨?_, ?_, h.refunded, ?_⟩
  · intro x hx
    obtain ⟨hreturn, hpayment⟩ := h.references x hx
    refine ⟨?_, hpayment⟩
    obtain ⟨r, hr⟩ := Option.isSome_iff_exists.mp hreturn
    exact Option.isSome_iff_exists.mpr ⟨r, find?_insert_of_some hinsert hr⟩
  · intro r hr
    show s.settled r.id ≤ _
    rcases (mem_insert hinsert).mp hr with hr | rfl
    · exact h.settled r hr
    · rw [hnew, SaleReturn.refundable]
      omega
  · intro r hr
    show _ ↔ s.settled r.id = _ ∧ _
    rcases (mem_insert hinsert).mp hr with hr | rfl
    · exact h.status r hr
    · rw [hnew, hpending]
      refine iff_of_false (by decide) ?_
      rintro ⟨hzero, hpos⟩
      omega

theorem returns_after_settlement {completed : Prop} [Decidable completed]
    {status : SettlementStatus} (hfind : s.saleReturns.find? saleReturn.id = some saleReturn)
    {r : SaleReturn} (hr : r ∈ (if completed then
      s.saleReturns.update saleReturn.id fun r ↦ { r with settlementStatus := status }
      else s.saleReturns : Table SaleReturn).rows) :
    ∃ old ∈ s.saleReturns.rows, (old = r ∧ ¬(saleReturn.id = r.id ∧ completed)) ∨
      (completed ∧ old = saleReturn ∧ { old with settlementStatus := status } = r) := by
  split at hr
  case isTrue hcompleted =>
    rw [mem_update] at hr
    obtain ⟨old, hold, rfl⟩ := hr
    refine ⟨old, hold, ?_⟩
    split
    case isTrue hid =>
      exact .inr ⟨hcompleted,
        eq_of_mem_of_key_eq hold (mem_of_find? hfind) hid, rfl⟩
    case isFalse hid => exact .inl ⟨rfl, fun h ↦ hid h.1.symm⟩
  case isFalse hcompleted => exact ⟨r, hr, .inl ⟨rfl, fun h ↦ hcompleted h.2⟩⟩

/-- **A settlement** adds to the return and to the payment it has found room in. -/
theorem settle (h : SettleInv s)
    (hread : SettlementRead s input saleReturn settledAmount returnTotal payment) {x : Settlement}
    {settlements : Table Settlement} (hreturn : x.saleReturnId = saleReturn.id)
    (hpayment : x.originalPayment = payment.map Prod.fst) (hamount : x.amount = input.amount)
    (hinsert : s.settlements.insert x = some settlements) :
    SettleInv { s with
      settlements := settlements
      saleReturns := if x.status = .COMPLETED then
        s.saleReturns.update saleReturn.id fun r ↦ { r with
          settlementStatus := settlementStatusAfter (settledAmount + input.amount) returnTotal }
      else s.saleReturns } := by
  have hsettled (id : Uuid) : settlements.total (fun y ↦
      if y.saleReturnId = id ∧ y.status = .COMPLETED then (y.amount : ℤ) else 0) =
        s.settled id + if saleReturn.id = id ∧ x.status = .COMPLETED then (input.amount : ℤ)
          else 0 := by
    rw [total_insert hinsert, hreturn, hamount]
    rfl
  have hrefunded (id : PaymentId) : settlements.total (fun y ↦
      if y.originalPayment = some id ∧ y.status = .COMPLETED then (y.amount : ℤ) else 0) =
        s.refunded id + if payment.map Prod.fst = some id ∧ x.status = .COMPLETED
          then (input.amount : ℤ) else 0 := by
    rw [total_insert hinsert, hpayment, hamount]
    rfl
  have hroom : s.settled saleReturn.id + input.amount ≤ saleReturn.refundable := by
    rw [← hread.settled, ← hread.total]
    exact hread.room
  have hpos := hread.positive
  refine ⟨?_, ?_, ?_, ?_⟩
  · intro y hy
    have hfound : ∀ id, (s.saleReturns.find? id).isSome → ((if x.status = .COMPLETED then
          s.saleReturns.update saleReturn.id fun r ↦ { r with
            settlementStatus := settlementStatusAfter (settledAmount + input.amount) returnTotal }
          else s.saleReturns : Table SaleReturn).find? id).isSome := by
      intro id hid
      split
      · rw [find?_update, Option.isSome_map]
        exact hid
      · exact hid
    rcases (mem_insert hinsert).mp hy with hy | rfl
    · obtain ⟨hreturn, hpayment⟩ := h.references y hy
      exact ⟨hfound _ hreturn, hpayment⟩
    · refine ⟨hfound _ (by rw [hreturn, hread.found]; rfl), ?_⟩
      intro id hid
      rw [hpayment, Option.map_eq_some_iff] at hid
      obtain ⟨⟨id, p⟩, hpaid, rfl⟩ := hid
      obtain ⟨sale, hfind, hsale, -, -⟩ := hread.payment _ _ hpaid
      rw [hsale, show sale.id = input.saleId from key_of_find? hfind, hfind]
      rfl
  · intro r hr
    show settlements.total _ ≤ _
    rw [hsettled]
    obtain ⟨old, hold, hsame⟩ := returns_after_settlement hread.found hr
    rcases hsame with ⟨rfl, hother⟩ | ⟨hcompleted, rfl, rfl⟩
    · rw [if_neg hother, add_zero]
      exact h.settled old hold
    · rw [if_pos ⟨rfl, hcompleted⟩]
      exact hroom
  · intro sale hsale z hz
    show settlements.total _ ≤ _
    rw [hrefunded]
    split
    case isTrue hsame =>
      obtain ⟨⟨id, p⟩, hpaid, hid⟩ := Option.map_eq_some_iff.mp hsame.1
      obtain ⟨found, hfind, hfound, hp, hroom⟩ := hread.payment _ _ hpaid
      obtain rfl : id = (sale.id, z.2) := hid
      obtain rfl : sale = found :=
        eq_of_mem_of_key_eq hsale (mem_of_find? hfind) hfound
      rw [mem_zipIdx_iff_getElem?.mp hz] at hp
      obtain rfl : z.1 = p := Option.some.inj hp
      exact hroom
    case isFalse =>
      rw [add_zero]
      exact h.refunded sale hsale z hz
  · intro r hr
    show _ ↔ settlements.total _ = _ ∧ _
    rw [hsettled]
    obtain ⟨old, hold, hsame⟩ := returns_after_settlement hread.found hr
    rcases hsame with ⟨rfl, hother⟩ | ⟨hcompleted, rfl, rfl⟩
    · rw [if_neg hother, add_zero]
      exact h.status old hold
    · rw [if_pos ⟨rfl, hcompleted⟩, settlementStatusAfter_eq_settled, hread.settled, hread.total]
      constructor
      · intro heq
        have := settled_nonneg (s := s) old.id
        exact ⟨heq, show 0 < old.refundable by omega⟩
      · exact fun heq ↦ heq.1

theorem of_eq (h : SettleInv s) (hsales : s'.sales = s.sales)
    (hreturns : s'.saleReturns = s.saleReturns) (hsettlements : s'.settlements = s.settlements) :
    SettleInv s' := by
  cases s
  cases s'
  simp only at hsales hreturns hsettlements
  subst hsales hreturns hsettlements
  exact ⟨h.references, h.settled, h.refunded, h.status⟩

/-- **Every commit keeps the invariant.** -/
theorem write (h : SettleInv s) (hinv : ReturnInv s) (hreturn : KnownOfReturn request decision s)
    (hsettlement : KnownOfSettlement request decision s)
    (hwrite : protocol.write request decision s = .ok s') : SettleInv s' := by
  have hshares := (hinv.write hreturn hwrite).share
  have hcommit : ∀ sales saleReturns settlements loyalty,
      (∀ r ∈ saleReturns.rows, 0 ≤ r.loyaltyValueRestored ∧ r.loyaltyValueRestored ≤ r.total) →
      SaleCommit s request decision sales saleReturns settlements loyalty → SettleInv { s with
          sales := sales, saleReturns := saleReturns, settlements := settlements } := by
    intro sales saleReturns settlements loyalty hshares hcommit
    cases hcommit with
    | same | rules | view => exact h
    | sale _ hinsert => exact h.insertSale hinsert
    | voidSale => exact h.voidSale rfl
    | saleReturn _ _ hpending _ _ hinsert =>
      exact h.insertReturn hpending
        (hshares _ ((mem_insert hinsert).mpr (.inr rfl))).2 hinsert
    | @settlement input saleReturn settledAmount returnTotal payment x _ hof hpayment hamount
        hinsert =>
      have hread := hsettlement input saleReturn settledAmount returnTotal payment rfl rfl
      exact h.settle hread hof hpayment hamount hinsert
  exact (hcommit _ _ _ _ hshares (saleCommit hwrite)).of_eq rfl rfl rfl

theorem fresh (env : Env) (customers : Table Customer) : SettleInv (Store.fresh env customers) where
  references := by
    intro x hx
    cases hx
  settled := by
    intro r hr
    cases hr
  refunded := by
    intro sale hsale
    cases hsale
  status := by
    intro r hr
    cases hr

end SettleInv

/-! ### The caps -/

def KnownOfRefunds (request : Request) (decision : Decision) (s : Store) : Prop :=
  KnownOfReturn request decision s ∧ KnownOfSettlement request decision s

theorem refunds_sound :
    Sound protocol (fun _ _ _ ↦ True) (fun s ↦ ReturnInv s ∧ SettleInv s) KnownOfRefunds where
  read := fun hinv hread ↦
    ⟨knownOfReturn_of_read hinv.1 hread, knownOfSettlement_of_read hinv.1 hread⟩
  reread := by
    intro s request decision decision' _ hknown hread
    refine known_of_reread KnownOfRefunds (fun input decision ↦ ?_) hread hknown
    exact ⟨knownOfReturn_payment input decision s, by rintro _ _ _ _ _ ⟨⟩⟩
  write := fun hinv hknown _ hwrite ↦
    ⟨hinv.1.write hknown.1 hwrite, hinv.2.write hinv.1 hknown.1 hknown.2 hwrite⟩
  stable := by
    rintro s request decision request' decision' s' - hknown hknown' - hdisjoint hwrite
    refine ⟨hknown.1.stable hknown'.1 hdisjoint hwrite, ?_⟩
    intro input saleReturn settledAmount returnTotal payment hrequest hdecision
    have hread := hknown.2 input saleReturn settledAmount returnTotal payment hrequest hdecision
    have hholds : LockedRow.sale input.saleId ∈ protocol.holds request := by
      subst hrequest
      exact mem_singleton_self _
    obtain ⟨hholds', hneeds'⟩ := hdisjoint _ hholds
    exact hread.of_same (sameReturns_of_not_locked hknown'.1 hholds' hneeds' hwrite)
      (sameSettlements_of_not_locked hknown'.2 hholds' hwrite)

/-- **The caps on the refunds of a store.** -/
structure RefundCaps (s : Store) : Prop where
  /-- The completed settlements of a return add up to what the points do not give back, at most. -/
  settled : ∀ r ∈ s.saleReturns.rows, s.settled r.id ≤ r.total - r.loyaltyValueRestored
  /-- A return gives back no more points than it takes back money. -/
  share : ∀ r ∈ s.saleReturns.rows, 0 ≤ r.loyaltyValueRestored ∧ r.loyaltyValueRestored ≤ r.total
  /-- The returns of a sale give back its loyalty value at most, -/
  loyalty : ∀ sale ∈ s.sales.rows, s.loyaltyRestored sale.id ≤ sale.loyaltyValue
  /-- and all of it once the sale is returned in full. -/
  whole : ∀ sale ∈ s.sales.rows, s.FullyReturned sale →
    s.loyaltyRestored sale.id = sale.loyaltyValue
  /-- No payment is refunded beyond its amount. -/
  refunded : ∀ sale ∈ s.sales.rows, ∀ x ∈ sale.payments.zipIdx,
    s.refunded (sale.id, x.2) ≤ x.1.amountApplied
  /-- A return is settled when all of it has been paid, and there was something to pay. -/
  status : ∀ r ∈ s.saleReturns.rows, r.settlementStatus = .SETTLED ↔
    s.settled r.id = r.total - r.loyaltyValueRestored ∧ 0 < (r.total : ℤ) - r.loyaltyValueRestored

theorem refundCaps_of_inv (hreturn : ReturnInv s) (hsettle : SettleInv s) : RefundCaps s where
  settled := hsettle.settled
  share := hreturn.share
  loyalty := by
    intro sale hsale
    rw [hreturn.target sale hsale]
    exact targetLoyalty_le (hreturn.value sale hsale) (returnedTotal_nonneg _)
  whole := by
    intro sale hsale hfull
    rw [hreturn.target sale hsale, hreturn.returnedTotal_of_fullyReturned hsale hfull]
    exact targetLoyalty_of_ge le_rfl
  refunded := hsettle.refunded
  status := hsettle.status

/-- **The refunds of a sale stay within their caps**, in every run and every interleaving. -/
theorem refund_caps (env : Env) (customers : Table Customer) (events : List (Event Request)) :
    RefundCaps
      (Outcome.run protocol.step (State.idle (Store.fresh env customers)) events).store := by
  have hgood := refunds_sound.run
    (Good.idle ⟨ReturnInv.fresh env customers, SettleInv.fresh env customers⟩) events
    (commits_of_forall (fun _ _ _ ↦ trivial) ..)
  exact refundCaps_of_inv hgood.inv.1 hgood.inv.2

end UInventario.Pos
