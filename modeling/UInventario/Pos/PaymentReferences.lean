import UInventario.Pos.SalePayments

/-!
# References of payments that collide

A request for a sale that is quoted and whose payments are prepared is refused for a reference
exactly when the till cannot take its points or its terminal (`payments_never_collide_iff`), if no
payment before has used a reference that the caller gives.

The voucher for redeemed points is recorded under the number of points. So the request is refused
when an earlier sale, of any customer, has redeemed as many, when a voucher has been paid under that
text, and when the request itself is paid with a voucher. A void leaves the payments where they are.

The proof follows the insertions: `Took` says what the table is after some of them.
-/

namespace UInventario.Pos.Cart

open Outcome Table List

variable {collate : Text → Text} {till till' : Till} {content : SaleContent} {saleId : Uuid}
  {rows : List NewPayment}

/-! ### Identifiers -/

structure Till.Numbered (till : Till) : Prop where
  ids : ∀ p ∈ till.payments.rows, ∃ n < till.drawn, p.id = till.uuid n
  sales : ∀ p ∈ till.payments.rows, ∃ n < till.drawn, p.saleId = till.uuid n

theorem Till.Numbered.mono (h : till.Numbered) (hpayments : till'.payments = till.payments)
    (huuid : till'.uuid = till.uuid) (hdrawn : till.drawn ≤ till'.drawn) : till'.Numbered := by
  refine ⟨fun p hp ↦ ?_, fun p hp ↦ ?_⟩
  all_goals rw [hpayments] at hp
  · obtain ⟨n, hn, hid⟩ := h.ids p hp
    exact ⟨n, hn.trans_le hdrawn, huuid ▸ hid⟩
  · obtain ⟨n, hn, hid⟩ := h.sales p hp
    exact ⟨n, hn.trans_le hdrawn, huuid ▸ hid⟩

/-- The identifiers of a till with a sale under way are drawn apart. -/
structure Till.Opened (till : Till) (saleId : Uuid) : Prop where
  uuid : Function.Injective till.uuid
  numbered : till.Numbered
  sale : ∃ n < till.drawn, saleId = till.uuid n

/-- **What some payments of a sale have done to the till.** -/
structure Took (collate : Text → Text) (saleId : Uuid) (rows : List NewPayment)
    (till till' : Till) : Prop where
  uuid : till'.uuid = till.uuid
  desk : till'.desk = till.desk
  drawn : till.drawn ≤ till'.drawn
  numbered : till'.Numbered
  kept : till.payments.rows <+: till'.payments.rows
  free : ∀ row, till'.Free collate saleId row ↔
    till.Free collate saleId row ∧ ∀ r ∈ rows, r.method ≠ row.method
  took : ∀ row ∈ rows, ∃ p ∈ till'.payments.rows, p.method = row.method ∧
    p.externalReference = row.externalReference

theorem Took.refl (hnumbered : till.Numbered) : Took collate saleId [] till till where
  uuid := rfl
  desk := rfl
  drawn := le_rfl
  numbered := hnumbered
  kept := prefix_rfl
  free := fun _ ↦ (and_iff_left (forall_mem_nil _)).symm
  took := forall_mem_nil _

theorem Took.trans {till₁ : Till} {rows' : List NewPayment}
    (h : Took collate saleId rows till till₁) (h' : Took collate saleId rows' till₁ till') :
    Took collate saleId (rows ++ rows') till till' where
  uuid := h'.uuid.trans h.uuid
  desk := h'.desk.trans h.desk
  drawn := h.drawn.trans h'.drawn
  numbered := h'.numbered
  kept := h.kept.trans h'.kept
  free := fun row ↦ by
    rw [h'.free, h.free, forall_mem_append, and_assoc]
  took := fun row hrow ↦ by
    rcases mem_append.mp hrow with hrow | hrow
    · obtain ⟨p, hp, hvalues⟩ := h.took row hrow
      exact ⟨p, h'.kept.subset hp, hvalues⟩
    · exact h'.took row hrow

theorem Took.opened (h : Took collate saleId rows till till')
    (hopened : till.Opened saleId) : till'.Opened saleId := by
  obtain ⟨huuid, -, n, hn, hsale⟩ := hopened
  exact ⟨h.uuid ▸ huuid, h.numbered, n, hn.trans_le h.drawn, h.uuid ▸ hsale⟩

/-! ### One payment -/

variable {row : NewPayment}

/-- **A payment that no key refuses** is inserted. -/
theorem insertPayment_free (collate : Text → Text) (content : SaleContent)
    (hopened : till.Opened saleId) (hamounts : row.amounts) (hfree : till.Free collate saleId row) :
    ∃ till', insertPayment collate content saleId till row = .ok till' ∧
      Took collate saleId [row] till till' ∧ till'.terminals = till.terminals := by
  let p : PaymentRow := {
    id := till.uuid till.drawn, saleId := saleId, method := row.method,
    externalReference := row.externalReference, currency := content.currency,
    amountReceived := row.amountReceived, amountApplied := row.amountApplied,
    changeAmount := row.changeAmount }
  have hfresh : till.payments.find? (Keyed.key p) = none := by
    rw [Table.find?_eq_none]
    intro old hold hid
    obtain ⟨n, hn, holdid⟩ := hopened.numbered.ids old hold
    have heq : till.uuid n = till.uuid till.drawn := holdid.symm.trans hid
    exact absurd (hopened.uuid heq) (Nat.ne_of_lt hn)
  obtain ⟨payments, hinsert⟩ := insert_isSome hfresh
  refine ⟨{ till with drawn := till.drawn + 1, payments := payments }, ?_,
    ⟨rfl, rfl, Nat.le_succ _, ⟨?_, ?_⟩, ?_, ?_, ?_⟩, rfl⟩
  · refine bind_eq_ok.mpr ⟨⟨⟩, ensure_eq_ok.mpr hamounts, ?_⟩
    refine bind_eq_ok.mpr ⟨⟨⟩, ensure_eq_ok.mpr hfree, ?_⟩
    exact bind_eq_ok.mpr ⟨payments, demand_eq_ok.mpr hinsert, rfl⟩
  · intro old hold
    rcases (mem_insert hinsert).mp hold with hold | rfl
    · obtain ⟨n, hn, hid⟩ := hopened.numbered.ids old hold
      exact ⟨n, Nat.lt_succ_of_lt hn, hid⟩
    · exact ⟨till.drawn, Nat.lt_succ_self _, rfl⟩
  · intro old hold
    rcases (mem_insert hinsert).mp hold with hold | rfl
    · obtain ⟨n, hn, hid⟩ := hopened.numbered.sales old hold
      exact ⟨n, Nat.lt_succ_of_lt hn, hid⟩
    · obtain ⟨n, hn, hid⟩ := hopened.sale
      exact ⟨n, Nat.lt_succ_of_lt hn, hid⟩
  · exact ⟨[p], (insert_eq_some hinsert).2.symm⟩
  · intro other
    constructor
    · intro hother
      refine ⟨fun old hold ↦ hother old ((mem_insert hinsert).mpr (.inl hold)), ?_⟩
      intro r hr hmethod
      rw [mem_singleton] at hr
      subst hr
      exact (hother p ((mem_insert hinsert).mpr (.inr rfl)) hmethod).1 rfl
    · rintro ⟨hother, hmethod⟩ old hold hsame
      rcases (mem_insert hinsert).mp hold with hold | rfl
      · exact hother old hold hsame
      · exact absurd hsame (hmethod row mem_cons_self)
  · intro r hr
    rw [mem_singleton] at hr
    subst hr
    exact ⟨p, (mem_insert hinsert).mpr (.inr rfl), rfl, rfl⟩

/-- **A payment that a key refuses.** -/
theorem insertPayment_taken (hamounts : row.amounts) (htaken : ¬till.Free collate saleId row) :
    insertPayment collate content saleId till row = .error .duplicateEntry := by
  rw [insertPayment, ensure, if_pos hamounts, ok_bind, ensure, if_neg htaken, error_bind]

theorem insertPayment_amounts (hamounts : ¬row.amounts) :
    insertPayment collate content saleId till row = .error .checkViolation := by
  rw [insertPayment, ensure, if_neg hamounts, error_bind]

/-! ### The payments of the request -/

/-- The operation of a payment is there to be linked, and only a card has one. -/
def LinkReady (till : Till) (entry : PreparedPayment × Option Text) : Prop :=
  ∀ id, entry.1.terminalOperationId = some id → entry.1.method = .CARD ∧
    (till.terminals.find? id).any (fun row ↦ row.status = .CAPTURED ∧ row.saleId = none) = true

variable {entry : PreparedPayment × Option Text} {totalCents : ℤ} {quote : LoyaltyQuote}
  {p : PreparedPayment} {shop : Shop} {env : Env}

theorem insertRequested_free (collate : Text → Text) (content : SaleContent)
    (hopened : till.Opened saleId) (hamounts : (requestedRow entry).amounts)
    (hready : LinkReady till entry) (hfree : till.Free collate saleId (requestedRow entry)) :
    ∃ till', insertRequested collate content saleId till entry = .ok till' ∧
      Took collate saleId [requestedRow entry] till till' ∧
      ∀ other : PreparedPayment × Option Text, entry.1.method ≠ other.1.method →
        LinkReady till other → LinkReady till' other := by
  obtain ⟨till₁, hinsert, htook, hterminals⟩ :=
    insertPayment_free collate content hopened hamounts hfree
  cases hid : entry.1.terminalOperationId with
  | none =>
    refine ⟨till₁, bind_eq_ok.mpr ⟨till₁, hinsert, ?_⟩, htook, ?_⟩
    · rw [hid]
      rfl
    · intro other _ hother id hotherid
      rw [hterminals]
      exact hother id hotherid
  | some id =>
    obtain ⟨hcard, hcaptured⟩ := hready id hid
    refine ⟨{ till₁ with terminals := till₁.terminals.update id fun row ↦ { row with
      saleId := some saleId } }, bind_eq_ok.mpr ⟨till₁, hinsert, ?_⟩, ?_, ?_⟩
    · rw [hid]
      refine bind_eq_ok.mpr ⟨⟨⟩, ensure_eq_ok.mpr ?_, rfl⟩
      rw [hterminals]
      exact hcaptured
    · exact ⟨htook.uuid, htook.desk, htook.drawn, ⟨htook.numbered.ids, htook.numbered.sales⟩,
        htook.kept,
        htook.free, htook.took⟩
    · intro other hmethod hother otherId hotherid
      exact absurd (hcard.trans (hother otherId hotherid).1.symm) hmethod

/-- **The loop over the payments of the request**: all of them are taken, or a key refuses one. -/
theorem insertRequested_all :
    ∀ {entries : List (PreparedPayment × Option Text)} {till : Till}, till.Opened saleId →
      (∀ entry ∈ entries, (requestedRow entry).amounts) →
      (entries.map fun entry ↦ entry.1.method).Nodup →
      (∀ entry ∈ entries, LinkReady till entry) →
      ((∀ entry ∈ entries, till.Free collate saleId (requestedRow entry)) →
        ∃ till', entries.foldlM (insertRequested collate content saleId) till = .ok till' ∧
          Took collate saleId (entries.map requestedRow) till till') ∧
      ((∃ entry ∈ entries, ¬till.Free collate saleId (requestedRow entry)) →
        entries.foldlM (insertRequested collate content saleId) till = .error .duplicateEntry) := by
  intro entries
  induction entries with
  | nil =>
    intro till hopened _ _ _
    refine ⟨fun _ ↦ ⟨till, rfl, Took.refl hopened.numbered⟩, ?_⟩
    rintro ⟨entry, hentry, -⟩
    exact absurd hentry not_mem_nil
  | cons entry entries ih =>
    intro till hopened hamounts hnodup hready
    rw [map_cons, nodup_cons] at hnodup
    have hne : ∀ other ∈ entries, entry.1.method ≠ other.1.method := fun other hother heq ↦
      hnodup.1 (mem_map.mpr ⟨other, hother, heq.symm⟩)
    by_cases hfree : till.Free collate saleId (requestedRow entry)
    · obtain ⟨till₁, hinsert, htook, hkeep⟩ := insertRequested_free collate content hopened
        (hamounts entry mem_cons_self) (hready entry mem_cons_self) hfree
      obtain ⟨hall, hsome⟩ := ih (htook.opened hopened)
        (fun other hother ↦ hamounts other (mem_cons_of_mem _ hother)) hnodup.2
        (fun other hother ↦ hkeep other (hne other hother)
          (hready other (mem_cons_of_mem _ hother)))
      -- the payment just taken is of another method, so it leaves the others as free as they were
      have hsame : ∀ other ∈ entries, till₁.Free collate saleId (requestedRow other) ↔
          till.Free collate saleId (requestedRow other) := by
        intro other hother
        rw [htook.free, and_iff_left]
        intro r hr
        rw [mem_singleton] at hr
        subst hr
        exact hne other hother
      rw [foldlM_cons, hinsert, ok_bind]
      constructor
      · intro hfrees
        obtain ⟨till', hloop, htook'⟩ := hall fun other hother ↦
          (hsame other hother).mpr (hfrees other (mem_cons_of_mem _ hother))
        exact ⟨till', hloop, htook.trans htook'⟩
      · rintro ⟨other, hother, htaken⟩
        rcases mem_cons.mp hother with rfl | hother
        · exact absurd hfree htaken
        · exact hsome ⟨other, hother, fun h ↦ htaken ((hsame other hother).mp h)⟩
    · refine ⟨fun hfrees ↦ absurd (hfrees entry mem_cons_self) hfree, fun _ ↦ ?_⟩
      rw [foldlM_cons, insertRequested,
        insertPayment_taken (hamounts entry mem_cons_self) hfree, error_bind, error_bind]

/-! ### Accepted requests -/

/-- What the validation of a request says of its payments: one of a method, and none on credit. -/
structure CreateSaleDto.Valid (dto : CreateSaleDto) : Prop where
  distinct : (dto.paymentList.map SalePaymentDto.method).Nodup
  immediate : ∀ payment ∈ dto.paymentList, payment.method ≠ .CREDIT

/-- What `preparePayments` has seen to in a payment. -/
structure PreparedPayment.Sound (p : PreparedPayment) : Prop where
  positive : 0 < p.amountApplied
  received : p.amountApplied ≤ p.amountReceived
  change : p.change = p.amountReceived - p.amountApplied
  cash : p.method = .CASH → p.reference = none ∧ p.terminalOperationId = none
  exact : p.method ≠ .CASH → p.amountReceived = p.amountApplied
  card : p.terminalOperationId ≠ none → p.method = .CARD
  referred : p.method ≠ .CASH → p.terminalOperationId = none → p.reference ≠ none

theorem preparePayment_sound {single : Bool} {payment : SalePaymentDto}
    (h : preparePayment env totalCents single payment = .ok p) :
    p.method = payment.method ∧ p.Sound := by
  simp only [preparePayment, assertPaymentFields, eq_ok] at h
  obtain ⟨amount, -, -, hpositive, -, ⟨-, -, hterminal⟩, -, -, -, hreference, -, hreceived, h⟩ := h
  -- whether the payment is authorized does not change its fields
  obtain rfl : { method := payment.method
                 amountReceived := if payment.method = .CASH then
                   (payment.amountReceived.map toMoneyCents).getD 0 else amount
                 amountApplied := amount
                 change := (if payment.method = .CASH then
                   (payment.amountReceived.map toMoneyCents).getD 0 else amount) - amount
                 reference := if payment.method = .CASH then none else payment.reference
                 terminalOperationId := payment.terminalOperationId : PreparedPayment } = p := by
    split at h
    · obtain ⟨-, -, h⟩ := bind_eq_ok.mp h
      exact pure_eq_ok.mp h
    · exact pure_eq_ok.mp h
  refine ⟨rfl, hpositive, hreceived, rfl, ?_, ?_, ?_, ?_⟩
  · intro hcash
    refine ⟨if_pos hcash, ?_⟩
    by_contra hnone
    refine hterminal ⟨hnone, .inl ?_⟩
    rw [show payment.method = .CASH from hcash]
    rintro ⟨⟩
  · exact fun hcash ↦ if_neg hcash
  · intro hnone
    by_contra hcard
    exact hterminal ⟨hnone, .inl hcard⟩
  · intro hcash hnone href
    have hpresent := hreference ⟨hcash, hnone⟩
    have hempty : payment.reference = none := (if_neg hcash).symm.trans href
    rw [hempty] at hpresent
    cases hpresent

theorem preparePayments_sound {dto : CreateSaleDto} (hvalid : dto.Valid)
    {payments : List PreparedPayment} (h : preparePayments env dto totalCents = .ok payments) :
    (∀ p ∈ payments, p.Sound ∧ p.method ≠ .CREDIT) ∧
      (payments.map PreparedPayment.method).Nodup ∧ (dto.credit ≠ none → payments = []) := by
  unfold preparePayments at h
  cases hcredit : dto.credit with
  | some installmentCount =>
    rw [hcredit] at h
    simp only [eq_ok] at h
    obtain ⟨-, -, rfl⟩ := h
    exact ⟨forall_mem_nil _, nodup_nil, fun _ ↦ rfl⟩
  | none =>
    rw [hcredit] at h
    simp only [eq_ok] at h
    obtain ⟨-, -, prepared, hprepared, -, -, rfl⟩ := h
    refine ⟨?_, ?_, fun hne ↦ absurd rfl hne⟩
    · intro p hp
      obtain ⟨payment, hpayment, hp⟩ := exists_of_mem_mapM hprepared hp
      obtain ⟨hmethod, hsound⟩ := preparePayment_sound hp
      exact ⟨hsound, hmethod ▸ hvalid.immediate payment hpayment⟩
    · rw [map_mapM (fun _ _ hp ↦ (preparePayment_sound hp).1) hprepared]
      exact hvalid.distinct

theorem quoteLoyalty_payable {rule : LoyaltyRule} {balance : ℤ} {saleTotal points : ℕ}
    (h : quoteLoyalty rule balance saleTotal points = .ok quote)
    (hvalue : 0 < quote.redemptionValue) : quote.redemptionValue < saleTotal := by
  simp only [quoteLoyalty, eq_ok] at h
  obtain ⟨-, -, -, -, -, hleave, rfl⟩ := h
  by_contra hge
  exact hleave ⟨not_lt.mp hge, hvalue⟩

theorem cartLoyalty_payable {dto : QuoteCartDto}
    (h : cartLoyalty shop dto totalCents = .ok (some quote))
    (hvalue : 0 < quote.redemptionValue) : quote.redemptionValue < totalCents.toNat := by
  simp only [cartLoyalty, eq_ok] at h
  obtain ⟨-, -, h⟩ := h
  cases hcustomer : dto.customerId with
  | none =>
    rw [hcustomer] at h
    cases h
  | some customerId =>
    rw [hcustomer] at h
    rw [mapError_eq_ok] at h
    simp only [previewLoyalty, bind_eq_ok] at h
    obtain ⟨-, -, loyalty, -, h⟩ := h
    cases hrule : loyalty.currentRule.filter LoyaltyRule.active with
    | none =>
      rw [hrule] at h
      obtain ⟨-, -, h⟩ := bind_eq_ok.mp h
      cases h
    | some rule =>
      rw [hrule] at h
      obtain ⟨current, hquote, h⟩ := bind_eq_ok.mp h
      cases h
      exact quoteLoyalty_payable hquote hvalue

variable {toUpperCase : Text → Text} {r : SaleRequest}

/-- **What an accepted request persists**, as far as its payments depend on it. -/
theorem prepareSale_payments (hvalid : r.dto.Valid)
    (h : prepareSale toUpperCase shop r = .ok content) :
    (∀ p ∈ content.payments, p.Sound ∧ p.method ≠ .CREDIT) ∧
      (content.payments.map PreparedPayment.method).Nodup ∧
      (content.credit ≠ none → content.payments = []) ∧
      ∀ quote, content.loyalty = some quote → 0 < quote.redemptionValue → 0 < content.payable := by
  simp only [prepareSale, quoteCart, quoteLines, eq_ok] at h
  obtain ⟨quote, ⟨-, -, context, -, prepared, -, promotions, -, promoted, -, saleDiscount, -, -, -,
    allocations, -, loyalty, hloyalty, rfl⟩, shift, -, payments, hpayments, rfl⟩ := h
  obtain ⟨hsound, hdistinct, hcredit⟩ := preparePayments_sound hvalid hpayments
  refine ⟨hsound, hdistinct, hcredit, ?_⟩
  rintro points rfl hvalue
  have hless := cartLoyalty_payable hloyalty hvalue
  rw [Int.lt_toNat] at hless
  exact sub_pos.mpr hless

/-! ### The payments of a sale -/

/-- The points can be recorded: no other voucher pays the sale, and none has been recorded under as
many points. -/
def Till.PointsFree (collate : Text → Text) (till : Till) (content : SaleContent) : Prop :=
  ∀ loyalty, content.loyalty = some loyalty → 0 < loyalty.pointsRedeemed →
    0 < loyalty.redemptionValue →
    (∀ p ∈ content.payments, p.method ≠ .VOUCHER) ∧
      ∀ old ∈ till.payments.rows, old.method = .VOUCHER →
        old.externalReference.map collate ≠ some (collate (pointsReference loyalty.pointsRedeemed))

/-- No payment by card has been recorded under the reference of an operation of the request. -/
def Till.TerminalFree (collate : Text → Text) (till : Till) (content : SaleContent) : Prop :=
  ∀ p ∈ content.payments, ∀ id row reference, p.terminalOperationId = some id →
    till.terminals.find? id = some row → row.providerReference = some reference →
    ∀ old ∈ till.payments.rows, old.method = .CARD →
      old.externalReference.map collate ≠ some (collate reference)

/-- **The till can take the payments**: when the operations of the request can be used at all, its
points and its terminal are free. -/
def Till.CanTake (collate : Text → Text) (till : Till) (content : SaleContent) : Prop :=
  (till.referPayments content).toOption.isSome = true →
    till.PointsFree collate content ∧ till.TerminalFree collate content

def Till.Unused (collate : Text → Text) (till : Till) (content : SaleContent) : Prop :=
  ∀ p ∈ content.payments, ∀ reference ∈ p.reference, ∀ old ∈ till.payments.rows,
    old.externalReference.map collate ≠ some (collate reference)

theorem referPayment_eq_ok {terminals : Table TerminalOperation}
    (h : referPayment terminals content p = .ok entry) :
    entry.1 = p ∧ (p.terminalOperationId = none ∧ entry.2 = p.reference ∨
      ∃ id row reference, p.terminalOperationId = some id ∧ terminals.find? id = some row ∧
        row.status = .CAPTURED ∧ row.saleId = none ∧ row.providerReference = some reference ∧
        entry.2 = some reference) := by
  unfold referPayment at h
  cases hid : p.terminalOperationId with
  | none =>
    rw [hid] at h
    cases h
    exact ⟨rfl, .inl ⟨rfl, rfl⟩⟩
  | some id =>
    rw [hid] at h
    simp only [reserveCaptured, eq_ok, Option.filter_eq_some_iff] at h
    obtain ⟨reference, ⟨row, hrow, -, -, -, hunused, -, hcaptured, -, -, -, -, hreference, -⟩,
      rfl⟩ := h
    exact ⟨rfl, .inr ⟨id, row, reference, rfl, hrow, hcaptured, hunused, hreference, rfl⟩⟩

theorem free_iff (hfresh : ∀ old ∈ till.payments.rows, old.saleId ≠ saleId) :
    till.Free collate saleId row ↔ ∀ old ∈ till.payments.rows, old.method = row.method →
      ∀ reference ∈ row.externalReference,
        old.externalReference.map collate ≠ some (collate reference) :=
  ⟨fun h old hold hmethod ↦ (h old hold hmethod).2,
    fun h old hold hmethod ↦ ⟨hfresh old hold, h old hold hmethod⟩⟩

section Insertions

variable {referred : List (PreparedPayment × Option Text)}

section

variable (hsound : ∀ p ∈ content.payments, p.Sound ∧ p.method ≠ .CREDIT)
  (hreferred : till.referPayments content = .ok referred)
include hsound hreferred

theorem requestedRow_amounts : ∀ entry ∈ referred, (requestedRow entry).amounts := by
  intro entry hentry
  obtain ⟨p, hp, hrefer⟩ := exists_of_mem_mapM hreferred hentry
  obtain ⟨hfst, hreference⟩ := referPayment_eq_ok hrefer
  obtain ⟨hp, hcredit⟩ := hsound p hp
  refine ⟨show 0 < entry.1.amountApplied from hfst ▸ hp.positive, ?_⟩
  dsimp only [requestedRow]
  rw [hfst]
  -- what every other method than cash is paid with
  have hother : p.method ≠ .CASH →
      p.amountReceived = p.amountApplied ∧ p.change = 0 ∧ entry.2 ≠ none := by
    intro hcash
    refine ⟨hp.exact hcash, ?_, ?_⟩
    · rw [hp.change, hp.exact hcash, sub_self]
    · rcases hreference with ⟨hnone, href⟩ | ⟨id, row, reference, -, -, -, -, -, href⟩
      · rw [href]
        exact hp.referred hcash hnone
      · rw [href]
        exact Option.some_ne_none _
  cases hmethod : p.method with
  | CASH =>
    obtain ⟨hnone, hterminal⟩ := hp.cash hmethod
    refine ⟨hp.received, hp.change, ?_⟩
    rcases hreference with ⟨-, href⟩ | ⟨id, row, reference, hid, -⟩
    · rw [href, hnone]
    · rw [hterminal] at hid
      cases hid
  | CREDIT => exact absurd hmethod hcredit
  | CARD | TRANSFER | VOUCHER => exact hother (by rw [hmethod]; rintro ⟨⟩)

theorem linkReady_referred : ∀ entry ∈ referred, LinkReady till entry := by
  intro entry hentry id hid
  obtain ⟨p, hp, hrefer⟩ := exists_of_mem_mapM hreferred hentry
  obtain ⟨hfst, hreference⟩ := referPayment_eq_ok hrefer
  rw [hfst] at hid ⊢
  refine ⟨(hsound p hp).1.card (by rw [hid]; exact Option.some_ne_none _), ?_⟩
  rcases hreference with ⟨hnone, -⟩ | ⟨id', row, reference, hid', hrow, hcaptured, hunused, -⟩
  · rw [hnone] at hid
    cases hid
  · rw [hid] at hid'
    cases hid'
    rw [hrow]
    exact decide_eq_true ⟨hcaptured, hunused⟩

end

theorem methods_referred (hreferred : till.referPayments content = .ok referred) :
    referred.map (fun entry ↦ entry.1.method) = content.payments.map PreparedPayment.method :=
  map_mapM (fun _ _ h ↦ congrArg PreparedPayment.method (referPayment_eq_ok h).1) hreferred

/-- **The payments of the request are free** exactly when the operations are, given that the
references of the caller are. -/
theorem free_referred_iff (hsound : ∀ p ∈ content.payments, p.Sound ∧ p.method ≠ .CREDIT)
    (hfresh : ∀ old ∈ till.payments.rows, old.saleId ≠ saleId)
    (hunused : till.Unused collate content)
    (hreferred : till.referPayments content = .ok referred) :
    (∀ entry ∈ referred, till.Free collate saleId (requestedRow entry)) ↔
      till.TerminalFree collate content := by
  constructor
  · intro hfree p hp id row reference hid hrow hreference old hold hcard
    obtain ⟨entry, hentry, hrefer⟩ := exists_mem_mapM hreferred hp
    obtain ⟨hfst, ⟨hnone, -⟩ | ⟨id', row', reference', hid', hrow', -, -, hreference', href⟩⟩ :=
      referPayment_eq_ok hrefer
    · rw [hid] at hnone
      cases hnone
    · rw [hid] at hid'
      cases hid'
      rw [hrow] at hrow'
      cases hrow'
      rw [hreference] at hreference'
      cases hreference'
      have hmethod : p.method = .CARD :=
        (hsound p hp).1.card (by rw [hid]; exact Option.some_ne_none _)
      refine (free_iff hfresh).mp (hfree entry hentry) old hold ?_ reference href
      rw [hcard]
      exact (hfst ▸ hmethod).symm
  · intro hterminal entry hentry
    obtain ⟨p, hp, hrefer⟩ := exists_of_mem_mapM hreferred hentry
    obtain ⟨hfst, hreference⟩ := referPayment_eq_ok hrefer
    rw [free_iff hfresh]
    intro old hold hmethod reference href
    rcases hreference with ⟨-, href'⟩ | ⟨id, row, reference', hid, hrow, -, -, hreference, href'⟩
    · exact hunused p hp reference (href' ▸ href) old hold
    · have heq : reference' = reference := Option.some.inj (href'.symm.trans href)
      subst heq
      refine hterminal p hp id row reference' hid hrow hreference old hold ?_
      rw [hmethod]
      show entry.1.method = .CARD
      rw [hfst]
      exact (hsound p hp).1.card (by rw [hid]; exact Option.some_ne_none _)

structure Inserting (till : Till) (saleId : Uuid) (content : SaleContent)
    (referred : List (PreparedPayment × Option Text)) : Prop where
  uuid : Function.Injective till.uuid
  numbered : till.Numbered
  sale : ∃ n < till.drawn, saleId = till.uuid n
  fresh : ∀ old ∈ till.payments.rows, old.saleId ≠ saleId
  sound : ∀ p ∈ content.payments, p.Sound ∧ p.method ≠ .CREDIT
  distinct : (content.payments.map PreparedPayment.method).Nodup
  credit : content.credit ≠ none → content.payments = []
  payable : ∀ quote, content.loyalty = some quote → 0 < quote.redemptionValue → 0 < content.payable
  referred : till.referPayments content = .ok referred

theorem Inserting.opened (h : Inserting till saleId content referred) : till.Opened saleId :=
  ⟨h.uuid, h.numbered, h.sale⟩

theorem insertCredit (collate : Text → Text) (h : Inserting till saleId content referred) :
    (∃ till',
      content.creditPayments.foldlM (insertPayment collate content saleId) till = .ok till' ∧
      Took collate saleId content.creditPayments till till' ∧ till'.terminals = till.terminals) ∨
    (content.payable ≤ 0 ∧ content.credit ≠ none ∧
      content.creditPayments.foldlM (insertPayment collate content saleId) till =
        .error .checkViolation) := by
  by_cases hcredit : content.credit = none
  · rw [SaleContent.creditPayments, if_pos hcredit]
    exact .inl ⟨till, rfl, Took.refl h.numbered, rfl⟩
  · rw [SaleContent.creditPayments, if_neg hcredit]
    by_cases hpayable : 0 < content.payable
    · obtain ⟨till', hinsert, htook, hterminals⟩ := insertPayment_free collate content h.opened
        (show NewPayment.amounts {
          method := .CREDIT, externalReference := none, amountReceived := 0,
          amountApplied := content.payable, changeAmount := 0 } from ⟨hpayable, rfl, rfl, rfl⟩)
        ((free_iff h.fresh).mpr fun _ _ _ reference href ↦ absurd href (Option.not_mem_none _))
      refine .inl ⟨till', ?_, htook, hterminals⟩
      rw [foldlM_cons, hinsert, ok_bind]
      rfl
    · refine .inr ⟨not_lt.mp hpayable, hcredit, ?_⟩
      rw [foldlM_cons, insertPayment_amounts (fun hamounts ↦ hpayable hamounts.1), error_bind]

theorem voucher_iff (h : Inserting till saleId content referred) :
    (∀ r ∈ content.creditPayments ++ referred.map requestedRow, r.method ≠ .VOUCHER) ↔
      ∀ p ∈ content.payments, p.method ≠ .VOUCHER := by
  constructor
  · intro hmethods p hp
    obtain ⟨entry, hentry, hrow⟩ := exists_mem_mapM h.referred hp
    have hmethod : entry.1.method ≠ .VOUCHER := hmethods (requestedRow entry)
      (mem_append_right _ (mem_map_of_mem hentry))
    rwa [(referPayment_eq_ok hrow).1] at hmethod
  · intro hmethods r hr
    rcases mem_append.mp hr with hr | hr
    · rw [SaleContent.creditPayments] at hr
      split at hr
      · exact absurd hr not_mem_nil
      · rw [mem_singleton] at hr
        subst hr
        exact nofun
    · obtain ⟨entry, hentry, rfl⟩ := mem_map.mp hr
      obtain ⟨p, hp, hrow⟩ := exists_of_mem_mapM h.referred hentry
      show entry.1.method ≠ .VOUCHER
      rw [(referPayment_eq_ok hrow).1]
      exact hmethods p hp

section

variable {till₁ : Till} (h : Inserting till saleId content referred)
  (htook : Took collate saleId (content.creditPayments ++ referred.map requestedRow) till till₁)
include h htook

theorem free_loyaltyRow_iff (loyalty : LoyaltyQuote) :
    till₁.Free collate saleId (loyaltyRow loyalty) ↔ (∀ p ∈ content.payments, p.method ≠ .VOUCHER) ∧
        ∀ old ∈ till.payments.rows, old.method = .VOUCHER → old.externalReference.map collate ≠
            some (collate (pointsReference loyalty.pointsRedeemed)) := by
  rw [htook.free, free_iff h.fresh, and_comm]
  refine and_congr (voucher_iff h) ⟨?_, ?_⟩
  · exact fun hrefs old hold hmethod ↦ hrefs old hold hmethod _ rfl
  · rintro hrefs old hold hmethod reference href
    cases href
    exact hrefs old hold hmethod

/-- **The voucher of the points**, after the other payments of the sale. -/
theorem insertLoyalty_outcome : (¬till.PointsFree collate content →
      content.loyaltyPayments.foldlM (insertPayment collate content saleId) till₁ =
        .error .duplicateEntry) ∧
    (till.PointsFree collate content →
      (∃ till', content.loyaltyPayments.foldlM (insertPayment collate content saleId) till₁ =
        .ok till') ∨
      content.loyaltyPayments.foldlM (insertPayment collate content saleId) till₁ =
        .error .checkViolation) := by
  cases hloyalty : content.loyalty.filter fun loyalty ↦ 0 < loyalty.pointsRedeemed with
  | none =>
    rw [SaleContent.loyaltyPayments, hloyalty]
    refine ⟨fun hclash ↦ absurd ?_ hclash, fun _ ↦ .inl ⟨till₁, rfl⟩⟩
    intro loyalty hsome hpoints
    rw [hsome, Option.filter_some, if_pos (decide_eq_true hpoints)] at hloyalty
    cases hloyalty
  | some loyalty =>
    obtain ⟨hquote, hpoints⟩ := Option.filter_eq_some_iff.mp hloyalty
    have hpoints : 0 < loyalty.pointsRedeemed := of_decide_eq_true hpoints
    rw [SaleContent.loyaltyPayments, hloyalty]
    show (¬_ → List.foldlM _ till₁ [loyaltyRow loyalty] = _) ∧
      (_ → (∃ till', List.foldlM _ till₁ [loyaltyRow loyalty] = Except.ok till') ∨
        List.foldlM _ till₁ [loyaltyRow loyalty] = Except.error SaleFailure.checkViolation)
    rw [foldlM_cons]
    have hfree := free_loyaltyRow_iff h htook loyalty
    by_cases hvalue : 0 < loyalty.redemptionValue
    · have hamounts : (loyaltyRow loyalty).amounts :=
        ⟨Int.natCast_pos.mpr hvalue, rfl, rfl, Option.some_ne_none _⟩
      constructor
      · intro hclash
        rw [insertPayment_taken hamounts, error_bind]
        intro hfrees
        refine hclash fun other hother _ _ ↦ ?_
        rw [hquote] at hother
        cases hother
        exact hfree.mp hfrees
      · intro hpointsFree
        obtain ⟨till', hinsert, -⟩ := insertPayment_free collate content (htook.opened h.opened)
          hamounts (hfree.mpr (hpointsFree loyalty hquote hpoints hvalue))
        left
        exact ⟨till', by rw [hinsert, ok_bind]; rfl⟩
    · have hamounts : ¬(loyaltyRow loyalty).amounts := fun hamounts ↦
        hvalue (Int.natCast_pos.mp hamounts.1)
      constructor
      · intro hclash
        refine absurd (fun other hother _ hpositive ↦ ?_) hclash
        rw [hquote] at hother
        cases hother
        exact absurd hpositive hvalue
      · intro _
        right
        rw [insertPayment_amounts hamounts, error_bind]

end

/-- **The payments of a sale**: a key refuses one, or they are taken, or an amount is not. -/
theorem insertPayments_outcome (h : Inserting till saleId content referred)
    (hunused : till.Unused collate content) :
    (¬(till.PointsFree collate content ∧ till.TerminalFree collate content) →
      insertPayments collate content saleId referred till = .error .duplicateEntry) ∧
    (till.PointsFree collate content ∧ till.TerminalFree collate content →
      (∃ till', insertPayments collate content saleId referred till = .ok till') ∨
        insertPayments collate content saleId referred till = .error .checkViolation) := by
  have hrefer := free_referred_iff h.sound h.fresh hunused h.referred
  rcases insertCredit collate h with ⟨till₁, hcredit, htook₁, hterminals⟩ |
    ⟨hpayable, hcredit, hfailed⟩
  · -- a request on credit has no payments that the row of the credit could stand in the way of
    have hnocredit : ∀ entry ∈ referred,
        till₁.Free collate saleId (requestedRow entry) ↔
          till.Free collate saleId (requestedRow entry) := by
      intro entry hentry
      rw [htook₁.free, and_iff_left]
      intro r hr
      obtain ⟨p, hp, -⟩ := exists_of_mem_mapM h.referred hentry
      by_cases hnone : content.credit = none
      · rw [SaleContent.creditPayments, if_pos hnone] at hr
        exact absurd hr not_mem_nil
      · rw [h.credit hnone] at hp
        exact absurd hp not_mem_nil
    obtain ⟨hall, hsome⟩ := @insertRequested_all collate content saleId referred till₁
      (htook₁.opened h.opened) (requestedRow_amounts h.sound h.referred)
      (methods_referred h.referred ▸ h.distinct)
      (fun entry hentry id hid ↦ hterminals ▸ linkReady_referred h.sound h.referred entry hentry
        id hid)
    by_cases hterminal : till.TerminalFree collate content
    · obtain ⟨till₂, hloop, htook₂⟩ := hall fun entry hentry ↦
        (hnocredit entry hentry).mpr (hrefer.mpr hterminal entry hentry)
      have hinsert : insertPayments collate content saleId referred till =
          content.loyaltyPayments.foldlM (insertPayment collate content saleId) till₂ := by
        rw [insertPayments, hcredit, ok_bind, hloop, ok_bind]
      obtain ⟨hclash, hfree⟩ := insertLoyalty_outcome h (htook₁.trans htook₂)
      rw [hinsert]
      exact ⟨fun hnot ↦ hclash fun hpoints ↦ hnot ⟨hpoints, hterminal⟩, fun hboth ↦ hfree hboth.1⟩
    · refine ⟨fun _ ↦ ?_, fun hboth ↦ absurd hboth.2 hterminal⟩
      have htaken : ∃ entry ∈ referred, ¬till₁.Free collate saleId (requestedRow entry) := by
        by_contra hnone
        push Not at hnone
        exact hterminal (hrefer.mp fun entry hentry ↦
          (hnocredit entry hentry).mp (hnone entry hentry))
      rw [insertPayments, hcredit, ok_bind, hsome htaken, error_bind]
  · -- nothing to pay on credit: then no points are worth anything
    constructor
    · intro hclash
      refine absurd ⟨?_, ?_⟩ hclash
      · intro loyalty hloyalty _ hvalue
        exact absurd (h.payable loyalty hloyalty hvalue) (not_lt.mpr hpayable)
      · intro p hp
        rw [h.credit hcredit] at hp
        exact absurd hp not_mem_nil
    · intro _
      right
      rw [insertPayments, hfailed, error_bind]

end Insertions

/-! ### The request -/

/-- A request that the quote and the preparation of its payments accept, under a new key. -/
structure Accepted (toUpperCase : Text → Text) (till : Till) (r : SaleRequest)
    (content : SaleContent) : Prop where
  valid : r.dto.Valid
  credit : assertCredit r = .ok ⟨⟩
  fingerprint : (saleFingerprint toUpperCase r.dto).toOption.isSome = true
  unusedKey : till.desk.saleByKey r.idempotencyKey = none
  prepared : prepareSale toUpperCase till.desk.shop r = .ok content

/-- The rest of the transaction of a request meets no duplicate of its own. -/
def Commit.NoDuplicate (commit : Commit) (till : Till) (r : SaleRequest) (content : SaleContent) :
    Prop :=
  Avoids (commit (till.uuid till.drawn) r.idempotencyKey till.desk.shop content)
    (.store .duplicateEntry)

variable {fingerprint : SaleFingerprint} {idempotencyKey : Text} {commit : Commit} {e : SaleFailure}
  {referred : List (PreparedPayment × Option Text)}

theorem createSale_eq (h : Accepted toUpperCase till r content)
    (hfingerprint : saleFingerprint toUpperCase r.dto = .ok fingerprint) (commit : Commit) :
    till.createSale toUpperCase collate commit r =
      till.persistSale collate commit r.idempotencyKey fingerprint content := by
  rw [Till.createSale, h.credit, hfingerprint, h.prepared, h.unusedKey]
  rfl

theorem SaleFailure.isDuplicate_iff :
    e.isDuplicate = true ↔ e = .duplicateEntry ∨ e = .cart (.store .duplicateEntry) := by
  constructor
  · intro h
    unfold SaleFailure.isDuplicate at h
    split at h
    · exact .inl rfl
    · exact .inr rfl
    · cases h
  · rintro (rfl | rfl) <;> rfl

theorem avoids_referPayments (h : ∀ reason, .paymentTerminalOperation reason ≠ e) :
    Avoids (till.referPayments content) e := by
  refine avoids_mapM (fun p ↦ ?_) content.payments
  unfold referPayment
  cases p.terminalOperationId with
  | none => exact avoids_pure _
  | some id =>
    refine avoids_map ?_
    refine avoids_bind (avoids_demand (h _)) fun _ _ ↦ ?_
    refine avoids_ensure_bind (h _) fun _ ↦ ?_
    refine avoids_ensure_bind (h _) fun _ ↦ ?_
    refine avoids_ensure_bind (h _) fun _ ↦ ?_
    refine avoids_ensure_bind (h _) fun _ ↦ ?_
    exact avoids_ensure_bind (h _) fun _ ↦ avoids_demand (h _)

/-- **A new sale is refused for its references** exactly when its transaction meets a duplicate. -/
theorem persistSale_conflict_iff (hunused : till.desk.saleByKey idempotencyKey = none)
    (hlocked : Avoids (till.persistLocked collate commit idempotencyKey fingerprint content)
      .paymentReferenceConflict) :
    till.persistSale collate commit idempotencyKey fingerprint content =
        .error .paymentReferenceConflict ↔
      ∃ e, till.persistLocked collate commit idempotencyKey fingerprint content = .error e ∧
        e.isDuplicate = true := by
  unfold Till.persistSale
  cases h : till.persistLocked collate commit idempotencyKey fingerprint content with
  | ok till' => exact iff_of_false (by simp) (by simp)
  | error e =>
    simp only [hunused]
    by_cases hduplicate : e.isDuplicate = true
    · rw [if_pos hduplicate]
      exact iff_of_true rfl ⟨e, rfl, hduplicate⟩
    · rw [if_neg hduplicate]
      refine iff_of_false (fun heq ↦ ?_) ?_
      · rw [Except.error.injEq] at heq
        exact hlocked (h.trans (congrArg _ heq))
      · rintro ⟨e', he', hduplicate'⟩
        rw [Except.error.injEq] at he'
        exact hduplicate (he' ▸ hduplicate')

def Till.committed (till : Till) (idempotencyKey : Text) (fingerprint : SaleFingerprint)
    (content : SaleContent) (shop : Shop) : Till :=
  { till with
    drawn := till.drawn + 1
    desk := {
      shop := shop
      sales := till.desk.sales ++ [{
        idempotencyKey := idempotencyKey, fingerprint := fingerprint, content := content }] } }

theorem persistLocked_new (hunused : till.desk.saleByKey idempotencyKey = none) :
    till.persistLocked collate commit idempotencyKey fingerprint content = (do
      let referred ← till.referPayments content
      let shop ←
        (commit (till.uuid till.drawn) idempotencyKey till.desk.shop content).mapError .cart
      insertPayments collate content (till.uuid till.drawn) referred
        (till.committed idempotencyKey fingerprint content shop)) := by
  rw [Till.persistLocked, hunused]
  rfl

section

variable (huuid : Function.Injective till.uuid) (hnumbered : till.Numbered)
  (h : Accepted toUpperCase till r content)
include huuid hnumbered h

theorem inserting_committed
    (hreferred : till.referPayments content = .ok referred) (idempotencyKey : Text)
    (fingerprint : SaleFingerprint) (shop : Shop) :
    Inserting (till.committed idempotencyKey fingerprint content shop) (till.uuid till.drawn)
      content referred := by
  obtain ⟨hsound, hdistinct, hcredit, hpayable⟩ := prepareSale_payments h.valid h.prepared
  refine ⟨huuid, hnumbered.mono rfl rfl (Nat.le_succ _), ⟨till.drawn, Nat.lt_succ_self _, rfl⟩, ?_,
    hsound, hdistinct, hcredit, hpayable, hreferred⟩
  intro old hold hid
  obtain ⟨n, hn, hsale⟩ := hnumbered.sales old hold
  have heq : till.uuid n = till.uuid till.drawn := hsale.symm.trans hid
  exact absurd (huuid heq) (Nat.ne_of_lt hn)

/-- **An accepted request at a till** is refused for its references exactly when the till cannot
take its payments. -/
theorem createSale_avoids_iff (hunused : till.Unused collate content) :
    (∀ commit : Commit, commit.NoDuplicate till r content →
      Avoids (till.createSale toUpperCase collate commit r) .paymentReferenceConflict) ↔
      till.CanTake collate content := by
  obtain ⟨fingerprint, hfingerprint⟩ : ∃ fingerprint,
      saleFingerprint toUpperCase r.dto = .ok fingerprint := ⟨_, eq_ok_get h.fingerprint⟩
  constructor
  · intro havoids hrefer
    by_contra hclash
    obtain ⟨referred, hreferred⟩ : ∃ referred, till.referPayments content = .ok referred :=
      ⟨_, eq_ok_get hrefer⟩
    -- the rest of the transaction may succeed
    let commit : Commit := fun _ _ shop _ ↦ .ok shop
    have hinsert := (insertPayments_outcome (inserting_committed huuid hnumbered h hreferred
      r.idempotencyKey fingerprint till.desk.shop) hunused).1 hclash
    have hlocked : till.persistLocked collate commit r.idempotencyKey fingerprint content =
        .error .duplicateEntry := by
      rw [persistLocked_new h.unusedKey, hreferred, ok_bind]
      exact hinsert
    refine havoids commit nofun ?_
    rw [createSale_eq h hfingerprint]
    exact (persistSale_conflict_iff h.unusedKey (by rw [hlocked]; exact nofun)).mpr
      ⟨_, hlocked, rfl⟩
  · intro hcan commit hcommit
    have hlocked : ∀ e, (e.isDuplicate = true ∨ e = .paymentReferenceConflict) →
        Avoids (till.persistLocked collate commit r.idempotencyKey fingerprint content) e := by
      intro e he
      have hcases : e = .duplicateEntry ∨ e = .cart (.store .duplicateEntry) ∨
          e = .paymentReferenceConflict := by
        rw [SaleFailure.isDuplicate_iff, or_assoc] at he
        exact he
      rw [persistLocked_new h.unusedKey]
      refine avoids_bind (avoids_referPayments ?_) fun referred hreferred ↦ ?_
      · rintro reason rfl
        rcases hcases with heq | heq | heq <;> cases heq
      refine avoids_bind ?_ fun shop _ ↦ ?_
      · intro herror
        cases hshop : commit (till.uuid till.drawn) r.idempotencyKey till.desk.shop content with
        | ok shop =>
          rw [hshop] at herror
          cases herror
        | error failure =>
          rw [hshop] at herror
          cases herror
          rcases hcases with heq | heq | heq
          · cases heq
          · cases heq
            exact hcommit hshop
          · cases heq
      · rcases (insertPayments_outcome (inserting_committed huuid hnumbered h hreferred
          r.idempotencyKey fingerprint shop) hunused).2 (hcan (by rw [hreferred]; rfl)) with
          ⟨till', hok⟩ | hcheck
        · rw [hok]
          exact avoids_ok till'
        · rw [hcheck]
          refine avoids_error ?_
          rintro rfl
          rcases hcases with heq | heq | heq <;> cases heq
    rw [createSale_eq h hfingerprint]
    intro hconflict
    obtain ⟨e, he, hduplicate⟩ := (persistSale_conflict_iff h.unusedKey
      (hlocked _ (.inr rfl))).mp hconflict
    exact hlocked e (.inl hduplicate) he

end

/-! ### Runs -/

theorem insertPayment_took (hopened : till.Opened saleId)
    (h : insertPayment collate content saleId till row = .ok till') :
    Took collate saleId [row] till till' := by
  have hparts := h
  simp only [insertPayment, eq_ok] at hparts
  obtain ⟨-, hamounts, -, hfree, -⟩ := hparts
  obtain ⟨till₁, hinsert, htook, -⟩ := insertPayment_free collate content hopened hamounts hfree
  rw [hinsert, Except.ok.injEq] at h
  exact h ▸ htook

theorem insertRequested_took (hopened : till.Opened saleId)
    (h : insertRequested collate content saleId till entry = .ok till') :
    Took collate saleId [requestedRow entry] till till' := by
  obtain ⟨till₁, hinsert, hlink⟩ := bind_eq_ok.mp h
  have htook := insertPayment_took hopened hinsert
  unfold linkSale at hlink
  split at hlink
  · rw [pure_eq_ok] at hlink
    exact hlink ▸ htook
  · obtain ⟨-, -, hlink⟩ := bind_eq_ok.mp hlink
    rw [pure_eq_ok] at hlink
    subst hlink
    exact ⟨htook.uuid, htook.desk, htook.drawn, ⟨htook.numbered.ids, htook.numbered.sales⟩,
      htook.kept, htook.free, htook.took⟩

theorem foldlM_took {α : Type} {f : Till → α → Except SaleFailure Till} (row : α → NewPayment)
    (hf : ∀ {till till' a}, till.Opened saleId → f till a = .ok till' →
      Took collate saleId [row a] till till') :
    ∀ {l : List α} {till till' : Till}, till.Opened saleId → l.foldlM f till = .ok till' →
      Took collate saleId (l.map row) till till' := by
  intro l
  induction l with
  | nil =>
    intro till till' hopened h
    rw [foldlM_nil_eq_ok] at h
    exact h ▸ Took.refl hopened.numbered
  | cons a l ih =>
    intro till till' hopened h
    obtain ⟨till₁, hturn, h⟩ := foldlM_cons_eq_ok.mp h
    have htook := hf hopened hturn
    exact htook.trans (ih (htook.opened hopened) h)

theorem insertPayments_took (hopened : till.Opened saleId)
    (h : insertPayments collate content saleId referred till = .ok till') :
    Took collate saleId
      (content.creditPayments ++ referred.map requestedRow ++ content.loyaltyPayments)
      till till' := by
  obtain ⟨till₁, hcredit, h⟩ := bind_eq_ok.mp h
  obtain ⟨till₂, hrequested, hloyalty⟩ := bind_eq_ok.mp h
  have htook₁ := foldlM_took id insertPayment_took hopened hcredit
  have htook := htook₁.trans
    (foldlM_took requestedRow insertRequested_took (htook₁.opened hopened) hrequested)
  have hall := htook.trans (foldlM_took id insertPayment_took (htook.opened hopened) hloyalty)
  rwa [map_id, map_id] at hall

/-- **What every till keeps**: its identifiers have been drawn, and the points that a sale has
redeemed are on record. -/
structure Till.Recorded (uuid : ℕ → Uuid) (till : Till) : Prop where
  uuid_eq : till.uuid = uuid
  numbered : till.Numbered
  points : ∀ sale ∈ till.desk.sales, ∀ loyalty, sale.content.loyalty = some loyalty →
    0 < loyalty.pointsRedeemed → ∃ p ∈ till.payments.rows, p.method = .VOUCHER ∧
      p.externalReference = some (pointsReference loyalty.pointsRedeemed)

section Runs

variable {uuid : ℕ → Uuid} {toUpperCase : Text → Text}

variable {fingerprint : SaleFingerprint}

theorem replay_eq_ok {sale : RecordedSale} (h : till.replay fingerprint sale = .ok till') :
    till' = till := by
  obtain ⟨-, -, h⟩ := bind_eq_ok.mp h
  exact (pure_eq_ok.mp h).symm

theorem persistSale_eq_ok
    (h : till.persistSale collate commit idempotencyKey fingerprint content = .ok till') :
    till' = till ∨ till.desk.saleByKey idempotencyKey = none ∧
      till.persistLocked collate commit idempotencyKey fingerprint content = .ok till' := by
  have hlocked : till' = till ∨
      till.persistLocked collate commit idempotencyKey fingerprint content = .ok till' := by
    unfold Till.persistSale at h
    split at h
    case h_1 till₁ hlocked =>
      rw [Except.ok.injEq] at h
      exact .inr (h ▸ hlocked)
    case h_2 =>
      split at h
      · split at h
        · exact .inl (replay_eq_ok h)
        · cases h
      · cases h
  rcases hlocked with rfl | hlocked
  · exact .inl rfl
  · cases hkey : till.desk.saleByKey idempotencyKey with
    | some sale =>
      rw [Till.persistLocked, hkey] at hlocked
      exact .inl (replay_eq_ok hlocked)
    | none => exact .inr ⟨rfl, hlocked⟩

theorem Till.Recorded.of_persistSale (huuid : Function.Injective uuid) (h : till.Recorded uuid)
    (hpersist : till.persistSale collate commit idempotencyKey fingerprint content = .ok till') :
    till'.Recorded uuid := by
  obtain ⟨rfl, hnumbered, hpoints⟩ := h
  rcases persistSale_eq_ok hpersist with rfl | ⟨hkey, hlocked⟩
  · exact ⟨rfl, hnumbered, hpoints⟩
  · rw [persistLocked_new hkey] at hlocked
    obtain ⟨referred, -, hlocked⟩ := bind_eq_ok.mp hlocked
    obtain ⟨shop, -, hinsert⟩ := bind_eq_ok.mp hlocked
    have hopened : (till.committed idempotencyKey fingerprint content shop).Opened
        (till.uuid till.drawn) :=
      ⟨huuid, hnumbered.mono rfl rfl (Nat.le_succ _), till.drawn, Nat.lt_succ_self _, rfl⟩
    have htook := insertPayments_took hopened hinsert
    refine ⟨htook.uuid, htook.numbered, ?_⟩
    rw [htook.desk]
    intro sale hsale loyalty hloyalty hredeemed
    rcases mem_append.mp hsale with hsale | hsale
    · obtain ⟨p, hp, hvalues⟩ := hpoints sale hsale loyalty hloyalty hredeemed
      exact ⟨p, htook.kept.subset hp, hvalues⟩
    · rw [mem_singleton] at hsale
      subst hsale
      have hrow : loyaltyRow loyalty ∈ content.loyaltyPayments := by
        rw [SaleContent.loyaltyPayments, show content.loyalty = some loyalty from hloyalty,
          Option.filter_some, if_pos (decide_eq_true hredeemed)]
        exact mem_singleton_self _
      exact htook.took _ (mem_append_right _ hrow)

/-- **One event at the till.** -/
theorem Till.Recorded.of_step (huuid : Function.Injective uuid) (h : till.Recorded uuid)
    {event : TillEvent} (hstep : tillStep toUpperCase collate till event = .ok till') :
    till'.Recorded uuid := by
  cases event with
  | sale commit r =>
    simp only [tillStep, Till.createSale, bind_eq_ok] at hstep
    obtain ⟨-, -, fingerprint, -, hstep⟩ := hstep
    split at hstep
    · exact replay_eq_ok hstep ▸ h
    · obtain ⟨content, -, hstep⟩ := bind_eq_ok.mp hstep
      exact h.of_persistSale huuid hstep
  | other shop terminals =>
    rw [tillStep, pure_eq_ok] at hstep
    subst hstep
    exact ⟨h.uuid_eq, ⟨h.numbered.ids, h.numbered.sales⟩, h.points⟩

end Runs

def tillRun (toUpperCase collate : Text → Text) (uuid : ℕ → Uuid) (shop : Shop)
    (terminals : Table TerminalOperation) (events : List TillEvent) : Till :=
  Outcome.run (tillStep toUpperCase collate) (Till.fresh uuid shop terminals) events

theorem recorded_run (toUpperCase collate : Text → Text) {uuid : ℕ → Uuid}
    (huuid : Function.Injective uuid) (shop : Shop) (terminals : Table TerminalOperation)
    (events : List TillEvent) :
    (tillRun toUpperCase collate uuid shop terminals events).Recorded uuid := by
  refine run_induct (fun _ _ _ h hstep ↦ h.of_step huuid hstep) ?_ events
  exact ⟨rfl, ⟨forall_mem_nil _, forall_mem_nil _⟩,
    forall_mem_nil _⟩

/-- **Payments that never collide.** A request with unused references is never refused for one
exactly when its points and its terminal are free. -/
theorem payments_never_collide_iff (toUpperCase collate : Text → Text) {uuid : ℕ → Uuid}
    (huuid : Function.Injective uuid) (shop : Shop) (terminals : Table TerminalOperation)
    (events : List TillEvent) {till : Till}
    (htill : till = tillRun toUpperCase collate uuid shop terminals events)
    {content : SaleContent} (haccepted : Accepted toUpperCase till r content)
    (hunused : till.Unused collate content) :
    (∀ commit : Commit, commit.NoDuplicate till r content →
      Avoids (till.createSale toUpperCase collate commit r) .paymentReferenceConflict) ↔
      till.CanTake collate content := by
  have hrecorded := recorded_run toUpperCase collate huuid shop terminals events
  rw [← htill] at hrecorded
  refine createSale_avoids_iff ?_ hrecorded.numbered haccepted hunused
  rw [hrecorded.uuid_eq]
  exact huuid

/-! ### Two customers with as many points -/

/-- Two customers with a hundred points each, worth five units; a product costs ten. -/
def pointsShop : Shop :=
  let shop := Shop.opened
    ⟨[{ id := 1, available := true }, { id := 2, available := true }], by decide⟩ 1000
  { shop with
    store := { shop.store with
      loyalty := {
        rules := .ofRow {
          id := 0, version := 1, active := true, earnAmount := 1000, earnPoints := 1
          redeemPoints := 100, redeemAmount := 500, expirationDays := none }
        entries := ⟨[1, 2].map fun customerId ↦ {
          id := customerId - 1, customerId := customerId, ruleId := 0, saleId := none
          saleReturnId := none, type := .EARN, pointsDelta := 100
          idempotencyKey := .earn [customerId], expiresAt := none, createdAt := 0
          allocations := [] }, by decide⟩ } } }

/-- One unit, for a hundred points of a customer and the rest in cash. -/
def hundredPoints (customerId : Uuid) : SaleRequest where
  place := ⟨1, 1, 1, 1⟩
  idempotencyKey := [customerId]
  dto := {
    customerId := some customerId
    loyaltyPointsToRedeem := some 100
    lines := [{ productId := 7, quantity := .ofNat 1 }]
    payment := some { method := .CASH, amountReceived := some (.ofNat 5) } }

/-- What a sale does to this shop: the points are debited, the quantities leave the stock. -/
def bookSale : Commit := fun saleId idempotencyKey shop content ↦ do
  let loyalty ← (match content.customerId, content.loyalty with
    | some customerId, some quote =>
      applySale shop.store {
        customerId := customerId, saleId := saleId, idempotencyKey := idempotencyKey,
        saleTotal := content.totals.total.toNat, quote := quote, clock := shop.clock }
    | _, _ => pure shop.store.loyalty).mapError CartFailure.store
  pure { shop with
    store := { shop.store with loyalty := loyalty }
    getProducts := fun warehouseId reservationId id ↦
      (shop.getProducts warehouseId reservationId id).map fun product ↦ { product with
        availableQuantity := product.availableQuantity - (content.lines.map fun line ↦
          if line.product.productId = id then line.product.quantity else 0).sum } }

def pointsTill : Till :=
  tillRun id id id pointsShop Table.empty [.sale bookSale (hundredPoints 1)]

def pointsContent : Except CartFailure SaleContent :=
  prepareSale id pointsTill.desk.shop (hundredPoints 2)

theorem isSome_pointsContent : pointsContent.toOption.isSome = true := by
  decide +kernel

theorem hundredPoints_accepted :
    Accepted id pointsTill (hundredPoints 2) (pointsContent.toOption.get isSome_pointsContent) where
  valid := ⟨by decide, by decide⟩
  credit := rfl
  fingerprint := by decide +kernel
  unusedKey := by decide +kernel
  prepared := eq_ok_get isSome_pointsContent

theorem hundredPoints_unused :
    pointsTill.Unused id (pointsContent.toOption.get isSome_pointsContent) := by
  have hcash : ∀ p ∈ (pointsContent.toOption.get isSome_pointsContent).payments,
      p.reference = none := by decide +kernel
  intro p hp reference href
  rw [hcash p hp] at href
  cases href

theorem payments_never_collide_iff_hundredPoints :
    (∀ commit : Commit, commit.NoDuplicate pointsTill (hundredPoints 2)
        (pointsContent.toOption.get isSome_pointsContent) →
      Avoids (pointsTill.createSale id id commit (hundredPoints 2)) .paymentReferenceConflict) ↔
      pointsTill.CanTake id (pointsContent.toOption.get isSome_pointsContent) :=
  payments_never_collide_iff id id Function.injective_id pointsShop Table.empty
    [.sale bookSale (hundredPoints 1)] rfl hundredPoints_accepted hundredPoints_unused

/-- **As many points of another customer** are refused as the reference of a payment. -/
theorem points_collide : ¬∀ (toUpperCase collate : Text → Text) (uuid : ℕ → Uuid) (shop : Shop)
    (terminals : Table TerminalOperation) (events : List TillEvent) (till : Till)
    (r : SaleRequest) (content : SaleContent) (commit : Commit), Function.Injective uuid →
    till = tillRun toUpperCase collate uuid shop terminals events →
    Accepted toUpperCase till r content → till.Unused collate content →
    commit.NoDuplicate till r content →
    Avoids (till.createSale toUpperCase collate commit r) .paymentReferenceConflict := by
  intro h
  refine h id id id pointsShop Table.empty [.sale bookSale (hundredPoints 1)] pointsTill
    (hundredPoints 2) (pointsContent.toOption.get isSome_pointsContent) bookSale
    Function.injective_id rfl hundredPoints_accepted hundredPoints_unused ?_ rfl
  intro hduplicate
  have hbooked : (bookSale (pointsTill.uuid pointsTill.drawn) (hundredPoints 2).idempotencyKey
      pointsTill.desk.shop (pointsContent.toOption.get isSome_pointsContent)).toOption.isSome =
        true := by decide +kernel
  rw [hduplicate] at hbooked
  cases hbooked

end UInventario.Pos.Cart
