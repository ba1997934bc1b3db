import UInventario.Pos.PaymentReferences
import UInventario.Pos.Terminals

/-!
# What becomes of a terminal operation

`Guarded` is what one step of a run owes: an operation that a sale has linked stays with it, with
its amount and currency; one that is cancelled or declined stays so; and the provider is not asked
to cancel one that a sale has linked.

The first holds in every run: `linkSale` takes an operation that is captured and free, under a lock.
The others depend on what has happened since a request read the row, since `updateState` looks at
the sale of the row and not at its status, and `cancel` asks the provider before it looks again.
`Undisturbed` is the condition. `terminal_captures` is the result for runs, and
`terminal_captures_overtaken` has two runs in which a look-up and a sale come between.
-/

namespace UInventario.Pos.Terminals

open Outcome Processes Cart Table List

def Closed (row : TerminalOperation) : Prop :=
  row.status = .CANCELLED ∨ row.status = .DECLINED
deriving Decidable

variable {context : TerminalContext} {ops ops' : Table TerminalOperation} {till till' : Till}
  {u : Update} {collate : Text → Text} {content : SaleContent} {saleId : Uuid}
  {referred : List (PreparedPayment × Option Text)} {entry : PreparedPayment × Option Text}
  {row' : TerminalOperation} {payments : Table PaymentRow} {row : TerminalOperation} {p : Process}
  {s : TerminalStore}

/-! ### Operations go on -/

/-- **An operation goes on**: what it was started with stays, and once it has a sale all of it. -/
structure Continues (row row' : TerminalOperation) : Prop where
  amount : row'.amount = row.amount
  currency : row'.currency = row.currency
  linked : row.saleId ≠ none → row' = row

theorem Continues.refl (row : TerminalOperation) : Continues row row :=
  ⟨rfl, rfl, fun _ ↦ rfl⟩

def OperationsContinue (ops ops' : Table TerminalOperation) : Prop :=
  ∀ id row, ops.find? id = some row → ∃ row', ops'.find? id = some row' ∧ Continues row row'

theorem OperationsContinue.refl (ops : Table TerminalOperation) : OperationsContinue ops ops :=
  fun _ row hrow ↦ ⟨row, hrow, .refl row⟩

theorem OperationsContinue.of_update (f : TerminalOperation → TerminalOperation)
    (hf : ∀ row, (f row).id = row.id) {id : Uuid}
    (hrow : ∀ row, ops.find? id = some row → Continues row (f row)) :
    OperationsContinue ops (ops.update id f hf) := by
  intro id' row hfound
  by_cases hid : id' = id
  · subst hid
    rw [find?_update_self, hfound]
    exact ⟨f row, rfl, hrow row hfound⟩
  · rw [find?_update_of_ne hid]
    exact ⟨row, hfound, .refl row⟩

/-! ### Linked operations are paid -/

def PaidInto (payments : Table PaymentRow) (row : TerminalOperation) : Prop :=
  ∀ saleId, row.saleId = some saleId → ∃ payment ∈ payments.rows, payment.saleId = saleId ∧
    payment.amountApplied = row.amount ∧ payment.currency = row.currency ∧
    payment.externalReference = row.providerReference

/-- **Every operation that a sale has linked is paid into it**, with its amount and currency and
under its reference. -/
def LinkedPaid (till : Till) : Prop :=
  ∀ row ∈ till.terminals.rows, PaidInto till.payments row

theorem PaidInto.mono {payments' : Table PaymentRow}
    (h : PaidInto payments row) (hsub : ∀ p ∈ payments.rows, p ∈ payments'.rows) :
    PaidInto payments' row := by
  intro saleId hsale
  obtain ⟨payment, hpayment, hvalues⟩ := h saleId hsale
  exact ⟨payment, hsub payment hpayment, hvalues⟩

theorem paidInto_update (f : TerminalOperation → TerminalOperation)
    (hf : ∀ row, (f row).id = row.id) {id : Uuid}
    (hrow : ∀ row, ops.find? id = some row → PaidInto payments (f row))
    (h : ∀ row ∈ ops.rows, PaidInto payments row) :
    ∀ row ∈ (ops.update id f hf).rows, PaidInto payments row := by
  intro row' hrow'
  obtain ⟨row, hmem, -, hself, hother⟩ := exists_of_mem_update hrow'
  by_cases hkey : Keyed.key row = id
  · rw [hself hkey]
    exact hrow row (hkey ▸ find?_key_of_mem hmem)
  · rw [hother hkey]
    exact h row hmem

theorem insertPayment_eq_ok {row : NewPayment}
    (h : insertPayment collate content saleId till row = .ok till') :
    till'.terminals = till.terminals ∧ (∀ p ∈ till.payments.rows, p ∈ till'.payments.rows) ∧
      ∃ p ∈ till'.payments.rows, p.saleId = saleId ∧ p.amountApplied = row.amountApplied ∧
        p.currency = content.currency ∧ p.externalReference = row.externalReference := by
  simp only [insertPayment, eq_ok] at h
  obtain ⟨⟨⟩, -, ⟨⟩, -, payments, hinsert, rfl⟩ := h
  refine ⟨rfl, fun p hp ↦ (mem_insert hinsert).mpr (.inl hp), _,
    (mem_insert hinsert).mpr (.inr rfl), rfl, rfl, rfl, rfl⟩

/-- What is known of a payment of a request while the payments are inserted. -/
def Referred (content : SaleContent) (till : Till) (entry : PreparedPayment × Option Text) : Prop :=
  ∀ id, entry.1.terminalOperationId = some id → ∀ row, till.terminals.find? id = some row →
    row.amount = entry.1.amountApplied ∧ row.currency = content.currency ∧
      entry.2 = row.providerReference

/-- A row after the payments of a sale: the same one, or linked by the sale. -/
def Links (row row' : TerminalOperation) : Prop :=
  row' = row ∨ row.saleId = none ∧ ∃ saleId, row' = { row with saleId := some saleId }

theorem Links.trans {row'' : TerminalOperation} (h : Links row row')
    (h' : Links row' row'') : Links row row'' := by
  rcases h with rfl | ⟨hfree, saleId, rfl⟩
  · exact h'
  · rcases h' with rfl | ⟨hfree', -⟩
    · exact .inr ⟨hfree, saleId, rfl⟩
    · exact absurd hfree' nofun

theorem Links.continues (h : Links row row') : Continues row row' := by
  rcases h with rfl | ⟨hfree, saleId, rfl⟩
  · exact .refl row'
  · exact ⟨rfl, rfl, fun hlinked ↦ absurd hfree hlinked⟩

theorem Links.status (h : Links row row') : row'.status = row.status := by
  rcases h with rfl | ⟨-, saleId, rfl⟩ <;> rfl

/-- **What the insertion of payments keeps.** -/
structure Pays (till till' : Till) : Prop where
  paid : LinkedPaid till → LinkedPaid till'
  rows : ∀ id, Option.Rel Links (till.terminals.find? id) (till'.terminals.find? id)

theorem Pays.forward (h : Pays till till') {id : Uuid} (hrow : till.terminals.find? id = some row) :
    ∃ row', till'.terminals.find? id = some row' ∧ Links row row' := by
  have hrel := h.rows id
  rw [hrow] at hrel
  cases hfound : till'.terminals.find? id with
  | none =>
    rw [hfound] at hrel
    exact absurd hrel nofun
  | some row' =>
    rw [hfound] at hrel
    cases hrel with
    | some hlinks => exact ⟨row', rfl, hlinks⟩

theorem Pays.back (h : Pays till till') {id : Uuid} (hrow : till'.terminals.find? id = some row') :
    ∃ row, till.terminals.find? id = some row ∧ Links row row' := by
  cases hfound : till.terminals.find? id with
  | none =>
    have hrel := h.rows id
    rw [hfound, hrow] at hrel
    exact absurd hrel nofun
  | some row =>
    obtain ⟨row₁, hrow₁, hlinks⟩ := h.forward hfound
    rw [hrow] at hrow₁
    cases hrow₁
    exact ⟨row, rfl, hlinks⟩

theorem Pays.continue (h : Pays till till') :
    OperationsContinue till.terminals till'.terminals := by
  intro id row hrow
  obtain ⟨row', hrow', hlinks⟩ := h.forward hrow
  exact ⟨row', hrow', hlinks.continues⟩

theorem Pays.trans {till₁ till₂ till₃ : Till} (h : Pays till₁ till₂) (h' : Pays till₂ till₃) :
    Pays till₁ till₃ := by
  refine ⟨fun hpaid ↦ h'.paid (h.paid hpaid), fun id ↦ ?_⟩
  cases hfound : till₁.terminals.find? id with
  | none =>
    cases hfound' : till₃.terminals.find? id with
    | none => exact .none
    | some row' =>
      obtain ⟨row₂, hrow₂, -⟩ := h'.back hfound'
      obtain ⟨row₁, hrow₁, -⟩ := h.back hrow₂
      exact absurd (hfound.symm.trans hrow₁) nofun
  | some row =>
    obtain ⟨row₂, hrow₂, hlinks⟩ := h.forward hfound
    obtain ⟨row₃, hrow₃, hlinks'⟩ := h'.forward hrow₂
    rw [hrow₃]
    exact .some (hlinks.trans hlinks')

theorem Pays.of_payments (hterminals : till'.terminals = till.terminals)
    (hpayments : ∀ p ∈ till.payments.rows, p ∈ till'.payments.rows) : Pays till till' := by
  refine ⟨fun hpaid row hrow ↦ ?_, fun id ↦ ?_⟩
  · rw [hterminals] at hrow
    exact (hpaid row hrow).mono hpayments
  · rw [hterminals]
    cases till.terminals.find? id with
    | none => exact .none
    | some row => exact .some (.inl rfl)

theorem Referred.later
    (h : Referred content till entry) (hpays : Pays till till') : Referred content till' entry := by
  intro id hid row' hrow'
  obtain ⟨row, hrow, hlinks⟩ := hpays.back hrow'
  obtain ⟨hamount, hcurrency, hreference⟩ := h id hid row hrow
  rcases hlinks with rfl | ⟨-, saleId, rfl⟩
  · exact ⟨hamount, hcurrency, hreference⟩
  · exact ⟨hamount, hcurrency, hreference⟩

theorem linkSale_eq_ok {operationId : Option Uuid}
    (h : linkSale till saleId operationId = .ok till') :
    (operationId = none ∧ till' = till) ∨ ∃ id row, operationId = some id ∧
      till.terminals.find? id = some row ∧ row.saleId = none ∧
      till' = { till with terminals := till.terminals.update id fun row ↦ { row with
        saleId := some saleId } } := by
  cases operationId with
  | none => exact .inl ⟨rfl, (pure_eq_ok.mp h).symm⟩
  | some id =>
    simp only [linkSale, eq_ok] at h
    obtain ⟨⟨⟩, hfree, rfl⟩ := h
    cases hrow : till.terminals.find? id with
    | none =>
      rw [hrow] at hfree
      exact absurd hfree nofun
    | some row =>
      rw [hrow, Option.any_some, decide_eq_true_eq] at hfree
      exact .inr ⟨id, row, rfl, hrow, hfree.2, rfl⟩

/-- **One payment of the request.** The operation that it links is paid by the row just inserted. -/
theorem insertRequested_pays (hreferred : Referred content till entry)
    (h : insertRequested collate content saleId till entry = .ok till') : Pays till till' := by
  obtain ⟨till₁, hinsert, hlink⟩ := bind_eq_ok.mp h
  obtain ⟨hterminals, hpayments, payment, hpayment, hsale, hamount, hcurrency, hreference⟩ :=
    insertPayment_eq_ok hinsert
  have hpays : Pays till till₁ := .of_payments hterminals hpayments
  rcases linkSale_eq_ok hlink with ⟨-, rfl⟩ | ⟨id, row, hid, hrow, hfree, rfl⟩
  · exact hpays
  · refine hpays.trans ⟨fun hpaid ↦ paidInto_update (fun row ↦ { row with saleId := some saleId })
      (fun _ ↦ rfl) (fun row' hrow' ↦ ?_) hpaid, fun id' ↦ ?_⟩
    · -- the row that is linked is the one that the payment has been matched with
      rw [hterminals] at hrow'
      obtain ⟨hrowAmount, hrowCurrency, hrowReference⟩ := hreferred id hid row' hrow'
      intro saleId' hsaleId'
      cases hsaleId'
      exact ⟨payment, hpayment, hsale, hamount.trans hrowAmount.symm,
        hcurrency.trans hrowCurrency.symm, hreference.trans hrowReference⟩
    · rw [find?_update]
      cases hfound : till₁.terminals.find? id' with
      | none => exact .none
      | some row' =>
        rw [Option.map_some]
        by_cases hsame : id' = id
        · subst hsame
          rw [hrow] at hfound
          cases hfound
          rw [if_pos rfl]
          exact .some (.inr ⟨hfree, saleId, rfl⟩)
        · rw [if_neg hsame]
          exact .some (.inl rfl)

theorem foldlM_insertPayment_pays {rows : List NewPayment}
    (h : rows.foldlM (insertPayment collate content saleId) till = .ok till') :
    Pays till till' := by
  refine foldlM_invariant (P := Pays till) (fun row _ till₁ till₂ hpays hturn ↦ ?_)
    (.of_payments rfl fun _ hp ↦ hp) h
  obtain ⟨hterminals, hpayments, -⟩ := insertPayment_eq_ok hturn
  exact hpays.trans (.of_payments hterminals hpayments)

theorem foldlM_insertRequested_pays {entries : List (PreparedPayment × Option Text)}
    (hreferred : ∀ entry ∈ entries, Referred content till entry)
    (h : entries.foldlM (insertRequested collate content saleId) till = .ok till') :
    Pays till till' := by
  refine foldlM_invariant (P := Pays till) (fun entry hentry till₁ till₂ hpays hturn ↦ ?_)
    (.of_payments rfl fun _ hp ↦ hp) h
  exact hpays.trans (insertRequested_pays ((hreferred entry hentry).later hpays) hturn)

theorem insertPayments_pays (hreferred : ∀ entry ∈ referred, Referred content till entry)
    (h : insertPayments collate content saleId referred till = .ok till') : Pays till till' := by
  obtain ⟨till₁, hcredit, h⟩ := bind_eq_ok.mp h
  obtain ⟨till₂, hrequested, hloyalty⟩ := bind_eq_ok.mp h
  have hpays := foldlM_insertPayment_pays hcredit
  have hpays' := hpays.trans (foldlM_insertRequested_pays
    (fun entry hentry ↦ (hreferred entry hentry).later hpays) hrequested)
  exact hpays'.trans (foldlM_insertPayment_pays hloyalty)

theorem referPayments_referred (h : till.referPayments content = .ok referred) :
    ∀ entry ∈ referred, Referred content till entry := by
  intro entry hentry id hid row hrow
  obtain ⟨payment, -, hrefer⟩ := exists_of_mem_mapM h hentry
  cases hoperation : payment.terminalOperationId with
  | none =>
    rw [referPayment, hoperation] at hrefer
    have hentry := (pure_eq_ok.mp hrefer).symm
    subst hentry
    exact absurd (hid.symm.trans hoperation) nofun
  | some operationId =>
    rw [referPayment, hoperation] at hrefer
    obtain ⟨reference, hreserve, hentry⟩ := bind_eq_ok.mp hrefer
    obtain rfl := (pure_eq_ok.mp hentry).symm
    have hsame : operationId = id := Option.some.inj (hoperation.symm.trans hid)
    subst hsame
    simp only [reserveCaptured, eq_ok] at hreserve
    obtain ⟨row', hrow', -, -, -, -, -, -, -, hamount, -, -, hreference⟩ := hreserve
    rw [hrow] at hrow'
    cases hrow'
    exact ⟨hamount.1, hamount.2, (Option.filter_eq_some_iff.mp hreference).1.symm⟩

/-- **A sale pays the operations that it links.** -/
theorem persistSale_pays {commit : Commit} {idempotencyKey : Text} {fingerprint : SaleFingerprint}
    (h : till.persistSale collate commit idempotencyKey fingerprint content = .ok till') :
    Pays till till' := by
  rcases persistSale_eq_ok h with rfl | ⟨hkey, hlocked⟩
  · exact .of_payments rfl fun _ hp ↦ hp
  · rw [persistLocked_new hkey] at hlocked
    obtain ⟨referred, hreferred, hlocked⟩ := bind_eq_ok.mp hlocked
    obtain ⟨shop, -, hinsert⟩ := bind_eq_ok.mp hlocked
    have hentries : ∀ entry ∈ referred,
        Referred content (till.committed idempotencyKey fingerprint content shop) entry :=
      referPayments_referred hreferred
    have hpays := insertPayments_pays hentries hinsert
    exact ⟨hpays.paid, hpays.rows⟩

/-! ### Turns -/

def Process.update? : Process → Option Update
  | .updating u => some u
  | .reconciling (item :: _) => reconcileUpdate item
  | _ => none

/-- **What a turn does to the store.** -/
inductive Reaches (context : TerminalContext) (p : Process) (s : TerminalStore) :
    TerminalStore → Prop
  | same : Reaches context p s s
  | inserted (input : StartInput) (ops : Table TerminalOperation)
      (h : s.terminals.insert input.row = some ops) : Reaches context p s (s.write ops)
  | updated (u : Update) (row : TerminalOperation) (hu : p.update? = some u)
      (hrow : s.terminals.find? u.read.id = some row) (hfree : row.saleId = none) :
      Reaches context p s (s.write (s.terminals.update u.read.id u.assign))
  | asked (found : TerminalOperation) (answer : TerminalState → Option TerminalState)
      (hp : p = .calling found answer) :
      Reaches context p s { s with cancellations := s.cancellations ++ [found.id] }
  | paid (till : Till) (h : Pays s.till till) : Reaches context p s { s with till := till }
  | changed (shop : Shop) : Reaches context p s
      { s with till := { s.till with desk := { s.till.desk with shop := shop } } }

theorem reaches_updateState (hu : p.update? = some u)
    (h : updateState context s.terminals u = .ok ops) : Reaches context p s (s.write ops) := by
  unfold updateState at h
  cases hrow : s.terminals.find? u.read.id with
  | none =>
    rw [hrow] at h
    cases h
  | some row =>
    rw [hrow] at h
    by_cases hfree : row.saleId = none
    · simp only [if_pos hfree, eq_ok] at h
      obtain ⟨-, -, -, -, rfl⟩ := h
      exact .updated u row hu hrow hfree
    · simp only [if_neg hfree, Except.ok.injEq] at h
      subst h
      exact .same

theorem reaches_turn (p : Process) (s : TerminalStore) :
    Reaches context p s (turn context p s).1 := by
  cases p with
  | inserting input =>
    cases hinsert : insertOperation context s.terminals input with
    | ok ops =>
      simp only [turn, hinsert]
      simp only [insertOperation, eq_ok] at hinsert
      obtain ⟨-, -, -, -, hrows⟩ := hinsert
      exact .inserted input ops hrows
    | error e =>
      have hsame : (turn context (.inserting input) s).1 = s := by
        rw [turn, hinsert]
        cases e <;> rfl
      rw [hsame]
      exact .same
  | calling found answer => exact .asked found answer rfl
  | updating u =>
    cases hupdate : updateState context s.terminals u with
    | ok ops =>
      simp only [turn, hupdate]
      exact reaches_updateState rfl hupdate
    | error e =>
      simp only [turn, hupdate]
      exact .same
  | reconciling items =>
    cases items with
    | nil => exact .same
    | cons item rest =>
      cases hu : reconcileUpdate item with
      | none =>
        simp only [turn, hu]
        exact .same
      | some u =>
        cases hupdate : updateState context s.terminals u with
        | ok ops =>
          simp only [turn, hu, hupdate]
          exact reaches_updateState hu hupdate
        | error e =>
          simp only [turn, hu, hupdate]
          exact .same
  | preparing commit request =>
    cases hprepare : prepare context s commit request with
    | ok q | error e =>
      simp only [turn, hprepare]
      exact .same
  | persisting commit idempotencyKey fingerprint content =>
    cases hpersist :
      s.till.persistSale context.collate commit idempotencyKey fingerprint content with
    | ok till =>
      simp only [turn, hpersist]
      exact .paid till (persistSale_pays hpersist)
    | error e =>
      simp only [turn, hpersist]
      exact .same
  | changing shop => exact .changed shop
  | reading | replaying | getting | cancelling | listing | finished | failed | refused =>
    exact .same

/-! ### What holds in every run -/

theorem Reaches.linkedPaid {s' : TerminalStore} (h : Reaches context p s s')
    (hpaid : LinkedPaid s.till) : LinkedPaid s'.till := by
  cases h with
  | same | asked found answer hp | changed shop => exact hpaid
  | inserted input ops hinsert =>
    exact (forall_mem_insert hinsert).mpr ⟨hpaid, fun _ h ↦ absurd h nofun⟩
  | updated u row hu hrow hfree =>
    refine paidInto_update u.assign (fun _ ↦ rfl) (fun row' hrow' saleId hsale ↦ ?_) hpaid
    rw [hrow] at hrow'
    cases hrow'
    exact absurd (hfree.symm.trans hsale) nofun
  | paid till hpays => exact hpays.paid hpaid

theorem Reaches.continue {s' : TerminalStore} (h : Reaches context p s s') :
    OperationsContinue s.terminals s'.terminals := by
  cases h with
  | same | asked found answer hp | changed shop => exact .refl _
  | inserted input ops hinsert =>
    exact fun id row hrow ↦ ⟨row, find?_insert_of_some hinsert hrow, .refl row⟩
  | updated u row hu hrow hfree =>
    refine .of_update u.assign (fun _ ↦ rfl) fun row' hrow' ↦ ?_
    rw [hrow] at hrow'
    cases hrow'
    exact ⟨rfl, rfl, fun hlinked ↦ absurd hfree hlinked⟩
  | paid till hpays => exact hpays.continue

/-! ### What depends on the others -/

/-- The answer that is about to be written does not take back what has become of the row. -/
def Update.Undisturbed (u : Update) (s : TerminalStore) : Prop :=
  u.state.status = .CANCELLED ∨ u.state.status = .DECLINED ∨
    (∀ row ∈ s.terminals.find? u.read.id, Closed row → Closed u.read) ∧
      (u.reconciled = true → ¬Closed u.read)
deriving Decidable

def Unlinked (found : TerminalOperation) (s : TerminalStore) : Prop :=
  ∀ row ∈ s.terminals.find? found.id, row.saleId = found.saleId
deriving Decidable

/-- **Nothing has come between** what the request has read and its next turn. -/
def Process.Undisturbed (s : TerminalStore) : Process → Prop
  | .updating u => u.Undisturbed s
  | .reconciling (item :: _) => ∀ u ∈ reconcileUpdate item, u.Undisturbed s
  | .calling found _ => Unlinked found s
  | _ => True

abbrev Undisturbed : State TerminalStore Process → Event TerminalRequest → Prop :=
  AtTurn fun st p ↦ p.Undisturbed st.store

/-- **What a step owes.** -/
structure Guarded (st st' : State TerminalStore Process) : Prop where
  paid : LinkedPaid st'.store.till
  once : ∀ id row, st.store.terminals.find? id = some row → row.saleId ≠ none →
    st'.store.terminals.find? id = some row
  closed : ∀ id row, st.store.terminals.find? id = some row → Closed row →
    ∃ row', st'.store.terminals.find? id = some row' ∧ Closed row'
  uncancelled : ∀ id row, st.store.terminals.find? id = some row → row.saleId ≠ none →
    st'.store.cancellations.count id = st.store.cancellations.count id

def Process.Stands : Process → Prop
  | .updating u => ¬Closed u.read ∧ u.reconciled = false
  | .calling found _ => ¬Closed found ∧ found.saleId = none
  | _ => True

def outline : Outline TerminalStore Process where
  Inv st := LinkedPaid st.store.till
  At p _ := p.Stands
  Apart _ _ := True
  symm := fun _ ↦ trivial

theorem reconcileUpdate_reconciled {item : TerminalOperation × Option TerminalState}
    (h : reconcileUpdate item = some u) : u.reconciled = true := by
  obtain ⟨state, -, h⟩ := Option.bind_eq_some_iff.mp h
  split at h
  · cases h
    rfl
  · cases h

theorem stands_initiate {input : StartInput} {pending : TerminalOperation} :
    (initiate context input pending).Stands := by
  unfold initiate
  split
  case isTrue hpending =>
    refine ⟨fun hclosed ↦ ?_, rfl⟩
    rcases hclosed with hclosed | hclosed <;> exact absurd (hpending.symm.trans hclosed) nofun
  case isFalse => trivial

theorem stands_turn (p : Process) (s : TerminalStore) (hp : p.Stands) :
    (turn context p s).2.Stands := by
  cases p with
  | inserting input =>
    cases hinsert : insertOperation context s.terminals input with
    | ok ops => simp only [turn, hinsert, Process.Stands]
    | error e => cases e <;> simp only [turn, hinsert, Process.Stands]
  | reading input =>
    show (readCreated context s input).Stands
    unfold readCreated
    split
    · trivial
    · exact stands_initiate
  | replaying input =>
    show (readReplayed context s input).Stands
    unfold readReplayed
    split
    · trivial
    · split
      · exact stands_initiate
      · trivial
  | getting operationId answer =>
    show (getDetails context s operationId answer).Stands
    unfold getDetails
    split
    · trivial
    · split
      case h_2.isTrue found _ hread =>
        split
        · trivial
        · refine ⟨fun hclosed ↦ ?_, rfl⟩
          rcases hclosed with hclosed | hclosed <;>
            exact absurd (hread.1.symm.trans hclosed) nofun
      case h_2.isFalse => trivial
  | cancelling operationId answer =>
    show (cancelDetails s operationId answer).Stands
    unfold cancelDetails
    split
    · trivial
    · split
      · trivial
      · split
        · trivial
        case h_2.isFalse.isFalse found _ hcancelled hfree =>
          rw [not_or, not_not] at hfree
          exact ⟨fun hclosed ↦ hclosed.elim hcancelled hfree.2, hfree.1⟩
  | calling found answer =>
    show (cancelAnswered context found answer).Stands
    unfold cancelAnswered
    split
    · trivial
    · exact ⟨hp.1, rfl⟩
  | updating u =>
    cases h : updateState context s.terminals u <;> simp only [turn, h, Process.Stands]
  | listing branchId listed answer =>
    show (listOperations context s branchId listed answer).Stands
    unfold listOperations
    dsimp only
    split <;> trivial
  | reconciling items =>
    cases items with
    | nil => trivial
    | cons item rest =>
      cases hu : reconcileUpdate item with
      | none => simp only [turn, hu, Process.Stands]
      | some u => cases h : updateState context s.terminals u <;>
          simp only [turn, hu, h, Process.Stands]
  | preparing commit request =>
    cases h : prepare context s commit request with
    | error e => simp only [turn, h, Process.Stands]
    | ok q =>
      simp only [turn, h]
      simp only [prepare, bind_eq_ok] at h
      obtain ⟨-, -, fingerprint, -, h⟩ := h
      split at h
      · simp only [eq_ok] at h
        obtain ⟨-, -, rfl⟩ := h
        trivial
      · simp only [eq_ok] at h
        obtain ⟨content, -, rfl⟩ := h
        trivial
  | persisting commit idempotencyKey fingerprint content =>
    cases h : s.till.persistSale context.collate commit idempotencyKey fingerprint content <;>
      simp only [turn, h, Process.Stands]
  | changing shop | finished | failed e | refused e => trivial

theorem keeps (context : TerminalContext) : outline.Keeps (terminals context) Undisturbed where
  start := fun st request hst _ ↦ by
    refine ⟨hst.inv, ?_, fun _ _ ↦ trivial⟩
    cases request with
    | start input =>
      show Process.Stands (if isIdempotencyKey input.idempotencyKey = true then _ else _)
      split <;> trivial
    | _ => trivial
  turn := fun st n p hst _ hp ↦
    ⟨(reaches_turn p st.store).linkedPaid hst.inv,
      stands_turn p st.store (hst.places p (mem_of_getElem? hp)),
      fun m q _ hq ↦ ⟨hst.places q (mem_of_getElem? hq), trivial⟩⟩

section

variable {s s' : TerminalStore} {id : Uuid} {p : Process} {row : TerminalOperation}
  (h : Reaches context p s s') (hp : p.Stands) (hC : p.Undisturbed s)
  (hrow : s.terminals.find? id = some row)
include h hp hC hrow

/-- **Cancelled and declined operations** at a turn. -/
theorem Reaches.closed (hclosed : Closed row) :
    ∃ row', s'.terminals.find? id = some row' ∧ Closed row' := by
  cases h with
  | same | asked found answer _ | changed shop => exact ⟨row, hrow, hclosed⟩
  | inserted input ops hinsert =>
    exact ⟨row, find?_insert_of_some hinsert hrow, hclosed⟩
  | updated u row₀ hu hrow₀ hfree =>
    show ∃ row', (s.terminals.update u.read.id u.assign).find? id = some row' ∧ _
    by_cases hid : id = u.read.id
    · subst hid
      rw [find?_update_self, hrow]
      refine ⟨u.assign row, rfl, ?_⟩
      have hundisturbed : u.Undisturbed s := by
        cases p with
        | updating => cases hu; exact hC
        | reconciling items =>
          cases items with
          | nil => cases hu
          | cons => exact hC u hu
        | _ => cases hu
      rcases hundisturbed with hcancelled | hdeclined | ⟨hsince, hread⟩
      · exact .inl hcancelled
      · exact .inr hdeclined
      · have hreadClosed := hsince row hrow hclosed
        cases p with
        | updating => cases hu; exact absurd hreadClosed hp.1
        | reconciling items =>
          cases items with
          | nil => cases hu
          | cons => exact absurd hreadClosed (hread (reconcileUpdate_reconciled hu))
        | _ => cases hu
    · rw [find?_update_of_ne hid]
      exact ⟨row, hrow, hclosed⟩
  | paid till hpays =>
    obtain ⟨row', hrow', hlinks⟩ := hpays.forward hrow
    refine ⟨row', hrow', ?_⟩
    rw [Closed, hlinks.status]
    exact hclosed

/-- **The provider's cancellations** at a turn. -/
theorem Reaches.uncancelled (hlinked : row.saleId ≠ none) :
    s'.cancellations.count id = s.cancellations.count id := by
  cases h with
  | asked found answer hcalling =>
    subst hcalling
    have hne : found.id ≠ id := by
      rintro rfl
      exact hlinked ((hC row hrow).trans hp.2)
    rw [count_append, count_singleton, if_neg (by simpa using hne), Nat.add_zero]
  | same | inserted | updated | paid | changed => rfl

end

theorem guarded_of_step {st st' : State TerminalStore Process} (hst : outline.Holds st)
    {event : Event TerminalRequest} (hC : Undisturbed st event)
    (h : step (terminals context) st event = .ok st') (hst' : outline.Holds st') :
    Guarded st st' := by
  cases event with
  | start request =>
    cases h
    exact ⟨hst'.inv, fun _ _ hrow _ ↦ hrow, fun _ row hrow hclosed ↦ ⟨row, hrow, hclosed⟩,
      fun _ _ _ _ ↦ rfl⟩
  | turn n =>
    obtain ⟨p, hp, rfl⟩ := step_turn_eq_ok.mp h
    have hreaches := @reaches_turn context p st.store
    have hstands := hst.places p (mem_of_getElem? hp)
    refine ⟨hst'.inv, fun id row hrow hlinked ↦ ?_, fun id row hrow hclosed ↦ ?_,
      fun id row hrow hlinked ↦ ?_⟩
    · obtain ⟨row', hrow', hgoes⟩ := hreaches.continue id row hrow
      exact hgoes.linked hlinked ▸ hrow'
    · exact hreaches.closed hstands (hC p hp) hrow hclosed
    · exact hreaches.uncancelled hstands (hC p hp) hrow hlinked

/-- **What becomes of terminal operations** when nothing comes between reading and acting. -/
theorem terminal_captures (context : TerminalContext) (uuid : ℕ → Uuid) (shop : Shop)
    (events : List (Event TerminalRequest))
    (h : Along (step (terminals context)) Undisturbed (.idle (.fresh uuid shop)) events) :
    Along (step (terminals context)) (fun st event ↦
      ∀ st', step (terminals context) st event = .ok st' → Guarded st st')
      (.idle (.fresh uuid shop)) events :=
  (keeps context).along (fun _ _ _ hst hC hstep hst' ↦ guarded_of_step hst hC hstep hst')
    (.idle fun _ h ↦ absurd h List.not_mem_nil) events h

/-! ### Runs -/

instance (s : TerminalStore) : (p : Process) → Decidable (p.Undisturbed s)
  | .updating u => inferInstanceAs (Decidable (u.Undisturbed s))
  | .reconciling (item :: _) =>
    inferInstanceAs (Decidable (∀ u ∈ reconcileUpdate item, u.Undisturbed s))
  | .calling found _ => inferInstanceAs (Decidable (Unlinked found s))
  | .reconciling [] | .inserting _ | .reading _ | .replaying _ | .getting .. | .cancelling ..
  | .listing .. | .preparing .. | .persisting .. | .changing _ | .finished | .failed _ | .refused
      _ =>
    .isTrue trivial

def plainContext : TerminalContext where
  toUpperCase := id
  collate := id
  pendingReference id := textOf "PENDING-" ++ [id]

def answered (status : TerminalStatus) (state : TerminalState) : TerminalState :=
  { state with
    providerReference := textOf "REF-1", status := status,
    authorizationCode := some (textOf "AUTH-1") }

def startOperation (answers : StartAnswers) : TerminalRequest := .start {
  branchId := 1, cashRegisterId := 1, amount := 1000, currency := .MXN, scenario := .SUCCESS,
  idempotencyKey := textOf "terminal-001", id := 30, answers := answers }

def captureOperation : TerminalRequest := startOperation {
  initiate := some ⟨textOf "REF-1", .PENDING, none, none⟩
  authorize state := some (answered .AUTHORIZED state)
  capture state := some (answered .CAPTURED state) }

def timeoutOperation : TerminalRequest := startOperation {
  initiate := none
  authorize _ := none
  capture _ := none }

/-- The cancellation, and a query that finds the operation captured. -/
def cancelOperation : TerminalRequest := .cancel 30 fun state ↦ some (answered .CANCELLED state)

/-- See `cancelOperation`. -/
def queryOperation : TerminalRequest := .get 30 fun state ↦ some (answered .CAPTURED state)

def saleByTerminal : TerminalRequest :=
  .createSale (fun _ _ shop _ ↦ .ok shop) {
    place := ⟨1, 1, 1, 1⟩
    idempotencyKey := textOf "sale-001"
    dto := {
      lines := [{ productId := 7, quantity := .ofNat 1 }]
      payment := some { method := .CARD, terminalOperationId := some 30 } } }

def threeTurns (request : TerminalRequest) (position : ℕ) : List (Event TerminalRequest) :=
  .start request :: List.replicate 3 (.turn position)

/-- **Captured and sold**, and a cancellation that comes too late. -/
theorem terminal_captures_sold : Along (step (terminals plainContext)) (fun st event ↦
      ∀ st', step (terminals plainContext) st event = .ok st' → Guarded st st')
      (.idle (.fresh id pointsShop))
      (threeTurns captureOperation 0 ++ threeTurns saleByTerminal 1 ++
        threeTurns cancelOperation 2) :=
  terminal_captures plainContext id pointsShop _ (by decide +kernel)

/-- **Two requests that are overtaken**: a stored cancellation becomes captured, and a linked
operation is cancelled. -/
theorem terminal_captures_overtaken :
    (let before := threeTurns timeoutOperation 0 ++
      [.start queryOperation, .turn 1] ++ threeTurns cancelOperation 2
    let st := run (step (terminals plainContext)) (.idle (.fresh id pointsShop)) before
    let st' := run (step (terminals plainContext)) (.idle (.fresh id pointsShop))
      (before ++ [.turn 1])
    st.store.terminals.rows.map TerminalOperation.status = [.CANCELLED] ∧
      st'.store.terminals.rows.map TerminalOperation.status = [.CAPTURED]) ∧
    (let before := threeTurns captureOperation 0 ++
      [.start cancelOperation, .turn 1] ++ threeTurns saleByTerminal 2
    let st := run (step (terminals plainContext)) (.idle (.fresh id pointsShop)) before
    let st' := run (step (terminals plainContext)) (.idle (.fresh id pointsShop))
      (before ++ [.turn 1])
    st.store.terminals.rows.map TerminalOperation.saleId = [some 0] ∧
      st.store.cancellations = [] ∧ st'.store.cancellations = [30]) := by
  decide +kernel

end UInventario.Pos.Terminals
