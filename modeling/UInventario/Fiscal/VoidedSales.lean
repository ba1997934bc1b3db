import UInventario.Fiscal.VoidDesk

/-!
# Voided sales and their fiscal documents

Whether a voided sale has a document still in force, and whether one is issued for it, in any
interleaving of requests on fiscal documents and transactions of the point of sale.

* At the provider a document that is cancelled or rejected stays so, and so every answer that says
  so is right for good (`Past`). Hence a row that is cancelled or rejected points to such a one.
* A sale that is voided with such a row is not issued again, and one without a row gets none:
  `insertDocument` looks at the sale.
* `voidSale` does not look at the row. `Settles` is the condition under which this does no harm.

`voided_sales_withdrawn` is the result for runs; `voidedInvoice` has a sale that is voided with an
accepted document, and one voided between the check and the provider.
-/

namespace UInventario.Fiscal

open Outcome Processes Table List Option

variable {provider : Provider} {receiptNumber : Uuid → Text} {sim sim' : Simulator}
  {documentId : Uuid} {document : SimulatorDocument} {s s' : FiscalDesk}
  {st st' : State FiscalDesk DeskProcess} {answer row : SimulatorDocument}

/-! ### Answers of the provider -/

/-- **An answer that has been right**: its document is there, cancelled or rejected if the answer
says so. -/
def Past (sim : Simulator) (answer : SimulatorDocument) : Prop :=
  ∃ row, sim.documents.find? answer.id = some row ∧
    (answer.status.Final → row.status = answer.status)

def Later (sim sim' : Simulator) : Prop :=
  ∀ d row, sim.documents.find? d = some row →
    ∃ row', sim'.documents.find? d = some row' ∧ (row.status.Final → row'.status = row.status)

theorem Later.refl (sim : Simulator) : Later sim sim := fun _ row hrow ↦ ⟨row, hrow, fun _ ↦ rfl⟩

theorem Later.of_eq (h : sim'.documents = sim.documents) : Later sim sim' := by
  intro d row hrow
  exact ⟨row, h ▸ hrow, fun _ ↦ rfl⟩

theorem Past.later (h : Past sim answer) (hlater : Later sim sim') : Past sim' answer := by
  obtain ⟨row, hrow, hfinal⟩ := h
  obtain ⟨row', hrow', hkept⟩ := hlater answer.id row hrow
  refine ⟨row', hrow', fun hanswer ↦ ?_⟩
  have hstatus := hfinal hanswer
  exact (hkept (hstatus ▸ hanswer)).trans hstatus

theorem Past.of_find? (h : sim.documents.find? document.id = some document) : Past sim document :=
  ⟨document, h, fun _ ↦ rfl⟩

theorem find?_of_mem (h : document ∈ sim.documents.rows) :
    sim.documents.find? document.id = some document :=
  find?_key_of_mem h

theorem Past.of_mem (h : document ∈ sim.documents.rows) : Past sim document :=
  .of_find? (find?_of_mem h)

section

variable (h : Changes sim sim' documentId document)
include h

theorem Changes.later : Later sim sim' := by
  intro d row hrow
  by_cases hd : d = documentId
  · subst hd
    obtain ⟨row₀, hrow₀, hfinal⟩ := h.final
    rw [hrow] at hrow₀
    cases hrow₀
    exact ⟨document, h.found, hfinal⟩
  · exact ⟨row, (h.others d hd).trans hrow, fun _ ↦ rfl⟩

theorem Changes.past : Past sim' document :=
  .of_mem (mem_of_find? h.found)

theorem Changes.known (hrow : row ∈ sim'.documents.rows) : sim.documents.find? row.id ≠ none := by
  by_cases hd : row.id = documentId
  · obtain ⟨row₀, hrow₀, -⟩ := h.final
    rw [hd, hrow₀]
    exact some_ne_none row₀
  · rw [← h.others row.id hd, find?_of_mem hrow]
    exact some_ne_none row

end

def ResultsPast (sim : Simulator) : Prop :=
  ∀ op ∈ sim.operations.rows, op.result.id = op.documentId ∧ Past sim op.result

/-- **What a transaction at the provider leaves**: its answer and what is kept have been right, and
it makes no new document. -/
structure Answers (sim sim' : Simulator) (document : SimulatorDocument) : Prop where
  later : Later sim sim'
  past : Past sim' document
  results : ResultsPast sim'
  known : ∀ row ∈ sim'.documents.rows, sim.documents.find? row.id ≠ none

section

variable (hresults : ResultsPast sim)
include hresults

theorem Answers.same (h : Past sim document) : Answers sim sim document := by
  refine ⟨.refl sim, h, hresults, fun row hrow ↦ ?_⟩
  rw [find?_of_mem hrow]
  exact some_ne_none row

theorem Answers.changed (h : Changes sim sim' documentId document)
    (hops : ∀ op ∈ sim'.operations.rows, op ∈ sim.operations.rows ∨
      op.documentId = documentId ∧ op.result = document) : Answers sim sim' document := by
  refine ⟨h.later, h.past, fun op hop ↦ ?_, fun _ hrow ↦ h.known hrow⟩
  rcases hops op hop with hop | ⟨hid, hresult⟩
  · exact ⟨(hresults op hop).1, (hresults op hop).2.later h.later⟩
  · rw [hid, hresult]
    exact ⟨key_of_find? h.found, h.past⟩

theorem operation_answers {key : OperationKey}
    (h : operation sim documentId key = .ok (sim', document)) : Answers sim sim' document := by
  unfold operation at h
  split at h
  · rename_i previous hprevious
    split at h
    · cases h
      exact .same hresults (hresults previous (mem_of_find? hprevious)).2
    · cases h
  · refine .changed hresults (operate_changes h) fun op hop ↦ ?_
    simp only [operate, eq_ok] at h
    obtain ⟨row, -, result, -, ⟨⟩, -, operations, hoperations, heq⟩ := h
    cases heq
    rcases (mem_insert hoperations).mp hop with hop | rfl
    · exact .inl hop
    · exact .inr ⟨rfl, rfl⟩

theorem callback_answers {eventId : Text} {status : CallbackStatus}
    (h : callback provider sim eventId documentId status = .ok (sim', document)) :
    Answers sim sim' document := by
  unfold callback at h
  split at h
  · simp only [eq_ok] at h
    obtain ⟨⟨⟩, -, row, hrow, heq⟩ := h
    cases heq
    exact .same hresults (.of_mem (mem_of_find? hrow))
  · refine .changed hresults (receive_changes h) fun op hop ↦ ?_
    simp only [receive, eq_ok] at h
    obtain ⟨row, -, ⟨⟩, -, ⟨⟩, -, heq⟩ := h
    cases heq
    exact .inl hop

theorem providerTransaction_answers {input : OperationInput}
    (h : providerTransaction provider sim input documentId = .ok (sim', document)) :
    Answers sim sim' document := by
  rw [providerTransaction] at h
  cases hkind : input.kind with
  | query key | cancel key =>
    rw [hkind] at h
    exact operation_answers hresults h
  | callback eventId status =>
    rw [hkind] at h
    exact callback_answers hresults h

end

/-! ### The point of sale -/

variable {pos : Pos.Store} {decision : Pos.Decision} {p : Process} {request : Pos.Request}
  {fiscal : FiscalStore} {saleId branchId : Uuid} {input : IssueInput} {pos' : Pos.Store}
  {number : Text}

/-- **A sale becomes voided by `voidSale` only.** -/
theorem voided_of_write (h : Pos.protocol.write request decision pos = .ok pos')
    (hvoided : Voided pos' saleId) : Voided pos saleId ∨
      ∃ input, request = .voidSale input ∧ input.saleId = saleId ∧ Voidable pos input := by
  obtain ⟨sale, hsale, hstatus⟩ := hvoided
  by_cases hvoid : ∃ input, request = .voidSale input
  · obtain ⟨input, rfl⟩ := hvoid
    cases Pos.committed h with
    | voidSale h =>
      rcases Pos.voidSale_writes h with rfl | ⟨sale₀, shift, _, _, voided, hfind, hcompleted,
        hreturns, hshift, -, hopen, -, -, rfl⟩
      · exact .inl ⟨sale, hsale, hstatus⟩
      · by_cases hid : saleId = input.saleId
        · exact .inr ⟨input, rfl, hid.symm, sale₀, hfind, hcompleted, hreturns, shift, hshift,
            hopen⟩
        · refine .inl ⟨sale, ?_, hstatus⟩
          have hne : saleId ≠ sale₀.id := fun heq ↦ hid (heq.trans (key_of_find? hfind))
          rw [mem_def, find?_update_of_ne hne] at hsale
          exact hsale
  · refine .inl ⟨sale, ?_, hstatus⟩
    have hrow := Pos.saleCommit h
    revert hrow hsale
    generalize pos'.sales = sales, pos'.saleReturns = saleReturns, pos'.settlements = settlements,
      pos'.loyalty = loyalty
    intro hsale hrow
    cases hrow with
    | sale hnew hinsert =>
      rename_i row _ _
      by_cases hid : row.id = saleId
      · subst hid
        have hself : sales.find? row.id = some row := find?_insert_self hinsert
        rw [mem_def, hself] at hsale
        cases hsale
        refine absurd ?_ hstatus
        rw [hnew]
        exact rfl
      · rw [mem_def, find?_insert_of_ne hinsert hid] at hsale
        exact hsale
    | voidSale => exact absurd ⟨_, rfl⟩ hvoid
    | _ => exact hsale

/-! ### The outline -/

/-- **What the rows of the sales and of the provider have to do with each other.** -/
structure Sealed (s : FiscalDesk) : Prop where
  results : ResultsPast s.simulator
  unpointed : ∀ doc ∈ s.documents.rows, doc.simulatorDocumentId = none → doc.status = .PENDING
  keys : ∀ doc ∈ s.documents.rows, doc.providerIdempotencyKey.saleId = doc.saleId
  pointed : ∀ doc ∈ s.documents.rows, ∀ d, doc.simulatorDocumentId = some d →
    ∃ row, s.simulator.documents.find? d = some row ∧ (doc.status.Final → row.status = doc.status)
  voided : ∀ saleId, Voided s.pos saleId → ∀ doc ∈ s.documents.find? saleId, doc.status.Final

def IssueRequest.Open (pos : Pos.Store) (request : IssueRequest) : Prop :=
  ¬Voided pos request.saleId ∧ request.key.saleId = request.saleId

def Standing (pos : Pos.Store) (sim : Simulator) : Process → Prop
  | .configuringIssue request => request.Open pos
  | .findingIssued request row => request.Open pos ∧ row.idempotencyKey = request.key
  | .insertingIssued request row => request.Open pos ∧ row.idempotencyKey = request.key
  | .syncing _ _ answer => Past sim answer
  | _ => True

def deskOutline : Outline FiscalDesk DeskProcess where
  Inv st := Sealed st.store
  At
    | .fiscal p, s => Standing s.pos s.simulator p
    | _, _ => True
  Apart _ _ := True
  symm _ := trivial

theorem Standing.later (h : Standing pos sim p) (hlater : Later sim sim')
    (hpos : ∀ saleId, p.Issues saleId → ¬Voided pos saleId → ¬Voided pos' saleId) :
    Standing pos' sim' p := by
  cases p with
  | configuringIssue request => exact ⟨hpos _ rfl h.1, h.2⟩
  | findingIssued request row | insertingIssued request row =>
    exact ⟨⟨hpos _ rfl h.1.1, h.1.2⟩, h.2⟩
  | syncing branchId saleId answer => exact Past.later h hlater
  | _ => trivial

theorem standing_after {α : Type} {result : Except FiscalFailure α} {next : α → Process}
    (h : ∀ a, result = .ok a → Standing pos sim (next a)) :
    Standing pos sim (.after result next) := by
  cases result with
  | error e => trivial
  | ok a => exact h a rfl

/-! ### Turns of the documents -/

theorem turn_cases (provider : Provider) (p : Process) (s : FiscalStore) :
    (turn provider p s).1 = s ∨ (∃ input receiptNumber, p = .inserting input receiptNumber) ∨
      (∃ request row, p = .insertingIssued request row) ∨
      (∃ input d, p = .operating input d) ∨
      (∃ branchId saleId answer, p = .syncing branchId saleId answer) ∨
      ∃ sales configuration, p = .changing sales configuration := by
  cases p with
  | inserting input receiptNumber => exact .inr (.inl ⟨_, _, rfl⟩)
  | insertingIssued request row => exact .inr (.inr (.inl ⟨_, _, rfl⟩))
  | operating input d => exact .inr (.inr (.inr (.inl ⟨_, _, rfl⟩)))
  | syncing branchId saleId answer =>
    exact .inr (.inr (.inr (.inr (.inl ⟨_, _, _, rfl⟩))))
  | changing sales configuration =>
    exact .inr (.inr (.inr (.inr (.inr ⟨_, _, rfl⟩))))
  | _ => exact .inl rfl

/-- **What a turn of a document leaves.** -/
structure TurnKeeps (s : FiscalDesk) (fiscal : FiscalStore) : Prop where
  later : Later s.simulator fiscal.simulator
  closed : Sealed { s with documents := fiscal.documents, simulator := fiscal.simulator }
  issued : ∀ document ∈ fiscal.simulator.documents.rows,
    s.simulator.documents.find? document.id = none →
    ¬Voided s.pos document.idempotencyKey.saleId

theorem Sealed.changed (h : Sealed s) (hlater : Later s.simulator sim')
    (hresults : ResultsPast sim') : Sealed { s with simulator := sim' } := by
  refine ⟨hresults, h.unpointed, h.keys, fun doc hdoc d hd ↦ ?_, h.voided⟩
  obtain ⟨row, hrow, hfinal⟩ := h.pointed doc hdoc d hd
  obtain ⟨row', hrow', hkept⟩ := hlater d row hrow
  refine ⟨row', hrow', fun hdocFinal ↦ ?_⟩
  have hstatus := hfinal hdocFinal
  exact (hkept (hstatus ▸ hdocFinal)).trans hstatus

theorem TurnKeeps.refl (h : Sealed s) : TurnKeeps s (s.fiscal receiptNumber) := by
  refine ⟨.refl _, h, fun document hdocument hnone ↦ ?_⟩
  have hmem : document ∈ s.simulator.documents.rows := hdocument
  rw [find?_of_mem hmem] at hnone
  cases hnone

theorem not_voided_of_receipt {sale : FiscalSale}
    (h : (s.fiscal receiptNumber).receipt branchId saleId = some sale)
    (hcompleted : sale.completed = true) : ¬Voided s.pos saleId := by
  rintro ⟨row, hrow, hstatus⟩
  rw [FiscalStore.receipt, filter_eq_some_iff] at h
  have hfound : (fiscalSales receiptNumber s.pos.sales).find? saleId = some sale := h.1
  rw [find?_fiscalSales, hrow] at hfound
  cases hfound
  exact hstatus (of_decide_eq_true hcompleted)

theorem Sealed.inserted (h : Sealed s)
    (hok : insertDocument (s.fiscal receiptNumber) input number = .ok fiscal) :
    TurnKeeps s fiscal := by
  simp only [insertDocument, eq_ok] at hok
  obtain ⟨sale, hsale, ⟨⟩, hcompleted, ⟨⟩, -, documents, hdocuments, rfl⟩ := hok
  have hopen : ¬Voided s.pos input.saleId := not_voided_of_receipt hsale hcompleted
  have hmem : ∀ doc ∈ documents.rows, doc ∈ s.documents.rows ∨ doc = input.row number :=
    fun doc hdoc ↦ (mem_insert hdocuments).mp hdoc
  refine ⟨.refl _, ⟨h.results, fun doc hdoc hnone ↦ ?_, fun doc hdoc ↦ ?_, fun doc hdoc d hd ↦ ?_,
    fun saleId hvoided doc hdoc ↦ ?_⟩, (@TurnKeeps.refl receiptNumber s h).issued⟩
  · rcases hmem doc hdoc with hdoc | rfl
    · exact h.unpointed doc hdoc hnone
    · rfl
  · rcases hmem doc hdoc with hdoc | rfl
    · exact h.keys doc hdoc
    · rfl
  · rcases hmem doc hdoc with hdoc | rfl
    · exact h.pointed doc hdoc d hd
    · cases hd
  · have hne : input.saleId ≠ saleId := by
      intro heq
      subst heq
      exact hopen hvoided
    rw [mem_def] at hdoc
    rw [show documents.find? saleId = s.documents.find? saleId from
      find?_insert_of_ne hdocuments hne] at hdoc
    exact h.voided saleId hvoided doc hdoc

theorem Sealed.issued (h : Sealed s) (hopen : ¬Voided s.pos row.idempotencyKey.saleId)
    (hok : insertIssued s.simulator row = .ok sim') :
    TurnKeeps s { s.fiscal receiptNumber with simulator := sim' } := by
  unfold insertIssued at hok
  split at hok
  case h_2 => cases hok
  case h_1 documents _ _ hdocuments =>
    cases hok
    have hlater : Later s.simulator { s.simulator with documents := documents } :=
      fun d row' hrow' ↦ ⟨row', find?_insert_of_some hdocuments hrow', fun _ ↦ rfl⟩
    refine ⟨hlater, h.changed hlater fun op hop ↦ ?_, fun document hdocument hnone ↦ ?_⟩
    · exact ⟨(h.results op hop).1, (h.results op hop).2.later hlater⟩
    · rcases (mem_insert hdocuments).mp hdocument with hold | rfl
      · rw [find?_of_mem hold] at hnone
        cases hnone
      · exact hopen

variable {processes : List DeskProcess}

/-- **A `sync`**, of an answer that has been right; for a voided sale it is what the provider has or
what the row says. -/
theorem Sealed.synced (h : Sealed s) (hpast : Past s.simulator answer)
    (hcurrent : DeskProcess.Settles ⟨s, processes⟩ (.fiscal (.syncing branchId saleId answer)))
    (hok : sync (s.fiscal receiptNumber) branchId saleId answer = .ok fiscal) :
    TurnKeeps s fiscal := by
  obtain ⟨own, hown, -, hpointer, -, -, rfl⟩ := sync_eq_ok hok
  have hmem : own ∈ s.documents.rows := mem_of_find? hown
  refine ⟨.refl _, ⟨h.results, fun doc hdoc hnone ↦ ?_, fun doc hdoc ↦ ?_, fun doc hdoc d hd ↦ ?_,
    fun id hvoided doc hdoc ↦ ?_⟩, (@TurnKeeps.refl receiptNumber s h).issued⟩
  · rcases mem_synced hown hdoc with rfl | ⟨hdoc, -⟩
    · cases hnone
    · exact h.unpointed doc hdoc hnone
  · rcases mem_synced hown hdoc with rfl | ⟨hdoc, -⟩
    · exact h.keys own hmem
    · exact h.keys doc hdoc
  · rcases mem_synced hown hdoc with rfl | ⟨hdoc, -⟩
    · cases hd
      exact hpast
    · exact h.pointed doc hdoc d hd
  · by_cases hid : id = saleId
    · subst hid
      have hfinal : own.status.Final := h.voided id hvoided own hown
      have hsynced : doc = own.synced answer := by
        have hdoc : (s.documents.update id (SaleFiscalDocument.synced answer)).find? id =
            some doc := hdoc
        rw [find?_update_self, show s.documents.find? id = some own from hown] at hdoc
        exact (Option.some.inj hdoc).symm
      rw [hsynced]
      show answer.status.Final
      rcases hcurrent hvoided with ⟨row, hrow, hstatus⟩ | ⟨doc', hdoc', hstatus⟩
      · -- the row is final, so it points to the document, which is as final as the row
        cases hd : own.simulatorDocumentId with
        | none =>
          rw [h.unpointed own hmem hd] at hfinal
          exact absurd hfinal (by decide)
        | some d =>
          have hdid : d = answer.id := hpointer d hd
          subst hdid
          obtain ⟨row', hrow', hsame⟩ := h.pointed own hmem _ hd
          rw [show s.simulator.documents.find? answer.id = some row from hrow] at hrow'
          cases hrow'
          rw [← hstatus, hsame hfinal]
          exact hfinal
      · rw [show s.documents.find? id = some own from hown] at hdoc'
        cases hdoc'
        exact hstatus ▸ hfinal
    · have hdoc : (s.documents.update saleId (SaleFiscalDocument.synced answer)).find? id =
          some doc := hdoc
      rw [find?_update_of_ne hid] at hdoc
      exact h.voided id hvoided doc hdoc

/-- **A turn of a document.** -/
theorem turnKeeps (h : Sealed s) (hat : Standing s.pos s.simulator p)
    (hsettles : DeskProcess.Settles ⟨s, processes⟩ (.fiscal p)) :
    TurnKeeps s (turn provider p (s.fiscal receiptNumber)).1 := by
  rcases turn_cases provider p (s.fiscal receiptNumber) with hsame | ⟨input, number, rfl⟩ |
    ⟨request, row, rfl⟩ | ⟨input, d, rfl⟩ | ⟨branchId, saleId, answer, rfl⟩ |
    ⟨sales, configuration, rfl⟩
  · rw [hsame]
    exact .refl h
  · rw [turn]
    split
    · rename_i fiscal hok
      exact h.inserted hok
    · exact .refl h
    · exact .refl h
  · rw [turn]
    split
    · rename_i simulator hok
      refine h.issued ?_ hok
      rw [hat.2, hat.1.2]
      exact hat.1.1
    · exact .refl h
  · rw [turn]
    split
    · rename_i simulator document hok
      have hanswers := providerTransaction_answers h.results hok
      exact ⟨hanswers.later, h.changed hanswers.later hanswers.results,
        fun row hrow hnone ↦ absurd hnone (hanswers.known row hrow)⟩
    · exact .refl h
  · rw [turn]
    split
    · rename_i fiscal hok
      exact h.synced hat hsettles hok
    · exact .refl h
  · have hlater : Later s.simulator { s.simulator with configuration := configuration } :=
      .of_eq rfl
    exact ⟨hlater, h.changed hlater fun op hop ↦ h.results op hop,
      (@TurnKeeps.refl receiptNumber s h).issued⟩

/-! ### The outline is kept -/

theorem standing_issueFor (h : Sealed s) {doc : SaleFiscalDocument}
    (hdoc : (s.fiscal receiptNumber).get input.branchId input.saleId = some doc) :
    Standing s.pos s.simulator (issueFor input number doc) := by
  have hfound : s.documents.find? input.saleId = some doc := (get_eq_some.mp hdoc).1
  have hmem : doc ∈ s.documents.rows := mem_of_find? hfound
  rw [issueFor]
  split
  · trivial
  · rename_i hnone
    refine ⟨fun hvoided ↦ ?_, ?_⟩
    · have hfinal := h.voided input.saleId hvoided doc hfound
      rw [h.unpointed doc hmem hnone] at hfinal
      exact absurd hfinal (by decide)
    · exact (h.keys doc hmem).trans (key_of_find? hfound)

theorem standing_replayed {request : IssueRequest} {existing : SimulatorDocument}
    (hexisting : existing ∈ sim.documents.rows)
    (h : replayIssue request.dto existing = .ok document) :
    Standing pos sim (request.sync document) := by
  rw [replayIssue] at h
  split at h
  · cases h
    exact Past.of_mem hexisting
  · cases h

theorem standing_turn (h : Sealed s) (hat : Standing s.pos s.simulator p) :
    Standing s.pos (turn provider p (s.fiscal receiptNumber)).1.simulator
      (turn provider p (s.fiscal receiptNumber)).2 := by
  cases p with
  | receiving input =>
    show Standing _ _ (receiveIssue (s.fiscal receiptNumber) input)
    rw [receiveIssue]
    split
    · split
      · trivial
      · split <;> trivial
    · trivial
  | looking input number =>
    show Standing _ _ (look (s.fiscal receiptNumber) input number)
    rw [look]
    split
    · trivial
    · rename_i existing hexisting
      refine standing_after fun doc hdoc ↦ ?_
      rw [replayDocument] at hdoc
      split at hdoc
      · cases hdoc
        exact standing_issueFor h hexisting
      · cases hdoc
  | inserting input number | insertingIssued request row | syncing branchId saleId answer =>
    rw [turn]
    split <;> trivial
  | rereading input number inserted =>
    show Standing _ _ (reread (s.fiscal receiptNumber) input number inserted)
    rw [reread]
    split
    · trivial
    · rename_i document hdocument
      split
      · exact standing_issueFor h hdocument
      · refine standing_after fun doc hdoc ↦ ?_
        rw [replayDocument] at hdoc
        split at hdoc
        · cases hdoc
          exact standing_issueFor h hdocument
        · cases hdoc
  | configuringIssue request =>
    refine standing_after fun config _ ↦ ?_
    split
    · exact ⟨hat, rfl⟩
    · trivial
  | findingIssued request row =>
    rw [turn]
    split
    · rename_i existing hexisting
      exact standing_after fun document hdocument ↦
        standing_replayed (mem_of_find?_eq_some hexisting) hdocument
    · exact hat
  | racingIssued request row =>
    rw [turn]
    split
    · rename_i raced hraced
      exact standing_after fun document hdocument ↦
        standing_replayed (mem_of_find?_eq_some hraced) hdocument
    · trivial
  | referencingIssued request row =>
    rw [turn]
    split
    · rename_i duplicate hduplicate
      exact standing_after fun document hdocument ↦
        standing_replayed (mem_of_find?_eq_some hduplicate) hdocument
    · trivial
  | readingIssued request =>
    rw [turn]
    split
    · rename_i document hdocument
      exact Past.of_mem (mem_of_find? hdocument)
    · trivial
  | requiring input =>
    show Standing _ _ (requireDocument (s.fiscal receiptNumber) input)
    rw [requireDocument]
    split
    · trivial
    · split <;> trivial
  | configuring input d => exact standing_after fun _ _ ↦ trivial
  | operating input d =>
    rw [turn]
    split
    · rename_i simulator document hok
      exact (providerTransaction_answers h.results hok).past
    · trivial
  | changing sales configuration | answered result => trivial

/-- **A commit of the point of sale.** -/
theorem Sealed.committed (h : Sealed s)
    (hsettles : DeskProcess.Settles ⟨s, processes⟩ (.committing request decision))
    (hok : Pos.protocol.write request decision s.pos = .ok pos) :
    Sealed { s with pos := pos } := by
  refine ⟨h.results, h.unpointed, h.keys, h.pointed, fun saleId hvoided ↦ ?_⟩
  rcases voided_of_write hok hvoided with hold | ⟨input, rfl, rfl, hvoidable⟩
  · exact h.voided saleId hold
  · exact (hsettles hvoidable).1

/-- **The outline is kept** by the steps that meet the condition. -/
theorem deskKeeps (provider : Provider) (receiptNumber : Uuid → Text) :
    deskOutline.Keeps (fiscalDesk provider receiptNumber) Settles where
  start st request hst _ := by
    refine ⟨hst.inv, ?_, fun _ _ ↦ trivial⟩
    cases request <;> trivial
  turn st n p hst hC hp := by
    have hat : deskOutline.At p st.store := hst.places p (mem_of_getElem? hp)
    have hsettles := hC p hp
    cases p with
    | fiscal p =>
      have hturn : TurnKeeps st.store (turn provider p (st.store.fiscal receiptNumber)).1 :=
        turnKeeps hst.inv hat hsettles
      refine ⟨hturn.closed, standing_turn hst.inv hat, fun m q _ hq ↦ ⟨?_, trivial⟩⟩
      have hother := hst.places q (mem_of_getElem? hq)
      cases q with
      | fiscal q => exact Standing.later hother hturn.later fun _ _ hopen ↦ hopen
      | _ => trivial
    | configuring configuration =>
      have hlater : Later st.store.simulator
          { st.store.simulator with configuration := configuration } := .of_eq rfl
      refine ⟨Sealed.changed hst.inv hlater fun op hop ↦ hst.inv.results op hop, trivial,
        fun m q _ hq ↦ ⟨?_, trivial⟩⟩
      have hother := hst.places q (mem_of_getElem? hq)
      cases q with
      | fiscal q => exact Standing.later hother hlater fun _ _ hopen ↦ hopen
      | _ => trivial
    | committing request decision =>
      cases hok : Pos.protocol.write request decision st.store.pos with
      | error e =>
        rw [show (fiscalDesk provider receiptNumber).turn (.committing request decision) st.store =
          (st.store, .done) by simp only [fiscalDesk, deskTurn, hok]]
        exact ⟨hst.inv, trivial, fun m q _ hq ↦ ⟨hst.places q (mem_of_getElem? hq), trivial⟩⟩
      | ok pos =>
        rw [show (fiscalDesk provider receiptNumber).turn (.committing request decision) st.store =
          ({ st.store with pos := pos }, .done) by simp only [fiscalDesk, deskTurn, hok]]
        refine ⟨Sealed.committed hst.inv hsettles hok, trivial, fun m q _ hq ↦ ⟨?_, trivial⟩⟩
        have hmem := mem_of_getElem? hq
        have hother := hst.places q hmem
        cases q with
        | fiscal q =>
          refine Standing.later hother (.refl _) fun saleId hissues hopen hvoided ↦ ?_
          rcases voided_of_write hok hvoided with hold | ⟨input, rfl, rfl, hvoidable⟩
          · exact hopen hold
          · exact (hsettles hvoidable).2 _ hmem hissues
        | _ => trivial
    | done =>
      exact ⟨hst.inv, trivial, fun m q _ hq ↦ ⟨hst.places q (mem_of_getElem? hq), trivial⟩⟩

/-! ### Runs -/

/-- **One step.** -/
theorem withdrawn_of_step (hst : deskOutline.Holds st) {event : Event DeskRequest}
    (hC : Settles st event) (h : step (fiscalDesk provider receiptNumber) st event = .ok st')
    (hst' : deskOutline.Holds st') : Withdrawn st st' := by
  have hsame : ∀ document ∈ st.store.simulator.documents.rows,
      st.store.simulator.documents.find? document.id = none →
      ¬Voided st.store.pos document.idempotencyKey.saleId := by
    intro document hdocument hnone
    rw [find?_of_mem hdocument] at hnone
    cases hnone
  refine ⟨?_, hst'.inv.voided⟩
  cases event with
  | start request =>
    cases h
    exact hsame
  | turn n =>
    obtain ⟨p, hp, rfl⟩ := step_turn_eq_ok.mp h
    have hat : deskOutline.At p st.store := hst.places p (mem_of_getElem? hp)
    cases p with
    | fiscal p =>
      have hkeeps : TurnKeeps st.store (turn provider p (st.store.fiscal receiptNumber)).1 :=
        turnKeeps hst.inv hat (hC _ hp)
      exact hkeeps.issued
    | configuring configuration | done => exact hsame
    | committing request decision =>
      show ∀ document ∈ (deskTurn provider receiptNumber (.committing request decision)
        st.store).1.simulator.documents.rows, _
      rw [deskTurn]
      split <;> exact hsame

theorem deskHolds_unissued (pos : Pos.Store) (configuration : Option FiscalTenantConfiguration) :
    deskOutline.Holds (.idle (.unissued pos configuration)) :=
  .idle ⟨forall_mem_nil _, forall_mem_nil _,
    forall_mem_nil _, forall_mem_nil _,
    fun _ _ _ h ↦ absurd h (not_mem_none _)⟩

/-- **A voided sale keeps no document in force** in every run whose voids find the documents of
their sales cancelled or rejected. -/
theorem voided_sales_withdrawn (provider : Provider) (receiptNumber : Uuid → Text) (pos : Pos.Store)
    (configuration : Option FiscalTenantConfiguration) (events : List (Event DeskRequest))
    (h : Along (step (fiscalDesk provider receiptNumber)) Settles
      (.idle (.unissued pos configuration)) events) :
    Along (step (fiscalDesk provider receiptNumber)) (fun st event ↦
      ∀ st', step (fiscalDesk provider receiptNumber) st event = .ok st' → Withdrawn st st')
      (.idle (.unissued pos configuration)) events :=
  (deskKeeps provider receiptNumber).along
    (fun _ _ _ hst hC hstep hst' ↦ withdrawn_of_step hst hC hstep hst')
    (deskHolds_unissued pos configuration) events h

/-! ### A sale that is voided -/

instance (saleId : Uuid) : (p : DeskProcess) → Decidable (p.Issues saleId)
  | .fiscal (.configuringIssue request) | .fiscal (.findingIssued request _)
  | .fiscal (.insertingIssued request _) => inferInstanceAs (Decidable (request.saleId = saleId))
  | .fiscal (.receiving _) | .fiscal (.looking ..) | .fiscal (.inserting ..)
  | .fiscal (.rereading ..) | .fiscal (.racingIssued ..) | .fiscal (.referencingIssued ..)
  | .fiscal (.readingIssued _) | .fiscal (.requiring _) | .fiscal (.configuring ..)
  | .fiscal (.operating ..) | .fiscal (.syncing ..) | .fiscal (.changing ..)
  | .fiscal (.answered _) | .configuring _ | .committing .. | .done => .isFalse id

instance (st : State FiscalDesk DeskProcess) (p : DeskProcess) : Decidable (p.Settles st) := by
  unfold DeskProcess.Settles
  split <;> infer_instance

def DeskProcess.over : DeskProcess → Bool
  | .fiscal (.answered _) | .done => true
  | _ => false

def soldOnce : List (Event DeskRequest) :=
  [.start (.commit (.opening 0) .idle), .turn 0,
    .start (.commit (.selling none [{ quantity := 1000, subtotal := 50, tax := 0 }]
      (Pos.inCash 50)) (.sale (.persist none))), .turn 1]

def invoiced (turns : ℕ) : List (Event DeskRequest) :=
  .start (.issue {
    branchId := 1, saleId := 0, idempotencyKey := textOf "issue-001",
    documentType := textOf "INVOICE", scenario := .SUCCESS, id := 10,
    simulatorId := 20 }) :: List.replicate turns (.turn 2)

def cancelled : List (Event DeskRequest) :=
  .start (.operate {
    branchId := 1, saleId := 0,
    kind := .cancel (textOf "cancel-01") }) :: List.replicate 4 (.turn 3)

def voidedAt (position : ℕ) : List (Event DeskRequest) :=
  [.start (.commit (.voidSale {
    branchId := 1, cashRegisterId := 1, saleId := 0, userId := 1, idempotencyKey := [2]
    fingerprint := [2], clock := ⟨0, 0, 0⟩, now := 0 }) .idle), .turn position]

/-- A point of sale in which nothing has been sold, and the provider. -/
def unsold : State FiscalDesk DeskProcess :=
  .idle (.unissued (.fresh default .empty) simulatorProfile)

theorem voided_sales_withdrawn_cancelled :
    Along (step (fiscalDesk readyProvider fun _ ↦ textOf "T-000001")) (fun st event ↦
      ∀ st', step (fiscalDesk readyProvider fun _ ↦ textOf "T-000001") st event = .ok st' →
        Withdrawn st st') unsold (soldOnce ++ invoiced 9 ++ cancelled ++ voidedAt 4) :=
  voided_sales_withdrawn readyProvider (fun _ ↦ textOf "T-000001") (.fresh default .empty)
    simulatorProfile _ (by decide +kernel)

/-- **A voided sale with an accepted document**, and one that `issue` looked at before. -/
theorem voidedInvoice :
    (let st := run (step (fiscalDesk readyProvider fun _ ↦ textOf "T-000001")) unsold
      (soldOnce ++ invoiced 9 ++ voidedAt 3)
    st.processes.all DeskProcess.over ∧ Voided st.store.pos 0 ∧
      st.store.documents.rows.map (fun doc ↦ (doc.saleId, doc.status)) = [(0, .ACCEPTED)]) ∧
    (let st := run (step (fiscalDesk readyProvider fun _ ↦ textOf "T-000001")) unsold
      (soldOnce ++ invoiced 5 ++ voidedAt 3)
    Voided st.store.pos 0 ∧ st.store.simulator.documents.rows = []) ∧
    (let st := run (step (fiscalDesk readyProvider fun _ ↦ textOf "T-000001")) unsold
      (soldOnce ++ invoiced 5 ++ voidedAt 3 ++ List.replicate 4 (.turn 2))
    st.processes.all DeskProcess.over ∧
      st.store.simulator.documents.rows.map (fun doc ↦ doc.idempotencyKey.saleId) = [0] ∧
      st.store.documents.rows.map (fun doc ↦ (doc.saleId, doc.status)) = [(0, .ACCEPTED)]) := by
  decide +kernel

end UInventario.Fiscal
