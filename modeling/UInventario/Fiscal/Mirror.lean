import UInventario.Fiscal.SaleDocuments

/-!
# The document of a sale mirrors the provider

`Mirrors` is what one step of a run owes, in any interleaving: while no request for a sale is in
progress, its row has the status and the error code of the document it points to; and a row that is
cancelled or rejected stays so.

* At the provider a document that is cancelled or rejected keeps its status
  (`providerTransaction_cases`), and only a request for the sale that points to it changes it.
* Between a change at the provider and the next `sync` a request is in progress whose answer is what
  the provider has now (`Sound.mirrored`).
* `sync` writes whatever answer it is given. `Current` is the condition: the answer is what the
  provider has at that moment, or what the row says already.

`fiscal_mirror` is the result for runs. In `fiscal_mirror_repeated_query` a cancelled document is
accepted again by the repetition of an old query.
-/

namespace UInventario.Fiscal

open Outcome Processes Table List

/-! ### The provider -/

def FiscalDocumentStatus.Final (status : FiscalDocumentStatus) : Prop :=
  status = .CANCELLED ∨ status = .REJECTED
deriving Decidable

variable {provider : Provider} {sim sim' : Simulator} {documentId : Uuid}
  {document : SimulatorDocument}

variable {row : SimulatorDocument} {status : CallbackStatus} {input : OperationInput}
  {key : OperationKey} {eventId : Text}

theorem actionResult_final {action : FiscalAction} {result : AdapterDocument}
    (h : actionResult action row = .ok result) (hfinal : row.status.Final) :
    result.status = row.status := by
  cases action with
  | QUERY =>
    cases h
    have hstatus : row.status ≠ .INDETERMINATE := by
      rcases hfinal with h | h
      · rw [h]
        nofun
      · rw [h]
        nofun
    rw [adapterQuery, if_pos (.inl hstatus)]
  | CANCEL =>
    change adapterCancel row.status = .ok result at h
    rcases hfinal with hstatus | hstatus
    · rw [hstatus] at h ⊢
      cases h
      rfl
    · rw [hstatus] at h
      cases h

/-- The results that are kept are of the documents they are kept for. -/
def ResultsKept (sim : Simulator) : Prop :=
  ∀ op ∈ sim.operations.rows, op.result.id = op.documentId

structure Changes (sim sim' : Simulator) (documentId : Uuid) (document : SimulatorDocument) :
    Prop where
  final : ∃ row, sim.documents.find? documentId = some row ∧
    (row.status.Final → document.status = row.status)
  found : sim'.documents.find? documentId = some document
  others : ∀ d, d ≠ documentId → sim'.documents.find? d = sim.documents.find? d
  results : ResultsKept sim → ResultsKept sim'

theorem Changes.of_update (f : SimulatorDocument → SimulatorDocument) (hf : ∀ d, (f d).id = d.id)
    (h : sim'.documents = sim.documents.update documentId f hf)
    (hrow : sim.documents.find? documentId = some row)
    (hfinal : row.status.Final → (f row).status = row.status)
    (hresults : ResultsKept sim → ResultsKept sim') : Changes sim sim' documentId (f row) := by
  refine ⟨⟨row, hrow, hfinal⟩, ?_, fun d hd ↦ ?_, hresults⟩
  · rw [h, find?_update_self, hrow]
    rfl
  · rw [h, find?_update_of_ne hd]

theorem operate_changes (h : operate sim documentId key = .ok (sim', document)) :
    Changes sim sim' documentId document := by
  simp only [operate, eq_ok] at h
  obtain ⟨row, hrow, result, hresult, ⟨⟩, -, operations, hoperations, heq⟩ := h
  cases heq
  refine .of_update (SimulatorDocument.answered result key.action.polls) (fun _ ↦ rfl) rfl hrow
    (actionResult_final hresult) fun hkept op hop ↦ ?_
  rcases (mem_insert hoperations).mp hop with hop | rfl
  · exact hkept op hop
  · exact key_of_find? hrow

theorem receive_changes (h : receive sim eventId documentId status = .ok (sim', document)) :
    Changes sim sim' documentId document := by
  simp only [receive, eq_ok] at h
  obtain ⟨row, hrow, ⟨⟩, hcancelled, ⟨⟩, hconflict, heq⟩ := h
  cases heq
  refine .of_update (SimulatorDocument.calledBack status) (SimulatorDocument.calledBack_id status)
    rfl hrow (fun hfinal ↦ ?_) fun hkept ↦ hkept
  rcases hfinal with hstatus | hstatus
  · exact absurd hstatus hcancelled
  · have hsame : row.status = status.documentStatus := by
      by_contra hne
      exact hconflict ⟨.inr hstatus, hne⟩
    rw [SimulatorDocument.calledBack, if_pos hsame]

theorem operation_cases (hkept : ResultsKept sim)
    (h : operation sim documentId key = .ok (sim', document)) :
    (sim' = sim ∧ document.id = documentId) ∨ Changes sim sim' documentId document := by
  unfold operation at h
  split at h
  · rename_i previous hprevious
    split at h
    · rename_i hsame
      cases h
      exact .inl ⟨rfl, (hkept previous (mem_of_find? hprevious)).trans hsame.1⟩
    · cases h
  · exact .inr (operate_changes h)

theorem callback_cases
    (h : callback provider sim eventId documentId status = .ok (sim', document)) :
    (sim' = sim ∧ document.id = documentId) ∨ Changes sim sim' documentId document := by
  unfold callback at h
  split at h
  · simp only [eq_ok] at h
    obtain ⟨⟨⟩, -, row, hrow, heq⟩ := h
    cases heq
    exact .inl ⟨rfl, key_of_find? hrow⟩
  · exact .inr (receive_changes h)

/-- **A transaction at the provider**: a repetition, or a change of the document. -/
theorem providerTransaction_cases (hkept : ResultsKept sim)
    (h : providerTransaction provider sim input documentId = .ok (sim', document)) :
    (sim' = sim ∧ document.id = documentId) ∨ Changes sim sim' documentId document := by
  rw [providerTransaction] at h
  cases hkind : input.kind with
  | query key | cancel key =>
    rw [hkind] at h
    exact operation_cases hkept h
  | callback eventId status =>
    rw [hkind] at h
    exact callback_cases h

/-! ### The rows of the sales -/

variable {s s' : FiscalStore} {p : Process} {st st' : State FiscalStore Process}

def Points (s : FiscalStore) (branchId saleId documentId : Uuid) : Prop :=
  ∃ doc, s.documents.find? saleId = some doc ∧ doc.branchId = branchId ∧
    doc.simulatorDocumentId = some documentId

def PointersKept (s s' : FiscalStore) : Prop :=
  ∀ branchId saleId documentId, Points s branchId saleId documentId →
    Points s' branchId saleId documentId

theorem PointersKept.of_eq (h : s'.documents = s.documents) : PointersKept s s' := by
  intro branchId saleId d ⟨doc, hdoc, hrest⟩
  exact ⟨doc, by rw [h]; exact hdoc, hrest⟩

variable {branchId saleId : Uuid} {doc : SaleFiscalDocument} {n : ℕ} {processes : List Process}

theorem get_eq_some : s.get branchId saleId = some doc ↔
      s.documents.find? saleId = some doc ∧ doc.branchId = branchId := by
  rw [FiscalStore.get, Option.filter_eq_some_iff, decide_eq_true_iff]

/-- **What the rows of the sales and of the provider have to do with each other.** -/
structure Sound (st : State FiscalStore Process) : Prop where
  results : ResultsKept st.store.simulator
  unpointed : ∀ doc ∈ st.store.documents.rows, doc.simulatorDocumentId = none →
    doc.status = .PENDING
  unique : ∀ doc ∈ st.store.documents.rows, ∀ doc' ∈ st.store.documents.rows, ∀ d,
    doc.simulatorDocumentId = some d → doc'.simulatorDocumentId = some d →
    doc.saleId = doc'.saleId
  /-- A row says what its document says, or an answer that does is on its way. -/
  mirrored : ∀ doc ∈ st.store.documents.rows, ∀ d, doc.simulatorDocumentId = some d →
    ∃ row, st.store.simulator.documents.find? d = some row ∧
      (doc.status.Final → row.status = doc.status) ∧
      ((row.status = doc.status ∧ row.errorCode = doc.errorCode) ∨
        ∃ answer, Process.syncing doc.branchId doc.saleId answer ∈ st.processes ∧ answer.id = d ∧
          row.status = answer.status ∧ row.errorCode = answer.errorCode)

def At : Process → FiscalStore → Prop
  | .configuring input documentId, s => Points s input.branchId input.saleId documentId
  | .operating input documentId, s => Points s input.branchId input.saleId documentId
  | _, _ => True

theorem At.later (h : At p s) (hs : PointersKept s s') : At p s' := by
  cases p with
  | configuring input documentId | operating input documentId => exact hs _ _ _ h
  | _ => trivial

def outline : Outline FiscalStore Process where
  Inv := Sound
  At := At
  Apart _ _ := True
  symm _ := trivial

/-- **The answer a process is about to write is current**: it is what the provider has, or what the
row says already. -/
def Process.Current (s : FiscalStore) : Process → Prop
  | .syncing _ saleId answer =>
    (∃ row ∈ s.simulator.documents.find? answer.id,
      row.status = answer.status ∧ row.errorCode = answer.errorCode) ∨
    (∃ doc ∈ s.documents.find? saleId, doc.simulatorDocumentId = some answer.id ∧
      doc.status = answer.status ∧ doc.errorCode = answer.errorCode)
  | _ => True

/-- **The condition on a step**: what it writes, if it writes an answer, is current. -/
abbrev Current : State FiscalStore Process → Event FiscalRequest → Prop :=
  AtTurn fun st p ↦ p.Current st.store

/-! ### Turns that leave what is there -/

/-- Nothing that is there changes; a row that does not point anywhere may come in, and a document of
the provider. -/
structure Quiet (s s' : FiscalStore) : Prop where
  rows : ∀ doc ∈ s'.documents.rows, doc ∈ s.documents.rows ∨
    (doc.simulatorDocumentId = none ∧ doc.status = .PENDING)
  kept : ∀ saleId doc, s.documents.find? saleId = some doc → s'.documents.find? saleId = some doc
  provider : ∀ d row, s.simulator.documents.find? d = some row →
    s'.simulator.documents.find? d = some row
  operations : s'.simulator.operations = s.simulator.operations

theorem Quiet.refl (s : FiscalStore) : Quiet s s :=
  ⟨fun _ h ↦ .inl h, fun _ _ h ↦ h, fun _ _ h ↦ h, rfl⟩

theorem Quiet.pointersKept (h : Quiet s s') : PointersKept s s' := by
  intro branchId saleId d ⟨doc, hdoc, hrest⟩
  exact ⟨doc, h.kept saleId doc hdoc, hrest⟩

theorem mem_set_of_ne {q x : Process}
    (hp : processes[n]? = some p) (hx : x ∈ processes) (hne : x ≠ p) : x ∈ processes.set n q := by
  obtain ⟨m, hm⟩ := mem_iff_getElem?.mp hx
  have hnm : n ≠ m := by
    intro heq
    subst heq
    exact hne (Option.some.inj (hm.symm.trans hp))
  refine mem_of_getElem? (i := m) ?_
  rw [getElem?_set_ne hnm]
  exact hm

theorem Sound.quiet (h : Sound st) (hquiet : Quiet st.store s')
    (hanswers : ∀ branchId saleId answer, Process.syncing branchId saleId answer ∈ st.processes →
      Process.syncing branchId saleId answer ∈ processes) : Sound ⟨s', processes⟩ := by
  have hold : ∀ doc ∈ s'.documents.rows, ∀ d, doc.simulatorDocumentId = some d →
      doc ∈ st.store.documents.rows := by
    intro doc hdoc d hd
    rcases hquiet.rows doc hdoc with hdoc | ⟨hnone, -⟩
    · exact hdoc
    · rw [hnone] at hd
      cases hd
  refine ⟨?_, fun doc hdoc hnone ↦ ?_, fun doc hdoc doc' hdoc' d hd hd' ↦ ?_,
    fun doc hdoc d hd ↦ ?_⟩
  · intro op hop
    rw [show (State.mk s' processes).store.simulator.operations = st.store.simulator.operations
      from hquiet.operations] at hop
    exact h.results op hop
  · rcases hquiet.rows doc hdoc with hdoc | ⟨-, hpending⟩
    · exact h.unpointed doc hdoc hnone
    · exact hpending
  · exact h.unique doc (hold doc hdoc d hd) doc' (hold doc' hdoc' d hd') d hd hd'
  · obtain ⟨row, hrow, hfinal, hsame⟩ := h.mirrored doc (hold doc hdoc d hd) d hd
    refine ⟨row, hquiet.provider d row hrow, hfinal, hsame.imp_right ?_⟩
    rintro ⟨answer, hmem, hanswer⟩
    exact ⟨answer, hanswers _ _ _ hmem, hanswer⟩

theorem insertDocument_quiet {input : IssueInput} {receiptNumber : Text}
    (h : insertDocument s input receiptNumber = .ok s') : Quiet s s' := by
  simp only [insertDocument, eq_ok] at h
  obtain ⟨sale, -, ⟨⟩, -, ⟨⟩, -, documents, hdocuments, rfl⟩ := h
  refine ⟨fun doc hdoc ↦ ?_, fun saleId doc hdoc ↦ find?_insert_of_some hdocuments hdoc,
    fun _ _ h ↦ h, rfl⟩
  rcases (mem_insert hdocuments).mp hdoc with hdoc | rfl
  · exact .inl hdoc
  · exact .inr ⟨rfl, rfl⟩

theorem insertIssued_quiet (h : insertIssued s.simulator row = .ok sim') :
    Quiet s { s with simulator := sim' } := by
  unfold insertIssued at h
  split at h
  · rename_i documents _ _ hdocuments
    cases h
    exact ⟨fun _ h ↦ .inl h, fun _ _ h ↦ h,
      fun d row' hrow ↦ find?_insert_of_some hdocuments hrow, rfl⟩
  · cases h

def Process.Reads : Process → Prop
  | .operating _ _ => False
  | .syncing _ _ _ => False
  | _ => True

theorem Process.reads_cases (p : Process) :
    p.Reads ∨ (∃ input documentId, p = .operating input documentId) ∨
      ∃ branchId saleId answer, p = .syncing branchId saleId answer := by
  cases p with
  | operating input documentId => exact .inr (.inl ⟨input, documentId, rfl⟩)
  | syncing branchId saleId answer => exact .inr (.inr ⟨branchId, saleId, answer, rfl⟩)
  | _ => exact .inl trivial

/-- **A turn that reads** leaves what is there. -/
theorem quiet_turn (h : p.Reads) : Quiet s (turn provider p s).1 := by
  cases p with
  | operating input d | syncing branchId saleId answer => exact h.elim
  | inserting input receiptNumber =>
    rw [turn]
    split
    · rename_i s' hok
      exact insertDocument_quiet hok
    · exact .refl s
    · exact .refl s
  | insertingIssued request row =>
    rw [turn]
    split
    · rename_i simulator hok
      exact insertIssued_quiet hok
    · exact .refl s
  | changing sales configuration =>
    exact ⟨fun _ h ↦ .inl h, fun _ _ h ↦ h, fun _ _ h ↦ h, rfl⟩
  | _ => exact .refl s

theorem at_after {α : Type} {result : Except FiscalFailure α} {next : α → Process}
    (h : ∀ a, At (next a) s) : At (.after result next) s := by
  cases result with
  | ok a => exact h a
  | error e => trivial

theorem at_issueFor (input : IssueInput) (receiptNumber : Text) (doc : SaleFiscalDocument) :
    At (issueFor input receiptNumber doc) s := by
  rw [issueFor]
  split <;> trivial

theorem at_turn (h : At p s) : At (turn provider p s).2 (turn provider p s).1 := by
  cases p with
  | receiving input =>
    show At (receiveIssue s input) s
    rw [receiveIssue]
    split
    · split
      · trivial
      · split <;> trivial
    · trivial
  | looking input receiptNumber =>
    show At (look s input receiptNumber) s
    rw [look]
    split
    · trivial
    · exact at_after (at_issueFor input receiptNumber)
  | inserting input receiptNumber =>
    rw [turn]
    split <;> trivial
  | rereading input receiptNumber inserted =>
    show At (reread s input receiptNumber inserted) s
    rw [reread]
    split
    · trivial
    · split
      · exact at_issueFor input receiptNumber _
      · exact at_after (at_issueFor input receiptNumber)
  | configuringIssue request =>
    refine at_after fun config ↦ ?_
    split <;> trivial
  | findingIssued request row | racingIssued request row | referencingIssued request row =>
    rw [turn]
    split
    · exact at_after fun _ ↦ trivial
    · trivial
  | insertingIssued request row =>
    rw [turn]
    split <;> trivial
  | readingIssued request =>
    rw [turn]
    split <;> trivial
  | requiring input =>
    show At (requireDocument s input) s
    rw [requireDocument]
    split
    · trivial
    · rename_i d hd
      split
      · obtain ⟨doc, hdoc, hpointer⟩ := Option.bind_eq_some_iff.mp hd
        obtain ⟨hfound, hbranch⟩ := get_eq_some.mp hdoc
        exact ⟨doc, hfound, hbranch, hpointer⟩
      · trivial
  | configuring input d => exact at_after fun _ ↦ h
  | operating input d | syncing branchId saleId answer =>
    rw [turn]
    split <;> trivial
  | changing sales configuration | answered result => trivial

/-! ### Turns that write -/

/-- **A change at the provider**: the answer that is on its way is what the provider has. -/
theorem Sound.changed (h : Sound st) (hp : st.processes[n]? = some (.operating input documentId))
    (hpoints : Points st.store input.branchId input.saleId documentId)
    (hchanges : Changes st.store.simulator sim' documentId document) :
    Sound ⟨{ st.store with simulator := sim' },
      st.processes.set n (.syncing input.branchId input.saleId document)⟩ := by
  refine ⟨hchanges.results h.results, h.unpointed, h.unique, fun doc hdoc d hd ↦ ?_⟩
  obtain ⟨row, hrow, hfinal, hsame⟩ := h.mirrored doc hdoc d hd
  by_cases hdocument : d = documentId
  · subst hdocument
    obtain ⟨own, hown, hbranch, hpointer⟩ := hpoints
    have hsale : doc.saleId = own.saleId :=
      h.unique doc hdoc own (mem_of_find? hown) d hd hpointer
    have hself : doc = own :=
      eq_of_mem_of_key_eq hdoc (mem_of_find? hown) hsale
    subst hself
    have hkey : doc.saleId = input.saleId := key_of_find? hown
    refine ⟨document, hchanges.found, fun hdocFinal ↦ ?_, .inr ⟨document, ?_, ?_, rfl, rfl⟩⟩
    · obtain ⟨row', hrow', hkeeps⟩ := hchanges.final
      rw [hrow] at hrow'
      cases hrow'
      have hstatus := hfinal hdocFinal
      rw [hkeeps (hstatus ▸ hdocFinal), hstatus]
    · rw [hbranch, hkey]
      exact mem_set (List.getElem?_eq_some_iff.mp hp).1 _
    · exact key_of_find? hchanges.found
  · refine ⟨row, ?_, hfinal, hsame.imp_right ?_⟩
    · rw [hchanges.others d hdocument]
      exact hrow
    · rintro ⟨answer, hmem, hanswer⟩
      exact ⟨answer, mem_set_of_ne hp hmem nofun, hanswer⟩

variable {answer : SimulatorDocument}

theorem sync_eq_ok (h : sync s branchId saleId answer = .ok s') :
    ∃ own, s.documents.find? saleId = some own ∧ own.branchId = branchId ∧
      (∀ d, own.simulatorDocumentId = some d → d = answer.id) ∧
      (∃ row, s.simulator.documents.find? answer.id = some row) ∧
      (∀ d ∈ s.documents.rows, d.simulatorDocumentId = some answer.id → d.saleId = saleId) ∧
      s' = { s with
        documents := s.documents.update saleId (SaleFiscalDocument.synced answer) } := by
  simp only [sync, eq_ok] at h
  obtain ⟨own, hown, ⟨⟩, hpointer, ⟨⟩, hrow, ⟨⟩, hunique, rfl⟩ := h
  obtain ⟨hfound, hbranch⟩ := get_eq_some.mp hown
  exact ⟨own, hfound, hbranch, hpointer, Option.isSome_iff_exists.mp hrow, hunique, rfl⟩

theorem mem_synced {own : SaleFiscalDocument} (hown : s.documents.find? saleId = some own)
    (hdoc : doc ∈ (s.documents.update saleId (SaleFiscalDocument.synced answer)).rows) :
    doc = own.synced answer ∨ (doc ∈ s.documents.rows ∧ doc.saleId ≠ saleId) :=
  of_mem_update _ hown hdoc

/-- **A `sync` of a current answer.** -/
theorem Sound.synced (h : Sound st) (hp : st.processes[n]? = some (.syncing branchId saleId answer))
    (hcurrent : Process.Current st.store (.syncing branchId saleId answer))
    (hok : sync st.store branchId saleId answer = .ok s') (result : Except FiscalFailure Unit) :
    Sound ⟨s', st.processes.set n (.answered result)⟩ := by
  obtain ⟨own, hown, hbranch, hpointer, ⟨row, hrow⟩, hunique, rfl⟩ := sync_eq_ok hok
  have hownMem : own ∈ st.store.documents.rows := mem_of_find? hown
  refine ⟨h.results, fun doc hdoc hnone ↦ ?_, fun doc hdoc doc' hdoc' d hd hd' ↦ ?_,
    fun doc hdoc d hd ↦ ?_⟩
  · rcases mem_synced hown hdoc with rfl | ⟨hdoc, -⟩
    · cases hnone
    · exact h.unpointed doc hdoc hnone
  · rcases mem_synced hown hdoc with rfl | ⟨hmem, hsale⟩
    · rcases mem_synced hown hdoc' with rfl | ⟨hmem', hsale'⟩
      · rfl
      · cases hd
        exact absurd (hunique doc' hmem' hd') hsale'
    · rcases mem_synced hown hdoc' with rfl | ⟨hmem', -⟩
      · cases hd'
        exact absurd (hunique doc hmem hd) hsale
      · exact h.unique doc hmem doc' hmem' d hd hd'
  · rcases mem_synced hown hdoc with rfl | ⟨hmem, hsale⟩
    · cases hd
      rcases hcurrent with ⟨row', hrow', hstatus, herror⟩ | ⟨own', hown', hpoints, hstatus, herror⟩
      · exact ⟨row', hrow', fun _ ↦ hstatus, .inl ⟨hstatus, herror⟩⟩
      · rw [hown] at hown'
        cases hown'
        obtain ⟨row', hrow', hfinal, hsame⟩ := h.mirrored own hownMem _ hpoints
        refine ⟨row', hrow', fun hanswer ↦ ?_, ?_⟩
        · have hownFinal : own.status.Final := hstatus ▸ hanswer
          exact (hfinal hownFinal).trans hstatus
        · rcases hsame with ⟨hstatus', herror'⟩ | ⟨other, hother, hid, hstatus', herror'⟩
          · exact .inl ⟨hstatus'.trans hstatus, herror'.trans herror⟩
          · by_cases hself : Process.syncing own.branchId own.saleId other =
                .syncing branchId saleId answer
            · cases hself
              exact .inl ⟨hstatus', herror'⟩
            · exact .inr ⟨other, mem_set_of_ne hp hother hself, hid, hstatus', herror'⟩
    · obtain ⟨row', hrow', hfinal, hsame⟩ := h.mirrored doc hmem d hd
      refine ⟨row', hrow', hfinal, hsame.imp_right ?_⟩
      rintro ⟨other, hother, hanswer⟩
      refine ⟨other, mem_set_of_ne hp hother fun heq ↦ ?_, hanswer⟩
      cases heq
      exact hsale rfl

theorem Sound.sync_ok (h : Sound st) (hdoc : doc ∈ st.store.documents.rows)
    (hpointer : doc.simulatorDocumentId = some answer.id) :
    sync st.store doc.branchId doc.saleId answer = .ok { st.store with
      documents := st.store.documents.update doc.saleId (SaleFiscalDocument.synced answer) } := by
  obtain ⟨row, hrow, -⟩ := h.mirrored doc hdoc _ hpointer
  refine bind_eq_ok.mpr ⟨doc, demand_eq_ok.mpr
    (get_eq_some.mpr ⟨find?_key_of_mem hdoc, rfl⟩), ?_⟩
  refine bind_eq_ok.mpr ⟨⟨⟩, ensure_eq_ok.mpr fun d hd ↦ ?_, ?_⟩
  · rw [hpointer] at hd
    cases hd
    rfl
  · refine bind_eq_ok.mpr ⟨⟨⟩, ensure_eq_ok.mpr (Option.isSome_iff_exists.mpr ⟨row, hrow⟩), ?_⟩
    exact bind_eq_ok.mpr ⟨⟨⟩, ensure_eq_ok.mpr fun d hd hd' ↦
      h.unique d hd doc hdoc _ hd' hpointer, rfl⟩

theorem Sound.unsynced (h : Sound st)
    (hp : st.processes[n]? = some (.syncing branchId saleId answer)) {e : FiscalFailure}
    (herror : sync st.store branchId saleId answer = .error e) (result : Except FiscalFailure Unit)
    :
    Sound ⟨st.store, st.processes.set n (.answered result)⟩ := by
  refine ⟨h.results, h.unpointed, h.unique, fun doc hdoc d hd ↦ ?_⟩
  obtain ⟨row, hrow, hfinal, hsame⟩ := h.mirrored doc hdoc d hd
  refine ⟨row, hrow, hfinal, hsame.imp_right ?_⟩
  rintro ⟨other, hother, hid, hanswer⟩
  refine ⟨other, mem_set_of_ne hp hother fun heq ↦ ?_, hid, hanswer⟩
  cases heq
  rw [h.sync_ok hdoc (hid ▸ hd)] at herror
  cases herror

theorem pointersKept_synced (h : sync s branchId saleId answer = .ok s') : PointersKept s s' := by
  obtain ⟨own, hown, -, hpointer, -, -, rfl⟩ := sync_eq_ok h
  rintro b sale d ⟨doc, hdoc, hbranch, hd⟩
  by_cases hsale : sale = saleId
  · subst hsale
    rw [hown] at hdoc
    cases hdoc
    refine ⟨own.synced answer, ?_, hbranch, congrArg some (hpointer d hd).symm⟩
    rw [find?_update_self, hown]
    rfl
  · refine ⟨doc, ?_, hbranch, hd⟩
    rw [find?_update_of_ne hsale]
    exact hdoc

/-! ### The outline is kept -/

theorem pointersKept_turn : PointersKept s (turn provider p s).1 := by
  rcases p.reads_cases with hreads | ⟨input, d, rfl⟩ | ⟨branchId, saleId, answer, rfl⟩
  · exact (quiet_turn hreads).pointersKept
  · rw [turn]
    split
    · exact .of_eq rfl
    · exact .of_eq rfl
  · rw [turn]
    split
    · rename_i s' hok
      exact pointersKept_synced hok
    · exact .of_eq rfl

theorem sound_turn (h : Sound st) (hp : st.processes[n]? = some p) (hat : At p st.store)
    (hcurrent : p.Current st.store) :
    Sound ⟨(turn provider p st.store).1, st.processes.set n (turn provider p st.store).2⟩ := by
  rcases p.reads_cases with hreads | ⟨input, d, rfl⟩ | ⟨branchId, saleId, answer, rfl⟩
  · refine h.quiet (quiet_turn hreads) fun _ _ _ hmem ↦ mem_set_of_ne hp hmem fun heq ↦ ?_
    subst heq
    exact hreads
  · cases hok : providerTransaction provider st.store.simulator input d with
    | error e =>
      rw [turn, hok]
      exact h.quiet (.refl _) fun _ _ _ hmem ↦ mem_set_of_ne hp hmem nofun
    | ok answer =>
      obtain ⟨sim', document⟩ := answer
      rw [turn, hok]
      rcases providerTransaction_cases h.results hok with ⟨rfl, -⟩ | hchanges
      · exact h.quiet (.refl _) fun _ _ _ hmem ↦ mem_set_of_ne hp hmem nofun
      · exact h.changed hp hat hchanges
  · cases hok : sync st.store branchId saleId answer with
    | error e =>
      rw [turn, hok]
      exact h.unsynced hp hok _
    | ok s' =>
      rw [turn, hok]
      exact h.synced hp hcurrent hok _

/-- **The outline is kept** by the steps that write what is current. -/
theorem keeps (provider : Provider) : outline.Keeps (fiscalDocuments provider) Current where
  start st request hst _ := by
    refine ⟨hst.inv.quiet (.refl _) fun _ _ _ hmem ↦ mem_append_left _ hmem, ?_,
      fun _ _ ↦ trivial⟩
    cases request <;> trivial
  turn st n p hst hC hp := by
    have hat : At p st.store := hst.places p (mem_of_getElem? hp)
    refine ⟨sound_turn hst.inv hp hat (hC p hp), at_turn hat, fun m q _ hq ↦ ⟨?_, trivial⟩⟩
    exact (hst.places q (mem_of_getElem? hq)).later pointersKept_turn

/-! ### What every step owes -/

/-- **The row mirrors the provider**, and what is for good stays. -/
structure Mirrors (st st' : State FiscalStore Process) : Prop where
  /-- While no request for the sale is in progress, the row says what its document says. -/
  equal : ∀ doc ∈ st'.store.documents.rows, ∀ d, doc.simulatorDocumentId = some d →
    (∀ p ∈ st'.processes, p.concerns ≠ some doc.saleId) →
    ∃ row, st'.store.simulator.documents.find? d = some row ∧ doc.status = row.status ∧
      doc.errorCode = row.errorCode
  /-- A row that is cancelled or rejected keeps its status. -/
  final : ∀ saleId doc, st.store.documents.find? saleId = some doc → doc.status.Final →
    ∃ doc', st'.store.documents.find? saleId = some doc' ∧ doc'.status = doc.status

theorem Sound.equal (h : Sound st) (hdoc : doc ∈ st.store.documents.rows) {d : Uuid}
    (hd : doc.simulatorDocumentId = some d)
    (hidle : ∀ p ∈ st.processes, p.concerns ≠ some doc.saleId) :
    ∃ row, st.store.simulator.documents.find? d = some row ∧ doc.status = row.status ∧
      doc.errorCode = row.errorCode := by
  obtain ⟨row, hrow, -, ⟨hstatus, herror⟩ | ⟨answer, hmem, -⟩⟩ := h.mirrored doc hdoc d hd
  · exact ⟨row, hrow, hstatus.symm, herror.symm⟩
  · exact absurd rfl (hidle _ hmem)

theorem final_turn (h : Sound st) (hcurrent : p.Current st.store)
    (hdoc : st.store.documents.find? saleId = some doc) (hfinal : doc.status.Final) :
    ∃ doc', (turn provider p st.store).1.documents.find? saleId = some doc' ∧
      doc'.status = doc.status := by
  rcases p.reads_cases with hreads | ⟨input, d, rfl⟩ | ⟨branchId, sale, answer, rfl⟩
  · have hquiet : Quiet st.store (turn provider p st.store).1 := quiet_turn hreads
    exact ⟨doc, hquiet.kept saleId doc hdoc, rfl⟩
  · rw [turn]
    split
    · exact ⟨doc, hdoc, rfl⟩
    · exact ⟨doc, hdoc, rfl⟩
  · cases hok : sync st.store branchId sale answer with
    | error e =>
      rw [turn, hok]
      exact ⟨doc, hdoc, rfl⟩
    | ok s' =>
      rw [turn, hok]
      obtain ⟨own, hown, -, hpointer, -, -, rfl⟩ := sync_eq_ok hok
      by_cases hsale : saleId = sale
      · subst hsale
        rw [hdoc] at hown
        cases hown
        refine ⟨doc.synced answer, ?_, ?_⟩
        · rw [find?_update_self, hdoc]
          rfl
        · rcases hcurrent with ⟨row, hrow, hstatus, -⟩ | ⟨own', hown', -, hstatus, -⟩
          · cases hd : doc.simulatorDocumentId with
            | none =>
              rw [h.unpointed doc (mem_of_find? hdoc) hd] at hfinal
              exact absurd hfinal (by decide)
            | some d =>
              have hid : d = answer.id := hpointer d hd
              subst hid
              obtain ⟨row', hrow', hkeeps, -⟩ := h.mirrored doc (mem_of_find? hdoc) _ hd
              rw [show st.store.simulator.documents.find? answer.id = some row from hrow] at hrow'
              cases hrow'
              exact hstatus.symm.trans (hkeeps hfinal)
          · rw [hdoc] at hown'
            cases hown'
            exact hstatus.symm
      · refine ⟨doc, ?_, rfl⟩
        rw [find?_update_of_ne hsale]
        exact hdoc

/-- **One step.** -/
theorem mirrors_of_step (hst : outline.Holds st) {event : Event FiscalRequest}
    (hC : Current st event) (h : step (fiscalDocuments provider) st event = .ok st')
    (hst' : outline.Holds st') : Mirrors st st' := by
  refine ⟨fun doc hdoc d hd hidle ↦ hst'.inv.equal hdoc hd hidle, fun saleId doc hdoc hfinal ↦ ?_⟩
  cases event with
  | start request =>
    cases h
    exact ⟨doc, hdoc, rfl⟩
  | turn n =>
    obtain ⟨p, hp, rfl⟩ := step_turn_eq_ok.mp h
    exact final_turn hst.inv (hC p hp) hdoc hfinal

/-! ### Runs -/

theorem holds_unissued (sales : Table FiscalSale)
    (configuration : Option FiscalTenantConfiguration) :
    outline.Holds (.idle (.unissued sales configuration)) :=
  .idle ⟨forall_mem_nil _, forall_mem_nil _,
    forall_mem_nil _, forall_mem_nil _⟩

/-- **The document of a sale mirrors the provider** in every run that writes current answers only.
-/
theorem fiscal_mirror (provider : Provider) (sales : Table FiscalSale)
    (configuration : Option FiscalTenantConfiguration) (events : List (Event FiscalRequest))
    (h : Along (step (fiscalDocuments provider)) Current
      (.idle (.unissued sales configuration)) events) :
    Along (step (fiscalDocuments provider)) (fun st event ↦
      ∀ st', step (fiscalDocuments provider) st event = .ok st' → Mirrors st st')
      (.idle (.unissued sales configuration)) events :=
  (keeps provider).along (fun _ _ _ hst hC hstep hst' ↦ mirrors_of_step hst hC hstep hst')
    (holds_unissued sales configuration) events h

/-! ### Two runs -/

instance (s : FiscalStore) : (p : Process) → Decidable (p.Current s)
  | .syncing _ saleId answer => inferInstanceAs (Decidable
      ((∃ row ∈ s.simulator.documents.find? answer.id,
        row.status = answer.status ∧ row.errorCode = answer.errorCode) ∨
      (∃ doc ∈ s.documents.find? saleId, doc.simulatorDocumentId = some answer.id ∧
        doc.status = answer.status ∧ doc.errorCode = answer.errorCode)))
  | .receiving _ | .looking .. | .inserting .. | .rereading .. | .configuringIssue _
  | .findingIssued .. | .insertingIssued .. | .racingIssued .. | .referencingIssued ..
  | .readingIssued _ | .requiring _ | .configuring .. | .operating .. | .changing ..
  | .answered _ => .isTrue trivial

def simulatorProfile : Option FiscalTenantConfiguration := some {
  countryCode := textOf "MX", contractVersion := textOf "1", providerProfile := textOf "SIMULATOR",
  enabled := true, documentTypes := [textOf "INVOICE"] }

def readyProvider : Provider where
  providerReference _ _ reference := reference
  contractReady _ := true
  collate := id

def oneSale : Table FiscalSale where
  rows := [{ id := 1, branchId := 2, completed := true, receiptNumber := textOf "T-000001" }]
  nodup := by decide

def issueInvoice : FiscalRequest := .issue {
  branchId := 2, saleId := 1, idempotencyKey := textOf "issue-001",
  documentType := textOf "INVOICE", scenario := .SUCCESS, id := 10, simulatorId := 20 }

def queryInvoice : FiscalRequest := .operate {
  branchId := 2, saleId := 1, kind := .query (textOf "query-001") }

/-- See `queryInvoice`. -/
def cancelInvoice : FiscalRequest := .operate {
  branchId := 2, saleId := 1, kind := .cancel (textOf "cancel-01") }

def toEnd (request : FiscalRequest) (position : ℕ) : List (Event FiscalRequest) :=
  .start request :: List.replicate 9 (.turn position)

theorem fiscal_mirror_cancelled : Along (step (fiscalDocuments readyProvider)) (fun st event ↦
      ∀ st', step (fiscalDocuments readyProvider) st event = .ok st' → Mirrors st st')
      (.idle (.unissued oneSale simulatorProfile))
      (toEnd issueInvoice 0 ++ toEnd queryInvoice 1 ++ toEnd cancelInvoice 2) :=
  fiscal_mirror readyProvider oneSale simulatorProfile _ (by decide +kernel)

/-- **The repetition of an old query** takes the row back to what it was before the cancellation. -/
theorem fiscal_mirror_repeated_query :
    (let st := run (step (fiscalDocuments readyProvider))
      (.idle (.unissued oneSale simulatorProfile))
      (toEnd issueInvoice 0 ++ toEnd queryInvoice 1 ++ toEnd cancelInvoice 2)
    (∀ p ∈ st.processes, p.concerns = none) ∧
      st.store.documents.rows.map SaleFiscalDocument.status = [.CANCELLED]) ∧
    (let st := run (step (fiscalDocuments readyProvider))
      (.idle (.unissued oneSale simulatorProfile))
      (toEnd issueInvoice 0 ++ toEnd queryInvoice 1 ++ toEnd cancelInvoice 2 ++
        toEnd queryInvoice 3)
    (∀ p ∈ st.processes, p.concerns = none) ∧
      st.store.documents.rows.map (fun doc ↦ (doc.simulatorDocumentId, doc.status)) =
        [(some 20, .ACCEPTED)] ∧
      st.store.simulator.documents.rows.map (fun doc ↦ (doc.id, doc.status)) =
        [(20, .CANCELLED)]) := by
  decide +kernel

end UInventario.Fiscal
