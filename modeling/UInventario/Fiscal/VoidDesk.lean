import UInventario.Fiscal.Mirror
import UInventario.Pos.SaleCommits

/-!
# Fiscal documents beside the point of sale

The requests on the fiscal documents of the sales, and the transactions of the point of sale that
sell, void and take back, side by side over one store. A request on a document is a process of
`SaleDocuments`, which sees of a sale whether it is completed (`fiscalSale`). A transaction commits
in one turn, whatever it has decided before. `voidSale` neither reads nor writes the documents.
-/

namespace UInventario.Fiscal

open Outcome Processes

/-! ### The store -/

/-- **The tables of the point of sale**, and the fiscal documents beside them. -/
structure FiscalDesk where
  pos : Pos.Store
  documents : Table SaleFiscalDocument
  simulator : Simulator

def fiscalSale (receiptNumber : Uuid → Text) (sale : Pos.Sale) : FiscalSale where
  id := sale.id
  branchId := sale.branchId
  completed := decide sale.isCompleted
  receiptNumber := receiptNumber sale.id

/-- `sales`, as the documents see them. -/
def fiscalSales (receiptNumber : Uuid → Text) (sales : Table Pos.Sale) : Table FiscalSale where
  rows := sales.rows.map (fiscalSale receiptNumber)
  nodup := by
    rw [List.map_map]
    exact sales.nodup

def FiscalDesk.fiscal (receiptNumber : Uuid → Text) (s : FiscalDesk) : FiscalStore where
  sales := fiscalSales receiptNumber s.pos.sales
  documents := s.documents
  simulator := s.simulator

def FiscalDesk.unissued (pos : Pos.Store) (configuration : Option FiscalTenantConfiguration) :
    FiscalDesk where
  pos := pos
  documents := .empty
  simulator := (FiscalStore.unissued .empty configuration).simulator

theorem find?_fiscalSales {receiptNumber : Uuid → Text} {sales : Table Pos.Sale} (saleId : Uuid) :
    (fiscalSales receiptNumber sales).find? saleId =
      (sales.find? saleId).map (fiscalSale receiptNumber) := by
  rw [fiscalSales, Table.find?, Table.find?, List.find?_map]
  rfl

/-- **A voided sale.** -/
def Voided (pos : Pos.Store) (saleId : Uuid) : Prop :=
  ∃ sale ∈ pos.sales.find? saleId, ¬sale.isCompleted
deriving Decidable

/-! ### The requests -/

inductive DeskRequest
  | issue (input : IssueInput)
  | operate (input : OperationInput)
  | configure (configuration : Option FiscalTenantConfiguration)
  | commit (request : Pos.Request) (decision : Pos.Decision)

inductive DeskProcess
  | fiscal (process : Process)
  | configuring (configuration : Option FiscalTenantConfiguration)
  | committing (request : Pos.Request) (decision : Pos.Decision)
  | done

/-- The next statement of a request, or the commit of a transaction of the point of sale. -/
def deskTurn (provider : Provider) (receiptNumber : Uuid → Text) :
    DeskProcess → FiscalDesk → FiscalDesk × DeskProcess
  | .fiscal p, s =>
    let (fiscal, next) := turn provider p (s.fiscal receiptNumber)
    ({ s with documents := fiscal.documents, simulator := fiscal.simulator }, .fiscal next)
  | .configuring configuration, s =>
    ({ s with simulator := { s.simulator with configuration := configuration } }, .done)
  | .committing request decision, s =>
    match Pos.protocol.write request decision s.pos with
    | .ok pos => ({ s with pos := pos }, .done)
    | .error _ => (s, .done)
  | .done, s => (s, .done)

/-- **The system**: requests on fiscal documents and transactions of the point of sale. -/
def fiscalDesk (provider : Provider) (receiptNumber : Uuid → Text) :
    Processes.System FiscalDesk DeskProcess DeskRequest where
  start
    | .issue input => .fiscal (.receiving input)
    | .operate input => .fiscal (.requiring input)
    | .configure configuration => .configuring configuration
    | .commit request decision => .committing request decision
  turn := deskTurn provider receiptNumber

/-! ### What a void finds -/

/-- An `issue` that has left its row behind and not asked the provider yet. -/
def Process.Issues (saleId : Uuid) : Process → Prop
  | .configuringIssue request => request.saleId = saleId
  | .findingIssued request _ => request.saleId = saleId
  | .insertingIssued request _ => request.saleId = saleId
  | _ => False

/-- See `Process.Issues`. -/
def DeskProcess.Issues (saleId : Uuid) : DeskProcess → Prop
  | .fiscal p => p.Issues saleId
  | _ => False

/-- What `voidSale` has checked of the sale and its shift when it voids. -/
def Voidable (pos : Pos.Store) (input : Pos.VoidInput) : Prop :=
  ∃ sale ∈ pos.sales.find? input.saleId, sale.isCompleted ∧
    (∀ r ∈ pos.saleReturns.rows, r.saleId ≠ sale.id) ∧
    ∃ shift ∈ pos.cash.shifts.find? sale.shiftId, shift.isOpen
deriving Decidable

/-- **The condition on a turn.** No document of a voided sale stands or is about to be issued, and
what is written to it is what the provider has. -/
def DeskProcess.Settles (st : State FiscalDesk DeskProcess) : DeskProcess → Prop
  | .committing (.voidSale input) _ => Voidable st.store.pos input →
    (∀ doc ∈ st.store.documents.find? input.saleId, doc.status.Final) ∧
    ∀ p ∈ st.processes, ¬p.Issues input.saleId
  | .fiscal (.syncing _ saleId answer) => Voided st.store.pos saleId →
    (∃ row ∈ st.store.simulator.documents.find? answer.id, row.status = answer.status) ∨
    ∃ doc ∈ st.store.documents.find? saleId, doc.status = answer.status
  | _ => True

abbrev Settles : State FiscalDesk DeskProcess → Event DeskRequest → Prop :=
  AtTurn fun st p ↦ p.Settles st

/-- **What every step owes** to the sales that are voided. -/
structure Withdrawn (st st' : State FiscalDesk DeskProcess) : Prop where
  issued : ∀ document ∈ st'.store.simulator.documents.rows,
    st.store.simulator.documents.find? document.id = none →
    ¬Voided st.store.pos document.idempotencyKey.saleId
  final : ∀ saleId, Voided st'.store.pos saleId →
    ∀ doc ∈ st'.store.documents.find? saleId, doc.status.Final

end UInventario.Fiscal
