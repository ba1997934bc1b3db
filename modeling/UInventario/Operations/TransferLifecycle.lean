import UInventario.Foundations.Sums
import UInventario.Operations.Transfers

/-!
# The lifecycle of a transfer

A transfer is a draft, is dispatched or cancelled, and once dispatched it is received, in part or as
a whole. The requests come in any order and may be repeated, and each is one transaction that holds
the row of the header; between them the rest of the application does what it likes with the stock
(`Request.elsewhere`).

Every property is read off what one request does (`Moved`): it leaves the store as it is, or writes
a draft, dispatches it, receives a part of it or cancels it. `TransfersSound` is the invariant: no
line has settled more than its quantity, and a header is `RECEIVED` exactly when all are settled.
What the requests on a transfer have done to the stock is a function of its lines (`stockMoved`).
-/

namespace UInventario

open Outcome Table List

/-! ### The status of a transfer -/

def TransferStatus.departed : TransferStatus → Bool
  | .DRAFT | .CANCELLED => false
  | .DISPATCHED | .PARTIALLY_RECEIVED | .RECEIVED => true

/-- **How the status of a transfer changes.** -/
inductive TransferStatus.Next : TransferStatus → TransferStatus → Prop
  | dispatched : Next .DRAFT .DISPATCHED
  | cancelled : Next .DRAFT .CANCELLED
  | received {status status' : TransferStatus}
      (h : status = .DISPATCHED ∨ status = .PARTIALLY_RECEIVED)
      (h' : status' = .PARTIALLY_RECEIVED ∨ status' = .RECEIVED) : Next status status'

namespace TransferStatus.Next

variable {status status' : TransferStatus}

theorem departed (h : Next status status') (hdeparted : status.departed = true) :
    status'.departed = true := by
  cases h with
  | dispatched => rfl
  | cancelled => cases hdeparted
  | received _ h' => rcases h' with rfl | rfl <;> rfl

theorem ne_received (h : Next status status') : status ≠ .RECEIVED := by
  rintro rfl
  cases h with
  | received h _ => rcases h with h | h <;> cases h

theorem draft_of_cancelled (h : Next status .CANCELLED) : status = .DRAFT := by
  cases h with
  | cancelled => rfl
  | received _ h' => rcases h' with h' | h' <;> cases h'

end TransferStatus.Next

def TransferLine.left (l : TransferLine) (departed : Bool) : Buckets :=
  if departed then { available := -l.quantity } else {}

/-- What a dispatched line has brought to its destination: what has been received is available, and
what is pending is in transit. -/
def TransferLine.arrived (l : TransferLine) (departed : Bool) : Buckets :=
  if departed then { available := l.receivedQuantity, inTransit := l.pending } else {}

namespace Transfers

/-! ### Requests and runs -/

/-- What the rest of the application may do: anything, except to transfers and accepted balances. -/
@[mk_iff]
structure Elsewhere (s s' : Store) : Prop where
  transfers_eq : s'.documents.transfers.rows = s.documents.transfers.rows
  lines_eq : s'.documents.transferLines.rows = s.documents.transferLines.rows
  balancesValid : s'.BalancesValid

instance (s s' : Store) : Decidable (Elsewhere s s') := decidable_of_iff' _ (elsewhere_iff s s')

/-- **A request about a transfer**, or what happens elsewhere. A request for a draft has at least
one line (`ArrayMinSize(1)`). -/
inductive Request
  | create (input : CreateInput) (hlines : input.lines ≠ [])
  | dispatch (input : DispatchInput)
  | receive (input : ReceiveInput)
  | cancel (input : CancelInput)
  | elsewhere (operation : Store → Store)

def Request.transferId : Request → Option Uuid
  | .create _ _ => none
  | .dispatch input => some input.transferId
  | .receive input => some input.transferId
  | .cancel input => some input.transferId
  | .elsewhere _ => none

def step (s : Store) : Request → Except Failure Store
  | .create input _ => do
    let r ← create s input
    pure r.store
  | .dispatch input => do
    let r ← dispatch s input
    pure r.store
  | .receive input => do
    let r ← receive s input
    pure r.store
  | .cancel input => cancel s input
  | .elsewhere operation => do
    ensure (Elsewhere s (operation s)) .otherPart
    pure (operation s)

/-- **What a request does**, when it succeeds. -/
inductive Moved (s : Store) : Request → Store → Prop
  | unchanged (i : Request) : Moved s i s
  | drafted {input : CreateInput} {hlines : input.lines ≠ []} {after : Commitments} {s' : Store}
      (hdrafted : Drafted s.documents.toCommitments after)
      (hcount : s.documents.transferLines.rows.length < after.transferLines.rows.length)
      (hwrites : StockWrites s [.commit s.documents.toCommitments after] s') :
      Moved s (.create input hlines) s'
  | dispatched {input : DispatchInput} {header : Transfer} {dispatched : List DispatchedLine}
      {s' : Store} (hheader : s.documents.transfers.find? input.transferId = some header)
      (hdraft : header.status = .DRAFT)
      (hlines : dispatched.map DispatchedLine.line =
        lineRows s.documents.toCommitments input.transferId)
      (hwrites : StockWrites s ((dispatchKeys (dispatched.map DispatchedLine.line)).map
          (fun key ↦ .opened key.1 key.2) ++
        dispatched.flatMap (DispatchedLine.writes input.transferId) ++
        [.commit s.documents.toCommitments
          (dispatchedCommitments s.documents.toCommitments input)]) s') :
      Moved s (.dispatch input) s'
  | received {input : ReceiveInput} {header : Transfer} {receiptId : Uuid}
      {received : List ReceivedLine} {last : Commitments} {s' : Store}
      (hheader : s.documents.transfers.find? input.transferId = some header)
      (hstatus : header.status = .DISPATCHED ∨ header.status = .PARTIALLY_RECEIVED)
      (hreceived : ∀ r ∈ received, Receivable input.transferId r.before [r.item] ∧
        r.before.transfers = s.documents.transfers)
      (hlast : last.transfers = s.documents.transfers)
      (hwrites : StockWrites s (received.flatMap (ReceivedLine.writes receiptId) ++
        [.commit last (withStatus last input.transferId
          (receivedStatus last input.transferId))]) s') :
      Moved s (.receive input) s'
  | cancelled {input : CancelInput} {header : Transfer} {s' : Store}
      (hheader : s.documents.transfers.find? input.transferId = some header)
      (hdraft : header.status = .DRAFT)
      (hwrites : StockWrites s [.commit s.documents.toCommitments
        (withStatus s.documents.toCommitments input.transferId .CANCELLED)] s') :
      Moved s (.cancel input) s'
  | elsewhere {operation : Store → Store} (h : Elsewhere s (operation s)) :
      Moved s (.elsewhere operation) (operation s)

variable {i : Request}

theorem step_moved {s s' : Store} (h : step s i = .ok s') : Moved s i s' := by
  cases i with
  | create input hlines =>
    simp only [step, eq_ok] at h
    obtain ⟨r, hcreate, rfl⟩ := h
    rcases create_writes hcreate with hsame | ⟨after, hdrafted, hcount, hwrites⟩
    · exact hsame ▸ .unchanged _
    · have hpos : 0 < input.lines.length := length_pos_iff.mpr hlines
      exact .drafted hdrafted (by omega) hwrites
  | dispatch input =>
    simp only [step, eq_ok] at h
    obtain ⟨r, hdispatch, rfl⟩ := h
    rcases dispatch_writes hdispatch with hsame | ⟨header, dispatched, hheader, hdraft, hlines, hw⟩
    · exact hsame ▸ .unchanged _
    · exact .dispatched hheader hdraft hlines hw
  | receive input =>
    simp only [step, eq_ok] at h
    obtain ⟨r, hreceive, rfl⟩ := h
    rcases receive_writes hreceive with
      hsame | ⟨header, receiptId, received, last, hheader, hstatus, hreceived, hlast, hwrites⟩
    · exact hsame ▸ .unchanged _
    · exact .received hheader hstatus hreceived hlast hwrites
  | cancel input =>
    rcases cancel_writes h with rfl | ⟨header, hheader, hdraft, hwrites⟩
    · exact .unchanged _
    · exact .cancelled hheader hdraft hwrites
  | elsewhere operation =>
    simp only [step, eq_ok] at h
    obtain ⟨-, h, rfl⟩ := h
    exact .elsewhere h

/-! ### The header -/

variable {f : Transfer → Transfer} {input : DispatchInput} {id : Uuid}

section Header

variable {s s' : Store} {i : Request} {transferId : Uuid} {t t' : Transfer}

theorem find?_withStatus (c : Commitments) (id : Uuid) (status : TransferStatus) :
    (withStatus c id status).transfers.find? transferId = (c.transfers.find? transferId).map fun t ↦
        if transferId = id then { t with status := status } else t := by
  rw [withStatus, find?_update]

theorem find?_dispatchedCommitments (c : Commitments) (input : DispatchInput) :
    (dispatchedCommitments c input).transfers.find? transferId =
      (c.transfers.find? transferId).map fun t ↦
        if transferId = input.transferId then Dispatched input.idempotencyKey t else t := by
  rw [dispatchedCommitments, find?_update]

/-- An update of one header leaves the others, and takes its own one step. -/
theorem header_of_map {transfers : Option Transfer}
    (hmap : transfers = (s.documents.transfers.find? transferId).map fun t ↦
      if transferId = id then f t else t)
    (h : s.documents.transfers.find? transferId = some t)
    (hnext : transferId = id → t.status.Next (f t).status) :
    transfers = some t ∨ some id = some transferId ∧ ∃ t', transfers = some t' ∧
      t.status.Next t'.status := by
  rw [h, Option.map_some] at hmap
  by_cases hid : transferId = id
  · rw [if_pos hid] at hmap
    exact .inr ⟨congrArg some hid.symm, f t, hmap, hnext hid⟩
  · rw [if_neg hid] at hmap
    exact .inl hmap

/-- **What a request does to a header**: nothing, unless it is on its transfer, and then the status
takes one step. -/
theorem Moved.header (m : Moved s i s') (h : s.documents.transfers.find? transferId = some t) :
    s'.documents.transfers.find? transferId = some t ∨ i.transferId = some transferId ∧ ∃ t',
        s'.documents.transfers.find? transferId = some t' ∧ t.status.Next t'.status := by
  cases m with
  | unchanged => exact .inl h
  | drafted hdrafted _ hwrites =>
    obtain ⟨new, hinsert, -, -⟩ := hdrafted.draft
    left
    rw [hwrites.commitments_of_last [] rfl]
    exact find?_insert_of_some hinsert h
  | dispatched hheader hdraft _ hwrites =>
    rw [hwrites.commitments_of_last _ rfl]
    refine header_of_map (find?_dispatchedCommitments _ _) h fun hid ↦ ?_
    obtain rfl := Option.some_inj.mp (h.symm.trans (hid ▸ hheader))
    rw [hdraft]
    exact .dispatched
  | @received input _ _ _ last _ hheader hstatus _ hlast hwrites =>
    rw [hwrites.commitments_of_last _ rfl]
    refine header_of_map (hlast ▸ find?_withStatus _ _ _) h fun hid ↦ ?_
    obtain rfl := Option.some_inj.mp (h.symm.trans (hid ▸ hheader))
    refine .received hstatus ?_
    rw [receivedStatus]
    split
    · exact .inl rfl
    · exact .inr rfl
  | cancelled hheader hdraft hwrites =>
    rw [hwrites.commitments_of_last [] rfl]
    refine header_of_map (find?_withStatus _ _ _) h fun hid ↦ ?_
    obtain rfl := Option.some_inj.mp (h.symm.trans (hid ▸ hheader))
    rw [hdraft]
    exact .cancelled
  | elsewhere helse =>
    left
    rw [Table.find?, helse.transfers_eq]
    exact h

theorem Moved.header_new (m : Moved s i s') (h : s.documents.transfers.find? transferId = none)
    (h' : s'.documents.transfers.find? transferId = some t') : t'.status = .DRAFT := by
  cases m with
  | unchanged => rw [h] at h'; cases h'
  | drafted hdrafted _ hwrites =>
    obtain ⟨new, hinsert, hdraft, -⟩ := hdrafted.draft
    rw [hwrites.commitments_of_last [] rfl] at h'
    by_cases hid : new.id = transferId
    · subst hid
      obtain rfl := Option.some_inj.mp (h'.symm.trans (find?_insert_self hinsert))
      exact hdraft
    · rw [find?_insert_of_ne hinsert hid, h] at h'
      cases h'
  | dispatched _ _ _ hwrites =>
    rw [hwrites.commitments_of_last _ rfl, find?_dispatchedCommitments, h] at h'
    cases h'
  | received _ _ _ hlast hwrites =>
    rw [hwrites.commitments_of_last _ rfl, find?_withStatus, hlast, h] at h'
    cases h'
  | cancelled _ _ hwrites =>
    rw [hwrites.commitments_of_last [] rfl, find?_withStatus, h] at h'
    cases h'
  | elsewhere helse =>
    rw [Table.find?, helse.transfers_eq] at h'
    exact absurd (h.symm.trans h') (by simp)

theorem Moved.unchanged_of_received (m : Moved s i s')
    (h : s.documents.transfers.find? transferId = some t) (hstatus : t.status = .RECEIVED)
    (hid : i.transferId = some transferId) : s' = s := by
  cases m with
  | unchanged => rfl
  | drafted | elsewhere => cases hid
  | dispatched hheader hdraft =>
    obtain rfl := Option.some_inj.mp hid
    rw [h, Option.some_inj] at hheader
    rw [← hheader, hstatus] at hdraft
    cases hdraft
  | received hheader hopen =>
    obtain rfl := Option.some_inj.mp hid
    rw [h, Option.some_inj] at hheader
    rw [← hheader, hstatus] at hopen
    rcases hopen with hopen | hopen <;> cases hopen
  | cancelled hheader hdraft =>
    obtain rfl := Option.some_inj.mp hid
    rw [h, Option.some_inj] at hheader
    rw [← hheader, hstatus] at hdraft
    cases hdraft

theorem Moved.dispatch (m : Moved s (.dispatch input) s') (hne : s' ≠ s) :
    (∃ header, s.documents.transfers.find? input.transferId = some header ∧
        header.status = .DRAFT) ∧
      ∃ header', s'.documents.transfers.find? input.transferId = some header' ∧
        header'.status.departed = true := by
  cases m with
  | unchanged => exact absurd rfl hne
  | dispatched hheader hdraft _ hwrites =>
    refine ⟨⟨_, hheader, hdraft⟩, ?_⟩
    rw [hwrites.commitments_of_last _ rfl, find?_dispatchedCommitments, hheader]
    exact ⟨_, by rw [Option.map_some, if_pos rfl], rfl⟩

end Header

/-! ### What the documents say -/

/-- The lines belong to transfers, and none has settled more than its quantity. -/
structure LinesSound (c : Commitments) : Prop where
  linked : ∀ l ∈ c.transferLines.rows, ∃ t, c.transfers.find? l.transferId = some t
  received_nonneg : ∀ l ∈ c.transferLines.rows, 0 ≤ l.receivedQuantity
  discrepancy_nonneg : ∀ l ∈ c.transferLines.rows, 0 ≤ l.discrepancyQuantity
  settled_le : ∀ l ∈ c.transferLines.rows, l.receivedQuantity + l.discrepancyQuantity ≤ l.quantity

def departed (c : Commitments) (transferId : Uuid) : Bool :=
  ((c.transfers.find? transferId).map fun t ↦ t.status.departed).getD false

def Settled (c : Commitments) (transferId : Uuid) : Prop :=
  ∀ l ∈ lineRows c transferId, l.receivedQuantity + l.discrepancyQuantity = l.quantity

structure StatusSound (c : Commitments) (transferId : Uuid) : Prop where
  received_iff : ∀ t, c.transfers.find? transferId = some t →
    (t.status = .RECEIVED ↔ Settled c transferId)
  untouched : ∀ t, c.transfers.find? transferId = some t → t.status.departed = false →
    ∀ l ∈ lineRows c transferId, l.receivedQuantity = 0 ∧ l.discrepancyQuantity = 0

/-- **The invariant of the documents.** -/
structure TransfersSound (c : Commitments) : Prop where
  lines : LinesSound c
  status : ∀ transferId, StatusSound c transferId

variable {item : RequestedLine} {t : Transfer}

section Sound

variable {c c' : Commitments} {transferId : Uuid}

theorem lineRows_congr (h : c'.transferLines.rows = c.transferLines.rows) :
    lineRows c' transferId = lineRows c transferId := by
  rw [lineRows, lineRows, h]

theorem StatusSound.congr (h : StatusSound c transferId)
    (hfind : c'.transfers.find? transferId = c.transfers.find? transferId)
    (hlines : ∀ l, l ∈ lineRows c' transferId ↔ l ∈ lineRows c transferId) :
    StatusSound c' transferId := by
  refine ⟨fun t ht ↦ ?_, fun t ht hdeparted l hl ↦ ?_⟩
  · rw [h.received_iff t (hfind ▸ ht), Settled, Settled]
    simp only [hlines]
  · exact h.untouched t (hfind ▸ ht) hdeparted l ((hlines l).mp hl)

theorem LinesSound.of_forall (h : ∀ l ∈ c.transferLines.rows,
    (∃ t, c.transfers.find? l.transferId = some t) ∧ 0 ≤ l.receivedQuantity ∧
      0 ≤ l.discrepancyQuantity ∧ l.receivedQuantity + l.discrepancyQuantity ≤ l.quantity) :
    LinesSound c :=
  ⟨fun l hl ↦ (h l hl).1, fun l hl ↦ (h l hl).2.1, fun l hl ↦ (h l hl).2.2.1,
    fun l hl ↦ (h l hl).2.2.2⟩

theorem TransfersSound.of_rows_eq (h : TransfersSound c)
    (htransfers : c'.transfers.rows = c.transfers.rows)
    (hlines : c'.transferLines.rows = c.transferLines.rows) : TransfersSound c' := by
  have hfind : ∀ id, c'.transfers.find? id = c.transfers.find? id := fun id ↦ by
    rw [Table.find?, htransfers, Table.find?]
  refine ⟨⟨fun l hl ↦ ?_, fun l hl ↦ h.lines.received_nonneg l (hlines ▸ hl),
    fun l hl ↦ h.lines.discrepancy_nonneg l (hlines ▸ hl),
    fun l hl ↦ h.lines.settled_le l (hlines ▸ hl)⟩, fun id ↦ (h.status id).congr (hfind id) ?_⟩
  · rw [hfind]
    exact h.lines.linked l (hlines ▸ hl)
  · exact fun l ↦ by rw [lineRows_congr hlines]

theorem TransfersSound.untouched_of_not_departed (h : TransfersSound c)
    (hdeparted : departed c transferId = false) :
    ∀ l ∈ lineRows c transferId, l.receivedQuantity = 0 ∧ l.discrepancyQuantity = 0 := by
  intro l hl
  obtain ⟨hmem, hlinked⟩ := mem_lineRows.mp hl
  obtain ⟨t, ht⟩ := h.lines.linked l hmem
  rw [hlinked] at ht
  rw [departed, ht] at hdeparted
  exact (h.status transferId).untouched t ht hdeparted l hl

variable {t : Transfer}

theorem TransfersSound.of_draft (h : TransfersSound c)
    (hfind : c.transfers.find? transferId = some t) (hdraft : t.status = .DRAFT)
    {hf : ∀ t, Keyed.key (f t) = Keyed.key t} (hstatus : ∀ t, (f t).status ≠ .RECEIVED) :
    TransfersSound { c with transfers := c.transfers.update transferId f hf } := by
  have hself : (c.transfers.update transferId f hf).find? transferId = some (f t) := by
    rw [find?_update_self, hfind, Option.map_some]
  have hopen : ¬Settled c transferId := fun hsettled ↦ by
    have hreceived := ((h.status transferId).received_iff t hfind).mpr hsettled
    rw [hdraft] at hreceived
    cases hreceived
  refine ⟨⟨fun l hl ↦ ?_, h.lines.received_nonneg, h.lines.discrepancy_nonneg,
    h.lines.settled_le⟩, fun id ↦ ?_⟩
  · obtain ⟨t₀, ht₀⟩ := h.lines.linked l hl
    exact ⟨_, by rw [find?_update, ht₀, Option.map_some]⟩
  · by_cases hid : id = transferId
    · subst hid
      refine ⟨fun t' ht' ↦ iff_of_false ?_ hopen,
        fun _ _ _ ↦ (h.status id).untouched t hfind (by rw [hdraft]; rfl)⟩
      obtain rfl := Option.some_inj.mp (hself.symm.trans ht')
      exact hstatus t
    · have hother : (c.transfers.update transferId f hf).find? id = c.transfers.find? id :=
        find?_update_of_ne hid
      exact (h.status id).congr hother fun _ ↦ Iff.rfl

theorem TransfersSound.drafted (h : TransfersSound c) (hdrafted : Drafted c c')
    (hcount : c.transferLines.rows.length < c'.transferLines.rows.length) : TransfersSound c' := by
  obtain ⟨draft, hinsert, hstatus, new, hrows, hnew⟩ := hdrafted.draft
  have hfresh : c.transfers.find? draft.id = none := (insert_eq_some hinsert).1
  have hmem : ∀ l ∈ c'.transferLines.rows, l ∈ c.transferLines.rows ∨ l ∈ new := fun l hl ↦ by
    rw [hrows] at hl
    exact mem_append.mp hl
  refine ⟨LinesSound.of_forall fun l hl ↦ ?_, fun id ↦ ?_⟩
  · rcases hmem l hl with hl | hl
    · obtain ⟨t, ht⟩ := h.lines.linked l hl
      exact ⟨⟨t, find?_insert_of_some hinsert ht⟩, h.lines.received_nonneg l hl,
        h.lines.discrepancy_nonneg l hl, h.lines.settled_le l hl⟩
    · obtain ⟨hlinked, hreceived, hdiscrepancy, hpos⟩ := hnew l hl
      rw [hlinked]
      exact ⟨⟨draft, find?_insert_self hinsert⟩, hreceived.ge, hdiscrepancy.ge, by omega⟩
  · by_cases hid : draft.id = id
    · -- the lines of the draft are the new ones
      subst hid
      have hself : ∀ t, c'.transfers.find? draft.id = some t → t = draft := fun t ht ↦
        Option.some_inj.mp (ht.symm.trans (find?_insert_self hinsert))
      have hlines : ∀ l ∈ lineRows c' draft.id, l ∈ new := fun l hl ↦ by
        obtain ⟨hl, hlinked⟩ := mem_lineRows.mp hl
        rcases hmem l hl with hl | hl
        · obtain ⟨t, ht⟩ := h.lines.linked l hl
          rw [hlinked, hfresh] at ht
          cases ht
        · exact hl
      refine ⟨fun t ht ↦ ?_, fun t ht _ l hl ↦ ?_⟩
      · rw [hself t ht, hstatus]
        refine iff_of_false TransferStatus.noConfusion fun hsettled ↦ ?_
        have hpos : 0 < new.length := by
          rw [hrows, length_append] at hcount
          omega
        obtain ⟨l, hl⟩ := exists_mem_of_length_pos hpos
        have hline := hsettled l (mem_lineRows.mpr
          ⟨hrows ▸ mem_append_right _ hl, (hnew l hl).1⟩)
        obtain ⟨-, hreceived, hdiscrepancy, hquantity⟩ := hnew l hl
        omega
      · exact ⟨(hnew l (hlines l hl)).2.1, (hnew l (hlines l hl)).2.2.1⟩
    · refine (h.status id).congr (find?_insert_of_ne hinsert hid) fun l ↦ ?_
      rw [mem_lineRows, mem_lineRows, hrows, mem_append]
      refine ⟨?_, fun hl ↦ ⟨.inl hl.1, hl.2⟩⟩
      rintro ⟨hl | hl, hlinked⟩
      · exact ⟨hl, hlinked⟩
      · exact absurd ((hnew l hl).1.symm.trans hlinked) hid

/-- While a transfer is received its lines stay sound, and so does every other transfer. -/
structure ReceivingSound (transferId : Uuid) (c : Commitments) : Prop where
  lines : LinesSound c
  status : ∀ id, id ≠ transferId → StatusSound c id

theorem ReceivingSound.receivedFrom (h : ReceivingSound transferId c)
    (hitem : Receivable transferId c [item]) : ReceivingSound transferId (item.receivedFrom c) := by
  have hcurrent := hitem.current item (mem_singleton_self _)
  have hreceived := hitem.received_nonneg item (mem_singleton_self _)
  have hdiscrepancy := hitem.discrepancy_nonneg item (mem_singleton_self _)
  have hle := hitem.processed_le item (mem_singleton_self _)
  have hline := mem_of_find? hcurrent
  -- a line is as it was, or it is the line received
  have hmem : ∀ l ∈ (item.receivedFrom c).transferLines.rows, l ∈ c.transferLines.rows ∨
      l = { item.transferLine with
        receivedQuantity := item.transferLine.receivedQuantity + item.received
        discrepancyQuantity := item.transferLine.discrepancyQuantity + item.discrepancy } := by
    intro l hl
    exact (of_mem_update (fun _ ↦ by rfl) hcurrent hl).symm.imp_left And.left
  have hnonneg := h.lines.received_nonneg _ hline
  have hnonneg' := h.lines.discrepancy_nonneg _ hline
  have hlinked := hitem.ofTransfer item (mem_singleton_self _)
  refine ⟨LinesSound.of_forall fun l hl ↦ ?_, fun id hid ↦ ?_⟩
  · rcases hmem l hl with hl | rfl
    · exact ⟨h.lines.linked l hl, h.lines.received_nonneg l hl, h.lines.discrepancy_nonneg l hl,
        h.lines.settled_le l hl⟩
    · rw [RequestedLine.processed, TransferLine.pending] at hle
      refine ⟨h.lines.linked item.transferLine hline, ?_⟩
      dsimp only
      omega
  · refine (h.status id hid).congr rfl fun l ↦ ?_
    rw [mem_lineRows, mem_lineRows]
    refine and_congr_left fun hof ↦ ⟨fun hl ↦ ?_, fun hl ↦ ?_⟩
    · rcases hmem l hl with hl | rfl
      · exact hl
      · exact absurd (hof.symm.trans hlinked) hid
    · show l ∈ (c.transferLines.update _ _).rows
      rw [mem_update]
      refine ⟨l, hl, if_neg fun hkey ↦ hid ?_⟩
      rw [← hof, eq_of_mem_of_key_eq hl hline hkey]
      exact hlinked

theorem ReceivingSound.finished (h : ReceivingSound transferId c)
    (hfind : c.transfers.find? transferId = some t) :
    TransfersSound (withStatus c transferId (receivedStatus c transferId)) := by
  refine ⟨⟨fun l hl ↦ ?_, h.lines.received_nonneg, h.lines.discrepancy_nonneg,
    h.lines.settled_le⟩, fun id ↦ ?_⟩
  · obtain ⟨t, ht⟩ := h.lines.linked l hl
    exact ⟨_, by rw [find?_withStatus, ht, Option.map_some]⟩
  · by_cases hid : id = transferId
    · subst hid
      have hstatus : ∀ t', (withStatus c id (receivedStatus c id)).transfers.find? id = some t' →
          t'.status = receivedStatus c id := fun t' ht' ↦ by
        rw [find?_withStatus, hfind, Option.map_some, if_pos rfl, Option.some_inj] at ht'
        rw [← ht']
      refine ⟨fun t' ht' ↦ ?_, fun t' ht' hdeparted ↦ ?_⟩
      · rw [hstatus t' ht', receivedStatus]
        split
        case isTrue hpending =>
          obtain ⟨l, hl, hlinked, hlt⟩ := hpending
          refine iff_of_false TransferStatus.noConfusion fun hsettled ↦ ?_
          exact hlt.ne (hsettled l (mem_lineRows.mpr ⟨hl, hlinked⟩))
        case isFalse hpending =>
          refine iff_of_true rfl fun l hl ↦ ?_
          obtain ⟨hl, hlinked⟩ := mem_lineRows.mp hl
          exact le_antisymm (h.lines.settled_le l hl)
            (not_lt.mp fun hlt ↦ hpending ⟨l, hl, hlinked, hlt⟩)
      · rw [hstatus t' ht', receivedStatus] at hdeparted
        split at hdeparted <;> cases hdeparted
    · refine (h.status id hid).congr ?_ fun _ ↦ Iff.rfl
      rw [withStatus, find?_update_of_ne hid]

/-- **Every request keeps the documents sound.** -/
theorem Moved.sound {s s' : Store} (m : Moved s i s')
    (h : TransfersSound s.documents.toCommitments) : TransfersSound s'.documents.toCommitments := by
  cases m with
  | unchanged => exact h
  | drafted hdrafted hcount hwrites =>
    rw [hwrites.commitments_of_last [] rfl]
    exact h.drafted hdrafted hcount
  | dispatched hheader hdraft _ hwrites =>
    rw [hwrites.commitments_of_last _ rfl]
    exact h.of_draft hheader hdraft fun _ ↦ TransferStatus.noConfusion
  | @received input _ receiptId received last _ hheader _ hreceived hlast hwrites =>
    obtain ⟨⟨s₁, hloop, rfl⟩, hafter⟩ := hwrites.commit_inv _ rfl
    have hstart : ReceivingSound input.transferId s.documents.toCommitments :=
      ⟨h.lines, fun id _ ↦ h.status id⟩
    have hreceiving : ReceivingSound input.transferId s₁.documents.toCommitments := by
      refine hloop.commitments_induct (P := ReceivingSound input.transferId) hstart
        fun before after hmem hsound ↦ ?_
      obtain ⟨r, hr, hmem⟩ := mem_flatMap.mp hmem
      obtain ⟨rfl, rfl⟩ := r.commit_of_mem_writes hmem
      exact hsound.receivedFrom (hreceived r hr).1
    rw [hafter]
    exact hreceiving.finished (by rw [hlast]; exact hheader)
  | cancelled hheader hdraft hwrites =>
    rw [hwrites.commitments_of_last [] rfl]
    exact h.of_draft hheader hdraft fun _ ↦ TransferStatus.noConfusion
  | elsewhere helse => exact h.of_rows_eq helse.transfers_eq helse.lines_eq

end Sound

/-! ### What a transfer does to the stock -/

/-- What a line has done to a bucket, over the pairs of product and location that `w` selects. -/
def lineMoved (state : StockState) (w : Uuid → Uuid → Bool) (departed : Bool) (l : TransferLine) :
    ℤ :=
  (if w l.productId l.sourceLocationId then (l.left departed).state state else 0) +
    (if w l.productId l.destinationLocationId then (l.arrived departed).state state else 0)

/-- **What a transfer has done to a bucket**, as its lines tell it. -/
def stockMoved (transferId : Uuid) (state : StockState) (w : Uuid → Uuid → Bool)
    (c : Commitments) : ℤ :=
  c.transferLines.total fun l ↦
    if l.transferId = transferId then lineMoved state w (departed c transferId) l else 0

section Stock

variable {s s' : Store} {c c' : Commitments} {transferId : Uuid} {state : StockState}
  {w : Uuid → Uuid → Bool}

theorem departed_of_find? (h : c.transfers.find? transferId = some t) :
    departed c transferId = t.status.departed := by
  rw [departed, h]
  rfl

theorem departed_congr (h : c'.transfers.find? transferId = c.transfers.find? transferId) :
    departed c' transferId = departed c transferId := by
  rw [departed, departed, h]

@[simp] theorem lineMoved_false (l : TransferLine) : lineMoved state w false l = 0 := by
  cases state <;> simp [lineMoved, TransferLine.left, TransferLine.arrived, Buckets.state]

theorem stockMoved_of_not_departed (h : departed c transferId = false) :
    stockMoved transferId state w c = 0 := by
  refine total_eq_zero fun l _ ↦ ?_
  rw [h, lineMoved_false, ite_self]

theorem stockMoved_eq_sum : stockMoved transferId state w c =
    ((lineRows c transferId).map (lineMoved state w (departed c transferId))).sum := by
  rw [lineRows, ((orderBy_perm _ _).map _).sum_eq, Sums.sum_filter, stockMoved, Table.total]
  simp only [decide_eq_true_eq]

theorem stockMoved_congr (h : departed c' transferId = departed c transferId)
    (hlines : c'.transferLines.rows = c.transferLines.rows) :
    stockMoved transferId state w c' = stockMoved transferId state w c := by
  rw [stockMoved, stockMoved, h, Table.total, Table.total, hlines]

theorem stockMoved_drafted (h : Drafted c c') :
    stockMoved transferId state w c' = stockMoved transferId state w c := by
  obtain ⟨draft, hinsert, hstatus, new, hrows, hnew⟩ := h.draft
  by_cases hid : draft.id = transferId
  · subst hid
    have hfresh : c.transfers.find? draft.id = none := (insert_eq_some hinsert).1
    have hfound : c'.transfers.find? draft.id = some draft := find?_insert_self hinsert
    rw [stockMoved_of_not_departed (by rw [departed_of_find? hfound, hstatus]; rfl),
      stockMoved_of_not_departed (by rw [departed, hfresh]; rfl)]
  · have hsame : departed c' transferId = departed c transferId :=
      departed_congr (find?_insert_of_ne hinsert hid)
    have hzero : (new.map fun l ↦ if l.transferId = transferId then
        lineMoved state w (departed c transferId) l else 0).sum = 0 := by
      refine sum_eq_zero (forall_mem_map.mpr fun l hl ↦ ?_)
      exact if_neg fun hlinked ↦ hid ((hnew l hl).1.symm.trans hlinked)
    rw [stockMoved, hsame, Table.total, hrows, map_append, sum_append, hzero, add_zero]
    rfl

theorem DispatchedLine.held_writes (d : DispatchedLine)
    (hreceived : d.line.receivedQuantity = 0) (hdiscrepancy : d.line.discrepancyQuantity = 0) :
    ((d.writes transferId).map (StockWrite.held state w)).sum = lineMoved state w true d.line := by
  have hpending : d.line.pending = d.line.quantity := by
    rw [TransferLine.pending]
    omega
  simp [DispatchedLine.writes, StockWrite.held, lineMoved, TransferLine.left,
    TransferLine.arrived, hreceived, hpending]

/-- **Dispatching does to the stock what the lines tell.** -/
theorem held_dispatched {dispatched : List DispatchedLine} (hsound : TransfersSound c)
    (hheader : c.transfers.find? input.transferId = some t) (hdraft : t.status = .DRAFT)
    (hlines : dispatched.map DispatchedLine.line = lineRows c input.transferId) :
    (((dispatchKeys (dispatched.map DispatchedLine.line)).map
          (fun key : Uuid × Uuid ↦ StockWrite.opened key.1 key.2) ++
        dispatched.flatMap (DispatchedLine.writes input.transferId) ++
        [StockWrite.commit c (dispatchedCommitments c input)]).map (StockWrite.held state w)).sum =
      stockMoved input.transferId state w (dispatchedCommitments c input) := by
  have hopened : ((dispatchKeys (dispatched.map DispatchedLine.line)).map
      fun key ↦ (StockWrite.opened key.1 key.2).held state w).sum = 0 := by
    simp [StockWrite.held]
  have huntouched := (hsound.status input.transferId).untouched t hheader (by rw [hdraft]; rfl)
  have hfound : (dispatchedCommitments c input).transfers.find? input.transferId =
      some (Dispatched input.idempotencyKey t) := by
    rw [find?_dispatchedCommitments, hheader, Option.map_some, if_pos rfl]
  rw [map_append, map_append, sum_append, sum_append, map_map,
    Sums.sum_flatMap, stockMoved_eq_sum, departed_of_find? hfound]
  show ((dispatchKeys _).map fun key ↦ (StockWrite.opened key.1 key.2).held state w).sum + _ + 0 = _
  rw [hopened, zero_add, add_zero, show lineRows (dispatchedCommitments c input) input.transferId =
    lineRows c input.transferId from rfl, ← hlines, map_map]
  congr 1
  refine map_congr_left fun d hd ↦ ?_
  obtain ⟨hreceived, hdiscrepancy⟩ :=
    huntouched d.line (hlines ▸ mem_map_of_mem hd)
  exact d.held_writes hreceived hdiscrepancy

theorem ReceivedLine.held_writes {receiptId : Uuid} (r : ReceivedLine)
    (hitem : Receivable transferId r.before [r.item])
    (hdeparted : departed r.before transferId = true) :
    ((r.writes receiptId).map (StockWrite.held state w)).sum =
      ((r.writes receiptId).map (StockWrite.measure (stockMoved transferId state w))).sum := by
  have hposts : ∀ f : StockWrite → ℤ, (∀ n tracking, f (.post n tracking) = 0) →
      ((r.writes receiptId).map f).sum =
        f (.balance r.item.transferLine.productId r.item.transferLine.destinationLocationId
          { available := r.item.received, inTransit := -r.item.processed }) +
        f (.commit r.before (r.item.receivedFrom r.before)) := by
    intro f hf
    rw [ReceivedLine.writes, map_append, map_append, sum_append, sum_append]
    split <;> split <;> simp [hf]
  rw [hposts _ fun _ _ ↦ rfl, hposts _ fun _ _ ↦ rfl]
  simp only [StockWrite.held, StockWrite.measure, add_zero, zero_add]
  have hlinked := hitem.ofTransfer r.item (mem_singleton_self _)
  have hline := hitem.current r.item (mem_singleton_self _)
  have hdeparted' : departed (r.item.receivedFrom r.before) transferId = true := hdeparted
  rw [stockMoved, stockMoved, hdeparted, hdeparted']
  show _ = (r.before.transferLines.update _ _).total _ - _
  rw [total_update _ hline]
  simp only [hlinked, if_true]
  cases state <;>
    simp [lineMoved, TransferLine.left, TransferLine.arrived, Buckets.state,
      TransferLine.pending, RequestedLine.processed] <;> split <;> ring

theorem stockMoved_receivedFrom_of_ne {transferId' : Uuid}
    (hitem : Receivable transferId c [item]) (hne : transferId' ≠ transferId) :
    stockMoved transferId' state w (item.receivedFrom c) = stockMoved transferId' state w c := by
  have hlinked := hitem.ofTransfer item (mem_singleton_self _)
  have hline := mem_of_find? (hitem.current item (mem_singleton_self _))
  show (c.transferLines.update _ _).total _ = _
  rw [total_update_of_forall]
  · rfl
  · intro l hl hkey
    have hother : l.transferId ≠ transferId' := by
      rw [eq_of_mem_of_key_eq hl hline hkey, hlinked]
      exact hne.symm
    rw [if_neg hother, if_neg hother]

theorem departed_withStatus_of_ne (c : Commitments) (status : TransferStatus)
    (hne : transferId ≠ id) :
    departed (withStatus c id status) transferId = departed c transferId := by
  refine departed_congr ?_
  rw [withStatus, find?_update_of_ne hne]

theorem receivedStatus_departed (c : Commitments) (transferId : Uuid) :
    (receivedStatus c transferId).departed = true := by
  rw [receivedStatus]
  split <;> rfl

/-- A request leaves the stock of the other transfers. -/
theorem Moved.stock_other (m : Moved s i s') (hid : i.transferId ≠ some transferId) :
    stockMoved transferId state w s'.documents.toCommitments =
      stockMoved transferId state w s.documents.toCommitments := by
  cases m with
  | unchanged => rfl
  | drafted hdrafted _ hwrites =>
    rw [hwrites.commitments_of_last [] rfl, stockMoved_drafted hdrafted]
  | dispatched _ _ _ hwrites =>
    have hne : transferId ≠ _ := fun heq ↦ hid (congrArg some heq.symm)
    rw [hwrites.commitments_of_last _ rfl]
    refine stockMoved_congr (departed_congr ?_) rfl
    rw [dispatchedCommitments, find?_update_of_ne hne]
  | received _ _ hreceived _ hwrites =>
    have hne : transferId ≠ _ := fun heq ↦ hid (congrArg some heq.symm)
    refine hwrites.commitments_induct (P := fun c ↦ stockMoved transferId state w c =
      stockMoved transferId state w s.documents.toCommitments) rfl fun before after hmem hP ↦ ?_
    rcases mem_append.mp hmem with hmem | hmem
    · obtain ⟨r, hr, hmem⟩ := mem_flatMap.mp hmem
      obtain ⟨rfl, rfl⟩ := r.commit_of_mem_writes hmem
      rw [stockMoved_receivedFrom_of_ne (hreceived r hr).1 hne, hP]
    · obtain ⟨rfl, rfl⟩ := StockWrite.commit.inj (mem_singleton.mp hmem)
      rw [← hP]
      exact stockMoved_congr (departed_withStatus_of_ne _ _ hne) rfl
  | cancelled _ _ hwrites =>
    have hne : transferId ≠ _ := fun heq ↦ hid (congrArg some heq.symm)
    rw [hwrites.commitments_of_last [] rfl]
    exact stockMoved_congr (departed_withStatus_of_ne _ _ hne) rfl
  | elsewhere helse =>
    refine stockMoved_congr (departed_congr ?_) helse.lines_eq
    rw [Table.find?, Table.find?, helse.transfers_eq]

/-- **The stock follows the lines.** A request changes a bucket by what the lines of its transfer
tell beyond what they told. -/
theorem Moved.stock (m : Moved s i s')
    (h : TransfersSound s.documents.toCommitments) (transferId : Uuid) (state : StockState)
    (w : Uuid → Uuid → Bool) :
    stockMoved transferId state w s'.documents.toCommitments =
      stockMoved transferId state w s.documents.toCommitments +
        if i.transferId = some transferId then s'.held state w - s.held state w else 0 := by
  by_cases hid : i.transferId = some transferId
  swap
  · rw [if_neg hid, add_zero, m.stock_other hid]
  rw [if_pos hid]
  cases m with
  | unchanged => rw [sub_self, add_zero]
  | drafted | elsewhere => cases hid
  | @dispatched input header dispatched _ hheader hdraft hlines hwrites =>
    obtain rfl := Option.some_inj.mp hid
    have hbefore : departed s.documents.toCommitments input.transferId = false := by
      rw [departed_of_find? hheader, hdraft]
      rfl
    rw [hwrites.held state w, held_dispatched h hheader hdraft hlines,
      hwrites.commitments_of_last _ rfl, stockMoved_of_not_departed hbefore]
    ring
  | @received input header receiptId received last _ hheader hstatus hreceived hlast hwrites =>
    obtain rfl := Option.some_inj.mp hid
    have hdeparted : ∀ c : Commitments, c.transfers = s.documents.transfers →
        departed c input.transferId = true := fun c hc ↦ by
      rw [departed_of_find? (show c.transfers.find? input.transferId = some header by
        rw [hc]; exact hheader)]
      rcases hstatus with hstatus | hstatus <;> rw [hstatus] <;> rfl
    have hfinal : stockMoved input.transferId state w (withStatus last input.transferId
        (receivedStatus last input.transferId)) = stockMoved input.transferId state w last := by
      refine stockMoved_congr ?_ rfl
      rw [hdeparted last hlast, departed, find?_withStatus, hlast, hheader, Option.map_some,
        if_pos rfl, Option.map_some, Option.getD_some, receivedStatus_departed]
    have hsums : (((received.flatMap (ReceivedLine.writes receiptId)) ++
        [StockWrite.commit last (withStatus last input.transferId
          (receivedStatus last input.transferId))]).map (StockWrite.held state w)).sum =
        (((received.flatMap (ReceivedLine.writes receiptId)) ++
        [StockWrite.commit last (withStatus last input.transferId
          (receivedStatus last input.transferId))]).map
            (StockWrite.measure (stockMoved input.transferId state w))).sum := by
      rw [map_append, map_append, sum_append, sum_append, Sums.sum_flatMap,
        Sums.sum_flatMap]
      congr 1
      · congr 1
        refine map_congr_left fun r hr ↦ ?_
        exact r.held_writes (hreceived r hr).1 (hdeparted _ (hreceived r hr).2)
      · simp [StockWrite.held, StockWrite.measure, hfinal]
    rw [hwrites.held state w, hsums, hwrites.measure (stockMoved input.transferId state w)]
    ring
  | @cancelled input header _ hheader hdraft hwrites =>
    obtain rfl := Option.some_inj.mp hid
    have hbefore : departed s.documents.toCommitments input.transferId = false := by
      rw [departed_of_find? hheader, hdraft]
      rfl
    have hafter : departed (withStatus s.documents.toCommitments input.transferId .CANCELLED)
        input.transferId = false := by
      rw [departed, find?_withStatus, hheader, Option.map_some, if_pos rfl]
      rfl
    rw [hwrites.commitments_of_last [] rfl, stockMoved_of_not_departed hafter,
      stockMoved_of_not_departed hbefore, hwrites.held state w]
    simp [StockWrite.held]

theorem Moved.balancesValid (m : Moved s i s') (h : s.BalancesValid) : s'.BalancesValid := by
  cases m with
  | unchanged => exact h
  | drafted _ _ hwrites => exact hwrites.balancesValid h
  | dispatched _ _ _ hwrites => exact hwrites.balancesValid h
  | received _ _ _ _ hwrites => exact hwrites.balancesValid h
  | cancelled _ _ hwrites => exact hwrites.balancesValid h
  | elsewhere helse => exact helse.balancesValid

end Stock

/-! ### Histories -/

/-- **What the requests on one transfer change** in a quantity of the store, over a run from `s`. -/
def effect (transferId : Uuid) (f : Store → ℤ) : Store → List Request → ℤ
  | _, [] => 0
  | s, i :: is =>
    (if i.transferId = some transferId then f (exec step s i) - f s else 0) +
      effect transferId f (exec step s i) is

/-- A store in which no transfer has been written yet, whose balances the database accepts. -/
structure WithoutTransfers (s : Store) : Prop where
  transfers : s.documents.transfers.rows = []
  lines : s.documents.transferLines.rows = []
  balancesValid : s.BalancesValid

/-- **The lifecycle of the transfers** after a run from `s₀`. -/
structure Lifecycle (s₀ : Store) (is : List Request) : Prop where
  /-- A dispatch that has done something is the only one of its transfer to do so. -/
  dispatched_once : ∀ (js : List Request) (first again : DispatchInput),
    again.transferId = first.transferId →
    exec step (run step s₀ is) (.dispatch first) ≠ run step s₀ is →
    exec step (run step s₀ (is ++ .dispatch first :: js)) (.dispatch again) =
      run step s₀ (is ++ .dispatch first :: js)
  settled : ∀ l ∈ (run step s₀ is).documents.transferLines.rows,
    0 ≤ l.receivedQuantity ∧ 0 ≤ l.discrepancyQuantity ∧
      l.receivedQuantity + l.discrepancyQuantity ≤ l.quantity
  received_iff : ∀ t ∈ (run step s₀ is).documents.transfers.rows,
    t.status = .RECEIVED ↔ Settled (run step s₀ is).documents.toCommitments t.id
  /-- A transfer that is `RECEIVED` stays so, and no request on it does anything. -/
  received_final : ∀ t ∈ (run step s₀ is).documents.transfers.rows, t.status = .RECEIVED →
    ∀ js : List Request, t ∈ (run step s₀ (is ++ js)).documents.transfers.rows ∧
      ∀ i : Request, i.transferId = some t.id →
        exec step (run step s₀ (is ++ js)) i = run step s₀ (is ++ js)
  cancelled_of_draft : ∀ (i : Request),
    ∀ t' ∈ (exec step (run step s₀ is) i).documents.transfers.rows, t'.status = .CANCELLED →
      t' ∈ (run step s₀ is).documents.transfers.rows ∨
        ∃ t ∈ (run step s₀ is).documents.transfers.rows, t.id = t'.id ∧ t.status = .DRAFT
  /-- Writing a draft moves no stock. -/
  create_bucket : ∀ (input : CreateInput) (hlines : input.lines ≠ []) (state : StockState)
    (productId locationId : Uuid),
    (exec step (run step s₀ is) (.create input hlines)).bucket state productId locationId =
      (run step s₀ is).bucket state productId locationId
  /-- What has been received is available at the destinations, and what has been dispatched no more
  at the sources. -/
  available : ∀ (transferId : Uuid) (w : Uuid → Uuid → Bool),
    effect transferId (fun s ↦ s.held .AVAILABLE w) s₀ is =
      ((lineRows (run step s₀ is).documents.toCommitments transferId).map fun l ↦
        if w l.productId l.destinationLocationId then l.receivedQuantity else 0).sum -
      if departed (run step s₀ is).documents.toCommitments transferId then
        ((lineRows (run step s₀ is).documents.toCommitments transferId).map fun l ↦
          if w l.productId l.sourceLocationId then l.quantity else 0).sum
      else 0
  /-- What has been found missing has left the stock of the tenant, and nothing else. -/
  quantity : ∀ transferId : Uuid,
    effect transferId (fun s ↦ s.heldQuantity fun _ _ ↦ true) s₀ is =
      -((lineRows (run step s₀ is).documents.toCommitments transferId).map fun l ↦
        l.discrepancyQuantity).sum

section Runs

variable {s s' : Store} {i : Request} {is : List Request} {transferId : Uuid}

theorem exec_moved (s : Store) (i : Request) : Moved s i (exec step s i) :=
  exec_induct (.unchanged i) fun _ h ↦ step_moved h

theorem run_sound (h : TransfersSound s.documents.toCommitments) (is : List Request) :
    TransfersSound (run step s is).documents.toCommitments :=
  run_induct (P := fun s ↦ TransfersSound s.documents.toCommitments)
    (fun _ _ _ hs hstep ↦ (step_moved hstep).sound hs) h is

theorem WithoutTransfers.sound (h : WithoutTransfers s) :
    TransfersSound s.documents.toCommitments := by
  have hnone : ∀ l, l ∉ s.documents.transferLines.rows := fun l hl ↦ by
    rw [h.lines] at hl
    cases hl
  have hfind : ∀ id, s.documents.transfers.find? id = none := fun id ↦ by
    rw [Table.find?, h.transfers]
    rfl
  refine ⟨⟨fun l hl ↦ absurd hl (hnone l), fun l hl ↦ absurd hl (hnone l),
    fun l hl ↦ absurd hl (hnone l), fun l hl ↦ absurd hl (hnone l)⟩, fun id ↦ ⟨fun t ht ↦ ?_,
    fun t ht ↦ ?_⟩⟩
  · rw [hfind] at ht
    cases ht
  · rw [hfind] at ht
    cases ht

theorem run_header {P : Transfer → Prop}
    (hP : ∀ t t' : Transfer, P t → t.status.Next t'.status → P t')
    (h : s.documents.transfers.find? transferId = some t) (ht : P t) (is : List Request) :
    ∃ t', (run step s is).documents.transfers.find? transferId = some t' ∧ P t' := by
  refine run_induct
    (P := fun s : Store ↦ ∃ t', s.documents.transfers.find? transferId = some t' ∧ P t')
    (fun s i s' hs hstep ↦ ?_) ⟨t, h, ht⟩ is
  obtain ⟨t, h, ht⟩ := hs
  rcases (step_moved hstep).header h with hsame | ⟨-, t', h', hnext⟩
  · exact ⟨t, hsame, ht⟩
  · exact ⟨t', h', hP t t' ht hnext⟩

theorem effect_held (h : TransfersSound s.documents.toCommitments) (transferId : Uuid)
    (state : StockState) (w : Uuid → Uuid → Bool) (is : List Request) :
    effect transferId (fun s ↦ s.held state w) s is =
      stockMoved transferId state w (run step s is).documents.toCommitments -
        stockMoved transferId state w s.documents.toCommitments := by
  induction is generalizing s with
  | nil => exact (sub_self _).symm
  | cons i is ih =>
    have hmoved := exec_moved s i
    rw [effect, ih (hmoved.sound h), hmoved.stock h transferId state w, run_cons]
    ring

theorem effect_heldQuantity (h : s.BalancesValid) (transferId : Uuid) (w : Uuid → Uuid → Bool)
    (is : List Request) : effect transferId (fun s ↦ s.heldQuantity w) s is =
      effect transferId (fun s ↦ s.held .AVAILABLE w) s is +
        effect transferId (fun s ↦ s.held .RESERVED w) s is +
        effect transferId (fun s ↦ s.held .DAMAGED w) s is +
        effect transferId (fun s ↦ s.held .IN_TRANSIT w) s is := by
  induction is generalizing s with
  | nil => rfl
  | cons i is ih =>
    have hafter := (exec_moved s i).balancesValid h
    simp only [effect]
    rw [ih hafter, h.heldQuantity_eq, hafter.heldQuantity_eq]
    split
    · ring
    · ring

theorem WithoutTransfers.effect_held_eq (h : WithoutTransfers s) (transferId : Uuid)
    (state : StockState) (w : Uuid → Uuid → Bool) (is : List Request) :
    effect transferId (fun s ↦ s.held state w) s is =
      stockMoved transferId state w (run step s is).documents.toCommitments := by
  have hstart : stockMoved transferId state w s.documents.toCommitments = 0 := by
    rw [stockMoved, Table.total, h.lines]
    rfl
  rw [effect_held h.sound, hstart, sub_zero]

theorem WithoutTransfers.available_eq (h : WithoutTransfers s) (transferId : Uuid)
    (w : Uuid → Uuid → Bool) (is : List Request) :
    effect transferId (fun s ↦ s.held .AVAILABLE w) s is =
      ((lineRows (run step s is).documents.toCommitments transferId).map fun l ↦
        if w l.productId l.destinationLocationId then l.receivedQuantity else 0).sum -
      if departed (run step s is).documents.toCommitments transferId then
        ((lineRows (run step s is).documents.toCommitments transferId).map fun l ↦
          if w l.productId l.sourceLocationId then l.quantity else 0).sum
      else 0 := by
  rw [h.effect_held_eq]
  cases hdeparted : departed (run step s is).documents.toCommitments transferId with
  | false =>
    have huntouched := (run_sound h.sound is).untouched_of_not_departed hdeparted
    have hreceived : ((lineRows (run step s is).documents.toCommitments transferId).map fun l ↦
        if w l.productId l.destinationLocationId then l.receivedQuantity else 0).sum = 0 := by
      refine sum_eq_zero (forall_mem_map.mpr fun l hl ↦ ?_)
      rw [(huntouched l hl).1, ite_self]
    rw [hreceived, stockMoved_of_not_departed hdeparted]
    simp
  | true =>
    rw [if_pos rfl, eq_sub_iff_add_eq, stockMoved_eq_sum, hdeparted, ← sum_map_add]
    congr 1
    refine map_congr_left fun l _ ↦ ?_
    simp only [lineMoved, TransferLine.left, TransferLine.arrived, Buckets.state, if_true]
    split <;> split <;> ring

theorem WithoutTransfers.quantity_eq (h : WithoutTransfers s) (transferId : Uuid)
    (is : List Request) :
    effect transferId (fun s ↦ s.heldQuantity fun _ _ ↦ true) s is =
      -((lineRows (run step s is).documents.toCommitments transferId).map fun l ↦
        l.discrepancyQuantity).sum := by
  rw [effect_heldQuantity h.balancesValid, h.effect_held_eq, h.effect_held_eq, h.effect_held_eq,
    h.effect_held_eq, stockMoved_eq_sum, stockMoved_eq_sum, stockMoved_eq_sum, stockMoved_eq_sum,
    ← sum_map_add, ← sum_map_add, ← sum_map_add, eq_neg_iff_add_eq_zero,
    ← sum_map_add]
  refine sum_eq_zero (forall_mem_map.mpr fun l hl ↦ ?_)
  cases hdeparted : departed (run step s is).documents.toCommitments transferId with
  | false =>
    rw [((run_sound h.sound is).untouched_of_not_departed hdeparted l hl).2]
    simp
  | true =>
    simp only [lineMoved, TransferLine.left, TransferLine.arrived, TransferLine.pending,
      Buckets.state, if_true]
    ring

/-- **Every run of requests gives the transfers their lifecycle.** -/
theorem transfer_lifecycle {s₀ : Store} (h : WithoutTransfers s₀) (is : List Request) :
    Lifecycle s₀ is := by
  have hsound := run_sound h.sound is
  refine ⟨fun js first again hsame hne ↦ ?_, fun l hl ↦ ?_, fun t ht ↦ ?_,
    fun t ht hreceived js ↦ ?_, fun i t' ht' hcancelled ↦ ?_,
    fun input hlines state productId locationId ↦ ?_, fun id w ↦ h.available_eq id w is,
    fun id ↦ h.quantity_eq id is⟩
  · obtain ⟨-, t, ht, hdeparted⟩ := (exec_moved _ (.dispatch first)).dispatch hne
    obtain ⟨t', ht', hdeparted'⟩ := run_header (P := fun t ↦ t.status.departed = true)
      (fun _ _ ht hnext ↦ hnext.departed ht) ht hdeparted js
    rw [run_append, run_cons]
    by_contra hagain
    obtain ⟨⟨t₁, ht₁, hdraft⟩, -⟩ := (exec_moved _ (.dispatch again)).dispatch hagain
    rw [hsame, ht', Option.some_inj] at ht₁
    rw [ht₁, hdraft] at hdeparted'
    cases hdeparted'
  · exact ⟨hsound.lines.received_nonneg l hl, hsound.lines.discrepancy_nonneg l hl,
      hsound.lines.settled_le l hl⟩
  · exact (hsound.status t.id).received_iff t (Table.find?_key_of_mem ht)
  · obtain ⟨t', ht', rfl⟩ := run_header (P := fun t' ↦ t' = t)
      (fun t₁ t₂ ht₁ hnext ↦ absurd (ht₁ ▸ hreceived) hnext.ne_received)
      (Table.find?_key_of_mem ht) rfl js
    rw [run_append]
    refine ⟨Table.mem_of_find? ht', fun i hi ↦ ?_⟩
    exact (exec_moved _ i).unchanged_of_received ht' hreceived hi
  · have hfind' := Table.find?_key_of_mem ht'
    cases hfind : (run step s₀ is).documents.transfers.find? t'.id with
    | none =>
      have hdraft := (exec_moved _ i).header_new hfind hfind'
      rw [hcancelled] at hdraft
      cases hdraft
    | some t =>
      rcases (exec_moved _ i).header hfind with hsame | ⟨-, t₁, ht₁, hnext⟩
      · obtain rfl := Option.some_inj.mp (hsame.symm.trans hfind')
        exact Or.inl (Table.mem_of_find? hfind)
      · obtain rfl := Option.some_inj.mp (ht₁.symm.trans hfind')
        rw [hcancelled] at hnext
        exact Or.inr ⟨t, Table.mem_of_find? hfind, Table.key_of_find? hfind,
          hnext.draft_of_cancelled⟩
  · have hmoved := exec_moved (run step s₀ is) (.create input hlines)
    generalize exec step (run step s₀ is) (.create input hlines) = s' at hmoved ⊢
    cases hmoved with
    | unchanged => rfl
    | drafted _ _ hwrites =>
      rw [hwrites.bucket state productId locationId]
      simp [StockWrite.bucket]

end Runs

/-- A catalogue of one product, with a location in each of two warehouses. -/
def twoWarehouses : Store :=
  { Store.fresh default with
    products := .ofRow (.plain 5 1000)
    locations := ⟨[{ id := 11, warehouseId := 1, active := true, createdAt := 0 },
      { id := 12, warehouseId := 2, active := true, createdAt := 0 }], by decide⟩
    documents := { Documents.empty with
      warehouses := ⟨[{ id := 1, branchId := 1, active := true },
        { id := 2, branchId := 1, active := true }], by decide⟩ } }

def initialStock (s : Store) : Store :=
  match createMovement s {
    warehouseId := 1, idempotencyKey := [0], productId := 5, locationId := 11, type := .INITIAL,
    quantity := 8000, reason := [] } with
  | .ok r => r.store
  | .error _ => s

/-- Three of them are sent, and the dispatch is repeated; two arrive and one is missing. -/
def lossyTransfer : List Request :=
  [.elsewhere initialStock,
    .create {
      originWarehouseId := 1
      idempotencyKey := [1]
      destinationWarehouseId := 2
      reference := []
      reason := []
      lines := [{
        productId := 5, sourceLocationId := 11, destinationLocationId := 12, quantity := 3000,
        serialNumbers := [] }] } (cons_ne_nil _ _),
    .dispatch { transferId := 0, originWarehouseId := 1, idempotencyKey := [2] },
    .dispatch { transferId := 0, originWarehouseId := 1, idempotencyKey := [2] },
    .receive {
      transferId := 0
      destinationWarehouseId := 2
      idempotencyKey := [3]
      lines := [{
        transferLineId := 0, receivedQuantity := 2000, discrepancyQuantity := 0,
        receivedSerialNumbers := [], discrepancySerialNumbers := [] }] },
    .receive {
      transferId := 0
      destinationWarehouseId := 2
      idempotencyKey := [4]
      discrepancyReason := some []
      lines := [{
        transferLineId := 0, receivedQuantity := 0, discrepancyQuantity := 1000,
        receivedSerialNumbers := [], discrepancySerialNumbers := [] }] }]

theorem transfer_lifecycle_lossyTransfer : Lifecycle twoWarehouses lossyTransfer ∧
    (run step twoWarehouses lossyTransfer).documents.transfers.rows.map Transfer.status =
      [.RECEIVED] ∧
    (run step twoWarehouses lossyTransfer).balances.rows.map
      (fun b ↦ (b.locationId, b.quantity, b.available)) = [(11, 5000, 5000), (12, 2000, 2000)] :=
  ⟨transfer_lifecycle ⟨rfl, rfl, by decide⟩ lossyTransfer, by decide +kernel, by decide +kernel⟩

end Transfers

end UInventario
