import UInventario.Pos.DrawerSafety

/-!
# Closing a shift

The closure of a shift freezes its expected cash and shows it beside sums that are read again from
the live tables. So the closing has to store the exact amounts, and no later transaction may touch a
sale, a refund or a movement of the closed shift.

* `closeShift_eq` computes the closing. The expected cash goes through a printer that puts the sign
  on the fraction as well, `-1.-50`, which no column takes.
* `Closed` is what stays of a closed shift: its row and the three sums (`closed_write`,
  `closed_sound`). A credit payment asks for an open shift in its first half only, so what is known
  of the payments in flight (`PaysElsewhere`) is part of the argument.

`closesExactly_iff` puts the two together.
-/

namespace UInventario.Pos

open Outcome LockedRuns Table List

variable {s s' : Store}

/-! ### The closing itself -/

def ShiftClosing.Exact (closing : ShiftClosing) (countedAmount : ℕ) (expectedCash : ℤ) : Prop :=
  closing.countedAmount = countedAmount ∧ closing.expectedCash = expectedCash ∧
    closing.difference = countedAmount - expectedCash

theorem closeShift_eq {input : CloseShiftInput} {shift : CashRegisterShift}
    (hshift : s.shiftToClose input = some shift) (hopen : shift.isOpen)
    (hreason : input.differenceReason.any fun reason ↦ reason ≠ [])
    (hkey : ∀ x ∈ s.cash.shifts.rows, x.closing.all fun c ↦
      c.idempotencyKey ≠ input.idempotencyKey) :
    ∃ closing : ShiftClosing, closing.Exact input.countedAmount (s.expectedCash shift) ∧
      closeShift s input =
        if 0 ≤ s.expectedCash shift ∨ 100 ∣ s.expectedCash shift then
          .ok { s with cash := { s.cash with
            shifts := s.cash.shifts.update shift.id fun x ↦ { x with closing := some closing } } }
        else .error .dataTruncated := by
  refine ⟨{
    closedByUserId := input.userId
    countedAmount := input.countedAmount
    expectedCash := s.expectedCash shift
    difference := input.countedAmount - s.expectedCash shift
    reason := input.differenceReason
    denominations := input.denominations
    idempotencyKey := input.idempotencyKey
    requestFingerprint := {
      shiftId := shift.id, countedAmount := input.countedAmount,
      differenceReason := input.differenceReason,
      denominations := orderBy (fun a b ↦ a.1 ≤ b.1) input.denominations }
    closedAt := input.now }, ⟨rfl, rfl, rfl⟩, ?_⟩
  have hclosing : shift.closing = none := hopen
  have hstated : (input.countedAmount : ℤ) - s.expectedCash shift ≠ 0 →
      input.differenceReason.any fun reason ↦ reason ≠ [] := fun _ ↦ hreason
  simp only [closeShift, hshift, hclosing, demand, ok_bind, closureExpected_eq,
    CashRegisterClosures.fromSignedCents_eq, CashRegisterClosures.readColumn_columnText,
    CashRegisterClosures.readColumn_fromCents, ensure, if_pos hstated, if_pos hkey]
  by_cases hsign : 0 ≤ s.expectedCash shift ∨ 100 ∣ s.expectedCash shift
  · simp only [if_pos hsign]
    rfl
  · simp only [if_neg hsign]
    rfl

/-! ### What stays of a closed shift -/

def Store.SameDrawer (s s' : Store) (shiftId : Uuid) : Prop :=
  s'.cashSales shiftId = s.cashSales shiftId ∧ s'.cashRefunds shiftId = s.cashRefunds shiftId ∧
    s'.cash.movementsNet shiftId = s.cash.movementsNet shiftId

/-- **The shift is closed**, with these sums. -/
structure Closed (shift : CashRegisterShift) (closing : ShiftClosing) (drawer : ℤ × ℤ × ℤ)
    (s : Store) : Prop where
  closing_eq : shift.closing = some closing
  row : s.cash.shifts.find? shift.id = some shift
  sums : (s.cashSales shift.id, s.cashRefunds shift.id, s.cash.movementsNet shift.id) = drawer

variable {shift : CashRegisterShift} {closing : ShiftClosing} {drawer : ℤ × ℤ × ℤ}

variable {x : CashRegisterShift}

theorem Closed.ne_of_open (h : Closed shift closing drawer s) (hx : x ∈ s.cash.shifts.rows)
    (hopen : x.isOpen) : x.id ≠ shift.id := by
  intro hid
  have hsame : s.cash.shifts.find? shift.id = some x := Table.find?_eq_some.mpr ⟨hx, hid⟩
  rw [h.row] at hsame
  cases hsame
  have : shift.closing = none := hopen
  rw [h.closing_eq] at this
  cases this

theorem Closed.of_eq (h : Closed shift closing drawer s)
    (hrow : s'.cash.shifts.find? shift.id = s.cash.shifts.find? shift.id)
    (hdrawer : s.SameDrawer s' shift.id) : Closed shift closing drawer s' := by
  obtain ⟨hsales, hrefunds, hmovements⟩ := hdrawer
  refine ⟨h.closing_eq, hrow.trans h.row, ?_⟩
  rw [hsales, hrefunds, hmovements, h.sums]

theorem movementsNet_congr {cash cash' : CashBook} (h : cash'.movements = cash.movements)
    (shiftId : Uuid) : cash'.movementsNet shiftId = cash.movementsNet shiftId := by
  rw [CashBook.movementsNet, CashBook.movementsNet, h]
  apply total_congr
  intro m _
  rw [CashBook.signed, CashBook.signed, h]

theorem movementsNet_insertMovement {cash cash' : CashBook} {m : CashRegisterMovement}
    (h : cash.insertMovement m = .ok cash') {shiftId : Uuid} (hm : m.shiftId ≠ shiftId) :
    cash'.movementsNet shiftId = cash.movementsNet shiftId := by
  have htotal := CashBook.total_insertMovement h (fun v ↦ v) shiftId
  rw [if_neg hm, add_zero] at htotal
  exact htotal

theorem sameDrawer_of_eq (hsales : s'.sales = s.sales)
    (hsettlements : s'.settlements = s.settlements)
    (hmovements : s'.cash.movements = s.cash.movements) (shiftId : Uuid) :
    s.SameDrawer s' shiftId := by
  refine ⟨?_, ?_, movementsNet_congr hmovements shiftId⟩
  · rw [Store.cashSales, Store.cashSales, hsales]
  · rw [Store.cashRefunds, Store.cashRefunds, hsettlements]

theorem Closed.of_movement (h : Closed shift closing drawer s) {m : CashRegisterMovement}
    (hinsert : s.cash.insertMovement m = .ok s'.cash) (hm : m.shiftId ≠ shift.id)
    (hsales : s'.sales = s.sales) (hsettlements : s'.settlements = s.settlements) :
    Closed shift closing drawer s' := by
  obtain ⟨-, -, -, -, hshifts⟩ := CashBook.insertMovement_writes hinsert
  refine h.of_eq (congrArg (fun t ↦ Table.find? t shift.id) hshifts)
    ⟨?_, ?_, movementsNet_insertMovement hinsert hm⟩
  · rw [Store.cashSales, Store.cashSales, hsales]
  · rw [Store.cashRefunds, Store.cashRefunds, hsettlements]

def PaysElsewhere (shiftId : Uuid) (request : Request) (decision : Decision) : Prop :=
  ∀ input payment, request = .creditPayment input → decision = .creditPayment payment →
    ∀ x ∈ payment.shift, x.id ≠ shiftId

variable {request : Request} {decision : Decision}

/-- **No transaction touches a closed shift.** -/
theorem closed_write (hclosed : Closed shift closing drawer s)
    (hpays : PaysElsewhere shift.id request decision)
    (h : protocol.write request decision s = .ok s') : Closed shift closing drawer s' := by
  have hframe := frame h
  cases committed h with
  | openShift h =>
    rcases openShift_writes h with rfl | ⟨_, shifts, -, -, -, hinsert, rfl⟩
    · exact hclosed
    refine hclosed.of_eq ?_ (sameDrawer_of_eq (by rfl) (by rfl) (by rfl) _)
    rw [hclosed.row]
    exact find?_insert_of_some hinsert hclosed.row
  | movement h =>
    rcases persistMovement_writes h with
      rfl | ⟨x, m, outgoing, cash, hx, -, -, hm, hinsert, rfl⟩
    · exact hclosed
    obtain ⟨hfind, -, -, -, hopen⟩ := lockShift_eq_ok.mp hx
    have hne := hclosed.ne_of_open (mem_of_find? hfind) hopen
    have hid : x.id = _ := key_of_find? hfind
    exact hclosed.of_movement hinsert (by rw [hm, ← hid]; exact hne) rfl rfl
  | closeShift h =>
    rcases closeShift_writes h with rfl | ⟨x, _, hx, hopen, -, -, -, rfl⟩
    · exact hclosed
    have hne := hclosed.ne_of_open (shiftToClose_eq_some hx).1 hopen
    refine hclosed.of_eq ?_ (sameDrawer_of_eq (by rfl) (by rfl) (by rfl) _)
    rw [find?_update_of_ne hne.symm]
  | sale h =>
    rcases writeSale_writes h with
      rfl | ⟨_, x, sale, sales, _, _, -, hx, hsale, hinsert, -, -, -, rfl⟩
    · exact hclosed
    obtain ⟨hfind, -, -, -, hopen⟩ := lockShift_eq_ok.mp hx
    have hne := hclosed.ne_of_open (mem_of_find? hfind) hopen
    have hid : x.id = _ := key_of_find? hfind
    have hshift : sale.shiftId ≠ shift.id := by
      rw [hsale]
      exact fun h ↦ hne (hid.trans h)
    refine hclosed.of_eq rfl ⟨?_, rfl, rfl⟩
    exact (total_insert hinsert _).trans (by rw [if_neg fun h ↦ hshift h.1, add_zero]; rfl)
  | voidSale h =>
    rcases voidSale_writes h with
      rfl | ⟨sale, x, _, _, _, hsale, -, -, hx, -, hopen, -, -, rfl⟩
    · exact hclosed
    have hne := hclosed.ne_of_open (mem_of_find? hx) hopen
    have hid : x.id = sale.shiftId := key_of_find? hx
    refine hclosed.of_eq rfl ⟨?_, rfl, rfl⟩
    show (s.sales.update sale.id _).total _ = s.sales.total _
    rw [total_update_of_forall]
    intro r hr hkey
    obtain rfl : r = sale := eq_of_mem_of_key_eq hr (mem_of_find? hsale) hkey
    rw [if_neg fun h ↦ hne (hid.trans h.1), if_neg fun h ↦ hne (hid.trans h.1)]
  | settlement h =>
    rcases writeSettlement_writes h with
      rfl | ⟨_, _, _, _, x, settlements, -, hpaid, -, -, -, hinsert, rfl⟩
    · exact hclosed
    have hne : ¬(x.shiftId = some shift.id ∧ x.method = some .CASH ∧ x.status = .COMPLETED) := by
      rintro ⟨hid, -, -⟩
      rcases payOut_eq_ok hpaid with ⟨-, hnone, -⟩ | ⟨_, p, -, -, hrefund⟩
      · rw [hid] at hnone
        cases hnone
      rcases refundShift_eq_ok hrefund with ⟨-, hnone⟩ | ⟨-, y, hy, hopen, -, hsome, -⟩
      · rw [hid] at hnone
        cases hnone
      rw [hid] at hsome
      exact hclosed.ne_of_open hy hopen (Option.some.inj hsome).symm
    refine hclosed.of_eq rfl ⟨rfl, ?_, rfl⟩
    exact (total_insert hinsert _).trans (by rw [if_neg hne, add_zero]; rfl)
  | creditPayment h =>
    rcases writePayment_writes h with
      rfl | ⟨x, currency, allocations, cash, _, _, rfl, hmovement, -, -, -, -, -, -, -, rfl⟩
    · exact hclosed
    rcases hmovement with ⟨-, rfl⟩ | ⟨-, m, -, hm, -, hinsert, -⟩
    · exact hclosed.of_eq rfl (sameDrawer_of_eq (by rfl) (by rfl) (by rfl) _)
    have hne := hpays _ _ rfl rfl x rfl
    exact hclosed.of_movement hinsert (by rw [hm]; exact hne) rfl rfl
  | creditReversal h =>
    rcases writeReversal_writes h with
      rfl | ⟨_, x, cash, _, _, -, hx, hback, -, rfl⟩
    · exact hclosed
    rcases hback with ⟨-, rfl⟩ | ⟨-, m, _, -, hm, -, -, -, hinsert⟩
    · exact hclosed.of_eq rfl (sameDrawer_of_eq (by rfl) (by rfl) (by rfl) _)
    obtain ⟨hmem, -, hopen⟩ := currentShift_eq_some hx
    have hne := hclosed.ne_of_open hmem hopen
    exact hclosed.of_movement hinsert (by rw [hm]; exact hne) rfl rfl
  | saleReturn | configureCredit | createRuleVersion | viewLoyalty =>
    have hcash := hframe.cash (by simp [Request.writes])
    exact hclosed.of_eq (by rw [hcash]) (sameDrawer_of_eq (hframe.sales (by simp [Request.writes]))
      (hframe.settlements (by simp [Request.writes])) (by rw [hcash]) _)

/-! ### Payments in flight -/

def PaysInto (request : Request) (decision : Decision) (s : Store) : Prop :=
  ∀ input payment, request = .creditPayment input → decision = .creditPayment payment →
    ∀ x ∈ payment.shift,
      ∃ y ∈ s.cash.shifts.rows, y.id = x.id ∧ y.cashRegisterId = input.cashRegisterId

theorem shifts_write (h : protocol.write request decision s = .ok s') :
    s'.cash.shifts = s.cash.shifts ∨ (∃ shift, s.cash.shifts.insert shift = some s'.cash.shifts) ∨
      ∃ id closing, s'.cash.shifts = s.cash.shifts.update id fun x ↦
        { x with closing := some closing } := by
  have hframe := frame h
  cases committed h with
  | openShift h =>
    rcases openShift_writes h with rfl | ⟨shift, shifts, -, -, -, hinsert, rfl⟩
    · exact .inl rfl
    · exact .inr (.inl ⟨shift, hinsert⟩)
  | movement h =>
    rcases persistMovement_writes h with rfl | ⟨_, _, _, cash, -, -, -, -, hinsert, rfl⟩
    · exact .inl rfl
    · exact .inl (CashBook.insertMovement_writes hinsert).2.2.2.2
  | closeShift h =>
    rcases closeShift_writes h with rfl | ⟨x, closing, -, -, -, -, -, rfl⟩
    · exact .inl rfl
    · exact .inr (.inr ⟨x.id, closing, rfl⟩)
  | creditPayment h =>
    rcases writePayment_writes h with
      rfl | ⟨_, _, _, _, _, _, -, ⟨-, rfl⟩ | ⟨-, _, -, -, -, hinsert, -⟩, -, -, -, -, -, -, -, rfl⟩
    · exact .inl rfl
    · exact .inl rfl
    · exact .inl (CashBook.insertMovement_writes hinsert).2.2.2.2
  | creditReversal h =>
    rcases writeReversal_writes h with
      rfl | ⟨_, _, _, _, _, -, -, ⟨-, rfl⟩ | ⟨-, _, _, -, -, -, -, -, hinsert⟩, -, rfl⟩
    · exact .inl rfl
    · exact .inl rfl
    · exact .inl (CashBook.insertMovement_writes hinsert).2.2.2.2
  | sale | voidSale | saleReturn | settlement | configureCredit | createRuleVersion | viewLoyalty =>
    exact .inl (congrArg CashBook.shifts (hframe.cash (by simp [Request.writes])))

theorem shifts_persist (h : protocol.write request decision s = .ok s')
    (hx : x ∈ s.cash.shifts.rows) :
    ∃ y ∈ s'.cash.shifts.rows, y.id = x.id ∧ y.cashRegisterId = x.cashRegisterId := by
  rcases shifts_write h with heq | ⟨shift, hinsert⟩ | ⟨id, closing, heq⟩
  · exact ⟨x, heq ▸ hx, rfl, rfl⟩
  · exact ⟨x, (mem_insert hinsert).mpr (.inl hx), rfl, rfl⟩
  · rw [heq]
    refine ⟨_, Table.mem_update.mpr ⟨x, hx, rfl⟩, ?_⟩
    split <;> exact ⟨rfl, rfl⟩

theorem paysInto_sound : Sound protocol (fun _ _ _ ↦ True) (fun _ ↦ True) PaysInto where
  read := by
    rintro s request decision - hread input payment rfl rfl x hx
    obtain ⟨hmem, hregister, -⟩ := currentShift_eq_some (shift_of_read hread hx)
    exact ⟨x, hmem, rfl, hregister⟩
  reread := by
    intro s request decision decision' _ hpays hread
    rcases reread_cases hread with rfl | ⟨input, x, currency, allocations, rfl, rfl, rfl, -⟩
    · exact hpays
    · rintro _ _ ⟨⟩ ⟨⟩ y hy
      exact hpays input (.check x currency) rfl rfl y hy
  write := fun _ _ _ _ ↦ trivial
  stable := by
    intro s request decision request' decision' s' _ hpays _ _ _ hwrite input payment hrequest
      hdecision x hx
    obtain ⟨y, hy, hid, hregister⟩ := hpays input payment hrequest hdecision x hx
    obtain ⟨z, hz, hid', hregister'⟩ := shifts_persist hwrite hy
    exact ⟨z, hz, hid'.trans hid, hregister'.trans hregister⟩

/-- **A closed shift stays as it is**, in every run. -/
theorem closed_sound (shift : CashRegisterShift) (closing : ShiftClosing) (drawer : ℤ × ℤ × ℤ) :
    Sound protocol (fun _ _ _ ↦ True) (Closed shift closing drawer)
      fun request decision _ ↦ PaysElsewhere shift.id request decision where
  read := by
    rintro s request decision hclosed hread input payment rfl rfl x hx
    obtain ⟨hmem, -, hopen⟩ := currentShift_eq_some (shift_of_read hread hx)
    exact hclosed.ne_of_open hmem hopen
  reread := by
    intro s request decision decision' _ hpays hread
    rcases reread_cases hread with rfl | ⟨input, x, currency, allocations, rfl, rfl, rfl, -⟩
    · exact hpays
    · rintro _ _ ⟨⟩ ⟨⟩ y hy
      exact hpays input (.check x currency) rfl rfl y hy
  write := fun hclosed hpays _ hwrite ↦ closed_write hclosed hpays hwrite
  stable := fun _ hpays _ _ _ _ ↦ hpays

/-! ### The closure over whole runs -/

/-- What `findById` and `latest` show of the closure adds up. -/
def Store.ClosureBalanced (s : Store) (shift : CashRegisterShift) (closing : ShiftClosing) : Prop :=
  ∃ data opening sales movements, s.closureData shift closing = .ok data ∧
    CashRegisterClosures.cents data.openingAmount = some opening ∧
    CashRegisterClosures.cents data.cashSales = some sales ∧
    CashRegisterClosures.cents data.movementsNet = some movements ∧
    CashRegisterClosures.cents data.expectedCash = some (opening + sales + movements)

theorem closureBalanced_of_closed (h : Closed shift closing drawer s)
    (hexpected : closing.expectedCash =
      shift.openingAmount + (drawer.1 - drawer.2.1) + drawer.2.2) :
    s.ClosureBalanced shift closing := by
  obtain ⟨-, -, rfl⟩ := h
  refine ⟨{
    openingAmount := columnText shift.openingAmount
    cashSales := columnText (s.cashSales shift.id - s.cashRefunds shift.id)
    movementsNet := columnText (s.cash.movementsNet shift.id)
    expectedCash := columnText closing.expectedCash
    countedCash := columnText closing.countedAmount
    difference := columnText closing.difference }, _, _, _, ?_,
    CashRegisterClosures.cents_columnText _, CashRegisterClosures.cents_columnText _,
    CashRegisterClosures.cents_columnText _, ?_⟩
  · simp only [Store.closureData, Store.closureAmounts, CashRegisterClosures.money_columnText,
      demand, ok_bind, pure, Except.pure]
  · rw [CashRegisterClosures.cents_columnText, hexpected]

theorem closed_of_close (hmem : shift ∈ s.cash.shifts.rows) :
    Closed { shift with closing := some closing } closing
      (s.cashSales shift.id, s.cashRefunds shift.id, s.cash.movementsNet shift.id)
      { s with cash := { s.cash with
        shifts := s.cash.shifts.update shift.id fun x ↦ { x with closing := some closing } } } := by
  refine ⟨rfl, ?_, rfl⟩
  rw [find?_update_self]
  exact congrArg _ (find?_key_of_mem hmem)

variable {st : State Store Request Decision}

theorem paysElsewhere_of_free (hgood : Good protocol (fun _ ↦ True) PaysInto st)
    (hmem : shift ∈ st.store.cash.shifts.rows)
    (hfree : protocol.Free [.register shift.cashRegisterId] st.inFlight) :
    ∀ t ∈ st.inFlight, PaysElsewhere shift.id t.1 t.2 := by
  intro t ht input payment hrequest hdecision x hx hid
  obtain ⟨y, hy, hyid, hyregister⟩ := hgood.known t ht input payment hrequest hdecision x hx
  have hsame : y = shift := eq_of_mem_of_key_eq hy hmem (hyid.trans hid)
  have hholds : LockedRow.register input.cashRegisterId ∈ protocol.holds t.1 := by
    rw [hrequest]
    exact mem_cons_of_mem _ (mem_singleton_self _)
  have hother := hfree t ht _ hholds
  rw [mem_singleton, LockedRow.register.injEq] at hother
  exact hother (hyregister.symm.trans (congrArg CashRegisterShift.cashRegisterId hsame))

theorem closed_later (hclosed : Closed shift closing drawer st.store)
    (helsewhere : ∀ t ∈ st.inFlight, PaysElsewhere shift.id t.1 t.2)
    (hexclusive : st.inFlight.Pairwise fun t t' ↦
      ∀ row ∈ protocol.holds t.1, row ∉ protocol.holds t'.1) (events : List (Event Request)) :
    Closed shift closing drawer (Outcome.run protocol.step st events).store :=
  ((closed_sound shift closing drawer).run ⟨hclosed, helsewhere, hexclusive⟩ events
    (commits_of_forall (fun _ _ _ ↦ trivial) ..)).inv

theorem closure_of_closed (drawer : ℤ × ℤ × ℤ)
    (h : Closed { shift with closing := some closing } closing drawer s)
    (hexpected : closing.expectedCash =
      shift.openingAmount + (drawer.1 - drawer.2.1) + drawer.2.2) :
    s.cash.shifts.find? shift.id = some { shift with closing := some closing } ∧
      s.ClosureBalanced { shift with closing := some closing } closing :=
  ⟨h.row, closureBalanced_of_closed h hexpected⟩

/-- **The request closes the shift for good**, with the exact amounts, through every later run. -/
def ClosesExactly (st : State Store Request Decision) (input : CloseShiftInput)
    (shift : CashRegisterShift) : Prop :=
  ∃ closing : ShiftClosing, closing.Exact input.countedAmount (st.store.expectedCash shift) ∧
    ∀ events, ∃ later, later = (Outcome.run protocol.step
        (Outcome.run protocol.step st (among st (.closeShift input))) events).store ∧
      later.cash.shifts.find? shift.id = some { shift with closing := some closing } ∧
      later.ClosureBalanced { shift with closing := some closing } closing

/-- **When a shift can be closed**: the expected cash is not negative or a whole number of units. -/
theorem closesExactly_iff (env : Env) (customers : Table Customer) (events : List (Event Request))
    (hst : st = Outcome.run protocol.step (State.idle (Store.fresh env customers)) events)
    {input : CloseShiftInput} {shift : CashRegisterShift}
    (hshift : st.store.shiftToClose input = some shift) (hopen : shift.isOpen)
    (hreason : input.differenceReason.any fun reason ↦ reason ≠ [])
    (hkey : ∀ x ∈ st.store.cash.shifts.rows, x.closing.all fun c ↦
      c.idempotencyKey ≠ input.idempotencyKey)
    (hfree : protocol.Free [.register input.cashRegisterId] st.inFlight) :
    ClosesExactly st input shift ↔
      0 ≤ st.store.expectedCash shift ∨ 100 ∣ st.store.expectedCash shift := by
  obtain ⟨closing, hexact, hclose⟩ := closeShift_eq hshift hopen hreason hkey
  have hnothing : protocol.Free (protocol.holds (.closeShift input)) st.inFlight := by
    intro t _ row _ hrow
    cases hrow
  obtain ⟨hmem, hregister⟩ := shiftToClose_eq_some hshift
  constructor
  · rintro ⟨closing', -, hlater⟩
    obtain ⟨later, rfl, hrow, -⟩ := hlater []
    by_contra hsign
    rw [if_neg hsign] at hclose
    rw [run_nil, store_run_among_error hnothing rfl hclose, Table.find?_eq_some] at hrow
    have : shift = { shift with closing := some closing' } :=
      Table.eq_of_mem_of_key_eq hmem hrow.1 hrow.2.symm
    rw [CashRegisterShift.isOpen, this] at hopen
    cases hopen
  · intro hsign
    rw [if_pos hsign] at hclose
    rw [ClosesExactly, run_among_ok hnothing rfl hfree hclose]
    refine ⟨closing, hexact, fun events' ↦ ⟨_, rfl, ?_⟩⟩
    have hgood : Good protocol (fun _ ↦ True) PaysInto st := by
      rw [hst]
      exact paysInto_sound.run (Good.idle trivial) events
        (commits_of_forall (fun _ _ _ ↦ trivial) ..)
    rw [← hregister] at hfree
    have helsewhere := paysElsewhere_of_free hgood hmem hfree
    have hexpected : closing.expectedCash = shift.openingAmount +
        (st.store.cashSales shift.id - st.store.cashRefunds shift.id) +
        st.store.cash.movementsNet shift.id := by
      rw [hexact.2.1, Store.expectedCash]
      ring
    refine closure_of_closed (st.store.cashSales shift.id, st.store.cashRefunds shift.id,
      st.store.cash.movementsNet shift.id) (closed_later ?_ ?_ ?_ events') ?_
    · exact closed_of_close hmem
    · exact helsewhere
    · exact hgood.exclusive
    · exact hexpected

/-! ### A shift that cannot be closed -/

/-- The cash is counted after the run that leaves an expected cash of -0.50, and found missing. -/
def countNothing : CloseShiftInput where
  branchId := 1
  cashRegisterId := 1
  userId := 1
  countedAmount := 0
  differenceReason := some [1]
  denominations := []
  idempotencyKey := [3]
  now := 0

def firstShift (openingAmount : ℕ) : CashRegisterShift where
  id := 0
  branchId := 1
  cashRegisterId := 1
  openedByUserId := 1
  openingAmount := openingAmount
  currency := .MXN
  openingIdempotencyKey := [1]
  requestFingerprint := {
    branchId := 1, cashRegisterId := 1, userId := 1, openingAmount := openingAmount
    currency := .MXN }
  closing := none

theorem overdrawn_shift_not_closed : ¬ClosesExactly overdrawn countNothing (firstShift 0) := by
  rintro ⟨closing, -, hlater⟩
  obtain ⟨later, hrun, hrow, -⟩ := hlater []
  have hopen : ((Outcome.run protocol.step overdrawn
      (among overdrawn (.closeShift countNothing))).store.cash.shifts.find? 0).bind
        CashRegisterShift.closing = none := by decide +kernel
  rw [run_nil] at hrun
  rw [← hrun] at hopen
  have hfound : later.cash.shifts.find? 0 = some { firstShift 0 with closing := some closing } :=
    hrow
  rw [hfound] at hopen
  cases hopen

theorem closesExactly_iff_afterSale :
    ClosesExactly (Outcome.run protocol.step (State.idle (Store.fresh default Table.empty))
      (alone (.opening 100) ++
        alone (.selling none [{ quantity := 1000, subtotal := 50, tax := 0 }] (inCash 50))))
      countNothing (firstShift 100) :=
  (closesExactly_iff default Table.empty _ rfl (by decide +kernel) (by decide +kernel)
    (by decide +kernel) (by decide +kernel) (by decide +kernel)).mpr
    (Or.inl (by decide +kernel))

end UInventario.Pos
