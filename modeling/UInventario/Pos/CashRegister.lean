import UInventario.Pos.Store

/-!
# Shifts, their cash movements and their closure

`expectedCash` is the cash that should be in the drawer of a shift: what it was opened with, the
cash payments of its completed sales, less its cash refunds, plus its signed movements. The source
has the formula four times, in SQL; each repository reads the result with a reader of its own.

Every operation here locks the row of its shift first, so each is one step.
-/

namespace UInventario.Pos

open Outcome

/-! ### The cash of a shift -/

/-- The movement with its sign; a reversal does the opposite of the movement it reverses. -/
def CashBook.signed (cash : CashBook) (m : CashRegisterMovement) : ℤ :=
  match m.kind with
  | .INCOME => m.amount
  | .WITHDRAWAL => -m.amount
  | .REVERSAL id =>
    match cash.movements.find? id with
    | some original => if original.kind = .INCOME then -m.amount else m.amount
    | none => m.amount

def CashBook.movementsNet (cash : CashBook) (shiftId : Uuid) : ℤ :=
  cash.movements.total fun m ↦ if m.shiftId = shiftId then cash.signed m else 0

def Sale.cashApplied (sale : Sale) : ℕ :=
  (sale.payments.map fun p ↦ if p.method = .CASH then p.amountApplied else 0).sum

variable (s : Store)

def Store.cashSales (shiftId : Uuid) : ℤ :=
  s.sales.total fun sale ↦
    if sale.shiftId = shiftId ∧ sale.isCompleted then sale.cashApplied else 0

def Store.cashRefunds (shiftId : Uuid) : ℤ :=
  s.settlements.total fun x ↦
    if x.shiftId = some shiftId ∧ x.method = some .CASH ∧ x.status = .COMPLETED then x.amount else 0

/-- **The expected cash of a shift.** -/
def Store.expectedCash (shift : CashRegisterShift) : ℤ :=
  shift.openingAmount + s.cashSales shift.id - s.cashRefunds shift.id + s.cash.movementsNet shift.id

/-! ### Opening a shift -/

/-- A request for a shift; the currency follows from the country of the tenant. -/
structure OpenShiftInput where
  (branchId cashRegisterId userId : Uuid)
  openingAmount : ℕ
  currency : Currency
  idempotencyKey : Text

def openShift (input : OpenShiftInput) : Except Failure Store := do
  let fingerprint : ShiftFingerprint := {
    branchId := input.branchId, cashRegisterId := input.cashRegisterId, userId := input.userId,
    openingAmount := input.openingAmount, currency := input.currency }
  match s.cash.shifts.rows.find? fun x ↦ x.openingIdempotencyKey = input.idempotencyKey with
  | some replay => do
    ensure (replay.requestFingerprint = fingerprint) .cashRegisterShiftIdempotencyConflict
    pure s
  | none => do
    ensure (∀ x ∈ s.cash.shifts.rows, x.isOpen →
      x.cashRegisterId ≠ input.cashRegisterId ∧ x.openedByUserId ≠ input.userId)
      .cashRegisterShiftConflict
    let shifts ← demand (s.cash.shifts.insert {
      id := s.env.uuid .cash_register_shifts s.cash.shifts.rows.length, branchId := input.branchId,
      cashRegisterId := input.cashRegisterId, openedByUserId := input.userId,
      openingAmount := input.openingAmount, currency := input.currency,
      openingIdempotencyKey := input.idempotencyKey, requestFingerprint := fingerprint,
      closing := none }) .duplicateEntry
    pure { s with cash := { s.cash with shifts := shifts } }

/-! ### Movements -/

/-- `INSERT INTO cash_register_movements`, with the constraints and keys of the table. -/
def CashBook.insertMovement (cash : CashBook) (m : CashRegisterMovement) :
    Except Failure CashBook := do
  ensure (0 < m.amount) .checkViolation
  ensure (∀ m' ∈ cash.movements.rows, m'.idempotencyKey ≠ m.idempotencyKey) .duplicateEntry
  ensure (∀ m' ∈ cash.movements.rows, m.kind.reversalOfId = none ∨
    m'.kind.reversalOfId ≠ m.kind.reversalOfId) .duplicateEntry
  match hinsert : cash.movements.insert m with
  | none => .error .duplicateEntry
  | some movements =>
    if hlink : m.kind.reversalOfId.all fun id ↦ (cash.movements.find? id).isSome then
      .ok { shifts := cash.shifts
            movements := movements
            linked := by
              intro m' hm' id hid
              have hold : (cash.movements.find? id).isSome := by
                rcases (Table.mem_insert hinsert).mp hm' with hm' | rfl
                · exact cash.linked m' hm' id hid
                · rw [hid] at hlink
                  exact hlink
              obtain ⟨original, horiginal⟩ := Option.isSome_iff_exists.mp hold
              rw [Table.find?_insert_of_some hinsert horiginal]
              rfl }
    else .error .foreignKeyViolation

structure MovementContext where
  (branchId cashRegisterId userId shiftId : Uuid)

/-- What is asked for: a new income or withdrawal, or the reversal of one. -/
inductive MovementAction
  | income (amount : ℕ)
  | withdrawal (amount : ℕ)
  | reverse (movementId : Uuid)

structure MovementInput extends MovementContext where
  action : MovementAction
  (reason idempotencyKey : Text)

/-- `lockShift`: the open shift of the user at the register. -/
def Store.lockShift (context : MovementContext) (e : Failure) :
    Except Failure CashRegisterShift := do
  let shift ← demand (s.cash.shifts.find? context.shiftId) e
  ensure (shift.branchId = context.branchId ∧ shift.cashRegisterId = context.cashRegisterId ∧
    shift.openedByUserId = context.userId ∧ shift.isOpen) e
  pure shift

/-- `findOriginal`: the income or withdrawal of the shift that is to be reversed. -/
def Store.findOriginal (shiftId id : Uuid) : Option CashRegisterMovement :=
  (s.cash.movements.find? id).filter fun m ↦
    m.shiftId = shiftId ∧ (m.kind = .INCOME ∨ m.kind = .WITHDRAWAL)

/-- Type and amount of the new movement, and whether the cash for it has to be there. -/
def resolveMovement (input : MovementInput) :
    Except Failure (CashMovementKind × ℕ × Bool) :=
  match input.action with
  | .income amount => pure (.INCOME, amount, false)
  | .withdrawal amount => pure (.WITHDRAWAL, amount, true)
  | .reverse id => do
    let original ← demand (s.findOriginal input.shiftId id) .cashRegisterMovementNotFound
    pure (.REVERSAL id, original.amount, decide (original.kind = .INCOME))

def assertAvailable (shift : CashRegisterShift) (amount : ℕ) :
    Except Failure PUnit := do
  let expected ← demand (CashRegisterMovements.cents
    (CashRegisterMovements.money (columnText (s.expectedCash shift)))) .syntaxError
  ensure (¬(amount : ℤ) > expected) .cashRegisterMovementInsufficientBalance

def assertOutgoing (shift : CashRegisterShift) (amount : ℕ) (outgoing : Bool) :
    Except Failure PUnit :=
  if outgoing = true then assertAvailable s shift amount else pure ⟨⟩

def assertNotReversed (kind : CashMovementKind) : Except Failure PUnit :=
  ensure (∀ m ∈ s.cash.movements.rows, kind.reversalOfId = none ∨
    m.kind.reversalOfId ≠ kind.reversalOfId) .cashRegisterMovementAlreadyReversed

/-- `persist`: `create` and `reverse`. -/
def persistMovement (input : MovementInput) : Except Failure Store := do
  let shift ← s.lockShift input.toMovementContext .cashRegisterMovementNotFound
  let (kind, amount, outgoing) ← resolveMovement s input
  let fingerprint : CashMovementFingerprint := {
    shiftId := input.shiftId, kind := kind, amount := amount, reason := input.reason }
  match s.cash.movements.rows.find? fun m ↦ m.idempotencyKey = .request input.idempotencyKey with
  | some replay => do
    ensure (replay.requestFingerprint = fingerprint) .cashRegisterMovementIdempotencyConflict
    pure s
  | none => do
    assertNotReversed s kind
    assertOutgoing s shift amount outgoing
    let cash ← s.cash.insertMovement {
      id := s.env.uuid .cash_register_movements s.cash.movements.rows.length,
      shiftId := input.shiftId, createdByUserId := input.userId, kind := kind, amount := amount,
      reason := input.reason, idempotencyKey := .request input.idempotencyKey,
      requestFingerprint := fingerprint }
    pure { s with cash := cash }

/-! ### Closing a shift -/

structure CloseShiftInput where
  (branchId cashRegisterId userId : Uuid)
  countedAmount : ℕ
  differenceReason : Option Text
  denominations : List (ℕ × ℕ)
  idempotencyKey : Text
  now : Timestamp

/-- `money` of the closures. -/
def CashRegisterClosures.money (value : List Char) : Option (List Char) :=
  (cents value).map fromSignedCents

@[simp] theorem CashRegisterClosures.money_columnText (v : ℤ) :
    money (columnText v) = some (columnText v) := by
  rw [money, cents_columnText, Option.map_some, fromSignedCents_eq]

/-- The shift of the user at the register that the key has closed, or else the open one. -/
def Store.shiftToClose (input : CloseShiftInput) : Option CashRegisterShift :=
  let mine := s.cash.shifts.rows.filter fun x ↦
    x.branchId = input.branchId ∧ x.cashRegisterId = input.cashRegisterId ∧
      x.openedByUserId = input.userId
  match mine.find? fun x ↦ x.closing.any fun c ↦ c.idempotencyKey = input.idempotencyKey with
  | some shift => some shift
  | none => mine.find? fun x ↦ x.isOpen

def Store.closureNotFound (input : CloseShiftInput) : Failure :=
  if s.cash.shifts.rows.any fun x ↦ x.branchId = input.branchId ∧
      x.cashRegisterId = input.cashRegisterId ∧ x.openedByUserId = input.userId ∧ ¬x.isOpen then
    .cashRegisterAlreadyClosed
  else .cashRegisterClosureNotFound

/-- The three amounts of `summary`, as the texts its query returns. -/
def Store.closureAmounts (shift : CashRegisterShift) :
    Except Failure (List Char × List Char × List Char) := do
  let openingAmount ← demand (CashRegisterClosures.money (columnText shift.openingAmount))
    .syntaxError
  let cashSales ← demand (CashRegisterClosures.money
    (columnText (s.cashSales shift.id - s.cashRefunds shift.id))) .syntaxError
  let movementsNet ← demand (CashRegisterClosures.money
    (columnText (s.cash.movementsNet shift.id))) .syntaxError
  pure (openingAmount, cashSales, movementsNet)

def Store.closureExpected (shift : CashRegisterShift) : Except Failure ℤ := do
  let (openingAmount, cashSales, movementsNet) ← s.closureAmounts shift
  let opening ← demand (CashRegisterClosures.cents openingAmount) .syntaxError
  let sales ← demand (CashRegisterClosures.cents cashSales) .syntaxError
  let movements ← demand (CashRegisterClosures.cents movementsNet) .syntaxError
  pure (opening + sales + movements)

/-- `close`. The database runs in its strict mode: a text that is no number of the column is an
error and not a zero. -/
def closeShift (input : CloseShiftInput) : Except Failure Store := do
  let shift ← demand (s.shiftToClose input) (s.closureNotFound input)
  let fingerprint : ClosureFingerprint := {
    shiftId := shift.id, countedAmount := input.countedAmount,
    differenceReason := input.differenceReason,
    denominations := orderBy (fun a b ↦ a.1 ≤ b.1) input.denominations }
  match shift.closing with
  | some closing => do
    ensure (closing.requestFingerprint = fingerprint) .cashRegisterClosureIdempotencyConflict
    pure s
  | none => do
    let expectedCents ← s.closureExpected shift
    let differenceCents := (input.countedAmount : ℤ) - expectedCents
    ensure (differenceCents ≠ 0 → input.differenceReason.any fun reason ↦ reason ≠ [])
      .cashRegisterClosureReasonRequired
    let expectedCash ← demand (Decimal.readColumn 2
      (CashRegisterClosures.fromCents expectedCents)) .dataTruncated
    let difference ← demand (Decimal.readColumn 2
      (CashRegisterClosures.fromSignedCents differenceCents)) .dataTruncated
    ensure (∀ x ∈ s.cash.shifts.rows, x.closing.all fun c ↦
      c.idempotencyKey ≠ input.idempotencyKey) .duplicateEntry
    pure { s with cash := { s.cash with
      shifts := s.cash.shifts.update shift.id fun x ↦ { x with closing := some {
        closedByUserId := input.userId, countedAmount := input.countedAmount,
        expectedCash := expectedCash, difference := difference, reason := input.differenceReason,
        denominations := input.denominations, idempotencyKey := input.idempotencyKey,
        requestFingerprint := fingerprint, closedAt := input.now } } } }

/-! ### What a closure shows -/

/-- The amounts of a `CashRegisterClosureData`. -/
structure ClosureData where
  (openingAmount cashSales movementsNet expectedCash countedCash difference : List Char)

/-- `toData` of a row of `selectClosure`: the sums are read from the live tables, the amounts of the
closing from its columns. -/
def Store.closureData (shift : CashRegisterShift) (closing : ShiftClosing) :
    Except Failure ClosureData := do
  let (openingAmount, cashSales, movementsNet) ← s.closureAmounts shift
  let expectedCash ← demand (CashRegisterClosures.money (columnText closing.expectedCash))
    .syntaxError
  let countedCash ← demand (CashRegisterClosures.money (columnText closing.countedAmount))
    .syntaxError
  let difference ← demand (CashRegisterClosures.money (columnText closing.difference))
    .syntaxError
  pure {
    openingAmount := openingAmount, cashSales := cashSales, movementsNet := movementsNet,
    expectedCash := expectedCash, countedCash := countedCash, difference := difference }

end UInventario.Pos
