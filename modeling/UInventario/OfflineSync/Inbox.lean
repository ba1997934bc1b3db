import Mathlib.Data.List.Infix
import UInventario.Inventory.ValuationPolicyService

/-!
# The inbox of offline commands

`execute` runs a command in an outer transaction: it locks the sequence of the device, answers with
the row of the command when there is one, insists on the next number otherwise, inserts the row,
applies the command and completes the row. But what the command does (`operate`) and its audit
events commit in transactions of their own, before the outer one does. An attempt may be broken off
at any point (`Fate`): the outer transaction is rolled back, and what is committed stays.

## Representation

* The domain operations are a parameter (`Domain`): what they decide for a new key. An operation
  whose key is known is answered with what has been done under it.
* What JavaScript and the database make of the text of a time, and the collation of the columns, are
  in `Platform`.
* The fingerprint of a command is the command.
* The row of a command is seen by nobody before it is complete, so `PENDING` is no status here.
* `Store.rolledBack` and `Effect.origin` remember which commands have been rolled back, and which
  has committed an effect.
-/

namespace UInventario.OfflineSync

open Outcome

/-! ### Commands -/

/-- `OfflineCommandDto.kind`. -/
inductive CommandKind
  | CASH_SALE | INVENTORY_COUNT | INVENTORY_MOVEMENT
  deriving DecidableEq

inductive Permission
  | INVENTORY_ADJUST | INVENTORY_COUNT | SALES_MANAGE
  deriving DecidableEq

/-- A row of `offline_device_sequences`. -/
structure Device where
  (tenantId userId deviceId : Uuid)
  deriving DecidableEq

/-- `OfflineCommandScopeDto`. -/
structure CommandScope where
  device : Device
  (branchId cashRegisterId : Option Uuid)
  deriving DecidableEq

/-- `OfflineCommandDto`. -/
structure OfflineCommand (π : Type) where
  commandId : Uuid
  idempotencyKey : Text
  scope : CommandScope
  sequence : ℕ
  createdAt : Text
  valuationMethod : ValuationMethod
  valuationPolicyVersion : ℕ
  kind : CommandKind
  payload : π
  deriving DecidableEq

/-- `SessionIdentity`, as far as it is read. -/
structure Principal where
  (tenantId userId : Uuid)
  permissions : List Permission
  (branchId warehouseId cashRegisterId : Option Uuid)

/-! ### Errors -/

/-- An `HttpException` with the response that `classifyConflict` and the device read. -/
structure HttpError where
  status : ℕ
  code : Option Text
  message : Text
  maxAgeSeconds : Option ℕ := none
  currentPolicy : Option ValuationPolicy := none
  currentQuantity : Option Text := none
  deriving DecidableEq

/-- What applying a command throws: an `HttpException`, or anything else. -/
inductive OperationError
  | http (error : HttpError)
  | other

inductive CommandFailure
  -- `OfflineCommandConflictError`, `OfflineCommandSequenceError`
  | conflict
  | sequenceGap (expectedSequence : ℕ)
  -- `assertEnvelope`
  | scopeDenied | invalidTimestamp
  -- the keys of a table, and a text that is no `DATETIME`
  | duplicateEntry | incorrectDateTime
  -- what `apply` does not answer for
  | operation
  -- the attempt was broken off
  | stopped
  deriving DecidableEq

/-- `new ForbiddenException()`. -/
def forbidden : HttpError where
  status := 403
  code := none
  message := textOf "Forbidden"

/-! ### Conflicts -/

/-- `conflict.domain`. -/
inductive ConflictDomain
  | STOCK | SALE | PERMISSION
  deriving DecidableEq

/-- `strategy`. -/
inductive ConflictStrategy
  | AUTO_MERGE | REVIEW | COMPENSATE | REJECT
  deriving DecidableEq

structure Conflict where
  domain : ConflictDomain
  strategy : ConflictStrategy
  code : Text
  currentQuantity : Option Text
  userAction : Text
  deriving DecidableEq

/-- `HTTP_<status>`; statuses have three digits. -/
def httpCode (status : ℕ) : Text :=
  textOf "HTTP_" ++ [status / 100 % 10 + 48, status / 10 % 10 + 48, status % 10 + 48]

def classifyConflict (kind : CommandKind) (error : HttpError) : Conflict :=
  let code := error.code.getD (httpCode error.status)
  if code = textOf "INVENTORY_COUNT_CONFLICT" then {
    domain := .STOCK, strategy := .REVIEW, code := code, currentQuantity := error.currentQuantity,
    userAction := textOf "Sincroniza existencias y captura un conteo nuevo." }
  else if kind = .CASH_SALE then {
    domain := .SALE
    strategy := .REJECT
    code := code
    currentQuantity := none
    userAction :=
      textOf "Actualiza precios, caja y stock; después captura una venta nueva." }
  else if textOf "PERMISSION" <:+: code ∨ error.status = 403 then {
    domain := .PERMISSION
    strategy := .REJECT
    code := code
    currentQuantity := none
    userAction := textOf
      "Actualiza la sesión o solicita el permiso antes de capturar otra operación." }
  else {
    domain := .STOCK, strategy := .REJECT, code := code, currentQuantity := none,
    userAction := textOf "Sincroniza y revisa el stock antes de capturar otra operación." }

/-! ### Outcomes -/

/-- `meta.offlineResolution` of a result. -/
structure Resolution where
  domain : ConflictDomain
  strategy : ConflictStrategy
  userAction : Text
  deriving DecidableEq

def CommandKind.resolution : CommandKind → Resolution
  | .INVENTORY_MOVEMENT => {
      domain := .STOCK, strategy := .AUTO_MERGE,
      userAction := textOf "Ninguna; el delta se aplicó en orden transaccional." }
  | .INVENTORY_COUNT => {
      domain := .STOCK, strategy := .REVIEW,
      userAction := textOf "Ninguna; el conteo se validó contra su saldo base." }
  | .CASH_SALE => {
      domain := .SALE, strategy := .COMPENSATE,
      userAction := textOf "Si requiere corrección, usa la anulación auditada de venta." }

/-- `OfflineCommandExecution`: the result of an applied command, or the error of a refused one. -/
inductive Execution
  | CONFIRMED (entityId : Uuid) (resolution : Resolution)
  | ERROR (error : HttpError) (conflict : Conflict)
  deriving DecidableEq

/-- A row of `offline_commands`. -/
structure CommandRow (π : Type) where
  commandId : Uuid
  device : Device
  sequence : ℕ
  idempotencyKey : Text
  requestFingerprint : OfflineCommand π
  execution : Execution
  replayCount : ℕ

instance (π : Type) : Keyed (CommandRow π) Uuid := ⟨CommandRow.commandId⟩

/-- `OfflineCommandResult`. -/
structure CommandResult where
  commandId : Uuid
  sequence : ℕ
  execution : Execution
  replay : Bool

def CommandRow.result {π : Type} (row : CommandRow π) (replay : Bool) : CommandResult where
  commandId := row.commandId
  sequence := row.sequence
  execution := row.execution
  replay := replay

/-! ### Domain operations -/

structure Operation (π : Type) where
  kind : CommandKind
  tenantId : Uuid
  branchId : Option Uuid
  warehouseId : Uuid
  cashRegisterId : Option Uuid
  userId : Uuid
  idempotencyKey : Text
  payload : π

/-- What JavaScript and the database make of texts; times are in milliseconds. -/
structure Platform where
  /-- `new Date(value).getTime()`; `none` is `NaN`. -/
  getTime : Text → Option ℤ
  /-- A column of type `DATETIME` takes the text. -/
  isDateTime : Text → Bool
  /-- The collation of the columns. -/
  collate : Text → Text

/-- **The domain operations**: the check of a payload, the fingerprint, and what a new operation
decides on. -/
structure Domain (ω π : Type) extends Platform where
  validPayload : CommandKind → π → Bool
  fingerprint : CommandKind → π → Text
  decide : ω → Operation π → Except OperationError (ω × Uuid)

/-- What an effect is found by; the key as the collation has it. -/
structure EffectKey where
  kind : CommandKind
  tenantId : Uuid
  idempotencyKey : Text
  deriving DecidableEq

def Operation.key {ω π : Type} (D : Domain ω π) (op : Operation π) : EffectKey where
  kind := op.kind
  tenantId := op.tenantId
  idempotencyKey := D.collate op.idempotencyKey

structure Effect (π : Type) where
  key : EffectKey
  fingerprint : Text
  entityId : Uuid
  origin : Option (OfflineCommand π)

/-! ### Audit events -/

inductive AuditAction
  | OFFLINE_INVENTORY_MOVEMENT_CONFIRMED | OFFLINE_INVENTORY_COUNT_CONFIRMED
  | OFFLINE_SALE_CONFIRMED | OFFLINE_COMMAND_REJECTED
  deriving DecidableEq

def CommandKind.confirmed : CommandKind → AuditAction
  | .INVENTORY_MOVEMENT => .OFFLINE_INVENTORY_MOVEMENT_CONFIRMED
  | .INVENTORY_COUNT => .OFFLINE_INVENTORY_COUNT_CONFIRMED
  | .CASH_SALE => .OFFLINE_SALE_CONFIRMED

/-- `event_key` of an event that is recorded once: what is hashed. The type of the entity goes with
the action. -/
structure AuditKey where
  tenantId : Uuid
  action : AuditAction
  entityId : Uuid
  deriving DecidableEq

/-! ### The store -/

/-- **What the commands of all devices work on.** -/
structure Store (ω π : Type) where
  now : ℤ
  policy : Uuid → ValuationPolicy
  world : ω
  effects : List (Effect π)
  audits : List AuditKey
  lastSequence : Device → ℕ
  commands : Table (CommandRow π)
  rolledBack : List (OfflineCommand π)

variable {ω π : Type} [DecidableEq π]

def Store.fresh (now : ℤ) (policy : Uuid → ValuationPolicy) (world : ω) : Store ω π where
  now := now
  policy := policy
  world := world
  effects := []
  audits := []
  lastSequence := fun _ ↦ 0
  commands := Table.empty
  rolledBack := []

def Store.effect? (s : Store ω π) (key : EffectKey) : Option (Effect π) :=
  s.effects.find? fun e ↦ e.key = key

/-- **A domain operation**: it answers with what has been done under its key, or does it. -/
def perform (D : Domain ω π) (s : Store ω π) (origin : OfflineCommand π) (op : Operation π) :
    Except OperationError (Store ω π × Uuid) :=
  match s.effect? (op.key D) with
  | some e => do
    ensure (e.fingerprint = D.fingerprint op.kind op.payload) (.http {
      status := 409, code := some (textOf "IDEMPOTENCY_KEY_REUSED"),
      message := textOf "La clave de idempotencia ya fue usada con otros datos." })
    pure (s, e.entityId)
  | none => do
    let (world, entityId) ← D.decide s.world op
    pure ({ s with
      world := world
      effects := s.effects ++ [{
        key := op.key D, fingerprint := D.fingerprint op.kind op.payload, entityId := entityId,
        origin := some origin }] }, entityId)

/-- `record`: a duplicate is no error, and neither is anything else. -/
def Store.record (s : Store ω π) (key : AuditKey) : Store ω π :=
  if key ∈ s.audits then s else { s with audits := s.audits ++ [key] }

def recordRequired (s : Store ω π) (key : AuditKey) : Except CommandFailure (Store ω π) := do
  ensure (key ∉ s.audits) .duplicateEntry
  pure { s with audits := s.audits ++ [key] }

/-! ### Applying a command -/

/-- `OFFLINE_FRESHNESS_POLICY_V1.actionTtlSeconds`. -/
def CommandKind.actionTtlSeconds : CommandKind → ℕ
  | .CASH_SALE => 900
  | .INVENTORY_COUNT => 14400
  | .INVENTORY_MOVEMENT => 3600

def assertFresh (D : Domain ω π) (s : Store ω π) (c : OfflineCommand π) :
    Except OperationError Unit :=
  ensure ((D.getTime c.createdAt).all fun createdAt ↦
    s.now - createdAt ≤ c.kind.actionTtlSeconds * 1000) (.http {
    status := 409, code := some (textOf "OFFLINE_COMMAND_STALE"),
    message := textOf "La operación excedió su vigencia offline y debe capturarse de nuevo.",
    maxAgeSeconds := some c.kind.actionTtlSeconds })

def assertSnapshot (s : Store ω π) (tenantId : Uuid) (c : OfflineCommand π) :
    Except OperationError Unit :=
  ensure (s.policy tenantId = ⟨c.valuationMethod, c.valuationPolicyVersion⟩) (.http {
    status := 409
    code := some (textOf "OFFLINE_VALUATION_POLICY_STALE")
    message := textOf
      "El método de valorización cambió; descarga un bootstrap antes de operar."
    currentPolicy := some (s.policy tenantId) })

def CommandKind.permission : CommandKind → Permission
  | .INVENTORY_MOVEMENT => .INVENTORY_ADJUST
  | .INVENTORY_COUNT => .INVENTORY_COUNT
  | .CASH_SALE => .SALES_MANAGE

def requirePermission (p : Principal) (permission : Permission) : Except OperationError Unit :=
  ensure (permission ∈ p.permissions) (.http {
    status := 403, code := some (textOf "OFFLINE_COMMAND_PERMISSION_DENIED"),
    message := textOf "No tienes permiso para aplicar este comando." })

/-- The warehouse of the principal; a sale needs the branch and the cash register as well. -/
def requireContext (p : Principal) (kind : CommandKind) : Except OperationError Uuid := do
  ensure (kind = .CASH_SALE → p.branchId ≠ none ∧ p.cashRegisterId ≠ none) (.http forbidden)
  demand p.warehouseId (.http forbidden)

/-- `payload`. -/
def assertPayload (D : Domain ω π) (c : OfflineCommand π) : Except OperationError Unit :=
  ensure (D.validPayload c.kind c.payload = true) (.http {
    status := 400, code := some (textOf "INVALID_OFFLINE_COMMAND_PAYLOAD"),
    message := textOf "El payload del comando no es válido." })

/-- What `apply` checks before it calls the domain, and the operation it calls. -/
def prepare (D : Domain ω π) (p : Principal) (s : Store ω π) (c : OfflineCommand π) :
    Except OperationError (Operation π) := do
  assertFresh D s c
  assertSnapshot s p.tenantId c
  requirePermission p c.kind.permission
  let warehouseId ← requireContext p c.kind
  assertPayload D c
  pure {
    kind := c.kind
    tenantId := p.tenantId
    branchId := if c.kind = .CASH_SALE then p.branchId else none
    warehouseId := warehouseId
    cashRegisterId := if c.kind = .CASH_SALE then p.cashRegisterId else none
    userId := p.userId
    idempotencyKey := c.idempotencyKey
    payload := c.payload }

def operate (D : Domain ω π) (p : Principal) (s : Store ω π) (c : OfflineCommand π) :
    Except OperationError (Store ω π × Uuid) := do
  let op ← prepare D p s c
  perform D s c op

def OfflineCommand.rejection (c : OfflineCommand π) (p : Principal) : AuditKey where
  tenantId := p.tenantId
  action := .OFFLINE_COMMAND_REJECTED
  entityId := c.commandId

/-- `apply`. What the inner transactions commit stays, whatever comes after them. -/
def apply (D : Domain ω π) (p : Principal) (s : Store ω π) (c : OfflineCommand π) :
    Store ω π × Except CommandFailure Execution :=
  match operate D p s c with
  | .ok (s', entityId) =>
    (s'.record ⟨p.tenantId, c.kind.confirmed, entityId⟩,
      .ok (.CONFIRMED entityId c.kind.resolution))
  | .error (.http error) =>
    if error.status < 500 then
      match recordRequired s (c.rejection p) with
      | .ok s' => (s', .ok (.ERROR error (classifyConflict c.kind error)))
      | .error e => (s, .error e)
    else (s, .error .operation)
  | .error .other => (s, .error .operation)

/-! ### The outer transaction -/

inductive Point
  | beforeOperation | afterOperation | afterAudit
  deriving DecidableEq

inductive Fate
  | completes
  | stops (point : Point)
  deriving DecidableEq

/-- What the inner transactions have committed when an attempt is broken off. -/
def reach (D : Domain ω π) (p : Principal) (s : Store ω π) (c : OfflineCommand π) :
    Point → Store ω π
  | .beforeOperation => s
  | .afterOperation =>
    match operate D p s c with
    | .ok (s', _) => s'
    | .error _ => s
  | .afterAudit => (apply D p s c).1

def Store.findExisting (D : Domain ω π) (s : Store ω π) (c : OfflineCommand π) :
    Option (CommandRow π) :=
  s.commands.rows.find? fun row ↦ row.commandId = c.commandId ∨
    (row.device = c.scope.device ∧ D.collate row.idempotencyKey = D.collate c.idempotencyKey)

/-- `String.prototype.replace` of a character: the first one is replaced. -/
def replaceFirst (unit : ℕ) (replacement : Text) : Text → Text
  | [] => []
  | u :: rest => if u = unit then replacement ++ rest else u :: replaceFirst unit replacement rest

/-- `sqlDate`: what is inserted as `device_created_at`. An offset is cut off or cut short. -/
def sqlDate (value : Text) : Text :=
  replaceFirst 'Z'.toNat [] (replaceFirst 'T'.toNat [' '.toNat] (value.take 23))

/-- What `execute` does before it applies the command: the row that answers it, or none when it is
the command's turn. -/
def lookUp (D : Domain ω π) (s : Store ω π) (c : OfflineCommand π) :
    Except CommandFailure (Option (CommandRow π)) :=
  match s.findExisting D c with
  | some row => do
    ensure (row.commandId = c.commandId ∧ row.requestFingerprint = c ∧ row.sequence = c.sequence)
      .conflict
    pure (some row)
  | none => do
    ensure (c.sequence = s.lastSequence c.scope.device + 1)
      (.sequenceGap (s.lastSequence c.scope.device + 1))
    ensure (D.isDateTime (sqlDate c.createdAt) = true) .incorrectDateTime
    ensure (∀ row ∈ s.commands.rows, ¬(row.device = c.scope.device ∧ row.sequence = c.sequence))
      .duplicateEntry
    pure none

def Store.rollBack (s : Store ω π) (c : OfflineCommand π) : Store ω π :=
  { s with rolledBack := c :: s.rolledBack }

/-- `replay_count = replay_count + 1`. -/
def CommandRow.replayed (row : CommandRow π) : CommandRow π :=
  { row with replayCount := row.replayCount + 1 }

def Store.countReplay (s : Store ω π) (commandId : Uuid) : Store ω π :=
  { s with commands := s.commands.update commandId CommandRow.replayed (fun _ ↦ rfl) }

def OfflineCommand.row (c : OfflineCommand π) (execution : Execution) : CommandRow π where
  commandId := c.commandId
  device := c.scope.device
  sequence := c.sequence
  idempotencyKey := c.idempotencyKey
  requestFingerprint := c
  execution := execution
  replayCount := 0

/-- The row of the command is complete, and its number is the last one of the device. -/
def complete (s : Store ω π) (c : OfflineCommand π) (execution : Execution) :
    Except CommandFailure (Store ω π) := do
  let commands ← demand (s.commands.insert (c.row execution)) .duplicateEntry
  pure { s with
    commands := commands, lastSequence := Function.update s.lastSequence c.scope.device c.sequence }

/-- **`execute`**: the store it leaves, and what it answers or throws. -/
def execute (D : Domain ω π) (p : Principal) (fate : Fate) (s : Store ω π) (c : OfflineCommand π) :
    Store ω π × Except CommandFailure CommandResult :=
  match lookUp D s c, fate with
  | .error e, _ => (s.rollBack c, .error e)
  | .ok (some _), .stops _ => (s.rollBack c, .error .stopped)
  | .ok (some row), .completes => (s.countReplay row.commandId, .ok (row.result true))
  | .ok none, .stops point => ((reach D p s c point).rollBack c, .error .stopped)
  | .ok none, .completes =>
    match (apply D p s c).2 with
    | .error e => ((apply D p s c).1.rollBack c, .error e)
    | .ok execution =>
      match complete (apply D p s c).1 c execution with
      | .error e => ((apply D p s c).1.rollBack c, .error e)
      | .ok s' => (s', .ok ((c.row execution).result false))

/-! ### Batches -/

def assertEnvelope (D : Domain ω π) (p : Principal) (now : ℤ) (c : OfflineCommand π) :
    Except CommandFailure Unit := do
  ensure (c.scope.device.tenantId = p.tenantId ∧ c.scope.device.userId = p.userId ∧
    c.scope.branchId = p.branchId ∧ c.scope.cashRegisterId = p.cashRegisterId) .scopeDenied
  ensure ((D.getTime c.createdAt).any fun createdAt ↦
    createdAt ≤ now + 5 * 60000 ∧ now - 30 * 24 * 60 * 60000 ≤ createdAt) .invalidTimestamp

def attempt (D : Domain ω π) (p : Principal) (fate : Fate) (s : Store ω π) (c : OfflineCommand π) :
    Store ω π × Except CommandFailure CommandResult :=
  match assertEnvelope D p s.now c with
  | .error e => (s, .error e)
  | .ok _ => execute D p fate s c

/-- `executeBatch`: the first command that throws ends it. -/
def executeBatch (D : Domain ω π) (p : Principal) (s : Store ω π) :
    List (OfflineCommand π × Fate) → Store ω π × Except CommandFailure (List CommandResult)
  | [] => (s, .ok [])
  | (c, fate) :: batch =>
    match attempt D p fate s c with
    | (s', .error e) => (s', .error e)
    | (s', .ok result) =>
      ((executeBatch D p s' batch).1,
        (executeBatch D p s' batch).2.map fun results ↦ result :: results)

/-! ### Runs -/

/-- What the rest of the application does: time passes, the policy changes, other effects appear. -/
structure Elsewhere (ω π : Type) where
  now : ℤ
  policy : Uuid → ValuationPolicy
  world : ω
  effects : List (Effect π)

/-- The effects of other parts of the application come under keys of their own. -/
def Store.admits (s : Store ω π) (e : Elsewhere ω π) : Prop :=
  (∀ x ∈ e.effects, x.origin = none ∧ s.effect? x.key = none) ∧ (e.effects.map Effect.key).Nodup
deriving Decidable

def Elsewhere.apply (e : Elsewhere ω π) (s : Store ω π) : Store ω π :=
  if s.admits e then
    { s with now := e.now, policy := e.policy, world := e.world, effects := s.effects ++ e.effects }
  else s

inductive Event (ω π : Type)
  | send (principal : Principal) (command : OfflineCommand π) (fate : Fate)
  | «elsewhere» (change : Elsewhere ω π)

def step (D : Domain ω π) (s : Store ω π) : Event ω π → Except Unit (Store ω π)
  | .send p c fate => .ok (attempt D p fate s c).1
  | .«elsewhere» change => .ok (change.apply s)

def inboxRun (D : Domain ω π) (s : Store ω π) (events : List (Event ω π)) : Store ω π :=
  run (step D) s events

/-- **A batch is a run** of its commands up to the first that throws. -/
theorem executeBatch_eq_run (D : Domain ω π) (p : Principal) (s : Store ω π)
    (batch : List (OfflineCommand π × Fate)) : ∃ sent, sent <+: batch ∧
      (executeBatch D p s batch).1 = inboxRun D s (sent.map fun b ↦ .send p b.1 b.2) := by
  induction batch generalizing s with
  | nil => exact ⟨[], List.prefix_refl _, rfl⟩
  | cons b batch ih =>
    obtain ⟨c, fate⟩ := b
    rw [executeBatch]
    have hattempt : ∀ events, inboxRun D s (.send p c fate :: events) =
        inboxRun D (attempt D p fate s c).1 events := fun _ ↦ rfl
    split
    case h_1 s' e h =>
      refine ⟨[(c, fate)], List.prefix_append [(c, fate)] batch, ?_⟩
      rw [List.map_singleton, hattempt, h]
      rfl
    case h_2 s' result h =>
      obtain ⟨sent, hsent, hrun⟩ := ih s'
      refine ⟨(c, fate) :: sent, (List.prefix_cons_inj _).mpr hsent, ?_⟩
      rw [List.map_cons, hattempt, h]
      exact hrun

end UInventario.OfflineSync
