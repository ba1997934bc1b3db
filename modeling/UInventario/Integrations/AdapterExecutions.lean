import UInventario.Inventory.ValuationPolicyService

/-!
# Executions of external adapters

`ExternalAdapterExecutionService.execute`: the configuration of a capability is read, a row is
inserted under the key of the request, the adapter is called until it has an answer for good or the
attempts are used up, and the row gets the result. A request that finds the row of its key is
answered with what is written there.

* Every statement and every call is a turn (`executionTurn`). `INSERT IGNORE` and the query after it
  are one.
* An execution is found by its key, which stands for its identifier as well.
* `AdapterEnv.answers` has the answers to the calls of an adapter; `calls` are the keys under which
  the adapters have been called.
-/

namespace UInventario.Integrations

inductive ExternalAdapterCapability
  | NOTIFICATION_EMAIL | NOTIFICATION_PUSH | NOTIFICATION_WHATSAPP
  deriving DecidableEq

inductive ExternalAdapterStatus
  | PENDING | SUCCEEDED | REJECTED | RETRYABLE_FAILURE | TIMED_OUT
  deriving DecidableEq

structure ExternalAdapterConfig where
  capability : ExternalAdapterCapability
  (provider adapterVersion : Text)
  enabled : Bool
  maxAttempts : ℕ

instance : Keyed ExternalAdapterConfig ExternalAdapterCapability :=
  ⟨ExternalAdapterConfig.capability⟩

structure ExecutionKey where
  capability : ExternalAdapterCapability
  idempotencyKey : Text
  deriving DecidableEq

structure AttemptResult where
  status : ExternalAdapterStatus
  (errorCode providerReference : Option Text)

structure ExternalAdapterExecution where
  key : ExecutionKey
  result : AttemptResult
  attemptCount : ℕ

instance : Keyed ExternalAdapterExecution ExecutionKey := ⟨ExternalAdapterExecution.key⟩

/-- What a call of `adapter.execute` comes to. -/
inductive AdapterAnswer
  | SUCCEEDED (providerReference : Text)
  | REJECTED (errorCode : Text)
  | RETRYABLE_FAILURE (errorCode : Text)
  -- the call is aborted after `timeoutMs`
  | aborted
  | threw

/-- `attempt`. -/
def AdapterAnswer.result : AdapterAnswer → AttemptResult
  | .SUCCEEDED providerReference =>
    { status := .SUCCEEDED, errorCode := none, providerReference := some providerReference }
  | .REJECTED errorCode =>
    { status := .REJECTED, errorCode := some errorCode, providerReference := none }
  | .RETRYABLE_FAILURE errorCode =>
    { status := .RETRYABLE_FAILURE, errorCode := some errorCode, providerReference := none }
  | .aborted =>
    { status := .TIMED_OUT, errorCode := some (textOf "ADAPTER_TIMEOUT"),
      providerReference := none }
  | .threw =>
    { status := .RETRYABLE_FAILURE
      errorCode := some (textOf "ADAPTER_EXECUTION_FAILED")
      providerReference := none }

structure AdapterEnv where
  registered : ExternalAdapterCapability → Text → Text → Bool
  answers : ℕ → AdapterAnswer

structure AdapterStore where
  configs : Table ExternalAdapterConfig
  executions : Table ExternalAdapterExecution
  calls : List ExecutionKey

/-- **Where `execute` stands.** -/
inductive ExecutionPlace
  | configuring
  | beginning (config : ExternalAdapterConfig)
  | attempting (config : ExternalAdapterConfig) (attempt : ℕ)
  | finishing (result : AttemptResult) (attemptCount : ℕ)
  | answered (result : AttemptResult)
  -- `ADAPTER_CONFIG_NOT_FOUND`
  | thrown

/-- The row that `beginExecution` inserts. -/
def pendingExecution (key : ExecutionKey) : ExternalAdapterExecution where
  key := key
  result := { status := .PENDING, errorCode := none, providerReference := none }
  attemptCount := 0

/-- What `execute` does once it has inserted its row. -/
def executionPlan (env : AdapterEnv) (config : ExternalAdapterConfig) : ExecutionPlace :=
  if config.enabled = false then
    .finishing
      { status := .REJECTED
        errorCode := some (textOf "ADAPTER_DISABLED")
        providerReference := none } 0
  else if env.registered config.capability config.provider config.adapterVersion = false then
    .finishing
      { status := .REJECTED
        errorCode := some (textOf "ADAPTER_NOT_CONFIGURED")
        providerReference := none } 0
  else if 1 ≤ config.maxAttempts then .attempting config 1
  else .finishing AdapterAnswer.threw.result 0

def ExternalAdapterStatus.ends (status : ExternalAdapterStatus) : Prop :=
  status = .SUCCEEDED ∨ status = .REJECTED
deriving Decidable

/-- `finishAttempt`. -/
def ExternalAdapterExecution.finished (result : AttemptResult) (attemptCount : ℕ)
    (execution : ExternalAdapterExecution) : ExternalAdapterExecution :=
  { execution with result := result, attemptCount := attemptCount }

/-- **The next statement of `execute`.** -/
def executionTurn (env : AdapterEnv) (key : ExecutionKey) :
    ExecutionPlace → AdapterStore → AdapterStore × ExecutionPlace
  | .configuring, s =>
    (s, match s.configs.find? key.capability with
      | some config => .beginning config
      | none => .thrown)
  | .beginning config, s =>
    match s.executions.insert (pendingExecution key) with
    | some executions => ({ s with executions := executions }, executionPlan env config)
    | none => (s, match s.executions.find? key with
      | some execution => .answered execution.result
      | none => .thrown)
  | .attempting config attempt, s =>
    let result := (env.answers s.calls.length).result
    ({ s with calls := s.calls ++ [key] },
      if result.status.ends ∨ attempt = config.maxAttempts then .finishing result attempt
      else .attempting config (attempt + 1))
  | .finishing result attemptCount, s =>
    ({ s with executions := s.executions.update key (.finished result attemptCount) },
      .answered result)
  | .answered result, s => (s, .answered result)
  | .thrown, s => (s, .thrown)

/-! ### What a turn leaves -/

variable {env : AdapterEnv} {key : ExecutionKey} {place : ExecutionPlace} {s : AdapterStore}

def ExecutionPlace.Calls : ExecutionPlace → Prop
  | .attempting _ _ => True
  | _ => False

theorem executionTurn_calls (env : AdapterEnv) (key : ExecutionKey) (place : ExecutionPlace)
    (s : AdapterStore) :
    (place.Calls ∧ (executionTurn env key place s).1.calls = s.calls ++ [key]) ∨
      (¬place.Calls ∧ (executionTurn env key place s).1.calls = s.calls) := by
  cases place with
  | attempting config attempt => exact .inl ⟨trivial, rfl⟩
  | beginning config =>
    refine .inr ⟨id, ?_⟩
    rw [executionTurn]
    split <;> rfl
  | _ => exact .inr ⟨id, rfl⟩

/-- **The rows of other requests stay.** -/
theorem find?_executionTurn_of_ne {k : ExecutionKey} (h : k ≠ key) :
    (executionTurn env key place s).1.executions.find? k = s.executions.find? k := by
  cases place with
  | beginning config =>
    rw [executionTurn]
    split
    · rename_i executions hinsert
      exact Table.find?_insert_of_ne hinsert h.symm
    · rfl
  | finishing result attemptCount =>
    show (s.executions.update key (.finished result attemptCount)).find? k = _
    rw [Table.find?_update_of_ne h]
  | _ => rfl

theorem mem_executionTurn {execution : ExternalAdapterExecution}
    (h : execution ∈ (executionTurn env key place s).1.executions.rows) :
    execution.key = key ∨ ∃ e ∈ s.executions.rows, e.key = execution.key := by
  by_cases hkey : execution.key = key
  · exact .inl hkey
  · have hfound : s.executions.find? execution.key = some execution :=
      (find?_executionTurn_of_ne hkey).symm.trans (Table.find?_key_of_mem h)
    exact .inr ⟨execution, Table.mem_of_find? hfound, rfl⟩

end UInventario.Integrations
