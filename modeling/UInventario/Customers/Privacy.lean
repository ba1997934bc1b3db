import UInventario.Foundations.Processes
import UInventario.Inventory.ValuationPolicyService

/-!
# Customers and their privacy

What writes a customer: `CustomerRepository` (`create`, `update`, `deactivate`, `configureCredit`)
and `PrivacyService` (`createLegalHold`, `releaseLegalHold`, `anonymize`, and the policy). Sales and
payments on credit are here for what they read of a customer and for the rows that name one.

A request of `CustomerRepository` is one turn, and so are a sale and a payment. A request of
`PrivacyService` first looks at its key without a lock, and this look fixes what all its reads
without a lock see (`Snapshot`); from its first lock on it is one turn.

* Time is in milliseconds, and a fingerprint is what it is the digest of.
* `PrivacyEnv` has the texts' normal forms, the comparison key of a text in a unique key, and what
  the name of an anonymised customer shows of the id.
-/

namespace UInventario.Customers

open Outcome

/-! ### Rows -/

/-- The column `privacy_status`. -/
inductive PrivacyStatus
  | ACTIVE | ANONYMIZED
  deriving DecidableEq

structure Customer where
  id : Uuid
  (name normalizedName : Text)
  (identifier normalizedIdentifier email normalizedEmail phone normalizedPhone : Option Text)
  dataProcessingConsent : Bool
  privacyStatus : PrivacyStatus
  (anonymizedAt privacyRetentionUntil : Option Timestamp)
  active : Bool
  version : ℕ
  deriving DecidableEq

instance : Keyed Customer Uuid := ⟨fun customer ↦ customer.id⟩

structure CreditProfile where
  customerId : Uuid
  enabled : Bool
  creditLimit : ℕ
  currency : Text
  (termDays maxInstallments : ℕ)

instance : Keyed CreditProfile Uuid := ⟨fun profile ↦ profile.customerId⟩

/-- A row of `customer_debt_ledger`: a debit is positive. -/
structure DebtEntry where
  customerId : Uuid
  amount : ℤ

structure CustomerSale where
  customerId : Uuid
  createdAt : Timestamp

structure LegalHold where
  (id customerId : Uuid)
  active : Bool
  reason : Text
  (expiresAt releasedAt : Option Timestamp)
  releaseReason : Option Text

/-- The row of `privacy_policies`. -/
structure PrivacyPolicy where
  (minimumTransactionRetentionDays transactionRetentionDays version : ℕ)

structure PrivacyActionDto where
  reason : Text
  requestReference : Option Text
  deriving DecidableEq

structure CreatePrivacyLegalHoldDto extends PrivacyActionDto where
  expiresAt : Option Timestamp
  deriving DecidableEq

structure UpdatePrivacyPolicyDto extends PrivacyActionDto where
  (transactionRetentionDays expectedVersion : ℕ)
  deriving DecidableEq

/-- The column `request_type`. -/
inductive PrivacyRequestType
  | ACCESS_EXPORT | ANONYMIZATION | LEGAL_HOLD | LEGAL_HOLD_RELEASE | POLICY_CHANGE
  deriving DecidableEq

/-- The column `status` of a request. -/
inductive PrivacyRequestStatus
  | COMPLETED | BLOCKED
  deriving DecidableEq

/-- The column `decision_code`. -/
inductive DecisionCode
  | SUBJECT_DATA_EXPORTED | RETENTION_POLICY_UPDATED
  | LEGAL_HOLD_CREATED | LEGAL_HOLD_ALREADY_ACTIVE | LEGAL_HOLD_RELEASED | NO_ACTIVE_LEGAL_HOLD
  | ACTIVE_LEGAL_HOLD | ALREADY_ANONYMIZED | CUSTOMER_PII_ANONYMIZED

/-- What `fingerprint` digests. -/
inductive Fingerprint
  | policyChange (dto : UpdatePrivacyPolicyDto)
  | legalHold (customerId : Uuid) (dto : CreatePrivacyLegalHoldDto)
  | legalHoldRelease (customerId : Uuid) (dto : PrivacyActionDto)
  | anonymization (customerId : Uuid) (dto : PrivacyActionDto)
  deriving DecidableEq

structure PrivacyRequest where
  id : Uuid
  customerId : Option Uuid
  requestType : PrivacyRequestType
  status : PrivacyRequestStatus
  idempotencyKey : Option Text
  requestFingerprint : Option Fingerprint
  requestReference : Option Text
  decisionCode : DecisionCode
  policyVersion : ℕ
  retentionUntil : Option Timestamp

structure PrivacyEnv where
  /-- `normalize`. -/
  normalize : Text → Text
  /-- `phone`. -/
  phone : Text → Text
  /-- What a unique key compares. -/
  collate : Text → Text
  /-- `customerId.slice(0, 8)`. -/
  head : Uuid → Text

structure CustomerStore where
  customers : Table Customer
  creditProfiles : Table CreditProfile
  debtLedger : List DebtEntry
  sales : List CustomerSale
  holds : List LegalHold
  requests : List PrivacyRequest
  policy : PrivacyPolicy
  now : Timestamp

def CustomerStore.init (policy : PrivacyPolicy) (now : Timestamp) : CustomerStore where
  customers := Table.empty
  creditProfiles := Table.empty
  debtLedger := []
  sales := []
  holds := []
  requests := []
  policy := policy
  now := now

inductive CustomerFailure
  | NotFound
  | CUSTOMER_CONSENT_REQUIRED
  | CUSTOMER_VERSION_CONFLICT
  | CUSTOMER_DUPLICATE
  | CUSTOMER_NOT_AVAILABLE
  | CUSTOMER_CREDIT_NOT_AVAILABLE
  | CUSTOMER_CREDIT_LIMIT_EXCEEDED
  | CUSTOMER_CREDIT_PAYMENT_AMOUNT
  | IDEMPOTENCY_KEY_REQUIRED
  | PRIVACY_LEGAL_HOLD_EXPIRATION_INVALID
  | PRIVACY_IDEMPOTENCY_CONFLICT
  | PRIVACY_POLICY_VERSION_CONFLICT
  | PRIVACY_RETENTION_BELOW_COUNTRY_MINIMUM
  | CUSTOMER_ANONYMIZATION_BLOCKED_BY_LEGAL_HOLD
  | duplicateKey

variable (env : PrivacyEnv)

/-! ### `CustomerRepository` -/

structure SaveCustomerDto where
  name : Text
  (identifier email phone : Option Text)
  dataProcessingConsent : Bool
  active : Option Bool

structure UpdateCustomerDto extends SaveCustomerDto where
  version : ℕ

structure ConfigureCustomerCreditDto where
  enabled : Bool
  creditLimit : ℕ
  currency : Text
  (termDays maxInstallments version : ℕ)

def consent (dto : SaveCustomerDto) : Except CustomerFailure Unit :=
  ensure (¬((dto.email.isSome ∨ dto.phone.isSome) ∧ dto.dataProcessingConsent = false))
    .CUSTOMER_CONSENT_REQUIRED

/-- Two values of a unique key are equal; `NULL` is equal to none. -/
def sameKey : Option Text → Option Text → Bool
  | some x, some y => env.collate x = env.collate y
  | _, _ => false

variable (s : CustomerStore)

/-- A unique key of `customers` refuses a row. -/
def CustomerStore.Duplicate (row : Customer) : Prop :=
  ∃ m ∈ s.customers.rows, m.id ≠ row.id ∧
    (sameKey env m.normalizedIdentifier row.normalizedIdentifier = true ∨
      sameKey env m.normalizedEmail row.normalizedEmail = true ∨
      sameKey env m.normalizedPhone row.normalizedPhone = true)
deriving Decidable

/-- The columns that `create` and `update` write. -/
def SaveCustomerDto.values (dto : SaveCustomerDto) (row : Customer) : Customer :=
  { row with
    name := dto.name, normalizedName := env.normalize dto.name, identifier := dto.identifier,
    normalizedIdentifier := dto.identifier.map env.normalize, email := dto.email,
    normalizedEmail := dto.email, phone := dto.phone, normalizedPhone := dto.phone.map env.phone,
    dataProcessingConsent := dto.dataProcessingConsent, active := dto.active.getD true }

def defaultCustomer (id : Uuid) : Customer where
  id := id
  name := []
  normalizedName := []
  identifier := none
  normalizedIdentifier := none
  email := none
  normalizedEmail := none
  phone := none
  normalizedPhone := none
  dataProcessingConsent := false
  privacyStatus := .ACTIVE
  anonymizedAt := none
  privacyRetentionUntil := none
  active := true
  version := 1

def create (id : Uuid) (dto : SaveCustomerDto) :
    Except CustomerFailure CustomerStore := do
  consent dto
  let row := dto.values env (defaultCustomer id)
  ensure (¬s.Duplicate env row) .CUSTOMER_DUPLICATE
  let customers ← demand (s.customers.insert row) .CUSTOMER_DUPLICATE
  return { s with customers := customers }

/-- What the `UPDATE` of `update` makes of a row. -/
def UpdateCustomerDto.write (dto : UpdateCustomerDto) (row : Customer) : Customer :=
  { dto.toSaveCustomerDto.values env row with version := row.version + 1 }

def update (id : Uuid) (dto : UpdateCustomerDto) :
    Except CustomerFailure CustomerStore := do
  consent dto.toSaveCustomerDto
  let row ← demand (s.customers.find? id) .NotFound
  ensure (row.version = dto.version) .CUSTOMER_VERSION_CONFLICT
  ensure (¬s.Duplicate env (dto.write env row)) .CUSTOMER_DUPLICATE
  return { s with customers := s.customers.update id (dto.write env) }

/-- What the `UPDATE` of `deactivate` makes of a row. -/
def Customer.deactivated (row : Customer) : Customer :=
  if row.active = true then { row with active := false, version := row.version + 1 } else row

theorem Customer.id_deactivated (row : Customer) : row.deactivated.id = row.id := by
  rw [Customer.deactivated]
  split <;> rfl

def deactivate (id : Uuid) : Except CustomerFailure CustomerStore := do
  let _ ← demand (s.customers.find? id) .NotFound
  return { s with customers := s.customers.update id Customer.deactivated Customer.id_deactivated }

def Customer.bump (row : Customer) : Customer :=
  { row with version := row.version + 1 }

def configureCredit (id : Uuid) (dto : ConfigureCustomerCreditDto) :
    Except CustomerFailure CustomerStore := do
  let row ← demand (s.customers.find? id) .NotFound
  ensure (row.version = dto.version) .CUSTOMER_VERSION_CONFLICT
  return { s with
    creditProfiles := s.creditProfiles.put {
      customerId := id, enabled := dto.enabled, creditLimit := dto.creditLimit,
      currency := dto.currency, termDays := dto.termDays, maxInstallments := dto.maxInstallments }
    customers := s.customers.update id Customer.bump }

/-! ### Sales and payments on credit -/

def CustomerStore.balance (customerId : Uuid) : ℤ :=
  ((s.debtLedger.filter fun entry ↦ entry.customerId = customerId).map DebtEntry.amount).sum

structure SaleInput where
  customerId : Uuid
  payable : ℕ
  currency : Text
  /-- The instalments of a sale on credit. -/
  installmentCount : Option ℕ

def takeCredit (input : SaleInput) :
    Except CustomerFailure (List DebtEntry) :=
  match input.installmentCount with
  | none => pure s.debtLedger
  | some installmentCount => do
    let profile ← demand (s.creditProfiles.find? input.customerId) .CUSTOMER_CREDIT_NOT_AVAILABLE
    ensure (profile.enabled = true) .CUSTOMER_CREDIT_NOT_AVAILABLE
    ensure (profile.currency = input.currency) .CUSTOMER_CREDIT_NOT_AVAILABLE
    ensure (installmentCount ≤ profile.maxInstallments) .CUSTOMER_CREDIT_NOT_AVAILABLE
    ensure (s.balance input.customerId + input.payable ≤ profile.creditLimit)
      .CUSTOMER_CREDIT_LIMIT_EXCEEDED
    return s.debtLedger ++ [{ customerId := input.customerId, amount := input.payable }]

/-- `persistSale`, as far as it is about the customer. -/
def persistSale (input : SaleInput) :
    Except CustomerFailure CustomerStore := do
  let customer ← demand (s.customers.find? input.customerId) .CUSTOMER_NOT_AVAILABLE
  ensure (customer.active = true ∧ customer.privacyStatus = .ACTIVE) .CUSTOMER_NOT_AVAILABLE
  let debtLedger ← takeCredit s input
  return { s with
    debtLedger := debtLedger
    sales := s.sales ++ [{ customerId := input.customerId, createdAt := s.now }] }

def payCredit (customerId : Uuid) (amount : ℕ) :
    Except CustomerFailure CustomerStore := do
  let _ ← demand (s.customers.find? customerId) .NotFound
  let _ ← demand (s.creditProfiles.find? customerId) .NotFound
  ensure (0 < amount ∧ (amount : ℤ) ≤ s.balance customerId) .CUSTOMER_CREDIT_PAYMENT_AMOUNT
  return { s with debtLedger := s.debtLedger ++ [{ customerId := customerId, amount := -amount }] }

/-! ### `PrivacyService` -/

structure PrivacyInput (δ : Type) where
  (requestId customerId : Uuid)
  idempotencyKey : Text
  dto : δ

def assertIdempotencyKey (key : Text) : Except CustomerFailure Unit :=
  ensure (8 ≤ key.length ∧ key.length ≤ 128) .IDEMPOTENCY_KEY_REQUIRED

def requestByKey (key : Text) : Option PrivacyRequest :=
  s.requests.find? fun row ↦ sameKey env row.idempotencyKey (some key)

def assertReplay (row : PrivacyRequest) (type : PrivacyRequestType) (fingerprint : Fingerprint) :
    Except CustomerFailure Unit :=
  ensure (row.requestType = type ∧ row.requestFingerprint = some fingerprint)
    .PRIVACY_IDEMPOTENCY_CONFLICT

/-- `insertRequest`: the unique key refuses a key that is there. -/
def insertRequest (row : PrivacyRequest) :
    Except CustomerFailure CustomerStore := do
  ensure (¬∃ m ∈ s.requests, sameKey env m.idempotencyKey row.idempotencyKey = true) .duplicateKey
  return { s with requests := s.requests ++ [row] }

structure Snapshot where
  policy : PrivacyPolicy
  lastSaleAt : Option Timestamp

/-- What the reads of a transaction that begins now will see of a customer. -/
def CustomerStore.snapshot (customerId : Uuid) : Snapshot where
  policy := s.policy
  lastSaleAt := ((s.sales.filter fun sale ↦ sale.customerId = customerId).map
    CustomerSale.createdAt).max?

/-- The first reads of a privacy request: `none` when its key is there already. -/
def look (customerId : Uuid) (key : Text) (type : PrivacyRequestType)
    (fingerprint : Fingerprint) : Except CustomerFailure (Option PrivacyRequest × Snapshot) :=
  match requestByKey env s key with
  | some row => do
    assertReplay row type fingerprint
    return (some row, s.snapshot customerId)
  | none => pure (none, s.snapshot customerId)

def dayLength : ℕ := 86400000

def Snapshot.retentionUntil (seen : Snapshot) : Option Timestamp :=
  seen.lastSaleAt.map fun date ↦ date + seen.policy.transactionRetentionDays * dayLength

/-- What `expireHolds` makes of a hold. -/
def LegalHold.expire (hold : LegalHold) (customerId : Uuid) (now : Timestamp) : LegalHold :=
  if hold.customerId = customerId ∧ hold.active = true ∧ hold.expiresAt.any (· ≤ now) = true then
    { hold with
      active := false, releasedAt := hold.releasedAt.or (some now),
      releaseReason := hold.releaseReason.or (some (textOf "EXPIRED")) }
  else hold

def expireHolds (customerId : Uuid) : CustomerStore :=
  { s with holds := s.holds.map fun hold ↦ hold.expire customerId s.now }

def CustomerStore.activeHold (customerId : Uuid) : Option LegalHold :=
  s.holds.find? fun hold ↦ hold.customerId = customerId ∧ hold.active = true

structure HoldInput extends PrivacyInput CreatePrivacyLegalHoldDto where
  holdId : Uuid

/-- What comes before the first lock of `createLegalHold`. -/
def lookLegalHold (input : HoldInput) :
    Except CustomerFailure (Option Snapshot) := do
  assertIdempotencyKey input.idempotencyKey
  ensure (input.dto.expiresAt.all (s.now < ·) = true) .PRIVACY_LEGAL_HOLD_EXPIRATION_INVALID
  let (row, seen) ← look env s input.customerId input.idempotencyKey .LEGAL_HOLD
    (.legalHold input.customerId input.dto)
  if row.isSome then return none
  let _ ← demand (s.customers.find? input.customerId) .NotFound
  return some seen

/-- The hold that `createLegalHold` inserts. -/
def HoldInput.hold (input : HoldInput) : LegalHold where
  id := input.holdId
  customerId := input.customerId
  active := true
  reason := input.dto.reason
  expiresAt := input.dto.expiresAt
  releasedAt := none
  releaseReason := none

/-- The hold of `createLegalHold`, unless one is there. -/
def putHold (input : HoldInput) : CustomerStore × DecisionCode :=
  match s.activeHold input.customerId with
  | some _ => (s, .LEGAL_HOLD_ALREADY_ACTIVE)
  | none => ({ s with holds := s.holds ++ [input.hold] }, .LEGAL_HOLD_CREATED)

/-- `createLegalHold` from its first lock on. -/
def createLegalHold (input : HoldInput) (seen : Snapshot) :
    Except CustomerFailure CustomerStore :=
  let result := putHold (expireHolds s input.customerId) input
  insertRequest env result.1 {
    id := input.requestId, customerId := some input.customerId, requestType := .LEGAL_HOLD,
    status := .COMPLETED, idempotencyKey := some input.idempotencyKey,
    requestFingerprint := some (.legalHold input.customerId input.dto),
    requestReference := input.dto.requestReference, decisionCode := result.2,
    policyVersion := seen.policy.version, retentionUntil := none }

/-- What comes before the first lock of `releaseLegalHold`. -/
def lookRelease (input : PrivacyInput PrivacyActionDto) :
    Except CustomerFailure (Option Snapshot) := do
  assertIdempotencyKey input.idempotencyKey
  let (row, seen) ← look env s input.customerId input.idempotencyKey .LEGAL_HOLD_RELEASE
    (.legalHoldRelease input.customerId input.dto)
  if row.isSome then return none
  let _ ← demand (s.customers.find? input.customerId) .NotFound
  return some seen

/-- What the `UPDATE` of `releaseLegalHold` makes of a hold. -/
def LegalHold.release (hold : LegalHold) (customerId : Uuid) (reason : Text) (now : Timestamp) :
    LegalHold :=
  if hold.customerId = customerId ∧ hold.active = true then
    { hold with active := false, releasedAt := some now, releaseReason := some reason }
  else hold

/-- `releaseLegalHold` from its first lock on. -/
def releaseLegalHold (input : PrivacyInput PrivacyActionDto)
    (seen : Snapshot) : Except CustomerFailure CustomerStore :=
  let expired := expireHolds s input.customerId
  let released : CustomerStore := { expired with
    holds := expired.holds.map fun hold ↦ hold.release input.customerId input.dto.reason s.now }
  insertRequest env released {
    id := input.requestId
    customerId := some input.customerId
    requestType := .LEGAL_HOLD_RELEASE
    status := .COMPLETED
    idempotencyKey := some input.idempotencyKey
    requestFingerprint := some (.legalHoldRelease input.customerId input.dto)
    requestReference := input.dto.requestReference
    decisionCode :=
      if (expired.activeHold input.customerId).isSome then .LEGAL_HOLD_RELEASED
      else .NO_ACTIVE_LEGAL_HOLD
    policyVersion := seen.policy.version
    retentionUntil := none }

/-- What comes before the first lock of `anonymize`: a request that has been blocked throws again.
-/
def lookAnonymize (input : PrivacyInput PrivacyActionDto) :
    Except CustomerFailure (Option Snapshot) := do
  assertIdempotencyKey input.idempotencyKey
  let (row, seen) ← look env s input.customerId input.idempotencyKey .ANONYMIZATION
    (.anonymization input.customerId input.dto)
  match row with
  | some row =>
    ensure (row.status ≠ .BLOCKED) .CUSTOMER_ANONYMIZATION_BLOCKED_BY_LEGAL_HOLD
    return none
  | none => return some seen

def anonymizedName (id : Uuid) : Text :=
  textOf "Cliente anonimizado " ++ env.head id

/-- What the `UPDATE` of `anonymize` makes of a row. -/
def Customer.anonymize (retentionUntil : Option Timestamp) (now : Timestamp) (row : Customer) :
    Customer :=
  { row with
    name := anonymizedName env row.id,
    normalizedName := textOf "cliente anonimizado " ++ env.head row.id, identifier := none,
    normalizedIdentifier := none, email := none, normalizedEmail := none, phone := none,
    normalizedPhone := none, dataProcessingConsent := false, active := false,
    privacyStatus := .ANONYMIZED, anonymizedAt := some now, privacyRetentionUntil := retentionUntil,
    version := row.version + 1 }

/-- The row of `privacy_requests` of an anonymisation. -/
def PrivacyInput.anonymization (input : PrivacyInput PrivacyActionDto) (seen : Snapshot)
    (status : PrivacyRequestStatus) (decisionCode : DecisionCode) : PrivacyRequest where
  id := input.requestId
  customerId := some input.customerId
  requestType := .ANONYMIZATION
  status := status
  idempotencyKey := some input.idempotencyKey
  requestFingerprint := some (.anonymization input.customerId input.dto)
  requestReference := input.dto.requestReference
  decisionCode := decisionCode
  policyVersion := seen.policy.version
  retentionUntil := seen.retentionUntil

/-- What `anonymize` writes when no hold stands in its way. -/
def writeAnonymized (customer : Customer)
    (input : PrivacyInput PrivacyActionDto) (seen : Snapshot) :
    Except CustomerFailure CustomerStore :=
  if customer.privacyStatus = .ANONYMIZED then
    insertRequest env s (input.anonymization seen .COMPLETED .ALREADY_ANONYMIZED)
  else
    insertRequest env
      { s with
        customers := s.customers.update input.customerId
          (Customer.anonymize env seen.retentionUntil s.now) }
      (input.anonymization seen .COMPLETED .CUSTOMER_PII_ANONYMIZED)

/-- `anonymize` from the lock of the customer's row on: what is committed, and whether the request
has been blocked. -/
def anonymize (input : PrivacyInput PrivacyActionDto) (seen : Snapshot) :
    Except CustomerFailure (CustomerStore × Bool) := do
  let customer ← demand (s.customers.find? input.customerId) .NotFound
  let expired := expireHolds s input.customerId
  match expired.activeHold input.customerId with
  | some _ =>
    let s' ← insertRequest env expired (input.anonymization seen .BLOCKED .ACTIVE_LEGAL_HOLD)
    return (s', true)
  | none =>
    let s' ← writeAnonymized env expired customer input seen
    return (s', false)

structure PolicyInput where
  requestId : Uuid
  idempotencyKey : Text
  dto : UpdatePrivacyPolicyDto

/-- What comes before the lock of `updatePolicy`. -/
def lookPolicy (input : PolicyInput) : Except CustomerFailure Bool := do
  assertIdempotencyKey input.idempotencyKey
  match requestByKey env s input.idempotencyKey with
  | some row =>
    assertReplay row .POLICY_CHANGE (.policyChange input.dto)
    return true
  | none => return false

/-- `updatePolicy` under the lock of the policy's row. -/
def updatePolicy (input : PolicyInput) :
    Except CustomerFailure CustomerStore := do
  ensure (s.policy.version = input.dto.expectedVersion) .PRIVACY_POLICY_VERSION_CONFLICT
  ensure (s.policy.minimumTransactionRetentionDays ≤ input.dto.transactionRetentionDays)
    .PRIVACY_RETENTION_BELOW_COUNTRY_MINIMUM
  insertRequest env
    { s with
      policy := { s.policy with
        transactionRetentionDays := input.dto.transactionRetentionDays
        version := s.policy.version + 1 } }
    { id := input.requestId
      customerId := none
      requestType := .POLICY_CHANGE
      status := .COMPLETED
      idempotencyKey := some input.idempotencyKey
      requestFingerprint := some (.policyChange input.dto)
      requestReference := input.dto.requestReference
      decisionCode := .RETENTION_POLICY_UPDATED
      policyVersion := s.policy.version + 1
      retentionUntil := none }

def recordExport (requestId customerId : Uuid) :
    Except CustomerFailure CustomerStore := do
  let _ ← demand (s.customers.find? customerId) .NotFound
  insertRequest env s {
    id := requestId, customerId := some customerId, requestType := .ACCESS_EXPORT,
    status := .COMPLETED, idempotencyKey := none, requestFingerprint := none,
    requestReference := none, decisionCode := .SUBJECT_DATA_EXPORTED,
    policyVersion := s.policy.version, retentionUntil := none }

/-! ### Requests side by side -/

inductive Request
  | create (id : Uuid) (dto : SaveCustomerDto)
  | update (id : Uuid) (dto : UpdateCustomerDto)
  | deactivate (id : Uuid)
  | configureCredit (id : Uuid) (dto : ConfigureCustomerCreditDto)
  | sale (input : SaleInput)
  | payCredit (customerId : Uuid) (amount : ℕ)
  | createLegalHold (input : HoldInput)
  | releaseLegalHold (input : PrivacyInput PrivacyActionDto)
  | anonymize (input : PrivacyInput PrivacyActionDto)
  | updatePolicy (input : PolicyInput)
  | recordExport (requestId customerId : Uuid)
  /-- Time passes. -/
  | elapse (milliseconds : ℕ)

inductive Process
  | asked (request : Request)
  | holding (input : HoldInput) (seen : Snapshot)
  | releasing (input : PrivacyInput PrivacyActionDto) (seen : Snapshot)
  | anonymizing (input : PrivacyInput PrivacyActionDto) (seen : Snapshot)
  | changingPolicy (input : PolicyInput)
  | answered (failure : Option CustomerFailure)

/-- A transaction commits, or it is rolled back and the request ends with what it has thrown. -/
def commit : Except CustomerFailure CustomerStore → CustomerStore × Process
  | .ok s' => (s', .answered none)
  | .error failure => (s, .answered (some failure))

def proceed (next : Snapshot → Process) :
    Except CustomerFailure (Option Snapshot) → CustomerStore × Process
  | .ok (some seen) => (s, next seen)
  | .ok none => (s, .answered none)
  | .error failure => (s, .answered (some failure))

/-- The end of `anonymize`: a request that has been blocked throws once this is committed. -/
def commitAnonymize :
    Except CustomerFailure (CustomerStore × Bool) → CustomerStore × Process
  | .ok (s', false) => (s', .answered none)
  | .ok (s', true) => (s', .answered (some .CUSTOMER_ANONYMIZATION_BLOCKED_BY_LEGAL_HOLD))
  | .error failure => (s, .answered (some failure))

def firstTurn (request : Request) (s : CustomerStore) : CustomerStore × Process :=
  match request with
  | .create id dto => commit s (create env s id dto)
  | .update id dto => commit s (update env s id dto)
  | .deactivate id => commit s (deactivate s id)
  | .configureCredit id dto => commit s (configureCredit s id dto)
  | .sale input => commit s (persistSale s input)
  | .payCredit customerId amount => commit s (payCredit s customerId amount)
  | .createLegalHold input => proceed s (.holding input) (lookLegalHold env s input)
  | .releaseLegalHold input => proceed s (.releasing input) (lookRelease env s input)
  | .anonymize input => proceed s (.anonymizing input) (lookAnonymize env s input)
  | .updatePolicy input =>
    match lookPolicy env s input with
    | .ok true => (s, .answered none)
    | .ok false => (s, .changingPolicy input)
    | .error failure => (s, .answered (some failure))
  | .recordExport requestId customerId => commit s (recordExport env s requestId customerId)
  | .elapse milliseconds => ({ s with now := s.now + milliseconds }, .answered none)

def turn (p : Process) (s : CustomerStore) : CustomerStore × Process :=
  match p with
  | .asked request => firstTurn env request s
  | .holding input seen => commit s (createLegalHold env s input seen)
  | .releasing input seen => commit s (releaseLegalHold env s input seen)
  | .anonymizing input seen => commitAnonymize s (anonymize env s input seen)
  | .changingPolicy input => commit s (updatePolicy env s input)
  | .answered failure => (s, .answered failure)

/-- **The system.** -/
def system : Processes.System CustomerStore Process Request where
  start := .asked
  turn := turn env

end UInventario.Customers
