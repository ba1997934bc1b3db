import UInventario.Fiscal.SaleDocuments
import UInventario.Foundations.Prefixes
import UInventario.Integrations.AdapterExecutions

/-!
# Fiscal documents by e-mail

`send` of `SaleFiscalDocumentService` hands the document of a sale to the adapter for e-mails, under
a key made of the sale and the caller's key. When the execution has come to a success, the audit
gets a record of the document and its recipient, and so does the caller.

A call whose key is taken is answered from the execution that is there, which remembers neither
recipient nor content. So the record is true exactly when the e-mail that is asked for has been
delivered by then (`AsksForDelivered`); `second_recipient` is told of and has got nothing. Calls
come one after the other, and documents and configuration change between them.
-/

namespace UInventario.Fiscal

open Integrations Outcome List

structure Email where
  (recipient title body : Text)
  deriving DecidableEq

/-- What comes from outside. Some calls deliver although they do not say so. -/
structure MailEnv extends AdapterEnv where
  deliversAnyway : ℕ → Bool
  hash : Uuid → Text → Text
  uuidText : Uuid → Text

/-- `SALE_FISCAL_DOCUMENT_SENT`, with what is hashed of the recipient. -/
structure SentRecord where
  documentId : Uuid
  email : Email

/-- The tables, the number of calls of the adapter and what it has delivered. -/
structure MailStore where
  fiscal : FiscalStore
  configs : Table ExternalAdapterConfig
  executions : Table ExternalAdapterExecution
  calls : ℕ
  delivered : List Email
  sent : List SentRecord

inductive MailFailure
  | IDEMPOTENCY_KEY_REQUIRED | NotFound | FISCAL_DOCUMENT_NOT_DELIVERABLE
  | ADAPTER_CONFIG_NOT_FOUND
  | badGateway (code : Text)

structure SendInput where
  (branchId saleId : Uuid)
  (idempotencyKey recipient : Text)

/-- `data.delivery` of the answer. -/
structure Delivery where
  recipient : Text
  messageId : Option Text

def artifacts (env : MailEnv) (document : SaleFiscalDocument) : List (Text × Text) :=
  if document.status = .ACCEPTED ∨ document.status = .CANCELLED then
    [textOf "PDF", textOf "XML"].map fun kind ↦
      (kind, textOf "/pos/sales/" ++ env.uuidText document.saleId ++
        textOf "/fiscal-document/artifacts/" ++ kind)
  else []

/-- `content` of an accepted document. -/
def email (env : MailEnv) (document : SaleFiscalDocument) (recipient : Text) : Email where
  recipient := recipient
  title := textOf "Documento fiscal " ++ document.receiptNumber
  body := (textOf "\n").intercalate <| [textOf "Documento fiscal " ++ document.documentType,
      textOf "Venta: " ++ document.receiptNumber,
      textOf "Estado: ACCEPTED",
      textOf "Referencia del proveedor: " ++ document.providerReference.getD (textOf "null"),
      [],
      textOf "PDF y XML están disponibles mediante los enlaces autenticados de UInventario."] ++
    (artifacts env document).map fun artifact ↦ artifact.1 ++ textOf ": " ++ artifact.2

def operationKey (env : MailEnv) (input : SendInput) : ExecutionKey where
  capability := .NOTIFICATION_EMAIL
  idempotencyKey := textOf "sale-fiscal-email-" ++ env.hash input.saleId input.idempotencyKey

/-- The attempts of `execute`, at most `remaining` of them; `last` is what the one before came to.
-/
def attempts (env : MailEnv) (mail : Email) :
    ℕ → AttemptResult → MailStore → MailStore × AttemptResult
  | 0, last, s => (s, last)
  | remaining + 1, _, s =>
    let result := (env.answers s.calls).result
    let s' := { s with
      calls := s.calls + 1
      delivered := if result.status = .SUCCEEDED ∨ env.deliversAnyway s.calls = true then
        s.delivered ++ [mail] else s.delivered }
    if result.status.ends then (s', result) else attempts env mail remaining result s'

/-- What `execute` does once its row is there. -/
def executeNew (env : MailEnv) (config : ExternalAdapterConfig) (mail : Email) (s : MailStore) :
    MailStore × AttemptResult :=
  match executionPlan env.toAdapterEnv config with
  | .attempting config _ => attempts env mail config.maxAttempts AdapterAnswer.threw.result s
  | .finishing result _ => (s, result)
  | _ => (s, AdapterAnswer.threw.result)

/-- `execute` of the adapters. -/
def execute (env : MailEnv) (config : ExternalAdapterConfig) (key : ExecutionKey) (mail : Email)
    (s : MailStore) : MailStore × AttemptResult :=
  match s.executions.insert (pendingExecution key) with
  | none => (s, ((s.executions.find? key).map ExternalAdapterExecution.result).getD
      (pendingExecution key).result)
  | some executions =>
    let (s', result) := executeNew env config mail { s with executions := executions }
    ({ s' with executions := s'.executions.update key (.finished result (s'.calls - s.calls)) },
      result)

def send (env : MailEnv) (s : MailStore) (input : SendInput) :
    MailStore × Except MailFailure Delivery :=
  if isIdempotencyKey input.idempotencyKey = false then (s, .error .IDEMPOTENCY_KEY_REQUIRED)
  else match s.fiscal.get input.branchId input.saleId with
    | none => (s, .error .NotFound)
    | some document =>
      if document.simulatorDocumentId = none then (s, .error .NotFound)
      else if document.status ≠ .ACCEPTED then (s, .error .FISCAL_DOCUMENT_NOT_DELIVERABLE)
      else match s.configs.find? .NOTIFICATION_EMAIL with
        | none => (s, .error .ADAPTER_CONFIG_NOT_FOUND)
        | some config =>
          let mail := email env document input.recipient
          let (s, result) := execute env config (operationKey env input) mail s
          if result.status ≠ .SUCCEEDED then
            (s, .error (.badGateway (result.errorCode.getD (textOf "EMAIL_DELIVERY_FAILED"))))
          else ({ s with sent := s.sent ++ [⟨document.id, mail⟩] },
            .ok { recipient := input.recipient, messageId := result.providerReference })

/-- A call, or what the rest of the application does to what it reads. -/
inductive MailEvent
  | send (input : SendInput)
  | elsewhere (fiscal : FiscalStore) (configs : Table ExternalAdapterConfig)

def mailStep (env : MailEnv) (s : MailStore) : MailEvent → Except Empty MailStore
  | .send input => .ok (send env s input).1
  | .elsewhere fiscal configs => .ok { s with fiscal := fiscal, configs := configs }

def MailStore.opening (fiscal : FiscalStore) (configs : Table ExternalAdapterConfig) : MailStore
    where
  fiscal := fiscal
  configs := configs
  executions := Table.empty
  calls := 0
  delivered := []
  sent := []

/-! ### What is recorded -/

/-- **What is recorded is delivered.** -/
def Honest (s : MailStore) : Prop :=
  ∀ record ∈ s.sent, record.email ∈ s.delivered

/-- **A call that is answered from a successful execution asks for a delivered e-mail.** -/
def AsksForDelivered (env : MailEnv) (s : MailStore) : MailEvent → Prop
  | .elsewhere _ _ => True
  | .send input => ∀ document config execution, isIdempotencyKey input.idempotencyKey = true →
      s.fiscal.get input.branchId input.saleId = some document →
      document.simulatorDocumentId ≠ none → document.status = .ACCEPTED →
      s.configs.find? .NOTIFICATION_EMAIL = some config →
      s.executions.find? (operationKey env input) = some execution →
      execution.result.status = .SUCCEEDED → email env document input.recipient ∈ s.delivered

variable {env : MailEnv} {s s' : MailStore} {mail : Email} {result : AttemptResult}
  {config : ExternalAdapterConfig} {key : ExecutionKey}

/-- An execution delivers and records nothing; when it succeeds it has delivered the e-mail. -/
structure Delivers (mail : Email) (s : MailStore) (r : MailStore × AttemptResult) : Prop where
  sent : r.1.sent = s.sent
  grows : s.delivered ⊆ r.1.delivered
  succeeded : r.2.status = .SUCCEEDED → mail ∈ r.1.delivered

theorem attempts_delivers (env : MailEnv) (mail : Email) (remaining : ℕ) :
    ∀ {last : AttemptResult} {s : MailStore}, last.status ≠ .SUCCEEDED →
      Delivers mail s (attempts env mail remaining last s) := by
  induction remaining with
  | zero => exact fun hlast ↦ ⟨rfl, fun _ h ↦ h, fun h ↦ absurd h hlast⟩
  | succ remaining ih =>
    intro last s _
    rw [attempts]
    have hgrows : s.delivered ⊆ if (env.answers s.calls).result.status = .SUCCEEDED ∨
        env.deliversAnyway s.calls = true then s.delivered ++ [mail] else s.delivered := by
      split
      · exact subset_append_left _ _
      · exact fun _ h ↦ h
    split
    case isTrue =>
      refine ⟨rfl, hgrows, fun h ↦ ?_⟩
      rw [if_pos (Or.inl h)]
      exact mem_append_right _ mem_cons_self
    case isFalse hgoes =>
      obtain ⟨hsent, hgrown, hsucceeded⟩ := ih
        (s := { s with
          calls := s.calls + 1
          delivered := if (env.answers s.calls).result.status = .SUCCEEDED ∨
            env.deliversAnyway s.calls = true then s.delivered ++ [mail] else s.delivered })
        fun h ↦ hgoes (Or.inl h)
      exact ⟨hsent, fun _ h ↦ hgrown (hgrows h), hsucceeded⟩

theorem executeNew_delivers (config : ExternalAdapterConfig) :
    Delivers mail s (executeNew env config mail s) := by
  have hthrew : AdapterAnswer.threw.result.status ≠ .SUCCEEDED := nofun
  have hnothing : ∀ {result : AttemptResult}, result.status ≠ .SUCCEEDED →
      Delivers mail s (s, result) := fun h ↦ ⟨rfl, fun _ h ↦ h, fun h' ↦ absurd h' h⟩
  rw [executeNew, executionPlan]
  split_ifs
  · exact hnothing nofun
  · exact hnothing nofun
  · exact attempts_delivers env mail _ hthrew
  · exact hnothing hthrew

/-- **An execution under a new key.** -/
theorem execute_new
    (h : s.executions.find? key = none) : Delivers mail s (execute env config key mail s) := by
  obtain ⟨executions, hinsert⟩ := Table.insert_isSome (r := pendingExecution key) h
  rw [execute, hinsert]
  obtain ⟨hsent, hgrows, hsucceeded⟩ : Delivers mail { s with executions := executions }
      (executeNew env config mail { s with executions := executions }) :=
    executeNew_delivers config
  exact ⟨hsent, hgrows, hsucceeded⟩

/-- **An execution under a key that is taken** is the one that is there. -/
theorem execute_taken
    {execution : ExternalAdapterExecution} (h : s.executions.find? key = some execution) :
    execute env config key mail s = (s, execution.result) := by
  have hinsert : s.executions.insert (pendingExecution key) = none := by
    cases hinsert : s.executions.insert (pendingExecution key) with
    | none => rfl
    | some executions =>
      have hfree : s.executions.find? key = none := (Table.insert_eq_some hinsert).1
      rw [h] at hfree
      cases hfree
  rw [execute, hinsert, h]
  rfl

theorem honest_record_iff {documentId : Uuid} (hs : Honest s) :
    Honest { s with sent := s.sent ++ [⟨documentId, mail⟩] } ↔ mail ∈ s.delivered := by
  rw [Honest, forall_mem_append]
  refine (and_iff_right hs).trans ?_
  rw [forall_mem_singleton]

theorem honest_of_delivers {r : MailStore × AttemptResult} (hs : Honest s)
    (hr : Delivers mail s r) : Honest r.1 := by
  intro record hrecord
  rw [hr.sent] at hrecord
  exact hr.grows (hs record hrecord)

/-- What `send` does when the request is accepted. -/
theorem honest_accepted_iff {document : SaleFiscalDocument}
    {input : SendInput} (hs : Honest s) (haccepted : isIdempotencyKey input.idempotencyKey = true)
    (hdocument : s.fiscal.get input.branchId input.saleId = some document)
    (hsimulator : document.simulatorDocumentId ≠ none) (hstatus : document.status = .ACCEPTED)
    (hconfig : s.configs.find? .NOTIFICATION_EMAIL = some config) :
    Honest (send env s input).1 ↔ AsksForDelivered env s (.send input) := by
  have hasks : AsksForDelivered env s (.send input) ↔
      ∀ execution, s.executions.find? (operationKey env input) = some execution →
        execution.result.status = .SUCCEEDED →
          email env document input.recipient ∈ s.delivered := by
    constructor
    · intro h execution
      exact h document config execution haccepted hdocument hsimulator hstatus hconfig
    · intro h document' _ execution _ hdocument' _ _ _
      obtain rfl : document = document' := Option.some.inj (hdocument.symm.trans hdocument')
      exact h execution
  rw [hasks, send, if_neg (by simp [haccepted]), hdocument]
  simp only [if_neg hsimulator, if_neg (not_not.mpr hstatus), hconfig]
  cases hfind : s.executions.find? (operationKey env input) with
  | none =>
    have hnew : Delivers (email env document input.recipient) s (execute env config
        (operationKey env input) (email env document input.recipient) s) :=
      execute_new hfind
    have hkept := honest_of_delivers hs hnew
    refine iff_of_true ?_ (by rintro _ ⟨⟩)
    split
    · exact hkept
    case isFalse hsucceeded =>
      exact (honest_record_iff hkept).mpr (hnew.succeeded (not_not.mp hsucceeded))
  | some execution =>
    rw [execute_taken hfind]
    by_cases hsucceeded : execution.result.status = .SUCCEEDED
    · rw [if_neg (not_not.mpr hsucceeded)]
      refine (honest_record_iff hs).trans ⟨fun h _ _ _ ↦ h, fun h ↦ h execution rfl hsucceeded⟩
    · rw [if_pos hsucceeded]
      refine iff_of_true hs fun other hother hstatus ↦ ?_
      obtain rfl : execution = other := Option.some.inj hother
      exact absurd hstatus hsucceeded

/-- **One event.** -/
theorem honest_mailStep_iff {event : MailEvent} (hs : Honest s)
    (h : mailStep env s event = .ok s') : Honest s' ↔ AsksForDelivered env s event := by
  cases event with
  | elsewhere fiscal configs =>
    cases h
    exact iff_of_true hs trivial
  | send input =>
    cases h
    by_cases haccepted : ∃ document config, isIdempotencyKey input.idempotencyKey = true ∧
        s.fiscal.get input.branchId input.saleId = some document ∧
        document.simulatorDocumentId ≠ none ∧ document.status = .ACCEPTED ∧
        s.configs.find? .NOTIFICATION_EMAIL = some config
    case pos =>
      obtain ⟨document, config, hkey, hdocument, hsimulator, hstatus, hconfig⟩ := haccepted
      exact honest_accepted_iff hs hkey hdocument hsimulator hstatus hconfig
    case neg =>
      have hasks : AsksForDelivered env s (.send input) :=
        fun document config _ hkey hdocument hsimulator hstatus hconfig _ _ ↦
          absurd ⟨document, config, hkey, hdocument, hsimulator, hstatus, hconfig⟩ haccepted
      have hrefused : (send env s input).1 = s := by
        rw [send]
        split_ifs with hkey
        · rfl
        cases hdocument : s.fiscal.get input.branchId input.saleId with
        | none => rfl
        | some document =>
          dsimp only
          split_ifs with hsimulator hstatus
          · rfl
          · rfl
          cases hconfig : s.configs.find? .NOTIFICATION_EMAIL with
          | none => rfl
          | some config =>
            exact absurd ⟨document, config, Bool.not_eq_false _ ▸ hkey, hdocument, hsimulator,
              not_not.mp hstatus, hconfig⟩ haccepted
      rw [hrefused]
      exact iff_of_true hs hasks

/-- **When what is recorded is delivered**: when no call is answered from an e-mail that has not
been delivered. -/
theorem sent_delivered_iff (env : MailEnv) (fiscal : FiscalStore)
    (configs : Table ExternalAdapterConfig) (events : List MailEvent) :
    (∀ reached, reached <+: events →
      Honest (run (mailStep env) (MailStore.opening fiscal configs) reached)) ↔
      Along (mailStep env) (Accepted (mailStep env) (AsksForDelivered env))
        (MailStore.opening fiscal configs) events :=
  forall_prefix_iff_along (I := fun _ ↦ True) (fun _ _ _ _ _ ↦ trivial)
    (fun _ _ _ _ hs h ↦ honest_mailStep_iff hs h) trivial (fun _ h ↦ absurd h List.not_mem_nil)
      events

/-! ### A second recipient -/

def obliging : MailEnv where
  registered _ _ _ := true
  answers _ := .SUCCEEDED (textOf "1")
  deliversAnyway _ := false
  hash _ key := key
  uuidText id := [id]

def acceptedDocument : SaleFiscalDocument where
  id := 1
  saleId := 1
  branchId := 1
  receiptNumber := textOf "F-1"
  documentType := textOf "INVOICE"
  scenario := .SUCCESS
  status := .ACCEPTED
  simulatorDocumentId := some 1
  providerReference := some (textOf "SIM-1")
  errorCode := none
  providerIdempotencyKey := ⟨1, textOf "issue-01"⟩
  requestFingerprint := ⟨1, textOf "INVOICE", .SUCCESS⟩
  events := []

def withDocument : MailStore :=
  .opening
    { FiscalStore.unissued Table.empty none with documents := ⟨[acceptedDocument], by simp⟩ }
    ⟨[⟨.NOTIFICATION_EMAIL, textOf "SIMULATOR", textOf "1", true, 3⟩], by simp⟩

/-- **One key, two recipients**: both calls succeed, both recipients are recorded, and the second
one has got nothing. -/
theorem second_recipient :
    let s := run (mailStep obliging) withDocument
      [.send ⟨1, 1, textOf "send-001", textOf "a@x.mx"⟩,
        .send ⟨1, 1, textOf "send-001", textOf "b@x.mx"⟩]
    s.sent.map (fun record ↦ (record.documentId, record.email.recipient)) =
        [(1, textOf "a@x.mx"), (1, textOf "b@x.mx")] ∧
      s.delivered.map Email.recipient = [textOf "a@x.mx"] := by
  decide +kernel

end UInventario.Fiscal
