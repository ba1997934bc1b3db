import UInventario.Integrations.Whatsapp

/-!
# Runs of WhatsApp messages

What holds in any interleaving of requests, each of which may crash between its transactions.

* At most twenty messages of a customer are begun in any hour (`RateKept`): `begin` counts and
  inserts under the lock of the tenant.
* A message is handed to the adapter for a customer that has opted in (`Consented`) when no opt-out
  commits between `begin` and the last call of the adapter.
* The status of a message is the highest that has been reported (`StatusFollows`) when events come
  after `finish` and are not older than it: `finish` stamps the message with the clock of the
  database, and before it there is no message for the event.
-/

namespace UInventario.Integrations

open Outcome Processes Table List

variable {env : WhatsappEnv} {s s' : WhatsappStore} {p q : WhatsappProcess}
  {st st' : State WhatsappStore WhatsappProcess} {input : WebhookInput}
  {messageId id customerId : Uuid} {result : AttemptResult}

/-! ### Twenty in an hour -/

/-- **At most twenty messages of a customer are begun in any hour.** -/
def RateKept (s : WhatsappStore) : Prop :=
  ∀ (customerId : Uuid) (t : Timestamp), (s.messages.rows.filter fun m ↦
    m.customerId = customerId ∧ t ≤ m.createdAt ∧ m.createdAt ≤ t + hour).length ≤ 20

def WhatsappStore.stamps (s : WhatsappStore) : List (Uuid × Timestamp) :=
  s.messages.rows.map fun m ↦ (m.customerId, m.createdAt)

theorem length_filter_stamps (f : Uuid × Timestamp → Bool) : (s.stamps.filter f).length =
      (s.messages.rows.filter fun m ↦ f (m.customerId, m.createdAt)).length := by
  rw [WhatsappStore.stamps, filter_map, length_map]
  rfl

theorem RateKept.of_stamps (h : RateKept s) (hstamps : s'.stamps = s.stamps) : RateKept s' := by
  intro customerId t
  have hs := length_filter_stamps (s := s)
    fun x ↦ decide (x.1 = customerId ∧ t ≤ x.2 ∧ x.2 ≤ t + hour)
  have hs' := length_filter_stamps (s := s')
    fun x ↦ decide (x.1 = customerId ∧ t ≤ x.2 ∧ x.2 ≤ t + hour)
  rw [hstamps, hs] at hs'
  exact hs' ▸ h customerId t

theorem stamps_update {f : WhatsappMessage → WhatsappMessage}
    (hf : ∀ m, (f m).id = m.id) (hstamp : ∀ m, (f m).customerId = m.customerId ∧
      (f m).createdAt = m.createdAt) :
    ((s.messages.update id f hf).rows.map fun m ↦ (m.customerId, m.createdAt)) = s.stamps := by
  rw [WhatsappStore.stamps, rows_update, map_map]
  refine map_congr_left fun m _ ↦ ?_
  show ((if Keyed.key m = id then f m else m).customerId,
    (if Keyed.key m = id then f m else m).createdAt) = (m.customerId, m.createdAt)
  split
  · rw [(hstamp m).1, (hstamp m).2]
  · rfl

theorem insertMessage_eq_ok {input : SendInput} (h : insertMessage env s input = .ok s') :
    s.OptedIn input.customerId ∧ (s.recent input.customerId).length < 20 ∧
      ∃ messages, s.messages.insert (input.row env (s.now + input.elapsed)) = some messages ∧
        s' = { s with now := s.now + input.elapsed, messages := messages } := by
  simp only [insertMessage, eq_ok] at h
  obtain ⟨_, -, _, -, _, hopted, _, hrecent, messages, hmessages, rfl⟩ := h
  exact ⟨hopted, hrecent, messages, hmessages, rfl⟩

theorem begin_cases {input : SendInput} {replay : Bool}
    (h : «begin» env s input = .ok (s', replay)) :
    (s' = s ∧ replay = true) ∨ (replay = false ∧ insertMessage env s input = .ok s') := by
  simp only [«begin», eq_ok] at h
  obtain ⟨_, -, h⟩ := h
  split at h
  · simp only [eq_ok, Prod.mk.injEq] at h
    obtain ⟨_, -, rfl, rfl⟩ := h
    exact .inl ⟨rfl, rfl⟩
  · simp only [eq_ok, Prod.mk.injEq] at h
    obtain ⟨t, hinsert, rfl, rfl⟩ := h
    exact .inr ⟨rfl, hinsert⟩

/-- **A message that is begun** is one of twenty in every hour. -/
theorem RateKept.inserted (h : RateKept s) {input : SendInput}
    (hok : insertMessage env s input = .ok s') : RateKept s' := by
  obtain ⟨-, hrecent, messages, hinsert, rfl⟩ := insertMessage_eq_ok hok
  obtain ⟨-, hrows⟩ := insert_eq_some hinsert
  intro customerId t
  rw [hrows, filter_append, length_append]
  by_cases hin : input.customerId = customerId ∧ t ≤ s.now + input.elapsed ∧
      s.now + input.elapsed ≤ t + hour
  · -- what is in the hour with the new row has been counted
    have hcounted : (s.messages.rows.filter fun m ↦
        m.customerId = customerId ∧ t ≤ m.createdAt ∧ m.createdAt ≤ t + hour).length ≤
        (s.recent input.customerId).length := by
      refine (monotone_filter_right s.messages.rows fun m hm ↦ ?_).length_le
      rw [decide_eq_true_eq] at hm ⊢
      refine ⟨hm.1.trans hin.1.symm, ?_⟩
      have hlate : t ≤ m.createdAt := hm.2.1
      have hnew : s.now + input.elapsed ≤ t + hour := hin.2.2
      calc s.now
        _ ≤ s.now + input.elapsed := Nat.le_add_right _ _
        _ ≤ t + hour := hnew
        _ ≤ m.createdAt + hour := Nat.add_le_add_right hlate _
    have hone : ([input.row env (s.now + input.elapsed)].filter fun m ↦
        m.customerId = customerId ∧ t ≤ m.createdAt ∧ m.createdAt ≤ t + hour).length ≤ 1 :=
      length_filter_le _ _
    refine (Nat.add_le_add hcounted hone).trans ?_
    exact Nat.succ_le_of_lt hrecent
  · have hnone : ([input.row env (s.now + input.elapsed)].filter fun m ↦
        m.customerId = customerId ∧ t ≤ m.createdAt ∧ m.createdAt ≤ t + hour) = [] := by
      refine filter_eq_nil_iff.mpr fun m hm ↦ ?_
      rw [mem_singleton.mp hm, decide_eq_true_eq]
      exact hin
    rw [hnone]
    exact h customerId t

theorem finish_eq_ok (h : finish env s id result = .ok s') :
    (∀ reference ∈ result.providerReference, ∀ m ∈ s.webhookTarget env reference, m.id = id) ∧
      s' = { s with messages := s.messages.update id (WhatsappMessage.finished result s.now) } := by
  simp only [finish, eq_ok] at h
  obtain ⟨_, hunique, rfl⟩ := h
  exact ⟨hunique, rfl⟩

theorem webhook_cases (h : webhook env s input messageId = .ok s') :
    s' = s ∨ ∃ row, s.eventOf env input.providerEventId = none ∧
      s.messages.find? messageId = some row ∧
      ((input.Ignored row ∧ s' = { s with events := s.events ++ [input.event messageId true] }) ∨
      (¬input.Ignored row ∧ s' = { s with
        events := s.events ++ [input.event messageId false]
        messages := s.messages.update messageId (WhatsappMessage.reported input) })) := by
  unfold webhook at h
  split at h
  · simp only [eq_ok] at h
    obtain ⟨_, -, rfl⟩ := h
    exact .inl rfl
  · rename_i hnew
    simp only [recordWebhook, eq_ok] at h
    obtain ⟨row, hrow, h⟩ := h
    split at h
    · rename_i hignored
      rw [pure_eq_ok] at h
      exact .inr ⟨row, hnew, hrow, .inl ⟨hignored, h.symm⟩⟩
    · rename_i hignored
      rw [pure_eq_ok] at h
      exact .inr ⟨row, hnew, hrow, .inr ⟨hignored, h.symm⟩⟩

theorem lastStep_cases (result : Except WhatsappFailure WhatsappStore) :
    (∃ e, result = .error e ∧ lastStep s result = (s, .answered (some e))) ∨
      ∃ s', result = .ok s' ∧ lastStep s result = (s', .answered none) := by
  cases result with
  | error e => exact .inl ⟨e, rfl, rfl⟩
  | ok s' => exact .inr ⟨s', rfl, rfl⟩

/-- **What a turn writes**: a message that begins, or what is neither the customer of one nor its
beginning. Consents are written by the requests for them. -/
theorem turn_cases (env : WhatsappEnv) (p : WhatsappProcess) (s : WhatsappStore) :
    (∃ input, insertMessage env s input = .ok (whatsappTurn env p s).1) ∨
      (whatsappTurn env p s).1.stamps = s.stamps ∧ ((whatsappTurn env p s).1.consents = s.consents ∨
          ∃ customerId enabled, p = .writingConsent customerId enabled) := by
  cases p with
  | beginning input =>
    rw [whatsappTurn]
    split
    · rename_i s' replay hok
      rcases begin_cases hok with ⟨rfl, -⟩ | ⟨-, hinsert⟩
      · exact .inr ⟨rfl, .inl rfl⟩
      · exact .inl ⟨input, hinsert⟩
    · exact .inr ⟨rfl, .inl rfl⟩
  | finishing input result =>
    rw [whatsappTurn]
    rcases lastStep_cases (s := s) (finish env s input.id result) with ⟨e, -, heq⟩ | ⟨s', hok, heq⟩
    · rw [heq]
      exact .inr ⟨rfl, .inl rfl⟩
    · rw [heq]
      obtain ⟨-, rfl⟩ := finish_eq_ok hok
      exact .inr ⟨stamps_update (f := WhatsappMessage.finished result s.now) (fun _ ↦ rfl)
        fun _ ↦ ⟨rfl, rfl⟩, .inl rfl⟩
  | receiving input messageId =>
    rw [whatsappTurn]
    rcases lastStep_cases (s := s) (webhook env s input messageId) with ⟨e, -, heq⟩ | ⟨s', hok, heq⟩
    · rw [heq]
      exact .inr ⟨rfl, .inl rfl⟩
    · rw [heq]
      rcases webhook_cases hok with rfl | ⟨row, -, -, ⟨-, rfl⟩ | ⟨-, rfl⟩⟩
      · exact .inr ⟨rfl, .inl rfl⟩
      · exact .inr ⟨rfl, .inl rfl⟩
      · exact .inr ⟨stamps_update (f := WhatsappMessage.reported input) (fun _ ↦ rfl)
          fun _ ↦ ⟨rfl, rfl⟩, .inl rfl⟩
  | writingConsent customerId enabled => exact .inr ⟨rfl, .inr ⟨_, _, rfl⟩⟩
  | _ => exact .inr ⟨rfl, .inl rfl⟩

theorem RateKept.turn (h : RateKept s) : RateKept (whatsappTurn env p s).1 := by
  rcases turn_cases env p s with ⟨input, hinsert⟩ | ⟨hstamps, -⟩
  · exact h.inserted hinsert
  · exact h.of_stamps hstamps

/-! ### Consents -/

def WhatsappProcess.Sending (customerId : Uuid) : WhatsappProcess → Prop
  | .executing input .configuring => input.customerId = customerId
  | .executing input (.beginning _) => input.customerId = customerId
  | .executing input (.attempting _ _) => input.customerId = customerId
  | _ => False

def consenting : Outline WhatsappStore WhatsappProcess where
  Inv _ := True
  At p s := ∀ customerId, p.Sending customerId → s.OptedIn customerId
  Apart _ _ := True
  symm _ := trivial

/-- **The condition on opt-outs**: none commits while a message of the customer may be handed to the
adapter yet. -/
def WhatsappProcess.OptOutWaits (st : State WhatsappStore WhatsappProcess) : WhatsappProcess → Prop
  | .writingConsent customerId false => ∀ q ∈ st.processes, ¬q.Sending customerId
  | _ => True

abbrev OptOutWaits : State WhatsappStore WhatsappProcess → Event WhatsappRequest → Prop :=
  AtTurn fun st p ↦ p.OptOutWaits st

/-- **A message is handed to the adapter** for a customer that has opted in. -/
def Consented (st : State WhatsappStore WhatsappProcess) : Event WhatsappRequest → Prop
  | .start _ => True
  | .turn n => ∀ input config attempt,
    st.processes[n]? = some (.executing input (.attempting config attempt)) →
      st.store.OptedIn input.customerId

theorem consents_turn (hp : ∀ customerId enabled, p ≠ .writingConsent customerId enabled) :
    (whatsappTurn env p s).1.consents = s.consents := by
  rcases turn_cases env p s with ⟨input, hinsert⟩ | ⟨-, hsame | ⟨customerId, enabled, rfl⟩⟩
  · obtain ⟨-, -, messages, -, heq⟩ := insertMessage_eq_ok hinsert
    rw [heq]
  · exact hsame
  · exact absurd rfl (hp customerId enabled)

theorem optedIn_turn (h : s.OptedIn customerId)
    (hp : p ≠ .writingConsent customerId false) : (whatsappTurn env p s).1.OptedIn customerId := by
  by_cases hwrites : ∃ c enabled, p = .writingConsent c enabled
  · obtain ⟨c, enabled, rfl⟩ := hwrites
    obtain ⟨consent, hconsent, hstatus⟩ := h
    by_cases hc : c = customerId
    · subst hc
      have henabled : enabled = true := by
        cases enabled with
        | false => exact absurd rfl hp
        | true => rfl
      subst henabled
      refine ⟨{ customerId := c, status := .OPTED_IN }, ?_, rfl⟩
      have hmem : ({ customerId := c, status := .OPTED_IN } : WhatsappConsent) ∈
          (s.consents.put { customerId := c, status := .OPTED_IN }).rows :=
        Table.mem_put.mpr (.inl rfl)
      exact find?_key_of_mem hmem
    · refine ⟨consent, ?_, hstatus⟩
      have hkey : consent.customerId = customerId := key_of_find? hconsent
      have hmem : consent ∈ (writeConsent s c enabled).consents.rows := by
        refine Table.mem_put.mpr (.inr ⟨mem_of_find? hconsent, ?_⟩)
        show consent.customerId ≠ c
        rw [hkey]
        exact fun heq ↦ hc heq.symm
      have hfound := find?_key_of_mem hmem
      rw [show Keyed.key consent = customerId from hkey] at hfound
      exact hfound
  · have hsame : (whatsappTurn env p s).1.consents = s.consents :=
      consents_turn fun c enabled heq ↦ hwrites ⟨c, enabled, heq⟩
    rw [WhatsappStore.OptedIn, hsame]
    exact h

theorem not_sending_lastStep (result : Except WhatsappFailure WhatsappStore) (customerId : Uuid) :
    ¬(lastStep s result).2.Sending customerId := by
  cases result <;> exact id

theorem sending_turn (h : (whatsappTurn env p s).2.Sending customerId) :
    p.Sending customerId ∨ ∃ input, p = .beginning input ∧ input.customerId = customerId ∧
      s.OptedIn customerId := by
  cases p with
  | beginning input =>
    rw [whatsappTurn] at h
    split at h
    · rename_i s' replay hok
      rcases begin_cases hok with ⟨-, rfl⟩ | ⟨rfl, hinsert⟩
      · exact h.elim
      · have hcustomer : input.customerId = customerId := h
        subst hcustomer
        exact .inr ⟨input, rfl, rfl, (insertMessage_eq_ok hinsert).1⟩
    · exact h.elim
  | executing input place =>
    refine .inl ?_
    have h : (afterSend input (executionTurn env.toAdapterEnv (input.executionKey env) place
      s.adapters).2).Sending customerId := h
    have hcustomer : input.customerId = customerId := by
      revert h
      generalize (executionTurn env.toAdapterEnv (input.executionKey env) place s.adapters).2 = next
      intro h
      cases next with
      | configuring | beginning config | attempting config attempt => exact h
      | _ => exact h.elim
    cases place with
    | configuring | beginning config | attempting config attempt => exact hcustomer
    | _ => exact h.elim
  | finishing input result | receiving input messageId =>
    exact absurd h (not_sending_lastStep _ customerId)
  | checkingConsent customer enabled | targeting input =>
    rw [whatsappTurn] at h
    split at h <;> exact h.elim
  | _ => exact h.elim

theorem consenting_keeps (env : WhatsappEnv) :
    consenting.Keeps (whatsappMessages env) OptOutWaits where
  start st request _ _ := by
    refine ⟨trivial, fun customerId h ↦ ?_, fun _ _ ↦ trivial⟩
    cases request <;> exact h.elim
  turn st n p hst hC hp := by
    have hmem := mem_of_getElem? hp
    have hwaits := hC p hp
    have hnot : ∀ q ∈ st.processes, ∀ customerId, q.Sending customerId →
        p ≠ .writingConsent customerId false := by
      rintro q hq customerId hsending rfl
      exact hwaits q hq hsending
    refine ⟨trivial, fun customerId h ↦ ?_, fun m q _ hq ↦ ⟨fun customerId h ↦ ?_, trivial⟩⟩
    · rcases sending_turn h with hsending | ⟨input, rfl, rfl, hopted⟩
      · exact optedIn_turn (hst.places p hmem customerId hsending) (hnot p hmem customerId hsending)
      · exact optedIn_turn hopted nofun
    · have hq' := mem_of_getElem? hq
      exact optedIn_turn (hst.places q hq' customerId h) (hnot q hq' customerId h)

/-! ### Reports -/

/-- **The status of a message is the highest that has been reported**, from `SENT` on. -/
def StatusFollows (s : WhatsappStore) : Prop :=
  ∀ m ∈ s.messages.rows, m.providerReference ≠ none →
    (∀ e ∈ s.events, e.messageId = m.id → e.status.messageStatus.rank ≤ m.status.rank) ∧
    (m.status = .SENT ∨ ∃ e ∈ s.events, e.messageId = m.id ∧ e.status.messageStatus = m.status)
deriving Decidable

/-- An event of the provider in its order: no failure, later than the lower ones, and not older than
the end of `send`. -/
def WebhookInput.InOrder (s : WhatsappStore) (input : WebhookInput) (message : WhatsappMessage) :
    Prop :=
  input.status ≠ .FAILED ∧
  (∀ e ∈ s.events, e.messageId = message.id →
    e.status.messageStatus.rank < input.status.messageStatus.rank →
      e.occurredAt < input.occurredAt) ∧
  (message.status.rank < input.status.messageStatus.rank →
    (∀ e ∈ s.events, e.messageId = message.id → e.ignoredOutOfOrder = true) →
    ∀ last ∈ message.lastEventAt, last / 1000 ≤ input.occurredAt)
deriving Decidable

/-- **The condition on events**: they come after `finish`, and in their order. -/
def WhatsappProcess.ReportsLate (env : WhatsappEnv) (s : WhatsappStore) : WhatsappProcess → Prop
  | .targeting input => s.webhookTarget env input.providerReference ≠ none
  | .receiving input messageId => s.eventOf env input.providerEventId = none →
    ∀ m ∈ s.messages.find? messageId, input.InOrder s m
  | _ => True

abbrev ReportsLate (env : WhatsappEnv) :
    State WhatsappStore WhatsappProcess → Event WhatsappRequest → Prop :=
  AtTurn fun st p ↦ p.ReportsLate env st.store

/-- **What is known of a message that has been sent**, and of its events. -/
structure Reported (events : List WhatsappWebhookEvent) (m : WhatsappMessage) : Prop where
  highest : ∀ e ∈ events, e.messageId = m.id → e.status.messageStatus.rank ≤ m.status.rank
  attained : (m.status = .SENT ∧ ∀ e ∈ events, e.messageId = m.id → e.ignoredOutOfOrder = true) ∨
    ∃ e ∈ events, e.messageId = m.id ∧ e.status.messageStatus = m.status ∧
      m.lastEventAt = some (e.occurredAt * 1000)

def AttemptResult.Referenced (result : AttemptResult) : Prop :=
  result.providerReference ≠ none → result.status = .SUCCEEDED

structure Reporting (s : WhatsappStore) : Prop where
  results : ∀ e ∈ s.adapters.executions.rows, e.result.Referenced
  sent : ∀ e ∈ s.events, ∃ m ∈ s.messages.rows, m.id = e.messageId ∧ m.providerReference ≠ none
  reported : ∀ m ∈ s.messages.rows, m.providerReference ≠ none → Reported s.events m

def WhatsappProcess.finishes : WhatsappProcess → Option Uuid
  | .executing input _ => some input.id
  | .finishing input _ => some input.id
  | _ => none

def ReportsAt : WhatsappProcess → WhatsappStore → Prop
  | .executing input place, s =>
    (∃ m, s.messages.find? input.id = some m ∧ m.providerReference = none) ∧
    (∀ result attemptCount, place = .finishing result attemptCount → result.Referenced) ∧
    ∀ result, place ≠ .answered result
  | .finishing input result, s =>
    (∃ m, s.messages.find? input.id = some m ∧ m.providerReference = none) ∧ result.Referenced
  | .receiving _ messageId, s =>
    ∃ m, s.messages.find? messageId = some m ∧ m.providerReference ≠ none
  | _, _ => True

def reporting : Outline WhatsappStore WhatsappProcess where
  Inv st := Reporting st.store
  At := ReportsAt
  Apart p q := ∀ id, p.finishes = some id → q.finishes ≠ some id
  symm h id hq hp := h id hp hq

theorem AdapterAnswer.referenced (answer : AdapterAnswer) : answer.result.Referenced := by
  cases answer with
  | SUCCEEDED providerReference => exact fun _ ↦ rfl
  | _ => exact fun h ↦ absurd rfl h

/-- **The executor's results**: a reference comes with a success. -/
theorem referenced_turn {key : ExecutionKey} {place : ExecutionPlace} {adapters : AdapterStore}
    {env : AdapterEnv} (hrows : ∀ e ∈ adapters.executions.rows, e.result.Referenced)
    (hplace : ∀ result attemptCount, place = .finishing result attemptCount → result.Referenced)
    (hanswered : ∀ result, place ≠ .answered result) :
    (∀ e ∈ (executionTurn env key place adapters).1.executions.rows, e.result.Referenced) ∧
    (∀ result attemptCount, (executionTurn env key place adapters).2 =
      .finishing result attemptCount → result.Referenced) ∧
    ∀ result, (executionTurn env key place adapters).2 = .answered result → result.Referenced := by
  cases place with
  | configuring =>
    rw [executionTurn]
    refine ⟨hrows, fun result attemptCount h ↦ ?_, fun result h ↦ ?_⟩
    · split at h <;> cases h
    · split at h <;> cases h
  | beginning config =>
    rw [executionTurn]
    split
    · rename_i executions hinsert
      refine ⟨fun e he ↦ ?_, fun result attemptCount h ↦ ?_, fun result h ↦ ?_⟩
      · rcases (mem_insert hinsert).mp he with he | rfl
        · exact hrows e he
        · exact fun h ↦ absurd rfl h
      · dsimp only [executionPlan] at h
        split at h
        · cases h
          exact fun h ↦ absurd rfl h
        · split at h
          · cases h
            exact fun h ↦ absurd rfl h
          · split at h
            · cases h
            · cases h
              exact AdapterAnswer.referenced _
      · dsimp only [executionPlan] at h
        split at h
        · cases h
        · split at h
          · cases h
          · split at h <;> cases h
    · refine ⟨hrows, fun result attemptCount h ↦ ?_, fun result h ↦ ?_⟩
      · dsimp only at h
        split at h <;> cases h
      · dsimp only at h
        split at h
        · rename_i execution hexecution
          cases h
          exact hrows execution (mem_of_find? hexecution)
        · cases h
  | attempting config attempt =>
    rw [executionTurn]
    refine ⟨hrows, fun result attemptCount h ↦ ?_, fun result h ↦ ?_⟩
    · dsimp only at h
      split at h
      · cases h
        exact AdapterAnswer.referenced _
      · cases h
    · dsimp only at h
      split at h <;> cases h
  | finishing result attemptCount =>
    refine ⟨fun e he ↦ ?_, fun _ _ h ↦ (by cases h), fun r h ↦ ?_⟩
    · exact forall_mem_update (fun _ ↦ by rfl) hrows
        (fun _ _ _ ↦ hplace result attemptCount rfl) e he
    · cases h
      exact hplace result attemptCount rfl
  | answered result => exact absurd rfl (hanswered result)
  | thrown => exact ⟨hrows, fun _ _ h ↦ (by cases h), fun _ h ↦ by cases h⟩

/-! ### Turns that write messages -/

theorem Reporting.of_rows (h : Reporting s)
    (hexecutions : ∀ e ∈ s'.adapters.executions.rows, e.result.Referenced)
    (hevents : s'.events = s.events)
    (hmessages : ∀ m ∈ s'.messages.rows, m ∈ s.messages.rows ∨ m.providerReference = none)
    (hkept : ∀ m ∈ s.messages.rows, m ∈ s'.messages.rows) : Reporting s' := by
  refine ⟨hexecutions, fun e he ↦ ?_, fun m hm href ↦ ?_⟩
  · rw [hevents] at he
    obtain ⟨m, hm, hid, href⟩ := h.sent e he
    exact ⟨m, hkept m hm, hid, href⟩
  · rcases hmessages m hm with hm | hnone
    · rw [hevents]
      exact h.reported m hm href
    · exact absurd hnone href

theorem mem_update_of_message {f : WhatsappMessage → WhatsappMessage}
    {hf : ∀ m, (f m).id = m.id} {m : WhatsappMessage} (hm : m ∈ s.messages.rows) :
    ∃ m' ∈ (s.messages.update id f hf).rows, m'.id = m.id ∧ (m' = m ∨ m' = f m) := by
  have hfind : s.messages.find? m.id = some m := find?_key_of_mem hm
  by_cases hid : m.id = id
  · have hupdated : (s.messages.update id f hf).find? id = some (f m) := by
      rw [find?_update_self, ← hid, hfind]
      rfl
    exact ⟨f m, mem_of_find? hupdated, hf m, .inr rfl⟩
  · have hsame : (s.messages.update id f hf).find? m.id = some m := by
      rw [find?_update_of_ne hid]
      exact hfind
    exact ⟨m, mem_of_find? hsame, rfl, .inl rfl⟩

/-- **`finish`**: the message has had no event. -/
theorem Reporting.finished (h : Reporting s) {input : SendInput}
    (hmessage : ∃ m, s.messages.find? input.id = some m ∧ m.providerReference = none)
    (hresult : result.Referenced) :
    Reporting { s with
      messages := s.messages.update input.id (WhatsappMessage.finished result s.now) } := by
  obtain ⟨row, hrow, hnone⟩ := hmessage
  have hkey : row.id = input.id := key_of_find? hrow
  have hevents : ∀ e ∈ s.events, e.messageId ≠ row.id := by
    intro e he heq
    obtain ⟨m, hm, hid, href⟩ := h.sent e he
    have hsame : m = row := eq_of_mem_of_key_eq hm (mem_of_find? hrow) (hid.trans heq)
    exact href (hsame ▸ hnone)
  refine ⟨h.results, fun e he ↦ ?_, fun m hm href ↦ ?_⟩
  · obtain ⟨m, hm, hid, href⟩ := h.sent e he
    have hne : m.id ≠ input.id := fun heq ↦ hevents e he (hid.symm.trans (heq.trans hkey.symm))
    have hsame : (s.messages.update input.id (WhatsappMessage.finished result s.now)).find? m.id =
        some m := by
      rw [find?_update_of_ne hne]
      exact find?_key_of_mem hm
    exact ⟨m, mem_of_find? hsame, hid, href⟩
  · rcases of_mem_update (fun _ ↦ by rfl) hrow hm with
      rfl | ⟨hm, -⟩
    · have hsent : (row.finished result s.now).status = .SENT := by
        show result.status.messageStatus = .SENT
        rw [hresult href]
        rfl
      exact ⟨fun e he hid ↦ absurd hid (hevents e he),
        .inl ⟨hsent, fun e he hid ↦ absurd hid (hevents e he)⟩⟩
    · exact h.reported m hm href

/-- **An event in its order** that is ignored is not higher than the message. -/
theorem Reported.ignored {m : WhatsappMessage} (h : Reported s.events m)
    (horder : input.InOrder s m) (hignored : input.Ignored m) :
    input.status.messageStatus.rank ≤ m.status.rank := by
  rcases hignored with hrank | ⟨last, hlast, htime⟩
  · exact hrank.le
  · by_contra hhigher
    have hlt : m.status.rank < input.status.messageStatus.rank := Nat.lt_of_not_le hhigher
    rcases h.attained with ⟨-, hall⟩ | ⟨e, he, hid, hstatus, hat⟩
    · have hle : last / 1000 ≤ input.occurredAt := horder.2.2 hlt hall last hlast
      exact absurd htime (Nat.not_lt.mpr hle)
    · -- the status is that of an event, which is lower and so older
      rw [Option.mem_def, hat] at hlast
      cases hlast
      have hearlier : e.occurredAt < input.occurredAt := horder.2.1 e he hid (hstatus ▸ hlt)
      rw [Nat.mul_div_cancel _ (by decide)] at htime
      exact absurd htime (Nat.not_lt.mpr hearlier.le)

theorem Reported.append {events : List WhatsappWebhookEvent} {m : WhatsappMessage}
    (h : Reported events m) {event : WhatsappWebhookEvent} (hevent : event.messageId = m.id →
      event.status.messageStatus.rank ≤ m.status.rank ∧ event.ignoredOutOfOrder = true) :
    Reported (events ++ [event]) m := by
  refine ⟨fun e he hid ↦ ?_, ?_⟩
  · rcases mem_append.mp he with he | he
    · exact h.highest e he hid
    · rw [mem_singleton.mp he] at hid ⊢
      exact (hevent hid).1
  · rcases h.attained with ⟨hsent, hall⟩ | ⟨e, he, hrest⟩
    · refine .inl ⟨hsent, fun e he hid ↦ ?_⟩
      rcases mem_append.mp he with he | he
      · exact hall e he hid
      · rw [mem_singleton.mp he] at hid ⊢
        exact (hevent hid).2
    · exact .inr ⟨e, mem_append_left _ he, hrest⟩

/-- **A webhook.** -/
theorem Reporting.received (h : Reporting s)
    (hmessage : ∃ m, s.messages.find? messageId = some m ∧ m.providerReference ≠ none)
    (horder : s.eventOf env input.providerEventId = none →
      ∀ m ∈ s.messages.find? messageId, input.InOrder s m)
    (hok : webhook env s input messageId = .ok s') : Reporting s' := by
  rcases webhook_cases hok with rfl | ⟨row, hnew, hrow, hcases⟩
  · exact h
  obtain ⟨row', hrow', href⟩ := hmessage
  rw [hrow] at hrow'
  cases hrow'
  have hkey : row.id = messageId := key_of_find? hrow
  have hmem : row ∈ s.messages.rows := mem_of_find? hrow
  have hrowOrder : input.InOrder s row := horder hnew row hrow
  have hreported : Reported s.events row := h.reported row hmem href
  have hsent : ∀ e ∈ s.events ++ [input.event messageId (input.Ignored row)],
      ∃ m ∈ s.messages.rows, m.id = e.messageId ∧ m.providerReference ≠ none := by
    intro e he
    rcases mem_append.mp he with he | he
    · exact h.sent e he
    · rw [mem_singleton.mp he]
      exact ⟨row, hmem, hkey, href⟩
  rcases hcases with ⟨hignored, rfl⟩ | ⟨hignored, rfl⟩
  · rw [decide_eq_true hignored] at hsent
    refine ⟨h.results, hsent, fun m hm hmref ↦ (h.reported m hm hmref).append fun hid ↦ ?_⟩
    obtain rfl : row = m := eq_of_mem_of_key_eq hmem hm (hkey.trans hid)
    exact ⟨hreported.ignored hrowOrder hignored, rfl⟩
  · have hrank : row.status.rank ≤ input.status.messageStatus.rank :=
      Nat.le_of_not_lt fun hlt ↦ hignored (.inl hlt)
    rw [decide_eq_false hignored] at hsent
    refine ⟨h.results, fun e he ↦ ?_, fun m hm hmref ↦ ?_⟩
    · obtain ⟨m, hm, hid, hmref⟩ := hsent e he
      obtain ⟨m', hm', hid', hcase⟩ := @mem_update_of_message s messageId
        (WhatsappMessage.reported input) (fun _ ↦ rfl) m hm
      refine ⟨m', hm', hid'.trans hid, ?_⟩
      rcases hcase with rfl | rfl <;> exact hmref
    · rcases of_mem_update (fun _ ↦ by rfl) hrow hm with
        rfl | ⟨hm, hne⟩
      · refine ⟨fun e he heid ↦ ?_, .inr ⟨input.event messageId false,
          mem_append_right _ (mem_singleton_self _), hkey.symm, rfl, rfl⟩⟩
        rcases mem_append.mp he with he | he
        · exact (hreported.highest e he heid).trans hrank
        · rw [mem_singleton.mp he]
          exact le_rfl
      · exact (h.reported m hm hmref).append fun heq ↦ absurd heq.symm hne

/-! ### Runs -/

theorem ReportsAt.mono (h : ReportsAt q s) (hkept : ∀ id m, s.messages.find? id = some m →
    (q.finishes = some id ∨ m.providerReference ≠ none) → ∃ m', s'.messages.find? id = some m' ∧
      (m'.providerReference = none ↔ m.providerReference = none)) : ReportsAt q s' := by
  cases q with
  | executing input place =>
    obtain ⟨⟨m, hm, hnone⟩, hplace⟩ := h
    obtain ⟨m', hm', hiff⟩ := hkept input.id m hm (.inl rfl)
    exact ⟨⟨m', hm', hiff.mpr hnone⟩, hplace⟩
  | finishing input result =>
    obtain ⟨⟨m, hm, hnone⟩, hresult⟩ := h
    obtain ⟨m', hm', hiff⟩ := hkept input.id m hm (.inl rfl)
    exact ⟨⟨m', hm', hiff.mpr hnone⟩, hresult⟩
  | receiving input messageId =>
    obtain ⟨m, hm, hsome⟩ := h
    obtain ⟨m', hm', hiff⟩ := hkept messageId m hm (.inr hsome)
    exact ⟨m', hm', fun hnone ↦ hsome (hiff.mp hnone)⟩
  | _ => trivial

theorem targetWebhook_eq_ok (h : targetWebhook env s input = .ok messageId) :
    ∃ m, s.messages.find? messageId = some m ∧ m.providerReference ≠ none := by
  simp only [targetWebhook, eq_ok] at h
  obtain ⟨m, hm, _, -, rfl⟩ := h
  refine ⟨m, find?_key_of_mem (mem_of_find?_eq_some hm), fun hnone ↦ ?_⟩
  have href := find?_some hm
  rw [decide_eq_true_eq, hnone] at href
  cases href

structure ReportsTurn (env : WhatsappEnv) (s : WhatsappStore) (p : WhatsappProcess) : Prop where
  inv : Reporting (whatsappTurn env p s).1
  at_ : ReportsAt (whatsappTurn env p s).2 (whatsappTurn env p s).1
  others : ∀ q, ReportsAt q s → (∀ id, p.finishes = some id → q.finishes ≠ some id) →
    ReportsAt q (whatsappTurn env p s).1
  finishes : ∀ id, (whatsappTurn env p s).2.finishes = some id →
    p.finishes = some id ∨ s.messages.find? id = none

section

variable (hs : Reporting s)
include hs

theorem ReportsTurn.of_store_eq (hstore : (whatsappTurn env p s).1 = s)
    (hat : ReportsAt (whatsappTurn env p s).2 s)
    (hfinishes : (whatsappTurn env p s).2.finishes = none) : ReportsTurn env s p where
  inv := hstore.symm ▸ hs
  at_ := hstore.symm ▸ hat
  others _ hq _ := hstore.symm ▸ hq
  finishes id h := by
    rw [hfinishes] at h
    cases h

theorem ReportsTurn.of_answered {failure : Option WhatsappFailure}
    (hturn : whatsappTurn env p s = (s, .answered failure)) : ReportsTurn env s p :=
  .of_store_eq hs (by rw [hturn]) (by rw [hturn]; trivial) (by rw [hturn]; rfl)

/-- **`begin`** makes a message of its own. -/
theorem reportsTurn_beginning (input : SendInput) : ReportsTurn env s (.beginning input) := by
  cases hok : «begin» env s input with
  | error e => exact @ReportsTurn.of_answered env s _ hs (some e) (by rw [whatsappTurn, hok])
  | ok answer =>
    obtain ⟨s', replay⟩ := answer
    have hturn : whatsappTurn env (.beginning input) s =
        (s', if replay = true then .answered none else .executing input .configuring) := by
      rw [whatsappTurn, hok]
    rcases begin_cases hok with ⟨rfl, rfl⟩ | ⟨rfl, hinsert⟩
    · exact .of_answered hs hturn
    · obtain ⟨-, -, messages, hmessages, rfl⟩ := insertMessage_eq_ok hinsert
      have hfresh : s.messages.find? input.id = none := (insert_eq_some hmessages).1
      have hnew : messages.find? input.id = some (input.row env (s.now + input.elapsed)) :=
        find?_insert_self hmessages
      have hkept : ∀ id m, s.messages.find? id = some m → messages.find? id = some m :=
        fun id m hm ↦ find?_insert_of_some hmessages hm
      constructor
      · rw [hturn]
        refine hs.of_rows hs.results rfl (fun m hm ↦ ?_) fun m hm ↦ ?_
        · rcases (mem_insert hmessages).mp hm with hm | rfl
          · exact .inl hm
          · exact .inr rfl
        · exact (mem_insert hmessages).mpr (.inl hm)
      · rw [hturn]
        exact ⟨⟨_, hnew, rfl⟩, nofun, nofun⟩
      · intro q hq _
        rw [hturn]
        exact hq.mono fun id m hm _ ↦ ⟨m, hkept id m hm, Iff.rfl⟩
      · intro id h
        rw [hturn] at h
        have hid : input.id = id := Option.some.inj h
        exact .inr (hid ▸ hfresh)

/-- **The executor** keeps its hands off the messages. -/
theorem reportsTurn_executing {input : SendInput} {place : ExecutionPlace}
    (hat : ReportsAt (.executing input place) s) :
    ReportsTurn env s (.executing input place) := by
  obtain ⟨hmessage, hplace, hanswered⟩ := hat
  obtain ⟨hrows, hfinishing, hresult⟩ := @referenced_turn (input.executionKey env) place s.adapters
    env.toAdapterEnv hs.results hplace hanswered
  have hnext : ReportsAt (afterSend input (executionTurn env.toAdapterEnv (input.executionKey env)
      place s.adapters).2) s ∧ ∀ id, (afterSend input (executionTurn env.toAdapterEnv
        (input.executionKey env) place s.adapters).2).finishes = some id → input.id = id := by
    revert hfinishing hresult
    generalize (executionTurn env.toAdapterEnv (input.executionKey env) place s.adapters).2 = next
    intro hfinishing hresult
    cases next with
    | answered result => exact ⟨⟨hmessage, hresult result rfl⟩, fun id h ↦ Option.some.inj h⟩
    | thrown => exact ⟨trivial, nofun⟩
    | _ => exact ⟨⟨hmessage, hfinishing, nofun⟩, fun id h ↦ Option.some.inj h⟩
  constructor
  · exact hs.of_rows hrows rfl (fun m hm ↦ .inl hm) fun m hm ↦ hm
  · exact hnext.1.mono fun id m hm _ ↦ ⟨m, hm, Iff.rfl⟩
  · exact fun q hq _ ↦ hq.mono fun id m hm _ ↦ ⟨m, hm, Iff.rfl⟩
  · exact fun id h ↦ .inl (congrArg some (hnext.2 id h))

/-- **`finish`** finds the message of its request as `begin` has left it. -/
theorem reportsTurn_finishing {input : SendInput} (hat : ReportsAt (.finishing input result) s) :
    ReportsTurn env s (.finishing input result) := by
  obtain ⟨⟨row, hrow, hnone⟩, hresult⟩ := hat
  rcases lastStep_cases (s := s) (finish env s input.id result) with ⟨e, -, heq⟩ | ⟨s', hok, heq⟩
  · exact .of_answered hs heq
  · obtain ⟨-, rfl⟩ := finish_eq_ok hok
    have hturn : whatsappTurn env (.finishing input result) s = ({ s with
        messages := s.messages.update input.id (WhatsappMessage.finished result s.now) },
        .answered none) := heq
    constructor
    · rw [hturn]
      exact hs.finished ⟨row, hrow, hnone⟩ hresult
    · rw [hturn]
      trivial
    · intro q hq hapart
      rw [hturn]
      refine hq.mono fun id m hm hcase ↦ ?_
      have hne : id ≠ input.id := by
        rintro rfl
        rcases hcase with hfinishes | href
        · exact hapart _ rfl hfinishes
        · rw [hrow] at hm
          cases hm
          exact href hnone
      refine ⟨m, ?_, Iff.rfl⟩
      rw [find?_update_of_ne hne]
      exact hm
    · intro id h
      rw [hturn] at h
      cases h

/-- **A webhook** leaves the reference of its message. -/
theorem reportsTurn_receiving (hat : ReportsAt (.receiving input messageId) s)
    (hlate : (WhatsappProcess.receiving input messageId).ReportsLate env s) :
    ReportsTurn env s (.receiving input messageId) := by
  rcases lastStep_cases (s := s) (webhook env s input messageId) with ⟨e, -, heq⟩ | ⟨s', hok, heq⟩
  · exact .of_answered hs heq
  · have hturn : whatsappTurn env (.receiving input messageId) s = (s', .answered none) := heq
    constructor
    · rw [hturn]
      exact hs.received hat hlate hok
    · rw [hturn]
      trivial
    · intro q hq _
      rw [hturn]
      refine hq.mono fun id m hm _ ↦ ?_
      rcases webhook_cases hok with rfl | ⟨row, -, -, ⟨-, rfl⟩ | ⟨-, rfl⟩⟩
      · exact ⟨m, hm, Iff.rfl⟩
      · exact ⟨m, hm, Iff.rfl⟩
      · by_cases hid : id = messageId
        · refine ⟨m.reported input, ?_, Iff.rfl⟩
          rw [hid, find?_update_self, ← hid, hm]
          rfl
        · refine ⟨m, ?_, Iff.rfl⟩
          rw [find?_update_of_ne hid]
          exact hm
    · intro id h
      rw [hturn] at h
      cases h

/-- **One turn.** -/
theorem reportsTurn (hat : ReportsAt p s) (hlate : p.ReportsLate env s) : ReportsTurn env s p := by
  cases p with
  | beginning input => exact reportsTurn_beginning hs input
  | executing input place => exact reportsTurn_executing hs hat
  | finishing input result => exact reportsTurn_finishing hs hat
  | receiving input messageId => exact reportsTurn_receiving hs hat hlate
  | targeting input =>
    have hnext : ReportsAt (whatsappTurn env (.targeting input) s).2 s ∧
        (whatsappTurn env (.targeting input) s).2.finishes = none := by
      rw [whatsappTurn]
      cases htarget : targetWebhook env s input with
      | ok messageId => exact ⟨targetWebhook_eq_ok htarget, rfl⟩
      | error e => exact ⟨trivial, rfl⟩
    exact .of_store_eq hs rfl hnext.1 hnext.2
  | checkingConsent customerId enabled =>
    have hnext : ReportsAt (whatsappTurn env (.checkingConsent customerId enabled) s).2 s ∧
        (whatsappTurn env (.checkingConsent customerId enabled) s).2.finishes = none := by
      rw [whatsappTurn]
      cases checkConsent s customerId enabled <;> exact ⟨trivial, rfl⟩
    exact .of_store_eq hs rfl hnext.1 hnext.2
  | answered failure => exact .of_store_eq hs rfl trivial rfl
  | _ =>
    constructor
    · exact hs.of_rows hs.results rfl (fun m hm ↦ .inl hm) fun m hm ↦ hm
    · trivial
    · exact fun q hq _ ↦ hq.mono fun id m hm _ ↦ ⟨m, hm, Iff.rfl⟩
    · exact nofun

end

theorem ReportsAt.found (h : ReportsAt q s) (hid : q.finishes = some id) :
    s.messages.find? id ≠ none := by
  intro hnone
  cases q with
  | executing input place | finishing input result =>
    obtain ⟨⟨m, hm, -⟩, -⟩ := h
    cases hid
    exact absurd (hm.symm.trans hnone) nofun
  | _ => cases hid

theorem reporting_keeps (env : WhatsappEnv) :
    reporting.Keeps (whatsappMessages env) (ReportsLate env) where
  start st request hst _ := by
    refine ⟨hst.inv, ?_, fun q _ id h ↦ ?_⟩
    · cases request <;> trivial
    · cases request <;> cases h
  turn st n p hst hC hp := by
    have hturn : ReportsTurn env st.store p :=
      reportsTurn hst.inv (hst.places p (mem_of_getElem? hp)) (hC p hp)
    refine ⟨hturn.inv, hturn.at_, fun m q hmn hq ↦ ?_⟩
    have hat : ReportsAt q st.store := hst.places q (mem_of_getElem? hq)
    have hapart : ∀ id, p.finishes = some id → q.finishes ≠ some id :=
      hst.apart n m p q (Ne.symm hmn) hp hq
    refine ⟨hturn.others q hat hapart, fun id hid hqid ↦ ?_⟩
    rcases hturn.finishes id hid with hfinishes | hnone
    · exact hapart id hfinishes hqid
    · exact hat.found hqid hnone

/-- **An event that is received is kept**: its message is found and it is among the events. -/
def EventKept (st : State WhatsappStore WhatsappProcess)
    (event : Event WhatsappRequest) (st' : State WhatsappStore WhatsappProcess) : Prop :=
  ∀ n, event = .turn n → (∀ input, st.processes[n]? = some (.targeting input) →
      (∃ messageId, st'.processes[n]? = some (.receiving input messageId)) ∨
        st'.processes[n]? = some (.answered (some .WHATSAPP_WEBHOOK_SIGNATURE_INVALID))) ∧
    ∀ input messageId, st.processes[n]? = some (.receiving input messageId) →
      (∃ e ∈ st'.store.events,
        e.messageId = messageId ∧ e.status = input.status ∧ e.occurredAt = input.occurredAt) ∨
        st'.processes[n]? = some (.answered (some .WHATSAPP_WEBHOOK_CONFLICT))

theorem webhook_kept
    (hmessage : ∃ m, s.messages.find? messageId = some m ∧ m.providerReference ≠ none) :
    (∃ s', webhook env s input messageId = .ok s' ∧ ∃ e ∈ s'.events,
      e.messageId = messageId ∧ e.status = input.status ∧ e.occurredAt = input.occurredAt) ∨
    webhook env s input messageId = .error .WHATSAPP_WEBHOOK_CONFLICT := by
  obtain ⟨row, hrow, -⟩ := hmessage
  rw [webhook]
  cases hevent : s.eventOf env input.providerEventId with
  | some existing =>
    by_cases hsame : existing.messageId = messageId ∧ existing.status = input.status ∧
        existing.occurredAt = input.occurredAt
    · refine .inl ⟨s, ?_, existing, mem_of_find?_eq_some hevent, hsame⟩
      exact bind_eq_ok.mpr ⟨⟨⟩, ensure_eq_ok.mpr hsame, rfl⟩
    · refine .inr ?_
      show (ensure _ _ >>= _) = _
      rw [ensure, if_neg hsame]
      rfl
  | none =>
    show (∃ s', recordWebhook s input messageId = .ok s' ∧ _) ∨ _
    refine .inl ?_
    rw [recordWebhook, hrow]
    show ∃ s', (if input.Ignored row then _ else _) = Except.ok s' ∧ _
    split
    · exact ⟨_, rfl, input.event messageId true,
        mem_append_right _ (mem_singleton_self _), rfl, rfl, rfl⟩
    · exact ⟨_, rfl, input.event messageId false,
        mem_append_right _ (mem_singleton_self _), rfl, rfl, rfl⟩

theorem eventKept_of_step {event : Event WhatsappRequest} (hst : reporting.Holds st)
    (hC : ReportsLate env st event) (h : step (whatsappMessages env) st event = .ok st') :
    EventKept st event st' := by
  rintro n rfl
  obtain ⟨p, hp, rfl⟩ := step_turn_eq_ok.mp h
  have hset : ∀ q : WhatsappProcess, (st.processes.set n q)[n]? = some q := fun q ↦
    getElem?_set_self (List.getElem?_eq_some_iff.mp hp).1
  refine ⟨fun input hinput ↦ ?_, fun input messageId hinput ↦ ?_⟩
  · rw [hinput] at hp
    cases hp
    have hfound : st.store.webhookTarget env input.providerReference ≠ none := hC _ hinput
    obtain ⟨target, htarget⟩ := Option.ne_none_iff_exists'.mp hfound
    rw [hset]
    show (∃ messageId, some (whatsappTurn env (.targeting input) st.store).2 = _) ∨
      some (whatsappTurn env (.targeting input) st.store).2 = _
    rw [whatsappTurn, targetWebhook, htarget]
    by_cases htoken : env.hash input.token = target.webhookTokenHash
    · exact .inl ⟨target.id, by simp [demand, ensure, htoken]⟩
    · exact .inr (by simp [demand, ensure, htoken])
  · rw [hinput] at hp
    cases hp
    have hat := hst.places _ (mem_of_getElem? hinput)
    rcases @webhook_kept env st.store input messageId hat with ⟨s', hok, hkept⟩ | hconflict
    · refine .inl ?_
      show ∃ e ∈ (lastStep st.store (webhook env st.store input messageId)).1.events, _
      rw [hok]
      exact hkept
    · refine .inr ?_
      rw [hset]
      show some (lastStep st.store (webhook env st.store input messageId)).2 = _
      rw [hconflict]
      rfl

/-- **Messages on WhatsApp**: twenty in any hour; to customers who have opted in, when opt-outs
wait; with the highest status reported, when events come in order. -/
theorem whatsapp_follows (env : WhatsappEnv) (customers : Table WhatsappCustomer)
    (consents : Table WhatsappConsent) (configs : Table ExternalAdapterConfig)
    (events : List (Event WhatsappRequest)) :
    RateKept (run (step (whatsappMessages env)) (.idle (.opening customers consents configs))
      events).store ∧
    (Along (step (whatsappMessages env)) OptOutWaits (.idle (.opening customers consents configs))
        events →
      Along (step (whatsappMessages env)) Consented (.idle (.opening customers consents configs))
        events) ∧
    (Along (step (whatsappMessages env)) (ReportsLate env)
        (.idle (.opening customers consents configs)) events →
      Along (step (whatsappMessages env)) (fun st event ↦ ∀ st',
        step (whatsappMessages env) st event = .ok st' → EventKept st event st')
        (.idle (.opening customers consents configs)) events ∧
      StatusFollows (run (step (whatsappMessages env))
        (.idle (.opening customers consents configs)) events).store) := by
  refine ⟨?_, fun h ↦ ?_, fun h ↦ ?_⟩
  · exact @run_store_induct _ _ _ (whatsappMessages env)
      (.idle (.opening customers consents configs))
      RateKept (fun _ _ h ↦ h.turn) (fun _ _ ↦ Nat.zero_le 20) events
  · have hopening : consenting.Holds (.idle (.opening customers consents configs)) :=
      .idle trivial
    refine (consenting_keeps env).meets (fun st event hst _ ↦ ?_) hopening events h
    cases event with
    | start request => trivial
    | turn n =>
      intro input config attempt hp
      exact hst.places _ (mem_of_getElem? hp) input.customerId rfl
  · have hopening : reporting.Holds (.idle (.opening customers consents configs)) :=
      .idle ⟨forall_mem_nil _, forall_mem_nil _,
        forall_mem_nil _⟩
    refine ⟨(reporting_keeps env).along (fun _ _ _ hst hC hstep _ ↦ eventKept_of_step hst hC hstep)
      hopening events h, fun m hm href ↦ ?_⟩
    have hreported := ((reporting_keeps env).run hopening events h).inv.reported m hm href
    refine ⟨hreported.highest, ?_⟩
    rcases hreported.attained with ⟨hsent, -⟩ | ⟨e, he, hid, hstatus, -⟩
    · exact Or.inl hsent
    · exact Or.inr ⟨e, he, hid, hstatus⟩

/-! ### Events that come early, and opt-outs that come late -/

instance (customerId : Uuid) (p : WhatsappProcess) : Decidable (p.Sending customerId) := by
  unfold WhatsappProcess.Sending
  split <;> infer_instance

instance (st : State WhatsappStore WhatsappProcess) (p : WhatsappProcess) :
    Decidable (p.OptOutWaits st) := by
  unfold WhatsappProcess.OptOutWaits
  split <;> infer_instance

instance (env : WhatsappEnv) (s : WhatsappStore) (p : WhatsappProcess) :
    Decidable (p.ReportsLate env s) := by
  unfold WhatsappProcess.ReportsLate
  split <;> infer_instance

def acceptsAll : WhatsappEnv where
  registered _ _ _ := true
  answers _ := .SUCCEEDED (textOf "SIM-WA-1")
  collate text := text
  hash text := text

def reachable : Table WhatsappCustomer where
  rows := [{ id := 1, phone := some (textOf "+525511112222"), active := true }]
  nodup := by decide

def whatsappConfigs : Table ExternalAdapterConfig where
  rows := [{
    capability := .NOTIFICATION_WHATSAPP, provider := textOf "SIMULATOR",
    adapterVersion := textOf "1", enabled := true, maxAttempts := 2 }]
  nodup := by decide

def noMessages : State WhatsappStore WhatsappProcess :=
  .idle (.opening reachable .empty whatsappConfigs)

def sendAs (id : Uuid) (idempotencyKey : String) : Event WhatsappRequest :=
  .start (.send {
    id := id, customerId := 1, templateKey := .WHATSAPP_ORDER_STATUS, reference := none,
    scenario := .SUCCESS, idempotencyKey := textOf idempotencyKey, token := textOf "token",
    elapsed := 0 })

/-- The customer opts in, five seconds go by, and a message is to be sent. -/
def optIn : List (Event WhatsappRequest) :=
  [.start (.setConsent 1 true), .turn 0, .turn 0, .start (.wait 5000000), .turn 1,
    sendAs 7 "whatsapp-0001"]

def sendTurns (turns : ℕ) : List (Event WhatsappRequest) :=
  List.replicate turns (.turn 2)

/-- After an opt-out another message is to be sent. -/
def optOutAndSend : List (Event WhatsappRequest) :=
  [.start (.setConsent 1 false), .turn 6, .turn 6, sendAs 8 "whatsapp-0002"] ++
    List.replicate 6 (.turn 7)

/-- A webhook of the message in a position, at some time in milliseconds. -/
def report (position : ℕ) (providerEventId : String) (status : WhatsappEventStatus)
    (occurredAt : ℕ) : List (Event WhatsappRequest) :=
  [.start (.webhook {
      token := textOf "token", providerEventId := textOf providerEventId,
      providerReference := textOf "SIM-WA-1", status := status,
      occurredAt := occurredAt }), .turn position, .turn position]

theorem whatsapp_follows_read :
    let events := optIn ++ sendTurns 6 ++ report 3 "evt-3" .READ 9000 ++
      report 4 "evt-2" .DELIVERED 8000 ++ report 5 "evt-3" .READ 9000 ++ optOutAndSend
    Along (step (whatsappMessages acceptsAll)) Consented noMessages events ∧
      StatusFollows (run (step (whatsappMessages acceptsAll)) noMessages events).store :=
  ⟨(whatsapp_follows acceptsAll reachable .empty whatsappConfigs _).2.1 (by decide +kernel),
    ((whatsapp_follows acceptsAll reachable .empty whatsappConfigs _).2.2 (by decide +kernel)).2⟩

/-- **Three ways to miss**: an event from before `send`, one from before `finish`, and an opt-out
after `begin`. -/
theorem outrun :
    (let st := run (step (whatsappMessages acceptsAll)) noMessages
      (optIn ++ sendTurns 6 ++ report 3 "evt-2" .DELIVERED 4000)
    st.store.messages.rows.map WhatsappMessage.status = [.SENT] ∧
      st.store.events.map (fun e ↦ (e.status, e.ignoredOutOfOrder)) = [(.DELIVERED, true)] ∧
      ¬StatusFollows st.store) ∧
    (let st := run (step (whatsappMessages acceptsAll)) noMessages
      (optIn ++ sendTurns 5 ++ report 3 "evt-2" .DELIVERED 9000 ++ sendTurns 1)
    st.store.messages.rows.map WhatsappMessage.status = [.SENT] ∧ st.store.events = []) ∧
    (let optOut := optIn ++ sendTurns 1 ++ [.start (.setConsent 1 false), .turn 3, .turn 3]
    let st := run (step (whatsappMessages acceptsAll)) noMessages optOut
    ¬st.store.OptedIn 1 ∧ st.store.adapters.calls = [] ∧
      (run (step (whatsappMessages acceptsAll)) noMessages
        (optOut ++ sendTurns 5)).store.adapters.calls.length = 1) := by
  decide +kernel

end UInventario.Integrations
