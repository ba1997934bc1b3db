import UInventario.Integrations.PspPaymentSafety

/-!
# The order of webhooks

Webhooks about one payment that come in one after the other, in any order and some of them
repeatedly, with no other request in between.

An event counts the first time it is delivered (`delivered_cases`), so what becomes of the payment
is a fold of `statusAfter` over new statuses (`status_deliveries`). From every status but that of a
payment to be confirmed it depends on nothing but which statuses are among them.
-/

namespace UInventario.Integrations.Psp

open Outcome Processes List

variable {env : PspEnv} {s : PspStore} {row : PspPayment} {input : WebhookInput}

/-! ### Statuses -/

/-- What `advance` makes of a status. -/
def statusAfter (status : PspPaymentStatus) (incoming : PspEventStatus) : PspPaymentStatus :=
  if status.Captured ∨ status = .DECLINED then status
  else if status = .REQUIRES_CONFIRMATION then incoming.paymentStatus
  else if incoming = .CAPTURED then .CAPTURED
  else status

theorem status_advanced (row : PspPayment) (incoming : PspEventStatus) :
    (row.advanced (advance row.toPspPaymentData incoming)).status =
      statusAfter row.status incoming := by
  unfold PspPayment.advanced advance statusAfter PspPaymentStatus.Captured
  cases hstatus : row.status <;> cases incoming <;> simp [hstatus, PspEventStatus.paymentStatus]

variable {status : PspPaymentStatus}

theorem foldl_statusAfter_final (h : status.Captured ∨ status = .DECLINED) (l : List PspEventStatus)
    :
    l.foldl statusAfter status = status := by
  induction l with
  | nil => rfl
  | cons incoming l ih => rw [foldl_cons, statusAfter, if_pos h, ih]

/-- **A payment that has been authorized**, or is not determined, is captured or stays so. -/
theorem foldl_statusAfter_open (h : status = .AUTHORIZED ∨ status = .INDETERMINATE)
    (l : List PspEventStatus) :
    l.foldl statusAfter status = if .CAPTURED ∈ l then .CAPTURED else status := by
  induction l with
  | nil => rfl
  | cons incoming l ih =>
    have hstep :
      statusAfter status incoming = if incoming = .CAPTURED then .CAPTURED else status := by
      rcases h with rfl | rfl <;> rfl
    rw [foldl_cons, hstep]
    by_cases hcaptured : incoming = .CAPTURED
    · rw [if_pos hcaptured, foldl_statusAfter_final (by decide), hcaptured, if_pos mem_cons_self]
    · rw [if_neg hcaptured, ih]
      refine if_congr ?_ rfl rfl
      rw [mem_cons, or_iff_right fun heq ↦ hcaptured heq.symm]

/-- The statuses of some events decline a payment to be confirmed, or do not, by which comes first.
-/
def Compete (news : PspEventStatus → Prop) : Prop :=
  news .DECLINED ∧ ∃ incoming, news incoming ∧ incoming ≠ .DECLINED

variable {l : List PspEventStatus}

theorem foldl_statusAfter_confirmed (h : .DECLINED ∉ l) :
    l.foldl statusAfter .REQUIRES_CONFIRMATION =
      if .CAPTURED ∈ l then .CAPTURED
      else if .AUTHORIZED ∈ l then .AUTHORIZED else .REQUIRES_CONFIRMATION := by
  cases l with
  | nil => rfl
  | cons incoming l =>
    cases incoming with
    | DECLINED => exact absurd mem_cons_self h
    | CAPTURED =>
      rw [if_pos mem_cons_self]
      exact foldl_statusAfter_final (by decide) l
    | AUTHORIZED =>
      rw [if_pos (mem_cons_self (a := PspEventStatus.AUTHORIZED))]
      refine (foldl_statusAfter_open (.inl rfl) l).trans (if_congr ?_ rfl rfl)
      rw [mem_cons, or_iff_right nofun]

theorem foldl_statusAfter_declined (h : ∀ incoming ∈ l, incoming = .DECLINED) :
    l.foldl statusAfter .REQUIRES_CONFIRMATION =
      if .DECLINED ∈ l then .DECLINED else .REQUIRES_CONFIRMATION := by
  cases l with
  | nil => rfl
  | cons incoming l =>
    obtain rfl := h incoming mem_cons_self
    rw [if_pos mem_cons_self]
    exact foldl_statusAfter_final (by decide) l

/-- **The order makes no difference** to a status, unless the first event decides. -/
theorem foldl_statusAfter_congr {l' : List PspEventStatus}
    (hmem : ∀ incoming, incoming ∈ l ↔ incoming ∈ l')
    (h : status = .REQUIRES_CONFIRMATION → ¬Compete (· ∈ l)) :
    l.foldl statusAfter status = l'.foldl statusAfter status := by
  by_cases hfinal : status.Captured ∨ status = .DECLINED
  · rw [foldl_statusAfter_final hfinal, foldl_statusAfter_final hfinal]
  by_cases hopen : status = .AUTHORIZED ∨ status = .INDETERMINATE
  · rw [foldl_statusAfter_open hopen, foldl_statusAfter_open hopen]
    exact if_congr (hmem _) rfl rfl
  have hconfirm : status = .REQUIRES_CONFIRMATION := by
    cases status <;> simp [PspPaymentStatus.Captured] at hfinal hopen ⊢
  subst hconfirm
  by_cases hdeclined : .DECLINED ∈ l
  · have hall : ∀ incoming ∈ l, incoming = .DECLINED := fun incoming hin ↦
      Decidable.not_not.mp fun hne ↦ h rfl ⟨hdeclined, incoming, hin, hne⟩
    rw [foldl_statusAfter_declined hall,
      foldl_statusAfter_declined fun incoming hin ↦ hall incoming ((hmem incoming).mpr hin)]
    exact if_congr (hmem _) rfl rfl
  · rw [foldl_statusAfter_confirmed hdeclined,
      foldl_statusAfter_confirmed fun hin ↦ hdeclined ((hmem _).mpr hin)]
    simp only [hmem]

/-- **The first event decides** whether a payment to be confirmed is declined. -/
theorem declined_iff_first (incoming : PspEventStatus) (l : List PspEventStatus) :
    (incoming :: l).foldl statusAfter .REQUIRES_CONFIRMATION = .DECLINED ↔
      incoming = .DECLINED := by
  rw [foldl_cons]
  cases incoming with
  | AUTHORIZED =>
    show l.foldl statusAfter .AUTHORIZED = _ ↔ _
    rw [foldl_statusAfter_open (.inl rfl)]
    split <;> exact iff_of_false nofun nofun
  | CAPTURED =>
    rw [foldl_statusAfter_final (by decide)]
    exact iff_of_false nofun nofun
  | DECLINED => exact iff_of_true (foldl_statusAfter_final (by decide) l) rfl

/-! ### One delivery -/

/-- A webhook that is delivered: the turns of its request, with none of another in between. -/
def delivered (env : PspEnv) (s : PspStore) (input : WebhookInput) : PspStore :=
  let (s', p) := pspTurn env (.targeting input) s
  (pspTurn env p s').1

def WebhookInput.About (input : WebhookInput) (env : PspEnv) (row : PspPayment) : Prop :=
  env.collate row.providerReference = env.collate input.dto.providerReference ∧
    env.hash input.token = row.webhookTokenHash

def PspStore.Referred (env : PspEnv) (s : PspStore) : Prop :=
  (s.payments.rows.map fun m ↦ env.collate m.providerReference).Nodup

section

variable (hs : s.Referred env) (hrow : row ∈ s.payments.rows) (habout : input.About env row)
include hs hrow habout

theorem webhookTarget_eq :
    s.webhookTarget env input.dto.providerReference = some row := by
  have hsome : (s.webhookTarget env input.dto.providerReference).isSome = true :=
    List.find?_isSome.mpr ⟨row, hrow, decide_eq_true habout.1⟩
  obtain ⟨target, htarget⟩ := Option.isSome_iff_exists.mp hsome
  have hfound := find?_some htarget
  have hsame : env.collate target.providerReference = env.collate row.providerReference :=
    (of_decide_eq_true hfound).trans habout.1.symm
  rw [htarget, inj_on_of_nodup_map hs (mem_of_find?_eq_some htarget) hrow hsame]

/-- **An event counts once**: what has been recorded is not taken again. -/
theorem delivered_cases :
    (s.eventOf env input.dto.eventId ≠ none ∧ delivered env s input = s) ∨
      (s.eventOf env input.dto.eventId = none ∧
        delivered env s input = (receiveEvent s input row).1) := by
  have htarget := webhookTarget_eq hs hrow habout
  have hturn : pspTurn env (.targeting input) s = (s, .receiving input) := by
    rw [pspTurn, targetWebhook, htarget, demand, ok_bind, ensure, if_pos habout.2]
  rw [delivered, hturn]
  dsimp only
  rw [pspTurn]
  cases hevent : s.eventOf env input.dto.eventId with
  | none =>
    refine .inr ⟨rfl, ?_⟩
    rw [webhook, hevent]
    rw [htarget]
    rfl
  | some event =>
    refine .inl ⟨Option.some_ne_none event, ?_⟩
    rcases lastStep_cases (.webhook input) s (webhook env s input) with
      ⟨e, -, heq⟩ | ⟨s', answer, hok, heq⟩
    · rw [heq]
    · rw [heq]
      rcases webhook_cases hok with ⟨_, -, -, hsame, -⟩ | ⟨hnone, -⟩
      · exact hsame
      · rw [hevent] at hnone
        cases hnone

end

def PspPayment.after (row : PspPayment) (incoming : PspEventStatus) : PspPayment :=
  row.advanced (advance row.toPspPaymentData incoming)

theorem advanced_about (next : PspAdvance) : (row.advanced next).id = row.id ∧
      (row.advanced next).providerReference = row.providerReference ∧
      (row.advanced next).webhookTokenHash = row.webhookTokenHash := by
  unfold PspPayment.advanced
  split <;> exact ⟨rfl, rfl, rfl⟩

theorem after_mem_receiveEvent (hrow : row ∈ s.payments.rows) :
    row.after input.dto.status ∈ (receiveEvent s input row).1.payments.rows :=
  mem_map.mpr ⟨row, hrow, if_pos rfl⟩

theorem referred_of_rows {s' : PspStore} {f : PspPayment → PspPayment} (hs : s.Referred env)
    (hf : ∀ m, (f m).providerReference = m.providerReference)
    (hrows : s'.payments.rows = s.payments.rows.map f) : s'.Referred env := by
  rw [PspStore.Referred, hrows, map_map]
  simpa only [PspStore.Referred, Function.comp_def, hf] using hs

theorem Referred.receiveEvent (hs : s.Referred env) :
    PspStore.Referred env (receiveEvent s input row).1 := by
  refine referred_of_rows hs (f := fun m ↦ if Keyed.key m = row.id then
    m.advanced (advance row.toPspPaymentData input.dto.status) else m) (fun m ↦ ?_) rfl
  split
  · exact (advanced_about _).2.1
  · rfl

theorem eventOf_receiveEvent (eventId : Text) :
    (receiveEvent s input row).1.eventOf env eventId = none ↔
      s.eventOf env eventId = none ∧ env.collate input.dto.eventId ≠ env.collate eventId := by
  show (List.find? _ (s.events ++ [_])) = none ↔ _
  rw [find?_append, Option.or_eq_none_iff]
  refine and_congr_right fun _ ↦ ?_
  rw [find?_singleton, ite_eq_right_iff]
  simp

/-! ### Deliveries -/

/-- **What becomes of a payment** when events about it are delivered. -/
theorem status_deliveries : ∀ {l : List WebhookInput} {s : PspStore} {row : PspPayment},
    s.Referred env → row ∈ s.payments.rows → (∀ input ∈ l, input.About env row) →
    (∀ a ∈ l, ∀ b ∈ l, env.collate a.dto.eventId = env.collate b.dto.eventId → a = b) →
    ∃ row' ∈ (l.foldl (delivered env) s).payments.rows, row'.id = row.id ∧
      ∃ news : List PspEventStatus, row'.status = news.foldl statusAfter row.status ∧
        (∀ incoming, incoming ∈ news ↔
          ∃ input ∈ l, s.eventOf env input.dto.eventId = none ∧ input.dto.status = incoming) ∧
        ∀ first rest, l = first :: rest → s.eventOf env first.dto.eventId = none →
          ∃ later, news = first.dto.status :: later := by
  intro l
  induction l with
  | nil => exact fun _ hrow _ _ ↦ ⟨_, hrow, rfl, [], rfl, by simp, nofun⟩
  | cons first l ih =>
    intro s row hs hrow habout hdistinct
    have hrest : ∀ a ∈ l, ∀ b ∈ l, env.collate a.dto.eventId = env.collate b.dto.eventId → a = b :=
      fun a ha b hb ↦ hdistinct a (mem_cons_of_mem _ ha) b (mem_cons_of_mem _ hb)
    rw [foldl_cons]
    rcases delivered_cases hs hrow (habout first mem_cons_self) with ⟨hold, hsame⟩ | ⟨hnew, hsame⟩
    · rw [hsame]
      obtain ⟨row', hrow', hid, news, hstatus, hnews, -⟩ :=
        ih hs hrow (fun input h ↦ habout input (mem_cons_of_mem _ h)) hrest
      refine ⟨row', hrow', hid, news, hstatus, fun incoming ↦ (hnews incoming).trans ?_, ?_⟩
      · simp [hold]
      · rintro _ _ ⟨⟩ hnew
        exact absurd hnew hold
    · rw [hsame]
      obtain ⟨hid, hreference, htoken⟩ :=
        @advanced_about row (advance row.toPspPaymentData first.dto.status)
      obtain ⟨row', hrow', hid', news, hstatus, hnews, -⟩ := ih (Referred.receiveEvent hs)
        (after_mem_receiveEvent hrow) (fun input h ↦ by
          rw [WebhookInput.About, PspPayment.after, hreference, htoken]
          exact habout input (mem_cons_of_mem _ h)) hrest
      refine ⟨row', hrow', hid'.trans hid, first.dto.status :: news, ?_, fun incoming ↦ ?_, ?_⟩
      · rw [hstatus, foldl_cons, PspPayment.after, status_advanced]
      · rw [mem_cons, hnews]
        constructor
        · rintro (rfl | ⟨input, hinput, hfresh, rfl⟩)
          · exact ⟨first, mem_cons_self, hnew, rfl⟩
          · exact ⟨input, mem_cons_of_mem _ hinput,
              ((eventOf_receiveEvent _).mp hfresh).1, rfl⟩
        · rintro ⟨input, hinput, hfresh, rfl⟩
          by_cases hsameId : env.collate first.dto.eventId = env.collate input.dto.eventId
          · -- the event that has just been recorded
            exact .inl (hdistinct first mem_cons_self input hinput hsameId ▸ rfl)
          · rcases mem_cons.mp hinput with rfl | hinput
            · exact absurd rfl hsameId
            · exact .inr ⟨input, hinput, (eventOf_receiveEvent _).mpr ⟨hfresh, hsameId⟩, rfl⟩
      · rintro _ _ ⟨⟩ -
        exact ⟨news, rfl⟩

def PspStore.statusOf (s : PspStore) (id : Uuid) : Option PspPaymentStatus :=
  (s.payments.find? id).map fun m ↦ m.status

theorem statusOf_eq {row : PspPayment} (hrow : row ∈ s.payments.rows) :
    s.statusOf row.id = some row.status := by
  rw [PspStore.statusOf, show s.payments.find? row.id = some row from Table.find?_key_of_mem hrow]
  rfl

/-! ### References -/

theorem referred_turn (p : PspProcess) (hs : s.Referred env) :
    (pspTurn env p s).1.Referred env := by
  cases p with
  | creating input =>
    rcases creating_cases env s input with ⟨hsame, -⟩ | ⟨s', answer, -, hinsert, -, hturn⟩
    · rwa [hsame]
    · rw [hturn]
      obtain ⟨hfree, payments, hpayments, rfl⟩ := insertPayment_eq_some hinsert
      obtain ⟨-, hrows⟩ := Table.insert_eq_some hpayments
      rw [PspStore.Referred, hrows, map_append]
      refine nodup_append'.mpr ⟨hs, nodup_singleton _, fun reference hold hnew ↦ ?_⟩
      obtain ⟨m, hm, rfl⟩ := mem_map.mp hold
      exact hfree ⟨m, hm, .inr (.inr (mem_singleton.mp hnew))⟩
  | acting input =>
    rw [pspTurn]
    rcases lastStep_cases (.action input) s (action env s input) with
      ⟨e, -, heq⟩ | ⟨s', answer, hok, heq⟩
    · rwa [heq]
    · rw [heq]
      rcases action_cases hok with ⟨row, -, -, rfl, -⟩ | ⟨-, -, row, next, -, -, rfl⟩
      · exact hs
      · refine referred_of_rows hs (f := fun m ↦ if Keyed.key m = input.paymentId then
          m.acted next else m) (fun m ↦ ?_) rfl
        split <;> rfl
  | receiving input =>
    rw [pspTurn]
    rcases lastStep_cases (.webhook input) s (webhook env s input) with
      ⟨e, -, heq⟩ | ⟨s', answer, hok, heq⟩
    · rwa [heq]
    · rw [heq]
      rcases webhook_cases hok with ⟨event, -, -, rfl, -⟩ | ⟨-, -, row, -, rfl⟩
      · exact hs
      · exact Referred.receiveEvent hs
  | _ => exact hs

def pspRun (env : PspEnv) (events : List (Event PspRequest)) : PspStore :=
  (run (step (pspPayments env)) (.idle .opening) events).store

theorem referred_run (env : PspEnv) (events : List (Event PspRequest)) :
    (pspRun env events).Referred env :=
  @run_store_induct _ _ _ (pspPayments env) (.idle .opening) (·.Referred env)
    (fun p _ ↦ referred_turn p) nodup_nil events

/-- The new ones among some events both decline a payment and do not. -/
def PspStore.Competing (env : PspEnv) (s : PspStore) (events : List WebhookInput) : Prop :=
  Compete fun incoming ↦
    ∃ input ∈ events, s.eventOf env input.dto.eventId = none ∧ input.dto.status = incoming

/-- **The order of webhooks** makes no difference, unless the payment is to be confirmed and the
events disagree on it. -/
theorem webhooks_confluent_iff (env : PspEnv) (requests : List (Event PspRequest))
    {row : PspPayment}
    (hrow : row ∈ (pspRun env requests).payments.rows) (events : List WebhookInput)
    (habout : ∀ input ∈ events, input.About env row) (hdistinct : ∀ a ∈ events, ∀ b ∈ events,
      env.collate a.dto.eventId = env.collate b.dto.eventId → a = b) :
    (∀ l l' : List WebhookInput, (∀ input, input ∈ l ↔ input ∈ events) →
      (∀ input, input ∈ l' ↔ input ∈ events) →
      (l.foldl (delivered env) (pspRun env requests)).statusOf row.id =
        (l'.foldl (delivered env) (pspRun env requests)).statusOf row.id) ↔
      ¬(row.status = .REQUIRES_CONFIRMATION ∧ (pspRun env requests).Competing env events) := by
  have hs := referred_run env requests
  generalize pspRun env requests = s at hs hrow ⊢
  have hstatus : ∀ l : List WebhookInput, (∀ input, input ∈ l ↔ input ∈ events) →
      ∃ news : List PspEventStatus, (l.foldl (delivered env) s).statusOf row.id =
        some (news.foldl statusAfter row.status) ∧
        (∀ incoming, incoming ∈ news ↔ ∃ input ∈ events,
          s.eventOf env input.dto.eventId = none ∧ input.dto.status = incoming) ∧
        ∀ first rest, l = first :: rest → s.eventOf env first.dto.eventId = none →
          ∃ later, news = first.dto.status :: later := by
    intro l hl
    obtain ⟨row', hrow', hid, news, hstatus, hnews, hfirst⟩ := status_deliveries hs hrow
      (fun input h ↦ habout input ((hl input).mp h))
      (fun a ha b hb ↦ hdistinct a ((hl a).mp ha) b ((hl b).mp hb))
    refine ⟨news, ?_, fun incoming ↦ by simp only [hnews, hl], hfirst⟩
    rw [← hid, statusOf_eq hrow', hstatus]
  constructor
  · rintro hconfluent ⟨hconfirm, ⟨declining, hdeclining, hfresh, hdeclined⟩, incoming,
      ⟨other, hother, hfresh', rfl⟩, hne⟩
    -- the first event decides: one order begins with the declining event, one with the other
    have hfirst : ∀ first ∈ events, s.eventOf env first.dto.eventId = none →
        (((first :: events).foldl (delivered env) s).statusOf row.id = some .DECLINED ↔
          first.dto.status = .DECLINED) := by
      intro first hmem hnew
      obtain ⟨news, hnews, -, hlater⟩ := hstatus (first :: events) fun input ↦
        ⟨fun h ↦ (mem_cons.mp h).elim (fun heq ↦ heq ▸ hmem) id, mem_cons_of_mem _⟩
      obtain ⟨later, rfl⟩ := hlater first events rfl hnew
      rw [hnews, hconfirm, Option.some_inj]
      exact declined_iff_first _ later
    have hsame := hconfluent (declining :: events) (other :: events)
      (fun input ↦ ⟨fun h ↦ (mem_cons.mp h).elim (fun heq ↦ heq ▸ hdeclining) id,
        mem_cons_of_mem _⟩)
      (fun input ↦ ⟨fun h ↦ (mem_cons.mp h).elim (fun heq ↦ heq ▸ hother) id,
        mem_cons_of_mem _⟩)
    rw [(hfirst declining hdeclining hfresh).mpr hdeclined] at hsame
    exact hne ((hfirst other hother hfresh').mp hsame.symm)
  · intro hapart l l' hl hl'
    obtain ⟨news, hnews, hmem, -⟩ := hstatus l hl
    obtain ⟨news', hnews', hmem', -⟩ := hstatus l' hl'
    rw [hnews, hnews']
    refine congrArg some (foldl_statusAfter_congr (fun incoming ↦ ?_) fun hconfirm hcompete ↦ ?_)
    · rw [hmem, hmem']
    · refine hapart ⟨hconfirm, ?_⟩
      simpa only [PspStore.Competing, hmem] using hcompete

/-! ### A payment that is both declined and captured -/

def webhookOf (eventId : String) (status : PspEventStatus) : WebhookInput where
  token := textOf "token"
  dto := {
    eventId := textOf eventId, providerReference := textOf "PSP-order-1", status := status,
    occurredAt := textOf "2026-01-01T00:00:00.000Z" }

def toConfirm : PspStore :=
  pspRun pspSimulator (inTurn [intentOf 1 "order-1" "create-0001"])

theorem isSome_confirming : (toConfirm.payments.find? 1).isSome = true := by
  decide +kernel

def confirming : PspPayment := (toConfirm.payments.find? 1).get isSome_confirming

theorem confirming_mem : confirming ∈ toConfirm.payments.rows :=
  Table.mem_of_find? (Option.some_get isSome_confirming).symm

theorem webhookOf_about (eventId : String) (status : PspEventStatus) :
    (webhookOf eventId status).About pspSimulator confirming := by
  have hreference : confirming.providerReference = textOf "PSP-order-1" := by decide +kernel
  have htoken : confirming.webhookTokenHash = textOf "token" := by decide +kernel
  exact ⟨hreference, htoken.symm⟩

theorem webhooks_distinct {first second : WebhookInput}
    (h : pspSimulator.collate first.dto.eventId ≠ pspSimulator.collate second.dto.eventId) :
    ∀ a ∈ [first, second], ∀ b ∈ [first, second],
      pspSimulator.collate a.dto.eventId = pspSimulator.collate b.dto.eventId → a = b := by
  simp only [forall_mem_cons, not_mem_nil, false_implies, implies_true, and_true, true_and]
  exact ⟨fun heq ↦ absurd heq h, fun heq ↦ absurd heq.symm h⟩

theorem webhooks_confluent_captured :
    ([webhookOf "event-1" .CAPTURED, webhookOf "event-2" .AUTHORIZED].foldl
      (delivered pspSimulator) toConfirm).statusOf confirming.id =
    ([webhookOf "event-2" .AUTHORIZED, webhookOf "event-1" .CAPTURED].foldl
      (delivered pspSimulator) toConfirm).statusOf confirming.id := by
  refine (webhooks_confluent_iff pspSimulator _ confirming_mem [webhookOf "event-1" .CAPTURED,
    webhookOf "event-2" .AUTHORIZED] ?_ ?_).mpr ?_ _ _ (fun _ ↦ Iff.rfl)
      fun input ↦ by simp only [mem_pair, or_comm]
  · simp only [forall_mem_cons, webhookOf_about, not_mem_nil, false_implies, implies_true,
      and_true]
  · exact webhooks_distinct (by decide +kernel)
  · rintro ⟨-, ⟨input, hinput, -, hdeclined⟩, -⟩
    rcases mem_pair.mp hinput with rfl | rfl <;> cases hdeclined

/-- **The first webhook decides**: a decline and a capture, in both orders. -/
theorem first_webhook_decides : ¬∀ (env : PspEnv) (requests : List (Event PspRequest)),
    ∀ row ∈ (pspRun env requests).payments.rows, ∀ events : List WebhookInput,
      (∀ input ∈ events, input.About env row) →
      (∀ a ∈ events, ∀ b ∈ events, env.collate a.dto.eventId = env.collate b.dto.eventId → a = b) →
      ∀ l l' : List WebhookInput, (∀ input, input ∈ l ↔ input ∈ events) →
        (∀ input, input ∈ l' ↔ input ∈ events) →
        (l.foldl (delivered env) (pspRun env requests)).statusOf row.id =
          (l'.foldl (delivered env) (pspRun env requests)).statusOf row.id := by
  intro h
  have hsame := h pspSimulator (inTurn [intentOf 1 "order-1" "create-0001"]) confirming
    confirming_mem [webhookOf "event-1" .DECLINED, webhookOf "event-2" .CAPTURED]
    (by simp only [forall_mem_cons, webhookOf_about, not_mem_nil, false_implies,
      implies_true, and_true])
    (webhooks_distinct (by decide +kernel))
    [webhookOf "event-1" .DECLINED, webhookOf "event-2" .CAPTURED]
    [webhookOf "event-2" .CAPTURED, webhookOf "event-1" .DECLINED]
    (fun _ ↦ Iff.rfl) (fun input ↦ by simp only [mem_pair, or_comm])
  have hone : confirming.id = 1 := by decide +kernel
  rw [hone] at hsame
  exact absurd hsame (by decide +kernel)

end UInventario.Integrations.Psp
