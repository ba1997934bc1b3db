import UInventario.Integrations.PspPayments

/-!
# Safety of payments

What holds of the payments in any interleaving of requests that may stop between their statements.

* The amounts of a payment agree with its status (`Sound`), and one that has been captured or
  declined stays so (`Advanced`): both are read off `Moves`, what one action or webhook may do.
* A turn writes only when it answers a first request (`Undisturbed`).
* The actions of one key and the webhooks of one event agree (`Ledger.Agree`): both are recorded in
  the transaction that executes them.
* The answer of an intent may be read off the row of the merchant's reference. `MerchantsApart` says
  when it is not.
-/

namespace UInventario.Integrations.Psp

open Outcome Processes Table List

variable {env : PspEnv} {s s' : PspStore} {p q : PspProcess} {input : CreateInput} {next : PspNext}
  {covered : PspRequest → Bool}

/-! ### One payment -/

def PspPaymentStatus.Captured (status : PspPaymentStatus) : Prop :=
  status = .CAPTURED ∨ status = .PARTIALLY_REFUNDED ∨ status = .REFUNDED
deriving Decidable

/-- **The amounts of a payment agree with its status.** -/
structure PspPaymentData.Sound (payment : PspPaymentData) : Prop where
  amount_pos : 0 < payment.amount
  refunded_le : payment.refundedAmount ≤ payment.amount
  refunded_iff : payment.status = .REFUNDED ↔ payment.refundedAmount = payment.amount
  partially_iff : payment.status = .PARTIALLY_REFUNDED ↔
    0 < payment.refundedAmount ∧ payment.refundedAmount < payment.amount

/-- **What may become of a payment.** -/
structure Moves (row row' : PspPayment) : Prop where
  id : row'.id = row.id
  amount : row'.amount = row.amount
  createIdempotencyKey : row'.createIdempotencyKey = row.createIdempotencyKey
  requestFingerprint : row'.requestFingerprint = row.requestFingerprint
  sound : row.Sound → row'.Sound
  refunded_le : row.refundedAmount ≤ row'.refundedAmount
  captured : row.status.Captured → row'.status.Captured
  declined : row.status = .DECLINED → row'.status = .DECLINED

theorem Moves.refl (row : PspPayment) : Moves row row :=
  ⟨rfl, rfl, rfl, rfl, fun h ↦ h, le_rfl, fun h ↦ h, fun h ↦ h⟩

theorem PspPaymentData.Sound.of_unrefunded {payment payment' : PspPaymentData} (h : payment.Sound)
    (hamount : payment'.amount = payment.amount)
    (hrefunded : payment'.refundedAmount = payment.refundedAmount)
    (hstatus : payment.status ≠ .REFUNDED ∧ payment.status ≠ .PARTIALLY_REFUNDED)
    (hstatus' : payment'.status ≠ .REFUNDED ∧ payment'.status ≠ .PARTIALLY_REFUNDED) :
    payment'.Sound where
  amount_pos := hamount ▸ h.amount_pos
  refunded_le := by
    rw [hamount, hrefunded]
    exact h.refunded_le
  refunded_iff := by
    rw [hamount, hrefunded]
    exact ⟨fun heq ↦ absurd heq hstatus'.1, fun heq ↦ absurd (h.refunded_iff.mpr heq) hstatus.1⟩
  partially_iff := by
    rw [hamount, hrefunded]
    exact ⟨fun heq ↦ absurd heq hstatus'.2, fun hlt ↦ absurd (h.partially_iff.mpr hlt) hstatus.2⟩

theorem moves_of_status_eq {row : PspPayment} (errorCode : Option Text) :
    Moves row { row with errorCode := errorCode } :=
  ⟨rfl, rfl, rfl, rfl, fun h ↦ ⟨h.amount_pos, h.refunded_le, h.refunded_iff, h.partially_iff⟩,
    le_rfl,
    id, id⟩

theorem moves_of_open {row : PspPayment} {status : PspPaymentStatus} (errorCode : Option Text)
    (hopen : ¬row.status.Captured ∧ row.status ≠ .DECLINED)
    (hstatus : status ≠ .REFUNDED ∧ status ≠ .PARTIALLY_REFUNDED) :
    Moves row { row with status := status, errorCode := errorCode } where
  id := rfl
  amount := rfl
  createIdempotencyKey := rfl
  requestFingerprint := rfl
  sound h := h.of_unrefunded rfl rfl
    ⟨fun heq ↦ hopen.1 (.inr (.inr heq)), fun heq ↦ hopen.1 (.inr (.inl heq))⟩ hstatus
  refunded_le := le_rfl
  captured h := absurd h hopen.1
  declined h := absurd h hopen.2

theorem moves_confirm {row : PspPayment}
    (h : confirm row.toPspPaymentData = .ok next) : Moves row (row.acted next) := by
  unfold confirm at h
  split at h
  · rename_i hstatus
    have hopen : ¬row.status.Captured ∧ row.status ≠ .DECLINED := by
      rw [hstatus]
      decide
    rw [pure_eq_ok] at h
    subst h
    unfold adapterConfirm
    split
    · exact moves_of_open _ hopen (by decide)
    · exact moves_of_open _ hopen (by decide)
  · split at h
    · rw [pure_eq_ok] at h
      subst h
      exact Moves.refl row
    · cases h

theorem moves_capture {row : PspPayment}
    (h : capture row.toPspPaymentData = .ok next) : Moves row (row.acted next) := by
  unfold capture at h
  split at h
  · cases h
  · split at h
    · rw [pure_eq_ok] at h
      subst h
      exact Moves.refl row
    · split at h
      · cases h
      · rename_i hstatus
        have hauthorized : row.status = .AUTHORIZED := Decidable.not_not.mp hstatus
        have hopen : ¬row.status.Captured ∧ row.status ≠ .DECLINED := by
          rw [hauthorized]
          decide
        rw [pure_eq_ok] at h
        subst h
        unfold adapterCapture
        split
        · exact moves_of_open _ hopen (by decide)
        · exact moves_of_open _ hopen (by decide)

theorem moves_query {row : PspPayment}
    (h : query row.toPspPaymentData = .ok next) : Moves row (row.acted next) := by
  rw [query, pure_eq_ok] at h
  subst h
  unfold adapterQuery
  split
  · rename_i hstatus
    have hopen : ¬row.status.Captured ∧ row.status ≠ .DECLINED := by
      rw [show row.status = .INDETERMINATE from hstatus]
      decide
    exact moves_of_open _ hopen (by decide)
  · exact Moves.refl row

/-- **A refund** is the one action that touches the refunded amount. -/
theorem moves_refund {row : PspPayment} {amount : ℕ}
    (h : refund amount row.toPspPaymentData = .ok next) : Moves row (row.acted next) := by
  simp only [refund, eq_ok] at h
  obtain ⟨_, hstatus, _, ⟨hpos, hle⟩, rfl⟩ := h
  have hcaptured : (if row.refundedAmount + amount = row.amount then PspPaymentStatus.REFUNDED else
      .PARTIALLY_REFUNDED).Captured := by
    split
    · exact .inr (.inr rfl)
    · exact .inr (.inl rfl)
  refine ⟨rfl, rfl, rfl, rfl, fun hsound ↦ ⟨hsound.amount_pos, hle, ?_, ?_⟩,
    Nat.le_add_right _ _, fun _ ↦ hcaptured, fun heq ↦ ?_⟩
  · split
    · rename_i heq
      exact ⟨fun _ ↦ heq, fun _ ↦ rfl⟩
    · rename_i hne
      exact ⟨by rintro ⟨⟩, fun heq ↦ absurd heq hne⟩
  · split
    · rename_i heq
      exact ⟨by rintro ⟨⟩, fun hlt ↦ absurd heq hlt.2.ne⟩
    · rename_i hne
      exact ⟨fun _ ↦ ⟨Nat.add_pos_right _ hpos, lt_of_le_of_ne hle hne⟩, fun _ ↦ rfl⟩
  · rcases hstatus with hstatus | hstatus
    · exact absurd (heq.symm.trans hstatus) (by decide)
    · exact absurd (heq.symm.trans hstatus) (by decide)

/-- **Every action.** -/
theorem moves_execute {row : PspPayment} {command : PspCommand}
    (h : command.execute row.toPspPaymentData = .ok next) : Moves row (row.acted next) := by
  cases command with
  | confirm => exact moves_confirm h
  | capture => exact moves_capture h
  | query => exact moves_query h
  | refund amount => exact moves_refund h

/-- **Every webhook.** -/
theorem moves_advance (row : PspPayment) (incoming : PspEventStatus) :
    Moves row (row.advanced (advance row.toPspPaymentData incoming)) := by
  unfold PspPayment.advanced
  split
  · exact Moves.refl row
  · rename_i hkept
    unfold advance at hkept ⊢
    split
    · exact moves_of_status_eq none
    · rename_i hcaptured
      split
      · exact moves_of_status_eq none
      · rename_i hdeclined
        split
        · exact moves_of_status_eq none
        · split
          · exact moves_of_status_eq none
          · refine moves_of_open none ⟨hcaptured, hdeclined⟩ ?_
            cases incoming <;> decide

/-! ### One turn -/

def PspStore.createKeys (env : PspEnv) (s : PspStore) : List Text :=
  s.payments.rows.map fun m ↦ env.collate m.createIdempotencyKey

/-- **What a turn may do**: payments move, one may come in, actions and events are added. -/
structure Progress (env : PspEnv) (s s' : PspStore) : Prop where
  payments : ∃ (f : PspPayment → PspPayment) (added : List PspPayment),
    s'.payments.rows = s.payments.rows.map f ++ added ∧ (∀ m ∈ s.payments.rows, Moves m (f m)) ∧
    (∀ m ∈ added, m.Sound) ∧ (∀ m ∈ added, env.collate m.createIdempotencyKey ∉ s.createKeys env) ∧
    added.length ≤ 1
  actions : ∃ added, s'.actions = s.actions ++ added
  events : ∃ added, s'.events = s.events ++ added

theorem Progress.refl (s : PspStore) : Progress env s s where
  payments := ⟨id, [], by rw [map_id, append_nil], fun m _ ↦ Moves.refl m, nofun, nofun,
    Nat.zero_le 1⟩
  actions := ⟨[], (append_nil _).symm⟩
  events := ⟨[], (append_nil _).symm⟩

theorem progress_of_update {id : Uuid} {f : PspPayment → PspPayment} (hf : ∀ m, (f m).id = m.id)
    {row : PspPayment} (hrow : s.payments.find? id = some row) (hmoves : Moves row (f row))
    {actions : List PspPaymentAction} {events : List PspWebhookEvent} :
    Progress env s
      { payments := s.payments.update id f hf
        actions := s.actions ++ actions
        events := s.events ++ events } where
  payments := by
    refine ⟨fun m ↦ if Keyed.key m = id then f m else m, [],
      by rw [rows_update, append_nil], fun m hm ↦ ?_, nofun, nofun, Nat.zero_le 1⟩
    show Moves m (if Keyed.key m = id then f m else m)
    split
    · rename_i hid
      have hsame : m = row := eq_of_mem_of_key_eq hm (mem_of_find? hrow)
        (hid.trans (key_of_find? hrow).symm)
      exact hsame ▸ hmoves
    · exact Moves.refl m
  actions := ⟨actions, rfl⟩
  events := ⟨events, rfl⟩

theorem insertPayment_eq_some {row : PspPayment} (h : insertPayment env s row = some s') :
    ¬s.Taken env row ∧ ∃ payments, s.payments.insert row = some payments ∧
      s' = { s with payments := payments } := by
  unfold insertPayment at h
  split at h
  · cases h
  · rename_i hfree
    obtain ⟨payments, hpayments, rfl⟩ := Option.map_eq_some_iff.mp h
    exact ⟨hfree, payments, hpayments, rfl⟩

theorem not_mem_createKeys {row : PspPayment} (h : ¬s.Taken env row) :
    env.collate row.createIdempotencyKey ∉ s.createKeys env := by
  intro hmem
  obtain ⟨m, hm, hkey⟩ := mem_map.mp hmem
  exact h ⟨m, hm, .inl hkey⟩

theorem checkCreate_eq_ok (h : checkCreate input = .ok ⟨⟩) : 0 < input.amount := by
  simp only [checkCreate, eq_ok] at h
  obtain ⟨_, -, hpos⟩ := h
  exact hpos

theorem sound_row (env : PspEnv) (h : 0 < input.amount) : (input.row env).Sound where
  amount_pos := h
  refunded_le := Nat.zero_le _
  refunded_iff := ⟨nofun, fun heq ↦ absurd heq h.ne⟩
  partially_iff := ⟨nofun, fun hlt ↦ absurd hlt.1 (Nat.lt_irrefl 0)⟩

/-- **An action** repeats, or is the first one under its key. -/
theorem action_cases {input : ActionInput} {answer : PspAnswer}
    (h : action env s input = .ok (s', answer)) :
    (∃ row, s.actionOf env input.idempotencyKey = some row ∧
      row.requestFingerprint = input.fingerprint ∧ s' = s ∧ answer.replay = true) ∨
    (s.actionOf env input.idempotencyKey = none ∧ answer.replay = false ∧ ∃ row next,
      s.payments.find? input.paymentId = some row ∧
      input.command.execute row.toPspPaymentData = .ok next ∧
      s' = { s with
        payments := s.payments.update input.paymentId (PspPayment.acted next)
        actions := s.actions ++ [{
          paymentId := input.paymentId, action := input.command.action,
          idempotencyKey := input.idempotencyKey, requestFingerprint := input.fingerprint,
          result := (row.acted next).toPspPaymentData }] }) := by
  simp only [action, eq_ok] at h
  obtain ⟨_, -, found, hfound, h⟩ := h
  unfold actionReplay at hfound
  split at hfound
  · rename_i hnone
    rw [pure_eq_ok] at hfound
    subst hfound
    simp only [execute, eq_ok, Prod.mk.injEq] at h
    obtain ⟨row, hrow, next, hnext, rfl, rfl⟩ := h
    exact .inr ⟨hnone, rfl, row, next, hrow, hnext, rfl⟩
  · rename_i row hrow
    simp only [eq_ok] at hfound
    obtain ⟨_, ⟨-, -, hfingerprint⟩, rfl⟩ := hfound
    simp only [pure_eq_ok, Prod.mk.injEq] at h
    obtain ⟨rfl, rfl⟩ := h
    exact .inl ⟨row, hrow, hfingerprint, rfl, rfl⟩

/-- **A webhook** repeats, or is the first one of its event. -/
theorem webhook_cases {input : WebhookInput} {answer : PspAnswer}
    (h : webhook env s input = .ok (s', answer)) :
    (∃ event, s.eventOf env input.dto.eventId = some event ∧ event.eventFingerprint = input.dto ∧
      s' = s ∧ answer.replay = true) ∨
    (s.eventOf env input.dto.eventId = none ∧ answer.replay = false ∧
      ∃ row, row ∈ s.payments.rows ∧ s' = (receiveEvent s input row).1) := by
  unfold webhook at h
  split at h
  · rename_i event hevent
    simp only [eq_ok, Prod.mk.injEq] at h
    obtain ⟨_, hfingerprint, row, -, rfl, rfl⟩ := h
    exact .inl ⟨event, hevent, hfingerprint, rfl, rfl⟩
  · rename_i hnone
    simp only [eq_ok] at h
    obtain ⟨row, hrow, heq⟩ := h
    refine .inr ⟨hnone, ?_, row, mem_of_find?_eq_some hrow, ?_⟩
    · exact (congrArg (fun r ↦ r.2.replay) heq).symm
    · exact (congrArg Prod.fst heq).symm

theorem progress_receiveEvent {input : WebhookInput} {row : PspPayment}
    (hrow : row ∈ s.payments.rows) : Progress env s (receiveEvent s input row).1 := by
  have hstep := @progress_of_update env s row.id
    (PspPayment.advanced (advance row.toPspPaymentData input.dto.status))
    (fun m ↦ by unfold PspPayment.advanced; split <;> rfl) row (find?_key_of_mem hrow)
    (moves_advance row input.dto.status) [] [{
      paymentId := row.id, eventId := input.dto.eventId, eventFingerprint := input.dto,
      ignoredOutOfOrder := (advance row.toPspPaymentData input.dto.status).ignoredOutOfOrder }]
  rw [append_nil] at hstep
  exact hstep

theorem lastStep_cases (request : PspRequest) (s : PspStore)
    (result : Except PspFailure (PspStore × PspAnswer)) :
    (∃ e, result = .error e ∧ lastStep request s result = (s, .answered request (.error e))) ∨
      ∃ s' answer, result = .ok (s', answer) ∧
        lastStep request s result = (s', .answered request (.ok answer)) := by
  cases result with
  | error e => exact .inl ⟨e, rfl, rfl⟩
  | ok answer => exact .inr ⟨answer.1, answer.2, rfl, rfl⟩

/-- **What the turns of an intent come to.** -/
theorem creating_cases (env : PspEnv) (s : PspStore) (input : CreateInput) :
    ((pspTurn env (.creating input) s).1 = s ∧
      ∀ request answer, (pspTurn env (.creating input) s).2 ≠ .answered request (.ok answer)) ∨
    ∃ s' answer, 0 < input.amount ∧ insertPayment env s (input.row env) = some s' ∧
      answer.replay = false ∧
      pspTurn env (.creating input) s = (s', .answered (.create input) (.ok answer)) := by
  cases hcheck : checkCreate input with
  | error e =>
    have hturn : pspTurn env (.creating input) s = (s, .answered (.create input) (.error e)) := by
      rw [pspTurn, hcheck]
    rw [hturn]
    exact .inl ⟨rfl, fun _ _ h ↦ by cases h⟩
  | ok _ =>
    cases hinsert : insertPayment env s (input.row env) with
    | none =>
      have hturn : pspTurn env (.creating input) s = (s, .replaying input) := by
        rw [pspTurn, hcheck]
        rw [hinsert]
      rw [hturn]
      exact .inl ⟨rfl, fun _ _ h ↦ by cases h⟩
    | some s' =>
      refine .inr ⟨s', {
        payment := (input.row env).toPspPaymentData, replay := false,
        ignoredOutOfOrder := none }, checkCreate_eq_ok hcheck, rfl, rfl, ?_⟩
      rw [pspTurn, hcheck]
      rw [hinsert]

/-- **One turn** makes progress. -/
theorem progress_turn (env : PspEnv) (p : PspProcess) (s : PspStore) :
    Progress env s (pspTurn env p s).1 := by
  cases p with
  | creating input =>
    rcases creating_cases env s input with ⟨hsame, -⟩ | ⟨s', answer, hpos, hinsert, -, hturn⟩
    · rw [hsame]
      exact Progress.refl s
    · rw [hturn]
      obtain ⟨hfree, payments, hpayments, rfl⟩ := insertPayment_eq_some hinsert
      obtain ⟨-, hrows⟩ := insert_eq_some hpayments
      refine ⟨⟨id, [input.row env], ?_, fun m _ ↦ Moves.refl m, fun m hm ↦ ?_, fun m hm ↦ ?_,
        Nat.le_refl 1⟩, ⟨[], (append_nil _).symm⟩, ⟨[], (append_nil _).symm⟩⟩
      · rw [map_id]
        exact hrows
      · exact mem_singleton.mp hm ▸ sound_row env hpos
      · exact mem_singleton.mp hm ▸ not_mem_createKeys hfree
  | acting input =>
    rw [pspTurn]
    rcases lastStep_cases (.action input) s (action env s input) with
      ⟨e, -, heq⟩ | ⟨s', answer, hok, heq⟩
    · rw [heq]
      exact Progress.refl s
    · rw [heq]
      rcases action_cases hok with ⟨row, -, -, rfl, -⟩ | ⟨-, -, row, next, hrow, hnext, rfl⟩
      · exact Progress.refl _
      · have hstep := @progress_of_update env s input.paymentId (PspPayment.acted next)
          (fun _ ↦ rfl) row hrow (moves_execute hnext) [{
            paymentId := input.paymentId, action := input.command.action,
            idempotencyKey := input.idempotencyKey, requestFingerprint := input.fingerprint,
            result := (row.acted next).toPspPaymentData }] []
        rw [append_nil] at hstep
        exact hstep
  | receiving input =>
    rw [pspTurn]
    rcases lastStep_cases (.webhook input) s (webhook env s input) with
      ⟨e, -, heq⟩ | ⟨s', answer, hok, heq⟩
    · rw [heq]
      exact Progress.refl s
    · rw [heq]
      rcases webhook_cases hok with ⟨event, -, -, rfl, -⟩ | ⟨-, -, row, hrow, rfl⟩
      · exact Progress.refl _
      · exact progress_receiveEvent hrow
  | _ => exact Progress.refl s

/-! ### Payments along a run -/

/-- **What holds of the payments later on**: those captured or declined stay so, and no refund is
taken back. -/
def Advanced (s s' : PspStore) : Prop :=
  ∀ m ∈ s.payments.rows, ∃ m' ∈ s'.payments.rows, m'.id = m.id ∧ m'.amount = m.amount ∧
    m.refundedAmount ≤ m'.refundedAmount ∧ (m.status.Captured → m'.status.Captured) ∧
    (m.status = .DECLINED → m'.status = .DECLINED)

theorem Advanced.refl (s : PspStore) : Advanced s s :=
  fun m hm ↦ ⟨m, hm, rfl, rfl, le_rfl, fun h ↦ h, fun h ↦ h⟩

theorem Advanced.trans {s'' : PspStore} (h : Advanced s s') (h' : Advanced s' s'') :
    Advanced s s'' := by
  intro m hm
  obtain ⟨m', hm', hid, hamount, hrefunded, hcaptured, hdeclined⟩ := h m hm
  obtain ⟨m'', hm'', hid', hamount', hrefunded', hcaptured', hdeclined'⟩ := h' m' hm'
  exact ⟨m'', hm'', hid'.trans hid, hamount'.trans hamount, hrefunded.trans hrefunded',
    fun h ↦ hcaptured' (hcaptured h), fun h ↦ hdeclined' (hdeclined h)⟩

theorem Progress.advanced (h : Progress env s s') : Advanced s s' := by
  obtain ⟨f, added, hrows, hmoves, -⟩ := h.payments
  intro m hm
  have hmove : Moves m (f m) := hmoves m hm
  refine ⟨f m, ?_, hmove.id, hmove.amount, hmove.refunded_le, hmove.captured, hmove.declined⟩
  rw [hrows]
  exact mem_append_left _ (mem_map_of_mem hm)

theorem Progress.sound (h : Progress env s s') (hs : ∀ m ∈ s.payments.rows, m.Sound) :
    ∀ m ∈ s'.payments.rows, m.Sound := by
  obtain ⟨f, added, hrows, hmoves, hadded, -⟩ := h.payments
  intro m hm
  rw [hrows] at hm
  rcases mem_append.mp hm with hm | hm
  · obtain ⟨old, hold, rfl⟩ := mem_map.mp hm
    exact (hmoves old hold).sound (hs old hold)
  · exact hadded m hm

theorem Progress.createKeys (h : Progress env s s') (hs : (s.createKeys env).Nodup) :
    (s'.createKeys env).Nodup := by
  obtain ⟨f, added, hrows, hmoves, -, hfresh, hone⟩ := h.payments
  have hsame : (s.payments.rows.map f).map (fun m ↦ env.collate m.createIdempotencyKey) =
      s.createKeys env := by
    rw [map_map]
    refine map_congr_left fun m hm ↦ ?_
    show env.collate (f m).createIdempotencyKey = env.collate m.createIdempotencyKey
    rw [(hmoves m hm).createIdempotencyKey]
  rw [PspStore.createKeys, hrows, map_append, hsame]
  refine nodup_append'.mpr ⟨hs, ?_, fun key hkey hnew ↦ ?_⟩
  · cases added with
    | nil => exact nodup_nil
    | cons m rest =>
      have hrest : rest = [] := by
        rw [length_cons] at hone
        exact eq_nil_of_length_eq_zero (by omega)
      rw [hrest]
      exact nodup_singleton _
  · obtain ⟨m, hm, rfl⟩ := mem_map.mp hnew
    exact hfresh m hm hkey

/-! ### Records -/

/-- The keys of requests: of intents, of actions, and the events of the provider. -/
inductive PspKey
  | create (key : Text)
  | action (key : Text)
  | event (key : Text)
  deriving DecidableEq

inductive PspBody
  | create (fingerprint : CreateFingerprint)
  | action (fingerprint : ActionFingerprint)
  | event (fingerprint : EventFingerprint)
  deriving DecidableEq

def PspRequest.key (env : PspEnv) : PspRequest → PspKey
  | .create input => .create (env.collate input.idempotencyKey)
  | .action input => .action (env.collate input.idempotencyKey)
  | .webhook input => .event (env.collate input.dto.eventId)

def PspRequest.body : PspRequest → PspBody
  | .create input => .create input.fingerprint
  | .action input => .action input.fingerprint
  | .webhook input => .event input.dto

def PspStore.recorded (env : PspEnv) (s : PspStore) : PspKey → Option PspBody
  | .create key => (s.payments.rows.find? fun m ↦ env.collate m.createIdempotencyKey = key).map
      fun m ↦ .create m.requestFingerprint
  | .action key => (s.actions.find? fun a ↦ env.collate a.idempotencyKey = key).map
      fun a ↦ .action a.requestFingerprint
  | .event key => (s.events.find? fun e ↦ env.collate e.eventId = key).map
      fun e ↦ .event e.eventFingerprint

/-- What a request has been answered under, when it is one of those that are looked at. -/
def PspProcess.answer (env : PspEnv) (covered : PspRequest → Bool) :
    PspProcess → Option (Answered PspKey PspBody)
  | .answered request (.ok answer) =>
    if covered request = true then some {
      key := request.key env, body := request.body, replay := answer.replay }
    else none
  | _ => none

/-- **The ledger** of payments, actions and events. -/
def pspLedger (env : PspEnv) (covered : PspRequest → Bool) :
    Ledger PspStore PspProcess PspKey PspBody where
  recorded := PspStore.recorded env
  answer := PspProcess.answer env covered

theorem recorded_create (hs : (s.createKeys env).Nodup) {m : PspPayment}
    (hm : m ∈ s.payments.rows) {key : Text} (hkey : env.collate m.createIdempotencyKey = key) :
    s.recorded env (.create key) = some (.create m.requestFingerprint) := by
  show (s.payments.rows.find? fun m ↦ env.collate m.createIdempotencyKey = key).map _ = _
  cases hfound : s.payments.rows.find? fun m ↦ env.collate m.createIdempotencyKey = key with
  | none =>
    have hnot := List.find?_eq_none.mp hfound m hm
    rw [decide_eq_true_eq] at hnot
    exact absurd hkey hnot
  | some m' =>
    have hkey' := find?_some hfound
    rw [decide_eq_true_eq] at hkey'
    have hsame : m' = m := inj_on_of_nodup_map hs (mem_of_find?_eq_some hfound) hm
      (hkey'.trans hkey.symm)
    rw [hsame]
    rfl

/-- **Records stay.** -/
theorem Progress.recorded (h : Progress env s s') (hs : (s.createKeys env).Nodup) {key : PspKey}
    {body : PspBody} (hrecorded : s.recorded env key = some body) :
    s'.recorded env key = some body := by
  cases key with
  | create key =>
    obtain ⟨m, hfound, rfl⟩ := Option.map_eq_some_iff.mp hrecorded
    have hkey := find?_some hfound
    rw [decide_eq_true_eq] at hkey
    have hm : m ∈ s.payments.rows := mem_of_find?_eq_some hfound
    have hs' := h.createKeys hs
    obtain ⟨f, added, hrows, hmoves, -⟩ := h.payments
    have hmove : Moves m (f m) := hmoves m hm
    have hm' : f m ∈ s'.payments.rows := by
      rw [hrows]
      exact mem_append_left _ (mem_map_of_mem hm)
    rw [recorded_create hs' hm' ((congrArg env.collate hmove.createIdempotencyKey).trans hkey),
      hmove.requestFingerprint]
  | action key =>
    obtain ⟨a, hfound, rfl⟩ := Option.map_eq_some_iff.mp hrecorded
    obtain ⟨added, hactions⟩ := h.actions
    show (s'.actions.find? fun a ↦ env.collate a.idempotencyKey = key).map _ = _
    rw [hactions, find?_append, hfound]
    rfl
  | event key =>
    obtain ⟨e, hfound, rfl⟩ := Option.map_eq_some_iff.mp hrecorded
    obtain ⟨added, hevents⟩ := h.events
    show (s'.events.find? fun e ↦ env.collate e.eventId = key).map _ = _
    rw [hevents, find?_append, hfound]
    rfl

/-- **The condition on intents**: the payment of a merchant's reference was created under the key of
the request that repeats it. -/
def PspProcess.MerchantsApart (env : PspEnv) (covered : PspRequest → Bool) (s : PspStore) :
    PspProcess → Prop
  | .replaying input => covered (.create input) = true → ∀ m ∈ s.payments.rows,
      env.collate m.merchantReference = env.collate input.merchantReference →
      env.collate m.createIdempotencyKey = env.collate input.idempotencyKey
  | _ => True

abbrev MerchantsApart (env : PspEnv) (covered : PspRequest → Bool) :
    State PspStore PspProcess → Event PspRequest → Prop :=
  AtTurn fun st p ↦ p.MerchantsApart env covered st.store

theorem replayCreate_recorded (hs : (s.createKeys env).Nodup)
    {answer : PspAnswer} (h : replayCreate env s input = .ok answer)
    (hapart : ∀ m ∈ s.payments.rows,
      env.collate m.merchantReference = env.collate input.merchantReference →
      env.collate m.createIdempotencyKey = env.collate input.idempotencyKey) :
    answer.replay = true ∧ s.recorded env (.create (env.collate input.idempotencyKey)) =
      some (.create input.fingerprint) := by
  simp only [replayCreate, eq_ok] at h
  obtain ⟨existing, hfound, _, hfingerprint, rfl⟩ := h
  have hmem : existing ∈ s.payments.rows :=
    (env.scan_perm s.payments.rows).mem_iff.mp (mem_of_find?_eq_some hfound)
  have hmatch := find?_some hfound
  rw [decide_eq_true_eq] at hmatch
  have hkey : env.collate existing.createIdempotencyKey = env.collate input.idempotencyKey := by
    rcases hmatch with hkey | hmerchant
    · exact hkey
    · exact hapart existing hmem hmerchant
  exact ⟨rfl, hfingerprint ▸ recorded_create hs hmem hkey⟩

def AnsweredAs (env : PspEnv) (s s' : PspStore) (request : PspRequest) (replay : Bool) : Prop :=
  s'.recorded env (request.key env) = some request.body ∧
    (replay = false → s.recorded env (request.key env) = none)

theorem answered_creating (hs : (s.createKeys env).Nodup)
    (hinsert : insertPayment env s (input.row env) = some s') :
    AnsweredAs env s s' (.create input) false := by
  obtain ⟨hfree, payments, hpayments, rfl⟩ := insertPayment_eq_some hinsert
  obtain ⟨-, hrows⟩ := insert_eq_some hpayments
  have hfresh := not_mem_createKeys hfree
  refine ⟨?_, fun _ ↦ ?_⟩
  · have hs' : (({ s with payments := payments } : PspStore).createKeys env).Nodup := by
      show (payments.rows.map _).Nodup
      rw [hrows, map_append]
      refine nodup_append'.mpr ⟨hs, nodup_singleton _, fun key hkey hnew ↦ ?_⟩
      rw [mem_singleton.mp hnew] at hkey
      exact hfresh hkey
    have hmem : input.row env ∈ payments.rows := (mem_insert hpayments).mpr (.inr rfl)
    exact recorded_create hs' hmem rfl
  · show (s.payments.rows.find? _).map _ = none
    rw [Option.map_eq_none_iff, find?_eq_none]
    intro m hm
    rw [decide_eq_true_eq]
    exact fun hkey ↦ hfree ⟨m, hm, .inl hkey⟩

theorem answered_acting {input : ActionInput} {answer : PspAnswer}
    (h : action env s input = .ok (s', answer)) :
    AnsweredAs env s s' (.action input) answer.replay := by
  rcases action_cases h with ⟨row, hrow, hfingerprint, rfl, hreplay⟩ |
    ⟨hnone, -, row, next, -, -, rfl⟩
  · refine ⟨?_, fun hfirst ↦ absurd (hreplay.symm.trans hfirst) nofun⟩
    show (s'.actionOf env input.idempotencyKey).map _ = _
    rw [hrow]
    exact congrArg (fun fingerprint ↦ some (PspBody.action fingerprint)) hfingerprint
  · refine ⟨?_, fun _ ↦ ?_⟩
    · show ((s.actions ++ [_]).find? _).map _ = _
      rw [find?_append, show s.actions.find? _ = none from hnone]
      simp only [Option.none_or, find?_cons, decide_true]
      rfl
    · show (s.actionOf env input.idempotencyKey).map _ = _
      rw [hnone]
      rfl

theorem answered_receiving {input : WebhookInput} {answer : PspAnswer}
    (h : webhook env s input = .ok (s', answer)) :
    AnsweredAs env s s' (.webhook input) answer.replay := by
  rcases webhook_cases h with ⟨event, hevent, hfingerprint, rfl, hreplay⟩ | ⟨hnone, -, row, -, rfl⟩
  · refine ⟨?_, fun hfirst ↦ absurd (hreplay.symm.trans hfirst) nofun⟩
    show (s'.eventOf env input.dto.eventId).map _ = _
    rw [hevent]
    exact congrArg (fun fingerprint ↦ some (PspBody.event fingerprint)) hfingerprint
  · refine ⟨?_, fun _ ↦ ?_⟩
    · show ((s.events ++ [_]).find? _).map _ = _
      rw [find?_append, show s.events.find? _ = none from hnone]
      simp only [Option.none_or, find?_cons, decide_true]
      rfl
    · show (s.eventOf env input.dto.eventId).map _ = _
      rw [hnone]
      rfl

theorem answer_eq_some {a : Answered PspKey PspBody}
    (h : p.answer env covered = some a) : ∃ request answer, p = .answered request (.ok answer) ∧
      covered request = true ∧ a = {
        key := request.key env, body := request.body, replay := answer.replay } := by
  unfold PspProcess.answer at h
  split at h
  · rename_i request answer
    split at h
    · rename_i hcovered
      exact ⟨request, answer, rfl, hcovered, (Option.some.inj h).symm⟩
    · cases h
  · cases h

/-- **A turn that answers** a request normally has found its record, or leaves the first one. -/
theorem answered_turn (hs : (s.createKeys env).Nodup) (hapart : p.MerchantsApart env covered s)
    {request : PspRequest} {answer : PspAnswer} (hcovered : covered request = true)
    (h : (pspTurn env p s).2 = .answered request (.ok answer)) :
    p = .answered request (.ok answer) ∨
      AnsweredAs env s (pspTurn env p s).1 request answer.replay := by
  cases p with
  | creating input =>
    rcases creating_cases env s input with ⟨-, hnot⟩ | ⟨s', answer', -, hinsert, hreplay, hturn⟩
    · exact absurd h (hnot request answer)
    · rw [hturn] at h ⊢
      cases h
      exact .inr (hreplay ▸ answered_creating hs hinsert)
  | replaying input =>
    have h : PspProcess.answered (.create input) (replayCreate env s input) =
      .answered request (.ok answer) := h
    injection h with hrequest hanswer
    subst hrequest
    obtain ⟨hreplay, hrecorded⟩ := replayCreate_recorded hs hanswer (hapart hcovered)
    exact .inr ⟨hrecorded, fun hfirst ↦ absurd (hreplay.symm.trans hfirst) nofun⟩
  | acting input =>
    rw [pspTurn] at h ⊢
    rcases lastStep_cases (.action input) s (action env s input) with
      ⟨e, -, heq⟩ | ⟨s', answer', hok, heq⟩
    · rw [heq] at h
      cases h
    · rw [heq] at h ⊢
      cases h
      exact .inr (answered_acting hok)
  | targeting input =>
    rw [pspTurn] at h
    split at h <;> cases h
  | receiving input =>
    rw [pspTurn] at h ⊢
    rcases lastStep_cases (.webhook input) s (webhook env s input) with
      ⟨e, -, heq⟩ | ⟨s', answer', hok, heq⟩
    · rw [heq] at h
      cases h
    · rw [heq] at h ⊢
      cases h
      exact .inr (answered_receiving hok)
  | answered request' answer' => exact .inl h

/-- **The ledger is kept.** -/
theorem pspLedger_kept (env : PspEnv) (covered : PspRequest → Bool) :
    (pspLedger env covered).Kept (pspPayments env) (MerchantsApart env covered)
      fun s ↦ (s.createKeys env).Nodup where
  start request := by cases request <;> rfl
  inv s p hs := (progress_turn env p s).createKeys hs
  record s p k b hs h := (progress_turn env p s).recorded hs h
  answer st n p a hs hC hp ha := by
    obtain ⟨request, answer, hnext, hcovered, rfl⟩ := answer_eq_some ha
    rcases answered_turn hs (hC p hp) hcovered hnext with rfl | hanswered
    · refine .inl ?_
      show (if covered request = true then _ else _) = _
      rw [if_pos hcovered]
    · exact .inr hanswered

/-! ### Runs -/

/-- **A turn changes the store** only when it answers a first request: one that is refused, or
repeated, leaves it as it is. -/
def Undisturbed (st : State PspStore PspProcess) (event : Event PspRequest)
    (st' : State PspStore PspProcess) : Prop :=
  ∀ n, event = .turn n →
    (∀ request answer, st'.processes[n]? = some (.answered request (.ok answer)) →
      answer.replay = true) → st'.store = st.store

theorem undisturbed_of_step {st st' : State PspStore PspProcess} {event : Event PspRequest}
    (h : step (pspPayments env) st event = .ok st') : Undisturbed st event st' := by
  rintro n rfl hanswer
  obtain ⟨p, hp, rfl⟩ := step_turn_eq_ok.mp h
  have hset : (st.processes.set n (pspTurn env p st.store).2)[n]? =
      some (pspTurn env p st.store).2 :=
    getElem?_set_self (List.getElem?_eq_some_iff.mp hp).1
  have hreplay : ∀ request answer, (pspTurn env p st.store).2 = .answered request (.ok answer) →
      answer.replay = true := fun request answer hturn ↦
    hanswer request answer (hset.trans (congrArg some hturn))
  show (pspTurn env p st.store).1 = st.store
  cases p with
  | creating input =>
    rcases creating_cases env st.store input with ⟨hsame, -⟩ | ⟨s', answer, -, -, hfirst, hturn⟩
    · exact hsame
    · exact absurd ((hreplay _ answer (by rw [hturn])).symm.trans hfirst) nofun
  | acting input =>
    rcases lastStep_cases (.action input) st.store (action env st.store input) with
      ⟨e, -, heq⟩ | ⟨s', answer, hok, heq⟩
    · rw [pspTurn, heq]
    · have hturn : pspTurn env (.acting input) st.store =
        (s', .answered (.action input) (.ok answer)) := heq
      rcases action_cases hok with ⟨-, -, -, rfl, -⟩ | ⟨-, hfirst, -⟩
      · rw [hturn]
      · exact absurd ((hreplay _ answer (by rw [hturn])).symm.trans hfirst) nofun
  | receiving input =>
    rcases lastStep_cases (.webhook input) st.store (webhook env st.store input) with
      ⟨e, -, heq⟩ | ⟨s', answer, hok, heq⟩
    · rw [pspTurn, heq]
    · have hturn : pspTurn env (.receiving input) st.store =
        (s', .answered (.webhook input) (.ok answer)) := heq
      rcases webhook_cases hok with ⟨-, -, -, rfl, -⟩ | ⟨-, hfirst, -⟩
      · rw [hturn]
      · exact absurd ((hreplay _ answer (by rw [hturn])).symm.trans hfirst) nofun
  | _ => rfl

def PspRequest.keyed : PspRequest → Bool
  | .create _ => false
  | _ => true

/-- **Payments are safe**: amounts agree with statuses, statuses go forward, and what is repeated
under its key writes nothing and agrees. -/
theorem psp_payments_safe (env : PspEnv) (events : List (Event PspRequest)) :
    (∀ m ∈ (run (step (pspPayments env)) (.idle .opening) events).store.payments.rows, m.Sound) ∧
    (∀ later, Advanced (run (step (pspPayments env)) (.idle .opening) events).store
      (run (step (pspPayments env)) (.idle .opening) (events ++ later)).store) ∧
    Along (step (pspPayments env)) (fun st event ↦ ∀ st',
      step (pspPayments env) st event = .ok st' → Undisturbed st event st')
      (.idle .opening) events ∧
    (pspLedger env PspRequest.keyed).Agree
      (run (step (pspPayments env)) (.idle .opening) events).processes ∧
    (Along (step (pspPayments env)) (MerchantsApart env fun _ ↦ true) (.idle .opening) events →
      (pspLedger env fun _ ↦ true).Agree
        (run (step (pspPayments env)) (.idle .opening) events).processes) := by
  have hopening : (PspStore.opening.createKeys env).Nodup := nodup_nil
  refine ⟨?_, fun later ↦ ?_, ?_, ?_, fun h ↦ ?_⟩
  · exact run_store_induct (P := fun s : PspStore ↦ ∀ m ∈ s.payments.rows, m.Sound)
      (fun p s hs ↦ (progress_turn env p s).sound hs) (forall_mem_nil _) events
  · rw [run_append]
    exact run_store_induct (P := Advanced _)
      (fun p s hs ↦ hs.trans (progress_turn env p s).advanced) (Advanced.refl _) later
  · refine Outline.along_of_forall (fun st event st' h ↦ undisturbed_of_step h) events
  · refine (pspLedger_kept env PspRequest.keyed).agree hopening events ?_
    refine Outline.along_of_forall (fun st event ↦ ?_) events
    cases event with
    | start request => trivial
    | turn n =>
      intro p _
      cases p with
      | replaying input => exact fun hcovered ↦ absurd hcovered nofun
      | _ => trivial
  · exact (pspLedger_kept env fun _ ↦ true).agree hopening events h

/-! ### Intents under another key -/

instance (env : PspEnv) (covered : PspRequest → Bool) (s : PspStore) (p : PspProcess) :
    Decidable (p.MerchantsApart env covered s) := by
  unfold PspProcess.MerchantsApart
  split <;> infer_instance

/-- The simulator, over a database that comes upon the rows as they were inserted. -/
def pspSimulator : PspEnv where
  collate text := text
  hash text := text
  intent merchantReference _ _ := textOf "PSP-" ++ merchantReference
  scan payments := payments
  scan_perm _ := .rfl

def intentOf (id : Uuid) (merchantReference idempotencyKey : String) : PspRequest :=
  .create {
    id := id, amount := 1250, currency := textOf "MXN",
    merchantReference := textOf merchantReference, scenario := .SUCCESS,
    idempotencyKey := textOf idempotencyKey, webhookToken := textOf "token" }

def actionOn (command : PspCommand) (idempotencyKey : String) : PspRequest :=
  .action { paymentId := 1, command := command, idempotencyKey := textOf idempotencyKey }

/-- Requests that are answered one after the other, each in its two turns. -/
def inTurn (requests : List PspRequest) : List (Event PspRequest) :=
  requests.zipIdx.flatMap fun (request, n) ↦ [.start request, .turn n, .turn n]

theorem psp_payments_safe_repeated :
    (pspLedger pspSimulator fun _ ↦ true).Agree (run (step (pspPayments pspSimulator))
      (.idle .opening) (inTurn [intentOf 1 "order-1" "create-0001", actionOn .confirm "confirm-001",
        intentOf 2 "order-1" "create-0001", intentOf 3 "order-2" "create-0002",
        actionOn .capture "capture-001", actionOn (.refund 250) "refund-0001",
        actionOn (.refund 250) "refund-0001", actionOn (.refund 1000) "refund-0002"])).processes :=
  (psp_payments_safe pspSimulator _).2.2.2.2 (by decide +kernel)

def answerOf (merchantReference idempotencyKey : String) (replay : Bool) :
    Answered PspKey PspBody where
  key := .create (textOf idempotencyKey)
  body := .create {
    amount := 1250, currency := textOf "MXN", merchantReference := textOf merchantReference,
    scenario := .SUCCESS }
  replay := replay

/-- **A key that is repeated with another body**, and a key that is not recorded. -/
theorem strayIntents :
    ¬(pspLedger pspSimulator fun _ ↦ true).Agree (run (step (pspPayments pspSimulator))
      (.idle .opening) (inTurn [intentOf 1 "order-1" "create-0001",
        intentOf 2 "order-2" "create-0002", intentOf 3 "order-1" "create-0002"])).processes ∧
    ¬(pspLedger pspSimulator fun _ ↦ true).Agree (run (step (pspPayments pspSimulator))
      (.idle .opening) (inTurn [intentOf 1 "order-1" "create-0001",
        intentOf 2 "order-1" "create-0003", intentOf 3 "order-3" "create-0003"])).processes := by
  refine ⟨fun h ↦ ?_, fun h ↦ ?_⟩
  · have hagree := h.answers (m := 1) (n := 2) (a := answerOf "order-2" "create-0002" false)
      (b := answerOf "order-1" "create-0002" true) (by decide) (by decide +kernel)
      (by decide +kernel) rfl
    exact absurd hagree.1 (by decide)
  · have hagree := h.answers (m := 1) (n := 2) (a := answerOf "order-1" "create-0003" true)
      (b := answerOf "order-3" "create-0003" false) (by decide) (by decide +kernel)
      (by decide +kernel) rfl
    exact absurd hagree.1 (by decide)

end UInventario.Integrations.Psp
