import UInventario.Notifications.Deliveries

/-!
# Runs of the deliveries

Whether a delivery that is not sent comes to be sent, in any interleaving of passes that may stop
anywhere, and whatever the adapters answer.

A delivery is `PROCESSING` from the claim of a pass until that pass marks it, and no two passes hold
the same one (`holding`). So one that is `SENT` stays as it is, in every run. A pass that stops
before it has marked a delivery leaves it `PROCESSING`, and it is never due again. And all attempts
of a delivery have one key: only the first calls the adapter. `Prompt` is the condition that the
first execution comes to a success; `deliveries_recover` has what follows from it, `unrecovered` a
run of each kind that goes wrong.
-/

namespace UInventario.Notifications

open Outcome Processes Integrations Table List

variable {env : AdapterEnv} {s s' : NotificationStore} {p q : NotificationProcess}
  {st st' : State NotificationStore NotificationProcess} {d : Delivery}

/-! ### Claims -/

variable {limit : ℕ} {locked : List Uuid}

theorem mem_due (h : d ∈ s.due limit locked) : d ∈ s.deliveries.rows ∧ d.Due s.now := by
  have hmem := mem_orderBy.mp (mem_of_mem_take h)
  rw [mem_filter, decide_eq_true_eq] at hmem
  exact ⟨hmem.1, hmem.2.1⟩

theorem due_nodup (limit : ℕ) (locked : List Uuid) :
    ((s.due limit locked).map Delivery.id).Nodup := by
  have hrows : (s.deliveries.rows.map Delivery.id).Nodup := s.deliveries.nodup
  have hfiltered := hrows.sublist ((filter_sublist
    (p := fun d : Delivery ↦ decide (d.Due s.now ∧ d.id ∉ locked)) (l := s.deliveries.rows)).map _)
  have hsorted : ((orderBy (fun a b : Delivery ↦ a.nextAttemptAt < b.nextAttemptAt ∨
      a.nextAttemptAt = b.nextAttemptAt ∧ a.createdAt ≤ b.createdAt)
      (s.deliveries.rows.filter fun d ↦ d.Due s.now ∧ d.id ∉ locked)).map Delivery.id).Nodup :=
    ((orderBy_perm _ _).map Delivery.id).nodup_iff.mpr hfiltered
  exact hsorted.sublist ((take_sublist limit _).map _)

variable {now : Timestamp} {rest : List Delivery} {delivery r : Delivery} {id : Uuid}

theorem Delivery.Due.status (h : d.Due now) : d.status ≠ .PROCESSING ∧ d.status ≠ .SENT := by
  rcases h.1 with h | h <;> rw [h] <;> decide

theorem find?_claim_of_not_due (hd : s.deliveries.find? id = some d) (hnot : ¬d.Due s.now) :
    (claimDueDeliveries s limit locked).1.deliveries.find? id = some d := by
  have hforall : ∀ a ∈ s.due limit locked, a.id ≠ id := by
    intro a ha heq
    obtain ⟨hmem, hdue⟩ := mem_due ha
    have hfound : s.deliveries.find? id = some a := heq ▸ find?_key_of_mem hmem
    rw [hd] at hfound
    cases hfound
    exact hnot hdue
  exact (find?_updateEach_of_forall hforall).trans hd

theorem find?_claim_of_due (hd : d ∈ s.due limit locked) :
    (claimDueDeliveries s limit locked).1.deliveries.find? d.id = some d.claimed := by
  rw [claimDueDeliveries]
  have hfound : s.deliveries.find? d.id = some d := find?_key_of_mem (mem_due hd).1
  refine (find?_updateEach_of_mem (due_nodup limit locked) hd).trans ?_
  rw [hfound]
  rfl

theorem mem_claim (h : d ∈ (claimDueDeliveries s limit locked).1.deliveries.rows) :
    d ∈ s.deliveries.rows ∨ ∃ a ∈ s.due limit locked, d = a.claimed := by
  obtain ⟨r₀, hr₀, -, heq | ⟨a, ha, hkey, rfl⟩⟩ :=
    exists_of_mem_updateEach (due_nodup limit locked) h
  · exact .inl (heq ▸ hr₀)
  · have hsame : a = r₀ := eq_of_mem_of_key_eq (mem_due ha).1 hr₀ hkey
    exact .inr ⟨a, ha, by rw [hsame]⟩

/-! ### Marks and retries -/

theorem find?_retryFailed (id : Uuid) :
    (retryFailed s).find? id = (s.deliveries.find? id).map (Delivery.retried s.now) := by
  rw [retryFailed, Table.find?, Table.find?, List.find?_map]
  refine congrArg (Option.map _) (congrArg (fun f ↦ List.find? f s.deliveries.rows) ?_)
  funext row
  exact decide_eq_decide.mpr (by rw [show Keyed.key (row.retried s.now) = Keyed.key row from
    row.retried_id s.now])

theorem Delivery.retried_of_ne (h : d.status ≠ .FAILED) : d.retried now = d :=
  if_neg fun hf ↦ h hf.1

theorem Delivery.retried_status (now : Timestamp) : (d.retried now).status = d.status := by
  rw [retried]
  split <;> rfl

/-! ### What a pass holds -/

theorem afterExecution_held (delivery : Delivery) (rest : List Delivery) (place : ExecutionPlace) :
    (afterExecution delivery rest place).held = delivery :: rest := by
  cases place with
  | answered result =>
    rw [afterExecution]
    split <;> rfl
  | _ => rfl

/-- **What is known of what a pass holds**: the deliveries are being processed. -/
structure Held (p : NotificationProcess) (s : NotificationStore) : Prop where
  nodup : (p.held.map Delivery.id).Nodup
  processing : ∀ c ∈ p.held, ∃ d, s.deliveries.find? c.id = some d ∧ d.status = .PROCESSING ∧
    d.channel = c.channel

theorem find?_turn (hd : s.deliveries.find? id = some d)
    (hstatus : d.status = .PROCESSING ∨ d.status = .SENT) (hp : ¬p.Holds id) :
    (deliveryTurn env p s).1.deliveries.find? id = some d := by
  have hid : ∀ {delivery : Delivery} {rest : List Delivery},
      id ∉ (delivery :: rest).map Delivery.id → id ≠ delivery.id := by
    intro delivery rest hnot heq
    rw [map_cons] at hnot
    exact hnot (heq ▸ mem_cons_self)
  cases p with
  | claiming limit locked =>
    refine find?_claim_of_not_due hd fun hdue ↦ ?_
    rcases hstatus with hstatus | hstatus
    · exact hdue.status.1 hstatus
    · exact hdue.status.2 hstatus
  | delivering rest => cases rest <;> exact hd
  | executing delivery rest place | waiting microseconds | done => exact hd
  | markingSent delivery providerReference rest =>
    show (s.deliveries.update delivery.id (Delivery.sent providerReference s.now)
      (Delivery.sent_id providerReference s.now)).find? id = _
    rw [find?_update_of_ne (hid hp)]
    exact hd
  | markingFailed delivery errorCode rest =>
    show (s.deliveries.update delivery.id (Delivery.failed delivery.attemptCount errorCode s.now)
      (Delivery.failed_id delivery.attemptCount errorCode s.now)).find? id = _
    rw [find?_update_of_ne (hid hp)]
    exact hd
  | enqueuing newId channel =>
    rw [deliveryTurn]
    split
    · rename_i deliveries hinsert
      exact find?_insert_of_some hinsert hd
    · exact hd
  | retrying =>
    show (retryFailed s).find? id = some d
    rw [find?_retryFailed, hd]
    refine congrArg some (Delivery.retried_of_ne ?_)
    rcases hstatus with hstatus | hstatus <;> rw [hstatus] <;> decide

theorem mem_marked {f : Delivery → Delivery} (hf : ∀ r, (f r).id = r.id)
    (hheld : ∃ d, s.deliveries.find? delivery.id = some d ∧ d.status = .PROCESSING ∧
      d.channel = delivery.channel)
    (hstatus : ∀ r : Delivery, r.status = .PROCESSING → (f r).status ≠ .PROCESSING)
    (hd : d ∈ (s.deliveries.update delivery.id f hf).rows) (hprocessing : d.status = .PROCESSING) :
    d.id ∈ rest.map Delivery.id ∨
      (d ∈ s.deliveries.rows ∧ d.id ∉ (delivery :: rest).map Delivery.id) := by
  obtain ⟨row, hrow, hrowStatus, -⟩ := hheld
  rcases of_mem_update _ hrow hd with rfl | ⟨hmem, hne⟩
  · exact absurd hprocessing (hstatus row hrowStatus)
  · by_cases hrest : d.id ∈ rest.map Delivery.id
    · exact .inl hrest
    · refine .inr ⟨hmem, fun hholds ↦ ?_⟩
      rcases mem_cons.mp hholds with heq | hin
      · exact hne heq
      · exact hrest hin

theorem Delivery.sent_not_processing {providerReference : Option Text}
    (h : r.status = .PROCESSING) :
    (r.sent providerReference now).status ≠ .PROCESSING := by
  rw [sent, if_pos h]
  rintro ⟨⟩

theorem Delivery.failed_not_processing {attemptCount : ℕ} {errorCode : Text}
    (h : r.status = .PROCESSING) :
    (r.failed attemptCount errorCode now).status ≠ .PROCESSING := by
  rw [failed, if_pos h]
  rintro ⟨⟩

/-- **A row that is being processed after a turn** is held by the pass, or was being processed
before and not held by it. -/
theorem processing_of_turn (hheld : Held p s)
    (hd : d ∈ (deliveryTurn env p s).1.deliveries.rows) (hstatus : d.status = .PROCESSING) :
    (deliveryTurn env p s).2.Holds d.id ∨ (d ∈ s.deliveries.rows ∧ ¬p.Holds d.id) := by
  cases p with
  | claiming limit locked =>
    rcases mem_claim hd with hd | ⟨a, ha, rfl⟩
    · exact .inr ⟨hd, not_mem_nil⟩
    · exact .inl (mem_map_of_mem (f := Delivery.id) (mem_map_of_mem ha))
  | delivering rest =>
    cases rest with
    | nil => exact .inr ⟨hd, not_mem_nil⟩
    | cons delivery rest =>
      by_cases hmem : d.id ∈ (delivery :: rest).map Delivery.id
      · exact .inl hmem
      · exact .inr ⟨hd, hmem⟩
  | executing delivery rest place =>
    by_cases hmem : d.id ∈ (delivery :: rest).map Delivery.id
    · refine .inl ?_
      show d.id ∈ (afterExecution delivery rest _).held.map Delivery.id
      rw [afterExecution_held]
      exact hmem
    · exact .inr ⟨hd, hmem⟩
  | markingSent delivery providerReference rest =>
    exact mem_marked (Delivery.sent_id providerReference s.now)
      (hheld.processing delivery mem_cons_self)
      (fun _ ↦ Delivery.sent_not_processing) hd hstatus
  | markingFailed delivery errorCode rest =>
    exact mem_marked (Delivery.failed_id delivery.attemptCount errorCode s.now)
      (hheld.processing delivery mem_cons_self)
      (fun _ ↦ Delivery.failed_not_processing) hd hstatus
  | enqueuing newId channel =>
    rw [deliveryTurn] at hd
    split at hd
    · rename_i deliveries hinsert
      rcases (mem_insert hinsert).mp hd with hd | rfl
      · exact .inr ⟨hd, not_mem_nil⟩
      · cases hstatus
    · exact .inr ⟨hd, not_mem_nil⟩
  | retrying =>
    obtain ⟨old, hold, rfl⟩ := mem_map.mp hd
    rw [Delivery.retried_status] at hstatus
    rw [Delivery.retried_of_ne (by rw [hstatus]; decide)]
    exact .inr ⟨hold, not_mem_nil⟩
  | waiting microseconds | done => exact .inr ⟨hd, not_mem_nil⟩

variable {c : Delivery}

theorem held_of_turn (hc : c ∈ (deliveryTurn env p s).2.held) :
    c ∈ p.held ∨ ∃ limit locked, p = .claiming limit locked ∧
      ∃ d ∈ s.due limit locked, c = d.claimed := by
  cases p with
  | claiming limit locked =>
    obtain ⟨d, hd, rfl⟩ := mem_map.mp hc
    exact .inr ⟨limit, locked, rfl, d, hd, rfl⟩
  | delivering rest =>
    cases rest with
    | nil => exact absurd hc not_mem_nil
    | cons delivery rest => exact .inl hc
  | executing delivery rest place =>
    have hc : c ∈ (afterExecution delivery rest _).held := hc
    rw [afterExecution_held] at hc
    exact .inl hc
  | markingSent delivery providerReference rest | markingFailed delivery errorCode rest =>
    exact .inl (mem_cons_of_mem _ hc)
  | enqueuing newId channel =>
    rw [deliveryTurn] at hc
    split at hc <;> exact absurd hc not_mem_nil
  | retrying | waiting microseconds | done => exact absurd hc not_mem_nil

/-- **What the pass holds after its turn.** -/
theorem Held.turn (h : Held p s) : Held (deliveryTurn env p s).2 (deliveryTurn env p s).1 := by
  have hmarked : ∀ {delivery : Delivery} {rest : List Delivery} {f : Delivery → Delivery}
      (hf : ∀ r, (f r).id = r.id), ((delivery :: rest).map Delivery.id).Nodup →
      (∀ c ∈ delivery :: rest, ∃ d, s.deliveries.find? c.id = some d ∧ d.status = .PROCESSING ∧
        d.channel = c.channel) →
      ∀ c ∈ rest, ∃ d, (s.deliveries.update delivery.id f hf).find? c.id = some d ∧
        d.status = .PROCESSING ∧ d.channel = c.channel := by
    intro delivery rest f hf hnodup hall c hc
    rw [map_cons, nodup_cons] at hnodup
    have hne : c.id ≠ delivery.id := fun heq ↦ hnodup.1 (heq ▸ mem_map_of_mem hc)
    rw [find?_update_of_ne hne]
    exact hall c (mem_cons_of_mem _ hc)
  cases p with
  | claiming limit locked =>
    refine ⟨?_, fun c hc ↦ ?_⟩
    · show (((s.due limit locked).map Delivery.claimed).map Delivery.id).Nodup
      rw [List.map_map]
      exact due_nodup limit locked
    · obtain ⟨d, hd, rfl⟩ := mem_map.mp hc
      exact ⟨d.claimed, find?_claim_of_due hd, rfl, rfl⟩
  | delivering rest =>
    cases rest with
    | nil => exact ⟨nodup_nil, forall_mem_nil _⟩
    | cons delivery rest => exact ⟨h.nodup, h.processing⟩
  | executing delivery rest place =>
    refine ⟨?_, ?_⟩
    · show ((afterExecution delivery rest _).held.map Delivery.id).Nodup
      rw [afterExecution_held]
      exact h.nodup
    · show ∀ c ∈ (afterExecution delivery rest _).held, _
      rw [afterExecution_held]
      exact h.processing
  | markingSent delivery providerReference rest =>
    exact ⟨(nodup_cons.mp h.nodup).2,
      hmarked (Delivery.sent_id providerReference s.now) h.nodup h.processing⟩
  | markingFailed delivery errorCode rest =>
    exact ⟨(nodup_cons.mp h.nodup).2,
      hmarked (Delivery.failed_id delivery.attemptCount errorCode s.now) h.nodup h.processing⟩
  | enqueuing newId channel =>
    rw [deliveryTurn]
    split <;> exact ⟨nodup_nil, forall_mem_nil _⟩
  | retrying | waiting microseconds | done => exact ⟨nodup_nil, forall_mem_nil _⟩

/-- **The outline of all runs.** -/
def holding : Outline NotificationStore NotificationProcess where
  Inv st := ∀ d ∈ st.store.deliveries.rows, d.status = .PROCESSING →
    ∃ p ∈ st.processes, p.Holds d.id
  At := Held
  Apart p q := ∀ id, p.Holds id → ¬q.Holds id
  symm h id hq hp := h id hp hq

theorem Held.other (h : Held q s) (hapart : ∀ id, q.Holds id → ¬p.Holds id) :
    Held q (deliveryTurn env p s).1 := by
  refine ⟨h.nodup, fun c hc ↦ ?_⟩
  obtain ⟨d, hd, hstatus, hchannel⟩ := h.processing c hc
  have hholds : q.Holds c.id := mem_map_of_mem hc
  exact ⟨d, find?_turn hd (.inl hstatus) (hapart c.id hholds), hstatus, hchannel⟩

theorem apart_turn (h : Held q s) (hapart : ∀ id, p.Holds id → ¬q.Holds id) (id : Uuid)
    (hid : (deliveryTurn env p s).2.Holds id) : ¬q.Holds id := by
  obtain ⟨c, hc, rfl⟩ := mem_map.mp hid
  rcases held_of_turn hc with hc | ⟨limit, locked, rfl, d, hd, rfl⟩
  · exact hapart c.id (mem_map_of_mem hc)
  · intro hq
    obtain ⟨c', hc', hcid⟩ := mem_map.mp hq
    obtain ⟨row, hrow, hstatus, -⟩ := h.processing c' hc'
    have hfound : s.deliveries.find? c'.id = some d :=
      (congrArg s.deliveries.find? hcid).trans (find?_key_of_mem (mem_due hd).1)
    rw [hrow] at hfound
    cases hfound
    exact (mem_due hd).2.status.1 hstatus

theorem holding_keeps (env : AdapterEnv) :
    holding.Keeps (notificationDeliveries env) fun _ _ ↦ True where
  start st request hst _ := by
    have hheld : ((notificationDeliveries env).start request).held = [] := by
      cases request <;> rfl
    refine ⟨fun d hd hstatus ↦ ?_, ⟨?_, fun c hc ↦ ?_⟩, fun q _ id hid ↦ ?_⟩
    · obtain ⟨p, hp, hholds⟩ := hst.inv d hd hstatus
      exact ⟨p, mem_append_left _ hp, hholds⟩
    · rw [hheld]
      exact nodup_nil
    · rw [hheld] at hc
      exact absurd hc not_mem_nil
    · rw [NotificationProcess.Holds, hheld] at hid
      exact absurd hid not_mem_nil
  turn st n p hst _ hp := by
    have hat : Held p st.store := hst.places p (mem_of_getElem? hp)
    have hlt := (List.getElem?_eq_some_iff.mp hp).1
    refine ⟨fun d hd hstatus ↦ ?_, hat.turn, fun m q hmn hq ↦ ⟨?_, ?_⟩⟩
    · rcases processing_of_turn hat hd hstatus with hholds | ⟨hold, hnot⟩
      · exact ⟨_, mem_set hlt _, hholds⟩
      · obtain ⟨q, hq, hqholds⟩ := hst.inv d hold hstatus
        obtain ⟨m, hm⟩ := mem_iff_getElem?.mp hq
        have hmn : n ≠ m := by
          intro heq
          subst heq
          rw [hp] at hm
          cases hm
          exact hnot hqholds
        refine ⟨q, mem_of_getElem? (i := m) ?_, hqholds⟩
        rw [List.getElem?_set_ne hmn]
        exact hm
    · have hq' : Held q st.store := hst.places q (mem_of_getElem? hq)
      exact hq'.other (hst.apart m n q p hmn hq hp)
    · have hq' : Held q st.store := hst.places q (mem_of_getElem? hq)
      exact apart_turn hq' (hst.apart n m p q (Ne.symm hmn) hp hq)

/-! ### Sent is sent -/

theorem executionKey_injective {a b : Delivery} (h : a.executionKey = b.executionKey) :
    a.id = b.id := by
  have hkey : textOf "notification:" ++ [a.id] = textOf "notification:" ++ [b.id] :=
    congrArg ExecutionKey.idempotencyKey h
  exact singleton_inj.mp (append_cancel_left hkey)

theorem executionKey_of_held (hid : d.id = c.id) (hchannel : d.channel = c.channel) :
    d.executionKey = c.executionKey := by
  rw [Delivery.executionKey, Delivery.executionKey, hid, hchannel]

theorem calls_turn (env : AdapterEnv) (p : NotificationProcess) (s : NotificationStore) :
    (deliveryTurn env p s).1.adapters.calls = s.adapters.calls ∨
      ∃ c ∈ p.held, (deliveryTurn env p s).1.adapters.calls =
        s.adapters.calls ++ [c.executionKey] := by
  cases p with
  | executing delivery rest place =>
    rcases executionTurn_calls env delivery.executionKey place s.adapters with ⟨-, h⟩ | ⟨-, h⟩
    · exact .inr ⟨delivery, mem_cons_self, h⟩
    · exact .inl h
  | delivering rest => cases rest <;> exact .inl rfl
  | enqueuing newId channel =>
    rw [deliveryTurn]
    split <;> exact .inl rfl
  | _ => exact .inl rfl

/-- **A delivery that is sent stays so**, and no adapter is called for it. -/
structure SentKept (st st' : State NotificationStore NotificationProcess) : Prop where
  row : ∀ id d, st.store.deliveries.find? id = some d → d.status = .SENT →
    st'.store.deliveries.find? id = some d
  calls : ∀ id d, st.store.deliveries.find? id = some d → d.status = .SENT →
    st'.store.adapters.calls.count d.executionKey = st.store.adapters.calls.count d.executionKey

theorem Held.not_sent (h : Held p s) (hd : s.deliveries.find? id = some d)
    (hstatus : d.status = .SENT) : ¬p.Holds id := by
  intro hholds
  obtain ⟨c, hc, rfl⟩ := mem_map.mp hholds
  obtain ⟨row, hrow, hprocessing, -⟩ := h.processing c hc
  rw [hrow] at hd
  cases hd
  rw [hstatus] at hprocessing
  cases hprocessing

theorem sentKept_of_step (hst : holding.Holds st) {event : Event NotificationRequest}
    (h : step (notificationDeliveries env) st event = .ok st') : SentKept st st' := by
  cases event with
  | start request =>
    cases h
    exact ⟨fun _ _ hd _ ↦ hd, fun _ _ _ _ ↦ rfl⟩
  | turn n =>
    obtain ⟨p, hp, rfl⟩ := step_turn_eq_ok.mp h
    have hat : Held p st.store := hst.places p (mem_of_getElem? hp)
    refine ⟨fun id d hd hstatus ↦ find?_turn hd (.inr hstatus) (hat.not_sent hd hstatus),
      fun id d hd hstatus ↦ ?_⟩
    show (deliveryTurn env p st.store).1.adapters.calls.count d.executionKey = _
    rcases calls_turn env p st.store with hcalls | ⟨c, hc, hcalls⟩
    · rw [hcalls]
    · have hne : c.executionKey ≠ d.executionKey := by
        intro heq
        refine hat.not_sent hd hstatus ?_
        have hid : c.id = id := (executionKey_injective heq).trans (key_of_find? hd)
        exact hid ▸ mem_map_of_mem hc
      rw [hcalls, count_append, count_singleton, if_neg (by simpa using hne),
        Nat.add_zero]

/-! ### First executions that succeed -/

/-- **The condition on a turn**: the adapter of the channel is there, and the execution does not end
with a failure. -/
def NotificationProcess.Prompt (env : AdapterEnv) (s : NotificationStore) :
    NotificationProcess → Prop
  | .executing delivery _ .configuring =>
    s.adapters.configs.find? delivery.channel.capability ≠ none
  | .executing _ _ (.beginning config) => config.enabled = true ∧
    env.registered config.capability config.provider config.adapterVersion = true ∧
    1 ≤ config.maxAttempts
  | .executing _ _ (.attempting config attempt) =>
    (env.answers s.adapters.calls.length).result.status = .SUCCEEDED ∨
    (env.answers s.adapters.calls.length).result.status ≠ .REJECTED ∧ attempt ≠ config.maxAttempts
  | _ => True

abbrev Prompt (env : AdapterEnv) :
    State NotificationStore NotificationProcess → Event NotificationRequest → Prop :=
  AtTurn fun st p ↦ p.Prompt env st.store

def NotificationProcess.unexecuted : NotificationProcess → List Delivery
  | .delivering rest => rest
  | .executing delivery rest .configuring => delivery :: rest
  | .executing delivery rest (.beginning _) => delivery :: rest
  | .executing _ rest _ => rest
  | .markingSent _ _ rest => rest
  | .markingFailed _ _ rest => rest
  | _ => []

theorem mem_held_of_unexecuted (h : c ∈ p.unexecuted) : c ∈ p.held := by
  cases p with
  | executing delivery rest place =>
    cases place with
    | configuring | beginning config => exact h
    | _ => exact mem_cons_of_mem _ h
  | delivering rest => exact h
  | markingSent delivery providerReference rest | markingFailed delivery errorCode rest =>
    exact mem_cons_of_mem _ h
  | _ => exact absurd h not_mem_nil

/-- The execution of the delivery at hand is on its way to a success. -/
def Succeeding (s : NotificationStore) : NotificationProcess → Prop
  | .executing delivery _ (.finishing result _) =>
    result.status = .SUCCEEDED ∧ delivery.executionKey ∈ s.adapters.calls
  | .executing _ _ (.answered _) => False
  | .executing _ _ .thrown => False
  | .markingSent delivery _ _ => delivery.executionKey ∈ s.adapters.calls
  | .markingFailed _ _ _ => False
  | _ => True

structure Promising (p : NotificationProcess) (s : NotificationStore) : Prop where
  held : Held p s
  unexecuted : ∀ c ∈ p.unexecuted, s.adapters.executions.find? c.executionKey = none
  succeeding : Succeeding s p

/-- **A delivery is sent, or has not been attempted.** -/
def Delivery.Settled (delivery : Delivery) (s : NotificationStore) : Prop :=
  (delivery.status = .SENT ∧ delivery.executionKey ∈ s.adapters.calls) ∨
  (delivery.status = .PENDING ∧ delivery.attemptCount = 0 ∧
    s.adapters.executions.find? delivery.executionKey = none)

structure Undisturbed (st : State NotificationStore NotificationProcess) : Prop where
  processing : holding.Inv st
  known : ∀ e ∈ st.store.adapters.executions.rows, ∃ d ∈ st.store.deliveries.rows,
    d.executionKey = e.key
  settled : ∀ d ∈ st.store.deliveries.rows, (∀ p ∈ st.processes, ¬p.Holds d.id) → d.Settled st.store

def promising : Outline NotificationStore NotificationProcess where
  Inv := Undisturbed
  At := Promising
  Apart p q := ∀ id, p.Holds id → ¬q.Holds id
  symm h id hq hp := h id hp hq

theorem holding_of_promising (h : promising.Holds st) : holding.Holds st :=
  ⟨h.inv.processing, fun p hp ↦ (h.places p hp).held, h.apart⟩

theorem mem_calls_turn {k : ExecutionKey} (h : k ∈ s.adapters.calls) :
    k ∈ (deliveryTurn env p s).1.adapters.calls := by
  rcases calls_turn env p s with heq | ⟨c, -, heq⟩
  · rw [heq]
    exact h
  · rw [heq]
    exact mem_append_left _ h

theorem find?_execution_turn
    (h : ∀ delivery rest place, p = .executing delivery rest place → delivery.id ≠ c.id) :
    (deliveryTurn env p s).1.adapters.executions.find? c.executionKey =
      s.adapters.executions.find? c.executionKey := by
  cases p with
  | executing delivery rest place =>
    refine find?_executionTurn_of_ne fun heq ↦ ?_
    exact h delivery rest place rfl (executionKey_injective heq).symm
  | delivering rest => cases rest <;> rfl
  | enqueuing newId channel =>
    rw [deliveryTurn]
    split <;> rfl
  | _ => rfl

theorem find?_execution_of_not_holds (h : ¬p.Holds c.id) :
    (deliveryTurn env p s).1.adapters.executions.find? c.executionKey =
      s.adapters.executions.find? c.executionKey := by
  refine find?_execution_turn fun delivery rest place heq hid ↦ h ?_
  subst heq
  exact mem_cons.mpr (.inl hid.symm)

theorem Delivery.Settled.turn (h : d.Settled s) (hp : ¬p.Holds d.id) :
    d.Settled (deliveryTurn env p s).1 := by
  rcases h with ⟨hstatus, hcalls⟩ | ⟨hstatus, hcount, hnone⟩
  · exact .inl ⟨hstatus, mem_calls_turn hcalls⟩
  · exact .inr ⟨hstatus, hcount, (find?_execution_of_not_holds hp).trans hnone⟩

theorem Promising.other (h : Promising q s) (hapart : ∀ id, q.Holds id → ¬p.Holds id) :
    Promising q (deliveryTurn env p s).1 := by
  refine ⟨h.held.other hapart, fun c hc ↦ ?_, ?_⟩
  · have hholds : q.Holds c.id := mem_map_of_mem (mem_held_of_unexecuted hc)
    rw [find?_execution_of_not_holds (hapart c.id hholds)]
    exact h.unexecuted c hc
  · have hsucceeding := h.succeeding
    cases q with
    | executing delivery rest place =>
      cases place with
      | finishing result attemptCount => exact ⟨hsucceeding.1, mem_calls_turn hsucceeding.2⟩
      | _ => exact hsucceeding
    | markingSent delivery providerReference rest => exact mem_calls_turn hsucceeding
    | markingFailed delivery errorCode rest => exact hsucceeding
    | _ => trivial

/-- **An execution that meets the condition** goes on to a success. -/
theorem promising_executing {place : ExecutionPlace}
    (h : Promising (.executing delivery rest place) s)
    (hprompt : NotificationProcess.Prompt env s (.executing delivery rest place)) :
    (∀ c ∈ (deliveryTurn env (.executing delivery rest place) s).2.unexecuted,
      (deliveryTurn env (.executing delivery rest place) s).1.adapters.executions.find?
        c.executionKey = none) ∧
    Succeeding (deliveryTurn env (.executing delivery rest place) s).1
      (deliveryTurn env (.executing delivery rest place) s).2 := by
  have hrest : (∀ c ∈ rest, s.adapters.executions.find? c.executionKey = none) →
      ∀ c ∈ rest, (deliveryTurn env (.executing delivery rest place) s).1.adapters.executions.find?
        c.executionKey = none := by
    intro hnone c hc
    have hnodup := h.held.nodup
    rw [NotificationProcess.held, map_cons, nodup_cons] at hnodup
    rw [find?_execution_turn fun d r pl heq hid ↦ ?_]
    · exact hnone c hc
    · cases heq
      exact hnodup.1 (hid ▸ mem_map_of_mem hc)
  cases place with
  | configuring =>
    obtain ⟨config, hconfig⟩ := Option.ne_none_iff_exists'.mp hprompt
    have hturn : deliveryTurn env (.executing delivery rest .configuring) s =
        (s, .executing delivery rest (.beginning config)) := by
      have hfound : s.adapters.configs.find? delivery.executionKey.capability = some config :=
        hconfig
      simp only [deliveryTurn, executionTurn, hfound, afterExecution]
    rw [hturn]
    exact ⟨h.unexecuted, trivial⟩
  | beginning config =>
    have hnone : s.adapters.executions.find? delivery.executionKey = none :=
      h.unexecuted delivery mem_cons_self
    obtain ⟨executions, hinsert⟩ := insert_isSome (r := pendingExecution delivery.executionKey)
      hnone
    have hplan : executionPlan env config = .attempting config 1 := by
      obtain ⟨henabled, hregistered, hattempts⟩ := hprompt
      rw [executionPlan, if_neg (by rw [henabled]; decide), if_neg (by rw [hregistered]; decide),
        if_pos hattempts]
    have hturn : (deliveryTurn env (.executing delivery rest (.beginning config)) s).2 =
        .executing delivery rest (.attempting config 1) := by
      simp only [deliveryTurn, executionTurn, hinsert, hplan, afterExecution]
    rw [hturn]
    exact ⟨hrest fun c hc ↦ h.unexecuted c (mem_cons_of_mem _ hc), trivial⟩
  | attempting config attempt =>
    have hcalls : delivery.executionKey ∈ s.adapters.calls ++ [delivery.executionKey] :=
      mem_append_right _ (mem_singleton_self _)
    by_cases hsucceeded : (env.answers s.adapters.calls.length).result.status = .SUCCEEDED
    · have hends : (env.answers s.adapters.calls.length).result.status.ends ∨
          attempt = config.maxAttempts := .inl (.inl hsucceeded)
      have hturn : (deliveryTurn env (.executing delivery rest (.attempting config attempt)) s).2 =
          .executing delivery rest
            (.finishing (env.answers s.adapters.calls.length).result attempt) := by
        simp only [deliveryTurn, executionTurn, if_pos hends, afterExecution]
      rw [hturn]
      exact ⟨hrest h.unexecuted, hsucceeded, hcalls⟩
    · obtain ⟨hnot, hlast⟩ := Or.resolve_left hprompt hsucceeded
      have hends : ¬((env.answers s.adapters.calls.length).result.status.ends ∨
          attempt = config.maxAttempts) := fun h ↦ h.elim (fun h ↦ h.elim hsucceeded hnot) hlast
      have hturn : (deliveryTurn env (.executing delivery rest (.attempting config attempt)) s).2 =
          .executing delivery rest (.attempting config (attempt + 1)) := by
        simp only [deliveryTurn, executionTurn, if_neg hends, afterExecution]
      rw [hturn]
      exact ⟨hrest h.unexecuted, trivial⟩
  | finishing result attemptCount =>
    obtain ⟨hstatus, hcalls⟩ := h.succeeding
    have hturn :
      (deliveryTurn env (.executing delivery rest (.finishing result attemptCount)) s).2 =
        .markingSent delivery result.providerReference rest := by
      show afterExecution delivery rest (.answered result) = _
      rw [afterExecution, if_pos hstatus]
    rw [hturn]
    exact ⟨hrest h.unexecuted, hcalls⟩
  | answered result | thrown => exact h.succeeding.elim

theorem promising_next (h : Promising p s) (hprompt : p.Prompt env s)
    (hdue : ∀ d ∈ s.deliveries.rows, d.Due s.now → d.Settled s) :
    (∀ c ∈ (deliveryTurn env p s).2.unexecuted,
      (deliveryTurn env p s).1.adapters.executions.find? c.executionKey = none) ∧
    Succeeding (deliveryTurn env p s).1 (deliveryTurn env p s).2 := by
  cases p with
  | claiming limit locked =>
    refine ⟨fun c hc ↦ ?_, trivial⟩
    obtain ⟨d, hd, rfl⟩ := mem_map.mp hc
    obtain ⟨hmem, hdueNow⟩ := mem_due hd
    rcases hdue d hmem hdueNow with ⟨hsent, -⟩ | ⟨-, -, hnone⟩
    · exact absurd hsent hdueNow.status.2
    · exact hnone
  | delivering rest =>
    cases rest with
    | nil => exact ⟨forall_mem_nil _, trivial⟩
    | cons delivery rest => exact ⟨h.unexecuted, trivial⟩
  | executing delivery rest place => exact promising_executing h hprompt
  | markingSent delivery providerReference rest => exact ⟨h.unexecuted, trivial⟩
  | markingFailed delivery errorCode rest => exact h.succeeding.elim
  | enqueuing newId channel =>
    rw [deliveryTurn]
    split <;> exact ⟨forall_mem_nil _, trivial⟩
  | retrying | waiting microseconds | done => exact ⟨forall_mem_nil _, trivial⟩

/-- **What a pass knows after its turn.** -/
theorem Promising.turn (h : Promising p s) (hprompt : p.Prompt env s)
    (hdue : ∀ d ∈ s.deliveries.rows, d.Due s.now → d.Settled s) :
    Promising (deliveryTurn env p s).2 (deliveryTurn env p s).1 := by
  obtain ⟨hunexecuted, hsucceeding⟩ := promising_next h hprompt hdue
  exact ⟨h.held.turn, hunexecuted, hsucceeding⟩

/-- **A delivery that nobody holds after a turn** is settled; `free`: no other pass holds it. -/
theorem settled_turn (h : Promising p s) (free : Uuid → Prop)
    (hknown : ∀ e ∈ s.adapters.executions.rows, ∃ d ∈ s.deliveries.rows, d.executionKey = e.key)
    (hsettled : ∀ d ∈ s.deliveries.rows, ¬p.Holds d.id → free d.id → d.Settled s)
    (hd : d ∈ (deliveryTurn env p s).1.deliveries.rows)
    (hnot : ¬(deliveryTurn env p s).2.Holds d.id) (hfree : free d.id) :
    d.Settled (deliveryTurn env p s).1 := by
  cases p with
  | claiming limit locked =>
    rcases mem_claim hd with hd | ⟨a, ha, rfl⟩
    · exact (hsettled d hd not_mem_nil hfree).turn not_mem_nil
    · exact absurd (mem_map_of_mem (f := Delivery.id) (mem_map_of_mem ha)) hnot
  | delivering rest =>
    cases rest with
    | nil => exact (hsettled d hd not_mem_nil hfree).turn not_mem_nil
    | cons delivery rest => exact (hsettled d hd hnot hfree).turn hnot
  | executing delivery rest place =>
    have hsame : ¬NotificationProcess.Holds (.executing delivery rest place) d.id := by
      intro hholds
      refine hnot ?_
      show d.id ∈ (afterExecution delivery rest _).held.map Delivery.id
      rw [afterExecution_held]
      exact hholds
    exact (hsettled d hd hsame hfree).turn hsame
  | markingSent delivery providerReference rest =>
    obtain ⟨row, hrow, hstatus, hchannel⟩ := h.held.processing delivery mem_cons_self
    rcases of_mem_update (Delivery.sent_id providerReference s.now) hrow hd with
      rfl | ⟨hold, hid⟩
    · have hkeys : (row.sent providerReference s.now).executionKey = delivery.executionKey := by
        rw [Delivery.sent, if_pos hstatus]
        exact executionKey_of_held (key_of_find? hrow) hchannel
      refine .inl ⟨by rw [Delivery.sent, if_pos hstatus], ?_⟩
      rw [hkeys]
      exact h.succeeding
    · have hfreed : ¬NotificationProcess.Holds (.markingSent delivery providerReference rest)
          d.id := by
        intro hholds
        rcases mem_cons.mp hholds with hin | hin
        · exact hid hin
        · exact hnot hin
      exact (hsettled d hold hfreed hfree).turn hfreed
  | markingFailed delivery errorCode rest => exact h.succeeding.elim
  | enqueuing newId channel =>
    cases hinsert : s.deliveries.insert (newDelivery s.now newId channel) with
    | none =>
      rw [deliveryTurn, hinsert] at hd
      exact (hsettled d hd not_mem_nil hfree).turn not_mem_nil
    | some deliveries =>
      rw [deliveryTurn, hinsert] at hd
      rcases (mem_insert hinsert).mp hd with hd | rfl
      · exact (hsettled d hd not_mem_nil hfree).turn not_mem_nil
      · refine Delivery.Settled.turn (.inr ⟨rfl, rfl, ?_⟩) not_mem_nil
        rw [Table.find?_eq_none]
        intro e he heq
        obtain ⟨d₀, hd₀, hkey⟩ := hknown e he
        have hid : d₀.id = newId := executionKey_injective (hkey.trans heq)
        obtain ⟨hfresh, -⟩ := insert_eq_some hinsert
        exact Table.find?_eq_none.mp hfresh d₀ hd₀ hid
  | retrying =>
    obtain ⟨old, hold, rfl⟩ := mem_map.mp hd
    rw [Delivery.retried_id] at hfree
    have hsettledOld := hsettled old hold not_mem_nil hfree
    have hstatus : old.status ≠ .FAILED := by
      rcases hsettledOld with ⟨h, -⟩ | ⟨h, -⟩ <;> rw [h] <;> decide
    rw [Delivery.retried_of_ne hstatus]
    exact hsettledOld.turn not_mem_nil
  | waiting microseconds | done =>
    exact (hsettled d hd not_mem_nil hfree).turn not_mem_nil

theorem row_turn (hd : d ∈ s.deliveries.rows) :
    ∃ d' ∈ (deliveryTurn env p s).1.deliveries.rows, d'.executionKey = d.executionKey := by
  have hfind : s.deliveries.find? d.id = some d := find?_key_of_mem hd
  have hmark : ∀ {delivery : Delivery} {f : Delivery → Delivery} (hf : ∀ r, (f r).id = r.id),
      (∀ r, (f r).channel = r.channel) →
      ∃ d' ∈ (s.deliveries.update delivery.id f hf).rows, d'.executionKey = d.executionKey := by
    intro delivery f hf hchannel
    by_cases hid : d.id = delivery.id
    · have hupdated : (s.deliveries.update delivery.id f hf).find? delivery.id = some (f d) := by
        rw [find?_update_self, ← hid, hfind]
        rfl
      exact ⟨f d, mem_of_find? hupdated, executionKey_of_held (hf d) (hchannel d)⟩
    · have hsame : (s.deliveries.update delivery.id f hf).find? d.id = some d := by
        rw [find?_update_of_ne hid]
        exact hfind
      exact ⟨d, mem_of_find? hsame, rfl⟩
  cases p with
  | claiming limit locked =>
    by_cases hdue : d ∈ s.due limit locked
    · exact ⟨d.claimed, mem_of_find? (find?_claim_of_due hdue), rfl⟩
    · have hsame : (claimDueDeliveries s limit locked).1.deliveries.find? d.id = some d := by
        refine (find?_updateEach_of_forall fun a ha heq ↦ hdue ?_).trans hfind
        rw [← eq_of_mem_of_key_eq (mem_due ha).1 hd heq]
        exact ha
      exact ⟨d, mem_of_find? hsame, rfl⟩
  | delivering rest => cases rest <;> exact ⟨d, hd, rfl⟩
  | executing delivery rest place | waiting microseconds | done => exact ⟨d, hd, rfl⟩
  | markingSent delivery providerReference rest =>
    refine hmark (Delivery.sent_id providerReference s.now) fun r ↦ ?_
    rw [Delivery.sent]
    split <;> rfl
  | markingFailed delivery errorCode rest =>
    refine hmark (Delivery.failed_id delivery.attemptCount errorCode s.now) fun r ↦ ?_
    rw [Delivery.failed]
    split <;> rfl
  | enqueuing newId channel =>
    rw [deliveryTurn]
    split
    · rename_i deliveries hinsert
      exact ⟨d, (mem_insert hinsert).mpr (.inl hd), rfl⟩
    · exact ⟨d, hd, rfl⟩
  | retrying =>
    refine ⟨d.retried s.now, mem_map_of_mem hd, executionKey_of_held (d.retried_id s.now) ?_⟩
    rw [Delivery.retried]
    split <;> rfl

theorem known_turn (h : Held p s)
    (hknown : ∀ e ∈ s.adapters.executions.rows, ∃ d ∈ s.deliveries.rows, d.executionKey = e.key)
    {e : ExternalAdapterExecution} (he : e ∈ (deliveryTurn env p s).1.adapters.executions.rows) :
    ∃ d ∈ (deliveryTurn env p s).1.deliveries.rows, d.executionKey = e.key := by
  have hold : (∃ d ∈ s.deliveries.rows, d.executionKey = e.key) →
      ∃ d ∈ (deliveryTurn env p s).1.deliveries.rows, d.executionKey = e.key := by
    rintro ⟨d, hd, hkey⟩
    obtain ⟨d', hd', hkey'⟩ := @row_turn env s p d hd
    exact ⟨d', hd', hkey'.trans hkey⟩
  cases p with
  | executing delivery rest place =>
    refine hold ?_
    rcases mem_executionTurn he with hkey | ⟨e₀, he₀, hkey⟩
    · obtain ⟨row, hrow, -, hchannel⟩ := h.processing delivery mem_cons_self
      exact ⟨row, mem_of_find? hrow,
        (executionKey_of_held (key_of_find? hrow) hchannel).trans hkey.symm⟩
    · exact hkey ▸ hknown e₀ he₀
  | delivering rest => cases rest <;> exact hold (hknown e he)
  | enqueuing newId channel =>
    refine hold (hknown e ?_)
    rw [deliveryTurn] at he
    split at he <;> exact he
  | _ => exact hold (hknown e he)

theorem promising_keeps (env : AdapterEnv) :
    promising.Keeps (notificationDeliveries env) (Prompt env) where
  start st request hst _ := by
    obtain ⟨hinv, hat, hapart⟩ :=
      (holding_keeps env).start st request (holding_of_promising hst) trivial
    have hnew : ((notificationDeliveries env).start request).unexecuted = [] ∧
        Succeeding st.store ((notificationDeliveries env).start request) := by
      cases request <;> exact ⟨rfl, trivial⟩
    refine ⟨⟨hinv, hst.inv.known, fun d hd hnot ↦ ?_⟩, ⟨hat, fun c hc ↦ ?_, hnew.2⟩, hapart⟩
    · exact hst.inv.settled d hd fun p hp ↦ hnot p (mem_append_left _ hp)
    · rw [hnew.1] at hc
      exact absurd hc not_mem_nil
  turn st n p hst hC hp := by
    obtain ⟨hinv, -, hothers⟩ :=
      (holding_keeps env).turn st n p (holding_of_promising hst) trivial hp
    have hat : Promising p st.store := hst.places p (mem_of_getElem? hp)
    have hlt := (List.getElem?_eq_some_iff.mp hp).1
    -- what is due nobody holds
    have hdue : ∀ d ∈ st.store.deliveries.rows, d.Due st.store.now → d.Settled st.store := by
      intro d hd hdueNow
      refine hst.inv.settled d hd fun q hq hholds ↦ ?_
      obtain ⟨c, hc, hid⟩ := mem_map.mp hholds
      obtain ⟨row, hrow, hstatus, -⟩ := (hst.places q hq).held.processing c hc
      have hsame : row = d := eq_of_mem_of_key_eq (mem_of_find? hrow) hd
        ((key_of_find? hrow).trans hid)
      exact hdueNow.status.1 (hsame ▸ hstatus)
    refine ⟨⟨hinv, fun e he ↦ known_turn hat.held hst.inv.known he, fun d hd hnot ↦ ?_⟩,
      hat.turn (hC p hp) hdue, fun m q hmn hq ↦ ⟨?_, (hothers m q hmn hq).2⟩⟩
    · have hothersFree : ∀ m q, m ≠ n → st.processes[m]? = some q → ¬q.Holds d.id := by
        intro m q hmn hq
        refine hnot q (mem_of_getElem? (i := m) ?_)
        rw [List.getElem?_set_ne (Ne.symm hmn)]
        exact hq
      have hsettled : ∀ d ∈ st.store.deliveries.rows, ¬p.Holds d.id →
          (∀ m q, m ≠ n → st.processes[m]? = some q → ¬q.Holds d.id) → d.Settled st.store := by
        intro d hd hunheld hfree
        refine hst.inv.settled d hd fun q hq ↦ ?_
        obtain ⟨m, hm⟩ := mem_iff_getElem?.mp hq
        by_cases hmn : m = n
        · subst hmn
          rw [hp] at hm
          cases hm
          exact hunheld
        · exact hfree m q hmn hm
      exact settled_turn hat (fun id ↦ ∀ m q, m ≠ n → st.processes[m]? = some q → ¬q.Holds id)
        hst.inv.known hsettled hd (hnot _ (mem_set hlt _)) hothersFree
    · have hq' : Promising q st.store := hst.places q (mem_of_getElem? hq)
      exact hq'.other (hst.apart m n q p hmn hq hp)

/-! ### Runs -/

def NotificationStore.opening (configs : Table ExternalAdapterConfig) : NotificationStore where
  now := 0
  deliveries := .empty
  adapters :=
    { configs := configs
      executions := .empty
      calls := [] }

/-- **Every delivery that no pass under way holds is sent**, and an adapter has been called for it,
or it has not been attempted. -/
def Recovered (st : State NotificationStore NotificationProcess) : Prop :=
  ∀ d ∈ st.store.deliveries.rows, (∀ p ∈ st.processes, ¬p.Holds d.id) →
    (d.status = .SENT ∧ d.executionKey ∈ st.store.adapters.calls) ∨
    (d.status = .PENDING ∧ d.attemptCount = 0)

/-- **Deliveries recover**: what is sent stays so, what is due is claimed, and sent where first
executions succeed. -/
theorem deliveries_recover (env : AdapterEnv) :
    (∀ (configs : Table ExternalAdapterConfig) (events : List (Event NotificationRequest)),
      Along (step (notificationDeliveries env)) (fun st event ↦
        ∀ st', step (notificationDeliveries env) st event = .ok st' → SentKept st st')
        (.idle (.opening configs)) events) ∧
    (∀ (s : NotificationStore) (limit : ℕ) (locked : List Uuid),
      ((s.deliveries.rows.filter fun d ↦ d.Due s.now ∧ d.id ∉ locked).length ≤ limit) →
      ∀ d ∈ s.deliveries.rows, d.Due s.now → d.id ∉ locked →
        (deliveryTurn env (.claiming limit locked) s).1.deliveries.find? d.id = some d.claimed ∧
        (deliveryTurn env (.claiming limit locked) s).2.Holds d.id) ∧
    ∀ (configs : Table ExternalAdapterConfig) (events : List (Event NotificationRequest)),
      Along (step (notificationDeliveries env)) (Prompt env) (.idle (.opening configs)) events →
      Recovered (run (step (notificationDeliveries env)) (.idle (.opening configs)) events) := by
  refine ⟨fun configs events ↦ ?_, fun s limit locked hlimit d hd hdue hlocked ↦ ?_,
    fun configs events h ↦ ?_⟩
  · have hopening : holding.Holds (.idle (.opening configs)) :=
      .idle fun _ h ↦ absurd h not_mem_nil
    exact (holding_keeps env).along (fun _ _ _ hst _ hstep _ ↦ sentKept_of_step hst hstep) hopening
      events (Outline.along_of_forall (fun _ _ ↦ trivial) events)
  · have hmem : d ∈ s.due limit locked := by
      rw [NotificationStore.due, take_of_length_le]
      · rw [mem_orderBy, mem_filter, decide_eq_true_eq]
        exact ⟨hd, hdue, hlocked⟩
      · rw [(orderBy_perm _ _).length_eq]
        exact hlimit
    have hheld : d.claimed ∈ (s.due limit locked).map Delivery.claimed :=
      mem_map_of_mem hmem
    have hid : d.claimed.id ∈ ((s.due limit locked).map Delivery.claimed).map Delivery.id :=
      mem_map_of_mem hheld
    exact ⟨find?_claim_of_due hmem, hid⟩
  · have hopening : promising.Holds (.idle (.opening configs)) :=
      .idle ⟨forall_mem_nil _, forall_mem_nil _,
        forall_mem_nil _⟩
    intro d hd hnot
    rcases ((promising_keeps env).run hopening events h).inv.settled d hd hnot with hsent | hnew
    · exact Or.inl hsent
    · exact Or.inr ⟨hnew.1, hnew.2.1⟩

/-! ### Passes that stop, and adapters that fail -/

instance (env : AdapterEnv) (s : NotificationStore) (p : NotificationProcess) :
    Decidable (p.Prompt env s) := by
  unfold NotificationProcess.Prompt
  split <;> infer_instance

def emailConfigs : Table ExternalAdapterConfig where
  rows := [{
    capability := .NOTIFICATION_EMAIL, provider := textOf "SIMULATOR", adapterVersion := textOf "1",
    enabled := true, maxAttempts := 2 }]
  nodup := by decide

def failsFirst (failures : ℕ) : AdapterEnv where
  registered _ _ _ := true
  answers n := if n < failures then .RETRYABLE_FAILURE (textOf "SIMULATED_PROVIDER_UNAVAILABLE")
    else .SUCCEEDED (textOf "SIM-1")

def noDeliveries : State NotificationStore NotificationProcess :=
  .idle (.opening emailConfigs)

def firstPass (turns : ℕ) : List (Event NotificationRequest) :=
  [.start (.enqueue 7 .EMAIL), .turn 0, .start (.«pass» 50 [])] ++ List.replicate turns (.turn 1)

def laterPass (position : ℕ) : List (Event NotificationRequest) :=
  [.start (.wait (180 * minute)), .turn position, .start (.«pass» 50 [])] ++
    List.replicate 10 (.turn (position + 1))

theorem deliveries_recover_second :
    Recovered (run (step (notificationDeliveries (failsFirst 1))) noDeliveries
      (firstPass 10 ++ laterPass 2)) :=
  (deliveries_recover (failsFirst 1)).2.2 emailConfigs (firstPass 10 ++ laterPass 2)
    (by decide +kernel)

/-- **Deliveries that are not sent**: one whose pass stops after its claim, and one whose adapter
has failed twice. -/
theorem unrecovered :
    (let st := run (step (notificationDeliveries (failsFirst 0))) noDeliveries
      (firstPass 1 ++ laterPass 2 ++ laterPass 4)
    st.store.deliveries.rows.map (fun d ↦ (d.status, d.attemptCount)) = [(.PROCESSING, 1)] ∧
      st.store.adapters.calls = []) ∧
    (let st := run (step (notificationDeliveries (failsFirst 2))) noDeliveries
      (firstPass 10 ++ laterPass 2 ++ laterPass 4 ++ laterPass 6 ++ laterPass 8)
    st.store.deliveries.rows.map (fun d ↦ (d.status, d.attemptCount)) = [(.FAILED, 5)] ∧
      st.store.adapters.calls.length = 2) := by
  decide +kernel

end UInventario.Notifications
