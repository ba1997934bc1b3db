import UInventario.Commerce.Webhooks

/-!
# The bookkeeping of deliveries

`Booked` is what one step of a run owes, in any interleaving of publications and replays: one
delivery for an event; a delivery that has succeeded stays so and is not attempted again; while no
attempt is under way, the count is the number of attempts, at most five; and a replay answers with
what is stored.

The loops count on their own, from what they have read. `Undisturbed` is the condition: a loop that
is about to make an attempt finds the row at its own count, and no other attempt under way.
`webhook_bookkeeping` is the result, and in `webhook_bookkeeping_replayed_loop` a replay comes
between the attempts of a publication.
-/

namespace UInventario.Commerce

open Outcome Processes Table List

/-! ### What a turn does to a delivery -/

/-- **A delivery goes on.** -/
structure Delivery.Continues (d d' : Delivery) : Prop where
  credentialId : d'.credentialId = d.credentialId
  eventId : d'.eventId = d.eventId
  counted : d.attemptCount ≤ d'.attemptCount
  succeeded : d.status = .SUCCEEDED → d'.status = .SUCCEEDED
  unfinished : d'.attemptCount = d.attemptCount → d.status ≠ .SUCCEEDED → d'.status ≠ .SUCCEEDED

theorem Delivery.Continues.refl (d : Delivery) : d.Continues d :=
  ⟨rfl, rfl, le_rfl, fun h ↦ h, fun _ h ↦ h⟩

theorem Delivery.continues_attempted (result : AttemptResult) (now : Timestamp) (d : Delivery) :
    d.Continues (d.attempted result now) := by
  rw [attempted]
  split
  · rename_i hopen
    exact ⟨rfl, rfl, Nat.le_succ _, fun h ↦ absurd h hopen.1,
      fun h ↦ absurd h (Nat.succ_ne_self _)⟩
  · exact .refl d

variable {d : Delivery}

theorem Delivery.continues_pending (h : d.status ≠ .SUCCEEDED) : d.Continues d.pending :=
  ⟨rfl, rfl, le_rfl, fun hd ↦ absurd hd h, fun _ _ ↦ nofun⟩

theorem Delivery.continues_signed (signature : Text) (d : Delivery) :
    d.Continues (d.signed signature) :=
  ⟨rfl, rfl, le_rfl, fun h ↦ h, fun _ h ↦ h⟩

def DeliveriesContinue (s s' : WebhookStore) : Prop :=
  ∀ id d, s.deliveries.find? id = some d → ∃ d', s'.deliveries.find? id = some d' ∧ d.Continues d'

variable {s s' : WebhookStore} {id : Uuid}

theorem DeliveriesContinue.of_eq (h : s'.deliveries = s.deliveries) : DeliveriesContinue s s' :=
  fun _ d hd ↦ ⟨d, by rw [h]; exact hd, .refl d⟩

theorem DeliveriesContinue.of_update (f : Delivery → Delivery) (hf : ∀ d, (f d).id = d.id)
    (h : s'.deliveries = s.deliveries.update id f hf)
    (hrow : ∀ d, s.deliveries.find? id = some d → d.Continues (f d)) : DeliveriesContinue s s' := by
  intro id' d hd
  rw [h]
  by_cases hid : id' = id
  · subst hid
    rw [find?_update_self, hd]
    exact ⟨f d, rfl, hrow d hd⟩
  · rw [find?_update_of_ne hid, hd]
    exact ⟨d, rfl, .refl d⟩

theorem insertDelivery_cases (s : WebhookStore) (input : DeliveryInput) (id : Uuid) :
    insertDelivery s input id = s ∨ ∃ deliveries,
      s.deliveryOf input.credentialId input.eventId = none ∧
      s.deliveries.insert (input.row id) = some deliveries ∧
      insertDelivery s input id = { s with deliveries := deliveries } := by
  rw [insertDelivery]
  cases hof : s.deliveryOf input.credentialId input.eventId with
  | some d => exact .inl rfl
  | none =>
    cases hinsert : s.deliveries.insert (input.row id) with
    | none => exact .inl rfl
    | some deliveries => exact .inr ⟨deliveries, rfl, rfl, rfl⟩

theorem prepareDeliveryReplay_cases (s : WebhookStore) (deliveryId : Uuid) :
    prepareDeliveryReplay s deliveryId = (s, none) ∨ ∃ d keyHash,
      s.deliveries.find? deliveryId = some d ∧ d.status ≠ .SUCCEEDED ∧ d.attemptCount < 5 ∧
      prepareDeliveryReplay s deliveryId =
        ({ s with deliveries := s.deliveries.update deliveryId Delivery.pending },
          some { delivery := d.pending, keyHash := keyHash }) := by
  unfold prepareDeliveryReplay
  split
  · exact .inl rfl
  · rename_i d hd
    split
    · exact .inl rfl
    · rename_i credential _
      split
      · rename_i hopen
        refine .inr ⟨d, credential.keyHash, hd, ?_, hopen.2.1, rfl⟩
        rcases hopen.1 with h | h
        · rw [h]
          rintro ⟨⟩
        · rw [h]
          rintro ⟨⟩
      · exact .inl rfl

theorem find?_updateDelivery (hd : s.deliveries.find? id = some d)
    (hstatus : d.status ≠ .SUCCEEDED) (hcount : d.attemptCount < 5) (result : AttemptResult) :
    ∃ d', (updateDelivery s id result).deliveries.find? id = some d' ∧ d'.status = result.status ∧
      d'.attemptCount = d.attemptCount + 1 := by
  refine ⟨d.attempted result s.now, ?_, ?_⟩
  · show (s.deliveries.update id (Delivery.attempted result s.now)
      (Delivery.attempted_id result s.now)).find? id = _
    rw [find?_update_self, hd]
    rfl
  · rw [Delivery.attempted, if_pos ⟨hstatus, hcount⟩]
    exact ⟨rfl, rfl⟩

variable {hmac : Hmac} {p : Process} {d' : Delivery}

/-- **What a turn can do to the deliveries**: nothing, a new row, or a change of one. -/
theorem turn_cases (hmac : Hmac) (p : Process) (s : WebhookStore) :
    (turn hmac p s).1.deliveries = s.deliveries ∨
    (∃ (input : DeliveryInput) (newId : Uuid),
      s.deliveryOf input.credentialId input.eventId = none ∧
      s.deliveries.insert (input.row newId) = some (turn hmac p s).1.deliveries) ∨
    (∃ id, ∃ f : Delivery → Delivery, ∃ hf : ∀ d, (f d).id = d.id,
      (turn hmac p s).1.deliveries = s.deliveries.update id f hf ∧
      ∀ d, s.deliveries.find? id = some d → d.Continues (f d) ∧
        ((f d).attemptCount = d.attemptCount ∨
          p.underWay = some id ∧ (d.attemptCount ≤ 5 → (f d).attemptCount ≤ 5))) := by
  cases p with
  | inserting input newId outcomes =>
    show (insertDelivery s input newId).deliveries = _ ∨
      (∃ (input' : DeliveryInput) (newId' : Uuid), _ ∧
        _ = some (insertDelivery s input newId).deliveries) ∨ _
    rcases insertDelivery_cases s input newId with h | ⟨deliveries, hof, hinsert, h⟩
    · exact .inl (by rw [h])
    · refine .inr (.inl ⟨input, newId, hof, ?_⟩)
      rw [h]
      exact hinsert
  | preparing deliveryId outcomes =>
    rcases prepareDeliveryReplay_cases s deliveryId with h | ⟨d, keyHash, hd, hopen, -, h⟩
    · refine .inl ?_
      rw [turn, h]
    · refine .inr (.inr ⟨deliveryId, Delivery.pending, fun _ ↦ rfl, ?_, fun d' hd' ↦ ?_⟩)
      · rw [turn, h]
      · rw [hd] at hd'
        cases hd'
        exact ⟨d.continues_pending hopen, .inl rfl⟩
  | signing prepared outcomes =>
    exact .inr (.inr ⟨prepared.delivery.id, Delivery.signed _, fun _ ↦ rfl, rfl,
      fun d _ ↦ ⟨d.continues_signed _, .inl rfl⟩⟩)
  | storing l result =>
    refine .inr (.inr ⟨l.delivery.id, Delivery.attempted result s.now,
      Delivery.attempted_id result s.now, rfl, fun d _ ↦ ⟨d.continues_attempted result s.now, ?_⟩⟩)
    refine .inr ⟨rfl, fun hd ↦ ?_⟩
    rw [Delivery.attempted]
    split
    · rename_i hopen
      exact hopen.2
    · exact hd
  | configuring order newId outcomes => exact .inl rfl
  | selecting credentialId eventId outcomes => exact .inl rfl
  | attempting l => exact .inl rfl
  | changing credentials externalOrders now => exact .inl rfl
  | finished => exact .inl rfl
  | replied answer => exact .inl rfl

/-- **A turn lets the deliveries go on.** -/
theorem turn_continues (hmac : Hmac) (p : Process) (s : WebhookStore) :
    DeliveriesContinue s (turn hmac p s).1 := by
  rcases turn_cases hmac p s with h | ⟨input, newId, -, hinsert⟩ | ⟨id, f, hf, h, hrow⟩
  · exact .of_eq h
  · exact fun id d hd ↦ ⟨d, find?_insert_of_some hinsert hd, .refl d⟩
  · exact .of_update f hf h fun d hd ↦ (hrow d hd).1

def Process.handles : Process → Option Uuid
  | .attempting l => some l.delivery.id
  | .storing l _ => some l.delivery.id
  | _ => none

theorem Process.handles_of_underWay (p : Process) (h : p.underWay = some id) :
    p.handles = some id := by
  cases p with
  | storing l result => exact h
  | _ => cases h

theorem turn_executed_other (h : p.handles ≠ some id) :
    (turn hmac p s).1.executed.count id = s.executed.count id := by
  cases p with
  | attempting l =>
    have hid : l.delivery.id ≠ id := fun heq ↦ h (congrArg some heq)
    show (s.executed ++ [l.delivery.id]).count id = s.executed.count id
    rw [count_append, count_singleton, if_neg (by simpa using hid), Nat.add_zero]
  | inserting input newId outcomes =>
    show (insertDelivery s input newId).executed.count id = _
    rcases insertDelivery_cases s input newId with h | ⟨deliveries, -, -, h⟩
    · rw [h]
    · rw [h]
  | preparing deliveryId outcomes =>
    rcases prepareDeliveryReplay_cases s deliveryId with h | ⟨d, keyHash, -, -, -, h⟩
    · rw [turn, h]
    · rw [turn, h]
  | configuring order newId outcomes => rfl
  | selecting credentialId eventId outcomes => rfl
  | signing prepared outcomes => rfl
  | storing l result => rfl
  | changing credentials externalOrders now => rfl
  | finished => rfl
  | replied answer => rfl

/-- **A turn that handles another delivery** leaves the count of this one; if there was none, its
count is zero. -/
theorem turn_count_other (h : p.handles ≠ some id)
    (hd' : (turn hmac p s).1.deliveries.find? id = some d') :
    (∃ d, s.deliveries.find? id = some d ∧ d'.attemptCount = d.attemptCount) ∨
      (s.deliveries.find? id = none ∧ d'.attemptCount = 0) := by
  rcases turn_cases hmac p s with heq | ⟨input, newId, -, hinsert⟩ | ⟨id', f, hf, heq, hrow⟩
  · rw [heq] at hd'
    exact .inl ⟨d', hd', rfl⟩
  · cases hold : s.deliveries.find? id with
    | some d =>
      rw [find?_insert_of_some hinsert hold] at hd'
      cases hd'
      exact .inl ⟨_, rfl, rfl⟩
    | none =>
      rcases (mem_insert hinsert).mp (mem_of_find? hd') with hmem | rfl
      · exact absurd (key_of_find? hd') (Table.find?_eq_none.mp hold _ hmem)
      · exact .inr ⟨rfl, rfl⟩
  · rw [heq] at hd'
    by_cases hid : id = id'
    · subst hid
      rw [find?_update_self, Option.map_eq_some_iff] at hd'
      obtain ⟨d, hd, rfl⟩ := hd'
      rcases (hrow d hd).2 with hcount | ⟨hunder, -⟩
      · exact .inl ⟨d, hd, hcount⟩
      · exact absurd (p.handles_of_underWay hunder) h
    · rw [find?_update_of_ne hid] at hd'
      exact .inl ⟨d', hd', rfl⟩

/-! ### What the loops know -/

/-- **What a loop has read of a delivery**, and what may have become of it. -/
def Reads (s : WebhookStore) (id : Uuid) (count : ℕ) : Prop :=
  ∃ d, s.deliveries.find? id = some d ∧ count ≤ d.attemptCount ∧
    (d.attemptCount = count → d.status ≠ .SUCCEEDED)

theorem Reads.later {count : ℕ} (h : Reads s id count) (hs : DeliveriesContinue s s') :
    Reads s' id count := by
  obtain ⟨d, hd, hcount, hstatus⟩ := h
  obtain ⟨d', hd', hcontinues⟩ := hs id d hd
  refine ⟨d', hd', hcount.trans hcontinues.counted, fun heq ↦ ?_⟩
  have hle : d.attemptCount ≤ count := heq ▸ hcontinues.counted
  have hsame : d.attemptCount = count := Nat.le_antisymm hle hcount
  exact hcontinues.unfinished (heq.trans hsame.symm) (hstatus hsame)

def At : Process → WebhookStore → Prop
  | .signing prepared _, s =>
    prepared.delivery.attemptCount < 5 ∧ Reads s prepared.delivery.id prepared.delivery.attemptCount
  | .attempting l, s =>
    l.attempt ≤ l.origin.lastAttempt ∧ ∃ n, l.attempt = n + 1 ∧ Reads s l.delivery.id n
  | .storing l _, s =>
    l.attempt ≤ l.origin.lastAttempt ∧ s.executed.count l.delivery.id = l.attempt ∧
      ∃ d, s.deliveries.find? l.delivery.id = some d ∧ d.status ≠ .SUCCEEDED ∧
        d.attemptCount + 1 = l.attempt
  | _, _ => True

theorem LoopOrigin.lastAttempt_le (origin : LoopOrigin) : origin.lastAttempt ≤ 5 := by
  cases origin <;> decide

variable {l : Loop} {n : ℕ}

theorem at_enter (hattempt : l.attempt = n + 1) (hreads : Reads s l.delivery.id n) :
    At l.enter s := by
  rw [Loop.enter]
  split
  · rename_i hle
    exact ⟨hle, n, hattempt, hreads⟩
  · rw [Loop.leave]
    cases l.origin <;> trivial

theorem at_leave (l : Loop) : At l.leave s := by
  rw [Loop.leave]
  cases l.origin <;> trivial

theorem Loop.record_delivery_id (l : Loop) (result : AttemptResult) (now : Timestamp) :
    (l.record result now).delivery.id = l.delivery.id := by
  rw [record]
  cases l.origin <;> rfl

/-- **A place in the program stays good** while another delivery's process takes its turn. -/
theorem At.other {q : Process} (h : At q s)
    (hother : ∀ id, q.underWay = some id → p.handles ≠ some id) : At q (turn hmac p s).1 := by
  have hcontinues := turn_continues hmac p s
  cases q with
  | signing prepared outcomes => exact ⟨h.1, h.2.later hcontinues⟩
  | attempting l =>
    obtain ⟨hle, n, hattempt, hreads⟩ := h
    exact ⟨hle, n, hattempt, hreads.later hcontinues⟩
  | storing l result =>
    obtain ⟨hle, hexecuted, d, hd, hstatus, hcount⟩ := h
    have hhandles := hother _ rfl
    obtain ⟨d', hd', hgoes⟩ := hcontinues _ d hd
    have hcount' : d'.attemptCount = d.attemptCount := by
      rcases turn_count_other hhandles hd' with ⟨d₁, hd₁, heq⟩ | ⟨hnone, -⟩
      · rw [hd] at hd₁
        cases hd₁
        exact heq
      · rw [hd] at hnone
        cases hnone
    exact ⟨hle, (turn_executed_other hhandles).trans hexecuted, d', hd',
      hgoes.unfinished hcount' hstatus,
      by rw [hcount', hcount]⟩
  | _ => trivial

/-! ### The outline -/

structure Sound (st : State WebhookStore Process) : Prop where
  unique : ∀ d ∈ st.store.deliveries.rows, ∀ d' ∈ st.store.deliveries.rows,
    d.credentialId = d'.credentialId → d.eventId = d'.eventId → d = d'
  bounded : ∀ d ∈ st.store.deliveries.rows, d.attemptCount ≤ 5
  known : ∀ id ∈ st.store.executed, ∃ d, st.store.deliveries.find? id = some d
  counted : ∀ d ∈ st.store.deliveries.rows, (∀ p ∈ st.processes, p.underWay ≠ some d.id) →
    st.store.executed.count d.id = d.attemptCount

/-- The outline of the processes: no two attempts on one delivery are under way. -/
def outline : Outline WebhookStore Process where
  Inv := Sound
  At := At
  Apart p q := ∀ id, p.underWay = some id → q.underWay ≠ some id
  symm h id hq hp := h id hp hq

/-- A loop that is about to make an attempt finds its own count in the row, and no attempt on the
delivery is under way. -/
def Process.Undisturbed (st : State WebhookStore Process) : Process → Prop
  | .attempting l =>
    (∀ d ∈ st.store.deliveries.find? l.delivery.id, d.attemptCount + 1 = l.attempt) ∧
      ∀ p ∈ st.processes, p.underWay ≠ some l.delivery.id
  | _ => True

/-- **The condition on a step**: the attempt it makes, if it makes one, is undisturbed. -/
abbrev Undisturbed : State WebhookStore Process → Event WebhookRequest → Prop :=
  AtTurn fun st p ↦ p.Undisturbed st

/-! ### One turn keeps the outline -/

variable {st st' : State WebhookStore Process} {result : AttemptResult}

theorem unique_turn (hmac : Hmac) (p : Process)
    (h : ∀ d ∈ s.deliveries.rows, ∀ d' ∈ s.deliveries.rows,
      d.credentialId = d'.credentialId → d.eventId = d'.eventId → d = d') :
    ∀ d ∈ (turn hmac p s).1.deliveries.rows, ∀ d' ∈ (turn hmac p s).1.deliveries.rows,
      d.credentialId = d'.credentialId → d.eventId = d'.eventId → d = d' := by
  rcases turn_cases hmac p s with heq | ⟨input, newId, hof, hinsert⟩ | ⟨id, f, hf, heq, hrow⟩
  · rw [heq]
    exact h
  · have hnone : ∀ d ∈ s.deliveries.rows, input.credentialId = d.credentialId →
        input.eventId ≠ d.eventId := by
      intro d hd hcredential hevent
      have := List.find?_eq_none.mp hof d hd
      exact this (decide_eq_true ⟨hcredential.symm, hevent.symm⟩)
    intro d hd d' hd' hcredential hevent
    rcases (mem_insert hinsert).mp hd with hd | rfl
    · rcases (mem_insert hinsert).mp hd' with hd' | rfl
      · exact h d hd d' hd' hcredential hevent
      · exact absurd hevent.symm (hnone d hd hcredential.symm)
    · rcases (mem_insert hinsert).mp hd' with hd' | rfl
      · exact absurd hevent (hnone d' hd' hcredential)
      · rfl
  · have hold : ∀ d' ∈ (s.deliveries.update id f hf).rows, ∃ d ∈ s.deliveries.rows,
        d'.id = d.id ∧ d'.credentialId = d.credentialId ∧ d'.eventId = d.eventId := by
      intro d' hd'
      obtain ⟨d, hd, -, hself, hother⟩ := exists_of_mem_update hd'
      by_cases hkey : d.id = id
      · have hgoes := (hrow d (hkey ▸ find?_key_of_mem hd)).1
        rw [hself hkey]
        exact ⟨d, hd, hf d, hgoes.credentialId, hgoes.eventId⟩
      · rw [hother hkey]
        exact ⟨d, hd, rfl, rfl, rfl⟩
    rw [heq]
    intro d₁ hd₁ d₂ hd₂ hcredential hevent
    obtain ⟨e₁, he₁, hid₁, hcredential₁, hevent₁⟩ := hold d₁ hd₁
    obtain ⟨e₂, he₂, hid₂, hcredential₂, hevent₂⟩ := hold d₂ hd₂
    have hsame := h e₁ he₁ e₂ he₂ (by rw [← hcredential₁, ← hcredential₂, hcredential])
      (by rw [← hevent₁, ← hevent₂, hevent])
    exact eq_of_mem_of_key_eq hd₁ hd₂ (hid₁.trans (hsame ▸ hid₂.symm))

theorem bounded_turn (hmac : Hmac) (p : Process) (h : ∀ d ∈ s.deliveries.rows, d.attemptCount ≤ 5) :
    ∀ d ∈ (turn hmac p s).1.deliveries.rows, d.attemptCount ≤ 5 := by
  intro d' hd'
  rcases turn_cases hmac p s with heq | ⟨input, newId, -, hinsert⟩ | ⟨id, f, hf, heq, hrow⟩
  · rw [heq] at hd'
    exact h d' hd'
  · rcases (mem_insert hinsert).mp hd' with hd' | rfl
    · exact h d' hd'
    · exact Nat.zero_le 5
  · rw [heq] at hd'
    refine forall_mem_update (P := fun d ↦ d.attemptCount ≤ 5) _ h (fun d hd hle ↦ ?_) d' hd'
    rcases (hrow d hd).2 with hcount | ⟨-, hcount⟩
    · rw [hcount]
      exact hle
    · exact hcount hle

theorem known_turn (hat : At p s) (h : ∀ id ∈ s.executed, ∃ d, s.deliveries.find? id = some d) :
    ∀ id ∈ (turn hmac p s).1.executed, ∃ d, (turn hmac p s).1.deliveries.find? id = some d := by
  intro id hid
  have hfound : ∃ d, s.deliveries.find? id = some d := by
    by_cases hhandles : p.handles = some id
    · cases p with
      | attempting l =>
        cases hhandles
        obtain ⟨-, -, -, d, hd, -⟩ := hat
        exact ⟨d, hd⟩
      | storing l result =>
        cases hhandles
        obtain ⟨-, -, d, hd, -⟩ := hat
        exact ⟨d, hd⟩
      | _ => cases hhandles
    · rw [← count_pos_iff, turn_executed_other hhandles, count_pos_iff] at hid
      exact h id hid
  obtain ⟨d, hd⟩ := hfound
  obtain ⟨d', hd', -⟩ := turn_continues hmac p s id d hd
  exact ⟨d', hd'⟩

theorem at_after
    (hd' : s.deliveries.find? l.delivery.id = some d') (hstatus : d'.status = result.status)
    (hcount : d'.attemptCount = l.attempt) (now : Timestamp) : At (l.after result now) s := by
  rw [Loop.after]
  split
  · exact at_leave _
  · rename_i hgoes
    refine at_enter rfl ⟨d', ?_, hcount.ge, fun _ hsucceeded ↦ ?_⟩
    · rw [l.record_delivery_id]
      exact hd'
    · exact hgoes (.inl (hstatus ▸ hsucceeded))

theorem underWay_enter (l : Loop) : l.enter.underWay = none := by
  rw [Loop.enter, Loop.leave]
  split
  · rfl
  · cases l.origin <;> rfl

theorem underWay_after (l : Loop) (result : AttemptResult) (now : Timestamp) :
    (l.after result now).underWay = none := by
  rw [Loop.after]
  split
  · rw [Loop.leave]
    cases (l.record result now).origin <;> rfl
  · exact underWay_enter _

theorem underWay_turn (h : (turn hmac p s).2.underWay = some id) :
    ∃ l, p = .attempting l ∧ l.delivery.id = id := by
  cases p with
  | attempting l => exact ⟨l, rfl, Option.some.inj h⟩
  | configuring order newId outcomes =>
    change (configure hmac s order newId outcomes).underWay = some id at h
    rw [configure] at h
    split at h
    · cases h
    · split at h <;> cases h
  | selecting credentialId eventId outcomes =>
    change (beginPublishing s credentialId eventId outcomes).underWay = some id at h
    rw [beginPublishing] at h
    split at h
    · cases h
    · split at h
      · cases h
      · rw [underWay_enter] at h
        cases h
  | preparing deliveryId outcomes =>
    rcases prepareDeliveryReplay_cases s deliveryId with h' | ⟨d, keyHash, -, -, -, h'⟩
    · rw [turn, h'] at h
      cases h
    · rw [turn, h'] at h
      cases h
  | signing prepared outcomes =>
    change (beginReplay _ prepared outcomes).underWay = some id at h
    rw [beginReplay, underWay_enter] at h
    cases h
  | storing l result =>
    change (l.after result s.now).underWay = some id at h
    rw [underWay_after] at h
    cases h
  | _ => cases h

theorem at_turn (hat : At p s) (hfresh : ∀ l, p = .attempting l →
      (∀ d ∈ s.deliveries.find? l.delivery.id, d.attemptCount + 1 = l.attempt) ∧
        ∀ d ∈ s.deliveries.find? l.delivery.id,
          s.executed.count l.delivery.id = d.attemptCount) :
    At (turn hmac p s).2 (turn hmac p s).1 := by
  cases p with
  | configuring order newId outcomes =>
    show At (configure hmac s order newId outcomes) s
    rw [configure]
    split
    · trivial
    · split <;> trivial
  | inserting input newId outcomes => trivial
  | selecting credentialId eventId outcomes =>
    show At (beginPublishing s credentialId eventId outcomes) s
    rw [beginPublishing]
    split
    · trivial
    · rename_i d hd
      split
      · trivial
      · rename_i hstatus
        exact at_enter rfl ⟨d, find?_key_of_mem (mem_of_find?_eq_some hd), le_rfl,
          fun _ ↦ hstatus⟩
  | preparing deliveryId outcomes =>
    rcases prepareDeliveryReplay_cases s deliveryId with h | ⟨d, keyHash, hd, -, hcount, h⟩
    · rw [turn, h]
      trivial
    · rw [turn, h]
      refine ⟨hcount, d.pending, ?_, le_rfl, fun _ ↦ nofun⟩
      show (s.deliveries.update deliveryId Delivery.pending).find? d.id = some d.pending
      rw [show d.id = deliveryId from key_of_find? hd, find?_update_self, hd]
      rfl
  | signing prepared outcomes =>
    exact at_enter rfl (hat.2.later (turn_continues hmac (.signing prepared outcomes) s))
  | attempting l =>
    obtain ⟨hle, n, hattempt, d, hd, -, hstatus⟩ := hat
    obtain ⟨hcount, hexecuted⟩ := hfresh l rfl
    have hnext : d.attemptCount + 1 = l.attempt := hcount d hd
    refine ⟨hle, ?_, d, hd, hstatus (by omega), hnext⟩
    show (s.executed ++ [l.delivery.id]).count l.delivery.id = l.attempt
    rw [count_append, count_singleton_self, hexecuted d hd, hnext]
  | storing l result =>
    obtain ⟨hle, -, d, hd, hstatus, hcount⟩ := hat
    have hlast : l.attempt ≤ 5 := hle.trans l.origin.lastAttempt_le
    obtain ⟨d', hd', hstatus', hcount'⟩ :=
      find?_updateDelivery hd hstatus (by omega) result
    exact at_after hd' hstatus' (hcount'.trans hcount) s.now
  | changing credentials externalOrders now | finished | replied answer => trivial

theorem fresh_of_undisturbed (hsound : Sound st) (hC : Undisturbed st (.turn n))
    (hp : st.processes[n]? = some p) (hl : p = .attempting l) :
    (∀ d ∈ st.store.deliveries.find? l.delivery.id, d.attemptCount + 1 = l.attempt) ∧
      ∀ d ∈ st.store.deliveries.find? l.delivery.id,
        st.store.executed.count l.delivery.id = d.attemptCount := by
  subst hl
  obtain ⟨hcount, hquiet⟩ := hC _ hp
  refine ⟨hcount, fun d hd ↦ ?_⟩
  have hid : d.id = l.delivery.id := key_of_find? hd
  rw [← hid]
  exact hsound.counted d (mem_of_find? hd) (hid ▸ hquiet)

/-- **The count after a turn**: no attempt under way, the count is the number of attempts. -/
theorem counted_turn (hst : outline.Holds st) (hp : st.processes[n]? = some p)
    (hat : At (turn hmac p st.store).2 (turn hmac p st.store).1)
    (hd' : d' ∈ (turn hmac p st.store).1.deliveries.rows)
    (hquiet : ∀ q ∈ st.processes.set n (turn hmac p st.store).2, q.underWay ≠ some d'.id) :
    (turn hmac p st.store).1.executed.count d'.id = d'.attemptCount := by
  have hn : n < st.processes.length := (List.getElem?_eq_some_iff.mp hp).1
  have hself : (turn hmac p st.store).2.underWay ≠ some d'.id :=
    hquiet _ (mem_set hn _)
  by_cases hhandles : p.handles = some d'.id
  · cases p with
    | attempting l => exact absurd hhandles hself
    | storing l result =>
      have hid : l.delivery.id = d'.id := Option.some.inj hhandles
      obtain ⟨hle, hexecuted, d, hd, hstatus, hcount⟩ := hst.places _ (mem_of_getElem? hp)
      have hlast : l.attempt ≤ 5 := hle.trans l.origin.lastAttempt_le
      obtain ⟨d₁, hd₁, -, hcount₁⟩ := find?_updateDelivery hd hstatus (by omega) result
      have hsame : d₁ = d' := by
        have := find?_key_of_mem hd'
        rw [show Keyed.key d' = l.delivery.id from hid.symm] at this
        exact Option.some.inj (hd₁.symm.trans this)
      rw [← hid, ← hsame, hcount₁, hcount]
      exact hexecuted
    | _ => cases hhandles
  · rw [turn_executed_other hhandles]
    rcases turn_count_other hhandles (find?_key_of_mem hd') with ⟨d, hd, hcount⟩ | ⟨hd, hcount⟩
    · have hid : d.id = d'.id := key_of_find? hd
      rw [hcount, ← hid]
      refine hst.inv.counted d (mem_of_find? hd) fun q hq ↦ ?_
      rw [hid]
      obtain ⟨m, hm⟩ := mem_iff_getElem?.mp hq
      by_cases hmn : n = m
      · subst hmn
        rw [hp] at hm
        cases hm
        exact fun h ↦ hhandles (p.handles_of_underWay h)
      · refine hquiet q (mem_of_getElem? (i := m) ?_)
        rw [getElem?_set_ne hmn]
        exact hm
    · rw [hcount, count_eq_zero]
      intro hmem
      obtain ⟨d, hd''⟩ := hst.inv.known _ hmem
      rw [show st.store.deliveries.find? d'.id = none from hd] at hd''
      cases hd''

/-- **The outline is kept** by the steps that meet the condition. -/
theorem keeps (hmac : Hmac) : outline.Keeps (webhooks hmac) Undisturbed where
  start st request hst _ := by
    have hidle : ((webhooks hmac).start request).underWay = none := by cases request <;> rfl
    refine ⟨⟨hst.inv.unique, hst.inv.bounded, hst.inv.known, fun d hd hquiet ↦ ?_⟩, ?_, ?_⟩
    · exact hst.inv.counted d hd fun q hq ↦ hquiet q (mem_append_left _ hq)
    · cases request <;> trivial
    · intro q _ id h
      rw [hidle] at h
      cases h
  turn st n p hst hC hp := by
    have hat : At p st.store := hst.places p (mem_of_getElem? hp)
    have hnext : At (turn hmac p st.store).2 (turn hmac p st.store).1 :=
      at_turn hat fun l hl ↦ fresh_of_undisturbed hst.inv hC hp hl
    refine ⟨⟨unique_turn hmac p hst.inv.unique, bounded_turn hmac p hst.inv.bounded,
      known_turn hat hst.inv.known, fun d hd ↦ counted_turn hst hp hnext hd⟩, hnext, ?_⟩
    intro m q hmn hq
    constructor
    · refine (hst.places q (mem_of_getElem? hq)).other fun id hunder hhandles ↦ ?_
      cases p with
      | attempting l =>
        exact (hC _ hp).2 q (mem_of_getElem? hq) (hunder.trans hhandles.symm)
      | storing l result => exact hst.apart n m _ q hmn.symm hp hq id hhandles hunder
      | _ => cases hhandles
    · intro id hunder hq'
      obtain ⟨l, rfl, rfl⟩ := underWay_turn hunder
      exact (hC _ hp).2 q (mem_of_getElem? hq) hq'

/-! ### What every step owes -/

/-- **The bookkeeping**: what a step leaves behind, and what it has not done. -/
structure Booked (st st' : State WebhookStore Process) : Prop where
  /-- One delivery for an event of a credential. -/
  unique : ∀ d ∈ st'.store.deliveries.rows, ∀ d' ∈ st'.store.deliveries.rows,
    d.credentialId = d'.credentialId → d.eventId = d'.eventId → d = d'
  /-- Success is for good. -/
  absorbing : ∀ id d, st.store.deliveries.find? id = some d → d.status = .SUCCEEDED →
    ∃ d', st'.store.deliveries.find? id = some d' ∧ d'.status = .SUCCEEDED
  /-- What has succeeded is not attempted again. -/
  stopped : ∀ d ∈ st.store.deliveries.rows, d.status = .SUCCEEDED →
    st'.store.executed.count d.id = st.store.executed.count d.id
  /-- The count is the number of attempts, once all of them have been written. -/
  counted : ∀ d ∈ st'.store.deliveries.rows, (∀ p ∈ st'.processes, p.underWay ≠ some d.id) →
    d.attemptCount = st'.store.executed.count d.id
  /-- Five attempts at most. -/
  bounded : ∀ id, st'.store.executed.count id ≤ 5
  /-- A replay answers with what is stored. -/
  answered : ∀ (n : ℕ) answer, st'.processes[n]? = some (.replied (some answer)) →
    st.processes[n]? = some (.replied (some answer)) ∨
      ∃ d, st'.store.deliveries.find? answer.id = some d ∧ d.status = answer.status ∧
        d.attemptCount = answer.attemptCount

variable {answer : Delivery}

theorem replied_leave (h : l.leave = .replied (some answer)) :
    l.origin = .replay ∧ answer = l.delivery := by
  rw [Loop.leave] at h
  cases horigin : l.origin with
  | publishOrder =>
    rw [horigin] at h
    cases h
  | replay =>
    rw [horigin] at h
    cases h
    exact ⟨rfl, rfl⟩

theorem replied_enter (h : l.enter = .replied (some answer)) :
    ¬l.attempt ≤ l.origin.lastAttempt ∧ l.origin = .replay ∧ answer = l.delivery := by
  rw [Loop.enter] at h
  split at h
  · cases h
  · rename_i hle
    exact ⟨hle, replied_leave h⟩

theorem replied_after {now : Timestamp} (h : l.after result now = .replied (some answer)) :
    answer.id = l.delivery.id ∧ answer.status = result.status ∧
      answer.attemptCount = l.attempt := by
  have hrecord : (l.record result now).origin = .replay ∧
      answer = (l.record result now).delivery := by
    rw [Loop.after] at h
    split at h
    · exact replied_leave h
    · exact (replied_enter h).2
  obtain ⟨horigin, rfl⟩ := hrecord
  refine ⟨l.record_delivery_id result now, ?_⟩
  rw [Loop.record] at horigin ⊢
  cases hl : l.origin with
  | publishOrder =>
    rw [hl] at horigin
    exact absurd (hl.symm.trans horigin) nofun
  | replay => exact ⟨rfl, rfl⟩

/-- **The answer of a replay** is what is stored. -/
theorem replied_turn (hat : At p s) (h : (turn hmac p s).2 = .replied (some answer)) :
    p = .replied (some answer) ∨
      ∃ d, (turn hmac p s).1.deliveries.find? answer.id = some d ∧ d.status = answer.status ∧
        d.attemptCount = answer.attemptCount := by
  cases p with
  | replied answer' => exact .inl h
  | storing l result =>
    obtain ⟨hle, -, d, hd, hstatus, hcount⟩ := hat
    have hlast : l.attempt ≤ 5 := hle.trans l.origin.lastAttempt_le
    obtain ⟨d', hd', hstatus', hcount'⟩ := find?_updateDelivery hd hstatus (by omega) result
    obtain ⟨hid, hstatus'', hcount''⟩ := replied_after h
    refine .inr ⟨d', ?_, hstatus'.trans hstatus''.symm, ?_⟩
    · rw [hid]
      exact hd'
    · rw [hcount', hcount, hcount'']
  | signing prepared outcomes =>
    obtain ⟨hle, -⟩ := replied_enter h
    exact absurd (Nat.succ_le_of_lt hat.1) hle
  | preparing deliveryId outcomes =>
    rcases prepareDeliveryReplay_cases s deliveryId with h' | ⟨d, keyHash, -, -, -, h'⟩
    · rw [turn, h'] at h
      cases h
    · rw [turn, h'] at h
      cases h
  | selecting credentialId eventId outcomes =>
    change beginPublishing s credentialId eventId outcomes = .replied (some answer) at h
    rw [beginPublishing] at h
    split at h
    · cases h
    · split at h
      · cases h
      · exact absurd (replied_enter h).2.1 nofun
  | configuring order newId outcomes =>
    change configure hmac s order newId outcomes = .replied (some answer) at h
    rw [configure] at h
    split at h
    · cases h
    · split at h <;> cases h
  | _ => cases h

theorem stopped_turn (hat : At p s) (hfresh : ∀ l, p = .attempting l →
      ∀ d ∈ s.deliveries.find? l.delivery.id, d.attemptCount + 1 = l.attempt)
    (hd : s.deliveries.find? id = some d) (hsucceeded : d.status = .SUCCEEDED) :
    (turn hmac p s).1.executed.count id = s.executed.count id := by
  by_cases hhandles : p.handles = some id
  · cases p with
    | attempting l =>
      cases hhandles
      obtain ⟨-, n, hattempt, d', hd', -, hstatus⟩ := hat
      rw [hd] at hd'
      cases hd'
      have hnext : d.attemptCount + 1 = l.attempt := hfresh l rfl d hd
      exact absurd hsucceeded (hstatus (by omega))
    | storing l result => rfl
    | _ => cases hhandles
  · exact turn_executed_other hhandles

theorem bounded_of_holds (hst : outline.Holds st) (id : Uuid) : st.store.executed.count id ≤ 5 := by
  by_cases hunder : ∃ p ∈ st.processes, p.underWay = some id
  · obtain ⟨p, hp, hunder⟩ := hunder
    cases p with
    | storing l result =>
      cases hunder
      obtain ⟨hle, hexecuted, -⟩ := hst.places _ hp
      rw [hexecuted]
      exact hle.trans l.origin.lastAttempt_le
    | _ => cases hunder
  · cases hd : st.store.deliveries.find? id with
    | some d =>
      have hid : d.id = id := key_of_find? hd
      subst hid
      rw [hst.inv.counted d (mem_of_find? hd) fun p hp h ↦ hunder ⟨p, hp, h⟩]
      exact hst.inv.bounded d (mem_of_find? hd)
    | none =>
      rw [count_eq_zero.mpr fun hmem ↦ ?_]
      · exact Nat.zero_le 5
      · obtain ⟨d, hd'⟩ := hst.inv.known id hmem
        rw [hd] at hd'
        cases hd'

/-- **One step.** -/
theorem booked_of_step (hst : outline.Holds st) {event : Event WebhookRequest}
    (hC : Undisturbed st event) (h : step (webhooks hmac) st event = .ok st')
    (hst' : outline.Holds st') : Booked st st' := by
  have hcommon : ∀ d ∈ st'.store.deliveries.rows, (∀ p ∈ st'.processes, p.underWay ≠ some d.id) →
      d.attemptCount = st'.store.executed.count d.id :=
    fun d hd hquiet ↦ (hst'.inv.counted d hd hquiet).symm
  cases event with
  | start request =>
    cases h
    refine ⟨hst'.inv.unique, fun id d hd hstatus ↦ ⟨d, hd, hstatus⟩, fun _ _ _ ↦ rfl, hcommon,
      bounded_of_holds hst', fun n answer hn ↦ ?_⟩
    rcases getElem?_concat_cases hn with ⟨-, hstarted⟩ | ⟨-, hn⟩
    · cases request <;> cases hstarted
    · exact .inl hn
  | turn n =>
    obtain ⟨p, hp, rfl⟩ := step_turn_eq_ok.mp h
    have hat : At p st.store := hst.places p (mem_of_getElem? hp)
    refine ⟨hst'.inv.unique, fun id d hd hstatus ↦ ?_, fun d hd hstatus ↦ ?_, hcommon,
      bounded_of_holds hst', fun m answer hm ↦ ?_⟩
    · obtain ⟨d', hd', hgoes⟩ := turn_continues hmac p st.store id d hd
      exact ⟨d', hd', hgoes.succeeded hstatus⟩
    · exact stopped_turn hat (fun l hl ↦ (fresh_of_undisturbed hst.inv hC hp hl).1)
        (find?_key_of_mem hd) hstatus
    · rcases getElem?_set_cases hm with ⟨rfl, hreplied⟩ | ⟨-, hm⟩
      · rcases replied_turn hat hreplied.symm with rfl | hstored
        · exact .inl hp
        · exact .inr hstored
      · exact .inl hm

/-! ### Runs -/

theorem holds_unpublished (credentials : Table WebhookCredential)
    (externalOrders : Table ExternalOrder) (now : Timestamp) :
    outline.Holds (.idle (.unpublished credentials externalOrders now)) :=
  .idle ⟨forall_mem_nil _, forall_mem_nil _,
    forall_mem_nil _, forall_mem_nil _⟩

/-- **The bookkeeping of deliveries**, in every run whose attempts are undisturbed. -/
theorem webhook_bookkeeping (hmac : Hmac) (credentials : Table WebhookCredential)
    (externalOrders : Table ExternalOrder) (now : Timestamp) (events : List (Event WebhookRequest))
    (h : Along (step (webhooks hmac)) Undisturbed
      (.idle (.unpublished credentials externalOrders now)) events) :
    Along (step (webhooks hmac)) (fun st event ↦
      ∀ st', step (webhooks hmac) st event = .ok st' → Booked st st')
      (.idle (.unpublished credentials externalOrders now)) events :=
  (keeps hmac).along (fun _ _ _ hst hC hstep hst' ↦ booked_of_step hst hC hstep hst')
    (holds_unpublished credentials externalOrders now) events h

/-! ### Two runs -/

instance (st : State WebhookStore Process) : (p : Process) → Decidable (p.Undisturbed st)
  | .attempting l => inferInstanceAs (Decidable
      ((∀ d ∈ st.store.deliveries.find? l.delivery.id, d.attemptCount + 1 = l.attempt) ∧
        ∀ p ∈ st.processes, p.underWay ≠ some l.delivery.id))
  | .configuring .. | .inserting .. | .selecting .. | .preparing .. | .signing .. | .storing ..
  | .changing .. | .finished | .replied _ => .isTrue trivial

/-- One credential whose webhook is at `url`, and one order that came in with it. -/
def integration (url : Text) : WebhookStore :=
  .unpublished
    { rows := [{
        id := 1, keyHash := textOf "k", active := true, webhookUrl := some url,
        webhookEvents := [.ORDER_CONFIRMED], webhookEnabled := true }]
      nodup := nodup_singleton _ }
    { rows := [{
        credentialId := 1, externalOrderId := textOf "A1", orderId := 7, requestFingerprint := [] }]
      nodup := nodup_singleton _ }
    0

def confirmedOrder : CustomerOrderData where
  id := 7
  orderNumber := textOf "PED-7"
  status := .CONFIRMED
  fulfillmentStatus := .PENDING
  total := 100
  currency := .MXN
  version := 2
  updatedAt := 0

/-- An address that answers from the second attempt on, and one that answers from the fourth on. -/
def retryUrl : Text := textOf "https://retry"

/-- See `retryUrl`. -/
def recoverUrl : Text := textOf "https://recover"

def firstAttempt (url : Text) : List (Event WebhookRequest) :=
  .start (.publishOrder confirmedOrder 20 (simulate url)) :: List.replicate 5 (.turn 0)

def noHmac : Hmac := ⟨fun _ _ ↦ [], fun _ _ ↦ []⟩

theorem webhook_bookkeeping_recovered : Along (step (webhooks noHmac)) (fun st event ↦
      ∀ st', step (webhooks noHmac) st event = .ok st' → Booked st st')
      (.idle (integration recoverUrl))
      (firstAttempt recoverUrl ++ List.replicate 4 (.turn 0) ++
        .start (.replay 20 (simulate recoverUrl)) :: List.replicate 4 (.turn 1)) :=
  webhook_bookkeeping noHmac _ _ 0 _ (by decide +kernel)

/-- **A replay between the attempts**: a third attempt that nothing counts, and six where the answer
says four. -/
theorem webhook_bookkeeping_replayed_loop :
    (let st := run (step (webhooks noHmac)) (.idle (integration retryUrl))
      (firstAttempt retryUrl ++ .start (.replay 20 (simulate retryUrl)) ::
        (List.replicate 4 (.turn 1) ++ List.replicate 2 (.turn 0)))
    (∀ p ∈ st.processes, p.underWay = none) ∧
      st.store.deliveries.rows.map (fun d ↦ (d.id, d.status, d.attemptCount)) =
        [(20, .SUCCEEDED, 2)] ∧
      st.store.executed = [20, 20, 20]) ∧
    (let st := run (step (webhooks noHmac)) (.idle (integration recoverUrl))
      (firstAttempt recoverUrl ++ .start (.replay 20 (simulate recoverUrl)) ::
        (List.replicate 2 (.turn 1) ++ List.replicate 4 (.turn 0) ++ List.replicate 6 (.turn 1)))
    (∀ p ∈ st.processes, p.underWay = none) ∧
      st.store.deliveries.rows.map (fun d ↦ (d.id, d.status, d.attemptCount)) =
        [(20, .RETRYABLE_FAILURE, 5)] ∧
      st.store.executed = [20, 20, 20, 20, 20, 20] ∧
      ∃ d, st.processes[1]? = some (.replied (some d)) ∧ d.status = .SUCCEEDED ∧
        d.attemptCount = 4) := by
  refine ⟨?_, ?_, ?_, ?_, ?_⟩
  · decide +kernel
  · decide +kernel
  · decide +kernel
  · decide +kernel
  · exact ⟨_, rfl, rfl, rfl⟩

end UInventario.Commerce
