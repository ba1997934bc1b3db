import UInventario.OfflineSync.Inbox

/-!
# Exactly once

What the inbox owes a device, whatever is sent twice, out of order or broken off (`Sound`): its
executed commands are those numbered `1` to the last one, in this order; an effect is committed at
most once; a command that is `CONFIRMED` has its effect, one that is `ERROR` has none. And a command
that has been rolled back can be sent again, and is answered then (`Settles`).

The last two do not hold of every run (`committed_then_refused`). A command whose effect is
committed when its outer transaction is rolled back is judged anew: it may be too old by then, and
ends as `ERROR`. The audit event of a refused command is recorded once, so after a rollback every
further refusal throws. And a time that `sqlDate` cuts within its offset is refused by the column at
every attempt. `inbox_exactly_once` is about the other runs (`Meets`).
-/

namespace UInventario.OfflineSync

open Outcome List

variable {ω π : Type}

/-! ### What is owed -/

section Owed

variable [DecidableEq π]

/-- The numbers of the executed commands of a device, in the order of their execution. -/
def Store.executed (s : Store ω π) (device : Device) : List ℕ :=
  (s.commands.rows.filter fun row ↦ row.device = device).map CommandRow.sequence

def Store.effectsOf (s : Store ω π) (c : OfflineCommand π) : List (Effect π) :=
  s.effects.filter fun e ↦ e.origin = some c

def OfflineCommand.effectKey (D : Domain ω π) (c : OfflineCommand π) : EffectKey where
  kind := c.kind
  tenantId := c.scope.device.tenantId
  idempotencyKey := D.collate c.idempotencyKey

/-- **What the inbox owes its devices.** -/
structure Sound (D : Domain ω π) (s : Store ω π) : Prop where
  inOrder : ∀ device, s.executed device = List.range' 1 (s.lastSequence device)
  once : ∀ c, (s.effectsOf c).length ≤ 1
  confirmed : ∀ row ∈ s.commands.rows, ∀ entityId resolution,
    row.execution = .CONFIRMED entityId resolution →
      ∃ e ∈ s.effects, e.key = row.requestFingerprint.effectKey D ∧
        e.fingerprint = D.fingerprint row.requestFingerprint.kind row.requestFingerprint.payload
  refused : ∀ row ∈ s.commands.rows, ∀ error conflict, row.execution = .ERROR error conflict →
    s.effectsOf row.requestFingerprint = []

/-- Neither the command nor its key is in the inbox, and its number is the next one. -/
def Store.due (D : Domain ω π) (s : Store ω π) (c : OfflineCommand π) : Prop :=
  s.findExisting D c = none ∧ c.sequence = s.lastSequence c.scope.device + 1
deriving Decidable

/-- **A command that has been rolled back is answered** when it is sent again in its turn. -/
def Settles (D : Domain ω π) (s : Store ω π) : Event ω π → Prop
  | .send p c fate => fate = .completes → c ∈ s.rolledBack → s.due D c →
      (attempt D p fate s c).2.toOption.isSome = true
  | .«elsewhere» _ => True

/-! ### The condition -/

/-- The command passes the checks of `apply`. -/
def Passes (D : Domain ω π) (p : Principal) (s : Store ω π) (c : OfflineCommand π) : Prop :=
  (prepare D p s c).toOption.isSome = true
deriving Decidable

def OperationError.refuses : OperationError → Prop
  | .http error => error.status < 500
  | .other => False

instance : DecidablePred OperationError.refuses := fun e ↦ by
  cases e <;> unfold OperationError.refuses <;> infer_instance

def Refuses (D : Domain ω π) (p : Principal) (s : Store ω π) (c : OfflineCommand π) : Prop :=
  ∃ e, operate D p s c = .error e ∧ e.refuses

/-- The checks and the operation end in an error that no command is refused with. -/
def Fails (D : Domain ω π) (p : Principal) (s : Store ω π) (c : OfflineCommand π) : Prop :=
  ∃ e, operate D p s c = .error e ∧ ¬e.refuses

instance decidableRefuses (D : Domain ω π) (p : Principal) (s : Store ω π) (c : OfflineCommand π) :
    Decidable (Refuses D p s c) :=
  match h : operate D p s c with
  | .ok _ => .isFalse fun ⟨_, he, _⟩ ↦ nomatch h.symm.trans he
  | .error e => decidable_of_iff e.refuses
      ⟨fun hr ↦ ⟨e, h, hr⟩, fun ⟨_, he, hr⟩ ↦ Except.error.inj (h.symm.trans he) ▸ hr⟩

instance decidableFails (D : Domain ω π) (p : Principal) (s : Store ω π) (c : OfflineCommand π) :
    Decidable (Fails D p s c) :=
  match h : operate D p s c with
  | .ok _ => .isFalse fun ⟨_, he, _⟩ ↦ nomatch h.symm.trans he
  | .error e => decidable_of_iff (¬e.refuses)
      ⟨fun hr ↦ ⟨e, h, hr⟩, fun ⟨_, he, hr⟩ ↦ Except.error.inj (h.symm.trans he) ▸ hr⟩

/-- **The condition**, unless the attempt is broken off: a committed command passes again, a refused
one is not refused again, and one rolled back is accepted, also by the column of its time. -/
def Meets (D : Domain ω π) (s : Store ω π) : Event ω π → Prop
  | .send p c fate => fate = .completes → s.due D c → (s.effectsOf c ≠ [] → Passes D p s c) ∧
      (c.rejection p ∈ s.audits → ¬Refuses D p s c) ∧
      (c ∈ s.rolledBack → assertEnvelope D p s.now c = .ok () ∧
        D.isDateTime (sqlDate c.createdAt) = true ∧ ¬Fails D p s c)
  | .«elsewhere» _ => True

instance decidableMeets (D : Domain ω π) (s : Store ω π) (event : Event ω π) :
    Decidable (Meets D s event) := by
  cases event <;> unfold Meets <;> infer_instance

end Owed

/-! ### What the inner transactions do -/

variable {D : Domain ω π} {p : Principal} {s s' : Store ω π} {c : OfflineCommand π}
  {op : Operation π} {entityId : Uuid}

def OfflineCommand.keyFor (D : Domain ω π) (c : OfflineCommand π) (p : Principal) : EffectKey where
  kind := c.kind
  tenantId := p.tenantId
  idempotencyKey := D.collate c.idempotencyKey

/-- **The inner transactions** of a command add its effect, when there is none under its key, and
audit events. -/
structure Inner (D : Domain ω π) (p : Principal) (c : OfflineCommand π) (s s' : Store ω π) : Prop
    where
  store : s' = { s with world := s'.world, effects := s'.effects, audits := s'.audits }
  effects : s'.effects = s.effects ∨ ∃ e, s'.effects = s.effects ++ [e] ∧
    s.effect? e.key = none ∧ e.origin = some c ∧ e.key = c.keyFor D p ∧
      e.fingerprint = D.fingerprint c.kind c.payload

theorem Inner.refl (s : Store ω π) : Inner D p c s s :=
  ⟨rfl, .inl rfl⟩

theorem Inner.audits (h : Inner D p c s s') (audits : List AuditKey) :
    Inner D p c s { s' with audits := audits } := by
  refine ⟨?_, h.effects⟩
  rw [h.store]

theorem prepare_eq_ok (h : prepare D p s c = .ok op) :
    op.key D = c.keyFor D p ∧ op.kind = c.kind ∧ op.payload = c.payload := by
  simp only [prepare, eq_ok] at h
  obtain ⟨-, -, -, -, -, -, warehouseId, -, -, -, rfl⟩ := h
  exact ⟨rfl, rfl, rfl⟩

/-- **A domain operation** answers with an effect under its key, which was there or is new. -/
theorem perform_eq_ok (h : perform D s c op = .ok (s', entityId)) :
    (s' = s ∨ (s.effect? (op.key D) = none ∧ s' = { s with
        world := s'.world
        effects := s.effects ++ [{
          key := op.key D, fingerprint := D.fingerprint op.kind op.payload, entityId := entityId,
          origin := some c }] })) ∧
      ∃ e ∈ s'.effects, e.key = op.key D ∧ e.fingerprint = D.fingerprint op.kind op.payload := by
  rw [perform] at h
  cases hfound : s.effect? (op.key D) with
  | some e =>
    rw [hfound] at h
    simp only [eq_ok, Prod.mk.injEq] at h
    obtain ⟨-, hfingerprint, rfl, rfl⟩ := h
    have hkey : e.key = op.key D := by simpa using find?_some hfound
    exact ⟨.inl rfl, e, mem_of_find?_eq_some hfound, hkey, hfingerprint⟩
  | none =>
    rw [hfound] at h
    simp only [eq_ok, Prod.mk.injEq] at h
    obtain ⟨⟨world, id⟩, -, rfl, rfl⟩ := h
    exact ⟨.inr ⟨rfl, rfl⟩, _, mem_append_right _ mem_cons_self, rfl, rfl⟩

/-- **The checks and the operation.** -/
theorem operate_eq_ok (h : operate D p s c = .ok (s', entityId)) :
    Inner D p c s s' ∧ ∃ e ∈ s'.effects, e.key = c.keyFor D p ∧
      e.fingerprint = D.fingerprint c.kind c.payload := by
  obtain ⟨op, hprepare, hperform⟩ := bind_eq_ok.mp h
  obtain ⟨hkey, hkind, hpayload⟩ := prepare_eq_ok hprepare
  obtain ⟨hstore, hexists⟩ := perform_eq_ok hperform
  rw [hkey, hkind, hpayload] at hexists
  refine ⟨?_, hexists⟩
  rcases hstore with rfl | ⟨hnew, hstore⟩
  · exact .refl s'
  · constructor
    · rw [hstore]
    · refine .inr ⟨_, congrArg Store.effects hstore, hnew, rfl, hkey, ?_⟩
      rw [hkind, hpayload]

theorem inner_record (h : Inner D p c s s') (key : AuditKey) : Inner D p c s (s'.record key) := by
  rw [Store.record]
  split
  · exact h
  · exact h.audits _

/-- **`apply`**, whatever it answers. -/
theorem inner_apply : Inner D p c s (apply D p s c).1 := by
  rw [apply]
  split
  case h_1 s' entityId hoperate => exact inner_record (operate_eq_ok hoperate).1 _
  case h_2 error _ =>
    split
    · cases hrecord : recordRequired s (c.rejection p) with
      | error e => exact .refl s
      | ok s' =>
        simp only [recordRequired, eq_ok] at hrecord
        obtain ⟨-, -, rfl⟩ := hrecord
        exact (Inner.refl s).audits _
    · exact .refl s
  case h_3 => exact .refl s

theorem inner_reach (point : Point) : Inner D p c s (reach D p s c point) := by
  cases point with
  | beforeOperation => exact .refl s
  | afterOperation =>
    rw [reach]
    split
    case h_1 s' entityId hoperate => exact (operate_eq_ok hoperate).1
    case h_2 => exact .refl s
  | afterAudit => exact inner_apply

variable {execution : Execution} {added : List (Effect π)} {fate : Fate} {event : Event ω π}

/-- **What `apply` answers**: a confirmation with an effect, or a refusal that changes only the
audit. -/
theorem apply_eq_ok (h : (apply D p s c).2 = .ok execution) :
    ((∃ entityId resolution, execution = .CONFIRMED entityId resolution) ∧
      ∃ e ∈ (apply D p s c).1.effects, e.key = c.keyFor D p ∧
        e.fingerprint = D.fingerprint c.kind c.payload) ∨
    ((∃ error conflict, execution = .ERROR error conflict) ∧
      (apply D p s c).1.effects = s.effects ∧ Refuses D p s c) := by
  rw [apply] at h ⊢
  cases hoperate : operate D p s c with
  | ok result =>
    obtain ⟨s', entityId⟩ := result
    rw [hoperate] at h
    cases h
    refine .inl ⟨⟨_, _, rfl⟩, ?_⟩
    have heffects : ∀ key, (s'.record key).effects = s'.effects := by
      intro key
      rw [Store.record]
      split <;> rfl
    rw [heffects]
    exact (operate_eq_ok hoperate).2
  | error e =>
    rw [hoperate] at h
    cases e with
    | other => cases h
    | http error =>
      dsimp only at h ⊢
      by_cases hstatus : error.status < 500
      · rw [if_pos hstatus] at h ⊢
        cases hrecord : recordRequired s (c.rejection p) with
        | error e =>
          rw [hrecord] at h
          cases h
        | ok s' =>
          rw [hrecord] at h
          cases h
          simp only [recordRequired, eq_ok] at hrecord
          obtain ⟨-, -, rfl⟩ := hrecord
          exact .inr ⟨⟨_, _, rfl⟩, rfl, _, hoperate, hstatus⟩
      · rw [if_neg hstatus] at h
        cases h

/-! ### The invariant -/

/-- **The invariant**: rows and effects are those of their commands, with keys that differ. -/
structure Inv (D : Domain ω π) (s : Store ω π) : Prop where
  inOrder : ∀ device, s.executed device = List.range' 1 (s.lastSequence device)
  rows : ∀ row ∈ s.commands.rows, row.commandId = row.requestFingerprint.commandId
  keys : (s.effects.map Effect.key).Nodup
  owned : ∀ e ∈ s.effects, ∀ c ∈ e.origin, e.key = c.effectKey D ∧
    e.fingerprint = D.fingerprint c.kind c.payload
  confirmed : ∀ row ∈ s.commands.rows, ∀ entityId resolution,
    row.execution = .CONFIRMED entityId resolution →
      ∃ e ∈ s.effects, e.key = row.requestFingerprint.effectKey D ∧
        e.fingerprint = D.fingerprint row.requestFingerprint.kind row.requestFingerprint.payload

theorem inv_fresh (now : ℤ) (policy : Uuid → ValuationPolicy) (world : ω) :
    Inv D (Store.fresh now policy world) where
  inOrder := fun _ ↦ rfl
  rows := forall_mem_nil _
  keys := nodup_nil
  owned := forall_mem_nil _
  confirmed := forall_mem_nil _

theorem Inv.rollBack (h : Inv D s) (c : OfflineCommand π) : Inv D (s.rollBack c) :=
  ⟨h.inOrder, h.rows, h.keys, h.owned, h.confirmed⟩

/-- **Effects that are added** under keys of their own. -/
theorem Inv.grow (h : Inv D s) (hcommands : s'.commands = s.commands)
    (hsequence : s'.lastSequence = s.lastSequence)
    (heffects : s'.effects = s.effects ++ added) (hnew : ∀ e ∈ added, s.effect? e.key = none)
    (hkeys : (added.map Effect.key).Nodup)
    (howned : ∀ e ∈ added, ∀ c ∈ e.origin, e.key = c.effectKey D ∧
      e.fingerprint = D.fingerprint c.kind c.payload) : Inv D s' where
  inOrder := fun device ↦ by
    rw [Store.executed, hcommands, hsequence]
    exact h.inOrder device
  rows := by
    rw [hcommands]
    exact h.rows
  keys := by
    rw [heffects, map_append, nodup_append]
    refine ⟨h.keys, hkeys, ?_⟩
    rintro k hk k' hk' rfl
    obtain ⟨e, he, rfl⟩ := mem_map.mp hk
    obtain ⟨e', he', hsame⟩ := mem_map.mp hk'
    have hnone := List.find?_eq_none.mp (hnew e' he') e he
    simp [hsame] at hnone
  owned := by
    intro e he
    rw [heffects, mem_append] at he
    rcases he with he | he
    · exact h.owned e he
    · exact howned e he
  confirmed := by
    intro row hrow entityId resolution hexecution
    rw [hcommands] at hrow
    obtain ⟨e, he, hkey, hfingerprint⟩ := h.confirmed row hrow entityId resolution hexecution
    refine ⟨e, ?_, hkey, hfingerprint⟩
    rw [heffects]
    exact mem_append_left _ he

/-- **The inner transactions** of a command of the principal's tenant. -/
theorem Inv.inner (h : Inv D s) (hinner : Inner D p c s s')
    (htenant : c.scope.device.tenantId = p.tenantId) : Inv D s' := by
  have hcommands : s'.commands = s.commands := by rw [hinner.store]
  have hsequence : s'.lastSequence = s.lastSequence := by rw [hinner.store]
  rcases hinner.effects with heffects | ⟨e, heffects, hnew, horigin, hkey, hfingerprint⟩
  · exact h.grow hcommands hsequence (heffects.trans (append_nil _).symm)
      (forall_mem_nil _) nodup_nil
      (forall_mem_nil _)
  · refine h.grow hcommands hsequence heffects ?_ (nodup_singleton _) ?_
    · intro x hx
      rw [mem_singleton.mp hx]
      exact hnew
    · intro x hx c' hc'
      rw [mem_singleton.mp hx] at hc' ⊢
      rw [horigin] at hc'
      cases hc'
      refine ⟨hkey.trans ?_, hfingerprint⟩
      rw [OfflineCommand.keyFor, OfflineCommand.effectKey, htenant]

theorem rows_countReplay (s : Store ω π) (commandId : Uuid) :
    ∃ replayed : CommandRow π → CommandRow π,
      (s.countReplay commandId).commands.rows = s.commands.rows.map replayed ∧
      ∀ row, (replayed row).commandId = row.commandId ∧
        (replayed row).requestFingerprint = row.requestFingerprint ∧
        (replayed row).execution = row.execution ∧ (replayed row).device = row.device ∧
        (replayed row).sequence = row.sequence := by
  refine ⟨fun row ↦ if row.commandId = commandId then row.replayed else row, rfl, fun row ↦ ?_⟩
  dsimp only
  by_cases hid : row.commandId = commandId
  · rw [if_pos hid]
    exact ⟨rfl, rfl, rfl, rfl, rfl⟩
  · rw [if_neg hid]
    exact ⟨rfl, rfl, rfl, rfl, rfl⟩

theorem Inv.countReplay (h : Inv D s) (commandId : Uuid) : Inv D (s.countReplay commandId) := by
  obtain ⟨replayed, hrows, hsame⟩ := rows_countReplay s commandId
  have hmem : ∀ row ∈ (s.countReplay commandId).commands.rows,
      ∃ row' ∈ s.commands.rows, replayed row' = row := fun row hrow ↦ mem_map.mp (hrows ▸ hrow)
  have hexecuted : ∀ device, (s.countReplay commandId).executed device = s.executed device := by
    intro device
    have hdevice : (fun row : CommandRow π ↦ decide (row.device = device)) ∘ replayed =
        fun row ↦ decide (row.device = device) := by
      funext row
      exact congrArg (fun d ↦ decide (d = device)) (hsame row).2.2.2.1
    rw [Store.executed, hrows, filter_map, hdevice, map_map]
    exact map_congr_left fun row _ ↦ (hsame row).2.2.2.2
  refine ⟨fun device ↦ ?_, ?_, h.keys, h.owned, ?_⟩
  · rw [hexecuted]
    exact h.inOrder device
  · intro row hrow
    obtain ⟨row', hrow', rfl⟩ := hmem row hrow
    rw [(hsame row').1, (hsame row').2.1]
    exact h.rows row' hrow'
  · intro row hrow entityId resolution hexecution
    obtain ⟨row', hrow', rfl⟩ := hmem row hrow
    rw [(hsame row').2.1]
    exact h.confirmed row' hrow' entityId resolution ((hsame row').2.2.1.symm.trans hexecution)

/-- **The row of a command that has been applied.** -/
theorem Inv.complete (h : Inv D s) (hcomplete : complete s c execution = .ok s')
    (hnext : c.sequence = s.lastSequence c.scope.device + 1)
    (hconfirmed : (∃ entityId resolution, execution = .CONFIRMED entityId resolution) →
      ∃ e ∈ s.effects, e.key = c.effectKey D ∧ e.fingerprint = D.fingerprint c.kind c.payload) :
    Inv D s' := by
  simp only [OfflineSync.complete, eq_ok] at hcomplete
  obtain ⟨commands, hinsert, rfl⟩ := hcomplete
  have hrows := (Table.insert_eq_some hinsert).2
  refine ⟨fun device ↦ ?_, ?_, h.keys, h.owned, ?_⟩
  · have hbefore := h.inOrder device
    show (commands.rows.filter fun row ↦ row.device = device).map CommandRow.sequence =
      List.range' 1 ((Function.update s.lastSequence c.scope.device c.sequence : Device → ℕ) device)
    rw [hrows, filter_append, map_append]
    by_cases hdevice : device = c.scope.device
    · subst hdevice
      have hnew : [c.row execution].filter (fun row ↦ row.device = c.scope.device) =
          [c.row execution] := filter_cons_of_pos (decide_eq_true rfl)
      rw [Function.update_self, hnext, range'_concat, ← hbefore, hnew, Nat.add_comm 1,
        Nat.one_mul]
      exact congrArg (s.executed c.scope.device ++ ·) (congrArg (fun n ↦ [n]) hnext)
    · have hnone : [c.row execution].filter (fun row ↦ row.device = device) = [] :=
        filter_cons_of_neg fun h ↦ hdevice (decide_eq_true_eq.mp h).symm
      rw [Function.update_of_ne hdevice, hnone, map_nil, append_nil]
      exact hbefore
  · refine (Table.forall_mem_insert hinsert).mpr ⟨h.rows, ?_⟩
    rfl
  · refine (Table.forall_mem_insert hinsert).mpr ⟨h.confirmed,
      fun entityId resolution hexecution ↦ ?_⟩
    exact hconfirmed ⟨entityId, resolution, hexecution⟩

theorem inv_elsewhere (h : Inv D s) (e : Elsewhere ω π) : Inv D (e.apply s) := by
  rw [Elsewhere.apply]
  split
  case isFalse => exact h
  case isTrue hadmits =>
    refine h.grow rfl rfl rfl (fun x hx ↦ (hadmits.1 x hx).2) hadmits.2 ?_
    intro x hx c hc
    rw [(hadmits.1 x hx).1] at hc
    cases hc

theorem tenant_of_envelope {now : ℤ} (h : assertEnvelope D p now c = .ok ()) :
    c.scope.device.tenantId = p.tenantId := by
  simp only [assertEnvelope, eq_ok] at h
  obtain ⟨-, hscope, -⟩ := h
  exact hscope.1

/-! ### Refused commands -/

variable [DecidableEq π]

theorem Inv.once (h : Inv D s) (c : OfflineCommand π) : (s.effectsOf c).length ≤ 1 := by
  have hkeys : ((s.effectsOf c).map Effect.key).Nodup :=
    h.keys.sublist (filter_sublist.map Effect.key)
  have hsame : ∀ k ∈ (s.effectsOf c).map Effect.key, k = c.effectKey D := by
    refine forall_mem_map.mpr fun e he ↦ ?_
    obtain ⟨hmem, horigin⟩ := mem_filter.mp he
    rw [decide_eq_true_eq] at horigin
    exact (h.owned e hmem c horigin).1
  rw [eq_replicate_of_mem hsame, nodup_replicate, length_map] at hkeys
  exact hkeys

/-- The commands that are `ERROR` have no effect. -/
def RefusedClean (s : Store ω π) : Prop :=
  ∀ row ∈ s.commands.rows, ∀ error conflict, row.execution = .ERROR error conflict →
    s.effectsOf row.requestFingerprint = []

theorem Inv.sound (h : Inv D s) (hclean : RefusedClean s) : Sound D s :=
  ⟨h.inOrder, h.once, h.confirmed, hclean⟩

theorem refusedClean_fresh (now : ℤ) (policy : Uuid → ValuationPolicy) (world : ω) :
    RefusedClean (Store.fresh now policy world : Store ω π) :=
  forall_mem_nil _

theorem RefusedClean.grow (h : RefusedClean s) (hcommands : s'.commands = s.commands)
    (heffects : s'.effects = s.effects ++ added)
    (hother : ∀ e ∈ added, ∀ c ∈ e.origin, ∀ row ∈ s.commands.rows, row.requestFingerprint ≠ c) :
    RefusedClean s' := by
  intro row hrow error conflict hexecution
  rw [hcommands] at hrow
  rw [Store.effectsOf, heffects, filter_append, append_eq_nil_iff]
  refine ⟨h row hrow error conflict hexecution, filter_eq_nil_iff.mpr fun e he horigin ↦ ?_⟩
  rw [decide_eq_true_eq] at horigin
  exact hother e he row.requestFingerprint horigin row hrow rfl

theorem RefusedClean.inner (h : RefusedClean s) (hinv : Inv D s) (hinner : Inner D p c s s')
    (hnone : s.findExisting D c = none) : RefusedClean s' := by
  have hcommands : s'.commands = s.commands := by rw [hinner.store]
  rcases hinner.effects with heffects | ⟨e, heffects, -, horigin, -⟩
  · exact h.grow hcommands (heffects.trans (append_nil _).symm)
      (forall_mem_nil _)
  · refine h.grow hcommands heffects ?_
    intro x hx c' hc'
    rw [mem_singleton.mp hx, horigin] at hc'
    cases hc'
    rintro row hrow rfl
    have hmiss := List.find?_eq_none.mp hnone row hrow
    exact hmiss (decide_eq_true (.inl (hinv.rows row hrow)))

theorem RefusedClean.countReplay (h : RefusedClean s) (commandId : Uuid) :
    RefusedClean (s.countReplay commandId) := by
  obtain ⟨replayed, hrows, hsame⟩ := rows_countReplay s commandId
  intro row hrow error conflict hexecution
  rw [hrows] at hrow
  obtain ⟨row', hrow', rfl⟩ := mem_map.mp hrow
  rw [(hsame row').2.1]
  exact h row' hrow' error conflict ((hsame row').2.2.1.symm.trans hexecution)

theorem RefusedClean.complete (h : RefusedClean s) (hcomplete : complete s c execution = .ok s')
    (hrefused : (∃ error conflict, execution = .ERROR error conflict) → s.effectsOf c = []) :
    RefusedClean s' := by
  simp only [OfflineSync.complete, eq_ok] at hcomplete
  obtain ⟨commands, hinsert, rfl⟩ := hcomplete
  refine (Table.forall_mem_insert hinsert).mpr ⟨h, fun error conflict hexecution ↦ ?_⟩
  exact hrefused ⟨error, conflict, hexecution⟩

/-! ### Attempts -/

theorem due_of_lookUp (h : lookUp D s c = .ok none) : s.due D c := by
  rw [lookUp] at h
  split at h
  case h_1 =>
    obtain ⟨-, -, h⟩ := bind_eq_ok.mp h
    cases h
  case h_2 hnone =>
    simp only [eq_ok] at h
    obtain ⟨-, hnext, -⟩ := h
    exact ⟨hnone, hnext⟩

theorem lookUp_of_due (h : Inv D s) (hdue : s.due D c)
    (hdate : D.isDateTime (sqlDate c.createdAt) = true) : lookUp D s c = .ok none := by
  obtain ⟨hnone, hnext⟩ := hdue
  rw [lookUp, hnone]
  refine bind_eq_ok.mpr ⟨⟨⟩, ensure_eq_ok.mpr hnext, ?_⟩
  refine bind_eq_ok.mpr ⟨⟨⟩, ensure_eq_ok.mpr hdate, ?_⟩
  refine bind_eq_ok.mpr ⟨⟨⟩, ensure_eq_ok.mpr ?_, rfl⟩
  rintro row hrow ⟨hdevice, hsequence⟩
  have hmem : row.sequence ∈ s.executed c.scope.device :=
    mem_map_of_mem (mem_filter.mpr ⟨hrow, decide_eq_true hdevice⟩)
  rw [h.inOrder, mem_range'_1] at hmem
  omega

/-- **A command whose effect is committed** and that passes the checks is confirmed again. -/
theorem operate_of_committed (h : Inv D s) (htenant : c.scope.device.tenantId = p.tenantId)
    (hcommitted : s.effectsOf c ≠ []) (hpasses : Passes D p s c) :
    ∃ result, operate D p s c = .ok result := by
  obtain ⟨e, he⟩ := exists_mem_of_ne_nil _ hcommitted
  obtain ⟨hmem, horigin⟩ := mem_filter.mp he
  rw [decide_eq_true_eq] at horigin
  obtain ⟨hkey, hfingerprint⟩ := h.owned e hmem c horigin
  have hprepare := eq_ok_get hpasses
  obtain ⟨hop, hkind, hpayload⟩ := prepare_eq_ok hprepare
  generalize (prepare D p s c).toOption.get hpasses = op at hprepare hop hkind hpayload
  have hsame : e.key = op.key D := by
    rw [hkey, hop, OfflineCommand.keyFor, OfflineCommand.effectKey, htenant]
  have hfound : s.effect? (op.key D) = some e := by
    cases hfind : s.effect? (op.key D) with
    | none =>
      have hmiss := List.find?_eq_none.mp hfind e hmem
      simp [hsame] at hmiss
    | some e' =>
      have hkey' : e'.key = op.key D := by simpa using find?_some hfind
      rw [inj_on_of_nodup_map h.keys (mem_of_find?_eq_some hfind) hmem
        (hkey'.trans hsame.symm)]
  refine ⟨(s, e.entityId), bind_eq_ok.mpr ⟨op, hprepare, ?_⟩⟩
  rw [perform, hfound]
  refine bind_eq_ok.mpr ⟨⟨⟩, ensure_eq_ok.mpr ?_, rfl⟩
  rw [hfingerprint, hkind, hpayload]

/-- **What an attempt leaves**: the store, a replay counted, the inner commits, or these and the
row. -/
theorem attempt_cases (D : Domain ω π) (p : Principal) (fate : Fate) (s : Store ω π)
    (c : OfflineCommand π) :
    (attempt D p fate s c).1 = s ∨ (attempt D p fate s c).1 = s.rollBack c ∨
    (∃ commandId, (attempt D p fate s c).1 = s.countReplay commandId) ∨
    (c.scope.device.tenantId = p.tenantId ∧ s.due D c ∧
      ((∃ s', Inner D p c s s' ∧ (attempt D p fate s c).1 = s'.rollBack c) ∨
        ∃ execution, fate = .completes ∧ (apply D p s c).2 = .ok execution ∧
          complete (apply D p s c).1 c execution = .ok (attempt D p fate s c).1)) := by
  rw [attempt]
  cases henvelope : assertEnvelope D p s.now c with
  | error e => exact .inl rfl
  | ok _ =>
    have htenant := tenant_of_envelope henvelope
    dsimp only
    unfold execute
    split
    case h_1 => exact .inr (.inl rfl)
    case h_2 => exact .inr (.inl rfl)
    case h_3 row _ => exact .inr (.inr (.inl ⟨row.commandId, rfl⟩))
    case h_4 point hlookUp =>
      exact .inr (.inr (.inr
        ⟨htenant, due_of_lookUp hlookUp, .inl ⟨_, inner_reach point, rfl⟩⟩))
    case h_5 hlookUp =>
      refine .inr (.inr (.inr ⟨htenant, due_of_lookUp hlookUp, ?_⟩))
      split
      case h_1 => exact .inl ⟨_, inner_apply, rfl⟩
      case h_2 execution hexecution =>
        split
        case h_1 => exact .inl ⟨_, inner_apply, rfl⟩
        case h_2 s' hcomplete => exact .inr ⟨execution, rfl, hexecution, hcomplete⟩

/-- **One attempt** keeps the invariant. -/
theorem inv_attempt (h : Inv D s) : Inv D (attempt D p fate s c).1 := by
  rcases attempt_cases D p fate s c with heq | heq | ⟨commandId, heq⟩ | ⟨htenant, hdue, hrest⟩
  · rw [heq]
    exact h
  · rw [heq]
    exact h.rollBack c
  · rw [heq]
    exact h.countReplay commandId
  rcases hrest with ⟨s', hinner, heq⟩ | ⟨execution, -, hexecution, hcomplete⟩
  · rw [heq]
    exact (h.inner hinner htenant).rollBack c
  · have hinner : Inner D p c s (apply D p s c).1 := inner_apply
    have hsequence : (apply D p s c).1.lastSequence = s.lastSequence := by rw [hinner.store]
    refine (h.inner hinner htenant).complete hcomplete (by rw [hsequence]; exact hdue.2) ?_
    rintro ⟨entityId, resolution, rfl⟩
    rcases apply_eq_ok hexecution with ⟨-, e, he, hkey, hfingerprint⟩ | ⟨⟨_, _, h⟩, -⟩
    · refine ⟨e, he, hkey.trans ?_, hfingerprint⟩
      rw [OfflineCommand.keyFor, OfflineCommand.effectKey, htenant]
    · cases h

/-- **One attempt** of a command that passes its checks again when it has taken effect. -/
theorem refusedClean_attempt (h : Inv D s) (hclean : RefusedClean s)
    (hmeets : Meets D s (.send p c fate)) : RefusedClean (attempt D p fate s c).1 := by
  rcases attempt_cases D p fate s c with heq | heq | ⟨commandId, heq⟩ | ⟨htenant, hdue, hrest⟩
  · rw [heq]
    exact hclean
  · rw [heq]
    exact hclean
  · rw [heq]
    exact hclean.countReplay commandId
  rcases hrest with ⟨s', hinner, heq⟩ | ⟨execution, hfate, hexecution, hcomplete⟩
  · rw [heq]
    exact show RefusedClean s' from hclean.inner h hinner hdue.1
  · refine (hclean.inner h inner_apply hdue.1).complete hcomplete ?_
    rintro ⟨error, conflict, rfl⟩
    rcases apply_eq_ok hexecution with ⟨⟨_, _, h⟩, -⟩ | ⟨-, heffects, e, hrefused, -⟩
    · cases h
    · rw [Store.effectsOf, heffects]
      by_contra hcommitted
      obtain ⟨result, hok⟩ := operate_of_committed h htenant hcommitted
        ((hmeets hfate hdue).1 hcommitted)
      rw [hrefused] at hok
      cases hok

/-- **A command that is sent again** is answered. -/
theorem settles_attempt (h : Inv D s) (hmeets : Meets D s (.send p c fate)) :
    Settles D s (.send p c fate) := by
  rintro rfl hrolledBack hdue
  obtain ⟨-, haudit, hretry⟩ := hmeets rfl hdue
  obtain ⟨henvelope, hdate, hfails⟩ := hretry hrolledBack
  have happly : ∃ execution, (apply D p s c).2 = .ok execution := by
    rw [apply]
    cases hoperate : operate D p s c with
    | ok result => exact ⟨_, rfl⟩
    | error e =>
      by_cases hrefuses : e.refuses
      · cases e with
        | other => exact absurd hrefuses id
        | http error =>
          have hnew : c.rejection p ∉ s.audits := fun hmem ↦
            haudit hmem ⟨_, hoperate, hrefuses⟩
          have hrecord : recordRequired s (c.rejection p) =
              .ok { s with audits := s.audits ++ [c.rejection p] } :=
            bind_eq_ok.mpr ⟨⟨⟩, ensure_eq_ok.mpr hnew, rfl⟩
          refine ⟨.ERROR error (classifyConflict c.kind error), ?_⟩
          dsimp only
          rw [if_pos (show error.status < 500 from hrefuses), hrecord]
      · exact absurd ⟨e, hoperate, hrefuses⟩ hfails
  obtain ⟨execution, hexecution⟩ := happly
  have hinner : Inner D p c s (apply D p s c).1 := inner_apply
  have hfresh : (apply D p s c).1.commands.find? c.commandId = none := by
    rw [hinner.store]
    refine Table.find?_eq_none.mpr fun row hrow heq ↦ ?_
    exact List.find?_eq_none.mp hdue.1 row hrow (decide_eq_true (.inl heq))
  obtain ⟨commands, hinsert⟩ := Table.insert_isSome (t := (apply D p s c).1.commands)
    (r := c.row execution) hfresh
  have hcomplete : complete (apply D p s c).1 c execution = .ok { (apply D p s c).1 with
      commands := commands
      lastSequence :=
        Function.update (apply D p s c).1.lastSequence c.scope.device c.sequence } :=
    bind_eq_ok.mpr ⟨commands, demand_eq_ok.mpr hinsert, rfl⟩
  rw [attempt, henvelope]
  unfold execute
  rw [lookUp_of_due h hdue hdate]
  rw [hexecution]
  dsimp only
  rw [hcomplete]
  rfl

/-! ### Runs -/

theorem refusedClean_elsewhere (h : RefusedClean s) (e : Elsewhere ω π) :
    RefusedClean (e.apply s) := by
  rw [Elsewhere.apply]
  split
  case isFalse => exact h
  case isTrue hadmits =>
    refine h.grow rfl rfl ?_
    intro x hx c hc
    rw [(hadmits.1 x hx).1] at hc
    cases hc

/-- **The step lemma.** -/
theorem inv_step (h : Inv D s) (hstep : step D s event = .ok s') : Inv D s' := by
  cases event with
  | send p c fate =>
    cases hstep
    exact inv_attempt h
  | «elsewhere» e =>
    cases hstep
    exact inv_elsewhere h e

theorem refusedClean_step (h : Inv D s) (hclean : RefusedClean s)
    (hmeets : Meets D s event) (hstep : step D s event = .ok s') : RefusedClean s' := by
  cases event with
  | send p c fate =>
    cases hstep
    exact refusedClean_attempt h hclean hmeets
  | «elsewhere» e =>
    cases hstep
    exact refusedClean_elsewhere hclean e

theorem settles_run (h : Inv D s) (events : List (Event ω π))
    (hmeets : Along (step D) (Meets D) s events) : Along (step D) (Settles D) s events := by
  refine along_induct (fun s event h hmeets ↦ ?_) (fun _ _ _ h _ hstep ↦ inv_step h hstep) h events
    hmeets
  cases event with
  | send p c fate => exact settles_attempt h hmeets
  | «elsewhere» e => trivial

variable {now : ℤ} {policy : Uuid → ValuationPolicy} {world : ω} {events : List (Event ω π)}

/-- **Every run** executes in order, commits an effect at most once, and has the effect of what is
`CONFIRMED`; no condition is needed for it. -/
theorem inv_run : Inv D (inboxRun D (Store.fresh now policy world) events) :=
  run_induct (fun _ _ _ h hstep ↦ inv_step h hstep) (inv_fresh now policy world) events

theorem refusedClean_run (hmeets : Along (step D) (Meets D) (Store.fresh now policy world) events) :
    RefusedClean (inboxRun D (Store.fresh now policy world) events) := by
  have hclean : Inv D (inboxRun D (Store.fresh now policy world) events) ∧
      RefusedClean (inboxRun D (Store.fresh now policy world) events) :=
    run_induct_along (P := fun s ↦ Inv D s ∧ RefusedClean s)
      (fun _ _ _ h hmeets hstep ↦
        ⟨inv_step h.1 hstep, refusedClean_step h.1 h.2 hmeets hstep⟩)
      ⟨inv_fresh now policy world, refusedClean_fresh now policy world⟩ events hmeets
  exact hclean.2

/-- **The inbox is exact and never blocks**, in every run that meets the condition. -/
theorem inbox_exactly_once (D : Domain ω π) (now : ℤ) (policy : Uuid → ValuationPolicy) (world : ω)
    (events : List (Event ω π))
    (hmeets : Along (step D) (Meets D) (Store.fresh now policy world) events) :
    Sound D (inboxRun D (Store.fresh now policy world) events) ∧
      Along (step D) (Settles D) (Store.fresh now policy world) events :=
  ⟨inv_run.sound (refusedClean_run hmeets),
    settles_run (inv_fresh now policy world) events hmeets⟩

/-! ### Three ways to be stuck -/

/-- One balance, which movements change and which may not become negative. -/
def oneBalance : Domain ℤ ℤ where
  getTime := fun text ↦
    if text = textOf "1970-01-01T00:00:00.000Z" ∨ text = textOf "1969-12-31T18:00:00-06:00" then
      some 0
    else none
  -- after the seconds a fraction may follow, and no piece of an offset
  isDateTime := fun text ↦
    (text.drop 19).all fun unit ↦ unit = '.'.toNat ∨ '0'.toNat ≤ unit ∧ unit ≤ '9'.toNat
  collate := id
  validPayload := fun _ _ ↦ true
  fingerprint := fun _ delta ↦ [delta.toNat, (-delta).toNat]
  decide := fun balance op ↦ do
    ensure (0 ≤ balance + op.payload) (.http {
      status := 409, code := some (textOf "INVALID_STOCK_QUANTITY"),
      message := textOf "La cantidad es inválida o dejaría el saldo negativo." })
    pure (balance + op.payload, 7)

def adjuster : Principal where
  tenantId := 1
  userId := 1
  permissions := [.INVENTORY_ADJUST]
  branchId := none
  warehouseId := some 1
  cashRegisterId := none

def movementCommand (delta : ℤ) : OfflineCommand ℤ where
  commandId := 1
  idempotencyKey := textOf "movement-1"
  scope := { device := ⟨1, 1, 1⟩, branchId := none, cashRegisterId := none }
  sequence := 1
  createdAt := textOf "1970-01-01T00:00:00.000Z"
  valuationMethod := .MOVING_AVERAGE
  valuationPolicyVersion := 1
  kind := .INVENTORY_MOVEMENT
  payload := delta

def emptyInbox : Store ℤ ℤ :=
  Store.fresh 0 (fun _ ↦ ⟨.MOVING_AVERAGE, 1⟩) 10

def timePasses (now : ℤ) (world : ℤ) : Event ℤ ℤ :=
  .«elsewhere» { now := now, policy := fun _ ↦ ⟨.MOVING_AVERAGE, 1⟩, world := world, effects := [] }

/-- The attempt is broken off once the movement is committed, and the command is sent again. -/
def brokenOff (later : ℤ) : List (Event ℤ ℤ) :=
  [.send adjuster (movementCommand 5) (.stops .afterOperation), timePasses later 15,
    .send adjuster (movementCommand 5) .completes]

theorem inbox_exactly_once_inTime :
    (Sound oneBalance (inboxRun oneBalance emptyInbox (brokenOff 60000)) ∧
      Along (step oneBalance) (Settles oneBalance) emptyInbox (brokenOff 60000)) ∧
    (inboxRun oneBalance emptyInbox (brokenOff 60000)).commands.rows.map CommandRow.execution =
      [.CONFIRMED 7 CommandKind.INVENTORY_MOVEMENT.resolution] :=
  ⟨inbox_exactly_once oneBalance 0 (fun _ ↦ ⟨.MOVING_AVERAGE, 1⟩) 10 (brokenOff 60000)
    (by decide +kernel), by decide +kernel⟩

/-- The movement is refused, the attempt broken off once this is on record, and the command sent
again. -/
def brokenOffRefusal : List (Event ℤ ℤ) :=
  [.send adjuster (movementCommand (-20)) (.stops .afterAudit),
    .send adjuster (movementCommand (-20)) .completes]

/-- The time of the capture is written with an offset and without a fraction. -/
def zonedCommand : OfflineCommand ℤ :=
  { movementCommand 5 with createdAt := textOf "1969-12-31T18:00:00-06:00" }

def sentTwice : List (Event ℤ ℤ) :=
  [.send adjuster zonedCommand .completes, .send adjuster zonedCommand .completes]

/-- **Neither exact nor free to go on.** A committed command ends as `ERROR`, a refused one throws
when it is sent again, and so does one whose time is cut within the offset. -/
theorem committed_then_refused :
    ¬Sound oneBalance (inboxRun oneBalance emptyInbox (brokenOff 4000000)) ∧
    ((inboxRun oneBalance emptyInbox (brokenOff 4000000)).effectsOf (movementCommand 5)).length =
      1 ∧
    ¬Along (step oneBalance) (Settles oneBalance) emptyInbox brokenOffRefusal ∧
    (attempt oneBalance adjuster .completes (inboxRun oneBalance emptyInbox brokenOffRefusal)
      (movementCommand (-20))).2.toOption = none ∧
    ¬Along (step oneBalance) (Settles oneBalance) emptyInbox sentTwice ∧
    sqlDate zonedCommand.createdAt = textOf "1969-12-31 18:00:00-06:" ∧
    (attempt oneBalance adjuster .completes emptyInbox zonedCommand).2 =
      .error .incorrectDateTime := by
  have heffect : ((inboxRun oneBalance emptyInbox (brokenOff 4000000)).effectsOf
      (movementCommand 5)).length = 1 := by
    decide +kernel
  refine ⟨fun h ↦ ?_, heffect, ?_, by decide +kernel, ?_, by decide +kernel, rfl⟩
  · have hrow : ∃ row ∈ (inboxRun oneBalance emptyInbox (brokenOff 4000000)).commands.rows,
        row.requestFingerprint = movementCommand 5 ∧
          (match row.execution with | .ERROR _ _ => true | .CONFIRMED _ _ => false) = true := by
      decide +kernel
    obtain ⟨row, hrow, hcommand, herror⟩ := hrow
    cases hexecution : row.execution with
    | CONFIRMED entityId resolution =>
      rw [hexecution] at herror
      cases herror
    | ERROR error conflict =>
      have hnone := h.refused row hrow error conflict hexecution
      rw [hcommand] at hnone
      rw [hnone] at heffect
      cases heffect
  · rintro ⟨-, hsettles, -⟩
    have hanswered := hsettles rfl (by decide +kernel) (by decide +kernel)
    revert hanswered
    decide +kernel
  · rintro ⟨-, hsettles, -⟩
    have hanswered := hsettles rfl (by decide +kernel) (by decide +kernel)
    revert hanswered
    decide +kernel

end UInventario.OfflineSync
