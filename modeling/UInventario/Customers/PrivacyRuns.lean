import UInventario.Customers.Privacy

/-!
# Anonymisation is final, and a hold is in its way

`anonymization_follows` is about every run of the requests of `Customers.Privacy`, in every
interleaving of their turns: an anonymised customer stays one, with its name and contact data gone,
and inactive; and no step anonymises a customer while a hold on it is active and has not expired.

What a turn may do to the customers is said once (`CustomerWrite`, `turn_writes`): no write but that
of `anonymize` touches `privacy_status`, and it looks at the holds in the same turn
(`not_held_of_no_activeHold`).

The columns need more: `update` compares nothing but the version, where sales, loyalty and
`findActive` ask for `privacy_status = 'ACTIVE'`. A `PATCH` with the version of an anonymised row
writes a name into it, for good. So the first part is about runs in which no update does this
(`Process.RespectsAnonymized`); `reidentified` is a run in which one does.
-/

namespace UInventario.Customers

open Outcome Table Option

variable (env : PrivacyEnv)

/-! ### What is to be kept -/

structure Customer.Anonymized (row : Customer) : Prop where
  name : row.name = anonymizedName env row.id
  identifier : row.identifier = none
  email : row.email = none
  phone : row.phone = none
  inactive : row.active = false

def CustomerStore.Held (s : CustomerStore) (customerId : Uuid) : Prop :=
  ∃ hold ∈ s.holds, hold.customerId = customerId ∧ hold.active = true ∧
    ∀ expiresAt ∈ hold.expiresAt, s.now < expiresAt

def CustomerStore.Marked (s : CustomerStore) (customerId : Uuid) : Prop :=
  ∃ row ∈ s.customers.find? customerId, row.privacyStatus = .ANONYMIZED
deriving Decidable

/-- A request for anonymisation is to write its customer: nothing is in its way. -/
def CustomerStore.Anonymizes (s : CustomerStore) (input : PrivacyInput PrivacyActionDto) : Prop :=
  ¬s.Marked input.customerId ∧ (expireHolds s input.customerId).activeHold input.customerId = none ∧
    ¬∃ m ∈ s.requests, sameKey env m.idempotencyKey (some input.idempotencyKey) = true
deriving Decidable

/-- An update that writes what is there already in an anonymised row. -/
@[mk_iff]
structure UpdateCustomerDto.Repeats (dto : UpdateCustomerDto) (id : Uuid) : Prop where
  name : dto.name = anonymizedName env id
  identifier : dto.identifier = none
  email : dto.email = none
  phone : dto.phone = none
  inactive : dto.active = some false

/-- **The condition of a turn.** An update of an anonymised row repeats what is in it. -/
def Process.RespectsAnonymized (s : CustomerStore) : Process → Prop
  | .asked (.update id dto) => ∀ row ∈ s.customers.find? id, row.version = dto.version →
      row.privacyStatus = .ANONYMIZED → dto.Repeats env id
  | _ => True

abbrev RespectsAnonymized :
    Processes.State CustomerStore Process → Processes.Event Request → Prop :=
  Processes.AtTurn fun st p ↦ p.RespectsAnonymized env st.store

instance (dto : UpdateCustomerDto) (id : Uuid) : Decidable (dto.Repeats env id) :=
  decidable_of_iff' _ (UpdateCustomerDto.repeats_iff env dto id)

instance (s : CustomerStore) (p : Process) : Decidable (p.RespectsAnonymized env s) := by
  unfold Process.RespectsAnonymized
  split <;> infer_instance

/-! ### What a turn does to the customers -/

/-- **What a turn may make of the customers.** -/
inductive CustomerWrite (s : CustomerStore) : Process → Table Customer → Prop
  | same (p : Process) : CustomerWrite s p s.customers
  | created {p : Process} {row : Customer} {customers : Table Customer}
      (hstatus : row.privacyStatus = .ACTIVE) (hinsert : s.customers.insert row = some customers) :
      CustomerWrite s p customers
  | updated {id : Uuid} {dto : UpdateCustomerDto} {row : Customer}
      (hrow : s.customers.find? id = some row) (hversion : row.version = dto.version) :
      CustomerWrite s (.asked (.update id dto)) (s.customers.update id (dto.write env))
  | deactivated {p : Process} (id : Uuid) :
      CustomerWrite s p (s.customers.update id Customer.deactivated Customer.id_deactivated)
  | bumped {p : Process} (id : Uuid) : CustomerWrite s p (s.customers.update id Customer.bump)
  | anonymized {input : PrivacyInput PrivacyActionDto} {seen : Snapshot}
      (hfree : s.Anonymizes env input) : CustomerWrite s (.anonymizing input seen)
        (s.customers.update input.customerId (Customer.anonymize env seen.retentionUntil s.now))

/-- **What a turn may make of the customers and of the sales.** -/
structure Writes (s : CustomerStore) (p : Process) (s' : CustomerStore) : Prop where
  customers : CustomerWrite env s p s'.customers
  sales : (∀ input, p ≠ .asked (.sale input)) → s'.sales = s.sales

variable {customerId : Uuid}

theorem not_held_of_no_activeHold {s : CustomerStore}
    (h : (expireHolds s customerId).activeHold customerId = none) : ¬s.Held customerId := by
  rintro ⟨hold, hmem, hcustomer, hactive, hexpires⟩
  have hkept : hold.expire customerId s.now = hold := by
    refine if_neg fun ⟨_, _, hexpired⟩ ↦ ?_
    obtain ⟨expiresAt, he, hle⟩ := (any_eq_true _ _).mp hexpired
    exact absurd (hexpires expiresAt he) (Nat.not_lt.mpr (of_decide_eq_true hle))
  have hleft : hold ∈ (expireHolds s customerId).holds :=
    List.mem_map.mpr ⟨hold, hmem, hkept⟩
  exact List.find?_eq_none.mp h hold hleft (by simp [hcustomer, hactive])

theorem insertRequest_eq_ok {s s' : CustomerStore} {row : PrivacyRequest}
    (h : insertRequest env s row = .ok s') :
    s' = { s with requests := s.requests ++ [row] } := by
  simp only [insertRequest, eq_ok] at h
  obtain ⟨⟨⟩, -, rfl⟩ := h
  rfl

variable {env} {s s' : CustomerStore} {p : Process}

theorem Writes.of_eq (hcustomers : s'.customers = s.customers) (hsales : s'.sales = s.sales) :
    Writes env s p s' :=
  ⟨hcustomers ▸ .same p, fun _ ↦ hsales⟩

variable {id : Uuid} {input : PrivacyInput PrivacyActionDto} {seen : Snapshot}
  {dto : UpdateCustomerDto}

theorem create_writes {dto : SaveCustomerDto} (h : create env s id dto = .ok s') :
    Writes env s p s' := by
  simp only [create, eq_ok] at h
  obtain ⟨-, -, -, -, customers, hinsert, rfl⟩ := h
  exact ⟨.created rfl hinsert, fun _ ↦ rfl⟩

theorem update_writes (h : update env s id dto = .ok s') :
    Writes env s (.asked (.update id dto)) s' := by
  simp only [update, eq_ok] at h
  obtain ⟨-, -, row, hrow, -, hversion, -, -, rfl⟩ := h
  exact ⟨.updated hrow hversion, fun _ ↦ rfl⟩

theorem deactivate_writes (h : deactivate s id = .ok s') : Writes env s p s' := by
  simp only [deactivate, eq_ok] at h
  obtain ⟨-, -, rfl⟩ := h
  exact ⟨.deactivated id, fun _ ↦ rfl⟩

theorem configureCredit_writes {dto : ConfigureCustomerCreditDto}
    (h : configureCredit s id dto = .ok s') : Writes env s p s' := by
  simp only [configureCredit, eq_ok] at h
  obtain ⟨-, -, -, -, rfl⟩ := h
  exact ⟨.bumped id, fun _ ↦ rfl⟩

/-- **A sale** is of a customer that is not anonymised. -/
theorem persistSale_eq_ok {input : SaleInput} (h : persistSale s input = .ok s') :
    ¬s.Marked input.customerId ∧ s'.customers = s.customers ∧
      s'.sales = s.sales ++ [{ customerId := input.customerId, createdAt := s.now }] := by
  simp only [persistSale, eq_ok] at h
  obtain ⟨customer, hcustomer, -, ⟨-, hactive⟩, -, -, rfl⟩ := h
  refine ⟨?_, rfl, rfl⟩
  rintro ⟨row, hrow, hmarked⟩
  rw [mem_def, hcustomer, Option.some.injEq] at hrow
  rw [← hrow, hactive] at hmarked
  cases hmarked

theorem payCredit_writes {amount : ℕ} (h : payCredit s customerId amount = .ok s') :
    Writes env s p s' := by
  simp only [payCredit, eq_ok] at h
  obtain ⟨-, -, -, -, -, -, rfl⟩ := h
  exact .of_eq rfl rfl

theorem createLegalHold_writes {input : HoldInput}
    (h : createLegalHold env s input seen = .ok s') : Writes env s p s' := by
  rw [insertRequest_eq_ok env h, putHold]
  split <;> exact .of_eq rfl rfl

theorem releaseLegalHold_writes
    (h : releaseLegalHold env s input seen = .ok s') : Writes env s p s' := by
  rw [insertRequest_eq_ok env h]
  exact .of_eq rfl rfl

theorem updatePolicy_writes {input : PolicyInput} (h : updatePolicy env s input = .ok s') :
    Writes env s p s' := by
  simp only [updatePolicy, eq_ok] at h
  obtain ⟨-, -, -, -, h⟩ := h
  rw [insertRequest_eq_ok env h]
  exact .of_eq rfl rfl

theorem recordExport_writes {requestId : Uuid}
    (h : recordExport env s requestId customerId = .ok s') : Writes env s p s' := by
  simp only [recordExport, eq_ok] at h
  obtain ⟨-, -, h⟩ := h
  rw [insertRequest_eq_ok env h]
  exact .of_eq rfl rfl

/-- **A request for anonymisation** leaves the customers, or finds no hold and writes the one it is
about, which is not anonymised. -/
theorem anonymize_writes {blocked : Bool} (h : anonymize env s input seen = .ok (s', blocked)) :
    Writes env s (.anonymizing input seen) s' := by
  simp only [anonymize, eq_ok] at h
  obtain ⟨customer, hcustomer, h⟩ := h
  cases hhold : (expireHolds s input.customerId).activeHold input.customerId with
  | some hold =>
    rw [hhold] at h
    simp only [eq_ok, Prod.mk.injEq] at h
    obtain ⟨_, h, rfl, -⟩ := h
    rw [insertRequest_eq_ok env h]
    exact .of_eq rfl rfl
  | none =>
    rw [hhold] at h
    simp only [eq_ok, Prod.mk.injEq] at h
    obtain ⟨_, h, rfl, -⟩ := h
    rw [writeAnonymized] at h
    split at h
    · rw [insertRequest_eq_ok env h]
      exact .of_eq rfl rfl
    · rename_i hstatus
      simp only [insertRequest, eq_ok] at h
      obtain ⟨-, hunused, rfl⟩ := h
      refine ⟨.anonymized ⟨?_, hhold, hunused⟩, fun _ ↦ rfl⟩
      rintro ⟨row, hrow, hmarked⟩
      rw [mem_def, hcustomer, Option.some.injEq] at hrow
      exact hstatus (hrow ▸ hmarked)

theorem commit_writes {r : Except CustomerFailure CustomerStore}
    (h : ∀ s', r = .ok s' → Writes env s p s') : Writes env s p (commit s r).1 := by
  cases r with
  | ok s' => exact h s' rfl
  | error failure => exact .of_eq rfl rfl

theorem proceed_writes (next : Snapshot → Process)
    (r : Except CustomerFailure (Option Snapshot)) : Writes env s p (proceed s next r).1 := by
  match r with
  | .ok (some _) => exact .of_eq rfl rfl
  | .ok none => exact .of_eq rfl rfl
  | .error _ => exact .of_eq rfl rfl

variable {customers : Table Customer}

/-- **What a turn does to the customers.** -/
theorem turn_writes (p : Process) : Writes env s p (turn env p s).1 := by
  match p with
  | .asked (.create id dto) => exact commit_writes fun s' h ↦ create_writes h
  | .asked (.update id dto) => exact commit_writes fun s' h ↦ update_writes h
  | .asked (.deactivate id) => exact commit_writes fun s' h ↦ deactivate_writes h
  | .asked (.configureCredit id dto) => exact commit_writes fun s' h ↦ configureCredit_writes h
  | .asked (.sale input) =>
    exact commit_writes fun s' h ↦
      ⟨(persistSale_eq_ok h).2.1 ▸ .same _, fun hsale ↦ absurd rfl (hsale input)⟩
  | .asked (.payCredit customerId amount) => exact commit_writes fun s' h ↦ payCredit_writes h
  | .asked (.createLegalHold input) => exact proceed_writes _ _
  | .asked (.releaseLegalHold input) => exact proceed_writes _ _
  | .asked (.anonymize input) => exact proceed_writes _ _
  | .asked (.updatePolicy input) =>
    show Writes env s _ (firstTurn env (.updatePolicy input) s).1
    rw [firstTurn]
    split <;> exact .of_eq rfl rfl
  | .asked (.recordExport requestId customerId) =>
    exact commit_writes fun s' h ↦ recordExport_writes h
  | .asked (.elapse milliseconds) => exact .of_eq rfl rfl
  | .holding input seen => exact commit_writes fun s' h ↦ createLegalHold_writes h
  | .releasing input seen => exact commit_writes fun s' h ↦ releaseLegalHold_writes h
  | .anonymizing input seen =>
    show Writes env s _ (commitAnonymize s (anonymize env s input seen)).1
    cases h : anonymize env s input seen with
    | error failure => exact .of_eq rfl rfl
    | ok r =>
      obtain ⟨s', blocked⟩ := r
      cases blocked with
      | false | true => exact anonymize_writes h
  | .changingPolicy input => exact commit_writes fun s' h ↦ updatePolicy_writes h
  | .answered failure => exact .of_eq rfl rfl

/-! ### Laws of a turn -/

theorem Customer.privacyStatus_deactivated (row : Customer) :
    row.deactivated.privacyStatus = row.privacyStatus := by
  rw [Customer.deactivated]
  split <;> rfl

theorem Customer.retention_deactivated (row : Customer) :
    row.deactivated.privacyRetentionUntil = row.privacyRetentionUntil := by
  rw [Customer.deactivated]
  split <;> rfl

variable {row : Customer}

theorem Customer.Anonymized.deactivated (h : row.Anonymized env) : row.deactivated = row := by
  exact if_neg (by rw [h.inactive]; exact Bool.false_ne_true)

theorem Customer.anonymized_anonymize (row : Customer) (retentionUntil : Option Timestamp)
    (now : Timestamp) : (row.anonymize env retentionUntil now).Anonymized env where
  name := rfl
  identifier := rfl
  email := rfl
  phone := rfl
  inactive := rfl

theorem UpdateCustomerDto.Repeats.anonymized (h : dto.Repeats env row.id) :
    (dto.write env row).Anonymized env where
  name := h.name
  identifier := h.identifier
  email := h.email
  phone := h.phone
  inactive := by
    show dto.active.getD true = false
    rw [h.inactive]
    rfl

variable {f : Customer → Customer} {date : Option Timestamp}

/-- The customer is anonymised, and its transactions are kept until then. -/
def Retained (customers : Table Customer) (customerId : Uuid) (date : Option Timestamp) : Prop :=
  ∃ row ∈ customers.find? customerId,
    row.privacyStatus = .ANONYMIZED ∧ row.privacyRetentionUntil = date

section

variable (hf : ∀ row, Keyed.key (f row) = Keyed.key row)
  (hstatus : ∀ row, (f row).privacyStatus = row.privacyStatus)
include hf hstatus

theorem retained_update (huntil : ∀ row, (f row).privacyRetentionUntil = row.privacyRetentionUntil)
    (h : Retained s.customers customerId date) :
    Retained (s.customers.update id f hf) customerId date := by
  obtain ⟨row, hrow, hmarked, hrow'⟩ := h
  by_cases hid : customerId = id
  · subst hid
    refine ⟨f row, ?_, (hstatus row).trans hmarked, (huntil row).trans hrow'⟩
    rw [find?_update_self, hrow]
    rfl
  · refine ⟨row, ?_, hmarked, hrow'⟩
    rw [find?_update_of_ne hid]
    exact hrow

theorem marked_of_update
    (hrow : row ∈ (s.customers.update id f hf).rows) (hmarked : row.privacyStatus = .ANONYMIZED) :
    s.Marked row.id := by
  obtain ⟨old, hmem, hkey, hself, hother⟩ := exists_of_mem_update hrow
  refine ⟨old, Table.find?_eq_some.mpr ⟨hmem, hkey⟩, ?_⟩
  by_cases hid : Keyed.key old = id
  · rw [← hstatus old, ← hself hid]
    exact hmarked
  · rw [← hother hid]
    exact hmarked

end

section

variable (hwrite : CustomerWrite env s p customers)
include hwrite

/-- **The status stays**, whatever is written, and so does the date. -/
theorem CustomerWrite.retained (h : Retained s.customers customerId date) :
    Retained customers customerId date := by
  cases hwrite with
  | same => exact h
  | created hstatus hinsert =>
    obtain ⟨row, hrow, hmarked⟩ := h
    exact ⟨row, find?_insert_of_some hinsert hrow, hmarked⟩
  | updated hrow hversion | bumped id => exact retained_update _ (fun _ ↦ rfl) (fun _ ↦ rfl) h
  | deactivated id =>
    exact retained_update _ Customer.privacyStatus_deactivated Customer.retention_deactivated h
  | @anonymized input seen hfree =>
    obtain ⟨row, hrow, hmarked, huntil⟩ := h
    have hid : customerId ≠ input.customerId := by
      rintro rfl
      exact hfree.1 ⟨row, hrow, hmarked⟩
    refine ⟨row, ?_, hmarked, huntil⟩
    rw [find?_update_of_ne hid]
    exact hrow

theorem CustomerWrite.marked (h : s.Marked customerId) :
    ∃ row ∈ customers.find? customerId, row.privacyStatus = .ANONYMIZED := by
  obtain ⟨row, hrow, hmarked⟩ := h
  obtain ⟨later, hlater, hstatus, -⟩ := hwrite.retained ⟨row, hrow, hmarked, rfl⟩
  exact ⟨later, hlater, hstatus⟩

/-- **A customer comes to be anonymised** by a request for it that finds no hold. -/
theorem CustomerWrite.anonymizing
    (hrow : row ∈ customers.rows) (hmarked : row.privacyStatus = .ANONYMIZED)
    (hbefore : ¬s.Marked row.id) :
    ∃ input seen, p = .anonymizing input seen ∧ input.customerId = row.id ∧
      s.Anonymizes env input ∧ row.privacyRetentionUntil = seen.retentionUntil := by
  cases hwrite with
  | same => exact absurd ⟨row, find?_key_of_mem hrow, hmarked⟩ hbefore
  | created hstatus hinsert =>
    rcases (mem_insert hinsert).mp hrow with hmem | rfl
    · exact absurd ⟨row, find?_key_of_mem hmem, hmarked⟩ hbefore
    · rw [hstatus] at hmarked
      cases hmarked
  | updated hfound hversion =>
    exact absurd (marked_of_update (f := UpdateCustomerDto.write env _) _ (fun _ ↦ rfl) hrow
      hmarked) hbefore
  | deactivated id =>
    exact absurd (marked_of_update _ Customer.privacyStatus_deactivated hrow hmarked) hbefore
  | bumped id =>
    exact absurd (marked_of_update (f := Customer.bump) _ (fun _ ↦ rfl) hrow hmarked) hbefore
  | @anonymized input seen hfree =>
    obtain ⟨old, hmem, hkey, hself, hother⟩ := exists_of_mem_update hrow
    by_cases hid : row.id = input.customerId
    · refine ⟨input, seen, rfl, hid.symm, hfree, ?_⟩
      rw [hself (hkey.trans hid)]
      rfl
    · rw [hother fun h ↦ hid (hkey.symm.trans h)] at hmarked hbefore
      exact absurd ⟨old, find?_key_of_mem hmem, hmarked⟩ hbefore

end

theorem anonymized_update (hf : ∀ row, Keyed.key (f row) = Keyed.key row)
    (hinv : ∀ row ∈ s.customers.rows, row.privacyStatus = .ANONYMIZED → row.Anonymized env)
    (hkeep : ∀ row ∈ s.customers.find? id, (f row).privacyStatus = .ANONYMIZED →
      (f row).Anonymized env) :
    ∀ row ∈ (s.customers.update id f hf).rows, row.privacyStatus = .ANONYMIZED →
      row.Anonymized env :=
  forall_mem_update _ hinv fun row hrow _ ↦ hkeep row hrow

/-- **The columns stay**, when an update respects them. -/
theorem CustomerWrite.anonymized_rows (hwrite : CustomerWrite env s p customers)
    (hC : p.RespectsAnonymized env s)
    (hinv : ∀ row ∈ s.customers.rows, row.privacyStatus = .ANONYMIZED → row.Anonymized env) :
    ∀ row ∈ customers.rows, row.privacyStatus = .ANONYMIZED → row.Anonymized env := by
  have hfound : ∀ {id : Uuid}, ∀ row ∈ s.customers.find? id, row.privacyStatus = .ANONYMIZED →
      row.Anonymized env := fun row hrow ↦ hinv row (mem_of_find? hrow)
  cases hwrite with
  | same => exact hinv
  | created hstatus hinsert =>
    intro row hrow hmarked
    rcases (mem_insert hinsert).mp hrow with hmem | rfl
    · exact hinv row hmem hmarked
    · rw [hstatus] at hmarked
      cases hmarked
  | @updated id dto row hrow hversion =>
    refine anonymized_update _ hinv fun row' hrow' hmarked ↦ ?_
    rw [mem_def, hrow, Option.some.injEq] at hrow'
    subst hrow'
    have hid : row.id = id := key_of_find? hrow
    subst hid
    exact (hC row hrow hversion hmarked).anonymized
  | deactivated id =>
    refine anonymized_update _ hinv fun row hrow hmarked ↦ ?_
    have hrow' := hfound row hrow (row.privacyStatus_deactivated.symm.trans hmarked)
    rw [hrow'.deactivated]
    exact hrow'
  | bumped id =>
    refine anonymized_update _ hinv fun row hrow hmarked ↦ ?_
    obtain ⟨hname, hidentifier, hemail, hphone, hinactive⟩ := hfound row hrow hmarked
    exact ⟨hname, hidentifier, hemail, hphone, hinactive⟩
  | anonymized =>
    exact anonymized_update _ hinv fun row _ _ ↦ row.anonymized_anonymize _ s.now

/-! ### Runs -/

variable {st st' : Processes.State CustomerStore Process}

variable {event : Processes.Event Request}

theorem step_writes (h : Processes.step (system env) st event = .ok st') :
    st'.store = st.store ∨ ∃ n, ∃ p, event = .turn n ∧ st.processes[n]? = some p ∧
      CustomerWrite env st.store p st'.store.customers := by
  cases event with
  | start request =>
    cases h
    exact .inl rfl
  | turn n =>
    obtain ⟨p, hp, rfl⟩ := Processes.step_turn_eq_ok.mp h
    exact .inr ⟨n, p, rfl, hp, (turn_writes p).customers⟩

theorem marked_step (hmarked : st.store.Marked customerId)
    (h : Processes.step (system env) st event = .ok st') : st'.store.Marked customerId := by
  rcases step_writes h with heq | ⟨n, p, -, -, hwrite⟩
  · rw [heq]
    exact hmarked
  · exact hwrite.marked hmarked

theorem marked_run (hmarked : st.store.Marked customerId) (events : List (Processes.Event Request))
    :
    (run (Processes.step (system env)) st events).store.Marked customerId :=
  run_induct (P := fun st : Processes.State CustomerStore Process ↦ st.store.Marked customerId)
    (fun _ _ _ hst h ↦ marked_step hst h) hmarked events

theorem anonymized_step (hC : RespectsAnonymized env st event)
    (hinv : ∀ row ∈ st.store.customers.rows, row.privacyStatus = .ANONYMIZED → row.Anonymized env)
    (h : Processes.step (system env) st event = .ok st') :
    ∀ row ∈ st'.store.customers.rows, row.privacyStatus = .ANONYMIZED → row.Anonymized env := by
  rcases step_writes h with heq | ⟨n, p, rfl, hp, hwrite⟩
  · rw [heq]
    exact hinv
  · exact hwrite.anonymized_rows (hC p hp) hinv

theorem anonymized_run (policy : PrivacyPolicy) (now : Timestamp)
    (events : List (Processes.Event Request))
    (hC : Along (Processes.step (system env)) (RespectsAnonymized env)
      (.idle (CustomerStore.init policy now)) events) :
    ∀ row ∈ (run (Processes.step (system env)) (.idle (CustomerStore.init policy now))
      events).store.customers.rows, row.privacyStatus = .ANONYMIZED → row.Anonymized env :=
  run_induct_along (P := fun st : Processes.State CustomerStore Process ↦
      ∀ row ∈ st.store.customers.rows, row.privacyStatus = .ANONYMIZED → row.Anonymized env)
    (fun _ _ _ hinv hC h ↦ anonymized_step hC hinv h)
    (List.forall_mem_nil _) events hC

def Unheld (env : PrivacyEnv) (st : Processes.State CustomerStore Process)
    (event : Processes.Event Request) : Prop :=
  ∀ st', Processes.step (system env) st event = .ok st' →
    ∀ row ∈ st'.store.customers.rows, row.privacyStatus = .ANONYMIZED →
      ¬st.store.Marked row.id → ¬st.store.Held row.id

theorem unheld_step (st : Processes.State CustomerStore Process)
    (event : Processes.Event Request) : Unheld env st event := by
  intro st' h row hrow hmarked hbefore
  rcases step_writes h with heq | ⟨n, p, -, -, hwrite⟩
  · rw [heq] at hrow
    exact absurd ⟨row, find?_key_of_mem hrow, hmarked⟩ hbefore
  · obtain ⟨input, -, -, hid, hfree, -⟩ := hwrite.anonymizing hrow hmarked hbefore
    exact not_held_of_no_activeHold (hid ▸ hfree.2.1)

/-- **Anonymisation is final where updates respect it, and a hold is always in its way.** -/
theorem anonymization_follows (env : PrivacyEnv) (policy : PrivacyPolicy) (now : Timestamp)
    (events more : List (Processes.Event Request)) :
    (Along (Processes.step (system env)) (RespectsAnonymized env)
        (.idle (CustomerStore.init policy now)) (events ++ more) →
      ∀ row ∈ (run (Processes.step (system env)) (.idle (CustomerStore.init policy now))
          events).store.customers.rows, row.privacyStatus = .ANONYMIZED →
        ∃ later ∈ (run (Processes.step (system env)) (.idle (CustomerStore.init policy now))
            (events ++ more)).store.customers.find? row.id,
          later.privacyStatus = .ANONYMIZED ∧ later.Anonymized env) ∧
      Along (Processes.step (system env)) (Unheld env) (.idle (CustomerStore.init policy now))
        events := by
  refine ⟨fun hC row hrow hmarked ↦ ?_, Processes.Outline.along_of_forall unheld_step events⟩
  have hstays : (run (Processes.step (system env)) (run (Processes.step (system env))
      (.idle (CustomerStore.init policy now)) events) more).store.Marked row.id :=
    marked_run ⟨row, Table.find?_key_of_mem hrow, hmarked⟩ more
  rw [← run_append] at hstays
  obtain ⟨later, hlater, hmarked'⟩ := hstays
  exact ⟨later, hlater, hmarked',
    anonymized_run policy now _ hC later (Table.mem_of_find? hlater) hmarked'⟩

/-! ### Runs of one customer -/

def sampleEnv : PrivacyEnv where
  normalize := fun text ↦ text
  phone := fun text ↦ text
  collate := fun text ↦ text
  head := fun id ↦ [48 + id]

def samplePolicy : PrivacyPolicy where
  minimumTransactionRetentionDays := 365
  transactionRetentionDays := 365
  version := 1

def sampleCustomer : SaveCustomerDto where
  name := textOf "Ana"
  identifier := some (textOf "A1")
  email := some (textOf "a@x.mx")
  phone := none
  dataProcessingConsent := true
  active := none

def sampleInput (requestId : Uuid) (key : String) : PrivacyInput PrivacyActionDto where
  requestId := requestId
  customerId := 1
  idempotencyKey := textOf key
  dto := { reason := textOf "solicitud", requestReference := none }

def sampleHold : HoldInput where
  requestId := 10
  customerId := 1
  idempotencyKey := textOf "hold-0001"
  dto := { reason := textOf "litigio pendiente", requestReference := none, expiresAt := some 1000 }
  holdId := 20

/-- A request is blocked by a hold that is set after its look; another one goes through later. -/
def heldAndAnonymized : List (Processes.Event Request) :=
  [.start (.create 1 sampleCustomer), .turn 0,
    .start (.sale ⟨1, 100, textOf "MXN", none⟩), .turn 1,
    .start (.anonymize (sampleInput 11 "anonymize-1")), .turn 2,
    .start (.createLegalHold sampleHold), .turn 3, .turn 3,
    .turn 2,
    .start (.elapse 2000), .turn 4,
    .start (.anonymize (sampleInput 12 "anonymize-2")), .turn 5, .turn 5]

def rectification (version : ℕ) : UpdateCustomerDto :=
  { sampleCustomer with version := version }

theorem anonymization_follows_held :
    ∃ later ∈ (run (Processes.step (system sampleEnv)) (.idle (CustomerStore.init samplePolicy 0))
        (heldAndAnonymized ++ [.start (.update 1 (rectification 1)), .turn 6,
          .start (.deactivate 1), .turn 7])).store.customers.find? 1,
      later.privacyStatus = .ANONYMIZED ∧ later.Anonymized sampleEnv :=
  (anonymization_follows sampleEnv samplePolicy 0 heldAndAnonymized
    [.start (.update 1 (rectification 1)), .turn 6, .start (.deactivate 1), .turn 7]).1
    (by decide +kernel)
    ((sampleCustomer.values sampleEnv (defaultCustomer 1)).anonymize sampleEnv
      (some (365 * dayLength)) 2000)
    (by decide +kernel) rfl

theorem reidentified :
    ∃ row ∈ (run (Processes.step (system sampleEnv)) (.idle (CustomerStore.init samplePolicy 0))
        heldAndAnonymized).store.customers.find? 1,
      row.privacyStatus = .ANONYMIZED ∧ row.active = false ∧ row.email = none ∧
      ∃ later ∈ (run (Processes.step (system sampleEnv))
          (.idle (CustomerStore.init samplePolicy 0)) (heldAndAnonymized ++
            [.start (.update 1 (rectification 2)), .turn 6])).store.customers.find? 1,
        later.privacyStatus = .ANONYMIZED ∧ later.active = true ∧ later.name = textOf "Ana" ∧
          later.email = some (textOf "a@x.mx") := by
  decide +kernel

end UInventario.Customers
