import UInventario.Customers.PrivacyRuns
import UInventario.Foundations.LockedRuns
import Mathlib.Data.List.Induction

/-!
# What is kept of an anonymised customer

`anonymize` writes until when the transactions of its customer are kept: the last sale and the days
of the policy. `retention_covers` is about every run of the requests of `Customers.Privacy`.

* No sale of a customer is committed once it is anonymised: `persistSale` locks the customer.
* The date covers every sale of the customer, when what the transaction has seen of the sales and
  the policy does (`SeesSales`).

The plain look at the key fixes what all plain reads of `anonymize` see, and it comes before the
customer's lock: a sale that commits in between is not seen. In `unseen_sale` it is the only one,
and no date is written at all.

A sale is in two halves: it locks its customer and inserts its rows, and it commits. The rest of
another transaction, from its locks to its commit, is one step, which waits for the sales.
-/

namespace UInventario.Customers

open Outcome List

variable (env : PrivacyEnv)

/-! ### Transactions side by side -/

inductive Halfway
  | reached (place : Process)
  /-- A sale has locked its customer and inserted these rows. -/
  | selling (sales : List CustomerSale) (debts : List DebtEntry)

def Request.holds : Request → List Uuid
  | .sale input => [input.customerId]
  | _ => []

def firstHalf (request : Request) (s : CustomerStore) : Except CustomerFailure Halfway :=
  match request with
  | .sale input => do
    let sold ← persistSale s input
    return .selling (sold.sales.drop s.sales.length) (sold.debtLedger.drop s.debtLedger.length)
  | .createLegalHold _ | .releaseLegalHold _ | .anonymize _ | .updatePolicy _ =>
    return .reached (firstTurn env request s).2
  | _ => return .reached (.asked request)

/-- The customers that the second half locks, or refers to in a row that it inserts. -/
def Halfway.needs : Halfway → List Uuid
  | .reached (.asked (.update id _)) | .reached (.asked (.deactivate id))
  | .reached (.asked (.configureCredit id _)) | .reached (.asked (.payCredit id _))
  | .reached (.asked (.recordExport _ id)) => [id]
  | .reached (.holding input _) => [input.customerId]
  | .reached (.releasing input _) | .reached (.anonymizing input _) => [input.customerId]
  | _ => []

def Halfway.commit (s : CustomerStore) : Halfway → CustomerStore
  | .reached place => (turn env place s).1
  | .selling sales debts =>
    { s with sales := s.sales ++ sales, debtLedger := s.debtLedger ++ debts }

def protocol : LockedRuns.Protocol CustomerStore Request Halfway Uuid CustomerFailure where
  holds := Request.holds
  read := firstHalf env
  needs _ place _ := place.needs
  write _ place s := .ok (place.commit env s)

/-- The transactions that have begun, over a tenant with its policy and no customer. -/
def reach (policy : PrivacyPolicy) (now : Timestamp) (events : List (LockedRuns.Event Request)) :
    LockedRuns.State CustomerStore Request Halfway :=
  run (protocol env).step (.idle (CustomerStore.init policy now)) events

def CustomerStore.salesOf (s : CustomerStore) (customerId : Uuid) : List CustomerSale :=
  s.sales.filter fun sale ↦ sale.customerId = customerId

/-- A date is as late as the days of the policy ask for after every sale of a customer. -/
def CustomerStore.Reaches (s : CustomerStore) (customerId : Uuid) (policy : PrivacyPolicy)
    (date : Option Timestamp) : Prop :=
  ∀ sale ∈ s.salesOf customerId, ∃ limit ∈ date,
    sale.createdAt + policy.transactionRetentionDays * dayLength ≤ limit
deriving Decidable

/-- **The condition of a commit.** The last sale and the days that the transaction has seen reach as
far as any sale of the customer. -/
def SeesSales (s : CustomerStore) (_ : Request) : Halfway → Prop
  | .reached (.anonymizing input seen) => s.Anonymizes env input →
    ∀ sale ∈ s.salesOf input.customerId, ∃ last ∈ seen.lastSaleAt,
      sale.createdAt + s.policy.transactionRetentionDays * dayLength ≤
        last + seen.policy.transactionRetentionDays * dayLength
  | _ => True

instance (s : CustomerStore) (request : Request) (place : Halfway) :
    Decidable (SeesSales env s request place) := by
  unfold SeesSales
  split <;> infer_instance

variable {env} {s s' : CustomerStore} {customerId : Uuid} {request : Request} {place : Halfway}

/-- **What has been seen is enough** when no sale has committed and no day been added since. -/
theorem seesSales_of_unchanged {t : CustomerStore} {input : PrivacyInput PrivacyActionDto}
    (hsales : s.salesOf input.customerId = t.salesOf input.customerId)
    (hdays : s.policy.transactionRetentionDays ≤ t.policy.transactionRetentionDays) :
    SeesSales env s request (.reached (.anonymizing input (t.snapshot input.customerId))) := by
  intro _ sale hsale
  have hmem := mem_map_of_mem (f := CustomerSale.createdAt) (hsales ▸ hsale)
  obtain ⟨last, hlast⟩ := Option.isSome_iff_exists.mp (isSome_max?_of_mem hmem)
  have hle : sale.createdAt ≤ last := (max?_eq_some_iff.mp hlast).2 _ hmem
  exact ⟨last, hlast, Nat.add_le_add hle (Nat.mul_le_mul_right _ hdays)⟩

/-! ### Sales in flight -/

def Known (request : Request) (place : Halfway) (s : CustomerStore) : Prop :=
  match place with
  | .selling sales _ => ∃ input, request = .sale input ∧ ¬s.Marked input.customerId ∧
      ∀ sale ∈ sales, sale.customerId = input.customerId
  | .reached p => ∀ input, p ≠ .asked (.sale input)

theorem proceed_ne_sale {next : Snapshot → Process} {r : Except CustomerFailure (Option Snapshot)}
    (hnext : ∀ seen input, next seen ≠ .asked (.sale input)) (input : SaleInput) :
    (proceed s next r).2 ≠ .asked (.sale input) := by
  match r with
  | .ok (some seen) => exact hnext seen input
  | .ok none => exact nofun
  | .error _ => exact nofun

theorem known_firstHalf (h : firstHalf env request s = .ok place) : Known request place s := by
  cases request with
  | sale input =>
    simp only [firstHalf, eq_ok] at h
    obtain ⟨sold, hsold, rfl⟩ := h
    obtain ⟨hunmarked, -, hsales⟩ := persistSale_eq_ok hsold
    refine ⟨input, rfl, hunmarked, fun sale hsale ↦ ?_⟩
    rw [hsales, drop_left, mem_singleton] at hsale
    rw [hsale]
  | createLegalHold | releaseLegalHold | anonymize =>
    cases h
    exact proceed_ne_sale fun _ _ ↦ by rintro ⟨⟩
  | updatePolicy input =>
    cases h
    intro sale
    rw [firstTurn]
    split <;> rintro ⟨⟩
  | create | update | deactivate | configureCredit | payCredit | recordExport | elapse =>
    cases h
    rintro _ ⟨⟩

/-- **A customer is anonymised under its lock.** -/
theorem Halfway.not_marked (hbefore : ¬s.Marked customerId) (hfree : customerId ∉ place.needs) :
    ¬(place.commit env s).Marked customerId := by
  cases place with
  | selling sales debts => exact hbefore
  | reached p =>
    rintro ⟨row, hrow, hmarked⟩
    have hid : row.id = customerId := Table.key_of_find? hrow
    subst hid
    obtain ⟨input, seen, rfl, hid, -⟩ := (@turn_writes env _ p).customers.anonymizing
      (Table.mem_of_find? hrow) hmarked hbefore
    exact hfree (mem_singleton.mpr hid.symm)

theorem sound : LockedRuns.Sound (protocol env) (fun _ _ _ ↦ True) (fun _ ↦ True) Known where
  read _ h := known_firstHalf h
  reread _ hknown h := Except.ok.inj h ▸ hknown
  write _ _ _ _ := trivial
  stable {s request place other place' s'} _ hknown _ _ hlocks h := by
    cases h
    cases place with
    | reached p => exact hknown
    | selling sales debts =>
      obtain ⟨input, rfl, hunmarked, hsales⟩ := hknown
      exact ⟨input, rfl,
        Halfway.not_marked hunmarked (hlocks _ (mem_singleton_self _)).2, hsales⟩

/-! ### Steps -/

variable {st : LockedRuns.State CustomerStore Request Halfway} {event : LockedRuns.Event Request}

/-- A step leaves the store, or is the commit of one transaction. -/
theorem exec_store (st : LockedRuns.State CustomerStore Request Halfway)
    (event : LockedRuns.Event Request) :
    (exec (protocol env).step st event).store = st.store ∨
      ∃ n request place, event = .finish n ∧ st.inFlight[n]? = some (request, place) ∧
        (exec (protocol env).step st event).store = place.commit env st.store := by
  cases hstep : (protocol env).step st event with
  | error failure =>
    rw [exec, hstep]
    exact .inl rfl
  | ok st' =>
    rw [exec_of_ok hstep]
    cases event with
    | start request =>
      simp only [LockedRuns.Protocol.step, eq_ok, mapError_eq_ok] at hstep
      obtain ⟨-, -, _, -, rfl⟩ := hstep
      exact .inl rfl
    | reread n =>
      simp only [LockedRuns.Protocol.step, eq_ok, mapError_eq_ok] at hstep
      obtain ⟨_, -, _, -, rfl⟩ := hstep
      exact .inl rfl
    | finish n =>
      simp only [LockedRuns.Protocol.step, eq_ok, mapError_eq_ok] at hstep
      obtain ⟨⟨request, place⟩, hplace, -, -, s', hwrite, rfl⟩ := hstep
      exact .inr ⟨n, request, place, rfl, hplace, (Except.ok.inj hwrite).symm⟩
    | rollback n =>
      cases hstep
      exact .inl rfl

/-- **A commit adds no sale** of a customer that is anonymised after it. -/
theorem Known.salesOf_eq (h : Known request place s)
    (hmarked : (place.commit env s).Marked customerId) :
    (place.commit env s).salesOf customerId = s.salesOf customerId := by
  cases place with
  | reached p => exact congrArg (filter _) ((turn_writes p).sales h)
  | selling sales debts =>
    obtain ⟨input, -, hunmarked, hsales⟩ := h
    refine (filter_append ..).trans ?_
    have hnone : sales.filter (fun sale ↦ sale.customerId = customerId) = [] := by
      refine filter_eq_nil_iff.mpr fun sale hsale hid ↦ hunmarked ?_
      rw [← hsales sale hsale, of_decide_eq_true hid]
      exact hmarked
    rw [hnone]
    exact append_nil _

/-- **The commit that anonymises a customer** writes a date that reaches its sales. -/
theorem Halfway.reaches (hC : SeesSales env s request place) {row : Customer}
    (hrow : row ∈ (place.commit env s).customers.find? customerId)
    (hmarked : row.privacyStatus = .ANONYMIZED) (hbefore : ¬s.Marked customerId) :
    s.Reaches customerId s.policy row.privacyRetentionUntil := by
  cases place with
  | selling sales debts => exact absurd ⟨row, hrow, hmarked⟩ hbefore
  | reached p =>
    have hid : row.id = customerId := Table.key_of_find? hrow
    subst hid
    obtain ⟨input, seen, rfl, hid, hfree, hdate⟩ :=
      (@turn_writes env _ p).customers.anonymizing (Table.mem_of_find? hrow) hmarked hbefore
    intro sale hsale
    obtain ⟨last, hlast, hle⟩ := hC hfree sale (hid ▸ hsale)
    refine ⟨_, ?_, hle⟩
    rw [hdate, Snapshot.retentionUntil, Option.mem_def.mp hlast]
    rfl

/-! ### Runs -/

theorem known_reach (env : PrivacyEnv) (policy : PrivacyPolicy) (now : Timestamp)
    (events : List (LockedRuns.Event Request)) :
    ∀ t ∈ (reach env policy now events).inFlight, Known t.1 t.2
    (reach env policy now events).store :=
  (sound.run (.idle trivial) events (LockedRuns.commits_of_forall (fun _ _ _ ↦ trivial) _ _)).known

theorem reach_concat (env : PrivacyEnv) (policy : PrivacyPolicy) (now : Timestamp)
    (events : List (LockedRuns.Event Request)) (event : LockedRuns.Event Request) :
    reach env policy now (events ++ [event]) =
      exec (protocol env).step (reach env policy now events) event := by
  rw [reach, run_append]
  rfl

/-- **A marked customer buys nothing more.** -/
theorem exec_salesOf (hknown : ∀ t ∈ st.inFlight, Known t.1 t.2 st.store)
    (hmarked : (exec (protocol env).step st event).store.Marked customerId) :
    (exec (protocol env).step st event).store.salesOf customerId = st.store.salesOf customerId := by
  rcases @exec_store env st event with h | ⟨n, request, place, -, hplace, h⟩
  · rw [h]
  · rw [h] at hmarked ⊢
    exact (hknown _ (mem_of_getElem? hplace)).salesOf_eq hmarked

theorem exec_retained {date : Option Timestamp}
    (hretained : Retained st.store.customers customerId date) :
    Retained (exec (protocol env).step st event).store.customers customerId date := by
  rcases @exec_store env st event with h | ⟨n, request, place, -, -, h⟩
  · rw [h]
    exact hretained
  · rw [h]
    cases place with
    | reached p => exact (turn_writes p).customers.retained hretained
    | selling sales debts => exact hretained

/-- **No sale follows an anonymisation, and its date covers the sales it has seen**, with the days
in force then. -/
theorem retention_covers (env : PrivacyEnv) (policy : PrivacyPolicy) (now : Timestamp)
    (events : List (LockedRuns.Event Request)) :
    ∀ row ∈ (reach env policy now events).store.customers.rows, row.privacyStatus = .ANONYMIZED →
      ∃ before event after, events = before ++ event :: after ∧
        ¬(reach env policy now before).store.Marked row.id ∧
        (reach env policy now (before ++ [event])).store.Marked row.id ∧
        (reach env policy now events).store.salesOf row.id =
          (reach env policy now before).store.salesOf row.id ∧
        ((protocol env).Commits (SeesSales env) (.idle (CustomerStore.init policy now)) events →
          (reach env policy now events).store.Reaches row.id
            (reach env policy now before).store.policy row.privacyRetentionUntil) := by
  induction events using reverseRecOn with
  | nil => exact fun row hrow ↦ absurd hrow not_mem_nil
  | append_singleton events event ih =>
    intro row hrow hmarked
    have hfind : (reach env policy now (events ++ [event])).store.customers.find? row.id =
        some row := Table.find?_key_of_mem hrow
    have hafter : (reach env policy now (events ++ [event])).store.Marked row.id :=
      ⟨row, hfind, hmarked⟩
    have hsales : (reach env policy now (events ++ [event])).store.salesOf row.id =
        (reach env policy now events).store.salesOf row.id := by
      rw [reach_concat] at hafter ⊢
      exact exec_salesOf (known_reach env policy now events) hafter
    by_cases hbefore : (reach env policy now events).store.Marked row.id
    · obtain ⟨old, hold, hstatus⟩ := hbefore
      have hid : old.id = row.id := Table.key_of_find? hold
      obtain ⟨before, first, after, rfl, hnone, hsome, hsame, hreaches⟩ :=
        ih old (Table.mem_of_find? hold) hstatus
      rw [hid] at hnone hsome hsame hreaches
      -- The date of the row is still that of the step which has anonymised it.
      have hretained : Retained (reach env policy now (before ++ first :: after)).store.customers
          row.id old.privacyRetentionUntil := ⟨old, hold, hstatus, rfl⟩
      obtain ⟨later, hlater, -, hdate⟩ := @exec_retained env _ _ event _ hretained
      rw [← reach_concat, Option.mem_def, hfind, Option.some.injEq] at hlater
      rw [← hlater] at hdate
      refine ⟨before, first, after ++ [event], by rw [append_assoc]; rfl, hnone, hsome,
        hsales.trans hsame, fun hC ↦ ?_⟩
      rw [CustomerStore.Reaches, hsales, hdate]
      exact hreaches (LockedRuns.commits_append.mp hC).1
    · refine ⟨events, event, [], rfl, hbefore, hafter, hsales, fun hC ↦ ?_⟩
      rw [CustomerStore.Reaches, hsales]
      rw [reach_concat] at hrow hafter
      rcases @exec_store env (reach env policy now events) event with
        h | ⟨n, request, place, rfl, hplace, h⟩
      · rw [h] at hafter
        exact absurd hafter hbefore
      · rw [h] at hrow
        exact Halfway.reaches (LockedRuns.commits_last hC hplace)
          (Table.find?_key_of_mem hrow) hmarked hbefore

/-! ### Runs of one customer -/

def soldAndAnonymized : List (LockedRuns.Event Request) :=
  LockedRuns.alone (.create 1 sampleCustomer) ++
    LockedRuns.alone (.sale ⟨1, 100, textOf "MXN", none⟩) ++
    LockedRuns.alone (.anonymize (sampleInput 11 "anonymize-1"))

theorem retention_covers_sold : ∃ before event after, soldAndAnonymized = before ++ event :: after ∧
      (reach sampleEnv samplePolicy 0 soldAndAnonymized).store.Reaches 1
        (reach sampleEnv samplePolicy 0 before).store.policy (some (365 * dayLength)) := by
  obtain ⟨before, event, after, hsplit, -, -, -, hreaches⟩ :=
    retention_covers sampleEnv samplePolicy 0 soldAndAnonymized
      ((sampleCustomer.values sampleEnv (defaultCustomer 1)).anonymize sampleEnv
        (some (365 * dayLength)) 0)
      (by decide +kernel) rfl
  exact ⟨before, event, after, hsplit, hreaches (by decide +kernel)⟩

/-- The request has looked at its key, and the sale commits before the customer is locked. -/
theorem unseen_sale :
    let st := reach sampleEnv samplePolicy 0 (LockedRuns.alone (.create 1 sampleCustomer) ++
      [.start (.anonymize (sampleInput 11 "anonymize-1")),
        .start (.sale ⟨1, 100, textOf "MXN", none⟩), .finish 1, .finish 0])
    (∃ row ∈ st.store.customers.find? 1,
      row.privacyStatus = .ANONYMIZED ∧ row.privacyRetentionUntil = none) ∧
      st.inFlight.length = 0 ∧ (st.store.salesOf 1).map CustomerSale.createdAt = [0] := by
  decide +kernel

end UInventario.Customers
