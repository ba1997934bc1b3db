import UInventario.Foundations.Outcome

/-!
# Sagas

A request that takes several transactions, and what it does between them with their answers. `Saga`
is such a request as a program: it is done, or its next turn is a transaction, and what that finds
decides how the program goes on. A program is written with `transaction`, `look` and `check`, in
`do` notation, and `rescue` is a `catch` block.

`step` is one event: a request comes in, or a saga in flight takes its next turn; `Outcome.run` runs
a list of events, and `alone` a saga with nothing between its turns.

`Law` is what the sagas of a system may rely on and what each of their transactions has to keep: an
invariant of the store, and a relation between an earlier and a later store. `Safe` says that a saga
keeps the law however the others go on, with a rule for each way a program is put together. Sagas
that are safe keep the law together (`Law.Good.run`, `Law.Good.along`).
-/

namespace Sagas

open Outcome List

/-- **A program of several transactions.** -/
inductive Saga (σ ε α : Type) where
  /-- The answer to the request. -/
  | done (result : Except ε α)
  /-- A transaction: the store it leaves, and how the program goes on, decided by the store it
  finds. -/
  | turn (commit : σ → σ) (rest : σ → Saga σ ε α)

variable {σ ε α β : Type} {t : σ → Except ε (σ × α)} {x : Saga σ ε α} {k : α → Saga σ ε β}

namespace Saga

/-! ### Programs -/

/-- Goes on with the answer of a saga. -/
protected def bind : Saga σ ε α → (α → Saga σ ε β) → Saga σ ε β
  | done (.ok a), k => k a
  | done (.error e), _ => done (.error e)
  | turn commit rest, k => turn commit fun s ↦ (rest s).bind k

instance : Monad (Saga σ ε) where
  pure a := done (.ok a)
  bind := Saga.bind

/-- `catch`: goes on with the error of a saga. -/
def rescue : Saga σ ε α → (ε → Saga σ ε α) → Saga σ ε α
  | done (.ok a), _ => done (.ok a)
  | done (.error e), handler => handler e
  | turn commit rest, handler => turn commit fun s ↦ (rest s).rescue handler

/-- A check of what is known already. -/
def check (x : Except ε α) : Saga σ ε α :=
  done x

/-- One transaction; one that throws leaves the store as it was. -/
def transaction (t : σ → Except ε (σ × α)) : Saga σ ε α :=
  turn
    (fun s ↦ match t s with
      | .ok r => r.1
      | .error _ => s)
    (fun s ↦ done ((t s).map Prod.snd))

/-- A query. -/
def look (f : σ → Except ε α) : Saga σ ε α :=
  turn id fun s ↦ done (f s)

/-- A transaction that answers nothing. -/
def commit (t : σ → Except ε σ) : Saga σ ε Unit :=
  transaction fun s ↦ (t s).map fun s' ↦ (s', ())

/-! ### A saga on its own -/

/-- Runs a saga with nothing between its turns. -/
def alone : Saga σ ε α → σ → σ × Except ε α
  | done result, s => (s, result)
  | turn commit rest, s => (rest s).alone (commit s)

@[simp] theorem alone_pure (a : α) (s : σ) : (pure a : Saga σ ε α).alone s = (s, .ok a) := rfl

theorem alone_bind (x : Saga σ ε α) (k : α → Saga σ ε β) (s : σ) :
    (x >>= k).alone s = match (x.alone s).2 with
      | .ok a => (k a).alone (x.alone s).1
      | .error e => ((x.alone s).1, .error e) := by
  induction x generalizing s with
  | done result => cases result <;> rfl
  | turn commit rest ih => exact ih s (commit s)

variable {s : σ} {e : ε} {a : α} {s' : σ}

theorem alone_bind_ok (h : x.alone s = (s', .ok a)) : (x >>= k).alone s = (k a).alone s' := by
  rw [alone_bind, h]

theorem alone_bind_error (h : x.alone s = (s', .error e)) : (x >>= k).alone s = (s', .error e) := by
  rw [alone_bind, h]

theorem alone_check_bind (x : Except ε α) (k : α → Saga σ ε β) (s : σ) :
    (check x >>= k).alone s = match x with
      | .ok a => (k a).alone s
      | .error e => (s, .error e) :=
  alone_bind (check x) k s

theorem alone_look_bind (f : σ → Except ε α) (k : α → Saga σ ε β) (s : σ) :
    (look f >>= k).alone s = match f s with
      | .ok a => (k a).alone s
      | .error e => (s, .error e) :=
  alone_bind (look f) k s

theorem alone_rescue (x : Saga σ ε α) (handler : ε → Saga σ ε α) (s : σ) :
    (x.rescue handler).alone s = match (x.alone s).2 with
      | .ok a => ((x.alone s).1, .ok a)
      | .error e => (handler e).alone (x.alone s).1 := by
  induction x generalizing s with
  | done result => cases result <;> rfl
  | turn commit rest ih => exact ih s (commit s)

theorem alone_transaction_ok (h : t s = .ok (s', a)) : (transaction t).alone s = (s', .ok a) := by
  show ((match t s with | .ok r => r.1 | .error _ => s), (t s).map Prod.snd) = _
  rw [h]
  rfl

theorem alone_transaction_error (h : t s = .error e) : (transaction t).alone s = (s, .error e) := by
  show ((match t s with | .ok r => r.1 | .error _ => s), (t s).map Prod.snd) = _
  rw [h]
  rfl

theorem alone_commit_ok {t : σ → Except ε σ} (h : t s = .ok s') :
    (commit t).alone s = (s', .ok ()) :=
  alone_transaction_ok (by rw [h]; rfl)

theorem alone_commit_error {t : σ → Except ε σ} (h : t s = .error e) :
    (commit t).alone s = (s, .error e) :=
  alone_transaction_error (by rw [h]; rfl)

/-- The next turn of a saga. -/
def next : Saga σ ε α → σ → σ × Saga σ ε α
  | done result, s => (s, done result)
  | turn commit rest, s => (commit s, rest s)

end Saga

/-! ### Systems -/

/-- The committed store and the sagas that have come in, with what is left of them. -/
structure State (σ ε : Type) where
  store : σ
  sagas : List (Saga σ ε Unit)

/-- The store with no saga yet. -/
def State.idle (s : σ) : State σ ε := ⟨s, []⟩

/-- One event: a request comes in, or a saga takes its next turn. -/
inductive Event (ι : Type)
  | start (request : ι)
  | turn (position : ℕ)

variable {ι : Type}

/-- One event of the system. -/
def step (program : ι → Saga σ ε Unit) (st : State σ ε) : Event ι → Except Unit (State σ ε)
  | .start request => pure { st with sagas := st.sagas ++ [program request] }
  | .turn n => do
    let saga ← demand st.sagas[n]? ()
    pure { store := (saga.next st.store).1, sagas := st.sagas.set n (saga.next st.store).2 }

/-- **Every step of the run meets the condition** on the store before and after it. -/
def Steps (program : ι → Saga σ ε Unit) (C : σ → σ → Prop) (st : State σ ε)
    (events : List (Event ι)) : Prop :=
  Along (step program) (fun st event ↦
    ∀ st', step program st event = .ok st' → C st.store st'.store) st events

instance decidableStep (program : ι → Saga σ ε Unit) (C : σ → σ → Prop)
    [∀ s s', Decidable (C s s')] (st : State σ ε) (event : Event ι) :
    Decidable (∀ st', step program st event = .ok st' → C st.store st'.store) :=
  match step program st event with
  | .ok st' => decidable_of_iff (C st.store st'.store)
      ⟨fun h _ heq ↦ Except.ok.inj heq ▸ h, fun h ↦ h st' rfl⟩
  | .error _ => .isTrue fun _ heq ↦ nomatch heq

instance decidableSteps (program : ι → Saga σ ε Unit) (C : σ → σ → Prop)
    [∀ s s', Decidable (C s s')] (st : State σ ε) (events : List (Event ι)) :
    Decidable (Steps program C st events) :=
  inferInstanceAs (Decidable (Along (step program) _ st events))

/-! ### The law -/

/-- **What the transactions of a system keep.** -/
structure Law (σ : Type) where
  /-- The invariant of the store. -/
  Inv : σ → Prop
  /-- What the store may become, in one step or in many. -/
  Step : σ → σ → Prop
  refl : ∀ s, Step s s
  trans : ∀ {s s' s''}, Step s s' → Step s' s'' → Step s s''

namespace Law

variable (L : Law σ)

/-- A transaction that keeps the law. -/
def Moves (s s' : σ) : Prop :=
  L.Step s s' ∧ L.Inv s'

/-- **A saga keeps the law** from the store `s` on, and its answer meets `post`, whatever the law
lets happen between its turns. -/
def Safe (post : Except ε α → σ → Prop) : Saga σ ε α → σ → Prop
  | .done result, s => post result s
  | .turn commit rest, s => ∀ s', L.Inv s' → L.Step s s' →
      L.Moves s' (commit s') ∧ Safe post (rest s') (commit s')

variable {L} {post : Except ε α → σ → Prop} {s s' : σ}

/-- What holds of the answer of every saga. -/
def Anything (_ : Except ε α) (_ : σ) : Prop := True

theorem Moves.refl (h : L.Inv s) : L.Moves s s :=
  ⟨L.refl s, h⟩

variable {saga : Saga σ ε α}

theorem Safe.later (h : L.Safe Anything saga s) (hstep : L.Step s s') :
    L.Safe Anything saga s' := by
  cases saga with
  | done result => trivial
  | turn commit rest => exact fun s'' hinv hstep' ↦ h s'' hinv (L.trans hstep hstep')

/-- Where the answer is looked at, the steps in between are known to keep the law. -/
theorem Safe.assume {s₀ : σ} (hstep : L.Step s₀ s)
    (h : L.Safe (fun result s' ↦ L.Step s₀ s' → post result s') saga s) : L.Safe post saga s := by
  induction saga generalizing s with
  | done result => exact h hstep
  | turn commit rest ih =>
    intro s' hinv hstep'
    obtain ⟨hmoves, hrest⟩ := h s' hinv hstep'
    exact ⟨hmoves, ih s' (L.trans (L.trans hstep hstep') hmoves.1) hrest⟩

theorem Safe.of_anything (h : L.Safe Anything saga s) (hpost : ∀ result s, post result s) :
    L.Safe post saga s := by
  induction saga generalizing s with
  | done result => exact hpost result s
  | turn commit rest ih =>
    intro s' hinv hstep
    exact ⟨(h s' hinv hstep).1, ih s' (h s' hinv hstep).2⟩

theorem Safe.bind {post : Except ε β → σ → Prop} (h : L.Safe (fun result s ↦ match result with
      | .ok a => L.Safe post (k a) s
      | .error e => post (.error e) s) x s) : L.Safe post (x >>= k) s := by
  induction x generalizing s with
  | done result =>
    cases result with
    | ok a | error e => exact h
  | turn commit rest ih =>
    intro s' hinv hstep
    exact ⟨(h s' hinv hstep).1, ih s' (h s' hinv hstep).2⟩

theorem Safe.rescue {handler : ε → Saga σ ε α} (h : L.Safe (fun result s ↦ match result with
      | .ok a => post (.ok a) s
      | .error e => L.Safe post (handler e) s) x s) : L.Safe post (x.rescue handler) s := by
  induction x generalizing s with
  | done result =>
    cases result with
    | ok a | error e => exact h
  | turn commit rest ih =>
    intro s' hinv hstep
    exact ⟨(h s' hinv hstep).1, ih s' (h s' hinv hstep).2⟩

theorem Safe.transaction (hok : ∀ s' s'' a, L.Inv s' → L.Step s s' → t s' = .ok (s'', a) →
      L.Moves s' s'' ∧ post (.ok a) s'')
    (herror : ∀ s' e, L.Inv s' → L.Step s s' → t s' = .error e → post (.error e) s') :
    L.Safe post (Saga.transaction t) s := by
  intro s' hinv hstep
  show L.Moves s' (match t s' with | .ok r => r.1 | .error _ => s') ∧
    post ((t s').map Prod.snd) (match t s' with | .ok r => r.1 | .error _ => s')
  cases h : t s' with
  | ok r => exact hok s' r.1 r.2 hinv hstep h
  | error e => exact ⟨.refl hinv, herror s' e hinv hstep h⟩

theorem Safe.look {f : σ → Except ε α}
    (h : ∀ s', L.Inv s' → L.Step s s' → post (f s') s') : L.Safe post (Saga.look f) s :=
  fun s' hinv hstep ↦ ⟨.refl hinv, h s' hinv hstep⟩

/-- A transaction at the end of a program, or one whose answer does not matter. -/
theorem Safe.commit {t : σ → Except ε σ} {post : Except ε Unit → σ → Prop}
    (hok : ∀ s' s'', L.Inv s' → L.Step s s' → t s' = .ok s'' → L.Moves s' s'' ∧ post (.ok ()) s'')
    (herror : ∀ s' e, L.Inv s' → L.Step s s' → t s' = .error e → post (.error e) s') :
    L.Safe post (Saga.commit t) s := by
  refine Safe.transaction (fun s' s'' _ hinv hstep h ↦ ?_) fun s' e hinv hstep h ↦ ?_
  · change (t s').map _ = _ at h
    cases ht : t s' with
    | ok s₁ =>
      rw [ht] at h
      cases h
      exact hok s' s'' hinv hstep ht
    | error e =>
      rw [ht] at h
      cases h
  · cases ht : t s' with
    | ok s₁ =>
      rw [ht] at h
      cases h
    | error e' =>
      rw [ht] at h
      cases h
      exact herror s' e hinv hstep ht

/-! ### Runs -/

/-- What a run maintains. -/
structure Good (L : Law σ) (st : State σ ε) : Prop where
  inv : L.Inv st.store
  safe : ∀ saga ∈ st.sagas, L.Safe Anything saga st.store

theorem Good.idle (h : L.Inv s) : L.Good (State.idle s : State σ ε) :=
  ⟨h, forall_mem_nil _⟩

variable {program : ι → Saga σ ε Unit} {st st' : State σ ε}

private theorem moves_next (hinv : L.Inv s) (h : L.Safe Anything saga s) :
    L.Moves s (saga.next s).1 ∧ L.Safe Anything (saga.next s).2 (saga.next s).1 := by
  cases saga with
  | done result => exact ⟨.refl hinv, h⟩
  | turn commit rest => exact h s hinv (L.refl s)

variable (hprogram : ∀ request s, L.Inv s → L.Safe Anything (program request) s)
include hprogram

/-- **One event** of a system whose programs are safe keeps the law. -/
theorem Good.step (hgood : L.Good st) {event : Event ι}
    (h : Sagas.step program st event = .ok st') : L.Moves st.store st'.store ∧ L.Good st' := by
  cases event with
  | start request =>
    rw [Sagas.step, pure_eq_ok] at h
    subst h
    refine ⟨.refl hgood.inv, hgood.inv, fun saga hmem ↦ ?_⟩
    rcases List.mem_append.mp hmem with hmem | hmem
    · exact hgood.safe saga hmem
    · rw [mem_singleton] at hmem
      subst hmem
      exact hprogram request st.store hgood.inv
  | turn n =>
    simp only [Sagas.step, eq_ok] at h
    obtain ⟨saga, hsaga, rfl⟩ := h
    obtain ⟨hmoves, hsafe⟩ := moves_next hgood.inv (hgood.safe saga (mem_of_getElem? hsaga))
    refine ⟨hmoves, hmoves.2, fun other hmem ↦ ?_⟩
    rcases mem_or_eq_of_mem_set hmem with hmem | rfl
    · exact (hgood.safe other hmem).later hmoves.1
    · exact hsafe

/-- **The rule for runs.** -/
theorem Good.run (hgood : L.Good st) (events : List (Event ι)) :
    L.Good (Outcome.run (Sagas.step program) st events) :=
  run_induct (fun _ _ _ hgood h ↦ (hgood.step hprogram h).2) hgood events

theorem Good.reaches (hgood : L.Good st) (events : List (Event ι)) :
    L.Step st.store (Outcome.run (Sagas.step program) st events).store := by
  have hrun : L.Good (Outcome.run (Sagas.step program) st events) ∧
      L.Step st.store (Outcome.run (Sagas.step program) st events).store :=
    run_induct (P := fun st' ↦ L.Good st' ∧ L.Step st.store st'.store)
      (fun _ _ _ h hstep ↦
        ⟨(h.1.step hprogram hstep).2, L.trans h.2 (h.1.step hprogram hstep).1.1⟩)
      ⟨hgood, L.refl st.store⟩ events
  exact hrun.2

/-- **A condition on the steps of a run** that keeps a further invariant. -/
theorem Good.along {C D : σ → σ → Prop} {J : σ → Prop}
    (hJ : ∀ {s s'}, L.Inv s → L.Moves s s' → J s → C s s' → J s' ∧ D s s')
    (hgood : L.Good st) (hst : J st.store) (events : List (Event ι))
    (hC : Steps program C st events) : Steps program D st events :=
  along_induct (P := fun st ↦ L.Good st ∧ J st.store)
    (fun _ _ h hC st' hstep ↦ (hJ h.1.inv (h.1.step hprogram hstep).1 h.2 (hC st' hstep)).2)
    (fun _ _ st' h hC hstep ↦ ⟨(h.1.step hprogram hstep).2,
      (hJ h.1.inv (h.1.step hprogram hstep).1 h.2 (hC st' hstep)).1⟩) ⟨hgood, hst⟩ events hC

end Law

end Sagas
