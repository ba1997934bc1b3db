import Mathlib.Data.List.Forall2

/-!
# Transactions that may fail

A database transaction is a function into `Except ε`: it either throws, and then leaves nothing
behind, or returns the new store.

* `ensure` throws unless a condition holds, `demand` throws unless a row was found; with the
  inversion lemma for `>>=`, a successful `do` block falls apart into its steps.
* A loop is `foldlM`. In `foldlM_induct` the invariant may speak about the elements still to
  come. `mapM_eq_ok` relates a list to the results of a `List.mapM`.
* `exec` runs one event and keeps the old state when it fails, `run` a list of them. `run_induct` is
  the rule for runs, `run_induct_along` that for runs whose every step meets a condition.
-/

universe u v w

namespace Outcome

open List

variable {ε : Type u} {σ : Type v} {α β : Type v}

/-- Throws `e` unless `c` holds. -/
def ensure (c : Prop) [Decidable c] (e : ε) : Except ε PUnit :=
  if c then .ok ⟨⟩ else .error e

/-- Throws `e` unless there is a value. -/
def demand (o : Option α) (e : ε) : Except ε α :=
  match o with
  | some a => .ok a
  | none => .error e

variable {x : Except ε α} {f : α → Except ε β} {c : Prop} {a : α} {o : Option α} {b : β}

theorem bind_eq_ok : (x >>= f) = .ok b ↔ ∃ a, x = .ok a ∧ f a = .ok b := by
  cases x with
  | error e | ok a => simp [bind, Except.bind]

@[simp] theorem ok_bind (a : α) (f : α → Except ε β) : (Except.ok a >>= f : Except ε β) = f a := rfl

@[simp] theorem error_bind (e : ε) (f : α → Except ε β) :
    (Except.error e >>= f : Except ε β) = .error e := rfl

@[simp] theorem pure_eq_ok {b : α} : (pure a : Except ε α) = .ok b ↔ a = b := by
  simp [pure, Except.pure]

@[simp] theorem ensure_eq_ok [Decidable c] {e : ε} {x : PUnit.{v + 1}} :
    ensure c e = .ok x ↔ c := by
  by_cases hc : c <;> simp [ensure, hc]

@[simp] theorem demand_eq_ok {e : ε} : demand o e = .ok a ↔ o = some a := by
  cases o <;> simp [demand]

/-- **What a transaction that returns has done**: the rules that take a `do` block apart. -/
theorem eq_ok : (∀ {ε : Type u} {α β : Type v} {x : Except ε α} {f : α → Except ε β} {b : β},
      (x >>= f) = .ok b ↔ ∃ a, x = .ok a ∧ f a = .ok b) ∧
    (∀ {ε : Type u} {α : Type v} {a b : α}, (pure a : Except ε α) = .ok b ↔ a = b) ∧
    (∀ {ε : Type u} {c : Prop} [Decidable c] {e : ε} {x : PUnit.{v + 1}},
      ensure c e = .ok x ↔ c) ∧
    (∀ {ε : Type u} {α : Type v} {o : Option α} {e : ε} {a : α},
      demand o e = .ok a ↔ o = some a) :=
  ⟨bind_eq_ok, pure_eq_ok, ensure_eq_ok, demand_eq_ok⟩

theorem mapError_eq_ok {ε' : Type u} {f : ε → ε'} : x.mapError f = .ok a ↔ x = .ok a := by
  cases x with
  | error e | ok b => simp [Except.mapError]

theorem map_eq_ok {g : α → β} : x.map g = .ok b ↔ ∃ a, x = .ok a ∧ g a = b := by
  cases x with
  | error e | ok a => simp [Except.map]

theorem eq_ok_get (h : x.toOption.isSome = true) : x = .ok (x.toOption.get h) := by
  cases x with
  | error e => simp [Except.toOption] at h
  | ok a => simp [Except.toOption]

/-- A transaction that succeeds has its value, whatever stands in for one that fails. -/
theorem eq_ok_getD (h : x.toOption.isSome = true) (d : α) : x = .ok (x.toOption.getD d) := by
  cases x with
  | error e => simp [Except.toOption] at h
  | ok a => simp [Except.toOption]

/-! ### Errors that cannot happen -/

/-- `x` does not throw `e`. -/
def Avoids (x : Except ε α) (e : ε) : Prop :=
  x ≠ .error e

variable {e e' : ε}

theorem avoids_ok (a : α) : Avoids (Except.ok a) e := by
  simp [Avoids]

theorem avoids_pure (a : α) : Avoids (pure a : Except ε α) e :=
  avoids_ok a

theorem avoids_error (h : e' ≠ e) : Avoids (Except.error e' : Except ε α) e := by
  simpa [Avoids] using h

instance decidableAvoids [DecidableEq ε] : (x : Except ε α) → (e : ε) → Decidable (Avoids x e)
  | .ok a, _ => .isTrue (avoids_ok a)
  | .error e', e => decidable_of_iff (e' ≠ e)
      ⟨avoids_error, fun h heq ↦ h (congrArg Except.error heq)⟩

theorem avoids_ensure [Decidable c] (h : e' ≠ e) : Avoids (ensure c e') e := by
  rw [Avoids, ensure]
  split
  · simp
  · simpa using h

theorem avoids_ensure_of [Decidable c] (h : c) : Avoids (ensure c e') e := by
  rw [ensure, if_pos h]
  exact avoids_ok _

theorem avoids_demand (h : e' ≠ e) : Avoids (demand o e') e := by
  cases o with
  | none => exact avoids_error h
  | some a => exact avoids_ok a

theorem avoids_bind (hx : Avoids x e) (hf : ∀ a, x = .ok a → Avoids (f a) e) :
    Avoids (x >>= f) e := by
  cases x with
  | error e' => exact fun h ↦ hx (by simpa [bind, Except.bind] using h)
  | ok a => exact hf a rfl

theorem avoids_map {f : α → β} (hx : Avoids x e) : Avoids (x >>= fun a ↦ pure (f a)) e :=
  avoids_bind hx fun a _ ↦ avoids_pure (f a)

theorem avoids_ensure_bind [Decidable c] {f : PUnit → Except ε β} (h : e' ≠ e)
    (hf : c → Avoids (f ⟨⟩) e) : Avoids (ensure c e' >>= f) e :=
  avoids_bind (avoids_ensure h) fun _ hc ↦ hf (ensure_eq_ok.mp hc)

theorem avoids_ite [Decidable c] {y : Except ε α} (hx : Avoids x e) (hy : Avoids y e) :
    Avoids (if c then x else y) e := by
  split
  · exact hx
  · exact hy

theorem avoids_foldlM {f : σ → α → Except ε σ} (hf : ∀ s a, Avoids (f s a) e) :
    ∀ (l : List α) (s : σ), Avoids (l.foldlM f s) e := by
  intro l
  induction l with
  | nil => exact fun s ↦ avoids_pure s
  | cons a l ih =>
    intro s
    exact avoids_bind (hf s a) fun s' _ ↦ ih s'

theorem avoids_mapM (hf : ∀ a, Avoids (f a) e) (l : List α) : Avoids (l.mapM f) e := by
  induction l with
  | nil => exact avoids_pure []
  | cons a l ih =>
    rw [mapM_cons]
    exact avoids_bind (hf a) fun _ _ ↦ avoids_bind ih fun _ _ ↦ avoids_pure _

/-! ### Loops -/

variable {l : List α} {P : σ → Prop} {s s' : σ} {l' : List β}

theorem foldlM_cons_eq_ok {f : σ → α → Except ε σ} :
    (a :: l).foldlM f s = .ok s' ↔ ∃ s₁, f s a = .ok s₁ ∧ l.foldlM f s₁ = .ok s' := by
  rw [foldlM_cons, bind_eq_ok]

@[simp] theorem foldlM_nil_eq_ok {f : σ → α → Except ε σ} :
    ([] : List α).foldlM f s = .ok s' ↔ s = s' := by
  rw [foldlM_nil, pure_eq_ok]

/-- **The loop rule.** The invariant is about the elements to come and the current state. -/
theorem foldlM_induct {f : σ → α → Except ε σ} {P : List α → σ → Prop}
    (hstep : ∀ a l s s', P (a :: l) s → f s a = .ok s' → P l s') :
    ∀ {l : List α} {s s' : σ}, P l s → l.foldlM f s = .ok s' → P [] s' := by
  intro l
  induction l with
  | nil =>
    intro s s' hP h
    rw [foldlM_nil_eq_ok] at h
    exact h ▸ hP
  | cons a l ih =>
    intro s s' hP h
    obtain ⟨s₁, h₁, h⟩ := foldlM_cons_eq_ok.mp h
    exact ih (hstep a l s s₁ hP h₁) h

/-- The loop rule for an invariant of the state, with the element known to come from the list. -/
theorem foldlM_invariant {f : σ → α → Except ε σ}
    (hstep : ∀ a ∈ l, ∀ s s', P s → f s a = .ok s' → P s') (hP : P s)
    (h : l.foldlM f s = .ok s') : P s' := by
  have := foldlM_induct (f := f) (P := fun rest s ↦ (∀ a ∈ rest, a ∈ l) ∧ P s)
    (fun a rest s s' ⟨hsub, hP⟩ hf ↦
      ⟨fun b hb ↦ hsub b (mem_cons_of_mem a hb),
        hstep a (hsub a mem_cons_self) s s' hP hf⟩)
    ⟨fun _ ha ↦ ha, hP⟩ h
  exact this.2

theorem mapM_eq_ok :
    ∀ {l : List α} {l' : List β}, l.mapM f = .ok l' →
      List.Forall₂ (fun a b ↦ f a = .ok b) l l' := by
  intro l
  induction l with
  | nil =>
    intro l' h
    rw [mapM_nil, pure_eq_ok] at h
    exact h ▸ .nil
  | cons a l ih =>
    intro l' h
    simp only [mapM_cons, bind_eq_ok, pure_eq_ok] at h
    obtain ⟨b, hb, bs, hbs, rfl⟩ := h
    exact .cons hb (ih hbs)

theorem exists_of_mem_mapM (h : l.mapM f = .ok l') (hb : b ∈ l') : ∃ a ∈ l, f a = .ok b := by
  have hall := mapM_eq_ok h
  clear h
  induction hall with
  | nil => cases hb
  | cons hhead _ ih =>
    rcases mem_cons.mp hb with rfl | hb
    · exact ⟨_, mem_cons_self, hhead⟩
    · obtain ⟨a, ha, hab⟩ := ih hb
      exact ⟨a, mem_cons_of_mem _ ha, hab⟩

theorem mapM_of_forall {g : α → β} (h : ∀ a ∈ l, f a = .ok (g a)) : l.mapM f = .ok (l.map g) := by
  induction l with
  | nil => rfl
  | cons a l ih =>
    rw [mapM_cons, h a mem_cons_self,
      ih fun b hb ↦ h b (mem_cons_of_mem _ hb)]
    rfl

theorem exists_mem_mapM (h : l.mapM f = .ok l') (ha : a ∈ l) : ∃ b ∈ l', f a = .ok b := by
  have hall := mapM_eq_ok h
  clear h
  induction hall with
  | nil => cases ha
  | cons hhead _ ih =>
    rcases mem_cons.mp ha with rfl | ha
    · exact ⟨_, mem_cons_self, hhead⟩
    · obtain ⟨b, hb, hab⟩ := ih ha
      exact ⟨b, mem_cons_of_mem _ hb, hab⟩

theorem map_mapM {γ : Type w} {g : α → γ} {g' : β → γ} (hf : ∀ a b, f a = .ok b → g' b = g a)
    (h : l.mapM f = .ok l') : l'.map g' = l.map g := by
  have hall := mapM_eq_ok h
  clear h
  induction hall with
  | nil => rfl
  | cons hhead _ ih => rw [map_cons, map_cons, ih, hf _ _ hhead]

/-! ### Runs -/

section Runs

variable {ι : Type w} (step : σ → ι → Except ε σ)

/-- One event: a failed one leaves the state as it was. -/
def exec (s : σ) (i : ι) : σ :=
  match step s i with
  | .ok s' => s'
  | .error _ => s

/-- A run of events. -/
def run (s : σ) (is : List ι) : σ :=
  is.foldl (exec step) s

/-- `Along step C s is`: the condition `C` holds of every state and event of the run. -/
def Along (C : σ → ι → Prop) : σ → List ι → Prop
  | _, [] => True
  | s, i :: is => C s i ∧ Along C (exec step s i) is

/-- A decidable condition can be checked along a concrete run. -/
instance decidableAlong (C : σ → ι → Prop) [∀ s i, Decidable (C s i)] :
    (s : σ) → (is : List ι) → Decidable (Along step C s is)
  | _, [] => .isTrue trivial
  | s, i :: is =>
    have := decidableAlong C (exec step s i) is
    inferInstanceAs (Decidable (C s i ∧ Along step C (exec step s i) is))

@[simp] theorem run_nil (s : σ) : run step s [] = s := rfl

@[simp] theorem run_cons (s : σ) (i : ι) (is : List ι) :
    run step s (i :: is) = run step (exec step s i) is := rfl

theorem run_append (s : σ) (is js : List ι) : run step s (is ++ js) = run step (run step s is) js :=
  foldl_append

variable {step} {C : σ → ι → Prop} {i : ι}

theorem exec_of_ok (h : step s i = .ok s') : exec step s i = s' := by
  rw [exec, h]

/-- What holds of the old state and of every successful outcome holds after the event. -/
theorem exec_induct (hs : P s) (hstep : ∀ s', step s i = .ok s' → P s') : P (exec step s i) := by
  cases h : step s i with
  | ok s' => exact exec_of_ok h ▸ hstep s' h
  | error e =>
    rw [exec, h]
    exact hs

/-- **The run rule.** What every successful event keeps holds after every run. -/
theorem run_induct (hstep : ∀ s i s', P s → step s i = .ok s' → P s') (hs : P s) (is : List ι) : P
    (run step s is) := by
  induction is generalizing s with
  | nil => exact hs
  | cons i is ih => exact ih (exec_induct hs fun s' h ↦ hstep s i s' hs h)

/-- The run rule for runs whose every step meets a condition. -/
theorem run_induct_along
    (hstep : ∀ s i s', P s → C s i → step s i = .ok s' → P s') (hs : P s) (is : List ι)
    (hC : Along step C s is) : P (run step s is) := by
  induction is generalizing s with
  | nil => exact hs
  | cons i is ih => exact ih (exec_induct hs fun s' h ↦ hstep s i s' hs hC.1 h) hC.2

/-- What a step does under a condition that keeps `P`, every step of a run does. -/
theorem along_induct {D : σ → ι → Prop} (hD : ∀ s i, P s → C s i → D s i)
    (hP : ∀ s i s', P s → C s i → step s i = .ok s' → P s') (hs : P s) (is : List ι)
    (hC : Along step C s is) : Along step D s is := by
  induction is generalizing s with
  | nil => trivial
  | cons i is ih =>
    exact ⟨hD s i hs hC.1, ih (exec_induct hs fun s' h ↦ hP s i s' hs hC.1 h) hC.2⟩

theorem along_and {D : σ → ι → Prop} {is : List ι} (hC : Along step C s is)
    (hD : Along step D s is) : Along step (fun s i ↦ C s i ∧ D s i) s is := by
  induction is generalizing s with
  | nil => trivial
  | cons i is ih => exact ⟨⟨hC.1, hD.1⟩, ih hC.2 hD.2⟩

end Runs

end Outcome
