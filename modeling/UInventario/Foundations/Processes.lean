import UInventario.Foundations.Outcome

/-!
# Processes

Requests that run side by side over one store, when the place a request has reached is plain data:
`turn` says what a process at some place makes of the store and where it stands then. In a saga
(`Foundations.Sagas`) the rest of the program is a function; here a condition on a step of a run and
an invariant may speak about it.

`step` is one event: a request comes in, or one of the processes takes its next turn. A request that
is broken off is one that takes no further turn.

`Outline` is a proof outline for all processes together: an invariant of the state, an assertion for
every place, and what holds between any two processes. `Outline.Keeps` asks of a turn what it owes
to all of them, for the turns that meet a condition; from it come the rule for runs (`Keeps.run`)
and what every step of a run does (`Keeps.along`).
-/

universe u v w

namespace Processes

open Outcome List

/-- **How requests run.** -/
structure System (σ : Type u) (π : Type u) (ι : Type w) where
  /-- Where a request begins. -/
  start : ι → π
  /-- A turn: the store it leaves, and where the process stands then. -/
  turn : π → σ → σ × π

/-- The committed store and where the requests that have come in stand. -/
structure State (σ : Type u) (π : Type u) where
  store : σ
  processes : List π

variable {σ π : Type u} {ι : Type w}

/-- The store with no request yet. -/
def State.idle (s : σ) : State σ π := ⟨s, []⟩

/-- One event: a request comes in, or a process takes its next turn. -/
inductive Event (ι : Type w)
  | start (request : ι)
  | turn (position : ℕ)

/-- One event of the system. -/
def step (S : System σ π ι) (st : State σ π) : Event ι → Except PUnit.{w + 1} (State σ π)
  | .start request => pure { st with processes := st.processes ++ [S.start request] }
  | .turn n =>
    match st.processes[n]? with
    | none => .error ⟨⟩
    | some p => pure
        { store := (S.turn p st.store).1
          processes := st.processes.set n (S.turn p st.store).2 }

variable {S : System σ π ι} {st st' : State σ π} {event : Event ι} {l : List π}

theorem step_turn_eq_ok {n : ℕ} :
    step S st (.turn n) = .ok st' ↔ ∃ p, st.processes[n]? = some p ∧ st' =
      { store := (S.turn p st.store).1
        processes := st.processes.set n (S.turn p st.store).2 } := by
  rw [step]
  cases hp : st.processes[n]? with
  | none => simp
  | some p =>
    rw [pure_eq_ok, eq_comm]
    simp

/-- **A condition on the process whose turn it is.** -/
def AtTurn (C : State σ π → π → Prop) (st : State σ π) : Event ι → Prop
  | .start _ => True
  | .turn n => ∀ p ∈ st.processes[n]?, C st p

instance (C : State σ π → π → Prop) [∀ st p, Decidable (C st p)] (st : State σ π) :
    (event : Event ι) → Decidable (AtTurn C st event)
  | .start _ => .isTrue trivial
  | .turn n => inferInstanceAs (Decidable (∀ p ∈ st.processes[n]?, C st p))

/-- **What every turn keeps of the store** holds after a run. -/
theorem run_store_induct {P : σ → Prop} (hP : ∀ p s, P s → P (S.turn p s).1) (h : P st.store)
    (events : List (Event ι)) : P (run (step S) st events).store := by
  refine run_induct (P := fun st : State σ π ↦ P st.store)
    (fun st event st' hst hstep ↦ ?_) h events
  cases event with
  | start request =>
    cases hstep
    exact hst
  | turn n =>
    obtain ⟨p, -, rfl⟩ := step_turn_eq_ok.mp hstep
    exact hP p st.store hst

theorem getElem?_set_cases {n m : ℕ} {p q : π} (h : (l.set n p)[m]? = some q) :
    (m = n ∧ q = p) ∨ (m ≠ n ∧ l[m]? = some q) := by
  rw [getElem?_set] at h
  by_cases hnm : n = m
  · rw [if_pos hnm] at h
    split at h
    · exact .inl ⟨hnm.symm, (Option.some.inj h).symm⟩
    · exact absurd h nofun
  · rw [if_neg hnm] at h
    exact .inr ⟨fun h ↦ hnm h.symm, h⟩

theorem getElem?_concat_cases {m : ℕ} {p q : π} (h : (l ++ [p])[m]? = some q) :
    (m = l.length ∧ q = p) ∨ (m < l.length ∧ l[m]? = some q) := by
  rcases Nat.lt_or_ge m l.length with hm | hm
  · rw [getElem?_append_left hm] at h
    exact .inr ⟨hm, h⟩
  · rw [getElem?_append_right hm] at h
    have hlt := (List.getElem?_eq_some_iff.mp h).1
    rw [length_singleton] at hlt
    have hzero : m - l.length = 0 := by omega
    rw [hzero] at h
    exact .inl ⟨by omega, (Option.some.inj h).symm⟩

/-! ### Ends -/

/-- The event is a turn of the process in a position. -/
def Event.isTurnOf (n : ℕ) : Event ι → Bool
  | .start _ => false
  | .turn m => m == n

section

variable {μ : π → ℕ} {p : π} {n : ℕ} (hμ : ∀ p s, μ (S.turn p s).2 ≤ μ p - 1)
  (hp : st.processes[n]? = some p)
include hμ hp

theorem step_measure (h : step S st event = .ok st') :
    ∃ q, st'.processes[n]? = some q ∧ μ q ≤ μ p - [event].countP (Event.isTurnOf n) := by
  cases event with
  | start request =>
    cases h
    refine ⟨p, ?_, Nat.le_refl _⟩
    rw [getElem?_append_left (List.getElem?_eq_some_iff.mp hp).1]
    exact hp
  | turn m =>
    obtain ⟨p', hp', rfl⟩ := step_turn_eq_ok.mp h
    by_cases hm : m = n
    · subst hm
      rw [hp] at hp'
      cases hp'
      refine ⟨(S.turn p st.store).2, getElem?_set_self (List.getElem?_eq_some_iff.mp hp).1, ?_⟩
      have hcount : [(Event.turn m : Event ι)].countP (Event.isTurnOf m) = 1 := by
        simp [Event.isTurnOf]
      rw [hcount]
      exact hμ p st.store
    · refine ⟨p, ?_, ?_⟩
      · rw [getElem?_set_ne hm]
        exact hp
      · have hcount : [(Event.turn m : Event ι)].countP (Event.isTurnOf n) = 0 := by
          simp [Event.isTurnOf, hm]
        rw [hcount]
        exact Nat.le_refl _

/-- **A measure that every turn lowers** has gone down by the turns a process has taken, whatever
the others have done. -/
theorem run_measure (events : List (Event ι)) :
    ∃ q, (run (step S) st events).processes[n]? = some q ∧
      μ q ≤ μ p - events.countP (Event.isTurnOf n) := by
  induction events generalizing st p with
  | nil => exact ⟨p, hp, Nat.le_refl _⟩
  | cons event events ih =>
    rw [run_cons]
    cases h : step S st event with
    | error e =>
      have hnot : Event.isTurnOf n event = false := by
        cases event with
        | start request => rfl
        | turn m =>
          rw [step] at h
          cases hm : st.processes[m]? with
          | some p' =>
            rw [hm] at h
            cases h
          | none =>
            refine beq_eq_false_iff_ne.mpr fun hmn ↦ ?_
            rw [hmn, hp] at hm
            cases hm
      rw [exec, h]
      obtain ⟨q, hq, hle⟩ := ih hp
      refine ⟨q, hq, ?_⟩
      rw [countP_cons_of_neg (by rw [hnot]; exact Bool.false_ne_true)]
      exact hle
    | ok st' =>
      obtain ⟨p', hp', hle'⟩ := step_measure hμ hp h
      rw [exec_of_ok h]
      obtain ⟨q, hq, hle⟩ := ih hp'
      refine ⟨q, hq, Nat.le_trans hle ?_⟩
      have hcount : (event :: events).countP (Event.isTurnOf n) =
          [event].countP (Event.isTurnOf n) + events.countP (Event.isTurnOf n) := by
        rw [← countP_append]
        rfl
      omega

end

/-! ### Outlines -/

/-- **A proof outline** of all processes together. -/
structure Outline (σ π : Type u) where
  /-- The invariant of the state. -/
  Inv : State σ π → Prop
  /-- What is known where a process stands. -/
  At : π → σ → Prop
  /-- What holds of any two processes. -/
  Apart : π → π → Prop
  symm : ∀ {p q}, Apart p q → Apart q p

namespace Outline

variable {O : Outline σ π}

/-- The outline holds of a state. -/
structure Holds (O : Outline σ π) (st : State σ π) : Prop where
  inv : O.Inv st
  places : ∀ p ∈ st.processes, O.At p st.store
  apart : ∀ (m n : ℕ) p q, m ≠ n → st.processes[m]? = some p → st.processes[n]? = some q →
    O.Apart p q

theorem Holds.idle {s : σ} (h : O.Inv (.idle s)) : O.Holds (State.idle s : State σ π) :=
  ⟨h, forall_mem_nil _, fun _ _ _ _ _ hm ↦ absurd hm nofun⟩

/-- **What the events that meet `C` owe** to the invariant, their process and the others. -/
structure Keeps (O : Outline σ π) (S : System σ π ι) (C : State σ π → Event ι → Prop) : Prop where
  start : ∀ st request, O.Holds st → C st (.start request) →
    O.Inv { st with processes := st.processes ++ [S.start request] } ∧
    O.At (S.start request) st.store ∧ ∀ q ∈ st.processes, O.Apart (S.start request) q
  turn : ∀ st n p, O.Holds st → C st (.turn n) → st.processes[n]? = some p →
    O.Inv { store := (S.turn p st.store).1
            processes := st.processes.set n (S.turn p st.store).2 } ∧
      O.At (S.turn p st.store).2 (S.turn p st.store).1 ∧
      ∀ (m : ℕ) q, m ≠ n → st.processes[m]? = some q →
        O.At q (S.turn p st.store).1 ∧ O.Apart (S.turn p st.store).2 q

variable {C : State σ π → Event ι → Prop}

/-- **One event.** -/
theorem Keeps.step (hO : O.Keeps S C) (hst : O.Holds st) (hC : C st event)
    (h : Processes.step S st event = .ok st') : O.Holds st' := by
  cases event with
  | start request =>
    cases h
    obtain ⟨hinv, hat, hapart⟩ := hO.start st request hst hC
    refine ⟨hinv, fun p hp ↦ ?_, fun m n p q hmn hm hn ↦ ?_⟩
    · rcases mem_append.mp hp with hp | hp
      · exact hst.places p hp
      · rw [mem_singleton] at hp
        exact hp ▸ hat
    · rcases getElem?_concat_cases hm with ⟨hlast, rfl⟩ | ⟨-, hm⟩
      · rcases getElem?_concat_cases hn with ⟨hlast', -⟩ | ⟨-, hn⟩
        · exact absurd (hlast.trans hlast'.symm) hmn
        · exact hapart q (mem_of_getElem? hn)
      · rcases getElem?_concat_cases hn with ⟨-, rfl⟩ | ⟨-, hn⟩
        · exact O.symm (hapart p (mem_of_getElem? hm))
        · exact hst.apart m n p q hmn hm hn
  | turn n =>
    obtain ⟨p, hp, rfl⟩ := step_turn_eq_ok.mp h
    obtain ⟨hinv, hat, hothers⟩ := hO.turn st n p hst hC hp
    refine ⟨hinv, fun q hq ↦ ?_, fun m m' q q' hmm' hm hm' ↦ ?_⟩
    · obtain ⟨m, hm⟩ := mem_iff_getElem?.mp hq
      rcases getElem?_set_cases hm with ⟨-, rfl⟩ | ⟨hmn, hm⟩
      · exact hat
      · exact (hothers m q hmn hm).1
    · rcases getElem?_set_cases hm with ⟨hmn, rfl⟩ | ⟨hmn, hm⟩
      · rcases getElem?_set_cases hm' with ⟨hmn', -⟩ | ⟨hmn', hm'⟩
        · exact absurd (hmn.trans hmn'.symm) hmm'
        · exact (hothers m' q' hmn' hm').2
      · rcases getElem?_set_cases hm' with ⟨-, rfl⟩ | ⟨-, hm'⟩
        · exact O.symm (hothers m q hmn hm).2
        · exact hst.apart m m' q q' hmm' hm hm'

theorem along_of_forall {step : State σ π → Event ι → Except PUnit.{w + 1} (State σ π)}
    (hC : ∀ st event, C st event) (events : List (Event ι)) : Along step C st events := by
  induction events generalizing st with
  | nil => trivial
  | cons event events ih => exact ⟨hC st event, ih⟩

/-- **The rule for runs.** -/
theorem Keeps.run (hO : O.Keeps S C) (hst : O.Holds st) (events : List (Event ι))
    (hC : Along (Processes.step S) C st events) :
    O.Holds (Outcome.run (Processes.step S) st events) :=
  run_induct_along (fun _ _ _ hst hC h ↦ hO.step hst hC h) hst events hC

/-- What every step of a run meets, when it follows for one step from the outline. -/
theorem Keeps.meets (hO : O.Keeps S C) {D : State σ π → Event ι → Prop}
    (hD : ∀ st event, O.Holds st → C st event → D st event) (hst : O.Holds st)
    (events : List (Event ι)) (hC : Along (Processes.step S) C st events) :
    Along (Processes.step S) D st events :=
  along_induct hD (fun _ _ _ hst hC h ↦ hO.step hst hC h) hst events hC

/-- **What every step of a run does**, when it follows for one step from the outline. -/
theorem Keeps.along (hO : O.Keeps S C) {D : State σ π → Event ι → State σ π → Prop}
    (hD : ∀ st event st', O.Holds st → C st event → Processes.step S st event = .ok st' →
      O.Holds st' → D st event st') (hst : O.Holds st) (events : List (Event ι))
    (hC : Along (Processes.step S) C st events) :
    Along (Processes.step S) (fun st event ↦ ∀ st', Processes.step S st event = .ok st' →
      D st event st') st events :=
  hO.meets (fun st event hst hC st' h ↦ hD st event st' hst hC h (hO.step hst hC h)) hst events hC

end Outline

end Processes
