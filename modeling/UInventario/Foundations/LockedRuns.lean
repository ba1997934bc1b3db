import UInventario.Foundations.Outcome

/-!
# Transactions that lock rows

Transactions under READ COMMITTED run side by side, and only the rows that one locks keep still for
it. A `Protocol` says for every request what its transaction does in two phases:

* it locks the rows `holds`, reads, decides (`read`) and keeps the rows locked to its end;
* then it locks the rows `needs`, and writes what it has decided (`write`) and whatever it reads
  under these locks.

Between the phases it may read again (`reread`): every read is a snapshot of its own. Before each of
these any transaction may commit that asks for none of the rows held. `step` is the start of a
transaction, another read of it, its end or its rollback, and `Outcome.run` runs a list of such
events.

`Sound` is what is proved of a protocol: an invariant of the store, and for every transaction in
flight a fact that its first phase establishes and that the others leave alone. `Sound.run` is the
rule for runs, and `Sound.commits` carries a property of single commits to whole runs.
-/

namespace LockedRuns

open Outcome List

universe u

variable {σ ι δ κ ε : Type u}

/-- **What the transaction of each request does**, and which rows it locks. -/
structure Protocol (σ ι δ κ ε : Type u) where
  /-- The rows locked by the first phase. -/
  holds : ι → List κ
  /-- What the first phase reads and decides. -/
  read : ι → σ → Except ε δ
  /-- What it reads after that, under the same locks, and decides. -/
  reread : ι → δ → σ → Except ε δ := fun _ d _ ↦ .ok d
  /-- The rows locked by the second phase. -/
  needs : ι → δ → σ → List κ
  /-- What the second phase commits. -/
  write : ι → δ → σ → Except ε σ

/-- The committed store and the transactions between their phases. -/
structure State (σ ι δ : Type u) where
  store : σ
  inFlight : List (ι × δ)

/-- The store with no transaction in flight. -/
def State.idle (s : σ) : State σ ι δ := ⟨s, []⟩

/-- One event: a transaction passes its first phase, reads again, passes its second phase, or is
rolled back. -/
inductive Event (ι : Type u)
  | start (request : ι)
  | reread (position : ℕ)
  | finish (position : ℕ)
  | rollback (position : ℕ)

/-- One request on its own, with no other transaction beside it. -/
def alone (request : ι) : List (Event ι) :=
  [.start request, .reread 0, .finish 0]

namespace Protocol

variable (P : Protocol σ ι δ κ ε)

/-- None of the transactions holds one of the rows. -/
def Free (rows : List κ) (inFlight : List (ι × δ)) : Prop :=
  ∀ t ∈ inFlight, ∀ row ∈ P.holds t.1, row ∉ rows

instance [DecidableEq κ] (rows : List κ) (inFlight : List (ι × δ)) :
    Decidable (P.Free rows inFlight) :=
  inferInstanceAs (Decidable (∀ t ∈ inFlight, ∀ row ∈ P.holds t.1, row ∉ rows))

variable [DecidableEq κ]

/-- One event of the system. `none`: it does not take place, as a row is held by another one. -/
def step (st : State σ ι δ) : Event ι → Except (Option ε) (State σ ι δ)
  | .start i => do
    ensure (P.Free (P.holds i) st.inFlight) none
    let d ← (P.read i st.store).mapError some
    pure { st with inFlight := st.inFlight ++ [(i, d)] }
  | .reread n => do
    let t ← demand st.inFlight[n]? none
    let d ← (P.reread t.1 t.2 st.store).mapError some
    pure { st with inFlight := st.inFlight.set n (t.1, d) }
  | .finish n => do
    let t ← demand st.inFlight[n]? none
    ensure (P.Free (P.needs t.1 t.2 st.store) (st.inFlight.eraseIdx n)) none
    let s ← (P.write t.1 t.2 st.store).mapError some
    pure { store := s, inFlight := st.inFlight.eraseIdx n }
  | .rollback n => pure { st with inFlight := st.inFlight.eraseIdx n }

/-- The condition `C` holds of every commit: of the store before, the request and what its first
phase has decided. -/
def Commits (C : σ → ι → δ → Prop) (st : State σ ι δ) (events : List (Event ι)) : Prop :=
  Along P.step (fun st e ↦ ∀ n i d, e = .finish n → st.inFlight[n]? = some (i, d) → C st.store i d)
    st events

/-- The condition `D` holds whenever a transaction reads again. -/
def Rereads (D : σ → ι → δ → Prop) (st : State σ ι δ) (events : List (Event ι)) : Prop :=
  Along P.step (fun st e ↦ ∀ n i d, e = .reread n → st.inFlight[n]? = some (i, d) → D st.store i d)
    st events

omit [DecidableEq κ] in
private theorem forall_position_iff {C : σ → ι → δ → Prop} {event : ℕ → Event ι}
    (hevent : ∀ {n m}, event n = event m → n = m) (st : State σ ι δ) (n : ℕ) :
    (∀ t ∈ st.inFlight[n]?, C st.store t.1 t.2) ↔
      ∀ m i d, event n = event m → st.inFlight[m]? = some (i, d) → C st.store i d := by
  constructor
  · rintro h m i d he ht
    obtain rfl := hevent he
    exact h (i, d) ht
  · exact fun h t ht ↦ h n t.1 t.2 rfl ht

instance decidableCommit (C : σ → ι → δ → Prop) [∀ s i d, Decidable (C s i d)]
    (st : State σ ι δ) : (e : Event ι) → Decidable (∀ n i d, e = .finish n →
      st.inFlight[n]? = some (i, d) → C st.store i d)
  | .start _ => .isTrue fun _ _ _ h ↦ nomatch h
  | .reread _ => .isTrue fun _ _ _ h ↦ nomatch h
  | .finish n => decidable_of_iff _ (forall_position_iff Event.finish.inj st n)
  | .rollback _ => .isTrue fun _ _ _ h ↦ nomatch h

instance decidableCommits (C : σ → ι → δ → Prop) [∀ s i d, Decidable (C s i d)]
    (st : State σ ι δ) (events : List (Event ι)) : Decidable (P.Commits C st events) :=
  inferInstanceAs (Decidable (Along P.step _ st events))

instance decidableReread (D : σ → ι → δ → Prop) [∀ s i d, Decidable (D s i d)]
    (st : State σ ι δ) : (e : Event ι) → Decidable (∀ n i d, e = .reread n →
      st.inFlight[n]? = some (i, d) → D st.store i d)
  | .start _ => .isTrue fun _ _ _ h ↦ nomatch h
  | .reread n => decidable_of_iff _ (forall_position_iff Event.reread.inj st n)
  | .finish _ => .isTrue fun _ _ _ h ↦ nomatch h
  | .rollback _ => .isTrue fun _ _ _ h ↦ nomatch h

instance decidableRereads (D : σ → ι → δ → Prop) [∀ s i d, Decidable (D s i d)]
    (st : State σ ι δ) (events : List (Event ι)) : Decidable (P.Rereads D st events) :=
  inferInstanceAs (Decidable (Along P.step _ st events))

end Protocol

/-! ### A request among others -/

section Among

variable {P : Protocol σ ι δ κ ε} [DecidableEq κ] {st : State σ ι δ} {i : ι} {d : δ}

/-- The request from its start to its end, with no event of another transaction between. -/
def among (st : State σ ι δ) (request : ι) : List (Event ι) :=
  [.start request, .finish st.inFlight.length]

section

variable (hfree : P.Free (P.holds i) st.inFlight) (hread : P.read i st.store = .ok d)
include hfree hread

private theorem run_start (events : List (Event ι)) : Outcome.run P.step st (.start i :: events) =
      Outcome.run P.step { st with inFlight := st.inFlight ++ [(i, d)] } events := by
  have hstart : P.step st (.start i) = .ok { st with inFlight := st.inFlight ++ [(i, d)] } := by
    simp [Protocol.step, hread, hfree, ensure, Except.mapError, pure, Except.pure]
  rw [run_cons, exec_of_ok hstart]

theorem run_among_ok (hneeds : P.Free (P.needs i d st.store) st.inFlight) {s' : σ}
    (hwrite : P.write i d st.store = .ok s') :
    Outcome.run P.step st (among st i) = { store := s', inFlight := st.inFlight } := by
  have hfinish : P.step { st with inFlight := st.inFlight ++ [(i, d)] }
      (.finish st.inFlight.length) = .ok { store := s', inFlight := st.inFlight } := by
    simp [Protocol.step, demand, eraseIdx_append_of_length_le, hneeds, hwrite, ensure,
      Except.mapError, pure, Except.pure]
  rw [among, run_start hfree hread, run_cons, exec_of_ok hfinish, run_nil]

theorem store_run_among_error {e : ε} (hwrite : P.write i d st.store = .error e) :
    (Outcome.run P.step st (among st i)).store = st.store := by
  rw [among, run_start hfree hread, run_cons, run_nil, exec]
  split
  case h_1 s' h =>
    simp [Protocol.step, demand, hwrite, ensure, Except.mapError, pure, Except.pure] at h
    split at h <;> cases h
  case h_2 => rfl

end

end Among

/-! ### The rule -/

section Rule

variable {P : Protocol σ ι δ κ ε} [DecidableEq κ]

/-- **What is proved of a protocol**: an invariant of the store, what is known of a transaction
between its phases, a condition on the commits. -/
structure Sound (P : Protocol σ ι δ κ ε) (C : σ → ι → δ → Prop) (Inv : σ → Prop)
    (Holds : ι → δ → σ → Prop) : Prop where
  /-- The first phase establishes what is known. -/
  read : ∀ {s i d}, Inv s → P.read i s = .ok d → Holds i d s
  /-- Another read leaves it known. -/
  reread : ∀ {s i d d'}, Inv s → Holds i d s → P.reread i d s = .ok d' → Holds i d' s
  /-- The second phase keeps the invariant. -/
  write : ∀ {s i d s'}, Inv s → Holds i d s → C s i d → P.write i d s = .ok s' → Inv s'
  /-- What is known survives the commits of the others. -/
  stable : ∀ {s i d j e s'}, Inv s → Holds i d s → Holds j e s → C s j e →
    (∀ row ∈ P.holds i, row ∉ P.holds j ∧ row ∉ P.needs j e s) → P.write j e s = .ok s' →
    Holds i d s'

/-- What a run maintains. -/
structure Good (P : Protocol σ ι δ κ ε) (Inv : σ → Prop) (Holds : ι → δ → σ → Prop)
    (st : State σ ι δ) : Prop where
  inv : Inv st.store
  known : ∀ t ∈ st.inFlight, Holds t.1 t.2 st.store
  /-- No two transactions hold the same row. -/
  exclusive : st.inFlight.Pairwise fun t t' ↦ ∀ row ∈ P.holds t.1, row ∉ P.holds t'.1

variable {C D : σ → ι → δ → Prop} {Inv : σ → Prop} {Holds : ι → δ → σ → Prop} {st st' : State σ ι δ}

omit [DecidableEq κ] in
theorem Good.idle {s : σ} (h : Inv s) : Good P Inv Holds (State.idle s) :=
  ⟨h, by simp [State.idle], by simp [State.idle]⟩

omit [DecidableEq κ] in
/-- The transaction at a position holds none of the rows of the others. -/
private theorem exclusive_eraseIdx : ∀ {l : List (ι × δ)} {n : ℕ} {t : ι × δ},
      (l.Pairwise fun t t' ↦ ∀ row ∈ P.holds t.1, row ∉ P.holds t'.1) → l[n]? = some t →
      ∀ t' ∈ l.eraseIdx n, ∀ row ∈ P.holds t'.1, row ∉ P.holds t.1 := by
  intro l
  induction l with
  | nil => simp
  | cons a l ih =>
    intro n t hpair hn
    obtain ⟨hhead, htail⟩ := pairwise_cons.mp hpair
    cases n with
    | zero =>
      rw [getElem?_cons_zero, Option.some.injEq] at hn
      subst hn
      intro t' ht' row hrow hrow'
      exact hhead t' ht' row hrow' hrow
    | succ n =>
      rw [getElem?_cons_succ] at hn
      intro t' ht' row hrow hrow'
      rw [eraseIdx_cons_succ, mem_cons] at ht'
      rcases ht' with rfl | ht'
      · exact hhead t (mem_of_getElem? hn) row hrow hrow'
      · exact ih htail hn t' ht' row hrow hrow'

omit [DecidableEq κ] in
/-- Another read changes neither the rows a transaction holds nor those of the others. -/
private theorem exclusive_set {l : List (ι × δ)} {n : ℕ} {i : ι} {d d' : δ}
    (hpair : l.Pairwise fun t t' ↦ ∀ row ∈ P.holds t.1, row ∉ P.holds t'.1)
    (hn : l[n]? = some (i, d)) :
    (l.set n (i, d')).Pairwise fun t t' ↦ ∀ row ∈ P.holds t.1, row ∉ P.holds t'.1 := by
  have hset : (l.map Prod.fst).set n i = l.map Prod.fst := by
    apply ext_getElem? fun m ↦ ?_
    rw [getElem?_set, getElem?_map]
    split
    case isTrue hm =>
      subst hm
      rw [hn]
      simp [(List.getElem?_eq_some_iff.mp hn).1]
    case isFalse => rfl
  have hmapped : (l.map Prod.fst).Pairwise fun a b ↦ ∀ row ∈ P.holds a, row ∉ P.holds b :=
    pairwise_map.mpr hpair
  rw [← hset] at hmapped
  exact pairwise_map.mp (map_set (f := Prod.fst) (a := (i, d')) ▸ hmapped)

/-- **One event** keeps the invariant and what is known of the transactions in flight. -/
theorem Sound.step (hP : Sound P C Inv Holds) (hgood : Good P Inv Holds st) {e : Event ι}
    (hC : ∀ n i d, e = .finish n → st.inFlight[n]? = some (i, d) → C st.store i d)
    (h : P.step st e = .ok st') : Good P Inv Holds st' := by
  cases e with
  | start i =>
    simp only [Protocol.step, eq_ok, mapError_eq_ok] at h
    obtain ⟨-, hfree, d, hd, rfl⟩ := h
    refine ⟨hgood.inv, ?_, ?_⟩
    · intro t ht
      rcases mem_append.mp ht with ht | ht
      · exact hgood.known t ht
      · rw [mem_singleton] at ht
        subst ht
        exact hP.read hgood.inv hd
    · rw [pairwise_append]
      refine ⟨hgood.exclusive, pairwise_singleton _ _, ?_⟩
      intro t ht t' ht' row hrow
      rw [mem_singleton] at ht'
      subst ht'
      exact hfree t ht row hrow
  | reread n =>
    simp only [Protocol.step, eq_ok, mapError_eq_ok] at h
    obtain ⟨⟨i, d⟩, ht, d', hd', rfl⟩ := h
    refine ⟨hgood.inv, ?_, exclusive_set hgood.exclusive ht⟩
    intro t' ht'
    rcases mem_or_eq_of_mem_set ht' with ht' | rfl
    · exact hgood.known t' ht'
    · exact hP.reread hgood.inv (hgood.known (i, d) (mem_of_getElem? ht)) hd'
  | finish n =>
    simp only [Protocol.step, eq_ok, mapError_eq_ok] at h
    obtain ⟨⟨i, d⟩, ht, -, hfree, s', hs', rfl⟩ := h
    have hmem : (i, d) ∈ st.inFlight := mem_of_getElem? ht
    have hd := hgood.known _ hmem
    refine ⟨hP.write hgood.inv hd (hC n i d rfl ht) hs', ?_, ?_⟩
    · intro t' ht'
      refine hP.stable hgood.inv (hgood.known t' (mem_of_mem_eraseIdx ht')) hd
        (hC n i d rfl ht) ?_ hs'
      intro row hrow
      exact ⟨exclusive_eraseIdx hgood.exclusive ht t' ht' row hrow, hfree t' ht' row hrow⟩
    · exact hgood.exclusive.sublist (eraseIdx_sublist ..)
  | rollback n =>
    simp only [Protocol.step, pure_eq_ok] at h
    subst h
    refine ⟨hgood.inv, ?_, hgood.exclusive.sublist (eraseIdx_sublist ..)⟩
    intro t ht
    exact hgood.known t (mem_of_mem_eraseIdx ht)

/-- **The rule for runs.** -/
theorem Sound.run (hP : Sound P C Inv Holds) (hgood : Good P Inv Holds st)
    (events : List (Event ι)) (hC : P.Commits C st events) :
    Good P Inv Holds (Outcome.run P.step st events) :=
  run_induct_along (fun _ _ _ hgood hC h ↦ hP.step hgood hC h) hgood events hC

omit [DecidableEq κ] in
/-- A condition that holds of every commit holds of those of a run. -/
theorem commits_of_forall [DecidableEq κ] (h : ∀ s i d, C s i d)
    (st : State σ ι δ) (events : List (Event ι)) : P.Commits C st events := by
  induction events generalizing st with
  | nil => trivial
  | cons e events ih => exact ⟨fun _ _ _ _ _ ↦ h _ _ _, ih _⟩

variable {events : List (Event ι)} {i : ι} {d : δ}

omit [DecidableEq κ] in
theorem commits_append [DecidableEq κ] {later : List (Event ι)} : P.Commits C st (events ++ later) ↔
      P.Commits C st events ∧ P.Commits C (Outcome.run P.step st events) later := by
  induction events generalizing st with
  | nil => exact (iff_of_eq (true_and _)).symm
  | cons e events ih => exact (and_congr_right fun _ ↦ ih).trans and_assoc.symm

/-- What the invariant and the known facts give of a commit holds of every commit of a run. -/
theorem Sound.commits (hP : Sound P C Inv Holds)
    (hD : ∀ s i d, Inv s → Holds i d s → C s i d → D s i d) (hgood : Good P Inv Holds st)
    (events : List (Event ι)) (hC : P.Commits C st events) : P.Commits D st events :=
  along_induct (fun _ _ hgood hC n i d he ht ↦
      hD _ i d hgood.inv (hgood.known (i, d) (mem_of_getElem? ht)) (hC n i d he ht))
    (fun _ _ _ hgood hC h ↦ hP.step hgood hC h) hgood events hC

/-- What the invariant and the known facts give of another read holds of all that a run has. -/
theorem Sound.rereads {E : σ → ι → δ → Prop} (hP : Sound P C Inv Holds)
    (hE : ∀ s i d, Inv s → Holds i d s → D s i d → E s i d) (hgood : Good P Inv Holds st)
    (events : List (Event ι)) (hC : P.Commits C st events) (hD : P.Rereads D st events) :
    P.Rereads E st events := by
  have hboth := along_and hC hD
  exact along_induct (fun _ _ hgood hboth n i d he ht ↦
      hE _ i d hgood.inv (hgood.known (i, d) (mem_of_getElem? ht)) (hboth.2 n i d he ht))
    (fun _ _ _ hgood hboth h ↦ hP.step hgood hboth.1 h) hgood events hboth

omit [DecidableEq κ] in
theorem commits_congr [DecidableEq κ] (h : ∀ s i d, C s i d ↔ D s i d) (st : State σ ι δ)
    (events : List (Event ι)) : P.Commits C st events ↔ P.Commits D st events := by
  have hCD : C = D := by
    funext s i d
    exact propext (h s i d)
  rw [hCD]

omit [DecidableEq κ] in
/-- **The last commit of a run** meets a condition that all its commits meet. -/
theorem commits_last [DecidableEq κ] {n : ℕ} (h : P.Commits C st (events ++ [.finish n]))
    (ht : (Outcome.run P.step st events).inFlight[n]? = some (i, d)) :
    C (Outcome.run P.step st events).store i d := by
  induction events generalizing st with
  | nil => exact h.1 n i d rfl ht
  | cons e events ih => exact ih h.2 ht

/-- The last commit of a run that ends with a request on its own. -/
theorem commits_alone {d' : δ} (h : P.Commits C st (events ++ alone i))
    (hidle : (Outcome.run P.step st events).inFlight = [])
    (hread : P.read i (Outcome.run P.step st events).store = .ok d)
    (hreread : P.reread i d (Outcome.run P.step st events).store = .ok d') :
    C (Outcome.run P.step st events).store i d' := by
  have hsplit : events ++ alone i = events ++ [.start i, .reread 0] ++ [.finish 0] := by
    rw [append_assoc]
    rfl
  have hstart : P.step (Outcome.run P.step st events) (.start i) =
      .ok { Outcome.run P.step st events with inFlight := [(i, d)] } := by
    simp [Protocol.step, hread, hidle, Protocol.Free, ensure, Except.mapError, pure, Except.pure]
  have hagain : P.step { Outcome.run P.step st events with inFlight := [(i, d)] } (.reread 0) =
      .ok { Outcome.run P.step st events with inFlight := [(i, d')] } := by
    simp [Protocol.step, hreread, demand, Except.mapError, pure, Except.pure]
  have hrun : Outcome.run P.step st (events ++ [.start i, .reread 0]) =
      { Outcome.run P.step st events with inFlight := [(i, d')] } := by
    rw [run_append, run_cons, exec_of_ok hstart, run_cons, exec_of_ok hagain, run_nil]
  rw [hsplit] at h
  have hlast := commits_last h (i := i) (d := d') (by rw [hrun]; rfl)
  rw [hrun] at hlast
  exact hlast

end Rule

end LockedRuns
