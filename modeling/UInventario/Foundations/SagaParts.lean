import UInventario.Foundations.Sagas

/-!
# Sagas over a part of the store

A system may use another one: its store holds the other's, and its programs run programs of the
other. `Saga.within` runs a program over its part of the store, `Part` says how the laws fit
together, and `Safe.within` that a program that keeps the law of the part keeps that of the whole.

A law may also be strengthened by what every single transaction of a program does, whatever it
finds: `Commits` is that condition, and `Safe.strengthen` adds it.
-/

namespace Sagas

open Outcome

variable {σ τ ε δ α β : Type} {k : α → Saga σ ε β} {f : σ → Except ε α} {saga : Saga σ ε α}
  {post : Except ε α → σ → Prop}

/-! ### Rules -/

namespace Law

variable {L : Law σ} {post : Except ε β → σ → Prop} {s : σ}

theorem Safe.check_bind {x : Except ε α}
    (hok : ∀ a, x = .ok a → L.Safe post (k a) s) (herror : ∀ e, x = .error e → post (.error e) s) :
    L.Safe post (Saga.check x >>= k) s := by
  refine .bind ?_
  cases x with
  | ok a => exact hok a rfl
  | error e => exact herror e rfl

theorem Safe.look_bind (hok : ∀ s' a, L.Inv s' → L.Step s s' → f s' = .ok a → L.Safe post (k a) s')
    (herror : ∀ s' e, L.Inv s' → L.Step s s' → f s' = .error e → post (.error e) s') :
    L.Safe post (Saga.look f >>= k) s := by
  refine .bind (.look fun s' hinv hstep ↦ ?_)
  cases hf : f s' with
  | ok a => exact hok s' a hinv hstep hf
  | error e => exact herror s' e hinv hstep hf

variable {saga : Saga σ ε β} {post' : Except ε β → σ → Prop}

theorem Safe.mono (h : L.Safe post saga s)
    (hpost : ∀ result s, post result s → post' result s) : L.Safe post' saga s := by
  induction saga generalizing s with
  | done result => exact hpost result s h
  | turn commit rest ih =>
    intro s' hinv hstep
    exact ⟨(h s' hinv hstep).1, ih s' (h s' hinv hstep).2⟩

/-- **A safe saga on its own.** -/
theorem Safe.alone (h : L.Safe post saga s) (hinv : L.Inv s) :
    L.Moves s (saga.alone s).1 ∧ post (saga.alone s).2 (saga.alone s).1 := by
  induction saga generalizing s with
  | done result => exact ⟨.refl hinv, h⟩
  | turn commit rest ih =>
    obtain ⟨hmoves, hrest⟩ := h s hinv (L.refl s)
    obtain ⟨hmoves', hpost⟩ := ih s hrest hmoves.2
    exact ⟨⟨L.trans hmoves.1 hmoves'.1, hmoves'.2⟩, hpost⟩

/-- The law that asks for nothing: what a program answers with, whatever happens meanwhile. -/
def any (σ : Type) : Law σ where
  Inv _ := True
  Step _ _ := True
  refl _ := trivial
  trans _ _ := trivial

theorem Safe.any (saga : Saga σ ε β) (s : σ) : (Law.any σ).Safe Anything saga s := by
  induction saga generalizing s with
  | done result => trivial
  | turn commit rest ih => exact fun s' _ _ ↦ ⟨⟨trivial, trivial⟩, ih s' (commit s')⟩

theorem Safe.and_any (h : L.Safe post saga s) (hany : (Law.any σ).Safe post' saga s) :
    L.Safe (fun result s ↦ post result s ∧ post' result s) saga s := by
  induction saga generalizing s with
  | done result => exact ⟨h, hany⟩
  | turn commit rest ih =>
    intro s' hinv hstep
    obtain ⟨hmoves, hrest⟩ := h s' hinv hstep
    exact ⟨hmoves, ih s' hrest (hany s' trivial trivial).2⟩

/-- **The rule for runs of some of the requests.** -/
theorem Good.run_of {ι : Type} {program : ι → Saga σ ε Unit} {P : ι → Prop}
    (hprogram : ∀ request s, P request → L.Inv s → L.Safe Anything (program request) s)
    {st : State σ ε} (hgood : L.Good st) {events : List (Event ι)}
    (hevents : ∀ request, .start request ∈ events → P request) :
    L.Good (Outcome.run (Sagas.step program) st events) := by
  classical
  -- the other requests are answered at once
  let restricted : ι → Saga σ ε Unit := fun request ↦
    if P request then program request else pure ()
  have hrestricted : ∀ request s, L.Inv s → L.Safe Anything (restricted request) s := by
    intro request s hinv
    show L.Safe Anything (if P request then program request else pure ()) s
    split
    · exact hprogram request s ‹_› hinv
    · trivial
  induction events generalizing st with
  | nil => exact hgood
  | cons event events ih =>
    have hsame : Sagas.step restricted st event = Sagas.step program st event := by
      cases event with
      | start request =>
        show pure { st with sagas := st.sagas ++ [restricted request] } =
          (pure { st with sagas := st.sagas ++ [program request] } : Except Unit (State σ ε))
        have hrequest := hevents request List.mem_cons_self
        rw [show restricted request = program request from if_pos hrequest]
      | turn n => rfl
    exact ih (exec_induct hgood fun st' h ↦ (hgood.step hrestricted (hsame.trans h)).2)
      fun request hmem ↦ hevents request (List.mem_cons_of_mem _ hmem)

end Law

/-! ### A part of the store -/

/-- A program over a part of the store; `wrap` turns its errors into those of the whole. -/
def Saga.within (get : τ → σ) (set : τ → σ → τ) (wrap : ε → δ) : Saga σ ε α → Saga τ δ α
  | .done result => .done (result.mapError wrap)
  | .turn commit rest => .turn (fun t ↦ set t (commit (get t)))
      fun t ↦ (rest (get t)).within get set wrap

theorem Saga.alone_within {get : τ → σ} {set : τ → σ → τ} {wrap : ε → δ}
    (hget : ∀ t s, get (set t s) = s) (hset : ∀ t s s', set (set t s) s' = set t s')
    (hsame : ∀ t, set t (get t) = t) (saga : Saga σ ε α) (t : τ) :
    (saga.within get set wrap).alone t =
      (set t (saga.alone (get t)).1, (saga.alone (get t)).2.mapError wrap) := by
  induction saga generalizing t with
  | done result =>
    show (t, _) = (set t (get t), _)
    rw [hsame]
    rfl
  | turn commit rest ih =>
    show (((rest (get t)).within get set wrap).alone (set t (commit (get t)))) = _
    rw [ih, hget, hset]
    rfl

namespace Law

variable {L : Law σ} {M : Law τ} {get : τ → σ} {set : τ → σ → τ} {wrap : ε → δ}

/-- **How the law of a part fits in the law of the whole.** -/
structure Part (L : Law σ) (M : Law τ) (get : τ → σ) (set : τ → σ → τ) : Prop where
  inv : ∀ {t}, M.Inv t → L.Inv (get t)
  step : ∀ {t t'}, M.Step t t' → L.Step (get t) (get t')
  moves : ∀ {t s}, M.Inv t → L.Moves (get t) s → M.Moves t (set t s)
  get_set : ∀ t s, get (set t s) = s

/-- **A program of the part** keeps the law of the whole. -/
theorem Safe.within (hpart : Part L M get set) {post' : Except δ α → τ → Prop}
    (hpost : ∀ result t, post result (get t) → post' (result.mapError wrap) t) {t : τ}
    (h : L.Safe post saga (get t)) : M.Safe post' (saga.within get set wrap) t := by
  induction saga generalizing t with
  | done result => exact hpost result t h
  | turn commit rest ih =>
    intro t' hinv hstep
    obtain ⟨hmoves, hrest⟩ := h (get t') (hpart.inv hinv) (hpart.step hstep)
    refine ⟨hpart.moves hinv hmoves, ih (get t') ?_⟩
    rw [hpart.get_set]
    exact hrest

end Law

/-! ### What every transaction of a program does -/

/-- **Every transaction of the program** takes a store to one in the relation. -/
def Saga.Commits (K : σ → σ → Prop) : Saga σ ε α → Prop
  | .done _ => True
  | .turn commit rest => ∀ s, K s (commit s) ∧ (rest s).Commits K

namespace Saga.Commits

variable {K : σ → σ → Prop} {x : Saga σ ε α}

theorem mono {K' : σ → σ → Prop} (h : saga.Commits K)
    (hK : ∀ s s', K s s' → K' s s') : saga.Commits K' := by
  induction saga with
  | done result => trivial
  | turn commit rest ih => exact fun s ↦ ⟨hK s (commit s) (h s).1, ih s (h s).2⟩

theorem bind (hx : x.Commits K) (hk : ∀ a, (k a).Commits K) : (x >>= k).Commits K := by
  induction x with
  | done result =>
    cases result with
    | ok a => exact hk a
    | error e => trivial
  | turn commit rest ih => exact fun s ↦ ⟨(hx s).1, ih s (hx s).2⟩

theorem rescue {handler : ε → Saga σ ε α} (hx : x.Commits K)
    (hhandler : ∀ e, (handler e).Commits K) : (x.rescue handler).Commits K := by
  induction x with
  | done result =>
    cases result with
    | ok a => trivial
    | error e => exact hhandler e
  | turn commit rest ih => exact fun s ↦ ⟨(hx s).1, ih s (hx s).2⟩

theorem check (x : Except ε α) : (Saga.check x : Saga σ ε α).Commits K :=
  trivial

section

variable (hrefl : ∀ s, K s s)
include hrefl

theorem look (f : σ → Except ε α) : (Saga.look f).Commits K :=
  fun s ↦ ⟨hrefl s, trivial⟩

theorem look_bind (hk : ∀ s a, f s = .ok a → (k a).Commits K) : (Saga.look f >>= k).Commits K := by
  refine fun s ↦ ⟨hrefl s, ?_⟩
  show (Saga.bind (.done (f s)) k).Commits K
  cases hf : f s with
  | ok a => exact hk s a hf
  | error e => trivial

theorem transaction {t : σ → Except ε (σ × α)}
    (ht : ∀ s s' a, t s = .ok (s', a) → K s s') : (Saga.transaction t).Commits K := by
  intro s
  refine ⟨?_, trivial⟩
  dsimp only
  split
  case h_1 r h => exact ht s r.1 r.2 h
  case h_2 => exact hrefl s

theorem commit {t : σ → Except ε σ} (ht : ∀ s s', t s = .ok s' → K s s') :
    (Saga.commit t).Commits K := by
  refine transaction hrefl fun s s' _ h ↦ ?_
  cases hs : t s with
  | ok s₁ =>
    rw [hs] at h
    cases h
    exact ht s s' hs
  | error e =>
    rw [hs] at h
    cases h

theorem alone (htrans : ∀ {s s' s''}, K s s' → K s' s'' → K s s'')
    (h : saga.Commits K) (s : σ) : K s (saga.alone s).1 := by
  induction saga generalizing s with
  | done result => exact hrefl s
  | turn commit rest ih => exact htrans (h s).1 (ih s (h s).2 (commit s))

end

end Saga.Commits

namespace Law

/-- The law with a further invariant `J` and a further relation `R`. -/
def and (L : Law σ) (J : σ → Prop) (R : σ → σ → Prop) (hrefl : ∀ s, R s s)
    (htrans : ∀ {s s' s''}, R s s' → R s' s'' → R s s'') : Law σ where
  Inv s := L.Inv s ∧ J s
  Step s s' := L.Step s s' ∧ R s s'
  refl s := ⟨L.refl s, hrefl s⟩
  trans h h' := ⟨L.trans h.1 h'.1, htrans h.2 h'.2⟩

/-- **A program keeps the law with what each of its transactions keeps.** The new invariant holds
where the program ends. -/
theorem Safe.strengthen {L : Law σ} {J : σ → Prop} {R : σ → σ → Prop} {hrefl : ∀ s, R s s}
    {htrans : ∀ {s s' s''}, R s s' → R s' s'' → R s s''} {s : σ} (h : L.Safe post saga s)
    (hcommits : saga.Commits fun s s' ↦ L.Inv s → J s → J s' ∧ R s s') (hs : J s) :
    (L.and J R hrefl htrans).Safe (fun result s ↦ post result s ∧ J s) saga s := by
  induction saga generalizing s with
  | done result => exact ⟨h, hs⟩
  | turn commit rest ih =>
    intro s' hinv hstep
    obtain ⟨hmoves, hrest⟩ := h s' hinv.1 hstep.1
    obtain ⟨hcommit, hrestCommits⟩ := hcommits s'
    obtain ⟨hkept, hrelated⟩ := hcommit hinv.1 hinv.2
    exact ⟨⟨⟨hmoves.1, hrelated⟩, hmoves.2, hkept⟩, ih s' hrest hrestCommits hkept⟩

end Law

end Sagas
