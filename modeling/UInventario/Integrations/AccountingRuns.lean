import Mathlib.Data.List.Induction
import UInventario.Integrations.Accounting

/-!
# Runs of the accounting

What holds of the events and of the calls that generate them, in any interleaving of calls with what
makes sources and changes the configuration, each of which may stop between two queries.

* There is one event to a source: the event key is unique (`Table`).
* The journal of an event is that of the configuration its call has read (`Created`).
* A call comes to its end in at most 2003 queries (`remaining`), with at most 1000 candidates.
* A call ends normally when it does not begin beside a call that has read another configuration
  (`ConfigsAgree`). Then every event has its audit's record, or is one of a call that has not come
  to its end.
-/

namespace UInventario.Integrations.Accounting

open Outcome Processes Table List

variable {s s' : AccountingStore} {p q : AccountingProcess}
  {st st' : State AccountingStore AccountingProcess} {c : AccountingConfig} {line : JournalLine}

/-! ### Journals -/

theorem sum_filter_lines (lines : List JournalLine) (amount : JournalLine → ℕ)
    (hamount : ∀ line : JournalLine, ¬(line.debit ≠ 0 ∨ line.credit ≠ 0) → amount line = 0) :
    ((lines.filter fun line ↦ line.debit ≠ 0 ∨ line.credit ≠ 0).map amount).sum =
      (lines.map amount).sum := by
  induction lines with
  | nil => rfl
  | cons line lines ih =>
    rw [filter_cons]
    split
    · rw [map_cons, map_cons, sum_cons, sum_cons, ih]
    · rename_i hzero
      rw [decide_eq_true_eq] at hzero
      rw [map_cons, sum_cons, hamount line hzero, Nat.zero_add, ih]

theorem debit_eq_zero (h : ¬(line.debit ≠ 0 ∨ line.credit ≠ 0)) : line.debit = 0 := by
  omega

theorem credit_eq_zero (h : ¬(line.debit ≠ 0 ∨ line.credit ≠ 0)) : line.credit = 0 := by
  omega

theorem lines_balanced {candidate : AccountingSourceCandidate} (h : candidate.Balanced) :
    (candidate.lines.map JournalLine.debit).sum = (candidate.lines.map JournalLine.credit).sum := by
  unfold AccountingSourceCandidate.Balanced at h
  unfold AccountingSourceCandidate.lines
  cases htype : candidate.eventKey.sourceType with
  | CASH_MOVEMENT =>
    dsimp only
    split <;> simp [entry]
  | _ =>
    rw [htype] at h
    have htotal := h nofun
    simp only [entry, map_cons, map_nil, sum_cons, sum_nil]
    omega

/-- **Every source has a journal.** -/
theorem exists_journal (source : AccountingSource) : ∃ j, journal source.val = .ok j := by
  obtain ⟨candidate, hbalanced⟩ := source
  have hlines := lines_balanced hbalanced
  rw [← sum_filter_lines candidate.lines JournalLine.debit fun _ ↦ debit_eq_zero,
    ← sum_filter_lines candidate.lines JournalLine.credit fun _ ↦ credit_eq_zero] at hlines
  exact ⟨_, bind_eq_ok.mpr ⟨⟨⟩, ensure_eq_ok.mpr hlines, rfl⟩⟩

/-! ### What a call is about to do -/

def AccountingProcess.holds : AccountingProcess → Option AccountingConfig
  | .selecting config => some config
  | .creating config _ _ _ => some config
  | .checking config _ _ _ _ => some config
  | _ => none

def AccountingProcess.pending : AccountingProcess → List AccountingSource
  | .creating _ candidate rest _ => candidate :: rest
  | .checking _ _ rest _ _ => rest
  | _ => []

def AccountingProcess.made : AccountingProcess → List EventKey
  | .creating _ _ _ generated => generated
  | .checking _ _ _ generated _ => generated
  | .auditing generated => generated
  | _ => []

section NextCandidate

variable {config : AccountingConfig} {generated : List EventKey} {rest : List AccountingSource}

theorem pending_nextCandidate : (nextCandidate config generated rest).pending = rest := by
  cases rest with
  | cons candidate rest => rfl
  | nil =>
    rw [nextCandidate]
    split <;> rfl

theorem made_nextCandidate : (nextCandidate config generated rest).made = generated := by
  cases rest with
  | cons candidate rest => rfl
  | nil =>
    rw [nextCandidate]
    split
    · rename_i hnil
      exact hnil.symm
    · rfl

theorem holds_nextCandidate
    (h : (nextCandidate config generated rest).holds = some c) : c = config := by
  cases rest with
  | cons candidate rest => exact (Option.some.inj h).symm
  | nil =>
    rw [nextCandidate] at h
    split at h <;> cases h

end NextCandidate

/-- **The condition on calls**: a call that reads the configuration does not find beside it a call
that has read another one. -/
def AccountingProcess.ConfigsAgree (st : State AccountingStore AccountingProcess) :
    AccountingProcess → Prop
  | .configuring => ∀ config ∈ st.store.config, ∀ q ∈ st.processes, ∀ c ∈ q.holds, c = config
  | _ => True

abbrev ConfigsAgree : State AccountingStore AccountingProcess → Event AccountingRequest → Prop :=
  AtTurn fun st p ↦ p.ConfigsAgree st

/-- **What is known where a call stands.** -/
structure Generating (p : AccountingProcess) (s : AccountingStore) : Prop where
  pending : ∀ c ∈ p.pending, c ∈ s.sources.rows
  /-- The events of its candidates have the journals that it computes. -/
  journals : ∀ config ∈ p.holds, ∀ c ∈ p.pending, ∀ e ∈ s.events.find? c.val.eventKey,
    ∃ j, journal c.val = .ok j ∧ e = eventOf config c.val j
  checked : ∀ config c rest generated fingerprint,
    p = .checking config c rest generated fingerprint →
      ∃ e ∈ s.events.find? c.val.eventKey, e.contentFingerprint = fingerprint
  failure : ∀ e, p = .answered (.error e) → e = .ACCOUNTING_CONFIG_REQUIRED

def generating : Outline AccountingStore AccountingProcess where
  Inv st := ∀ e ∈ st.store.events.rows,
    e.eventKey ∈ st.store.audits.flatten ∨ ∃ p ∈ st.processes, e.eventKey ∈ p.made
  At := Generating
  Apart p q := ∀ c ∈ p.holds, ∀ c' ∈ q.holds, c = c'
  symm h c hc c' hc' := (h c' hc' c hc).symm

theorem Generating.idle (hpending : p.pending = []) (hholds : p.holds = none)
    (hfailure : ∀ e, p ≠ .answered (.error e)) : Generating p s where
  pending c hc := by
    rw [hpending] at hc
    cases hc
  journals config hconfig := by
    rw [hholds] at hconfig
    cases hconfig
  checked config c rest generated fingerprint h := by
    rw [h] at hholds
    cases hholds
  failure e h := absurd h (hfailure e)

variable {config : AccountingConfig} {e : AccountingEvent}

theorem Generating.next {generated : List EventKey}
    {rest : List AccountingSource} (hpending : ∀ c ∈ rest, c ∈ s.sources.rows)
    (hjournals : ∀ c ∈ rest, ∀ e ∈ s.events.find? c.val.eventKey,
      ∃ j, journal c.val = .ok j ∧ e = eventOf config c.val j) :
    Generating (nextCandidate config generated rest) s where
  pending := by
    rw [pending_nextCandidate]
    exact hpending
  journals c hc := by
    rw [holds_nextCandidate hc, pending_nextCandidate]
    exact hjournals
  checked config c rest' generated fingerprint h := by
    cases rest with
    | cons candidate rest => cases h
    | nil =>
      rw [nextCandidate] at h
      split at h <;> cases h
  failure e h := by
    cases rest with
    | cons candidate rest => cases h
    | nil =>
      rw [nextCandidate] at h
      split at h <;> cases h

theorem Generating.of_events_eq (h : Generating p s)
    (hsources : ∀ c ∈ s.sources.rows, c ∈ s'.sources.rows) (hevents : s'.events = s.events) :
    Generating p s' where
  pending c hc := hsources c (h.pending c hc)
  journals := by
    rw [hevents]
    exact h.journals
  checked := by
    rw [hevents]
    exact h.checked
  failure := h.failure

/-! ### One turn -/

structure GenerateTurn (s : AccountingStore) (p : AccountingProcess) : Prop where
  place : Generating (accountingTurn p s).2 (accountingTurn p s).1
  others : ∀ q, Generating q s → (∀ c ∈ p.holds, ∀ c' ∈ q.holds, c = c') →
    Generating q (accountingTurn p s).1
  made : ∀ k ∈ p.made, k ∈ (accountingTurn p s).2.made ∨ k ∈ (accountingTurn p s).1.audits.flatten
  events : ∀ e ∈ (accountingTurn p s).1.events.rows,
    e ∈ s.events.rows ∨ e.eventKey ∈ (accountingTurn p s).2.made
  audits : ∀ k ∈ s.audits.flatten, k ∈ (accountingTurn p s).1.audits.flatten

theorem GenerateTurn.of_events_eq (hevents : (accountingTurn p s).1.events = s.events)
    (haudits : (accountingTurn p s).1.audits = s.audits)
    (hsources : ∀ c ∈ s.sources.rows, c ∈ (accountingTurn p s).1.sources.rows)
    (hplace : Generating (accountingTurn p s).2 (accountingTurn p s).1)
    (hmade : ∀ k ∈ p.made, k ∈ (accountingTurn p s).2.made) : GenerateTurn s p where
  place := hplace
  others q hq _ := hq.of_events_eq hsources hevents
  made k hk := .inl (hmade k hk)
  events e he := by
    rw [hevents] at he
    exact .inl he
  audits k hk := by
    rw [haudits]
    exact hk

/-- **`createEvent`** inserts, or finds the event of the source. -/
theorem createTurn_cases (s : AccountingStore) (config : AccountingConfig)
    (candidate : AccountingSource) (rest : List AccountingSource) (generated : List EventKey) :
    ∃ j, journal candidate.val = .ok j ∧
      ((∃ events, s.events.insert (eventOf config candidate.val j) = some events ∧
        createTurn s config candidate rest generated = ({ s with events := events },
          .checking config candidate rest (generated ++ [candidate.val.eventKey])
            (eventOf config candidate.val j).contentFingerprint)) ∨
      ∃ e, s.events.find? candidate.val.eventKey = some e ∧
        createTurn s config candidate rest generated = (s,
          .checking config candidate rest generated
            (eventOf config candidate.val j).contentFingerprint)) := by
  obtain ⟨j, hj⟩ := exists_journal candidate
  refine ⟨j, hj, ?_⟩
  rw [createTurn, hj]
  dsimp only
  cases hfound : s.events.find? candidate.val.eventKey with
  | some e =>
    have hnone : s.events.insert (eventOf config candidate.val j) = none := by
      cases hinsert : s.events.insert (eventOf config candidate.val j) with
      | none => rfl
      | some events =>
        have hfree : s.events.find? candidate.val.eventKey = none :=
          (insert_eq_some hinsert).1
        rw [hfound] at hfree
        cases hfree
    rw [hnone]
    exact .inr ⟨e, rfl, rfl⟩
  | none =>
    obtain ⟨events, hinsert⟩ := insert_isSome
      (show s.events.find? (Keyed.key (eventOf config candidate.val j)) = none from hfound)
    rw [hinsert]
    exact .inl ⟨events, rfl, rfl⟩

/-- **The configuration of a call** is the one that it has read. -/
theorem holds_turn (h : c ∈ (accountingTurn p s).2.holds) :
    c ∈ p.holds ∨ p = .configuring ∧ s.config = some c := by
  cases p with
  | configuring =>
    rw [accountingTurn] at h
    cases hconfig : s.config with
    | none =>
      rw [hconfig] at h
      cases h
    | some config =>
      rw [hconfig] at h
      exact .inr ⟨rfl, h⟩
  | selecting config =>
    rw [holds_nextCandidate h]
    exact .inl rfl
  | creating config candidate rest generated =>
    obtain ⟨j, -, ⟨events, -, hcreate⟩ | ⟨e, -, hcreate⟩⟩ :=
      createTurn_cases s config candidate rest generated
    · rw [accountingTurn, hcreate] at h
      exact .inl h
    · rw [accountingTurn, hcreate] at h
      exact .inl h
  | checking config candidate rest generated fingerprint =>
    rw [accountingTurn] at h
    cases hcheck : checkEvent s candidate.val.eventKey fingerprint with
    | error e =>
      rw [hcheck] at h
      cases h
    | ok _ =>
      rw [hcheck] at h
      rw [holds_nextCandidate h]
      exact .inl rfl
  | _ => exact absurd h nofun

/-- **An event comes in** as what its call computes for a source without one. -/
theorem events_turn (h : e ∈ (accountingTurn p s).1.events.rows) :
    e ∈ s.events.rows ∨ ∃ config candidate rest generated j,
      p = .creating config candidate rest generated ∧
      s.events.find? candidate.val.eventKey = none ∧ journal candidate.val = .ok j ∧
      e = eventOf config candidate.val j := by
  cases p with
  | creating config candidate rest generated =>
    obtain ⟨j, hj, ⟨events, hinsert, hcreate⟩ | ⟨e, -, hcreate⟩⟩ :=
      createTurn_cases s config candidate rest generated
    · rw [accountingTurn, hcreate] at h
      rcases (mem_insert hinsert).mp h with h | rfl
      · exact .inl h
      · exact .inr ⟨config, candidate, rest, generated, j, rfl,
          (insert_eq_some hinsert).1, hj, rfl⟩
    · rw [accountingTurn, hcreate] at h
      exact .inl h
  | _ => exact .inl h

theorem generateTurn_creating {candidate : AccountingSource} {rest : List AccountingSource}
    {generated : List EventKey} (hat : Generating (.creating config candidate rest generated) s) :
    GenerateTurn s (.creating config candidate rest generated) := by
  have hcandidate : candidate ∈ s.sources.rows := hat.pending candidate mem_cons_self
  obtain ⟨j, hj, ⟨events, hinsert, hcreate⟩ | ⟨e, he, hcreate⟩⟩ :=
    createTurn_cases s config candidate rest generated
  · have hturn : accountingTurn (.creating config candidate rest generated) s =
      ({ s with events := events }, .checking config candidate rest
        (generated ++ [candidate.val.eventKey])
        (eventOf config candidate.val j).contentFingerprint) := hcreate
    have hself : events.find? candidate.val.eventKey = some (eventOf config candidate.val j) :=
      find?_insert_self hinsert
    -- what is found of any source afterwards
    have hjournals : ∀ c ∈ s.sources.rows, ∀ (config' : AccountingConfig), config' = config →
        (∀ e ∈ s.events.find? c.val.eventKey,
          ∃ j, journal c.val = .ok j ∧ e = eventOf config' c.val j) →
        ∀ e ∈ events.find? c.val.eventKey,
          ∃ j, journal c.val = .ok j ∧ e = eventOf config' c.val j := by
      rintro c hc config' rfl hold e he
      by_cases hkey : candidate.val.eventKey = c.val.eventKey
      · have hsame : candidate = c := eq_of_mem_of_key_eq hcandidate hc hkey
        subst hsame
        rw [Option.mem_def, hself] at he
        cases he
        exact ⟨j, hj, rfl⟩
      · have hother : events.find? c.val.eventKey = s.events.find? c.val.eventKey :=
          find?_insert_of_ne hinsert hkey
        rw [hother] at he
        exact hold e he
    constructor
    · rw [hturn]
      refine ⟨fun c hc ↦ hat.pending c (mem_cons_of_mem _ hc), fun config' hconfig' c hc ↦ ?_,
        fun _ _ _ _ _ h ↦ ?_, nofun⟩
      · have hconfig : config' = config := (Option.some.inj hconfig').symm
        exact hjournals c (hat.pending c (mem_cons_of_mem _ hc)) config' hconfig
          (hat.journals config' (hconfig ▸ rfl) c (mem_cons_of_mem _ hc))
      · cases h
        exact ⟨_, hself, rfl⟩
    · intro q hq hapart
      rw [hturn]
      refine ⟨hq.pending, fun config' hconfig' c hc ↦ ?_, fun config' c rest' generated' f h ↦ ?_,
        hq.failure⟩
      · exact hjournals c (hq.pending c hc) config' (hapart config rfl config' hconfig').symm
          (hq.journals config' hconfig' c hc)
      · obtain ⟨e, he, hfingerprint⟩ := hq.checked config' c rest' generated' f h
        exact ⟨e, find?_insert_of_some hinsert he, hfingerprint⟩
    · intro k hk
      rw [hturn]
      exact .inl (mem_append_left _ hk)
    · intro e he
      rw [hturn] at he ⊢
      rcases (mem_insert hinsert).mp he with he | rfl
      · exact .inl he
      · exact .inr (mem_append_right _ (mem_singleton_self _))
    · intro k hk
      rw [hturn]
      exact hk
  · have hturn : accountingTurn (.creating config candidate rest generated) s =
      (s, .checking config candidate rest generated
        (eventOf config candidate.val j).contentFingerprint) := hcreate
    refine .of_events_eq (by rw [hturn]) (by rw [hturn]) (fun c hc ↦ by rw [hturn]; exact hc) ?_
      fun k hk ↦ by rw [hturn]; exact hk
    rw [hturn]
    refine ⟨fun c hc ↦ hat.pending c (mem_cons_of_mem _ hc), fun config' hconfig' c hc ↦ ?_,
      fun _ _ _ _ _ h ↦ ?_, nofun⟩
    · exact hat.journals config' hconfig' c (mem_cons_of_mem _ hc)
    · cases h
      obtain ⟨j', hj', rfl⟩ := hat.journals config rfl candidate mem_cons_self e he
      rw [hj] at hj'
      cases hj'
      exact ⟨_, he, rfl⟩

theorem generateTurn (hat : Generating p s) : GenerateTurn s p := by
  cases p with
  | configuring =>
    refine .of_events_eq rfl rfl (fun c hc ↦ hc) ?_ nofun
    rw [accountingTurn]
    cases hconfig : s.config with
    | none =>
      refine ⟨forall_mem_nil _, fun _ _ _ hc ↦ absurd hc not_mem_nil,
        fun _ _ _ _ _ h ↦ AccountingProcess.noConfusion h, fun e h ↦ ?_⟩
      cases h
      rfl
    | some config =>
      show Generating (.selecting config) s
      exact ⟨forall_mem_nil _, fun _ _ _ hc ↦ absurd hc not_mem_nil,
        fun _ _ _ _ _ h ↦ AccountingProcess.noConfusion h,
        fun _ h ↦ AccountingProcess.noConfusion h⟩
  | selecting config =>
    refine .of_events_eq rfl rfl (fun c hc ↦ hc) ?_ nofun
    have hcandidates : ∀ c ∈ s.sourceCandidates, c ∈ s.sources.rows ∧
        s.events.find? c.val.eventKey = none := by
      intro c hc
      have hmem := mem_filter.mp (mem_orderBy.mp (mem_of_mem_take hc))
      exact ⟨hmem.1, of_decide_eq_true hmem.2⟩
    refine .next (fun c hc ↦ (hcandidates c hc).1) fun c hc e he ↦ ?_
    have hnone := (hcandidates c hc).2
    rw [show s.events.find? c.val.eventKey = some e from he] at hnone
    cases hnone
  | creating config candidate rest generated => exact generateTurn_creating hat
  | checking config candidate rest generated fingerprint =>
    obtain ⟨e, he, hfingerprint⟩ := hat.checked _ _ _ _ _ rfl
    have hcheck : checkEvent s candidate.val.eventKey fingerprint = .ok ⟨⟩ :=
      bind_eq_ok.mpr ⟨e, demand_eq_ok.mpr he, ensure_eq_ok.mpr hfingerprint⟩
    have hturn : accountingTurn (.checking config candidate rest generated fingerprint) s =
        (s, nextCandidate config generated rest) := by
      rw [accountingTurn, hcheck]
    refine .of_events_eq (by rw [hturn]) (by rw [hturn]) (fun c hc ↦ by rw [hturn]; exact hc) ?_ ?_
    · rw [hturn]
      exact .next hat.pending (hat.journals config rfl)
    · intro k hk
      rw [hturn, made_nextCandidate]
      exact hk
  | auditing generated =>
    have haudits : ∀ k, k ∈ s.audits.flatten ∨ k ∈ generated →
        k ∈ (s.audits ++ [generated]).flatten := by
      intro k hk
      rw [flatten_append, mem_append]
      rcases hk with hk | hk
      · exact .inl hk
      · exact .inr (by simpa using hk)
    refine ⟨.idle rfl rfl nofun, fun q hq _ ↦ hq.of_events_eq (fun c hc ↦ hc) rfl,
      fun k hk ↦ .inr (haudits k (.inr hk)), fun e he ↦ .inl he,
      fun k hk ↦ haudits k (.inl hk)⟩
  | saving config => exact .of_events_eq rfl rfl (fun c hc ↦ hc) (.idle rfl rfl nofun) nofun
  | occurring source =>
    refine .of_events_eq rfl rfl (fun c hc ↦ ?_) (.idle rfl rfl nofun) nofun
    show c ∈ ((s.sources.insert source).getD s.sources).rows
    cases hinsert : s.sources.insert source with
    | none => exact hc
    | some sources => exact (mem_insert hinsert).mpr (.inl hc)
  | answered answer => exact .of_events_eq rfl rfl (fun c hc ↦ hc) hat nofun

theorem generating_keeps : generating.Keeps accountingRequests ConfigsAgree where
  start st request hst _ := by
    refine ⟨fun e he ↦ ?_, ?_, fun q _ c hc ↦ ?_⟩
    · rcases hst.inv e he with haudit | ⟨p, hp, hmade⟩
      · exact .inl haudit
      · exact .inr ⟨p, mem_append_left _ hp, hmade⟩
    · cases request <;> exact .idle rfl rfl nofun
    · cases request <;> cases hc
  turn st n p hst hC hp := by
    have hturn : GenerateTurn st.store p := generateTurn (hst.places p (mem_of_getElem? hp))
    have hlt := (List.getElem?_eq_some_iff.mp hp).1
    refine ⟨fun e he ↦ ?_, hturn.place, fun m q hmn hq ↦ ⟨?_, ?_⟩⟩
    · have hnew : (accountingTurn p st.store).2 ∈
          st.processes.set n (accountingTurn p st.store).2 := mem_set hlt _
      rcases hturn.events e he with hold | hmade
      · rcases hst.inv e hold with haudit | ⟨q, hq, hmade⟩
        · exact .inl (hturn.audits _ haudit)
        · obtain ⟨m, hm⟩ := mem_iff_getElem?.mp hq
          by_cases hmn : m = n
          · subst hmn
            rw [hp] at hm
            cases hm
            rcases hturn.made _ hmade with hstill | haudit
            · exact .inr ⟨_, hnew, hstill⟩
            · exact .inl haudit
          · refine .inr ⟨q, mem_of_getElem? (i := m) ?_, hmade⟩
            rw [getElem?_set_ne (Ne.symm hmn)]
            exact hm
      · exact .inr ⟨_, hnew, hmade⟩
    · exact hturn.others q (hst.places q (mem_of_getElem? hq))
        (hst.apart n m p q (Ne.symm hmn) hp hq)
    · intro c hc c' hc'
      rcases holds_turn hc with hold | ⟨rfl, hconfig⟩
      · exact hst.apart n m p q (Ne.symm hmn) hp hq c hold c' hc'
      · have hagree : AccountingProcess.configuring.ConfigsAgree st := hC _ hp
        exact (hagree c hconfig q (mem_of_getElem? hq) c' hc').symm

/-! ### The configuration of an event -/

variable {st₀ : State AccountingStore AccountingProcess} {trace : List (Event AccountingRequest)}

/-- **A call has read a configuration** that was in force then. -/
def ReadIn (st₀ : State AccountingStore AccountingProcess) (trace : List (Event AccountingRequest))
    (n : ℕ) (config : AccountingConfig) : Prop :=
  ∃ pre post, trace = pre ++ post ∧
    (run (step accountingRequests) st₀ pre).processes[n]? = some .configuring ∧
    (run (step accountingRequests) st₀ pre).store.config = some config

/-- **A call has created an event**, with the configuration that it had read. -/
def Created (st₀ : State AccountingStore AccountingProcess) (trace : List (Event AccountingRequest))
    (e : AccountingEvent) : Prop :=
  ∃ pre post n config source rest generated j, trace = pre ++ .turn n :: post ∧
    ReadIn st₀ pre n config ∧
    (run (step accountingRequests) st₀ pre).processes[n]? =
      some (.creating config source rest generated) ∧
    (run (step accountingRequests) st₀ pre).store.events.find? source.val.eventKey = none ∧
    journal source.val = .ok j ∧ e = eventOf config source.val j

theorem ReadIn.extend {n : ℕ} (h : ReadIn st₀ trace n config)
    (more : List (Event AccountingRequest)) : ReadIn st₀ (trace ++ more) n config := by
  obtain ⟨pre, post, rfl, hplace, hconfig⟩ := h
  exact ⟨pre, post ++ more, append_assoc pre post more, hplace, hconfig⟩

theorem Created.extend (h : Created st₀ trace e)
    (more : List (Event AccountingRequest)) : Created st₀ (trace ++ more) e := by
  obtain ⟨pre, post, n, config, source, rest, generated, j, rfl, hcreated⟩ := h
  exact ⟨pre, post ++ more, n, config, source, rest, generated, j,
    append_assoc pre _ more, hcreated⟩

theorem run_concat (trace : List (Event AccountingRequest)) (event : Event AccountingRequest) :
    run (step accountingRequests) st₀ (trace ++ [event]) =
      exec (step accountingRequests) (run (step accountingRequests) st₀ trace) event := by
  rw [run_append]
  rfl

/-- **Every call** holds what it has read. -/
theorem readIn_of_holds (hst : st₀.processes = []) (trace : List (Event AccountingRequest)) :
    ∀ n p, (run (step accountingRequests) st₀ trace).processes[n]? = some p →
      ∀ c ∈ p.holds, ReadIn st₀ trace n c := by
  induction trace using reverseRecOn with
  | nil =>
    intro n p hp
    rw [run_nil, hst] at hp
    cases hp
  | append_singleton trace event ih =>
    intro n p hp c hc
    rw [run_concat] at hp
    cases hstep : step accountingRequests (run (step accountingRequests) st₀ trace) event with
    | error e =>
      rw [exec, hstep] at hp
      exact (ih n p hp c hc).extend [event]
    | ok st' =>
      rw [exec_of_ok hstep] at hp
      cases event with
      | start request =>
        cases hstep
        rcases getElem?_concat_cases hp with ⟨-, rfl⟩ | ⟨-, hp⟩
        · cases request <;> cases hc
        · exact (ih n p hp c hc).extend _
      | turn m =>
        obtain ⟨p₀, hp₀, rfl⟩ := step_turn_eq_ok.mp hstep
        rcases getElem?_set_cases hp with ⟨rfl, rfl⟩ | ⟨-, hp⟩
        · rcases holds_turn hc with hold | ⟨rfl, hconfig⟩
          · exact (ih n p₀ hp₀ c hold).extend _
          · exact ⟨trace, [.turn n], rfl, hp₀, hconfig⟩
        · exact (ih n p hp c hc).extend _

/-- **Every event** has been created so. -/
theorem created_of_mem (hst : st₀.processes = []) (hevents : st₀.store.events.rows = [])
    (trace : List (Event AccountingRequest)) :
    ∀ e ∈ (run (step accountingRequests) st₀ trace).store.events.rows, Created st₀ trace e := by
  induction trace using reverseRecOn with
  | nil =>
    intro e he
    rw [run_nil, hevents] at he
    cases he
  | append_singleton trace event ih =>
    intro e he
    rw [run_concat] at he
    cases hstep : step accountingRequests (run (step accountingRequests) st₀ trace) event with
    | error failure =>
      rw [exec, hstep] at he
      exact (ih e he).extend [event]
    | ok st' =>
      rw [exec_of_ok hstep] at he
      cases event with
      | start request =>
        cases hstep
        exact (ih e he).extend _
      | turn n =>
        obtain ⟨p, hp, rfl⟩ := step_turn_eq_ok.mp hstep
        rcases events_turn he with hold |
          ⟨config, candidate, rest, generated, j, rfl, hnone, hj, heq⟩
        · exact (ih e hold).extend _
        · exact ⟨trace, [], n, config, candidate, rest, generated, j, rfl,
            readIn_of_holds hst trace n _ hp config rfl, hp, hnone, hj, heq⟩

/-! ### Calls end -/

def AccountingProcess.remaining : AccountingProcess → ℕ
  | .configuring => 2003
  | .selecting _ => 2002
  | .creating _ _ rest _ => 2 * rest.length + 3
  | .checking _ _ rest _ _ => 2 * rest.length + 2
  | .auditing _ => 1
  | .saving _ => 1
  | .occurring _ => 1
  | .answered _ => 0

theorem remaining_nextCandidate (config : AccountingConfig) (generated : List EventKey)
    (rest : List AccountingSource) :
    (nextCandidate config generated rest).remaining ≤ 2 * rest.length + 1 := by
  cases rest with
  | cons candidate rest =>
    show 2 * rest.length + 3 ≤ 2 * (rest.length + 1) + 1
    omega
  | nil =>
    rw [nextCandidate]
    split
    · exact Nat.zero_le 1
    · exact Nat.le_refl 1

theorem remaining_turn (p : AccountingProcess) (s : AccountingStore) :
    (accountingTurn p s).2.remaining ≤ p.remaining - 1 := by
  cases p with
  | configuring =>
    rw [accountingTurn]
    cases s.config with
    | none => exact Nat.zero_le _
    | some config => exact Nat.le_refl 2002
  | selecting config =>
    have hlength : s.sourceCandidates.length ≤ 1000 := by
      rw [AccountingStore.sourceCandidates, length_take]
      exact Nat.min_le_left _ _
    refine (remaining_nextCandidate config [] s.sourceCandidates).trans ?_
    show 2 * s.sourceCandidates.length + 1 ≤ 2001
    omega
  | creating config candidate rest generated =>
    obtain ⟨j, -, ⟨events, -, hcreate⟩ | ⟨e, -, hcreate⟩⟩ :=
      createTurn_cases s config candidate rest generated
    · rw [accountingTurn, hcreate]
      exact Nat.le_refl _
    · rw [accountingTurn, hcreate]
      exact Nat.le_refl _
  | checking config candidate rest generated fingerprint =>
    rw [accountingTurn]
    cases checkEvent s candidate.val.eventKey fingerprint with
    | error e => exact Nat.zero_le _
    | ok _ => exact remaining_nextCandidate config generated rest
  | _ => exact Nat.le_refl 0

theorem answered_of_remaining (h : p.remaining = 0) : ∃ answer, p = .answered answer := by
  cases p with
  | answered answer => exact ⟨answer, rfl⟩
  | _ => exact absurd h (by simp [AccountingProcess.remaining])

theorem remaining_le_start (request : AccountingRequest) :
    (accountingRequests.start request).remaining ≤ 2003 := by
  cases request with
  | generate => exact Nat.le_refl 2003
  | _ => exact (by decide : 1 ≤ 2003)

theorem remaining_le (hst : st₀.processes = []) (trace : List (Event AccountingRequest)) :
    ∀ p ∈ (run (step accountingRequests) st₀ trace).processes, p.remaining ≤ 2003 := by
  refine run_induct (P := fun st : State AccountingStore AccountingProcess ↦
    ∀ p ∈ st.processes, p.remaining ≤ 2003) (fun st event st' hst h p hp ↦ ?_) ?_ trace
  · cases event with
    | start request =>
      cases h
      rcases mem_append.mp hp with hp | hp
      · exact hst p hp
      · rw [mem_singleton.mp hp]
        exact remaining_le_start request
    | turn n =>
      obtain ⟨p₀, hp₀, rfl⟩ := step_turn_eq_ok.mp h
      rcases mem_or_eq_of_mem_set hp with hp | rfl
      · exact hst p hp
      · have hlower := remaining_turn p₀ st.store
        have hbound := hst p₀ (mem_of_getElem? hp₀)
        show (accountingTurn p₀ st.store).2.remaining ≤ 2003
        omega
  · rw [hst]
    exact fun p hp ↦ absurd hp not_mem_nil

/-! ### Runs -/

/-- **Calls end normally**: the one failure is that there is no configuration. -/
def EndsNormally (st : State AccountingStore AccountingProcess) : Prop :=
  ∀ e, .answered (.error e) ∈ st.processes → e = .ACCOUNTING_CONFIG_REQUIRED

/-- **Every event has its audit's record**, unless its call has not come to its end. -/
def Audited (st : State AccountingStore AccountingProcess) : Prop :=
  ∀ e ∈ st.store.events.rows, (∀ p ∈ st.processes, e.eventKey ∉ p.made) →
    ∃ batch ∈ st.store.audits, e.eventKey ∈ batch

/-- **Accounting events are generated once**: one to a source, by calls that come to their end, with
a record where the configurations agree. -/
theorem accounting_generated (config : Option AccountingConfig)
    (events : List (Event AccountingRequest)) :
    ((run (step accountingRequests) (.idle (.opening config)) events).store.events.rows.map
      AccountingEvent.eventKey).Nodup ∧
    (∀ e ∈ (run (step accountingRequests) (.idle (.opening config)) events).store.events.rows,
      Created (.idle (.opening config)) events e) ∧
    (∀ n later, n <
    (run (step accountingRequests) (.idle (.opening config)) events).processes.length →
      2003 ≤ later.countP (Event.isTurnOf n) →
      ∃ answer,
    (run (step accountingRequests) (.idle (.opening config)) (events ++ later)).processes[n]?
        = some (.answered answer)) ∧
    (Along (step accountingRequests) ConfigsAgree (.idle (.opening config)) events →
      EndsNormally (run (step accountingRequests) (.idle (.opening config)) events) ∧
      Audited (run (step accountingRequests) (.idle (.opening config)) events)) := by
  refine ⟨Table.nodup _, created_of_mem rfl rfl events, fun n later hn hlater ↦ ?_, fun h ↦ ?_⟩
  · obtain ⟨p, hp⟩ : ∃ p, (run (step accountingRequests) (.idle (.opening config))
        events).processes[n]? = some p := ⟨_, List.getElem?_eq_getElem hn⟩
    have hbound : p.remaining ≤ 2003 := remaining_le rfl events p (mem_of_getElem? hp)
    obtain ⟨q, hq, hle⟩ := @run_measure _ _ _ accountingRequests _ AccountingProcess.remaining
      _ _ remaining_turn hp later
    have hzero : q.remaining = 0 := by omega
    obtain ⟨answer, rfl⟩ := answered_of_remaining hzero
    rw [run_append]
    exact ⟨answer, hq⟩
  · have hopening : generating.Holds (.idle (.opening config)) :=
      .idle fun _ h ↦ absurd h not_mem_nil
    have hholds := generating_keeps.run hopening events h
    refine ⟨fun e he ↦ (hholds.places _ he).failure e rfl, fun e he hnot ↦ ?_⟩
    rcases hholds.inv e he with haudit | ⟨p, hp, hmade⟩
    · exact mem_flatten.mp haudit
    · exact absurd hmade (hnot p hp)

/-! ### Calls side by side, and calls that stop -/

instance (st : State AccountingStore AccountingProcess) (p : AccountingProcess) :
    Decidable (p.ConfigsAgree st) := by
  unfold AccountingProcess.ConfigsAgree
  split <;> infer_instance

def accountsOf (clearing : String) : AccountingConfig where
  paymentClearingAccount := textOf clearing
  salesRevenueAccount := textOf "4100-SALES"
  salesReturnsAccount := textOf "4110-RETURNS"
  taxPayableAccount := textOf "2100-TAX"
  inventoryAssetAccount := textOf "1200-INVENTORY"
  costOfGoodsSoldAccount := textOf "5100-COGS"
  cashAccount := textOf "1000-CASH"
  cashClearingAccount := textOf "2190-CASH-CLEARING"

def saleSource : AccountingSource where
  val := {
    eventKey := { sourceType := .SALE, sourceId := 1 }, occurredAt := 10, currency := textOf "MXN",
    referenceKey := textOf "S-1", subtotal := 10000, taxTotal := 1600, total := 11600,
    costTotal := 6000, cashType := none, reversedCashType := none }
  property := by decide

def noEvents : State AccountingStore AccountingProcess :=
  .idle (.opening (some (accountsOf "1100-CLEARING")))

def sideBySide (between : List (Event AccountingRequest)) : List (Event AccountingRequest) :=
  [.start (.source saleSource), .turn 0, .start .generate, .turn 1, .turn 1] ++ between ++
    [.start .generate]

theorem accounting_generated_twice :
    let events := sideBySide [] ++ List.replicate 2 (.turn 2) ++ List.replicate 3 (.turn 1) ++
      List.replicate 2 (.turn 2)
    EndsNormally (run (step accountingRequests) noEvents events) ∧
      Audited (run (step accountingRequests) noEvents events) :=
  (accounting_generated (some (accountsOf "1100-CLEARING")) _).2.2.2 (by decide +kernel)

def AccountingProcess.failure : AccountingProcess → Option AccountingFailure
  | .answered (.error e) => some e
  | _ => none

/-- **A call that fails, and an event without a record**: the accounts change between two calls, and
a call stops before its record. -/
theorem unrecorded :
    (let st := run (step accountingRequests) noEvents
      (sideBySide [.start (.saveConfig (accountsOf "1101-CLEARING")), .turn 2] ++
        List.replicate 2 (.turn 3) ++ List.replicate 3 (.turn 1) ++ List.replicate 2 (.turn 3))
    st.processes.map AccountingProcess.failure =
      [none, none, none, some .ACCOUNTING_IDEMPOTENCY_CONFLICT]) ∧
    (let st := run (step accountingRequests) noEvents
      (sideBySide [.turn 1] ++ List.replicate 2 (.turn 2))
    st.processes.map AccountingProcess.remaining = [0, 2, 0] ∧
      st.store.events.rows.map AccountingEvent.eventKey = [saleSource.val.eventKey] ∧
      st.store.audits = []) := by
  decide +kernel

end UInventario.Integrations.Accounting
