import UInventario.Foundations.Processes

/-!
# Requests under keys

A request that changes something carries a key, and a store that has executed one keeps under the
key what the request has been. `Ledger` says how to read such records off a store.

`Ledger.Kept` is what the turns of a system owe: a record stays, a request is answered normally only
when it asks for what the record says, and as a first one only when there was no record. Then
(`Kept.agree`) the requests answered under one key have all asked for the same, and at most one of
them was the first.
-/

universe u v w

namespace Processes

open Outcome List

/-- An answer: the key, what the request was, and whether it is a repetition. -/
structure Answered (κ β : Type v) where
  key : κ
  body : β
  replay : Bool
  deriving DecidableEq

/-- **The records of a store**, and the answers of requests. -/
structure Ledger (σ π : Type u) (κ β : Type v) where
  recorded : σ → κ → Option β
  answer : π → Option (Answered κ β)

variable {σ π : Type u} {κ β : Type v} {ι : Type w} {S : System σ π ι} {L : Ledger σ π κ β}
  {C : State σ π → Event ι → Prop} {I : σ → Prop}

/-- **Requests under one key agree**: they asked for the same, and one was the first. -/
def Ledger.Agree (L : Ledger σ π κ β) (processes : List π) : Prop :=
  ∀ (m n : ℕ) p q a b, m ≠ n → processes[m]? = some p → processes[n]? = some q →
    L.answer p = some a → L.answer q = some b → a.key = b.key →
    a.body = b.body ∧ (a.replay = true ∨ b.replay = true)

theorem Ledger.Agree.answers {processes : List π} (h : L.Agree processes) {m n : ℕ}
    {a b : Answered κ β} (hmn : m ≠ n) (ha : (processes.map L.answer)[m]? = some (some a))
    (hb : (processes.map L.answer)[n]? = some (some b)) (hkey : a.key = b.key) :
    a.body = b.body ∧ (a.replay = true ∨ b.replay = true) := by
  rw [getElem?_map] at ha hb
  obtain ⟨p, hp, ha⟩ := Option.map_eq_some_iff.mp ha
  obtain ⟨q, hq, hb⟩ := Option.map_eq_some_iff.mp hb
  exact h m n p q a b hmn hp hq ha hb hkey

/-- **What turns owe to the records**, under an invariant of the store. -/
structure Ledger.Kept (L : Ledger σ π κ β) (S : System σ π ι) (C : State σ π → Event ι → Prop)
    (I : σ → Prop) : Prop where
  start : ∀ request, L.answer (S.start request) = none
  inv : ∀ (s : σ) p, I s → I (S.turn p s).1
  record : ∀ (s : σ) p k b, I s → L.recorded s k = some b → L.recorded (S.turn p s).1 k = some b
  answer : ∀ (st : State σ π) (n : ℕ) p a, I st.store → C st (.turn n) →
    st.processes[n]? = some p → L.answer (S.turn p st.store).2 = some a → L.answer p = some a ∨
      (L.recorded (S.turn p st.store).1 a.key = some a.body ∧
        (a.replay = false → L.recorded st.store a.key = none))

/-- The outline: an answered request has a record, and two of one key have not both been first. -/
def Ledger.outline (L : Ledger σ π κ β) (I : σ → Prop) : Outline σ π where
  Inv st := I st.store
  At p s := ∀ a, L.answer p = some a → L.recorded s a.key = some a.body
  Apart p q := ∀ a b, L.answer p = some a → L.answer q = some b → a.key = b.key →
    a.replay = true ∨ b.replay = true
  symm h a b ha hb hkey := (h b a hb ha hkey.symm).symm

theorem Ledger.Kept.keeps (h : L.Kept S C I) : (L.outline I).Keeps S C where
  start st request hst _ := by
    refine ⟨hst.inv, fun a ha ↦ ?_, fun q _ a b ha _ _ ↦ ?_⟩
    · rw [h.start request] at ha
      cases ha
    · rw [h.start request] at ha
      cases ha
  turn st n p hst hC hp := by
    have hI : I st.store := hst.inv
    have hmem : p ∈ st.processes := mem_of_getElem? hp
    have hothers : ∀ q ∈ st.processes, ∀ b, L.answer q = some b →
        L.recorded st.store b.key = some b.body := fun q hq ↦ hst.places q hq
    refine ⟨h.inv st.store p hI, fun a ha ↦ ?_, fun m q hmn hq ↦ ⟨fun b hb ↦ ?_, ?_⟩⟩
    · rcases h.answer st n p a hI hC hp ha with hold | ⟨hnew, -⟩
      · exact h.record st.store p a.key a.body hI (hothers p hmem a hold)
      · exact hnew
    · exact h.record st.store p b.key b.body hI (hothers q (mem_of_getElem? hq) b hb)
    · intro a b ha hb hkey
      rcases h.answer st n p a hI hC hp ha with hold | ⟨-, hfirst⟩
      · exact hst.apart n m p q (Ne.symm hmn) hp hq a b hold hb hkey
      · -- a first request finds no record, and the other one has left its own
        cases hreplay : a.replay with
        | true => exact .inl rfl
        | false =>
          have hnone := hfirst hreplay
          rw [hkey, hothers q (mem_of_getElem? hq) b hb] at hnone
          cases hnone

/-- **The rule**: in every run from a store without requests, the requests under one key agree. -/
theorem Ledger.Kept.agree (h : L.Kept S C I) {s : σ} (hs : I s) (events : List (Event ι))
    (hC : Along (step S) C (.idle s) events) :
    L.Agree (run (step S) (.idle s) events).processes := by
  have hholds := h.keeps.run (.idle hs) events hC
  intro m n p q a b hmn hp hq ha hb hkey
  have hbodyA : L.recorded _ a.key = some a.body := hholds.places p (mem_of_getElem? hp) a ha
  have hbodyB : L.recorded _ b.key = some b.body := hholds.places q (mem_of_getElem? hq) b hb
  rw [hkey, hbodyB] at hbodyA
  exact ⟨(Option.some.inj hbodyA).symm, hholds.apart m n p q hmn hp hq a b ha hb hkey⟩

end Processes
