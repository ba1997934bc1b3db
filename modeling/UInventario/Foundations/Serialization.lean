import Mathlib.Data.List.Basic
import Mathlib.Logic.Function.Basic

/-!
# Values written one after the other

A value is written as a list of numbers. `SelfDelimiting` says that it can be told where it ends: of
two values, each followed by anything, written as the same list, both the values and what follows
are the same. It passes to pairs, lists, optional values and through injective functions; and a
writer with it is injective.
-/

universe u v

namespace Serialization

open List

variable {σ : Type*} {α : Type u} {β : Type v}

/-- **A writer whose values can be told apart** with anything behind them. -/
def SelfDelimiting (write : α → List σ) : Prop :=
  ∀ a b xs ys, write a ++ xs = write b ++ ys → a = b ∧ xs = ys

/-- Values in the order in which they are written. -/
def writePair (f : α → List σ) (g : β → List σ) (p : α × β) : List σ :=
  f p.1 ++ g p.2

/-- An optional value, behind a sign that tells whether it is there. -/
def writeOption (f : α → List ℕ) : Option α → List ℕ
  | none => [0]
  | some a => 1 :: f a

/-- A list, behind its length. -/
def writeList (f : α → List ℕ) (l : List α) : List ℕ :=
  l.length :: l.flatMap f

namespace SelfDelimiting

theorem injective {write : α → List σ} (h : SelfDelimiting write) : Function.Injective write := by
  intro a b hab
  exact (h a b [] [] (by rw [hab])).1

theorem singleton : SelfDelimiting fun a : α ↦ [a] := by
  intro a b xs ys h
  obtain ⟨rfl, rfl⟩ := List.cons.inj h
  exact ⟨rfl, rfl⟩

theorem comp {write : β → List σ} (h : SelfDelimiting write) {f : α → β}
    (hf : Function.Injective f) : SelfDelimiting fun a ↦ write (f a) := by
  intro a b xs ys hab
  obtain ⟨heq, hrest⟩ := h _ _ _ _ hab
  exact ⟨hf heq, hrest⟩

theorem pair {f : α → List σ} {g : β → List σ} (hf : SelfDelimiting f) (hg : SelfDelimiting g) :
    SelfDelimiting (writePair f g) := by
  rintro ⟨a, b⟩ ⟨a', b'⟩ xs ys h
  rw [writePair, writePair, append_assoc, append_assoc] at h
  obtain ⟨rfl, htail⟩ := hf _ _ _ _ h
  obtain ⟨rfl, hrest⟩ := hg _ _ _ _ htail
  exact ⟨rfl, hrest⟩

theorem option {f : α → List ℕ} (hf : SelfDelimiting f) : SelfDelimiting (writeOption f) := by
  intro a b xs ys h
  cases a with
  | none =>
    cases b with
    | none => exact ⟨rfl, (List.cons.inj h).2⟩
    | some b => exact absurd (List.cons.inj h).1 nofun
  | some a =>
    cases b with
    | none => exact absurd (List.cons.inj h).1 nofun
    | some b =>
      obtain ⟨rfl, hrest⟩ := hf _ _ _ _ (List.cons.inj h).2
      exact ⟨rfl, hrest⟩

theorem flatMap {f : α → List σ} (hf : SelfDelimiting f) :
    ∀ {l l' : List α} {xs ys : List σ}, l.length = l'.length →
      l.flatMap f ++ xs = l'.flatMap f ++ ys → l = l' ∧ xs = ys := by
  intro l
  induction l with
  | nil =>
    intro l' xs ys hlength h
    obtain rfl := length_eq_zero_iff.mp hlength.symm
    exact ⟨rfl, h⟩
  | cons a l ih =>
    intro l' xs ys hlength h
    cases l' with
    | nil => exact absurd hlength nofun
    | cons b l' =>
      rw [flatMap_cons, flatMap_cons, append_assoc, append_assoc] at h
      obtain ⟨rfl, htail⟩ := hf _ _ _ _ h
      obtain ⟨rfl, hrest⟩ := ih (Nat.succ.inj hlength) htail
      exact ⟨rfl, hrest⟩

theorem list {f : α → List ℕ} (hf : SelfDelimiting f) : SelfDelimiting (writeList f) := by
  intro l l' xs ys h
  obtain ⟨hlength, h⟩ := List.cons.inj h
  exact hf.flatMap hlength h

end SelfDelimiting

end Serialization
