import UInventario.Foundations.Outcome
import Mathlib.Data.List.Nodup

/-!
# Two lists side by side

Two loops that run over lists of the same shape are compared element by element. A list of rows with
a key that no two of them share is determined by its rows and the order of the keys
(`eq_of_perm_of_map_eq`); what two results have in common is decided at each index
(`map_eq_map_iff_forall₂`).
-/

universe u v w

namespace Pointwise

open List

variable {α β γ δ κ : Type u} {f : α → γ} {l : List α} {f' : β → γ} {R : α → β → Prop} {l' : List β}

/-- An equality of images passes to what is computed from the images. -/
theorem map_comp_congr
    (h : l.map f = l'.map f') (g : γ → δ) : l.map (fun a ↦ g (f a)) = l'.map fun b ↦ g (f' b) := by
  show l.map (g ∘ f) = l'.map (g ∘ f')
  rw [← map_map, h, map_map]

theorem map_pair_congr {g : α → δ} {g' : β → δ} (hf : l.map f = l'.map f')
    (hg : l.map g = l'.map g') : l.map (fun a ↦ (f a, g a)) = l'.map fun b ↦ (f' b, g' b) := by
  induction l generalizing l' with
  | nil => cases l' with
    | nil => rfl
    | cons b l' => simp at hf
  | cons a l ih => cases l' with
    | nil => simp at hf
    | cons b l' =>
      simp only [map_cons, List.cons.injEq] at hf hg
      rw [map_cons, map_cons, hf.1, hg.1, ih hf.2 hg.2]

/-- Rows that are told apart by a key are determined by their order. -/
theorem eq_of_perm_of_map_eq (key : α → κ) {l' : List α} (hnodup : (l.map key).Nodup)
    (hperm : l.Perm l') (hkeys : l.map key = l'.map key) : l = l' := by
  refine ext_getElem hperm.length_eq fun i hi hi' ↦ ?_
  have hkey : key l[i] = key l'[i] := by
    rw [← getElem_map key (h := by simpa using hi),
      ← getElem_map key (h := by simpa using hi')]
    simp only [hkeys]
  exact inj_on_of_nodup_map hnodup (getElem_mem hi)
    (hperm.mem_iff.mpr (getElem_mem hi')) hkey

/-- Two results are equal where their elements are, index by index. -/
theorem map_eq_map_iff_forall₂ {R' : α → β → Prop} {c : α → γ} {s : β → δ} {A : α → α → Prop}
    (hA : ∀ a a' b b', R a b → R' a' b' → c a = c a' → (s b = s b' ↔ A a a')) :
    ∀ {as as' : List α} {bs bs' : List β}, List.Forall₂ R as bs → List.Forall₂ R' as' bs' →
      as.map c = as'.map c → (bs.map s = bs'.map s ↔ List.Forall₂ A as as') := by
  intro as as' bs bs' h
  induction h generalizing as' bs' with
  | nil =>
    intro h' hc
    rw [map_nil, nil_eq, map_eq_nil_iff] at hc
    subst hc
    cases h'
    simp
  | @cons a b as bs hab _ ih =>
    intro h' hc
    cases h' with
    | nil => simp at hc
    | @cons a' b' as' bs' hab' h' =>
      simp only [map_cons, List.cons.injEq] at hc
      rw [map_cons, map_cons, List.cons.injEq, forall₂_cons, ih h' hc.2,
        hA a a' b b' hab hab' hc.1]

theorem map_eq_of_forall₂ {g : β → γ}
    (hR : ∀ a b, R a b → g b = f a) {as : List α} {bs : List β} (h : List.Forall₂ R as bs) :
    bs.map g = as.map f := by
  induction h with
  | nil => rfl
  | cons hhead _ ih => rw [map_cons, map_cons, ih, hR _ _ hhead]

variable {ε : Type v} {α β γ : Type w}

theorem mapM_mapM_eq_ok {f : α → Except ε β} {g : β → Except ε γ} :
    ∀ {as : List α} {bs : List β} {cs : List γ}, as.mapM f = .ok bs → bs.mapM g = .ok cs →
      List.Forall₂ (fun a c ↦ ∃ b, f a = .ok b ∧ g b = .ok c) as cs := by
  intro as bs cs hf hg
  replace hf := Outcome.mapM_eq_ok hf
  replace hg := Outcome.mapM_eq_ok hg
  induction hf generalizing cs with
  | nil =>
    cases hg
    exact .nil
  | cons hhead _ ih =>
    cases hg with
    | cons hhead' htail' => exact .cons ⟨_, hhead, hhead'⟩ (ih htail')

end Pointwise
