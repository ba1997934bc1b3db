import Mathlib.Algebra.BigOperators.Group.List.Basic
import Mathlib.Algebra.BigOperators.Ring.List
import Mathlib.Algebra.Order.BigOperators.Group.List
import Mathlib.Algebra.Order.Ring.Int
import Mathlib.Data.List.Nodup

/-!
# Sums over lists

A `SELECT SUM(…) … JOIN … GROUP BY` is a sum of sums, and what is proved about it is that it can be
added up in another order, or that only one element counts. The lemmas here say so for lists, with
integers as weights.
-/

universe u v

namespace Sums

open List

variable {α : Type u} {β : Type v}

theorem sum_flatMap (f : β → ℤ) (g : α → List β) (l : List α) :
    ((l.flatMap g).map f).sum = (l.map fun a ↦ ((g a).map f).sum).sum := by
  induction l with
  | nil => rfl
  | cons a l ih =>
    rw [flatMap_cons, map_append, sum_append, ih, map_cons, sum_cons]

theorem sum_filter (p : α → Bool) (f : α → ℤ) (l : List α) :
    ((l.filter p).map f).sum = (l.map fun a ↦ if p a = true then f a else 0).sum := by
  induction l with
  | nil => rfl
  | cons a l ih =>
    rw [filter_cons, map_cons, sum_cons, ← ih]
    split
    · rw [map_cons, sum_cons]
    · rw [zero_add]

/-- **A double sum** can be added up in either order. -/
theorem sum_comm (f : α → β → ℤ) (l : List α) (m : List β) :
    (l.map fun a ↦ (m.map fun b ↦ f a b).sum).sum =
      (m.map fun b ↦ (l.map fun a ↦ f a b).sum).sum := by
  induction l with
  | nil => simp
  | cons a l ih =>
    simp only [map_cons, sum_cons, sum_map_add]
    rw [ih]

theorem sum_zipIdx_single (c : ℤ) (n : ℕ) :
    ∀ (l : List α) (k : ℕ), ((l.zipIdx k).map fun x ↦ if x.2 = n then c else 0).sum =
      if k ≤ n ∧ n < k + l.length then c else 0 := by
  intro l
  induction l with
  | nil =>
    intro k
    rw [zipIdx_nil, map_nil, sum_nil, if_neg]
    rw [length_nil]
    omega
  | cons a l ih =>
    intro k
    rw [zipIdx_cons, map_cons, sum_cons, ih, length_cons]
    by_cases hk : k = n
    · subst hk
      rw [if_pos rfl, if_neg (by omega), if_pos (by omega), add_zero]
    · have heq : (k + 1 ≤ n ∧ n < k + 1 + l.length) ↔ (k ≤ n ∧ n < k + (l.length + 1)) := by omega
      rw [if_neg hk, zero_add, if_congr heq rfl rfl]

/-- Elements with pairwise different keys: at most one has the key that counts. -/
theorem sum_key_le {κ : Type v} [DecidableEq κ] (key : α → κ) (f : α → ℤ) {k : κ} {bound : ℤ}
    (hbound : 0 ≤ bound) :
    ∀ {l : List α}, (l.map key).Nodup → (∀ a ∈ l, key a = k → f a ≤ bound) →
      (l.map fun a ↦ if key a = k then f a else 0).sum ≤ bound := by
  intro l
  induction l with
  | nil => exact fun _ _ ↦ hbound
  | cons a l ih =>
    intro hnodup hle
    obtain ⟨hnotin, hnodup⟩ := nodup_cons.mp hnodup
    have hrest := ih hnodup fun b hb ↦ hle b (mem_cons_of_mem a hb)
    rw [map_cons, sum_cons]
    split
    case isTrue hk =>
      have hzero : (l.map fun b ↦ if key b = k then f b else 0).sum = 0 := by
        refine sum_eq_zero (forall_mem_map.mpr fun b hb ↦ ?_)
        rw [if_neg]
        intro hbk
        exact hnotin (mem_map.mpr ⟨b, hb, hbk.trans hk.symm⟩)
      have := hle a mem_cons_self hk
      omega
    case isFalse => omega

/-- Elements with pairwise different keys: the one that has the key is all that counts. -/
theorem sum_key_eq {κ : Type v} [DecidableEq κ] (key : α → κ) (f : α → ℤ) {a : α} :
    ∀ {l : List α}, (l.map key).Nodup → a ∈ l →
      (l.map fun b ↦ if key b = key a then f b else 0).sum = f a := by
  intro l
  induction l with
  | nil => exact fun _ h ↦ absurd h not_mem_nil
  | cons b l ih =>
    intro hnodup ha
    obtain ⟨hnotin, hnodup⟩ := nodup_cons.mp hnodup
    rw [map_cons, sum_cons]
    rcases mem_cons.mp ha with rfl | ha
    · have hzero : (l.map fun b ↦ if key b = key a then f b else 0).sum = 0 := by
        refine sum_eq_zero (forall_mem_map.mpr fun b hb ↦ ?_)
        exact if_neg fun hba ↦ hnotin (mem_map.mpr ⟨b, hb, hba⟩)
      rw [if_pos rfl, hzero, add_zero]
    · rw [if_neg fun hba ↦ hnotin (mem_map.mpr ⟨a, ha, hba.symm⟩), zero_add]
      exact ih hnodup ha

/-- **Filled in order**, the due less everything filled is what is missing of the due. -/
theorem max_due_sub_filled {due : α → Bool} {f g : α → ℤ} {l : List α}
    (hbounds : ∀ x ∈ l, 0 ≤ g x ∧ g x ≤ f x)
    (horder : ∀ x ∈ l, ∀ y ∈ l, due x = true → due y = false → g x = f x ∨ g y = 0) :
    max (((l.filter due).map f).sum - (l.map g).sum) 0 =
      (l.map fun x ↦ if due x = true then f x - g x else 0).sum := by
  have hfilled : (l.map g).sum = (l.map fun x ↦ if due x = true then g x else 0).sum +
      (l.map fun x ↦ if due x = true then 0 else g x).sum := by
    rw [← sum_map_add]
    refine congrArg List.sum (map_congr_left fun x _ ↦ ?_)
    split <;> omega
  have hmissing : (l.map fun x ↦ if due x = true then f x - g x else 0).sum =
      ((l.filter due).map f).sum - (l.map fun x ↦ if due x = true then g x else 0).sum := by
    rw [sum_filter, eq_sub_iff_add_eq, ← sum_map_add]
    refine congrArg List.sum (map_congr_left fun x _ ↦ ?_)
    split <;> omega
  have hnonneg : ∀ {h : α → ℤ}, (∀ x ∈ l, 0 ≤ h x) → 0 ≤ (l.map h).sum := by
    intro h hh
    refine sum_nonneg (forall_mem_map.mpr fun x hx ↦ ?_)
    exact hh x hx
  by_cases hlater : ∃ y ∈ l, due y = false ∧ g y ≠ 0
  case pos =>
    obtain ⟨y, hy, hnot, hpaid⟩ := hlater
    have hnone : (l.map fun x ↦ if due x = true then f x - g x else 0).sum = 0 := by
      refine sum_eq_zero (forall_mem_map.mpr fun x hx ↦ ?_)
      split
      case isTrue hdue => rw [(horder x hx y hy hdue hnot).resolve_right hpaid, sub_self]
      case isFalse => rfl
    have hrest : 0 ≤ (l.map fun x ↦ if due x = true then 0 else g x).sum := by
      refine hnonneg fun x hx ↦ ?_
      split
      · exact le_rfl
      · exact (hbounds x hx).1
    rw [hnone] at hmissing ⊢
    omega
  case neg =>
    have hrest : (l.map fun x ↦ if due x = true then 0 else g x).sum = 0 := by
      refine sum_eq_zero (forall_mem_map.mpr fun x hx ↦ ?_)
      split
      case isTrue => rfl
      case isFalse hnot =>
        exact not_not.mp fun hne ↦ hlater ⟨x, hx, Bool.not_eq_true _ ▸ hnot, hne⟩
    have hmore : 0 ≤ (l.map fun x ↦ if due x = true then f x - g x else 0).sum := by
      refine hnonneg fun x hx ↦ ?_
      split
      · exact Int.sub_nonneg_of_le (hbounds x hx).2
      · exact le_rfl
    omega

end Sums
