import Mathlib.Algebra.BigOperators.Group.List.Basic
import Mathlib.Algebra.Order.BigOperators.Group.List
import Mathlib.Algebra.Order.Group.Int
import Mathlib.Order.Lattice
import Mathlib.Tactic.Ring

/-!
# Greedy draws

A quantity is drawn from a list of sources in order, from each as much as it has and as is still
wanted: `draws`, with `unmet` what the sources cannot cover, and `drawnFrom` what is drawn from the
sources that satisfy a predicate.

A draw takes at most what the source has (`mem_draws`), the draws and the rest add up
(`drawn_add_unmet`), an earlier source is emptied before a later one (`pairwise_draws`), and nothing
is unmet exactly when the sources have enough (`unmet_eq_zero_iff`). Then they fall into those that
are emptied, at most one that is not, and the others (`exists_split`).
-/

universe u

namespace Greedy

open List

variable {ρ : Type u} (avail : ρ → ℤ)

/-- What is drawn from each source. -/
def draws : ℤ → List ρ → List (ρ × ℤ)
  | _, [] => []
  | quantity, r :: rs =>
    (r, min (avail r) quantity) :: draws (quantity - min (avail r) quantity) rs

/-- What the sources cannot cover. -/
def unmet : ℤ → List ρ → ℤ
  | quantity, [] => quantity
  | quantity, r :: rs => unmet (quantity - min (avail r) quantity) rs

/-- What is drawn from the sources that satisfy `P`. -/
def drawnFrom (P : ρ → Bool) (quantity : ℤ) (rs : List ρ) : ℤ :=
  ((draws avail quantity rs).map fun d ↦ if P d.1 then d.2 else 0).sum

variable {avail}

@[simp] theorem draws_nil (quantity : ℤ) : draws avail quantity [] = [] := rfl

@[simp] theorem draws_cons (quantity : ℤ) (r : ρ) (rs : List ρ) : draws avail quantity (r :: rs) =
      (r, min (avail r) quantity) :: draws avail (quantity - min (avail r) quantity) rs := rfl

@[simp] theorem unmet_nil (quantity : ℤ) : unmet avail quantity [] = quantity := rfl

@[simp] theorem unmet_cons (quantity : ℤ) (r : ρ) (rs : List ρ) :
    unmet avail quantity (r :: rs) = unmet avail (quantity - min (avail r) quantity) rs := rfl

@[simp] theorem drawnFrom_nil (P : ρ → Bool) (quantity : ℤ) :
    drawnFrom avail P quantity [] = 0 := rfl

@[simp] theorem drawnFrom_cons (P : ρ → Bool) (quantity : ℤ) (r : ρ) (rs : List ρ) :
    drawnFrom avail P quantity (r :: rs) = (if P r then min (avail r) quantity else 0) +
        drawnFrom avail P (quantity - min (avail r) quantity) rs := by
  simp [drawnFrom]

theorem map_fst_draws (quantity : ℤ) (rs : List ρ) :
    (draws avail quantity rs).map Prod.fst = rs := by
  induction rs generalizing quantity with
  | nil => rfl
  | cons r rs ih => rw [draws_cons, map_cons, ih]

variable {rs : List ρ}

section

variable (havail : ∀ r ∈ rs, 0 ≤ avail r)
include havail

/-- A draw is of one of the sources, and takes at most what it has. -/
theorem mem_draws :
    ∀ {quantity : ℤ}, 0 ≤ quantity → ∀ d ∈ draws avail quantity rs,
      d.1 ∈ rs ∧ 0 ≤ d.2 ∧ d.2 ≤ avail d.1 := by
  induction rs with
  | nil => exact fun _ d hd ↦ absurd hd not_mem_nil
  | cons r rs ih =>
    intro quantity hquantity d hd
    have hr := havail r mem_cons_self
    rcases List.mem_cons.mp hd with rfl | hd
    · exact ⟨mem_cons_self, le_min hr hquantity, min_le_left _ _⟩
    · obtain ⟨hmem, hlow, hhigh⟩ := ih (fun r' hr' ↦ havail r' (mem_cons_of_mem r hr'))
        (sub_nonneg.mpr (min_le_right _ _)) d hd
      exact ⟨mem_cons_of_mem r hmem, hlow, hhigh⟩

/-- The unmet rest is what the quantity exceeds the sources by. -/
theorem unmet_eq :
    ∀ {quantity : ℤ}, 0 ≤ quantity → unmet avail quantity rs =
    max 0 (quantity - (rs.map avail).sum) := by
  induction rs with
  | nil =>
    intro quantity hquantity
    simp [hquantity]
  | cons r rs ih =>
    intro quantity hquantity
    have hrest : ∀ r' ∈ rs, 0 ≤ avail r' := fun r' hr' ↦ havail r' (mem_cons_of_mem r hr')
    have hsum : 0 ≤ (rs.map avail).sum := by
      refine sum_nonneg (List.forall_mem_map.mpr fun r' hr' ↦ ?_)
      exact hrest r' hr'
    rw [unmet_cons, ih hrest (by omega), map_cons, sum_cons]
    omega

/-- **The sources have enough** exactly when nothing is left unmet. -/
theorem unmet_eq_zero_iff {quantity : ℤ} (hquantity : 0 ≤ quantity) :
    unmet avail quantity rs = 0 ↔ quantity ≤ (rs.map avail).sum := by
  rw [unmet_eq havail hquantity]
  omega

end

/-- What is drawn and what is unmet add up to the quantity. -/
theorem drawn_add_unmet (quantity : ℤ) (rs : List ρ) :
    drawnFrom avail (fun _ ↦ true) quantity rs + unmet avail quantity rs = quantity := by
  induction rs generalizing quantity with
  | nil => simp
  | cons r rs ih =>
    rw [drawnFrom_cons, unmet_cons, add_assoc, ih]
    simp

/-- When every source satisfies the predicate, everything drawn is counted. -/
theorem drawnFrom_of_forall {P : ρ → Bool} (hP : ∀ r ∈ rs, P r = true) (quantity : ℤ) :
    drawnFrom avail P quantity rs = quantity - unmet avail quantity rs := by
  have hall : drawnFrom avail P quantity rs = drawnFrom avail (fun _ ↦ true) quantity rs := by
    induction rs generalizing quantity with
    | nil => rfl
    | cons r rs ih =>
      rw [drawnFrom_cons, drawnFrom_cons, hP r mem_cons_self,
        ih fun r' hr' ↦ hP r' (mem_cons_of_mem r hr')]
  have hsum : drawnFrom avail (fun _ ↦ true) quantity rs + unmet avail quantity rs = quantity :=
    drawn_add_unmet quantity rs
  omega

section

variable (havail : ∀ r ∈ rs, 0 ≤ avail r)
include havail

/-- What is drawn from the sources of a predicate is not negative and at most what they have. -/
theorem drawnFrom_bounds {P : ρ → Bool} :
    ∀ {quantity : ℤ}, 0 ≤ quantity → 0 ≤ drawnFrom avail P quantity rs ∧
      drawnFrom avail P quantity rs ≤ (rs.map fun r ↦ if P r then avail r else 0).sum := by
  induction rs with
  | nil => simp
  | cons r rs ih =>
    intro quantity hquantity
    have hr := havail r mem_cons_self
    obtain ⟨hlow, hhigh⟩ := ih (fun r' hr' ↦ havail r' (mem_cons_of_mem r hr'))
      (show 0 ≤ quantity - min (avail r) quantity by omega)
    rw [drawnFrom_cons, map_cons, sum_cons]
    split <;> constructor <;> omega

/-! ### Where a draw ends -/

theorem draws_zero : draws avail 0 rs = rs.map fun r ↦ (r, 0) := by
  induction rs with
  | nil => rfl
  | cons r rs ih =>
    have hr : min (avail r) 0 = 0 := min_eq_right (havail r mem_cons_self)
    rw [draws_cons, hr, sub_zero, ih fun r' hr' ↦ havail r' (mem_cons_of_mem r hr')]
    rfl

/-- **In order**: nothing is drawn from a source while an earlier one keeps something. -/
theorem pairwise_draws : ∀ {quantity : ℤ}, 0 ≤ quantity →
      (draws avail quantity rs).Pairwise fun d e ↦ d.2 = avail d.1 ∨ e.2 = 0 := by
  induction rs with
  | nil => exact fun _ ↦ List.Pairwise.nil
  | cons r rs ih =>
    intro quantity hquantity
    have hrest : ∀ r' ∈ rs, 0 ≤ avail r' := fun r' hr' ↦ havail r' (mem_cons_of_mem r hr')
    rw [draws_cons, pairwise_cons]
    refine ⟨fun e he ↦ ?_, ih hrest (sub_nonneg.mpr (min_le_right _ _))⟩
    rcases le_or_gt (avail r) quantity with hle | hlt
    · exact Or.inl (min_eq_left hle)
    · rw [min_eq_right hlt.le, sub_self, draws_zero hrest] at he
      obtain ⟨r', -, rfl⟩ := List.mem_map.mp he
      exact Or.inr rfl

end

/-- **The sources in three parts**: emptied, drawn from in part, and left. -/
structure Split (avail : ρ → ℤ) (quantity : ℤ) (rs : List ρ) where
  emptied : List ρ
  partly : Option (ρ × ℤ)
  later : List ρ
  sources_eq : rs = emptied ++ partly.toList.map Prod.fst ++ later
  draws_eq : draws avail quantity rs =
    (emptied.map fun r ↦ (r, avail r)) ++ partly.toList ++ later.map fun r ↦ (r, 0)
  quantity_eq : quantity = (emptied.map avail).sum + (partly.toList.map Prod.snd).sum
  partly_lt : ∀ d ∈ partly, 0 < d.2 ∧ d.2 < avail d.1

/-- **Sources that have enough** are drawn from in three parts. -/
theorem exists_split (havail : ∀ r ∈ rs, 0 ≤ avail r) :
    ∀ {quantity : ℤ}, 0 ≤ quantity → quantity ≤ (rs.map avail).sum →
      Nonempty (Split avail quantity rs) := by
  induction rs with
  | nil =>
    intro quantity hquantity henough
    have hzero : quantity = 0 := le_antisymm henough hquantity
    exact ⟨⟨[], none, [], rfl, rfl, hzero, fun d hd ↦ absurd hd (by simp)⟩⟩
  | cons r rs ih =>
    intro quantity hquantity henough
    have hrest : ∀ r' ∈ rs, 0 ≤ avail r' := fun r' hr' ↦ havail r' (mem_cons_of_mem r hr')
    rw [map_cons, sum_cons] at henough
    rcases le_or_gt (avail r) quantity with hle | hlt
    · -- the source is emptied, and the rest is drawn from the others
      obtain ⟨t⟩ := ih hrest (show 0 ≤ quantity - avail r by omega) (by omega)
      refine ⟨⟨r :: t.emptied, t.partly, t.later, ?_, ?_, ?_, t.partly_lt⟩⟩
      · rw [cons_append, cons_append, ← t.sources_eq]
      · rw [draws_cons, min_eq_left hle, t.draws_eq]
        rfl
      · have := t.quantity_eq
        rw [map_cons, sum_cons]
        omega
    · have hdraws : draws avail quantity (r :: rs) = (r, quantity) :: rs.map fun r ↦ (r, 0) := by
        rw [draws_cons, min_eq_right hlt.le, sub_self, draws_zero hrest]
      rcases hquantity.lt_or_eq with hpos | hzero
      · refine ⟨⟨[], some (r, quantity), rs, rfl, hdraws, by simp, ?_⟩⟩
        rintro d hd
        obtain rfl := Option.mem_some_iff.mp hd
        exact ⟨hpos, hlt⟩
      · refine ⟨⟨[], none, r :: rs, rfl, ?_, hzero.symm, fun d hd ↦ absurd hd (by simp)⟩⟩
        rw [hdraws, ← hzero]
        rfl

end Greedy
