import Mathlib.Data.List.Induction
import Mathlib.Order.Lattice

/-!
# Registers in which the latest entry wins

A register keeps the entry with the greatest stamp it has been given. What arrives late is dropped
(`Takes`), and an entry can be *final*: the register takes nothing more.

Without final entries the order in which a register is given its entries makes no difference, and
neither does a repetition. A final entry does no harm where it has the greatest stamp of all:
`foldl_put_congr` compares two lists with the same entries. `Outcome` says of the result what it is
in terms of the entries alone: the register as it was, if it takes none of them, or the greatest.
-/

universe u v w x

/-- **A register**: its stamp, whether it is closed, and what is written into it. -/
structure LatestWins (σ : Type u) (α : Type v) (κ : Type w) [LinearOrder κ] where
  /-- The stamp of the entry written last. -/
  stamp : σ → κ
  /-- The register takes nothing more. -/
  closed : σ → Prop
  /-- The stamp of an entry. -/
  key : α → κ
  /-- The entry closes the register. -/
  final : α → Prop
  /-- The register with an entry written into it. -/
  write : σ → α → σ
  stamp_write : ∀ s a, stamp (write s a) = key a
  closed_write : ∀ s a, closed (write s a) ↔ final a

namespace LatestWins

open List

variable {σ : Type u} {α : Type v} {κ : Type w} [LinearOrder κ] (R : LatestWins σ α κ)

/-- Whether an entry is news. -/
def Takes (s : σ) (a : α) : Prop :=
  ¬R.closed s ∧ R.stamp s < R.key a

variable [∀ s a, Decidable (R.Takes s a)]

/-- The register after an entry. -/
def put (s : σ) (a : α) : σ :=
  if R.Takes s a then R.write s a else s

variable {R} {s : σ} {a b : α} {l l' : List α}

theorem put_of_takes (h : R.Takes s a) : R.put s a = R.write s a :=
  if_pos h

theorem put_of_not_takes (h : ¬R.Takes s a) : R.put s a = s :=
  if_neg h

theorem put_of_closed (h : R.closed s) : R.put s a = s :=
  put_of_not_takes fun htakes ↦ htakes.1 h

theorem stamp_le_put (s : σ) (a : α) : R.stamp s ≤ R.stamp (R.put s a) := by
  by_cases h : R.Takes s a
  · rw [put_of_takes h, R.stamp_write]
    exact h.2.le
  · rw [put_of_not_takes h]

/-- **What a register does not take it does not take later either.** -/
theorem not_takes_put (h : ¬R.Takes s a) (b : α) : ¬R.Takes (R.put s b) a := by
  by_cases hb : R.Takes s b
  · rintro ⟨-, hlt⟩
    exact h ⟨hb.1, lt_of_le_of_lt (stamp_le_put s b) hlt⟩
  · rwa [put_of_not_takes hb]

theorem not_takes_put_self (s : σ) (a : α) : ¬R.Takes (R.put s a) a := by
  by_cases h : R.Takes s a
  · rw [put_of_takes h]
    rintro ⟨-, hlt⟩
    exact absurd hlt (R.stamp_write s a ▸ lt_irrefl _)
  · rwa [put_of_not_takes h]

theorem not_takes_foldl (s : σ) (h : a ∈ l) : ¬R.Takes (l.foldl R.put s) a := by
  induction l using reverseRecOn with
  | nil => cases h
  | append_singleton l b ih =>
    rw [foldl_append, foldl_cons, foldl_nil]
    rcases mem_append.mp h with h | h
    · exact not_takes_put (ih h) b
    · rw [mem_singleton.mp h]
      exact not_takes_put_self _ b

/-- **What comes of a register** that is given the entries of a list, in whatever order. -/
def Outcome (R : LatestWins σ α κ) (s : σ) (l : List α) (s' : σ) : Prop :=
  (∀ a ∈ l, ¬R.Takes s a) ∧ s' = s ∨
    ∃ a ∈ l, R.Takes s a ∧ (∀ b ∈ l, R.key b ≤ R.key a) ∧ ∃ s₀, s' = R.write s₀ a

/-- A final entry has the greatest stamp of a list. -/
def FinalLast (R : LatestWins σ α κ) (l : List α) : Prop :=
  ∀ a ∈ l, R.final a → ∀ b ∈ l, R.key b ≤ R.key a

theorem outcome_append {s' : σ} (h : R.Outcome s l s') (hfinal : R.FinalLast (l ++ [a])) :
    R.Outcome s (l ++ [a]) (R.put s' a) := by
  rcases h with ⟨hnone, rfl⟩ | ⟨c, hc, htakes, hgreatest, s₀, rfl⟩
  · by_cases ha : R.Takes s' a
    · refine .inr ⟨a, by simp, ha, fun b hb ↦ ?_, s', put_of_takes ha⟩
      rcases mem_append.mp hb with hb | hb
      · -- the register is not closed, so it has refused `b` for its stamp
        have hle : R.key b ≤ R.stamp s' := not_lt.mp fun hlt ↦ hnone b hb ⟨ha.1, hlt⟩
        exact hle.trans ha.2.le
      · rw [mem_singleton.mp hb]
    · refine .inl ⟨fun b hb ↦ ?_, put_of_not_takes ha⟩
      rcases mem_append.mp hb with hb | hb
      · exact hnone b hb
      · rwa [mem_singleton.mp hb]
  · by_cases ha : R.Takes (R.write s₀ c) a
    · have hlt : R.key c < R.key a := R.stamp_write s₀ c ▸ ha.2
      refine .inr ⟨a, by simp, ⟨htakes.1, htakes.2.trans hlt⟩, fun b hb ↦ ?_, _, put_of_takes ha⟩
      rcases mem_append.mp hb with hb | hb
      · exact (hgreatest b hb).trans hlt.le
      · rw [mem_singleton.mp hb]
    · refine .inr ⟨c, by simp [hc], htakes, fun b hb ↦ ?_, s₀, put_of_not_takes ha⟩
      rcases mem_append.mp hb with hb | hb
      · exact hgreatest b hb
      · rw [mem_singleton.mp hb]
        by_cases hc' : R.final c
        · exact hfinal c (by simp [hc]) hc' a (by simp)
        · refine not_lt.mp fun hlt ↦ ha ⟨fun hclosed ↦ hc' ((R.closed_write s₀ c).mp hclosed), ?_⟩
          rwa [R.stamp_write]

/-- **The entries of a list, one after the other.** -/
theorem outcome_foldl (s : σ) (l : List α) (hfinal : R.FinalLast l) :
    R.Outcome s l (l.foldl R.put s) := by
  induction l using reverseRecOn with
  | nil => exact .inl ⟨by simp, rfl⟩
  | append_singleton l a ih =>
    rw [foldl_append, foldl_cons, foldl_nil]
    refine outcome_append (ih fun b hb hfinal' c hc ↦ ?_) hfinal
    exact hfinal b (mem_append_left _ hb) hfinal' c (mem_append_left _ hc)

/-- **The order makes no difference**, and neither do repetitions, when a final entry is last. -/
theorem foldl_put_congr {β : Type x} {view : σ → β} {out : α → β}
    (hview : ∀ s a, view (R.write s a) = out a) (hmem : ∀ a, a ∈ l ↔ a ∈ l')
    (hkey : ∀ a ∈ l, ∀ b ∈ l, R.key a = R.key b → a = b) (hfinal : R.FinalLast l) (s : σ) :
    view (l.foldl R.put s) = view (l'.foldl R.put s) := by
  have hfinal' : R.FinalLast l' := fun a ha hfinal' b hb ↦
    hfinal a ((hmem a).mpr ha) hfinal' b ((hmem b).mpr hb)
  rcases outcome_foldl s l hfinal with ⟨hnone, h⟩ | ⟨a, ha, htakes, hgreatest, s₀, h⟩ <;>
    rcases outcome_foldl s l' hfinal' with ⟨hnone', h'⟩ | ⟨a', ha', htakes', hgreatest', s₀', h'⟩
  · rw [h, h']
  · exact absurd htakes' (hnone a' ((hmem a').mpr ha'))
  · exact absurd htakes (hnone' a ((hmem a).mp ha))
  · have hle : R.key a ≤ R.key a' := hgreatest' a ((hmem a).mp ha)
    have hge : R.key a' ≤ R.key a := hgreatest a' ((hmem a').mpr ha')
    rw [h, h', hview, hview, hkey a ha a' ((hmem a').mpr ha') (le_antisymm hle hge)]

end LatestWins
