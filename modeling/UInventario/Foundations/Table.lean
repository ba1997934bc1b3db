import Mathlib.Algebra.BigOperators.Group.List.Basic
import Mathlib.Algebra.BigOperators.Ring.List
import Mathlib.Algebra.Order.BigOperators.Group.List
import Mathlib.Data.List.Nodup
import Mathlib.Data.List.Sort
import Mathlib.Tactic.MkIffOfInductiveProp
import Mathlib.Tactic.Ring

/-!
# Keyed tables

A table is a list of rows, in order of insertion, no two of which have the same primary key (class
`Keyed`); `Table` carries this as a field.

The operations are those a transaction issues: `find?`, `insert`, which has no value on a duplicate
key, `update`, whose function may not move the key, `updateEach` for several keys, `delete`, and
`total`, the sum of a weight over all rows. A filtered sum (`SELECT SUM(x) … WHERE p`) is the total
of a weight that is zero off the filter.

Totals are additive: `total_insert` adds the weight of the new row, and `total_update` replaces that
of the row touched. The other lemmas say how `find?` and membership see an insertion or an update.
-/

universe u v

/-- A type of rows with a primary key. -/
class Keyed (ρ : Type u) (κ : outParam (Type v)) where
  /-- The primary key of a row. -/
  key : ρ → κ

/-- **A table.** Its rows in order of insertion, with pairwise different keys. -/
structure Table (ρ : Type u) {κ : Type v} [Keyed ρ κ] where
  rows : List ρ
  nodup : (rows.map Keyed.key).Nodup

namespace Table

open List

variable {ρ : Type u} {κ : Type v} [Keyed ρ κ] [DecidableEq κ] {t t' : Table ρ} {k k' : κ}
  {r r' : ρ} {w : ρ → ℤ} {P : ρ → Prop} {l : List ρ} {α : Type*}

open Keyed

/-- The table without rows. -/
def empty : Table ρ := ⟨[], by simp⟩

/-- The table of one row. -/
def ofRow (r : ρ) : Table ρ := ⟨[r], nodup_singleton _⟩

/-- The row with key `k`. -/
def find? (t : Table ρ) (k : κ) : Option ρ :=
  t.rows.find? fun r ↦ key r = k

/-- Appends a row; no value when its key is taken. -/
def insert (t : Table ρ) (r : ρ) : Option (Table ρ) :=
  if h : key r ∈ t.rows.map key then none
  else some ⟨t.rows ++ [r], by
    rw [map_append, nodup_append]
    refine ⟨t.nodup, by simp, ?_⟩
    intro a ha b hb
    rw [map_singleton, mem_singleton] at hb
    subst hb
    exact fun hab ↦ h (hab ▸ ha)⟩

/-- Fixes the statement that `h` proves, so that it is not read off the proof. -/
theorem keeps {p : Prop} (h : p) : p := h

/-- Rewrites the row with key `k`, if there is one, by a function that keeps the key. -/
def update (t : Table ρ) (k : κ) (f : ρ → ρ)
    (hf : ∀ r, key (f r) = key r := by exact Table.keeps fun _ ↦ rfl) : Table ρ where
  rows := t.rows.map fun r ↦ if key r = k then f r else r
  nodup := by
    have hkeys : (t.rows.map fun r ↦ if key r = k then f r else r).map key = t.rows.map key := by
      rw [map_map]
      apply map_congr_left
      intro r _
      by_cases hr : key r = k
      · simp [hr, hf]
      · simp [hr]
    rw [hkeys]
    exact t.nodup

/-- Rewrites the rows that satisfy `p` by a function that keeps the key. -/
def updateWhere (t : Table ρ) (p : ρ → Prop) [DecidablePred p] (f : ρ → ρ)
    (hf : ∀ r, key (f r) = key r := by exact Table.keeps fun _ ↦ rfl) : Table ρ where
  rows := t.rows.map fun r ↦ if p r then f r else r
  nodup := by
    have hkeys : (t.rows.map fun r ↦ if p r then f r else r).map key = t.rows.map key := by
      rw [map_map]
      apply map_congr_left
      intro r _
      by_cases hr : p r
      · simp [hr, hf]
      · simp [hr]
    rw [hkeys]
    exact t.nodup

/-- Writes a row in place of the one with its key, or appends it when there is none. -/
def put (t : Table ρ) (r : ρ) : Table ρ :=
  if h : key r ∈ t.rows.map key then
    ⟨t.rows.map fun r' ↦ if key r' = key r then r else r', by
      have hkeys : (t.rows.map fun r' ↦ if key r' = key r then r else r').map key =
          t.rows.map key := by
        rw [map_map]
        apply map_congr_left
        intro r' _
        by_cases hr : key r' = key r
        · simp [hr]
        · simp [hr]
      rw [hkeys]
      exact t.nodup⟩
  else ⟨t.rows ++ [r], by
    rw [map_append, nodup_append]
    refine ⟨t.nodup, by simp, ?_⟩
    intro a ha b hb
    rw [map_singleton, mem_singleton] at hb
    subst hb
    exact fun hab ↦ h (hab ▸ ha)⟩

/-- Deletes the rows that satisfy `p`. -/
def delete (t : Table ρ) (p : ρ → Prop) [DecidablePred p] : Table ρ where
  rows := t.rows.filter fun r ↦ ¬p r
  nodup := t.nodup.sublist (filter_sublist.map key)

/-- The sum of a weight over all rows. -/
def total (t : Table ρ) (w : ρ → ℤ) : ℤ :=
  (t.rows.map w).sum

/-! ### Looking a row up -/

omit [DecidableEq κ] in
@[simp] theorem rows_empty : (empty : Table ρ).rows = [] := rfl

omit [DecidableEq κ] in
@[simp] theorem total_empty (w : ρ → ℤ) : (empty : Table ρ).total w = 0 := rfl

theorem key_of_find? (h : t.find? k = some r) : key r = k := by
  have := find?_some h
  simpa using this

theorem mem_of_find? (h : t.find? k = some r) : r ∈ t.rows :=
  mem_of_find?_eq_some h

omit [DecidableEq κ] in
theorem nodup_rows (t : Table ρ) : t.rows.Nodup :=
  List.Nodup.of_map _ t.nodup

omit [DecidableEq κ] in
theorem eq_of_mem_of_key_eq (hr : r ∈ t.rows) (hr' : r' ∈ t.rows) (h : key r = key r') : r = r' :=
  inj_on_of_nodup_map t.nodup hr hr' h

/-- A row is found under `k` exactly when it is in the table and has key `k`. -/
theorem find?_eq_some : t.find? k = some r ↔ r ∈ t.rows ∧ key r = k := by
  constructor
  · exact fun h ↦ ⟨mem_of_find? h, key_of_find? h⟩
  · rintro ⟨hr, rfl⟩
    cases h : t.find? (key r) with
    | none =>
      have := List.find?_eq_none.mp h r hr
      simp at this
    | some r' =>
      rw [eq_of_mem_of_key_eq (mem_of_find? h) hr (key_of_find? h)]

theorem find?_eq_none : t.find? k = none ↔ ∀ r ∈ t.rows, key r ≠ k := by
  simp [find?]

theorem find?_key_of_mem (hr : r ∈ t.rows) : t.find? (key r) = some r :=
  find?_eq_some.mpr ⟨hr, rfl⟩

/-! ### Insertion -/

theorem insert_eq_some (h : t.insert r = some t') :
    t.find? (key r) = none ∧ t'.rows = t.rows ++ [r] := by
  unfold insert at h
  split at h
  · cases h
  case isFalse hkey =>
    cases h
    refine ⟨?_, rfl⟩
    rw [find?_eq_none]
    intro r' hr' hk
    exact hkey (mem_map.mpr ⟨r', hr', hk⟩)

theorem insert_isSome (h : t.find? (key r) = none) : ∃ t', t.insert r = some t' := by
  have hkey : key r ∉ t.rows.map key := by
    rw [mem_map]
    rintro ⟨r', hr', hk⟩
    exact find?_eq_none.mp h r' hr' hk
  exact ⟨_, dif_neg hkey⟩

section

variable (h : t.insert r = some t')
include h

theorem ne_of_insert : t' ≠ t := by
  rintro rfl
  have hrows := (insert_eq_some h).2
  simp at hrows

theorem mem_insert : r' ∈ t'.rows ↔ r' ∈ t.rows ∨ r' = r := by
  rw [(insert_eq_some h).2, mem_append, mem_singleton]

theorem forall_mem_insert : (∀ x ∈ t'.rows, P x) ↔ (∀ x ∈ t.rows, P x) ∧ P r := by
  simp [mem_insert h, or_imp, forall_and]

theorem total_insert (w : ρ → ℤ) : t'.total w = t.total w + w r := by
  rw [total, (insert_eq_some h).2]
  simp [total]

theorem find?_insert_self : t'.find? (key r) = some r :=
  find?_eq_some.mpr ⟨(mem_insert h).mpr (.inr rfl), rfl⟩

theorem find?_insert_of_ne (hk : key r ≠ k) : t'.find? k = t.find? k := by
  rw [find?, find?, (insert_eq_some h).2, find?_append]
  simp [hk]

theorem find?_insert_of_some (hk : t.find? k = some r') : t'.find? k = some r' := by
  rw [find?_insert_of_ne h, hk]
  rintro rfl
  rw [(insert_eq_some h).1] at hk
  cases hk

end

/-! ### Update -/

section Update

variable {f : ρ → ρ} {hf : ∀ r, key (f r) = key r}

theorem rows_update :
    (t.update k f hf).rows = t.rows.map fun r ↦ if key r = k then f r else r := rfl

theorem mem_update :
    r ∈ (t.update k f hf).rows ↔ ∃ r₀ ∈ t.rows, (if key r₀ = k then f r₀ else r₀) = r := by
  rw [rows_update, mem_map]

/-- A row after an update is the row of its key before it, rewritten when it is the row of `k`. -/
theorem exists_of_mem_update (h : r ∈ (t.update k f hf).rows) :
    ∃ r₀ ∈ t.rows, key r₀ = key r ∧ (key r₀ = k → r = f r₀) ∧ (key r₀ ≠ k → r = r₀) := by
  obtain ⟨r₀, hr₀, rfl⟩ := mem_update.mp h
  by_cases hk : key r₀ = k
  · rw [if_pos hk]
    exact ⟨r₀, hr₀, (hf r₀).symm, fun _ ↦ rfl, fun hne ↦ absurd hk hne⟩
  · rw [if_neg hk]
    exact ⟨r₀, hr₀, rfl, fun heq ↦ absurd heq hk, fun _ ↦ rfl⟩

/-- What holds of the rows holds after an update that keeps it. -/
theorem forall_mem_update (hf : ∀ r, key (f r) = key r) (h : ∀ r ∈ t.rows, P r)
    (hkeep : ∀ r, t.find? k = some r → P r → P (f r)) : ∀ r ∈ (t.update k f hf).rows, P r := by
  intro r hr
  obtain ⟨r₀, hr₀, -, hself, hother⟩ := exists_of_mem_update hr
  by_cases hk : key r₀ = k
  · rw [hself hk]
    exact hkeep r₀ (find?_eq_some.mpr ⟨hr₀, hk⟩) (h r₀ hr₀)
  · rw [hother hk]
    exact h r₀ hr₀

/-- A row after the update of one that is found: this one, or another as it was. -/
theorem of_mem_update {found : ρ} (hf : ∀ r, key (f r) = key r) (hfound : t.find? k = some found)
    (h : r ∈ (t.update k f hf).rows) : r = f found ∨ r ∈ t.rows ∧ key r ≠ k := by
  obtain ⟨r₀, hr₀, -, hself, hother⟩ := exists_of_mem_update h
  by_cases hk : key r₀ = k
  · obtain rfl := Option.some.inj ((find?_eq_some.mpr ⟨hr₀, hk⟩).symm.trans hfound)
    exact .inl (hself hk)
  · obtain rfl := hother hk
    exact .inr ⟨hr₀, hk⟩

theorem find?_update (k' : κ) :
    (t.update k f hf).find? k' = (t.find? k').map fun r ↦ if k' = k then f r else r := by
  rw [find?, rows_update, find?_map, find?]
  have hpred : ((fun r : ρ ↦ decide (key r = k')) ∘ fun r ↦ if key r = k then f r else r) =
      fun r ↦ decide (key r = k') := by
    funext r
    by_cases hr : key r = k
    · simp [hr, hf]
    · simp [hr]
  rw [hpred]
  cases h : List.find? (fun r ↦ decide (key r = k')) t.rows with
  | none => rfl
  | some r =>
    have hr : key r = k' := by simpa using find?_some h
    simp [hr]

theorem find?_update_self : (t.update k f hf).find? k = (t.find? k).map f := by
  rw [find?_update]
  simp

theorem find?_update_of_ne (h : k' ≠ k) : (t.update k f hf).find? k' = t.find? k' := by
  rw [find?_update]
  simp [h]

theorem total_update_of_forall (h : ∀ r ∈ t.rows, key r = k → w (f r) = w r) :
    (t.update k f hf).total w = t.total w := by
  rw [total, rows_update, map_map, total]
  congr 1
  apply map_congr_left
  intro r hr
  by_cases hk : key r = k
  · simp [hk, h r hr hk]
  · simp [hk]

/-- Updating a list with pairwise different keys changes the weight of one row. -/
private theorem sum_map_update (w : ρ → ℤ) : ∀ l : List ρ, (l.map key).Nodup → r ∈ l → key r = k →
      ((l.map fun r ↦ if key r = k then f r else r).map w).sum =
        (l.map w).sum + (w (f r) - w r) := by
  intro l
  induction l with
  | nil => simp
  | cons a l ih =>
    intro hnodup hr hk
    obtain ⟨hnotin, hnodup⟩ := nodup_cons.mp hnodup
    rcases mem_cons.mp hr with rfl | hr
    · have hrest : (l.map fun r ↦ if key r = k then f r else r) = l := by
        conv_rhs => rw [← map_id l]
        apply map_congr_left
        intro b hb
        have : key b ≠ k := fun hbk ↦ hnotin (mem_map.mpr ⟨b, hb, hbk.trans hk.symm⟩)
        simp [this]
      rw [map_cons, hrest]
      simp only [hk, if_true, map_cons, sum_cons]
      ring
    · have ha : key a ≠ k := fun hak ↦
        hnotin (mem_map.mpr ⟨r, hr, hk.trans hak.symm⟩)
      simp only [map_cons, ha, if_false, sum_cons]
      rw [ih hnodup hr hk]
      ring

/-- **An update replaces one weight.** The total moves by the difference between the new weight of
the row and the old one. -/
theorem total_update (w : ρ → ℤ) (h : t.find? k = some r) :
    (t.update k f hf).total w = t.total w + (w (f r) - w r) :=
  sum_map_update w t.rows t.nodup (mem_of_find? h) (key_of_find? h)

/-- Rewriting the last row leaves the rows before it alone. -/
theorem rows_update_last (h : t.rows = l ++ [r])
    (hf : ∀ r, key (f r) = key r := by exact Table.keeps fun _ ↦ rfl) :
    (t.update (key r) f hf).rows = l ++ [f r] := by
  have hnodup := t.nodup
  rw [h, map_append, nodup_append] at hnodup
  rw [rows_update, h, map_append]
  have hrest : l.map (fun a ↦ if key a = key r then f a else a) = l := by
    conv_rhs => rw [← map_id l]
    apply map_congr_left
    intro a ha
    have : key a ≠ key r := hnodup.2.2 _ (mem_map_of_mem ha) _ (by simp)
    simp [this]
  rw [hrest]
  simp

end Update

/-! ### Updates by a condition -/

section UpdateWhere

variable {p : ρ → Prop} [DecidablePred p] {f : ρ → ρ} {hf : ∀ r, key (f r) = key r}

omit [DecidableEq κ] in
theorem mem_updateWhere :
    r ∈ (t.updateWhere p f hf).rows ↔ ∃ r₀ ∈ t.rows, (if p r₀ then f r₀ else r₀) = r :=
  mem_map

theorem find?_updateWhere :
    (t.updateWhere p f hf).find? k = (t.find? k).map fun r ↦ if p r then f r else r := by
  rw [find?, updateWhere, find?_map, find?]
  have hpred : ((fun r : ρ ↦ decide (key r = k)) ∘ fun r ↦ if p r then f r else r) =
      fun r ↦ decide (key r = k) := by
    funext r
    by_cases hr : p r
    · simp [hr, hf]
    · simp [hr]
  rw [hpred]

end UpdateWhere

/-! ### Updates of several rows -/

section UpdateEach

variable {α : Type*} {l : List α} {k : α → κ} {f : α → ρ → ρ} {hf : ∀ a r, key (f a r) = key r}

/-- Rewrites the rows that the elements of a list name, each by a function of its own. -/
def updateEach (t : Table ρ) (l : List α) (k : α → κ) (f : α → ρ → ρ)
    (hf : ∀ a r, key (f a r) = key r := by exact Table.keeps fun _ _ ↦ rfl) : Table ρ :=
  l.foldl (fun t a ↦ t.update (k a) (f a) (hf a)) t

theorem find?_updateEach_of_forall (h : ∀ a ∈ l, k a ≠ k') :
    (t.updateEach l k f hf).find? k' = t.find? k' := by
  induction l generalizing t with
  | nil => rfl
  | cons a l ih =>
    rw [updateEach, foldl_cons]
    show (updateEach _ l k f hf).find? k' = _
    rw [ih fun b hb ↦ h b (mem_cons_of_mem _ hb),
      find?_update_of_ne (h a mem_cons_self).symm]

theorem find?_updateEach_of_mem {a : α} (hnodup : (l.map k).Nodup) (ha : a ∈ l) :
    (t.updateEach l k f hf).find? (k a) = (t.find? (k a)).map (f a) := by
  induction l generalizing t with
  | nil => exact absurd ha not_mem_nil
  | cons b l ih =>
    rw [map_cons, nodup_cons] at hnodup
    rw [updateEach, foldl_cons]
    show (updateEach _ l k f hf).find? (k a) = _
    rcases mem_cons.mp ha with rfl | hmem
    · have hothers : ∀ c ∈ l, k c ≠ k a := fun c hc heq ↦
        hnodup.1 (heq ▸ mem_map_of_mem hc)
      rw [find?_updateEach_of_forall hothers, find?_update_self]
    · have hne : k a ≠ k b := fun heq ↦ hnodup.1 (heq ▸ mem_map_of_mem hmem)
      rw [ih hnodup.2 hmem, find?_update_of_ne hne]

/-- A row after the updates is the row of its key before them, rewritten when an element names it.
-/
theorem exists_of_mem_updateEach (hnodup : (l.map k).Nodup) (h : r ∈ (t.updateEach l k f hf).rows) :
    ∃ r₀ ∈ t.rows, key r₀ = key r ∧ (r = r₀ ∨ ∃ a ∈ l, k a = key r₀ ∧ r = f a r₀) := by
  have hfind := find?_key_of_mem h
  by_cases hnamed : ∃ a ∈ l, k a = key r
  · obtain ⟨a, ha, hk⟩ := hnamed
    rw [← hk, find?_updateEach_of_mem hnodup ha, Option.map_eq_some_iff] at hfind
    obtain ⟨r₀, hr₀, rfl⟩ := hfind
    have hkey : k a = key r₀ := (key_of_find? hr₀).symm
    exact ⟨r₀, mem_of_find? hr₀, (hf a r₀).symm, .inr ⟨a, ha, hkey, rfl⟩⟩
  · rw [find?_updateEach_of_forall fun a ha hk ↦ hnamed ⟨a, ha, hk⟩] at hfind
    exact ⟨r, mem_of_find? hfind, rfl, .inl rfl⟩

end UpdateEach

/-! ### Deletion -/

omit [DecidableEq κ] in
theorem mem_delete {p : ρ → Prop} [DecidablePred p] :
    r ∈ (t.delete p).rows ↔ r ∈ t.rows ∧ ¬p r := by
  rw [delete, mem_filter, decide_eq_true_eq]

theorem mem_put : r' ∈ (t.put r).rows ↔ r' = r ∨ r' ∈ t.rows ∧ key r' ≠ key r := by
  unfold put
  split
  case isTrue h =>
    obtain ⟨old, hold, hkey⟩ := mem_map.mp h
    simp only [mem_map]
    constructor
    · rintro ⟨a, ha, rfl⟩
      by_cases hak : key a = key r
      · exact .inl (if_pos hak)
      · rw [if_neg hak]
        exact .inr ⟨ha, hak⟩
    · rintro (rfl | ⟨hr, hne⟩)
      · exact ⟨old, hold, if_pos hkey⟩
      · exact ⟨r', hr, if_neg hne⟩
  case isFalse h =>
    rw [mem_append, mem_singleton, or_comm]
    refine or_congr_right (iff_self_and.mpr fun hr hkey ↦ ?_)
    exact h (mem_map.mpr ⟨r', hr, hkey⟩)

omit [DecidableEq κ] in
theorem total_of_rows_append (h : t.rows = l ++ [r]) (w : ρ → ℤ) :
    t.total w = (l.map w).sum + w r := by
  rw [total, h]
  simp

theorem find?_of_rows_append (h : t.rows = l ++ [r]) : t.find? (key r) = some r :=
  find?_key_of_mem (by rw [h]; simp)

/-- Tables whose rows have the same image under a function that keeps the key apart find rows with
the same image. -/
theorem map_find?_eq {f : ρ → α} (hf : ∀ r r', f r = f r' → key r = key r')
    (h : t.rows.map f = t'.rows.map f) (k : κ) : (t.find? k).map f = (t'.find? k).map f := by
  have hlists : ∀ l l' : List ρ, l.map f = l'.map f →
      (l.find? fun r ↦ key r = k).map f = (l'.find? fun r ↦ key r = k).map f := by
    intro l
    induction l with
    | nil =>
      intro l' hl
      rw [map_eq_nil_iff.mp hl.symm]
    | cons r l ih =>
      intro l' hl
      obtain ⟨r', l', rfl, hr, hl⟩ := map_eq_cons_iff.mp hl.symm
      have hkey : key r' = key r := hf r' r hr
      by_cases hk : key r = k
      · simp [hk, hkey.trans hk, hr]
      · simp only [find?_cons, hkey, decide_eq_false hk]
        exact ih l' hl.symm
  exact hlists t.rows t'.rows h

/-- The same row inserted into two tables that look alike leaves them alike. -/
theorem map_find?_insert {f : ρ → α} {t₁ t₂ t₁' t₂' : Table ρ}
    (h : ∀ k, (t₁.find? k).map f = (t₂.find? k).map f) (h₁ : t₁.insert r = some t₁')
    (h₂ : t₂.insert r = some t₂') (k : κ) : (t₁'.find? k).map f = (t₂'.find? k).map f := by
  by_cases hk : key r = k
  · subst hk
    rw [find?_insert_self h₁, find?_insert_self h₂]
  · rw [find?_insert_of_ne h₁ hk, find?_insert_of_ne h₂ hk]
    exact h k

/-- Rows of another table that come first are found as before. -/
theorem find?_eq_of_rows_append (h : t'.rows = t.rows ++ l) (hk : t.find? k = some r) :
    t'.find? k = some r := by
  obtain ⟨hr, rfl⟩ := find?_eq_some.mp hk
  exact find?_key_of_mem (by rw [h]; exact mem_append_left l hr)

/-! ### Totals -/

omit [DecidableEq κ] in
theorem total_congr {w' : ρ → ℤ} (h : ∀ r ∈ t.rows, w r = w' r) : t.total w = t.total w' := by
  rw [total, total, map_congr_left h]

omit [DecidableEq κ] in
theorem total_eq_zero (h : ∀ r ∈ t.rows, w r = 0) : t.total w = 0 := by
  rw [total_congr h, total]
  simp

omit [DecidableEq κ] in
theorem total_nonneg (h : ∀ r ∈ t.rows, 0 ≤ w r) : 0 ≤ t.total w := by
  refine sum_nonneg (forall_mem_map.mpr fun r hr ↦ ?_)
  exact h r hr

omit [DecidableEq κ] in
theorem total_add (w w' : ρ → ℤ) : t.total (fun r ↦ w r + w' r) = t.total w + t.total w' := by
  rw [total, total, total, sum_map_add]

omit [DecidableEq κ] in
theorem total_mul (a : ℤ) (w : ρ → ℤ) : t.total (fun r ↦ a * w r) = a * t.total w := by
  rw [total, total, sum_map_mul_left]

end Table

/-! ### Sorted queries -/

section OrderBy

variable {ρ : Type u} (le : ρ → ρ → Prop) [DecidableRel le] (rows : List ρ)

/-- `ORDER BY`: the rows sorted by `le`, those it does not tell apart in order of insertion. -/
def orderBy : List ρ :=
  rows.insertionSort le

theorem orderBy_perm : (orderBy le rows).Perm rows :=
  List.perm_insertionSort le rows

variable {le rows} {rows' : List ρ}

@[simp] theorem mem_orderBy {r : ρ} : r ∈ orderBy le rows ↔ r ∈ rows :=
  (orderBy_perm le rows).mem_iff

theorem pairwise_orderBy_key {κ : Type v} [LinearOrder κ] {key : ρ → κ}
    (hle : ∀ a b, le a b ↔ key a ≤ key b) : (orderBy le rows).Pairwise le := by
  have : Std.Total le := ⟨fun a b ↦ by simpa only [hle] using le_total (key a) (key b)⟩
  have : IsTrans ρ le := ⟨fun a b c ↦ by simpa only [hle] using le_trans⟩
  exact List.pairwise_insertionSort le rows

/-- Sorted by a key that tells the rows apart, some of the rows are a sublist of all. -/
theorem orderBy_sublist {κ : Type v} [LinearOrder κ] {key : ρ → κ}
    (hle : ∀ a b, le a b ↔ key a ≤ key b)
    (hkey : ∀ r ∈ rows, ∀ r' ∈ rows, key r = key r' → r = r') (hnodup : rows'.Nodup)
    (hsub : rows' ⊆ rows) : (orderBy le rows').Sublist (orderBy le rows) := by
  have hsubset : orderBy le rows' ⊆ orderBy le rows := fun r hr ↦
    mem_orderBy.mpr (hsub (mem_orderBy.mp hr))
  obtain ⟨l, hperm, hl⟩ :=
    List.subperm_of_subset ((orderBy_perm le rows').nodup_iff.mpr hnodup) hsubset
  have heq : l = orderBy le rows' := by
    refine hperm.eq_of_pairwise ?_ ((pairwise_orderBy_key hle).sublist hl)
      (pairwise_orderBy_key hle)
    intro a b ha hb hab hba
    refine hkey a (mem_orderBy.mp (hl.subset ha)) b (hsub (mem_orderBy.mp hb)) ?_
    exact le_antisymm ((hle a b).mp hab) ((hle b a).mp hba)
  exact heq ▸ hl

/-- Sorted by a key that tells them apart, the same rows are the same list. -/
theorem orderBy_congr {κ : Type v} [LinearOrder κ] {key : ρ → κ}
    (hle : ∀ a b, le a b ↔ key a ≤ key b)
    (hkey : ∀ r ∈ rows, ∀ r' ∈ rows, key r = key r' → r = r') (hnodup : rows.Nodup)
    (hnodup' : rows'.Nodup) (hmem : ∀ r, r ∈ rows' ↔ r ∈ rows) :
    orderBy le rows' = orderBy le rows := by
  refine (orderBy_sublist hle hkey hnodup' fun r ↦ (hmem r).mp).eq_of_length_le ?_
  rw [(orderBy_perm le rows).length_eq, (orderBy_perm le rows').length_eq]
  exact (List.subperm_of_subset hnodup fun r ↦ (hmem r).mpr).length_le

end OrderBy
