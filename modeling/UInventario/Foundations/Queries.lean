import UInventario.Foundations.Table

/-!
# Limited queries and upserts

* `limited le n rows` is `ORDER BY … LIMIT n`. A row is on the page in any case when at most `n`
  rows, itself among them, are not after it (`mem_limited_of_countP_le`).
* `Table.upsert` is `INSERT IGNORE` with an `UPDATE` of the row that is there already.

* The pages of a list put together are the list (`flatMap_pages`).

A loop over rows brings about what one of its turns does and none undoes (`foldl_reaches`).
-/

universe u v

/-! ### Limited queries -/

section Limited

variable {ρ : Type u} {le : ρ → ρ → Prop} [DecidableRel le] {n : ℕ} {rows : List ρ} {r : ρ}

variable (le n rows) in
/-- `ORDER BY … LIMIT n`. -/
def limited : List ρ :=
  (orderBy le rows).take n

/-- What is not among the first `n` of a sorted list comes after `n` others. -/
theorem mem_take_of_countP_le {l : List ρ} (hl : l.Pairwise le) (hrefl : le r r) (hr : r ∈ l)
    (hcount : (l.countP fun x ↦ le x r) ≤ n) : r ∈ l.take n := by
  induction l generalizing n with
  | nil => exact absurd hr List.not_mem_nil
  | cons x l ih =>
    obtain ⟨hx, hl⟩ := List.pairwise_cons.mp hl
    have hbefore : le x r := by
      rcases List.mem_cons.mp hr with rfl | hr
      · exact hrefl
      · exact hx r hr
    rw [List.countP_cons_of_pos (p := fun x ↦ decide (le x r)) (decide_eq_true hbefore)] at hcount
    obtain ⟨m, rfl⟩ : ∃ m, n = m + 1 := ⟨n - 1, by omega⟩
    rw [List.take_succ_cons]
    rcases List.mem_cons.mp hr with rfl | hr
    · exact List.mem_cons_self
    · exact List.mem_cons_of_mem x (ih hl hr (by omega))

/-- **Who is on the page**: a row that at most `n` rows are not after, itself counted. -/
theorem mem_limited_of_countP_le [Std.Total le] [IsTrans ρ le] (hr : r ∈ rows)
    (hcount : (rows.countP fun x ↦ le x r) ≤ n) : r ∈ limited le n rows := by
  refine mem_take_of_countP_le (List.pairwise_insertionSort le rows) ?_ (mem_orderBy.mpr hr) ?_
  · rcases Std.Total.total (r := le) r r with h | h <;> exact h
  · rw [(orderBy_perm le rows).countP_eq]
    exact hcount

end Limited

/-! ### Pages and filters of a sorted query -/

section Pages

variable {ρ : Type u}

/-- **The first pages put together** are the beginning of the list. -/
theorem flatMap_pages (l : List ρ) (n k : ℕ) :
    ((List.range n).flatMap fun page ↦ (l.drop (page * k)).take k) = l.take (n * k) := by
  induction n with
  | zero => simp
  | succ n ih => rw [List.range_succ, List.flatMap_append, ih, List.flatMap_singleton,
      Nat.succ_mul, List.take_add]

theorem orderBy_filter_eq_iff {le : ρ → ρ → Prop} [DecidableRel le] {rows : List ρ}
    {p q : ρ → Bool} :
    orderBy le (rows.filter p) = orderBy le (rows.filter q) ↔ ∀ r ∈ rows, p r = q r := by
  constructor
  · intro h r hr
    have hmem : r ∈ orderBy le (rows.filter p) ↔ r ∈ orderBy le (rows.filter q) := by rw [h]
    rw [mem_orderBy, mem_orderBy, List.mem_filter, List.mem_filter] at hmem
    exact Bool.eq_iff_iff.mpr (by simpa [hr] using hmem)
  · exact fun h ↦ by rw [List.filter_congr h]

end Pages

/-! ### Upserts -/

namespace Table

variable {ρ : Type u} {κ : Type v} [Keyed ρ κ] [DecidableEq κ] {t : Table ρ} {k : κ} {r r' : ρ}
  {f : ρ → ρ} {hf : ∀ r, Keyed.key (f r) = Keyed.key r}

open Keyed List

/-- `INSERT IGNORE`, and an `UPDATE` of the row that is there already. -/
def upsert (t : Table ρ) (r : ρ) (f : ρ → ρ)
    (hf : ∀ r, key (f r) = key r := by exact Table.keeps fun _ ↦ rfl) : Table ρ :=
  (t.insert r).getD (t.update (key r) f hf)

theorem upsert_of_none (h : t.find? (key r) = none) : t.insert r = some (t.upsert r f hf) := by
  obtain ⟨t', ht'⟩ := insert_isSome h
  rw [upsert, ht']
  rfl

theorem upsert_of_some (h : t.find? (key r) = some r') :
    t.upsert r f hf = t.update (key r) f hf := by
  have hnone : t.insert r = none := by
    cases hinsert : t.insert r with
    | none => rfl
    | some t' =>
      rw [(insert_eq_some hinsert).1] at h
      cases h
  rw [upsert, hnone]
  rfl

theorem find?_upsert_self : ((t.upsert r f hf).find? (key r)).isSome := by
  cases h : t.find? (key r) with
  | none =>
    rw [find?_insert_self (upsert_of_none h)]
    rfl
  | some r' =>
    rw [upsert_of_some h, find?_update_self, h]
    rfl

theorem find?_upsert_isSome (h : (t.find? k).isSome) : ((t.upsert r f hf).find? k).isSome := by
  obtain ⟨found, hfound⟩ := Option.isSome_iff_exists.mp h
  cases hr : t.find? (key r) with
  | none =>
    rw [find?_insert_of_some (upsert_of_none hr) hfound]
    rfl
  | some r' =>
    rw [upsert_of_some hr, find?_update, hfound]
    rfl

theorem mem_upsert (h : r' ∈ (t.upsert r f hf).rows) :
    r' = r ∨ ∃ old ∈ t.rows, key old = key r' ∧ (r' = old ∨ r' = f old) := by
  cases hr : t.find? (key r) with
  | none =>
    rcases (mem_insert (upsert_of_none hr)).mp h with hold | rfl
    · exact .inr ⟨r', hold, rfl, .inl rfl⟩
    · exact .inl rfl
  | some found =>
    rw [upsert_of_some hr] at h
    obtain ⟨old, hold, hkey, hself, hother⟩ := exists_of_mem_update h
    refine .inr ⟨old, hold, hkey, ?_⟩
    by_cases hk : key old = key r
    · exact .inr (hself hk)
    · exact .inl (hother hk)

theorem countP_key_eq_one (h : (t.find? k).isSome) : (t.rows.countP fun r ↦ key r = k) = 1 := by
  obtain ⟨found, hfound⟩ := Option.isSome_iff_exists.mp h
  obtain ⟨hmem, hkey⟩ := find?_eq_some.mp hfound
  calc (t.rows.countP fun r ↦ key r = k)
      = (t.rows.map key).count k := by
        rw [count, countP_map]
        rfl
    _ = 1 := count_eq_one_of_mem t.nodup (mem_map.mpr ⟨found, hmem, hkey⟩)

end Table

/-! ### Loops -/

section Loop

variable {α : Type u} {β : Type v} {f : β → α → β} {P : β → Prop} {l : List α} {a : α}

/-- **What one turn brings about and none undoes** holds when the loop is done. -/
theorem foldl_reaches (ha : a ∈ l) (hreach : ∀ b, P (f b a)) (hkeep : ∀ x ∈ l, ∀ b, P b → P (f b x))
    (b : β) : P (l.foldl f b) := by
  induction l generalizing b with
  | nil => exact absurd ha List.not_mem_nil
  | cons x l ih =>
    have hkeep' : ∀ y ∈ l, ∀ b, P b → P (f b y) := fun y hy ↦
      hkeep y (List.mem_cons_of_mem x hy)
    rcases List.mem_cons.mp ha with rfl | ha
    · exact List.foldlRecOn l f (hreach b) fun b hb y hy ↦ hkeep' y hy b hb
    · exact ih ha hkeep' (f b x)

end Loop
