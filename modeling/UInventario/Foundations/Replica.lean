import Mathlib.Data.List.Basic
import Mathlib.Data.List.Nodup
import Mathlib.Logic.Function.Basic

/-!
# Replicas and pages

A replica is what a client has been told about a keyed collection. It is brought up to date in two
ways.

* By **changes**, each of which says what there is under one key from now on. Changes that speak of
  one and the same collection (`Tells`) commute, and they are enough exactly when every key on which
  the replica differs is mentioned (`applyAll_eq_iff`).
* By **pages** of a list, cut out by a numeric offset (`page`, `take_add_page`). A list that loses
  elements between two pages still begins with what has been read when none of the lost elements had
  been read (`take_eq_of_sublist`).
-/

universe u v

/-- What a client has under every key. -/
abbrev Replica (κ : Type u) (ε : Type v) := κ → Option ε

namespace Replica

variable {κ : Type u} {ε : Type v} [DecidableEq κ]

/-- **A change**: what there is under a key from now on. -/
structure Change (κ : Type u) (ε : Type v) where
  key : κ
  image : Option ε

def apply (replica : Replica κ ε) (change : Change κ ε) : Replica κ ε :=
  Function.update replica change.key change.image

/-- The changes are applied in their order. -/
def applyAll (replica : Replica κ ε) (changes : List (Change κ ε)) : Replica κ ε :=
  changes.foldl apply replica

variable {replica new : Replica κ ε} {change : Change κ ε} {changes changes' : List (Change κ ε)}
  {k : κ}

@[simp] theorem applyAll_cons :
    replica.applyAll (change :: changes) = (replica.apply change).applyAll changes := rfl

theorem applyAll_append :
    replica.applyAll (changes ++ changes') = (replica.applyAll changes).applyAll changes' :=
  List.foldl_append

@[simp] theorem apply_key : replica.apply change change.key = change.image :=
  Function.update_self _ _ _

theorem apply_of_ne (h : change.key ≠ k) : replica.apply change k = replica k :=
  Function.update_of_ne h.symm _ _

theorem applyAll_of_not_mem (h : ∀ change ∈ changes, change.key ≠ k) :
    replica.applyAll changes k = replica k := by
  induction changes generalizing replica with
  | nil => rfl
  | cons change changes ih =>
    rw [applyAll_cons, ih fun c hc ↦ h c (List.mem_cons_of_mem _ hc)]
    exact apply_of_ne (h change List.mem_cons_self)

/-! ### Listings -/

/-- What a list of entities has under every key. -/
def listing (key : ε → κ) (entities : List ε) : Replica κ ε :=
  fun k ↦ entities.find? fun e ↦ key e = k

variable {key : ε → κ} {entities entities' : List ε} {e : ε}

theorem mem_of_listing (h : listing key entities k = some e) : e ∈ entities ∧ key e = k := by
  have hkey := List.find?_some h
  exact ⟨List.mem_of_find?_eq_some h, of_decide_eq_true hkey⟩

/-- A list in which no two entities have one key is what it has under every key. -/
theorem listing_eq_some (hunique : ∀ e ∈ entities, ∀ e' ∈ entities, key e = key e' → e = e') :
    listing key entities k = some e ↔ e ∈ entities ∧ key e = k := by
  refine ⟨mem_of_listing, ?_⟩
  rintro ⟨he, rfl⟩
  cases hfind : listing key entities (key e) with
  | none =>
    have hnone := List.find?_eq_none.mp hfind e he
    exact absurd (decide_eq_true rfl) hnone
  | some e' =>
    obtain ⟨he', hkey⟩ := mem_of_listing hfind
    rw [hunique e' he' e he hkey]

theorem listing_eq_none : listing key entities k = none ↔ ∀ e ∈ entities, key e ≠ k := by
  simp [listing]

/-! ### Changes about one collection -/

/-- Every change says what the collection `new` has under its key. -/
def Tells (changes : List (Change κ ε)) (new : Replica κ ε) : Prop :=
  ∀ change ∈ changes, change.image = new change.key

omit [DecidableEq κ] in
theorem Tells.of_cons (h : Tells (change :: changes) new) :
    change.image = new change.key ∧ Tells changes new :=
  ⟨h change List.mem_cons_self, fun c hc ↦ h c (List.mem_cons_of_mem _ hc)⟩

section

variable (h : Tells changes new)
include h

omit [DecidableEq κ] in
theorem Tells.subset (hsub : changes' ⊆ changes) : Tells changes' new :=
  fun change hchange ↦ h change (hsub hchange)

/-- A key of the replica that agrees with the collection still does after changes that tell it. -/
theorem Tells.applyAll_of_eq (hk : replica k = new k) :
    replica.applyAll changes k = new k := by
  induction changes generalizing replica with
  | nil => exact hk
  | cons change changes ih =>
    obtain ⟨hchange, hchanges⟩ := h.of_cons
    refine ih hchanges ?_
    by_cases hkey : change.key = k
    · subst hkey
      rw [apply_key, hchange]
    · rw [apply_of_ne hkey, hk]

/-- A key that is mentioned agrees with the collection afterwards. -/
theorem Tells.applyAll_of_mem (hmem : change ∈ changes) :
    replica.applyAll changes change.key = new change.key := by
  induction changes generalizing replica with
  | nil => exact absurd hmem List.not_mem_nil
  | cons c changes ih =>
    obtain ⟨hc, hchanges⟩ := h.of_cons
    rcases List.mem_cons.mp hmem with rfl | hmem
    · exact hchanges.applyAll_of_eq (by rw [apply_key, hc])
    · exact ih hchanges hmem

/-- **Changes that tell a collection bring a replica up to date if and only if they mention every
key on which it differs.** -/
theorem Tells.applyAll_eq_iff :
    replica.applyAll changes = new ↔ ∀ k, replica k = new k ∨ ∃ c ∈ changes, c.key = k := by
  constructor
  · intro heq k
    by_cases hk : ∃ c ∈ changes, c.key = k
    · exact .inr hk
    · left
      rw [← heq, applyAll_of_not_mem fun c hc hkey ↦ hk ⟨c, hc, hkey⟩]
  · intro hall
    funext k
    rcases hall k with hk | ⟨c, hc, rfl⟩
    · exact h.applyAll_of_eq hk
    · exact h.applyAll_of_mem hc

end

end Replica

/-! ### Pages -/

section Pages

variable {α : Type u} {l l' : List α}

/-- `slice(offset, offset + size)`. -/
def page (l : List α) (offset size : ℕ) : List α :=
  (l.drop offset).take size

theorem mem_of_mem_page {offset size : ℕ} {a : α} (h : a ∈ page l offset size) : a ∈ l :=
  List.mem_of_mem_drop (List.mem_of_mem_take h)

/-- **A page continues what has been read before it.** -/
theorem take_add_page (offset size : ℕ) :
    l.take (offset + (page l offset size).length) = l.take offset ++ page l offset size := by
  rw [List.take_add]
  congr 1
  rw [page, List.length_take, List.take_eq_take_iff, Nat.min_assoc, Nat.min_self]

/-- What is left to read is the page and what is left after it. -/
theorem page_append_drop (offset size : ℕ) :
    page l offset size ++ l.drop (offset + (page l offset size).length) = l.drop offset := by
  have hlist := List.take_append_drop (offset + (page l offset size).length) l
  rw [take_add_page, List.append_assoc] at hlist
  exact List.append_cancel_left (hlist.trans (List.take_append_drop offset l).symm)

theorem page_map {β : Type v} (f : α → β) (offset size : ℕ) :
    page (l.map f) offset size = (page l offset size).map f := by
  rw [page, page, List.map_take, List.map_drop]

/-- **A list that loses only elements not yet read begins with what has been read.** -/
theorem take_eq_of_sublist (h : l'.Sublist l) (hl : l.Nodup) (n : ℕ)
    (hmem : ∀ a ∈ l.take n, a ∈ l') : l'.take n = l.take n := by
  induction h generalizing n with
  | slnil => rfl
  | @cons l' l a h ih =>
    cases n with
    | zero => rfl
    | succ n =>
      -- the first element has been read and is not lost, so it is not the one left out
      have ha : a ∈ l' := hmem a (by rw [List.take_succ_cons]; exact List.mem_cons_self)
      exact absurd (h.subset ha) (List.nodup_cons.mp hl).1
  | @cons_cons l' l a h ih =>
    cases n with
    | zero => rfl
    | succ n =>
      obtain ⟨ha, hl⟩ := List.nodup_cons.mp hl
      rw [List.take_succ_cons, List.take_succ_cons, ih hl n]
      intro b hb
      have hne : b ≠ a := fun hba ↦ ha (hba ▸ List.mem_of_mem_take hb)
      have hb' := hmem b (by rw [List.take_succ_cons]; exact List.mem_cons_of_mem _ hb)
      exact (List.mem_cons.mp hb').resolve_left hne

end Pages

/-- **A key that agrees or is still to come does so after a page.** -/
theorem Replica.Tells.applyAll_page {κ : Type u} {ε : Type v} [DecidableEq κ]
    {replica new : Replica κ ε} {changes : List (Change κ ε)} {k : κ} (h : Tells changes new)
    (offset size : ℕ) (hk : replica k = new k ∨ ∃ c ∈ changes.drop offset, c.key = k) :
    replica.applyAll (page changes offset size) k = new k ∨
      ∃ c ∈ changes.drop (offset + (page changes offset size).length), c.key = k := by
  have hpage : Tells (page changes offset size) new := h.subset fun c hc ↦ mem_of_mem_page hc
  rcases hk with hk | ⟨c, hc, rfl⟩
  · exact .inl (hpage.applyAll_of_eq hk)
  · rw [← page_append_drop offset size, List.mem_append] at hc
    rcases hc with hc | hc
    · exact .inl (hpage.applyAll_of_mem hc)
    · exact .inr ⟨c, hc, rfl⟩
