import UInventario.Inventory.Balances
import UInventario.Inventory.Journal

/-!
# What an operation does to the stock

An operation touches the stock in three ways only: it opens a balance, it rewrites a balance, and it
posts a movement; beside them it may change the documents that hold stock back. `StockWrite` is one
such write, and `StockWrites s writes s'` says that `writes`, in this order, lead from `s` to `s'`;
other documents may be written in between.

A quantity that a write changes by an amount of its own is then changed by the sum of these amounts:
the content of a bucket (`StockWrites.bucket`) and any measure of the commitments
(`StockWrites.measure`).
-/

namespace UInventario

open Outcome Table List

/-- **One write to the stock.** -/
inductive StockWrite
  | opened (productId locationId : Uuid)
  | balance (productId locationId : Uuid) (change : Buckets)
  | post (n : NewMovement) (tracking : Tracking)
  | commit (before after : Commitments)

structure KeepsStock (s s' : Store) : Prop where
  store_eq : s' = { s with
    purchaseReceiptLines := s'.purchaseReceiptLines, purchaseReturnLines := s'.purchaseReturnLines,
    saleReturnLines := s'.saleReturnLines, documents := s'.documents }
  commitments_eq : s'.documents.toCommitments = s.documents.toCommitments

theorem KeepsStock.documents (s : Store) (documents : Documents)
    (h : documents.toCommitments = s.documents.toCommitments) :
    KeepsStock s { s with documents := documents } := ⟨rfl, h⟩

/-- **The writes that lead from one store to another**, in order. -/
inductive StockWrites (s : Store) : List StockWrite → Store → Prop
  | done : StockWrites s [] s
  | opened {writes : List StockWrite} {s₁ : Store} (h : StockWrites s writes s₁)
      (productId locationId : Uuid) :
      StockWrites s (writes ++ [.opened productId locationId])
        (ensureBalance s₁ productId locationId)
  | balance {writes : List StockWrite} {s₁ s₂ : Store} {b b' : Balance}
      (h : StockWrites s writes s₁) (hfind : s₁.balance? b'.productId b'.locationId = some b)
      (hupdate : updateBalance s₁ b' = .ok s₂) :
      StockWrites s (writes ++ [.balance b'.productId b'.locationId (b.change b')]) s₂
  | post {writes : List StockWrite} {s₁ s₂ : Store} {n : NewMovement} {tracking : Tracking}
      (h : StockWrites s writes s₁) (p : Posting s₁ n tracking s₂) :
      StockWrites s (writes ++ [.post n tracking]) s₂
  | commit {writes : List StockWrite} {s₁ : Store} (h : StockWrites s writes s₁)
      (after : Commitments) :
      StockWrites s (writes ++ [.commit s₁.documents.toCommitments after])
        { s₁ with documents := { s₁.documents with toCommitments := after } }
  | document {writes : List StockWrite} {s₁ s₂ : Store} (h : StockWrites s writes s₁)
      (hkeeps : KeepsStock s₁ s₂) : StockWrites s writes s₂

variable {tracking : Tracking} {n : NewMovement} {locationId productId : Uuid} {b' b : Balance}

namespace StockWrites

variable {s s₁ s₂ s' : Store} {writes writes' : List StockWrite}

theorem trans (h : StockWrites s writes s₁) (h' : StockWrites s₁ writes' s') :
    StockWrites s (writes ++ writes') s' := by
  induction h' with
  | done => rwa [append_nil]
  | opened _ productId locationId ih =>
    rw [← append_assoc]
    exact ih.opened productId locationId
  | balance _ hfind hupdate ih =>
    rw [← append_assoc]
    exact ih.balance hfind hupdate
  | post _ p ih =>
    rw [← append_assoc]
    exact ih.post p
  | commit _ after ih =>
    rw [← append_assoc]
    exact ih.commit after
  | document _ hkeeps ih => exact ih.document hkeeps

theorem updated (change : Buckets)
    (h : StockWrites s writes s₁) (hfind : s₁.balance? productId locationId = some b)
    (hupdate : updateBalance s₁ b' = .ok s₂)
    (hkey : (b'.productId, b'.locationId) = (b.productId, b.locationId))
    (hchange : b.change b' = change) :
    StockWrites s (writes ++ [.balance productId locationId change]) s₂ := by
  have hpair : (b.productId, b.locationId) = (productId, locationId) := key_of_find? hfind
  obtain ⟨hproduct, hlocation⟩ := Prod.mk.inj (hkey.trans hpair)
  subst hproduct hlocation hchange
  exact h.balance hfind hupdate

theorem posted (h : StockWrites s writes s₁) (hpost : postMovement s₁ n tracking = .ok s₂) :
    StockWrites s (writes ++ [.post n tracking]) s₂ := by
  obtain ⟨p⟩ := postMovement_eq_ok hpost
  exact h.post p

end StockWrites

/-! ### Balances -/

def Store.BalancesValid (s : Store) : Prop :=
  ∀ b ∈ s.balances.rows, b.Valid
deriving Decidable

def Store.bucket (s : Store) (state : StockState) (productId locationId : Uuid) : ℤ :=
  ((s.balance? productId locationId).map fun b ↦ b.state state).getD 0

variable {s : Store}

theorem Store.bucket_of_find? (h : s.balance? productId locationId = some b) (state : StockState) :
    s.bucket state productId locationId = b.state state := by
  rw [bucket, h]
  rfl

variable {s' : Store}

theorem Posting.balances_eq (p : Posting s n tracking s') : s'.balances = s.balances := by
  rw [p.store_eq]

theorem KeepsStock.balances_eq (h : KeepsStock s s') : s'.balances = s.balances := by
  rw [h.store_eq]

theorem ensureBalance_movements (s : Store) (productId locationId : Uuid) :
    (ensureBalance s productId locationId).movements = s.movements := by
  rw [ensureBalance_eq]

theorem rows_ensureBalance (s : Store) (productId locationId : Uuid) :
    (ensureBalance s productId locationId).balances.rows = s.balances.rows ∨
      (ensureBalance s productId locationId).balances.rows =
        s.balances.rows ++ [.opened productId locationId] := by
  rw [ensureBalance]
  split
  · exact Or.inl rfl
  case h_2 balances hinsert => exact Or.inr (insert_eq_some hinsert).2

theorem balance?_updateBalance
    (hfind : s.balance? b'.productId b'.locationId = some b) (h : updateBalance s b' = .ok s') :
    s'.balance? b'.productId b'.locationId = some b' := by
  obtain ⟨-, rfl⟩ := updateBalance_eq_ok h
  have hkey : (b.productId, b.locationId) = (b'.productId, b'.locationId) :=
    key_of_find? hfind
  obtain ⟨hproduct, hlocation⟩ := Prod.mk.inj hkey
  rw [Store.balance?, find?_update_self,
    show s.balances.find? (b'.productId, b'.locationId) = some b from hfind, Option.map_some,
    Balance.written, hproduct, hlocation]

theorem balance?_updateBalance_of_ne (h : updateBalance s b' = .ok s')
    (hne : (productId, locationId) ≠ (b'.productId, b'.locationId)) :
    s'.balance? productId locationId = s.balance? productId locationId := by
  obtain ⟨-, rfl⟩ := updateBalance_eq_ok h
  show (s.balances.update _ b'.written).find? _ = _
  rw [find?_update_of_ne hne]
  rfl

def StockWrite.bucket (state : StockState) (productId locationId : Uuid) : StockWrite → ℤ
  | .balance productId' locationId' change =>
    if productId' = productId ∧ locationId' = locationId then change.state state else 0
  | _ => 0

/-- `SUM(quantity_change)` of the movements whose product and location `w` selects. -/
def Store.moved (s : Store) (w : Uuid → Uuid → Bool) : ℤ :=
  s.movements.total fun m ↦ if w m.productId m.locationId then m.quantityChange else 0

theorem Store.moved_congr (h : s'.movements = s.movements) (w : Uuid → Uuid → Bool) :
    s'.moved w = s.moved w :=
  congrArg (fun t : Table Movement ↦
    t.total fun m ↦ if w m.productId m.locationId then m.quantityChange else 0) h

theorem Posting.moved_eq (p : Posting s n tracking s') (w : Uuid → Uuid → Bool) :
    s'.moved w = s.moved w + if w n.productId n.locationId then n.quantityChange else 0 := by
  rw [Store.moved, total_of_rows_append p.journal, p.row_productId, p.row_locationId,
    p.row_quantityChange]
  rfl

/-- The content of one bucket over the pairs of product and location that `w` selects. -/
def Store.held (s : Store) (state : StockState) (w : Uuid → Uuid → Bool) : ℤ :=
  s.balances.total fun b ↦ if w b.productId b.locationId then b.state state else 0

/-- `SUM(quantity)` over the pairs of product and location that `w` selects. -/
def Store.heldQuantity (s : Store) (w : Uuid → Uuid → Bool) : ℤ :=
  s.balances.total fun b ↦ if w b.productId b.locationId then b.quantity else 0

theorem Store.BalancesValid.heldQuantity_eq (hs : s.BalancesValid) (w : Uuid → Uuid → Bool) :
    s.heldQuantity w =
      s.held .AVAILABLE w + s.held .RESERVED w + s.held .DAMAGED w + s.held .IN_TRANSIT w := by
  simp only [heldQuantity, held, ← total_add]
  refine total_congr fun b hb ↦ ?_
  split
  · exact (hs b hb).reconcile
  · rfl

def StockWrite.held (state : StockState) (w : Uuid → Uuid → Bool) : StockWrite → ℤ
  | .balance productId locationId change =>
    if w productId locationId then change.state state else 0
  | _ => 0

def StockWrite.measure (μ : Commitments → ℤ) : StockWrite → ℤ
  | .commit before after => μ after - μ before
  | _ => 0

namespace StockWrites

variable {s s' : Store} {writes : List StockWrite}

section

variable (h : StockWrites s writes s') {before after : Commitments}
include h

theorem balancesValid (hs : s.BalancesValid) : s'.BalancesValid := by
  induction h with
  | done => exact hs
  | opened _ productId locationId ih =>
    intro b hb
    rcases rows_ensureBalance _ productId locationId with hrows | hrows
    · exact ih b (hrows ▸ hb)
    · rw [hrows, mem_append, mem_singleton] at hb
      rcases hb with hb | rfl
      · exact ih b hb
      · exact Balance.opened_valid _ _
  | @balance _ s₁ _ b b' _ hfind hupdate ih =>
    obtain ⟨hvalid, rfl⟩ := updateBalance_eq_ok hupdate
    refine forall_mem_update (fun _ ↦ by rfl) ih fun r _ _ ↦
      ⟨hvalid.quantity_nonneg, fun state ↦ ?_, hvalid.reconcile⟩
    cases state
    · exact hvalid.state_nonneg .AVAILABLE
    · exact hvalid.state_nonneg .RESERVED
    · exact hvalid.state_nonneg .DAMAGED
    · exact hvalid.state_nonneg .IN_TRANSIT
  | post _ p ih =>
    intro b hb
    rw [p.balances_eq] at hb
    exact ih b hb
  | commit _ _ ih => exact ih
  | document _ hkeeps ih =>
    intro b hb
    rw [hkeeps.balances_eq] at hb
    exact ih b hb

/-- **A bucket moves by the amounts of the writes.** -/
theorem bucket (state : StockState) (productId locationId : Uuid) :
    s'.bucket state productId locationId = s.bucket state productId locationId +
      (writes.map (StockWrite.bucket state productId locationId)).sum := by
  induction h with
  | done => simp
  | @opened _ s₁ _ productId' locationId' ih =>
    rw [map_append, sum_append, ← add_assoc, ← ih]
    have hsame : (ensureBalance s₁ productId' locationId').bucket state productId locationId =
        s₁.bucket state productId locationId := by
      by_cases hkey : (productId, locationId) = (productId', locationId')
      · obtain ⟨rfl, rfl⟩ := Prod.mk.inj hkey
        rw [Store.bucket, Store.bucket, balance?_ensureBalance_self]
        cases s₁.balance? productId locationId with
        | none => cases state <;> rfl
        | some b => rfl
      · rw [Store.bucket, Store.bucket, balance?_ensureBalance_of_ne hkey]
    simp [hsame, StockWrite.bucket]
  | @balance _ s₁ s₂ b b' _ hfind hupdate ih =>
    rw [map_append, sum_append, ← add_assoc, ← ih, map_singleton,
      sum_singleton, StockWrite.bucket]
    by_cases hkey : (productId, locationId) = (b'.productId, b'.locationId)
    · obtain ⟨rfl, rfl⟩ := Prod.mk.inj hkey
      rw [if_pos ⟨rfl, rfl⟩, Store.bucket_of_find? (balance?_updateBalance hfind hupdate),
        Store.bucket_of_find? hfind, Balance.state_change]
      ring
    · rw [if_neg fun h ↦ hkey (by rw [h.1, h.2]), add_zero, Store.bucket, Store.bucket,
        balance?_updateBalance_of_ne hupdate hkey]
  | post _ p ih =>
    rw [map_append, sum_append, ← add_assoc, ← ih, Store.bucket, Store.bucket,
      Store.balance?, Store.balance?, p.balances_eq]
    simp [StockWrite.bucket]
  | commit _ after ih =>
    rw [map_append, sum_append, ← add_assoc, ← ih]
    exact (add_zero _).symm
  | document _ hkeeps ih =>
    rw [← ih, Store.bucket, Store.bucket, Store.balance?, Store.balance?, hkeeps.balances_eq]

/-- **The content of a bucket over many rows moves by the amounts of the writes.** -/
theorem held (state : StockState) (w : Uuid → Uuid → Bool) :
    s'.held state w = s.held state w + (writes.map (StockWrite.held state w)).sum := by
  induction h with
  | done => simp
  | @opened _ s₁ _ productId locationId ih =>
    rw [map_append, sum_append, ← add_assoc, ← ih, Store.held, Store.held, Table.total,
      Table.total]
    rcases rows_ensureBalance s₁ productId locationId with hrows | hrows
    · rw [hrows]
      simp [StockWrite.held]
    · rw [hrows]
      cases state <;> simp [StockWrite.held, Balance.opened, Balance.state]
  | @balance _ s₁ s₂ b b' _ hfind hupdate ih =>
    rw [map_append, sum_append, ← add_assoc, ← ih, map_singleton,
      sum_singleton, StockWrite.held]
    have hkey : (b.productId, b.locationId) = (b'.productId, b'.locationId) :=
      key_of_find? hfind
    obtain ⟨hproduct, hlocation⟩ := Prod.mk.inj hkey
    obtain ⟨-, rfl⟩ := updateBalance_eq_ok hupdate
    show (s₁.balances.update _ b'.written).total _ = s₁.balances.total _ + _
    rw [total_update _ hfind, Balance.state_change]
    have hwritten : (b'.written b).state state = b'.state state := by
      cases state <;> rfl
    rw [hwritten, Balance.written, hproduct, hlocation]
    split
    · rfl
    · rw [sub_zero]
  | post _ p ih =>
    rw [map_append, sum_append, ← add_assoc, ← ih, Store.held, Store.held, p.balances_eq]
    exact (add_zero _).symm
  | commit _ after ih =>
    rw [map_append, sum_append, ← add_assoc, ← ih]
    exact (add_zero _).symm
  | document _ hkeeps ih => rw [← ih, Store.held, Store.held, hkeeps.balances_eq]

/-- **A property of the commitments that every commitment of the writes keeps** holds in the end. -/
theorem commitments_induct {P : Commitments → Prop} (hP : P s.documents.toCommitments)
    (hstep : ∀ before after, StockWrite.commit before after ∈ writes → P before → P after) :
    P s'.documents.toCommitments := by
  induction h with
  | done => exact hP
  | opened _ productId locationId ih =>
    rw [ensureBalance_eq]
    exact ih fun before after hmem ↦ hstep before after (mem_append_left _ hmem)
  | balance _ _ hupdate ih =>
    obtain ⟨-, rfl⟩ := updateBalance_eq_ok hupdate
    exact ih fun before after hmem ↦ hstep before after (mem_append_left _ hmem)
  | post _ p ih =>
    rw [p.store_eq]
    exact ih fun before after hmem ↦ hstep before after (mem_append_left _ hmem)
  | commit _ after ih =>
    exact hstep _ after (mem_append_right _ (mem_singleton_self _))
      (ih fun before after hmem ↦ hstep before after (mem_append_left _ hmem))
  | document _ hkeeps ih =>
    rw [hkeeps.commitments_eq]
    exact ih hstep

theorem commitments_eq (hnone : ∀ before after, StockWrite.commit before after ∉ writes) :
    s'.documents.toCommitments = s.documents.toCommitments :=
  h.commitments_induct (P := fun c ↦ c = s.documents.toCommitments) rfl
    fun before after hmem ↦ absurd hmem (hnone before after)

theorem commit_inv (first : List StockWrite) (hlast : writes = first ++ [.commit before after]) :
    (∃ s₁, StockWrites s first s₁ ∧ s₁.documents.toCommitments = before) ∧
      s'.documents.toCommitments = after := by
  induction h with
  | done =>
    have := congrArg List.length hlast
    simp at this
  | opened _ _ _ _ | balance _ _ _ _ | post _ _ _ =>
    have := (append_inj' hlast rfl).2
    simp at this
  | @commit writes₁ s₁ hwrites after' _ =>
    obtain ⟨rfl, hsame⟩ := append_inj' hlast rfl
    simp only [List.cons.injEq, StockWrite.commit.injEq, and_true] at hsame
    exact ⟨⟨s₁, hwrites, hsame.1⟩, hsame.2⟩
  | document _ hkeeps ih =>
    rw [hkeeps.commitments_eq]
    exact ih hlast

theorem commitments_of_last
    (first : List StockWrite) (hlast : writes = first ++ [.commit before after]) :
    s'.documents.toCommitments = after :=
  (h.commit_inv first hlast).2

/-- **A measure of the commitments moves by the amounts of the writes.** -/
theorem measure (μ : Commitments → ℤ) : μ s'.documents.toCommitments = μ s.documents.toCommitments +
      (writes.map (StockWrite.measure μ)).sum := by
  induction h with
  | done => simp
  | opened _ productId locationId ih =>
    rw [map_append, sum_append, ← add_assoc, ← ih, ensureBalance_eq]
    simp [StockWrite.measure]
  | balance _ _ hupdate ih =>
    obtain ⟨-, rfl⟩ := updateBalance_eq_ok hupdate
    rw [map_append, sum_append, ← add_assoc, ← ih]
    simp [StockWrite.measure]
  | post _ p ih =>
    rw [map_append, sum_append, ← add_assoc, ← ih, p.store_eq]
    simp [StockWrite.measure]
  | commit _ after ih =>
    rw [map_append, sum_append, ← add_assoc, ← ih]
    simp [StockWrite.measure]
  | document _ hkeeps ih => rw [← ih, hkeeps.commitments_eq]

end

end StockWrites

end UInventario
